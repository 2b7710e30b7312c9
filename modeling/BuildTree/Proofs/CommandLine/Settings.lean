import BuildTree.CommandLine.Request
import BuildTree.Proofs.Table

/-!
# Settings as words

The settings that words give have every key once, and a key is never empty, holds no equals sign and begins with no
dash. Such settings are words again, and these words give the same settings in the same order.
-/

namespace BuildTree.CommandLine

/-- A key that a word can give. -/
structure SettingKey (key : String) : Prop where
  notEmpty : key ≠ ""
  noEquals : '=' ∉ key.toList
  noDash : key.toList.head? ≠ some '-'

/-- Settings that words can give. -/
structure Spelt (settings : Table String) : Prop where
  keys : ∀ key ∈ settings.keys, SettingKey key
  once : settings.keys.Nodup

/-- A setting as a word. -/
def settingWord (entry : String × String) : String :=
  entry.1 ++ "=" ++ entry.2

theorem toList_settingWord (entry : String × String) :
    (settingWord entry).toList = entry.1.toList ++ '=' :: entry.2.toList := by
  simp [settingWord]

theorem SettingKey.head?_settingWord {key : String} (h : SettingKey key) (value : String) :
    (settingWord (key, value)).toList.head? = key.toList.head? ∧ key.toList.head? ≠ none := by
  rw [toList_settingWord]
  cases hcs : key.toList with
  | nil => exact absurd (by rw [← String.ofList_toList (s := key), hcs]) h.notEmpty
  | cons c cs => simp

theorem setting?_settingWord {key : String} (h : SettingKey key) (value : String) :
    setting? (settingWord (key, value)) = some (key, value) := by
  have hchars : ∀ c ∈ key.toList, decide (c ≠ '=') = true := fun c hc =>
    decide_eq_true fun he => h.noEquals (he ▸ hc)
  have hsplit : splitAtEquals (settingWord (key, value)).toList = (key.toList, some value.toList) := by
    rw [splitAtEquals, toList_settingWord, List.dropWhile_append_of_pos hchars, List.takeWhile_append_of_pos hchars]
    simp
  have hhead : (settingWord (key, value)).toList.head? ≠ some '-' := by
    rw [(h.head?_settingWord value).1]
    exact h.noDash
  rw [setting?, keyAndValue, hsplit]
  simp only [String.ofList_toList, h.notEmpty, hhead, or_self, if_false]

/-- Settings spelled as words are read back, and nothing is left over. -/
theorem settings_spelt {settings : Table String} (h : Spelt settings) :
    CommandLine.settings (settings.map settingWord) = (settings, []) := by
  have hword : ∀ entry ∈ settings, setting? (settingWord entry) = some entry := fun entry hentry =>
    setting?_settingWord (h.keys entry.1 (List.mem_map_of_mem hentry)) entry.2
  have hread : ∀ entries : Table String, (∀ entry ∈ entries, setting? (settingWord entry) = some entry) →
      (entries.map settingWord).filterMap setting? = entries := by
    intro entries hentries
    induction entries with
    | nil => rfl
    | cons entry rest ih =>
      obtain ⟨hentry, hrest⟩ := List.forall_mem_cons.mp hentries
      rw [List.map_cons, List.filterMap_cons, hentry, ih hrest]
  have hnone : (settings.map settingWord).filter (fun word => (setting? word).isNone) = [] := by
    rw [List.filter_eq_nil_iff]
    intro word hmem
    obtain ⟨entry, hentry, rfl⟩ := List.mem_map.mp hmem
    simp [hword entry hentry]
  rw [CommandLine.settings, hread settings hword, hnone, Table.insertAll_of_nodup [] settings h.once]
  rfl

theorem settingKey_of_setting? {arg key value : String} (h : setting? arg = some (key, value)) : SettingKey key := by
  unfold setting? keyAndValue at h
  cases hsplit : splitAtEquals arg.toList with
  | mk front back =>
    cases back with
    | none => simp [hsplit] at h
    | some after =>
      simp only [hsplit] at h
      split at h
      · cases h
      · next hno =>
        cases h
        simp only [not_or] at hno
        -- the key is what stands in front of the first equals sign
        have hfront : front = arg.toList.takeWhile (· ≠ '=') := by
          unfold splitAtEquals at hsplit
          split at hsplit <;> simp_all
        refine ⟨hno.1, ?_, ?_⟩
        · rw [String.toList_ofList, hfront]
          intro hmem
          have hall := List.all_eq_true.mp (List.all_takeWhile (l := arg.toList) (p := (· ≠ '='))) _ hmem
          simp at hall
        · rw [String.toList_ofList]
          cases hcs : arg.toList with
          | nil => simp [hfront, hcs]
          | cons c cs =>
            have hc : c ≠ '-' := fun he => hno.2 (by rw [hcs, he]; rfl)
            rw [hfront, hcs, List.takeWhile_cons]
            split <;> simp [hc]

/-- Whatever the words are, the settings that they give can be spelled. -/
theorem spelt_settings (args : List String) : Spelt (settings args).1 := by
  have hall : ∀ (entries table : Table String), Spelt table → (∀ entry ∈ entries, SettingKey entry.1) →
      Spelt (table.insertAll entries) := by
    intro entries
    induction entries with
    | nil => exact fun table h _ => h
    | cons entry rest ih =>
      intro table h hentries
      obtain ⟨hentry, hrest⟩ := List.forall_mem_cons.mp hentries
      refine ih (table.insert entry.1 entry.2) ⟨fun key hkey => ?_, Table.nodup_keys_insert h.once _ _⟩ hrest
      rcases (Table.mem_keys_insert_iff table entry.1 key entry.2).mp hkey with rfl | hkey
      · exact hentry
      · exact h.keys key hkey
  refine hall _ [] ⟨fun key hkey => by simp [Table.keys] at hkey, List.nodup_nil⟩ fun entry hentry => ?_
  obtain ⟨arg, _, harg⟩ := List.mem_filterMap.mp hentry
  exact settingKey_of_setting? harg

end BuildTree.CommandLine
