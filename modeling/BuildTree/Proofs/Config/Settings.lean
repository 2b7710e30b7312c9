import BuildTree.Proofs.Config.Batch
import BuildTree.Proofs.Text.Fields

/-!
# Settings as deltas

Settings are nested by the dots in their keys as if each of them, in order, had been laid over the empty record as a
delta that has its value at the end of one path and nothing else. A later setting whose key is a part of an earlier one
covers it, and one whose key goes on behind it puts a record in its place; all others leave it alone.
-/

namespace BuildTree

namespace Text

theorem fields_eq_splitOn (sep : Char) (cs : List Char) : fields sep cs = cs.splitOn sep := by
  induction cs with
  | nil => simp [fields]
  | cons c cs ih =>
    have hstep : (c :: cs).splitOn sep =
        if c == sep then [] :: cs.splitOn sep else (cs.splitOn sep).modifyHead (c :: ·) :=
      List.splitOnP_cons_eq_if_modifyHead _ _
    obtain ⟨field, more, hfields⟩ := List.exists_cons_of_ne_nil (fields_ne_nil sep cs)
    rw [hstep, ← ih, fields, hfields]
    by_cases h : c = sep <;> simp [h]

/-- The pieces of a text, joined by what it was cut at, are the text. -/
theorem intercalate_splitFields (s : String) : String.intercalate "." (splitFields '.' s) = s := by
  rw [← String.toList_inj, String.toList_intercalate, splitFields, List.map_map]
  have hid : String.toList ∘ String.ofList = id := funext fun cs => String.toList_ofList
  rw [hid, List.map_id, fields_eq_splitOn]
  exact List.intercalate_splitOn '.'

theorem splitFields_ne_nil (sep : Char) (s : String) : splitFields sep s ≠ [] := by
  simp [splitFields, fields_ne_nil]

end Text

namespace Config
variable {ρ : Type}

/-- The longer key goes on behind the other one with a dot. -/
def DottedPrefix (key longer : String) : Prop :=
  (key ++ ".").toList <+: longer.toList

instance (key longer : String) : Decidable (DottedPrefix key longer) := inferInstanceAs (Decidable (_ <+: _))

theorem components_ne_nil (key : String) : components key ≠ [] := by
  simp [components, Text.splitFields_ne_nil]

theorem components_inj {key other : String} (h : components key = components other) : key = other := by
  have hfields : Text.splitFields '.' key = Text.splitFields '.' other :=
    List.map_injective_iff.mpr (fun _ _ => Key.text.inj) h
  rw [← Text.intercalate_splitFields key, hfields, Text.intercalate_splitFields]

theorem dottedPrefix_iff {key longer : String} (h : key ≠ longer) :
    DottedPrefix key longer ↔ components key <+: components longer := by
  rw [components, components, List.prefix_map_iff_of_injective fun _ _ => Key.text.inj]
  constructor
  · rintro ⟨rest, hrest⟩
    refine ⟨(Text.fields '.' rest).map String.ofList, ?_⟩
    have hchars : longer.toList = key.toList ++ '.' :: rest := by simpa using hrest.symm
    rw [Text.splitFields, Text.splitFields, hchars, Text.fields_append_sep, List.map_append]
  · rintro ⟨rest, hrest⟩
    have hlonger := Text.intercalate_splitFields longer
    rw [← hrest] at hlonger
    have hne : rest ≠ [] := by
      rintro rfl
      rw [List.append_nil, Text.intercalate_splitFields] at hlonger
      exact h hlonger
    rw [String.intercalate_append_of_ne_nil (Text.splitFields_ne_nil '.' key) hne, Text.intercalate_splitFields]
      at hlonger
    exact ⟨_, by rw [← hlonger, String.toList_append (s := key ++ ".")]⟩

theorem getBelow?_append (above path : List Key) (value : Value ρ) :
    getBelow? (above ++ path) value = (getBelow? above value).bind (getBelow? path) := by
  induction above generalizing value with
  | nil => rfl
  | cons key above ih =>
    have hbelow : getBelow? (above ++ path) = fun v => (getBelow? above v).bind (getBelow? path) :=
      funext fun v : Value ρ => ih v
    rw [List.cons_append, getBelow?_cons, getBelow?_cons, Option.bind_assoc, hbelow]

/-- The record that has a value at the end of a path and nothing else. -/
def single (value : Value ρ) : List Key → Value ρ
  | [] => value
  | part :: rest => .record [(part, single value rest)]

section Single
variable {value : Value ρ}

theorem data_single (h : value.Data) (parts : List Key) : (single value parts).Data := by
  induction parts with
  | nil => exact h
  | cons part rest ih => exact Value.data_record_iff.mpr ⟨List.nodup_singleton part, List.forall_mem_singleton.mpr ih⟩

theorem getBelow?_single_eq_some_iff (h : value.IsPlain) (parts path : List Key) (found : Value ρ) :
    getBelow? path (single value parts) = some found ↔ ∃ rest, parts = path ++ rest ∧ found = single value rest := by
  induction parts generalizing path with
  | nil =>
    rw [single, getBelow?_eq_some_iff_of_not_isRecord h.not_isRecord]
    constructor
    · rintro ⟨rfl, rfl⟩
      exact ⟨[], rfl, rfl⟩
    · rintro ⟨rest, hrest, rfl⟩
      obtain ⟨rfl, rfl⟩ := List.append_eq_nil_iff.mp hrest.symm
      exact ⟨rfl, rfl⟩
  | cons part parts ih =>
    cases path with
    | nil => simp [getBelow?, eq_comm]
    | cons key path =>
      rw [single, getBelow?_cons]
      by_cases hkey : part = key
      · simp [Value.entries, Table.get?, hkey, ih]
      · simp [Value.entries, Table.get?, hkey]

/-- A single path says nothing about paths that neither lead along it nor go on behind it. -/
theorem silent_single (h : value.IsPlain) {parts path : List Key} (hshort : ¬ path <+: parts)
    (hlong : ¬ parts <+: path) : Silent (single value parts) path where
  absent := by
    rw [Option.eq_none_iff_forall_ne_some]
    intro found hfound
    obtain ⟨rest, hrest, _⟩ := (getBelow?_single_eq_some_iff h parts path found).mp hfound
    exact hshort ⟨rest, hrest.symm⟩
  records above habove found hfound := by
    obtain ⟨rest, hrest, rfl⟩ := (getBelow?_single_eq_some_iff h parts above found).mp hfound
    cases rest with
    | nil => exact absurd ((List.append_nil above ▸ hrest) ▸ habove) hlong
    | cons part rest => trivial

theorem nestInto_cons (value : Value ρ) (part next : Key) (rest : List Key) (table : Record ρ) :
    nestInto value (part :: next :: rest) table =
      table.insert part (.record (nestInto value (next :: rest) ((Value.record table).child part).entries)) := by
  rw [nestInto, Value.child, Value.entries]
  cases table.get? part with
  | none => rfl
  | some found => cases found <;> rfl

/-- To put a value at the end of a path is to lay it over what is there. -/
theorem laid_single (h : value.IsPlain) (base : Value ρ) {parts : List Key} (hne : parts ≠ []) :
    laid base (single value parts) = .record (nestInto value parts base.entries) := by
  induction parts generalizing base with
  | nil => exact absurd rfl hne
  | cons part rest ih =>
    have honce : (Table.keys [(part, single value rest)]).Nodup := List.nodup_singleton part
    rw [single, laid_record honce]
    cases rest with
    | nil =>
      rw [laidEntries, single, List.map_singleton, laid_of_isPlain h]
      rfl
    | cons next rest =>
      rw [laidEntries, List.map_singleton, ih _ (List.cons_ne_nil next rest), nestInto_cons]
      rfl

end Single

theorem data_empty : (Value.record [] : Value ρ).Data :=
  ⟨⟨List.nodup_nil, trivial⟩, rfl⟩

theorem isPlain_text (text : String) : (Value.text text : Value ρ).IsPlain := trivial

/-- Settings as values. -/
def asTexts (settings : Table String) : Table (Value ρ) :=
  settings.map fun entry => (entry.1, .text entry.2)

/-- A setting as a delta. -/
def delta (setting : String × String) : Value ρ :=
  single (.text setting.2) (components setting.1)

theorem data_delta (setting : String × String) : (delta setting : Value ρ).Data :=
  data_single (isPlain_text setting.2).data _

/-- What settings make of a configuration, one after the other. -/
def laidAll (base : Value ρ) (settings : Table String) : Value ρ :=
  settings.foldl (fun config setting => laid config (delta setting)) base

theorem laidAll_cons (base : Value ρ) (setting : String × String) (settings : Table String) :
    laidAll base (setting :: settings) = laidAll (laid base (delta setting)) settings := rfl

theorem laidAll_append (base : Value ρ) (settings others : Table String) :
    laidAll base (settings ++ others) = laidAll (laidAll base settings) others :=
  List.foldl_append

theorem foldlM_overlay (base : Value ρ) (settings : Table String) :
    settings.foldlM (fun config setting => overlay config (delta setting)) base = .ok (laidAll base settings) := by
  induction settings generalizing base with
  | nil => rfl
  | cons setting rest ih =>
    rw [List.foldlM_cons, overlay_eq_laid (data_delta setting), laidAll_cons]
    exact ih _

theorem nest_asTexts (settings : Table String) : nest (asTexts settings) = laidAll (.record [] : Value ρ) settings := by
  have hfold : ∀ table : Record ρ, Value.record ((asTexts settings).foldl
      (fun table entry => nestInto entry.2 (components entry.1) table) table) =
        laidAll (.record table) settings := by
    induction settings with
    | nil => exact fun table => rfl
    | cons setting rest ih =>
      intro table
      rw [laidAll_cons, delta, laid_single (isPlain_text _) _ (components_ne_nil setting.1)]
      exact ih _
  exact hfold []

theorem data_laidAll {base : Value ρ} (h : base.Data) (settings : Table String) : (laidAll base settings).Data := by
  induction settings generalizing base with
  | nil => exact h
  | cons setting rest ih => exact ih (data_laid h (data_delta setting))

/-- A configuration that is started by a record of data is that record. -/
theorem start_of_data {initial : Value ρ} (h : initial.Data) (hrecord : initial.IsRecord) :
    start initial = .ok initial := by
  have hsettle : settle initial = .ok initial := by
    have hover : settle initial = overlay .null initial := settleWith_eq _ initial
    rw [hover, overlay_eq_laid h, laid_of_not_isRecord h id]
  cases initial with
  | record entries =>
    cases entries with
    | nil => rfl
    | cons entry rest => exact hsettle
  | _ => exact hrecord.elim

theorem overlaid_single {value : Value ρ} (h : value.IsPlain) (base : Value ρ) (parts : List Key) :
    Overlaid Transform.apply base (single value parts) (laid base (single value parts)) :=
  have hdata := data_single h.data parts
  overlaid_of_overlayWith hdata.once (overlay_eq_laid hdata base)

theorem getBelow?_laid_single_self {value : Value ρ} (h : value.IsPlain) (base : Value ρ) (parts : List Key) :
    getBelow? parts (laid base (single value parts)) = some value :=
  (overlaid_single h base parts).plain parts value
    ((getBelow?_single_eq_some_iff h parts parts _).mpr ⟨[], (List.append_nil parts).symm, rfl⟩) h

/-- What is at the end of a path is still there after another setting just if neither of the two paths goes on behind
the other one. -/
theorem getBelow?_laid_single {value found : Value ρ} (hvalue : value.IsPlain) (hfound : found.IsPlain)
    {parts path : List Key} (hne : path ≠ parts) (base : Value ρ) :
    getBelow? path (laid base (single value parts)) = some found ↔
      getBelow? path base = some found ∧ ¬ path <+: parts ∧ ¬ parts <+: path := by
  have laying := overlaid_single hvalue base parts
  by_cases hshort : path <+: parts
  · refine iff_of_false (fun h => ?_) fun h => h.2.1 hshort
    obtain ⟨rest, rfl⟩ := hshort
    have hrecord := (getBelow?_single_eq_some_iff hvalue _ path _).mpr ⟨rest, rfl, rfl⟩
    cases rest with
    | nil => exact hne (List.append_nil path).symm
    | cons part rest =>
      obtain ⟨table, htable, _⟩ := laying.keys path _ hrecord
      cases h.symm.trans htable
      exact hfound
  by_cases hlong : parts <+: path
  · refine iff_of_false (fun h => ?_) fun h => h.2.2 hlong
    obtain ⟨rest, rfl⟩ := hlong
    rw [getBelow?_append, getBelow?_laid_single_self hvalue, Option.bind_some,
      getBelow?_eq_some_iff_of_not_isRecord hvalue.not_isRecord] at h
    exact hne (by rw [h.1, List.append_nil])
  · rw [laying.kept path (silent_single hvalue hshort hlong)]
    simp [hshort, hlong]

theorem getBelow?_laidAll (base : Value ρ) {key : String} {settings : Table String} (hnew : key ∉ settings.keys)
    {found : Value ρ} (hfound : found.IsPlain) :
    getBelow? (components key) (laidAll base settings) = some found ↔ getBelow? (components key) base = some found ∧
        ∀ later ∈ settings.keys, ¬ DottedPrefix later key ∧ ¬ DottedPrefix key later := by
  induction settings generalizing base with
  | nil => simp [laidAll]
  | cons setting rest ih =>
    obtain ⟨later, text⟩ := setting
    obtain ⟨hne, hrest⟩ : key ≠ later ∧ key ∉ Table.keys rest := by simpa using hnew
    have hparts : components key ≠ components later := fun he => hne (components_inj he)
    rw [laidAll_cons, ih _ hrest, delta, getBelow?_laid_single (isPlain_text text) hfound hparts, Table.keys_cons,
      List.forall_mem_cons, dottedPrefix_iff hne, dottedPrefix_iff hne.symm]
    tauto

/-- Settings nest as if each of them, one after the other, had been laid over the empty record as a delta that has its
value at the end of one path. With every key once, the configuration they start has the text of a setting at its key
just if no later key is a part of that key, up to a dot, or the other way round. -/
theorem nest_deltas (settings : Table String) :
    settings.foldlM (fun config setting => overlay config (delta setting)) (.record [] : Value ρ) =
        .ok (nest (asTexts settings)) ∧
      (settings.keys.Nodup → ∃ config : Value ρ, start (nest (asTexts settings)) = .ok config ∧
        ∀ front key text back, settings = front ++ (key, text) :: back →
          (get? config key = some (.text text) ↔
            ∀ later ∈ Table.keys back, ¬ DottedPrefix later key ∧ ¬ DottedPrefix key later)) := by
  have hnest : nest (asTexts settings) = laidAll (.record [] : Value ρ) settings := nest_asTexts settings
  have hdata : (nest (asTexts settings) : Value ρ).Data := hnest ▸ data_laidAll data_empty settings
  refine ⟨by rw [foldlM_overlay, hnest], fun once => ⟨_, start_of_data hdata trivial, ?_⟩⟩
  rintro front key text back rfl
  have hnew : key ∉ Table.keys back := by
    rw [Table.keys_append, Table.keys_cons] at once
    exact (List.nodup_cons.mp (List.nodup_append.mp once).2.1).1
  have hset := getBelow?_laid_single_self (isPlain_text text) (laidAll (.record [] : Value ρ) front)
    (components key)
  rw [get?, hnest, laidAll_append, laidAll_cons, getBelow?_laidAll _ hnew (isPlain_text text), delta, hset]
  simp

/-- Two settings are not there in the end: `cc.path` goes on behind the one, and `ld` covers the other. -/
def toolSettings : Table String :=
  [("cc", "gcc"), ("ld.path", "ld"), ("cc.path", "/usr/bin"), ("ld", "lld"), ("ar..flags", "rc"), ("", "none")]

theorem nest_deltas_tools :
    toolSettings.keys.Nodup ∧ ∃ config : Value Nat, start (nest (asTexts toolSettings)) = .ok config ∧
      get? config "cc" ≠ some (.text "gcc") ∧ get? config "cc.path" = some (.text "/usr/bin") ∧
      get? config "ld.path" ≠ some (.text "ld") ∧ get? config "ld" = some (.text "lld") ∧
      get? config "ar..flags" = some (.text "rc") ∧ get? config "" = some (.text "none") := by
  have once : toolSettings.keys.Nodup := by decide
  obtain ⟨config, hstart, hget⟩ := (nest_deltas toolSettings).2 once
  refine ⟨once, config, hstart, ?_, ?_, ?_, ?_, ?_, ?_⟩
  · exact (hget (toolSettings.take 0) _ _ (toolSettings.drop 1) rfl).not.mpr (by decide +kernel)
  · exact (hget (toolSettings.take 2) _ _ (toolSettings.drop 3) rfl).mpr (by decide +kernel)
  · exact (hget (toolSettings.take 1) _ _ (toolSettings.drop 2) rfl).not.mpr (by decide +kernel)
  · exact (hget (toolSettings.take 3) _ _ (toolSettings.drop 4) rfl).mpr (by decide +kernel)
  · exact (hget (toolSettings.take 4) _ _ (toolSettings.drop 5) rfl).mpr (by decide +kernel)
  · exact (hget (toolSettings.take 5) _ _ (toolSettings.drop 6) rfl).mpr (by decide +kernel)

end Config
end BuildTree
