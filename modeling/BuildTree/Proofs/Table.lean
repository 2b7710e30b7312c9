import BuildTree.Table

/-!
# Keys of tables

What inserting does to the keys of a table. A table that is filled by insertion alone has every key once, so its
keys say in which order they came.
-/

namespace BuildTree.Table
variable {α κ : Type}

@[simp] theorem keys_nil : keys ([] : Table α κ) = [] := rfl

@[simp] theorem keys_cons (key : κ) (value : α) (rest : Table α κ) :
    keys ((key, value) :: rest) = key :: keys rest := rfl

@[simp] theorem keys_append (table other : Table α κ) : keys (table ++ other) = keys table ++ keys other :=
  List.map_append

theorem keys_mapWithKey {β : Type} (f : κ → α → β) (table : Table α κ) :
    keys (table.map fun entry => (entry.1, f entry.1 entry.2)) = table.keys := by
  simp [keys, Function.comp_def]

theorem keys_map {β : Type} (f : α → β) (table : Table α κ) : keys (table.map fun (key, value) => (key, f value)) = table.keys :=
  keys_mapWithKey (fun _ => f) table

variable [DecidableEq κ]

theorem get?_insert (table : Table α κ) (key other : κ) (value : α) :
    (table.insert key value).get? other = if other = key then some value else table.get? other := by
  by_cases h : other = key
  · subst h
    simp
  · rw [get?_insert_of_ne table value h, if_neg h]

theorem get?_insertKeys (table : Table α κ) (keys : List κ) (value : α) (key : κ) :
    (table.insertKeys keys value).get? key = if key ∈ keys then some value else table.get? key := by
  induction keys generalizing table with
  | nil => simp [insertKeys]
  | cons k rest ih =>
    have hfold : table.insertKeys (k :: rest) value = (table.insert k value).insertKeys rest value := rfl
    rw [hfold, ih, get?_insert]
    by_cases hrest : key ∈ rest
    · simp [hrest]
    · by_cases hk : key = k <;> simp [hrest, hk]

theorem get?_eq_none_iff (table : Table α κ) (key : κ) : table.get? key = none ↔ key ∉ table.keys := by
  induction table with
  | nil => simp [get?, keys]
  | cons entry rest ih =>
    obtain ⟨k, v⟩ := entry
    by_cases h : k = key
    · simp [get?, keys, h]
    · have h' : key ≠ k := Ne.symm h
      simp only [get?, if_neg h, ih, keys, List.map_cons, List.mem_cons, not_or, h',
        not_false_eq_true, true_and]

theorem mem_keys_iff (table : Table α κ) (key : κ) : key ∈ table.keys ↔ ∃ v, table.get? key = some v := by
  rw [← Option.isSome_iff_exists, ← Option.ne_none_iff_isSome, ne_eq, get?_eq_none_iff, Classical.not_not]

/-- A new key goes to the end. -/
theorem insert_of_notMem (table : Table α κ) {key : κ} (value : α) (h : key ∉ table.keys) :
    table.insert key value = table ++ [(key, value)] := by
  induction table with
  | nil => rfl
  | cons entry rest ih =>
    obtain ⟨k, v⟩ := entry
    simp only [keys, List.map_cons, List.mem_cons, not_or] at h
    simp only [insert, if_neg (Ne.symm h.1), List.cons_append]
    rw [ih h.2]

theorem keys_insert_of_mem (table : Table α κ) {key : κ} (value : α) (h : key ∈ table.keys) :
    (table.insert key value).keys = table.keys := by
  induction table with
  | nil => simp [keys] at h
  | cons entry rest ih =>
    obtain ⟨k, v⟩ := entry
    by_cases hk : k = key
    · simp [insert, keys, hk]
    · have hrest : key ∈ keys rest := by simpa [keys, Ne.symm hk] using h
      have := ih hrest
      simp only [keys] at this ⊢
      simp [insert, hk, this]

theorem mem_keys_insert_iff (table : Table α κ) (key other : κ) (value : α) :
    other ∈ (table.insert key value).keys ↔ other = key ∨ other ∈ table.keys := by
  rw [mem_keys_iff, get?_insert, mem_keys_iff]
  by_cases h : other = key <;> simp [h]

theorem mem_of_mem_insert {table : Table α κ} {key : κ} {value : α} {entry : κ × α}
    (h : entry ∈ table.insert key value) : entry = (key, value) ∨ entry ∈ table := by
  induction table with
  | nil => exact .inl (List.mem_singleton.mp h)
  | cons first rest ih =>
    obtain ⟨k, v⟩ := first
    rw [insert] at h
    split at h
    next hk =>
      rcases List.mem_cons.mp h with h | h
      · exact .inl (hk ▸ h)
      · exact .inr (List.mem_cons_of_mem _ h)
    next =>
      rcases List.mem_cons.mp h with h | h
      · exact .inr (h ▸ List.mem_cons_self)
      · exact (ih h).imp_right (List.mem_cons_of_mem _)

theorem mem_of_mem_insertAll {table entries : Table α κ} {entry : κ × α} (h : entry ∈ table.insertAll entries) :
    entry ∈ entries ∨ entry ∈ table := by
  induction entries generalizing table with
  | nil => exact .inr h
  | cons first rest ih =>
    rcases ih h with hmem | hmem
    · exact .inl (List.mem_cons_of_mem _ hmem)
    · rcases mem_of_mem_insert hmem with he | hmem
      · exact .inl (he ▸ List.mem_cons_self)
      · exact .inr hmem

theorem mem_of_get? {table : Table α κ} {key : κ} {value : α} (h : table.get? key = some value) :
    (key, value) ∈ table := by
  induction table with
  | nil => cases h
  | cons entry rest ih =>
    obtain ⟨k, v⟩ := entry
    rw [get?] at h
    split at h
    next hk =>
      cases h
      exact hk ▸ List.mem_cons_self
    next => exact List.mem_cons_of_mem _ (ih h)

theorem get?_of_mem {table : Table α κ} (once : table.keys.Nodup) {entry : κ × α} (h : entry ∈ table) :
    table.get? entry.1 = some entry.2 := by
  induction table with
  | nil => cases h
  | cons first rest ih =>
    obtain ⟨hnew, hrest⟩ := List.nodup_cons.mp once
    rcases List.mem_cons.mp h with rfl | h
    · simp [get?]
    · have hne : first.1 ≠ entry.1 := fun he => hnew (List.mem_map.mpr ⟨entry, h, he.symm⟩)
      rw [get?, if_neg hne]
      exact ih hrest h

theorem nodup_keys_insert {table : Table α κ} (h : table.keys.Nodup) (key : κ) (value : α) :
    (table.insert key value).keys.Nodup := by
  by_cases hkey : key ∈ table.keys
  · rwa [keys_insert_of_mem table value hkey]
  · rw [insert_of_notMem table value hkey, keys_append]
    refine List.nodup_append.mpr ⟨h, by simp [keys], fun a ha b hb he => hkey ?_⟩
    have hb' : b = key := by simpa [keys] using hb
    rwa [← hb', ← he]

/-- Entries with new keys, each once, go to the end as they are. -/
theorem insertAll_of_nodup (table entries : Table α κ) (h : (keys (table ++ entries)).Nodup) :
    table.insertAll entries = table ++ entries := by
  induction entries generalizing table with
  | nil => simp [insertAll]
  | cons entry rest ih =>
    obtain ⟨k, v⟩ := entry
    have hnew : k ∉ table.keys := fun hk => by
      rw [keys_append] at h
      exact (List.nodup_append.mp h).2.2 k hk k List.mem_cons_self rfl
    have hstep : table.insertAll ((k, v) :: rest) = (table.insert k v).insertAll rest := rfl
    rw [hstep, insert_of_notMem table v hnew, ih _ (by simpa using h), List.append_assoc]
    rfl

@[simp] theorem insert_insert_self (table : Table α κ) (key : κ) (value other : α) :
    (table.insert key value).insert key other = table.insert key other := by
  induction table with
  | nil => simp [insert]
  | cons entry rest ih =>
    obtain ⟨k, v⟩ := entry
    by_cases h : k = key
    · simp [insert, h]
    · simp [insert, h, ih]

@[simp] theorem insertAll_cons (table : Table α κ) (key : κ) (value : α) (rest : Table α κ) :
    table.insertAll ((key, value) :: rest) = (table.insert key value).insertAll rest := rfl

theorem keys_insertAll (table entries : Table α κ) (h : entries.keys.Nodup) :
    (table.insertAll entries).keys = table.keys ++ entries.keys.filter (· ∉ table.keys) := by
  induction entries generalizing table with
  | nil => simp [insertAll, keys]
  | cons entry rest ih =>
    obtain ⟨key, value⟩ := entry
    obtain ⟨hnew, hrest⟩ := List.nodup_cons.mp h
    show ((table.insert key value).insertAll rest).keys = table.keys ++ (key :: keys rest).filter _
    rw [ih _ hrest]
    by_cases hkey : key ∈ table.keys
    · rw [keys_insert_of_mem table value hkey, List.filter_cons_of_neg (by simpa using hkey)]
    · rw [insert_of_notMem table value hkey, keys_append, List.filter_cons_of_pos (by simpa using hkey),
        List.append_assoc]
      refine congrArg _ (congrArg _ (List.filter_congr fun other hother => ?_))
      have hne : other ≠ key := fun he => hnew (he ▸ hother)
      simp [hne]

theorem get?_insertAll (table entries : Table α κ) (h : entries.keys.Nodup) (key : κ) :
    (table.insertAll entries).get? key = (entries.get? key).or (table.get? key) := by
  induction entries generalizing table with
  | nil => rfl
  | cons entry rest ih =>
    obtain ⟨k, v⟩ := entry
    obtain ⟨hnew, hrest⟩ := List.nodup_cons.mp h
    rw [insertAll_cons, ih _ hrest, get?_insert, get?]
    by_cases hk : key = k
    · subst hk
      have hnone : get? rest key = none := (get?_eq_none_iff rest key).mpr hnew
      simp [hnone]
    · simp [hk, Ne.symm hk]

theorem nodup_keys_insertAll {table : Table α κ} (h : table.keys.Nodup) (entries : Table α κ) :
    (table.insertAll entries).keys.Nodup := by
  induction entries generalizing table with
  | nil => exact h
  | cons entry rest ih => exact ih (nodup_keys_insert h entry.1 entry.2)

/-- A table with every key once is told by its keys in order and what they stand for. -/
theorem eq_of_get? {table other : Table α κ} (once : table.keys.Nodup) (hkeys : table.keys = other.keys)
    (hget : ∀ key, table.get? key = other.get? key) : table = other := by
  induction table generalizing other with
  | nil =>
    cases other with
    | nil => rfl
    | cons entry rest => cases hkeys
  | cons entry rest ih =>
    cases other with
    | nil => cases hkeys
    | cons entry' rest' =>
      obtain ⟨key, value⟩ := entry
      obtain ⟨key', value'⟩ := entry'
      obtain ⟨hkey, hrest⟩ : key = key' ∧ keys rest = keys rest' := by simpa using hkeys
      obtain ⟨hnew, honce⟩ := List.nodup_cons.mp once
      subst hkey
      obtain rfl : value = value' := by simpa [get?] using hget key
      refine congrArg _ (ih honce hrest fun k => ?_)
      by_cases hk : key = k
      · subst hk
        rw [(get?_eq_none_iff rest key).mpr hnew, (get?_eq_none_iff rest' key).mpr (hrest ▸ hnew)]
      · simpa [get?, hk] using hget k

/-- A key that is there takes its new value before or after another one is put in. -/
theorem insert_insert_of_mem {table : Table α κ} {key other : κ} (h : key ∈ table.keys) (hne : other ≠ key)
    (value otherValue : α) :
    (table.insert other otherValue).insert key value = (table.insert key value).insert other otherValue := by
  induction table with
  | nil => cases h
  | cons entry rest ih =>
    obtain ⟨k, v⟩ := entry
    by_cases hk : k = key
    · subst hk
      simp [insert, hne.symm]
    · have hrest : key ∈ keys rest := by simpa [keys, Ne.symm hk] using h
      by_cases ho : k = other
      · subst ho
        simp [insert, hk]
      · simp [insert, hk, ho, ih hrest]

theorem insert_insertAll_of_mem {table entries : Table α κ} {key : κ} (h : key ∈ table.keys)
    (hnew : key ∉ entries.keys) (value : α) :
    (table.insertAll entries).insert key value = (table.insert key value).insertAll entries := by
  induction entries generalizing table with
  | nil => rfl
  | cons entry rest ih =>
    obtain ⟨other, otherValue⟩ := entry
    obtain ⟨hne, hrest⟩ : key ≠ other ∧ key ∉ keys rest := by simpa using hnew
    have hmem : key ∈ (table.insert other otherValue).keys := (mem_keys_insert_iff _ _ _ _).mpr (.inr h)
    rw [insertAll_cons, insertAll_cons, ih hmem hrest, insert_insert_of_mem h hne.symm]

theorem insertAll_insert (table entries : Table α κ) (h : entries.keys.Nodup) (key : κ) (value : α) :
    table.insertAll (entries.insert key value) = (table.insertAll entries).insert key value := by
  induction entries generalizing table with
  | nil => rfl
  | cons entry rest ih =>
    obtain ⟨other, otherValue⟩ := entry
    obtain ⟨hnew, hrest⟩ := List.nodup_cons.mp h
    by_cases hk : other = key
    · subst hk
      have hmem : other ∈ (table.insert other otherValue).keys := (mem_keys_insert_iff _ _ _ _).mpr (.inl rfl)
      rw [insertAll_cons, insert_insertAll_of_mem hmem hnew]
      simp [insert]
    · rw [insert, if_neg hk, insertAll_cons, insertAll_cons, ih _ hrest]

/-- Entries can be put together before they are put in. -/
theorem insertAll_insertAll (table first second : Table α κ) (h : first.keys.Nodup) :
    (table.insertAll first).insertAll second = table.insertAll (first.insertAll second) := by
  induction second generalizing first with
  | nil => rfl
  | cons entry rest ih =>
    obtain ⟨key, value⟩ := entry
    rw [insertAll_cons, insertAll_cons, ← insertAll_insert table first h, ih _ (nodup_keys_insert h key value)]

theorem insertAll_self {table : Table α κ} (once : table.keys.Nodup) : table.insertAll table = table := by
  refine eq_of_get? (nodup_keys_insertAll once table) ?_ fun key => ?_
  · rw [keys_insertAll table table once]
    simp
  · rw [get?_insertAll table table once, Option.or_self]

section Map
variable {β : Type}

/-- The value of a key may depend on the key. -/
theorem get?_mapWithKey (f : κ → α → β) (table : Table α κ) (key : κ) :
    get? (table.map fun entry => (entry.1, f entry.1 entry.2)) key = (table.get? key).map (f key) := by
  induction table with
  | nil => rfl
  | cons entry rest ih =>
    obtain ⟨k, v⟩ := entry
    by_cases h : k = key
    · subst h
      simp [get?]
    · simp [get?, h, ih]

variable (f : α → β)

theorem get?_map (table : Table α κ) (key : κ) :
    get? (table.map fun (key, value) => (key, f value)) key = (table.get? key).map f :=
  get?_mapWithKey (fun _ => f) table key

end Map

end BuildTree.Table
