import BuildTree.Config.Basic
import BuildTree.Proofs.Effect
import BuildTree.Proofs.Table
import Mathlib.Data.List.Nodup

/-!
# Overlaying path by path

A delta says what becomes of a value at each path of keys. Where it has plain data, that is there afterwards, and where
it has a transform, what this gives for the value before; where it has a record, the keys of the value keep their places
and new ones follow in the order of the delta; all else stays. Each transform is called once, in the order in which the
delta has them, whatever calling one means.
-/

namespace BuildTree

namespace Effect
variable {ε α β γ : Type}

variable {m : Type → Type} [Monad m] [LawfulMonad m]

theorem mapM_congr {f g : α → m β} {as : List α} (h : ∀ a ∈ as, f a = g a) : as.mapM f = as.mapM g := by
  induction as with
  | nil => rfl
  | cons a as ih =>
    obtain ⟨hfirst, hrest⟩ := List.forall_mem_cons.mp h
    rw [List.mapM_cons, List.mapM_cons, hfirst, ih hrest]

/-- What follows a traversal matters for as many results only. -/
theorem bind_mapM_congr (f : α → m β) {as : List α} {g h : List β → m γ}
    (hsame : ∀ bs, bs.length = as.length → g bs = h bs) : as.mapM f >>= g = as.mapM f >>= h := by
  induction as generalizing g h with
  | nil => simp [hsame [] rfl]
  | cons a as ih =>
    have hrest : ∀ b, (as.mapM f >>= fun bs => g (b :: bs)) = as.mapM f >>= fun bs => h (b :: bs) := fun b =>
      ih fun bs hbs => hsame (b :: bs) (congrArg (· + 1) hbs)
    simpa [List.mapM_cons] using congrArg (f a >>= ·) (funext hrest)

end Effect

namespace Value
variable {ρ : Type}

mutual

/-- No record that a path of keys leads to has a key twice. -/
def KeysOnce : Value ρ → Prop
  | .record entries => (Table.keys entries).Nodup ∧ EntriesKeysOnce entries
  | _ => True

def EntriesKeysOnce : List (Key × Value ρ) → Prop
  | [] => True
  | (_, value) :: rest => value.KeysOnce ∧ EntriesKeysOnce rest

end

def IsRecord : Value ρ → Prop
  | .record _ => True
  | _ => False

/-- Neither a record nor a transform. -/
def IsPlain : Value ρ → Prop
  | .record _ => False
  | .transform _ => False
  | _ => True

theorem IsPlain.not_isRecord {value : Value ρ} (h : value.IsPlain) : ¬ value.IsRecord := fun hrecord => by
  cases value <;> first | exact h | exact hrecord

/-- The entries of a record; other values have none. -/
def entries : Value ρ → Record ρ
  | .record entries => entries
  | _ => []

/-- What a key stands for, nothing if there is no such entry. -/
def child (value : Value ρ) (key : Key) : Value ρ :=
  (value.entries.get? key).getD .null

mutual

/-- A value with every key once is a transform, plain data, or a record of such values. -/
@[elab_as_elim]
theorem KeysOnce.induction {motive : ∀ value : Value ρ, value.KeysOnce → Prop}
    (transform : ∀ f, motive (.transform f) trivial) (plain : ∀ value once, value.IsPlain → motive value once)
    (record : ∀ entries (once : (Value.record entries).KeysOnce),
      (∀ entry ∈ entries, ∃ inner : entry.2.KeysOnce, motive entry.2 inner) → motive (.record entries) once) :
    ∀ (value : Value ρ) (once : value.KeysOnce), motive value once
  | .transform f, _ => transform f
  | .record entries, h => record entries h (entriesKeysOnce_induction transform plain record h.2)
  | .null, _ => plain _ _ trivial
  | .bool _, _ => plain _ _ trivial
  | .int _, _ => plain _ _ trivial
  | .float _, _ => plain _ _ trivial
  | .text _, _ => plain _ _ trivial
  | .list _, _ => plain _ _ trivial
  | .path _, _ => plain _ _ trivial
  | .target _, _ => plain _ _ trivial
  | .targetDependency _, _ => plain _ _ trivial
  | .pathDependency _, _ => plain _ _ trivial
  | .pattern _ _, _ => plain _ _ trivial
  | .location _, _ => plain _ _ trivial
  | .other _ _, _ => plain _ _ trivial
  | .again _, _ => plain _ _ trivial

theorem entriesKeysOnce_induction {motive : ∀ value : Value ρ, value.KeysOnce → Prop}
    (transform : ∀ f, motive (.transform f) trivial) (plain : ∀ value once, value.IsPlain → motive value once)
    (record : ∀ entries (once : (Value.record entries).KeysOnce),
      (∀ entry ∈ entries, ∃ inner : entry.2.KeysOnce, motive entry.2 inner) → motive (.record entries) once) :
    ∀ {entries : List (Key × Value ρ)}, EntriesKeysOnce entries →
      ∀ entry ∈ entries, ∃ inner : entry.2.KeysOnce, motive entry.2 inner
  | [], _, _, hentry => absurd hentry List.not_mem_nil
  | (_, value) :: _, h, entry, hentry => by
    rcases List.mem_cons.mp hentry with rfl | hentry
    · exact ⟨h.1, KeysOnce.induction transform plain record value h.1⟩
    · exact entriesKeysOnce_induction transform plain record h.2 entry hentry

end

end Value

namespace Config
open Effect
variable {ρ : Type}

/-- What a transform at a path is called with: the value there, nothing if there is none. -/
def before (base : Value ρ) (path : List Key) : Value ρ :=
  (getBelow? path base).getD .null

section Paths
variable (value : Value ρ)

theorem getBelow?_cons (key : Key) (path : List Key) :
    getBelow? (key :: path) value = (value.entries.get? key).bind (getBelow? path) := by
  cases value <;> rfl

theorem getBelow?_null {path : List Key} (h : path ≠ []) : getBelow? path (.null : Value ρ) = none := by
  cases path with
  | nil => exact absurd rfl h
  | cons => rfl

/-- Below the empty path there is nothing that is not below the values of the entries. -/
theorem getBelow?_cons_of_ne_nil (key : Key) {path : List Key} (h : path ≠ []) :
    getBelow? (key :: path) value = getBelow? path (value.child key) := by
  rw [getBelow?_cons, Value.child]
  cases value.entries.get? key with
  | some v => rfl
  | none => exact (getBelow?_null h).symm

theorem before_cons (key : Key) (path : List Key) :
    before value (key :: path) = before (value.child key) path := by
  rw [before, before, getBelow?_cons, Value.child]
  cases value.entries.get? key with
  | some v => rfl
  | none =>
    cases path <;> rfl

end Paths

section Calls
variable {m : Type → Type} [Monad m] (call : Value ρ → Transform ρ → m (Value ρ))

theorem settleWith_eq (delta : Value ρ) : settleWith call delta = overlayWith call .null delta := by
  cases delta <;> simp [settleWith, overlayWith]

theorem overlayWith_of_isPlain (base : Value ρ) {delta : Value ρ} (h : delta.IsPlain) :
    overlayWith call base delta = pure delta := by
  cases delta with
  | record => exact h.elim
  | transform => exact h.elim
  | _ => rfl

/-- An entry of a delta laid over what a table has at its key. -/
def overlayEntryWith (table : Record ρ) (entry : Key × Value ρ) : m (Key × Value ρ) :=
  (entry.1, ·) <$> overlayWith call ((table.get? entry.1).getD .null) entry.2

variable [LawfulMonad m]

theorem settleEntriesWith_eq (table : Record ρ) (entries : List (Key × Value ρ)) :
    settleEntriesWith call table entries = table.insertAll <$> entries.mapM (overlayEntryWith call []) := by
  induction entries generalizing table with
  | nil => simp [settleEntriesWith, Table.insertAll]
  | cons entry rest ih => simp [settleEntriesWith, overlayEntryWith, ih, settleWith_eq, Table.get?]

theorem overlayEntriesWith_eq {entries : List (Key × Value ρ)} (once : (Table.keys entries).Nodup)
    (table : Record ρ) : overlayEntriesWith call table entries =
      table.insertAll <$> entries.mapM (overlayEntryWith call table) := by
  induction entries generalizing table with
  | nil => simp [overlayEntriesWith, Table.insertAll]
  | cons entry rest ih =>
    obtain ⟨key, delta⟩ := entry
    obtain ⟨hnew, hrest⟩ := List.nodup_cons.mp once
    -- What has gone in is not looked at again.
    have hothers : ∀ value, rest.mapM (overlayEntryWith call (table.insert key value)) =
        rest.mapM (overlayEntryWith call table) := fun value => by
      refine mapM_congr fun entry hentry => ?_
      have hne : entry.1 ≠ key := fun he => hnew (he ▸ List.mem_map.mpr ⟨entry, hentry, rfl⟩)
      rw [overlayEntryWith, Table.get?_insert_of_ne table value hne, overlayEntryWith]
    cases hold : table.get? key <;>
      simp [overlayEntriesWith, overlayEntryWith, hold, ih hrest, hothers, settleWith_eq]

/-- A record is laid over a value entry by entry, each over what is there at its key. -/
theorem overlayWith_record {entries : List (Key × Value ρ)} (once : (Table.keys entries).Nodup) (base : Value ρ) :
    overlayWith call base (.record entries) =
      (fun laid => .record (base.entries.insertAll laid)) <$> entries.mapM (overlayEntryWith call base.entries) := by
  cases base with
  | record table => simp [overlayWith, overlayEntriesWith_eq call once, Value.entries]
  | _ => simp [overlayWith, settleWith, settleEntriesWith_eq, Value.entries]

end Calls

/-- A path at which a delta says nothing: it has no entry there and nothing but records above. -/
structure Silent (delta : Value ρ) (path : List Key) : Prop where
  absent : getBelow? path delta = none
  records : ∀ above, above <+: path → ∀ value, getBelow? above delta = some value → value.IsRecord

/-- The result of laying a delta over a value, path by path, if `call` says what transforms give. -/
structure Overlaid (call : Value ρ → Transform ρ → Except Fault (Value ρ)) (base delta result : Value ρ) : Prop where
  plain : ∀ path value, getBelow? path delta = some value → value.IsPlain → getBelow? path result = some value
  called : ∀ path f, getBelow? path delta = some (.transform f) →
    ∃ value, call (before base path) f = .ok value ∧ getBelow? path result = some value
  keys : ∀ path entries, getBelow? path delta = some (.record entries) → ∃ table,
    getBelow? path result = some (.record table) ∧ Table.keys table =
      Table.keys (before base path).entries ++ (Table.keys entries).filter (· ∉ Table.keys (before base path).entries)
  kept : ∀ path, Silent delta path → getBelow? path result = getBelow? path base

theorem getBelow?_eq_some_iff_of_not_isRecord {value found : Value ρ} (h : ¬ value.IsRecord) (path : List Key) :
    getBelow? path value = some found ↔ path = [] ∧ found = value := by
  cases path with
  | nil => simp [getBelow?, eq_comm]
  | cons key path =>
    have hentries : value.entries = [] := by
      cases value with
      | record => exact absurd trivial h
      | _ => rfl
    simp [getBelow?_cons, hentries, Table.get?]

theorem not_silent_of_not_isRecord {value : Value ρ} (h : ¬ value.IsRecord) (path : List Key) :
    ¬ Silent value path := fun silent => h (silent.records [] List.nil_prefix value rfl)

section Laid
variable {call : Value ρ → Transform ρ → Except Fault (Value ρ)} {table laid : Record ρ}
  {entries : List (Key × Value ρ)}

theorem overlayEntryWith_eq_ok_iff {entry entry' : Key × Value ρ} :
    overlayEntryWith call table entry = .ok entry' ↔
      entry'.1 = entry.1 ∧ overlayWith call ((table.get? entry.1).getD .null) entry.2 = .ok entry'.2 := by
  obtain ⟨key, value⟩ := entry'
  rw [overlayEntryWith]
  cases overlayWith call ((table.get? entry.1).getD .null) entry.2 with
  | error f => simp [Functor.map, Except.map]
  | ok v => simp [Functor.map, Except.map, eq_comm]

theorem keys_of_laid (h : entries.mapM (overlayEntryWith call table) = .ok laid) :
    Table.keys laid = Table.keys entries := by
  have hall := mapM_eq_ok_iff.mp h
  clear h
  induction hall with
  | nil => rfl
  | @cons entry entry' _ _ hentry _ ih =>
    obtain ⟨key, _⟩ := entry
    obtain ⟨key', _⟩ := entry'
    obtain rfl : key' = key := (overlayEntryWith_eq_ok_iff.mp hentry).1
    rw [Table.keys_cons, Table.keys_cons, ih]

/-- What stands at a key of a delta is laid over what the table has there. -/
theorem get?_of_laid (h : entries.mapM (overlayEntryWith call table) = .ok laid) {key : Key} {delta : Value ρ}
    (hkey : Table.get? entries key = some delta) : ∃ value,
      overlayWith call ((table.get? key).getD .null) delta = .ok value ∧ laid.get? key = some value := by
  have hall := mapM_eq_ok_iff.mp h
  clear h
  induction hall with
  | nil => cases hkey
  | @cons entry entry' _ _ hentry _ ih =>
    obtain ⟨k, d⟩ := entry
    obtain ⟨k', v⟩ := entry'
    obtain ⟨hk, hvalue⟩ := overlayEntryWith_eq_ok_iff.mp hentry
    dsimp only at hk hvalue
    subst hk
    by_cases he : k' = key
    · subst he
      obtain rfl : d = delta := by simpa [Table.get?] using hkey
      exact ⟨v, hvalue, by simp [Table.get?]⟩
    · simpa [Table.get?, he] using ih (by simpa [Table.get?, he] using hkey)

end Laid

section Overlaid
variable {call : Value ρ → Transform ρ → Except Fault (Value ρ)}

theorem overlaid_record {entries : List (Key × Value ρ)} (once : (Table.keys entries).Nodup)
    (ih : ∀ entry ∈ entries, ∀ base result, overlayWith call base entry.2 = .ok result →
      Overlaid call base entry.2 result) {base result : Value ρ}
    (h : overlayWith call base (.record entries) = .ok result) : Overlaid call base (.record entries) result := by
  rw [overlayWith_record call once] at h
  obtain ⟨laid, hlaid, rfl⟩ := (map_eq_ok_iff _ _ _).mp h
  have hkeys := keys_of_laid hlaid
  have honce : (Table.keys laid).Nodup := hkeys ▸ once
  have hbelow : ∀ key path, getBelow? (key :: path) (Value.record (base.entries.insertAll laid)) =
      ((Table.get? laid key).or (base.entries.get? key)).bind (getBelow? path) := fun key path => by
    rw [getBelow?_cons, Value.entries, Table.get?_insertAll _ _ honce]
  -- An entry of the delta has been laid over what is at its key.
  have hentry : ∀ {key delta}, Table.get? entries key = some delta → ∃ value,
      Overlaid call (base.child key) delta value ∧
        ∀ path, getBelow? (key :: path) (Value.record (base.entries.insertAll laid)) = getBelow? path value := by
    intro key delta hkey
    obtain ⟨value, hvalue, hget⟩ := get?_of_laid hlaid hkey
    refine ⟨value, ih (key, delta) (Table.mem_of_get? hkey) _ _ hvalue, fun path => ?_⟩
    rw [hbelow, hget]
    rfl
  have hsome : ∀ {key path found}, getBelow? (key :: path) (.record entries) = some found → ∃ delta,
      Table.get? entries key = some delta ∧ getBelow? path delta = some found := fun h => by
    rw [getBelow?_cons] at h
    exact Option.bind_eq_some_iff.mp h
  constructor
  case plain =>
    rintro (_ | ⟨key, path⟩) value hvalue hplain
    · cases hvalue
      exact hplain.elim
    · obtain ⟨delta, hkey, hdelta⟩ := hsome hvalue
      obtain ⟨_, hover, hpath⟩ := hentry hkey
      rw [hpath]
      exact hover.plain path value hdelta hplain
  case called =>
    rintro (_ | ⟨key, path⟩) f hf
    · cases hf
    · obtain ⟨delta, hkey, hdelta⟩ := hsome hf
      obtain ⟨_, hover, hpath⟩ := hentry hkey
      rw [hpath, before_cons]
      exact hover.called path f hdelta
  case keys =>
    rintro (_ | ⟨key, path⟩) inner hinner
    · cases hinner
      refine ⟨_, rfl, ?_⟩
      rw [Table.keys_insertAll _ _ honce, hkeys]
      rfl
    · obtain ⟨delta, hkey, hdelta⟩ := hsome hinner
      obtain ⟨_, hover, hpath⟩ := hentry hkey
      rw [hpath, before_cons]
      exact hover.keys path inner hdelta
  case kept =>
    rintro (_ | ⟨key, path⟩) ⟨habsent, hrecords⟩
    · cases habsent
    · rw [getBelow?_cons] at habsent
      cases hkey : Table.get? entries key with
      | none =>
        have hnone : Table.get? laid key = none := by
          rw [Table.get?_eq_none_iff, hkeys, ← Table.get?_eq_none_iff]
          exact hkey
        rw [hbelow, hnone, getBelow?_cons]
        rfl
      | some delta =>
        obtain ⟨_, hover, hpath⟩ := hentry hkey
        rw [Value.entries, hkey, Option.bind_some] at habsent
        have hne : path ≠ [] := fun he => by
          subst he
          cases habsent
        rw [hpath, getBelow?_cons_of_ne_nil base key hne]
        refine hover.kept path ⟨habsent, fun above habove value hvalue => ?_⟩
        refine hrecords (key :: above) (List.cons_prefix_cons.mpr ⟨rfl, habove⟩) value ?_
        rw [getBelow?_cons, Value.entries, hkey]
        exact hvalue

theorem overlaid_of_overlayWith {delta : Value ρ} (once : delta.KeysOnce) {base result : Value ρ}
    (h : overlayWith call base delta = .ok result) : Overlaid call base delta result := by
  induction delta, once using Value.KeysOnce.induction generalizing base result with
  | transform f =>
    have hnot : ¬ (Value.transform f).IsRecord := id
    refine ⟨fun path value hvalue hplain => ?_, fun path f' hf => ?_, fun path entries he => ?_,
      fun path silent => absurd silent (not_silent_of_not_isRecord hnot path)⟩
    · obtain ⟨rfl, rfl⟩ := (getBelow?_eq_some_iff_of_not_isRecord hnot path).mp hvalue
      exact hplain.elim
    · obtain ⟨rfl, hf⟩ := (getBelow?_eq_some_iff_of_not_isRecord hnot path).mp hf
      cases hf
      exact ⟨result, h, rfl⟩
    · cases ((getBelow?_eq_some_iff_of_not_isRecord hnot path).mp he).2
  | plain value _ hplain =>
    have hnot := hplain.not_isRecord
    rw [overlayWith_of_isPlain call base hplain] at h
    obtain rfl : value = result := Except.ok.inj h
    refine ⟨fun path found hfound _ => ?_, fun path f hf => ?_, fun path entries he => ?_,
      fun path silent => absurd silent (not_silent_of_not_isRecord hnot path)⟩
    · obtain ⟨rfl, rfl⟩ := (getBelow?_eq_some_iff_of_not_isRecord hnot path).mp hfound
      rfl
    · cases ((getBelow?_eq_some_iff_of_not_isRecord hnot path).mp hf).2
      exact hplain.elim
    · cases ((getBelow?_eq_some_iff_of_not_isRecord hnot path).mp he).2
      exact hplain.elim
  | record entries once ih =>
    refine overlaid_record once.1 (fun entry hentry base result h => ?_) h
    obtain ⟨_, hover⟩ := ih entry hentry
    exact hover h

end Overlaid

mutual

/-- The transforms of a delta with their paths, in the order in which it has them. -/
def transforms : Value ρ → List (List Key × Transform ρ)
  | .transform f => [([], f)]
  | .record entries => entryTransforms entries
  | _ => []

def entryTransforms : List (Key × Value ρ) → List (List Key × Transform ρ)
  | [] => []
  | (key, value) :: rest => (transforms value).map (fun (path, f) => (key :: path, f)) ++ entryTransforms rest

end

section Transforms
variable {delta : Value ρ}

theorem transforms_of_isPlain {value : Value ρ} (h : value.IsPlain) : transforms value = [] := by
  cases value with
  | record => exact h.elim
  | transform => exact h.elim
  | _ => rfl

theorem mem_entryTransforms_iff {entries : List (Key × Value ρ)} {path : List Key} {f : Transform ρ} :
    (path, f) ∈ entryTransforms entries ↔
      ∃ entry ∈ entries, ∃ inner, (inner, f) ∈ transforms entry.2 ∧ path = entry.1 :: inner := by
  induction entries with
  | nil => simp [entryTransforms]
  | cons entry rest ih =>
    obtain ⟨key, value⟩ := entry
    rw [entryTransforms, List.mem_append, ih]
    simp [eq_comm]

theorem mem_transforms_iff (once : delta.KeysOnce) (path : List Key) (f : Transform ρ) :
    (path, f) ∈ transforms delta ↔ getBelow? path delta = some (.transform f) := by
  induction delta, once using Value.KeysOnce.induction generalizing path with
  | transform f' =>
    rw [getBelow?_eq_some_iff_of_not_isRecord id]
    simp [transforms]
  | plain value _ hplain =>
    rw [transforms_of_isPlain hplain, getBelow?_eq_some_iff_of_not_isRecord hplain.not_isRecord]
    refine iff_of_false List.not_mem_nil ?_
    rintro ⟨_, rfl⟩
    exact hplain
  | record entries once ih =>
    rw [transforms, mem_entryTransforms_iff]
    constructor
    · rintro ⟨entry, hentry, inner, hmem, rfl⟩
      obtain ⟨_, hiff⟩ := ih entry hentry
      rw [getBelow?_cons, Value.entries, Table.get?_of_mem once.1 hentry]
      exact (hiff inner).mp hmem
    · intro h
      cases path with
      | nil => cases h
      | cons key inner =>
        rw [getBelow?_cons] at h
        obtain ⟨value, hkey, hinner⟩ := Option.bind_eq_some_iff.mp h
        have hentry : (key, value) ∈ entries := Table.mem_of_get? hkey
        obtain ⟨_, hiff⟩ := ih _ hentry
        exact ⟨_, hentry, inner, (hiff inner).mpr hinner, rfl⟩

theorem nodup_paths_transforms (once : delta.KeysOnce) : ((transforms delta).map Prod.fst).Nodup := by
  induction delta, once using Value.KeysOnce.induction with
  | transform f => exact List.nodup_singleton _
  | plain value _ hplain =>
    rw [transforms_of_isPlain hplain]
    exact List.nodup_nil
  | record entries once ih =>
    rw [transforms]
    have hkeys := once.1
    clear once
    induction entries with
    | nil => exact List.nodup_nil
    | cons entry rest ih' =>
      obtain ⟨key, value⟩ := entry
      obtain ⟨hnew, hrest⟩ := List.nodup_cons.mp hkeys
      obtain ⟨⟨_, hfirst⟩, hothers⟩ := List.forall_mem_cons.mp ih
      have hpaths : (entryTransforms ((key, value) :: rest)).map Prod.fst =
          ((transforms value).map Prod.fst).map (key :: ·) ++ (entryTransforms rest).map Prod.fst := by
        simp [entryTransforms]
      rw [hpaths]
      refine List.nodup_append.mpr ⟨hfirst.map fun _ _ h => (List.cons.inj h).2, ih' hothers hrest, ?_⟩
      -- Paths of different entries begin with different keys.
      rintro path hpath path' hpath' rfl
      obtain ⟨inner, _, rfl⟩ := List.mem_map.mp hpath
      obtain ⟨⟨_, f⟩, hmem, rfl⟩ := List.mem_map.mp hpath'
      obtain ⟨entry, hentry, inner', _, he⟩ := mem_entryTransforms_iff.mp hmem
      exact hnew ((List.cons.inj he).1 ▸ List.mem_map.mpr ⟨entry, hentry, rfl⟩)

end Transforms

/-- To lay a delta over a value is to call its transforms one after the other, each of them once and with what is there,
and to put what they give into place, whatever calling one means. -/
def CallsOnce (base delta : Value ρ) : Prop :=
  ∃ place : List (Value ρ) → Value ρ, ∀ (m : Type → Type) [Monad m] [LawfulMonad m]
    (call : Value ρ → Transform ρ → m (Value ρ)), overlayWith call base delta =
      place <$> (transforms delta).mapM fun (path, f) => call (before base path) f

theorem calls_entries {entries : List (Key × Value ρ)} (ih : ∀ entry ∈ entries, ∀ base, CallsOnce base entry.2)
    (base : Value ρ) : ∃ place : List (Value ρ) → Record ρ, ∀ (m : Type → Type) [Monad m] [LawfulMonad m]
      (call : Value ρ → Transform ρ → m (Value ρ)), entries.mapM (overlayEntryWith call base.entries) =
        place <$> (entryTransforms entries).mapM fun (path, f) => call (before base path) f := by
  induction entries with
  | nil => exact ⟨fun _ => [], fun m _ _ call => by simp [entryTransforms]⟩
  | cons entry rest ih' =>
    obtain ⟨key, value⟩ := entry
    obtain ⟨hfirst, hothers⟩ := List.forall_mem_cons.mp ih
    obtain ⟨placeFirst, hfirst⟩ := hfirst (base.child key)
    obtain ⟨placeRest, hrest⟩ := ih' hothers
    -- The results come in one list, of which the first entry has as many as it has transforms.
    refine ⟨fun given => (key, placeFirst (given.take (transforms value).length)) ::
      placeRest (given.drop (transforms value).length), fun m _ _ call => ?_⟩
    have hhere : (transforms value).mapM
        ((fun (path, f) => call (before base path) f) ∘ fun (path, f) => (key :: path, f)) =
          (transforms value).mapM fun (path, f) => call (before (base.child key) path) f :=
      mapM_congr fun (path, f) _ => congrArg (call · f) (before_cons base key path)
    have hentry : overlayEntryWith call base.entries (key, value) =
        (fun given => (key, placeFirst given)) <$>
          (transforms value).mapM fun (path, f) => call (before (base.child key) path) f := by
      rw [overlayEntryWith, ← Value.child, hfirst m call, Functor.map_map]
    rw [List.mapM_cons, hentry, hrest m call, entryTransforms, List.mapM_append, List.mapM_map, hhere, map_bind,
      bind_map_left]
    refine bind_mapM_congr _ fun given hgiven => ?_
    simp [List.take_left' hgiven, List.drop_left' hgiven]

theorem callsOnce {delta : Value ρ} (once : delta.KeysOnce) (base : Value ρ) : CallsOnce base delta := by
  induction delta, once using Value.KeysOnce.induction generalizing base with
  | transform f =>
    refine ⟨fun given => given.headD .null, fun m _ _ call => ?_⟩
    simp [overlayWith, transforms, before, getBelow?]
  | plain value _ hplain =>
    refine ⟨fun _ => value, fun m _ _ call => ?_⟩
    rw [transforms_of_isPlain hplain, overlayWith_of_isPlain call base hplain]
    simp
  | record entries once ih =>
    obtain ⟨place, hplace⟩ := calls_entries (fun entry hentry base => (ih entry hentry).elim fun _ h => h base) base
    refine ⟨fun given => .record (base.entries.insertAll (place given)), fun m _ _ call => ?_⟩
    rw [overlayWith_record call once.1, hplace m call, Functor.map_map]
    rfl

/-- A delta laid over any value, where `call` says what calling a transform does. The transforms are those on the paths
of the delta, each of which is called once, with what is at its path. If all calls go through, and only then, there is
a result, and it is the value and the delta put together path by path. -/
theorem overlay_pathwise {delta : Value ρ} (once : delta.KeysOnce) (base : Value ρ) :
    (((transforms delta).map Prod.fst).Nodup ∧
      ∀ path f, (path, f) ∈ transforms delta ↔ getBelow? path delta = some (.transform f)) ∧
    CallsOnce base delta ∧
    ∀ call : Value ρ → Transform ρ → Except Fault (Value ρ),
      ((∃ result, overlayWith call base delta = .ok result) ↔
        ∀ path f, getBelow? path delta = some (.transform f) → ∃ value, call (before base path) f = .ok value) ∧
      ∀ result, overlayWith call base delta = .ok result → Overlaid call base delta result := by
  have hcalls := callsOnce once base
  refine ⟨⟨nodup_paths_transforms once, mem_transforms_iff once⟩, hcalls,
    fun call => ⟨?_, fun _ => overlaid_of_overlayWith once⟩⟩
  obtain ⟨place, hplace⟩ := hcalls
  have hdone : (∃ result, overlayWith call base delta = .ok result) ↔
      ∃ given, ((transforms delta).mapM fun (path, f) => call (before base path) f) = .ok given := by
    rw [hplace (Except Fault) call]
    exact ⟨fun ⟨_, h⟩ => ((map_eq_ok_iff _ _ _).mp h).imp fun _ => And.left,
      fun ⟨given, h⟩ => ⟨place given, (map_eq_ok_iff _ _ _).mpr ⟨given, h, rfl⟩⟩⟩
  rw [hdone, exists_mapM_eq_ok_iff, Prod.forall]
  simp only [mem_transforms_iff once]

/-- Settings of a toolchain. -/
def gccSettings : Value Nat :=
  .record [
    ("cc", .text "gcc"),
    ("flags", .list [.text "-O2"]),
    ("ld", .record [("path", .text "ld"), ("plugins", .list [])]),
    ("env", .record [("LANG", .text "C"), ("HOME", .null)])]

/-- A delta that adds a flag, puts a record for a text and a text for a record, sees that there was nothing at two
paths, and has a key that is new in a record. -/
def clangDelta : Value Nat :=
  .record [
    ("target", .record [("before", .transform .kind)]),
    ("flags", .transform (.append [.text "-g"])),
    ("cc", .record [("path", .text "clang"), ("old", .transform .wrap)]),
    ("ld", .text "lld"),
    ("env", .record [("PATH", .text "/usr/bin"), ("HOME", .text "/root")])]

def clangSettings : Value Nat :=
  .record [
    ("cc", .record [("path", .text "clang"), ("old", .record [("was", .null)])]),
    ("flags", .list [.text "-O2", .text "-g"]),
    ("ld", .text "lld"),
    ("env", .record [("LANG", .text "C"), ("HOME", .text "/root"), ("PATH", .text "/usr/bin")]),
    ("target", .record [("before", .text "null")])]

theorem overlay_pathwise_clang :
    clangDelta.KeysOnce ∧ overlay gccSettings clangDelta = .ok clangSettings ∧
      Overlaid Transform.apply gccSettings clangDelta clangSettings ∧ CallsOnce gccSettings clangDelta := by
  have honce : clangDelta.KeysOnce := by simp [clangDelta, Value.KeysOnce, Value.EntriesKeysOnce, Table.keys]
  have hresult : overlay gccSettings clangDelta = .ok clangSettings := by rfl
  obtain ⟨_, hcalls, hlaid⟩ := overlay_pathwise honce gccSettings
  exact ⟨honce, hresult, (hlaid Transform.apply).2 _ hresult, hcalls⟩

end Config
end BuildTree
