import BuildTree.Project.Call
import BuildTree.Proofs.Config.Overlay

/-!
# Deltas one after the other and together

Deltas without transforms can be laid over each other before they are laid over a value, and one that is laid twice does
what it does once. Only where a delta has something else between two records does it matter: there it covers the first
one, unless the second one has covered it before.
-/

namespace BuildTree

namespace Value
variable {ρ : Type}

/-- Data on every path of keys: no key twice, and no transform. -/
structure Data (value : Value ρ) : Prop where
  once : value.KeysOnce
  inert : Config.transforms value = []

theorem IsPlain.data {value : Value ρ} (h : value.IsPlain) : value.Data := by
  cases value with
  | record => exact h.elim
  | transform => exact h.elim
  | _ => exact ⟨trivial, rfl⟩

theorem entriesKeysOnce_iff {entries : List (Key × Value ρ)} :
    EntriesKeysOnce entries ↔ ∀ entry ∈ entries, entry.2.KeysOnce := by
  induction entries with
  | nil => simp [EntriesKeysOnce]
  | cons entry rest ih => simp [EntriesKeysOnce, ih]

theorem entryTransforms_eq_nil_iff {entries : List (Key × Value ρ)} :
    Config.entryTransforms entries = [] ↔ ∀ entry ∈ entries, Config.transforms entry.2 = [] := by
  induction entries with
  | nil => simp [Config.entryTransforms]
  | cons entry rest ih => simp [Config.entryTransforms, ih]

theorem data_record_iff {entries : List (Key × Value ρ)} :
    (record entries).Data ↔ (Table.keys entries).Nodup ∧ ∀ entry ∈ entries, entry.2.Data := by
  constructor
  · rintro ⟨⟨hkeys, honce⟩, hinert⟩
    exact ⟨hkeys, fun entry hentry =>
      ⟨entriesKeysOnce_iff.mp honce entry hentry, entryTransforms_eq_nil_iff.mp hinert entry hentry⟩⟩
  · rintro ⟨hkeys, hdata⟩
    exact ⟨⟨hkeys, entriesKeysOnce_iff.mpr fun entry hentry => (hdata entry hentry).once⟩,
      entryTransforms_eq_nil_iff.mpr fun entry hentry => (hdata entry hentry).inert⟩

theorem Data.isPlain {value : Value ρ} (h : value.Data) (hnot : ¬ value.IsRecord) : value.IsPlain := by
  cases value with
  | record => exact absurd trivial hnot
  | transform f => cases h.inert
  | _ => trivial

/-- Data is plain, or a record of data. -/
@[elab_as_elim]
theorem Data.induction {motive : ∀ value : Value ρ, value.Data → Prop}
    (plain : ∀ value data, value.IsPlain → motive value data)
    (record : ∀ entries (data : (record entries).Data),
      (∀ entry ∈ entries, ∃ inner : entry.2.Data, motive entry.2 inner) → motive (.record entries) data)
    (value : Value ρ) (data : value.Data) : motive value data := by
  obtain ⟨once, inert⟩ := data
  induction value, once using KeysOnce.induction with
  | transform f => cases inert
  | plain value _ hplain => exact plain value _ hplain
  | record entries once ih =>
    have hinner := (data_record_iff.mp ⟨once, inert⟩).2
    exact record entries _ fun entry hentry =>
      ⟨hinner entry hentry, (ih entry hentry).elim fun _ h => h (hinner entry hentry).inert⟩

end Value

namespace Config
open Effect
variable {ρ : Type}

/-- What a delta without transforms makes of a value. -/
def laid (base delta : Value ρ) : Value ρ :=
  Id.run (overlayWith (fun before _ => pure before) base delta)

section Laid
variable {base delta : Value ρ} {entries : List (Key × Value ρ)}

theorem overlay_eq_laid (data : delta.Data) (base : Value ρ) : overlay base delta = .ok (laid base delta) := by
  obtain ⟨place, hplace⟩ := callsOnce data.once base
  rw [overlay, laid, hplace, hplace, data.inert]
  rfl

theorem laid_of_isPlain (h : delta.IsPlain) (base : Value ρ) : laid base delta = delta := by
  rw [laid, overlayWith_of_isPlain _ _ h]
  rfl

/-- The entries of a delta, each laid over what a value has at its key. -/
def laidEntries (base : Value ρ) (entries : List (Key × Value ρ)) : Record ρ :=
  entries.map fun entry => (entry.1, laid (base.child entry.1) entry.2)

theorem laid_record (once : (Table.keys entries).Nodup) (base : Value ρ) :
    laid base (.record entries) = .record (base.entries.insertAll (laidEntries base entries)) := by
  rw [laid, overlayWith_record _ once, Id.run_map, List.idRun_mapM]
  rfl

theorem keys_laidEntries (base : Value ρ) (entries : List (Key × Value ρ)) :
    Table.keys (laidEntries base entries) = Table.keys entries :=
  Table.keys_mapWithKey (fun key => laid (base.child key)) entries

theorem get?_laidEntries (base : Value ρ) (entries : List (Key × Value ρ)) (key : Key) :
    (laidEntries base entries).get? key = (Table.get? entries key).map (laid (base.child key)) :=
  Table.get?_mapWithKey (fun key => laid (base.child key)) entries key

theorem laidEntries_eq_self (h : ∀ entry ∈ entries, laid (base.child entry.1) entry.2 = entry.2) :
    laidEntries base entries = entries := by
  have hsame : ∀ entry ∈ entries, (entry.1, laid (base.child entry.1) entry.2) = id entry := fun entry hentry => by
    rw [h entry hentry]
    rfl
  rw [laidEntries, List.map_congr_left hsame, List.map_id]

theorem get?_laid (once : (Table.keys entries).Nodup) (base : Value ρ) (key : Key) :
    (laid base (.record entries)).entries.get? key =
      ((Table.get? entries key).map (laid (base.child key))).or (base.entries.get? key) := by
  rw [laid_record once, Value.entries, Table.get?_insertAll _ _ (keys_laidEntries base entries ▸ once),
    get?_laidEntries]

theorem child_of_get? (value : Value ρ) {found : Value ρ} {key : Key} (h : value.entries.get? key = some found) :
    value.child key = found := by
  rw [Value.child, h]
  rfl

theorem child_laid_of_some (once : (Table.keys entries).Nodup) {key : Key} {inner : Value ρ}
    (h : Table.get? entries key = some inner) :
    (laid base (.record entries)).child key = laid (base.child key) inner := by
  apply child_of_get? _
  rw [get?_laid once, h]
  rfl

theorem child_laid_of_none (once : (Table.keys entries).Nodup) {key : Key} (h : Table.get? entries key = none) :
    (laid base (.record entries)).child key = base.child key := by
  rw [Value.child, get?_laid once, h]
  rfl

theorem getBelow?_laid (once : (Table.keys entries).Nodup) {key : Key} {inner : Value ρ}
    (h : Table.get? entries key = some inner) (base : Value ρ) (path : List Key) :
    getBelow? (key :: path) (laid base (.record entries)) = getBelow? path (laid (base.child key) inner) := by
  rw [getBelow?_cons, get?_laid once, h]
  rfl

/-- Data stays as it is where it is laid over no record. -/
theorem laid_of_not_isRecord (data : delta.Data) (h : ¬ base.IsRecord) : laid base delta = delta := by
  induction delta, data using Value.Data.induction generalizing base with
  | plain delta _ hplain => exact laid_of_isPlain hplain base
  | record entries data ih =>
    have hkeys := (Value.data_record_iff.mp data).1
    have hentries : base.entries = [] := by
      cases base with
      | record => exact absurd trivial h
      | _ => rfl
    have hsame : laidEntries base entries = entries := laidEntries_eq_self fun entry hentry => by
      obtain ⟨_, hinner⟩ := ih entry hentry
      have hnothing : base.child entry.1 = .null := by
        rw [Value.child, hentries]
        rfl
      rw [hnothing, hinner id]
    rw [laid_record hkeys, hsame, hentries, Table.insertAll_of_nodup [] entries hkeys]
    rfl

theorem data_child (h : base.Data) (key : Key) : (base.child key).Data := by
  cases hget : base.entries.get? key with
  | none =>
    rw [Value.child, hget]
    exact Value.IsPlain.data trivial
  | some found =>
    rw [child_of_get? base hget]
    cases base with
    | record => exact (Value.data_record_iff.mp h).2 _ (Table.mem_of_get? hget)
    | _ => cases hget

theorem data_laid (hbase : base.Data) (data : delta.Data) : (laid base delta).Data := by
  induction delta, data using Value.Data.induction generalizing base with
  | plain delta data hplain => rwa [laid_of_isPlain hplain base]
  | record entries data ih =>
    have hkeys := (Value.data_record_iff.mp data).1
    have hold : (Table.keys base.entries).Nodup ∧ ∀ entry ∈ base.entries, entry.2.Data := by
      cases base with
      | record => exact Value.data_record_iff.mp hbase
      | _ => exact ⟨List.nodup_nil, fun _ h => absurd h List.not_mem_nil⟩
    rw [laid_record hkeys, Value.data_record_iff]
    refine ⟨Table.nodup_keys_insertAll hold.1 _, fun entry hentry => ?_⟩
    rcases Table.mem_of_mem_insertAll hentry with hmem | hmem
    · obtain ⟨inner, hinner, rfl⟩ := List.mem_map.mp hmem
      exact (ih inner hinner).elim fun _ h => h (data_child hbase inner.1)
    · exact hold.2 entry hmem

/-- What a path with a record at its end leads to from the value at a key, it leads to from the whole. -/
theorem getBelow?_of_child {value : Value ρ} {key : Key} {path : List Key}
    (h : getBelow? path (value.child key) = some (.record entries)) :
    getBelow? (key :: path) value = some (.record entries) := by
  rw [getBelow?_cons]
  cases hget : value.entries.get? key with
  | some found => rwa [child_of_get? value hget] at h
  | none =>
    rw [Value.child, hget] at h
    cases path <;> cases h

end Laid

/-- At a path, two values have a record, and one between them has something else. -/
structure Clash (first second third : Value ρ) (path : List Key) : Prop where
  first : ∃ entries, getBelow? path first = some (.record entries)
  second : ∃ value, getBelow? path second = some value ∧ ¬ value.IsRecord
  third : ∃ entries, getBelow? path third = some (.record entries)

section Three
variable {a b c : Value ρ}

theorem Clash.below {key : Key} {inB inC : Value ρ} (hb : b.entries.get? key = some inB)
    (hc : c.entries.get? key = some inC) {path : List Key} (h : Clash (a.child key) inB inC path) :
    Clash a b c (key :: path) := by
  obtain ⟨⟨_, ha⟩, ⟨value, hvalue, hnot⟩, ⟨entries, hrecord⟩⟩ := h
  refine ⟨⟨_, getBelow?_of_child ha⟩, ⟨value, ?_, hnot⟩, ⟨entries, ?_⟩⟩
  · rw [getBelow?_cons, hb]
    exact hvalue
  · rw [getBelow?_cons, hc]
    exact hrecord

/-- Two records are laid over a value together, if what they have at common keys is. -/
theorem laid_laid_record {inB inC : List (Key × Value ρ)} (hkeysB : (Table.keys inB).Nodup)
    (hdataC : (Value.record inC).Data) (a : Value ρ)
    (h : ∀ key deltaB deltaC, Table.get? inB key = some deltaB → Table.get? inC key = some deltaC →
      laid (laid (a.child key) deltaB) deltaC = laid (a.child key) (laid deltaB deltaC)) :
    laid (laid a (.record inB)) (.record inC) = laid a (laid (.record inB) (.record inC)) := by
  obtain ⟨hkeysC, hinnerC⟩ := Value.data_record_iff.mp hdataC
  have hfirst : (laidEntries a inB).keys.Nodup := keys_laidEntries a inB ▸ hkeysB
  have hlater : ∀ base, (laidEntries base inC).keys.Nodup := fun base => keys_laidEntries base inC ▸ hkeysC
  have hboth : (Table.keys (Table.insertAll inB (laidEntries (.record inB) inC))).Nodup :=
    Table.nodup_keys_insertAll hkeysB _
  -- What the two give at each key of either, in the order of the first one.
  have htogether : (laidEntries a inB).insertAll (laidEntries (laid a (.record inB)) inC) =
      laidEntries a (Table.insertAll inB (laidEntries (.record inB) inC)) := by
    refine Table.eq_of_get? (Table.nodup_keys_insertAll hfirst _) ?_ fun key => ?_
    · rw [keys_laidEntries, Table.keys_insertAll _ _ (hlater _), Table.keys_insertAll _ _ (hlater _), keys_laidEntries,
        keys_laidEntries, keys_laidEntries]
    · rw [get?_laidEntries, Table.get?_insertAll _ _ (hlater _), Table.get?_insertAll _ _ (hlater _), get?_laidEntries,
        get?_laidEntries, get?_laidEntries]
      cases hC : Table.get? inC key with
      | none => rfl
      | some deltaC =>
        have hdata : deltaC.Data := hinnerC _ (Table.mem_of_get? hC)
        cases hB : Table.get? inB key with
        | none =>
          have hnothing : (Value.record inB).child key = .null := by
            rw [Value.child, Value.entries, hB]
            rfl
          rw [child_laid_of_none hkeysB hB, hnothing]
          exact congrArg some (congrArg _ (laid_of_not_isRecord hdata id).symm)
        | some deltaB =>
          rw [child_laid_of_some hkeysB hB, child_of_get? (.record inB) hB]
          exact congrArg some (h key deltaB deltaC hB hC)
  rw [laid_record hkeysC (.record inB), Value.entries, laid_record hboth, ← htogether, laid_record hkeysC,
    laid_record hkeysB, Value.entries, Table.insertAll_insertAll _ _ _ hfirst]

theorem laid_laid (hb : b.Data) (hc : c.Data) (h : ∀ path, ¬ Clash a b c path) :
    laid (laid a b) c = laid a (laid b c) := by
  induction c, hc using Value.Data.induction generalizing a b with
  | plain c _ hplain => simp only [laid_of_isPlain hplain]
  | record inC hc ih =>
    by_cases hrecord : b.IsRecord
    · cases b with
      | record inB =>
        obtain ⟨hkeysB, hinnerB⟩ := Value.data_record_iff.mp hb
        refine laid_laid_record hkeysB hc a fun key deltaB deltaC hB hC => ?_
        obtain ⟨_, hinner⟩ := ih (key, deltaC) (Table.mem_of_get? hC)
        exact hinner (hinnerB (key, deltaB) (Table.mem_of_get? hB)) fun path hclash =>
          h _ (hclash.below (b := .record inB) (c := .record inC) hB hC)
      | _ => exact hrecord.elim
    · have hnot : ¬ a.IsRecord := fun ha => h [] <| by
        cases a with
        | record inA => exact ⟨⟨inA, rfl⟩, ⟨b, rfl, hrecord⟩, ⟨inC, rfl⟩⟩
        | _ => exact ha.elim
      rw [laid_of_isPlain (hb.isPlain hrecord), laid_of_not_isRecord hc hrecord, laid_of_not_isRecord hc hnot]

theorem laid_self (hc : c.Data) : laid c c = c := by
  induction c, hc using Value.Data.induction with
  | plain c _ hplain => exact laid_of_isPlain hplain c
  | record entries hc ih =>
    obtain ⟨hkeys, _⟩ := Value.data_record_iff.mp hc
    have hsame : laidEntries (.record entries) entries = entries := laidEntries_eq_self fun entry hentry => by
      obtain ⟨_, hinner⟩ := ih entry hentry
      rw [child_of_get? (.record entries) (Table.get?_of_mem hkeys hentry), hinner]
    rw [laid_record hkeys, hsame, Value.entries, Table.insertAll_self hkeys]

/-- A delta laid a second time changes nothing. -/
theorem laid_laid_self (hc : c.Data) (a : Value ρ) : laid (laid a c) c = laid a c := by
  have hclash : ∀ path, ¬ Clash a c c path := by
    rintro path ⟨_, ⟨value, hvalue, hnot⟩, ⟨_, hrecord⟩⟩
    cases hvalue.symm.trans hrecord
    exact hnot trivial
  rw [laid_laid hc hc hclash, laid_self hc]

theorem exists_of_getBelow?_cons {value found : Value ρ} {key : Key} {path : List Key}
    (h : getBelow? (key :: path) value = some found) : ∃ inner entries, value = .record entries ∧
      Table.get? entries key = some inner ∧ value.child key = inner ∧ getBelow? path inner = some found := by
  rw [getBelow?_cons] at h
  obtain ⟨inner, hinner, hfound⟩ := Option.bind_eq_some_iff.mp h
  cases value with
  | record entries => exact ⟨inner, entries, rfl, hinner, child_of_get? _ hinner, hfound⟩
  | _ => cases hinner

/-- Where two deltas clash, one after the other they leave the record of the second one, and together they put the two
records together. -/
theorem laid_of_clash (hb : b.Data) (hc : c.Data) {path : List Key} (h : Clash a b c path) : ∃ inA inC,
    getBelow? path a = some (.record inA) ∧ getBelow? path c = some (.record inC) ∧
      getBelow? path (laid (laid a b) c) = some (.record inC) ∧
      getBelow? path (laid a (laid b c)) = some (laid (.record inA) (.record inC)) ∧ (Value.record inC).Data := by
  obtain ⟨⟨inA, ha⟩, ⟨value, hvalue, hnot⟩, ⟨inC, hrecord⟩⟩ := h
  induction path generalizing a b c with
  | nil =>
    cases ha
    cases hvalue
    cases hrecord
    refine ⟨inA, inC, rfl, rfl, ?_, ?_, hc⟩
    · rw [laid_of_isPlain (hb.isPlain hnot), laid_of_not_isRecord hc hnot]
      rfl
    · rw [laid_of_not_isRecord hc hnot]
      rfl
  | cons key path ih =>
    obtain ⟨inner, entries, rfl, hget, hchild, ha'⟩ := exists_of_getBelow?_cons ha
    obtain ⟨deltaB, entriesB, rfl, hB, hchildB, hvalue'⟩ := exists_of_getBelow?_cons hvalue
    obtain ⟨deltaC, entriesC, rfl, hC, _, hrecord'⟩ := exists_of_getBelow?_cons hrecord
    obtain ⟨hkeysB, hinnerB⟩ := Value.data_record_iff.mp hb
    obtain ⟨hkeysC, hinnerC⟩ := Value.data_record_iff.mp hc
    obtain ⟨inA', inC', hA, hC', hleft, hright, hdata⟩ := ih (hinnerB _ (Table.mem_of_get? hB))
      (hinnerC _ (Table.mem_of_get? hC)) ha' hvalue' hrecord'
    cases ha'.symm.trans hA
    cases hrecord'.symm.trans hC'
    refine ⟨inA, inC, ha, hrecord, ?_, ?_, hdata⟩
    · rw [getBelow?_laid hkeysC hC, child_laid_of_some hkeysB hB, hchild, hleft]
    · have hboth := get?_laid hkeysC (.record entriesB) key
      have hkeys : (Table.keys (Table.insertAll entriesB (laidEntries (.record entriesB) entriesC))).Nodup :=
        Table.nodup_keys_insertAll hkeysB _
      rw [hC, hchildB, laid_record hkeysC, Value.entries, Value.entries] at hboth
      rw [laid_record hkeysC (.record entriesB), Value.entries, getBelow?_laid hkeys hboth, hchild, hright]

end Three

theorem run_extendConfig {delta : Given} (data : delta.Data) (s : Session) :
    (Pass.extendConfig delta).run s = (.ok (laid s.config delta), { s with config := laid s.config delta }) := by
  simp only [Pass.extendConfig, run_bind, run_get, andThen_ok, run_lift, overlay_eq_laid data]
  rfl

/-- Deltas without transforms, laid over any value. One that is laid twice does what it does once. Two of them can be
laid one after the other or together, as the configuration is extended by them, unless they clash. Where they do, the
first way leaves the record of the second delta, the second way lays that over the record of the value. -/
theorem overlay_batched (a : Given) {b c : Given} (hb : b.Data) (hc : c.Data) :
    (∃ once, overlay a c = .ok once ∧ overlay once c = .ok once) ∧
    ∃ ab bc left right, overlay a b = .ok ab ∧ overlay ab c = .ok left ∧ overlay b c = .ok bc ∧
      overlay a bc = .ok right ∧
      ((∀ path, ¬ Clash a b c path) → left = right ∧ ∀ s : Session, s.config = a →
        (do let _ ← Pass.extendConfig b; Pass.extendConfig c : Pass Given).run s = (Pass.extendConfig bc).run s) ∧
      ∀ path, Clash a b c path → ∃ inA inC both, getBelow? path a = some (.record inA) ∧
        getBelow? path c = some (.record inC) ∧ overlay (.record inA) (.record inC) = .ok both ∧
        getBelow? path left = some (.record inC) ∧ getBelow? path right = some both := by
  have hbc : (laid b c).Data := data_laid hb hc
  refine ⟨⟨laid a c, overlay_eq_laid hc a, ?_⟩, laid a b, laid b c, laid (laid a b) c, laid a (laid b c),
    overlay_eq_laid hb a, overlay_eq_laid hc _, overlay_eq_laid hc b, overlay_eq_laid hbc a, fun hclash => ?_,
    fun path hclash => ?_⟩
  · rw [overlay_eq_laid hc, laid_laid_self hc]
  · have hsame := laid_laid hb hc hclash
    refine ⟨hsame, ?_⟩
    rintro s rfl
    rw [run_bind, run_extendConfig hb, andThen_ok, run_extendConfig hc, run_extendConfig hbc, ← hsame]
  · obtain ⟨inA, inC, hA, hC, hleft, hright, hdata⟩ := laid_of_clash hb hc hclash
    exact ⟨inA, inC, _, hA, hC, overlay_eq_laid hdata _, hleft, hright⟩

/-- Settings of a toolchain, and of its linker. -/
def toolchain : Given :=
  .record [("cc", .text "gcc"), ("ld", .record [("path", .text "ld"), ("threads", .int 1)])]

def linkerThreads : Given :=
  .record [("ld", .record [("threads", .int 4)]), ("debug", .bool true)]

def linkerPath : Given :=
  .record [("ld", .record [("path", .text "lld")])]

/-- A text where the settings have a record. -/
def linkerName : Given :=
  .record [("ld", .text "mold")]

theorem overlay_batched_toolchain :
    (linkerThreads.Data ∧ linkerName.Data ∧ linkerPath.Data) ∧
    (∃ both result, overlay linkerThreads linkerPath = .ok both ∧ overlay toolchain both = .ok result ∧
      ∀ s : Session, s.config = toolchain →
        (do let _ ← Pass.extendConfig linkerThreads; Pass.extendConfig linkerPath : Pass Given).run s =
          (Pass.extendConfig both).run s) ∧
    ∃ ab bc left right, overlay toolchain linkerName = .ok ab ∧ overlay ab linkerPath = .ok left ∧
      overlay linkerName linkerPath = .ok bc ∧ overlay toolchain bc = .ok right ∧
      getBelow? ["ld"] left = some (.record [("path", .text "lld")]) ∧
      getBelow? ["ld"] right = some (.record [("path", .text "lld"), ("threads", .int 1)]) := by
  have hthreads : linkerThreads.Data :=
    ⟨by simp [linkerThreads, Value.KeysOnce, Value.EntriesKeysOnce, Table.keys], rfl⟩
  have hname : linkerName.Data :=
    ⟨by simp [linkerName, Value.KeysOnce, Value.EntriesKeysOnce, Table.keys], rfl⟩
  have hpath : linkerPath.Data :=
    ⟨by simp [linkerPath, Value.KeysOnce, Value.EntriesKeysOnce, Table.keys], rfl⟩
  have hnone : ∀ path, ¬ Clash toolchain linkerThreads linkerPath path := by
    rintro path ⟨_, ⟨value, hvalue, hnot⟩, ⟨inC, hrecord⟩⟩
    -- Records of the second delta are at the root and below `ld`, and there the first one has records as well.
    rcases path with _ | ⟨key, path⟩
    · cases hvalue
      exact hnot trivial
    obtain ⟨inner, _, hentries, hget, _, hinner⟩ := exists_of_getBelow?_cons hrecord
    cases hentries
    obtain ⟨rfl, rfl⟩ : "ld" = key ∧ _ = inner := by simpa [Table.get?] using hget
    rcases path with _ | ⟨key, path⟩
    · cases hvalue
      exact hnot trivial
    obtain ⟨last, _, hentries, hget, _, hlast⟩ := exists_of_getBelow?_cons hinner
    cases hentries
    obtain ⟨-, rfl⟩ : "path" = key ∧ _ = last := by simpa [Table.get?] using hget
    cases path <;> cases hlast
  refine ⟨⟨hthreads, hname, hpath⟩, ?_, ?_⟩
  · obtain ⟨_, _, both, _, result, _, _, hboth, hresult, hsame, _⟩ := overlay_batched toolchain hthreads hpath
    exact ⟨both, result, hboth, hresult, (hsame hnone).2⟩
  · obtain ⟨_, ab, bc, left, right, hab, hleft, hbc, hright, _, hclash⟩ :=
      overlay_batched toolchain hname hpath
    obtain ⟨inA, inC, both, hA, hC, hboth, hbelow⟩ := hclash ["ld"] ⟨⟨_, rfl⟩, ⟨_, rfl, id⟩, ⟨_, rfl⟩⟩
    cases hA
    cases hC
    cases hboth
    exact ⟨ab, bc, left, right, hab, hleft, hbc, hright, hbelow⟩

end Config
end BuildTree
