import BuildTree.Arguments.Reading
import BuildTree.Proofs.Effect
import BuildTree.Proofs.Table

/-!
# The targets that arguments stand for

Where dependencies are wanted, an argument stands for the target that it is or for those among its items. Resolving
arguments looks up every target that they stand for, so what is depended on has been looked up.
-/

namespace BuildTree
open Effect

namespace Value
variable {ρ σ : Type}

/-- The target that a value is as a dependency. -/
def reference? : Value ρ → Option ρ
  | .target t => some t
  | .targetDependency t => some t
  | _ => none

/-- The targets that a value stands for where dependencies are wanted. -/
def references : Value ρ → List ρ
  | .list items => items.filterMap reference?
  | value => value.reference?.toList

theorem exists_of_mem_resolveItems {lookUp : ρ → Except Fault σ} {items : List (Value ρ)} {resolved : List (Value σ)}
    (h : resolveItems lookUp items = .ok resolved) {w : Value σ} (hw : w ∈ resolved) :
    ∃ v ∈ items, v.resolve lookUp = .ok w := by
  induction items generalizing resolved with
  | nil =>
    cases h
    cases hw
  | cons v rest ih =>
    obtain ⟨first, hfirst, h⟩ := (bind_eq_ok_iff _ _ _).mp h
    obtain ⟨others, hothers, h⟩ := (bind_eq_ok_iff _ _ _).mp h
    cases h
    rcases List.mem_cons.mp hw with rfl | hw
    · exact ⟨v, List.mem_cons_self, hfirst⟩
    · obtain ⟨v', hv', hw⟩ := ih hothers hw
      exact ⟨v', List.mem_cons_of_mem v hv', hw⟩

theorem exists_of_mem_resolveNamed {lookUp : ρ → Except Fault σ} {entries : Table (Value ρ)}
    {resolved : Table (Value σ)} (h : resolveNamed lookUp entries = .ok resolved) {entry : String × Value σ}
    (hentry : entry ∈ resolved) : ∃ v : Value ρ, v.resolve lookUp = .ok entry.2 := by
  induction entries generalizing resolved with
  | nil =>
    cases h
    cases hentry
  | cons e rest ih =>
    obtain ⟨first, hfirst, h⟩ := (bind_eq_ok_iff _ _ _).mp h
    obtain ⟨others, hothers, h⟩ := (bind_eq_ok_iff _ _ _).mp h
    cases h
    rcases List.mem_cons.mp hentry with rfl | hentry
    · exact ⟨e.2, hfirst⟩
    · exact ih hothers hentry

theorem lookedUp_of_reference? {lookUp : ρ → Except Fault σ} {v : Value ρ} {w : Value σ}
    (h : v.resolve lookUp = .ok w) {u : σ} (hu : w.reference? = some u) : ∃ name, lookUp name = .ok u := by
  cases v with
  | target name =>
    obtain ⟨t, ht, rfl⟩ := (map_eq_ok_iff _ _ _).mp h
    cases hu
    exact ⟨name, ht⟩
  | targetDependency name =>
    obtain ⟨t, ht, rfl⟩ := (map_eq_ok_iff _ _ _).mp h
    cases hu
    exact ⟨name, ht⟩
  | list items =>
    obtain ⟨_, _, rfl⟩ := (map_eq_ok_iff _ _ _).mp h
    cases hu
  | record entries =>
    obtain ⟨_, _, rfl⟩ := (map_eq_ok_iff _ _ _).mp h
    cases hu
  | pattern source ignoreCase =>
    obtain ⟨_, _, rfl⟩ := (map_eq_ok_iff _ _ _).mp h
    cases hu
  | _ =>
    cases h
    cases hu

/-- What a resolved value stands for has been looked up. -/
theorem lookedUp_of_resolve {lookUp : ρ → Except Fault σ} {v : Value ρ} {w : Value σ} (h : v.resolve lookUp = .ok w)
    {u : σ} (hu : u ∈ w.references) : ∃ name, lookUp name = .ok u := by
  have hone : w.references = w.reference?.toList → ∃ name, lookUp name = .ok u := fun hw =>
    lookedUp_of_reference? h (Option.mem_toList.mp (hw ▸ hu))
  cases w with
  | list resolved =>
    cases v with
    | list items =>
      obtain ⟨_, hitems, he⟩ := (map_eq_ok_iff _ _ _).mp h
      cases he
      obtain ⟨w, hw, hu⟩ := List.mem_filterMap.mp hu
      obtain ⟨v, _, hv⟩ := exists_of_mem_resolveItems hitems hw
      exact lookedUp_of_reference? hv hu
    | _ => simp [resolve, checkedPattern, map_eq_ok_iff] at h
  | _ => exact hone rfl

end Value

section Arguments
variable {ρ σ : Type}

/-- The targets that arguments stand for where dependencies are wanted. -/
def Arguments.references (args : Arguments ρ) : List ρ :=
  (args.positional ++ args.named.values).flatMap Value.references

/-- The targets that bound arguments stand for where dependencies are wanted. -/
def Bound.references (b : Bound ρ) : List ρ :=
  (b.given.values ++ b.rest).flatMap Value.references

/-- What resolved arguments stand for has been looked up. -/
theorem Arguments.lookedUp_of_resolve {lookUp : ρ → Except Fault σ} {args : Arguments ρ} {resolved : Arguments σ}
    (h : args.resolve lookUp = .ok resolved) {u : σ} (hu : u ∈ resolved.references) : ∃ name, lookUp name = .ok u := by
  obtain ⟨positional, hpositional, h⟩ := (bind_eq_ok_iff _ _ _).mp h
  obtain ⟨named, hnamed, h⟩ := (bind_eq_ok_iff _ _ _).mp h
  cases h
  obtain ⟨w, hw, hu⟩ := List.mem_flatMap.mp hu
  rcases List.mem_append.mp hw with hw | hw
  · obtain ⟨v, _, hv⟩ := Value.exists_of_mem_resolveItems hpositional hw
    exact Value.lookedUp_of_resolve hv hu
  · obtain ⟨entry, hentry, rfl⟩ := List.mem_map.mp hw
    obtain ⟨v, hv⟩ := Value.exists_of_mem_resolveNamed hnamed hentry
    exact Value.lookedUp_of_resolve hv hu

/-- Binding arguments brings in no targets. -/
theorem Signature.references_subset {s : Signature} {args : Arguments ρ} {b : Bound ρ} (h : s.bind? args = some b) :
    b.references ⊆ args.references := by
  unfold bind? at h
  split at h
  · cases h
    intro u hu
    obtain ⟨v, hv, hu⟩ := List.mem_flatMap.mp hu
    refine List.mem_flatMap.mpr ⟨v, ?_, hu⟩
    rcases List.mem_append.mp hv with hv | hv
    · obtain ⟨entry, hentry, rfl⟩ := List.mem_map.mp hv
      rcases List.mem_append.mp hentry with hentry | hentry
      · exact List.mem_append_left _ (List.of_mem_zip (show (entry.1, entry.2) ∈ _ from hentry)).2
      · exact List.mem_append_right _ (List.mem_map_of_mem hentry)
    · exact List.mem_append_left _ (List.mem_of_mem_drop hv)
  · cases h

namespace Bound
variable (b : Bound ρ)

theorem references_getD_subset (name : String) {default : Value ρ} (h : default.references = []) :
    ((b.given.get? name).getD default).references ⊆ b.references := by
  cases hget : b.given.get? name with
  | none =>
    rw [Option.getD_none, h]
    exact List.nil_subset _
  | some v =>
    intro u hu
    exact List.mem_flatMap.mpr ⟨v, List.mem_append_left _ (List.mem_map_of_mem (Table.mem_of_get? hget)), hu⟩

theorem references_get_subset (name : String) : (b.get name).references ⊆ b.references :=
  b.references_getD_subset name rfl

theorem references_getMany_subset (name : String) : (b.getMany name).references ⊆ b.references :=
  b.references_getD_subset name rfl

theorem mem_references_of_rest {v : Value ρ} (hv : v ∈ b.rest) {u : ρ} (hu : u ∈ v.references) : u ∈ b.references :=
  List.mem_flatMap.mpr ⟨v, List.mem_append_right _ hv, hu⟩

end Bound
end Arguments

namespace Argument
variable {g : Graph}

theorem reference?_of_dependency {value : Given} {u : TargetId} (h : dependency g value = .ok (.target u)) :
    value.reference? = some u := by
  cases value with
  | target t =>
    cases h
    rfl
  | targetDependency t =>
    cases h
    rfl
  | _ => cases h

theorem mem_references {value : Given} {u : TargetId} (h : value.reference? = some u) : u ∈ value.references := by
  cases value with
  | target t =>
    cases h
    exact List.mem_singleton_self u
  | targetDependency t =>
    cases h
    exact List.mem_singleton_self u
  | _ => cases h

/-- The items of an argument stand for no other targets than the argument. -/
theorem mem_references_of_items {value : Given} {values : List Given} (h : items value = .ok values) {v : Given}
    (hv : v ∈ values) {u : TargetId} (hu : v.reference? = some u) : u ∈ value.references := by
  cases value with
  | list vs =>
    cases h
    exact List.mem_filterMap.mpr ⟨v, hv, hu⟩
  | text s =>
    cases h
    obtain ⟨c, _, rfl⟩ := List.mem_map.mp hv
    cases hu
  | record entries =>
    cases h
    obtain ⟨⟨key, _⟩, _, rfl⟩ := List.mem_map.mp hv
    cases key <;> cases hu
  | _ => cases h

theorem references_oneDependency_subset (value : Given) : (oneDependency value).references ⊆ value.references := by
  unfold oneDependency
  split
  · intro u hu
    obtain ⟨v, hv, hu⟩ := List.mem_filterMap.mp hu
    rw [List.mem_singleton.mp hv] at hu
    exact mem_references hu
  · exact List.Subset.refl _

/-- Dependencies on targets are on those that the argument stands for. -/
theorem mem_references_of_dependencies {value : Given} {deps : List Dependency} (h : dependencies g value = .ok deps)
    {u : TargetId} (hu : .target u ∈ deps) : u ∈ value.references := by
  obtain ⟨values, hvalues, h⟩ := (bind_eq_ok_iff _ _ _).mp h
  obtain ⟨v, hv, hdep⟩ := exists_of_mem_mapM h hu
  exact mem_references_of_items hvalues hv (reference?_of_dependency hdep)

/-- A single value is read as its text. -/
theorem texts_singleton {value : Given} {names : List String}
    (h : texts g (onePath (.list [value])) = .ok names) : ∃ name, text g value = .ok name ∧ names = [name] := by
  have hmap : [value].mapM (text g) = .ok names := h
  rw [List.mapM_cons] at hmap
  obtain ⟨name, hname, hmap⟩ := (bind_eq_ok_iff _ _ _).mp hmap
  exact ⟨name, hname, (Except.ok.inj hmap).symm⟩

theorem reference?_of_leadingDependencies {values : List Given} {u : TargetId}
    (hu : .target u ∈ (leadingDependencies g values).1) : ∃ v ∈ values, v.reference? = some u := by
  induction values with
  | nil => cases hu
  | cons v rest ih =>
    rw [leadingDependencies] at hu
    cases hdep : dependency g v with
    | error fault =>
      rw [hdep] at hu
      cases hu
    | ok dep =>
      rw [hdep] at hu
      rcases List.mem_cons.mp hu with hu | hu
      · exact ⟨v, List.mem_cons_self, reference?_of_dependency (hu ▸ hdep)⟩
      · obtain ⟨w, hw, hu⟩ := ih hu
        exact ⟨w, List.mem_cons_of_mem v hw, hu⟩

end Argument
end BuildTree
