import BuildTree.Proofs.Graph.Ownership

/-!
# Declared pools

A pool is entered only with a depth of one at least, so every pool of a graph has one. A text finds just the pool that
was declared by the same text.
-/

namespace BuildTree

namespace Value
variable {ρ : Type} [DecidableEq ρ]

theorem eq_text_of_same {key : Value ρ} {name : String} (h : key.same (.text name) = true) : key = .text name := by
  cases key <;> simp [same, sameLeaf, whole?] at h ⊢
  exact h

end Value

namespace ValueTable
variable {ρ α : Type} [DecidableEq ρ]

theorem mem_of_has_text {table : ValueTable ρ α} {name : String} (h : table.has (.text name) = true) :
    ∃ value, (.text name, value) ∈ table := by
  induction table with
  | nil => cases h
  | cons entry rest ih =>
    rw [has, get?] at h
    split at h
    next hsame => exact ⟨entry.2, by rw [← Value.eq_text_of_same hsame]; exact List.mem_cons_self⟩
    next =>
      obtain ⟨value, hvalue⟩ := ih h
      exact ⟨value, List.mem_cons_of_mem entry hvalue⟩

theorem snd_of_mem_insert {table : ValueTable ρ α} {key : Value ρ} {value : α} {entry : Value ρ × α}
    (h : entry ∈ table.insert key value) : entry.2 = value ∨ ∃ old ∈ table, old.2 = entry.2 := by
  induction table with
  | nil => exact .inl (congrArg Prod.snd (List.mem_singleton.mp h))
  | cons first rest ih =>
    rw [insert] at h
    split at h
    · rcases List.mem_cons.mp h with rfl | h
      · exact .inl rfl
      · exact .inr ⟨entry, List.mem_cons_of_mem first h, rfl⟩
    · rcases List.mem_cons.mp h with rfl | h
      · exact .inr ⟨_, List.mem_cons_self, rfl⟩
      · refine (ih h).imp_right fun ⟨old, hold, he⟩ => ⟨old, List.mem_cons_of_mem first hold, he⟩

end ValueTable

namespace Graph
open Relation

/-- Every pool has a depth of one at least. -/
def PoolsDeep (g : Graph) : Prop :=
  ∀ pool ∈ g.pools, deepEnough pool.2 = true

section Pools
variable {Asked : TargetId → Prop} {g g' : Graph}

theorem Growth.poolsDeep (step : Growth Target.Named Asked g g') (h : PoolsDeep g) : PoolsDeep g' := by
  cases step with
  | enterPool admitted =>
    intro pool hpool
    rcases ValueTable.snd_of_mem_insert hpool with he | ⟨old, hold, he⟩
    · exact he ▸ admitted.deep
    · exact he ▸ h old hold
  | _ => exact h

theorem poolsDeep_of_growth (steps : ReflTransGen (Growth Target.Named Asked) g g') (h : PoolsDeep g) :
    PoolsDeep g' := by
  induction steps with
  | refl => exact h
  | tail _ step ih => exact step.poolsDeep ih

theorem poolsDeep_start (buildDir : Option String) : PoolsDeep (start buildDir) :=
  poolsDeep_of_growth (growth_start buildDir) fun _ h => absurd h List.not_mem_nil

theorem poolsDeep_run {ops : List Operation} (valid : g.ValidRun ops) (h : PoolsDeep g) : PoolsDeep (g.run ops) := by
  induction ops generalizing g with
  | nil => exact h
  | cons op rest ih =>
    rw [run_cons]
    rcases after_cases valid.1 with ⟨r, _, _, _, _, hafter⟩ | ⟨_, steps⟩
    · exact ih valid.2 (hafter ▸ h)
    · exact ih valid.2 (poolsDeep_of_growth steps h)

end Pools
end Graph

end BuildTree
