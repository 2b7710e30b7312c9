import BuildTree.Proofs.Graph.Tag

/-!
# No output is made twice

While no target for the pass is registered, two registered targets never make the same output. What registering
checks is enough for that alone: the outputs of a registered target are claimed, by it or by the pass, and what is
claimed is refused. It does not matter who they are claimed for or what partitions there are.
-/

namespace BuildTree.Graph
open Effect Relation

/-- Registered targets are ordinary ones, their outputs are claimed, and no output belongs to two of them. -/
structure Apart (g : Graph) : Prop where
  ordinary : ∀ t ∈ g.targets, g.Ordinary t
  claimed : ∀ t ∈ g.targets, ∀ o ∈ (g.node t).allOutputs, o ∈ g.claims.keys
  unique : ∀ t ∈ g.targets, ∀ u ∈ g.targets, ∀ o ∈ (g.node t).allOutputs, o ∈ (g.node u).allOutputs → t = u

theorem apart_blank (buildDir : Option String) : Apart (blank buildDir) :=
  ⟨fun _ h => absurd h List.not_mem_nil, fun _ h => absurd h List.not_mem_nil, fun _ h => absurd h List.not_mem_nil⟩

theorem apart_installed {g : Graph} (r : TargetId) (h : Apart g) : Apart (g.installed r) where
  ordinary := h.ordinary
  claimed t ht o ho := (Table.mem_keys_insertKeys_iff _ _ _ _).mpr (.inr (h.claimed t ht o ho))
  unique := h.unique

variable {Fit : Target → Prop} {g g' : Graph}

theorem apart_registered (h : Apart g) {t : TargetId} (ordinary : g.Ordinary t) (free : g.Registrable t) :
    Apart (g.registered t) := by
  have hnew : ∀ u ∈ g.targets, ∀ o ∈ (g.node u).allOutputs, o ∉ (g.node t).allOutputs := fun u hu o ho => by
    obtain ⟨owner, hclaim⟩ := (Table.mem_keys_iff _ _).mp (h.claimed u hu o ho)
    exact free.notMem hclaim
  have hmem : ∀ {u}, u ∈ (g.registered t).targets → u ∈ g.targets ∨ u = t := fun hu =>
    (List.mem_append.mp hu).imp_right List.mem_singleton.mp
  refine ⟨fun u hu => ?_, fun u hu o ho => ?_, fun u hu v hv o hou hov => ?_⟩
  · rcases hmem hu with hu | rfl
    · exact h.ordinary u hu
    · exact ordinary
  · rcases hmem hu with hu | rfl
    · exact mem_keys_claims_registered (.inr (h.claimed u hu o ho))
    · exact mem_keys_claims_registered (.inl ho)
  · rcases hmem hu with hold | rfl <;> rcases hmem hv with hother | rfl
    · exact h.unique u hold v hother o hou hov
    · exact absurd hov (hnew u hold o hou)
    · exact absurd hou (hnew v hother o hov)
    · rfl

theorem Growth.apart (step : Growth Fit (fun _ => False) g g') (h : Apart g) : Apart g' := by
  by_cases htargets : g'.targets = g.targets
  · have houts : ∀ t ∈ g.targets, (g'.node t).allOutputs = (g.node t).allOutputs := fun t ht =>
      (step.products (h.ordinary t ht)).allOutputs
    refine ⟨fun t ht => ?_, fun t ht o ho => ?_, fun t ht u hu o hot hou => ?_⟩
    · exact step.keeps.ordinary (h.ordinary t (htargets ▸ ht))
    · rw [htargets] at ht
      exact step.claimed (h.claimed t ht o (houts t ht ▸ ho))
    · rw [htargets] at ht hu
      exact h.unique t ht u hu o (houts t ht ▸ hot) (houts u hu ▸ hou)
  · cases step with
    | register made free asked =>
      exact apart_registered h ⟨made, Bool.eq_false_iff.mpr asked⟩ free
    | _ => exact absurd rfl htargets

end BuildTree.Graph
