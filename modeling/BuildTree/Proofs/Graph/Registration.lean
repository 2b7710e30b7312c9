import BuildTree.Proofs.Graph.Ownership

/-!
# What is recorded of registered targets

A target is registered at most once, since its first output is claimed from then on: no later claim takes an output
out of the table. The names that groups are found by are among the claims for the same reason.
-/

namespace BuildTree

theorem Target.SameProducts.name {t u : Target} (h : Target.SameProducts t u) : u.name = t.name :=
  (List.cons.inj h.outputs).1

theorem Target.addOutput_name (path : String) (t : Target) : (t.addOutput path).name = t.name := by
  unfold Target.addOutput
  split <;> rfl

namespace Table
variable {α : Type}

theorem mem_keys_insertKeys_iff (table : Table α) (keys : List String) (value : α) (key : String) :
    key ∈ (table.insertKeys keys value).keys ↔ key ∈ keys ∨ key ∈ table.keys := by
  rw [mem_keys_iff, get?_insertKeys, mem_keys_iff]
  by_cases h : key ∈ keys <;> simp [h]

end Table

namespace Graph
open Relation

structure Recorded (g : Graph) : Prop where
  once : g.targets.Nodup
  claimed : ∀ t ∈ g.targets, (g.node t).name ∈ g.claims.keys
  groups : ∀ n ∈ g.named.keys, n ∈ g.claims.keys

theorem Still.recorded {g g' : Graph} (h : Still g g') (hnamed : g'.named = g.named) (sound : Sound g)
    (recorded : Recorded g) : Recorded g' where
  once := h.targets ▸ recorded.once
  claimed t ht := by
    rw [h.targets] at ht
    rw [h.claims, (h.products t (sound.made t ht)).name]
    exact recorded.claimed t ht
  groups n hn := by
    rw [hnamed] at hn
    rw [h.claims]
    exact recorded.groups n hn

theorem mem_keys_claims_registered {g : Graph} {t : TargetId} {o : String}
    (h : o ∈ (g.node t).allOutputs ∨ o ∈ g.claims.keys) : o ∈ (g.registered t).claims.keys := by
  rw [Table.mem_keys_iff, get?_claims_registered]
  by_cases hfile : g.openedPartition (g.node t) = some o
  · cases hpass : g.pass with
    | none => simp [openedPartition, hpass] at hfile
    | some r => exact ⟨r, if_pos hfile⟩
  · rw [if_neg hfile]
    by_cases ho : o ∈ (g.node t).allOutputs
    · exact ⟨t, if_pos ho⟩
    · rw [if_neg ho]
      exact (Table.mem_keys_iff _ _).mp (h.resolve_left ho)

theorem recorded_registered {g : Graph} (recorded : Recorded g) {t : TargetId} (free : g.Registrable t) :
    Recorded (g.registered t) := by
  have hnew : t ∉ g.targets := by
    intro ht
    have hname : (g.node t).name ∈ (g.node t).allOutputs := List.mem_cons_self
    have hnone := (unclaimed_none_iff g _).mp free.outputs _ hname
    exact (Table.get?_eq_none_iff _ _).mp hnone (recorded.claimed t ht)
  refine ⟨?_, fun u hu => ?_, fun n hn => ?_⟩
  · have hdisjoint : ∀ u ∈ g.targets, ∀ v ∈ [t], u ≠ v := by
      intro u hu v hv he
      exact hnew (List.mem_singleton.mp hv ▸ he ▸ hu)
    exact List.nodup_append.mpr ⟨recorded.once, List.nodup_cons.mpr ⟨List.not_mem_nil, List.nodup_nil⟩, hdisjoint⟩
  · have hnode : (g.registered t).node u = g.node u := rfl
    rw [hnode]
    rcases List.mem_append.mp hu with hu | hu
    · exact mem_keys_claims_registered (.inr (recorded.claimed u hu))
    · rw [List.mem_singleton.mp hu]
      exact mem_keys_claims_registered (.inl List.mem_cons_self)
  · have hn' : n ∈ (if (g.node t).isGroup then g.named.insert (g.node t).name t else g.named).keys := hn
    by_cases hgroup : (g.node t).isGroup = true
    · rw [if_pos hgroup, Table.mem_keys_insert_iff] at hn'
      rcases hn' with rfl | hn'
      · exact mem_keys_claims_registered (.inl List.mem_cons_self)
      · exact mem_keys_claims_registered (.inr (recorded.groups n hn'))
    · rw [if_neg hgroup] at hn'
      exact mem_keys_claims_registered (.inr (recorded.groups n hn'))

/-- A file of the pass becomes no target's name. -/
theorem name_generated {g : Graph} {t : TargetId} (made : g.Made t) (r : TargetId) (path : String) :
    ((g.generated r path).node t).name = (g.node t).name := by
  by_cases hr : t = r
  · have hnode : (g.generated r path).node t = (g.node t).addOutput path := by
      rw [← hr]
      exact node_modifyNode_self g _ made
    rw [hnode, Target.addOutput_name]
  · have hnode : (g.generated r path).node t = g.node t := node_modifyNode_of_ne g _ hr
    rw [hnode]

theorem recorded_generated {g : Graph} (recorded : Recorded g) (sound : Sound g) (r : TargetId) (path : String) :
    Recorded (g.generated r path) := by
  have hkeys : ∀ o ∈ g.claims.keys, o ∈ (g.generated r path).claims.keys := fun o ho =>
    (Table.mem_keys_insert_iff _ _ _ _).mpr (.inr ho)
  refine ⟨recorded.once, fun t ht => hkeys _ ?_, fun n hn => hkeys n (recorded.groups n hn)⟩
  rw [name_generated (sound.made t ht)]
  exact recorded.claimed t ht

theorem recorded_installed {g : Graph} (recorded : Recorded g) (r : TargetId) : Recorded (g.installed r) := by
  have hkeys : ∀ o ∈ g.claims.keys, o ∈ (g.installed r).claims.keys := fun o ho =>
    (Table.mem_keys_insertKeys_iff _ _ _ _).mpr (.inr ho)
  exact ⟨recorded.once, fun t ht => hkeys _ (recorded.claimed t ht), fun n hn => hkeys n (recorded.groups n hn)⟩

variable {Asked : TargetId → Prop}

theorem Growth.recorded {g g' : Graph} (step : Growth Target.Named Asked g g') (sound : Sound g)
    (recorded : Recorded g) : Recorded g' := by
  cases step with
  | make fit => exact (still_push g _).recorded rfl sound recorded
  | edit t same => exact (still_modifyNode g t same).recorded rfl sound recorded
  | enterTag location fresh => exact (still_withTag g _ location).recorded rfl sound recorded
  | enterPool admitted => exact (still_withPool g _ _).recorded rfl sound recorded
  | register made free asked => exact recorded_registered recorded free
  | generate free => exact recorded_generated recorded sound _ _

theorem recorded_of_growth {g g' : Graph} (steps : ReflTransGen (Growth Target.Named Asked) g g') (sound : Sound g)
    (recorded : Recorded g) : Recorded g' :=
  Growth.invariant Growth.recorded steps sound recorded

theorem recorded_start (buildDir : Option String) : Recorded (start buildDir) := by
  apply recorded_of_growth (growth_start buildDir) (sound_blank buildDir)
  exact ⟨List.nodup_nil, fun _ h => absurd h List.not_mem_nil, fun _ h => absurd h List.not_mem_nil⟩

theorem recorded_run {g : Graph} {ops : List Operation} (valid : g.ValidRun ops) (sound : Sound g)
    (recorded : Recorded g) : Recorded (g.run ops) := by
  induction ops generalizing g with
  | nil => exact recorded
  | cons op rest ih =>
    rw [run_cons]
    rcases after_cases valid.1 with ⟨r, _, made, _, _, hafter⟩ | ⟨_, steps⟩
    · exact ih valid.2 (hafter ▸ sound_installed sound made) (hafter ▸ recorded_installed recorded r)
    · exact ih valid.2 (sound_of_growth steps sound) (recorded_of_growth steps sound recorded)

end Graph
end BuildTree
