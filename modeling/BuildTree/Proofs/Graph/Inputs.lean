import BuildTree.Proofs.Graph.EachTarget

/-!
# Where explicit inputs come from

Explicit inputs are added to a target by two kinds of change only: one that is asked to add them to it, and one that
makes the pass depend on a path. Every other change leaves those of all targets alone.

What is found by a name or belongs to a tag is never the target for the pass, so the first of these does not change
what the pass depends on.
-/

namespace BuildTree.Graph
open Effect Relation

/-- Explicit inputs stay as they are. -/
def SameInputs (t u : Target) : Prop :=
  u.inputs = t.inputs

theorem addOutput_inputs (path : String) (t : Target) : (t.addOutput path).inputs = t.inputs := by
  unfold Target.addOutput
  split <;> rfl

instance : Steady SameInputs fun _ => True where
  refl _ := rfl
  trans h h' := Eq.trans h' h
  new _ _ := trivial
  group _ _ := trivial
  implicitInputs _ _ := rfl
  metadata _ _ := rfl
  output t path _ := addOutput_inputs path t

/-- A target that has a place and does not stand for a pass. -/
def Ordinary (g : Graph) (t : TargetId) : Prop :=
  g.Made t ∧ (g.node t).isPass = false

theorem Keeps.isPass {g g' : Graph} (h : Keeps g g') {t : TargetId} (made : g.Made t) :
    (g'.node t).isPass = (g.node t).isPass := by
  rw [Target.isPass, Target.isPass, h.action t made]

theorem Keeps.ordinary {g g' : Graph} (h : Keeps g g') {t : TargetId} (ordinary : g.Ordinary t) : g'.Ordinary t :=
  ⟨h.made t ordinary.1, (h.isPass ordinary.1).trans ordinary.2⟩

theorem ordinary_withTag (g : Graph) (name : String) (location : Option Location) :
    (g.withTag name location).Ordinary ⟨g.nodes.size⟩ := by
  have hgroup : (g.withTag name location).node ⟨g.nodes.size⟩ = Target.emptyGroup (tagPrefix ++ name) location :=
    node_push_self g _
  refine ⟨by simp [Made, withTag], ?_⟩
  rw [hgroup]
  rfl

theorem keeps_register (g : Graph) (t : TargetId) : Keeps g ((register t).run g).2 := by
  rcases (register_decides g t).after_cases with ⟨_, h⟩ | ⟨_, h⟩
  · rw [h]
    exact keeps_registered g t
  · rw [h]
    exact .refl g

/-- What is found by its name or belongs to a tag does not stand for a pass. -/
structure Indexed (g : Graph) : Prop where
  named : ∀ entry ∈ g.named, g.Ordinary entry.2
  tags : ∀ entry ∈ g.tags, g.Ordinary entry.2

variable {Fit : Target → Prop} {Asked : TargetId → Prop}

theorem Growth.indexed {g g' : Graph} (step : Growth Fit Asked g g') (h : Indexed g) : Indexed g' := by
  have hkeeps := step.keeps
  cases step with
  | make fit => exact ⟨fun e he => hkeeps.ordinary (h.named e he), fun e he => hkeeps.ordinary (h.tags e he)⟩
  | edit t same => exact ⟨fun e he => hkeeps.ordinary (h.named e he), fun e he => hkeeps.ordinary (h.tags e he)⟩
  | enterPool admitted => exact ⟨h.named, h.tags⟩
  | generate free => exact ⟨fun e he => hkeeps.ordinary (h.named e he), fun e he => hkeeps.ordinary (h.tags e he)⟩
  | enterTag location fresh =>
    refine ⟨fun e he => hkeeps.ordinary (h.named e he), fun e he => ?_⟩
    rcases Table.mem_of_mem_insert he with rfl | he
    · exact ordinary_withTag g _ location
    · exact hkeeps.ordinary (h.tags e he)
  | @register t made free asked =>
    refine ⟨fun e he => ?_, h.tags⟩
    have he' : e ∈ (if (g.node t).isGroup then g.named.insert (g.node t).name t else g.named) := he
    split at he'
    next hgroup =>
      rcases Table.mem_of_mem_insert he' with rfl | he'
      · refine ⟨made, ?_⟩
        have hnode : (g.registered t).node t = g.node t := rfl
        rw [hnode]
        unfold Target.isGroup at hgroup
        unfold Target.isPass
        cases haction : (g.node t).action <;> simp [haction] at hgroup ⊢
      · exact h.named e he'
    · exact h.named e he'

theorem indexed_of_steps {g g' : Graph} (steps : ReflTransGen (Growth Fit Asked) g g') (h : Indexed g) :
    Indexed g' := by
  induction steps with
  | refl => exact h
  | tail _ step ih => exact step.indexed ih

theorem indexed_blank (buildDir : Option String) : Indexed (blank buildDir) :=
  ⟨fun _ h => absurd h List.not_mem_nil, fun _ h => absurd h List.not_mem_nil⟩

theorem indexed_start (buildDir : Option String) : Indexed (start buildDir) :=
  have hgrowth : ReflTransGen (Growth (fun _ => True) fun _ => True) (blank buildDir) (start buildDir) :=
    growth_tag (blank buildDir) defaultTag none
  indexed_of_steps hgrowth (indexed_blank buildDir)

section Found
variable {g : Graph} {t : TargetId}

theorem exists_of_findMatching {source : String} {e : Pattern.Expression} (h : g.findMatching source e = .ok t) :
    ∃ entry ∈ g.named, entry.2 = t := by
  unfold findMatching at h
  split at h
  · cases h
  next u hmatching =>
    cases h
    have hmem : t ∈ g.matching e := hmatching ▸ List.mem_singleton_self t
    obtain ⟨entry, hentry, rfl⟩ := List.mem_map.mp hmem
    exact ⟨entry, (List.mem_filter.mp hentry).1, rfl⟩
  · cases h

/-- What is found is found by its name. -/
theorem exists_of_findGiven {value : Given} (h : g.findGiven value = .ok t) : ∃ entry ∈ g.named, entry.2 = t := by
  cases value with
  | text name =>
    simp only [findGiven, find, group?] at h
    split at h
    next hgroup =>
      cases h
      exact ⟨_, Table.mem_of_get? hgroup, rfl⟩
    · split at h
      · exact exists_of_findMatching h
      · cases h
  | pattern source ignoreCase =>
    obtain ⟨e, _, h⟩ := (bind_eq_ok_iff _ _ _).mp h
    exact exists_of_findMatching h
  | _ => cases h

end Found

namespace Indexed
variable {g : Graph} {t : TargetId}

theorem of_findGiven (h : Indexed g) {value : Given} (hfind : g.findGiven value = .ok t) : g.Ordinary t := by
  obtain ⟨entry, hentry, rfl⟩ := exists_of_findGiven hfind
  exact h.named entry hentry

theorem of_tag (h : Indexed g) {name : String} {location : Option Location} {g' : Graph}
    (htag : (tag name location).run g = (.ok t, g')) : g'.Ordinary t := by
  cases hget : g.tags.get? name with
  | some u =>
    cases htag.symm.trans (tag_of_some location hget)
    exact h.tags _ (Table.mem_of_get? hget)
  | none =>
    rw [tag_of_none location hget] at htag
    have hkeeps := keeps_register (g.withTag name location) ⟨g.nodes.size⟩
    generalize (register ⟨g.nodes.size⟩).run (g.withTag name location) = registered at htag hkeeps
    obtain ⟨outcome, g''⟩ := registered
    cases outcome with
    | error f => cases congrArg Prod.fst htag
    | ok u =>
      cases htag
      exact hkeeps.ordinary (ordinary_withTag g name location)

end Indexed

end BuildTree.Graph
