import BuildTree.Proofs.Graph.Growth
import BuildTree.Proofs.Graph.Partition

/-!
# Runs of operations

A graph comes about by operations, one after the other, whether they are carried out or refused. Each of them is
growth, but for the one that makes another target the one for the pass.
-/

namespace BuildTree.Graph
open Relation

inductive Operation where
  | make (t : Target)
  | register (t : TargetId)
  | tag (name : String) (location : Option Location)
  | attach (dep : Dependency) (location : Option Location) (names : List String)
  | addInputs (t : TargetId) (deps : List Dependency)
  | addImplicitInputs (t : TargetId) (deps : List Dependency)
  | setMetadata (t : TargetId) (entries : Record TargetId)
  | install (t : TargetId)
  | addGenerated (path : String) (location : Option Location)
  | declarePool (name : Given) (depth : PoolDepth) (location : Option Location)

def Operation.change : Operation → Change Unit
  | .make t => do let _ ← allocate t
  | .register t => Graph.register t
  | .tag name location => do let _ ← Graph.tag name location
  | .attach dep location names => Graph.attach dep location names
  | .addInputs t deps => Graph.addInputs t deps
  | .addImplicitInputs t deps => Graph.addImplicitInputs t deps
  | .setMetadata t entries => Graph.setMetadata t entries
  | .install t => setPass t
  | .addGenerated path location => Graph.addGenerated path location
  | .declarePool name depth location => Graph.declarePool name depth location

/-- An operation is about targets that exist, and what is made for the pass is a target of that kind. -/
def Operation.Valid (g : Graph) : Operation → Prop
  | .make t => t.Named
  | .register t => g.Made t
  | .install t => g.Made t ∧ (g.node t).isPass = true
  | _ => True

def accepts (g : Graph) (op : Operation) : Bool :=
  (op.change.run g).1.isOk

def after (g : Graph) (op : Operation) : Graph :=
  (op.change.run g).2

def run (g : Graph) (ops : List Operation) : Graph :=
  ops.foldl after g

/-- Every operation of a run is valid when its turn comes. -/
def ValidRun : Graph → List Operation → Prop
  | _, [] => True
  | g, op :: rest => op.Valid g ∧ ValidRun (g.after op) rest

def installedBy (g : Graph) (op : Operation) : Option TargetId :=
  match op with
  | .install t => if g.accepts op then some t else none
  | _ => none

/-- The targets that a run makes the one for the pass, in order. -/
def installs : Graph → List Operation → List TargetId
  | _, [] => []
  | g, op :: rest => (g.installedBy op).toList ++ installs (g.after op) rest

/-- The targets that a run asks to register, carried out or not. -/
def registers (ops : List Operation) : List TargetId :=
  ops.filterMap fun
    | .register t => some t
    | _ => none

@[simp] theorem run_nil (g : Graph) : g.run [] = g := rfl

@[simp] theorem run_cons (g : Graph) (op : Operation) (ops : List Operation) :
    g.run (op :: ops) = (g.after op).run ops := rfl

theorem accepts_iff {g : Graph} (op : Operation) {admits : Prop} {next : Graph}
    (h : Decides op.change g admits () next) : g.accepts op = true ↔ admits := by
  rw [← h.accepts_iff, accepts]
  cases (op.change.run g).1 <;> simp [Except.isOk, Except.toBool]

theorem accepts_install_iff (g : Graph) (r : TargetId) :
    g.accepts (.install r) = true ↔ g.Installable r :=
  accepts_iff (.install r) (setPass_decides g r)

theorem accepts_register_iff (g : Graph) (t : TargetId) : g.accepts (.register t) = true ↔ g.Registrable t :=
  accepts_iff (.register t) (register_decides g t)

theorem after_tag (g : Graph) (name : String) (location : Option Location) :
    g.after (.tag name location) = ((Graph.tag name location).run g).2 := by
  rw [after, Operation.change, Effect.run_bind]
  rcases (Graph.tag name location).run g with ⟨_ | _, g'⟩ <;> rfl

/-- An operation installs a target for the pass, or it is growth. -/
theorem after_cases {g : Graph} {op : Operation} (valid : op.Valid g) :
    (∃ r, op = .install r ∧ g.Made r ∧ g.Unclaimed g.pass (g.passClaims (g.node r)) ∧ g.installedBy op = some r ∧
        g.after op = g.installed r) ∨
      (g.installedBy op = none ∧
        ReflTransGen (Growth Target.Named fun t => op = .register t) g (g.after op)) := by
  cases op with
  | make t => exact .inr ⟨rfl, .single (.make g valid)⟩
  | register t => exact .inr ⟨rfl, growth_register g valid fun _ => rfl⟩
  | tag name location =>
    refine .inr ⟨rfl, ?_⟩
    have h : ReflTransGen (Growth Target.Named fun t => Operation.tag name location = .register t) g
        ((Graph.tag name location).run g).2 := growth_tag g name location
    rwa [after_tag]
  | attach dep location names => exact .inr ⟨rfl, growth_attach g dep location names⟩
  | addInputs t deps => exact .inr ⟨rfl, .single (.edit g t fun u => ⟨rfl, rfl, rfl, rfl⟩)⟩
  | addImplicitInputs t deps => exact .inr ⟨rfl, .single (.edit g t fun u => ⟨rfl, rfl, rfl, rfl⟩)⟩
  | setMetadata t entries => exact .inr ⟨rfl, .single (.edit g t fun u => ⟨rfl, rfl, rfl, rfl⟩)⟩
  | install r =>
    have hacc := accepts_install_iff g r
    rcases (setPass_decides g r).after_cases with ⟨free, h⟩ | ⟨taken, h⟩
    · exact .inl ⟨r, rfl, valid.1, free.files, by rw [installedBy, if_pos (hacc.mpr free)], h⟩
    · refine .inr ⟨by rw [installedBy, if_neg (fun ha => taken (hacc.mp ha))], ?_⟩
      have hg : g.after (.install r) = g := h
      rw [hg]
  | addGenerated path location => exact .inr ⟨rfl, growth_addGenerated g path location⟩
  | declarePool name depth location => exact .inr ⟨rfl, growth_declarePool g name depth location⟩

/-- A graph whose registered targets and whose target for the pass exist, and whose partitions have names. -/
structure Sound (g : Graph) : Prop where
  made : ∀ t ∈ g.targets, g.Made t
  passMade : ∀ r, g.pass = some r → g.Made r
  named : ∀ t, g.Made t → (g.node t).Named

theorem Sound.targetsNamed {g : Graph} (h : Sound g) : ∀ t ∈ g.targets, (g.node t).Named := fun t ht =>
  h.named t (h.made t ht)

theorem made_push_iff (g : Graph) (t : Target) (u : TargetId) :
    ({ g with nodes := g.nodes.push t } : Graph).Made u ↔ g.Made u ∨ u = ⟨g.nodes.size⟩ := by
  cases u
  simp only [Made, Array.size_push, TargetId.mk.injEq]
  omega

theorem sound_blank (buildDir : Option String) : Sound (blank buildDir) where
  made _ h := by simp [blank] at h
  passMade _ h := by simp [blank] at h
  named _ h := by simp [Made, blank] at h

/-- What the targets of a graph have to satisfy after some of them have got a place is shown for the new ones alone. -/
theorem named_of_push {g : Graph} (h : Sound g) {t : Target} (ht : t.Named) :
    ∀ u, ({ g with nodes := g.nodes.push t } : Graph).Made u →
      (({ g with nodes := g.nodes.push t } : Graph).node u).Named := by
  intro u hu
  rcases (made_push_iff g t u).mp hu with hold | rfl
  · rw [node_push g t hold]
    exact h.named u hold
  · rw [node_push_self]
    exact ht

variable {Asked : TargetId → Prop}

theorem Growth.sound {g g' : Graph} (step : Growth Target.Named Asked g g') (h : Sound g) : Sound g' := by
  have keeps := step.keeps
  have hpass : ∀ r, g'.pass = some r → g'.Made r := fun r hr =>
    keeps.made r (h.passMade r (keeps.pass ▸ hr))
  have hedit : (∀ t, g'.Made t → g.Made t) → ∀ t, g'.Made t → (g'.node t).Named := fun hmade t ht =>
    (h.named t (hmade t ht)).of_partition (keeps.partition t (hmade t ht))
  cases step with
  | make fit => exact ⟨fun t ht => keeps.made t (h.made t ht), hpass, named_of_push h fit⟩
  | edit t same =>
    refine ⟨fun u hu => keeps.made u (h.made u hu), hpass, hedit fun u hu => ?_⟩
    exact (made_modifyNode_iff g t u _).mp hu
  | enterTag location fresh =>
    exact ⟨fun t ht => keeps.made t (h.made t ht), hpass, named_of_push h (.inl rfl)⟩
  | enterPool admitted => exact ⟨h.made, h.passMade, h.named⟩
  | register made free asked =>
    refine ⟨fun u hu => ?_, h.passMade, h.named⟩
    rcases List.mem_append.mp hu with hu | hu
    · exact h.made u hu
    · rw [List.mem_singleton.mp hu]
      exact made
  | @generate r path free =>
    refine ⟨fun u hu => keeps.made u (h.made u hu), hpass, hedit fun u hu => ?_⟩
    exact (made_modifyNode_iff g r u (Target.addOutput path)).mp hu

theorem sound_of_growth {g g' : Graph} (steps : ReflTransGen (Growth Target.Named Asked) g g') (h : Sound g) :
    Sound g' := by
  induction steps with
  | refl => exact h
  | tail _ step ih => exact step.sound ih

/-- What every step of growth keeps of a sound graph, growth keeps. -/
theorem Growth.invariant {P : Graph → Prop}
    (keep : ∀ {g g' : Graph}, Growth Target.Named Asked g g' → Sound g → P g → P g') {g g' : Graph}
    (steps : ReflTransGen (Growth Target.Named Asked) g g') (sound : Sound g) (h : P g) : P g' := by
  induction steps with
  | refl => exact h
  | tail prior step ih => exact keep step (sound_of_growth prior sound) ih

theorem sound_installed {g : Graph} (h : Sound g) {r : TargetId} (hr : g.Made r) : Sound (g.installed r) :=
  ⟨h.made, fun _ he => Option.some.inj he ▸ hr, h.named⟩

end BuildTree.Graph
