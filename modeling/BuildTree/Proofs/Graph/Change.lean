import BuildTree.Graph.Change
import BuildTree.Proofs.Effect
import BuildTree.Proofs.Table

/-!
# What a change of the graph does

Every change is carried out as a whole or refused. For each of them one statement says when it is carried out and
what the graph is afterwards; a refused one leaves the graph as it was. A tag is the exception: it stays in the tag
table when its group is refused.
-/

namespace BuildTree.Graph
open Effect

def Made (g : Graph) (t : TargetId) : Prop := t.index < g.nodes.size

instance (g : Graph) (t : TargetId) : Decidable (g.Made t) := inferInstanceAs (Decidable (_ < _))

/-- No output in a list belongs to another target than the one allowed. -/
def Unclaimed (g : Graph) (allowed : Option TargetId) (outputs : List String) : Prop :=
  ∀ o ∈ outputs, ∀ t, g.claims.get? o = some t → some t = allowed

theorem unclaimed_cons_iff (g : Graph) (allowed : Option TargetId) (o : String) (rest : List String) :
    g.Unclaimed allowed (o :: rest) ↔
      (∀ t, g.claims.get? o = some t → some t = allowed) ∧ g.Unclaimed allowed rest := by
  simp only [Unclaimed, List.forall_mem_cons]

theorem unclaimed_none_iff (g : Graph) (outputs : List String) :
    g.Unclaimed none outputs ↔ ∀ o ∈ outputs, g.claims.get? o = none := by
  constructor
  · intro h o ho
    cases hc : g.claims.get? o with
    | none => rfl
    | some t => exact absurd (h o ho t hc) (by simp)
  · intro h o ho t ht
    rw [h o ho] at ht
    cases ht

theorem firstTaken_eq_none_iff (g : Graph) (allowed : Option TargetId) (outputs : List String) :
    g.firstTaken allowed outputs = none ↔ g.Unclaimed allowed outputs := by
  induction outputs with
  | nil => simp [firstTaken, Unclaimed]
  | cons o rest ih =>
    rw [unclaimed_cons_iff, firstTaken]
    cases ho : g.claims.get? o with
    | none => simp [ih]
    | some t =>
      simp only [Option.some.injEq, forall_eq']
      by_cases ht : some t = allowed
      · rw [if_pos ht, ih]
        exact (and_iff_right ht).symm
      · simp [ht]

/-- Either all outputs are free for the one allowed, or the check says which is not. -/
theorem checkUnclaimed_cases (g : Graph) (outputs : List String) (location : Option Location)
    (allowed : Option TargetId) :
    (g.Unclaimed allowed outputs ∧ g.checkUnclaimed outputs location allowed = .ok ()) ∨
      (¬ g.Unclaimed allowed outputs ∧ ∃ f, g.checkUnclaimed outputs location allowed = .error f) := by
  rw [← firstTaken_eq_none_iff, checkUnclaimed]
  cases g.firstTaken allowed outputs with
  | none => exact .inl ⟨rfl, rfl⟩
  | some taken => exact .inr ⟨by simp, _, rfl⟩

/-- A change that is carried out exactly if something holds, and otherwise leaves the graph as it was. -/
structure Decides {α : Type} (c : Change α) (g : Graph) (admits : Prop) (result : α) (next : Graph) : Prop where
  accepted : admits → c.run g = (.ok result, next)
  refused : ¬ admits → ∃ f, c.run g = (.error f, g)

namespace Decides
variable {α : Type} {c : Change α} {g next : Graph} {admits : Prop} {result : α}

theorem accepts_iff (h : Decides c g admits result next) : (∃ a, (c.run g).1 = .ok a) ↔ admits := by
  constructor
  · rintro ⟨a, ha⟩
    by_cases hp : admits
    · exact hp
    · obtain ⟨f, hf⟩ := h.refused hp
      rw [hf] at ha
      cases ha
  · intro hp
    exact ⟨result, by rw [h.accepted hp]⟩

theorem after_cases (h : Decides c g admits result next) :
    (admits ∧ (c.run g).2 = next) ∨ (¬ admits ∧ (c.run g).2 = g) := by
  by_cases hp : admits
  · exact .inl ⟨hp, by rw [h.accepted hp]⟩
  · obtain ⟨f, hf⟩ := h.refused hp
    exact .inr ⟨hp, by rw [hf]⟩

end Decides

@[simp] theorem run_ensure (outcome : Except Fault Unit) (g : Graph) : (ensure outcome).run g = (outcome, g) := rfl

@[simp] theorem run_refuse {α : Type} (r : Rejection) (location : Option Location) (g : Graph) :
    (refuse r location : Change α).run g = (.error (.configuration r location), g) := rfl

@[simp] theorem run_allocate (t : Target) (g : Graph) :
    (allocate t).run g = (.ok ⟨g.nodes.size⟩, { g with nodes := g.nodes.push t }) := rfl

/-- Every partition in a list has a text, which its file is named after. -/
def Spelled (g : Graph) (partitions : List Given) : Prop :=
  ∀ p ∈ partitions, (g.text? p).isSome

theorem checkSpelled_cases (g : Graph) (partitions : List Given) :
    (g.Spelled partitions ∧ g.checkSpelled partitions = .ok ()) ∨
      (¬ g.Spelled partitions ∧ ∃ f, g.checkSpelled partitions = .error f) := by
  unfold checkSpelled
  split
  next h => exact .inl ⟨List.all_eq_true.mp h, rfl⟩
  next h => exact .inr ⟨fun hs => h (List.all_eq_true.mpr hs), _, rfl⟩

/-- What registering a target asks for: the partition it opens has a text, its outputs are free, and so is the file
of that partition. -/
structure Registrable (g : Graph) (t : TargetId) : Prop where
  spelled : g.Spelled (g.opened (g.node t))
  outputs : g.Unclaimed none (g.node t).allOutputs
  file : ∀ f, g.openedPartition (g.node t) = some f → g.Unclaimed g.pass [f]

/-- A target that opens no partition asks for free outputs alone. -/
theorem registrable_of_openedPartition_eq_none {g : Graph} {t : TargetId} (h : g.openedPartition (g.node t) = none) :
    g.Registrable t ↔ g.Unclaimed none (g.node t).allOutputs := by
  refine ⟨fun hr => hr.outputs, fun ho => ⟨?_, ho, ?_⟩⟩
  · simp [opened, h, Spelled]
  · simp [h]

theorem register_decides (g : Graph) (t : TargetId) :
    Decides (register t) g (g.Registrable t) () (g.registered t) := by
  rcases g.checkSpelled_cases (g.opened (g.node t)) with ⟨hs, hcs⟩ | ⟨hs, f, hcs⟩
  case inr =>
    refine ⟨fun h => absurd h.spelled hs, fun _ => ⟨f, ?_⟩⟩
    simp only [register, run_bind, run_get, andThen_ok, run_ensure, hcs, andThen_error]
  rcases g.checkUnclaimed_cases (g.node t).allOutputs (g.node t).definedAt none with ⟨ho, hc⟩ | ⟨ho, f, hc⟩
  · cases hf : g.openedPartition (g.node t) with
    | none =>
      refine ⟨fun _ => ?_, fun hn => absurd ((registrable_of_openedPartition_eq_none hf).mpr ho) hn⟩
      simp only [register, run_bind, run_get, andThen_ok, run_ensure, hcs, hc, hf, run_set]
    | some file =>
      rcases g.checkUnclaimed_cases [file] (g.node t).definedAt g.pass with ⟨hfile, hc'⟩ | ⟨hfile, f, hc'⟩
      · refine ⟨fun _ => ?_, fun hn => absurd ⟨hs, ho, fun f hf' => ?_⟩ hn⟩
        · simp only [register, run_bind, run_get, andThen_ok, run_ensure, hcs, hc, hf, hc', run_set]
        · rw [hf] at hf'
          cases hf'
          exact hfile
      · refine ⟨fun h => absurd (h.file file hf) hfile, fun _ => ⟨f, ?_⟩⟩
        simp only [register, run_bind, run_get, andThen_ok, run_ensure, hcs, hc, hf, hc', andThen_error]
  · refine ⟨fun h => absurd h.outputs ho, fun _ => ⟨f, ?_⟩⟩
    simp only [register, run_bind, run_get, andThen_ok, run_ensure, hcs, hc, andThen_error]

def installed (g : Graph) (t : TargetId) : Graph :=
  { g with pass := some t, claims := g.claims.insertKeys (g.passClaims (g.node t)) t }

theorem pass_installed (g : Graph) (t : TargetId) : (g.installed t).pass = some t := rfl

theorem node_installed (g : Graph) (t u : TargetId) : (g.installed t).node u = g.node u := rfl

theorem made_installed_iff (g : Graph) (t u : TargetId) : (g.installed t).Made u ↔ g.Made u := Iff.rfl

/-- What making a target stand for the pass asks for: the partitions in use have texts, and all the files that it
takes over are free for it. -/
structure Installable (g : Graph) (t : TargetId) : Prop where
  spelled : g.Spelled g.partitions
  files : g.Unclaimed g.pass (g.passClaims (g.node t))

theorem setPass_decides (g : Graph) (t : TargetId) :
    Decides (setPass t) g (g.Installable t) () (g.installed t) := by
  rcases g.checkSpelled_cases g.partitions with ⟨hs, hcs⟩ | ⟨hs, f, hcs⟩
  · rcases g.checkUnclaimed_cases (g.passClaims (g.node t)) (g.node t).definedAt g.pass with ⟨ho, hc⟩ | ⟨ho, f, hc⟩
    · refine ⟨fun _ => ?_, fun hn => absurd ⟨hs, ho⟩ hn⟩
      simp only [setPass, run_bind, run_get, andThen_ok, run_ensure, hcs, hc, run_set, installed]
    · refine ⟨fun h => absurd h.files ho, fun _ => ⟨f, ?_⟩⟩
      simp only [setPass, run_bind, run_get, andThen_ok, run_ensure, hcs, hc, andThen_error]
  · refine ⟨fun h => absurd h.spelled hs, fun _ => ⟨f, ?_⟩⟩
    simp only [setPass, run_bind, run_get, andThen_ok, run_ensure, hcs, andThen_error]

def generated (g : Graph) (pass : TargetId) (path : String) : Graph :=
  { g.modifyNode pass (Target.addOutput path) with claims := g.claims.insert (g.generatedPath path) pass }

/-- What recording a file of the pass asks for: there is a target for the pass, and the file is free for it. -/
structure Generable (g : Graph) (pass : TargetId) (path : String) : Prop where
  pass_eq : g.pass = some pass
  isPass : (g.node pass).isPass = true
  file : g.Unclaimed (some pass) [g.generatedPath path]

theorem addGenerated_cases (g : Graph) (path : String) (location : Option Location) :
    (∃ r, g.Generable r path ∧ (addGenerated path location).run g = (.ok (), g.generated r path)) ∨
      ((∀ r, ¬ g.Generable r path) ∧ ∃ f, (addGenerated path location).run g = (.error f, g)) := by
  cases hp : g.pass with
  | none =>
    refine .inr ⟨fun r h => ?_, .configuration (.noPass path) location, ?_⟩
    · exact absurd (hp.symm.trans h.pass_eq) (by simp)
    · simp only [addGenerated, run_bind, run_get, andThen_ok, hp, run_refuse]
  | some r =>
    have honly : ∀ r', g.Generable r' path → r' = r := fun r' h =>
      (Option.some.inj (hp.symm.trans h.pass_eq)).symm
    rcases g.checkUnclaimed_cases [g.generatedPath path] location (some r) with ⟨hfree, hc⟩ | ⟨hfree, f, hc⟩
    · cases hpass : (g.node r).isPass with
      | true =>
        refine .inl ⟨r, ⟨hp, hpass, hfree⟩, ?_⟩
        simp [addGenerated, hp, hc, hpass, generated]
        rfl
      | false =>
        refine .inr ⟨fun r' h => ?_, .missingAttribute, ?_⟩
        · have := h.isPass
          rw [honly r' h, hpass] at this
          cases this
        · simp [addGenerated, hp, hc, hpass]
    · refine .inr ⟨fun r' h => hfree ?_, f, ?_⟩
      · have := h.file
        rwa [honly r' h] at this
      · simp [addGenerated, hp, hc]

/-- The graph with the group of a tag, which is not registered yet. -/
def withTag (g : Graph) (name : String) (location : Option Location) : Graph :=
  { g with
    nodes := g.nodes.push (Target.emptyGroup (tagPrefix ++ name) location)
    tags := g.tags.insert name ⟨g.nodes.size⟩ }

theorem tag_of_some {g : Graph} {name : String} {t : TargetId} (location : Option Location)
    (h : g.tags.get? name = some t) : (tag name location).run g = (.ok t, g) := by
  simp [tag, h]

theorem tag_of_none {g : Graph} {name : String} (location : Option Location) (h : g.tags.get? name = none) :
    (tag name location).run g = andThen (fun _ => pure ⟨g.nodes.size⟩)
      ((register ⟨g.nodes.size⟩).run (g.withTag name location)) := by
  simp only [tag, run_bind, run_get, andThen_ok, h, run_allocate, run_modify]
  rfl

theorem attach_cons (dep : Dependency) (location : Option Location) (name : String) (rest : List String)
    (g : Graph) :
    (attach dep location (name :: rest)).run g = andThen (fun t => (do
      addImplicitInputs t [dep]
      attach dep location rest : Change Unit)) ((tag name location).run g) := by
  simp only [attach, run_bind]

def withPool (g : Graph) (name : Given) (depth : PoolDepth) : Graph :=
  { g with pools := g.pools.insert name depth }

/-- What declaring a pool asks for: a key as its name, which is not that of the console, and a depth of one at
least. -/
structure PoolAdmitted (name : Given) (depth : PoolDepth) : Prop where
  notConsole : isConsole name = false
  deep : deepEnough depth = true
  isKey : name.isKey = true

theorem declarePool_decides (g : Graph) (name : Given) (depth : PoolDepth) (location : Option Location) :
    Decides (declarePool name depth location) g (PoolAdmitted name depth) () (g.withPool name depth) := by
  by_cases hconsole : isConsole name = true
  · refine ⟨fun h => absurd hconsole (by simp [h.notConsole]), fun _ => ⟨.configuration .consolePool location, ?_⟩⟩
    simp [declarePool, hconsole]
  by_cases hdeep : deepEnough depth = true
  · by_cases hkey : name.isKey = true
    · refine ⟨fun _ => ?_, fun h => absurd ⟨by simpa using hconsole, hdeep, hkey⟩ h⟩
      simp [declarePool, hconsole, hdeep, hkey, withPool]
    · refine ⟨fun h => absurd h.isKey hkey, fun _ => ⟨.typeMismatch, ?_⟩⟩
      simp [declarePool, hconsole, hdeep, hkey]
  · refine ⟨fun h => absurd h.deep hdeep, fun _ => ⟨g.refusal name location .shallowPool, ?_⟩⟩
    simp [declarePool, hconsole, hdeep]

end BuildTree.Graph
