import BuildTree.Proofs.Project.ExplicitInputs

/-!
# Steps over one file

To compile or to copy takes one file and makes one. Such a step is declared with one output and over one dependency, and
that stays so unless a script adds to its explicit inputs. Whether the one dependency stands for one file is another
matter: a path does, and a target does just if it has one output, which is looked at only where a copy is given the
target itself.
-/

namespace BuildTree
open Effect BuildTree.Graph Ninja

namespace Target
variable {g : Graph} {p : TargetParts} {t u v : Target}

def takesOne (t : Target) : Bool :=
  match t.action with
  | .copy => true
  | .compile c => match c.rule with
    | .text rule => rule = "compile"
    | _ => false
  | _ => false

/-- A target that makes its one output from what one dependency stands for. -/
structure OverOne (t : Target) : Prop where
  otherOutputs : t.otherOutputs = []
  implicitOutputs : t.implicitOutputs = []
  inputs : ∃ dep, t.inputs = [dep]

/-- A target that makes its one output from what an argument stands for. -/
structure Over (g : Graph) (source : Given) (t : Target) : Prop where
  otherOutputs : t.otherOutputs = []
  implicitOutputs : t.implicitOutputs = []
  inputs : ∃ dep, Argument.dependency g source = .ok dep ∧ t.inputs = [dep]

theorem Over.overOne {source : Given} (h : t.Over g source) : t.OverOne := by
  obtain ⟨dep, _, hinputs⟩ := h.inputs
  exact ⟨h.otherOutputs, h.implicitOutputs, dep, hinputs⟩

/-- What a target makes and what it needs explicitly stay as they are, unless it stands for the pass. -/
structure SameSlots (t u : Target) : Prop where
  action : u.action = t.action
  inputs : t.isPass = false → u.inputs = t.inputs
  otherOutputs : t.isPass = false → u.otherOutputs = t.otherOutputs
  implicitOutputs : t.isPass = false → u.implicitOutputs = t.implicitOutputs

theorem sameSlots_of_isPass (haction : u.action = t.action) (h : t.isPass = true) : SameSlots t u where
  action := haction
  inputs hpass := by cases hpass.symm.trans h
  otherOutputs hpass := by cases hpass.symm.trans h
  implicitOutputs hpass := by cases hpass.symm.trans h

theorem SameSlots.trans (h : SameSlots t u) (h' : SameSlots u v) : SameSlots t v := by
  have hpass : t.isPass = false → u.isPass = false := fun hpass => by rw [isPass, h.action, ← isPass, hpass]
  exact ⟨h'.action.trans h.action, fun ht => (h'.inputs (hpass ht)).trans (h.inputs ht),
    fun ht => (h'.otherOutputs (hpass ht)).trans (h.otherOutputs ht),
    fun ht => (h'.implicitOutputs (hpass ht)).trans (h.implicitOutputs ht)⟩

theorem isPass_of_takesOne (h : t.takesOne = true) : t.isPass = false := by
  unfold takesOne at h
  unfold isPass
  cases haction : t.action <;> simp [haction] at h ⊢

theorem overOne_after (h : t.takesOne = true → t.OverOne) (same : SameSlots t u) : u.takesOne = true → u.OverOne := by
  intro hu
  have ht : t.takesOne = true := by rwa [takesOne, same.action, ← takesOne] at hu
  have hpass := isPass_of_takesOne ht
  obtain ⟨hother, himplicit, dep, hinputs⟩ := h ht
  exact ⟨(same.otherOutputs hpass).trans hother, (same.implicitOutputs hpass).trans himplicit, dep,
    (same.inputs hpass).trans hinputs⟩

instance : Graph.Steady SameSlots fun t => t.takesOne = true → t.OverOne where
  refl _ := ⟨rfl, fun _ => rfl, fun _ => rfl, fun _ => rfl⟩
  trans := SameSlots.trans
  new := overOne_after
  group _ _ h := by cases h
  implicitInputs _ _ := ⟨rfl, fun _ => rfl, fun _ => rfl, fun _ => rfl⟩
  metadata _ _ := ⟨rfl, fun _ => rfl, fun _ => rfl, fun _ => rfl⟩
  output t path hpass := sameSlots_of_isPass (Graph.addOutput_action path t) hpass

theorem dependencies_singleton (value : Given) :
    Argument.dependencies g (.list [value]) = (Argument.dependency g value).map fun dep => [dep] := by
  cases h : Argument.dependency g value <;>
    simp [Argument.dependencies, Argument.items, Value.items?, h, bind, Except.bind, Except.map, pure, Except.pure]

theorem Assembled.over {output : String} {source : Given} (h : Assembled g p t)
    (houtputs : p.outputs = .list [.text output]) (hinputs : p.inputs = .list [source])
    (himplicit : p.implicitOutputs = .list []) : t.Over g source := by
  have hnames := h.outputs
  have hdependencies := h.inputs
  have htexts := h.implicitOutputs
  rw [houtputs] at hnames
  rw [hinputs, dependencies_singleton] at hdependencies
  rw [himplicit] at htexts
  obtain ⟨dep, hsource, hdep⟩ := (map_eq_ok_iff _ _ _).mp hdependencies
  exact ⟨(List.cons.inj (Except.ok.inj hnames)).2.symm, (Except.ok.inj htexts).symm, dep, hsource, hdep.symm⟩

end Target

namespace Declare
variable {s : Session} {here : Option Location} {b : Bound TargetId} {t : Target}

theorem over_of_copyTarget (h : copyTarget s here b = .ok t) : t.Over s.graph (input s (b.get "src")) := by
  simp only [copyTarget, bind_eq_ok_iff] at h
  obtain ⟨_, _, ⟨dest, _⟩, _, h⟩ := h
  exact (Target.assembleCopy_eq_ok h).1.over rfl rfl rfl

theorem over_of_compileTarget (h : compileTarget s here b = .ok t) : t.Over s.graph (input s (b.get "source")) := by
  unfold compileTarget at h
  split at h
  · cases h
  · simp only [compilerTarget, bind_eq_ok_iff] at h
    obtain ⟨_, _, _, _, ⟨output, _⟩, _, _, _, _, _, _, _, _, _, _, _, h⟩ := h
    exact (Target.assembleCompilation_eq_ok h).1.over rfl rfl rfl
  · cases h

theorem takesOne_of_commandTarget (h : commandTarget s here b = .ok t) : t.takesOne = false := by
  simp only [commandTarget, bind_eq_ok_iff] at h
  obtain ⟨_, _, ⟨_, _⟩, _, _, _, _, _, _, _, _, _, _, _, _, _, h⟩ := h
  obtain ⟨_, recipe, haction, _⟩ := Target.assembleRecipe_eq_ok h
  rw [Target.takesOne, haction]

theorem takesOne_of_linkTarget (h : linkTarget s here b = .ok t) : t.takesOne = false := by
  simp only [linkTarget, bind_eq_ok_iff] at h
  obtain ⟨objects, _, h⟩ := h
  split at h
  · cases h
  · simp only [compilerTarget, bind_eq_ok_iff] at h
    obtain ⟨_, _, _, _, ⟨output, _⟩, _, _, _, _, _, _, _, _, _, _, _, h⟩ := h
    obtain ⟨_, flags, root, haction, _⟩ := Target.assembleCompilation_eq_ok h
    rw [Target.takesOne, haction]
    rfl
  · cases h

theorem takesOne_of_groupTarget (h : groupTarget s here b = .ok t) : t.takesOne = false := by
  simp only [groupTarget, bind_eq_ok_iff] at h
  obtain ⟨_, _, _, _, _, _, h⟩ := h
  rw [Target.takesOne, (Target.assembleGroup_eq_ok h).2]

theorem Kind.overOne_of_target {kind : Kind} (h : kind.target s here b = .ok t) : t.takesOne = true → t.OverOne := by
  intro htakes
  cases kind with
  | copy => exact (over_of_copyTarget h).overOne
  | compile => exact (over_of_compileTarget h).overOne
  | command => cases htakes.symm.trans (takesOne_of_commandTarget h)
  | link => cases htakes.symm.trans (takesOne_of_linkTarget h)
  | group => cases htakes.symm.trans (takesOne_of_groupTarget h)

end Declare

/-- Graphs in which targets keep what they make and what they need explicitly, and in which new targets that compile or
copy are over one dependency. -/
abbrev Graph.KeepsSlots : Graph → Graph → Prop :=
  EachTarget Target.SameSlots fun t => t.takesOne = true → t.OverOne

theorem Graph.keepsSlots_addInputPath (g : Graph) {r : TargetId} (h : (g.node r).isPass = true) (path : String) :
    KeepsSlots g (g.modifyNode r (Target.addInputPath path)) :=
  each_modifyNode g r (Target.sameSlots_of_isPass (same_addInputPath path _).action h)

theorem Graph.keepsSlots_addPassInput (t : TargetId) (value : Given) : Leads KeepsSlots (addPassInput t value) :=
  each_addPassInput (fun u path hpass => Target.sameSlots_of_isPass (same_addInputPath path u).action hpass) t value

/-- What a statement that is a call asks for. -/
def Visit.verb? (v : Visit) : Option Verb :=
  match v.statement with
  | .call _ verb _ _ _ => some verb
  | _ => none

/-- Nothing but a call that asks for it adds to what a target needs explicitly. -/
theorem Pass.keepsSlots_callStatement {verb : Verb} (hverb : verb ≠ .depends) (here : Location)
    (args : Arguments String) (on bindTo : Option String) (s : Session) :
    KeepsSlots s.graph ((callStatement here verb args on bindTo).run s).2.graph := by
  have hperform : ∀ resolved, Leads (Session.Deeds KeepsSlots) (perform (some here) verb on resolved) := fun resolved =>
    leads_perform admits_each verb on (fun _ _ _ _ _ htarget => Declare.Kind.overOne_of_target htarget)
      (fun h => absurd h hverb) fun _ => keepsSlots_addPassInput
  exact graph_callStatement on bindTo fun resolved _ => (hperform resolved s).graph

/-- No script has added to what a target needs explicitly. -/
def Unaltered (es : List Event) : Prop :=
  ∀ v ∈ visits es, v.verb? ≠ some .depends

theorem recorded_keepsSlots : Recorded fun s es s' => Unaltered es → KeepsSlots s.graph s'.graph where
  aside := by
    rintro s s' ⟨_, _, _, rfl⟩ _
    exact refl_of KeepsSlots s.graph
  trans {s s' s'' es es'} h h' unaltered := by
    rw [Unaltered, visits_append, List.forall_mem_append] at unaltered
    exact trans_of KeepsSlots (h unaltered.1) (h' unaltered.2)
  began {s s' script} h _ := by
    rcases Pass.run_enterScript_cases script s with ⟨r, log, _, hpass, hrun⟩ | ⟨_, hrun⟩
    · cases h.symm.trans hrun
      exact keepsSlots_addInputPath s.graph hpass _
    · cases h.symm.trans hrun
  call frame line verb args on bindTo s unaltered := by
    have hverb : verb ≠ .depends := fun he => unaltered _ List.mem_cons_self (congrArg some he)
    have hgraph := congrArg Session.graph (after_visit_call frame line verb args on bindTo s)
    have hcall := Pass.keepsSlots_callStatement hverb (frame.place line) args on bindTo s
    exact hgraph ▸ hcall
  close {v s' es} _ _ after h unaltered := by
    rw [Unaltered, visits_append, List.forall_mem_append] at unaltered
    rw [after]
    exact h unaltered.1
  enclosed {e} _ {s s' es} h unaltered := by
    rw [Session.leaving_graph]
    refine h fun v hv => ?_
    rw [Unaltered, visits_within] at unaltered
    exact unaltered (v.within e) (List.mem_map_of_mem hv)

namespace Session
variable {setup : Setup} {files : FileTree} {c : Session}

/-- After a pass in which nothing is added to explicit inputs, what compiles or copies does so over one dependency. -/
theorem overOne_of_configured (hconfigured : Pass.configure.run (.start setup files) = (.ok (), c))
    (unaltered : Unaltered (configureEvents (.start setup files))) {t : TargetId} (made : c.graph.Made t)
    (htakes : (c.graph.node t).takesOne = true) : (c.graph.node t).OverOne := by
  have hkeeps := recorded_keepsSlots.of_configure (.start setup files) unaltered
  rw [hconfigured] at hkeeps
  exact hkeeps.forall_made (nodes_start Target.SameSlots setup files fun h => by cases h) t made htakes

end Session

namespace Ninja

/-- The statement of a target that takes one file: it has one output, and its explicit inputs are the files of one
dependency. These are one, unless the dependency is a registered step with several outputs. -/
structure SingleSource (g : Graph) (t : Target) (dep : Dependency) (st : Statement) : Prop where
  stated : st = declared g t
  output : st.allOutputs = [t.name]
  dependency : t.inputs = [dep]
  inputs : st.inputs = g.resolve [dep]
  single_iff : st.inputs.length = 1 ↔ ∀ u, dep = .target u → (g.node u).otherOutputs = []
  step : ∀ u, dep = .target u → (g.node u).otherOutputs ≠ [] → u ∈ g.targets ∧ (g.node u).isStep = true

theorem length_resolve_singleton (g : Graph) (dep : Dependency) :
    (g.resolve [dep]).length = 1 ↔ ∀ u, dep = .target u → (g.node u).otherOutputs = [] := by
  cases dep with
  | path p => simp [Graph.resolve]
  | target u => simp [Graph.resolve, Target.outputs]

/-- Of what a pass makes, only what compiles or copies has a statement that does. -/
theorem takesOne_of_rule (g : Graph) {R : TargetId → Prop} {t : Target} (h : t.NeedsOnly R)
    (rule : (declared g t).rule ∈ ["compile", "copy"]) : t.takesOne = true := by
  have hrule : g.text t.action.rule ∈ ["compile", "copy"] := rule
  have hkind := h.kind
  unfold Target.isPass Target.isStep Target.isGroup at hkind
  unfold Target.takesOne
  cases haction : t.action with
  | copy => rfl
  | compile c =>
    simp only [haction] at hkind hrule
    cases htext : c.rule with
    | text name =>
      have hnames : name = "compile" ∨ name = "link" := by simpa [htext] using hkind
      rw [show (Action.compile c).rule = .text name from htext] at hrule
      rcases hnames with rfl | rfl
      · simp [htext]
      · exact absurd hrule (show "link" ∉ ["compile", "copy"] by decide)
    | _ => simp [htext] at hkind
  | reconfigure command =>
    rw [haction] at hrule
    exact absurd hrule (show "reconfigure" ∉ ["compile", "copy"] by decide)
  | run recipe =>
    rw [haction] at hrule
    exact absurd hrule (show "command" ∉ ["compile", "copy"] by decide)
  | _ =>
    rw [haction] at hrule
    exact absurd hrule (show phony ∉ ["compile", "copy"] by decide)

theorem singleSource_declared {g : Graph} {t : Target} (h : t.OverOne)
    (hneeds : ∀ u, .target u ∈ t.inputs → g.Referable u) : ∃ dep, SingleSource g t dep (declared g t) := by
  obtain ⟨hother, himplicit, dep, hinputs⟩ := h
  refine ⟨dep, rfl, ?_, hinputs, congrArg g.resolve hinputs, ?_, fun u hu hmany => ?_⟩
  · show (t.name :: t.otherOutputs) ++ t.implicitOutputs = _
    rw [hother, himplicit]
    rfl
  · show (g.resolve t.inputs).length = 1 ↔ _
    rw [hinputs]
    exact length_resolve_singleton g dep
  · exact (hneeds u (by rw [hinputs, hu]; exact List.mem_cons_self)).kind.resolve_left fun hgroup => hmany hgroup.2

end Ninja

theorem Declare.copyTarget_refused (s : Session) (here : Option Location) {b : Bound TargetId} {u : TargetId}
    (hsource : b.get "src" = .target u) (hmany : (s.graph.node u).outputs.length ≠ 1) : copyTarget s here b =
      .error (.configuration (.copiedOutputs (s.graph.node u).name (s.graph.node u).outputs.length) here) := by
  rw [copyTarget, hsource, checkCopied]
  dsimp only
  rw [if_neg hmany]
  rfl

/-- In a pass in which nothing is added to explicit inputs, every statement that compiles or copies has one output and
takes the files of one dependency: one file, unless that is a registered step with several outputs. The dependency is
what the source stood for where the target was declared. A copy is refused there if its source is a target that has not
one output. -/
theorem single_sources {setup : Setup} {files : FileTree} {c : Session}
    (hconfigured : Pass.configure.run (.start setup files) = (.ok (), c))
    (unaltered : Unaltered (configureEvents (.start setup files))) {interpreter : String} {out : Table (List Item)}
    (emitted : emitItems c.graph interpreter = .ok out) :
    (∀ entry ∈ out, ∀ st, Item.build st ∈ entry.2 → st.rule ∈ ["compile", "copy"] →
      ∃ t ∈ c.graph.targets, ∃ dep, SingleSource c.graph (c.graph.node t) dep st) ∧
    ∀ (s : Session) (here : Option Location) (b : Bound TargetId),
      (∀ t, Declare.copyTarget s here b = .ok t → t.Over s.graph (Declare.input s (b.get "src"))) ∧
      (∀ t, Declare.compileTarget s here b = .ok t → t.Over s.graph (Declare.input s (b.get "source"))) ∧
      ∀ u, b.get "src" = .target u → (s.graph.node u).outputs.length ≠ 1 → Declare.copyTarget s here b =
        .error (.configuration (.copiedOutputs (s.graph.node u).name (s.graph.node u).outputs.length) here) := by
  refine ⟨fun entry hentry st stated rule => ?_, fun s here b =>
    ⟨fun t => Declare.over_of_copyTarget, fun t => Declare.over_of_compileTarget,
      fun u => Declare.copyTarget_refused s here⟩⟩
  have reached : Session.Reached setup files c := by
    have hreached : Session.Reached setup files (Pass.configure.run (.start setup files)).2 := .configured .start
    rwa [hconfigured] at hreached
  have traced := Session.traced_of_reached reached
  have hrule : st.rule ∈ ["compile", "link", "copy"] := by
    simp only [List.mem_cons, List.not_mem_nil, or_false] at rule ⊢
    exact rule.imp_right .inr
  obtain ⟨t, ht, rfl⟩ := exists_of_origin ((originated_of_mem emitted hentry).split stated).1 hrule
  have made := traced.targets t ht
  have needs := traced.nodes t made
  have hover := Session.overOne_of_configured hconfigured unaltered made (takesOne_of_rule c.graph needs rule)
  exact ⟨t, ht, singleSource_declared hover needs.inputs⟩

/-- A project that compiles what a generator makes, which are two files, compiles a source, and copies the object. -/
def generatedFiles : FileTree :=
  [("/s/kiln.py", .script [
    .call 1 .command ⟨[.list [.text "gen.c", .text "gen.h"]], [("command", .list [.text "gen"])]⟩ none (some "gen"),
    .call 2 .compile ⟨[.text "gen.o"], [("source", .target "gen")]⟩ none none,
    .call 3 .compile ⟨[.text "main.o"], [("source", .text "main.c")]⟩ none (some "obj"),
    .call 4 .copy ⟨[.text "copy.o", .target "obj"], []⟩ none none])]

def generated : Session :=
  (Pass.configure.run (.start plainSetup generatedFiles)).2

theorem run_configure_generated : Pass.configure.run (.start plainSetup generatedFiles) = (.ok (), generated) :=
  eq_ok_pair_of_toOption (by decide +kernel)

theorem unaltered_generated : Unaltered (configureEvents (.start plainSetup generatedFiles)) := by
  unfold Unaltered
  decide +kernel

theorem exists_emitItems_generated : ∃ out, emitItems generated.graph plainSetup.interpreter = .ok out :=
  exists_emitItems_of_root _ (List.length_eq_zero_iff.mp (by decide +kernel)) (by decide +kernel) (by decide +kernel)
    (by decide +kernel) (by decide +kernel)

def generatedStatements : List Ninja.Statement :=
  let values : List Binding := [⟨"compiler", "cc"⟩, ⟨"flags", ""⟩, ⟨"root", "/s"⟩]
  [⟨["/b/gen.o"], [], "compile", ["/b/gen.c", "/b/gen.h"], [], [], values⟩,
    ⟨["/b/main.o"], [], "compile", ["/s/main.c"], [], [], values⟩,
    ⟨["/b/copy.o"], [], "copy", ["/b/main.o"], [], [], []⟩]

theorem mem_of_generatedStatements {out : Table (List Item)}
    (emitted : emitItems generated.graph plainSetup.interpreter = .ok out) {st : Ninja.Statement}
    (h : st ∈ generatedStatements) : ∃ entry ∈ out, Item.build st ∈ entry.2 := by
  have hnamed : ∀ t ∈ generated.graph.targets, (generated.graph.node t).Named := by decide +kernel
  have hdeclared : ∀ st ∈ generatedStatements, ∃ t ∈ generated.graph.targets,
      st = declared generated.graph (generated.graph.node t) := by
    decide +kernel
  obtain ⟨t, ht, rfl⟩ := hdeclared st h
  exact exists_build_of_registered hnamed emitted ht

/-- What takes one file is given one there, but for the compilation of the two. -/
theorem single_sources_generated :
    ∃ out, emitItems generated.graph plainSetup.interpreter = .ok out ∧ ∀ st ∈ generatedStatements,
      ∃ t ∈ generated.graph.targets, ∃ dep, SingleSource generated.graph (generated.graph.node t) dep st ∧
        (st.inputs.length = 1 ↔ st.allOutputs ≠ ["/b/gen.o"]) := by
  have hsingle : ∀ st ∈ generatedStatements, st.rule ∈ ["compile", "copy"] ∧
      (st.inputs.length = 1 ↔ st.allOutputs ≠ ["/b/gen.o"]) := by
    decide +kernel
  obtain ⟨out, emitted⟩ := exists_emitItems_generated
  refine ⟨out, emitted, fun st hst => ?_⟩
  obtain ⟨entry, hentry, hbuild⟩ := mem_of_generatedStatements emitted hst
  obtain ⟨hrule, hinputs⟩ := hsingle st hst
  obtain ⟨t, ht, dep, single⟩ :=
    (single_sources run_configure_generated unaltered_generated emitted).1 entry hentry st hbuild hrule
  exact ⟨t, ht, dep, single, hinputs⟩

/-- So it is not so that all that compiles or copies is given one file. -/
theorem not_single_inputs :
    ¬ ∀ (setup : Setup) (files : FileTree) (c : Session), Pass.configure.run (.start setup files) = (.ok (), c) →
      Unaltered (configureEvents (.start setup files)) → ∀ out, emitItems c.graph setup.interpreter = .ok out →
        ∀ entry ∈ out, ∀ st, Item.build st ∈ entry.2 → st.rule ∈ ["compile", "copy"] →
          st.inputs.length = 1 ∧ st.allOutputs.length = 1 := by
  intro h
  obtain ⟨st, hst, hrule, hinputs⟩ : ∃ st ∈ generatedStatements,
      st.rule ∈ ["compile", "copy"] ∧ st.inputs.length ≠ 1 := by
    decide +kernel
  obtain ⟨out, emitted⟩ := exists_emitItems_generated
  obtain ⟨entry, hentry, hbuild⟩ := mem_of_generatedStatements emitted hst
  exact hinputs (h plainSetup generatedFiles generated run_configure_generated unaltered_generated out emitted entry
    hentry st hbuild hrule).1

end BuildTree
