import BuildTree.Proofs.Project.Declaration
import BuildTree.Proofs.Project.Noted
import BuildTree.Proofs.Project.Placing

/-!
# Every path is absolute

A build is run from its own directory, so a relative path in it would be looked for in the wrong place. Scripts may
declare what they like in any scope: as long as nothing is added to what a target needs once it has been declared, there
is no relative path in the graph but those that a script gave as dependencies already.

The paths that the pass depends on are the scripts that are read, which lie in the source tree or are preloaded, and
those that scripts name, which are seen from the source directory.
-/

namespace BuildTree
open Effect

namespace Visit

/-- The statement adds to what a target needs. -/
def Mutates (v : Visit) : Prop :=
  v.verb? ∈ [some .add, some .depends, some .dependsImplicitly]

instance (v : Visit) : Decidable v.Mutates :=
  inferInstanceAs (Decidable (_ ∈ _))

/-- The statement declares a target over its needs. -/
def Declares (v : Visit) (needs : Declare.Needs) (t : Target) : Prop :=
  ∃ (kind : Declare.Kind) (line : Nat) (args : Arguments String) (on bindTo : Option String)
    (resolved : Arguments TargetId) (b : Bound TargetId), v.statement = .call line kind.verb args on bindTo ∧
      args.resolve v.before.boundTarget = .ok resolved ∧ kind.signature.bind? resolved = some b ∧
      kind.needs b = .ok needs ∧ kind.target v.before (some v.place) b = .ok t

theorem exists_src_of_input? {v : Visit} {file : String} (h : v.input? = some file) :
    ∃ value, Declare.src v.before value = .ok file := by
  unfold input? at h
  split at h
  · obtain ⟨value, _, hfile⟩ := Option.bind_eq_some_iff.mp h
    exact ⟨value, eq_ok_of_toOption hfile⟩
  · cases h

end Visit

namespace Target
variable {vs : List Visit} {needs : Declare.Needs} {t u w : Target}

/-- Where a target comes from: a statement declares it over its needs, or it is the group of a tag. -/
inductive StemsFrom (vs : List Visit) : Declare.Needs → Target → Prop where
  | declared {v : Visit} {needs : Declare.Needs} {t : Target} (visited : v ∈ vs) (declares : v.Declares needs t) :
      StemsFrom vs needs t
  | tagged (name : String) (location : Option Location) : StemsFrom vs ⟨[], [], []⟩ (emptyGroup name location)

/-- A target gains targets that are attached to it, and metadata. -/
def Gains (t u : Target) : Prop :=
  ∃ (attached : List TargetId) (metadata : Record TargetId),
    u = { t with implicitInputs := t.implicitInputs ++ attached.map .target, metadata := metadata }

theorem Gains.refl (t : Target) : Gains t t :=
  ⟨[], t.metadata, by rw [List.map_nil, List.append_nil]⟩

theorem Gains.trans (h : Gains t u) (h' : Gains u w) : Gains t w := by
  obtain ⟨attached, metadata, rfl⟩ := h
  obtain ⟨more, metadata', rfl⟩ := h'
  exact ⟨attached ++ more, metadata', by rw [List.map_append, List.append_assoc]⟩

/-- The target for the pass, or one that has gained something at most since it was made. -/
def Sourced (vs : List Visit) (u : Target) : Prop :=
  u.isPass = true ∨ ∃ needs t, StemsFrom vs needs t ∧ t.Gains u

theorem Sourced.gains (h : t.Sourced vs) (hgains : t.Gains u) : u.Sourced vs := by
  rcases h with hpass | ⟨needs, first, hstems, hfirst⟩
  · obtain ⟨_, _, rfl⟩ := hgains
    exact .inl hpass
  · exact .inr ⟨needs, first, hstems, hfirst.trans hgains⟩

def StaysSourced (vs : List Visit) (t u : Target) : Prop :=
  t.Sourced vs → u.Sourced vs

theorem staysSourced_of_gains (h : t.Gains u) : StaysSourced vs t u := fun hsourced => hsourced.gains h

theorem staysSourced_of_isPass (action : u.action = t.action) (h : t.isPass = true) : StaysSourced vs t u := fun _ => by
  rw [isPass, ← action, ← isPass] at h
  exact .inl h

instance : Graph.Lasting (StaysSourced vs) (Sourced vs) where
  refl _ := id
  trans h h' hsourced := h' (h hsourced)
  new hsourced h := h hsourced
  group name location := .inr ⟨_, _, .tagged name location, .refl _⟩
  attached _ u := staysSourced_of_gains ⟨[u], _, rfl⟩
  metadata t entries :=
    staysSourced_of_gains ⟨[], t.metadata.insertAll entries, by rw [List.map_nil, List.append_nil]⟩
  output t path hpass := staysSourced_of_isPass (Graph.addOutput_action path t) hpass

theorem Grounded.gains (h : t.Grounded needs) (hgains : t.Gains u) : u.Grounded needs := by
  obtain ⟨attached, metadata, rfl⟩ := hgains
  obtain ⟨deps, earlier, hdeps, hstands⟩ := h.implicitInputs
  have hall : t.implicitInputs ++ attached.map .target = deps ++ (earlier ++ attached).map .target := by
    rw [hdeps, List.map_append, List.append_assoc]
  exact ⟨h.outputs, h.action, h.inputs, ⟨deps, earlier ++ attached, hall, hstands⟩, h.orderOnlyInputs⟩

theorem grounded_emptyGroup (name : String) (location : Option Location) :
    (emptyGroup name location).Grounded ⟨[], [], []⟩ where
  outputs h := by cases h
  action := trivial
  inputs := .nil
  implicitInputs := ⟨[], [], rfl, .nil⟩
  orderOnlyInputs := .nil

theorem StemsFrom.grounded (h : StemsFrom vs needs t) (rooted : ∀ v ∈ vs, v.before.setup.Rooted) :
    t.Grounded needs := by
  cases h with
  | @declared v _ _ visited declares =>
    obtain ⟨kind, _, _, _, _, _, b, _, _, _, hneeds, htarget⟩ := declares
    obtain ⟨needs', hneeds', grounded⟩ := Declare.Kind.grounded_of_target (rooted v visited) htarget
    cases hneeds.symm.trans hneeds'
    exact grounded
  | tagged name location => exact grounded_emptyGroup name location

end Target

section Calls
variable {vs : List Visit}

theorem Pass.snd_run_declared (kind : Declare.Kind) (here : Option Location) (args : Arguments TargetId) (s : Session) :
    ((declared kind here args).run s).2 = ((declare kind here args).run s).2 := by
  rw [declared, run_bind]
  generalize (declare kind here args).run s = first
  obtain ⟨outcome, s'⟩ := first
  cases outcome <;> rfl

/-- A call leaves targets as they are but for what they gain, and what is new is what it declares, unless it adds to
what a target needs. -/
theorem staysSourced_call {frame : ScriptFrame} {line : Nat} {verb : Verb} {args : Arguments String}
    {on bindTo : Option String} {s : Session}
    (notMutates : ¬ (frame.visit (.call line verb args on bindTo) s false).Mutates)
    (declares : ∀ needs t, (frame.visit (.call line verb args on bindTo) s false).Declares needs t →
      Target.StemsFrom vs needs t) :
    Graph.EachTarget (Target.StaysSourced vs) (Target.Sourced vs) s.graph
      ((Pass.callStatement (frame.place line) verb args on bindTo).run s).2.graph := by
  refine Pass.graph_callStatement on bindTo fun resolved hresolved => ?_
  by_cases hkind : ∃ kind : Declare.Kind, verb = kind.verb
  · obtain ⟨kind, rfl⟩ := hkind
    have hperform : Pass.perform (some (frame.place line)) kind.verb on resolved =
        Pass.declared kind (some (frame.place line)) resolved := by cases kind <;> rfl
    rw [hperform, Pass.snd_run_declared]
    rcases run_declare_cases kind (some (frame.place line)) resolved s with
      ⟨b, t, hbind, htarget, hrun⟩ | ⟨_, f, hrun⟩
    · obtain ⟨needs, hneeds, _⟩ := Declare.Kind.declaredFrom_of_target htarget
      have hstems := declares needs t
        ⟨kind, line, args, on, bindTo, resolved, b, rfl, hresolved, hbind, hneeds, htarget⟩
      rw [hrun]
      exact Declare.each_add _ _ (.inr ⟨needs, t, hstems, .refl t⟩) s.graph
    · rw [hrun]
      exact refl_of (Graph.EachTarget (Target.StaysSourced vs) (Target.Sourced vs)) s.graph
  · have hverb : verb ∉ [Verb.add, .depends, .dependsImplicitly] := fun h =>
      notMutates (List.mem_map_of_mem (f := some) h)
    simp only [List.mem_cons, List.not_mem_nil, or_false, not_or] at hverb
    have hinput : ∀ pass path, Leads (Graph.EachTarget (Target.StaysSourced vs) (Target.Sourced vs))
        (Graph.addPassInput pass path) := Graph.each_addPassInput fun t path hpass =>
      Target.staysSourced_of_isPass (Graph.same_addInputPath path t).action hpass
    have hdeeds : Leads (Session.Deeds (Graph.EachTarget (Target.StaysSourced vs) (Target.Sourced vs)))
        (Pass.perform (some (frame.place line)) verb on resolved) :=
      Pass.leads_perform_of Pass.allows_each verb on (fun kind h => absurd ⟨kind, h⟩ hkind)
        (fun h => absurd h hverb.1) (fun h => absurd h hverb.2.1) (fun h => absurd h hverb.2.2) fun _ => hinput
    exact (hdeeds s).graph

end Calls

/-- An event that leaves all paths absolute: an absolute path is noted, or a statement of these is run that does not add
to what a target needs. -/
def Event.Harmless (vs : List Visit) : Event → Prop
  | .began script => script.isAbsolute = true
  | .ended v => ¬ v.Mutates ∧ ∃ enclosing, { v with enclosing := enclosing } ∈ vs

/-- A session in which the pass depends on absolute paths only, and every other target comes from one of these visits or
from a tag. -/
structure Session.Anchored (vs : List Visit) (s : Session) : Prop where
  rooted : s.setup.Rooted
  proper : s.Proper
  passInputs : ∀ dep ∈ s.graph.passInputs, ∃ p, dep = .path p ∧ Path.isAbsoluteText p = true
  nodes : ∀ t, s.graph.Made t → (s.graph.node t).Sourced vs

namespace Session
variable {vs : List Visit}

theorem Anchored.noted {s : Session} (h : s.Anchored vs) {r : TargetId} (hpass : s.graph.pass = some r)
    (isPass : (s.graph.node r).isPass = true) {script : Path} (absolute : script.isAbsolute = true) :
    ({ s with graph := s.graph.modifyNode r (Target.addInputPath script.toString) } : Session).Anchored vs := by
  have accounted := @accounted_enterScript s script r s.log h.proper hpass
  have heach : Graph.EachTarget (Target.StaysSourced vs) (Target.Sourced vs) s.graph
      (s.graph.modifyNode r (Target.addInputPath script.toString)) :=
    Graph.each_modifyNode s.graph r (Target.staysSourced_of_isPass (Graph.same_addInputPath _ _).action isPass)
  refine ⟨h.rooted, accounted.proper.of_graph rfl rfl, fun dep hdep => ?_, heach.forall_made h.nodes⟩
  have hinputs : dep ∈ (inputsOf [.began script]).foldl addOnce s.graph.passInputs := accounted.inputs ▸ hdep
  rw [mem_foldl_addOnce_iff] at hinputs
  rcases hinputs with hold | ⟨path, hpath, rfl⟩
  · exact h.passInputs dep hold
  · cases List.mem_singleton.mp hpath
    exact ⟨_, rfl, Path.isAbsoluteText_toString absolute⟩

theorem Anchored.call {s : Session} (h : s.Anchored vs) {frame : ScriptFrame} {line : Nat} {verb : Verb}
    {args : Arguments String} {on bindTo : Option String}
    (notMutates : ¬ (frame.visit (.call line verb args on bindTo) s false).Mutates)
    (declares : ∀ needs t, (frame.visit (.call line verb args on bindTo) s false).Declares needs t →
      Target.StemsFrom vs needs t) :
    ((Pass.callStatement (frame.place line) verb args on bindTo).run s).2.Anchored vs := by
  have hsetup := (undisturbed_visit_call frame line verb args on bindTo s).setup
  obtain ⟨_, _, _, hsession, hproper⟩ := Pass.callStatement_deeds (fun _ _ => id) h.proper
    (fun resolved => Pass.leads_perform_growth (some (frame.place line)) verb on resolved s) args bindTo
  rw [← hsession] at hproper
  refine ⟨hsetup ▸ h.rooted, hproper, fun dep hdep => ?_, (staysSourced_call notMutates declares).forall_made h.nodes⟩
  rw [passInputs_call h.proper, mem_foldl_addOnce_iff] at hdep
  rcases hdep with hold | ⟨path, hpath, rfl⟩
  · exact h.passInputs dep hold
  · obtain ⟨value, hvalue⟩ := Visit.exists_src_of_input? (Option.mem_toList.mp hpath)
    exact ⟨path, rfl, Declare.isAbsoluteText_src h.rooted hvalue⟩

theorem keptIf_anchored (vs : List Visit) : KeptIf (Event.Harmless vs) (Anchored vs) where
  inside {event e} allowed := by
    cases event with
    | began script => exact allowed
    | ended v => exact allowed
  of_same h setup graph bindings :=
    ⟨setup ▸ h.rooted, h.proper.of_graph graph bindings, graph ▸ h.passInputs, graph ▸ h.nodes⟩
  noted h hpass isPass _ absolute := h.noted hpass isPass absolute
  call h frame line verb args on bindTo allowed := by
    obtain ⟨notMutates, enclosing, visited⟩ := allowed
    -- What a statement stands in makes no difference to what it declares.
    exact h.call notMutates fun needs t declares => .declared visited declares

theorem anchored_start {setup : Setup} (hrooted : setup.Rooted) (files : FileTree) :
    (start setup files).Anchored vs where
  rooted := hrooted
  proper := proper_start setup files
  passInputs dep hdep := by
    rw [graph_start, passInputs_start] at hdep
    cases hdep
  nodes := nodes_start (Target.StaysSourced vs) setup files (.inl rfl)

end Session

/-- Every path in the graph is absolute, whatever a pass has come to, if no statement adds to what a target needs. A
registered target comes from a statement that declares it, or from a tag, and has gained attached targets at most. What
it makes is absolute unless it is a group, and so is where it runs and its depfile; its dependencies stand one by one
for those that the statement gave, absolute where that was a path. What the pass depends on is absolute. Whatever is
declared, its dependencies are those that it was given, seen from the source directory once; being given these, as a
link gives them on, leads to the same dependencies. -/
theorem paths_absolute {workingDir : Path} (hdir : workingDir.Fixed) {interpreter : String}
    {args : Arguments TargetId} (hargs : args.Spelled) {setup : Setup}
    (hsetup : Setup.ofArguments workingDir interpreter args = .ok setup) {files : FileTree} {s : Session}
    {es : List Event} (history : Session.History setup files s es) (unmutated : ∀ v ∈ visits es, ¬ v.Mutates) :
    (∀ t ∈ s.graph.targets, ∃ needs u, Target.StemsFrom (visits es) needs u ∧ u.Gains (s.graph.node t) ∧
      (s.graph.node t).Grounded needs) ∧
    (∀ dep ∈ s.graph.passInputs, ∃ p, dep = .path p ∧ Path.isAbsoluteText p = true) ∧
    ∀ s' : Session, s'.setup = setup → s'.scopes.current.Entered →
      ∀ (kind : Declare.Kind) (here : Option Location) (b : Bound TargetId) (t : Target) (needs : Declare.Needs),
        kind.target s' here b = .ok t → kind.needs b = .ok needs → needs.Spelled →
          (needs.seen s').Makes s'.graph t ∧ ∀ b' u, kind.needs b' = .ok (needs.seen s') →
            kind.target s' here b' = .ok u → u.inputs = t.inputs ∧ u.implicitInputs = t.implicitInputs ∧
              u.orderOnlyInputs = t.orderOnlyInputs := by
  have hrooted := Setup.rooted_of_ofArguments hdir hargs hsetup
  have hnotes := Session.notesAbsolute_of_history hrooted (Setup.preloads_of_ofArguments hdir hsetup) history
  have harmless : ∀ event ∈ es, event.Harmless (visits es) := fun event hevent => by
    cases event with
    | began script => exact hnotes script (List.mem_filterMap.mpr ⟨_, hevent, rfl⟩)
    | ended v =>
      have visited : v ∈ visits es := List.mem_filterMap.mpr ⟨_, hevent, rfl⟩
      exact ⟨unmutated v visited, v.enclosing, visited⟩
  obtain ⟨anchored, throughout⟩ :=
    (Session.keptIf_anchored (visits es)).of_history (Session.anchored_start hrooted files) history harmless
  have hordinary := (Session.apart_of_reached history.reached).ordinary
  refine ⟨fun t ht => ?_, anchored.passInputs, fun s' hs' hscope kind here b t needs htarget hneeds spelled => ?_⟩
  · rcases anchored.nodes t (hordinary t ht).1 with hpass | ⟨needs, u, hstems, hgains⟩
    · cases hpass.symm.trans (hordinary t ht).2
    · exact ⟨needs, u, hstems, hgains, (hstems.grounded fun v hv => (throughout v hv).1.rooted).gains hgains⟩
  · subst hs'
    have makes := Declare.Kind.makes_of_target hrooted hscope htarget hneeds spelled
    refine ⟨makes, fun b' u hneeds' htarget' => makes.unique ?_⟩
    have hseen := Declare.Needs.seen_seen hrooted hscope spelled s'
    have hmakes' := Declare.Kind.makes_of_target hrooted hscope htarget' hneeds' (spelled.seen s')
    rwa [hseen] at hmakes'

/-- A pass over two directories and a preloaded script, all of them named as seen from the working directory. -/
def nearbySetup : Setup where
  source := ⟨.slash, ["w", "src"]⟩
  build := ⟨.slash, ["w", "..", "out"]⟩
  preloads := [⟨.slash, ["w", "pre.py"]⟩]
  settings := []
  scriptName := .text "kiln.py"
  interpreter := "/usr/bin/python3"

/-- A preloaded script copies a file, and a directory in a project makes a header and links an object with it. -/
def nearbyFiles : FileTree :=
  [("/w/pre.py", .script [.call 1 .copy ⟨[.text "LICENSE", .text "COPYING"], []⟩ none none]),
    ("/w/src/kiln.py", .script [
      .project 1 ⟨[.text "core"], []⟩ [.subdir 2 ⟨[.text "lib"], []⟩],
      .call 3 .reconfigureOn ⟨[.text "conf/../flags.txt"], []⟩ none none]),
    ("/w/src/lib/kiln.py", .script [
      .call 1 .command ⟨[.text "gen.h", .list [.text "gen.py", .text "/abs/tool", .pathDependency "as/given"]],
        [("command", .text "true"), ("cwd", .text ".."), ("depfile", .text "gen.d"),
          ("order_only_inputs", .text "stamp"), ("tags", .text "all")]⟩ none (some "gen"),
      .call 2 .link ⟨[.text "app"], [("objects", .list [.text "main.o"]),
        ("implicit_inputs", .list [.target "gen"])]⟩ none none])]

def nearby : Session :=
  (Pass.configure.run (.start nearbySetup nearbyFiles)).2

def Target.slots (t : Target) : List String × List Dependency × List Dependency × List Dependency :=
  (t.allOutputs, t.inputs, t.implicitInputs, t.orderOnlyInputs)

theorem history_nearby :
    Session.History nearbySetup nearbyFiles nearby ([] ++ configureEvents (.start nearbySetup nearbyFiles)) :=
  .configured .start

/-- A session in a directory of the same pass. -/
def nearbyLib : Session :=
  (Session.start nearbySetup nearbyFiles).entering (.directory ⟨.relative, ["lib"]⟩)

def linkOver (object : String) : Bound TargetId :=
  ⟨[("output", .text "app"), ("objects", .list [.text object])], []⟩

theorem exists_linkOver (object : String) : ∃ t, Declare.Kind.target .link nearbyLib none (linkOver object) = .ok t :=
  ⟨_, rfl⟩

/-- Nothing is relative in the graph of the two directories but what was given as a dependency already. -/
theorem paths_absolute_nearby :
    (nearby.graph.targets.map fun t => (nearby.graph.node t).slots) =
      [(["tags/all"], [], [.target ⟨3⟩], []),
        (["/out/LICENSE"], [.path "/w/src/COPYING"], [], []),
        (["/out/lib/gen.h"], [.path "/w/src/lib/gen.py", .path "/abs/tool", .path "as/given"], [],
          [.path "/w/src/lib/stamp"]),
        (["/out/lib/app"], [.path "/w/src/lib/main.o"], [.target ⟨3⟩], [])] ∧
    (∀ t ∈ nearby.graph.targets, ∃ needs, (nearby.graph.node t).Grounded needs) ∧
    nearby.graph.passInputs = ["/w/pre.py", "/w/src/kiln.py", "/w/src/lib/kiln.py", "/w/src/flags.txt"].map .path ∧
    (∀ dep ∈ nearby.graph.passInputs, ∃ p, dep = .path p ∧ Path.isAbsoluteText p = true) ∧
    ∃ t u, Declare.Kind.target .link nearbyLib none (linkOver "main.o") = .ok t ∧
      Declare.Kind.target .link nearbyLib none (linkOver "/w/src/lib/main.o") = .ok u ∧ u.inputs = t.inputs := by
  have hfixed : (⟨.slash, ["w"]⟩ : Path).Fixed := ⟨rfl, by decide⟩
  have hargs : (⟨[.text "src", .text "../out"], [("preloads", .list [.text "pre.py"])]⟩ : Arguments TargetId).Spelled :=
    ⟨by simp [Value.Spelled], by simp [Value.Spelled]⟩
  have hsetup : Setup.ofArguments ⟨.slash, ["w"]⟩ "/usr/bin/python3"
      ⟨[.text "src", .text "../out"], [("preloads", .list [.text "pre.py"])]⟩ = .ok nearbySetup := by rfl
  have unmutated : ∀ v ∈ visits ([] ++ configureEvents (.start nearbySetup nearbyFiles)), ¬ v.Mutates := by
    decide +kernel
  obtain ⟨hgrounded, hinputs, hagain⟩ := paths_absolute hfixed hargs hsetup history_nearby unmutated
  have hlib : nearbyLib.scopes.current.Entered :=
    @Scope.Entered.directory (.start nearbySetup nearbyFiles) _ none (.text "lib") _ .root trivial rfl
  obtain ⟨t, ht⟩ := exists_linkOver "main.o"
  obtain ⟨u, hu⟩ := exists_linkOver "/w/src/lib/main.o"
  have hneeds : Declare.Kind.needs .link (linkOver "main.o") = .ok ⟨[.text "main.o"], [], []⟩ := rfl
  have hseen : Declare.Kind.needs .link (linkOver "/w/src/lib/main.o") =
      .ok (Declare.Needs.seen nearbyLib ⟨[.text "main.o"], [], []⟩) := by rfl
  have spelled : Declare.Needs.Spelled ⟨[.text "main.o"], [], []⟩ :=
    ⟨by simp [Value.Spelled], by simp, by simp⟩
  have hsame := (hagain nearbyLib rfl hlib .link none _ t _ ht hneeds spelled).2 _ u hseen hu
  refine ⟨by decide +kernel, fun t ht => ?_, by decide +kernel, hinputs, t, u, ht, hu, hsame.1⟩
  obtain ⟨needs, _, _, _, grounded⟩ := hgrounded t ht
  exact ⟨needs, grounded⟩

end BuildTree
