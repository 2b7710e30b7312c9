import BuildTree.Proofs.CommandLine.Command
import BuildTree.Proofs.Ninja.Emission
import BuildTree.Proofs.Ninja.LastValue
import BuildTree.Proofs.Ninja.Producers
import BuildTree.Proofs.Project.Move
import BuildTree.Proofs.Text.ShellSplit

/-!
# Repeating a pass

The root file says how the pass that wrote it is repeated. Read from there, cut as a shell cuts it and taken apart as
words of a command line, it is the setup of that pass again: nothing on the way from the setup into the file loses or
adds anything, and nothing that scripts do changes it.
-/

namespace BuildTree
open Effect Ninja Text

namespace Session
variable {setup : Setup}

/-- The graph that a pass starts from, before its target is made the one for the pass. -/
def graphWithTarget (setup : Setup) : Graph :=
  { Graph.start (some setup.build.toString) with
    nodes := (Graph.start (some setup.build.toString)).nodes.push (passTarget setup) }

/-- Only the name of a tag is taken at the start, and no file of the pass ends like that. -/
theorem unclaimed_start (setup : Setup) :
    (graphWithTarget setup).Unclaimed (graphWithTarget setup).pass
      ((graphWithTarget setup).passClaims (passTarget setup)) := by
  have hpartitions : (graphWithTarget setup).partitions = [] := rfl
  have hclaims : (graphWithTarget setup).claims = [(Graph.tagPrefix ++ Graph.defaultTag, ⟨0⟩)] := rfl
  have hnames : ∀ name ∈ (passTarget setup).outputs, Path.PlainPart name ∧
      ¬ name.toList <:+ (Graph.tagPrefix ++ Graph.defaultTag).toList := by
    show ∀ name ∈ [buildFile, rulesFile, Config.snapshotFile], _
    decide
  intro o ho u hu
  rw [Graph.passClaims, hpartitions, List.map_nil, List.append_nil] at ho
  obtain ⟨name, hname, rfl⟩ := List.mem_map.mp ho
  obtain ⟨hplain, hend⟩ := hnames name hname
  rw [hclaims, Table.get?] at hu
  split at hu
  next heq => exact absurd (heq ▸ suffix_generatedPath (graphWithTarget setup) hplain) hend
  · cases hu

theorem startGraph_eq (setup : Setup) :
    startGraph setup =
      (graphWithTarget setup).installed ⟨(Graph.start (some setup.build.toString)).nodes.size⟩ := by
  have hnode : (graphWithTarget setup).node ⟨(Graph.start (some setup.build.toString)).nodes.size⟩ =
    passTarget setup := Graph.node_push_self _ _
  have hspelled : (graphWithTarget setup).Spelled (graphWithTarget setup).partitions := List.forall_mem_nil _
  have hset := (Graph.setPass_decides (graphWithTarget setup)
    ⟨(Graph.start (some setup.build.toString)).nodes.size⟩).accepted ⟨hspelled, hnode.symm ▸ unclaimed_start setup⟩
  rw [startGraph, run_bind, Graph.run_allocate, andThen_ok]
  exact congrArg Prod.snd hset

/-- A pass starts with the target that its setup asks for. -/
theorem passTarget_start (setup : Setup) :
    ∃ r, (startGraph setup).pass = some r ∧ (startGraph setup).Made r ∧
      (startGraph setup).node r = passTarget setup := by
  rw [startGraph_eq setup]
  generalize hplace : (⟨(Graph.start (some setup.build.toString)).nodes.size⟩ : TargetId) = r
  have hnode : (graphWithTarget setup).node r = passTarget setup := hplace ▸ Graph.node_push_self _ _
  have hmade : (graphWithTarget setup).Made r := by
    simp [← hplace, Graph.Made, graphWithTarget]
  refine ⟨r, Graph.pass_installed _ r, (Graph.made_installed_iff _ r r).mpr hmade, ?_⟩
  rw [Graph.node_installed, hnode]

/-- That target runs the command of the setup. -/
theorem reconfigure_start (setup : Setup) :
    ∃ r, (startGraph setup).pass = some r ∧ (startGraph setup).Made r ∧
      ((startGraph setup).node r).action = .reconfigure (setup.command.map .text) := by
  obtain ⟨r, hpass, made, hnode⟩ := passTarget_start setup
  exact ⟨r, hpass, made, congrArg Target.action hnode⟩

theorem graph_start (setup : Setup) (files : FileTree) : (start setup files).graph = startGraph setup := by
  rw [start]

/-- Moves leave alone which target stands for the pass and what it does. -/
theorem Moves.reconfigure {s s' : Session} (h : Moves s s') {r : TargetId} {command : List Given}
    (hpass : s.graph.pass = some r) (made : s.graph.Made r) (haction : (s.graph.node r).action = .reconfigure command) :
    s'.graph.pass = some r ∧ (s'.graph.node r).action = .reconfigure command := by
  have hkeeps := Graph.Growth.keeps_of_steps h.graph
  exact ⟨hkeeps.pass.trans hpass, (hkeeps.action r made).trans haction⟩

end Session

def repeatCommand? (root : String) : Option (List String) :=
  (lastValue "reconfigure_command" root).bind shellSplit

theorem shellSplit_trimmed (line : String) : shellSplit (trimmed line) = shellSplit line := by
  have hskip : ∀ cs, shellWordsFrom none none (skipBlanks cs) = shellWordsFrom none none cs := fun cs => by
    induction cs with
    | nil => rfl
    | cons c cs ih =>
      by_cases hc : c = ' '
      · have hblank : shellWordsFrom none none (' ' :: cs) = shellWordsFrom none none cs := by
          simp [shellWordsFrom, isShellBlank]
        rw [hc, skipBlanks_blank, ih, hblank]
      · rw [skipBlanks_of_ne hc]
  rw [shellSplit, shellSplit, trimmed, String.toList_ofList, hskip]

/-- A root file that repeats a pass: it gives the command of its setup, and what the words of that command ask for,
wherever the same interpreter is given them, is the setup itself. -/
structure Repeats (setup : Setup) (root : String) : Prop where
  command : repeatCommand? root = some setup.command
  asked : ∃ words, setup.command = setup.interpreter :: "-m" :: "kiln.cli" :: words ∧
    ∀ w : CommandLine.World, w.interpreter = setup.interpreter → w.asked? words = some setup

theorem mapM_text?_map_text (g : Graph) (words : List String) : (words.map Value.text).mapM g.text? = some words := by
  induction words with
  | nil => rfl
  | cons word rest ih => rw [List.map_cons, List.mapM_cons, ih, Graph.text?_text]; rfl

theorem repeats_of_said {setup : Setup} (hsaid : CommandLine.Said setup) {s : Session}
    {files : FileTree} (hmoves : Session.Moves (Session.start setup files) s) {interpreter : String}
    {out : Table String} (hemit : emit s.graph interpreter = .ok out) :
    ∃ root, out.get? buildFile = some root ∧ Repeats setup root := by
  obtain ⟨r, hpass, made, haction⟩ := Session.reconfigure_start setup
  rw [← Session.graph_start setup files] at hpass made haction
  obtain ⟨hpass', haction'⟩ := hmoves.reconfigure hpass made haction
  obtain ⟨items, hitems, hroot⟩ := emit_root hemit
  obtain ⟨command, words, hcommand, hwritten, hvalue⟩ := lastValue_root hpass' hitems
  obtain rfl : command = setup.command.map .text := by
    rw [haction'] at hcommand
    exact (Action.reconfigure.inj hcommand).symm
  obtain rfl : setup.command = words := Option.some.inj ((mapM_text?_map_text _ _).symm.trans hwritten)
  have hread : repeatCommand? (render items) = some setup.command := by
    rw [repeatCommand?, hvalue, Option.bind_some, shellSplit_trimmed, shellSplit_shellLine]
  have hwords := CommandLine.command_eq setup
  exact ⟨render items, hroot, hread, CommandLine.commandWords setup, hwords,
    fun w hw => CommandLine.asked?_commandWords hsaid hw⟩

open CommandLine in
/-- A pass is repeated by what it writes: whatever directories, preloaded scripts and words it was set up from, if it
is configured and written, its root file gives a command line that asks for the same pass. -/
theorem configured_repeats {w : World} (hdir : w.workingDir.Fixed) (source build : String)
    (preloads args : List String) {files : FileTree} {s : Session} {interpreter : String} {out : Table String}
    (hconfigured : Pass.configure.run (Session.start
      (w.setup (Path.ofString source) (Path.ofString build) preloads (settings args).1) files) = (.ok (), s))
    (hemit : emit s.graph interpreter = .ok out) :
    ∃ root, out.get? buildFile = some root ∧
      Repeats (w.setup (Path.ofString source) (Path.ofString build) preloads (settings args).1) root := by
  have hmoves := Pass.leads_configure (Session.start
    (w.setup (Path.ofString source) (Path.ofString build) preloads (settings args).1) files)
  rw [hconfigured] at hmoves
  exact repeats_of_said (said_setup hdir source build preloads args) hmoves hemit

/-- A place with two scripts, where nearly every name has to be quoted. -/
def quotingWorld : CommandLine.World where
  workingDir := ⟨.slash, ["home", "a b"]⟩
  environment := [("KILN_BUILD_DIR", "elsewhere")]
  scripts := [("/home/a b/it's $x/kiln.py", .script [.call 1 .config ⟨[], []⟩ none none]),
    ("/home/a b/-pre load.py", .script [])]
  interpreter := "/usr/bin/python 3"
  room := 990

def quotingSetup : Setup :=
  quotingWorld.setup (Path.ofString "it's $x") (Path.ofString "/out:b") ["./-pre load.py"]
    (CommandLine.settings ["cc.flags=-O2 $(X)", "=", "name=it's=x", "cc.flags=\"", "empty="]).1

theorem configured_repeats_quoting :
    ∃ s out, Pass.configure.run (Session.start quotingSetup quotingWorld.scripts) = (.ok (), s) ∧
      emit s.graph quotingWorld.interpreter = .ok out ∧
      ∃ root, out.get? buildFile = some root ∧ Repeats quotingSetup root := by
  have hdir : quotingWorld.workingDir.Fixed := ⟨rfl, by decide +kernel⟩
  have hok : (Pass.configure.run (Session.start quotingSetup quotingWorld.scripts)).1.toOption.isSome = true := by
    decide +kernel
  have hwritten : (emit (Pass.configure.run (Session.start quotingSetup quotingWorld.scripts)).2.graph
      quotingWorld.interpreter).toOption.isSome = true := by
    decide +kernel
  generalize hrun : Pass.configure.run (Session.start quotingSetup quotingWorld.scripts) = run at hok hwritten
  obtain ⟨outcome, s⟩ := run
  cases outcome with
  | error f => cases hok
  | ok u =>
    cases hemit : emit s.graph quotingWorld.interpreter with
    | error f =>
      rw [hemit] at hwritten
      cases hwritten
    | ok out => exact ⟨s, out, rfl, hemit, configured_repeats hdir _ _ _ _ hrun hemit⟩

end BuildTree
