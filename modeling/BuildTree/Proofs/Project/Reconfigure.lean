import BuildTree.Proofs.Project.PassInputs
import BuildTree.Proofs.Project.Writing

/-!
# The pass that a build repeats

The root file has one statement for the pass that wrote it. It covers the whole pass: its outputs are all files that
were written and those that scripts said the pass writes, and its inputs are the scripts that were read and the paths
that scripts made it depend on. While a pass runs, whatever goes wrong in it, a script that has been read is an input
of the pass already.
-/

namespace BuildTree
open Effect Ninja

namespace Session
variable {setup : Setup} {files : FileTree} {s : Session}

/-- Every script that has been read is an input of the target for the pass. -/
structure Covered (s : Session) : Prop where
  proper : s.Proper
  scripts : ∀ script ∈ s.scripts, .path script.toString ∈ s.graph.passInputs

theorem script_mem_inputsOf {es : List Event} {script : Path} (h : script ∈ begun es) :
    script.toString ∈ inputsOf es := by
  obtain ⟨event, hevent, hscript⟩ := List.mem_filterMap.mp h
  cases event with
  | ended v => cases hscript
  | began other =>
    cases hscript
    exact List.mem_filterMap.mpr ⟨.began script, hevent, rfl⟩

/-- What is recorded of a run keeps scripts covered: one that is noted is an input from then on. -/
theorem Covered.advance {es : List Event} {s' : Session} (h : s.Covered)
    (hrecorded : (s.Proper → Accounted s es s') ∧ Tells s es s') : s'.Covered := by
  have haccounted := hrecorded.1 h.proper
  refine ⟨haccounted.proper, fun script hscript => ?_⟩
  rw [haccounted.inputs, mem_foldl_addOnce_iff]
  rw [hrecorded.2.scripts] at hscript
  rcases List.mem_append.mp hscript with hold | hnew
  · exact .inl (h.scripts script hold)
  · exact .inr ⟨script.toString, script_mem_inputsOf hnew, rfl⟩

theorem Covered.of_graph {s' : Session} (h : s.Covered) (hgraph : s'.graph = s.graph)
    (hbindings : s'.bindings = s.bindings) (hscripts : s'.scripts = s.scripts) : s'.Covered where
  proper := h.proper.of_graph hgraph hbindings
  scripts := by
    rw [hgraph, hscripts]
    exact h.scripts

theorem covered_start (setup : Setup) (files : FileTree) : (start setup files).Covered :=
  ⟨proper_start setup files, fun _ h => absurd h List.not_mem_nil⟩

/-- A session that a pass can come to: it is configured and written any number of times, a statement is run by itself,
and in between there is every moment before or after a statement of a script. -/
inductive Reached (setup : Setup) (files : FileTree) : Session → Prop where
  | start : Reached setup files (start setup files)
  | before {s : Session} {v : Visit} (reached : Reached setup files s) (visited : v ∈ visits (configureEvents s)) :
      Reached setup files v.before
  | after {s : Session} {v : Visit} (reached : Reached setup files s) (visited : v ∈ visits (configureEvents s)) :
      Reached setup files v.after
  | configured {s : Session} (reached : Reached setup files s) : Reached setup files (Pass.configure.run s).2
  | ran {s : Session} (depth : Nat) (script : Path) (statement : Statement) (reached : Reached setup files s) :
      Reached setup files ((runStatement (Pass.frameOf depth script) statement).run s).2
  | written {s : Session} (room : Nat) (reached : Reached setup files s) :
      Reached setup files ((Pass.write room).run s).2

end Session

theorem recorded_covered : Recorded fun s es s' => ((s.Proper → Accounted s es s') ∧ Tells s es s') ∧
    (s.Covered → ∀ v ∈ visits es, v.before.Covered ∧ v.after.Covered) :=
  (recorded_accounted.and recorded_tells).throughout Session.Covered.advance
    fun _ h => h.of_graph rfl rfl rfl

namespace Session
variable {setup : Setup} {files : FileTree} {s : Session}

theorem Covered.write (h : s.Covered) (room : Nat) : ((Pass.write room).run s).2.Covered := by
  rcases Pass.run_write_cases room s with
    ⟨out, _, _, ⟨missing, directories, log, rfl⟩, hrun⟩ | ⟨e, _, _, ⟨missing, directories, log, rfl⟩, hrun⟩
  all_goals
    rw [hrun]
    exact h.of_graph rfl rfl rfl

/-- Whatever a pass comes to, scripts are covered. -/
theorem covered_of_reached (h : Reached setup files s) : s.Covered := by
  induction h with
  | start => exact covered_start setup files
  | @before s v _ visited ih => exact ((recorded_covered.of_configure s).2 ih v visited).1
  | @after s v _ visited ih => exact ((recorded_covered.of_configure s).2 ih v visited).2
  | @configured s _ ih => exact ih.advance (recorded_covered.of_configure s).1
  | @ran s depth script statement _ ih =>
    exact ih.advance (recorded_covered.of_statement
      (recorded_covered.of_directory (recorded_covered.of_script depth)) statement s).1
  | written room _ ih => exact ih.write room

theorem passInputs_start (setup : Setup) : (startGraph setup).passInputs = [] := by
  obtain ⟨r, hpass, _, hnode⟩ := passTarget_start setup
  rw [Graph.passInputs_eq hpass, hnode]
  rfl

theorem passOutputs_start (setup : Setup) :
    (startGraph setup).passOutputs = [buildFile, rulesFile, Config.snapshotFile] := by
  obtain ⟨r, hpass, _, hnode⟩ := passTarget_start setup
  rw [Graph.passOutputs_eq hpass, hnode]
  rfl

end Session

theorem resolve_paths (g : Graph) (paths : List String) : g.resolve (paths.map .path) = paths := by
  rw [Graph.resolve, List.flatMap_map]
  exact List.flatMap_singleton' paths

/-- A statement that covers a pass: all that was written and all that scripts said is written are its outputs, and its
inputs are the scripts that were read and the paths that the pass was made to depend on, each once, in order of first
occurrence. -/
structure Covers (setup : Setup) (es : List Event) (written : List (String × String)) (st : Ninja.Statement) :
    Prop where
  rule : st.rule = "reconfigure"
  written : ∀ file ∈ written, ∃ o ∈ st.outputs, file.1 = (setup.build.child o).toString
  marked : ∀ v ∈ visits es, ∀ file, v.marked? = some file → file ∈ st.outputs
  inputs : st.inputs = (inputsOf es).eraseDups

/-- What is written is put where the outputs of the statement of the pass are, seen from the build directory. -/
theorem mem_outputs_of_toWrite {c : Session} {room : Nat} {dir : Path} {interpreter : String} {out : Table String}
    (hemit : emit c.graph interpreter = .ok out) {t : Target}
    (howned : ∀ o ∈ [buildFile, rulesFile, Config.snapshotFile], o ∈ t.outputs) (words : List String)
    {file : String × String} (hfile : file ∈ c.toWrite room dir out) :
    ∃ o ∈ (passStatement c.graph t words c.graph.partitions).outputs, file.1 = (dir.child o).toString := by
  obtain ⟨⟨name, text⟩, hname, rfl⟩ := List.mem_map.mp hfile
  refine ⟨name, (mem_outputs_passStatement_iff t words _ name).mpr ?_, rfl⟩
  rcases List.mem_append.mp hname with hout | hsnapshot
  · have hkey : name ∈ out.keys := List.mem_map_of_mem hout
    rw [keys_emit hemit] at hkey
    rcases List.mem_append.mp hkey with hkey | hkey
    · rcases List.mem_cons.mp hkey with rfl | hkey
      · exact .inl (howned _ (by simp))
      · exact .inr (List.mem_eraseDups.mp hkey)
    · obtain rfl := List.mem_singleton.mp hkey
      exact .inl (howned _ (by simp))
  · cases List.mem_singleton.mp hsnapshot
    exact .inl (howned _ (by simp))

/-- The target for a pass that has been configured: what it depends on and what it says it writes. -/
theorem pass_of_configured {setup : Setup} {files : FileTree} {c : Session}
    (hconfigured : Pass.configure.run (.start setup files) = (.ok (), c)) :
    ∃ r, c.graph.pass = some r ∧
      (c.graph.node r).inputs = (inputsOf (configureEvents (.start setup files))).eraseDups.map .path ∧
      (∀ o ∈ [buildFile, rulesFile, Config.snapshotFile], o ∈ (c.graph.node r).outputs) ∧
      ∀ v ∈ visits (configureEvents (.start setup files)), ∀ file, v.marked? = some file →
        file ∈ (c.graph.node r).outputs := by
  have haccounted := recorded_accounted.of_configure _ (Session.proper_start setup files)
  rw [hconfigured] at haccounted
  obtain ⟨⟨⟨r, _, hpass, _, _⟩, _, _⟩, hinputs, houtputs, hmarked⟩ := haccounted
  rw [Session.graph_start, Session.passInputs_start setup, foldl_addOnce, Graph.passInputs_eq hpass] at hinputs
  rw [Session.graph_start, Session.passOutputs_start setup, Graph.passOutputs_eq hpass] at houtputs
  rw [Graph.passOutputs_eq hpass] at hmarked
  exact ⟨r, hpass, hinputs, houtputs, hmarked⟩

/-- A pass that has been configured and written is covered by the statement that its root file has for it. -/
theorem covers_of_written {setup : Setup} {files : FileTree} {room : Nat} {c s : Session}
    (hconfigured : Pass.configure.run (.start setup files) = (.ok (), c))
    (hwritten : (Pass.write room).run c = (.ok (), s)) :
    ∃ items st, ((setup.build.child buildFile).toString, render items) ∈ s.written ∧
      rootItems c.graph c.graph.partitions = .ok items ∧ passStatements c.graph c.graph.partitions = .ok [st] ∧
      .build st ∈ items ∧ Covers setup (configureEvents (.start setup files)) s.written st := by
  have hrun : (Pass.configure >>= fun _ => Pass.write room).run (.start setup files) = (.ok (), s) :=
    run_bind_eq_ok_iff.mpr ⟨(), c, hconfigured, hwritten⟩
  obtain ⟨r, hpass, hinputs, hown, hmarked⟩ := pass_of_configured hconfigured
  rcases Pass.run_pass_cases room setup files with ⟨c', s', out, hconfigured', hemit, hrun', hall⟩ | ⟨_, _, hfailed, _⟩
  · cases hconfigured.symm.trans hconfigured'
    obtain ⟨_, rfl⟩ := Prod.mk.inj (hrun.symm.trans hrun')
    obtain ⟨items, hitems, hroot⟩ := emit_root hemit
    obtain ⟨ss, pass, _, hstatement, _, hlayout⟩ := rootItems_eq_ok hitems
    obtain ⟨_, words, _, _, rfl, _⟩ := passStatements_eq_ok hpass hstatement
    refine ⟨items, _, ?_, hitems, hstatement, ?_, rfl, fun file hfile => ?_, fun v hv file hfile => ?_, ?_⟩
    · rw [hall]
      exact List.mem_map_of_mem (List.mem_append_left _ (Table.mem_of_get? hroot))
    · rw [hlayout]
      simp [buildItems]
    · exact mem_outputs_of_toWrite hemit hown words (hall ▸ hfile)
    · exact (mem_outputs_passStatement_iff _ words _ file).mpr (.inl (hmarked v hv file hfile))
    · rw [passStatement, hinputs, resolve_paths]
  · cases congrArg Prod.fst (hrun.symm.trans hfailed)

/-- The statement of a pass covers the whole pass. If a pass is configured and written, the scripts that it has read
and the trace are those of its events, and its root file has a statement for it with all that these tell of. Wherever
it gets to, also after what went wrong has been caught, every script that has been read is an input of the pass. -/
theorem reconfigure_covers (setup : Setup) (files : FileTree) :
    (∀ room c s, Pass.configure.run (.start setup files) = (.ok (), c) → (Pass.write room).run c = (.ok (), s) →
      c.scripts = begun (configureEvents (.start setup files)) ∧
      c.trace = (visits (configureEvents (.start setup files))).map Visit.entry ∧
      ∃ items st, ((setup.build.child buildFile).toString, render items) ∈ s.written ∧
        rootItems c.graph c.graph.partitions = .ok items ∧ passStatements c.graph c.graph.partitions = .ok [st] ∧
        .build st ∈ items ∧ Covers setup (configureEvents (.start setup files)) s.written st) ∧
    ∀ s, Session.Reached setup files s → ∀ script ∈ s.scripts, .path script.toString ∈ s.graph.passInputs := by
  refine ⟨fun room c s hconfigured hwritten => ?_, fun s hreached => (Session.covered_of_reached hreached).scripts⟩
  have htells := recorded_tells.of_configure (.start setup files)
  rw [hconfigured] at htells
  exact ⟨htells.scripts, htells.trace, covers_of_written hconfigured hwritten⟩

/-- A project with a preloaded script, in which a script below depends on a path and then fails, and the one above goes
on, writes a file and uses a partition. -/
def watchedFiles : FileTree :=
  [("/s/pre.py", .script [.call 1 .reconfigureOn ⟨[.text "tools.cfg"], []⟩ none none]),
    ("/s/kiln.py", .script [
      .attempt 1 [.subdir 2 ⟨[.text "lib"], []⟩],
      .call 3 .reconfigureOn ⟨[.text "pre.py"], []⟩ none none,
      .call 4 .markGenerated ⟨[.text "list.txt"], []⟩ none none,
      .call 5 .copy ⟨[.text "a.txt", .text "b.txt"], [("partition", .text "extra")]⟩ none none]),
    ("/s/lib/kiln.py", .script [
      .call 1 .reconfigureOn ⟨[.text "x.cfg"], []⟩ none none,
      .raise 2 ⟨"RuntimeError", .text "boom", none, .null, false⟩])]

def watchedSetup : Setup :=
  { plainSetup with preloads := [⟨.slash, ["s", "pre.py"]⟩] }

theorem reconfigure_covers_watched :
    ∃ c s st, Pass.configure.run (.start watchedSetup watchedFiles) = (.ok (), c) ∧
      (Pass.write 990).run c = (.ok (), s) ∧
      Covers watchedSetup (configureEvents (.start watchedSetup watchedFiles)) s.written st ∧
      "/b/list.txt" ∈ st.outputs ∧
      st.inputs = ["/s/pre.py", "/s/tools.cfg", "/s/kiln.py", "/s/lib/kiln.py", "/s/lib/x.cfg"] ∧
      ∃ failing ∈ visits (configureEvents (.start watchedSetup watchedFiles)),
        failing.place = .line "/s/lib/kiln.py" (some 2) ∧
        .path "/s/lib/kiln.py" ∈ failing.after.graph.passInputs := by
  have hok : (Pass.configure.run (.start watchedSetup watchedFiles)).1.toOption.isSome = true := by decide +kernel
  have hwritten : ((Pass.write 990).run (Pass.configure.run (.start watchedSetup watchedFiles)).2).1.toOption.isSome =
      true := by
    decide +kernel
  have hinputs : (inputsOf (configureEvents (.start watchedSetup watchedFiles))).eraseDups =
      ["/s/pre.py", "/s/tools.cfg", "/s/kiln.py", "/s/lib/kiln.py", "/s/lib/x.cfg"] := by
    decide +kernel
  obtain ⟨marking, hmarking, hmarked⟩ : ∃ v ∈ visits (configureEvents (.start watchedSetup watchedFiles)),
      v.marked? = some "/b/list.txt" := by
    decide +kernel
  obtain ⟨failing, hfailing, hplace, hread⟩ : ∃ v ∈ visits (configureEvents (.start watchedSetup watchedFiles)),
      v.place = .line "/s/lib/kiln.py" (some 2) ∧ ⟨.slash, ["s", "lib", "kiln.py"]⟩ ∈ v.after.scripts := by
    decide +kernel
  obtain ⟨hcovers, hreached⟩ := reconfigure_covers watchedSetup watchedFiles
  have hcovered := hreached _ (.after .start hfailing) _ hread
  rw [show (⟨.slash, ["s", "lib", "kiln.py"]⟩ : Path).toString = "/s/lib/kiln.py" by decide +kernel] at hcovered
  generalize hconfigured : Pass.configure.run (.start watchedSetup watchedFiles) = run at hok hwritten
  obtain ⟨outcome, c⟩ := run
  cases outcome with
  | error f => cases hok
  | ok u =>
    generalize hrun : (Pass.write 990).run c = run at hwritten
    obtain ⟨outcome, s⟩ := run
    cases outcome with
    | error f => cases hwritten
    | ok u =>
      obtain ⟨_, _, items, st, _, _, _, _, hst⟩ := hcovers 990 c s hconfigured hrun
      exact ⟨c, s, st, rfl, hrun, hst, hst.marked marking hmarking _ hmarked, hst.inputs.trans hinputs, failing,
        hfailing, hplace, hcovered⟩

end BuildTree
