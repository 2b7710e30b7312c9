import BuildTree.Proofs.Ninja.Emission
import BuildTree.Proofs.Project.Visit

/-!
# What a pass writes

The files of a build are the rules, one file for each name of a partition in order of first use, and the root file. A
pass that is written adds them to what its session lists as written, in this order and seen from the build directory,
and then the snapshot of its configuration, as far as it can be written. A pass whose build cannot be written adds
nothing.
-/

namespace BuildTree
open Effect Ninja

namespace Ninja
variable {g : Graph}

/-- A name behind those that are there, unless it is one of them. -/
def addName (names : List String) (name : String) : List String :=
  if name ∈ names then names else names ++ [name]

theorem keys_insert {α : Type} (table : Table α) (name : String) (value : α) :
    (table.insert name value).keys = addName table.keys name := by
  by_cases h : name ∈ table.keys
  · rw [Table.keys_insert_of_mem table value h, addName, if_pos h]
  · rw [Table.insert_of_notMem table value h, Table.keys_append, addName, if_neg h]
    rfl

theorem foldl_addName (names seen : List String) :
    names.foldl addName seen = seen ++ (names.removeAll seen).eraseDups := by
  have hadd : ∀ (seen : List String) name, addName (seen.map id) name =
      if name ∈ seen then seen.map id else (seen ++ [name]).map id := fun seen name => by
    rw [List.map_id, List.map_id, addName]
  have h := Graph.foldl_once hadd names seen
  rwa [List.map_id, List.map_id] at h

theorem keys_addPartitionFiles {partitions : List Given} {files out : Table (List Item)}
    (h : addPartitionFiles g files partitions = .ok out) :
    out.keys = (partitions.map g.partitionFile).foldl addName files.keys := by
  induction partitions generalizing files with
  | nil =>
    cases h
    rfl
  | cons p rest ih =>
    obtain ⟨items, _, h⟩ := (bind_eq_ok_iff _ _ _).mp h
    rw [ih h, List.map_cons, List.foldl_cons, keys_insert]

/-- The files of a build are the rules, those of the partitions in order of first use, and the root file. -/
theorem keys_emit {interpreter : String} {files : Table String} (h : emit g interpreter = .ok files) :
    files.keys = rulesFile :: (g.partitions.map g.partitionFile).eraseDups ++ [buildFile] := by
  obtain ⟨all, hall, rfl⟩ := items_of_emit h
  obtain ⟨before, root, hcheck, _, hadd, _, rfl⟩ := parts_of_emitItems hall
  have hown : ∀ p ∈ g.partitions, g.partitionFile p ∉ [buildFile, rulesFile] := fun p hp => by
    simpa using (of_checkPartition (hcheck p hp)).2
  -- No partition has the file of the rules, so the rules stay alone in front; names that share a file come once.
  have hothers : (g.partitions.map g.partitionFile).removeAll [rulesFile] = g.partitions.map g.partitionFile := by
    refine List.filter_eq_self.mpr fun file hfile => ?_
    obtain ⟨p, hp, rfl⟩ := List.mem_map.mp hfile
    have := hown p hp
    simp_all
  have hfiles : before.keys = rulesFile :: (g.partitions.map g.partitionFile).eraseDups := by
    rw [keys_addPartitionFiles hadd, foldl_addName]
    exact congrArg (rulesFile :: ·) (congrArg List.eraseDups hothers)
  have hroot : buildFile ∉ before.keys := by
    rw [hfiles, List.mem_cons, List.mem_eraseDups]
    rintro (h | h)
    · exact absurd h (by decide)
    · obtain ⟨p, hp, he⟩ := List.mem_map.mp h
      exact hown p hp (he ▸ List.mem_cons_self)
  rw [Table.keys_map, keys_insert, addName, if_neg hroot, hfiles]

/-- The statement of the pass has the outputs of its target and the files of all partitions. -/
theorem mem_outputs_passStatement_iff (t : Target) (words : List String) (partitions : List Given) (o : String) :
    o ∈ (passStatement g t words partitions).outputs ↔ o ∈ t.outputs ∨ o ∈ partitions.map g.partitionFile := by
  have hfold : (passStatement g t words partitions).outputs =
      (partitions.map g.partitionFile).foldl addName t.outputs := by
    rw [List.foldl_map]
    simp only [passStatement, List.contains_iff_mem]
    rfl
  rw [hfold, foldl_addName, List.mem_append, List.mem_eraseDups, List.removeAll, List.mem_filter]
  by_cases h : o ∈ t.outputs <;> simp [h]

end Ninja

namespace Session

/-- The snapshot of the configuration, as far as it can be written. -/
def snapshot (s : Session) (room : Nat) : Config.Written :=
  Config.snapshot room s.graph.describe s.config

/-- The files of a build and the snapshot of the configuration, as they are written into a directory. -/
def toWrite (s : Session) (room : Nat) (dir : Path) (files : Table String) : List (String × String) :=
  (files ++ [(Config.snapshotFile, String.ofList (s.snapshot room).chars)]).map fun (name, text) =>
    ((dir.child name).toString, text)

end Session

/-- How writing ends: well, if nothing has stopped it. -/
def Config.Written.outcome (written : Config.Written) : Except Fault Unit :=
  match written.stopped with
  | none => .ok ()
  | some f => .error f.fault

namespace Pass
variable {s : Session}

theorem run_writeFiles (dir : Path) (files : Table String) (s : Session) :
    ∃ s', s.Aside s' ∧ (writeFiles dir files).run s = (.ok (), { s' with
      written := s'.written ++ files.map fun (name, text) => ((dir.child name).toString, text) }) := by
  induction files generalizing s with
  | nil => exact ⟨s, .refl s, by rw [writeFiles, List.map_nil, List.append_nil]; rfl⟩
  | cons file rest ih =>
    obtain ⟨name, text⟩ := file
    obtain ⟨_, ⟨missing, directories, log, rfl⟩, hrest⟩ :=
      ih ({ s with written := s.written ++ [((dir.child name).toString, text)] }.logged
        ⟨.info, writeSource, "Wrote " ++ (dir.child name).toString⟩)
    refine ⟨_, ⟨missing, directories, log, rfl⟩, ?_⟩
    simp only [writeFiles, writeFile, report, run_bind, run_modify, andThen_ok]
    rw [hrest]
    simp [Session.logged]

theorem run_reportObstacle (e : EmitFault) (s : Session) :
    ∃ s', s.Aside s' ∧ (reportObstacle e).run s = (.ok (), s') := by
  unfold reportObstacle
  split
  · exact ⟨_, s.aside_logged _, rfl⟩
  · exact ⟨s, .refl s, rfl⟩

/-- A build that cannot be written ends the pass with the fault that this is, and nothing is written. -/
theorem run_writeBuild_of_error {e : EmitFault} (h : emit s.graph s.setup.interpreter = .error e) :
    ∃ s', s.Aside s' ∧ writeBuild.run s = (.error e.fault, s') := by
  obtain ⟨s', hreported, hreport⟩ := run_reportObstacle e (s.withDirectory s.setup.build)
  refine ⟨s', (s.aside_withDirectory _).trans hreported, ?_⟩
  unfold writeBuild
  rw [run_bind, run_get, andThen_ok, run_bind, makeDirectory, run_modify, andThen_ok, h]
  show ((reportObstacle e >>= fun _ => throw e.fault : Pass Unit)).run _ = _
  rw [run_bind, hreport]
  rfl

theorem run_writeBuild_of_ok {files : Table String} (h : emit s.graph s.setup.interpreter = .ok files) :
    ∃ s', s.Aside s' ∧ writeBuild.run s = (.ok (), { s' with
      written := s'.written ++ files.map fun (name, text) => ((s.setup.build.child name).toString, text) }) := by
  obtain ⟨s', hwritten, hrun⟩ := run_writeFiles s.setup.build files (s.withDirectory s.setup.build)
  refine ⟨s', (s.aside_withDirectory _).trans hwritten, ?_⟩
  unfold writeBuild
  rw [run_bind, run_get, andThen_ok, run_bind, makeDirectory, run_modify, andThen_ok, h]
  exact hrun

/-- The snapshot is written as far as it goes, and what stops it ends the pass. -/
theorem run_writeSnapshot (room : Nat) (s : Session) :
    ∃ s', s.Aside s' ∧ (writeSnapshot room).run s = ((s.snapshot room).outcome, { s' with written := s'.written ++
      [((s.setup.build.child Config.snapshotFile).toString, String.ofList (s.snapshot room).chars)] }) := by
  let line : LogLine := ⟨.info, "kiln.configure.config",
    "Wrote configuration snapshot " ++ (s.setup.build.child Config.snapshotFile).toString⟩
  have hmade := s.aside_withDirectory s.setup.build
  have hsnapshot : Config.snapshot room s.graph.describe s.config = s.snapshot room := rfl
  rw [writeSnapshot, Config.Written.outcome]
  simp only [run_bind, run_get, andThen_ok, makeDirectory, run_modify, writeFile, hsnapshot]
  cases (s.snapshot room).stopped with
  | none => exact ⟨(s.withDirectory s.setup.build).logged line, hmade.trans (Session.aside_logged _ line), rfl⟩
  | some f => exact ⟨s.withDirectory s.setup.build, hmade, rfl⟩

/-- A build is written with all its files and the snapshot behind them, or not at all. -/
theorem run_write_cases (room : Nat) (s : Session) :
    (∃ files s', emit s.graph s.setup.interpreter = .ok files ∧ s.Aside s' ∧
        (write room).run s =
          ((s.snapshot room).outcome, { s' with written := s'.written ++ s.toWrite room s.setup.build files })) ∨
      ∃ e s', emit s.graph s.setup.interpreter = .error e ∧ s.Aside s' ∧
        (write room).run s = (.error e.fault, s') := by
  rw [write, run_bind]
  cases h : emit s.graph s.setup.interpreter with
  | error e =>
    obtain ⟨s', haside, hrun⟩ := run_writeBuild_of_error h
    exact .inr ⟨e, s', rfl, haside, by rw [hrun, andThen_error]⟩
  | ok files =>
    obtain ⟨_, ⟨missing, directories, log, rfl⟩, hbuild⟩ := run_writeBuild_of_ok h
    rw [hbuild, andThen_ok]
    obtain ⟨_, ⟨missing', directories', log', rfl⟩, hsnapshot⟩ := run_writeSnapshot room { s with
      missing := missing
      directories := directories
      log := log
      written := s.written ++ files.map fun (name, text) => ((s.setup.build.child name).toString, text) }
    refine .inl ⟨files, _, rfl, ⟨missing', directories', log', rfl⟩, ?_⟩
    rw [hsnapshot, Session.toWrite, List.map_append, ← List.append_assoc]
    rfl

/-- A pass that is configured and written from its start has written nothing but what there is to write for what it was
configured to, and then it ends as the snapshot does; or it fails and has written nothing. -/
theorem run_pass_cases (room : Nat) (setup : Setup) (files : FileTree) :
    (∃ c s out, configure.run (.start setup files) = (.ok (), c) ∧ emit c.graph setup.interpreter = .ok out ∧
        (configure >>= fun _ => write room).run (.start setup files) = ((c.snapshot room).outcome, s) ∧
        s.written = c.toWrite room setup.build out) ∨
      ∃ f s, (configure >>= fun _ => write room).run (.start setup files) = (.error f, s) ∧ s.written = [] := by
  have hfixed := (leads_configure (.start setup files)).fixed
  rw [run_bind]
  generalize configure.run (.start setup files) = run at hfixed ⊢
  obtain ⟨outcome, c⟩ := run
  obtain ⟨hsetup, _, hnothing⟩ : c.setup = setup ∧ _ ∧ c.written = [] := hfixed
  cases outcome with
  | error f => exact .inr ⟨f, c, rfl, hnothing⟩
  | ok u =>
    rw [andThen_ok]
    rcases run_write_cases room c with
      ⟨out, _, hemit, ⟨missing, directories, log, rfl⟩, hrun⟩ | ⟨e, _, _, ⟨missing, directories, log, rfl⟩, hrun⟩
    · rw [hsetup] at hemit
      refine .inl ⟨c, _, out, rfl, hemit, hrun, ?_⟩
      show c.written ++ c.toWrite room c.setup.build out = _
      rw [hnothing, hsetup, List.nil_append]
    · exact .inr ⟨e.fault, _, hrun, hnothing⟩

end Pass
end BuildTree
