import BuildTree.Disk.BuildStep
import BuildTree.Proofs.Disk.Places
import BuildTree.Proofs.Effect

/-!
# Replacing a file as a whole

A temporary file gets a place where nothing was, so the disk without it is the disk that was there before. From this
follows what each step of replacing a file leaves behind, whatever the system refuses: the file has all of its new
content, or nothing has changed.
-/

namespace BuildTree

namespace Effect
variable {ε σ α : Type}

theorem run_tryCatch (c : ExceptT ε (StateM σ) α) (handler : ε → ExceptT ε (StateM σ) α) (s : σ) :
    (tryCatch c handler).run s = match c.run s with
      | (.ok a, s') => (.ok a, s')
      | (.error e, s') => (handler e).run s' := by
  show (tryCatch c handler) s = _
  rcases hc : c.run s with ⟨outcome, s'⟩
  have hc' : c s = (outcome, s') := hc
  cases outcome with
  | ok a =>
    show (ExceptT.tryCatch c handler) s = _
    simp only [ExceptT.tryCatch, ExceptT.mk, bind, StateT.bind, hc']
    rfl
  | error e =>
    show (ExceptT.tryCatch c handler) s = _
    simp only [ExceptT.tryCatch, ExceptT.mk, bind, StateT.bind, hc']
    rfl

end Effect

namespace Disk
open Text (Bytes)

/-- The disk with other refusals to come. -/
def refusing (disk : Disk) (refusals : List (Option Refusal)) : Disk :=
  { disk with refusals := refusals }

section Refusing
variable (disk : Disk) (refusals : List (Option Refusal))

theorem follow_refusing (start parts : List String) :
    (disk.refusing refusals).follow start parts = disk.follow start parts := by
  induction parts generalizing start with
  | nil => rfl
  | cons part parts ih => simp only [follow, ih]; rfl

theorem locate_refusing (path : String) : (disk.refusing refusals).locate path = disk.locate path := by
  simp only [locate, reach, follow_refusing]
  rfl

end Refusing

section Files
variable {disk disk' : Disk} {path : String} {place : List String} {old content : Bytes}

theorem fileAt_of_locate (h : disk.locate path = .found place (.file content)) :
    disk.fileAt path = .ok (place, content) := by
  rw [fileAt, h]

theorem locate_of_fileAt (h : disk.fileAt path = .ok (place, content)) :
    disk.locate path = .found place (.file content) := by
  unfold fileAt at h
  split at h
  · next hlocate =>
    cases h
    exact hlocate
  all_goals cases h

theorem write_of_locate (h : disk.locate path = .found place (.file old)) (content : Bytes) :
    disk.write path content = .ok (disk.put place (.file content)) := by
  rw [write, not_meansDirectory_of_locate h, h]
  rfl

/-- Nothing is at a place, and what is put there is found by a path. -/
structure Fresh (disk : Disk) (path : String) (place : List String) : Prop where
  nothing : disk.entry? place = none
  found : ∀ entry, (disk.put place entry).locate path = .found place entry

theorem fresh_of_makeFile (h : disk.makeFile path = .ok disk') :
    ∃ place, disk.Fresh path place ∧ disk' = disk.put place (.file []) := by
  unfold makeFile at h
  split at h
  · cases h
  · next hpath =>
    unfold makeEntry at h
    split at h
    case h_2 place hlocate =>
      cases h
      obtain ⟨hnothing, hfound⟩ := locate_free (Bool.eq_false_iff.mpr hpath) hlocate
      exact ⟨place, ⟨hnothing, hfound⟩, rfl⟩
    all_goals cases h

theorem makeFirstFile_cons (disk : Disk) (dir : Path) (name : String) (names : List String) :
    disk.makeFirstFile dir (name :: names) = match disk.makeFile (dir.child name).toString with
      | .ok disk => .ok (dir.child name, disk)
      | .error (.alreadyThere _) => makeFirstFile disk dir names
      | .error fault => .error fault := by
  rfl

theorem fresh_of_makeFirstFile {dir temporary : Path} {names : List String}
    (h : disk.makeFirstFile dir names = .ok (temporary, disk')) :
    ∃ place, disk.Fresh temporary.toString place ∧ disk' = disk.put place (.file []) := by
  induction names with
  | nil => cases h
  | cons name names ih =>
    rw [makeFirstFile_cons] at h
    split at h
    · next hmake =>
      cases h
      exact fresh_of_makeFile hmake
    · exact ih h
    · cases h

/-- The disk with this content in a file, and with these refusals to come. -/
def holding (disk : Disk) (place : List String) (content : Bytes) (refusals : List (Option Refusal)) : Disk :=
  (disk.put place (.file content)).refusing refusals

theorem refilled_holding (h : disk.locate path = .found place (.file old)) (content : Bytes)
    (refusals : List (Option Refusal)) : disk.Refilled (disk.holding place content refusals) place content := by
  obtain ⟨hhere, hplaces, hentry, hleads⟩ := refilled_put (entry?_of_locate h) content
  exact ⟨hhere, hplaces, hentry, fun path => (locate_refusing _ refusals path).trans (hleads path)⟩

theorem fresh_refusing {refusals : List (Option Refusal)} :
    (disk.refusing refusals).Fresh path place ↔ disk.Fresh path place :=
  ⟨fun ⟨hnothing, hfound⟩ => ⟨hnothing, fun entry => (locate_refusing _ refusals path).symm.trans (hfound entry)⟩,
    fun ⟨hnothing, hfound⟩ => ⟨hnothing, fun entry => (locate_refusing _ refusals path).trans (hfound entry)⟩⟩

namespace Fresh
variable {beside : List String} (h : disk.Fresh path beside)
include h

theorem locate_holding (content : Bytes) (refusals : List (Option Refusal)) :
    (disk.holding beside content refusals).locate path = .found beside (.file content) :=
  (locate_refusing _ _ _).trans (h.found _)

theorem write_holding (started content : Bytes) (refusals : List (Option Refusal)) :
    (disk.holding beside started refusals).write path content = .ok (disk.holding beside content refusals) := by
  rw [write_of_locate (h.locate_holding started refusals)]
  exact congrArg (fun disk => Except.ok (refusing disk refusals)) (put_put disk beside _ _)

theorem erase_holding (content : Bytes) (refusals : List (Option Refusal)) :
    (disk.holding beside content refusals).erase beside = disk.refusing refusals :=
  congrArg (fun disk => refusing disk refusals) (erase_put h.nothing _)

theorem move_holding {dest : String} (hfile : disk.locate dest = .found place (.file old)) (content : Bytes)
    (refusals : List (Option Refusal)) :
    (disk.holding beside content refusals).move path dest = .ok (disk.holding place content refusals) := by
  rw [move, fileAt_of_locate (h.locate_holding content refusals)]
  show (Disk.erase _ _).write _ _ = _
  rw [h.erase_holding, write_of_locate ((locate_refusing _ _ _).trans hfile)]
  rfl

theorem remove_holding (content : Bytes) (refusals : List (Option Refusal)) :
    (disk.holding beside content refusals).remove path = .ok (disk.refusing refusals) := by
  rw [remove, fileAt_of_locate (h.locate_holding content refusals)]
  exact congrArg Except.ok (h.erase_holding content refusals)

end Fresh

end Files

end Disk

namespace BuildStep
open Disk Effect
variable {disk : Disk} {path temporary : Path} {place beside : List String} {old : Text.Bytes}

/-- A step of a helper command on a disk. -/
abbrev DiskStep := Step (StateM Disk)

theorem run_attempt {α : Type} (access : StateM Disk (Except FileFault α)) (disk : Disk) :
    (attempt access).run disk = ((access.run disk).1.mapError .file, (access.run disk).2) := by
  show (attempt access) disk = _
  rcases h : access.run disk with ⟨outcome, disk'⟩
  have h' : access disk = (outcome, disk') := h
  cases outcome <;> simp only [attempt, ExceptT.mk, bind, StateT.bind, h'] <;> rfl

/-- An access is possible and done, or impossible, or refused. -/
theorem attempt_cases {α : Type} (partly : Refusal → Disk → Disk) (access : Disk → Except FileFault (α × Disk))
    (disk : Disk) : ∃ refusals, (disk.refusals = [] → refusals = []) ∧
      ((∃ value disk', access (disk.refusing refusals) = .ok (value, disk') ∧
        (attempt (unlessRefused partly access)).run disk = (.ok value, disk')) ∨
      (∃ fault, access (disk.refusing refusals) = .error fault ∧
        (attempt (unlessRefused partly access)).run disk = (.error (.file fault), disk.refusing refusals)) ∨
      disk.refusals ≠ [] ∧ ∃ refusal, (attempt (unlessRefused partly access)).run disk =
        (.error (.file refusal.fault), partly refusal (disk.refusing refusals))) := by
  have hdone : ∀ refusals, (unlessRefused partly access).run disk =
      (disk.refusing refusals).changed (access (disk.refusing refusals)) →
      (∃ value disk', access (disk.refusing refusals) = .ok (value, disk') ∧
        (attempt (unlessRefused partly access)).run disk = (.ok value, disk')) ∨
      ∃ fault, access (disk.refusing refusals) = .error fault ∧
        (attempt (unlessRefused partly access)).run disk = (.error (.file fault), disk.refusing refusals) := by
    intro refusals hrun
    rw [run_attempt, hrun]
    cases haccess : access (disk.refusing refusals) with
    | ok changed => exact .inl ⟨changed.1, changed.2, rfl, rfl⟩
    | error fault => exact .inr ⟨fault, rfl, rfl⟩
  obtain ⟨here, entries, refusals⟩ := disk
  match refusals with
  | [] => exact ⟨[], fun _ => rfl, (hdone [] rfl).imp_right .inl⟩
  | none :: rest => exact ⟨rest, nofun, (hdone rest rfl).imp_right .inl⟩
  | some refusal :: rest =>
    exact ⟨rest, nofun, .inr (.inr ⟨List.cons_ne_nil _ _, refusal, run_attempt _ _⟩)⟩

section Temporary
variable (hfresh : disk.Fresh temporary.toString beside)
include hfresh

theorem run_write (started content : Text.Bytes) (refusals : List (Option Refusal)) : ∃ refusals',
    (refusals = [] → refusals' = []) ∧
      ((attempt (FileAccess.write temporary.toString content) : DiskStep Unit).run
          (disk.holding beside started refusals) = (.ok (), disk.holding beside content refusals') ∨
      refusals ≠ [] ∧ ∃ fault written, (attempt (FileAccess.write temporary.toString content) : DiskStep Unit).run
          (disk.holding beside started refusals) = (.error fault, disk.holding beside written refusals')) := by
  have hwrite := hfresh.write_holding started
  obtain ⟨refusals', hnone, ⟨_, disk', hdone, hrun⟩ | ⟨fault, hfault, _⟩ | ⟨hsome, refusal, hrun⟩⟩ := attempt_cases
    (writtenPartly temporary.toString content) (fun disk => (disk.write temporary.toString content).map ((), ·))
    (disk.holding beside started refusals)
  · cases (congrArg (Except.map ((), ·)) (hwrite content refusals')).symm.trans hdone
    exact ⟨refusals', hnone, .inl hrun⟩
  · cases (congrArg (Except.map ((), ·)) (hwrite content refusals')).symm.trans hfault
  · have hpartly : writtenPartly temporary.toString content refusal (disk.holding beside started refusals') =
        disk.holding beside (content.take refusal.written) refusals' := by rw [writtenPartly, hwrite]
    exact ⟨refusals', hnone, .inr ⟨hsome, _, _, hrun.trans (congrArg (Prod.mk _) hpartly)⟩⟩

theorem run_move (hfile : disk.locate path.toString = .found place (.file old)) (content : Text.Bytes)
    (refusals : List (Option Refusal)) : ∃ refusals', (refusals = [] → refusals' = []) ∧
      ((attempt (FileAccess.move temporary.toString path.toString) : DiskStep Unit).run
          (disk.holding beside content refusals) = (.ok (), disk.holding place content refusals') ∨
      refusals ≠ [] ∧ ∃ fault, (attempt (FileAccess.move temporary.toString path.toString) : DiskStep Unit).run
          (disk.holding beside content refusals) = (.error fault, disk.holding beside content refusals')) := by
  have hmove := hfresh.move_holding hfile content
  obtain ⟨refusals', hnone, ⟨_, disk', hdone, hrun⟩ | ⟨fault, hfault, _⟩ | ⟨hsome, refusal, hrun⟩⟩ := attempt_cases
    (fun _ => id) (fun disk => (disk.move temporary.toString path.toString).map ((), ·))
    (disk.holding beside content refusals)
  · cases (congrArg (Except.map ((), ·)) (hmove refusals')).symm.trans hdone
    exact ⟨refusals', hnone, .inl hrun⟩
  · cases (congrArg (Except.map ((), ·)) (hmove refusals')).symm.trans hfault
  · exact ⟨refusals', hnone, .inr ⟨hsome, _, hrun⟩⟩

/-- Content is moved to a path, or part of it is left in the temporary file. -/
theorem run_moveContent (hfile : disk.locate path.toString = .found place (.file old))
    (started content : Text.Bytes) (refusals : List (Option Refusal)) : ∃ refusals',
      (moveContent temporary path content : DiskStep Unit).run (disk.holding beside started refusals) =
        (.ok (), disk.holding place content refusals') ∨
      refusals ≠ [] ∧ ∃ fault written, (moveContent temporary path content : DiskStep Unit).run
        (disk.holding beside started refusals) = (.error fault, disk.holding beside written refusals') := by
  rw [moveContent, run_bind]
  obtain ⟨first, hnone, hwrite | ⟨hsome, fault, written, hwrite⟩⟩ := run_write hfresh started content refusals
  · rw [hwrite, andThen_ok]
    obtain ⟨second, hnone', hmove | ⟨hsome, fault, hmove⟩⟩ := run_move hfresh hfile content first
    · exact ⟨second, .inl hmove⟩
    · exact ⟨second, .inr ⟨fun h => hsome (hnone h), fault, content, hmove⟩⟩
  · rw [hwrite, andThen_error]
    exact ⟨first, .inr ⟨hsome, fault, written, rfl⟩⟩

theorem run_remove (content : Text.Bytes) (refusals : List (Option Refusal)) :
    (attempt (FileAccess.remove temporary.toString) : DiskStep Unit).run (disk.holding beside content refusals) =
      (.ok (), disk.refusing refusals) := by
  have hremove : StateT.run (FileAccess.remove temporary.toString : StateM Disk _)
      (disk.holding beside content refusals) = (.ok (), disk.refusing refusals) := by
    show Disk.changed _ (((disk.holding beside content refusals).remove temporary.toString).map _) = _
    rw [hfresh.remove_holding]
    rfl
  rw [run_attempt, hremove]
  rfl

/-- What has been written of a temporary file does not stay after a failure. -/
theorem run_orRemove (hfile : disk.locate path.toString = .found place (.file old))
    (started content : Text.Bytes) (refusals : List (Option Refusal)) : ∃ refusals',
      (orRemove (moveContent temporary path content) temporary : DiskStep Unit).run
          (disk.holding beside started refusals) = (.ok (), disk.holding place content refusals') ∨
      refusals ≠ [] ∧ ∃ fault, (orRemove (moveContent temporary path content) temporary : DiskStep Unit).run
          (disk.holding beside started refusals) = (.error fault, disk.refusing refusals') := by
  rw [orRemove, run_tryCatch]
  obtain ⟨refusals', hrun | ⟨hsome, fault, written, hrun⟩⟩ :=
    run_moveContent hfresh hfile started content refusals
  · rw [hrun]
    exact ⟨refusals', .inl rfl⟩
  · refine ⟨refusals', .inr ⟨hsome, fault, ?_⟩⟩
    rw [hrun]
    dsimp only
    rw [run_bind, run_remove hfresh, andThen_ok, run_throw]

end Temporary

theorem refusing_eq_self {refusals : List (Option Refusal)} (hnone : disk.refusals = [] → refusals = [])
    (h : disk.refusals = []) : disk.refusing refusals = disk := by
  rw [hnone h, refusing, ← h]

/-- A file is replaced as a whole, or left as it is. -/
theorem run_replaceContent (hfile : disk.locate path.toString = .found place (.file old)) (content : Text.Bytes) :
    ∃ refusals, (replaceContent path content : DiskStep Unit).run disk = (.ok (), disk.holding place content refusals) ∨
      (∃ fault, (replaceContent path content : DiskStep Unit).run disk = (.error fault, disk.refusing refusals)) ∧
        (disk.refusals = [] → ∃ fault, disk.makeTemporary path.parent (temporaryPrefix path) = .error fault) := by
  rw [replaceContent, run_bind]
  obtain ⟨first, hnone, ⟨temporary, disk', hmade, hrun⟩ | ⟨fault, hfault, hrun⟩ | ⟨hsome, refusal, hrun⟩⟩ :=
    attempt_cases (fun _ => id) (fun disk => disk.makeTemporary path.parent (temporaryPrefix path)) disk
  · obtain ⟨beside, hfresh, rfl⟩ := fresh_of_makeFirstFile hmade
    rw [fresh_refusing] at hfresh
    obtain ⟨second, hmove | ⟨hsome, fault, hmove⟩⟩ := run_orRemove hfresh hfile [] content first
    · exact ⟨second, .inl ((congrArg (andThen _) hrun).trans hmove)⟩
    · exact ⟨second, .inr ⟨⟨fault, (congrArg (andThen _) hrun).trans hmove⟩, fun h => absurd (hnone h) hsome⟩⟩
  · refine ⟨first, .inr ⟨⟨_, (congrArg (andThen _) hrun).trans rfl⟩, fun h => ⟨fault, ?_⟩⟩⟩
    rwa [refusing_eq_self hnone h] at hfault
  · exact ⟨first, .inr ⟨⟨_, (congrArg (andThen _) hrun).trans rfl⟩, fun h => absurd h hsome⟩⟩

/-- The names in a dependency file are made absolute, or the disk is as it was. With no refusals to come, the latter is
only so if there is no such file, or its content is not one, or no temporary file can be made beside it. -/
theorem run_makeDepfileAbsolute (root : String) (path : Path) (disk : Disk) : ∃ refusals,
    (∃ place bytes content, disk.locate path.toString = .found place (.file bytes) ∧
      absoluteContent root path.toString bytes = .ok content ∧
      (makeDepfileAbsolute root path : DiskStep Unit).run disk = (.ok (), disk.holding place content refusals)) ∨
    (∃ fault, (makeDepfileAbsolute root path : DiskStep Unit).run disk = (.error fault, disk.refusing refusals)) ∧
      (disk.refusals = [] → ∀ place bytes content, disk.locate path.toString = .found place (.file bytes) →
        absoluteContent root path.toString bytes = .ok content →
        ∃ fault, disk.makeTemporary path.parent (temporaryPrefix path) = .error fault) := by
  rw [makeDepfileAbsolute, run_bind]
  obtain ⟨first, hnone, ⟨bytes, disk', hread, hrun⟩ | ⟨fault, hfault, hrun⟩ | ⟨hsome, refusal, hrun⟩⟩ :=
    attempt_cases (fun _ => id) (fun disk => (disk.read path.toString).map (·, disk)) disk
  · obtain ⟨_, hread, hsame⟩ := (map_eq_ok_iff _ _ _).mp hread
    obtain ⟨⟨place, bytes⟩, hfile, rfl⟩ := (map_eq_ok_iff _ _ _).mp hread
    cases hsame
    have hfile' := locate_of_fileAt hfile
    have hfile : disk.locate path.toString = .found place (.file bytes) := (locate_refusing _ _ _).symm.trans hfile'
    rw [show (attempt (FileAccess.read path.toString) : DiskStep _).run disk = _ from hrun, andThen_ok]
    cases hcontent : absoluteContent root path.toString bytes with
    | error fault =>
      refine ⟨first, .inr ⟨⟨fault, rfl⟩, fun _ place bytes' content hfile' hcontent' => ?_⟩⟩
      cases hfile.symm.trans hfile'
      cases hcontent.symm.trans hcontent'
    | ok content =>
      obtain ⟨second, hreplace | ⟨hreplace, hwhy⟩⟩ := run_replaceContent hfile' content
      · exact ⟨second, .inl ⟨place, bytes, content, hfile, hcontent, hreplace⟩⟩
      · refine ⟨second, .inr ⟨hreplace, fun h _ _ _ _ _ => ?_⟩⟩
        rw [refusing_eq_self hnone h] at hwhy
        exact hwhy h
  · refine ⟨first, .inr ⟨⟨_, (congrArg (andThen _) hrun).trans rfl⟩, fun _ place bytes content hfile _ => ?_⟩⟩
    have hread : (disk.refusing first).read path.toString = .ok bytes := by
      rw [Disk.read, fileAt_of_locate ((locate_refusing _ _ _).trans hfile)]
      rfl
    rw [hread] at hfault
    cases hfault
  · exact ⟨first, .inr ⟨⟨_, (congrArg (andThen _) hrun).trans rfl⟩, fun h => absurd h hsome⟩⟩

end BuildStep
end BuildTree
