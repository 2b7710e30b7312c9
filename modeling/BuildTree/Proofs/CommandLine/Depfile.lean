import BuildTree.Proofs.CommandLine.Parse
import BuildTree.Proofs.Disk.Replacement
import BuildTree.Proofs.Text.Ascii

/-!
# The tool for dependency files

It can be called in two ways, as a command of the tool and as a helper command of the build. They leave the same files,
and either all of it has succeeded or nothing has changed.
-/

namespace BuildTree.CommandLine
open Effect BuildStep

section Words
variable {root depfile : String}

/-- Two plain words fill two places for one word each. -/
theorem take_depfile (hroot : PlainWord root) (hdepfile : PlainWord depfile) :
    take depfileGrammar [root, depfile] = .ok ⟨[], [[root], [depfile]], [], []⟩ := by
  have hwords : words depfileGrammar [root, depfile] = .ok [.plain root, .plain depfile] :=
    words_plains _ (by simp [hroot, hdepfile])
  have htexts : ∀ {text : String}, PlainWord text → placeTexts .one [.plain text] = [text] := fun h => by
    rw [placeTexts, withoutDashes, List.erase_of_not_mem]
    · rfl
    · simpa [Word.text] using h.ne_dashes.symm
    · exact fun he => by cases he
  have hfill : Taken.fill ⟨[], [], [.one, .one], []⟩ [.plain root, .plain depfile] =
      (⟨[], [[root], [depfile]], [], []⟩, 2) := by
    show (Taken.mk [] [placeTexts .one [.plain root], placeTexts .one [.plain depfile]] [] [], 2) = _
    rw [htexts hroot, htexts hdepfile]
  have htaken : takeWords depfileGrammar ⟨[], [], depfileGrammar.places, []⟩ 0 [.plain root, .plain depfile] =
      .ok ⟨[], [[root], [depfile]], [], []⟩ := by
    show Except.ok (Taken.takeRest ⟨[], [], [.one, .one], []⟩ [.plain root, .plain depfile]) = _
    rw [Taken.takeRest, hfill]
    rfl
  rw [take, hwords]
  show (takeWords depfileGrammar ⟨[], [], depfileGrammar.places, []⟩ 0 [.plain root, .plain depfile] >>= _) = _
  rw [htaken]
  rfl

theorem request_depfileArgs (hroot : PlainWord root) (hdepfile : PlainWord depfile) :
    request ["rewrite-depfile", root, depfile] = .ok (.makeDepfileAbsolute ⟨false, false⟩ root (some depfile)) := by
  have hwords : words topGrammar [root, depfile] = .ok [.plain root, .plain depfile] :=
    words_plains _ (by simp [hroot, hdepfile])
  have htop := take_rest (g := topGrammar) rfl (by decide : PlainWord "rewrite-depfile") hwords
  have hcommand : commandRequest "rewrite-depfile" [root, depfile] =
      .ok (.makeDepfileAbsolute ⟨false, false⟩ root (some depfile), []) := by
    rw [commandRequest, take_depfile hroot hdepfile]
    rfl
  rw [request, htop]
  show (commandRequest "rewrite-depfile" _ >>= _) = _
  rw [hcommand]
  rfl

end Words

section Endings
variable (root depfile : String)

/-- A command that did not succeed has ended with status 1, or something escaped it. -/
def Ending.Failed : Ending → Prop
  | .exit status => status = 1
  | .escaped _ => True

theorem helperEnding_error (fault : StepFault) : (helperEnding (.error fault)).1.Failed := by
  cases fault <;> trivial

theorem depfileEnding_error (fault : StepFault) : (depfileEnding root depfile (.error fault)).1.Failed := by
  unfold depfileEnding
  split
  · next h => cases h
  all_goals trivial

theorem Ending.Failed.ne {e : Ending} (h : e.Failed) : e ≠ .exit 0 := by
  rintro rfl
  cases h

variable {disk after : Disk} {outcome : Except StepFault Unit}
  (h : (BuildStep.makeDepfileAbsolute root (Path.ofString depfile) : DiskStep Unit).run disk = (outcome, after))
include h

theorem run_helper : (runHelper ["rewrite-depfile", root, depfile] : StateM Disk Result).run disk =
    (⟨(helperEnding outcome).1, (helperEnding outcome).2, none⟩, after) := by
  show (let (outcome, after) := (BuildStep.makeDepfileAbsolute root (Path.ofString depfile) : DiskStep Unit).run disk
    ((⟨(helperEnding outcome).1, (helperEnding outcome).2, none⟩ : Result), after)) = _
  rw [h]

theorem run_tool (w : World) (v : Verbosity) :
    (execute w (.makeDepfileAbsolute v root (some depfile)) : StateM Disk Result).run disk =
      (⟨(depfileEnding root depfile outcome).1, v.print (depfileEnding root depfile outcome).2, none⟩, after) := by
  show (let (outcome, after) := (BuildStep.makeDepfileAbsolute root (Path.ofString depfile) : DiskStep Unit).run disk
    ((⟨(depfileEnding root depfile outcome).1, v.print (depfileEnding root depfile outcome).2, none⟩ : Result),
      after)) = _
  rw [h]

end Endings

theorem absoluteContent_eq_ok_iff {root path : String} {bytes content : Text.Bytes} :
    absoluteContent root path bytes = .ok content ↔ ∃ text absolute, textOfBytes bytes = .ok text ∧
      Depfile.makeAbsolute text root = .ok absolute ∧ content = Text.encode absolute := by
  rw [absoluteContent, bind_eq_ok_iff]
  refine exists_congr fun text => ?_
  cases Depfile.makeAbsolute text root with
  | error fault => simp [throw, throwThe, MonadExceptOf.throw]
  | ok absolute => simp [pure, Except.pure, eq_comm]

/-- A path leads to a file in the first disk that is a dependency file, and in the second disk its names are absolute;
nothing else is different. -/
def MadeAbsolute (root : String) (path : Path) (disk after : Disk) : Prop :=
  ∃ place bytes text absolute, disk.locate path.toString = .found place (.file bytes) ∧ textOfBytes bytes = .ok text ∧
    Depfile.makeAbsolute text root = .ok absolute ∧ disk.Refilled after place (Text.encode absolute)

/-- Called in either way, the tool leaves the same files. If it ends with status 0, the dependency file has its names
made absolute, and nothing else is different; otherwise nothing is different, even if the system has refused to do its
part at some point. If it refuses nothing, and a temporary file can be made beside a dependency file, the tool
succeeds. -/
theorem makeDepfileAbsolute_atomic (w : World) {root depfile : String} (hroot : PlainWord root)
    (hdepfile : PlainWord depfile) (disk : Disk) : ∃ r helper tool after,
      request ["rewrite-depfile", root, depfile] = .ok r ∧
      (runHelper ["rewrite-depfile", root, depfile] : StateM Disk Result).run disk = (helper, after) ∧
      (execute w r : StateM Disk Result).run disk = (tool, after) ∧
      ((helper.ending = .exit 0 ∧ tool.ending = .exit 0 ∧ MadeAbsolute root (Path.ofString depfile) disk after) ∨
        helper.ending.Failed ∧ tool.ending.Failed ∧ after.here = disk.here ∧ after.entries = disk.entries) ∧
      (disk.refusals = [] →
        (∃ temporary, disk.makeTemporary (Path.ofString depfile).parent (temporaryPrefix (Path.ofString depfile)) =
          .ok temporary) →
        ∀ place bytes text absolute, disk.locate (Path.ofString depfile).toString = .found place (.file bytes) →
          textOfBytes bytes = .ok text → Depfile.makeAbsolute text root = .ok absolute → tool.ending = .exit 0) := by
  obtain ⟨refusals, ⟨place, bytes, content, hfile, hcontent, hrun⟩ | ⟨⟨fault, hrun⟩, hwhy⟩⟩ :=
    run_makeDepfileAbsolute root (Path.ofString depfile) disk
  · refine ⟨_, _, _, _, request_depfileArgs hroot hdepfile, run_helper root depfile hrun,
      run_tool root depfile hrun w _, .inl ⟨rfl, rfl, ?_⟩, fun _ _ _ _ _ _ _ _ _ => rfl⟩
    obtain ⟨text, absolute, htext, habsolute, rfl⟩ := absoluteContent_eq_ok_iff.mp hcontent
    exact ⟨place, bytes, text, absolute, hfile, htext, habsolute, Disk.refilled_holding hfile _ _⟩
  · refine ⟨_, _, _, _, request_depfileArgs hroot hdepfile, run_helper root depfile hrun,
      run_tool root depfile hrun w _,
      .inr ⟨helperEnding_error fault, depfileEnding_error root depfile fault, rfl, rfl⟩, ?_⟩
    rintro hnone ⟨temporary, htemporary⟩ place bytes text absolute hfile htext habsolute
    obtain ⟨fault', hfault⟩ := hwhy hnone place bytes _ hfile
      (absoluteContent_eq_ok_iff.mpr ⟨text, absolute, htext, habsolute, rfl⟩)
    cases htemporary.symm.trans hfault

/-- A disk with this text in `a.d`, that may refuse accesses. -/
def depfileDisk (text : String) (refusals : List (Option Refusal)) : Disk :=
  { Disk.blank.putNamed "a.d" (.file (Text.encode text)) with refusals := refusals }

/-- No room for more than three bytes of what is written first. -/
def noRoom : List (Option Refusal) :=
  [none, none, some ⟨.unknown "[Errno 28] No space left on device", 3⟩]

/-- A place where no pass is run. -/
def bareWorld : World :=
  ⟨Path.top, [], [], "/usr/bin/python3", 990⟩

theorem makeDepfileAbsolute_atomic_depfileDisk :
    (∃ r helper tool after, request ["rewrite-depfile", "/src", "a.d"] = .ok r ∧
      (runHelper ["rewrite-depfile", "/src", "a.d"] : StateM Disk Result).run (depfileDisk "a.o: a.c\n" []) =
        (helper, after) ∧
      (execute bareWorld r : StateM Disk Result).run (depfileDisk "a.o: a.c\n" []) = (tool, after) ∧
      helper.ending = .exit 0 ∧ tool.ending = .exit 0 ∧
      MadeAbsolute "/src" (Path.ofString "a.d") (depfileDisk "a.o: a.c\n" []) after) ∧
    ∃ helper after,
      (runHelper ["rewrite-depfile", "/src", "a.d"] : StateM Disk Result).run (depfileDisk "a.o: a.c\n" noRoom) =
        (helper, after) ∧
      helper.ending.Failed ∧ after.entries = (depfileDisk "a.o: a.c\n" []).entries := by
  have hroot : PlainWord "/src" := by decide
  have hdepfile : PlainWord "a.d" := by decide
  constructor
  · obtain ⟨r, helper, tool, after, hr, hhelper, htool, hends, hdone⟩ :=
      makeDepfileAbsolute_atomic bareWorld hroot hdepfile (depfileDisk "a.o: a.c\n" [])
    have htext : textOfBytes (Text.encode "a.o: a.c\n") = .ok "a.o: a.c\n" :=
      textOfBytes_encode (by simp [Text.IsAscii]) (by decide)
    have hexit := hdone rfl ⟨_, rfl⟩ ["tmp", "work", "a.d"] _ _ _ (by decide +kernel) htext
      (rfl : Depfile.makeAbsolute "a.o: a.c\n" "/src" = .ok "a.o: /src/a.c\n")
    rcases hends with ⟨hhelper', htool', hmade⟩ | ⟨_, hfailed, _⟩
    · exact ⟨r, helper, tool, after, hr, hhelper, htool, hhelper', htool', hmade⟩
    · exact absurd hexit hfailed.ne
  · obtain ⟨r, helper, tool, after, hr, hhelper, htool, hends, -⟩ :=
      makeDepfileAbsolute_atomic bareWorld hroot hdepfile (depfileDisk "a.o: a.c\n" noRoom)
    refine ⟨helper, after, hhelper, ?_⟩
    have hnoRoom : ((runHelper ["rewrite-depfile", "/src", "a.d"] : StateM Disk Result).run
        (depfileDisk "a.o: a.c\n" noRoom)).1.ending ≠ .exit 0 := by
      decide +kernel
    rw [hhelper] at hnoRoom
    rcases hends with ⟨hhelper', _⟩ | ⟨hfailed, _, _, hsame⟩
    · exact absurd hhelper' hnoRoom
    · exact ⟨hfailed, hsame⟩

end BuildTree.CommandLine
