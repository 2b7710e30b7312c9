import BuildTree.Proofs.Project.Reached
import BuildTree.Proofs.Project.Trees

/-!
# Scripts that are read

A script is noted when it is read. It is the script of a directory in the source tree, or one that is preloaded. Both
trees and the preloaded scripts are given by absolute paths, so every script that is noted in a pass is one, whatever
scripts do.
-/

namespace BuildTree
open Effect

/-- Whatever is noted as read is an absolute path. -/
def NotesAbsolute (es : List Event) : Prop :=
  ∀ script ∈ begun es, script.isAbsolute = true

section Notes
variable {es es' : List Event}

theorem notesAbsolute_nil : NotesAbsolute [] := fun _ h => absurd h List.not_mem_nil

theorem NotesAbsolute.append (h : NotesAbsolute es) (h' : NotesAbsolute es') : NotesAbsolute (es ++ es') := by
  rw [NotesAbsolute, begun_append]
  exact List.forall_mem_append.mpr ⟨h, h'⟩

theorem NotesAbsolute.within (h : NotesAbsolute es) (e : Enclosure) : NotesAbsolute (es.map (Event.within e)) := by
  rwa [NotesAbsolute, begun_within]

theorem NotesAbsolute.events (frame : ScriptFrame) (statement : Statement) (s : Session) {inside : Option (List Event)}
    (h : NotesAbsolute (inside.getD [])) : NotesAbsolute (frame.events statement s inside) :=
  h.append notesAbsolute_nil

theorem NotesAbsolute.afterwards {ε α : Type} {first : Except ε α × Session} {rest : Session → List Event}
    (h : NotesAbsolute es) (hrest : NotesAbsolute (rest first.2)) :
    NotesAbsolute (es ++ BuildTree.afterwards rest first) := by
  obtain ⟨outcome, s⟩ := first
  cases outcome with
  | error f => exact h.append notesAbsolute_nil
  | ok a => exact h.append hrest

end Notes

section Scripts
variable {setup : Setup}

/-- Whatever happens in a directory that is entered with this setup, what is noted is absolute. -/
def FollowsAbsolute {ρ : Type} (setup : Setup) (follow : ρ → Session → Option (List Event)) (path : ρ) : Prop :=
  ∀ s, s.setup = setup → NotesAbsolute ((follow path s).getD [])

section Running
variable {frame : ScriptFrame} {follow : Given → Session → Option (List Event)}

mutual

theorem notesAbsolute_body (henter : ∀ here path, Leads Session.Moves (frame.enter here path))
    (hfollow : ∀ path, FollowsAbsolute setup follow path) :
    ∀ body s, s.setup = setup → NotesAbsolute (bodyEvents frame follow body s)
  | [], s, _ => by
    rw [bodyEvents]
    exact notesAbsolute_nil
  | statement :: rest, s, hs => by
    rw [bodyEvents]
    have hsetup := (leads_runStatement henter statement s).setup
    exact ((notesAbsolute_inside henter hfollow statement s hs).events frame statement s).afterwards
      (notesAbsolute_body henter hfollow rest _ (hsetup.trans hs))

theorem notesAbsolute_inside (henter : ∀ here path, Leads Session.Moves (frame.enter here path))
    (hfollow : ∀ path, FollowsAbsolute setup follow path) :
    ∀ statement s, s.setup = setup → NotesAbsolute ((insideEvents frame follow statement s).getD [])
  | .call line verb args on bindTo, s, _ => by
    rw [insideEvents]
    exact notesAbsolute_nil
  | .subdir line args, s, hs => by
    rw [insideEvents]
    cases s.argument? "path" args with
    | none => exact notesAbsolute_nil
    | some path => exact hfollow path s hs
  | .project line args body, s, hs => by
    rw [insideEvents]
    cases s.projectOf? args with
    | none => exact notesAbsolute_nil
    | some name => exact (notesAbsolute_body henter hfollow body (s.entering (.project name)) hs).within _
  | .attempt line body, s, hs => by
    rw [insideEvents]
    exact (notesAbsolute_body henter hfollow body s hs).within _
  | .raise line complaint, s, _ => by
    rw [insideEvents]
    exact notesAbsolute_nil

end

end Running

/-- The script of a directory lies in the source tree. -/
theorem followsAbsolute_directory (hrooted : setup.Rooted) {follow : Path → Session → Option (List Event)}
    (h : ∀ script, script.isAbsolute = true → FollowsAbsolute setup follow script) (path : Given) :
    FollowsAbsolute setup (directoryEvents follow) path := by
  intro s hs
  rw [directoryEvents]
  cases s.directoryOf? path with
  | none => exact notesAbsolute_nil
  | some found =>
    obtain ⟨p, name⟩ := found
    have hinside : (s.inDirectory p).setup = setup := (s.aside_inDirectory p).setup.trans hs
    have hscript : ((s.inDirectory p).sourceDir.join name).isAbsolute = true := by
      rw [Session.sourceDir, hinside]
      exact Path.isAbsolute_join (Path.isAbsolute_join hrooted.source.absolute _) name
    have hnotes := h _ hscript (s.inDirectory p) hinside
    dsimp only
    cases hfollow : follow ((s.inDirectory p).sourceDir.join name) (s.inDirectory p) with
    | none => exact notesAbsolute_nil
    | some es =>
      rw [hfollow] at hnotes
      exact NotesAbsolute.within hnotes _

theorem followsAbsolute_script (hrooted : setup.Rooted) (depth : Nat) {script : Path}
    (absolute : script.isAbsolute = true) : FollowsAbsolute setup (scriptEvents depth) script := by
  -- what a script enters is run one level down, whatever statements lie between the two
  induction depth using Nat.strongRecOn generalizing script with
  | ind depth ih =>
    intro s hs
    rcases Pass.run_runScript_cases depth none script s with
      ⟨depth', body, s', rfl, hbegan, _, hevents⟩ | ⟨_, _, _, _, _, hevents⟩ | ⟨_, _, _, _, hnone, _⟩
    · have hmoves := (Pass.leads_enterScript script s).setup
      rw [hbegan] at hmoves
      have henter : ∀ here path, Leads Session.Moves ((Pass.frameOf depth' script).enter here path) :=
        Pass.leads_enterDirectory (Pass.leads_runScript depth')
      have hbody := notesAbsolute_body henter
        (followsAbsolute_directory hrooted fun _ => ih depth' (Nat.lt_succ_self _)) body s' (hmoves.trans hs)
      rw [hevents]
      exact List.forall_mem_cons.mpr ⟨absolute, hbody⟩
    · rw [hevents]
      exact List.forall_mem_cons.mpr ⟨absolute, notesAbsolute_nil⟩
    · rw [hnone]
      exact notesAbsolute_nil

theorem notesAbsolute_scripts (hrooted : setup.Rooted) {scripts : List Path}
    (absolute : ∀ script ∈ scripts, script.isAbsolute = true) {s : Session} (hs : s.setup = setup) :
    NotesAbsolute (preloadEvents scripts s) := by
  induction scripts generalizing s with
  | nil => exact notesAbsolute_nil
  | cons script rest ih =>
    rw [List.forall_mem_cons] at absolute
    have hsetup := (Pass.leads_runScript Pass.maxDepth none script s).setup
    exact (followsAbsolute_script hrooted Pass.maxDepth absolute.1 s hs).afterwards (ih absolute.2 (hsetup.trans hs))

/-- The scripts of a pass lie in the source tree, but for those that are preloaded. -/
theorem notesAbsolute_configure (hrooted : setup.Rooted)
    (preloads : ∀ script ∈ setup.preloads, script.isAbsolute = true) {s : Session} (hs : s.setup = setup) :
    NotesAbsolute (configureEvents s) := by
  have hready : (s.withDirectory s.setup.build).setup = setup := (s.aside_withDirectory _).setup.trans hs
  have hdone := (Pass.leads_runScripts s.setup.preloads (s.withDirectory s.setup.build)).setup
  have hscripts := notesAbsolute_scripts hrooted (hs.symm ▸ preloads) hready
  exact hscripts.afterwards (followsAbsolute_directory hrooted
    (fun _ => followsAbsolute_script hrooted Pass.maxDepth) (.text ".") _ (hdone.trans hready))

namespace Session
variable {files : FileTree} {s : Session} {es : List Event}

theorem setup_of_history (h : History setup files s es) : s.setup = setup := by
  have kept : KeptIf (fun _ => True) fun s => s.setup = setup :=
    { inside := fun _ => trivial
      of_same := fun hs hsetup _ _ => hsetup.trans hs
      noted := fun hs _ _ _ _ => hs
      call := fun {s} hs frame line verb args on bindTo _ =>
        (undisturbed_visit_call frame line verb args on bindTo s).setup.trans hs }
  exact (kept.of_history rfl h fun _ _ => trivial).1

theorem notesAbsolute_of_history (hrooted : setup.Rooted)
    (preloads : ∀ script ∈ setup.preloads, script.isAbsolute = true) (h : History setup files s es) :
    NotesAbsolute es := by
  induction h with
  | start => exact notesAbsolute_nil
  | before history _ ih => exact ih.append (notesAbsolute_configure hrooted preloads (setup_of_history history))
  | after history _ ih => exact ih.append (notesAbsolute_configure hrooted preloads (setup_of_history history))
  | configured history ih => exact ih.append (notesAbsolute_configure hrooted preloads (setup_of_history history))
  | ran depth script statement history ih =>
    have henter : ∀ here path, Leads Session.Moves ((Pass.frameOf depth script).enter here path) :=
      Pass.leads_enterDirectory (Pass.leads_runScript depth)
    have hinside := notesAbsolute_inside henter (followsAbsolute_directory hrooted fun _ =>
      followsAbsolute_script hrooted depth) statement _ (setup_of_history history)
    exact ih.append (hinside.events _ _ _)
  | written _ _ ih => exact ih

end Session

end Scripts

end BuildTree
