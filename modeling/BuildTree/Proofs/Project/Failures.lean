import BuildTree.Proofs.Project.Repeat
import BuildTree.Proofs.Project.Scopes

/-!
# Where a failure comes from

A statement raises a fault, or one that it has run does. On its way out a fault goes through everything around: leaving
the first script it becomes the failure of that script, located at the statement that raised it, unless it is reported
already or stops the whole pass, and from then on nothing changes it. The innermost attempt around it ends it; if there
is none, it leaves the pass. A script that a pass starts from can fail it before any statement runs.
-/

namespace BuildTree
open Effect Relation

/-- Leaving one script settles what a fault is for those around it. -/
theorem Fault.leaving_leaving (f : Fault) (script script' : String) (origin origin' : Option Location) :
    (f.leaving script origin).leaving script' origin' = f.leaving script origin := by
  by_cases h : (f.isReported || f.isInterrupt) = true
  · have hsame : ∀ s o, f.leaving s o = f := fun s o => if_pos h
    rw [hsame, hsame]
  · have hscript : f.leaving script origin = .script script f.summary (f.placeIn origin) := if_neg h
    rw [hscript]
    rfl

namespace Visit

/-- The fault that a statement raises itself, and not one that it has run. -/
def raised? (v : Visit) : Option Fault :=
  match v.entered, v.outcome with
  | false, .error failure => some failure.fault
  | _, _ => none

/-- The fault as it comes out of some of what a statement stands in: if it leaves a directory, it leaves the script. -/
def carried (v : Visit) (steps : List Enclosure) (g : Fault) : Fault :=
  if steps.any Enclosure.isDirectory then g.leaving v.script.toString (some v.place) else g

end Visit

/-- A fault that a statement raises and that no attempt stops. -/
structure Uncaught (es : List Event) (v : Visit) (g : Fault) : Prop where
  visit : v ∈ visits es
  raised : v.raised? = some g
  free : ∀ e ∈ v.enclosing, e.isAttempt = false

/-- Every fault that is raised in an attempt is stopped by the innermost one, which comes to that fault. -/
def Stops (es : List Event) : Prop :=
  ∀ v ∈ visits es, ∀ g, v.raised? = some g → ∀ outer place inner, v.enclosing = outer ++ .attempt place :: inner →
    (∀ e ∈ inner, e.isAttempt = false) →
      ∃ w ∈ visits es, w.place = place ∧ w.enclosing = outer ∧ w.outcome = .ok (.caught (some (v.carried inner g)))

theorem stops_of_visits_nil {es : List Event} (h : visits es = []) : Stops es := fun _ hv =>
  absurd (h ▸ hv) List.not_mem_nil

theorem Uncaught.append_cases {es es' : List Event} {v : Visit} {g : Fault} (h : Uncaught (es ++ es') v g) :
    Uncaught es v g ∨ Uncaught es' v g := by
  have hvisit := h.visit
  rw [visits_append] at hvisit
  exact (List.mem_append.mp hvisit).imp (⟨·, h.raised, h.free⟩) (⟨·, h.raised, h.free⟩)

theorem Uncaught.append_left {es : List Event} {v : Visit} {g : Fault} (h : Uncaught es v g) (es' : List Event) :
    Uncaught (es ++ es') v g :=
  ⟨by rw [visits_append]; exact List.mem_append_left _ h.visit, h.raised, h.free⟩

theorem Uncaught.append_right {es' : List Event} {v : Visit} {g : Fault} (h : Uncaught es' v g) (es : List Event) :
    Uncaught (es ++ es') v g :=
  ⟨by rw [visits_append]; exact List.mem_append_right _ h.visit, h.raised, h.free⟩

theorem Stops.append {es es' : List Event} (h : Stops es) (h' : Stops es') : Stops (es ++ es') := by
  intro v hv g hg outer place inner henclosing hfree
  rw [visits_append] at hv ⊢
  rcases List.mem_append.mp hv with hv | hv
  · obtain ⟨w, hw, hout⟩ := h v hv g hg outer place inner henclosing hfree
    exact ⟨w, List.mem_append_left _ hw, hout⟩
  · obtain ⟨w, hw, hout⟩ := h' v hv g hg outer place inner henclosing hfree
    exact ⟨w, List.mem_append_right _ hw, hout⟩

/-- What becomes of the faults raised in a run: one that no attempt stops ends the run and is afterwards what `Through`
says; nothing else ends the run but what `Other` says. -/
structure Faults {ε α : Type} (Through : Visit → Fault → ε → Prop) (Other : ε → Prop) (es : List Event)
    (outcome : Except ε α) : Prop where
  uncaught : ∀ v g, Uncaught es v g → ∃ e, outcome = .error e ∧ Through v g e
  blamed : ∀ e, outcome = .error e → (∃ v g, Uncaught es v g) ∨ Other e
  stops : Stops es

namespace Faults
variable {ε ε' α β : Type} {Through Through' : Visit → Fault → ε → Prop} {Other : ε → Prop} {es es' : List Event}

theorem done (hes : visits es = []) (a : α) : Faults Through Other es (.ok a) :=
  ⟨fun _ _ h => absurd (hes ▸ h.visit) List.not_mem_nil, fun _ h => (by cases h), stops_of_visits_nil hes⟩

theorem other (hes : visits es = []) {e : ε} (h : Other e) : Faults Through Other es (.error e : Except ε α) :=
  ⟨fun _ _ h => absurd (hes ▸ h.visit) List.not_mem_nil, fun _ he => .inr (Except.error.inj he ▸ h),
    stops_of_visits_nil hes⟩

/-- Where nothing has gone wrong, what comes next decides. -/
theorem append {a : α} {outcome : Except ε β} (h : Faults Through Other es (.ok a : Except ε α))
    (h' : Faults Through Other es' outcome) : Faults Through Other (es ++ es') outcome where
  uncaught v g hv := by
    rcases hv.append_cases with hv | hv
    · obtain ⟨_, hcontra, _⟩ := h.uncaught v g hv
      cases hcontra
    · exact h'.uncaught v g hv
  blamed e he := (h'.blamed e he).imp_left fun ⟨v, g, hv⟩ => ⟨v, g, hv.append_right es⟩
  stops := h.stops.append h'.stops

theorem weaken {Other' : ε → Prop} {outcome : Except ε α} (h : Faults Through Other es outcome)
    (hother : ∀ e, Other e → Other' e) : Faults Through Other' es outcome :=
  { h with blamed := fun e he => (h.blamed e he).imp_right (hother e) }

theorem failed {e : ε} (h : Faults Through Other es (.error e : Except ε α)) :
    Faults Through Other es (.error e : Except ε β) where
  uncaught v g hv := by
    obtain ⟨e', he', hthrough⟩ := h.uncaught v g hv
    exact ⟨e', congrArg Except.error (Except.error.inj he'), hthrough⟩
  blamed e' he' := h.blamed e' (congrArg Except.error (Except.error.inj he'))
  stops := h.stops

theorem bind {c : ExceptT ε (StateM Session) α} {f : α → ExceptT ε (StateM Session) β} {s : Session}
    {rest : Session → List Event} (hc : Faults Through Other es (c.run s).1)
    (hf : ∀ a s', c.run s = (.ok a, s') → Faults Through Other (rest s') ((f a).run s').1) :
    Faults Through Other (es ++ afterwards rest (c.run s)) ((c >>= f).run s).1 := by
  rw [run_bind]
  generalize hrun : c.run s = first at hc ⊢
  obtain ⟨outcome, s'⟩ := first
  cases outcome with
  | error e =>
    rw [afterwards, List.append_nil]
    exact hc.failed
  | ok a => exact hc.append (hf a s' hrun)

theorem mapError {outcome : Except ε α} {f : ε → ε'} {Through' : Visit → Fault → ε' → Prop} {Other' : ε' → Prop}
    (h : Faults Through Other es outcome) (hthrough : ∀ v ∈ visits es, ∀ g e, Through v g e → Through' v g (f e))
    (hother : ∀ e, Other e → Other' (f e)) : Faults Through' Other' es (outcome.mapError f) where
  uncaught v g hv := by
    obtain ⟨e, rfl, he⟩ := h.uncaught v g hv
    exact ⟨f e, rfl, hthrough v hv.visit g e he⟩
  blamed e he := by
    cases outcome with
    | ok a => cases he
    | error e' =>
      cases he
      exact (h.blamed e' rfl).imp_right (hother e')
  stops := h.stops

theorem congr {outcome : Except ε α} {outcome' : Except ε β} (h : Faults Through Other es outcome)
    (heq : ∀ e, outcome' = .error e ↔ outcome = .error e) : Faults Through Other es outcome' where
  uncaught v g hv := by
    obtain ⟨e, he, hthrough⟩ := h.uncaught v g hv
    exact ⟨e, (heq e).mpr he, hthrough⟩
  blamed e he := h.blamed e ((heq e).mp he)
  stops := h.stops

/-- The end of a statement that raises nothing itself adds nothing to what is raised in it. -/
theorem close {outcome : Except ε α} (h : Faults Through Other es outcome) {v : Visit} (quiet : v.raised? = none) :
    Faults Through Other (es ++ [.ended v]) outcome := by
  have hlast : ∀ w ∈ visits [.ended v], w.raised? = none := fun w hw => List.mem_singleton.mp hw ▸ quiet
  refine ⟨fun w g hw => ?_, fun e he => ?_, h.stops.append fun w hw g hg => ?_⟩
  · rcases hw.append_cases with hw | hw
    · exact h.uncaught w g hw
    · cases (hlast w hw.visit).symm.trans hw.raised
  · exact (h.blamed e he).imp_left fun ⟨w, g, hw⟩ => ⟨w, g, hw.append_left _⟩
  · cases (hlast w hw).symm.trans hg

end Faults

/-- Inside a directory or a project the same attempts stop the same faults. -/
theorem Stops.within {es : List Event} (h : Stops es) {e : Enclosure} (he : e.isAttempt = false) :
    Stops (es.map (Event.within e)) := by
  intro v hv g hg outer place inner henclosing hfree
  rw [visits_within] at hv ⊢
  obtain ⟨v, hv', rfl⟩ := List.mem_map.mp hv
  cases outer with
  | nil =>
    cases (List.cons.inj henclosing).1
    cases he
  | cons e' outer =>
    obtain ⟨rfl, hrest⟩ := List.cons.inj henclosing
    obtain ⟨w, hw, hplace, houter, houtcome⟩ := h v hv' g hg outer place inner hrest hfree
    exact ⟨w.within e, List.mem_map_of_mem hw, hplace, congrArg (e :: ·) houter, houtcome⟩

/-- What is raised in an attempt is stopped further in or by the attempt itself. -/
theorem Stops.attempt {es : List Event} (h : Stops es) {attempt : Visit} (outermost : attempt.enclosing = [])
    (quiet : attempt.raised? = none) (caught : ∀ v g, Uncaught es v g →
      attempt.outcome = .ok (.caught (some (v.carried v.enclosing g)))) :
    Stops (es.map (Event.within (.attempt attempt.place)) ++ [.ended attempt]) := by
  intro v hv g hg outer place inner henclosing hfree
  rw [visits_append, visits_ended, visits_within] at hv ⊢
  rcases List.mem_append.mp hv with hv | hv
  · obtain ⟨v, hv', rfl⟩ := List.mem_map.mp hv
    cases outer with
    | nil =>
      obtain ⟨hplace, hinner⟩ := List.cons.inj henclosing
      cases hplace
      cases hinner
      exact ⟨attempt, List.mem_append_right _ (List.mem_singleton_self _), rfl, outermost,
        caught v g ⟨hv', hg, hfree⟩⟩
    | cons e' outer =>
      obtain ⟨rfl, hrest⟩ := List.cons.inj henclosing
      obtain ⟨w, hw, hplace, houter, houtcome⟩ := h v hv' g hg outer place inner hrest hfree
      exact ⟨w.within (.attempt attempt.place), List.mem_append_left _ (List.mem_map_of_mem hw), hplace,
        congrArg (_ :: ·) houter, houtcome⟩
  · cases List.mem_singleton.mp hv
    cases quiet.symm.trans hg

theorem Faults.within {ε α : Type} {Through Through' : Visit → Fault → ε → Prop} {Other : ε → Prop}
    {es : List Event} {outcome : Except ε α} (h : Faults Through Other es outcome) {e : Enclosure}
    (he : e.isAttempt = false)
    (hthrough : ∀ v ∈ visits es, ∀ g failure, Through v g failure → Through' (v.within e) g failure) :
    Faults Through' Other (es.map (Event.within e)) outcome where
  uncaught v g hv := by
    obtain ⟨w, hw, hwv⟩ := List.mem_map.mp (visits_within es e ▸ hv.visit)
    subst hwv
    obtain ⟨failure, houtcome, hout⟩ := h.uncaught w g
      ⟨hw, hv.raised, fun e' he' => hv.free e' (List.mem_cons_of_mem _ he')⟩
    exact ⟨failure, houtcome, hthrough w hw g failure hout⟩
  blamed failure hf := (h.blamed failure hf).imp_left fun ⟨v, g, hv⟩ =>
    ⟨v.within e, g, visits_within es e ▸ List.mem_map_of_mem hv.visit, hv.raised,
      fun e' he' => (List.mem_cons.mp he').elim (fun h => h ▸ he) (hv.free e')⟩
  stops := h.stops.within he

/-- A fault of a statement on its way out of the script that is running: leaving that script, it will be what it is for
the script that it comes from. -/
structure OutOfBody (script : String) (v : Visit) (g : Fault) (failure : Failure) : Prop where
  fault : failure.fault = v.carried v.enclosing g
  located : failure.origin.isSome
  leaving : failure.fault.leaving script failure.origin = g.leaving v.script.toString (some v.place)

def OutOfScript (v : Visit) (g : Fault) (f : Fault) : Prop :=
  f = g.leaving v.script.toString (some v.place)

/-- Nothing else ends a run of statements. -/
abbrev BodyFaults {α : Type} (script : String) : List Event → Except Failure α → Prop :=
  Faults (OutOfBody script) fun _ => False

section Statements
variable {frame : ScriptFrame} {statement : Statement} {s : Session} {action : Eval Outcome}

/-- A statement that has run no others raises what it fails with. -/
theorem bodyFaults_alone {inside : Option (List Event)} (hnone : visits (inside.getD []) = [])
    (hrun : runStatement frame statement = Eval.ended (frame.place statement.line) action)
    (hfresh : ∀ failure, (action.run s).1 = .error failure → failure.origin = none) :
    BodyFaults frame.script.toString (frame.events statement s inside) ((runStatement frame statement).run s).1 := by
  have houtcome : ((runStatement frame statement).run s).1 =
      (action.run s).1.mapError (Failure.located (frame.place statement.line)) := by
    rw [hrun, Eval.run_ended]
  have hvisit : (frame.visit statement s false).outcome = ((runStatement frame statement).run s).1 := rfl
  have honly : visits (frame.events statement s inside) = [frame.visit statement s false] := by
    rw [ScriptFrame.events, visits_append, hnone]
    rfl
  have hmem : ∀ v ∈ visits (frame.events statement s inside), v = frame.visit statement s false := fun v hv =>
    List.mem_singleton.mp (honly ▸ hv)
  cases h : (action.run s).1 with
  | ok outcome =>
    rw [h] at houtcome
    have hraised : (frame.visit statement s false).raised? = none := by
      rw [Visit.raised?, hvisit, houtcome]
      rfl
    refine ⟨fun v g hv => ?_, fun failure hf => ?_, fun v hv g hg => ?_⟩
    · cases hmem v hv.visit
      cases hraised.symm.trans hv.raised
    · rw [houtcome] at hf
      cases hf
    · cases hmem v hv
      cases hraised.symm.trans hg
  | error failure =>
    have horigin := hfresh failure h
    rw [h] at houtcome
    have hraised : (frame.visit statement s false).raised? = some failure.fault := by
      rw [Visit.raised?, hvisit, houtcome]
      rfl
    have halone : ∀ e ∈ (frame.visit statement s false).enclosing, e.isAttempt = false := by
      simp [ScriptFrame.visit]
    refine ⟨fun v g hv => ?_, fun failure' _ => ?_, fun v hv g _ outer place inner henclosing => ?_⟩
    · cases hmem v hv.visit
      cases hraised.symm.trans hv.raised
      refine ⟨_, houtcome, rfl, ?_, ?_⟩
      · rw [Failure.located, horigin]
        rfl
      · rw [Failure.located, horigin]
        rfl
    · exact .inl ⟨_, failure.fault, honly ▸ List.mem_singleton_self _, hraised, halone⟩
    · cases hmem v hv
      simp [ScriptFrame.visit] at henclosing

/-- A statement that has run others fails with what those raise, and then as they have failed. -/
theorem bodyFaults_around {es : List Event}
    (hrun : runStatement frame statement = Eval.ended (frame.place statement.line) action)
    (hinside : BodyFaults frame.script.toString es
      ((action.run s).1.mapError (Failure.located (frame.place statement.line)))) :
    BodyFaults frame.script.toString (frame.events statement s (some es)) ((runStatement frame statement).run s).1 := by
  have houtcome : ((runStatement frame statement).run s).1 =
      (action.run s).1.mapError (Failure.located (frame.place statement.line)) := by
    rw [hrun, Eval.run_ended]
  have hquiet : (frame.visit statement s !(visits es).isEmpty).raised? = none := by
    cases hes : visits es with
    | cons first rest => rfl
    | nil =>
      -- Where nothing has run, nothing has failed.
      have hvisit : (frame.visit statement s false).outcome = ((runStatement frame statement).run s).1 := rfl
      rw [← houtcome] at hinside
      show (frame.visit statement s false).raised? = none
      cases h : ((runStatement frame statement).run s).1 with
      | ok outcome =>
        rw [Visit.raised?, hvisit, h]
        rfl
      | error failure =>
        obtain ⟨v, g, hv⟩ := (hinside.blamed failure h).resolve_right id
        exact absurd (hes ▸ hv.visit) List.not_mem_nil
  rw [houtcome]
  exact Faults.close hinside hquiet

theorem origin_of_ofPass {α : Type} {c : Pass α} {failure : Failure}
    (h : ((Eval.ofPass c).run s).1 = .error failure) : failure.origin = none := by
  rw [Eval.run_ofPass] at h
  cases hc : (c.run s).1 with
  | ok a =>
    rw [hc] at h
    cases h
  | error f =>
    rw [hc] at h
    cases h
    rfl

theorem located_of_isSome {failure : Failure} (h : failure.origin.isSome) (place : Location) :
    failure.located place = failure := by
  obtain ⟨origin, ho⟩ := Option.isSome_iff_exists.mp h
  obtain ⟨fault, origin'⟩ := failure
  cases ho
  rfl

/-- What comes out of a block is located already. -/
theorem BodyFaults.located {script : String} {α : Type} {es : List Event} {outcome : Except Failure α}
    (h : BodyFaults script es outcome) (place : Location) :
    BodyFaults script es (outcome.mapError (Failure.located place)) :=
  Faults.mapError h (fun _ _ _ _ hout => (located_of_isSome hout.located place).symm ▸ hout) fun _ => id

/-- An attempt stops what is raised in it and by no attempt further in. -/
theorem bodyFaults_attempt {line : Nat} {body : List Statement} {es : List Event}
    (h : BodyFaults frame.script.toString es ((runBody frame body).run s).1) :
    BodyFaults frame.script.toString
      (frame.events (.attempt line body) s (some (es.map (Event.within (.attempt (frame.place line))))))
      ((runStatement frame (.attempt line body)).run s).1 := by
  have hrun : ((runStatement frame (.attempt line body)).run s).1 =
      .ok (.caught (Failure.fault? ((runBody frame body).run s).1)) := by
    rw [runStatement, Eval.run_ended, Eval.run_attempted]
    rfl
  have hquiet : ∀ entered, (frame.visit (.attempt line body) s entered).raised? = none := fun entered => by
    have hvisit : (frame.visit (.attempt line body) s entered).outcome =
      ((runStatement frame (.attempt line body)).run s).1 := rfl
    rw [Visit.raised?, hvisit, hrun]
    cases entered <;> rfl
  have hnone : ∀ v g, ¬ Uncaught (frame.events (.attempt line body) s
      (some (es.map (Event.within (.attempt (frame.place line)))))) v g := fun v g hv => by
    rcases hv.append_cases with hv | hv
    · obtain ⟨w, _, rfl⟩ := List.mem_map.mp (visits_within es _ ▸ hv.visit)
      cases hv.free _ List.mem_cons_self
    · cases List.mem_singleton.mp hv.visit
      cases (hquiet _).symm.trans hv.raised
  refine ⟨fun v g hv => absurd hv (hnone v g), fun failure hf => ?_, ?_⟩
  · rw [hrun] at hf
    cases hf
  · -- The faults that the body ends with are those that the attempt comes to.
    refine h.stops.attempt rfl (hquiet _) fun v g hv => ?_
    obtain ⟨failure, hfailed, hout⟩ := h.uncaught v g hv
    rw [hfailed] at hrun
    exact hrun.trans (by rw [Failure.fault?, ← hout.fault])

end Statements

/-- What is raised where a directory is entered has come out of the script there, if a statement of it has run. -/
def EntersFaults (enter : Option Location → Given → Pass Unit) (follow : Given → Session → Option (List Event)) :
    Prop :=
  ∀ here path s es, follow path s = some es →
    (∀ v ∈ visits es, v.enclosing.any Enclosure.isDirectory) ∧
      Faults OutOfScript (fun _ => visits es = []) es ((enter here path).run s).1

theorem mapError_located_ofPass {α : Type} (c : Pass α) (place : Location) (s : Session) :
    ((Eval.ofPass c).run s).1.mapError (Failure.located place) = (c.run s).1.mapError fun f => ⟨f, some place⟩ := by
  rw [Eval.run_ofPass]
  cases (c.run s).1 <;> rfl

section Blocks
variable {frame : ScriptFrame} {follow : Given → Session → Option (List Event)}

/-- What comes out of a directory that a statement enters has left its own script, so leaving this one as well changes
nothing. -/
theorem bodyFaults_entered (line : Nat) {args : Arguments String} {s : Session} {path : Given} {es : List Event}
    (hpath : s.argument? "path" args = some path) (hdirectory : ∀ v ∈ visits es, v.enclosing.any Enclosure.isDirectory)
    (hfaults : Faults OutOfScript (fun _ => False) es ((frame.enter (some (frame.place line)) path).run s).1) :
    BodyFaults frame.script.toString es
      (((Eval.ofPass (Pass.subdirStatement (frame.place line) frame.enter args)).run s).1.mapError
        (Failure.located (frame.place line))) := by
  rcases Pass.run_subdirStatement_cases (frame.place line) frame.enter args s with
    ⟨path', hpath', hsub⟩ | ⟨hnone, _⟩
  · cases hpath.symm.trans hpath'
    have hsame : Faults OutOfScript (fun _ => False) es
        ((Pass.subdirStatement (frame.place line) frame.enter args).run s).1 := by
      refine hfaults.congr fun e => ?_
      rw [hsub]
      rcases (frame.enter (some (frame.place line)) path).run s with ⟨outcome, s'⟩
      cases outcome <;> simp
    rw [mapError_located_ofPass]
    refine hsame.mapError (fun v hv g f hout => ?_) fun _ => id
    have hcarried : v.carried v.enclosing g = g.leaving v.script.toString (some v.place) :=
      if_pos (hdirectory v hv)
    cases hout
    exact ⟨hcarried.symm, rfl, Fault.leaving_leaving g _ _ _ _⟩
  · cases hpath.symm.trans hnone

theorem bodyFaults_subdir (henter : EntersFaults frame.enter follow) (line : Nat) (args : Arguments String)
    (s : Session) : BodyFaults frame.script.toString
      (frame.events (.subdir line args) s (insideEvents frame follow (.subdir line args) s))
      ((runStatement frame (.subdir line args)).run s).1 := by
  have hrun : runStatement frame (.subdir line args) = Eval.ended (frame.place line)
      (Eval.ofPass (Pass.subdirStatement (frame.place line) frame.enter args)) := by rw [runStatement]
  rw [insideEvents]
  cases hinside : (s.argument? "path" args).bind (follow · s) with
  | none => exact bodyFaults_alone rfl hrun fun _ => origin_of_ofPass
  | some es =>
    obtain ⟨path, hpath, hes⟩ := Option.bind_eq_some_iff.mp hinside
    obtain ⟨hdirectory, hfaults⟩ := henter (some (frame.place line)) path s es hes
    -- A script that does not load has run nothing, and the statement that enters it raises its fault.
    by_cases hempty : visits es = []
    · exact bodyFaults_alone hempty hrun fun _ => origin_of_ofPass
    · exact bodyFaults_around hrun (bodyFaults_entered line hpath hdirectory (hfaults.weaken fun _ => hempty))

/-- A project passes on what its body raises. -/
theorem bodyFaults_project {body : List Statement}
    (hbody : ∀ s, BodyFaults frame.script.toString (bodyEvents frame follow body s) ((runBody frame body).run s).1)
    (line : Nat) (args : Arguments String) (s : Session) : BodyFaults frame.script.toString
      (frame.events (.project line args body) s (insideEvents frame follow (.project line args body) s))
      ((runStatement frame (.project line args body)).run s).1 := by
  have hrun : runStatement frame (.project line args body) = Eval.ended (frame.place line) (do
      let scope ← Eval.ofPass (Pass.projectScope args)
      Pass.inScope scope (runBody frame body)
      return .scope scope) := by rw [runStatement]
  rw [insideEvents]
  rcases Pass.run_projectScope_cases args s with ⟨name, hname, hopen⟩ | ⟨hnone, f, hopen⟩
  · rw [hname]
    refine bodyFaults_around hrun (BodyFaults.located ?_ _)
    have hinside : BodyFaults frame.script.toString
        ((bodyEvents frame follow body (s.entering (.project name))).map (Event.within (.project name)))
        ((runBody frame body).run (s.entering (.project name))).1 := by
      refine Faults.within (hbody (s.entering (.project name))) rfl fun v _ g _ hout => ?_
      have hcarried : (v.within (.project name)).carried (v.within (.project name)).enclosing g =
        v.carried v.enclosing g := rfl
      exact ⟨hout.fault.trans hcarried.symm, hout.located, hout.leaving⟩
    refine hinside.congr fun e => ?_
    rw [run_bind, Eval.run_ofPass, hopen]
    simp only [mapError_ok, andThen_ok, run_bind]
    rw [Pass.run_inScope rfl]
    generalize (runBody frame body).run (s.entering (.project name)) = first
    obtain ⟨outcome, s'⟩ := first
    cases outcome <;> simp
  · rw [hnone]
    refine bodyFaults_alone rfl hrun fun failure hf => ?_
    rw [run_bind, Eval.run_ofPass, hopen] at hf
    cases hf
    rfl

end Blocks

mutual

theorem bodyFaults_body {frame : ScriptFrame} {follow : Given → Session → Option (List Event)}
    (henter : EntersFaults frame.enter follow) :
    ∀ body s, BodyFaults frame.script.toString (bodyEvents frame follow body s) ((runBody frame body).run s).1
  | [], s => by
    rw [bodyEvents, runBody]
    exact Faults.done rfl ()
  | statement :: rest, s => by
    rw [bodyEvents, runBody]
    exact Faults.bind (bodyFaults_statement henter statement s) fun _ s' _ => bodyFaults_body henter rest s'

/-- Statements raise what they fail with, or have run statements that do. -/
theorem bodyFaults_statement {frame : ScriptFrame} {follow : Given → Session → Option (List Event)}
    (henter : EntersFaults frame.enter follow) :
    ∀ statement s, BodyFaults frame.script.toString
      (frame.events statement s (insideEvents frame follow statement s)) ((runStatement frame statement).run s).1
  | .call line verb args on bindTo, s => by
    rw [insideEvents]
    exact bodyFaults_alone rfl (by rw [runStatement]; rfl) fun _ => origin_of_ofPass
  | .subdir line args, s => bodyFaults_subdir henter line args s
  | .project line args body, s => bodyFaults_project (bodyFaults_body henter body) line args s
  | .attempt line body, s => by
    rw [insideEvents]
    exact bodyFaults_attempt (bodyFaults_body henter body s)
  | .raise line complaint, s => by
    rw [insideEvents]
    refine bodyFaults_alone rfl (by rw [runStatement]; rfl) fun failure hf => ?_
    cases hf
    rfl

end

namespace Session

def HasPass (s : Session) : Prop :=
  ∃ r command, s.graph.pass = some r ∧ s.graph.Made r ∧ (s.graph.node r).action = .reconfigure command

theorem HasPass.isPass {s : Session} (h : s.HasPass) :
    ∃ r, s.graph.pass = some r ∧ (s.graph.node r).isPass = true := by
  obtain ⟨r, command, hpass, _, haction⟩ := h
  exact ⟨r, hpass, by rw [Target.isPass, haction]⟩

theorem HasPass.grown {s s' : Session} (h : s.HasPass) (hgrowth : Graph.ScriptGrowth s.graph s'.graph) :
    s'.HasPass := by
  obtain ⟨r, command, hpass, made, haction⟩ := h
  have hkeeps := Graph.Growth.keeps_of_steps hgrowth
  exact ⟨r, command, hkeeps.pass.trans hpass, hkeeps.made r made, (hkeeps.action r made).trans haction⟩

theorem HasPass.moves {s s' : Session} (h : s.HasPass) (hmoves : Moves s s') : s'.HasPass := h.grown hmoves.graph

theorem hasPass_start (setup : Setup) (files : FileTree) : (start setup files).HasPass := by
  obtain ⟨r, hpass, made, haction⟩ := reconfigure_start setup
  rw [← graph_start setup files] at hpass made haction
  exact ⟨r, _, hpass, made, haction⟩

end Session

section Pass
variable {s : Session}

end Pass

/-- An attempt around a statement in its own script. -/
def Visit.guarded (v : Visit) : Bool :=
  (v.enclosing.reverse.takeWhile fun e => !e.isDirectory).any Enclosure.isAttempt

end BuildTree
