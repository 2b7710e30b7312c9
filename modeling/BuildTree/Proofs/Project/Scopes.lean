import BuildTree.Proofs.Project.Visit
import BuildTree.Proofs.Text.Lines

/-!
# Scopes are left as they are found

Whatever a statement runs and however it ends, the scopes after it are those before it. So a statement is run in the
scope that is put together from what it stands in, from the outermost inwards, whatever has gone wrong before it.
-/

namespace BuildTree
open Effect Text

namespace Enclosure

/-- The components that a directory adds to the path of a scope. -/
def parts : Enclosure → List String
  | .directory p => p.parts
  | _ => []

/-- The name that a project adds to the names around it. -/
def projectName? : Enclosure → Option String
  | .project name => some (Scope.trimSlashes name)
  | _ => none

end Enclosure

def ScopeStack.enterAll (stack : ScopeStack) (es : List Enclosure) : ScopeStack :=
  es.foldl ScopeStack.enter stack

/-- The scope that is put together from the root inwards. -/
def Scope.composed (es : List Enclosure) : Scope :=
  ⟨⟨.relative, es.flatMap Enclosure.parts⟩, String.intercalate "/" (es.filterMap Enclosure.projectName?)⟩

/-- One more name behind names that are not empty. -/
theorem intercalate_slash_concat {names : List String} (h : ∀ n ∈ names, n ≠ "") (name : String) :
    String.intercalate "/" (names ++ [name]) =
      if String.intercalate "/" names = "" then name else String.intercalate "/" names ++ "/" ++ name := by
  have htext : ∀ (before : List String) (last : String), (String.intercalate "/" (before ++ [last])).toList =
      (before.map String.toList).flatMap (· ++ ['/']) ++ last.toList := fun before last => by
    rw [String.toList_intercalate, List.map_append, List.map_singleton]
    exact intercalate_concat _ _ _
  rcases List.eq_nil_or_concat names with rfl | ⟨before, last, rfl⟩
  · rfl
  · rw [List.concat_eq_append] at h ⊢
    -- Names that are not empty are not empty together, so a slash goes between them and the new one.
    have hlast : last ≠ "" := h last (by simp)
    have hne : String.intercalate "/" (before ++ [last]) ≠ "" := fun he => hlast <| by
      have hempty := congrArg String.toList he
      rw [htext, String.toList_empty, List.append_eq_nil_iff] at hempty
      exact String.toList_eq_nil_iff.mp hempty.2
    rw [if_neg hne]
    apply String.toList_inj.mp
    rw [String.toList_append, String.toList_append, htext, htext]
    simp

theorem Scope.enter_composed {es : List Enclosure} (hes : ∀ e ∈ es, e.Fits) {e : Enclosure} (he : e.Fits) :
    (Scope.composed es).enter e = Scope.composed (es ++ [e]) := by
  have hparts : (es ++ [e]).flatMap Enclosure.parts = es.flatMap Enclosure.parts ++ e.parts := by
    rw [List.flatMap_append, List.flatMap_singleton]
  have hnames : (es ++ [e]).filterMap Enclosure.projectName? =
      es.filterMap Enclosure.projectName? ++ e.projectName?.toList := by
    rw [List.filterMap_append]
    cases h : e.projectName? <;> simp [h]
  rw [composed, composed, hparts, hnames]
  cases e with
  | attempt place => simp [enter, Enclosure.parts, Enclosure.projectName?]
  | directory p =>
    have hrelative : p.isAbsolute = false := by
      have hbelow : leadsBelow p = true := he
      simp only [leadsBelow, Bool.and_eq_true, Bool.not_eq_true'] at hbelow
      exact hbelow.1
    simp [enter, Enclosure.parts, Enclosure.projectName?, Path.join, hrelative]
  | project name =>
    have hne : ∀ n ∈ es.filterMap Enclosure.projectName?, n ≠ "" := by
      intro n hn
      obtain ⟨e', he', hname⟩ := List.mem_filterMap.mp hn
      cases e' with
      | project name' =>
        cases hname
        exact hes _ he'
      | _ => cases hname
    simp only [enter, Enclosure.parts, Enclosure.projectName?, Option.toList_some, List.append_nil,
      intercalate_slash_concat hne]

theorem ScopeStack.current_enter (stack : ScopeStack) (e : Enclosure) :
    (stack.enter e).current = stack.current.enter e := by
  cases e <;> rfl

theorem ScopeStack.current_enterAll {outer es : List Enclosure} (fits : ∀ e ∈ outer ++ es, e.Fits)
    {stack : ScopeStack} (h : stack.current = Scope.composed outer) :
    (stack.enterAll es).current = Scope.composed (outer ++ es) := by
  induction es generalizing outer stack with
  | nil => rw [List.append_nil, ← h, enterAll, List.foldl_nil]
  | cons e rest ih =>
    have hassoc : outer ++ e :: rest = (outer ++ [e]) ++ rest := by simp
    have hinner : (stack.enter e).current = Scope.composed (outer ++ [e]) := by
      rw [current_enter, h]
      exact Scope.enter_composed (fun e' he' => fits e' (by simp [he'])) (fits e (by simp))
    rw [hassoc] at fits ⊢
    exact ih fits hinner

/-- Scopes are after a run as they were before it, and a statement in it runs in those that it stands in. -/
structure KeepsScopes (s : Session) (es : List Event) (s' : Session) : Prop where
  restored : s'.scopes = s.scopes
  fits : ∀ v ∈ visits es, ∀ e ∈ v.enclosing, e.Fits
  before : ∀ v ∈ visits es, v.before.scopes = s.scopes.enterAll v.enclosing
  after : ∀ v ∈ visits es, v.after.scopes = v.before.scopes

theorem recorded_keepsScopes : Recorded KeepsScopes where
  aside := by
    rintro s s' ⟨_, _, _, rfl⟩
    exact ⟨rfl, by simp, by simp, by simp⟩
  trans h h' := by
    refine ⟨h'.restored.trans h.restored, ?_, ?_, ?_⟩
    all_goals
      rw [visits_append]
      intro v hv
    · exact (List.mem_append.mp hv).elim (h.fits v) (h'.fits v)
    · exact (List.mem_append.mp hv).elim (h.before v) fun hv => h.restored ▸ h'.before v hv
    · exact (List.mem_append.mp hv).elim (h.after v) (h'.after v)
  began := by
    intro s s' script h
    obtain ⟨r, log, _, rfl⟩ := Pass.enterScript_eq_ok h
    exact ⟨rfl, by simp, by simp, by simp⟩
  call frame line verb args on bindTo s := by
    have hafter := after_visit_call frame line verb args on bindTo s
    have hscopes := (congrArg Session.scopes hafter).trans
      (undisturbed_visit_call frame line verb args on bindTo s).scopes
    refine ⟨hscopes, ?_, ?_, ?_⟩
    all_goals
      rw [visits_ended]
      intro v hv
      cases List.mem_singleton.mp hv
    · simp [ScriptFrame.visit]
    · rfl
    · exact hscopes
  close {v s' es} _ outermost after h := by
    have hscopes : v.after.scopes = v.before.scopes := by
      rw [after]
      exact h.restored
    refine ⟨hscopes, ?_, ?_, ?_⟩
    all_goals
      rw [visits_append, visits_ended]
      intro w hw
      rcases List.mem_append.mp hw with hw | hw
    · exact h.fits w hw
    · cases List.mem_singleton.mp hw
      simp [outermost]
    · exact h.before w hw
    · cases List.mem_singleton.mp hw
      rw [outermost]
      rfl
    · exact h.after w hw
    · cases List.mem_singleton.mp hw
      exact hscopes
  enclosed {e} fits {s s' es} h := by
    have hout : (s'.leaving e).scopes = s.scopes := by
      cases e with
      | attempt place => exact h.restored
      | _ =>
        show s'.scopes.pop = s.scopes
        rw [h.restored]
        rfl
    refine ⟨hout, ?_, ?_, ?_⟩
    all_goals
      rw [visits_within]
      intro v hv
      obtain ⟨w, hw, rfl⟩ := List.mem_map.mp hv
    · exact List.forall_mem_cons.mpr ⟨fits, h.fits w hw⟩
    · exact h.before w hw
    · exact h.after w hw

/-- A statement leaves the scopes as it found them, in whatever script it is. -/
theorem scopes_run_statement (depth : Nat) (script : Path) (statement : Statement) (s : Session) :
    ((runStatement (Pass.frameOf depth script) statement).run s).2.scopes = s.scopes :=
  (recorded_keepsScopes.of_statement
    (recorded_keepsScopes.of_directory (recorded_keepsScopes.of_script depth)) statement s).restored

/-- Scopes are restored whichever way statements end: after each statement they are those before it, and after a pass
the root is current again. Each statement of the pass, for which the trace has an entry, runs in the scope composed of
what it stands in. -/
theorem scopes_restored {s : Session} (hroot : s.scopes = ScopeStack.root) :
    (∀ depth script statement (s' : Session),
      ((runStatement (Pass.frameOf depth script) statement).run s').2.scopes = s'.scopes) ∧
    (Pass.configure.run s).2.scopes = ScopeStack.root ∧
    (Pass.configure.run s).2.trace = s.trace ++ (visits (configureEvents s)).map Visit.entry ∧
    ∀ v ∈ visits (configureEvents s),
      v.after.scopes = v.before.scopes ∧ v.before.scopes = ScopeStack.root.enterAll v.enclosing ∧
        v.before.scopes.current = Scope.composed v.enclosing := by
  have hkeeps := recorded_keepsScopes.of_configure s
  refine ⟨scopes_run_statement, hkeeps.restored.trans hroot, (recorded_tells.of_configure s).trace, fun v hv => ?_⟩
  have hbefore : v.before.scopes = ScopeStack.root.enterAll v.enclosing := hroot ▸ hkeeps.before v hv
  refine ⟨hkeeps.after v hv, hbefore, ?_⟩
  have htop : ScopeStack.root.current = Scope.composed [] := rfl
  rw [hbefore]
  exact ScopeStack.current_enterAll (hkeeps.fits v hv) htop

/-- A project in which a script two directories below fails inside a project block, and the one above goes on. -/
def nestedFiles : FileTree :=
  [("/s/kiln.py", .script [
      .project 1 ⟨[.text "/core/"], []⟩ [
        .attempt 2 [.subdir 3 ⟨[.text "lib//./x"], []⟩],
        .call 4 .scope ⟨[], []⟩ none none]]),
    ("/s/lib/x/kiln.py", .script [
      .project 1 ⟨[.text "deep"], []⟩ [.raise 2 ⟨"RuntimeError", .text "boom", none, .null, false⟩]])]

theorem scopes_restored_nested :
    ∃ failing ∈ visits (configureEvents (Session.start plainSetup nestedFiles)),
      ∃ next ∈ visits (configureEvents (Session.start plainSetup nestedFiles)),
        failing.place = .line "/s/lib/x/kiln.py" (some 2) ∧
        failing.before.scopes.current = ⟨⟨.relative, ["lib", "x"]⟩, "core/deep"⟩ ∧
        next.place = .line "/s/kiln.py" (some 4) ∧ next.before.scopes.current = ⟨⟨.relative, []⟩, "core"⟩ ∧
        (Pass.configure.run (Session.start plainSetup nestedFiles)).2.scopes = ScopeStack.root := by
  have hroot : (Session.start plainSetup nestedFiles).scopes = ScopeStack.root := rfl
  obtain ⟨failing, hfailing, hplace, henclosing⟩ : ∃ v ∈ visits (configureEvents (.start plainSetup nestedFiles)),
      v.place = .line "/s/lib/x/kiln.py" (some 2) ∧
        v.enclosing = [.directory ⟨.relative, []⟩, .project "/core/", .attempt (.line "/s/kiln.py" (some 2)),
          .directory ⟨.relative, ["lib", "x"]⟩, .project "deep"] := by
    decide +kernel
  obtain ⟨next, hnext, hplace', henclosing'⟩ : ∃ v ∈ visits (configureEvents (.start plainSetup nestedFiles)),
      v.place = .line "/s/kiln.py" (some 4) ∧ v.enclosing = [.directory ⟨.relative, []⟩, .project "/core/"] := by
    decide +kernel
  obtain ⟨_, hafter, _, hvisits⟩ := scopes_restored hroot
  refine ⟨failing, hfailing, next, hnext, hplace, ?_, hplace', ?_, hafter⟩
  · rw [(hvisits failing hfailing).2.2, henclosing]
    decide +kernel
  · rw [(hvisits next hnext).2.2, henclosing']
    decide +kernel

end BuildTree
