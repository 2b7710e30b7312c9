import BuildTree.Project.Setup
import BuildTree.Proofs.Path.Normal
import BuildTree.Proofs.Project.Visit

/-!
# The source tree and the build tree

A script sees a directory in each of two trees. Steps into directories lead below the current one only, so under both
roots the same plain names stand for the scope and for what is named in it. What has been placed in a tree once is
absolute and stays where it is, wherever it is seen from.
-/

namespace BuildTree
open Effect

section Arguments
variable {ρ : Type}

/-- A path given as one is spelled. What a text is read as always is. -/
def Value.Spelled : Value ρ → Prop
  | .path p => p.Spelled
  | _ => True

structure Arguments.Spelled (args : Arguments ρ) : Prop where
  positional : ∀ value ∈ args.positional, value.Spelled
  named : ∀ entry ∈ args.named, entry.2.Spelled

theorem Arguments.Spelled.get {args : Arguments ρ} (h : args.Spelled) {s : Signature} {b : Bound ρ}
    (hbind : s.bind? args = some b) (name : String) : (b.get name).Spelled := by
  unfold Signature.bind? at hbind
  split at hbind
  · cases hbind
    unfold Bound.get
    cases hget : Table.get? (s.positional.zip args.positional ++ args.named) name with
    | none => exact trivial
    | some value =>
      rcases List.mem_append.mp (Table.mem_of_get? hget) with hmem | hmem
      · exact h.positional value (List.of_mem_zip hmem).2
      · exact h.named _ hmem
  · cases hbind

theorem spelled_of_path {value : Given} {p : Path} (h : Argument.path value = .ok p) (spelled : value.Spelled) :
    p.Spelled := by
  cases value with
  | text s =>
    cases h
    exact Path.spelled_ofString s
  | path q =>
    cases h
    exact spelled
  | _ => cases h

end Arguments

namespace Setup

/-- Both trees hang from roots that their texts spell. -/
structure Rooted (setup : Setup) : Prop where
  source : setup.source.Fixed
  build : setup.build.Fixed

theorem fixed_pathIn {workingDir : Path} (hdir : workingDir.Fixed) {value : Given} (spelled : value.Spelled) {p : Path}
    (h : pathIn workingDir value = .ok p) : p.Fixed := by
  obtain ⟨q, hq, rfl⟩ := (map_eq_ok_iff _ _ _).mp h
  exact ⟨Path.isAbsolute_join hdir.absolute q, hdir.spelled.join (spelled_of_path hq spelled)⟩

theorem ofArguments_eq_ok {workingDir : Path} {interpreter : String} {args : Arguments TargetId} {setup : Setup}
    (h : ofArguments workingDir interpreter args = .ok setup) : ∃ b, ∃ values : List Given,
      signature.bind? args = some b ∧
      pathIn workingDir (b.get "source_dir") = .ok setup.source ∧
      pathIn workingDir (b.get "build_dir") = .ok setup.build ∧
      values.mapM (pathIn workingDir) = .ok setup.preloads := by
  unfold ofArguments at h
  split at h
  next b hbind =>
    obtain ⟨source, hsource, h⟩ := (bind_eq_ok_iff _ _ _).mp h
    obtain ⟨build, hbuild, h⟩ := (bind_eq_ok_iff _ _ _).mp h
    obtain ⟨values, _, h⟩ := (bind_eq_ok_iff _ _ _).mp h
    obtain ⟨preloads, hpreloads, h⟩ := (bind_eq_ok_iff _ _ _).mp h
    obtain ⟨_, _, h⟩ := (bind_eq_ok_iff _ _ _).mp h
    cases h
    exact ⟨b, values, hbind, hsource, hbuild, hpreloads⟩
  · cases h

theorem rooted_of_ofArguments {workingDir : Path} (hdir : workingDir.Fixed) {interpreter : String}
    {args : Arguments TargetId} (spelled : args.Spelled) {setup : Setup}
    (h : ofArguments workingDir interpreter args = .ok setup) : setup.Rooted := by
  obtain ⟨b, _, hbind, hsource, hbuild, _⟩ := ofArguments_eq_ok h
  exact ⟨fixed_pathIn hdir (spelled.get hbind _) hsource, fixed_pathIn hdir (spelled.get hbind _) hbuild⟩

theorem preloads_of_ofArguments {workingDir : Path} (hdir : workingDir.Fixed) {interpreter : String}
    {args : Arguments TargetId} {setup : Setup} (h : ofArguments workingDir interpreter args = .ok setup) :
    ∀ script ∈ setup.preloads, script.isAbsolute = true := by
  obtain ⟨_, values, _, _, _, hpreloads⟩ := ofArguments_eq_ok h
  intro script hscript
  obtain ⟨value, _, hvalue⟩ := exists_of_mem_mapM hpreloads hscript
  obtain ⟨p, _, rfl⟩ := (map_eq_ok_iff _ _ _).mp hvalue
  exact Path.isAbsolute_join hdir.absolute p

/-- A place in each tree under the same names: behind both roots in their normal form, and nothing leads up. -/
structure Mirrors (setup : Setup) (names : List String) (source build : String) : Prop where
  source : source = (setup.source.normal.join ⟨.relative, names⟩).toString
  build : build = (setup.build.normal.join ⟨.relative, names⟩).toString
  plain : ∀ part ∈ setup.source.normal.parts ++ setup.build.normal.parts ++ names, Path.PlainPart part

end Setup

namespace Scope

theorem plain_of_leadsBelow {p : Path} (spelled : p.Spelled) (h : leadsBelow p = true) : p.Plain := by
  simp only [leadsBelow, Bool.and_eq_true, Bool.not_eq_true', Path.isAbsolute, decide_eq_false_iff_not,
    Decidable.not_not, List.contains_eq_mem] at h
  exact ⟨h.1, fun part hpart => Path.plainPart_iff.mpr ⟨spelled part hpart, fun hdots => h.2 (hdots ▸ hpart)⟩⟩

/-- A scope that is entered from the root step by step, in sessions in which the scope before is current. -/
inductive Entered : Scope → Prop where
  | root : Entered Scope.root
  | directory {s s' : Session} {here : Option Location} {path : Given} {inner : Scope}
      (entered : Entered s.scopes.current) (spelled : path.Spelled)
      (step : (Pass.childScope here path).run s = (.ok inner, s')) : Entered inner
  | project {s s' : Session} {args : Arguments String} {inner : Scope} (entered : Entered s.scopes.current)
      (step : (Pass.projectScope args).run s = (.ok inner, s')) : Entered inner

end Scope

namespace Pass
variable {s : Session}

theorem run_childScope {path : Given} {p : Path} (hpath : Argument.path path = .ok p) (here : Option Location) :
    (childScope here path).run s =
      (if Scope.leadsBelow p then .ok (s.scopes.current.enter (.directory p))
        else .error (.configuration (.leavesDirectory p.toString) here), s) := by
  simp only [childScope, run_bind, run_lift, hpath, andThen_ok, run_get, Scope.child]
  by_cases hbelow : Scope.leadsBelow p = true
  · simp only [if_pos hbelow]
    rfl
  · simp only [if_neg hbelow]
    rfl

/-- A step that would leave the current directory does nothing but fail. -/
theorem run_enterDirectory_of_leaves {path : Given} {p : Path} (hpath : Argument.path path = .ok p)
    (leaves : p.isAbsolute = true ∨ ".." ∈ p.parts) (run : Option Location → Path → Pass Unit)
    (here : Option Location) :
    (enterDirectory run here path).run s = (.error (.configuration (.leavesDirectory p.toString) here), s) := by
  have hbelow : ¬ Scope.leadsBelow p = true := by
    simp only [Scope.leadsBelow, Bool.and_eq_true, Bool.not_eq_true', List.contains_eq_mem, decide_eq_false_iff_not]
    rintro ⟨habsolute, hdots⟩
    rcases leaves with h | h
    · rw [habsolute] at h
      cases h
    · exact hdots h
  rw [enterDirectory, run_bind, run_childScope hpath, if_neg hbelow]
  rfl

end Pass

/-- Each step leads below the current directory or leaves it alone. -/
theorem Scope.plain_of_entered {scope : Scope} (h : scope.Entered) : scope.directory.Plain := by
  induction h with
  | root => exact ⟨rfl, fun part hpart => absurd hpart List.not_mem_nil⟩
  | @directory s s' here path inner _ spelled step ih =>
    cases hpath : Argument.path path with
    | error f =>
      rw [Pass.childScope, run_bind, run_lift, hpath] at step
      cases step
    | ok p =>
      rw [Pass.run_childScope hpath] at step
      split at step
      next hbelow =>
        cases step
        exact ih.join (plain_of_leadsBelow (spelled_of_path hpath spelled) hbelow)
      · cases step
  | @project s s' args inner _ step ih =>
    rcases Pass.run_projectScope_cases args s with ⟨name, _, hrun⟩ | ⟨_, f, hrun⟩
    · cases hrun.symm.trans step
      exact ih
    · cases hrun.symm.trans step

namespace Declare

/-- A text that is absolute and names the same place wherever it is seen from. -/
structure Settled (text : String) : Prop where
  absolute : Path.isAbsoluteText text = true
  again : ∀ s : Session, src s (.text text) = .ok text ∧ out s (.text text) = .ok text

theorem settled_toString {p : Path} (h : p.Fixed) : Settled p.toString where
  absolute := Path.isAbsoluteText_toString h.absolute
  again s := by
    have hread : Argument.path (.text p.toString) = .ok p :=
      congrArg Except.ok (Path.ofString_toString h.spelled h.absolute)
    simp [src, out, hread, placed, h.absolute, Except.map]

theorem settled_placed {dir p : Path} (hdir : dir.Fixed) (hp : p.Spelled) : Settled (placed dir p) := by
  unfold placed
  split
  next habsolute => exact settled_toString ⟨habsolute, hp⟩
  · have hjoined : (dir.join p).Fixed := ⟨Path.isAbsolute_join hdir.absolute p, hdir.spelled.join hp⟩
    rw [← hjoined.toString_normal]
    exact settled_toString hjoined.normal

/-- What plain names lead to in a scope of a tree is below the normal form of the root of the tree. -/
theorem placed_plain {root directory p : Path} (hroot : root.Fixed) (hdirectory : directory.Plain) (hp : p.Plain) :
    placed (root.join directory) p = (root.normal.join ⟨.relative, directory.parts ++ p.parts⟩).toString := by
  have hrelative : p.isAbsolute = false := by simp [Path.isAbsolute, hp.relative]
  have hnames : directory.join p = ⟨.relative, directory.parts ++ p.parts⟩ := by
    rw [Path.join_of_relative hp.relative, hdirectory.relative]
  have hfixed : (root.join (directory.join p)).Fixed :=
    ⟨Path.isAbsolute_join hroot.absolute _, hroot.spelled.join (hdirectory.join hp).spelled⟩
  rw [placed, if_neg (by simp [hrelative]), hdirectory.join_join hp, ← hfixed.toString_normal,
    hroot.normal_join (hdirectory.join hp), hnames]

end Declare

/-- The two trees of a pass mirror each other: in any scope that steps lead to, a relative path that does not lead up
stands in both trees under the names of the scope and its own, below the normal forms of their roots. Whatever the path
is, it is placed at an absolute text, which stays where it is. A step that would leave the current directory fails and
leaves the session alone. -/
theorem trees_mirrored {workingDir : Path} (hdir : workingDir.Fixed) {interpreter : String}
    {args : Arguments TargetId} (hargs : args.Spelled) {setup : Setup}
    (hsetup : Setup.ofArguments workingDir interpreter args = .ok setup) {s : Session} (hs : s.setup = setup)
    (hscope : s.scopes.current.Entered) :
    (∀ (value : Given) (p : Path), value.Spelled → Argument.path value = .ok p → p.isAbsolute = false →
      ".." ∉ p.parts → ∃ source build, Declare.src s value = .ok source ∧ Declare.out s value = .ok build ∧
        setup.Mirrors (s.scopes.current.directory.parts ++ p.parts) source build) ∧
    (∀ (value : Given) (p : Path), value.Spelled → Argument.path value = .ok p →
      ∃ source build, Declare.src s value = .ok source ∧ Declare.out s value = .ok build ∧
        Declare.Settled source ∧ Declare.Settled build) ∧
    ∀ (run : Option Location → Path → Pass Unit) (here : Option Location) (path : Given) (p : Path),
      Argument.path path = .ok p → (p.isAbsolute = true ∨ ".." ∈ p.parts) →
        (Pass.enterDirectory run here path).run s =
          (.error (.configuration (.leavesDirectory p.toString) here), s) := by
  have hrooted := Setup.rooted_of_ofArguments hdir hargs hsetup
  have hdirectory := Scope.plain_of_entered hscope
  subst hs
  have hsrc : ∀ {value : Given} {p}, Argument.path value = .ok p →
      Declare.src s value = .ok (Declare.placed s.sourceDir p) := fun h => by rw [Declare.src, h]; rfl
  have hout : ∀ {value : Given} {p}, Argument.path value = .ok p →
      Declare.out s value = .ok (Declare.placed s.buildDir p) := fun h => by rw [Declare.out, h]; rfl
  refine ⟨fun value p spelled hpath hrelative hdots => ⟨_, _, hsrc hpath, hout hpath, ?_⟩,
    fun value p spelled hpath => ⟨_, _, hsrc hpath, hout hpath, ?_, ?_⟩,
    fun run here path p hpath leaves => Pass.run_enterDirectory_of_leaves hpath leaves run here⟩
  · have hp : p.Plain := Scope.plain_of_leadsBelow (spelled_of_path hpath spelled) (by simp [Scope.leadsBelow, *])
    refine ⟨Declare.placed_plain hrooted.source hdirectory hp, Declare.placed_plain hrooted.build hdirectory hp, ?_⟩
    intro part hpart
    rcases List.mem_append.mp hpart with hpart | hpart
    · exact (List.mem_append.mp hpart).elim (hrooted.source.plain_normal part) (hrooted.build.plain_normal part)
    · exact (List.mem_append.mp hpart).elim (hdirectory.names part) (hp.names part)
  · exact Declare.settled_placed ⟨Path.isAbsolute_join hrooted.source.absolute _,
      hrooted.source.spelled.join hdirectory.spelled⟩ (spelled_of_path hpath spelled)
  · exact Declare.settled_placed ⟨Path.isAbsolute_join hrooted.build.absolute _,
      hrooted.build.spelled.join hdirectory.spelled⟩ (spelled_of_path hpath spelled)

/-- Roots that are not normal themselves: one has two slashes and a `..` in it, the other leads out of the working
directory. -/
def crookedSetup : Setup where
  source := ⟨.doubleSlash, ["srv", "a", "..", "src"]⟩
  build := ⟨.slash, ["w", "..", "out", "b"]⟩
  preloads := []
  settings := []
  scriptName := .text "kiln.py"
  interpreter := "/usr/bin/python3"

/-- A pass with such roots, in a project block two directories below. -/
def crookedSession : Session :=
  ((Session.start crookedSetup []).entering (.directory ⟨.relative, ["lib", "x"]⟩)).entering (.project "/core/")

theorem trees_mirrored_crooked :
    Declare.src crookedSession (.text "gen/./y.c") = .ok "//srv/src/lib/x/gen/y.c" ∧
    Declare.out crookedSession (.text "gen/./y.c") = .ok "/out/b/lib/x/gen/y.c" ∧
    crookedSetup.Mirrors ["lib", "x", "gen", "y.c"] "//srv/src/lib/x/gen/y.c" "/out/b/lib/x/gen/y.c" ∧
    Declare.src crookedSession (.text "../../../../y") = .ok "//y" ∧ Declare.Settled "//y" ∧
    (Pass.enterDirectory (Pass.runScript Pass.maxDepth) none (.text "y/../..")).run crookedSession =
      (.error (.configuration (.leavesDirectory "y/../..") none), crookedSession) := by
  have hfixed : (⟨.slash, ["w"]⟩ : Path).Fixed := ⟨rfl, by decide⟩
  have hargs : (⟨[.text "//srv/./a/../src", .text "../out//b"], []⟩ : Arguments TargetId).Spelled :=
    ⟨by simp [Value.Spelled], by simp⟩
  have hsetup : Setup.ofArguments ⟨.slash, ["w"]⟩ "/usr/bin/python3"
      ⟨[.text "//srv/./a/../src", .text "../out//b"], []⟩ = .ok crookedSetup := by rfl
  have hlib : Scope.Entered ⟨⟨.relative, ["lib", "x"]⟩, ""⟩ :=
    @Scope.Entered.directory (.start crookedSetup []) _ none (.text "lib//./x") _ .root trivial rfl
  have hscope : crookedSession.scopes.current.Entered :=
    @Scope.Entered.project ((Session.start crookedSetup []).entering (.directory ⟨.relative, ["lib", "x"]⟩)) _
      ⟨[.text "/core/"], []⟩ _ hlib rfl
  obtain ⟨hmirrors, hsettled, hleaves⟩ := trees_mirrored hfixed hargs hsetup rfl hscope
  obtain ⟨source, build, hs, hb, hboth⟩ :=
    hmirrors (.text "gen/./y.c") ⟨.relative, ["gen", "y.c"]⟩ trivial rfl rfl (by decide)
  obtain ⟨top, _, ht, _, htop, _⟩ := hsettled (.text "../../../../y") _ trivial rfl
  have hsrc : Declare.src crookedSession (.text "gen/./y.c") = .ok "//srv/src/lib/x/gen/y.c" := by rfl
  have hout : Declare.out crookedSession (.text "gen/./y.c") = .ok "/out/b/lib/x/gen/y.c" := by rfl
  have hup : Declare.src crookedSession (.text "../../../../y") = .ok "//y" := by rfl
  cases hsrc.symm.trans hs
  cases hout.symm.trans hb
  cases hup.symm.trans ht
  exact ⟨hsrc, hout, hboth, hup, htop,
    hleaves _ none (.text "y/../..") ⟨.relative, ["y", "..", ".."]⟩ rfl (.inr (by decide))⟩

end BuildTree
