import BuildTree.Proofs.Project.OneFile
import BuildTree.Proofs.Project.Trees
import Mathlib.Logic.Function.Iterate

/-!
# Where declared targets stand

A declaration is given the paths that its target takes and makes, and those where it runs. Each of them is seen from a
directory of one of the two trees: what it makes and its depfile from the build directory, all else from the source
directory. A link sees its objects from there twice, which makes no difference, as the place of a path is a path that
names the same place wherever it is seen from.

What is given as a target, or as a dependency already, stands for itself.
-/

namespace BuildTree
open Effect

/-- Something holds of the place where an action runs, and something of its depfile. -/
def Action.RunsIn (Place Depfile : String → Prop) : Action → Prop
  | .run recipe => Place recipe.cwd ∧ ∀ depfile, recipe.depfile = some depfile → Depfile depfile
  | .compile compilation => Place compilation.root
  | _ => True

theorem Action.RunsIn.mono {Place Depfile Place' Depfile' : String → Prop} {action : Action}
    (h : action.RunsIn Place Depfile) (place : ∀ text, Place text → Place' text)
    (depfile : ∀ text, Depfile text → Depfile' text) : action.RunsIn Place' Depfile' := by
  cases action with
  | run recipe => exact ⟨place _ h.1, fun text htext => depfile text (h.2 text htext)⟩
  | compile compilation => exact place _ h
  | _ => trivial

namespace Declare

/-- The dependencies that a declaration is given, one by one. -/
structure Needs where
  explicit : List Given
  implicit : List Given
  orderOnly : List Given

/-- A dependency of a target and what it was given as: a path stands for an absolute one, anything else for itself. -/
inductive Stands : Given → Dependency → Prop where
  | path {value : Given} {p : String} (given : Argument.isPathLike value = true)
      (absolute : Path.isAbsoluteText p = true) : Stands value (.path p)
  | pathDependency (p : String) : Stands (.pathDependency p) (.path p)
  | target (t : TargetId) : Stands (.target t) (.target t)
  | targetDependency (t : TargetId) : Stands (.targetDependency t) (.target t)

/-- What an argument for many dependencies gives, or for a single one. -/
def given (value : Given) : Except Fault (List Given) :=
  Argument.items (Argument.oneDependency value)

/-- The dependencies in the arguments of a declaration. -/
def Kind.needs (kind : Kind) (b : Bound TargetId) : Except Fault Needs :=
  match kind with
  | .command => do
    return ⟨← given (b.getMany "dependencies"), ← given (b.getMany "implicit_inputs"),
      ← given (b.getMany "order_only_inputs")⟩
  | .copy => return ⟨[b.get "src"], [], []⟩
  | .compile => do
    return ⟨[b.get "source"], ← given (b.getMany "implicit_inputs"), ← given (b.getMany "order_only_inputs")⟩
  | .link => do
    return ⟨← given (b.get "objects"), ← given (b.getMany "implicit_inputs"),
      ← given (b.getMany "order_only_inputs")⟩
  | .group => return ⟨b.rest, [], []⟩

/-- How often explicit inputs are seen from the source directory. -/
def Kind.sightings : Kind → Nat
  | .link => 2
  | _ => 1

/-- A text that is given as a path in the source directory, or stands for that directory. -/
def InSource (s : Session) (text : String) : Prop :=
  text = s.sourceDir.toString ∨ ∃ value, src s value = .ok text

def InBuild (s : Session) (text : String) : Prop :=
  ∃ value, out s value = .ok text

/-- A target that has been declared over its needs, each path seen from the directory of its tree. -/
structure DeclaredFrom (s : Session) (sightings : Nat) (needs : Needs) (t : Target) : Prop where
  outputs : t.isGroup = false → ∀ o ∈ t.allOutputs, InBuild s o
  action : t.action.RunsIn (InSource s) (InBuild s)
  inputs : (needs.explicit.map ((input s)^[sightings])).mapM (Argument.dependency s.graph) = .ok t.inputs
  implicitInputs : (needs.implicit.map (input s)).mapM (Argument.dependency s.graph) = .ok t.implicitInputs
  orderOnlyInputs : (needs.orderOnly.map (input s)).mapM (Argument.dependency s.graph) = .ok t.orderOnlyInputs

section Reading
variable {s : Session} {here : Option Location} {b : Bound TargetId} {t : Target} {g : Graph}

theorem texts_givenTexts (texts : List String) :
    Argument.texts g (Argument.onePath (givenTexts texts)) = .ok texts := by
  refine Effect.mapM_eq_ok_iff.mpr ?_
  rw [List.forall₂_map_left_iff]
  exact List.forall₂_same.mpr fun _ _ => rfl

theorem dependencies_list (values : List Given) :
    Argument.dependencies g (.list values) = values.mapM (Argument.dependency g) := rfl

theorem inputs_eq_ok {value : Given} {values : List Given} (h : inputs s value = .ok values) :
    ∃ items, given value = .ok items ∧ items.map (input s) = values :=
  (map_eq_ok_iff _ _ _).mp h

theorem inBuild_of_outs {value : Given} {texts : List String} (h : outs s value = .ok texts) :
    ∀ o ∈ texts, InBuild s o := by
  obtain ⟨items, _, hmap⟩ := (bind_eq_ok_iff _ _ _).mp h
  intro o ho
  obtain ⟨item, _, hitem⟩ := exists_of_mem_mapM hmap ho
  exact ⟨item, hitem⟩

theorem inBuild_of_outputs {value : Given} {first : String} {rest : List String}
    (h : outputs s here value = .ok (first, rest)) : ∀ o ∈ first :: rest, InBuild s o := by
  obtain ⟨texts, htexts, h⟩ := (bind_eq_ok_iff _ _ _).mp h
  cases texts with
  | nil => cases h
  | cons =>
    cases h
    exact inBuild_of_outs htexts

theorem inSource_of_sourcePlace {value place : Given} (h : sourcePlace s value = .ok place) {text : String}
    (htext : Argument.text g place = .ok text) : InSource s text := by
  unfold sourcePlace at h
  split at h
  · cases h
    cases htext
    exact .inl rfl
  · obtain ⟨_, hsrc, rfl⟩ := (map_eq_ok_iff _ _ _).mp h
    cases htext
    exact .inr ⟨_, hsrc⟩

theorem inBuild_of_outPlace? {value place : Given} (h : outPlace? s value = .ok place) {depfile : String}
    (hdepfile : Target.givenText g place = .ok (some depfile)) : InBuild s depfile := by
  unfold outPlace? at h
  split at h
  · cases h
    cases hdepfile
  · obtain ⟨text, htext, rfl⟩ := (map_eq_ok_iff _ _ _).mp h
    cases hdepfile
    exact ⟨_, htext⟩

theorem declaredFrom_of_assembled {p : TargetParts} {sightings : Nat} {needs : Needs}
    (assembled : Target.Assembled s.graph p t) (action : t.action.RunsIn (InSource s) (InBuild s))
    (hinputs : p.inputs = .list (needs.explicit.map ((input s)^[sightings])))
    (himplicit : p.implicitInputs = .list (needs.implicit.map (input s)))
    (horder : p.orderOnlyInputs = .list (needs.orderOnly.map (input s)))
    (houtputs : t.isGroup = false → ∃ outputs implicitOutputs, p.outputs = givenTexts outputs ∧
      p.implicitOutputs = givenTexts implicitOutputs ∧ ∀ o ∈ outputs ++ implicitOutputs, InBuild s o) :
    DeclaredFrom s sightings needs t := by
  obtain ⟨hnames, hexplicit, hdeps, hfiles, horderOnly⟩ := assembled
  rw [hinputs, dependencies_list] at hexplicit
  rw [himplicit, dependencies_list] at hdeps
  rw [horder, dependencies_list] at horderOnly
  refine ⟨fun notGroup => ?_, action, hexplicit, hdeps, horderOnly⟩
  obtain ⟨outputs, implicitOutputs, hout, himp, placed⟩ := houtputs notGroup
  rw [hout, texts_givenTexts] at hnames
  have hmore : Argument.texts s.graph (givenTexts implicitOutputs) = .ok implicitOutputs := texts_givenTexts _
  rw [himp, hmore] at hfiles
  rw [Target.allOutputs, ← Except.ok.inj hnames, ← Except.ok.inj hfiles]
  exact placed

end Reading

section Kinds
variable {s : Session} {here : Option Location} {b : Bound TargetId} {t : Target}

theorem declaredFrom_of_commandTarget (h : commandTarget s here b = .ok t) :
    ∃ needs, Kind.needs .command b = .ok needs ∧ DeclaredFrom s 1 needs t := by
  simp only [commandTarget, bind_eq_ok_iff] at h
  obtain ⟨commands, _, ⟨first, rest⟩, houtputs, dependencies, hdependencies, cwd, hcwd, depfile, hdepfile, h⟩ := h
  obtain ⟨implicitInputs, himplicit, orderOnly, horder, implicitOutputs, hfiles, h⟩ := h
  obtain ⟨explicit, hexplicit, rfl⟩ := inputs_eq_ok hdependencies
  obtain ⟨implicit, hgiven, rfl⟩ := inputs_eq_ok himplicit
  obtain ⟨order, hlast, rfl⟩ := inputs_eq_ok horder
  refine ⟨⟨explicit, implicit, order⟩, by simp [Kind.needs, hexplicit, hgiven, hlast, bind, Except.bind, pure,
    Except.pure], ?_⟩
  obtain ⟨assembled, recipe, haction, hplace, hfile⟩ := Target.assembleRecipe_eq_ok h
  refine declaredFrom_of_assembled assembled ?_ rfl rfl rfl fun _ => ⟨_, _, rfl, rfl, ?_⟩
  · rw [haction]
    exact ⟨inSource_of_sourcePlace hcwd hplace, fun _ hsome => inBuild_of_outPlace? hdepfile (hsome ▸ hfile)⟩
  · exact List.forall_mem_append.mpr ⟨inBuild_of_outputs houtputs, inBuild_of_outs hfiles⟩

theorem declaredFrom_of_copyTarget (h : copyTarget s here b = .ok t) :
    ∃ needs, Kind.needs .copy b = .ok needs ∧ DeclaredFrom s 1 needs t := by
  simp only [copyTarget, bind_eq_ok_iff] at h
  obtain ⟨_, _, ⟨dest, _⟩, houtputs, h⟩ := h
  obtain ⟨assembled, haction⟩ := Target.assembleCopy_eq_ok h
  refine ⟨_, rfl, declaredFrom_of_assembled assembled ?_ rfl rfl rfl fun _ => ⟨[dest], [], rfl, rfl, ?_⟩⟩
  · rw [haction]
    trivial
  · exact fun o ho => inBuild_of_outputs houtputs o (List.mem_singleton.mp ho ▸ List.mem_cons_self)

-- A link has seen its objects already when it comes here.
theorem declaredFrom_of_compilerTarget {rule : String} {compiler : Given} {flags values explicit : List Given} {n : Nat}
    (hvalues : values = explicit.map ((input s)^[n])) (h : compilerTarget s here rule values compiler flags b = .ok t) :
    ∃ implicit order, given (b.getMany "implicit_inputs") = .ok implicit ∧
      given (b.getMany "order_only_inputs") = .ok order ∧ DeclaredFrom s (n + 1) ⟨explicit, implicit, order⟩ t := by
  simp only [compilerTarget, bind_eq_ok_iff] at h
  obtain ⟨⟨output, _⟩, houtputs, command, _, words, _, root, hroot, h⟩ := h
  obtain ⟨implicitInputs, himplicit, orderOnly, horder, h⟩ := h
  obtain ⟨implicit, hgiven, rfl⟩ := inputs_eq_ok himplicit
  obtain ⟨order, hlast, rfl⟩ := inputs_eq_ok horder
  obtain ⟨assembled, _, place, haction, hplace⟩ := Target.assembleCompilation_eq_ok h
  refine ⟨implicit, order, hgiven, hlast, declaredFrom_of_assembled assembled ?_ ?_ rfl rfl fun _ =>
    ⟨[output], [], rfl, rfl, ?_⟩⟩
  · rw [haction]
    exact inSource_of_sourcePlace hroot hplace
  · rw [hvalues, List.map_map, ← Function.iterate_succ']
  · exact fun o ho => inBuild_of_outputs houtputs o (List.mem_singleton.mp ho ▸ List.mem_cons_self)

theorem declaredFrom_of_compileTarget (h : compileTarget s here b = .ok t) :
    ∃ needs, Kind.needs .compile b = .ok needs ∧ DeclaredFrom s 1 needs t := by
  unfold compileTarget at h
  split at h
  · cases h
  · simp only [bind_eq_ok_iff] at h
    obtain ⟨first, _, own, _, h⟩ := h
    have hsource : [b.get "source"] = [b.get "source"].map ((input s)^[0]) := rfl
    obtain ⟨implicit, order, hgiven, hlast, declared⟩ := declaredFrom_of_compilerTarget hsource h
    exact ⟨_, by simp [Kind.needs, hgiven, hlast, bind, Except.bind, pure, Except.pure], declared⟩
  · cases h

theorem declaredFrom_of_linkTarget (h : linkTarget s here b = .ok t) :
    ∃ needs, Kind.needs .link b = .ok needs ∧ DeclaredFrom s 2 needs t := by
  simp only [linkTarget, bind_eq_ok_iff] at h
  obtain ⟨objects, hobjects, h⟩ := h
  split at h
  · cases h
  next objects _ nonempty _ =>
    simp only [bind_eq_ok_iff] at h
    obtain ⟨own, _, last, _, h⟩ := h
    unfold linkObjects at hobjects
    split at hobjects
    · cases hobjects
      exact absurd rfl nonempty
    · obtain ⟨explicit, hexplicit, rfl⟩ := inputs_eq_ok hobjects
      have honce : explicit.map (input s) = explicit.map ((input s)^[1]) := by rw [Function.iterate_one]
      obtain ⟨implicit, order, hgiven, hlast, declared⟩ := declaredFrom_of_compilerTarget honce h
      exact ⟨_, by simp [Kind.needs, hexplicit, hgiven, hlast, bind, Except.bind, pure, Except.pure], declared⟩
  · cases h

theorem declaredFrom_of_groupTarget (h : groupTarget s here b = .ok t) :
    ∃ needs, Kind.needs .group b = .ok needs ∧ DeclaredFrom s 1 needs t := by
  simp only [groupTarget, bind_eq_ok_iff] at h
  obtain ⟨_, _, _, _, _, _, h⟩ := h
  obtain ⟨assembled, haction⟩ := Target.assembleGroup_eq_ok h
  refine ⟨_, rfl, declaredFrom_of_assembled assembled ?_ rfl rfl rfl fun notGroup => ?_⟩
  · rw [haction]
    trivial
  · rw [Target.isGroup, haction] at notGroup
    cases notGroup

/-- Whatever is declared stands where its arguments say, as they are seen from the two directories. -/
theorem Kind.declaredFrom_of_target {kind : Kind} (h : kind.target s here b = .ok t) :
    ∃ needs, kind.needs b = .ok needs ∧ DeclaredFrom s kind.sightings needs t := by
  cases kind with
  | command => exact declaredFrom_of_commandTarget h
  | copy => exact declaredFrom_of_copyTarget h
  | compile => exact declaredFrom_of_compileTarget h
  | link => exact declaredFrom_of_linkTarget h
  | group => exact declaredFrom_of_groupTarget h

theorem Kind.exists_sightings_eq (kind : Kind) : ∃ n, kind.sightings = n + 1 := by
  cases kind <;> exact ⟨_, rfl⟩

end Kinds
end Declare

/-- A declared target that has gained nothing but targets attached to it: all that it makes is absolute unless it is a
group, and so is where it runs and its depfile. Its dependencies stand for what was given, one by one. -/
structure Target.Grounded (needs : Declare.Needs) (t : Target) : Prop where
  outputs : t.isGroup = false → ∀ o ∈ t.allOutputs, Path.isAbsoluteText o = true
  action : t.action.RunsIn (Path.isAbsoluteText · = true) (Path.isAbsoluteText · = true)
  inputs : List.Forall₂ Declare.Stands needs.explicit t.inputs
  implicitInputs : ∃ deps, ∃ attached : List TargetId, t.implicitInputs = deps ++ attached.map .target ∧
    List.Forall₂ Declare.Stands needs.implicit deps
  orderOnlyInputs : List.Forall₂ Declare.Stands needs.orderOnly t.orderOnlyInputs

namespace Declare
variable {s : Session}

section Absolute

theorem isAbsoluteText_placed {dir : Path} (h : dir.isAbsolute = true) (p : Path) :
    Path.isAbsoluteText (placed dir p) = true := by
  unfold placed
  split
  next habsolute => exact Path.isAbsoluteText_toString habsolute
  · exact Path.isAbsoluteText_normalize (Path.isAbsoluteText_toString (Path.isAbsolute_join h p))

theorem isAbsoluteText_src (hrooted : s.setup.Rooted) {value : Given} {text : String} (h : src s value = .ok text) :
    Path.isAbsoluteText text = true := by
  obtain ⟨p, _, rfl⟩ := (map_eq_ok_iff _ _ _).mp h
  exact isAbsoluteText_placed (Path.isAbsolute_join hrooted.source.absolute _) p

theorem InSource.absolute (hrooted : s.setup.Rooted) {text : String} (h : InSource s text) :
    Path.isAbsoluteText text = true := by
  rcases h with rfl | ⟨value, hvalue⟩
  · exact Path.isAbsoluteText_toString (Path.isAbsolute_join hrooted.source.absolute _)
  · exact isAbsoluteText_src hrooted hvalue

theorem InBuild.absolute (hrooted : s.setup.Rooted) {text : String} (h : InBuild s text) :
    Path.isAbsoluteText text = true := by
  obtain ⟨value, hvalue⟩ := h
  obtain ⟨p, _, rfl⟩ := (map_eq_ok_iff _ _ _).mp hvalue
  exact isAbsoluteText_placed (Path.isAbsolute_join hrooted.build.absolute _) p

theorem isPathLike_of_src {value : Given} {text : String} (h : src s value = .ok text) :
    Argument.isPathLike value = true := by
  obtain ⟨p, hp, _⟩ := (map_eq_ok_iff _ _ _).mp h
  cases value <;> first | rfl | cases hp

theorem input_of_src {value : Given} {text : String} (h : src s value = .ok text) : input s value = .text text := by
  rw [input, h]

theorem input_of_not_path {value : Given} {f : Fault} (h : Argument.path value = .error f) : input s value = value := by
  rw [input, src, h]
  rfl

/-- A value that is no path stays as it is, a path becomes its place. -/
theorem input_cases (s : Session) (value : Given) :
    (∃ p, Argument.path value = .ok p ∧ src s value = .ok (placed s.sourceDir p)) ∨
      ∃ f, Argument.path value = .error f := by
  cases h : Argument.path value with
  | ok p => exact .inl ⟨p, rfl, congrArg (Except.map (placed s.sourceDir)) h⟩
  | error f => exact .inr ⟨f, rfl⟩

theorem spelled_input {value : Given} (h : value.Spelled) : (input s value).Spelled := by
  rcases input_cases s value with ⟨p, _, hsrc⟩ | ⟨f, hf⟩
  · rw [input_of_src hsrc]
    trivial
  · rwa [input_of_not_path hf]

variable (hrooted : s.setup.Rooted)
include hrooted

theorem stands_of_dependency {value : Given} {dep : Dependency}
    (h : Argument.dependency s.graph (input s value) = .ok dep) : Stands value dep := by
  rcases input_cases s value with ⟨p, _, hsrc⟩ | ⟨f, hf⟩
  · rw [input_of_src hsrc] at h
    cases h
    exact .path (isPathLike_of_src hsrc) (isAbsoluteText_src hrooted hsrc)
  · rw [input_of_not_path hf] at h
    cases value with
    | text _ | path _ => cases hf
    | pathDependency p =>
      cases h
      exact .pathDependency p
    | target t =>
      cases h
      exact .target t
    | targetDependency t =>
      cases h
      exact .targetDependency t
    | _ => cases h

omit hrooted in
theorem stands_of_input {value : Given} {dep : Dependency} (h : Stands (input s value) dep) : Stands value dep := by
  rcases input_cases s value with ⟨p, _, hsrc⟩ | ⟨f, hf⟩
  · rw [input_of_src hsrc] at h
    cases h with
    | path _ absolute => exact .path (isPathLike_of_src hsrc) absolute
  · rwa [input_of_not_path hf] at h

theorem stands_of_sightings {n : Nat} {value : Given} {dep : Dependency}
    (h : Argument.dependency s.graph ((input s)^[n + 1] value) = .ok dep) : Stands value dep := by
  induction n generalizing value with
  | zero => exact stands_of_dependency hrooted h
  | succ n ih => exact stands_of_input (ih h)

theorem forall₂_stands {n : Nat} {values : List Given} {deps : List Dependency}
    (h : (values.map ((input s)^[n + 1])).mapM (Argument.dependency s.graph) = .ok deps) :
    List.Forall₂ Stands values deps :=
  (List.forall₂_map_left_iff.mp (mapM_eq_ok_iff.mp h)).imp fun _ _ => stands_of_sightings hrooted

theorem grounded_of_declaredFrom {n : Nat} {needs : Needs} {t : Target} (h : DeclaredFrom s (n + 1) needs t) :
    t.Grounded needs where
  outputs notGroup o ho := (h.outputs notGroup o ho).absolute hrooted
  action := h.action.mono (fun _ => InSource.absolute hrooted) fun _ => InBuild.absolute hrooted
  inputs := forall₂_stands hrooted h.inputs
  implicitInputs :=
    ⟨t.implicitInputs, [], (List.append_nil _).symm, @forall₂_stands _ hrooted 0 _ _ h.implicitInputs⟩
  orderOnlyInputs := @forall₂_stands _ hrooted 0 _ _ h.orderOnlyInputs

theorem Kind.grounded_of_target {kind : Kind} {here : Option Location} {b : Bound TargetId} {t : Target}
    (h : kind.target s here b = .ok t) : ∃ needs, kind.needs b = .ok needs ∧ t.Grounded needs := by
  obtain ⟨needs, hneeds, declared⟩ := Kind.declaredFrom_of_target h
  obtain ⟨n, hn⟩ := kind.exists_sightings_eq
  exact ⟨needs, hneeds, grounded_of_declaredFrom hrooted (hn ▸ declared)⟩

end Absolute

namespace Needs

/-- The needs as they are seen from the source directory. -/
def seen (s : Session) (needs : Needs) : Needs where
  explicit := needs.explicit.map (input s)
  implicit := needs.implicit.map (input s)
  orderOnly := needs.orderOnly.map (input s)

/-- Paths among the needs are spelled. -/
structure Spelled (needs : Needs) : Prop where
  explicit : ∀ value ∈ needs.explicit, value.Spelled
  implicit : ∀ value ∈ needs.implicit, value.Spelled
  orderOnly : ∀ value ∈ needs.orderOnly, value.Spelled

theorem Spelled.seen {needs : Needs} (h : needs.Spelled) (s : Session) : (needs.seen s).Spelled where
  explicit := List.forall_mem_map.mpr fun value hvalue => spelled_input (h.explicit value hvalue)
  implicit := List.forall_mem_map.mpr fun value hvalue => spelled_input (h.implicit value hvalue)
  orderOnly := List.forall_mem_map.mpr fun value hvalue => spelled_input (h.orderOnly value hvalue)

/-- The dependencies of a target are what these needs stand for, as they are. -/
structure Makes (g : Graph) (needs : Needs) (t : Target) : Prop where
  inputs : needs.explicit.mapM (Argument.dependency g) = .ok t.inputs
  implicitInputs : needs.implicit.mapM (Argument.dependency g) = .ok t.implicitInputs
  orderOnlyInputs : needs.orderOnly.mapM (Argument.dependency g) = .ok t.orderOnlyInputs

theorem Makes.unique {g : Graph} {needs : Needs} {t u : Target} (h : needs.Makes g t) (h' : needs.Makes g u) :
    u.inputs = t.inputs ∧ u.implicitInputs = t.implicitInputs ∧ u.orderOnlyInputs = t.orderOnlyInputs :=
  ⟨Except.ok.inj (h'.inputs.symm.trans h.inputs), Except.ok.inj (h'.implicitInputs.symm.trans h.implicitInputs),
    Except.ok.inj (h'.orderOnlyInputs.symm.trans h.orderOnlyInputs)⟩

end Needs

section Again

/-- What is seen from the source directory has found its place, wherever it is seen from then. -/
theorem input_input (hrooted : s.setup.Rooted) (hscope : s.scopes.current.Entered) {value : Given}
    (spelled : value.Spelled) (s' : Session) : input s' (input s value) = input s value := by
  rcases input_cases s value with ⟨p, hp, hsrc⟩ | ⟨f, hf⟩
  · have hfixed : s.sourceDir.Fixed := ⟨Path.isAbsolute_join hrooted.source.absolute _,
      hrooted.source.spelled.join (Scope.plain_of_entered hscope).spelled⟩
    have settled : Settled (placed s.sourceDir p) := settled_placed hfixed (spelled_of_path hp spelled)
    rw [input_of_src hsrc, input_of_src (settled.again s').1]
  · rw [input_of_not_path hf, input_of_not_path hf]

variable (hrooted : s.setup.Rooted) (hscope : s.scopes.current.Entered)
include hrooted hscope

theorem map_input_input {values : List Given} (spelled : ∀ value ∈ values, value.Spelled) (s' : Session) :
    (values.map (input s)).map (input s') = values.map (input s) := by
  rw [List.map_map]
  exact List.map_congr_left fun value hvalue => input_input hrooted hscope (spelled value hvalue) s'

theorem Needs.seen_seen {needs : Needs} (spelled : needs.Spelled) (s' : Session) :
    (needs.seen s).seen s' = needs.seen s := by
  simp only [Needs.seen, map_input_input hrooted hscope spelled.explicit,
    map_input_input hrooted hscope spelled.implicit, map_input_input hrooted hscope spelled.orderOnly]

theorem iterate_input {value : Given} (spelled : value.Spelled) (n : Nat) :
    (input s)^[n + 1] value = input s value := by
  rw [Function.iterate_succ_apply, Function.iterate_fixed (input_input hrooted hscope spelled s)]

/-- The dependencies of a declaration are what its needs stand for, seen from the source directory once. -/
theorem Kind.makes_of_target {kind : Kind} {here : Option Location} {b : Bound TargetId} {t : Target}
    (h : kind.target s here b = .ok t) {needs : Needs} (hneeds : kind.needs b = .ok needs) (spelled : needs.Spelled) :
    (needs.seen s).Makes s.graph t := by
  obtain ⟨needs', hneeds', declared⟩ := Kind.declaredFrom_of_target h
  cases hneeds.symm.trans hneeds'
  obtain ⟨n, hn⟩ := kind.exists_sightings_eq
  have honce : needs.explicit.map ((input s)^[kind.sightings]) = needs.explicit.map (input s) :=
    List.map_congr_left fun value hvalue => by rw [hn, iterate_input hrooted hscope (spelled.explicit value hvalue)]
  have hinputs := declared.inputs
  rw [honce] at hinputs
  exact ⟨hinputs, declared.implicitInputs, declared.orderOnlyInputs⟩

end Again
end Declare
end BuildTree
