import BuildTree.Proofs.Graph.Refusal
import BuildTree.Proofs.Graph.Registration
import Mathlib.Data.List.Nodup

/-!
# Looking groups up

Each group that is registered is entered in the index under its name, behind those before it, and no name is entered
twice, since it is claimed from then on. So what a name or a pattern stands for can be told from the registered groups
alone, and a group that has nothing to do with a pattern does not change what the pattern finds.
-/

namespace BuildTree

namespace NamePattern

/-- The expression that is searched for, if there is one to search for. -/
def expression? : NamePattern → Option Pattern.Expression
  | .spelled text => (Pattern.read text false).toOption
  | .compiled _ e => some e

/-- The text that a pattern is given as. -/
def source : NamePattern → String
  | .spelled text => text
  | .compiled source _ => source

/-- A name that a pattern neither is nor matches. -/
structure Misses (p : NamePattern) (name : String) : Prop where
  notSpelled : p ≠ .spelled name
  notMatched : ∀ e, p.expression? = some e → e.matchesIn name = false

end NamePattern

namespace Graph
open Relation

/-- The registered groups, in order. -/
def groups (g : Graph) : List TargetId :=
  g.targets.filter fun t => (g.node t).isGroup

/-- The index holds the registered groups in their order, each under its name, and no name twice. -/
structure Listed (g : Graph) : Prop where
  named : g.named = g.groups.map fun t => ((g.node t).name, t)
  once : g.named.keys.Nodup

section Index
variable {g g' : Graph} {t : TargetId}

theorem Listed.of_same (listed : Listed g) (targets : g'.targets = g.targets) (named : g'.named = g.named)
    (action : ∀ t ∈ g.targets, (g'.node t).action = (g.node t).action)
    (name : ∀ t ∈ g.targets, (g'.node t).name = (g.node t).name) : Listed g' := by
  have hgroups : g'.groups = g.groups := by
    rw [groups, groups, targets]
    exact List.filter_congr fun t ht => by rw [Target.isGroup, Target.isGroup, action t ht]
  refine ⟨?_, named ▸ listed.once⟩
  rw [named, listed.named, hgroups]
  exact List.map_congr_left fun t ht => by rw [name t (List.mem_filter.mp ht).1]

theorem Still.listed (h : Still g g') (named : g'.named = g.named) (sound : Sound g) (listed : Listed g) : Listed g' :=
  listed.of_same h.targets named (fun t ht => (h.products t (sound.made t ht)).action) fun t ht =>
    (h.products t (sound.made t ht)).name

theorem listed_generated (listed : Listed g) (sound : Sound g) (r : TargetId) (path : String) :
    Listed (g.generated r path) :=
  listed.of_same rfl rfl (fun t ht => (keeps_generated g r path).action t (sound.made t ht)) fun t ht =>
    name_generated (sound.made t ht) r path

/-- A group that is registered has a name that the index does not have. -/
theorem named_registered (recorded : Recorded g) (free : g.Registrable t) :
    (g.registered t).named = g.named ++ (if (g.node t).isGroup then [((g.node t).name, t)] else []) := by
  have hname : (g.node t).name ∉ g.named.keys := fun hmem =>
    (Table.get?_eq_none_iff _ _).mp ((unclaimed_none_iff g _).mp free.outputs _ List.mem_cons_self)
      (recorded.groups _ hmem)
  have hinsert : (g.registered t).named =
      if (g.node t).isGroup then g.named.insert (g.node t).name t else g.named := rfl
  rw [hinsert]
  split
  · exact Table.insert_of_notMem _ _ hname
  · rw [List.append_nil]

theorem listed_registered (listed : Listed g) (recorded : Recorded g) (free : g.Registrable t) :
    Listed (g.registered t) := by
  have hgroups : (g.registered t).groups = g.groups ++ (if (g.node t).isGroup then [t] else []) := by
    have happend : (g.registered t).groups = (g.targets ++ [t]).filter fun u => (g.node u).isGroup := rfl
    rw [happend, List.filter_append]
    cases hgroup : (g.node t).isGroup <;> simp [groups, hgroup]
  have hnode : ∀ u, (g.registered t).node u = g.node u := fun _ => rfl
  constructor
  · rw [named_registered recorded free, hgroups, listed.named, List.map_append]
    split <;> simp [hnode]
  · have hinsert : (g.registered t).named =
        if (g.node t).isGroup then g.named.insert (g.node t).name t else g.named := rfl
    rw [hinsert]
    split
    · exact Table.nodup_keys_insert listed.once _ _
    · exact listed.once

/-- A graph whose index is as it should be and begins as that of an earlier one. -/
structure Extends (g g' : Graph) : Prop where
  sound : Sound g'
  recorded : Recorded g'
  listed : Listed g'
  named : g.named <+: g'.named

variable {first : Graph} {Asked : TargetId → Prop}

theorem Growth.extended (step : Growth Target.Named Asked g g') (h : Extends first g) : Extends first g' := by
  have hsound := step.sound h.sound
  have hrecorded := step.recorded h.sound h.recorded
  cases step with
  | make fit => exact ⟨hsound, hrecorded, (still_push g _).listed rfl h.sound h.listed, h.named⟩
  | edit t same => exact ⟨hsound, hrecorded, (still_modifyNode g t same).listed rfl h.sound h.listed, h.named⟩
  | enterTag location fresh =>
    exact ⟨hsound, hrecorded, (still_withTag g _ location).listed rfl h.sound h.listed, h.named⟩
  | enterPool admitted => exact ⟨hsound, hrecorded, (still_withPool g _ _).listed rfl h.sound h.listed, h.named⟩
  | register made free asked =>
    refine ⟨hsound, hrecorded, listed_registered h.listed h.recorded free, ?_⟩
    rw [named_registered h.recorded free]
    exact h.named.trans (List.prefix_append _ _)
  | generate free => exact ⟨hsound, hrecorded, listed_generated h.listed h.sound _ _, h.named⟩

theorem extends_run {ops : List Operation} (valid : g.ValidRun ops) (h : Extends first g) :
    Extends first (g.run ops) := by
  induction ops generalizing g with
  | nil => exact h
  | cons op rest ih =>
    rw [run_cons]
    rcases after_cases valid.1 with ⟨r, _, made, _, _, hafter⟩ | ⟨_, steps⟩
    · refine ih valid.2 ?_
      rw [hafter]
      exact ⟨sound_installed h.sound made, recorded_installed h.recorded r,
        h.listed.of_same rfl rfl (fun _ _ => rfl) fun _ _ => rfl, h.named⟩
    · exact ih valid.2 (Growth.invariant (fun step _ => step.extended) steps h.sound h)

theorem extends_start (buildDir : Option String) : Extends (start buildDir) (start buildDir) where
  sound := sound_start buildDir
  recorded := recorded_start buildDir
  listed := ⟨rfl, List.nodup_cons.mpr ⟨List.not_mem_nil, List.nodup_nil⟩⟩
  named := List.prefix_refl _

end Index

/-- A pattern that is not the name of a registered group. -/
def Unnamed (g : Graph) (p : NamePattern) : Prop :=
  ∀ t ∈ g.groups, p ≠ .spelled (g.node t).name

/-- What a pattern stands for: a registered group that it names, or, if it names none, the only registered group whose
name it matches. -/
inductive Stands (g : Graph) (p : NamePattern) (t : TargetId) : Prop where
  | named (registered : t ∈ g.groups) (spelled : p = .spelled (g.node t).name)
  | matched {e : Pattern.Expression} (unnamed : g.Unnamed p) (read : p.expression? = some e)
      (only : ∀ u, u ∈ g.groups ∧ e.matchesIn (g.node u).name = true ↔ u = t)

/-- A text that names no group and keeps to the grammar of patterns, but is no pattern all the same. -/
structure Overlooked (g : Graph) (text : String) (f : Pattern.Fault) : Prop where
  unnamed : g.Unnamed (.spelled text)
  unread : Pattern.read text false = .error f
  grammatical : f.isGrammatical = false

section Find
variable {g : Graph} {t : TargetId}

theorem findMatching_eq_ok_iff (source : String) (e : Pattern.Expression) :
    g.findMatching source e = .ok t ↔ g.matching e = [t] := by
  unfold findMatching
  split <;> simp_all

/-- If a pattern is searched for in vain, the look-up is to blame. -/
theorem findMatching_cases (g : Graph) (source : String) (e : Pattern.Expression) :
    (∃ t, g.findMatching source e = .ok t) ∨ ∃ r, g.findMatching source e = .error (.configuration r none) := by
  unfold findMatching
  split
  · exact .inr ⟨_, rfl⟩
  · exact .inl ⟨_, rfl⟩
  · exact .inr ⟨_, rfl⟩

theorem findMatching_congr {g' : Graph} {e : Pattern.Expression} (matching : g'.matching e = g.matching e)
    (name : ∀ t ∈ g.matching e, (g'.node t).name = (g.node t).name) (source : String) :
    g'.findMatching source e = g.findMatching source e := by
  unfold findMatching
  rw [matching]
  match g.matching e, name with
  | [], _ => rfl
  | [t], _ => rfl
  | t :: u :: rest, name =>
    dsimp only
    rw [List.map_congr_left name]

/-- A pattern names a group, or it is searched for, or it is a text that cannot be read. -/
theorem pattern_cases (g : Graph) (p : NamePattern) :
    (∃ t ∈ g.groups, p = .spelled (g.node t).name) ∨
    (g.Unnamed p ∧ ∃ e, p.expression? = some e) ∨
    (g.Unnamed p ∧ ∃ text f, p = .spelled text ∧ Pattern.read text false = .error f) := by
  by_cases hnamed : ∃ t ∈ g.groups, p = .spelled (g.node t).name
  · exact .inl hnamed
  · have unnamed : g.Unnamed p := fun t ht he => hnamed ⟨t, ht, he⟩
    cases p with
    | compiled source e => exact .inr (.inl ⟨unnamed, e, rfl⟩)
    | spelled text =>
      cases hread : Pattern.read text false with
      | ok e => exact .inr (.inl ⟨unnamed, e, by rw [NamePattern.expression?, hread]; rfl⟩)
      | error f => exact .inr (.inr ⟨unnamed, text, f, rfl, hread⟩)

namespace Listed
variable (listed : Listed g)
include listed

theorem values_named : g.named.values = g.groups := by
  rw [listed.named, Table.values, List.map_map]
  exact List.map_id _

theorem nodup_groups : g.groups.Nodup := by
  have honce := listed.once
  rw [listed.named, Table.keys, List.map_map] at honce
  exact List.Nodup.of_map _ honce

theorem mem_named_iff (name : String) : (name, t) ∈ g.named ↔ t ∈ g.groups ∧ (g.node t).name = name := by
  rw [listed.named, List.mem_map]
  constructor
  · rintro ⟨u, hu, he⟩
    cases he
    exact ⟨hu, rfl⟩
  · rintro ⟨ht, rfl⟩
    exact ⟨t, ht, rfl⟩

theorem group?_of_unnamed {text : String} (unnamed : g.Unnamed (.spelled text)) : g.group? text = none := by
  cases hgroup : g.group? text with
  | none => rfl
  | some t =>
    obtain ⟨ht, rfl⟩ := (listed.mem_named_iff text).mp (Table.mem_of_get? hgroup)
    exact absurd rfl (unnamed t ht)

theorem find_named {name : String} (h : (name, t) ∈ g.named) : g.find (.spelled name) = .ok t := by
  have hgroup : g.group? name = some t := Table.get?_of_mem listed.once h
  rw [find, hgroup]

theorem find_expression {p : NamePattern} (unnamed : g.Unnamed p) {e : Pattern.Expression}
    (read : p.expression? = some e) : g.find p = g.findMatching p.source e := by
  cases p with
  | compiled source e' =>
    cases read
    rfl
  | spelled text =>
    have hread : Pattern.read text false = .ok e := Effect.eq_ok_of_toOption read
    rw [find, listed.group?_of_unnamed unnamed, hread]
    rfl

theorem find_unread {text : String} (unnamed : g.Unnamed (.spelled text)) {f : Pattern.Fault}
    (unread : Pattern.read text false = .error f) : g.find (.spelled text) = .error (patternFault text f) := by
  rw [find, listed.group?_of_unnamed unnamed, unread]

/-- A pattern that is searched for finds the only group that it matches. -/
theorem findMatching_iff (source : String) (e : Pattern.Expression) :
    g.findMatching source e = .ok t ↔ ∀ u, u ∈ g.groups ∧ e.matchesIn (g.node u).name = true ↔ u = t := by
  have hmatching : g.matching e = g.groups.filter fun t => e.matchesIn (g.node t).name := by
    rw [matching, listed.named, List.filter_map, List.map_map]
    exact List.map_id _
  have hnodup : (g.matching e).Nodup := hmatching ▸ listed.nodup_groups.filter _
  have hsingle : [t].Nodup := List.nodup_cons.mpr ⟨List.not_mem_nil, List.nodup_nil⟩
  rw [findMatching_eq_ok_iff, ← List.perm_singleton, List.perm_ext_iff_of_nodup hnodup hsingle, hmatching]
  simp only [List.mem_filter, List.mem_singleton]

theorem find_eq_ok_iff (p : NamePattern) : g.find p = .ok t ↔ g.Stands p t := by
  rcases pattern_cases g p with ⟨u, hu, rfl⟩ | ⟨unnamed, e, read⟩ | ⟨unnamed, text, f, rfl, unread⟩
  · rw [listed.find_named ((listed.mem_named_iff _).mpr ⟨hu, rfl⟩)]
    constructor
    · rintro ⟨⟩
      exact .named hu rfl
    · rintro (⟨ht, hname⟩ | ⟨unnamed, _, _⟩)
      · have hentries : ∀ v ∈ g.groups, ((g.node v).name, v) ∈ g.named := fun v hv =>
          (listed.mem_named_iff _).mpr ⟨hv, rfl⟩
        have hu' := Table.get?_of_mem listed.once (hentries u hu)
        have ht' := Table.get?_of_mem listed.once (hentries t ht)
        rw [NamePattern.spelled.inj hname] at hu'
        exact congrArg Except.ok (Option.some.inj (hu'.symm.trans ht'))
      · exact absurd rfl (unnamed u hu)
  · rw [listed.find_expression unnamed read, listed.findMatching_iff]
    constructor
    · exact .matched unnamed read
    · rintro (⟨ht, hname⟩ | ⟨_, read', only⟩)
      · exact absurd hname (unnamed t ht)
      · cases read.symm.trans read'
        exact only
  · rw [listed.find_unread unnamed unread]
    constructor
    · rintro ⟨⟩
    · rintro (⟨ht, hname⟩ | ⟨_, read, _⟩)
      · exact absurd hname (unnamed t ht)
      · rw [NamePattern.expression?, unread] at read
        cases read

theorem find_overlooked {text : String} {f : Pattern.Fault} (h : g.Overlooked text f) :
    g.find (.spelled text) = .error (.ofPattern text f) := by
  rw [listed.find_unread h.unnamed h.unread, patternFault, h.grammatical]
  rfl

/-- A look-up that finds nothing says so, unless what is wrong with the pattern is overlooked. -/
theorem find_configuration_iff (p : NamePattern) :
    (∃ r, g.find p = .error (.configuration r none)) ↔
      (∀ t, ¬ g.Stands p t) ∧ ∀ text f, p = .spelled text → ¬ g.Overlooked text f := by
  constructor
  · rintro ⟨r, hfind⟩
    refine ⟨fun t stands => ?_, fun text f hp overlooked => ?_⟩
    · rw [(listed.find_eq_ok_iff p).mpr stands] at hfind
      cases hfind
    · rw [hp, listed.find_overlooked overlooked] at hfind
      cases hfind
  · rintro ⟨stands, overlooked⟩
    rcases pattern_cases g p with ⟨u, hu, rfl⟩ | ⟨unnamed, e, read⟩ | ⟨unnamed, text, f, rfl, unread⟩
    · exact absurd (.named hu rfl) (stands u)
    · rw [listed.find_expression unnamed read]
      refine (findMatching_cases g p.source e).resolve_left fun ⟨t, ht⟩ => stands t ?_
      exact .matched unnamed read ((listed.findMatching_iff _ _).mp ht)
    · have grammatical : f.isGrammatical = true := by
        by_contra hnot
        exact overlooked text f rfl ⟨unnamed, unread, Bool.eq_false_iff.mpr hnot⟩
      rw [listed.find_unread unnamed unread, patternFault, if_pos grammatical]
      exact ⟨_, rfl⟩

section Appended
variable {g' : Graph} {later : Table TargetId} {p : NamePattern}
  (listed' : Listed g') (appended : g.named ++ later = g'.named)
include listed' appended

theorem misses_appended (missed : ∀ t ∈ g'.groups, t ∉ g.groups → p.Misses (g'.node t).name) :
    ∀ entry ∈ later, p.Misses entry.1 := by
  rintro ⟨name, t⟩ hentry
  obtain ⟨ht, rfl⟩ := (listed'.mem_named_iff name).mp (appended ▸ List.mem_append_right g.named hentry)
  refine missed t ht fun hmem => ?_
  have hnodup := listed'.nodup_groups
  have hgroups : g.named.map (·.2) = g.groups := listed.values_named
  rw [← listed'.values_named, ← appended, Table.values, List.map_append, hgroups, List.nodup_append] at hnodup
  exact hnodup.2.2 t hmem t (List.mem_map_of_mem hentry) rfl

theorem unnamed_appended (missed : ∀ entry ∈ later, p.Misses entry.1) (unnamed : g.Unnamed p) : g'.Unnamed p := by
  intro t ht he
  have hentry : ((g'.node t).name, t) ∈ g.named ++ later := appended ▸ (listed'.mem_named_iff _).mpr ⟨ht, rfl⟩
  rcases List.mem_append.mp hentry with hentry | hentry
  · obtain ⟨hu, hname⟩ := (listed.mem_named_iff _).mp hentry
    exact unnamed t hu (hname ▸ he)
  · exact (missed _ hentry).notSpelled he

theorem findMatching_appended (missed : ∀ entry ∈ later, p.Misses entry.1) {e : Pattern.Expression}
    (read : p.expression? = some e) : g'.findMatching p.source e = g.findMatching p.source e := by
  refine findMatching_congr ?_ (fun t ht => ?_) _
  · have hnone : later.filter (fun entry => e.matchesIn entry.1) = [] := by
      rw [List.filter_eq_nil_iff]
      intro entry hentry
      rw [(missed entry hentry).notMatched e read]
      exact Bool.false_ne_true
    rw [matching, matching, ← appended, List.filter_append, hnone, List.append_nil]
  · obtain ⟨⟨name, _⟩, hentry, rfl⟩ := List.mem_map.mp ht
    have hnamed := (List.mem_filter.mp hentry).1
    have hnamed' := appended ▸ List.mem_append_left later hnamed
    rw [((listed.mem_named_iff name).mp hnamed).2, ((listed'.mem_named_iff name).mp hnamed').2]

end Appended

/-- Groups that a pattern neither names nor matches have no part in what it finds. -/
theorem find_of_prefix {g' : Graph} (listed' : Listed g') (extended : g.named <+: g'.named) {p : NamePattern}
    (missed : ∀ t ∈ g'.groups, t ∉ g.groups → p.Misses (g'.node t).name) : g'.find p = g.find p := by
  obtain ⟨later, appended⟩ := extended
  have hmissed := listed.misses_appended listed' appended missed
  rcases pattern_cases g p with ⟨u, hu, rfl⟩ | ⟨unnamed, e, read⟩ | ⟨unnamed, text, f, rfl, unread⟩
  · have hentry := (listed.mem_named_iff _).mpr ⟨hu, rfl⟩
    rw [listed.find_named hentry, listed'.find_named (appended ▸ List.mem_append_left later hentry)]
  · have hunnamed := listed.unnamed_appended listed' appended hmissed unnamed
    rw [listed.find_expression unnamed read, listed'.find_expression hunnamed read,
      listed.findMatching_appended listed' appended hmissed read]
  · have hunnamed := listed.unnamed_appended listed' appended hmissed unnamed
    rw [listed.find_unread unnamed unread, listed'.find_unread hunnamed unread]

end Listed
end Find

theorem kind_of_not_isGrammatical {f : Pattern.Fault} (h : f.isGrammatical = false) :
    f.kind ∈ ["OverflowError", "ValueError"] := by
  cases f with
  | tooManyRepeats => exact List.mem_cons_self
  | tooManyDigits count => exact List.mem_cons_of_mem _ List.mem_cons_self
  | mixedAlphabets => exact List.mem_cons_of_mem _ List.mem_cons_self
  | _ => cases h

/-- Looking up is exact. After any operations, carried out or refused, the index holds the registered groups in the
order of their registration, each under its name, and no name twice. A look-up leads to the group that the pattern
stands for, and to that one only; if there is none it is refused as a fault of the look-up, unless it is overlooked what
is wrong with the pattern. It changes nothing, and groups that are registered later change nothing of it if the pattern
neither is nor matches the name of any of them. -/
theorem lookup_exact (buildDir : Option String) {ops : List Operation} (valid : (start buildDir).ValidRun ops)
    {g : Graph} (hg : (start buildDir).run ops = g) :
    Listed g ∧
    (∀ p t, g.find p = .ok t ↔ g.Stands p t) ∧
    (∀ p, (∃ r, g.find p = .error (.configuration r none)) ↔
      (∀ t, ¬ g.Stands p t) ∧ ∀ text f, p = .spelled text → ¬ g.Overlooked text f) ∧
    (∀ text f, g.Overlooked text f → f.kind ∈ ["OverflowError", "ValueError"] ∧
      g.find (.spelled text) = .error (.raised f.kind (f.message text))) ∧
    (∀ value, (Request.find value).change.run g = ((g.findGiven value).map .target, g)) ∧
    ∀ more, g.ValidRun more → ∀ p,
      (∀ t ∈ (g.run more).groups, t ∉ g.groups → p.Misses ((g.run more).node t).name) →
        (g.run more).find p = g.find p := by
  have hextends : Extends (start buildDir) g := hg ▸ extends_run valid (extends_start buildDir)
  have listed := hextends.listed
  refine ⟨listed, fun p t => listed.find_eq_ok_iff p, listed.find_configuration_iff, fun text f h =>
    ⟨kind_of_not_isGrammatical h.grammatical, listed.find_overlooked h⟩, fun value => ?_, fun more hmore p missed => ?_⟩
  · rw [Request.change, Effect.run_bind, Effect.run_get, Effect.andThen_ok]
    cases g.findGiven value <;> rfl
  · have hmoreExtends := extends_run hmore ⟨hextends.sound, hextends.recorded, listed, List.prefix_refl g.named⟩
    exact listed.find_of_prefix hmoreExtends.listed hmoreExtends.named missed

/-- Two groups with names of which one is within the other. A second group of the first name is refused. -/
def libraries : List Operation :=
  [.make (.emptyGroup "lib/foo" none), .register ⟨1⟩, .make (.emptyGroup "lib/foobar" none), .register ⟨2⟩,
    .make (.emptyGroup "lib/foo" none), .register ⟨3⟩]

theorem validRun_libraries : (start none).ValidRun libraries := by
  refine ⟨.inl rfl, ?_, .inl rfl, ?_, .inl rfl, ?_, trivial⟩
  all_goals
    show Made _ _
    decide +kernel

/-- A name finds its group although it matches the other one too; a pattern has to tell the two apart. A tag that comes
later has no part in it. -/
theorem lookup_exact_libraries :
    ((start none).run libraries).named = [("tags/all", ⟨0⟩), ("lib/foo", ⟨1⟩), ("lib/foobar", ⟨2⟩)] ∧
    ((start none).run libraries).Stands (.spelled "lib/foo") ⟨1⟩ ∧
    ((start none).run libraries).Stands (.spelled "foo$") ⟨1⟩ ∧
    (∀ t, ¬ ((start none).run libraries).Stands (.spelled "foo") t) ∧
    (((start none).run libraries).run [.tag "docs" none]).find (.spelled "foo") =
      .error (.configuration (.manyMatches "foo" ["lib/foo", "lib/foobar"]) none) := by
  obtain ⟨-, hfind, hfault, -, -, hlater⟩ := lookup_exact none validRun_libraries rfl
  have hmany : ((start none).run libraries).find (.spelled "foo") =
      .error (.configuration (.manyMatches "foo" ["lib/foo", "lib/foobar"]) none) := by decide +kernel
  have hfresh : ∀ t ∈ (((start none).run libraries).run [.tag "docs" none]).groups,
      t ∉ ((start none).run libraries).groups →
        ((((start none).run libraries).run [.tag "docs" none]).node t).name = "tags/docs" := by decide +kernel
  have hmatch : (NamePattern.spelled "foo").expression?.all (fun e => !e.matchesIn "tags/docs") = true := by
    decide +kernel
  refine ⟨by decide +kernel, (hfind _ _).mp (by decide +kernel), (hfind _ _).mp (by decide +kernel),
    ((hfault _).mp ⟨_, hmany⟩).1, (hlater [.tag "docs" none] ⟨trivial, trivial⟩ _ fun t ht hnew => ?_).trans hmany⟩
  rw [hfresh t ht hnew]
  refine ⟨by simp, fun e he => ?_⟩
  rw [he] at hmatch
  simpa using hmatch

/-- So it is not so that every look-up in vain is refused as a fault of the look-up: a count can be too large for a
pattern. -/
theorem not_find_configuration :
    ¬ ∀ (buildDir : Option String) (ops : List Operation), (start buildDir).ValidRun ops →
      ∀ (p : NamePattern) (f : Fault), ((start buildDir).run ops).find p = .error f →
        ∃ r, f = .configuration r none := by
  intro h
  have hfind : ((start none).run []).find (.spelled "a\x7b4294967295\x7d") =
      .error (.raised "OverflowError" "the repetition number is too large") := by rfl
  obtain ⟨r, hr⟩ := h none [] trivial _ _ hfind
  cases hr

end Graph
end BuildTree
