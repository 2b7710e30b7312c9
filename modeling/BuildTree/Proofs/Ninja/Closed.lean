import BuildTree.Proofs.Graph.Claims
import BuildTree.Proofs.Graph.Pools
import BuildTree.Proofs.Graph.TagHistory
import BuildTree.Proofs.Ninja.Expansion
import BuildTree.Proofs.Ninja.FirstFailure
import BuildTree.Proofs.Ninja.Includes
import BuildTree.Proofs.Text.Integer

/-!
# Files that refer to each other

Statements name rules and pools, the root file names the other files, and its last line names the default goal. What is
named is there: rules and pools are in the file of rules, every file is named once, and the goal is made by the group of
its tag. Two things are not looked at. A partition can have a name that no include line can hold, and a registered
target that stands for the pass, or did, can be told to make the goal as well. A target for which something is missing
stops serializing.
-/

namespace BuildTree.Ninja
open Effect BuildTree.Graph

section Pools
variable {g : Graph}

theorem declared_of_poolInUse {pool : Given} {used : Option Given} (h : poolInUse g pool = .ok used)
    (given : pool.isGiven = true) : used = some pool ∧ (isConsole pool || g.pools.has pool) = true := by
  refine ⟨by rw [poolInUse_eq_ok h, given]; rfl, ?_⟩
  by_contra hmissing
  obtain ⟨notConsole, undeclared⟩ := Bool.or_eq_false_iff.mp (Bool.eq_false_iff.mpr hmissing)
  cases h.symm.trans (poolInUse_of_undeclared given notConsole undeclared)

/-- The pool that a command is written with is a text, and it is that of the console or is declared. -/
theorem pool_of_recipeBindings {name : String} {r : Recipe} {bindings : List Binding}
    (h : recipeBindings g name r = .ok bindings) (given : r.pool.isGiven = true) :
    ∃ pool, r.pool = .text pool ∧ (pool = "console" ∨ g.pools.has (.text pool) = true) := by
  obtain ⟨used, hused, h⟩ := (bind_eq_ok_iff _ _ _).mp h
  obtain ⟨rfl, hdeclared⟩ := declared_of_poolInUse hused given
  cases hpool : r.pool with
  | text pool =>
    rw [hpool] at hdeclared
    refine ⟨pool, rfl, (Bool.or_eq_true_iff.mp hdeclared).imp_left fun hconsole => ?_⟩
    simpa [isConsole] using hconsole
  | _ =>
    rw [hpool] at h
    cases h

theorem pool_of_targetStatement {t : Target} {s : Statement} (h : targetStatement g t = .ok s) {b : Binding}
    (hb : b ∈ s.bindings) (hkey : b.key = "pool") : b.value = "console" ∨ g.pools.has (.text b.value) = true := by
  obtain ⟨rfl, _⟩ := targetStatement_eq_ok h
  obtain ⟨_, _, h⟩ := (bind_eq_ok_iff _ _ _).mp h
  obtain ⟨bindings, hbindings, _⟩ := (bind_eq_ok_iff _ _ _).mp h
  have hb : b ∈ targetBindings g t := hb
  cases haction : t.action with
  | run r =>
    obtain ⟨given, rfl⟩ : r.pool.isGiven = true ∧ b = ⟨"pool", g.text r.pool⟩ := by
      rw [mem_targetBindings_run haction] at hb
      rcases hb with rfl | ⟨_, rfl⟩ | rfl | ⟨_, _, _, rfl⟩ | hpool | rfl
      case inr.inr.inr.inr.inl => exact hpool
      all_goals exact absurd hkey (by simp)
    rw [actionBindings, haction] at hbindings
    obtain ⟨pool, hpool, hdeclared⟩ := pool_of_recipeBindings hbindings given
    rw [hpool]
    exact hdeclared
  | compile c =>
    rw [targetBindings, haction] at hb
    simp only [List.mem_cons, List.not_mem_nil, or_false] at hb
    rcases hb with rfl | rfl | rfl <;> exact absurd hkey (by simp)
  | _ =>
    rw [targetBindings, haction] at hb
    cases hb

theorem pool_of_origin {s : Statement} (h : Origin g s) {b : Binding} (hb : b ∈ s.bindings) (hkey : b.key = "pool") :
    b.value = "console" ∨ g.pools.has (.text b.value) = true := by
  -- but for targets, a statement of the build has at most one other binding in front of that of its pool
  have hown : ∀ value, b ∈ [⟨"reconfigure_command", value⟩, ⟨"pool", "console"⟩] ∨
      b ∈ [⟨"help_command", value⟩, ⟨"pool", "console"⟩] → b.value = "console" := by
    intro value hb
    simp only [List.mem_cons, List.not_mem_nil, or_false] at hb
    rcases hb with (rfl | rfl) | (rfl | rfl)
    · exact absurd hkey (by simp)
    · rfl
    · exact absurd hkey (by simp)
    · rfl
  cases h with
  | target _ stated => exact pool_of_targetStatement stated hb hkey
  | pass _ stated _ =>
    rw [stated] at hb
    exact .inl (hown _ (.inl hb))
  | clean stated =>
    rw [stated] at hb
    exact .inl (by rw [List.mem_singleton.mp hb])
  | help stated _ =>
    rw [stated] at hb
    exact .inl (hown _ (.inr hb))

end Pools

/-- An item in the file of rules. -/
def InRules (files : Table (List Item)) (i : Item) : Prop :=
  ∃ items, files.get? rulesFile = some items ∧ i ∈ items

/-- A registered target has a name among the outputs of its statement. -/
def Produces (g : Graph) (t : TargetId) (name : String) : Prop :=
  t ∈ g.targets ∧ name ∈ (declared g (g.node t)).allOutputs

def defaultGoal : String :=
  tagPrefix ++ defaultTag

/-- Files in which everything that is named is there, where `was` lists the targets that have been the one for the
pass. -/
structure Closed (was : List TargetId) (g : Graph) (files : Table (List Item)) : Prop where
  names : files.keys = partFiles g ++ [buildFile]
  distinct : files.keys.Nodup
  rule : ∀ entry ∈ files, ∀ s, Item.build s ∈ entry.2 →
    s.rule = phony ∨ ∃ bindings, InRules files (.rule s.rule bindings)
  pool : ∀ entry ∈ files, ∀ s, Item.build s ∈ entry.2 → ∀ b ∈ s.bindings, b.key = "pool" →
    b.value = "console" ∨ ∃ depth text, deepEnough depth = true ∧ depth.text? = some text ∧
      InRules files (.pool b.value text)
  /-- The root file has an include line for each other file. These lines name the files just if the names are plain. -/
  includes : ∃ root, files.get? buildFile = some root ∧ root.filterMap Item.file? = (partFiles g).map escapePath ∧
    (PathsOneLine g → (included (render root) = (partFiles g).map some ↔ ∀ file ∈ partFiles g, PlainPath file))
  /-- The group in the root file is the only target that makes the goal, if none that has been the one for the pass
  does. -/
  goal : ∃ t root, files.get? buildFile = some root ∧ Item.goal defaultGoal ∈ root ∧
    Item.build (declared g (g.node t)) ∈ root ∧ Produces g t defaultGoal ∧ g.targets.count t = 1 ∧
      ((∀ u, Produces g u defaultGoal → u = t) ↔ ∀ u ∈ was, ¬ Produces g u defaultGoal)

/-- Serializing stops at the first target that refers to what is not there, or before it. It stops with the fault that is
meant for this, unless the partitions are in order and a pool has no text. -/
structure RefusedAt (g : Graph) (interpreter : String) (before : List Target) (t : Target) : Prop where
  order : ∃ after, emissionOrder g = before ++ t :: after
  first : ∀ u ∈ before, ∀ o, ¬ Unfit g u o
  refused : ∃ o e, Unfit g t o ∧ emit g interpreter = .error e ∧
    (StopsBefore g before e ∨ e = .target t.name o t.definedAt) ∧
    (e.Escapes ↔ (∀ p ∈ g.partitions, checkPartition g p = .ok ()) ∧ ∃ pool ∈ g.pools, ¬ SpelledPool g pool)

section Files
variable {g : Graph} {interpreter : String} {files : Table (List Item)}

theorem nodup_files (named : ∀ t ∈ g.targets, (g.node t).Named) (h : emitItems g interpreter = .ok files) :
    files.keys.Nodup := by
  obtain ⟨_, _, _, _, _, _, hfresh, hown⟩ := emitItems_eq_ok named h
  have hparts : (g.partitionNames.map (· ++ ".ninja")).Nodup :=
    g.nodup_partitionNames.map fun _ _ he => ninja_inj he
  rw [(laid_of_emitItems named h).names, List.cons_append, List.nodup_cons, List.nodup_append]
  refine ⟨fun hmem => ?_, hparts, List.nodup_singleton _, fun file hfile last hlast he => ?_⟩
  · rcases List.mem_append.mp hmem with hmem | hmem
    · obtain ⟨name, hname, he⟩ := List.mem_map.mp hmem
      exact hfresh name hname (by simp [Table.keys, he])
    · exact absurd (List.mem_singleton.mp hmem) (by decide)
  · obtain ⟨name, hname, rfl⟩ := List.mem_map.mp hfile
    exact hown name hname (he.trans (List.mem_singleton.mp hlast))

theorem inRules_of_known (h : emitItems g interpreter = .ok files) {rule : String} (known : isKnownRule rule = true) :
    rule = phony ∨ ∃ bindings, InRules files (.rule rule bindings) := by
  by_cases hphony : rule = phony
  · exact .inl hphony
  · obtain ⟨bindings, hrule⟩ := mem_rules_of_known known hphony
    refine .inr ⟨bindings, _, get?_rulesFile h, List.mem_append_right _ ?_⟩
    exact List.mem_flatMap.mpr ⟨(rule, bindings), hrule, List.mem_cons_self⟩

theorem inRules_of_declared (h : emitItems g interpreter = .ok files) (deep : PoolsDeep g) {pool : String}
    (declared : g.pools.has (.text pool) = true) :
    ∃ depth text, deepEnough depth = true ∧ depth.text? = some text ∧ InRules files (.pool pool text) := by
  obtain ⟨depth, hpool⟩ := ValueTable.mem_of_has_text declared
  obtain ⟨_, _, _, hspelled, _⟩ := parts_of_emitItems h
  obtain ⟨text, htext⟩ := Option.isSome_iff_exists.mp (hspelled _ hpool).2
  refine ⟨depth, text, deep _ hpool, htext, _, get?_rulesFile h, List.mem_append_left _ (List.mem_append_right _ ?_)⟩
  refine List.mem_flatMap.mpr ⟨poolText g (.text pool, depth), List.mem_map_of_mem hpool, ?_⟩
  rw [poolText, htext]
  exact List.mem_cons_self

/-- Only targets that have been the one for the pass can make what is owned by another target. -/
theorem produces_unique_iff {was : List TargetId} (owned : Owned was g) {t : TargetId} {name : String}
    (ht : Produces g t name) (hwas : t ∉ was) :
    (∀ u, Produces g u name → u = t) ↔ ∀ u ∈ was, ¬ Produces g u name := by
  constructor
  · intro honly u hu hproduces
    exact hwas (honly u hproduces ▸ hu)
  · intro hnever u hu
    by_contra hne
    exact owned.apart u hu.1 t ht.1 (fun h => hnever u h hu) hwas hne name hu.2 ht.2

theorem closed_of_emitItems {was : List TargetId} (sound : Sound g) (owned : Owned was g) (deep : PoolsDeep g)
    (kinds : ∀ r ∈ was, (g.node r).isPass = true) {t : TargetId} (tag : g.TagRegistered defaultTag t)
    (h : emitItems g interpreter = .ok files) : Closed was g files := by
  have laid := laid_of_emitItems sound.targetsNamed h
  obtain ⟨pass, hstated, hpass, hhelp, hroot⟩ := laid.root
  have ht : t ∈ g.targets := List.count_pos_iff.mp (tag.once ▸ Nat.one_pos)
  have hwas : t ∉ was := fun hmem => by
    have hkind := kinds t hmem
    rw [tag.ordinary.2] at hkind
    cases hkind
  constructor
  case names => exact laid.names
  case distinct => exact nodup_files sound.targetsNamed h
  case rule =>
    intro entry hentry s hs
    exact inRules_of_known h (known_of_origin ((originated_of_mem h hentry).split hs).1)
  case pool =>
    intro entry hentry s hs b hb hkey
    have hpool := pool_of_origin ((originated_of_mem h hentry).split hs).1 hb hkey
    exact hpool.imp_right (inRules_of_declared h deep)
  case includes =>
    refine ⟨_, hroot, filterMap_file?_root sound.targetsNamed pass, ?_⟩
    intro hpaths
    exact included_root_iff sound.targetsNamed hpaths hstated hpass hhelp
  case goal =>
    refine ⟨t, _, hroot, List.mem_append_right _ (List.mem_singleton_self _), ?_, ?_⟩
    · obtain ⟨_, items, hitems, hbuild⟩ := laid.statement ht
      have hfile : fileOf (g.node t) = buildFile := by rw [fileOf, Target.partitionName?, tag.partition]
      rw [hfile, hroot] at hitems
      exact Option.some.inj hitems ▸ hbuild
    · have hproduces : Produces g t defaultGoal := ⟨ht, tag.mem_allOutputs⟩
      exact ⟨hproduces, tag.once, produces_unique_iff owned hproduces hwas⟩

end Files

section Refused
variable {g : Graph}

theorem mem_emissionOrder (named : ∀ t ∈ g.targets, (g.node t).Named) {t : TargetId} (ht : t ∈ g.targets) :
    g.node t ∈ emissionOrder g := by
  have horder : emissionOrder g =
      g.partitionNames.flatMap (fun name => targetsOf g (some name)) ++ targetsOf g none := by
    rw [emissionOrder, partitionTargets_null named, partitions_eq named, List.flatMap_map]
    simp only [partitionTargets_text named]
  rw [horder, (perm_targetsOf g).mem_iff]
  exact List.mem_map_of_mem ht

/-- Among partitions with names, with a target that has no statement, only a pool can be overlooked. -/
theorem overlooked_iff_of_unfit (named : ∀ t ∈ g.targets, (g.node t).Named) {t : TargetId} (ht : t ∈ g.targets)
    {o : Obstacle} (unfit : Unfit g (g.node t) o) : Overlooked g ↔
      (∀ p ∈ g.partitions, checkPartition g p = .ok ()) ∧ ∃ pool ∈ g.pools, ¬ SpelledPool g pool := by
  constructor
  · intro h
    cases h with
    | pool checked declared unspelled => exact ⟨checked, _, declared, unspelled⟩
    | @partition before p after split checked misnamed =>
      have hp : p ∈ g.partitions := split ▸ List.mem_append_right before List.mem_cons_self
      rw [partitions_eq named] at hp
      obtain ⟨name, _, rfl⟩ := List.mem_map.mp hp
      rcases misnamed.misfit with h | h <;> cases h
    | own checked pools stated broken =>
      obtain ⟨hroot, hparts⟩ := List.forall_mem_cons.mp stated
      have hstated : ∃ s, targetStatement g (g.node t) = .ok s := by
        rcases List.mem_append.mp (mem_emissionOrder named ht) with hmem | hmem
        · obtain ⟨p, hp, hmem⟩ := List.mem_flatMap.mp hmem
          exact hparts p hp _ hmem
        · exact hroot _ hmem
      obtain ⟨s, hs⟩ := hstated
      cases hs.symm.trans (targetStatement_of_unfit unfit)
  · rintro ⟨hchecked, pool, hpool, hunspelled⟩
    exact .pool hchecked hpool hunspelled

theorem refused_of_unfit (named : ∀ t ∈ g.targets, (g.node t).Named) (interpreter : String) {t : TargetId}
    (ht : t ∈ g.targets) {o : Obstacle} (unfit : Unfit g (g.node t) o) :
    ∃ before u, RefusedAt g interpreter before u := by
  classical
  have hsome : ((emissionOrder g).find? fun u => ∃ o, Unfit g u o).isSome :=
    List.find?_isSome.mpr ⟨_, mem_emissionOrder named ht, by simpa using ⟨o, unfit⟩⟩
  obtain ⟨u, hu⟩ := Option.isSome_iff_exists.mp hsome
  obtain ⟨hunfit, before, after, hsplit, hfirst⟩ := List.find?_eq_some_iff_append.mp hu
  obtain ⟨o', hunfit⟩ := of_decide_eq_true hunfit
  obtain ⟨e, hfails, hwhere⟩ := emitItems_of_failing interpreter hsplit (targetStatement_of_unfit hunfit)
  have hemit : emit g interpreter = .error e := (bind_eq_error_iff _ _ _).mpr (.inl hfails)
  refine ⟨before, u, ?_⟩
  constructor
  case order => exact ⟨after, hsplit⟩
  case first =>
    intro v hv o hv'
    have hnone := hfirst v hv
    simp only [Bool.not_eq_true', decide_eq_false_iff_not, not_exists] at hnone
    exact hnone o hv'
  case refused =>
    have hescapes : e.Escapes ↔ Overlooked g := by
      rw [← escapes_emit_iff g interpreter, hemit, failsWith_error_iff]
    exact ⟨o', e, hunfit, hemit, hwhere, hescapes.trans (overlooked_iff_of_unfit named ht unfit)⟩

end Refused

/-- After a run, files that are written are closed, and a registered target for which a rule or a pool is missing stops
serializing. -/
theorem closed_or_refused {buildDir : Option String} {ops : List Operation} (valid : (start buildDir).ValidRun ops)
    (interpreter : String) :
    (∀ texts, emit ((start buildDir).run ops) interpreter = .ok texts → ∃ files,
      emitItems ((start buildDir).run ops) interpreter = .ok files ∧
        texts = files.map (fun entry => (entry.1, render entry.2)) ∧
        Closed ((start buildDir).installs ops) ((start buildDir).run ops) files) ∧
      ∀ t ∈ ((start buildDir).run ops).targets,
        ∀ o, Unfit ((start buildDir).run ops) (((start buildDir).run ops).node t) o →
          ∃ before u, RefusedAt ((start buildDir).run ops) interpreter before u := by
  obtain ⟨sound, owned⟩ := owned_run valid (sound_start buildDir) (owned_start buildDir)
  have deep := poolsDeep_run valid (poolsDeep_start buildDir)
  have kinds := (kinds_run valid (sound_start buildDir) (List.Subset.refl ops) (askedFor_start buildDir _)).2.2
  refine ⟨fun texts h => ?_, fun t ht o unfit => refused_of_unfit sound.targetsNamed interpreter ht unfit⟩
  obtain ⟨files, hfiles, htexts⟩ := items_of_emit h
  have tag := tagRegistered_run valid (sound_start buildDir) (tagsSettled_start buildDir).passKind
    (tagRegistered_start buildDir)
  exact ⟨files, hfiles, htexts, closed_of_emitItems sound owned deep kinds tag hfiles⟩

/-- A run in which a command of a partition is to be in a pool. -/
def pressing (pool : String) : List Operation :=
  [.make (Target.pass "build.ninja" [] [.text "kiln"]), .install ⟨1⟩, .declarePool (.text "press") (.whole 2) none,
    .make { Target.emptyGroup "/b/juice" none with
      action := .run { listing none with pool := .text pool }
      partition := .text "wet parts" }, .register ⟨2⟩]

theorem validRun_pressing : ∀ pool ∈ ["press", "squash"], (start (some "/b")).ValidRun (pressing pool) := by
  have hvalid : ∀ pool, ((start (some "/b")).run ((pressing pool).take 4)).Made ⟨2⟩ →
      (start (some "/b")).ValidRun (pressing pool) := by
    intro pool hmade
    refine ⟨.inl rfl, ⟨?_, ?_⟩, trivial, .inr ⟨"wet parts", rfl⟩, hmade, trivial⟩
    · decide +kernel
    · decide +kernel
  have hmade : ∀ pool ∈ ["press", "squash"],
      2 < ((start (some "/b")).run ((pressing pool).take 4)).nodes.size := by
    decide +kernel
  exact fun pool hpool => hvalid pool (hmade pool hpool)

/-- The pool that was declared is found, and the other one is not. -/
theorem closed_or_refused_pressing :
    (∃ files root, emitItems ((start (some "/b")).run (pressing "press")) "/usr/bin/python3" = .ok files ∧
      Closed ((start (some "/b")).installs (pressing "press")) ((start (some "/b")).run (pressing "press")) files ∧
      files.get? buildFile = some root ∧ included (render root) = [some "rules.ninja", some "wet parts.ninja"]) ∧
    ∃ before u, RefusedAt ((start (some "/b")).run (pressing "squash")) "/usr/bin/python3" before u := by
  constructor
  · have hok : ∃ files ∈ (emitItems ((start (some "/b")).run (pressing "press")) "/usr/bin/python3").toOption,
        ∃ root ∈ files.get? buildFile, included (render root) = [some "rules.ninja", some "wet parts.ninja"] := by
      simp only [included_render]
      decide +kernel
    obtain ⟨files, hfiles, root, hroot, hincluded⟩ := hok
    have hemit := eq_ok_of_toOption hfiles
    obtain ⟨_, hfiles', _, hclosed⟩ :=
      (closed_or_refused (validRun_pressing "press" (by decide)) "/usr/bin/python3").1 _ (emit_eq_ok hemit)
    cases hemit.symm.trans hfiles'
    exact ⟨files, root, hemit, hclosed, hroot, hincluded⟩
  · have hruns : (((start (some "/b")).run (pressing "squash")).node ⟨2⟩).action =
        .run { listing none with pool := .text "squash" } := rfl
    have hundeclared : ((start (some "/b")).run (pressing "squash")).pools.has (.text "squash") = false := by
      decide +kernel
    have hunfit := Unfit.pool hruns rfl rfl hundeclared
    exact (closed_or_refused (validRun_pressing "squash" (by decide)) "/usr/bin/python3").2 ⟨2⟩ (by decide +kernel) _
      hunfit

/-- A run with a partition whose name goes on in a second line. -/
def brokenPartition : List Operation :=
  [.make { Target.emptyGroup "/b/x" none with action := .nothing, partition := .text "a\nb" }, .register ⟨1⟩]

/-- A run in which the target for the pass is built as well, and told to make the default goal. -/
def secondGoal : List Operation :=
  [.make (Target.pass "build.ninja" [] [.text "kiln"]), .install ⟨1⟩, .register ⟨1⟩, .addGenerated "tags/all" none]

theorem validRun_brokenPartition : (start (some "/b")).ValidRun brokenPartition := by
  refine ⟨.inr ⟨"a\nb", rfl⟩, ?_, trivial⟩
  show Made _ _
  decide +kernel

theorem validRun_secondGoal : (start (some "/b")).ValidRun secondGoal := by
  refine ⟨.inl rfl, ⟨?_, ?_⟩, ?_, trivial, trivial⟩
  · decide +kernel
  · decide +kernel
  · show Made _ _
    decide +kernel

/-- A number of one digit too many, in powers that are small enough to be computed with. -/
def tooDeep : Int :=
  Int.ofNat ((10 ^ 100) ^ 43)

theorem text?_tooDeep : PoolDepth.text? (.whole tooDeep) = none := by
  have hpow : ∀ k m, Text.digitLimit = k * m → 10 ^ Text.digitLimit = (10 ^ k) ^ m := fun k m h => by
    rw [h, Nat.pow_mul]
  exact (Text.writeInteger?_eq_none_iff tooDeep).mpr fun h => Nat.ne_of_lt h (hpow 100 43 rfl).symm

/-- A run with a pool of that depth, and a command in a pool that is not declared. -/
def deepPool : List Operation :=
  [.declarePool (.text "press") (.whole tooDeep) none,
    .make { Target.emptyGroup "/b/juice" none with action := .run { listing none with pool := .text "squash" } },
    .register ⟨1⟩]

theorem validRun_deepPool : (start (some "/b")).ValidRun deepPool := by
  refine ⟨trivial, .inl rfl, ?_, trivial⟩
  show Made _ _
  decide +kernel

/-- The partitions are in order, and the pool has no text. -/
theorem overlooked_deepPool : (∀ p ∈ ((start (some "/b")).run deepPool).partitions,
    checkPartition ((start (some "/b")).run deepPool) p = .ok ()) ∧
      ∃ pool ∈ ((start (some "/b")).run deepPool).pools, ¬ SpelledPool ((start (some "/b")).run deepPool) pool := by
  have hpartitions : ((start (some "/b")).run deepPool).partitions = [] := by decide +kernel
  have hpools : ((start (some "/b")).run deepPool).pools = [(.text "press", .whole tooDeep)] := rfl
  rw [hpartitions, hpools]
  refine ⟨nofun, _, List.mem_singleton_self _, fun h => ?_⟩
  rw [SpelledPool, text?_tooDeep] at h
  cases h.2

theorem unfit_deepPool :
    ∃ o, Unfit ((start (some "/b")).run deepPool) (((start (some "/b")).run deepPool).node ⟨1⟩) o := by
  have hruns : (((start (some "/b")).run deepPool).node ⟨1⟩).action =
    .run { listing none with pool := .text "squash" } := rfl
  have hundeclared : ((start (some "/b")).run deepPool).pools.has (.text "squash") = false := by decide +kernel
  exact ⟨_, Unfit.pool hruns rfl rfl hundeclared⟩

/-- Include lines do not always name the other files, the default goal is not always made once, and a target that refers
to what is not there does not always stop serializing with the fault that is meant for this. -/
theorem not_closed :
    (¬ ∀ (dir : String) (ops : List Operation) (interpreter : String) (files : Table (List Item)) (root : List Item),
      (start (some dir)).ValidRun ops → emitItems ((start (some dir)).run ops) interpreter = .ok files →
        files.get? buildFile = some root →
          ∀ file ∈ files.keys, file = buildFile ∨ some file ∈ included (render root)) ∧
    (¬ ∀ (dir : String) (ops : List Operation) (interpreter : String) (files : Table (List Item)),
      (start (some dir)).ValidRun ops → emitItems ((start (some dir)).run ops) interpreter = .ok files →
        ∃ t, ∀ u, Produces ((start (some dir)).run ops) u defaultGoal → u = t) ∧
    ¬ ∀ (dir : String) (ops : List Operation) (interpreter : String), (start (some dir)).ValidRun ops →
      ∀ t ∈ ((start (some dir)).run ops).targets,
        ∀ o, Unfit ((start (some dir)).run ops) (((start (some dir)).run ops).node t) o →
          ∃ e, emit ((start (some dir)).run ops) interpreter = .error e ∧ ¬ e.Escapes := by
  refine ⟨?_, ?_, ?_⟩
  · intro h
    have hbroken : ∃ files ∈ (emitItems ((start (some "/b")).run brokenPartition) "/usr/bin/python3").toOption,
        ∃ root ∈ files.get? buildFile, ∃ file ∈ files.keys,
          ¬ (file = buildFile ∨ some file ∈ included (render root)) := by
      simp only [included_render]
      decide +kernel
    obtain ⟨files, hfiles, root, hroot, file, hfile, hlost⟩ := hbroken
    exact hlost (h "/b" _ _ files root validRun_brokenPartition (eq_ok_of_toOption hfiles) hroot file hfile)
  · intro h
    have hok : ∃ files ∈ (emitItems ((start (some "/b")).run secondGoal) "/usr/bin/python3").toOption, True := by
      decide +kernel
    obtain ⟨files, hfiles, _⟩ := hok
    obtain ⟨t, ht⟩ := h "/b" _ _ files validRun_secondGoal (eq_ok_of_toOption hfiles)
    have hboth : ∀ u ∈ ([⟨0⟩, ⟨1⟩] : List TargetId), Produces ((start (some "/b")).run secondGoal) u defaultGoal := by
      unfold Produces
      decide +kernel
    have htag := ht ⟨0⟩ (hboth _ (by simp))
    have hpass := ht ⟨1⟩ (hboth _ (by simp))
    exact absurd (htag.trans hpass.symm) (by decide)
  · intro h
    obtain ⟨o, hunfit⟩ := unfit_deepPool
    have htarget : ⟨1⟩ ∈ ((start (some "/b")).run deepPool).targets := by decide +kernel
    obtain ⟨e, hemit, hreported⟩ := h "/b" _ "/usr/bin/python3" validRun_deepPool _ htarget _ hunfit
    have hnamed := (owned_run validRun_deepPool (sound_start (some "/b")) (owned_start (some "/b"))).1.targetsNamed
    obtain ⟨_, _, hrefused⟩ := refused_of_unfit hnamed "/usr/bin/python3" htarget hunfit
    obtain ⟨_, _, _, hemit', _, hescapes⟩ := hrefused.refused
    cases hemit.symm.trans hemit'
    exact hreported (hescapes.mpr overlooked_deepPool)

end BuildTree.Ninja
