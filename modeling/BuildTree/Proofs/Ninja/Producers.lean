import BuildTree.Proofs.Graph.Registration
import BuildTree.Proofs.Ninja.Files
import BuildTree.Proofs.Path.Collapse
import Mathlib.Data.List.Nodup
import Mathlib.Data.List.Pairwise

/-!
# Who makes what in a whole build

All outputs of all build statements in all files of a graph are those of its registered targets, the files of the
pass, and the two names `clean` and `help` of the build itself. Seen from the build directory each of them has one
producer exactly if a few things hold that registering does not look at: names are compared as they are spelled, a
target is not compared with itself, and nothing is kept for the two names.
-/

namespace BuildTree.Ninja
open Effect BuildTree.Graph

def Statement.allOutputs (s : Statement) : List String :=
  s.outputs ++ s.implicitOutputs

def Item.outputs : Item → List String
  | .build s => s.allOutputs
  | _ => []

/-- What the build statements in all files make, each as often as it is made. -/
def produced (files : Table (List Item)) : List String :=
  files.values.flatMap (·.flatMap Item.outputs)

/-- The outputs on the statement of the pass. -/
def passFiles (g : Graph) (r : TargetId) : List String :=
  (passStatement g (g.node r) [] g.partitions).outputs

/-- The names that the build itself uses. -/
def fixedGoals : List String :=
  ["clean", "help"]

section Emission
variable {g : Graph}

theorem outputs_buildItems (ss : List Statement) :
    (ss.flatMap buildItems).flatMap Item.outputs = ss.flatMap Statement.allOutputs := by
  induction ss with
  | nil => rfl
  | cons s ss ih => simp [buildItems, Item.outputs, ih]

theorem outputs_header (title : String) : (header title).flatMap Item.outputs = [] := rfl

theorem outputs_targets {ts : List Target} {ss : List Statement} (h : targetStatements g ts = .ok ss) :
    ss.flatMap Statement.allOutputs = ts.flatMap Target.allOutputs := by
  obtain ⟨rfl, _⟩ := targetStatements_eq_ok h
  rw [List.flatMap_map]
  rfl

theorem outputs_partition (named : ∀ t ∈ g.targets, (g.node t).Named) {name : String} {items : List Item}
    (h : partitionItems g (.text name) = .ok items) :
    items.flatMap Item.outputs = (targetsOf g (some name)).flatMap Target.allOutputs := by
  obtain ⟨ss, hss, h⟩ := (bind_eq_ok_iff _ _ _).mp h
  cases h
  rw [partitionTargets_text named] at hss
  rw [List.flatMap_append, outputs_header, outputs_buildItems, outputs_targets hss, List.nil_append]

theorem outputs_pass {ss : List Statement} (h : passStatements g g.partitions = .ok ss) :
    ss.flatMap Statement.allOutputs = g.pass.toList.flatMap (passFiles g) := by
  cases hpass : g.pass with
  | none =>
    rw [passStatements, hpass] at h
    cases h
    rfl
  | some r =>
    obtain ⟨command, words, _, _, rfl, _⟩ := passStatements_eq_ok hpass h
    simp [Statement.allOutputs, passFiles, passStatement]

theorem outputs_opening (partitions : List Given) : (openingItems g partitions).flatMap Item.outputs = [] := by
  simp only [openingItems, List.flatMap_append, outputs_header, List.flatMap_map]
  simp [Item.outputs]

theorem outputs_root (named : ∀ t ∈ g.targets, (g.node t).Named) {items : List Item}
    (h : rootItems g g.partitions = .ok items) : items.flatMap Item.outputs =
      (targetsOf g none).flatMap Target.allOutputs ++ g.pass.toList.flatMap (passFiles g) ++ fixedGoals := by
  obtain ⟨ss, pass, hss, hpass, _, rfl⟩ := rootItems_eq_ok h
  rw [partitionTargets_null named] at hss
  simp only [List.flatMap_append, outputs_opening, outputs_buildItems, outputs_targets hss, outputs_pass hpass]
  simp [goalItem, Item.outputs, Statement.allOutputs, cleanStatement, helpStatement, fixedGoals]

theorem produced_append (files others : Table (List Item)) :
    produced (files ++ others) = produced files ++ produced others := by
  simp [produced, Table.values]

theorem produced_partitions (named : ∀ t ∈ g.targets, (g.node t).Named) {names : List String} (hnodup : names.Nodup)
    {files out : Table (List Item)} (hfresh : ∀ name ∈ names, name ++ ".ninja" ∉ files.keys)
    (h : addPartitionFiles g files (names.map Value.text) = .ok out) :
    produced out = produced files ++ names.flatMap fun name => (targetsOf g (some name)).flatMap Target.allOutputs := by
  induction names generalizing files with
  | nil =>
    cases h
    simp
  | cons n ns ih =>
    obtain ⟨items, hitems, h⟩ := (bind_eq_ok_iff _ _ _).mp h
    obtain ⟨hn, hns⟩ := List.nodup_cons.mp hnodup
    have hnew : files.insert (n ++ ".ninja") items = files ++ [(n ++ ".ninja", items)] :=
      Table.insert_of_notMem files items (hfresh n List.mem_cons_self)
    have hfresh' : ∀ name ∈ ns, name ++ ".ninja" ∉ (files.insert (n ++ ".ninja") items).keys := by
      intro name hname hmem
      rcases (Table.mem_keys_insert_iff _ _ _ _).mp hmem with he | hmem
      · exact hn (ninja_inj he ▸ hname)
      · exact hfresh name (List.mem_cons_of_mem n hname) hmem
    have hfile : produced [(n ++ ".ninja", items)] = (targetsOf g (some n)).flatMap Target.allOutputs := by
      simpa [produced, Table.values] using outputs_partition named hitems
    rw [ih hns hfresh' h, hnew, produced_append, hfile, List.flatMap_cons, List.append_assoc]

end Emission

/-- A list is made of what has each of several keys and what has none. -/
theorem perm_byKey {α : Type} (key : α → Option String) {names : List String} (hnodup : names.Nodup) (as : List α)
    (hnames : ∀ a ∈ as, ∀ name, key a = some name → name ∈ names) :
    (names.flatMap (fun name => as.filter (key · = some name)) ++ as.filter (key · = none)).Perm as := by
  induction names generalizing as with
  | nil =>
    have hnone : ∀ a ∈ as, key a = none := by
      intro a ha
      refine Option.eq_none_iff_forall_ne_some.mpr fun name hname => ?_
      exact List.not_mem_nil (hnames a ha name hname)
    rw [List.flatMap_nil, List.nil_append, List.filter_eq_self.mpr fun a ha => by simp [hnone a ha]]
  | cons n ns ih =>
    obtain ⟨hn, hns⟩ := List.nodup_cons.mp hnodup
    -- what has the first key is taken out, and the rest is made of the other keys
    have hrest := ih hns (as.filter fun a => ! decide (key a = some n)) (by
      intro a ha name hname
      obtain ⟨ha, hne⟩ := List.mem_filter.mp ha
      rcases List.mem_cons.mp (hnames a ha name hname) with rfl | h
      · simp [hname] at hne
      · exact h)
    have hsame : ∀ k : Option String, k ≠ some n →
        (as.filter fun a => ! decide (key a = some n)).filter (key · = k) = as.filter (key · = k) := by
      intro k hk
      rw [List.filter_filter]
      refine List.filter_congr fun a _ => ?_
      by_cases h : key a = k
      · simp [h, hk]
      · simp [h]
    have hflat : ns.flatMap (fun name => (as.filter fun a => ! decide (key a = some n)).filter (key · = some name)) =
        ns.flatMap fun name => as.filter (key · = some name) := by
      refine List.flatMap_congr fun name hname => hsame _ ?_
      intro he
      exact hn (Option.some.inj he ▸ hname)
    rw [hflat, hsame none (by simp)] at hrest
    rw [List.flatMap_cons, List.append_assoc]
    exact (hrest.append_left _).trans (List.filter_append_perm _ as)

theorem perm_targetsOf (g : Graph) :
    (g.partitionNames.flatMap (fun name => targetsOf g (some name)) ++ targetsOf g none).Perm
      (g.targets.map g.node) := by
  refine perm_byKey Target.partitionName? g.nodup_partitionNames _ fun t ht name hname => ?_
  obtain ⟨u, hu, rfl⟩ := List.mem_map.mp ht
  exact (mem_partitionNames_iff g name).mpr ⟨u, hu, (Target.partitionName?_eq_some_iff _ _).mp hname⟩

theorem outputs_rules (g : Graph) (interpreter : String) :
    (rulesLayout g interpreter).flatMap Item.outputs = [] := by
  simp only [rulesLayout, rulesFileItems, List.flatMap_append, outputs_header, List.flatMap_assoc]
  simp [Item.outputs]

/-- Whatever is made in the files of a graph is made by a registered target, by the pass, or has a fixed name. -/
theorem produced_perm {g : Graph} (named : ∀ t ∈ g.targets, (g.node t).Named) {interpreter : String}
    {files : Table (List Item)} (h : emitItems g interpreter = .ok files) :
    (produced files).Perm
      (g.targets.flatMap (fun t => (g.node t).allOutputs) ++ g.pass.toList.flatMap (passFiles g) ++ fixedGoals) := by
  obtain ⟨parts, root, rfl, hnew, hroot, hadd, hfresh, _⟩ := emitItems_eq_ok named h
  have hrules : produced [(rulesFile, rulesLayout g interpreter)] = [] := by
    simpa [produced, Table.values] using outputs_rules g interpreter
  have hlast : produced [(buildFile, root)] = (targetsOf g none).flatMap Target.allOutputs
      ++ g.pass.toList.flatMap (passFiles g) ++ fixedGoals := by
    simpa [produced, Table.values] using outputs_root named hroot
  have htargets : (g.partitionNames.flatMap (fun name => (targetsOf g (some name)).flatMap Target.allOutputs)
      ++ (targetsOf g none).flatMap Target.allOutputs).Perm (g.targets.flatMap fun t => (g.node t).allOutputs) := by
    have hperm := (perm_targetsOf g).flatMap_right Target.allOutputs
    rwa [List.flatMap_append, List.flatMap_assoc, List.flatMap_map] at hperm
  rw [Table.insert_of_notMem parts root hnew, produced_append,
    produced_partitions named g.nodup_partitionNames hfresh hadd, hrules, hlast, List.nil_append,
    ← List.append_assoc, ← List.append_assoc]
  exact (htargets.append_right _).append_right _

theorem partitionFile_mem_passOutputs {g : Graph} {partitions : List Given} (outputs : List String) {p : Given}
    (hp : p ∈ partitions) : g.partitionFile p ∈ partitions.foldl (fun outputs p =>
      let file := g.partitionFile p
      if outputs.contains file then outputs else outputs ++ [file]) outputs := by
  induction partitions generalizing outputs with
  | nil => cases hp
  | cons q qs ih =>
    rw [List.foldl_cons]
    rcases List.mem_cons.mp hp with rfl | hp
    · apply (mem_passOutputs qs _).2
      dsimp only
      by_cases hc : outputs.contains (g.partitionFile p) = true
      · rw [if_pos hc]
        simpa using hc
      · rw [if_neg hc]
        exact List.mem_append_right _ List.mem_cons_self
    · exact ih _ hp

theorem mem_passFiles_iff {g : Graph} (named : ∀ t ∈ g.targets, (g.node t).Named) (r : TargetId) (o : String) :
    o ∈ passFiles g r ↔ o ∈ (g.node r).outputs ∨ ∃ name, g.UsesPartition name ∧ o = name ++ ".ninja" := by
  have hfiles : ∀ p, p ∈ g.partitions ↔ ∃ name, g.UsesPartition name ∧ Value.text name = p := by
    intro p
    simp only [partitions_eq named, List.mem_map, mem_partitionNames_iff]
  constructor
  · intro ho
    rcases (mem_passOutputs g.partitions _).1 o ho with ho | ⟨p, hp, rfl⟩
    · exact .inl ho
    · obtain ⟨name, used, rfl⟩ := (hfiles p).mp hp
      exact .inr ⟨name, used, rfl⟩
  · rintro (ho | ⟨name, used, rfl⟩)
    · exact (mem_passOutputs g.partitions _).2 ho
    · exact partitionFile_mem_passOutputs _ ((hfiles _).mpr ⟨name, used, rfl⟩)

/-- In their places, the files of the pass are those that it writes. -/
theorem mem_places_pass_iff {g : Graph} (named : ∀ t ∈ g.targets, (g.node t).Named) (f : String) :
    f ∈ (g.pass.toList.flatMap (passFiles g)).map g.generatedPath ↔ g.PassWrites f := by
  constructor
  · intro hf
    obtain ⟨o, ho, rfl⟩ := List.mem_map.mp hf
    obtain ⟨r, hr, ho⟩ := List.mem_flatMap.mp ho
    refine ⟨r, Option.mem_toList.mp hr, ?_⟩
    rcases (mem_passFiles_iff named r o).mp ho with ho | ⟨name, used, rfl⟩
    · exact .inl ⟨o, ho, rfl⟩
    · exact .inr ⟨name, used, rfl⟩
  · rintro ⟨r, hr, hf⟩
    have hplace : ∀ o ∈ passFiles g r, g.generatedPath o ∈ (g.pass.toList.flatMap (passFiles g)).map g.generatedPath :=
      fun o ho => List.mem_map_of_mem (List.mem_flatMap.mpr ⟨r, Option.mem_toList.mpr hr, ho⟩)
    rcases hf with ⟨o, ho, rfl⟩ | ⟨name, used, rfl⟩
    · exact hplace o ((mem_passFiles_iff named r o).mpr (.inl ho))
    · exact hplace _ ((mem_passFiles_iff named r _).mpr (.inr ⟨name, used, rfl⟩))

/-- What has to hold for everything to have one producer, where `was` lists the targets that have been the one for the
pass. -/
structure SingleProducers (was : List TargetId) (g : Graph) : Prop where
  /-- No target lists an output twice. -/
  once : ∀ t ∈ g.targets, (g.node t).allOutputs.Nodup
  /-- No two spellings are of one place. -/
  spelling : ∀ t ∈ g.targets, ∀ u ∈ g.targets, ∀ o ∈ (g.node t).allOutputs, ∀ o' ∈ (g.node u).allOutputs,
    g.generatedPath o = g.generatedPath o' → o = o'
  /-- No target has one of the fixed names. -/
  fixed : ∀ t ∈ g.targets, ∀ o ∈ (g.node t).allOutputs, ∀ n ∈ fixedGoals, g.generatedPath o ≠ g.generatedPath n
  /-- No target makes a file of the pass under a relative name. -/
  relative : ∀ t ∈ g.targets, ∀ o ∈ (g.node t).allOutputs, g.PassWrites (g.generatedPath o) → g.generatedPath o = o
  /-- No target makes the file of its own partition. -/
  ownFile : g.pass.isSome → ∀ t ∈ g.targets, ∀ o ∈ (g.node t).allOutputs, ¬ g.IsOwnFile t (g.generatedPath o)
  /-- A target that has been the one for the pass is apart from the others. -/
  former : ∀ t ∈ g.targets, t ∈ was → ∀ o ∈ (g.node t).allOutputs, ¬ g.PassWrites (g.generatedPath o) ∧
    ∀ u ∈ g.targets, u ≠ t → o ∉ (g.node u).allOutputs
  /-- The pass does not write one place under two names. -/
  passOnce : ∀ r, g.pass = some r → ((passFiles g r).map g.generatedPath).Nodup
  /-- The pass writes nothing under a fixed name. -/
  passFixed : ∀ n ∈ fixedGoals, ¬ g.PassWrites (g.generatedPath n)

theorem suffix_generatedPath (g : Graph) {name : String} (h : Path.PlainPart name) :
    name.toList <:+ (g.generatedPath name).toList := by
  unfold generatedPath
  split
  · exact List.suffix_refl _
  · split
    · exact List.suffix_refl _
    · exact Path.suffix_normalize_joinText _ h

theorem nodup_places_fixedGoals (g : Graph) : (fixedGoals.map g.generatedPath).Nodup := by
  have hclean := suffix_generatedPath g (by decide : Path.PlainPart "clean")
  have hhelp := suffix_generatedPath g (by decide : Path.PlainPart "help")
  have hne : g.generatedPath "clean" ≠ g.generatedPath "help" := by
    intro he
    rw [he] at hclean
    -- the two names end in different letters
    obtain ⟨_, h⟩ := hclean
    obtain ⟨_, h'⟩ := hhelp
    have := congrArg List.getLast? (h.trans h'.symm)
    simp at this
  simpa [fixedGoals] using hne

/-- The outputs of the registered targets are in different places exactly if no target lists an output twice, no two
spellings are of one place, and the targets that have been the one for the pass share no output with another one. -/
theorem nodup_places_targets_iff {was : List TargetId} {g : Graph} (recorded : Recorded g) (owned : Owned was g) :
    ((g.targets.flatMap fun t => (g.node t).allOutputs).map g.generatedPath).Nodup ↔
      (∀ t ∈ g.targets, (g.node t).allOutputs.Nodup) ∧
      (∀ t ∈ g.targets, ∀ u ∈ g.targets, ∀ o ∈ (g.node t).allOutputs, ∀ o' ∈ (g.node u).allOutputs,
        g.generatedPath o = g.generatedPath o' → o = o') ∧
      ∀ t ∈ g.targets, t ∈ was → ∀ o ∈ (g.node t).allOutputs, ∀ u ∈ g.targets, u ≠ t → o ∉ (g.node u).allOutputs := by
  have hmem : ∀ o, o ∈ (g.targets.flatMap fun t => (g.node t).allOutputs) ↔
      ∃ t ∈ g.targets, o ∈ (g.node t).allOutputs := fun o => List.mem_flatMap
  constructor
  · intro h
    have hinj := List.inj_on_of_nodup_map h
    obtain ⟨honce, hpairs⟩ := List.nodup_flatMap.mp (List.Nodup.of_map _ h)
    refine ⟨honce, ?_, ?_⟩
    · intro t ht u hu o ho o' ho' he
      exact hinj ((hmem o).mpr ⟨t, ht, ho⟩) ((hmem o').mpr ⟨u, hu, ho'⟩) he
    · intro t ht _ o ho u hu hne ho'
      have : Std.Symm (Function.onFun List.Disjoint fun t => (g.node t).allOutputs) :=
        ⟨fun _ _ h _ ho ho' => h ho' ho⟩
      exact hpairs.forall hu ht hne ho' ho
  · rintro ⟨honce, hspelling, hformer⟩
    have hpairs : g.targets.Pairwise fun t u => List.Disjoint (g.node t).allOutputs (g.node u).allOutputs := by
      apply recorded.once.pairwise_of_forall_ne
      intro t ht u hu hne o ho ho'
      by_cases hwt : t ∈ was
      · exact hformer t ht hwt o ho u hu hne.symm ho'
      · by_cases hwu : u ∈ was
        · exact hformer u hu hwu o ho' t ht hne ho
        · exact owned.apart t ht u hu hwt hwu hne o ho ho'
    apply List.Nodup.map_on
    · intro o ho o' ho' he
      obtain ⟨t, ht, ho⟩ := (hmem o).mp ho
      obtain ⟨u, hu, ho'⟩ := (hmem o').mp ho'
      exact hspelling t ht u hu o ho o' ho' he
    · exact List.nodup_flatMap.mpr ⟨honce, hpairs⟩

/-- A target that makes what the pass writes does so under a relative name, makes the file of its own partition, or has
been the one for the pass. -/
theorem made_and_written {was : List TargetId} {g : Graph} (owned : Owned was g) {t : TargetId} (ht : t ∈ g.targets)
    {o : String} (ho : o ∈ (g.node t).allOutputs) (hwrites : g.PassWrites (g.generatedPath o)) :
    g.generatedPath o ≠ o ∨ g.IsOwnFile t (g.generatedPath o) ∨ t ∈ was := by
  by_cases hplace : g.generatedPath o = o
  · right
    by_cases hwas : t ∈ was
    · exact .inr hwas
    · left
      obtain ⟨r, hr, _⟩ := id hwrites
      rw [hplace] at hwrites ⊢
      rcases owned.owns t ht hwas o ho with hclaim | ⟨_, hfile⟩
      · have htr := Option.some.inj (hclaim.symm.trans (owned.passOwns r o hr hwrites))
        exact absurd (htr ▸ owned.passWas r hr) hwas
      · exact hfile
  · exact .inl hplace

/-- All places are made once exactly if nothing goes wrong that registering does not see. -/
theorem nodup_places_iff {was : List TargetId} {g : Graph} (sound : Sound g) (owned : Owned was g)
    (recorded : Recorded g) :
    ((g.targets.flatMap (fun t => (g.node t).allOutputs) ++ g.pass.toList.flatMap (passFiles g) ++ fixedGoals).map
      g.generatedPath).Nodup ↔ SingleProducers was g := by
  have hpassOnce : ((g.pass.toList.flatMap (passFiles g)).map g.generatedPath).Nodup ↔
      ∀ r, g.pass = some r → ((passFiles g r).map g.generatedPath).Nodup := by
    cases g.pass <;> simp
  have htarget : ∀ f, f ∈ (g.targets.flatMap fun t => (g.node t).allOutputs).map g.generatedPath ↔
      ∃ t ∈ g.targets, ∃ o ∈ (g.node t).allOutputs, g.generatedPath o = f := by
    intro f
    simp only [List.mem_map, List.mem_flatMap]
    tauto
  have hgoal : ∀ f, f ∈ fixedGoals.map g.generatedPath ↔ ∃ n ∈ fixedGoals, g.generatedPath n = f :=
    fun f => List.mem_map
  simp only [List.map_append, List.nodup_append, nodup_places_targets_iff recorded owned, hpassOnce, List.mem_append,
    htarget, mem_places_pass_iff sound.targetsNamed, hgoal]
  constructor
  · rintro ⟨⟨⟨honce, hspelling, hformer⟩, hpass, hwritten⟩, _, hfixed⟩
    have hnever : ∀ t ∈ g.targets, ∀ o ∈ (g.node t).allOutputs, ¬ g.PassWrites (g.generatedPath o) :=
      fun t ht o ho hwrites => hwritten _ ⟨t, ht, o, ho, rfl⟩ _ hwrites rfl
    exact {
      once := honce
      spelling := hspelling
      fixed := fun t ht o ho n hn => hfixed _ (.inl ⟨t, ht, o, ho, rfl⟩) _ ⟨n, hn, rfl⟩
      relative := fun t ht o ho hwrites => absurd hwrites (hnever t ht o ho)
      ownFile := fun hisSome t ht o ho hfile => hnever t ht o ho (hfile.passWrites ht hisSome)
      former := fun t ht hwas o ho => ⟨hnever t ht o ho, hformer t ht hwas o ho⟩
      passOnce := hpass
      passFixed := fun n hn hwrites => hfixed _ (.inr hwrites) _ ⟨n, hn, rfl⟩ rfl }
  · intro h
    refine ⟨⟨⟨h.once, h.spelling, fun t ht hwas o ho => (h.former t ht hwas o ho).2⟩, h.passOnce, ?_⟩,
      nodup_places_fixedGoals g, ?_⟩
    · rintro _ ⟨t, ht, o, ho, rfl⟩ f hwrites rfl
      obtain ⟨r, hr, _⟩ := id hwrites
      have hisSome : g.pass.isSome := Option.isSome_iff_exists.mpr ⟨r, hr⟩
      rcases made_and_written owned ht ho hwrites with hplace | hfile | hwas
      · exact hplace (h.relative t ht o ho hwrites)
      · exact h.ownFile hisSome t ht o ho hfile
      · exact (h.former t ht hwas o ho).1 hwrites
    · rintro _ (⟨t, ht, o, ho, rfl⟩ | hwrites) _ ⟨n, hn, rfl⟩ he
      · exact h.fixed t ht o ho n hn he
      · exact h.passFixed n hn (he ▸ hwrites)

theorem emit_eq_ok {g : Graph} {interpreter : String} {files : Table (List Item)}
    (h : emitItems g interpreter = .ok files) :
    emit g interpreter = .ok (files.map fun (name, items) => (name, render items)) := by
  rw [emit, h]
  rfl

/-- Whatever serializing writes after a run has one producer for each place exactly if nothing goes wrong that
registering does not see. -/
theorem produced_once_iff {buildDir : Option String} {ops : List Operation} (valid : (start buildDir).ValidRun ops)
    {interpreter : String} {texts : Table String}
    (h : emit ((start buildDir).run ops) interpreter = .ok texts) :
    ∃ files, emitItems ((start buildDir).run ops) interpreter = .ok files ∧
      texts = files.map (fun (name, items) => (name, render items)) ∧
      (((produced files).map ((start buildDir).run ops).generatedPath).Nodup ↔
        SingleProducers ((start buildDir).installs ops) ((start buildDir).run ops)) := by
  obtain ⟨files, hfiles, h⟩ := (bind_eq_ok_iff _ _ _).mp h
  cases h
  obtain ⟨sound, owned⟩ := owned_run valid (sound_start buildDir) (owned_start buildDir)
  have recorded := recorded_run valid (sound_start buildDir) (recorded_start buildDir)
  refine ⟨files, hfiles, rfl, ?_⟩
  rw [((produced_perm sound.targetsNamed hfiles).map _).nodup_iff]
  exact nodup_places_iff sound owned recorded

/-- A run with a pass, a partition, outputs of both kinds and two targets that work on each other's results. -/
def workshop : List Operation :=
  [.make (Target.pass "build.ninja" [] [.text "kiln"]), .install ⟨1⟩,
    .make { Target.emptyGroup "/b/engine" none with
      action := .copy
      otherOutputs := ["/b/engine.log"]
      implicitOutputs := ["/b/engine.map"]
      inputs := [.path "/s/engine"]
      partition := .text "parts" }, .register ⟨2⟩,
    .make { Target.emptyGroup "/b/car" none with action := .copy, inputs := [.target ⟨2⟩] }, .register ⟨3⟩,
    .attach (.target ⟨3⟩) none ["all"], .addGenerated "compile_commands.json" none]

theorem validRun_workshop : (start (some "/b")).ValidRun workshop := by
  refine ⟨.inl rfl, ⟨?_, ?_⟩, .inr ⟨"parts", rfl⟩, ?_, .inl rfl, ?_, trivial, trivial, trivial⟩
  · decide +kernel
  · decide +kernel
  · show Made _ _
    decide +kernel
  · show Made _ _
    decide +kernel

theorem produced_once_workshop :
    ∃ files, emitItems ((start (some "/b")).run workshop) "/usr/bin/python3" = .ok files ∧
      ((produced files).map ((start (some "/b")).run workshop).generatedPath).Nodup ∧
      SingleProducers ((start (some "/b")).installs workshop) ((start (some "/b")).run workshop) := by
  have honce : ∃ files ∈ (emitItems ((start (some "/b")).run workshop) "/usr/bin/python3").toOption,
      ((produced files).map ((start (some "/b")).run workshop).generatedPath).Nodup := by
    decide +kernel
  obtain ⟨files, hfiles, hnodup⟩ := honce
  have hok := eq_ok_of_toOption hfiles
  obtain ⟨_, hok', _, hiff⟩ := produced_once_iff validRun_workshop (emit_eq_ok hok)
  cases hok.symm.trans hok'
  exact ⟨files, hok, hnodup, hiff.mp hnodup⟩

/-- A run in which a target lists an output twice. -/
def doubled : List Operation :=
  [.make { Target.emptyGroup "/b/a" none with action := .nothing, otherOutputs := ["/b/a"] }, .register ⟨1⟩]

theorem validRun_doubled : (start (some "/b")).ValidRun doubled := by
  refine ⟨.inl rfl, ?_, trivial⟩
  show Made _ _
  decide +kernel

/-- So it is not so that everything in a build that is written has one producer. -/
theorem not_produced_once :
    ¬ ∀ (dir : String) (ops : List Operation) (interpreter : String) (files : Table (List Item)),
      (start (some dir)).ValidRun ops → emitItems ((start (some dir)).run ops) interpreter = .ok files →
      ((produced files).map ((start (some dir)).run ops).generatedPath).Nodup := by
  intro h
  have htwice : ∃ files ∈ (emitItems ((start (some "/b")).run doubled) "/usr/bin/python3").toOption,
      ¬ ((produced files).map ((start (some "/b")).run doubled).generatedPath).Nodup := by
    decide +kernel
  obtain ⟨files, hfiles, hnodup⟩ := htwice
  exact hnodup (h "/b" doubled "/usr/bin/python3" files validRun_doubled (eq_ok_of_toOption hfiles))

end BuildTree.Ninja
