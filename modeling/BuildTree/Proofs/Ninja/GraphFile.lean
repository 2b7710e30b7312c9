import BuildTree.Proofs.Graph.Partition
import BuildTree.Proofs.Ninja.Target
import BuildTree.Proofs.Text.Quoted

/-!
# The files of a graph

What there is to read in the file of a partition, and in the root file: one statement for each target that goes there,
in the order of registration, and in the root file those of the build itself after them.
-/

namespace BuildTree.Ninja
open Effect BuildTree.Graph

theorem clear_header {title : String} (h : '\n' ∉ title.toList) : ∀ i ∈ header title, i.Clear := by
  intro i hi
  simp only [header, List.mem_cons, List.not_mem_nil, or_false] at hi
  rcases hi with rfl | rfl | rfl
  · show '\n' ∉ _
    decide
  · exact h
  · trivial

theorem entries_header (title : String) : (header title).flatMap Item.entries = [] := rfl

def targetsOf (g : Graph) (name : Option String) : List Target :=
  (g.targets.map g.node).filter (·.partitionName? = name)

theorem partitionTargets_text {g : Graph} (named : ∀ t ∈ g.targets, (g.node t).Named) (name : String) :
    partitionTargets g (.text name) = targetsOf g (some name) := by
  refine List.filter_congr fun t ht => ?_
  obtain ⟨u, hu, rfl⟩ := List.mem_map.mp ht
  rcases named u hu with hp | ⟨other, hp⟩
  · simp [Target.partitionName?, hp, Value.same, Value.sameLeaf, Value.whole?]
  · simp [Target.partitionName?, hp]

theorem partitionTargets_null {g : Graph} (named : ∀ t ∈ g.targets, (g.node t).Named) :
    partitionTargets g .null = targetsOf g none := by
  refine List.filter_congr fun t ht => ?_
  obtain ⟨u, hu, rfl⟩ := List.mem_map.mp ht
  rcases named u hu with hp | ⟨other, hp⟩
  · simp [Target.partitionName?, hp, Value.same, Value.sameLeaf]
  · simp [Target.partitionName?, hp, Value.same, Value.sameLeaf, Value.whole?]

/-- What reading the file of a partition, or the root file, makes of the targets in it. -/
def readTargets (g : Graph) (name : Option String) : List (Option Statement) :=
  (targetsOf g name).map fun t => some (declared g t).asRead

theorem read_targets {g : Graph} {name : Option String} {ss : List Statement}
    (hpaths : ∀ t ∈ g.targets, (declared g (g.node t)).PlainPaths)
    (h : targetStatements g (targetsOf g name) = .ok ss) :
    ss.map Statement.entry = readTargets g name ∧ ∀ s ∈ ss, s.Lined := by
  obtain ⟨rfl, hall⟩ := targetStatements_eq_ok h
  have hplain : ∀ t ∈ targetsOf g name, (declared g t).PlainPaths := by
    intro t ht
    obtain ⟨u, hu, rfl⟩ := List.mem_map.mp (List.mem_filter.mp ht).1
    exact hpaths u hu
  constructor
  · rw [List.map_map]
    exact List.map_congr_left fun t ht => entry_declared (hplain t ht) (hall t ht).1
  · intro s hs
    obtain ⟨t, ht, rfl⟩ := List.mem_map.mp hs
    exact lined_declared (fun p hp => (hplain t ht p hp).oneLine) (hall t ht).1 (hall t ht).2

theorem read_partition {g : Graph} (named : ∀ t ∈ g.targets, (g.node t).Named)
    (hpaths : ∀ t ∈ g.targets, (declared g (g.node t)).PlainPaths) {name : String} {items : List Item}
    (h : partitionItems g (.text name) = .ok items) :
    statements (render items) = readTargets g (some name) := by
  obtain ⟨ss, hss, h⟩ := (bind_eq_ok_iff _ _ _).mp h
  cases h
  rw [partitionTargets_text named] at hss
  obtain ⟨hread, hlined⟩ := read_targets hpaths hss
  have htitle : '\n' ∉ ("Partition " ++ g.shown (.text name) ++ ".").toList := by
    have hshown : '\n' ∉ (g.shown (.text name)).toList := Text.newline_notMem_quoted name
    simp [hshown]
  rw [statements_render (List.forall_mem_append.mpr ⟨clear_header htitle, clear_buildItems hlined⟩),
    List.flatMap_append, entries_header, entries_buildItems, hread]
  rfl

theorem ownStatement_eq_ok {s s' : Statement} (h : ownStatement s = .ok s') :
    s' = s ∧ ∀ b ∈ s.bindings, '\n' ∉ b.value.toList := by
  unfold ownStatement at h
  cases hbroken : firstBroken s.bindings with
  | some key =>
    rw [hbroken] at h
    cases h
  | none =>
    rw [hbroken] at h
    cases h
    exact ⟨rfl, (firstBroken_eq_none_iff _).mp hbroken⟩

theorem mem_passOutputs {g : Graph} (partitions : List Given) (outputs : List String) :
    (∀ o ∈ partitions.foldl (fun outputs p =>
        let file := g.partitionFile p
        if outputs.contains file then outputs else outputs ++ [file]) outputs,
      o ∈ outputs ∨ ∃ p ∈ partitions, o = g.partitionFile p) ∧
    outputs ⊆ partitions.foldl (fun outputs p =>
        let file := g.partitionFile p
        if outputs.contains file then outputs else outputs ++ [file]) outputs := by
  induction partitions generalizing outputs with
  | nil => exact ⟨fun o ho => .inl ho, List.Subset.refl _⟩
  | cons p ps ih =>
    rw [List.foldl_cons]
    dsimp only
    by_cases hc : outputs.contains (g.partitionFile p) = true
    · rw [if_pos hc]
      refine ⟨fun o ho => ?_, (ih outputs).2⟩
      rcases (ih outputs).1 o ho with ho | ⟨q, hq, ho⟩
      · exact .inl ho
      · exact .inr ⟨q, List.mem_cons_of_mem p hq, ho⟩
    · rw [if_neg hc]
      refine ⟨fun o ho => ?_, fun o ho => (ih _).2 (List.mem_append_left _ ho)⟩
      rcases (ih _).1 o ho with ho | ⟨q, hq, ho⟩
      · rcases List.mem_append.mp ho with ho | ho
        · exact .inl ho
        · exact .inr ⟨p, List.mem_cons_self, List.mem_singleton.mp ho⟩
      · exact .inr ⟨q, List.mem_cons_of_mem p hq, ho⟩

/-- What the statement of a pass needs to be written and to be read: its paths and the files of the partitions. -/
structure PassPaths (g : Graph) (t : Target) (Fit : String → Prop) : Prop where
  outputs : ∀ o ∈ t.outputs, Fit o
  inputs : ∀ p ∈ g.resolve t.inputs, Fit p
  files : ∀ name ∈ g.partitionNames, Fit (name ++ ".ninja")

theorem passStatement_paths {g : Graph} (named : ∀ t ∈ g.targets, (g.node t).Named) {t : Target}
    {Fit : String → Prop} (h : PassPaths g t Fit) (words : List String) :
    ∀ p ∈ (passStatement g t words g.partitions).outputs ++ [] ++ g.resolve t.inputs ++ [] ++ [], Fit p := by
  simp only [List.append_nil, List.forall_mem_append]
  refine ⟨fun o ho => ?_, h.inputs⟩
  rcases (mem_passOutputs g.partitions t.outputs).1 o ho with ho | ⟨p, hp, rfl⟩
  · exact h.outputs o ho
  · rw [partitions_eq named] at hp
    obtain ⟨name, hname, rfl⟩ := List.mem_map.mp hp
    exact h.files name hname

theorem passStatement_outputs_ne_nil (g : Graph) (t : Target) (words : List String) (partitions : List Given) :
    (passStatement g t words partitions).outputs ≠ [] :=
  List.ne_nil_of_mem ((mem_passOutputs partitions t.outputs).2 List.mem_cons_self)

theorem plainRule_reconfigure : PlainRule "reconfigure" ∧ PlainPath "reconfigure" :=
  plain_of_known (by decide)

theorem plainKey_passStatement (g : Graph) (t : Target) (words : List String) (partitions : List Given) :
    ∀ b ∈ (passStatement g t words partitions).bindings, PlainKey b.key := by
  simp only [passStatement, List.forall_mem_cons]
  exact ⟨by decide, by decide, fun b hb => by cases hb⟩

theorem lined_passStatement {g : Graph} (named : ∀ t ∈ g.targets, (g.node t).Named) {t : Target}
    (h : PassPaths g t ('\n' ∉ String.toList ·)) {words : List String}
    (hvalues : ∀ b ∈ (passStatement g t words g.partitions).bindings, '\n' ∉ b.value.toList) :
    (passStatement g t words g.partitions).Lined where
  outputs := passStatement_outputs_ne_nil g t words g.partitions
  rule := plainRule_reconfigure.1
  paths := List.forall_mem_cons.mpr ⟨plainRule_reconfigure.2.oneLine, passStatement_paths named h words⟩
  bindings b hb := ⟨plainKey_passStatement g t words g.partitions b hb, hvalues b hb⟩

theorem written_eq_ok_iff (text? : Option String) (text : String) :
    EmitFault.written text? = .ok text ↔ text? = some text := by
  cases text? <;> simp [EmitFault.written]

/-- A command is written if each of its words has a text. -/
theorem mapM_written_eq_ok_iff (g : Graph) (command : List Given) (words : List String) :
    (command.mapM fun word => EmitFault.written (g.text? word)) = .ok words ↔ command.mapM g.text? = some words := by
  induction command generalizing words with
  | nil => simp [pure, Except.pure]
  | cons word rest ih =>
    simp only [List.mapM_cons, bind_eq_ok_iff, written_eq_ok_iff, ih, Option.bind_eq_bind, Option.bind_eq_some_iff,
      Option.some.injEq, pure, Except.pure, Except.ok.injEq]

theorem passStatements_eq_ok {g : Graph} {r : TargetId} (hpass : g.pass = some r) {partitions : List Given}
    {pass : List Statement} (h : passStatements g partitions = .ok pass) :
    ∃ command words, (g.node r).action = .reconfigure command ∧ command.mapM g.text? = some words ∧
      pass = [passStatement g (g.node r) words partitions] ∧
      ∀ b ∈ (passStatement g (g.node r) words partitions).bindings, '\n' ∉ b.value.toList := by
  simp only [passStatements, hpass] at h
  cases haction : (g.node r).action with
  | reconfigure command =>
    rw [haction] at h
    obtain ⟨words, hwords, h⟩ := (bind_eq_ok_iff _ _ _).mp h
    obtain ⟨s, hown, h⟩ := (bind_eq_ok_iff _ _ _).mp h
    cases h
    obtain ⟨rfl, hvalues⟩ := ownStatement_eq_ok hown
    exact ⟨command, words, rfl, (mapM_written_eq_ok_iff g command words).mp hwords, rfl, hvalues⟩
  | _ =>
    rw [haction] at h
    cases h

/-- What reading the root file makes of the statement of the pass: there is one if there is a target for the pass, and
it is read as it is if the files of the partitions have plain names. -/
def ReadsPass (g : Graph) (read : List (Option Statement)) : Prop :=
  match g.pass with
  | none => read = []
  | some r => ∃ command words entry, (g.node r).action = .reconfigure command ∧
    command.mapM g.text? = some words ∧ read = [entry] ∧
    ((∀ name ∈ g.partitionNames, PlainPath (name ++ ".ninja")) →
      entry = some (passStatement g (g.node r) words g.partitions).asRead)

theorem read_pass {g : Graph} (named : ∀ t ∈ g.targets, (g.node t).Named)
    (hpaths : ∀ r, g.pass = some r → (declared g (g.node r)).PlainPaths)
    (hnames : ∀ name ∈ g.partitionNames, '\n' ∉ name.toList) {pass : List Statement}
    (h : passStatements g g.partitions = .ok pass) :
    ReadsPass g (pass.map Statement.entry) ∧ ∀ s ∈ pass, s.Lined := by
  unfold ReadsPass
  cases hpass : g.pass with
  | none =>
    rw [passStatements, hpass] at h
    cases h
    exact ⟨rfl, fun s hs => by cases hs⟩
  | some r =>
    obtain ⟨command, words, haction, hwords, rfl, hvalues⟩ := passStatements_eq_ok hpass h
    have hplain := hpaths r hpass
    have hout : ∀ o ∈ (g.node r).outputs, PlainPath o := fun o ho => hplain o (by simp [declared, ho])
    have hin : ∀ p ∈ g.resolve (g.node r).inputs, PlainPath p := fun p hp => hplain p (by simp [declared, hp])
    have hkeys := plainKey_passStatement g (g.node r) words g.partitions
    constructor
    · refine ⟨command, words, _, haction, hwords, rfl, fun hfiles => ?_⟩
      have hall := passStatement_paths named ⟨hout, hin, hfiles⟩ words
      exact Statement.entry_eq (passStatement_outputs_ne_nil g (g.node r) words g.partitions)
        plainRule_reconfigure.1 (List.forall_mem_cons.mpr ⟨plainRule_reconfigure.2, hall⟩) hkeys
    · have hlines : ∀ name ∈ g.partitionNames, '\n' ∉ (name ++ ".ninja").toList := fun name hname => by
        simp [hnames name hname]
      exact List.forall_mem_singleton.mpr (lined_passStatement named
        ⟨fun o ho => (hout o ho).oneLine, fun p hp => (hin p hp).oneLine, hlines⟩ hvalues)

theorem read_clean : cleanStatement.entry = some cleanStatement ∧ cleanStatement.Lined := by
  have hrule : PlainRule "clean" ∧ PlainPath "clean" := plain_of_known (by decide)
  have hpaths : ∀ p ∈ "clean" :: (["clean"] ++ [] ++ [] ++ [] ++ []), PlainPath p := by decide
  refine ⟨Statement.entry_eq (by decide) hrule.1 hpaths (by decide), by decide, hrule.1, ?_, by decide⟩
  exact fun p hp => (hpaths p hp).oneLine

theorem read_help {g : Graph} {help : Statement} (h : ownStatement (helpStatement g) = .ok help) :
    help.entry = some (helpStatement g).asRead ∧ help.Lined := by
  obtain ⟨rfl, hvalues⟩ := ownStatement_eq_ok h
  have hrule : PlainRule "help" ∧ PlainPath "help" := plain_of_known (by decide)
  have hpaths : ∀ p ∈ "help" :: (["help"] ++ [] ++ [] ++ [] ++ []), PlainPath p := by decide
  have hkeys : ∀ b ∈ (helpStatement g).bindings, PlainKey b.key := by
    simp only [helpStatement, List.forall_mem_cons]
    exact ⟨by decide, by decide, fun b hb => by cases hb⟩
  exact ⟨Statement.entry_eq (List.cons_ne_nil _ _) hrule.1 hpaths hkeys, List.cons_ne_nil _ _, hrule.1,
    fun p hp => (hpaths p hp).oneLine, fun b hb => ⟨hkeys b hb, hvalues b hb⟩⟩

/-- What the root file begins with, in front of its statements. -/
def openingItems (g : Graph) (partitions : List Given) : List Item :=
  header "Root build file."
    ++ [.assign ⟨"ninja_required_version", "1.5"⟩, .assign ⟨"builddir", "."⟩, .blank, .include rulesFile]
    ++ partitions.map (fun p => Item.include (escapePath (g.text p) ++ ".ninja"))
    ++ [.blank]

theorem clear_opening {g : Graph} (named : ∀ t ∈ g.targets, (g.node t).Named)
    (hnames : ∀ name ∈ g.partitionNames, '\n' ∉ name.toList) : ∀ i ∈ openingItems g g.partitions, i.Clear := by
  have htitle : ∀ i ∈ header "Root build file.", i.Clear := clear_header (by decide)
  have hassign : ∀ i ∈ [Item.assign ⟨"ninja_required_version", "1.5"⟩, .assign ⟨"builddir", "."⟩, .blank,
      .include rulesFile], i.Clear := by
    simp only [List.forall_mem_cons]
    exact ⟨⟨by decide, by decide, by decide⟩, ⟨by decide, by decide, by decide⟩, trivial,
      (by decide : '\n' ∉ rulesFile.toList), fun i hi => by cases hi⟩
  have hinclude : ∀ i ∈ g.partitions.map (fun p => Item.include (escapePath (g.text p) ++ ".ninja")), i.Clear := by
    rw [partitions_eq named, List.map_map]
    intro i hi
    obtain ⟨name, hname, rfl⟩ := List.mem_map.mp hi
    have hline : '\n' ∉ (escapePath name).toList := by
      rw [escapePath, String.toList_ofList]
      exact newline_notMem_pathChars (hnames name hname)
    show '\n' ∉ (escapePath name ++ ".ninja").toList
    simp [hline]
  have hblank : ∀ i ∈ [Item.blank], i.Clear := by simp [Item.Clear]
  simp only [openingItems, List.forall_mem_append]
  exact ⟨⟨⟨htitle, hassign⟩, hinclude⟩, hblank⟩

theorem entries_opening (g : Graph) (partitions : List Given) :
    (openingItems g partitions).flatMap Item.entries = [] := by
  simp only [openingItems, List.flatMap_append, entries_header, List.flatMap_map]
  simp [Item.entries]

def goalItem : Item :=
  .goal (Graph.tagPrefix ++ Graph.defaultTag)

theorem clear_goal : goalItem.Clear := by
  show '\n' ∉ _
  decide

/-- The parts of a root file that has been written. -/
theorem rootItems_eq_ok {g : Graph} {partitions : List Given} {items : List Item}
    (h : rootItems g partitions = .ok items) :
    ∃ ss pass, targetStatements g (partitionTargets g .null) = .ok ss ∧ passStatements g partitions = .ok pass ∧
      ownStatement (helpStatement g) = .ok (helpStatement g) ∧
      items = openingItems g partitions ++ (ss ++ pass ++ [cleanStatement, helpStatement g]).flatMap buildItems
        ++ [goalItem] := by
  obtain ⟨ss, hss, h⟩ := (bind_eq_ok_iff _ _ _).mp h
  obtain ⟨pass, hpass, h⟩ := (bind_eq_ok_iff _ _ _).mp h
  obtain ⟨help, hhelp, h⟩ := (bind_eq_ok_iff _ _ _).mp h
  cases h
  obtain ⟨rfl, _⟩ := ownStatement_eq_ok hhelp
  exact ⟨ss, pass, hss, hpass, hhelp, rfl⟩

theorem read_root {g : Graph} (named : ∀ t ∈ g.targets, (g.node t).Named)
    (hpaths : ∀ t, t ∈ g.targets ∨ g.pass = some t → (declared g (g.node t)).PlainPaths)
    (hnames : ∀ name ∈ g.partitionNames, '\n' ∉ name.toList) {items : List Item}
    (h : rootItems g g.partitions = .ok items) :
    ∃ pass, ReadsPass g pass ∧ statements (render items) =
      readTargets g none ++ pass ++ [some cleanStatement, some (helpStatement g).asRead] := by
  obtain ⟨ss, pass, hss, hpass, hhelp, rfl⟩ := rootItems_eq_ok h
  rw [partitionTargets_null named] at hss
  obtain ⟨hread, hlined⟩ := read_targets (fun t ht => hpaths t (.inl ht)) hss
  obtain ⟨hreads, hpassLined⟩ := read_pass named (fun r hr => hpaths r (.inr hr)) hnames hpass
  obtain ⟨hhelpRead, hhelpLined⟩ := read_help hhelp
  have hall : ∀ s ∈ ss ++ pass ++ [cleanStatement, helpStatement g], s.Lined := by
    simp only [List.forall_mem_append, List.forall_mem_cons]
    exact ⟨⟨hlined, hpassLined⟩, read_clean.2, hhelpLined, fun s hs => by cases hs⟩
  have hclear : ∀ i ∈ openingItems g g.partitions
      ++ (ss ++ pass ++ [cleanStatement, helpStatement g]).flatMap buildItems ++ [goalItem], i.Clear :=
    List.forall_mem_append.mpr ⟨List.forall_mem_append.mpr ⟨clear_opening named hnames, clear_buildItems hall⟩,
      List.forall_mem_singleton.mpr clear_goal⟩
  refine ⟨pass.map Statement.entry, hreads, ?_⟩
  rw [statements_render hclear]
  simp only [List.flatMap_append, entries_opening, entries_buildItems, hread]
  simp [goalItem, Item.entries, read_clean.1, hhelpRead]

end BuildTree.Ninja
