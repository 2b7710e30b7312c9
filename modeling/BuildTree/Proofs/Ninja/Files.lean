import BuildTree.Proofs.Ninja.Emission

/-!
# What the files of a graph hold

The files of a graph item by item. What the targets, the names of the partitions and the target for the pass leave to
decide in them is spelled out: the file of rules, one file for each partition, and the root file. Every build statement
in them is that of a registered target, that of the pass, or one of the two that the build itself has.
-/

namespace BuildTree.Ninja
open Effect BuildTree.Graph

variable {g : Graph} {interpreter : String}

section Statements

theorem mem_addPartitionFiles {ps : List Given} {files out : Table (List Item)}
    (h : addPartitionFiles g files ps = .ok out) {entry : String × List Item} (he : entry ∈ out) :
    entry ∈ files ∨ ∃ p ∈ ps, partitionItems g p = .ok entry.2 := by
  induction ps generalizing files with
  | nil =>
    cases h
    exact .inl he
  | cons p ps ih =>
    obtain ⟨items, hitems, h⟩ := (bind_eq_ok_iff _ _ _).mp h
    rcases ih h with he | ⟨q, hq, he⟩
    · rcases Table.mem_of_mem_insert he with rfl | he
      · exact .inr ⟨p, List.mem_cons_self, hitems⟩
      · exact .inl he
    · exact .inr ⟨q, List.mem_cons_of_mem p hq, he⟩

/-- Every file is the file of rules, the file of a partition or the root file. -/
theorem mem_emitItems {files : Table (List Item)} (h : emitItems g interpreter = .ok files)
    {entry : String × List Item} (he : entry ∈ files) :
    entry.2 = rulesLayout g interpreter ∨ (∃ p ∈ g.partitions, partitionItems g p = .ok entry.2) ∨
      rootItems g g.partitions = .ok entry.2 := by
  obtain ⟨before, root, _, _, hbefore, hroot, rfl⟩ := parts_of_emitItems h
  rcases Table.mem_of_mem_insert he with rfl | he
  · exact .inr (.inr hroot)
  rcases mem_addPartitionFiles hbefore he with he | he
  · exact .inl (by rw [List.mem_singleton.mp he])
  · exact .inr (.inl he)

/-- A file that is not that of a partition stays as it is. -/
theorem get?_addPartitionFiles {ps : List Given} {files out : Table (List Item)} {file : String}
    (hne : ∀ p ∈ ps, g.partitionFile p ≠ file) (h : addPartitionFiles g files ps = .ok out) :
    out.get? file = files.get? file := by
  induction ps generalizing files with
  | nil =>
    cases h
    rfl
  | cons p ps ih =>
    obtain ⟨hp, hps⟩ := List.forall_mem_cons.mp hne
    obtain ⟨items, _, h⟩ := (bind_eq_ok_iff _ _ _).mp h
    rw [ih hps h, Table.get?_insert_of_ne _ _ (Ne.symm hp)]

theorem get?_rulesFile {files : Table (List Item)} (h : emitItems g interpreter = .ok files) :
    files.get? rulesFile = some (rulesLayout g interpreter) := by
  obtain ⟨parts, root, hcheck, _, hadd, _, rfl⟩ := parts_of_emitItems h
  have hother : ∀ p ∈ g.partitions, g.partitionFile p ≠ rulesFile := fun p hp =>
    (of_checkPartition (hcheck p hp)).2.2
  rw [Table.get?_insert_of_ne _ _ (by decide), get?_addPartitionFiles hother hadd]
  rfl

theorem exists_of_mem_targetStatements {ts : List Target} {ss : List Statement} (h : targetStatements g ts = .ok ss)
    {s : Statement} (hs : s ∈ ss) : ∃ t ∈ ts, targetStatement g t = .ok s := by
  induction ts generalizing ss with
  | nil =>
    cases h
    cases hs
  | cons t ts ih =>
    obtain ⟨first, hfirst, h⟩ := (bind_eq_ok_iff _ _ _).mp h
    obtain ⟨others, hothers, h⟩ := (bind_eq_ok_iff _ _ _).mp h
    cases h
    rcases List.mem_cons.mp hs with rfl | hs
    · refine ⟨t, List.mem_cons_self, ?_⟩
      cases hstated : targetStatement g t with
      | error e =>
        rw [hstated] at hfirst
        cases hfirst
      | ok s' =>
        rw [hstated] at hfirst
        exact congrArg Except.ok (Except.ok.inj hfirst)
    · obtain ⟨u, hu, hs⟩ := ih hothers hs
      exact ⟨u, List.mem_cons_of_mem t hu, hs⟩

theorem ownStatement_of_values {s : Statement} (h : ∀ b ∈ s.bindings, '\n' ∉ b.value.toList) :
    ownStatement s = .ok s := by
  rw [ownStatement, (firstBroken_eq_none_iff _).mpr h]

/-- What a build statement of a graph stands for: a registered target, the pass, or one of the goals that the build
itself has. -/
inductive Origin (g : Graph) (s : Statement) : Prop where
  | target {t : TargetId} (registered : t ∈ g.targets) (stated : targetStatement g (g.node t) = .ok s) : Origin g s
  | pass {r : TargetId} {words : List String} (installed : g.pass = some r)
      (stated : s = passStatement g (g.node r) words g.partitions) (checked : ownStatement s = .ok s) : Origin g s
  | clean (stated : s = cleanStatement) : Origin g s
  | help (stated : s = helpStatement g) (checked : ownStatement s = .ok s) : Origin g s

/-- Wherever it comes from, a statement that is written has its values on single lines. -/
theorem Origin.values {s : Statement} (h : Origin g s) : ∀ b ∈ s.bindings, '\n' ∉ b.value.toList := by
  cases h with
  | target _ stated => exact (targetStatement_eq_ok stated).2.2
  | pass _ _ checked => exact (ownStatement_eq_ok checked).2
  | clean stated =>
    rw [stated]
    decide
  | help _ checked => exact (ownStatement_eq_ok checked).2

/-- Items whose build statements stand one behind the other, each with an empty line and each with its origin. -/
def Originated (g : Graph) (items : List Item) : Prop :=
  ∃ (front : List Item) (ss : List Statement) (back : List Item), items = front ++ ss.flatMap buildItems ++ back ∧
    (∀ s, .build s ∉ front) ∧ (∀ s, .build s ∉ back) ∧ ∀ s ∈ ss, Origin g s

/-- A build statement among such items has an empty line behind it. -/
theorem Originated.split {items : List Item} (h : Originated g items) {s : Statement} (hs : Item.build s ∈ items) :
    Origin g s ∧ ∃ before after, items = before ++ buildItems s ++ after := by
  obtain ⟨front, ss, back, rfl, hfront, hback, horigin⟩ := h
  have hmem : s ∈ ss := by
    have hin : Item.build s ∈ ss.flatMap buildItems := by
      simpa only [List.mem_append, hfront, hback, false_or, or_false] using hs
    obtain ⟨u, hu, hin⟩ := List.mem_flatMap.mp hin
    rcases List.mem_cons.mp hin with hin | hin
    · rwa [Item.build.inj hin]
    · cases List.mem_singleton.mp hin
  refine ⟨horigin s hmem, ?_⟩
  obtain ⟨above, below, rfl⟩ := List.append_of_mem hmem
  refine ⟨front ++ above.flatMap buildItems, below.flatMap buildItems ++ back, ?_⟩
  simp only [List.flatMap_append, List.flatMap_cons, List.append_assoc]

theorem build_notMem_header (title : String) (s : Statement) : Item.build s ∉ header title := by
  simp [header]

theorem origin_of_targetStatements {p : Given} {ss : List Statement}
    (h : targetStatements g (partitionTargets g p) = .ok ss) : ∀ s ∈ ss, Origin g s := by
  intro s hs
  obtain ⟨t, ht, hstated⟩ := exists_of_mem_targetStatements h hs
  obtain ⟨u, hu, rfl⟩ := List.mem_map.mp (List.mem_filter.mp ht).1
  exact .target hu hstated

theorem origin_of_passStatements {pass : List Statement} (h : passStatements g g.partitions = .ok pass) :
    ∀ s ∈ pass, Origin g s := by
  cases hr : g.pass with
  | none =>
    rw [passStatements, hr] at h
    cases h
    exact List.forall_mem_nil _
  | some r =>
    obtain ⟨command, words, _, _, rfl, hvalues⟩ := passStatements_eq_ok hr h
    exact List.forall_mem_singleton.mpr (.pass hr rfl (ownStatement_of_values hvalues))

theorem originated_rules : Originated g (rulesLayout g interpreter) :=
  ⟨rulesLayout g interpreter, [], [], by simp, fun s => by simp [rulesLayout, rulesFileItems, header], fun _ => List.not_mem_nil,
    List.forall_mem_nil _⟩

theorem originated_partition {p : Given} {items : List Item} (h : partitionItems g p = .ok items) :
    Originated g items := by
  obtain ⟨ss, hss, h⟩ := (bind_eq_ok_iff _ _ _).mp h
  rw [← Except.ok.inj h]
  exact ⟨_, ss, [], (List.append_nil _).symm, build_notMem_header _, fun _ => List.not_mem_nil,
    origin_of_targetStatements hss⟩

theorem originated_root {items : List Item} (h : rootItems g g.partitions = .ok items) : Originated g items := by
  obtain ⟨ss, pass, hss, hpass, hhelp, rfl⟩ := rootItems_eq_ok h
  refine ⟨_, _, _, rfl, fun s => by simp [openingItems, header], fun s => by simp [goalItem], ?_⟩
  simp only [List.forall_mem_append, List.forall_mem_cons]
  exact ⟨⟨origin_of_targetStatements hss, origin_of_passStatements hpass⟩, .clean rfl, .help rfl hhelp,
    List.forall_mem_nil _⟩

/-- Every build statement in the files of a graph has its origin in the graph. -/
theorem originated_of_mem {files : Table (List Item)} (h : emitItems g interpreter = .ok files)
    {entry : String × List Item} (he : entry ∈ files) : Originated g entry.2 := by
  rcases mem_emitItems h he with hrules | ⟨p, _, hitems⟩ | hroot
  · rw [hrules]
    exact originated_rules
  · exact originated_partition hitems
  · exact originated_root hroot

end Statements

section Layout

/-- Targets each of which has a statement. -/
def Stated (g : Graph) (ts : List Target) : Prop :=
  ∀ t ∈ ts, isKnownRule (declared g t).rule = true ∧ ∀ b ∈ targetBindings g t, '\n' ∉ b.value.toList

/-- The items in the file of a partition. -/
def partitionLayout (g : Graph) (name : String) : List Item :=
  header ("Partition " ++ Text.quoted name ++ ".") ++ ((targetsOf g (some name)).map (declared g)).flatMap buildItems

/-- The items in the root file, with these statements for the pass. -/
def rootLayout (g : Graph) (pass : List Statement) : List Item :=
  openingItems g g.partitions
    ++ ((targetsOf g none).map (declared g) ++ pass ++ [cleanStatement, helpStatement g]).flatMap buildItems
    ++ [goalItem]

/-- The files of a graph: their names in order, and what each of them holds. -/
structure Laid (g : Graph) (interpreter : String) (files : Table (List Item)) : Prop where
  names : files.keys = rulesFile :: g.partitionNames.map (· ++ ".ninja") ++ [buildFile]
  rules : files.get? rulesFile = some (rulesLayout g interpreter)
  partition : ∀ name ∈ g.partitionNames, Stated g (targetsOf g (some name)) ∧
    files.get? (name ++ ".ninja") = some (partitionLayout g name)
  root : ∃ pass, Stated g (targetsOf g none) ∧ passStatements g g.partitions = .ok pass ∧
    ownStatement (helpStatement g) = .ok (helpStatement g) ∧ files.get? buildFile = some (rootLayout g pass)

theorem laid_of_emitItems (named : ∀ t ∈ g.targets, (g.node t).Named) {files : Table (List Item)}
    (h : emitItems g interpreter = .ok files) : Laid g interpreter files := by
  -- no partition is named like the rules or the root file, so nothing is written over
  have hrules := get?_rulesFile h
  obtain ⟨parts, root, rfl, hnew, hroot, hadd, hfresh, hown⟩ := emitItems_eq_ok named h
  obtain ⟨hkeys, hfiles, _⟩ := addPartitionFiles_eq_ok g.nodup_partitionNames hfresh hadd
  refine ⟨?_, hrules, fun name hname => ?_, ?_⟩
  · rw [Table.insert_of_notMem parts root hnew, Table.keys_append, hkeys]
    rfl
  · obtain ⟨items, hitems, hget⟩ := hfiles name hname
    obtain ⟨ss, hss, hitems⟩ := (bind_eq_ok_iff _ _ _).mp hitems
    rw [partitionTargets_text named] at hss
    obtain ⟨rfl, hstated⟩ := targetStatements_eq_ok hss
    refine ⟨hstated, ?_⟩
    rw [Table.get?_insert_of_ne _ _ (hown name hname), hget, ← Except.ok.inj hitems]
    rfl
  · obtain ⟨ss, pass, hss, hpass, hhelp, rfl⟩ := rootItems_eq_ok hroot
    rw [partitionTargets_null named] at hss
    obtain ⟨rfl, hstated⟩ := targetStatements_eq_ok hss
    exact ⟨pass, hstated, hpass, hhelp, Table.get?_insert_self _ _ _⟩

/-- The file that the statement of a target is in. -/
def fileOf (t : Target) : String :=
  match t.partitionName? with
  | some name => name ++ ".ninja"
  | none => buildFile

/-- Every registered target has its statement in its file. -/
theorem Laid.statement {files : Table (List Item)} (laid : Laid g interpreter files) {t : TargetId}
    (ht : t ∈ g.targets) : isKnownRule (declared g (g.node t)).rule = true ∧
      ∃ items, files.get? (fileOf (g.node t)) = some items ∧ Item.build (declared g (g.node t)) ∈ items := by
  have hmem : ∀ name, (g.node t).partitionName? = name → g.node t ∈ targetsOf g name := fun name hname =>
    List.mem_filter.mpr ⟨List.mem_map_of_mem ht, by simpa using hname⟩
  have hbuild : ∀ ss : List Statement, declared g (g.node t) ∈ ss →
      Item.build (declared g (g.node t)) ∈ ss.flatMap buildItems :=
    fun ss hs => List.mem_flatMap.mpr ⟨_, hs, List.mem_cons_self⟩
  cases hname : (g.node t).partitionName? with
  | some name =>
    have huse : name ∈ g.partitionNames :=
      (mem_partitionNames_iff g name).mpr ⟨t, ht, (Target.partitionName?_eq_some_iff _ _).mp hname⟩
    obtain ⟨hstated, hfile⟩ := laid.partition name huse
    have hfileOf : fileOf (g.node t) = name ++ ".ninja" := by rw [fileOf, hname]
    refine ⟨(hstated _ (hmem _ hname)).1, partitionLayout g name, hfileOf ▸ hfile, ?_⟩
    exact List.mem_append_right _ (hbuild _ (List.mem_map_of_mem (hmem _ hname)))
  | none =>
    obtain ⟨pass, hstated, _, _, hfile⟩ := laid.root
    have hfileOf : fileOf (g.node t) = buildFile := by rw [fileOf, hname]
    refine ⟨(hstated _ (hmem _ hname)).1, rootLayout g pass, hfileOf ▸ hfile, ?_⟩
    refine List.mem_append_left _ (List.mem_append_right _ (hbuild _ ?_))
    exact List.mem_append_left _ (List.mem_append_left _ (List.mem_map_of_mem (hmem _ hname)))

theorem exists_build_of_registered (named : ∀ t ∈ g.targets, (g.node t).Named) {files : Table (List Item)}
    (h : emitItems g interpreter = .ok files) {t : TargetId} (ht : t ∈ g.targets) :
    ∃ entry ∈ files, Item.build (declared g (g.node t)) ∈ entry.2 := by
  obtain ⟨_, items, hitems, hbuild⟩ := (laid_of_emitItems named h).statement ht
  exact ⟨_, Table.mem_of_get? hitems, hbuild⟩

end Layout

end BuildTree.Ninja
