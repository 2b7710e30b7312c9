import BuildTree.Proofs.Graph.Operation
import BuildTree.Proofs.Ninja.GraphFile
import BuildTree.Proofs.Table

/-!
# Reading back a whole build

When a graph can be written, what is read from the files is the graph again: each target is one statement in the
file of its partition, in the order of registration, with its outputs, its rule, its inputs and its variables.
-/

namespace BuildTree.Ninja
open Effect BuildTree.Graph

variable {g : Graph} {interpreter : String}

/-- The files are those items, written. -/
theorem items_of_emit {files : Table String} (h : emit g interpreter = .ok files) :
    ∃ all, emitItems g interpreter = .ok all ∧ files = all.map fun (name, items) => (name, render items) := by
  obtain ⟨all, hall, h⟩ := (bind_eq_ok_iff _ _ _).mp h
  exact ⟨all, hall, (Except.ok.inj h).symm⟩

section Rules

/-- The name and the depth of a pool as the file of rules has them. -/
def poolText (g : Graph) (pool : Given × PoolDepth) : String × String :=
  (g.text pool.1, pool.2.text?.getD "")

/-- A pool whose name and whose depth have texts. -/
def SpelledPool (g : Graph) (pool : Given × PoolDepth) : Prop :=
  (g.text? pool.1).isSome ∧ pool.2.text?.isSome

instance (g : Graph) (pool : Given × PoolDepth) : Decidable (SpelledPool g pool) :=
  inferInstanceAs (Decidable (_ ∧ _))

/-- The items in the file of rules. -/
def rulesLayout (g : Graph) (interpreter : String) : List Item :=
  rulesFileItems interpreter (g.pools.map (poolText g))

theorem poolTexts_eq_ok_iff (pools : ValueTable TargetId PoolDepth) (texts : List (String × String)) :
    poolTexts g pools = .ok texts ↔ (∀ pool ∈ pools, SpelledPool g pool) ∧ texts = pools.map (poolText g) := by
  induction pools generalizing texts with
  | nil => simp [poolTexts, eq_comm]
  | cons pool rest ih =>
    obtain ⟨name, depth⟩ := pool
    simp only [poolTexts, bind_eq_ok_iff, written_eq_ok_iff, ih, pure, Except.pure, Except.ok.injEq,
      List.forall_mem_cons, List.map_cons, SpelledPool, poolText, Option.isSome_iff_exists]
    constructor
    · rintro ⟨text, htext, depthText, hdepth, _, ⟨hrest, rfl⟩, rfl⟩
      refine ⟨⟨⟨⟨text, htext⟩, depthText, hdepth⟩, hrest⟩, ?_⟩
      rw [text_eq_of_text? htext, hdepth, Option.getD_some]
    · rintro ⟨⟨⟨⟨text, htext⟩, depthText, hdepth⟩, hrest⟩, rfl⟩
      refine ⟨text, htext, depthText, hdepth, _, ⟨hrest, rfl⟩, ?_⟩
      rw [text_eq_of_text? htext, hdepth, Option.getD_some]

/-- The file of rules is written if all pools can be, and there is one way to write it. -/
theorem rulesItems_eq_ok_iff (g : Graph) (interpreter : String) (items : List Item) :
    rulesItems g interpreter = .ok items ↔
      (∀ pool ∈ g.pools, SpelledPool g pool) ∧ items = rulesLayout g interpreter := by
  simp only [rulesItems, bind_eq_ok_iff, poolTexts_eq_ok_iff, pure, Except.pure, Except.ok.injEq, rulesLayout]
  constructor
  · rintro ⟨_, ⟨hpools, rfl⟩, rfl⟩
    exact ⟨hpools, rfl⟩
  · rintro ⟨hpools, rfl⟩
    exact ⟨_, ⟨hpools, rfl⟩, rfl⟩

end Rules

section Partitions

/-- The checks of a partition in their order. -/
theorem checkPartition_eq (g : Graph) (p : Given) : checkPartition g p =
    if p.isGiven then
      (holdsSlash p).bind fun slash =>
        if slash then .error (.partition g p)
        else (EmitFault.written (g.text? p)).bind fun name =>
          if [buildFile, rulesFile].contains (name ++ ".ninja") then .error (.partition g p) else .ok ()
    else .error (.partition g p) := by
  unfold checkPartition
  cases p.isGiven with
  | false => rfl
  | true =>
    cases holdsSlash p with
    | error e => rfl
    | ok slash =>
      cases slash with
      | true => rfl
      | false => cases g.text? p <;> rfl

/-- What a partition that is in order is like. -/
theorem of_checkPartition {p : Given} (h : checkPartition g p = .ok ()) :
    (g.text? p).isSome ∧ g.partitionFile p ≠ buildFile ∧ g.partitionFile p ≠ rulesFile := by
  rw [checkPartition_eq] at h
  split at h
  next =>
    obtain ⟨slash, _, h⟩ := (bind_eq_ok_iff _ _ _).mp h
    split at h
    next => cases h
    next =>
      obtain ⟨name, hname, h⟩ := (bind_eq_ok_iff _ _ _).mp h
      have htext := (written_eq_ok_iff _ _).mp hname
      split at h
      next => cases h
      next hfile =>
        rw [Graph.partitionFile, text_eq_of_text? htext]
        exact ⟨by rw [htext]; rfl, by simpa [not_or] using hfile⟩
  next => cases h

theorem checkPartitions_eq_ok_iff (ps : List Given) :
    checkPartitions g ps = .ok () ↔ ∀ p ∈ ps, checkPartition g p = .ok () := by
  induction ps with
  | nil => exact iff_of_true rfl (List.forall_mem_nil _)
  | cons p ps ih =>
    rw [checkPartitions, bind_eq_ok_iff, List.forall_mem_cons, ← ih]
    exact ⟨fun ⟨⟨⟩, hp, hps⟩ => ⟨hp, hps⟩, fun ⟨hp, hps⟩ => ⟨(), hp, hps⟩⟩

theorem ninja_inj {a b : String} (h : a ++ ".ninja" = b ++ ".ninja") : a = b := by
  have := congrArg String.toList h
  rw [String.toList_append, String.toList_append] at this
  exact String.toList_inj.mp (List.append_cancel_right this)

/-- The files of partitions come behind those before, in order, and nothing else changes. -/
theorem addPartitionFiles_eq_ok {names : List String} (hnodup : names.Nodup)
    {files out : Table (List Item)} (hfresh : ∀ name ∈ names, name ++ ".ninja" ∉ files.keys)
    (h : addPartitionFiles g files (names.map Value.text) = .ok out) :
    out.keys = files.keys ++ names.map (· ++ ".ninja") ∧
      (∀ name ∈ names, ∃ items, partitionItems g (.text name) = .ok items ∧
        out.get? (name ++ ".ninja") = some items) ∧
      ∀ file, (∀ name ∈ names, file ≠ name ++ ".ninja") → out.get? file = files.get? file := by
  induction names generalizing files with
  | nil =>
    cases h
    exact ⟨by simp, by simp, fun _ _ => rfl⟩
  | cons n ns ih =>
    obtain ⟨items, hitems, h⟩ := (bind_eq_ok_iff _ _ _).mp h
    obtain ⟨hn, hns⟩ := List.nodup_cons.mp hnodup
    have hnew : files.insert (n ++ ".ninja") items = files ++ [(n ++ ".ninja", items)] :=
      Table.insert_of_notMem files items (hfresh n List.mem_cons_self)
    have hkeys : (files.insert (n ++ ".ninja") items).keys = files.keys ++ [n ++ ".ninja"] := by
      rw [hnew, Table.keys_append]
      rfl
    have hfresh' : ∀ name ∈ ns, name ++ ".ninja" ∉ (files.insert (n ++ ".ninja") items).keys := by
      intro name hname hmem
      rw [hkeys] at hmem
      rcases List.mem_append.mp hmem with hmem | hmem
      · exact hfresh name (List.mem_cons_of_mem n hname) hmem
      · exact hn (ninja_inj (List.mem_singleton.mp hmem) ▸ hname)
    obtain ⟨hout, hfiles, hothers⟩ := ih hns hfresh' h
    refine ⟨by rw [hout, hkeys, List.map_cons, List.append_assoc]; rfl, ?_, fun file hfile => ?_⟩
    · refine List.forall_mem_cons.mpr ⟨⟨items, hitems, ?_⟩, hfiles⟩
      rw [hothers (n ++ ".ninja") fun name hname he => hn (ninja_inj he ▸ hname)]
      exact Table.get?_insert_self files _ items
    · obtain ⟨hfirst, hrest⟩ := List.forall_mem_cons.mp hfile
      rw [hothers file hrest, Table.get?_insert, if_neg hfirst]

end Partitions

/-- The parts that the files of a graph are put together from. -/
theorem parts_of_emitItems {files : Table (List Item)} (h : emitItems g interpreter = .ok files) :
    ∃ before root, (∀ p ∈ g.partitions, checkPartition g p = .ok ()) ∧ (∀ pool ∈ g.pools, SpelledPool g pool) ∧
      addPartitionFiles g [(rulesFile, rulesLayout g interpreter)] g.partitions = .ok before ∧
      rootItems g g.partitions = .ok root ∧ files = before.insert buildFile root := by
  obtain ⟨_, hcheck, h⟩ := (bind_eq_ok_iff _ _ _).mp h
  obtain ⟨rules, hrules, h⟩ := (bind_eq_ok_iff _ _ _).mp h
  obtain ⟨before, hbefore, h⟩ := (bind_eq_ok_iff _ _ _).mp h
  obtain ⟨root, hroot, h⟩ := (bind_eq_ok_iff _ _ _).mp h
  obtain ⟨hpools, hlayout⟩ := (rulesItems_eq_ok_iff g interpreter rules).mp hrules
  exact ⟨before, root, (checkPartitions_eq_ok_iff _).mp hcheck, hpools, hlayout ▸ hbefore, hroot,
    (Except.ok.inj h).symm⟩

/-- The files of a graph are those of its partitions with the rules before them, and the root file at the end. -/
theorem emitItems_eq_ok (named : ∀ t ∈ g.targets, (g.node t).Named) {files : Table (List Item)}
    (h : emitItems g interpreter = .ok files) :
    ∃ parts root, files = parts.insert buildFile root ∧ buildFile ∉ parts.keys ∧ rootItems g g.partitions = .ok root ∧
      addPartitionFiles g [(rulesFile, rulesLayout g interpreter)] (g.partitionNames.map Value.text) = .ok parts ∧
      (∀ name ∈ g.partitionNames, name ++ ".ninja" ∉ Table.keys [(rulesFile, rulesLayout g interpreter)]) ∧
      ∀ name ∈ g.partitionNames, name ++ ".ninja" ≠ buildFile := by
  obtain ⟨parts, root, hcheck, _, hadd, hroot, rfl⟩ := parts_of_emitItems h
  have hown : ∀ name ∈ g.partitionNames, name ++ ".ninja" ≠ buildFile ∧ name ++ ".ninja" ≠ rulesFile := by
    intro name hname
    refine (of_checkPartition (hcheck (.text name) ?_)).2
    rw [partitions_eq named]
    exact List.mem_map_of_mem hname
  have hfresh : ∀ name ∈ g.partitionNames, name ++ ".ninja" ∉ Table.keys [(rulesFile, rulesLayout g interpreter)] :=
    fun name hname => by simpa [Table.keys] using (hown name hname).2
  rw [partitions_eq named] at hadd
  refine ⟨parts, root, rfl, ?_, hroot, hadd, hfresh, fun name hname => (hown name hname).1⟩
  rw [(addPartitionFiles_eq_ok g.nodup_partitionNames hfresh hadd).1]
  intro hmem
  rcases List.mem_append.mp hmem with hmem | hmem
  · simp [Table.keys, buildFile, rulesFile] at hmem
  · obtain ⟨name, hname, he⟩ := List.mem_map.mp hmem
    exact (hown name hname).1 he

/-- The root file is there, whatever else is. -/
theorem emit_root {files : Table String} (h : emit g interpreter = .ok files) :
    ∃ items, rootItems g g.partitions = .ok items ∧ files.get? buildFile = some (render items) := by
  obtain ⟨all, hall, rfl⟩ := items_of_emit h
  obtain ⟨before, root, _, _, _, hroot, rfl⟩ := parts_of_emitItems hall
  refine ⟨root, hroot, ?_⟩
  rw [Table.get?_map, Table.get?_insert_self]
  rfl

/-- What is read from the files of a graph is the graph: the files are there in their order, and each of them holds
the targets that go to it, one statement for each, and the root file the statements of the build itself after them. -/
structure ReadsBack (g : Graph) (files : Table String) : Prop where
  names : files.keys = rulesFile :: g.partitionNames.map (· ++ ".ninja") ++ [buildFile]
  partition : ∀ name ∈ g.partitionNames, ∃ text, files.get? (name ++ ".ninja") = some text ∧
    statements text = readTargets g (some name)
  root : ∃ text pass, files.get? buildFile = some text ∧ ReadsPass g pass ∧
    statements text = readTargets g none ++ pass ++ [some cleanStatement, some (helpStatement g).asRead]

/-- Whatever is written is read back, if paths are plain and partitions have names of one line. -/
theorem emit_readsBack {g : Graph} {interpreter : String} {files : Table String}
    (named : ∀ t ∈ g.targets, (g.node t).Named)
    (hpaths : ∀ t, t ∈ g.targets ∨ g.pass = some t → (declared g (g.node t)).PlainPaths)
    (hnames : ∀ name ∈ g.partitionNames, '\n' ∉ name.toList) (h : emit g interpreter = .ok files) :
    ReadsBack g files := by
  obtain ⟨all, hall, rfl⟩ := items_of_emit h
  obtain ⟨parts, root, rfl, hnew, hroot, hadd, hfresh, hown⟩ := emitItems_eq_ok named hall
  obtain ⟨hkeys, hfiles, _⟩ := addPartitionFiles_eq_ok g.nodup_partitionNames hfresh hadd
  obtain ⟨pass, hpass, hread⟩ := read_root named hpaths hnames hroot
  refine ⟨?_, fun name hname => ?_, ⟨render root, pass, ?_, hpass, hread⟩⟩
  · rw [Table.keys_map, Table.insert_of_notMem parts root hnew, Table.keys_append, hkeys]
    rfl
  · obtain ⟨items, hitems, hget⟩ := hfiles name hname
    refine ⟨render items, ?_, read_partition named (fun t ht => hpaths t (.inl ht)) hitems⟩
    rw [Table.get?_map, Table.get?_insert, if_neg (hown name hname), hget]
    rfl
  · rw [Table.get?_map, Table.get?_insert_self]
    rfl

/-- A run that leaves a graph with most of what has to be escaped, on both sides of every separator. -/
def escapes : List Operation :=
  [.make (Target.pass "build.ninja" [] [.text "python 3", .text "it's $HOME"]), .install ⟨1⟩,
    .make { Target.emptyGroup "out dir/a$" none with
      action := .run ⟨[.arguments ["echo", "  $x"], .line "true"], "", some "d e.d", [("K", "a b")], .text "p:q"⟩
      otherOutputs := [":", "b:"]
      implicitOutputs := [" $", "c "]
      inputs := [.target ⟨0⟩, .path "$:"]
      implicitInputs := [.path ": "]
      orderOnlyInputs := [.path "$$ "]
      partition := .text "my $part" },
    .declarePool (.text "p:q") (.whole 2) none, .register ⟨2⟩,
    .make { Target.emptyGroup "dist" none with action := .copy, inputs := [.target ⟨2⟩] }, .register ⟨3⟩,
    .attach (.target ⟨3⟩) none ["all"], .addGenerated "compile commands.json" none]

theorem emit_readsBack_escapes :
    ∃ files, emit ((start (some "/b")).run escapes) "/usr/bin/my python" = .ok files ∧
      ReadsBack ((start (some "/b")).run escapes) files := by
  have hemit : (emit ((start (some "/b")).run escapes) "/usr/bin/my python").toOption.isSome = true := by
    decide +kernel
  obtain ⟨files, hfiles⟩ : ∃ files, emit ((start (some "/b")).run escapes) "/usr/bin/my python" = .ok files := by
    cases h : emit ((start (some "/b")).run escapes) "/usr/bin/my python" with
    | ok files => exact ⟨files, rfl⟩
    | error e =>
      rw [h] at hemit
      cases hemit
  have htargets : ∀ t ∈ ((start (some "/b")).run escapes).targets,
      (declared ((start (some "/b")).run escapes) (((start (some "/b")).run escapes).node t)).PlainPaths := by
    decide +kernel
  have hpass : ∀ t ∈ ((start (some "/b")).run escapes).pass.toList,
      (declared ((start (some "/b")).run escapes) (((start (some "/b")).run escapes).node t)).PlainPaths := by
    decide +kernel
  refine ⟨files, hfiles, emit_readsBack (by decide +kernel) (fun t ht => ?_) (by decide +kernel) hfiles⟩
  rcases ht with ht | ht
  · exact htargets t ht
  · exact hpass t (by rw [ht]; exact List.mem_singleton_self t)

end BuildTree.Ninja
