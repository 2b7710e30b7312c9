import BuildTree.Proofs.Ninja.Openers
import BuildTree.Proofs.Ninja.Producers
import BuildTree.Proofs.Text.LineBreaks

/-!
# Texts that keep to their lines

The values below statements are refused if they have a line break. The paths on the line of a statement, the names of
pools and partitions and the interpreter are not looked at. If none of them has a line break, every line of every file
is one that the build means to write, and nothing that was given to it opens one; otherwise some line is cut in two.
-/

namespace BuildTree.Ninja
open Text Effect BuildTree.Graph

variable {g : Graph} {interpreter : String}

/-- No text that goes into a file unseen has a line break. -/
structure OneLine (g : Graph) (interpreter : String) : Prop where
  interpreter : '\n' ∉ interpreter.toList
  pools : ∀ pool ∈ g.pools, '\n' ∉ (g.text pool.1).toList
  partitions : ∀ name ∈ g.partitionNames, '\n' ∉ name.toList
  paths : ∀ t ∈ g.targets, ∀ p ∈ (declared g (g.node t)).paths, '\n' ∉ p.toList
  pass : ∀ r, g.pass = some r → ∀ p ∈ (g.node r).outputs ++ g.resolve (g.node r).inputs, '\n' ∉ p.toList

/-- No path on the line of a statement has a line break, but for the files of partitions. -/
structure PathsOneLine (g : Graph) : Prop where
  targets : ∀ t ∈ g.targets, ∀ p ∈ (declared g (g.node t)).paths, '\n' ∉ p.toList
  pass : ∀ r, g.pass = some r → ∀ p ∈ (g.node r).outputs ++ g.resolve (g.node r).inputs, '\n' ∉ p.toList

theorem OneLine.pathsOneLine (h : OneLine g interpreter) : PathsOneLine g := ⟨h.paths, h.pass⟩

/-- The lines of a file are those of its items. -/
def Kept (items : List Item) : Prop :=
  fields '\n' (render items).toList = items.flatMap Item.lines ++ [[]]

/-- The files of a graph, in order, and what their lines begin with: each registered target has one statement in one of
them, and the build itself has three. -/
structure OpenersOf (g : Graph) (files : Table String) : Prop where
  names : files.keys = rulesFile :: g.partitionNames.map (· ++ ".ninja") ++ [buildFile]
  rules : (files.get? rulesFile).map openers = some (["#", "#", "python", "copy", "rewrite_depfile"]
    ++ List.replicate g.pools.length "pool" ++ List.replicate rules.length "rule")
  partition : ∀ name ∈ g.partitionNames, (files.get? (name ++ ".ninja")).map openers =
    some (["#", "#"] ++ List.replicate (targetsOf g (some name)).length "build")
  root : (files.get? buildFile).map openers = some (["#", "#", "ninja_required_version", "builddir"]
    ++ List.replicate (1 + g.partitionNames.length) "include"
    ++ List.replicate ((targetsOf g none).length + g.pass.toList.length + 2) "build" ++ ["default"])
  targets : (g.partitionNames.flatMap (fun name => targetsOf g (some name)) ++ targetsOf g none).Perm
    (g.targets.map g.node)

section Lines

theorem kept_iff (items : List Item) : Kept items ↔ ∀ i ∈ items, ∀ l ∈ i.lines, '\n' ∉ l := by
  constructor
  · intro h i hi l hl
    have hmem : l ∈ fields '\n' (render items).toList := by
      rw [h]
      exact List.mem_append_left _ (List.mem_flatMap.mpr ⟨i, hi, hl⟩)
    exact notMem_fields l hmem
  · intro h
    rw [Kept, toList_render]
    refine fields_ended fun l hl => ?_
    obtain ⟨i, hi, hl⟩ := List.mem_flatMap.mp hl
    exact h i hi l hl

theorem kept_of_clear {items : List Item} (h : ∀ i ∈ items, i.Clear) : Kept items :=
  (kept_iff items).mpr fun i hi => (h i hi).lines

theorem newline_mem_pathChars {cs : List Char} (h : '\n' ∈ cs) : '\n' ∈ cs.flatMap pathChar :=
  List.mem_flatMap.mpr ⟨'\n', h, by decide⟩

theorem newline_mem_valueChars {cs : List Char} (h : '\n' ∈ cs) : '\n' ∈ cs.flatMap valueChar :=
  List.mem_flatMap.mpr ⟨'\n', h, by decide⟩

theorem newline_mem_spaced {ts : List Token} {w : String} (hw : .word w ∈ ts) (h : '\n' ∈ w.toList) :
    '\n' ∈ spaced ts :=
  List.mem_flatMap.mpr ⟨.word w, hw, List.mem_cons_of_mem _ (newline_mem_pathChars h)⟩

theorem word_mem_sectionTokens (mark : Token) {paths : List String} {p : String} (h : p ∈ paths) :
    .word p ∈ sectionTokens mark paths := by
  have hne : paths.isEmpty = false := List.isEmpty_eq_false_iff.mpr (List.ne_nil_of_mem h)
  rw [sectionTokens, hne]
  exact List.mem_cons_of_mem _ (List.mem_map_of_mem h)

/-- A line break in a path is one in the line of its statement. -/
theorem newline_mem_line {s : Statement} (houtputs : s.outputs ≠ []) (hrule : PlainRule s.rule) {p : String}
    (hp : p ∈ s.paths) (h : '\n' ∈ p.toList) : '\n' ∈ s.line.toList := by
  rw [Statement.toList_line houtputs hrule]
  have hfront : .word p ∈ s.front → '\n' ∈ buildWord ++ (spaced s.front ++ ':' :: spaced s.back) := fun hw => by
    simp [newline_mem_spaced hw h]
  have hback : .word p ∈ s.back → '\n' ∈ buildWord ++ (spaced s.front ++ ':' :: spaced s.back) := fun hw => by
    simp [newline_mem_spaced hw h]
  simp only [Statement.paths, List.mem_append] at hp
  rcases hp with (((hp | hp) | hp) | hp) | hp
  · exact hfront (by simp [Statement.front, hp])
  · exact hfront (by simp [Statement.front, word_mem_sectionTokens _ hp])
  · exact hback (by simp [Statement.back, hp])
  · exact hback (by simp [Statement.back, word_mem_sectionTokens _ hp])
  · exact hback (by simp [Statement.back, word_mem_sectionTokens _ hp])

/-- A statement on a line that is kept has no line break in its paths. -/
theorem oneLine_of_kept {items : List Item} (h : Kept items) {s : Statement} (hs : Item.build s ∈ items)
    (houtputs : s.outputs ≠ []) (hrule : PlainRule s.rule) : ∀ p ∈ s.paths, '\n' ∉ p.toList := fun _ hp hbreak =>
  (kept_iff items).mp h _ hs s.line.toList List.mem_cons_self (newline_mem_line houtputs hrule hp hbreak)

end Lines

section Clear

theorem newline_notMem_depth (depth : PoolDepth) : '\n' ∉ (depth.text?.getD "").toList := by
  cases depth with
  | whole n =>
    simp only [PoolDepth.text?, writeInteger?]
    split
    · exact newline_notMem_int n
    · decide
  | fraction x => exact newline_notMem_floatText x
  | yes => decide

theorem clear_rulesLayout (h : OneLine g interpreter) : ∀ i ∈ rulesLayout g interpreter, i.Clear := by
  have htitle : ∀ i ∈ header "Rules shared by every build file.", i.Clear := clear_header (by decide)
  have hpython : '\n' ∉ (escapeValue (shellWord interpreter)).toList := by
    rw [escapeValue, String.toList_ofList]
    exact newline_notMem_valueChars (mt (newline_mem_shellWord_iff interpreter).mp h.interpreter)
  have hassigns : ∀ i ∈ [Item.assign ⟨"python", escapeValue (shellWord interpreter)⟩,
      .assign ⟨"copy", "$python -m kiln.util.commands copy"⟩,
      .assign ⟨"rewrite_depfile", "$python -m kiln.util.commands rewrite-depfile"⟩, .blank], i.Clear := by
    have hkey : PlainKey "python" ∧ "python" ≠ "build" := by decide
    simp only [List.forall_mem_cons]
    exact ⟨⟨hkey.1, hkey.2, hpython⟩, ⟨by decide, by decide, by decide⟩, ⟨by decide, by decide, by decide⟩,
      trivial, List.forall_mem_nil _⟩
  have hplain : ∀ r ∈ rules, '\n' ∉ r.1.toList ∧ ∀ b ∈ r.2, PlainKey b.key ∧ '\n' ∉ b.value.toList := by
    decide +kernel
  simp only [rulesLayout, rulesFileItems, List.forall_mem_append]
  refine ⟨⟨⟨htitle, hassigns⟩, fun i hi => ?_⟩, fun i hi => ?_⟩
  · obtain ⟨text, htext, hi⟩ := List.mem_flatMap.mp hi
    obtain ⟨⟨name, depth⟩, hpool, rfl⟩ := List.mem_map.mp htext
    rcases List.mem_cons.mp hi with rfl | hi
    · exact ⟨h.pools _ hpool, newline_notMem_depth depth⟩
    · rw [List.mem_singleton.mp hi]
      trivial
  · obtain ⟨⟨name, bindings⟩, hrule, hi⟩ := List.mem_flatMap.mp hi
    rcases List.mem_cons.mp hi with rfl | hi
    · exact hplain _ hrule
    · rw [List.mem_singleton.mp hi]
      trivial

theorem lined_targets (h : PathsOneLine g) {name : Option String} (hstated : Stated g (targetsOf g name)) :
    ∀ s ∈ (targetsOf g name).map (declared g), s.Lined := by
  intro s hs
  obtain ⟨t, ht, rfl⟩ := List.mem_map.mp hs
  obtain ⟨u, hu, rfl⟩ := List.mem_map.mp (List.mem_filter.mp ht).1
  exact lined_declared (h.targets u hu) (hstated _ ht).1 (hstated _ ht).2

theorem clear_partitionLayout (h : OneLine g interpreter) {name : String}
    (hstated : Stated g (targetsOf g (some name))) : ∀ i ∈ partitionLayout g name, i.Clear := by
  have htitle : '\n' ∉ ("Partition " ++ quoted name ++ ".").toList := by simp [newline_notMem_quoted]
  exact List.forall_mem_append.mpr ⟨clear_header htitle, clear_buildItems (lined_targets h.pathsOneLine hstated)⟩

theorem lined_pass (named : ∀ t ∈ g.targets, (g.node t).Named) (h : PathsOneLine g)
    (hpartitions : ∀ name ∈ g.partitionNames, '\n' ∉ name.toList) {pass : List Statement}
    (hpass : passStatements g g.partitions = .ok pass) : ∀ s ∈ pass, s.Lined := by
  cases hr : g.pass with
  | none =>
    rw [passStatements, hr] at hpass
    cases hpass
    exact List.forall_mem_nil _
  | some r =>
    obtain ⟨command, words, _, _, rfl, hvalues⟩ := passStatements_eq_ok hr hpass
    have hpaths := h.pass r hr
    refine List.forall_mem_singleton.mpr (lined_passStatement named ⟨fun o ho => ?_, fun p hp => ?_, ?_⟩ hvalues)
    · exact hpaths o (List.mem_append_left _ ho)
    · exact hpaths p (List.mem_append_right _ hp)
    · intro name hname
      simp [hpartitions name hname]

/-- The statements of the root file each stand on one line. -/
theorem lined_root (named : ∀ t ∈ g.targets, (g.node t).Named) (h : PathsOneLine g)
    (hpartitions : ∀ name ∈ g.partitionNames, '\n' ∉ name.toList) {pass : List Statement}
    (hstated : Stated g (targetsOf g none)) (hpass : passStatements g g.partitions = .ok pass)
    (hhelp : ownStatement (helpStatement g) = .ok (helpStatement g)) :
    ∀ s ∈ (targetsOf g none).map (declared g) ++ pass ++ [cleanStatement, helpStatement g], s.Lined := by
  simp only [List.forall_mem_append, List.forall_mem_cons]
  exact ⟨⟨lined_targets h hstated, lined_pass named h hpartitions hpass⟩, read_clean.2, (read_help hhelp).2,
    List.forall_mem_nil _⟩

theorem clear_rootLayout (named : ∀ t ∈ g.targets, (g.node t).Named) (h : OneLine g interpreter)
    {pass : List Statement} (hstated : Stated g (targetsOf g none)) (hpass : passStatements g g.partitions = .ok pass)
    (hhelp : ownStatement (helpStatement g) = .ok (helpStatement g)) : ∀ i ∈ rootLayout g pass, i.Clear :=
  List.forall_mem_append.mpr ⟨List.forall_mem_append.mpr ⟨clear_opening named h.partitions,
    clear_buildItems (lined_root named h.pathsOneLine h.partitions hstated hpass hhelp)⟩,
    List.forall_mem_singleton.mpr clear_goal⟩

end Clear

section Files

theorem length_pass {pass : List Statement} (h : passStatements g g.partitions = .ok pass) :
    pass.length = g.pass.toList.length := by
  cases hr : g.pass with
  | none =>
    rw [passStatements, hr] at h
    cases h
    rfl
  | some r =>
    obtain ⟨command, words, _, _, rfl, _⟩ := passStatements_eq_ok hr h
    rfl

/-- What no line of any file is cut in two by has no line break. -/
theorem oneLine_of_files (named : ∀ t ∈ g.targets, (g.node t).Named) {files : Table (List Item)}
    (h : emitItems g interpreter = .ok files) (hkept : ∀ entry ∈ files, Kept entry.2) : OneLine g interpreter := by
  have laid := laid_of_emitItems named h
  have hrules := (kept_iff _).mp (hkept _ (Table.mem_of_get? laid.rules))
  obtain ⟨pass, _, hpass, _, hrootFile⟩ := laid.root
  have hroot := hkept _ (Table.mem_of_get? hrootFile)
  -- each text is on a line of some item of some file
  refine ⟨fun hbreak => ?_, fun pool hpool hbreak => ?_, fun name hname hbreak => ?_, fun t ht => ?_, fun r hr => ?_⟩
  · have hitem : Item.assign ⟨"python", escapeValue (shellWord interpreter)⟩ ∈ rulesLayout g interpreter := by
      simp [rulesLayout, rulesFileItems]
    refine hrules _ hitem _ (List.mem_singleton_self _) (List.mem_append_right _ ?_)
    have hvalue := newline_mem_valueChars ((newline_mem_shellWord_iff interpreter).mpr hbreak)
    simpa [escapeValue] using hvalue
  · have hitem : Item.pool (poolText g pool).1 (poolText g pool).2 ∈ rulesLayout g interpreter := by
      refine List.mem_append_left _ (List.mem_append_right _ (List.mem_flatMap.mpr
        ⟨poolText g pool, List.mem_map_of_mem hpool, ?_⟩))
      exact List.mem_cons_self
    exact hrules _ hitem _ List.mem_cons_self (List.mem_append_right _ hbreak)
  · have hitem : Item.include (escapePath name ++ ".ninja") ∈ rootLayout g pass := by
      refine List.mem_append_left _ (List.mem_append_left _ ?_)
      have hmem : Value.text name ∈ g.partitions := by
        rw [partitions_eq named]
        exact List.mem_map_of_mem hname
      exact List.mem_append_left _ (List.mem_append_right _ (List.mem_map.mpr ⟨_, hmem, rfl⟩))
    refine (kept_iff _).mp hroot _ hitem _ (List.mem_singleton_self _) ?_
    simp [escapePath, newline_mem_pathChars hbreak]
  · obtain ⟨hknown, items, hfile, hitem⟩ := laid.statement ht
    exact oneLine_of_kept (hkept _ (Table.mem_of_get? hfile)) hitem (List.cons_ne_nil _ _) (plain_of_known hknown).1
  · obtain ⟨command, words, _, _, rfl, _⟩ := passStatements_eq_ok hr hpass
    have hitem : Item.build (passStatement g (g.node r) words g.partitions) ∈
        rootLayout g [passStatement g (g.node r) words g.partitions] := by
      simp [rootLayout, buildItems]
    have hpaths := oneLine_of_kept hroot hitem (passStatement_outputs_ne_nil _ _ _ _) plainRule_reconfigure.1
    intro p hp
    refine hpaths p ?_
    rcases List.mem_append.mp hp with hp | hp
    · have hout : p ∈ (passStatement g (g.node r) words g.partitions).outputs :=
        (mem_passOutputs g.partitions (g.node r).outputs).2 hp
      simp [Statement.paths, hout]
    · simp [Statement.paths, passStatement, hp]

/-- The files of a graph are laid out in lines as they are in items, if nothing in them has a line break. -/
theorem clear_files (named : ∀ t ∈ g.targets, (g.node t).Named) (hone : OneLine g interpreter)
    {files : Table (List Item)} (h : emitItems g interpreter = .ok files) :
    ∀ entry ∈ files, ∀ i ∈ entry.2, i.Clear := by
  intro entry hentry
  rcases mem_emitItems h hentry with hrules | ⟨p, hp, hitems⟩ | hroot
  · rw [hrules]
    exact clear_rulesLayout hone
  · rw [partitions_eq named] at hp
    obtain ⟨name, _, rfl⟩ := List.mem_map.mp hp
    obtain ⟨ss, hss, hitems⟩ := (bind_eq_ok_iff _ _ _).mp hitems
    rw [partitionTargets_text named] at hss
    obtain ⟨rfl, hstated⟩ := targetStatements_eq_ok hss
    rw [← Except.ok.inj hitems]
    exact clear_partitionLayout hone hstated
  · obtain ⟨ss, pass, hss, hpass, hhelp, hitems⟩ := rootItems_eq_ok hroot
    rw [partitionTargets_null named] at hss
    obtain ⟨rfl, hstated⟩ := targetStatements_eq_ok hss
    rw [hitems]
    exact clear_rootLayout named hone hstated hpass hhelp

theorem openersOf_files (named : ∀ t ∈ g.targets, (g.node t).Named) (hone : OneLine g interpreter)
    {files : Table (List Item)} (h : emitItems g interpreter = .ok files) :
    OpenersOf g (files.map fun entry => (entry.1, render entry.2)) := by
  have laid := laid_of_emitItems named h
  have hclear := clear_files named hone h
  have hopeners : ∀ name items, files.get? name = some items →
      (Table.get? (files.map fun entry => (entry.1, render entry.2)) name).map openers =
        some (items.flatMap Item.openers) := by
    intro name items hfile
    rw [Table.get?_map, hfile, Option.map_some, Option.map_some, openers_render (hclear _ (Table.mem_of_get? hfile))]
  obtain ⟨pass, _, hpass, _, hroot⟩ := laid.root
  refine ⟨?_, ?_, fun name hname => ?_, ?_, perm_targetsOf g⟩
  · rw [Table.keys_map, laid.names]
  · rw [hopeners _ _ laid.rules, openers_rulesLayout]
  · rw [hopeners _ _ (laid.partition name hname).2, openers_partitionLayout]
  · rw [hopeners _ _ hroot, openers_rootLayout, length_pass hpass, partitions_eq named, List.length_map]

/-- Whatever is written is laid out in one item for each thing in the graph, and cut into the lines of these items just
if none of its texts has a line break. Then nothing that was given to the build opens a line. -/
theorem kept_iff_oneLine (named : ∀ t ∈ g.targets, (g.node t).Named) {texts : Table String}
    (h : emit g interpreter = .ok texts) :
    ∃ files, emitItems g interpreter = .ok files ∧ texts = files.map (fun (name, items) => (name, render items)) ∧
      Laid g interpreter files ∧ ((∀ entry ∈ files, Kept entry.2) ↔ OneLine g interpreter) ∧
      (OneLine g interpreter → OpenersOf g texts) := by
  obtain ⟨files, hfiles, rfl⟩ := items_of_emit h
  refine ⟨files, hfiles, rfl, laid_of_emitItems named hfiles,
    ⟨oneLine_of_files named hfiles, fun hone entry hentry => ?_⟩, fun hone => ?_⟩
  · exact kept_of_clear (clear_files named hone hfiles entry hentry)
  · exact openersOf_files named hone hfiles

end Files

/-- A graph with a pool, a partition and a pass, and with texts that come close to opening a line. -/
def tools : Graph :=
  (start (some "/b")).run [
    .make (Target.pass "build.ninja" [] [.text "kiln"]), .install ⟨1⟩, .declarePool (.text "rule deep") (.whole 2) none,
    .make { Target.emptyGroup "/b/a\rbuild b: phony" none with
      action := .copy
      inputs := [.path " | include $x"]
      partition := .text "my tools" }, .register ⟨2⟩,
    .make { Target.emptyGroup "default all" none with action := .copy, inputs := [.target ⟨2⟩] }, .register ⟨3⟩]

theorem oneLine_tools : OneLine tools "/usr/bin/my python" := by
  have hpass : ∀ r ∈ tools.pass.toList,
      ∀ p ∈ (tools.node r).outputs ++ tools.resolve (tools.node r).inputs, '\n' ∉ p.toList := by
    decide +kernel
  refine ⟨by decide, by decide +kernel, by decide +kernel, by decide +kernel, fun r hr => hpass r ?_⟩
  rw [hr]
  exact List.mem_singleton_self r

theorem kept_iff_oneLine_tools :
    ∃ texts, emit tools "/usr/bin/my python" = .ok texts ∧ OpenersOf tools texts ∧
      (texts.get? "build.ninja").map openers = some ["#", "#", "ninja_required_version", "builddir", "include", "include",
        "build", "build", "build", "build", "build", "default"] := by
  have hok : ∃ texts ∈ (emit tools "/usr/bin/my python").toOption, True := by decide +kernel
  obtain ⟨texts, htexts, _⟩ := hok
  have hemit := eq_ok_of_toOption htexts
  obtain ⟨_, _, _, _, _, hopeners⟩ := kept_iff_oneLine (g := tools) (by decide +kernel) hemit
  have hof := hopeners oneLine_tools
  have hcount : tools.partitionNames.length = 1 ∧ (targetsOf tools none).length = 2 ∧ tools.pass.toList.length = 1 := by
    decide +kernel
  refine ⟨texts, hemit, hof, hof.root.trans ?_⟩
  rw [hcount.1, hcount.2.1, hcount.2.2]
  rfl

/-- A graph with one target, whose name goes on in a second line. -/
def twoStatements : Graph :=
  (start none).run [
    .make { Target.emptyGroup "/b/out: phony\nbuild /b/evil" none with action := .copy }, .register ⟨1⟩]

/-- So it is not so that what a build is given never opens a line. -/
theorem not_openersOf :
    ¬ ∀ (g : Graph) (interpreter : String) (texts : Table String), (∀ t ∈ g.targets, (g.node t).Named) →
      emit g interpreter = .ok texts → OpenersOf g texts := by
  intro h
  have hcut : ∃ files ∈ (emitItems twoStatements "/usr/bin/python3").toOption,
      ∃ items ∈ files.get? buildFile, (openers (render items)).length ≠ 10 := by
    simp only [openers_render_eq]
    decide +kernel
  obtain ⟨files, hfiles, items, hitems, hlength⟩ := hcut
  have hof := h _ _ _ (by decide +kernel) (emit_eq_ok (eq_ok_of_toOption hfiles))
  have hroot := hof.root
  rw [Table.get?_map, Option.mem_def.mp hitems] at hroot
  refine hlength ?_
  rw [Option.some.inj hroot]
  decide +kernel

end BuildTree.Ninja
