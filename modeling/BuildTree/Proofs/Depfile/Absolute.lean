import BuildTree.Proofs.Depfile.Reading
import BuildTree.Proofs.Effect
import BuildTree.Proofs.Path.Collapse

/-!
# Files with absolute prerequisites

Whatever a file is like that can be read, the names in its records are plain: reading cuts at tabs and line ends and
keeps no empty name. With an absolute directory before them they stay plain, so that what `makeAbsolute` writes is
read back, and absolute names are not changed a second time.
-/

namespace BuildTree.Depfile
open Effect

/-! ## Names that are read are plain -/

theorem isLineBreak_of_mem_logicalLinesFrom {number start : Nat} {pieces lines : List (List Char)}
    (hpieces : ∀ p ∈ pieces, ∀ c ∈ p, Text.isLineBreak c = false)
    (hlines : ∀ l ∈ lines, ∀ c ∈ l, Text.isLineBreak c = false) {entry : Nat × List Char}
    (h : entry ∈ logicalLinesFrom number start pieces lines) : ∀ c ∈ entry.2, Text.isLineBreak c = false := by
  have hjoined : ∀ {ps : List (List Char)}, (∀ p ∈ ps, ∀ c ∈ p, Text.isLineBreak c = false) →
      ∀ c ∈ [' '].intercalate ps, Text.isLineBreak c = false := by
    intro ps hps c hc
    rcases Text.mem_intercalate hc with hc | ⟨p, hp, hc⟩
    · rw [List.mem_singleton.mp hc]
      rfl
    · exact hps p hp c hc
  have hsnoc : ∀ {ps : List (List Char)} {l : List Char}, (∀ p ∈ ps, ∀ c ∈ p, Text.isLineBreak c = false) →
      (∀ c ∈ l, Text.isLineBreak c = false) → ∀ p ∈ ps ++ [l], ∀ c ∈ p, Text.isLineBreak c = false := by
    intro ps l hps hl p hp
    rcases List.mem_append.mp hp with hp | hp
    · exact hps p hp
    · rwa [List.mem_singleton.mp hp]
  induction lines generalizing number start pieces with
  | nil =>
    rw [logicalLinesFrom] at h
    split at h
    · cases h
    · rw [List.mem_singleton.mp h]
      exact hjoined hpieces
  | cons line rest ih =>
    obtain ⟨hline, hrest⟩ := List.forall_mem_cons.mp hlines
    rw [logicalLinesFrom] at h
    split at h
    · exact ih (hsnoc hpieces fun c hc => hline c (List.dropLast_subset _ hc)) hrest h
    · rcases List.mem_cons.mp h with rfl | h
      · exact hjoined (hsnoc hpieces hline)
      · exact ih (List.forall_mem_nil _) hrest h

theorem PlainChars.concat {cs : List Char} (h : PlainChars cs) {c : Char} (hc : c ≠ '\t')
    (hbreak : Text.isLineBreak c = false) : PlainChars (cs ++ [c]) := by
  intro d hd
  rcases List.mem_append.mp hd with hd | hd
  · exact h d hd
  · rw [List.mem_singleton.mp hd]
    exact ⟨hc, hbreak⟩

theorem mem_closeName {name token : List Char} {names : List (List Char)} (h : token ∈ closeName name names) :
    (token = name ∧ name ≠ []) ∨ token ∈ names := by
  unfold closeName at h
  split at h
  · exact .inr h
  next hne =>
    rcases List.mem_cons.mp h with rfl | h
    · exact .inl ⟨rfl, by simpa using hne⟩
    · exact .inr h

/-- No name on a line is empty, and none has a tab or a line break. -/
theorem plain_of_mem_namesFrom {name line token : List Char} (hname : PlainChars name)
    (hline : ∀ c ∈ line, Text.isLineBreak c = false) (h : token ∈ namesFrom name line) :
    token ≠ [] ∧ PlainChars token := by
  induction name, line using namesFrom.induct with
  | case1 name =>
    rcases mem_closeName h with ⟨rfl, hne⟩ | h
    · exact ⟨hne, hname⟩
    · cases h
  | case2 name rest ih =>
    rw [namesFrom] at h
    exact ih (hname.concat (by decide) rfl) (fun c hc => hline c (by simp [hc])) h
  | case3 name rest ih =>
    rw [namesFrom] at h
    exact ih (hname.concat (by decide) rfl) (fun c hc => hline c (by simp [hc])) h
  | case4 name rest ih =>
    rw [namesFrom] at h
    exact ih (hname.concat (by decide) rfl) (fun c hc => hline c (by simp [hc])) h
  | case5 name c rest hspace hhash hdollar hblank ih =>
    rw [namesFrom_cons hspace hhash hdollar, if_pos hblank] at h
    rcases mem_closeName h with ⟨rfl, hne⟩ | h
    · exact ⟨hne, hname⟩
    · exact ih (List.forall_mem_nil _) (List.forall_mem_cons.mp hline).2 h
  | case6 name c rest hspace hhash hdollar hblank ih =>
    rw [namesFrom_cons hspace hhash hdollar, if_neg hblank] at h
    obtain ⟨hc, hrest⟩ := List.forall_mem_cons.mp hline
    exact ih (hname.concat (fun he => hblank (.inr he)) hc) hrest h

theorem mem_cutTargets {found targets prerequisites : List (List Char)}
    (h : cutTargets found = some (targets, prerequisites)) :
    (∀ t ∈ targets, ∃ name ∈ found, t = name ∨ t = name.dropLast) ∧ ∀ p ∈ prerequisites, p ∈ found := by
  induction found generalizing targets with
  | nil => cases h
  | cons name rest ih =>
    rw [cutTargets] at h
    split at h
    · cases h
      refine ⟨fun t ht => ⟨name, List.mem_cons_self, .inr (List.mem_singleton.mp ht)⟩, fun p hp => ?_⟩
      exact List.mem_cons_of_mem name hp
    · obtain ⟨⟨others, ps⟩, hothers, he⟩ := Option.map_eq_some_iff.mp h
      cases he
      obtain ⟨htargets, hprerequisites⟩ := ih hothers
      refine ⟨fun t ht => ?_, fun p hp => List.mem_cons_of_mem name (hprerequisites p hp)⟩
      rcases List.mem_cons.mp ht with rfl | ht
      · exact ⟨t, List.mem_cons_self, .inl rfl⟩
      · obtain ⟨u, hu, hform⟩ := htargets t ht
        exact ⟨u, List.mem_cons_of_mem name hu, hform⟩

theorem plainName_ofList {cs : List Char} (hne : cs ≠ []) (h : PlainChars cs) : PlainName (String.ofList cs) := by
  refine ⟨fun he => hne ?_, ?_⟩
  · rw [← String.toList_ofList (l := cs), he]
    rfl
  · rwa [String.toList_ofList]

/-- A record of plain names. -/
def Record.PlainNames (r : Record) : Prop :=
  PlainName r.target ∧ ∀ p ∈ r.prerequisites, PlainName p

theorem plainNames_of_mem_lineRecords {number : Nat} {line : List Char} {records : List Record}
    (hline : ∀ c ∈ line, Text.isLineBreak c = false) (h : lineRecords number line = .ok records) :
    ∀ r ∈ records, r.PlainNames := by
  have hnames : ∀ name ∈ names line, name ≠ [] ∧ PlainChars name :=
    fun name hname => plain_of_mem_namesFrom (List.forall_mem_nil _) hline hname
  unfold lineRecords at h
  split at h
  · cases h
    exact List.forall_mem_nil _
  split at h
  · cases h
  next targets prerequisites hcut =>
    obtain ⟨htargets, hprerequisites⟩ := mem_cutTargets hcut
    split at h
    · cases h
    next kept hkept =>
      cases h
      intro r hr
      obtain ⟨target, htarget, rfl⟩ := List.mem_map.mp hr
      obtain ⟨htarget, hne⟩ := List.mem_filter.mp htarget
      obtain ⟨name, hname, hform⟩ := htargets target htarget
      refine ⟨plainName_ofList (by simpa using hne) ?_, fun p hp => ?_⟩
      · rcases hform with rfl | rfl
        · exact (hnames _ hname).2
        · exact fun c hc => (hnames name hname).2 c (List.dropLast_subset _ hc)
      · obtain ⟨cs, hcs, rfl⟩ := List.mem_map.mp hp
        obtain ⟨hne, hplain⟩ := hnames cs (hprerequisites cs hcs)
        exact plainName_ofList hne hplain

theorem plainNames_of_mem_linesRecords {lines : List (Nat × List Char)} {records : List Record}
    (hlines : ∀ l ∈ lines, ∀ c ∈ l.2, Text.isLineBreak c = false) (h : linesRecords lines = .ok records) :
    ∀ r ∈ records, r.PlainNames := by
  induction lines generalizing records with
  | nil =>
    cases h
    exact List.forall_mem_nil _
  | cons l rest ih =>
    obtain ⟨hl, hrest⟩ := List.forall_mem_cons.mp hlines
    obtain ⟨first, hfirst, h⟩ := (bind_eq_ok_iff _ _ _).mp h
    obtain ⟨others, hothers, h⟩ := (bind_eq_ok_iff _ _ _).mp h
    cases h
    intro r hr
    rcases List.mem_append.mp hr with hr | hr
    · exact plainNames_of_mem_lineRecords hl hfirst r hr
    · exact ih hrest hothers r hr

/-- There are records in every file that can be read, and the names in them are plain. -/
theorem plainNames_of_parse {text : String} {records : List Record} (h : parse text = .ok records) :
    records ≠ [] ∧ ∀ r ∈ records, r.PlainNames := by
  obtain ⟨found, hfound, h⟩ := (bind_eq_ok_iff _ _ _).mp h
  split at h
  · cases h
  next hsome =>
    cases h
    refine ⟨by simpa using hsome, plainNames_of_mem_linesRecords (fun l hl => ?_) hfound⟩
    exact isLineBreak_of_mem_logicalLinesFrom (List.forall_mem_nil _)
      (fun piece hpiece => Text.isLineBreak_of_mem_splitLines hpiece) hl

/-! ## Absolute names -/

theorem isAbsoluteText_absolutize {root : String} (h : Path.isAbsoluteText root = true) (name : String) :
    Path.isAbsoluteText (absolutize name root) = true := by
  unfold absolutize
  dsimp only
  split
  · assumption
  · exact Path.isAbsoluteText_normalize (Path.isAbsoluteText_joinText h _)

theorem absolutize_of_isAbsoluteText {name : String} (h : Path.isAbsoluteText name = true)
    (hlast : name.toList.getLast? ≠ some ':') (root : String) : absolutize name root = name := by
  have hdrop : dropStrayColon name = name := by
    unfold dropStrayColon
    exact if_neg fun hc => hlast hc.1
  unfold absolutize
  dsimp only
  rw [hdrop, if_pos h]

theorem mem_dropStrayColon {name : String} {c : Char} (h : c ∈ (dropStrayColon name).toList) : c ∈ name.toList := by
  unfold dropStrayColon at h
  dsimp only at h
  split at h
  · rw [String.toList_ofList] at h
    exact List.dropLast_subset _ h
  · exact h

theorem plainName_absolutize {root name : String} (habsolute : Path.isAbsoluteText root = true)
    (hroot : PlainChars root.toList) (h : PlainName name) : PlainName (absolutize name root) := by
  have hdrop : PlainChars (dropStrayColon name).toList := fun c hc => h.2 c (mem_dropStrayColon hc)
  refine ⟨fun he => ?_, fun c hc => ?_⟩
  · have h := isAbsoluteText_absolutize habsolute name
    rw [he] at h
    cases h
  · unfold absolutize at hc
    dsimp only at hc
    split at hc
    · exact hdrop c hc
    · rcases Path.mem_normalize hc with hc | rfl | rfl
      · rcases Path.mem_joinText hc with hc | hc | rfl
        · exact hroot c hc
        · exact hdrop c hc
        · decide
      · decide
      · decide

theorem makeAbsolute_eq_ok {text : String} {records : List Record} (h : parse text = .ok records) (root : String) :
    makeAbsolute text root = .ok (render (records.map (Record.absolutize root))) := by
  rw [makeAbsolute, h]
  rfl

/-- The line of a record is not written. -/
theorem render_numbered (number : Nat) (records : List Record) : render (numbered number records) = render records := by
  have hlines : (numbered number records).map (fun r => r.format ++ "\n") = records.map fun r => r.format ++ "\n" := by
    induction records generalizing number with
    | nil => rfl
    | cons r rs ih =>
      rw [numbered, List.map_cons, List.map_cons, ih]
      rfl
  rw [render, render, hlines]

theorem map_absolutize_numbered (root : String) (number : Nat) (records : List Record) :
    (numbered number records).map (Record.absolutize root) =
      numbered number (records.map (Record.absolutize root)) := by
  induction records generalizing number with
  | nil => rfl
  | cons r rs ih =>
    rw [numbered, List.map_cons, List.map_cons, numbered, ih]
    rfl

/-- Records with absolute prerequisites are not changed, whatever the directory. -/
theorem absolutize_absolutize {root : String} (habsolute : Path.isAbsoluteText root = true) {r : Record}
    (hcolon : ∀ p ∈ r.prerequisites, (absolutize p root).toList.getLast? ≠ some ':') (other : String) :
    (r.absolutize root).absolutize other = r.absolutize root := by
  have hkept : (r.prerequisites.map (absolutize · root)).map (absolutize · other) =
      r.prerequisites.map (absolutize · root) := by
    rw [List.map_map]
    refine List.map_congr_left fun p hp => ?_
    rw [Function.comp_apply]
    exact absolutize_of_isAbsoluteText (isAbsoluteText_absolutize habsolute p) (hcolon p hp) other
  unfold Record.absolutize
  rw [hkept]

/-- What is written with absolute prerequisites is read as the same records with these prerequisites, one line each;
it stays as it is from then on unless one of them ends in a colon. What cannot be read is refused as reading it is. -/
theorem makeAbsolute_reads (text root : String) :
    (∀ records, parse text = .ok records → Path.isAbsoluteText root = true → PlainChars root.toList →
      (∀ r ∈ records, ∀ p ∈ r.prerequisites, (absolutize p root).toList.getLast? ≠ some '\\') →
      ∃ out, makeAbsolute text root = .ok out ∧
        parse out = .ok (numbered 1 (records.map (Record.absolutize root))) ∧
        (∀ r ∈ records, ∀ p ∈ r.prerequisites, Path.isAbsoluteText (absolutize p root) = true) ∧
        ((∀ r ∈ records, ∀ p ∈ r.prerequisites, (absolutize p root).toList.getLast? ≠ some ':') →
          ∀ other, makeAbsolute out other = .ok out)) ∧
    ∀ fault, parse text = .error fault → makeAbsolute text root = .error fault := by
  constructor
  · intro records hparse habsolute hroot hlast
    obtain ⟨hsome, hnames⟩ := plainNames_of_parse hparse
    have hplain : ∀ r ∈ records.map (Record.absolutize root), r.Plain := by
      intro _ hmem
      obtain ⟨r, hr, rfl⟩ := List.mem_map.mp hmem
      refine ⟨(hnames r hr).1, fun _ hmem => ?_⟩
      obtain ⟨p, hp, rfl⟩ := List.mem_map.mp hmem
      exact ⟨plainName_absolutize habsolute hroot ((hnames r hr).2 p hp), hlast r hr p hp⟩
    have hread := parse_render (by simpa using hsome) hplain
    refine ⟨_, makeAbsolute_eq_ok hparse root, hread, fun r _ p _ => isAbsoluteText_absolutize habsolute p, ?_⟩
    intro hcolon other
    have hkept : (records.map (Record.absolutize root)).map (Record.absolutize other) =
        records.map (Record.absolutize root) := by
      rw [List.map_map]
      exact List.map_congr_left fun r hr => absolutize_absolutize habsolute (hcolon r hr) other
    rw [makeAbsolute_eq_ok hread, map_absolutize_numbered, hkept, render_numbered]
  · intro fault h
    rw [makeAbsolute, h]
    rfl

/-- Two targets, and prerequisites of every kind: with a stray colon, out of the directory, escaped, absolute. -/
def relative : String :=
  "\nmain.o side.o: src/a\\ b.c: \\\n ../inc//c.h $$x /usr/d.h\n"

theorem makeAbsolute_reads_relative :
    (∃ out, makeAbsolute relative "/work/repo" = .ok out ∧
      parse out = .ok
        [⟨"main.o", ["/work/repo/src/a b.c", "/work/inc/c.h", "/work/repo/$x", "/usr/d.h"], 1⟩,
          ⟨"side.o", ["/work/repo/src/a b.c", "/work/inc/c.h", "/work/repo/$x", "/usr/d.h"], 2⟩] ∧
      ∀ other, makeAbsolute out other = .ok out) ∧
    makeAbsolute "a.o: b.c\nmain.o main.c\n" "/work/repo" = .error (.noSeparator 2) := by
  constructor
  · obtain ⟨out, hout, hread, _, hagain⟩ := (makeAbsolute_reads relative "/work/repo").1
      [⟨"main.o", ["src/a b.c:", "../inc//c.h", "$x", "/usr/d.h"], 2⟩,
        ⟨"side.o", ["src/a b.c:", "../inc//c.h", "$x", "/usr/d.h"], 2⟩]
      (by decide +kernel) (by decide +kernel) (by decide +kernel) (by decide +kernel)
    refine ⟨out, hout, hread.trans ?_, hagain (by decide +kernel)⟩
    decide +kernel
  · exact (makeAbsolute_reads _ _).2 _ (by decide +kernel)

end BuildTree.Depfile
