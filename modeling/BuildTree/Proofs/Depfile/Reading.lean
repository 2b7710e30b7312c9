import BuildTree.Depfile.Absolute
import BuildTree.Proofs.Depfile.Layout
import BuildTree.Proofs.Text.Fields

/-!
# Written rules are read back

Whatever separates the names of its rules, a file of plain rules is read as the records of the rules: one for each
target, with all prerequisites of its rule and the line that the rule starts on.
-/

namespace BuildTree.Depfile

/-! ## The names on a logical line -/

/-- What can stand behind a name, so that a backslash at its end stays one. -/
def Apart (name rest : List Char) : Prop :=
  name.getLast? = some '\\' → rest.head? ≠ some ' ' ∧ rest.head? ≠ some '#'

/-- A character that begins no escape goes into the name, or ends it. -/
theorem namesFrom_cons {c : Char} {rest : List Char} (hspace : ∀ more, c = '\\' → rest = ' ' :: more → False)
    (hhash : ∀ more, c = '\\' → rest = '#' :: more → False) (hdollar : ∀ more, c = '$' → rest = '$' :: more → False)
    (name : List Char) : namesFrom name (c :: rest) =
      if c = ' ' ∨ c = '\t' then closeName name (namesFrom [] rest) else namesFrom (name ++ [c]) rest := by
  rw [namesFrom.eq_def]
  split
  next he => cases he
  next he =>
    cases he
    exact (hspace _ rfl rfl).elim
  next he =>
    cases he
    exact (hhash _ rfl rfl).elim
  next he =>
    cases he
    exact (hdollar _ rfl rfl).elim
  next he =>
    cases he
    rfl

theorem namesFrom_nameChar {c : Char} (hc : c ≠ '\t') {rest : List Char} (apart : Apart [c] rest)
    (name : List Char) : namesFrom name (nameChar c ++ rest) = namesFrom (name ++ [c]) rest := by
  unfold nameChar
  by_cases hmark : c = ' ' ∨ c = '#'
  · rw [if_pos hmark]
    rcases hmark with rfl | rfl <;> rfl
  rw [if_neg hmark]
  by_cases hdollar : c = '$'
  · rw [if_pos hdollar, hdollar]
    rfl
  rw [if_neg hdollar]
  rw [not_or] at hmark
  have hspace : ∀ more, c = '\\' → rest = ' ' :: more → False := by
    rintro more rfl rfl
    exact (apart rfl).1 rfl
  have hhash : ∀ more, c = '\\' → rest = '#' :: more → False := by
    rintro more rfl rfl
    exact (apart rfl).2 rfl
  rw [List.singleton_append, namesFrom_cons hspace hhash fun _ he _ => hdollar he, if_neg (by simp [hmark.1, hc])]

theorem head?_nameChar (c : Char) (rest : List Char) :
    (nameChar c ++ rest).head? ≠ some ' ' ∧ (nameChar c ++ rest).head? ≠ some '#' := by
  unfold nameChar
  split
  · exact ⟨by simp, by simp⟩
  split
  · exact ⟨by simp, by simp⟩
  next hmark _ => simpa [not_or] using hmark

/-- A written name is read as one name, up to where the next one starts. -/
theorem namesFrom_escape {cs rest : List Char} (h : '\t' ∉ cs) (apart : Apart cs rest) (name : List Char) :
    namesFrom name (cs.flatMap nameChar ++ rest) = namesFrom (name ++ cs) rest := by
  induction cs generalizing name with
  | nil => rw [List.flatMap_nil, List.nil_append, List.append_nil]
  | cons c cs ih =>
    have hc : c ≠ '\t' := fun he => h (he ▸ List.mem_cons_self)
    have hfirst : Apart [c] (cs.flatMap nameChar ++ rest) := by
      cases cs with
      | nil => exact apart
      | cons d ds =>
        intro _
        rw [List.flatMap_cons, List.append_assoc]
        exact head?_nameChar d _
    have hothers : Apart cs rest := by
      cases cs with
      | nil => exact fun he => nomatch he
      | cons d ds => exact fun he => apart (by rwa [List.getLast?_cons_cons])
    rw [List.flatMap_cons, List.append_assoc, namesFrom_nameChar hc hfirst,
      ih (fun hmem => h (List.mem_cons_of_mem c hmem)) hothers, List.append_assoc, List.singleton_append]

theorem namesFrom_blank {c : Char} (h : c = ' ' ∨ c = '\t') (name rest : List Char) :
    namesFrom name (c :: rest) = closeName name (namesFrom [] rest) := by
  rcases h with rfl | rfl
  · rw [namesFrom_cons (by simp) (by simp) (by simp), if_pos (.inl rfl)]
  · rw [namesFrom_cons (by simp) (by simp) (by simp), if_pos (.inr rfl)]

theorem Blank.char_cases (b : Blank) : b.char = ' ' ∨ b.char = '\t' := by
  cases b
  · exact .inl rfl
  · exact .inr rfl

theorem Gap.joined_cases (g : Gap) : g.joined = ' ' ∨ g.joined = '\t' := by
  cases g with
  | blank b => exact b.char_cases
  | continuation => exact .inl rfl

theorem namesFrom_gaps (gaps : List Gap) (rest : List Char) :
    namesFrom [] (gaps.map Gap.joined ++ rest) = namesFrom [] rest := by
  induction gaps with
  | nil => rfl
  | cons g gs ih =>
    rw [List.map_cons, List.cons_append, namesFrom_blank g.joined_cases, ih]
    rfl

theorem namesFrom_separator (s : Separator) (name rest : List Char) :
    namesFrom name (s.joined ++ rest) = closeName name (namesFrom [] rest) := by
  obtain ⟨g, gs, hgaps⟩ := List.exists_cons_of_ne_nil s.notEmpty
  rw [Separator.joined, hgaps, List.map_cons, List.cons_append, namesFrom_blank g.joined_cases, namesFrom_gaps]

theorem PlainName.toList_ne_nil {name : String} (h : PlainName name) : name.toList ≠ [] := by
  intro he
  exact h.1 (String.toList_inj.mp he)

theorem PlainName.closeName {name : String} (h : PlainName name) (names : List (List Char)) :
    closeName name.toList names = name.toList :: names := by
  rw [Depfile.closeName, if_neg (by simpa using h.1)]

theorem PlainName.notMem_tab {name : String} (h : PlainName name) : '\t' ∉ name.toList :=
  fun hmem => (h.2 _ hmem).1 rfl

theorem SpacedName.namesFrom {name : String} (h : SpacedName name) (rest : List Char) :
    namesFrom [] ((escapeName name).toList ++ rest) = namesFrom name.toList rest := by
  rw [escapeName, String.toList_ofList, namesFrom_escape h.plain.notMem_tab fun he => absurd he h.last]
  rfl

theorem namesFrom_prerequisites {ps : List (Separator × String)} (h : ∀ p ∈ ps, SpacedName p.2) (name : List Char) :
    namesFrom name (ps.flatMap fun (separator, source) => separator.joined ++ (escapeName source).toList) =
      closeName name (ps.map (·.2.toList)) := by
  induction ps generalizing name with
  | nil => rfl
  | cons p ps ih =>
    obtain ⟨hp, hps⟩ := List.forall_mem_cons.mp h
    rw [List.flatMap_cons, List.append_assoc, namesFrom_separator, hp.namesFrom, ih hps, hp.plain.closeName]
    rfl

theorem names_firstTargets {ts : List (String × Separator)} (h : ∀ t ∈ ts, SpacedName t.1) (rest : List Char) :
    names (ts.flatMap (fun (target, separator) => (escapeName target).toList ++ separator.joined) ++ rest) =
      ts.map (·.1.toList) ++ names rest := by
  induction ts with
  | nil => rfl
  | cons t ts ih =>
    obtain ⟨ht, hts⟩ := List.forall_mem_cons.mp h
    rw [names, List.flatMap_cons, List.append_assoc, List.append_assoc, ht.namesFrom, namesFrom_separator,
      ht.plain.closeName, ← names, ih hts]
    rfl

/-- On the line of a rule stand its names; the last target has the colon at its end. -/
theorem Rule.Plain.names {r : Rule} (h : r.Plain) : names r.joined =
    r.firstTargets.map (·.1.toList) ++ (r.lastTarget.toList ++ [':']) :: r.prerequisites.map (·.2.toList) := by
  have hcolon : ∀ rest, Depfile.names ((escapeName r.lastTarget).toList ++ [':'] ++ rest) =
      namesFrom (r.lastTarget.toList ++ [':']) rest := by
    intro rest
    rw [Depfile.names, escapeName, String.toList_ofList, List.append_assoc,
      namesFrom_escape h.lastTarget.notMem_tab fun _ => ⟨by simp, by simp⟩, List.nil_append, List.singleton_append,
      namesFrom_cons (by simp) (by simp) (by simp), if_neg (by simp)]
  rw [Rule.joined, Rule.written, List.append_assoc, names_firstTargets fun t ht => (h.firstTargets t ht).1, hcolon,
    namesFrom_prerequisites h.prerequisites, closeName, if_neg (by simp)]

/-! ## The records of a rule -/

theorem cutTargets_closed {first : List (List Char)} (h : ∀ t ∈ first, t.getLast? ≠ some ':') (last : List Char)
    (rest : List (List Char)) : cutTargets (first ++ (last ++ [':']) :: rest) = some (first ++ [last], rest) := by
  induction first with
  | nil =>
    rw [List.nil_append, cutTargets, if_pos (by simp [closesTargets]), List.dropLast_concat]
    rfl
  | cons t ts ih =>
    obtain ⟨ht, hts⟩ := List.forall_mem_cons.mp h
    rw [List.cons_append, cutTargets, if_neg (by simpa [closesTargets] using ht), ih hts]
    rfl

/-- The records of a rule that starts on a line. -/
def Rule.records (r : Rule) (line : Nat) : List Record :=
  r.targets.map fun target => ⟨target, r.sources, line⟩

theorem Rule.Plain.toList_ne_nil {r : Rule} (h : r.Plain) : ∀ t ∈ r.targets, t.toList ≠ [] := by
  intro t ht
  rcases List.mem_append.mp ht with ht | ht
  · obtain ⟨u, hu, rfl⟩ := List.mem_map.mp ht
    exact (h.firstTargets u hu).1.plain.toList_ne_nil
  · rw [List.mem_singleton.mp ht]
    exact h.lastTarget.toList_ne_nil

theorem Rule.Plain.lineRecords {r : Rule} (h : r.Plain) (line : Nat) :
    lineRecords line r.joined = .ok (r.records line) := by
  have hcut : cutTargets (Depfile.names r.joined) =
      some (r.targets.map String.toList, r.prerequisites.map (·.2.toList)) := by
    rw [h.names, cutTargets_closed]
    · simp [Rule.targets]
    · intro t ht
      obtain ⟨u, hu, rfl⟩ := List.mem_map.mp ht
      exact (h.firstTargets u hu).2
  have hkept : (r.targets.map String.toList).filter (!·.isEmpty) = r.targets.map String.toList := by
    refine List.filter_eq_self.mpr fun cs hcs => ?_
    obtain ⟨t, ht, rfl⟩ := List.mem_map.mp hcs
    simpa using h.toList_ne_nil t ht
  have hsome : Depfile.names r.joined ≠ [] := by
    rw [h.names]
    simp
  have htargets : r.targets.map String.toList ≠ [] := by simp [Rule.targets]
  unfold Depfile.lineRecords
  split
  next hnil => exact absurd hnil hsome
  rw [hcut]
  dsimp only
  rw [hkept]
  split
  next hnil => exact absurd hnil htargets
  simp [Rule.records, Rule.sources, Function.comp_def]

/-! ## Files -/

/-- Blank lines in the file. -/
def blankText (blankLines : List (List Blank)) : List Char :=
  blankLines.flatMap fun blanks => blanks.map Blank.char ++ ['\n']

/-- A rule with the blank lines above it. -/
structure Entry where
  blankLines : List (List Blank)
  rule : Rule

def Entry.text (e : Entry) : List Char :=
  blankText e.blankLines ++ (e.rule.text ++ ['\n'])

/-- A file of rules with blank lines at its end. -/
def fileText (entries : List Entry) (blankLines : List (List Blank)) : String :=
  String.ofList (entries.flatMap Entry.text ++ blankText blankLines)

/-- The records of rules, the first one of which comes after the lines before a number. -/
def recordsFrom (number : Nat) : List Entry → List Record
  | [] => []
  | e :: rest => e.rule.records (number + e.blankLines.length) ++ recordsFrom (number + e.text.count '\n') rest

/-- The records of a text that begins at a line. -/
def recordsAt (number : Nat) (text : List Char) : Except Fault (List Record) :=
  linesRecords (logicalLinesFrom number 0 [] (Text.splitLines text))

/-- A text that ends a line, and with it a logical one, has its records before those of the lines behind it. -/
theorem recordsAt_line {text line rest : List Char} {number : Nat} {first others : List Record}
    (joins : Joins text line) (hfirst : lineRecords number line = .ok first)
    (hothers : recordsAt (number + text.count '\n' + 1) rest = .ok others) :
    recordsAt number (text ++ '\n' :: rest) = .ok (first ++ others) := by
  have h := logicalLinesFrom_joins joins number 0 [] (List.forall_mem_nil _) (by simp) rest
  rw [List.nil_append] at h
  unfold recordsAt at hothers ⊢
  rw [h]
  simp only [List.isEmpty_nil, if_true, List.flatMap_nil, List.nil_append, linesRecords, hfirst, hothers]
  rfl

theorem isLineBreak_blanks (blanks : List Blank) : ∀ c ∈ blanks.map Blank.char, Text.isLineBreak c = false := by
  intro c hc
  obtain ⟨b, _, rfl⟩ := List.mem_map.mp hc
  exact b.isLineBreak_char

theorem joins_blanks (blanks : List Blank) : Joins (blanks.map Blank.char) (blanks.map Blank.char) := by
  refine .of_chars (isLineBreak_blanks blanks) fun hlast => ?_
  obtain ⟨b, _, hb⟩ := List.mem_map.mp (List.mem_of_getLast? hlast)
  cases b <;> cases hb

theorem lineRecords_blanks (blanks : List Blank) (number : Nat) :
    lineRecords number (blanks.map Blank.char) = .ok [] := by
  have h := namesFrom_gaps (blanks.map Gap.blank) []
  rw [List.map_map, List.append_nil] at h
  have hnames : names (blanks.map Blank.char) = [] := h
  rw [lineRecords, hnames]

theorem count_blanks (blanks : List Blank) : (blanks.map Blank.char).count '\n' = 0 := by
  refine List.count_eq_zero.mpr fun hmem => ?_
  cases isLineBreak_blanks blanks _ hmem

theorem count_blankText (blankLines : List (List Blank)) : (blankText blankLines).count '\n' = blankLines.length := by
  induction blankLines with
  | nil => rfl
  | cons l ls ih =>
    rw [blankText] at ih ⊢
    rw [List.flatMap_cons, List.count_append, List.count_append, count_blanks, ih]
    simp [Nat.add_comm]

theorem recordsAt_blankText {blankLines : List (List Blank)} {rest : List Char} {number : Nat} {others : List Record}
    (h : recordsAt (number + blankLines.length) rest = .ok others) :
    recordsAt number (blankText blankLines ++ rest) = .ok others := by
  induction blankLines generalizing number with
  | nil => exact h
  | cons l ls ih =>
    have hsplit : blankText (l :: ls) ++ rest = l.map Blank.char ++ '\n' :: (blankText ls ++ rest) := by
      simp [blankText]
    have hrest : recordsAt (number + 1) (blankText ls ++ rest) = .ok others := by
      apply ih
      rwa [List.length_cons, Nat.add_comm ls.length, ← Nat.add_assoc] at h
    rw [hsplit]
    exact recordsAt_line (joins_blanks l) (lineRecords_blanks l number) (by rwa [count_blanks])

theorem recordsAt_entries {entries : List Entry} (plain : ∀ e ∈ entries, e.rule.Plain)
    (blankLines : List (List Blank)) (number : Nat) :
    recordsAt number (entries.flatMap Entry.text ++ blankText blankLines) = .ok (recordsFrom number entries) := by
  induction entries generalizing number with
  | nil =>
    have h : recordsAt number (blankText blankLines ++ []) = .ok [] := recordsAt_blankText rfl
    rwa [List.append_nil] at h
  | cons e es ih =>
    obtain ⟨he, hes⟩ := List.forall_mem_cons.mp plain
    have hcount : number + e.blankLines.length + e.rule.text.count '\n' + 1 = number + e.text.count '\n' := by
      rw [Entry.text, List.count_append, count_blankText, List.count_append]
      simp
      omega
    have hsplit : (e :: es).flatMap Entry.text ++ blankText blankLines = blankText e.blankLines ++
        (e.rule.text ++ '\n' :: (es.flatMap Entry.text ++ blankText blankLines)) := by
      simp [Entry.text]
    rw [hsplit]
    refine recordsAt_blankText (recordsAt_line he.joins (he.lineRecords _) ?_)
    rw [hcount]
    exact ih hes _

theorem parse_eq_ok {text : String} {records : List Record} (h : recordsAt 1 text.toList = .ok records)
    (some : records ≠ []) : parse text = .ok records := by
  have hlines : linesRecords (logicalLines text.toList) = .ok records := h
  rw [parse, hlines]
  show (if records.isEmpty then throw Fault.noRecords else pure records) = Except.ok records
  rw [if_neg (by simpa using some)]
  rfl

theorem parse_fileText {entries : List Entry} (some : entries ≠ []) (plain : ∀ e ∈ entries, e.rule.Plain)
    (blankLines : List (List Blank)) : parse (fileText entries blankLines) = .ok (recordsFrom 1 entries) := by
  apply parse_eq_ok
  · rw [fileText, String.toList_ofList]
    exact recordsAt_entries plain blankLines 1
  · obtain ⟨e, es, rfl⟩ := List.exists_cons_of_ne_nil some
    simp [recordsFrom, Rule.records, Rule.targets]

/-! ## Records as they are formatted -/

def oneSpace : Separator :=
  ⟨[.blank .space], List.cons_ne_nil _ _⟩

/-- The rule that a record is formatted as. -/
def Record.entry (r : Record) : Entry :=
  ⟨[], ⟨[], r.target, r.prerequisites.map fun p => (oneSpace, p)⟩⟩

structure Record.Plain (r : Record) : Prop where
  target : PlainName r.target
  prerequisites : ∀ p ∈ r.prerequisites, SpacedName p

theorem Record.Plain.entry {r : Record} (h : r.Plain) : r.entry.rule.Plain where
  firstTargets := List.forall_mem_nil _
  lastTarget := h.target
  prerequisites p hp := by
    obtain ⟨name, hname, rfl⟩ := List.mem_map.mp hp
    exact h.prerequisites name hname

theorem Record.toList_format (r : Record) : (r.format ++ "\n").toList = r.entry.text := by
  rw [String.toList_append, Record.format, Text.toList_intercalate_cons, Text.spacedWords, List.flatMap_map]
  simp [Entry.text, blankText, Record.entry, Rule.text, Rule.written, List.flatMap_map, oneSpace, Separator.text,
    Gap.text, Blank.char]

theorem Record.Plain.count_text {r : Record} (h : r.Plain) : r.entry.text.count '\n' = 1 := by
  have hnone : '\n' ∉ r.entry.rule.text := by
    intro hmem
    rcases List.mem_append.mp hmem with hmem | hmem
    · rcases List.mem_append.mp hmem with hmem | hmem
      · cases hmem
      · rcases List.mem_append.mp hmem with hmem | hmem
        · cases h.target.isLineBreak_escape _ hmem
        · cases List.mem_singleton.mp hmem
    · obtain ⟨p, hp, hmem⟩ := List.mem_flatMap.mp hmem
      obtain ⟨name, hname, rfl⟩ := List.mem_map.mp hp
      rcases List.mem_append.mp hmem with hmem | hmem
      · cases List.mem_singleton.mp hmem
      · cases (h.prerequisites name hname).plain.isLineBreak_escape _ hmem
  rw [Entry.text, List.count_append, List.count_append, List.count_eq_zero.mpr hnone]
  rfl

/-- Records on lines of their own, from a number on. -/
def numbered (number : Nat) : List Record → List Record
  | [] => []
  | r :: rest => { r with line := number } :: numbered (number + 1) rest

theorem recordsFrom_entries {records : List Record} (plain : ∀ r ∈ records, r.Plain) (number : Nat) :
    recordsFrom number (records.map Record.entry) = numbered number records := by
  induction records generalizing number with
  | nil => rfl
  | cons r rs ih =>
    obtain ⟨hr, hrs⟩ := List.forall_mem_cons.mp plain
    rw [List.map_cons, recordsFrom, hr.count_text, ih hrs, numbered]
    simp [Record.entry, Rule.records, Rule.targets, Rule.sources, Function.comp_def]

theorem render_eq_fileText (records : List Record) : render records = fileText (records.map Record.entry) [] := by
  rw [← String.toList_inj, fileText, String.toList_ofList, render, String.toList_join, List.flatMap_map,
    List.flatMap_map]
  simp only [Record.toList_format, blankText, List.flatMap_nil, List.append_nil]

/-- Records are read back from the text they are rendered as, one line each. -/
theorem parse_render {records : List Record} (some : records ≠ []) (plain : ∀ r ∈ records, r.Plain) :
    parse (render records) = .ok (numbered 1 records) := by
  have hentries : ∀ e ∈ records.map Record.entry, e.rule.Plain := by
    intro e he
    obtain ⟨r, hr, rfl⟩ := List.mem_map.mp he
    exact (plain r hr).entry
  rw [render_eq_fileText, parse_fileText (by simpa using some) hentries, recordsFrom_entries plain]

/-- Rules are read back from any layout, and so are formatted records. -/
theorem parse_layout :
    (∀ (entries : List Entry) (blankLines : List (List Blank)), entries ≠ [] → (∀ e ∈ entries, e.rule.Plain) →
      parse (fileText entries blankLines) = .ok (recordsFrom 1 entries)) ∧
    ∀ r : Record, r.Plain → parse (r.format ++ "\n") = .ok [{ r with line := 1 }] := by
  refine ⟨fun entries blankLines some plain => parse_fileText some plain blankLines, fun r plain => ?_⟩
  have hformat : r.format ++ "\n" = render [r] := by simp [render]
  rw [hformat]
  exact parse_render (List.cons_ne_nil _ _) (List.forall_mem_singleton.mpr plain)

/-- Names that end and begin with what has a meaning of its own, and every kind of gap between them. -/
def knots : List Entry :=
  [⟨[[], [.space, .tab]],
      ⟨[("a\\ b", ⟨[.continuation, .blank .tab], List.cons_ne_nil _ _⟩)], "x::",
        [(⟨[.blank .space, .continuation, .continuation], List.cons_ne_nil _ _⟩, "$#"),
          (⟨[.continuation], List.cons_ne_nil _ _⟩, "\\#c:"), (oneSpace, " ")]⟩⟩,
    ⟨[], ⟨[], "t\\", []⟩⟩]

example : fileText knots [[.tab]] =
    "\n \t\na\\\\ b\\\n\tx::: \\\n\\\n$$\\#\\\n\\\\#c: \\ \nt\\:\n\t\n" := by
  decide +kernel

theorem parse_layout_knots :
    parse (fileText knots [[.tab]]) =
        .ok [⟨"a\\ b", ["$#", "\\#c:", " "], 3⟩, ⟨"x::", ["$#", "\\#c:", " "], 3⟩, ⟨"t\\", [], 8⟩] ∧
      parse (Record.format ⟨"a b\\", ["$:", "#"], 0⟩ ++ "\n") = .ok [⟨"a b\\", ["$:", "#"], 1⟩] := by
  have plain : ∀ e ∈ knots, e.rule.Plain := by
    intro e he
    rcases List.mem_pair.mp he with rfl | rfl
    · exact ⟨by decide +kernel, by decide +kernel, by decide +kernel⟩
    · exact ⟨by decide +kernel, by decide +kernel, by decide +kernel⟩
  exact ⟨parse_layout.1 knots [[.tab]] (List.cons_ne_nil _ _) plain,
    parse_layout.2 _ ⟨by decide +kernel, by decide +kernel⟩⟩

end BuildTree.Depfile
