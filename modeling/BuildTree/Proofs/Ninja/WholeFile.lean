import BuildTree.Proofs.Ninja.ReadBack
import BuildTree.Proofs.Text.Fields

/-!
# Whole files

A file is read item by item: of all items only build statements leave something to read, and none of them swallows a
line of the next one.
-/

namespace BuildTree.Ninja

section Lines

def Binding.verbatimChars (b : Binding) : List Char :=
  ' ' :: ' ' :: (b.key.toList ++ ' ' :: '=' :: ' ' :: b.value.toList)

def Item.lines : Item → List (List Char)
  | .comment text => ['#' :: ' ' :: text.toList]
  | .blank => [[]]
  | .assign b => [b.key.toList ++ ' ' :: '=' :: ' ' :: b.value.toList]
  | .pool name depth => [['p', 'o', 'o', 'l', ' '] ++ name.toList, Binding.verbatimChars ⟨"depth", depth⟩]
  | .rule name bindings => (['r', 'u', 'l', 'e', ' '] ++ name.toList) :: bindings.map Binding.verbatimChars
  | .include file => [['i', 'n', 'c', 'l', 'u', 'd', 'e', ' '] ++ file.toList]
  | .build s => s.line.toList :: s.bindings.map Binding.valueChars
  | .goal path => [['d', 'e', 'f', 'a', 'u', 'l', 't', ' '] ++ path.toList.flatMap pathChar]

def ended (lines : List (List Char)) : List Char :=
  lines.flatMap (· ++ ['\n'])

theorem ended_append (ls ms : List (List Char)) : ended (ls ++ ms) = ended ls ++ ended ms :=
  List.flatMap_append

theorem toList_valueLine (b : Binding) : b.valueLine.toList = b.valueChars ++ ['\n'] := by
  simp [Binding.valueLine, Binding.valueChars, escapeValue]

theorem toList_verbatimLine (b : Binding) : b.verbatimLine.toList = b.verbatimChars ++ ['\n'] := by
  simp [Binding.verbatimLine, Binding.verbatimChars]

theorem toList_join_map {α : Type} (write : α → String) (lines : α → List (List Char))
    (h : ∀ a, (write a).toList = ended (lines a)) (as : List α) :
    (String.join (as.map write)).toList = ended (as.flatMap lines) := by
  induction as with
  | nil => simp [ended]
  | cons a as ih =>
    simp only [String.toList_join, List.map_cons, List.flatMap_cons, ended_append, ← h] at ih ⊢
    rw [← ih]

theorem Item.toList_render (i : Item) : i.render.toList = ended i.lines := by
  cases i with
  | comment text => simp [Item.render, Item.lines, ended]
  | blank => rfl
  | assign b => simp [Item.render, Item.lines, ended]
  | pool name depth => simp [Item.render, Item.lines, ended, Binding.verbatimChars]
  | rule name bindings =>
    have := toList_join_map Binding.verbatimLine (fun b => [b.verbatimChars]) (fun b => by
      simp [toList_verbatimLine, ended]) bindings
    simp only [Item.render, String.toList_append, this]
    simp [Item.lines, ended, List.flatMap_map, List.flatMap_assoc]
  | «include» file => simp [Item.render, Item.lines, ended]
  | build s =>
    have := toList_join_map Binding.valueLine (fun b => [b.valueChars]) (fun b => by
      simp [toList_valueLine, ended]) s.bindings
    simp only [Item.render, String.toList_append, this]
    simp [Item.lines, ended, List.flatMap_map, List.flatMap_assoc]
  | goal path => simp [Item.render, Item.lines, ended, escapePath]

theorem toList_render (items : List Item) : (render items).toList = ended (items.flatMap Item.lines) :=
  toList_join_map Item.render Item.lines Item.toList_render items

/-- Every line break cuts, those within lines too. -/
theorem fields_ended_append (lines : List (List Char)) (rest : List Char) :
    Text.fields '\n' (ended lines ++ rest) = lines.flatMap (Text.fields '\n') ++ Text.fields '\n' rest := by
  induction lines with
  | nil => rfl
  | cons l ls ih =>
    have hsplit : ended (l :: ls) ++ rest = l ++ '\n' :: (ended ls ++ rest) := by simp [ended]
    rw [hsplit, Text.fields_append_sep, ih, List.flatMap_cons, List.append_assoc]

theorem flatMap_fields {lines : List (List Char)} (h : ∀ l ∈ lines, '\n' ∉ l) :
    lines.flatMap (Text.fields '\n') = lines := by
  induction lines with
  | nil => rfl
  | cons l ls ih =>
    rw [List.flatMap_cons, Text.fields_of_notMem (h l List.mem_cons_self),
      ih fun m hm => h m (List.mem_cons_of_mem l hm)]
    rfl

theorem fields_ended {lines : List (List Char)} (h : ∀ l ∈ lines, '\n' ∉ l) :
    Text.fields '\n' (ended lines) = lines ++ [[]] := by
  have hcut := fields_ended_append lines []
  rw [List.append_nil, flatMap_fields h] at hcut
  exact hcut

end Lines

section Blocks

/-- The first thing on a line is neither missing nor a comment. -/
def Solid (line : List Char) : Prop :=
  ∃ c cs, skipBlanks line = c :: cs ∧ c ≠ '#'

theorem blocks_of_head {line : List Char} (hsolid : Solid line) (hhead : line.head? ≠ some ' ')
    (rest : List (List Char)) :
    blocks (line :: rest) = ([], ⟨line, (blocks rest).1⟩ :: (blocks rest).2) := by
  obtain ⟨c, cs, hskip, hc⟩ := hsolid
  simp only [blocks, hskip, if_neg hc, if_neg hhead]

theorem blocks_of_indented {line : List Char} (hsolid : Solid line) (hhead : line.head? = some ' ')
    (rest : List (List Char)) :
    blocks (line :: rest) = (line :: (blocks rest).1, (blocks rest).2) := by
  obtain ⟨c, cs, hskip, hc⟩ := hsolid
  simp only [blocks, hskip, if_neg hc, if_pos hhead]

theorem blocks_indented {lines : List (List Char)} (h : ∀ l ∈ lines, Solid l ∧ l.head? = some ' ')
    (rest : List (List Char)) : blocks (lines ++ rest) = (lines ++ (blocks rest).1, (blocks rest).2) := by
  induction lines with
  | nil => rfl
  | cons l ls ih =>
    obtain ⟨hsolid, hhead⟩ := h l List.mem_cons_self
    rw [List.cons_append, blocks_of_indented hsolid hhead, ih fun m hm => h m (List.mem_cons_of_mem l hm)]
    rfl

/-- A line, with indented ones below it, is one block. -/
theorem blocks_block (head : List Char) (body : List (List Char)) (hsolid : Solid head)
    (hhead : head.head? ≠ some ' ') (hbody : ∀ l ∈ body, Solid l ∧ l.head? = some ' ') {rest : List (List Char)}
    (hrest : (blocks rest).1 = []) :
    blocks (head :: body ++ rest) = ([], ⟨head, body⟩ :: (blocks rest).2) := by
  rw [List.cons_append, blocks_of_head hsolid hhead, blocks_indented hbody, hrest, List.append_nil]

theorem solid_of_head {c : Char} (hblank : c ≠ ' ') (hcomment : c ≠ '#') (cs : List Char) : Solid (c :: cs) :=
  ⟨c, cs, skipBlanks_of_ne hblank cs, hcomment⟩

theorem solid_key {key : String} (h : PlainKey key) (cs : List Char) : Solid (' ' :: ' ' :: (key.toList ++ cs)) := by
  obtain ⟨c, ks, hks, hblank, hcomment⟩ := h.exists_cons
  rw [hks]
  exact ⟨c, ks ++ cs, skipBlanks_of_ne hblank _, hcomment⟩

end Blocks

/-- A statement whose line and bindings each stand on one line. -/
structure Statement.Lined (s : Statement) : Prop where
  outputs : s.outputs ≠ []
  rule : PlainRule s.rule
  paths : ∀ p ∈ s.rule :: (s.outputs ++ s.implicitOutputs ++ s.inputs ++ s.implicitInputs ++ s.orderOnlyInputs),
    '\n' ∉ p.toList
  bindings : ∀ b ∈ s.bindings, PlainKey b.key ∧ '\n' ∉ b.value.toList

def Statement.asRead (s : Statement) : Statement :=
  { s with bindings := s.bindings.map fun b => ⟨b.key, trimmed b.value⟩ }

/-- What reading makes of a written statement. -/
def Statement.entry (s : Statement) : Option Statement := do
  let ts ← tokensFrom none (s.line.toList.drop buildWord.length)
  let bindings ← (s.bindings.map Binding.valueChars).mapM bindingOf
  statementOf ts bindings

/-- A statement is read as it was written if its paths are plain. -/
theorem Statement.entry_eq {s : Statement} (houtputs : s.outputs ≠ []) (hrule : PlainRule s.rule)
    (hpaths : ∀ p ∈ s.rule :: (s.outputs ++ s.implicitOutputs ++ s.inputs ++ s.implicitInputs ++ s.orderOnlyInputs),
      PlainPath p)
    (hkeys : ∀ b ∈ s.bindings, PlainKey b.key) : s.entry = some s.asRead := by
  simp only [List.forall_mem_cons, List.forall_mem_append] at hpaths
  obtain ⟨hr, ⟨⟨⟨ho, hio⟩, hi⟩, hii⟩, hoo⟩ := hpaths
  have hfront : ∀ t ∈ s.front, t.Plain := by
    rw [Statement.front, List.forall_mem_append]
    exact ⟨plain_words ho, plain_sectionTokens .pipe trivial hio⟩
  have hback : ∀ t ∈ s.back, t.Plain := by
    rw [Statement.back, List.forall_mem_append, List.forall_mem_append, List.forall_mem_cons]
    exact ⟨⟨⟨hr, plain_words hi⟩, plain_sectionTokens .pipe trivial hii⟩, plain_sectionTokens .pipes trivial hoo⟩
  have hend : tokensFrom none (spaced s.back) = some s.back := by
    have := tokensFrom_spaced hback [] trivial
    simpa [tokensFrom, closed] using this
  have htokens : tokensFrom none (s.line.toList.drop buildWord.length) = some (s.front ++ .colon :: s.back) := by
    rw [Statement.toList_line houtputs hrule, List.drop_left,
      tokensFrom_spaced hfront (':' :: spaced s.back) (.inr rfl), tokensFrom_colon, hend]
    rfl
  rw [Statement.entry, htokens, mapM_bindingOf hkeys]
  exact statementOf_parts houtputs _

/-- An item that keeps to its lines. -/
def Item.Clear : Item → Prop
  | .comment text => '\n' ∉ text.toList
  | .blank => True
  | .assign b => PlainKey b.key ∧ b.key ≠ "build" ∧ '\n' ∉ b.value.toList
  | .pool name depth => '\n' ∉ name.toList ∧ '\n' ∉ depth.toList
  | .rule name bindings => '\n' ∉ name.toList ∧ ∀ b ∈ bindings, PlainKey b.key ∧ '\n' ∉ b.value.toList
  | .include file => '\n' ∉ file.toList
  | .build s => s.Lined
  | .goal path => '\n' ∉ path.toList

section Clear

theorem newline_notMem_pathChars {cs : List Char} (h : '\n' ∉ cs) : '\n' ∉ cs.flatMap pathChar := by
  intro hmem
  obtain ⟨c, hc, hn⟩ := List.mem_flatMap.mp hmem
  have hne : '\n' ≠ c := fun he => h (he ▸ hc)
  rw [pathChar] at hn
  split at hn
  · simp [hne] at hn
  · exact hne (List.mem_singleton.mp hn)

theorem newline_notMem_valueChars {cs : List Char} (h : '\n' ∉ cs) : '\n' ∉ cs.flatMap valueChar := by
  intro hmem
  obtain ⟨c, hc, hn⟩ := List.mem_flatMap.mp hmem
  have hne : '\n' ≠ c := fun he => h (he ▸ hc)
  rw [valueChar] at hn
  split at hn
  · simp at hn
  · exact hne (List.mem_singleton.mp hn)

theorem newline_notMem_key {key : String} (h : PlainKey key) : '\n' ∉ key.toList := fun hmem =>
  (h.2 _ hmem).2.2 rfl

theorem newline_notMem_spaced {ts : List Token} (h : ∀ w, .word w ∈ ts → '\n' ∉ w.toList) : '\n' ∉ spaced ts := by
  intro hmem
  obtain ⟨t, ht, hn⟩ := List.mem_flatMap.mp hmem
  rcases List.mem_cons.mp hn with hn | hn
  · simp at hn
  cases t with
  | word w => exact newline_notMem_pathChars (h w ht) hn
  | pipe => simp [Token.written] at hn
  | pipes => simp [Token.written] at hn
  | colon => simp [Token.written] at hn

theorem mem_sectionTokens {mark : Token} (hmark : ∀ w, mark ≠ .word w) {paths : List String} {w : String}
    (h : .word w ∈ sectionTokens mark paths) : w ∈ paths := by
  rw [sectionTokens] at h
  split at h
  · cases h
  · rcases List.mem_cons.mp h with h | h
    · exact absurd h.symm (hmark w)
    · simpa using h

theorem Statement.Lined.line {s : Statement} (h : s.Lined) : '\n' ∉ s.line.toList := by
  have hpaths := h.paths
  simp only [List.forall_mem_cons, List.forall_mem_append] at hpaths
  obtain ⟨hr, ⟨⟨⟨ho, hio⟩, hi⟩, hii⟩, hoo⟩ := hpaths
  rw [Statement.toList_line h.outputs h.rule]
  simp only [List.mem_append, List.mem_cons, not_or]
  refine ⟨by decide, newline_notMem_spaced fun w hw => ?_, by decide, newline_notMem_spaced fun w hw => ?_⟩
  · rcases List.mem_append.mp hw with hw | hw
    · exact ho w (by simpa using hw)
    · exact hio w (mem_sectionTokens (by simp) hw)
  · simp only [Statement.back, List.mem_append, List.mem_cons] at hw
    rcases hw with ((hw | hw) | hw) | hw
    · exact (Token.word.inj hw) ▸ hr
    · exact hi w (by simpa using hw)
    · exact hii w (mem_sectionTokens (by simp) hw)
    · exact hoo w (mem_sectionTokens (by simp) hw)

theorem newline_notMem_valueLine {b : Binding} (hkey : PlainKey b.key) (hvalue : '\n' ∉ b.value.toList) :
    '\n' ∉ b.valueChars := by
  simp [Binding.valueChars, newline_notMem_key hkey, newline_notMem_valueChars hvalue]

theorem newline_notMem_verbatimLine {b : Binding} (hkey : PlainKey b.key) (hvalue : '\n' ∉ b.value.toList) :
    '\n' ∉ b.verbatimChars := by
  simp [Binding.verbatimChars, newline_notMem_key hkey, hvalue]

theorem Item.Clear.lines {i : Item} (h : i.Clear) : ∀ l ∈ i.lines, '\n' ∉ l := by
  have hdepth : PlainKey "depth" := by decide
  cases i with
  | comment text =>
    have htext : '\n' ∉ text.toList := h
    simpa [Item.lines] using htext
  | blank => simp [Item.lines]
  | assign b => simpa [Item.lines, newline_notMem_key h.1] using h.2.2
  | pool name depth =>
    have := @newline_notMem_verbatimLine ⟨"depth", depth⟩ hdepth h.2
    simpa [Item.lines, this] using h.1
  | rule name bindings =>
    simp only [Item.lines, List.forall_mem_cons, List.mem_map]
    refine ⟨by simpa using h.1, ?_⟩
    rintro l ⟨b, hb, rfl⟩
    exact newline_notMem_verbatimLine (h.2 b hb).1 (h.2 b hb).2
  | «include» file =>
    have hfile : '\n' ∉ file.toList := h
    simpa [Item.lines] using hfile
  | build s =>
    simp only [Item.lines, List.forall_mem_cons, List.mem_map]
    refine ⟨h.line, ?_⟩
    rintro l ⟨b, hb, rfl⟩
    exact newline_notMem_valueLine (h.bindings b hb).1 (h.bindings b hb).2
  | goal path =>
    have := newline_notMem_pathChars h
    simpa [Item.lines] using this

end Clear

def Item.entries : Item → List (Option Statement)
  | .build s => [s.entry]
  | _ => []

theorem statement?_build {s : Statement} (h : s.Lined) :
    (Block.mk s.line.toList (s.bindings.map Binding.valueChars)).statement? = some s.entry := by
  have hfront : ∃ cs, spaced s.front = ' ' :: cs := by
    obtain ⟨o, os, ho⟩ := List.exists_cons_of_ne_nil h.outputs
    rw [Statement.front, ho]
    exact ⟨_, rfl⟩
  obtain ⟨cs, hcs⟩ := hfront
  have hline := Statement.toList_line h.outputs h.rule
  have hempty : s.line.toList.isEmpty = false := by rw [hline]; rfl
  have hword : (buildWord ++ [' ']).isPrefixOf s.line.toList = true := by
    rw [hline, hcs, List.isPrefixOf_iff_prefix]
    exact ⟨cs ++ ':' :: spaced s.back, by simp⟩
  simp only [Block.statement?, hempty, hword, Bool.false_eq_true, if_false, if_true]
  rfl

theorem statement?_line {line : List Char} (hempty : line.isEmpty = false)
    (hother : (buildWord ++ [' ']).isPrefixOf line = false) (body : List (List Char)) :
    (Block.mk line body).statement? = none := by
  simp only [Block.statement?, hempty, hother, Bool.false_eq_true, if_false]

theorem statement?_assign {b : Binding} (hkey : PlainKey b.key) (hbuild : b.key ≠ "build") :
    (Block.mk (b.key.toList ++ ' ' :: '=' :: ' ' :: b.value.toList) []).statement? = none := by
  refine statement?_line (by simp) (Bool.eq_false_iff.mpr fun h => ?_) []
  obtain ⟨rest, h⟩ := List.isPrefixOf_iff_prefix.mp h
  -- both sides begin with a word and a blank, so the words are the same
  have hwords := congrArg (List.takeWhile isKeyChar) h
  rw [List.append_assoc, List.takeWhile_append_of_pos (List.all_eq_true.mp (by decide)),
    List.takeWhile_append_of_pos fun c hc => (hkey.2 c hc).1] at hwords
  have hsame : buildWord = b.key.toList := by simpa [isKeyChar] using hwords
  exact hbuild (String.toList_inj.mp (hsame.symm.trans (by decide)))

/-- A line with indented ones below it, in front of lines of which none is left over, is read on its own. -/
theorem read_block {head : List Char} {body : List (List Char)} (hsolid : Solid head) (hhead : head.head? ≠ some ' ')
    (hbody : ∀ l ∈ body, Solid l ∧ l.head? = some ' ') {entries : List (Option Statement)}
    (hread : (Block.mk head body).statement?.toList = entries) {rest : List (List Char)}
    (hrest : (blocks rest).1 = []) :
    (blocks (head :: body ++ rest)).1 = [] ∧
      (blocks (head :: body ++ rest)).2.filterMap Block.statement? =
        entries ++ (blocks rest).2.filterMap Block.statement? := by
  rw [blocks_block head body hsolid hhead hbody hrest, ← hread, List.filterMap_cons]
  cases (Block.mk head body).statement? with
  | none => exact ⟨rfl, rfl⟩
  | some entry => exact ⟨rfl, rfl⟩

/-- An item in front of lines of which none is left over leaves what there is to read in it, and no line either. -/
theorem blocks_item {i : Item} (h : i.Clear) {rest : List (List Char)} (hrest : (blocks rest).1 = []) :
    (blocks (i.lines ++ rest)).1 = [] ∧
      (blocks (i.lines ++ rest)).2.filterMap Block.statement? =
        i.entries ++ (blocks rest).2.filterMap Block.statement? := by
  have hverbatim : ∀ b : Binding, PlainKey b.key → Solid b.verbatimChars ∧ b.verbatimChars.head? = some ' ' :=
    fun b hb => ⟨solid_key hb _, rfl⟩
  have hword : ∀ {c : Char} {cs : List Char}, c ≠ ' ' → c ≠ '#' → Solid (c :: cs) ∧ (c :: cs).head? ≠ some ' ' :=
    fun hblank hcomment => ⟨solid_of_head hblank hcomment _, by simpa using hblank⟩
  cases i with
  | comment text =>
    have hskip : blocks (('#' :: ' ' :: text.toList) :: rest) = blocks rest := by
      rw [blocks, skipBlanks_of_ne (by decide)]
      rfl
    rw [Item.lines, List.singleton_append, hskip]
    exact ⟨hrest, rfl⟩
  | blank =>
    have hskip : blocks ([] :: rest) = ([], stray (blocks rest).1 (blocks rest).2) := rfl
    rw [Item.lines, List.singleton_append, hskip, hrest]
    exact ⟨rfl, rfl⟩
  | assign b =>
    obtain ⟨hkey, hbuild, _⟩ := h
    obtain ⟨c, cs, hcs, hblank, hcomment⟩ := hkey.exists_cons
    have hread := congrArg Option.toList (statement?_assign hkey hbuild)
    rw [Item.lines]
    rw [hcs] at hread ⊢
    exact read_block (hword hblank hcomment).1 (hword hblank hcomment).2 (by simp) hread hrest
  | pool name depth =>
    obtain ⟨hsolid, hhead⟩ := @hword 'p' (['o', 'o', 'l', ' '] ++ name.toList) (by decide) (by decide)
    have hdepth : PlainKey "depth" := by decide
    have hbody := hverbatim ⟨"depth", depth⟩ hdepth
    exact read_block hsolid hhead (by simpa using hbody)
      (congrArg Option.toList (statement?_line rfl rfl _)) hrest
  | rule name bindings =>
    obtain ⟨hsolid, hhead⟩ := @hword 'r' (['u', 'l', 'e', ' '] ++ name.toList) (by decide) (by decide)
    have hbody : ∀ l ∈ bindings.map Binding.verbatimChars, Solid l ∧ l.head? = some ' ' := by
      intro l hl
      obtain ⟨b, hb, rfl⟩ := List.mem_map.mp hl
      exact hverbatim b (h.2 b hb).1
    exact read_block hsolid hhead hbody (congrArg Option.toList (statement?_line rfl rfl _)) hrest
  | «include» file =>
    obtain ⟨hsolid, hhead⟩ :=
      @hword 'i' (['n', 'c', 'l', 'u', 'd', 'e', ' '] ++ file.toList) (by decide) (by decide)
    exact read_block hsolid hhead (by simp) (congrArg Option.toList (statement?_line rfl rfl _)) hrest
  | build s =>
    have hline := Statement.toList_line h.outputs h.rule
    have hfirst : ∃ cs, s.line.toList = 'b' :: cs := ⟨_, hline⟩
    obtain ⟨cs, hcs⟩ := hfirst
    obtain ⟨hsolid, hhead⟩ := @hword 'b' cs (by decide) (by decide)
    have hbody : ∀ l ∈ s.bindings.map Binding.valueChars, Solid l ∧ l.head? = some ' ' := by
      intro l hl
      obtain ⟨b, hb, rfl⟩ := List.mem_map.mp hl
      exact ⟨solid_key (h.bindings b hb).1 _, rfl⟩
    rw [← hcs] at hsolid hhead
    exact read_block hsolid hhead hbody (congrArg Option.toList (statement?_build h)) hrest
  | goal path =>
    obtain ⟨hsolid, hhead⟩ :=
      @hword 'd' (['e', 'f', 'a', 'u', 'l', 't', ' '] ++ path.toList.flatMap pathChar) (by decide) (by decide)
    exact read_block hsolid hhead (by simp) (congrArg Option.toList (statement?_line rfl rfl _)) hrest

/-- What there is to read in a file is what there is to read in its items, in their order. -/
theorem statements_render {items : List Item} (h : ∀ i ∈ items, i.Clear) :
    statements (render items) = items.flatMap Item.entries := by
  have hlines : ∀ l ∈ items.flatMap Item.lines, '\n' ∉ l := by
    intro l hl
    obtain ⟨i, hi, hl⟩ := List.mem_flatMap.mp hl
    exact (h i hi).lines l hl
  -- from the end: the lines of the items behind begin with a line that is not indented
  have hblocks : ∀ is : List Item, (∀ i ∈ is, i.Clear) → (blocks (is.flatMap Item.lines ++ [[]])).1 = [] ∧
      (blocks (is.flatMap Item.lines ++ [[]])).2.filterMap Block.statement? = is.flatMap Item.entries := by
    intro is his
    induction is with
    | nil => exact ⟨rfl, rfl⟩
    | cons i is ih =>
      obtain ⟨hnone, hread⟩ := ih fun j hj => his j (List.mem_cons_of_mem i hj)
      rw [List.flatMap_cons, List.flatMap_cons, List.append_assoc, ← hread]
      exact blocks_item (his i List.mem_cons_self) hnone
  obtain ⟨hnone, hread⟩ := hblocks items h
  rw [statements, toList_render, fields_ended hlines]
  show (stray _ _).filterMap _ = _
  rw [hnone]
  exact hread

end BuildTree.Ninja
