import BuildTree.Proofs.Ninja.Reading
import BuildTree.Proofs.Text.Fields

/-!
# Reading back what was written

A file that is written item by item is read as its build statements, in their order, and each of them is read as it
was, but for the blanks at the front of values. Paths have to be plain: the characters that no escape helps against
are not in them.
-/

namespace BuildTree.Ninja
open Text

/-- A path that can stand on the line of a build statement. -/
def PlainPath (path : String) : Prop :=
  path ≠ "" ∧ ∀ c ∈ path.toList, c ∉ ['|', '\n', '\r', '\x00']

instance (path : String) : Decidable (PlainPath path) :=
  @instDecidableAnd _ _ inferInstance (List.decidableBAll _ _)

theorem exists_cons_of_ne_empty {s : String} (h : s ≠ "") : ∃ c cs, s.toList = c :: cs := by
  refine List.exists_cons_of_ne_nil fun hnil => h ?_
  rw [← String.ofList_toList (s := s), hnil]

section Words

theorem tokensFrom_escape (word : Option (List Char)) {c : Char} (hc : isEscapable c = true) (rest : List Char) :
    tokensFrom word ('$' :: c :: rest) = tokensFrom (some (word.getD [] ++ [c])) rest := by
  rw [tokensFrom.eq_def]
  simp only [if_true, hc]

@[simp] theorem tokensFrom_blank (word : Option (List Char)) (rest : List Char) :
    tokensFrom word (' ' :: rest) = (tokensFrom none rest).map (closed word ++ ·) := by
  rw [tokensFrom.eq_def]
  rfl

@[simp] theorem tokensFrom_colon (word : Option (List Char)) (rest : List Char) :
    tokensFrom word (':' :: rest) = (tokensFrom none rest).map (closed word ++ .colon :: ·) := by
  rw [tokensFrom.eq_def]
  rfl

@[simp] theorem tokensFrom_pipes (word : Option (List Char)) (rest : List Char) :
    tokensFrom word ('|' :: '|' :: rest) = (tokensFrom none rest).map (closed word ++ .pipes :: ·) := by
  rw [tokensFrom.eq_def]
  rfl

theorem tokensFrom_pipe (word : Option (List Char)) {c : Char} (hc : c ≠ '|') (rest : List Char) :
    tokensFrom word ('|' :: c :: rest) = (tokensFrom none (c :: rest)).map (closed word ++ .pipe :: ·) := by
  rw [tokensFrom.eq_def]
  exact if_neg hc

theorem tokensFrom_letter (word : Option (List Char)) {c : Char}
    (hc : c ∉ ['$', ' ', ':', '|', '\r', '\x00']) (rest : List Char) :
    tokensFrom word (c :: rest) = tokensFrom (some (word.getD [] ++ [c])) rest := by
  simp only [List.mem_cons, List.not_mem_nil, or_false, not_or] at hc
  obtain ⟨hdollar, hblank, hcolon, hbar, hreturn, hnul⟩ := hc
  rw [tokensFrom.eq_def]
  dsimp only
  rw [if_neg hdollar, if_neg hblank, if_neg hcolon, if_neg hbar, if_neg (by simp [hreturn, hnul])]

theorem tokensFrom_pathChar (word : Option (List Char)) {c : Char} (hc : c ∉ ['|', '\n', '\r', '\x00'])
    (rest : List Char) : tokensFrom word (pathChar c ++ rest) = tokensFrom (some (word.getD [] ++ [c])) rest := by
  by_cases h : c = '$' ∨ c = ' ' ∨ c = ':'
  · have hesc : isEscapable c = true := by simpa [isEscapable, or_assoc] using h
    rw [pathChar, if_pos h]
    exact tokensFrom_escape word hesc rest
  · rw [pathChar, if_neg h]
    refine tokensFrom_letter word ?_ rest
    simp only [List.mem_cons, List.not_mem_nil, or_false, not_or] at hc h ⊢
    exact ⟨h.1, h.2.1, h.2.2, hc.1, hc.2.2.1, hc.2.2.2⟩

theorem tokensFrom_pathChars {cs : List Char} (hcs : ∀ c ∈ cs, c ∉ ['|', '\n', '\r', '\x00']) (word rest : List Char) :
    tokensFrom (some word) (cs.flatMap pathChar ++ rest) = tokensFrom (some (word ++ cs)) rest := by
  induction cs generalizing word with
  | nil => simp
  | cons c cs ih =>
    rw [List.flatMap_cons, List.append_assoc, tokensFrom_pathChar _ (hcs c List.mem_cons_self), Option.getD_some,
      ih (fun d hd => hcs d (List.mem_cons_of_mem c hd)), List.append_assoc]
    rfl

/-- What ends a word: the end of the line, a blank or a colon. -/
def Breaks : List Char → Prop
  | [] => True
  | c :: _ => c = ' ' ∨ c = ':'

theorem tokensFrom_closed (word : List Char) {rest : List Char} (h : Breaks rest) :
    tokensFrom (some word) rest = (tokensFrom none rest).map (.word (String.ofList word) :: ·) := by
  cases rest with
  | nil => rfl
  | cons c rest =>
    rcases h with rfl | rfl <;> simp [closed, Function.comp_def]

def Token.written : Token → List Char
  | .word w => w.toList.flatMap pathChar
  | .pipe => ['|']
  | .pipes => ['|', '|']
  | .colon => [':']

def Token.Plain : Token → Prop
  | .word w => PlainPath w
  | _ => True

theorem tokensFrom_written {t : Token} (ht : t.Plain) {rest : List Char} (h : Breaks rest) :
    tokensFrom none (t.written ++ rest) = (tokensFrom none rest).map (t :: ·) := by
  cases t with
  | word w =>
    obtain ⟨hne, hplain⟩ := ht
    obtain ⟨c, cs, hw⟩ := exists_cons_of_ne_empty hne
    rw [hw] at hplain
    have hword : tokensFrom none ((Token.word w).written ++ rest) = tokensFrom (some (c :: cs)) rest := by
      rw [Token.written, hw, List.flatMap_cons, List.append_assoc,
        tokensFrom_pathChar none (hplain c List.mem_cons_self),
        tokensFrom_pathChars fun d hd => hplain d (List.mem_cons_of_mem c hd)]
      rfl
    rw [hword, tokensFrom_closed _ h, ← hw, String.ofList_toList]
  | pipe =>
    cases rest with
    | nil => rfl
    | cons c rest =>
      have hc : c ≠ '|' := by rcases h with rfl | rfl <;> decide
      exact tokensFrom_pipe none hc rest
  | pipes => simp [Token.written, closed]
  | colon => simp [Token.written, closed]

def spaced (ts : List Token) : List Char :=
  ts.flatMap fun t => ' ' :: t.written

theorem breaks_spaced (ts : List Token) {rest : List Char} (h : Breaks rest) : Breaks (spaced ts ++ rest) := by
  cases ts with
  | nil => exact h
  | cons t ts => exact .inl rfl

theorem tokensFrom_spaced {ts : List Token} (hts : ∀ t ∈ ts, t.Plain) (rest : List Char) (h : Breaks rest) :
    tokensFrom none (spaced ts ++ rest) = (tokensFrom none rest).map (ts ++ ·) := by
  induction ts with
  | nil => simp [spaced]
  | cons t ts ih =>
    have hrest := ih fun u hu => hts u (List.mem_cons_of_mem t hu)
    -- what follows a word is the blank of the next one or the end, so an escape never runs over it
    have hblank : ∀ cs, tokensFrom none (' ' :: cs) = tokensFrom none cs := fun cs => by simp [closed]
    have hsplit : spaced (t :: ts) ++ rest = ' ' :: (t.written ++ (spaced ts ++ rest)) := by
      simp [spaced]
    rw [hsplit, hblank, tokensFrom_written (hts t List.mem_cons_self) (breaks_spaced ts h), hrest, Option.map_map]
    rfl

end Words

section Lines

/-- The parts of a section with its mark. -/
def sectionTokens (mark : Token) (paths : List String) : List Token :=
  if paths.isEmpty then [] else mark :: paths.map .word

/-- The parts of the line of a statement before the colon. -/
def Statement.front (s : Statement) : List Token :=
  s.outputs.map .word ++ sectionTokens .pipe s.implicitOutputs

def Statement.back (s : Statement) : List Token :=
  .word s.rule :: s.inputs.map .word ++ sectionTokens .pipe s.implicitInputs ++ sectionTokens .pipes s.orderOnlyInputs

theorem plain_words {paths : List String} (h : ∀ p ∈ paths, PlainPath p) : ∀ t ∈ paths.map Token.word, t.Plain := by
  intro t ht
  obtain ⟨p, hp, rfl⟩ := List.mem_map.mp ht
  exact h p hp

theorem plain_sectionTokens (mark : Token) (hmark : mark.Plain) {paths : List String} (h : ∀ p ∈ paths, PlainPath p) :
    ∀ t ∈ sectionTokens mark paths, t.Plain := by
  intro t ht
  rw [sectionTokens] at ht
  split at ht
  · cases ht
  · rcases List.mem_cons.mp ht with rfl | ht
    · exact hmark
    · exact plain_words h t ht

theorem spacedWords_closeWithColon {ws : List String} (h : ws ≠ []) :
    spacedWords (closeWithColon ws) = spacedWords ws ++ [':'] := by
  induction ws with
  | nil => exact absurd rfl h
  | cons w ws ih =>
    cases ws with
    | nil => simp [closeWithColon, spacedWords]
    | cons v vs =>
      have := ih (List.cons_ne_nil v vs)
      simp only [closeWithColon, spacedWords, List.flatMap_cons, List.append_assoc] at this ⊢
      rw [this]

theorem spacedWords_paths (paths : List String) : spacedWords (paths.map escapePath) = spaced (paths.map .word) := by
  simp [spacedWords, spaced, List.flatMap_map, escapePath, Token.written]

theorem spacedWords_sectionWords {mark : String} {t : Token} (h : mark.toList = t.written) (paths : List String) :
    spacedWords (sectionWords mark paths) = spaced (sectionTokens t paths) := by
  unfold sectionWords sectionTokens
  cases paths with
  | nil => rfl
  | cons p ps =>
    have := spacedWords_paths (p :: ps)
    simp only [List.isEmpty_cons, Bool.false_eq_true, if_false]
    simp only [spacedWords, spaced, List.flatMap_cons, h] at this ⊢
    rw [this]

theorem spaced_append (ts us : List Token) : spaced (ts ++ us) = spaced ts ++ spaced us :=
  List.flatMap_append

def PlainRule (rule : String) : Prop :=
  rule.toList.flatMap pathChar = rule.toList

/-- The line of a statement part by part. -/
theorem Statement.toList_line {s : Statement} (houtputs : s.outputs ≠ []) (hrule : PlainRule s.rule) :
    s.line.toList = buildWord ++ (spaced s.front ++ ':' :: spaced s.back) := by
  -- the colon is attached to the last word of whatever stands in front, so that must not be empty
  have hfront : s.outputs.map escapePath ++ sectionWords "|" s.implicitOutputs ≠ [] := by
    simp [houtputs]
  have hclose : closeWithColon ("build" :: (s.outputs.map escapePath ++ sectionWords "|" s.implicitOutputs)) =
      "build" :: closeWithColon (s.outputs.map escapePath ++ sectionWords "|" s.implicitOutputs) := by
    obtain ⟨w, ws, h⟩ := List.exists_cons_of_ne_nil hfront
    rw [h]
    rfl
  have hword : spacedWords [s.rule] = spaced [.word s.rule] := by
    rw [PlainRule] at hrule
    simp [spacedWords, spaced, Token.written, hrule]
  have hbuild : "build".toList = buildWord := by decide
  have hline : s.line = String.intercalate " "
      ("build" :: (closeWithColon (s.outputs.map escapePath ++ sectionWords "|" s.implicitOutputs)
        ++ ([s.rule] ++ s.inputs.map escapePath ++ sectionWords "|" s.implicitInputs
        ++ sectionWords "||" s.orderOnlyInputs))) := by
    rw [Statement.line, List.cons_append, hclose]
    simp
  rw [hline, toList_intercalate_cons, hbuild, spacedWords_append, spacedWords_closeWithColon hfront]
  have hpipe : "|".toList = Token.pipe.written := by decide
  have hpipes : "||".toList = Token.pipes.written := by decide
  have hback : s.back = [.word s.rule] ++ s.inputs.map .word ++ sectionTokens .pipe s.implicitInputs
      ++ sectionTokens .pipes s.orderOnlyInputs := rfl
  simp only [spacedWords_append, spacedWords_paths, spacedWords_sectionWords hpipe, spacedWords_sectionWords hpipes,
    hword, hback, Statement.front, spaced_append, List.append_assoc]
  rfl

end Lines

section Statements

theorem leadingWords_words (ws : List String) {ts : List Token} (h : leadingWords ts = ([], ts)) :
    leadingWords (ws.map .word ++ ts) = (ws, ts) := by
  induction ws with
  | nil => exact h
  | cons w ws ih => simp [leadingWords, ih]

theorem markedWords_sectionTokens (mark : Token) (paths : List String) {ts : List Token}
    (h : leadingWords ts = ([], ts)) (hmark : ts.head? ≠ some mark) :
    markedWords mark (sectionTokens mark paths ++ ts) = (paths, ts) := by
  cases paths with
  | nil =>
    cases ts with
    | nil => rfl
    | cons t ts =>
      have hne : t ≠ mark := fun he => hmark (by rw [he]; rfl)
      simp [sectionTokens, markedWords, hne]
  | cons p ps =>
    have := leadingWords_words (p :: ps) h
    simpa [sectionTokens, markedWords] using this

theorem leadingWords_sectionTokens (mark : Token) (hmark : ∀ w, mark ≠ .word w) (paths : List String)
    {ts : List Token} (h : leadingWords ts = ([], ts)) :
    leadingWords (sectionTokens mark paths ++ ts) = ([], sectionTokens mark paths ++ ts) := by
  cases paths with
  | nil => exact h
  | cons p ps =>
    cases mark with
    | word w => exact absurd rfl (hmark w)
    | pipe => rfl
    | pipes => rfl
    | colon => rfl

/-- The parts of the line of a statement make that statement. -/
theorem statementOf_parts {s : Statement} (houtputs : s.outputs ≠ []) (bindings : List Binding) :
    statementOf (s.front ++ .colon :: s.back) bindings = some { s with bindings } := by
  have hcolon : leadingWords (.colon :: s.back) = ([], .colon :: s.back) := rfl
  have hfirst : leadingWords (s.front ++ .colon :: s.back) =
      (s.outputs, sectionTokens .pipe s.implicitOutputs ++ .colon :: s.back) := by
    rw [Statement.front, List.append_assoc]
    exact leadingWords_words _ (leadingWords_sectionTokens .pipe (by simp) _ hcolon)
  have hsecond := markedWords_sectionTokens .pipe s.implicitOutputs hcolon (by simp)
  have hlast : leadingWords (sectionTokens .pipes s.orderOnlyInputs) =
      ([], sectionTokens .pipes s.orderOnlyInputs) := by
    have hnil : leadingWords [] = ([], []) := rfl
    simpa using leadingWords_sectionTokens .pipes (by simp) s.orderOnlyInputs hnil
  have hthird : leadingWords (s.inputs.map .word ++ (sectionTokens .pipe s.implicitInputs
      ++ sectionTokens .pipes s.orderOnlyInputs)) =
      (s.inputs, sectionTokens .pipe s.implicitInputs ++ sectionTokens .pipes s.orderOnlyInputs) :=
    leadingWords_words _ (leadingWords_sectionTokens .pipe (by simp) _ hlast)
  have hfourth : markedWords .pipe (sectionTokens .pipe s.implicitInputs ++ sectionTokens .pipes s.orderOnlyInputs) =
      (s.implicitInputs, sectionTokens .pipes s.orderOnlyInputs) := by
    refine markedWords_sectionTokens _ _ hlast ?_
    cases s.orderOnlyInputs <;> simp [sectionTokens]
  have hfifth : markedWords .pipes (sectionTokens .pipes s.orderOnlyInputs) = (s.orderOnlyInputs, []) := by
    have hnil : leadingWords [] = ([], []) := rfl
    simpa using markedWords_sectionTokens .pipes s.orderOnlyInputs hnil (by simp)
  have hback : s.back = .word s.rule :: (s.inputs.map .word ++ (sectionTokens .pipe s.implicitInputs
      ++ sectionTokens .pipes s.orderOnlyInputs)) := by
    rw [Statement.back]
    simp
  rw [statementOf, hfirst]
  dsimp only
  rw [hsecond, hback]
  dsimp only
  rw [hthird]
  dsimp only
  rw [hfourth]
  dsimp only
  rw [hfifth]
  simp [houtputs]

end Statements

section Bindings

/-- The text of a value as it is read: blanks at its front are lost. -/
def trimmed (value : String) : String :=
  String.ofList (skipBlanks value.toList)

/-- A key that can be told from the value. -/
def PlainKey (key : String) : Prop :=
  key ≠ "" ∧ ∀ c ∈ key.toList, isKeyChar c = true ∧ c ≠ '#' ∧ c ≠ '\n'

instance (key : String) : Decidable (PlainKey key) :=
  @instDecidableAnd _ _ inferInstance (List.decidableBAll _ _)

theorem PlainKey.exists_cons {key : String} (h : PlainKey key) :
    ∃ c cs, key.toList = c :: cs ∧ c ≠ ' ' ∧ c ≠ '#' := by
  obtain ⟨c, cs, hcs⟩ := exists_cons_of_ne_empty h.1
  obtain ⟨hchar, hcomment, _⟩ := h.2 c (hcs ▸ List.mem_cons_self)
  refine ⟨c, cs, hcs, fun hblank => ?_, hcomment⟩
  rw [hblank] at hchar
  cases hchar

def Binding.valueChars (b : Binding) : List Char :=
  ' ' :: ' ' :: (b.key.toList ++ ' ' :: '=' :: ' ' :: b.value.toList.flatMap valueChar)

@[simp] theorem skipBlanks_blank (cs : List Char) : skipBlanks (' ' :: cs) = skipBlanks cs := rfl

theorem skipBlanks_of_ne {c : Char} (h : c ≠ ' ') (cs : List Char) : skipBlanks (c :: cs) = c :: cs := by
  simp [skipBlanks, h]

theorem skipBlanks_valueChars (cs : List Char) :
    skipBlanks (cs.flatMap valueChar) = (skipBlanks cs).flatMap valueChar := by
  induction cs with
  | nil => rfl
  | cons c cs ih =>
    by_cases hblank : c = ' '
    · rw [hblank]
      exact ih
    · rw [skipBlanks_of_ne hblank]
      by_cases hdollar : c = '$'
      · rw [hdollar]
        rfl
      · have hc : valueChar c = [c] := if_neg hdollar
        rw [List.flatMap_cons, hc]
        exact skipBlanks_of_ne hblank _

theorem unescaped_valueChars (cs : List Char) : unescaped (cs.flatMap valueChar) = some cs := by
  induction cs with
  | nil => rfl
  | cons c cs ih =>
    rw [List.flatMap_cons, valueChar]
    by_cases hdollar : c = '$'
    · rw [if_pos hdollar, hdollar, unescaped.eq_def]
      show (unescaped (cs.flatMap valueChar)).map ('$' :: ·) = _
      rw [ih]
      rfl
    · rw [if_neg hdollar, unescaped.eq_def]
      dsimp only [List.cons_append, List.nil_append]
      rw [if_neg hdollar, ih]
      rfl

theorem bindingOf_valueChars {b : Binding} (h : PlainKey b.key) :
    bindingOf b.valueChars = some ⟨b.key, trimmed b.value⟩ := by
  have hchars : ∀ c ∈ b.key.toList, isKeyChar c = true := fun c hc => (h.2 c hc).1
  have hskip : ∀ rest, skipBlanks (b.key.toList ++ rest) = b.key.toList ++ rest := fun rest => by
    obtain ⟨c, cs, hcs, hblank, _⟩ := h.exists_cons
    rw [hcs]
    exact skipBlanks_of_ne hblank _
  have hdrop : ∀ rest, (b.key.toList ++ ' ' :: rest).dropWhile isKeyChar = ' ' :: rest := fun rest => by
    rw [List.dropWhile_append_of_pos hchars]
    rfl
  have htake : ∀ rest, (b.key.toList ++ ' ' :: rest).takeWhile isKeyChar = b.key.toList := fun rest => by
    rw [List.takeWhile_append_of_pos hchars]
    exact List.append_nil _
  have hequals : ∀ rest, skipBlanks (' ' :: '=' :: rest) = '=' :: rest := fun rest => rfl
  simp only [bindingOf, Binding.valueChars, skipBlanks_blank, hskip, hdrop, htake, hequals, skipBlanks_valueChars,
    unescaped_valueChars, Option.map_some, String.ofList_toList, trimmed]

theorem mapM_bindingOf {bs : List Binding} (h : ∀ b ∈ bs, PlainKey b.key) :
    (bs.map Binding.valueChars).mapM bindingOf = some (bs.map fun b => ⟨b.key, trimmed b.value⟩) := by
  induction bs with
  | nil => rfl
  | cons b bs ih =>
    simp [bindingOf_valueChars (h b List.mem_cons_self), ih fun c hc => h c (List.mem_cons_of_mem b hc)]

end Bindings

end BuildTree.Ninja
