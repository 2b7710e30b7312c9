import BuildTree.Proofs.Text.Lines
import BuildTree.Proofs.Text.ShellSplit

/-!
# Splitting a line into commands

How a shell splits a line into commands that run one after the other as long as each of them succeeds. Only a double
ampersand outside quotes ends a command; between the ends it is a line of words. Command lines that were made from
words and then joined are split into these words again, whatever the words are.
-/

namespace BuildTree.Text

/-- The pieces of a line between its double ampersands, behind the quote that is open and the piece that has begun. -/
def andPieces (quote : Option Char) (piece : List Char) : List Char → List (List Char)
  | [] => [piece]
  | c :: rest => match quote with
    | some q => andPieces (if c = q then none else some q) (piece ++ [c]) rest
    | none =>
      if c = '\'' ∨ c = '"' then andPieces (some c) (piece ++ [c]) rest
      else if c = '&' then match rest with
        | [] => [piece ++ ['&']]
        | d :: more =>
          if d = '&' then piece :: andPieces none [] more else andPieces none (piece ++ ['&']) (d :: more)
      else andPieces none (piece ++ [c]) rest

/-- The commands that a shell splits a line into, word by word. A blank line has none; nothing may stand for a command
between two ampersands. -/
def shellCommands (line : String) : Option (List (List String)) :=
  ((andPieces none [] line.toList).mapM (shellWordsFrom none none)).bind fun commands =>
    if commands = [[]] then some []
    else if [] ∈ commands then none
    else some (commands.map (·.map String.ofList))

section Pieces

theorem andPieces_plain {c : Char} (hc : c ∉ ['\'', '"', '&']) (piece rest : List Char) :
    andPieces none piece (c :: rest) = andPieces none (piece ++ [c]) rest := by
  simp only [List.mem_cons, List.not_mem_nil, or_false, not_or] at hc
  obtain ⟨hsingle, hdouble, hand⟩ := hc
  rw [andPieces.eq_def]
  dsimp only
  rw [if_neg (by simp [hsingle, hdouble]), if_neg hand]

theorem andPieces_open {q : Char} (hq : q = '\'' ∨ q = '"') (piece rest : List Char) :
    andPieces none piece (q :: rest) = andPieces (some q) (piece ++ [q]) rest := by
  rw [andPieces.eq_def]
  exact if_pos hq

theorem andPieces_within (q c : Char) (piece rest : List Char) :
    andPieces (some q) piece (c :: rest) = andPieces (if c = q then none else some q) (piece ++ [c]) rest := rfl

theorem andPieces_safes {cs : List Char} (hcs : cs.all isShellSafe = true) (piece rest : List Char) :
    andPieces none piece (cs ++ rest) = andPieces none (piece ++ cs) rest := by
  have hunsafe : ['\'', '"', '&'].all (fun d => !isShellSafe d) = true := by decide
  induction cs generalizing piece with
  | nil => simp
  | cons c cs ih =>
    simp only [List.all_cons, Bool.and_eq_true] at hcs
    have hc : c ∉ ['\'', '"', '&'] := fun hmem => by
      have hc' := List.all_eq_true.mp hunsafe c hmem
      rw [hcs.1] at hc'
      cases hc'
    rw [List.cons_append, andPieces_plain hc, ih hcs.2, List.append_assoc, List.singleton_append]

theorem andPieces_quoted (cs piece rest : List Char) :
    andPieces (some '\'') piece (cs.flatMap shellQuotedChar ++ '\'' :: rest) =
      andPieces none (piece ++ cs.flatMap shellQuotedChar ++ ['\'']) rest := by
  induction cs generalizing piece with
  | nil => simp [andPieces]
  | cons c cs ih =>
    rw [List.flatMap_cons, List.append_assoc, shellQuotedChar]
    by_cases hc : c = '\''
    · -- the quote closes, stands in double quotes, and opens again
      rw [if_pos hc]
      have hstep : ∀ more, andPieces (some '\'') piece (['\'', '"', '\'', '"', '\''] ++ more) =
          andPieces (some '\'') (piece ++ ['\'', '"', '\'', '"', '\'']) more := fun more => by
        simp [andPieces_within, andPieces_open]
      rw [hstep, ih, List.append_assoc piece]
    · rw [if_neg hc, List.singleton_append, andPieces_within, if_neg hc, ih, List.append_assoc piece,
        List.singleton_append]

/-- No ampersand in a word ends a command: it stands in quotes. -/
theorem andPieces_word (cs piece rest : List Char) :
    andPieces none piece (shellWordChars cs ++ rest) = andPieces none (piece ++ shellWordChars cs) rest := by
  unfold shellWordChars
  by_cases hsafe : (!cs.isEmpty && cs.all isShellSafe) = true
  · rw [if_pos hsafe]
    simp only [Bool.and_eq_true] at hsafe
    exact andPieces_safes hsafe.2 piece rest
  · rw [if_neg hsafe, List.cons_append, List.cons_append, List.append_assoc, List.singleton_append,
      andPieces_open (.inl rfl), andPieces_quoted]
    simp

theorem andPieces_spaced (args : List String) (piece rest : List Char) :
    andPieces none piece (spacedWords (args.map shellWord) ++ rest) =
      andPieces none (piece ++ spacedWords (args.map shellWord)) rest := by
  induction args generalizing piece with
  | nil => simp [spacedWords]
  | cons arg args ih =>
    have hsplit : spacedWords ((arg :: args).map shellWord) =
        ' ' :: (shellWordChars arg.toList ++ spacedWords (args.map shellWord)) := by
      simp [spacedWords, shellWord]
    rw [hsplit, List.cons_append, List.append_assoc, andPieces_plain (by decide), andPieces_word, ih]
    simp

theorem andPieces_line (args : List String) (piece rest : List Char) :
    andPieces none piece ((shellLine args).toList ++ rest) = andPieces none (piece ++ (shellLine args).toList) rest := by
  cases args with
  | nil => simp [shellLine]
  | cons arg args =>
    have hline : (shellLine (arg :: args)).toList = shellWordChars arg.toList ++ spacedWords (args.map shellWord) := by
      rw [shellLine, List.map_cons, toList_intercalate_cons, shellWord, String.toList_ofList]
    rw [hline, List.append_assoc, andPieces_word, andPieces_spaced, List.append_assoc]

theorem andPieces_separator (piece rest : List Char) :
    andPieces none piece (" && ".toList ++ rest) = (piece ++ [' ']) :: andPieces none [' '] rest := by
  have hseparator : " && ".toList ++ rest = ' ' :: '&' :: '&' :: ' ' :: rest := by simp
  have hcut : ∀ more, andPieces none (piece ++ [' ']) ('&' :: '&' :: more) = (piece ++ [' ']) :: andPieces none [] more :=
    fun more => rfl
  rw [hseparator, andPieces_plain (by decide), hcut, andPieces_plain (by decide)]
  rfl

end Pieces

section Commands

/-- A blank behind a line that can be split changes nothing. -/
theorem shellWordsFrom_trailing {quote : Option Char} {word : Option (List Char)} {cs : List Char}
    {words : List (List Char)} (h : shellWordsFrom quote word cs = some words) :
    shellWordsFrom quote word (cs ++ [' ']) = some words := by
  induction cs generalizing quote word words with
  | nil =>
    cases quote with
    | some q => cases h
    | none =>
      cases h
      simp [shellWordsFrom, isShellBlank]
  | cons c cs ih =>
    rw [shellWordsFrom.eq_def] at h
    rw [List.cons_append, shellWordsFrom.eq_def]
    cases quote with
    | some q =>
      dsimp only at h ⊢
      split
      next hc => rw [if_pos hc] at h; exact ih h
      next hc =>
        rw [if_neg hc] at h
        split
        next hescape => rw [if_pos hescape] at h; cases h
        next hescape => rw [if_neg hescape] at h; exact ih h
    | none =>
      dsimp only at h ⊢
      split
      next hblank =>
        rw [if_pos hblank] at h
        obtain ⟨rest, hrest, rfl⟩ := Option.map_eq_some_iff.mp h
        rw [ih hrest, Option.map_some]
      next hblank =>
        rw [if_neg hblank] at h
        split
        next hquote => rw [if_pos hquote] at h; exact ih h
        next hquote =>
          rw [if_neg hquote] at h
          split
          next hspecial => rw [if_pos hspecial] at h; cases h
          next hspecial => rw [if_neg hspecial] at h; exact ih h

theorem shellWordsFrom_line (args : List String) :
    shellWordsFrom none none (shellLine args).toList = some (args.map String.toList) := by
  have hsplit := shellSplit_shellLine args
  rw [shellSplit] at hsplit
  obtain ⟨words, hwords, hargs⟩ := Option.map_eq_some_iff.mp hsplit
  rw [hwords, ← hargs, List.map_map]
  simp [Function.comp_def]

theorem shellWordsFrom_leading {blanks : List Char} (hblanks : blanks = [] ∨ blanks = [' ']) (cs : List Char) :
    shellWordsFrom none none (blanks ++ cs) = shellWordsFrom none none cs := by
  rcases hblanks with rfl | rfl
  · rfl
  · simp [shellWordsFrom, isShellBlank]

/-- The pieces of joined lines are the lines with blanks around them, so they have the words of the lines. -/
theorem mapM_andPieces {commands : List (List String)} (hne : commands ≠ []) {blanks : List Char}
    (hblanks : blanks = [] ∨ blanks = [' ']) :
    (andPieces none blanks (" && ".toList.intercalate (commands.map fun args => (shellLine args).toList))).mapM
        (shellWordsFrom none none) =
      some (commands.map (·.map String.toList)) := by
  -- behind a separator a piece begins with the blank of the separator
  induction commands generalizing blanks with
  | nil => exact absurd rfl hne
  | cons args others ih =>
    have hline := shellWordsFrom_line args
    cases others with
    | nil =>
      have hlast := andPieces_line args blanks []
      simp only [List.append_nil, andPieces] at hlast
      simp [hlast, shellWordsFrom_leading hblanks, hline]
    | cons next others =>
      have hrest := ih (List.cons_ne_nil next others) (.inr rfl)
      rw [List.map_cons] at hrest
      rw [List.map_cons, List.map_cons, List.intercalate_cons_cons, List.append_assoc, andPieces_line,
        andPieces_separator, List.mapM_cons, hrest, List.append_assoc, shellWordsFrom_leading hblanks,
        shellWordsFrom_trailing hline]
      rfl

/-- Joined command lines are split into the commands that they were made from, each into its words. -/
theorem shellCommands_lines {commands : List (List String)} (h : ∀ args ∈ commands, args ≠ []) :
    shellCommands (String.intercalate " && " (commands.map shellLine)) = some commands := by
  cases commands with
  | nil => rfl
  | cons args others =>
    have hpieces := mapM_andPieces (List.cons_ne_nil args others) (.inl rfl)
    have hline : (String.intercalate " && " ((args :: others).map shellLine)).toList =
        " && ".toList.intercalate ((args :: others).map fun args => (shellLine args).toList) := by
      rw [String.toList_intercalate, List.map_map]
      rfl
    have hne : (args :: others).map (·.map String.toList) ≠ [[]] := by
      simp [h args List.mem_cons_self]
    have hfull : [] ∉ (args :: others).map (·.map String.toList) := by
      intro hmem
      obtain ⟨args', hargs, hempty⟩ := List.mem_map.mp hmem
      exact h args' hargs (List.map_eq_nil_iff.mp hempty)
    have hback : ((args :: others).map (·.map String.toList)).map (·.map String.ofList) = args :: others := by
      simp [Function.comp_def]
    rw [shellCommands, hline, hpieces, Option.bind_some, if_neg hne, if_neg hfull, hback]

end Commands

end BuildTree.Text
