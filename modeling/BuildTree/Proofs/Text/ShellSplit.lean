import BuildTree.Proofs.Text.Fields
import BuildTree.Text.ShellWord

/-!
# Splitting a command line

How a shell splits a line into words, as long as it only has to take quotes away: a line in which anything means more
than itself outside quotes, or a dollar sign, a backquote or a backslash stands in double quotes, is refused. A line of
words that were quoted one by one is split into these words.
-/

namespace BuildTree.Text

/-- The characters that separate words. -/
def isShellBlank (c : Char) : Bool :=
  c = ' ' || c = '\t' || c = '\n'

/-- The characters that mean something else than themselves outside quotes. -/
def shellSpecials : List Char :=
  ['|', '&', ';', '<', '>', '(', ')', '$', '\x60', '\\', '*', '?', '[', ']', '\x7b', '\x7d', '!', '#', '~']

/-- The words of a line, behind the quote that is open and the word that has begun. -/
def shellWordsFrom (quote : Option Char) (word : Option (List Char)) : List Char → Option (List (List Char))
  | [] => if quote.isSome then none else some word.toList
  | c :: rest => match quote with
    | some q =>
      if c = q then shellWordsFrom none word rest
      else if q = '"' ∧ c ∈ ['$', '\x60', '\\'] then none
      else shellWordsFrom (some q) (some (word.getD [] ++ [c])) rest
    | none =>
      if isShellBlank c then (shellWordsFrom none none rest).map (word.toList ++ ·)
      else if c = '\'' ∨ c = '"' then shellWordsFrom (some c) (some (word.getD [])) rest
      else if c ∈ shellSpecials then none
      else shellWordsFrom none (some (word.getD [] ++ [c])) rest

/-- The words that a shell splits a line into. -/
def shellSplit (line : String) : Option (List String) :=
  (shellWordsFrom none none line.toList).map (·.map String.ofList)

theorem shellWordsFrom_safe (word : Option (List Char)) {c : Char} (hc : isShellSafe c = true) (rest : List Char) :
    shellWordsFrom none word (c :: rest) = shellWordsFrom none (some (word.getD [] ++ [c])) rest := by
  have hunsafe : (' ' :: '\t' :: '\n' :: '\'' :: '"' :: shellSpecials).all (fun d => !isShellSafe d) = true := by
    decide
  have hne : ∀ d ∈ ' ' :: '\t' :: '\n' :: '\'' :: '"' :: shellSpecials, c ≠ d := fun d hd he => by
    have hd' := List.all_eq_true.mp hunsafe d hd
    rw [← he, hc] at hd'
    cases hd'
  have hblank : isShellBlank c = false := by
    simp [isShellBlank, hne ' ' (by decide), hne '\t' (by decide), hne '\n' (by decide)]
  have hquote : ¬ (c = '\'' ∨ c = '"') := by simp [hne '\'' (by decide), hne '"' (by decide)]
  have hspecial : c ∉ shellSpecials := fun hmem => hne c (by simp [hmem]) rfl
  rw [shellWordsFrom]
  simp only [hblank, Bool.false_eq_true, if_false, if_neg hquote, if_neg hspecial]

theorem shellWordsFrom_safes {cs : List Char} (hcs : cs.all isShellSafe = true) (word rest : List Char) :
    shellWordsFrom none (some word) (cs ++ rest) = shellWordsFrom none (some (word ++ cs)) rest := by
  induction cs generalizing word with
  | nil => simp
  | cons c cs ih =>
    simp only [List.all_cons, Bool.and_eq_true] at hcs
    rw [List.cons_append, shellWordsFrom_safe _ hcs.1, Option.getD_some, ih hcs.2, List.append_assoc]
    rfl

/-- What was put into single quotes is one word, however the quotes in it are written. -/
theorem shellWordsFrom_quoted (cs word rest : List Char) :
    shellWordsFrom (some '\'') (some word) (cs.flatMap shellQuotedChar ++ '\'' :: rest) =
      shellWordsFrom none (some (word ++ cs)) rest := by
  induction cs generalizing word with
  | nil => simp [shellWordsFrom]
  | cons c cs ih =>
    rw [List.flatMap_cons, List.append_assoc, shellQuotedChar]
    by_cases hc : c = '\''
    · -- the quote closes, stands in double quotes, and opens again
      rw [if_pos hc, hc]
      have hstep : ∀ more, shellWordsFrom (some '\'') (some word) (['\'', '"', '\'', '"', '\''] ++ more) =
          shellWordsFrom (some '\'') (some (word ++ ['\''])) more := fun more => by
        simp [shellWordsFrom, isShellBlank]
      rw [hstep, ih, List.append_assoc]
      rfl
    · rw [if_neg hc, List.singleton_append, shellWordsFrom]
      simp only [if_neg hc, Option.getD_some]
      rw [if_neg (by simp), ih, List.append_assoc]
      rfl

theorem shellWordsFrom_word (cs rest : List Char) :
    shellWordsFrom none none (shellWordChars cs ++ rest) = shellWordsFrom none (some cs) rest := by
  unfold shellWordChars
  by_cases hsafe : (!cs.isEmpty && cs.all isShellSafe) = true
  · rw [if_pos hsafe]
    simp only [Bool.and_eq_true, Bool.not_eq_true', List.isEmpty_eq_false_iff] at hsafe
    obtain ⟨hne, hall⟩ := hsafe
    obtain ⟨c, ds, rfl⟩ := List.exists_cons_of_ne_nil hne
    simp only [List.all_cons, Bool.and_eq_true] at hall
    rw [List.cons_append, shellWordsFrom_safe _ hall.1, shellWordsFrom_safes hall.2]
    rfl
  · rw [if_neg hsafe, List.cons_append, List.cons_append, List.append_assoc, List.singleton_append]
    have hopen : ∀ more, shellWordsFrom none none ('\'' :: more) = shellWordsFrom (some '\'') (some []) more :=
      fun more => by simp [shellWordsFrom, isShellBlank]
    rw [hopen, shellWordsFrom_quoted, List.nil_append]

theorem shellWordsFrom_spaced (word : List Char) (args : List String) :
    shellWordsFrom none (some word) (spacedWords (args.map shellWord)) = some (word :: args.map String.toList) := by
  induction args generalizing word with
  | nil => simp [spacedWords, shellWordsFrom]
  | cons arg args ih =>
    have hsplit : spacedWords ((arg :: args).map shellWord) =
        ' ' :: (shellWordChars arg.toList ++ spacedWords (args.map shellWord)) := by
      simp [spacedWords, shellWord]
    rw [hsplit, shellWordsFrom]
    simp only [isShellBlank, decide_true, Bool.true_or, if_true]
    rw [shellWordsFrom_word, ih]
    rfl

/-- A command line is split into the words that it was made from. -/
theorem shellSplit_shellLine (args : List String) : shellSplit (shellLine args) = some args := by
  cases args with
  | nil => rfl
  | cons arg args =>
    have hline : (shellLine (arg :: args)).toList = shellWordChars arg.toList ++ spacedWords (args.map shellWord) := by
      rw [shellLine, List.map_cons, toList_intercalate_cons, shellWord, String.toList_ofList]
    rw [shellSplit, hline, shellWordsFrom_word, shellWordsFrom_spaced]
    simp [Function.comp_def]

end BuildTree.Text
