import BuildTree.Text.Lines
import Mathlib.Data.List.Basic

/-!
# Cutting into lines, and joining

A text without line breaks that a line feed follows is one line, and no line has a line break. Joined pieces are the
pieces, each but the last with the separator behind it.
-/

namespace BuildTree.Text

theorem splitLinesFrom_nil (line : List Char) : splitLinesFrom line [] = if line.isEmpty then [] else [line] := rfl

theorem splitLinesFrom_return (line rest : List Char) :
    splitLinesFrom line ('\r' :: '\n' :: rest) = line :: splitLinesFrom [] rest := rfl

theorem splitLinesFrom_cons {c : Char} {rest : List Char} (h : ∀ more, c = '\r' → rest = '\n' :: more → False)
    (line : List Char) : splitLinesFrom line (c :: rest) =
      if isLineBreak c then line :: splitLinesFrom [] rest else splitLinesFrom (line ++ [c]) rest := by
  rw [splitLinesFrom.eq_def]
  split
  next he => cases he
  next he =>
    cases he
    exact (h _ rfl rfl).elim
  next he =>
    cases he
    rfl

theorem splitLinesFrom_append {cs : List Char} (h : ∀ c ∈ cs, isLineBreak c = false) (line rest : List Char) :
    splitLinesFrom line (cs ++ rest) = splitLinesFrom (line ++ cs) rest := by
  induction cs generalizing line with
  | nil => rw [List.nil_append, List.append_nil]
  | cons c cs ih =>
    obtain ⟨hc, hcs⟩ := List.forall_mem_cons.mp h
    have hr : ∀ more, c = '\r' → cs ++ rest = '\n' :: more → False := by
      rintro _ rfl
      cases hc
    rw [List.cons_append, splitLinesFrom_cons hr, if_neg (by simp [hc]), ih hcs, List.append_assoc,
      List.singleton_append]

theorem splitLines_line {cs : List Char} (h : ∀ c ∈ cs, isLineBreak c = false) (rest : List Char) :
    splitLines (cs ++ '\n' :: rest) = cs :: splitLines rest := by
  have hreturn : ∀ more, '\n' = '\r' → rest = '\n' :: more → False := by
    intro _ he
    cases he
  have hbreak : isLineBreak '\n' = true := rfl
  rw [splitLines, splitLinesFrom_append h, List.nil_append, splitLinesFrom_cons hreturn, if_pos hbreak, splitLines]

theorem isLineBreak_of_mem_splitLinesFrom {line cs piece : List Char} (hline : ∀ c ∈ line, isLineBreak c = false)
    (h : piece ∈ splitLinesFrom line cs) : ∀ c ∈ piece, isLineBreak c = false := by
  induction line, cs using splitLinesFrom.induct with
  | case1 line hempty =>
    rw [splitLinesFrom_nil, if_pos hempty] at h
    cases h
  | case2 line hempty =>
    rw [splitLinesFrom_nil, if_neg hempty, List.mem_singleton] at h
    exact h ▸ hline
  | case3 line rest ih =>
    rw [splitLinesFrom_return] at h
    rcases List.mem_cons.mp h with rfl | h
    · exact hline
    · exact ih (List.forall_mem_nil _) h
  | case4 line c rest hr hc ih =>
    rw [splitLinesFrom_cons hr, if_pos hc] at h
    rcases List.mem_cons.mp h with rfl | h
    · exact hline
    · exact ih (List.forall_mem_nil _) h
  | case5 line c rest hr hc ih =>
    rw [splitLinesFrom_cons hr, if_neg hc] at h
    refine ih (fun d hd => ?_) h
    rcases List.mem_append.mp hd with hd | hd
    · exact hline d hd
    · rw [List.mem_singleton.mp hd]
      simpa using hc

theorem isLineBreak_of_mem_splitLines {cs piece : List Char} (h : piece ∈ splitLines cs) :
    ∀ c ∈ piece, isLineBreak c = false :=
  isLineBreak_of_mem_splitLinesFrom (List.forall_mem_nil _) h

/-- The last of several pieces stands behind the others, each with its separator. -/
theorem intercalate_concat (sep : List Char) (pieces : List (List Char)) (last : List Char) :
    sep.intercalate (pieces ++ [last]) = pieces.flatMap (· ++ sep) ++ last := by
  induction pieces with
  | nil => simp
  | cons p ps ih =>
    obtain ⟨q, qs, hrest⟩ := List.exists_cons_of_ne_nil (l := ps ++ [last]) (by simp)
    rw [List.cons_append, hrest, List.intercalate_cons_cons, ← hrest, ih, List.flatMap_cons, List.append_assoc,
      List.append_assoc, List.append_assoc]

theorem mem_intercalate {sep : List Char} {pieces : List (List Char)} {c : Char}
    (h : c ∈ sep.intercalate pieces) : c ∈ sep ∨ ∃ piece ∈ pieces, c ∈ piece := by
  rcases List.eq_nil_or_concat pieces with rfl | ⟨ps, last, rfl⟩
  · cases h
  · rw [List.concat_eq_append, intercalate_concat, List.mem_append, List.mem_flatMap] at h
    rcases h with ⟨p, hp, hc⟩ | hc
    · rcases List.mem_append.mp hc with hc | hc
      · exact .inr ⟨p, by simp [hp], hc⟩
      · exact .inl hc
    · exact .inr ⟨last, by simp, hc⟩

theorem mem_intercalate_of_mem {sep : List Char} {pieces : List (List Char)} {c : Char} {piece : List Char}
    (hpiece : piece ∈ pieces) (hc : c ∈ piece) : c ∈ sep.intercalate pieces := by
  rcases List.eq_nil_or_concat pieces with rfl | ⟨ps, last, rfl⟩
  · cases hpiece
  · rw [List.concat_eq_append, intercalate_concat]
    rcases List.mem_append.mp (List.concat_eq_append ▸ hpiece) with hp | hp
    · exact List.mem_append_left _ (List.mem_flatMap.mpr ⟨piece, hp, List.mem_append_left _ hc⟩)
    · exact List.mem_append_right _ (List.mem_singleton.mp hp ▸ hc)

end BuildTree.Text
