import BuildTree.Text.Quoted

/-!
# Quoted texts stand on one line

Between quotes a line break is written as an escape, and no escape holds one.
-/

namespace BuildTree.Text

theorem hexDigit_ne_newline (n : Nat) : hexDigit (n % 16) ≠ '\n' := by
  have hall : ∀ d < 16, hexDigit d ≠ '\n' := by decide
  exact hall _ (Nat.mod_lt n (by decide))

theorem newline_notMem_hexDigits (width n : Nat) : '\n' ∉ hexDigits width n := by
  induction width generalizing n with
  | zero => simp [hexDigits]
  | succ width ih =>
    rw [hexDigits, List.mem_append, List.mem_singleton]
    rintro (h | h)
    · exact ih _ h
    · exact hexDigit_ne_newline n h.symm

theorem newline_notMem_quotedChar {quote : Char} (hquote : quote ≠ '\n') (c : Char) :
    '\n' ∉ quotedChar quote c := by
  unfold quotedChar
  by_cases hesc : c = quote ∨ c = '\\'
  · rw [if_pos hesc]
    rcases hesc with rfl | rfl <;> simp [Ne.symm hquote]
  rw [if_neg hesc]
  split
  · simp
  split
  · simp
  split
  · simp
  next hn _ =>
    split
    · simpa using Ne.symm hn
    · unfold codePointEscape
      split
      · simp [newline_notMem_hexDigits]
      split <;> simp [newline_notMem_hexDigits]

/-- A text between quotes stands on one line, whatever it is. -/
theorem newline_notMem_quoted (s : String) : '\n' ∉ (quoted s).toList := by
  have hquote : quoteFor s.toList ≠ '\n' := by
    unfold quoteFor
    split <;> decide
  simp only [quoted, quotedChars, String.toList_ofList, List.cons_append, List.mem_cons, List.mem_append,
    List.not_mem_nil, or_false]
  rintro (h | h | h)
  · exact hquote h.symm
  · obtain ⟨c, _, hc⟩ := List.mem_flatMap.mp h
    exact newline_notMem_quotedChar hquote c hc
  · exact hquote h.symm

end BuildTree.Text
