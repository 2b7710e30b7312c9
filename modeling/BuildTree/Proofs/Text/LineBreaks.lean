import BuildTree.Decimal.FloatText
import BuildTree.Proofs.Text.Lines
import BuildTree.Text.ShellWord

/-!
# Line breaks in written texts

Words for a shell, and pieces that are joined, have the line breaks of what they were made from and no others. Numbers
have none.
-/

namespace BuildTree.Text

section Words

theorem newline_mem_shellWord_iff (arg : String) : '\n' ∈ (shellWord arg).toList ↔ '\n' ∈ arg.toList := by
  rw [shellWord, String.toList_ofList, shellWordChars]
  split
  · rfl
  · have hchar : ∀ c, '\n' ∈ shellQuotedChar c ↔ c = '\n' := by
      intro c
      unfold shellQuotedChar
      split
      next h =>
        subst h
        decide
      next => simp [eq_comm]
    simp [hchar]

theorem newline_mem_intercalate_iff {α : Type} {sep : String} (hsep : '\n' ∉ sep.toList) (f : α → String)
    (pieces : List α) :
    '\n' ∈ (String.intercalate sep (pieces.map f)).toList ↔ ∃ piece ∈ pieces, '\n' ∈ (f piece).toList := by
  rw [String.toList_intercalate, List.map_map]
  constructor
  · intro h
    rcases mem_intercalate h with h | ⟨_, hpiece, h⟩
    · exact absurd h hsep
    · obtain ⟨piece, hmem, rfl⟩ := List.mem_map.mp hpiece
      exact ⟨piece, hmem, h⟩
  · rintro ⟨piece, hmem, h⟩
    exact mem_intercalate_of_mem (List.mem_map_of_mem hmem) h

theorem newline_mem_shellLine_iff (args : List String) :
    '\n' ∈ (shellLine args).toList ↔ ∃ arg ∈ args, '\n' ∈ arg.toList := by
  rw [shellLine, newline_mem_intercalate_iff (by decide)]
  simp only [newline_mem_shellWord_iff]

end Words

section Numbers
open Decimal

theorem newline_notMem_nat (n : Nat) : '\n' ∉ (toString n).toList := by
  rw [Nat.toString_eq_ofList_toDigits, String.toList_ofList]
  intro h
  exact absurd (Nat.isDigit_of_mem_toDigits (by decide) (by decide) h) (by decide)

theorem newline_notMem_int (n : Int) : '\n' ∉ (toString n).toList := by
  cases n with
  | ofNat n => exact newline_notMem_nat n
  | negSucc n =>
    have htext : toString (Int.negSucc n) = "-" ++ toString (n + 1) := rfl
    rw [htext, String.toList_append, List.mem_append, not_or]
    exact ⟨by decide, newline_notMem_nat (n + 1)⟩

variable {digits : List Char}

theorem newline_notMem_positional (h : '\n' ∉ digits) (whole : Int) : '\n' ∉ (positional digits whole).toList := by
  have hzeros : ∀ n, '\n' ∉ List.replicate n '0' := fun n => by simp
  unfold positional
  split
  · simp [h, hzeros]
  · have hfront : '\n' ∉ digits.take whole.toNat := fun hmem => h (List.mem_of_mem_take hmem)
    have hback : '\n' ∉ digits.drop whole.toNat := fun hmem => h (List.mem_of_mem_drop hmem)
    dsimp only
    split <;> simp [hfront, hback, hzeros]

theorem newline_notMem_scientific (h : '\n' ∉ digits) (exponent : Int) :
    '\n' ∉ (scientific digits exponent).toList := by
  have hexponent : '\n' ∉ (twoDigits exponent.natAbs).toList := by
    unfold twoDigits
    split
    · simpa using newline_notMem_nat exponent.natAbs
    · exact newline_notMem_nat exponent.natAbs
  have hsign : '\n' ∉ (if exponent < 0 then "-" else "+").toList := by split <;> decide
  unfold scientific
  split
  · simp [hexponent, hsign]
  · simp_all
  · simp_all

theorem newline_notMem_floatText (x : Float) : '\n' ∉ (floatText "inf" "nan" x).toList := by
  have hscaled : ∀ d : Scaled, '\n' ∉ d.text.toList := by
    intro d
    have hdigits := newline_notMem_nat d.digits
    unfold Scaled.text
    dsimp only
    split
    · exact newline_notMem_positional hdigits _
    · exact newline_notMem_scientific hdigits _
  have hmagnitude : ∀ bits, '\n' ∉ (magnitudeText bits).toList := by
    intro bits
    unfold magnitudeText
    split
    · decide
    · exact hscaled _
  have hsign : '\n' ∉ (if x.toBits.toNat / twoTo 63 = 1 then "-" else "").toList := by split <;> decide
  unfold floatText
  dsimp only
  split
  · decide
  split
  · simp [hsign]
  · simp [hsign, hmagnitude]

end Numbers
end BuildTree.Text
