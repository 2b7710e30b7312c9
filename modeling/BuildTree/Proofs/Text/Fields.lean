import BuildTree.Text.Lines

/-!
# Cutting and joining

The pieces of a text hold no separator, and pieces that hold none come back when they are joined and cut. Words that
are joined by blanks are the first word and the others, each behind a blank.
-/

namespace BuildTree.Text

theorem notMem_fields {sep : Char} {cs : List Char} : ∀ field ∈ fields sep cs, sep ∉ field := by
  induction cs with
  | nil => simp [fields]
  | cons c cs ih =>
    rw [fields]
    by_cases h : c = sep
    · rw [if_pos h]
      exact List.forall_mem_cons.mpr ⟨by simp, ih⟩
    · rw [if_neg h]
      cases hfields : fields sep cs with
      | nil => simpa using Ne.symm h
      | cons field more =>
        rw [hfields] at ih
        obtain ⟨hfirst, hmore⟩ := List.forall_mem_cons.mp ih
        exact List.forall_mem_cons.mpr ⟨by simp [hfirst, Ne.symm h], hmore⟩

theorem fields_of_notMem {sep : Char} {cs : List Char} (h : sep ∉ cs) : fields sep cs = [cs] := by
  induction cs with
  | nil => rfl
  | cons c cs ih =>
    simp only [List.mem_cons, not_or] at h
    rw [fields, if_neg (Ne.symm h.1), ih h.2]

theorem fields_ne_nil (sep : Char) (cs : List Char) : fields sep cs ≠ [] := by
  cases cs with
  | nil => simp [fields]
  | cons c cs =>
    rw [fields]
    split
    · simp
    · split <;> simp

/-- A separator cuts wherever it stands. -/
theorem fields_append_sep (sep : Char) (cs rest : List Char) :
    fields sep (cs ++ sep :: rest) = fields sep cs ++ fields sep rest := by
  induction cs with
  | nil => simp [fields]
  | cons c cs ih =>
    rw [List.cons_append, fields, ih, fields]
    by_cases h : c = sep
    · rw [if_pos h, if_pos h]
      rfl
    · rw [if_neg h, if_neg h]
      obtain ⟨field, more, hfields⟩ := List.exists_cons_of_ne_nil (fields_ne_nil sep cs)
      rw [hfields]
      rfl

theorem fields_append {sep : Char} {cs : List Char} (h : sep ∉ cs) (rest : List Char) :
    fields sep (cs ++ sep :: rest) = cs :: fields sep rest := by
  rw [fields_append_sep, fields_of_notMem h]
  rfl

/-- What is joined by a separator is cut into the same pieces again. -/
theorem fields_intercalate {sep : Char} {pieces : List (List Char)} (hne : pieces ≠ [])
    (h : ∀ p ∈ pieces, sep ∉ p) : fields sep (List.intercalate [sep] pieces) = pieces := by
  induction pieces with
  | nil => exact absurd rfl hne
  | cons p ps ih =>
    obtain ⟨hp, hps⟩ := List.forall_mem_cons.mp h
    cases ps with
    | nil => simpa [List.intercalate] using fields_of_notMem hp
    | cons q qs =>
      have hrest := ih (List.cons_ne_nil q qs) hps
      have hsplit : List.intercalate [sep] (p :: q :: qs) = p ++ sep :: List.intercalate [sep] (q :: qs) := by
        simp [List.intercalate]
      rw [hsplit, fields_append hp, hrest]

/-- Words, each behind a blank. -/
def spacedWords (words : List String) : List Char :=
  words.flatMap fun w => ' ' :: w.toList

theorem toList_intercalate_cons (w : String) (ws : List String) :
    (String.intercalate " " (w :: ws)).toList = w.toList ++ spacedWords ws := by
  induction ws generalizing w with
  | nil => simp [spacedWords]
  | cons v vs ih =>
    have hstep : (String.intercalate " " (w :: v :: vs)).toList =
        w.toList ++ ' ' :: (String.intercalate " " (v :: vs)).toList := by
      simp [String.toList_intercalate, List.intercalate]
    rw [hstep, ih]
    simp [spacedWords]

theorem spacedWords_append (ws vs : List String) : spacedWords (ws ++ vs) = spacedWords ws ++ spacedWords vs :=
  List.flatMap_append

end BuildTree.Text
