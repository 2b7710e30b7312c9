import BuildTree.Proofs.Path.Spelling
import BuildTree.Proofs.Text.Lines

/-!
# What normal spelling keeps

The components of a path text in normal form are among those of the text, so its characters are, but for slashes and
the single dot of the empty path. A plain last component stays the last one: no `..` behind it cancels it.
-/

namespace BuildTree

namespace Text

theorem mem_of_mem_fields {sep : Char} {cs field : List Char} (h : field ∈ fields sep cs) :
    ∀ c ∈ field, c ∈ cs := by
  induction cs generalizing field with
  | nil =>
    rw [fields, List.mem_singleton] at h
    rw [h]
    exact fun c hc => hc
  | cons d cs ih =>
    rw [fields] at h
    by_cases hd : d = sep
    · rw [if_pos hd] at h
      rcases List.mem_cons.mp h with rfl | h
      · intro c hc
        cases hc
      · intro c hc
        exact List.mem_cons_of_mem d (ih h c hc)
    · rw [if_neg hd] at h
      obtain ⟨first, more, hfields⟩ := List.exists_cons_of_ne_nil (fields_ne_nil sep cs)
      rw [hfields] at h ih
      rcases List.mem_cons.mp h with rfl | h
      · intro c hc
        rcases List.mem_cons.mp hc with rfl | hc
        · exact List.mem_cons_self
        · exact List.mem_cons_of_mem d (ih List.mem_cons_self c hc)
      · intro c hc
        exact List.mem_cons_of_mem d (ih (List.mem_cons_of_mem first h) c hc)

end Text

namespace Path

theorem mem_collapseStep {rooted : Bool} {stack : List String} {part p : String}
    (h : p ∈ collapseStep rooted stack part) : p ∈ stack ∨ p = part := by
  unfold collapseStep at h
  split at h
  · exact .inl h
  split at h
  · exact (List.mem_cons.mp h).symm
  next hdots =>
    have hpart : part = ".." := Classical.not_not.mp hdots
    cases stack with
    | nil =>
      cases rooted with
      | true => cases h
      | false => exact .inr ((List.mem_singleton.mp h).trans hpart.symm)
    | cons last rest =>
      dsimp only at h
      split at h
      · rcases List.mem_cons.mp h with rfl | h
        · exact .inr hpart.symm
        · exact .inl h
      · exact .inl (List.mem_cons_of_mem last h)

theorem mem_foldl_collapseStep {rooted : Bool} {parts stack : List String} {p : String}
    (h : p ∈ parts.foldl (collapseStep rooted) stack) : p ∈ stack ∨ p ∈ parts := by
  induction parts generalizing stack with
  | nil => exact .inl h
  | cons part rest ih =>
    rcases ih h with h | h
    · rcases mem_collapseStep h with h | rfl
      · exact .inl h
      · exact .inr List.mem_cons_self
    · exact .inr (List.mem_cons_of_mem part h)

theorem mem_collapse {rooted : Bool} {parts : List String} {p : String} (h : p ∈ collapse rooted parts) :
    p ∈ parts := by
  rcases mem_foldl_collapseStep (List.mem_reverse.mp h) with h | h
  · cases h
  · exact h

theorem mem_rootText {root : Root} {c : Char} (h : c ∈ root.text.toList) : c = '/' := by
  cases root with
  | relative => cases h
  | slash => exact List.mem_singleton.mp h
  | doubleSlash =>
    have hmem : c ∈ ['/', '/'] := h
    simpa using hmem

/-- Normal spelling brings in no characters but slashes and a dot. -/
theorem mem_normalize {s : String} {c : Char} (h : c ∈ (normalize s).toList) : c ∈ s.toList ∨ c = '/' ∨ c = '.' := by
  unfold normalize at h
  dsimp only at h
  split at h
  · exact .inr (.inr (List.mem_singleton.mp h))
  · rw [String.toList_append, String.toList_intercalate, List.mem_append] at h
    rcases h with h | h
    · exact .inr (.inl (mem_rootText h))
    · rcases Text.mem_intercalate h with h | ⟨piece, hpiece, hc⟩
      · exact .inr (.inl (List.mem_singleton.mp h))
      · obtain ⟨part, hpart, rfl⟩ := List.mem_map.mp hpiece
        obtain ⟨field, hfield, rfl⟩ := List.mem_map.mp (mem_collapse hpart)
        rw [String.toList_ofList] at hc
        exact .inl (Text.mem_of_mem_fields hfield c hc)

theorem mem_joinText {dir s : String} {c : Char} (h : c ∈ (joinText dir s).toList) :
    c ∈ dir.toList ∨ c ∈ s.toList ∨ c = '/' := by
  unfold joinText at h
  split at h
  · exact .inr (.inl h)
  split at h
  · rw [String.toList_append, List.mem_append] at h
    exact h.imp_right .inl
  · rw [String.toList_append, String.toList_append, List.mem_append, List.mem_append] at h
    rcases h with (h | h) | h
    · exact .inl h
    · exact .inr (.inr (List.mem_singleton.mp h))
    · exact .inr (.inl h)

theorem isAbsoluteText_joinText {dir : String} (h : isAbsoluteText dir = true) (s : String) :
    isAbsoluteText (joinText dir s) = true := by
  obtain ⟨cs, hcs⟩ : ∃ cs, dir.toList = '/' :: cs := List.head?_eq_some_iff.mp (by simpa [isAbsoluteText] using h)
  unfold joinText
  split
  · assumption
  split
  · simp [isAbsoluteText, hcs]
  · simp [isAbsoluteText, hcs]

theorem isAbsoluteText_normalize {s : String} (h : isAbsoluteText s = true) :
    isAbsoluteText (normalize s) = true := by
  have hhead : s.toList.head? = some '/' := by simpa [isAbsoluteText] using h
  simpa [isAbsoluteText] using head?_normalize hhead

/-- A name that stands for nothing but one component. -/
def PlainPart (part : String) : Prop :=
  part ∉ ["", ".", ".."] ∧ '/' ∉ part.toList

instance (part : String) : Decidable (PlainPart part) := inferInstanceAs (Decidable (_ ∧ _))

theorem PlainPart.collapseStep {part : String} (h : PlainPart part) (rooted : Bool) (stack : List String) :
    collapseStep rooted stack part = part :: stack := by
  simp only [PlainPart, List.mem_cons, List.not_mem_nil, or_false, not_or] at h
  obtain ⟨⟨hempty, hdot, hdots⟩, _⟩ := h
  unfold Path.collapseStep
  rw [if_neg (by simp [hempty, hdot]), if_pos hdots]

theorem splitFields_joinText (dir : String) {part : String} (h : PlainPart part) :
    ∃ front, Text.splitFields '/' (joinText dir part) = front ++ [part] := by
  obtain ⟨_, hslash⟩ := h
  have hrel : isAbsoluteText part = false := by
    rw [isAbsoluteText, beq_eq_false_iff_ne]
    intro hhead
    obtain ⟨cs, hcs⟩ := List.head?_eq_some_iff.mp hhead
    exact hslash (hcs ▸ List.mem_cons_self)
  have hlast : ∀ cs, (Text.fields '/' (cs ++ '/' :: part.toList)).map String.ofList =
      (Text.fields '/' cs).map String.ofList ++ [part] := by
    intro cs
    rw [Text.fields_append_sep, Text.fields_of_notMem hslash, List.map_append]
    simp
  unfold joinText Text.splitFields
  rw [hrel, if_neg Bool.false_ne_true]
  split
  next hend =>
    rcases hend with rfl | hend
    · exact ⟨[], by simp [Text.fields_of_notMem hslash]⟩
    · obtain ⟨cs, hcs⟩ := List.getLast?_eq_some_iff.mp hend
      refine ⟨(Text.fields '/' cs).map String.ofList, ?_⟩
      rw [String.toList_append, hcs, List.append_assoc]
      exact hlast cs
  · refine ⟨(Text.fields '/' dir.toList).map String.ofList, ?_⟩
    rw [String.toList_append, String.toList_append, List.append_assoc]
    exact hlast dir.toList

/-- A plain name behind a directory is the end of the normal spelling. -/
theorem suffix_normalize_joinText (dir : String) {part : String} (h : PlainPart part) :
    part.toList <:+ (normalize (joinText dir part)).toList := by
  obtain ⟨front, hfront⟩ := splitFields_joinText dir h
  have hcollapse : ∀ rooted, ∃ parts, collapse rooted (front ++ [part]) = parts ++ [part] := by
    intro rooted
    refine ⟨(front.foldl (Path.collapseStep rooted) []).reverse, ?_⟩
    rw [collapse, List.foldl_append, List.foldl_cons, List.foldl_nil, h.collapseStep, List.reverse_cons]
  have hjoin : ∀ (root : Root) (parts : List String),
      part.toList <:+ (root.text ++ String.intercalate "/" (parts ++ [part])).toList := by
    intro root parts
    rw [String.toList_append, String.toList_intercalate, List.map_append, List.map_singleton, Text.intercalate_concat]
    exact (List.suffix_append _ _).trans (List.suffix_append _ _)
  unfold normalize
  dsimp only
  rw [hfront]
  generalize Root.ofChars (joinText dir part).toList = root
  obtain ⟨parts, hparts⟩ := hcollapse (root ≠ .relative)
  rw [hparts]
  split
  next hnil =>
    have hsuffix := hjoin root parts
    rw [hnil] at hsuffix
    have hempty : part = "" := String.toList_inj.mp (List.suffix_nil.mp hsuffix)
    exact absurd (hempty ▸ List.mem_cons_self) h.1
  · exact hjoin root parts

end Path
end BuildTree
