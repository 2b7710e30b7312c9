import BuildTree.Path.Normal
import BuildTree.Proofs.Text.Fields

/-!
# Spelling of paths

Reading the text of an absolute path gives the path back. Its components are what stands between slashes, so none of
them is empty, a single dot or has a slash in it.
-/

namespace BuildTree

namespace Path

/-- Every component of a path can be told from the others in its text. -/
def Spelled (p : Path) : Prop :=
  ∀ part ∈ p.parts, part ≠ "" ∧ part ≠ "." ∧ '/' ∉ part.toList

instance (p : Path) : Decidable p.Spelled := inferInstanceAs (Decidable (∀ part ∈ p.parts, _))

theorem spelled_ofString (s : String) : (ofString s).Spelled := by
  intro part hpart
  obtain ⟨hfield, hkept⟩ := List.mem_filter.mp hpart
  obtain ⟨cs, hcs, rfl⟩ := List.mem_map.mp hfield
  have hslash := Text.notMem_fields cs hcs
  simp only [Bool.and_eq_true, decide_eq_true_eq] at hkept
  exact ⟨hkept.1, hkept.2, by rwa [String.toList_ofList]⟩

theorem Spelled.join {base p : Path} (hbase : base.Spelled) (hp : p.Spelled) : (base.join p).Spelled := by
  unfold Path.join
  split
  · exact hp
  · intro part hpart
    exact (List.mem_append.mp hpart).elim (hbase part) (hp part)

theorem isAbsolute_join {base : Path} (h : base.isAbsolute = true) (p : Path) : (base.join p).isAbsolute = true := by
  unfold Path.join
  split
  · assumption
  · exact h

theorem components_intercalate {parts : List String} (h : ∀ part ∈ parts, part ≠ "" ∧ part ≠ "." ∧ '/' ∉ part.toList) :
    ((Text.fields '/' (List.intercalate ['/'] (parts.map String.toList))).map String.ofList).filter
      (fun part => part ≠ "" && part ≠ ".") = parts := by
  cases parts with
  | nil => rfl
  | cons part rest =>
    rw [Text.fields_intercalate (by simp), List.map_map]
    · have hid : (part :: rest).map (String.ofList ∘ String.toList) = part :: rest := by
        simp [Function.comp_def]
      rw [hid, List.filter_eq_self]
      intro p hp
      simp [(h p hp).1, (h p hp).2.1]
    · intro cs hcs
      obtain ⟨p, hp, rfl⟩ := List.mem_map.mp hcs
      exact (h p hp).2.2

theorem head?_intercalate {parts : List String} (h : ∀ part ∈ parts, part ≠ "" ∧ part ≠ "." ∧ '/' ∉ part.toList) :
    (List.intercalate ['/'] (parts.map String.toList)).head? ≠ some '/' := by
  cases parts with
  | nil => simp [List.intercalate]
  | cons part rest =>
    obtain ⟨hne, _, hslash⟩ := h part List.mem_cons_self
    have hcs : part.toList ≠ [] := fun hnil => hne (by rw [← String.ofList_toList (s := part), hnil])
    obtain ⟨c, cs, hcs⟩ := List.exists_cons_of_ne_nil hcs
    rw [hcs] at hslash
    have hc : c ≠ '/' := fun he => hslash (he ▸ List.mem_cons_self)
    cases rest with
    | nil => simp [List.intercalate, hcs, hc]
    | cons q qs => simp [List.intercalate, hcs, hc]

theorem toList_toString {p : Path} (h : p.isAbsolute = true) :
    p.toString.toList = p.root.text.toList ++ List.intercalate ['/'] (p.parts.map String.toList) := by
  have hroot : p.root ≠ .relative := by simpa [isAbsolute] using h
  rw [Path.toString, if_neg (fun hr => hroot hr.1), String.toList_append, String.toList_intercalate]
  rfl

theorem ofChars_slash {cs : List Char} (h : cs.head? ≠ some '/') : Root.ofChars ('/' :: cs) = .slash := by
  match cs, h with
  | [], _ => rfl
  | c :: cs, h =>
    have hc : c ≠ '/' := fun he => h (by rw [he]; rfl)
    simp [Root.ofChars, hc]

theorem ofChars_doubleSlash {cs : List Char} (h : cs.head? ≠ some '/') :
    Root.ofChars ('/' :: '/' :: cs) = .doubleSlash := by
  match cs, h with
  | [], _ => rfl
  | c :: cs, h =>
    have hc : c ≠ '/' := fun he => h (by rw [he]; rfl)
    simp [Root.ofChars, hc]

/-- The text of an absolute path is read as that path. -/
theorem ofString_toString {p : Path} (hp : p.Spelled) (h : p.isAbsolute = true) : ofString p.toString = p := by
  have htext := toList_toString h
  have hparts := components_intercalate hp
  have hhead := head?_intercalate hp
  obtain ⟨root, parts⟩ := p
  have hempty : ∀ fields : List (List Char), (([] :: fields).map String.ofList).filter
      (fun part => part ≠ "" && part ≠ ".") = (fields.map String.ofList).filter fun part => part ≠ "" && part ≠ "." :=
    fun fields => rfl
  rw [ofString, components, Text.splitFields, htext]
  generalize List.intercalate ['/'] (parts.map String.toList) = cs at hparts hhead ⊢
  cases root with
  | relative => simp [isAbsolute] at h
  | slash =>
    have hfields : Text.fields '/' ('/' :: cs) = [] :: Text.fields '/' cs := by rw [Text.fields, if_pos rfl]
    have hchars : Root.slash.text.toList = ['/'] := by decide
    dsimp only
    rw [hchars, List.singleton_append]
    rw [ofChars_slash hhead, hfields, hempty, hparts]
  | doubleSlash =>
    have hchars : Root.doubleSlash.text.toList = ['/', '/'] := by decide
    dsimp only
    rw [hchars, List.cons_append, List.singleton_append]
    have hfields : Text.fields '/' ('/' :: '/' :: cs) = [] :: [] :: Text.fields '/' cs := by
      rw [Text.fields, if_pos rfl, Text.fields, if_pos rfl]
    rw [ofChars_doubleSlash hhead, hfields, hempty, hempty, hparts]

theorem head?_toString {p : Path} (h : p.isAbsolute = true) : p.toString.toList.head? = some '/' := by
  rw [toList_toString h]
  cases hroot : p.root with
  | relative => simp [isAbsolute, hroot] at h
  | slash => rfl
  | doubleSlash => rfl

theorem isAbsoluteText_toString {p : Path} (h : p.isAbsolute = true) : isAbsoluteText p.toString = true := by
  simp [isAbsoluteText, head?_toString h]

theorem isAbsoluteText_iff (s : String) : isAbsoluteText s = true ↔ s.toList.head? = some '/' := by
  simp [isAbsoluteText]

theorem isAbsolute_ofString (s : String) : (ofString s).isAbsolute = isAbsoluteText s := by
  by_cases h : s.toList.head? = some '/'
  · obtain ⟨cs, hcs⟩ := List.head?_eq_some_iff.mp h
    have hroot : Root.ofChars s.toList ≠ .relative := by
      rw [hcs]
      unfold Root.ofChars
      split <;> simp_all
    simp [isAbsoluteText, h, isAbsolute, ofString, hroot]
  · have hroot : Root.ofChars s.toList = .relative := by
      unfold Root.ofChars
      split <;> simp_all
    simp [isAbsoluteText, h, isAbsolute, ofString, hroot]

/-- A path from the root that its text spells. -/
structure Fixed (p : Path) : Prop where
  absolute : p.isAbsolute = true
  spelled : p.Spelled

theorem fixed_ofString {s : String} (h : isAbsoluteText s = true) : (ofString s).Fixed :=
  ⟨(isAbsolute_ofString s).trans h, spelled_ofString s⟩

namespace Fixed
variable {p : Path}

theorem join {base : Path} (hbase : base.Fixed) (s : String) : (base.join (ofString s)).Fixed :=
  ⟨isAbsolute_join hbase.absolute _, hbase.spelled.join (spelled_ofString s)⟩

/-- Seen from anywhere, its text means the path itself. -/
theorem join_ofString (h : p.Fixed) (base : Path) : base.join (ofString p.toString) = p := by
  rw [ofString_toString h.spelled h.absolute, Path.join, if_pos h.absolute]

theorem toString_ne_empty (h : p.Fixed) : p.toString ≠ "" := fun hempty => by
  have hhead := head?_toString h.absolute
  rw [hempty] at hhead
  cases hhead

end Fixed

/-- A text seen from a root is spelled from a root. -/
theorem head?_normalize {s : String} (h : s.toList.head? = some '/') : (normalize s).toList.head? = some '/' := by
  obtain ⟨cs, hcs⟩ : ∃ cs, s.toList = '/' :: cs := by
    cases hs : s.toList with
    | nil => simp [hs] at h
    | cons c cs => exact ⟨cs, by simpa [hs] using h⟩
  have hroot : ∃ rest, (Root.ofChars s.toList).text.toList = '/' :: rest := by
    rw [hcs]
    unfold Root.ofChars
    split
    · exact ⟨_, rfl⟩
    · exact ⟨_, rfl⟩
    · exact ⟨_, rfl⟩
    · next hslash => exact absurd rfl (hslash cs)
  obtain ⟨rest, hrest⟩ := hroot
  unfold normalize
  dsimp only
  split
  · next hnil =>
    have := congrArg String.toList hnil
    rw [String.toList_append, hrest] at this
    simp at this
  · rw [String.toList_append, hrest]
    rfl

end Path
end BuildTree
