import BuildTree.Proofs.Path.Collapse

/-!
# Normal paths

The normal spelling of an absolute path is the text of a path without `..`: its components are those that remain after
each `..` has cancelled the one before it, or the root. Plain names behind a path stay behind its normal form, whatever
is in the path itself, so what is seen from a directory by plain names is below the normal form of that directory.
-/

namespace BuildTree.Path

/-- The path that the normal spelling of a path names. -/
def normal (p : Path) : Path :=
  ofString (normalize p.toString)

/-- The components that a text is cut into are collapsed as all its fields are: the others change nothing. -/
theorem collapse_components (rooted : Bool) (s : String) :
    collapse rooted (Text.splitFields '/' s) = collapse rooted (components s) := by
  rw [collapse, collapse, components]
  generalize ([] : List String) = stack
  induction Text.splitFields '/' s generalizing stack with
  | nil => rfl
  | cons part rest ih =>
    by_cases hkept : part ≠ "" ∧ part ≠ "."
    · rw [List.filter_cons_of_pos (by simpa using hkept), List.foldl_cons, List.foldl_cons]
      exact ih _
    · have hskipped : collapseStep rooted stack part = stack := by
        unfold collapseStep
        rw [if_pos]
        simpa [Decidable.or_iff_not_imp_left] using hkept
      rw [List.filter_cons_of_neg (by simpa using hkept), List.foldl_cons, hskipped]
      exact ih stack

theorem collapse_append_plain {names : List String} (h : ∀ name ∈ names, PlainPart name) (rooted : Bool)
    (parts : List String) : collapse rooted (parts ++ names) = collapse rooted parts ++ names := by
  have hpush : ∀ stack, names.foldl (collapseStep rooted) stack = names.reverse ++ stack := by
    induction names with
    | nil => exact fun stack => rfl
    | cons name rest ih =>
      obtain ⟨hname, hrest⟩ := List.forall_mem_cons.mp h
      intro stack
      rw [List.foldl_cons, hname.collapseStep, ih hrest]
      simp
  rw [collapse, collapse, List.foldl_append, hpush, List.reverse_append, List.reverse_reverse]

/-- Below a root no `..` remains. -/
theorem dots_notMem_collapse (parts : List String) : ".." ∉ collapse true parts := by
  suffices h : ∀ stack, ".." ∉ stack → ".." ∉ parts.foldl (collapseStep true) stack by
    rw [collapse, List.mem_reverse]
    exact h [] List.not_mem_nil
  induction parts with
  | nil => exact fun stack hstack => hstack
  | cons part rest ih =>
    refine fun stack hstack => ih _ ?_
    unfold collapseStep
    split
    · exact hstack
    split
    next hpart => exact List.not_mem_cons_of_ne_of_not_mem (Ne.symm hpart) hstack
    · cases stack with
      | nil => exact List.not_mem_nil
      | cons last below =>
        simp only [List.mem_cons, not_or] at hstack
        obtain ⟨hlast, hbelow⟩ := hstack
        dsimp only
        rw [if_neg (Ne.symm hlast)]
        exact hbelow

theorem plainPart_iff {part : String} :
    PlainPart part ↔ (part ≠ "" ∧ part ≠ "." ∧ '/' ∉ part.toList) ∧ part ≠ ".." := by
  simp only [PlainPart, List.mem_cons, List.not_mem_nil, or_false, not_or]
  constructor
  · rintro ⟨⟨hempty, hdot, hdots⟩, hslash⟩
    exact ⟨⟨hempty, hdot, hslash⟩, hdots⟩
  · rintro ⟨⟨hempty, hdot, hslash⟩, hdots⟩
    exact ⟨⟨hempty, hdot, hdots⟩, hslash⟩

/-- A path that leads from a directory to something below it by plain names. -/
structure Plain (p : Path) : Prop where
  relative : p.root = .relative
  names : ∀ name ∈ p.parts, PlainPart name

theorem join_of_relative {q : Path} (h : q.root = .relative) (p : Path) :
    p.join q = ⟨p.root, p.parts ++ q.parts⟩ := by
  rw [Path.join, isAbsolute, h]
  rfl

namespace Plain
variable {p q : Path}

theorem spelled (h : p.Plain) : p.Spelled :=
  fun name hname => (plainPart_iff.mp (h.names name hname)).1

theorem join (hp : p.Plain) (hq : q.Plain) : (p.join q).Plain := by
  rw [join_of_relative hq.relative]
  exact ⟨hp.relative, fun name hname => (List.mem_append.mp hname).elim (hp.names name) (hq.names name)⟩

theorem join_join (hp : p.Plain) (hq : q.Plain) (base : Path) : (base.join p).join q = base.join (p.join q) := by
  rw [join_of_relative hq.relative (base.join p), join_of_relative hp.relative base,
    join_of_relative (hp.join hq).relative base, join_of_relative hq.relative p, List.append_assoc]

end Plain

namespace Fixed

theorem fixed_collapse {p : Path} (h : p.Fixed) : (⟨p.root, collapse true p.parts⟩ : Path).Fixed :=
  ⟨h.absolute, fun part hpart => h.spelled part (mem_collapse hpart)⟩

end Fixed

/-- An absolute text in normal spelling is the root with what is left of the components. -/
theorem normalize_eq {s : String} (h : isAbsoluteText s = true) :
    normalize s = (⟨(ofString s).root, collapse true (ofString s).parts⟩ : Path).toString := by
  have hfixed := (fixed_ofString h).fixed_collapse
  have hroot : (ofString s).root ≠ .relative := by simpa [isAbsolute] using hfixed.absolute
  have htext : (ofString s).root.text ++ String.intercalate "/" (collapse true (ofString s).parts) =
      (⟨(ofString s).root, collapse true (ofString s).parts⟩ : Path).toString := by
    rw [Path.toString, if_neg fun hnone => hroot hnone.1]
  have hspelling : normalize s = if (ofString s).root.text ++ String.intercalate "/"
      (collapse ((ofString s).root ≠ .relative) (Text.splitFields '/' s)) = "" then "."
      else (ofString s).root.text ++ String.intercalate "/"
        (collapse ((ofString s).root ≠ .relative) (Text.splitFields '/' s)) := rfl
  have hparts : components s = (ofString s).parts := rfl
  rw [hspelling, collapse_components, hparts, decide_eq_true hroot, htext, if_neg hfixed.toString_ne_empty]

namespace Fixed
variable {p : Path} (h : p.Fixed)
include h

/-- The normal spelling of an absolute path keeps the root and collapses what is below. -/
theorem normalize_toString : normalize p.toString = (⟨p.root, collapse true p.parts⟩ : Path).toString := by
  rw [normalize_eq (isAbsoluteText_toString h.absolute), ofString_toString h.spelled h.absolute]

theorem normal_eq : p.normal = ⟨p.root, collapse true p.parts⟩ := by
  rw [normal, h.normalize_toString, ofString_toString h.fixed_collapse.spelled h.fixed_collapse.absolute]

theorem toString_normal : p.normal.toString = normalize p.toString := by
  rw [h.normal_eq, h.normalize_toString]

theorem normal : p.normal.Fixed :=
  h.normal_eq ▸ h.fixed_collapse

/-- Nothing in a normal path leads up. -/
theorem plain_normal : ∀ part ∈ p.normal.parts, PlainPart part := by
  rw [h.normal_eq]
  intro part hpart
  exact plainPart_iff.mpr
    ⟨h.spelled part (mem_collapse hpart), fun hdots => dots_notMem_collapse p.parts (hdots ▸ hpart)⟩

/-- Plain names stay where they are behind the normal form. -/
theorem normal_join {q : Path} (plain : q.Plain) : (p.join q).normal = p.normal.join q := by
  have hjoined : (p.join q).Fixed := ⟨isAbsolute_join h.absolute _, h.spelled.join plain.spelled⟩
  rw [hjoined.normal_eq, h.normal_eq, join_of_relative plain.relative, join_of_relative plain.relative]
  exact congrArg (Path.mk p.root) (collapse_append_plain plain.names true p.parts)

end Fixed
end BuildTree.Path
