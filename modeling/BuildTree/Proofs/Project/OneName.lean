import BuildTree.Proofs.Depfile.Absolute
import BuildTree.Proofs.Project.Placing
import BuildTree.Proofs.Project.Trees

/-!
# One name for a file

A compiler tells what it has read as seen from the directory it ran in, scripts name files as seen from their own. The
first is joined as texts, the second as paths, and both are brought to their normal form. A text that is joined to a
directory is read as the path of the one joined to the path of the other, so from one directory a relative name becomes
the same text both ways, and in it there is nothing left to resolve.
-/

namespace BuildTree

namespace Path

/-- What follows the slashes in front does not change what they mean, unless it adds to them. -/
theorem ofChars_append {cs rest : List Char} (h : cs.head? = some '/') (hrest : rest.head? ≠ some '/') :
    Root.ofChars (cs ++ rest) = Root.ofChars cs := by
  have hnone : ∀ {ds : List Char}, ds.head? ≠ some '/' → (ds ++ rest).head? ≠ some '/' := fun {ds} hds => by
    cases ds with
    | nil => exact hrest
    | cons d ds => exact hds
  obtain ⟨cs, rfl⟩ := List.head?_eq_some_iff.mp h
  by_cases hsecond : cs.head? = some '/'
  · obtain ⟨cs, rfl⟩ := List.head?_eq_some_iff.mp hsecond
    by_cases hthird : cs.head? = some '/'
    · obtain ⟨cs, rfl⟩ := List.head?_eq_some_iff.mp hthird
      rfl
    · exact (ofChars_doubleSlash (hnone hthird)).trans (ofChars_doubleSlash hthird).symm
  · exact (ofChars_slash (hnone hsecond)).trans (ofChars_slash hsecond).symm

section Join
variable {dir name : String}

/-- A slash between two texts parts their components. -/
theorem components_append (front back : List Char) (s : String) (h : s.toList = front ++ '/' :: back) :
    components s = components (String.ofList front) ++ components (String.ofList back) := by
  rw [components, components, components, Text.splitFields, Text.splitFields, Text.splitFields, h,
    Text.fields_append_sep, List.map_append, List.filter_append, String.toList_ofList, String.toList_ofList]

theorem components_joinText (dir : String) (h : isAbsoluteText name = false) :
    components (joinText dir name) = components dir ++ components name := by
  unfold joinText
  rw [if_neg (by simp [h])]
  split
  next hend =>
    rcases hend with rfl | hend
    · simp [components, Text.splitFields, Text.fields]
    · obtain ⟨front, hfront⟩ := List.getLast?_eq_some_iff.mp hend
      have hdir := components_append front [] dir hfront
      have hjoined := components_append front name.toList (dir ++ name) (by simp [hfront])
      have hnothing : components (String.ofList []) = [] := rfl
      rw [hjoined, hdir, hnothing, List.append_nil, String.ofList_toList]
  · have hjoined := components_append dir.toList name.toList (dir ++ "/" ++ name) (by simp)
    rwa [String.ofList_toList, String.ofList_toList] at hjoined

theorem ofChars_joinText (hdir : isAbsoluteText dir = true) (h : isAbsoluteText name = false) :
    Root.ofChars (joinText dir name).toList = Root.ofChars dir.toList := by
  have hhead := (isAbsoluteText_iff dir).mp hdir
  have hname : name.toList.head? ≠ some '/' := fun he => by simp [isAbsoluteText, he] at h
  unfold joinText
  rw [if_neg (by simp [h])]
  split
  · rw [String.toList_append]
    exact ofChars_append hhead hname
  next hend =>
    -- There is something else between the slashes in front and the one that joins.
    obtain ⟨front, c, hfront⟩ := List.eq_nil_or_concat' dir.toList |>.resolve_left fun hnil => by simp [hnil] at hhead
    have hc : c ≠ '/' := fun he => hend (.inr (by simp [hfront, he]))
    have hslash : front.head? = some '/' := by
      cases front with
      | nil => exact absurd (by simpa [hfront] using hhead) hc
      | cons d ds => simpa [hfront] using hhead
    have hnext : ∀ cs : List Char, (c :: cs).head? ≠ some '/' := fun cs he => hc (Option.some.inj he)
    have hjoined : (dir ++ "/" ++ name).toList = front ++ c :: '/' :: name.toList := by simp [hfront]
    rw [hjoined, hfront, ofChars_append hslash (hnext _), ofChars_append hslash (hnext _)]

/-- What is joined as texts is read as what is joined as paths. -/
theorem ofString_joinText (hdir : isAbsoluteText dir = true) (h : isAbsoluteText name = false) :
    ofString (joinText dir name) = (ofString dir).join (ofString name) := by
  have hrelative : (ofString name).root = .relative := by
    have := isAbsolute_ofString name
    rw [h] at this
    simpa [isAbsolute] using this
  rw [join_of_relative hrelative, ofString, ofChars_joinText hdir h, components_joinText dir h]
  rfl

end Join

/-- What follows the slashes in front of a text. -/
def belowSlashes (s : String) : List Char :=
  s.toList.dropWhile (· = '/')

/-- A text that starts at a root and in which nothing is left to resolve: behind the slashes in front there is nothing,
or names that stand between single slashes. -/
structure Tidy (s : String) : Prop where
  absolute : isAbsoluteText s = true
  names : belowSlashes s = [] ∨ ∀ field ∈ Text.fields '/' (belowSlashes s), PlainPart (String.ofList field)

instance (s : String) : Decidable (Tidy s) :=
  decidable_of_iff (isAbsoluteText s = true ∧
    (belowSlashes s = [] ∨ ∀ field ∈ Text.fields '/' (belowSlashes s), PlainPart (String.ofList field)))
    ⟨fun h => ⟨h.1, h.2⟩, fun h => ⟨h.absolute, h.names⟩⟩

theorem belowSlashes_toString {p : Path} (h : p.Fixed) :
    belowSlashes p.toString = List.intercalate ['/'] (p.parts.map String.toList) := by
  have hskip : ∀ cs : List Char, cs.head? ≠ some '/' → cs.dropWhile (· = '/') = cs := fun cs hcs => by
    cases cs with
    | nil => rfl
    | cons c cs => exact List.dropWhile_cons_of_neg (by simpa using hcs)
  rw [belowSlashes, toList_toString h.absolute, List.dropWhile_append_of_pos, hskip _ (head?_intercalate h.spelled)]
  cases p.root <;> simp [Root.text]

/-- The text of a path in which nothing leads up. -/
theorem Fixed.tidy_toString {p : Path} (h : p.Fixed) (plain : ∀ part ∈ p.parts, PlainPart part) : Tidy p.toString where
  absolute := isAbsoluteText_toString h.absolute
  names := by
    rw [belowSlashes_toString h]
    cases hparts : p.parts with
    | nil => exact .inl rfl
    | cons part rest =>
      refine .inr fun field hfield => ?_
      rw [← hparts, Text.fields_intercalate] at hfield
      · obtain ⟨part, hpart, rfl⟩ := List.mem_map.mp hfield
        rw [String.ofList_toList]
        exact plain part hpart
      · simp [hparts]
      · intro cs hcs
        obtain ⟨part, hpart, rfl⟩ := List.mem_map.mp hcs
        exact (h.spelled part hpart).2.2

theorem Fixed.tidy_normalize {p : Path} (h : p.Fixed) : Tidy (normalize p.toString) :=
  h.toString_normal ▸ h.normal.tidy_toString h.plain_normal

end Path

theorem Declare.tidy_placed {dir : Path} {name : String} (hdir : dir.Fixed) (h : Path.isAbsoluteText name = false) :
    Path.Tidy (placed dir (Path.ofString name)) := by
  have hpath : (Path.ofString name).isAbsolute = false := (Path.isAbsolute_ofString _).trans h
  rw [placed, if_neg (by simp [hpath])]
  exact (hdir.join name).tidy_normalize

namespace Depfile
variable {dir : Path} {root name : String}

theorem dropStrayColon_eq_self (h : name.toList.getLast? ≠ some ':') : dropStrayColon name = name :=
  if_neg fun hcolon => h hcolon.1

/-- Without its colon at the end a name starts as it did. -/
theorem isAbsoluteText_dropStrayColon (name : String) :
    Path.isAbsoluteText (dropStrayColon name) = Path.isAbsoluteText name := by
  unfold dropStrayColon
  dsimp only
  split
  next hcolon =>
    obtain ⟨c, d, cs, hcs⟩ : ∃ c d cs, name.toList = c :: d :: cs := by
      match name.toList, hcolon.2 with
      | c :: d :: cs, _ => exact ⟨c, d, cs, rfl⟩
    simp [Path.isAbsoluteText, hcs]
  · rfl

/-- A relative name without a colon behind it is placed as a path is. -/
theorem absolutize_eq_placed (hdir : dir.isAbsolute = true) (hroot : Path.ofString root = dir)
    (h : Path.isAbsoluteText name = false) :
    absolutize name root = Declare.placed dir (Path.ofString (dropStrayColon name)) := by
  subst hroot
  have habsolute : Path.isAbsoluteText root = true := (Path.isAbsolute_ofString root).symm.trans hdir
  have hname : Path.isAbsoluteText (dropStrayColon name) = false := (isAbsoluteText_dropStrayColon name).trans h
  have hpath : (Path.ofString (dropStrayColon name)).isAbsolute = false := (Path.isAbsolute_ofString _).trans hname
  have hjoined : ((Path.ofString root).join (Path.ofString (dropStrayColon name))).Fixed :=
    (Path.fixed_ofString habsolute).join _
  unfold absolutize Declare.placed
  dsimp only
  rw [if_neg (by simp [hname]), if_neg (by simp [hpath]), hjoined.normalize_toString,
    Path.normalize_eq (Path.isAbsoluteText_joinText habsolute _), Path.ofString_joinText habsolute hname]

/-- A file has one name. What a compiler reports as seen from a directory is called what a script calls it that names
the same text from there, as an input or as an output, so both are one node of the build. Whatever the text is, the name
is absolute on either side, and for a relative text there is nothing left to resolve in it. -/
theorem one_name (hdir : dir.isAbsolute = true) (hroot : Path.ofString root = dir) (name : String) :
    (Path.isAbsoluteText name = false → name.toList.getLast? ≠ some ':' →
      absolutize name root = Declare.placed dir (Path.ofString name) ∧
      ∀ (s : Session) (value : Given), Argument.path value = .ok (Path.ofString name) →
        (s.sourceDir = dir → Declare.src s value = .ok (absolutize name root)) ∧
        (s.buildDir = dir → Declare.out s value = .ok (absolutize name root))) ∧
    Path.isAbsoluteText (absolutize name root) = true ∧
    Path.isAbsoluteText (Declare.placed dir (Path.ofString name)) = true ∧
    (Path.isAbsoluteText name = false →
      Path.Tidy (absolutize name root) ∧ Path.Tidy (Declare.placed dir (Path.ofString name))) := by
  have hfixed : dir.Fixed := ⟨hdir, hroot ▸ Path.spelled_ofString root⟩
  have habsolute : Path.isAbsoluteText root = true := by rw [← Path.isAbsolute_ofString, hroot, hdir]
  refine ⟨fun h hcolon => ?_, isAbsoluteText_absolutize habsolute name, Declare.isAbsoluteText_placed hdir _,
    fun h => ⟨absolutize_eq_placed hdir hroot h ▸ Declare.tidy_placed hfixed ?_, Declare.tidy_placed hfixed h⟩⟩
  · have hplaced := absolutize_eq_placed hdir hroot h
    rw [dropStrayColon_eq_self hcolon] at hplaced
    refine ⟨hplaced, fun s value hvalue => ⟨fun hsource => ?_, fun hbuild => ?_⟩⟩
    · rw [Declare.src, hvalue, hsource, hplaced]
      rfl
    · rw [Declare.out, hvalue, hbuild, hplaced]
      rfl
  · exact (isAbsoluteText_dropStrayColon name).trans h

/-- From a scope of a source tree whose root has two slashes and a `..` in it; the colon behind the last name is one
that the compiler has left there. -/
theorem one_name_crooked :
    absolutize "./gen//x/../y.h" "//srv/a/../src/lib/x/" = "//srv/src/lib/x/gen/y.h" ∧
    Declare.src crookedSession (.text "./gen//x/../y.h") = .ok "//srv/src/lib/x/gen/y.h" ∧
    Declare.src crookedSession (.path ⟨.relative, ["gen", "x", "..", "y.h"]⟩) = .ok "//srv/src/lib/x/gen/y.h" ∧
    Path.Tidy "//srv/src/lib/x/gen/y.h" ∧
    absolutize "../../../../..:" "//srv/a/../src/lib/x/" = "//" ∧ Path.Tidy "//" := by
  have hroot : Path.ofString "//srv/a/../src/lib/x/" = crookedSession.sourceDir := by rfl
  obtain ⟨hname, -, -, htidy⟩ := one_name (by rfl) hroot "./gen//x/../y.h"
  obtain ⟨-, hsession⟩ := hname (by rfl) (by decide)
  obtain ⟨-, -, -, hup⟩ := one_name (by rfl) hroot "../../../../..:"
  have hgen : absolutize "./gen//x/../y.h" "//srv/a/../src/lib/x/" = "//srv/src/lib/x/gen/y.h" := by rfl
  have htop : absolutize "../../../../..:" "//srv/a/../src/lib/x/" = "//" := by rfl
  rw [hgen] at hsession htidy
  rw [htop] at hup
  exact ⟨hgen, (hsession crookedSession _ rfl).1 rfl, (hsession crookedSession (.path _) rfl).1 rfl, (htidy rfl).1,
    htop, (hup rfl).1⟩

end Depfile

end BuildTree
