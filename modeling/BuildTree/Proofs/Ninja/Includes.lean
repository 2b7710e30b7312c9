import BuildTree.Proofs.Ninja.OneLine
import BuildTree.Proofs.Ninja.Variables

/-!
# Reading include lines

A line that begins with the word `include` names one file, as the line of a build statement names files. The root file
includes the file of rules and then those of its partitions. Each such line names the file that it was written for just
if there is nothing in the name that no escape helps against.
-/

namespace BuildTree.Ninja
open Text BuildTree.Graph

def includeWord : List Char :=
  ['i', 'n', 'c', 'l', 'u', 'd', 'e']

/-- Whether a word goes on with a character. A longer word that begins with `include` is another word. -/
def isWordChar (c : Char) : Bool :=
  isNameChar c || c = '.'

def onlyWord (cs : List Char) : Option String :=
  match tokensFrom none cs with
  | some [.word w] => some w
  | _ => none

/-- The file that an include line names; it may be impossible to read. -/
def include? (line : List Char) : Option (Option String) :=
  if includeWord.isPrefixOf line && !(line.drop includeWord.length).head?.any isWordChar
  then some (onlyWord (line.drop includeWord.length)) else none

/-- The files that the include lines of a file name in their order, with `none` for each that cannot be read. -/
def included (text : String) : List (Option String) :=
  (fields '\n' text.toList).filterMap include?

section Words
variable {cs : List Char} {w : String}

theorem onlyWord_eq_some_iff : onlyWord cs = some w ↔ tokensFrom none cs = some [.word w] := by
  unfold onlyWord
  split
  next v h => simp [h]
  next h => exact iff_of_false (by simp) (h w)

theorem onlyWord_blank (cs : List Char) : onlyWord (' ' :: cs) = onlyWord cs := by
  have hsame : tokensFrom none (' ' :: cs) = tokensFrom none cs := by
    rw [tokensFrom_blank]
    cases tokensFrom none cs <;> rfl
  rw [onlyWord, hsame, onlyWord]

/-- A character that no escape helps against ends the word or makes the line impossible to read. -/
theorem tokensFrom_unescapable {word : Option (List Char)} {c : Char} (hc : c ∈ ['|', '\r', '\x00']) :
    tokensFrom word (c :: cs) ≠ some [.word w] := by
  intro h
  rw [tokensFrom.eq_def] at h
  simp only [List.mem_cons, List.not_mem_nil, or_false] at hc
  rcases hc with rfl | rfl | rfl
  · -- a bar is there after the word
    cases cs with
    | nil => cases word <;> simp [closed] at h
    | cons d more =>
      by_cases hd : d = '|' <;> cases word <;>
        simp [closed, hd, Option.map_eq_some_iff] at h
  · simp at h
  · simp at h

theorem plain_of_tokensFrom {word : Option (List Char)} (hline : '\n' ∉ cs)
    (h : tokensFrom word (cs.flatMap pathChar) = some [.word w]) :
    ∀ c ∈ cs, c ∉ ['|', '\n', '\r', '\x00'] := by
  induction cs generalizing word with
  | nil => exact List.forall_mem_nil _
  | cons c cs ih =>
    obtain ⟨hc, hcs⟩ := not_or.mp (mt List.mem_cons.mpr hline)
    by_cases hplain : c ∈ ['|', '\r', '\x00']
    · have hsame : pathChar c = [c] := by
        simp only [List.mem_cons, List.not_mem_nil, or_false] at hplain
        rcases hplain with rfl | rfl | rfl <;> rfl
      rw [List.flatMap_cons, hsame] at h
      exact absurd h (tokensFrom_unescapable hplain)
    · have hfirst : c ∉ ['|', '\n', '\r', '\x00'] := by
        simp only [List.mem_cons, List.not_mem_nil, or_false, not_or] at hplain ⊢
        exact ⟨hplain.1, Ne.symm hc, hplain.2.1, hplain.2.2⟩
      rw [List.flatMap_cons, tokensFrom_pathChar _ hfirst] at h
      exact List.forall_mem_cons.mpr ⟨hfirst, ih hcs h⟩

theorem tokensFrom_name {name : List Char} (hne : name ≠ []) (h : ∀ c ∈ name, c ∉ ['|', '\n', '\r', '\x00']) :
    tokensFrom none (name.flatMap pathChar) = some [.word (String.ofList name)] := by
  obtain ⟨c, cs, rfl⟩ := List.exists_cons_of_ne_nil hne
  obtain ⟨hc, hcs⟩ := List.forall_mem_cons.mp h
  have hrest := tokensFrom_pathChars hcs [c] []
  rw [List.append_nil] at hrest
  rw [List.flatMap_cons, tokensFrom_pathChar _ hc]
  exact hrest

/-- An escaped name on one line is read as a word just if it is plain, and then as itself. -/
theorem onlyWord_name_iff {name : List Char} (hne : name ≠ []) (hline : '\n' ∉ name) :
    onlyWord (name.flatMap pathChar) = some w ↔
      (∀ c ∈ name, c ∉ ['|', '\n', '\r', '\x00']) ∧ w = String.ofList name := by
  rw [onlyWord_eq_some_iff]
  refine ⟨fun h => ?_, fun ⟨hplain, hw⟩ => hw ▸ tokensFrom_name hne hplain⟩
  have hplain := plain_of_tokensFrom hline h
  have hread := (tokensFrom_name hne hplain).symm.trans h
  exact ⟨hplain, by simpa using hread.symm⟩

end Words

section Lines

theorem include?_of_head {line : List Char} (h : line.head? ≠ some 'i') : include? line = none := by
  have hword : includeWord.isPrefixOf line = false := by
    cases line with
    | nil => rfl
    | cons c cs =>
      have hc : 'i' ≠ c := fun he => h (he ▸ rfl)
      simp [includeWord, List.isPrefixOf, hc]
  simp [include?, hword]

theorem include?_word (cs : List Char) : include? (includeWord ++ ' ' :: cs) = some (onlyWord cs) := by
  have hprefix : includeWord.isPrefixOf (includeWord ++ ' ' :: cs) = true :=
    List.isPrefixOf_iff_prefix.mpr (List.prefix_append _ _)
  have hblank : isWordChar ' ' = false := by decide
  rw [include?, hprefix, List.drop_left, onlyWord_blank]
  simp [hblank]

/-- What is read of an item, be its lines cut or not. -/
def Item.included (i : Item) : List (Option String) :=
  (i.lines.flatMap (fields '\n')).filterMap include?

theorem included_render (items : List Item) : included (render items) = items.flatMap Item.included :=
  filterMap_lines_render rfl items

/-- The line for a file names it just if its name is plain. Otherwise the first thing that is read is something else. -/
theorem included_include {file : String} (hne : file ≠ "") :
    ∃ first more, (Item.include (escapePath file)).included = first :: more ∧ (first = some file ↔ PlainPath file) ∧
      (PlainPath file → more = []) := by
  have hname : file.toList ≠ [] := fun hnil => hne (String.toList_inj.mp hnil)
  have hlines : (Item.include (escapePath file)).lines = [includeWord ++ ' ' :: file.toList.flatMap pathChar] := by
    simp [Item.lines, escapePath, includeWord]
  rw [Item.included, hlines, List.flatMap_singleton]
  by_cases hline : '\n' ∈ file.toList
  · -- the line is cut, and what is left of the name has no line break
    obtain ⟨front, back, hsplit, hfront⟩ := List.eq_append_cons_of_mem hline
    have hcut : includeWord ++ ' ' :: file.toList.flatMap pathChar =
        (includeWord ++ ' ' :: front.flatMap pathChar) ++ '\n' :: back.flatMap pathChar := by
      rw [hsplit, List.flatMap_append, List.flatMap_cons]
      simp [show pathChar '\n' = ['\n'] by decide]
    have hclear : '\n' ∉ includeWord ++ ' ' :: front.flatMap pathChar := by
      simp [includeWord, newline_notMem_pathChars hfront]
    have hother : onlyWord (front.flatMap pathChar) ≠ some file := by
      intro h
      have hne' : front ≠ [] := fun hnil => by
        rw [hnil] at h
        cases h
      obtain ⟨_, rfl⟩ := (onlyWord_name_iff hne' hfront).mp h
      rw [String.toList_ofList] at hline
      exact hfront hline
    have hbroken : ¬ PlainPath file := fun hplain => hplain.oneLine hline
    rw [hcut, fields_append hclear, List.filterMap_cons, include?_word]
    exact ⟨_, _, rfl, iff_of_false hother hbroken, fun hplain => absurd hplain hbroken⟩
  · have hclear : '\n' ∉ includeWord ++ ' ' :: file.toList.flatMap pathChar := by
      simp [includeWord, newline_notMem_pathChars hline]
    have hiff := onlyWord_name_iff (w := file) hname hline
    rw [fields_of_notMem hclear, List.filterMap_cons, include?_word]
    refine ⟨_, _, rfl, hiff.trans ?_, fun _ => rfl⟩
    simp [PlainPath, hne]

end Lines

section Root
variable {g : Graph}

/-- If what is read for each thing begins with what is expected of it just if the thing is good, everything is read as
expected just if all things are good. -/
theorem flatMap_eq_map_iff {α β : Type} {read : α → List β} {expected : α → β} {Good : α → Prop} {as : List α}
    (h : ∀ a ∈ as, ∃ first more, read a = first :: more ∧ (first = expected a ↔ Good a) ∧ (Good a → more = []))
    (rest : List β) : as.flatMap read ++ rest = as.map expected ↔ (∀ a ∈ as, Good a) ∧ rest = [] := by
  induction as with
  | nil => simp
  | cons a as ih =>
    obtain ⟨⟨first, more, hread, hfirst, hmore⟩, has⟩ := List.forall_mem_cons.mp h
    rw [List.flatMap_cons, List.map_cons, List.forall_mem_cons, hread, and_assoc, ← ih has, List.append_assoc,
      List.cons_append, List.cons.injEq, hfirst]
    refine and_congr_right fun hgood => ?_
    rw [hmore hgood, List.nil_append]

theorem included_of_heads {i : Item} (h : ∀ l ∈ i.lines, '\n' ∉ l ∧ l.head? ≠ some 'i') : i.included = [] := by
  rw [Item.included, flatMap_fields fun l hl => (h l hl).1]
  exact List.filterMap_eq_nil_iff.mpr fun l hl => include?_of_head (h l hl).2

theorem included_build {s : Statement} (h : s.Lined) : (Item.build s).included = [] := by
  have hclear := Item.Clear.lines (i := .build s) h
  refine included_of_heads fun l hl => ⟨hclear l hl, ?_⟩
  rcases List.mem_cons.mp hl with rfl | hl
  · rw [Statement.toList_line h.outputs h.rule]
    simp [buildWord]
  · obtain ⟨b, _, rfl⟩ := List.mem_map.mp hl
    simp [Binding.valueChars]

/-- The files of the rules and of the partitions. -/
def partFiles (g : Graph) : List String :=
  rulesFile :: g.partitionNames.map (· ++ ".ninja")

theorem escapePath_append (a b : String) : escapePath (a ++ b) = escapePath a ++ escapePath b := by
  simp [escapePath, String.ofList_append]

def Item.file? : Item → Option String
  | .include file => some file
  | _ => none

theorem openingItems_eq (named : ∀ t ∈ g.targets, (g.node t).Named) : openingItems g g.partitions =
    (header "Root build file." ++ [Item.assign ⟨"ninja_required_version", "1.5"⟩, .assign ⟨"builddir", "."⟩, .blank])
      ++ (partFiles g).map (fun file => Item.include (escapePath file)) ++ [.blank] := by
  have hrules : escapePath rulesFile = rulesFile := by decide +kernel
  have hparts : g.partitions.map (fun p => Item.include (escapePath (g.text p) ++ ".ninja")) =
      (g.partitionNames.map (· ++ ".ninja")).map fun file => Item.include (escapePath file) := by
    rw [partitions_eq named, List.map_map, List.map_map]
    refine List.map_congr_left fun name _ => ?_
    have hname : escapePath (name ++ ".ninja") = escapePath name ++ ".ninja" := by
      rw [escapePath_append, show escapePath ".ninja" = ".ninja" by decide +kernel]
    exact congrArg Item.include hname.symm
  rw [openingItems, hparts, partFiles, List.map_cons, hrules]
  simp

theorem filterMap_file?_root (named : ∀ t ∈ g.targets, (g.node t).Named) (pass : List Statement) :
    (rootLayout g pass).filterMap Item.file? = (partFiles g).map escapePath := by
  have hbuild : ∀ ss : List Statement, (ss.flatMap buildItems).filterMap Item.file? = [] := by
    intro ss
    rw [List.filterMap_flatMap]
    exact List.flatMap_eq_nil_iff.mpr fun _ _ => rfl
  have hincludes : ((partFiles g).map fun file => Item.include (escapePath file)).filterMap Item.file? =
      (partFiles g).map escapePath := by
    rw [List.filterMap_map]
    exact congrFun List.filterMap_eq_map _
  have hfixed : (header "Root build file." ++ [Item.assign ⟨"ninja_required_version", "1.5"⟩,
      .assign ⟨"builddir", "."⟩, .blank]).filterMap Item.file? = [] := rfl
  have hblank : [Item.blank].filterMap Item.file? = [] := rfl
  have hgoal : [goalItem].filterMap Item.file? = [] := rfl
  rw [rootLayout, openingItems_eq named]
  simp only [List.filterMap_append, hbuild, hincludes, hfixed, hblank, hgoal, List.nil_append, List.append_nil]

theorem included_opening (named : ∀ t ∈ g.targets, (g.node t).Named) :
    (openingItems g g.partitions).flatMap Item.included =
      (partFiles g).flatMap fun file => (Item.include (escapePath file)).included := by
  have hfixed : (header "Root build file." ++ [Item.assign ⟨"ninja_required_version", "1.5"⟩,
      .assign ⟨"builddir", "."⟩, .blank]).flatMap Item.included = [] := by
    decide +kernel
  have hblank : Item.blank.included = [] := by decide +kernel
  rw [openingItems_eq named, List.flatMap_append, List.flatMap_append, hfixed, List.nil_append, List.flatMap_singleton,
    hblank, List.append_nil, List.flatMap_map]

theorem partFiles_ne_empty : ∀ file ∈ partFiles g, file ≠ "" := by
  refine List.forall_mem_cons.mpr ⟨by decide, fun file hfile => ?_⟩
  obtain ⟨name, _, rfl⟩ := List.mem_map.mp hfile
  simp

/-- The include lines of the root file name the other files just if their names are plain, as far as its statements keep
to their lines. -/
theorem included_root_iff (named : ∀ t ∈ g.targets, (g.node t).Named) (hpaths : PathsOneLine g) {pass : List Statement}
    (hstated : Stated g (targetsOf g none)) (hpass : passStatements g g.partitions = .ok pass)
    (hhelp : ownStatement (helpStatement g) = .ok (helpStatement g)) :
    included (render (rootLayout g pass)) = (partFiles g).map some ↔ ∀ file ∈ partFiles g, PlainPath file := by
  have hread := fun (file : String) (hfile : file ∈ partFiles g) => included_include (partFiles_ne_empty file hfile)
  rw [included_render, rootLayout, List.append_assoc, List.flatMap_append, included_opening named,
    flatMap_eq_map_iff hread, and_iff_left_of_imp]
  intro hplain
  have hnames : ∀ name ∈ g.partitionNames, '\n' ∉ name.toList := fun name hname hbreak => by
    have hfile : name ++ ".ninja" ∈ partFiles g := List.mem_cons_of_mem _ (List.mem_map_of_mem hname)
    exact (hplain _ hfile).oneLine (by simp [hbreak])
  have hlined := lined_root named hpaths hnames hstated hpass hhelp
  have hgoal : goalItem.included = [] := by decide +kernel
  have hblank : Item.blank.included = [] := by decide +kernel
  rw [List.flatMap_append, List.flatMap_singleton, hgoal, List.append_nil, List.flatMap_assoc]
  refine List.flatMap_eq_nil_iff.mpr fun s hs => ?_
  simp [buildItems, included_build (hlined s hs), hblank]

end Root

end BuildTree.Ninja
