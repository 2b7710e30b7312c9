import BuildTree.Proofs.Ninja.Files
import Mathlib.Data.List.Basic

/-!
# What the lines of a file begin with

The lines of a file that are neither empty nor indented begin with the words that its items have for them. For the
files of a graph these words are spelled out; nothing but the numbers of pools, targets and partitions goes into them.
-/

namespace BuildTree.Ninja
open Text BuildTree.Graph

/-- The first word of a line that is neither empty nor indented. -/
def opener? : List Char → Option String
  | [] => none
  | c :: cs => if c = ' ' then none else some (String.ofList ((c :: cs).takeWhile (· ≠ ' ')))

def openers (text : String) : List String :=
  (fields '\n' text.toList).filterMap opener?

/-- The words that the lines of an item begin with. -/
def Item.openers : Item → List String
  | .comment _ => ["#"]
  | .blank => []
  | .assign b => [b.key]
  | .pool _ _ => ["pool"]
  | .rule _ _ => ["rule"]
  | .include _ => ["include"]
  | .build _ => ["build"]
  | .goal _ => ["default"]

section Items

theorem opener?_word {word : List Char} (hne : word ≠ []) (h : ' ' ∉ word) (rest : List Char) :
    opener? (word ++ ' ' :: rest) = some (String.ofList word) := by
  obtain ⟨c, cs, rfl⟩ := List.exists_cons_of_ne_nil hne
  have hc : c ≠ ' ' := fun he => h (he ▸ List.mem_cons_self)
  have hword : ((c :: cs) ++ ' ' :: rest).takeWhile (· ≠ ' ') = c :: cs := by
    rw [List.takeWhile_append_of_pos fun d hd => by simpa using fun he : d = ' ' => h (he ▸ hd)]
    simp
  rw [List.cons_append, opener?, if_neg hc, ← List.cons_append, hword]

theorem filterMap_opener?_indented {lines : List (List Char)} (h : ∀ l ∈ lines, l.head? = some ' ') :
    lines.filterMap opener? = [] := by
  refine List.filterMap_eq_nil_iff.mpr fun l hl => ?_
  obtain ⟨cs, rfl⟩ : ∃ cs, l = ' ' :: cs := List.head?_eq_some_iff.mp (h l hl)
  rfl

theorem opener?_line {s : Statement} (h : s.Lined) : opener? s.line.toList = some "build" := by
  obtain ⟨o, os, houtputs⟩ := List.exists_cons_of_ne_nil h.outputs
  have hfront : ∃ cs, spaced s.front = ' ' :: cs := by
    rw [Statement.front, houtputs]
    exact ⟨_, rfl⟩
  obtain ⟨cs, hcs⟩ := hfront
  rw [Statement.toList_line h.outputs h.rule, hcs]
  exact opener?_word (by decide) (by decide) _

theorem Item.filterMap_lines {i : Item} (h : i.Clear) : i.lines.filterMap opener? = i.openers := by
  have hword : ∀ (word : List Char) (rest : List Char) (more : List (List Char)), word ≠ [] → ' ' ∉ word →
      (∀ l ∈ more, l.head? = some ' ') →
      ((word ++ ' ' :: rest) :: more).filterMap opener? = [String.ofList word] := by
    intro word rest more hne hblank hmore
    rw [List.filterMap_cons, opener?_word hne hblank, filterMap_opener?_indented hmore]
  cases i with
  | comment text => exact hword ['#'] text.toList [] (by decide) (by decide) (List.forall_mem_nil _)
  | blank => rfl
  | assign b =>
    obtain ⟨c, cs, hkey, _⟩ := h.1.exists_cons
    have hblank : ' ' ∉ b.key.toList := fun hmem => absurd (h.1.2 _ hmem).1 (by decide)
    have := hword b.key.toList ('=' :: ' ' :: b.value.toList) [] (by simp [hkey]) hblank (List.forall_mem_nil _)
    rwa [String.ofList_toList] at this
  | pool name depth =>
    refine hword ['p', 'o', 'o', 'l'] name.toList _ (by decide) (by decide) ?_
    exact List.forall_mem_singleton.mpr rfl
  | rule name bindings =>
    refine hword ['r', 'u', 'l', 'e'] name.toList _ (by decide) (by decide) fun l hl => ?_
    obtain ⟨b, _, rfl⟩ := List.mem_map.mp hl
    rfl
  | «include» file =>
    exact hword ['i', 'n', 'c', 'l', 'u', 'd', 'e'] file.toList [] (by decide) (by decide) (List.forall_mem_nil _)
  | build s =>
    have hbindings : ∀ l ∈ s.bindings.map Binding.valueChars, l.head? = some ' ' := by
      intro l hl
      obtain ⟨b, _, rfl⟩ := List.mem_map.mp hl
      rfl
    rw [Item.lines, List.filterMap_cons, opener?_line h, filterMap_opener?_indented hbindings]
    rfl
  | goal path =>
    exact hword ['d', 'e', 'f', 'a', 'u', 'l', 't'] _ [] (by decide) (by decide) (List.forall_mem_nil _)

/-- What is read on single lines, wherever in an item they come from. -/
theorem filterMap_lines_render {α : Type} {read : List Char → Option α} (hempty : read [] = none) (items : List Item) :
    (fields '\n' (render items).toList).filterMap read =
      items.flatMap fun i => (i.lines.flatMap (fields '\n')).filterMap read := by
  have hcut := fields_ended_append (items.flatMap Item.lines) []
  rw [List.append_nil] at hcut
  have hlast : (fields '\n' []).filterMap read = [] := by simp [fields, hempty]
  rw [toList_render, hcut, List.filterMap_append, hlast, List.append_nil, List.flatMap_assoc, List.filterMap_flatMap]

theorem openers_render_eq (items : List Item) : openers (render items) =
    items.flatMap fun i => (i.lines.flatMap (fields '\n')).filterMap opener? :=
  filterMap_lines_render rfl items

theorem openers_render {items : List Item} (h : ∀ i ∈ items, i.Clear) :
    openers (render items) = items.flatMap Item.openers := by
  rw [openers_render_eq]
  refine List.flatMap_congr fun i hi => ?_
  rw [flatMap_fields (Item.Clear.lines (h i hi)), Item.filterMap_lines (h i hi)]

end Items

section Layouts
variable {g : Graph}

theorem flatMap_openers_replicate {α : Type} (write : α → List Item) {word : String}
    (h : ∀ a, (write a).flatMap Item.openers = [word]) (as : List α) :
    (as.flatMap write).flatMap Item.openers = List.replicate as.length word := by
  induction as with
  | nil => rfl
  | cons a as ih =>
    rw [List.flatMap_cons, List.flatMap_append, h, ih]
    rfl

theorem openers_buildItems (ss : List Statement) :
    (ss.flatMap buildItems).flatMap Item.openers = List.replicate ss.length "build" :=
  flatMap_openers_replicate buildItems (fun _ => rfl) ss

theorem openers_rulesLayout (interpreter : String) : (rulesLayout g interpreter).flatMap Item.openers =
    ["#", "#", "python", "copy", "rewrite_depfile"] ++ List.replicate g.pools.length "pool"
      ++ List.replicate rules.length "rule" := by
  rw [rulesLayout, rulesFileItems, List.flatMap_append, List.flatMap_append]
  refine congrArg₂ (· ++ ·) (congrArg₂ (· ++ ·) rfl ?_) ?_
  · rw [flatMap_openers_replicate _ (fun _ => rfl), List.length_map]
  · exact flatMap_openers_replicate _ (fun _ => rfl) rules

theorem openers_partitionLayout (name : String) : (partitionLayout g name).flatMap Item.openers =
    ["#", "#"] ++ List.replicate (targetsOf g (some name)).length "build" := by
  rw [partitionLayout, List.flatMap_append, openers_buildItems, List.length_map]
  rfl

theorem openers_rootLayout (pass : List Statement) : (rootLayout g pass).flatMap Item.openers =
    ["#", "#", "ninja_required_version", "builddir"] ++ List.replicate (1 + g.partitions.length) "include"
      ++ List.replicate ((targetsOf g none).length + pass.length + 2) "build" ++ ["default"] := by
  have hincludes : (g.partitions.map fun p => Item.include (escapePath (g.text p) ++ ".ninja")).flatMap Item.openers =
      List.replicate g.partitions.length "include" := by
    rw [List.flatMap_map]
    induction g.partitions with
    | nil => rfl
    | cons p ps ih =>
      rw [List.flatMap_cons, ih]
      rfl
  have hopening : (openingItems g g.partitions).flatMap Item.openers =
      ["#", "#", "ninja_required_version", "builddir"] ++ List.replicate (1 + g.partitions.length) "include" := by
    rw [openingItems, List.flatMap_append, List.flatMap_append, hincludes, Nat.add_comm, List.replicate_succ]
    simp [header, Item.openers]
  rw [rootLayout, List.flatMap_append, List.flatMap_append, hopening, openers_buildItems]
  simp [goalItem, Item.openers, Nat.add_assoc]

end Layouts
end BuildTree.Ninja
