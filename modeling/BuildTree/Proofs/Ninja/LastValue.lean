import BuildTree.Proofs.Ninja.GraphFile

/-!
# The value that a file gives last

Of all bindings of a key in a file the last one counts here. In the root file the command that repeats the pass is
such a value: whatever the paths in front of it are, even some that no statement survives, nothing behind it binds
that key again.
-/

namespace BuildTree.Ninja
open Text Effect

def lastValue (key text : String) : Option String :=
  (((fields '\n' text.toList).filterMap bindingOf).filter (·.key = key)).getLast?.map (·.value)

/-- A line counts if no line behind it binds the key. -/
theorem lastValue_of_lines {key value text : String} {front line : List Char} {tail : List (List Char)}
    (htext : text.toList = front ++ '\n' :: (line ++ '\n' :: ended tail)) (hline : '\n' ∉ line)
    (hvalue : bindingOf line = some ⟨key, value⟩) (hended : ∀ l ∈ tail, '\n' ∉ l)
    (hother : ∀ l ∈ tail, ∀ b, bindingOf l = some b → b.key ≠ key) : lastValue key text = some value := by
  have htail : (tail.filterMap bindingOf).filter (·.key = key) = [] := by
    rw [List.filter_eq_nil_iff]
    intro b hb
    obtain ⟨l, hl, hlb⟩ := List.mem_filterMap.mp hb
    simpa using hother l hl b hlb
  have hempty : bindingOf [] = none := rfl
  unfold lastValue
  rw [htext, fields_append_sep, fields_append hline, fields_ended hended]
  simp only [List.filterMap_append, List.filterMap_cons, hvalue, hempty, List.filterMap_nil, List.append_nil,
    List.filter_append, List.filter_cons_of_pos, decide_true, htail, List.getLast?_append, List.getLast?_singleton,
    Option.some_or, Option.map_some]

def closingItems (g : Graph) : List Item :=
  [cleanStatement, helpStatement g].flatMap buildItems ++ [goalItem]

theorem newline_notMem_closing {g : Graph} (h : ownStatement (helpStatement g) = .ok (helpStatement g)) :
    ∀ l ∈ (closingItems g).flatMap Item.lines, '\n' ∉ l := by
  have hstatements : ∀ s ∈ [cleanStatement, helpStatement g], s.Lined := by
    simp only [List.forall_mem_cons]
    exact ⟨read_clean.2, (read_help h).2, fun s hs => by cases hs⟩
  have hclear : ∀ i ∈ closingItems g, i.Clear :=
    List.forall_mem_append.mpr ⟨clear_buildItems hstatements, List.forall_mem_singleton.mpr clear_goal⟩
  intro l hl
  obtain ⟨i, hi, hl⟩ := List.mem_flatMap.mp hl
  exact (hclear i hi).lines l hl

theorem bindingOf_pool : bindingOf (Binding.valueChars ⟨"pool", "console"⟩) = some ⟨"pool", "console"⟩ :=
  bindingOf_valueChars (b := ⟨"pool", "console"⟩) (by decide)

/-- What a line at the end of the root file binds is the pool of a statement or what lists the goals. -/
theorem key_of_mem_closing {g : Graph} :
    ∀ l ∈ (closingItems g).flatMap Item.lines, ∀ b, bindingOf l = some b → b.key = "pool" ∨ b.key = "help_command" := by
  have hsome : ∀ l c, bindingOf l = some c → c.key = "pool" ∨ c.key = "help_command" →
      ∀ b, bindingOf l = some b → b.key = "pool" ∨ b.key = "help_command" := fun l c hc hkey b hb => by
    rw [hc] at hb
    cases hb
    exact hkey
  have hnone : ∀ l, bindingOf l = none → ∀ b, bindingOf l = some b → b.key = "pool" ∨ b.key = "help_command" :=
    fun l hl b hb => by
      rw [hl] at hb
      cases hb
  have hpool := hsome _ _ bindingOf_pool (.inl rfl)
  have hhelp := hsome _ _ (bindingOf_valueChars (b := ⟨"help_command", helpCommand g⟩)
    (by decide : PlainKey "help_command")) (.inr rfl)
  have hcleanLine := hnone cleanStatement.line.toList (by decide)
  have hhelpLine := hnone "build help: help".toList (by decide)
  have hgoal := hnone (['d', 'e', 'f', 'a', 'u', 'l', 't', ' ']
    ++ (Graph.tagPrefix ++ Graph.defaultTag).toList.flatMap pathChar) (by decide)
  have hblank := hnone [] rfl
  -- the paths in these lines are fixed, so that a look at each of them is enough
  have hlines : (closingItems g).flatMap Item.lines = [
      cleanStatement.line.toList, Binding.valueChars ⟨"pool", "console"⟩, [],
      "build help: help".toList, Binding.valueChars ⟨"help_command", helpCommand g⟩,
      Binding.valueChars ⟨"pool", "console"⟩, [],
      ['d', 'e', 'f', 'a', 'u', 'l', 't', ' ']
        ++ (Graph.tagPrefix ++ Graph.defaultTag).toList.flatMap pathChar] := rfl
  rw [hlines]
  simp only [List.forall_mem_cons]
  exact ⟨hcleanLine, hpool, hblank, hhelpLine, hhelp, hpool, hblank, hgoal, fun l hl => by cases hl⟩

/-- The statement of the pass stands right in front of what the root file ends with. -/
theorem rootItems_pass {g : Graph} {r : TargetId} (hpass : g.pass = some r) {partitions : List Given}
    {items : List Item} (h : rootItems g partitions = .ok items) :
    ∃ before command words, (g.node r).action = .reconfigure command ∧ command.mapM g.text? = some words ∧
      items = before ++ buildItems (passStatement g (g.node r) words partitions) ++ closingItems g ∧
      '\n' ∉ (shellLine words).toList ∧ ownStatement (helpStatement g) = .ok (helpStatement g) := by
  obtain ⟨ss, pass, _, hstatement, hhelp, rfl⟩ := rootItems_eq_ok h
  obtain ⟨command, words, haction, hwords, rfl, hvalues⟩ := passStatements_eq_ok hpass hstatement
  refine ⟨openingItems g partitions ++ ss.flatMap buildItems, command, words, haction, hwords, ?_,
    hvalues _ List.mem_cons_self, hhelp⟩
  simp only [closingItems, List.flatMap_append, List.flatMap_cons, List.flatMap_nil, List.append_nil,
    List.append_assoc]

/-- The root file gives the command that repeats the pass, whatever else is in it. -/
theorem lastValue_root {g : Graph} {r : TargetId} (hpass : g.pass = some r) {partitions : List Given}
    {items : List Item} (h : rootItems g partitions = .ok items) :
    ∃ command words, (g.node r).action = .reconfigure command ∧ command.mapM g.text? = some words ∧
      lastValue "reconfigure_command" (render items) = some (trimmed (shellLine words)) := by
  obtain ⟨before, command, words, haction, hwords, rfl, hcommand, hhelp⟩ := rootItems_pass hpass h
  let b : Binding := ⟨"reconfigure_command", shellLine words⟩
  let s := passStatement g (g.node r) words partitions
  have hkey : PlainKey "reconfigure_command" := by decide
  have htext : (render (before ++ buildItems s ++ closingItems g)).toList =
      (ended (before.flatMap Item.lines) ++ s.line.toList) ++ '\n' :: (b.valueChars ++ '\n' ::
        ended (Binding.valueChars ⟨"pool", "console"⟩ :: [] :: (closingItems g).flatMap Item.lines)) := by
    rw [toList_render, List.flatMap_append, List.flatMap_append, ended_append, ended_append, List.append_assoc,
      List.append_assoc]
    congr 1
    simp [buildItems, Item.lines, ended, s, b, passStatement]
  refine ⟨command, words, haction, hwords, lastValue_of_lines htext (newline_notMem_valueLine (b := b) hkey hcommand)
    (bindingOf_valueChars (b := b) hkey) ?_ ?_⟩
  · simp only [List.forall_mem_cons]
    exact ⟨newline_notMem_valueLine (by decide) (by decide), by simp, newline_notMem_closing hhelp⟩
  · simp only [List.forall_mem_cons]
    refine ⟨fun c hc => ?_, fun c hc => (by cases hc), fun l hl c hc => ?_⟩
    · rw [bindingOf_pool] at hc
      cases hc
      decide
    · rcases key_of_mem_closing l hl c hc with hkey | hkey <;> rw [hkey] <;> decide

end BuildTree.Ninja
