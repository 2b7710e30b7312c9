import BuildTree.Proofs.Json.Token

/-!
# Documents in the layout of snapshots

The reader undoes the layout: a document without floating point numbers and without whole numbers of too many digits, in
whose records no key comes twice, is read back from its text, if there is room for how deep it nests. Reading costs one
step for each value, item and entry, and each of them is written with at least one character, so the length of the text
is enough fuel.
-/

namespace BuildTree.Json

mutual

/-- A document that its text determines: there is no floating point number in it, whole numbers are short, and no record
has a key twice. -/
def Exact : Json → Prop
  | .null => True
  | .bool _ => True
  | .int i => Text.Short i
  | .float _ => False
  | .text _ => True
  | .list items => ExactItems items
  | .record entries => (entries.map Prod.fst).Nodup ∧ ExactEntries entries

def ExactItems : List Json → Prop
  | [] => True
  | item :: rest => item.Exact ∧ ExactItems rest

def ExactEntries : List (String × Json) → Prop
  | [] => True
  | (_, value) :: rest => value.Exact ∧ ExactEntries rest

end

mutual

/-- How many lists and records that are not empty stand one in another. -/
def nesting : Json → Nat
  | .list items => nestingItems items
  | .record entries => nestingEntries entries
  | _ => 0

def nestingItems : List Json → Nat
  | [] => 0
  | item :: rest => max (item.nesting + 1) (nestingItems rest)

def nestingEntries : List (String × Json) → Nat
  | [] => 0
  | (_, value) :: rest => max (value.nesting + 1) (nestingEntries rest)

end

mutual

/-- A document in the layout of snapshots, starting at an indentation. -/
def prettyChars (depth : Nat) : Json → List Char
  | .null => ['n', 'u', 'l', 'l']
  | .bool true => ['t', 'r', 'u', 'e']
  | .bool false => ['f', 'a', 'l', 's', 'e']
  | .int i => (toString i).toList
  | .float x => floatChars x
  | .text s => stringChars s
  | .list [] => ['[', ']']
  | .list (item :: rest) =>
    '[' :: newLine (depth + 1) ++ prettyChars (depth + 1) item ++ prettyItems (depth + 1) rest
      ++ newLine depth ++ [']']
  | .record [] => ['\x7b', '\x7d']
  | .record ((key, value) :: rest) =>
    '\x7b' :: newLine (depth + 1) ++ stringChars key ++ ':' :: ' ' :: prettyChars (depth + 1) value
      ++ prettyEntries (depth + 1) rest ++ newLine depth ++ ['\x7d']

/-- The items after the first one. -/
def prettyItems (depth : Nat) : List Json → List Char
  | [] => []
  | item :: rest => ',' :: newLine depth ++ prettyChars depth item ++ prettyItems depth rest

/-- The entries after the first one. -/
def prettyEntries (depth : Nat) : List (String × Json) → List Char
  | [] => []
  | (key, value) :: rest =>
    ',' :: newLine depth ++ stringChars key ++ ':' :: ' ' :: prettyChars depth value
      ++ prettyEntries depth rest

end

/-- Items between the brackets of a list. -/
def itemsChars (depth : Nat) : List Json → List Char
  | [] => []
  | item :: rest => prettyChars depth item ++ prettyItems depth rest

/-- Entries between the braces of a record. -/
def entriesChars (depth : Nat) : List (String × Json) → List Char
  | [] => []
  | (key, value) :: rest =>
    stringChars key ++ ':' :: ' ' :: prettyChars depth value ++ prettyEntries depth rest

section Blanks

theorem skipBlanks_of_head {c : Char} (h : isBlank c = false) (cs : List Char) : skipBlanks (c :: cs) = c :: cs := by
  rw [skipBlanks, List.dropWhile_cons_of_neg (by simp [h])]

theorem skipBlanks_newLine (depth : Nat) (cs : List Char) : skipBlanks (newLine depth ++ cs) = skipBlanks cs := by
  have hblanks : ∀ c ∈ newLine depth, isBlank c = true := by
    intro c hc
    rcases List.mem_cons.mp hc with rfl | hc
    · rfl
    · rw [List.eq_of_mem_replicate hc]
      rfl
  rw [skipBlanks, List.dropWhile_append_of_pos hblanks, skipBlanks]

theorem ends_newLine (depth : Nat) (cs : List Char) : Ends (newLine depth ++ cs) :=
  .inr ⟨_, .inr rfl⟩

end Blanks

theorem prettyChars_list (depth : Nat) {items : List Json} (h : items ≠ []) :
    prettyChars depth (.list items) =
      '[' :: newLine (depth + 1) ++ itemsChars (depth + 1) items ++ newLine depth ++ [']'] := by
  obtain ⟨item, rest, rfl⟩ := List.exists_cons_of_ne_nil h
  simp [prettyChars, itemsChars]

theorem prettyChars_record (depth : Nat) {entries : List (String × Json)} (h : entries ≠ []) :
    prettyChars depth (.record entries) =
      '\x7b' :: newLine (depth + 1) ++ entriesChars (depth + 1) entries ++ newLine depth ++ ['\x7d'] := by
  obtain ⟨⟨key, value⟩, rest, rfl⟩ := List.exists_cons_of_ne_nil h
  simp [prettyChars, entriesChars]

theorem prettyItems_cons (depth : Nat) {items : List Json} (h : items ≠ []) :
    prettyItems depth items = ',' :: newLine depth ++ itemsChars depth items := by
  obtain ⟨item, rest, rfl⟩ := List.exists_cons_of_ne_nil h
  simp [prettyItems, itemsChars]

theorem prettyEntries_cons (depth : Nat) {entries : List (String × Json)} (h : entries ≠ []) :
    prettyEntries depth entries = ',' :: newLine depth ++ entriesChars depth entries := by
  obtain ⟨⟨key, value⟩, rest, rfl⟩ := List.exists_cons_of_ne_nil h
  simp [prettyEntries, entriesChars]

theorem isBlank_of_isDigit {c : Char} (h : c.isDigit = true) : isBlank c = false := by
  refine Bool.eq_false_iff.mpr fun hblank => ?_
  simp only [isBlank, Bool.or_eq_true, beq_iff_eq] at hblank
  obtain ((rfl | rfl) | rfl) | rfl := hblank
  all_goals exact absurd h (by decide)

/-- No value starts with a blank or ends a list. -/
theorem head_prettyChars {j : Json} (h : j.Exact) (depth : Nat) :
    ∃ c cs, prettyChars depth j = c :: cs ∧ isBlank c = false ∧ c ≠ ']' := by
  cases j with
  | null => exact ⟨_, _, rfl, rfl, by decide⟩
  | bool b => cases b <;> exact ⟨_, _, rfl, rfl, by decide⟩
  | float x => cases h
  | text s => exact ⟨_, _, rfl, rfl, by decide⟩
  | list items => cases items <;> exact ⟨_, _, rfl, rfl, by decide⟩
  | record entries => cases entries <;> exact ⟨_, _, rfl, rfl, by decide⟩
  | int i =>
    obtain ⟨c, cs, hcs, rfl | hc⟩ := head_int i
    · exact ⟨_, cs, hcs, rfl, by decide⟩
    · refine ⟨c, cs, hcs, isBlank_of_isDigit hc, ?_⟩
      rintro rfl
      exact absurd hc (by decide)

theorem stringChars_append (s : String) (rest : List Char) :
    stringChars s ++ rest = '"' :: (s.toList.flatMap stringChar ++ '"' :: rest) := by
  simp [stringChars]

section Steps
variable {fuel room : Nat} {cs tail more rest : List Char}

theorem readValue_list {c : Char} (htail : skipBlanks tail = c :: cs) (hc : c ≠ ']') {items : List Json}
    (h : readItems fuel room (c :: cs) = .ok (items, rest)) :
    readValue (fuel + 1) (room + 1) ('[' :: tail) = .ok (.list items, rest) := by
  simp only [readValue, htail]
  split
  next heq => exact absurd (List.cons.inj heq).1 hc
  · rw [h]
    rfl

theorem readValue_record (htail : skipBlanks tail = '"' :: cs) {entries : List (String × Json)}
    (h : readEntries fuel room ('"' :: cs) = .ok (entries, rest)) :
    readValue (fuel + 1) (room + 1) ('\x7b' :: tail) = .ok (.record entries, rest) := by
  simp only [readValue, htail]
  split
  next heq => exact absurd (List.cons.inj heq).1 (by decide)
  · rw [h]
    rfl

theorem readItems_last {item : Json} (hitem : readValue fuel room cs = .ok (item, tail))
    (htail : skipBlanks tail = ']' :: rest) : readItems (fuel + 1) room cs = .ok ([item], rest) := by
  simp only [readItems, hitem, bind, Except.bind, htail, pure, Except.pure]

theorem readItems_next {item : Json} {items : List Json} (hitem : readValue fuel room cs = .ok (item, tail))
    (htail : skipBlanks tail = ',' :: more) (hitems : readItems fuel room (skipBlanks more) = .ok (items, rest)) :
    readItems (fuel + 1) room cs = .ok (item :: items, rest) := by
  simp only [readItems, hitem, bind, Except.bind, htail, hitems, pure, Except.pure]

theorem readEntries_last (key : String) {value : Json}
    (hvalue : readValue fuel room (skipBlanks cs) = .ok (value, tail)) (htail : skipBlanks tail = '\x7d' :: rest) :
    readEntries (fuel + 1) room (stringChars key ++ ':' :: cs) = .ok ([(key, value)], rest) := by
  simp only [stringChars_append, readEntries, readString_stringChars, skipBlanks_of_head (rfl : isBlank ':' = false),
    wanted, bind, Except.bind, hvalue, htail, pure, Except.pure]

theorem readEntries_next {key : String} {value : Json} {entries : List (String × Json)}
    (fresh : key ∉ entries.map Prod.fst) (hvalue : readValue fuel room (skipBlanks cs) = .ok (value, tail))
    (htail : skipBlanks tail = ',' :: more)
    (hentries : readEntries fuel room (skipBlanks more) = .ok (entries, rest)) :
    readEntries (fuel + 1) room (stringChars key ++ ':' :: cs) = .ok ((key, value) :: entries, rest) := by
  have hnone : entries.lookup key = none := by
    rw [List.lookup_eq_none_iff]
    intro entry hentry
    simpa using fun he : key = entry.1 => fresh (he ▸ List.mem_map_of_mem hentry)
  simp only [stringChars_append, readEntries, readString_stringChars, skipBlanks_of_head (rfl : isBlank ':' = false),
    wanted, bind, Except.bind, hvalue, htail, hentries, consEntry, hnone, pure, Except.pure]

end Steps

section Items
variable (depth outer : Nat) (rest : List Char)

/-- What is written behind an item: the end of the list, or the next items. -/
theorem skipBlanks_itemsChars {items : List Json} (h : ExactItems items) (hne : items ≠ []) :
    ∃ c cs, skipBlanks (newLine depth ++ (itemsChars depth items ++ rest)) = c :: cs ∧ c ≠ ']' ∧
      itemsChars depth items ++ rest = c :: cs := by
  obtain ⟨item, more, rfl⟩ := List.exists_cons_of_ne_nil hne
  obtain ⟨c, cs, hcs, hblank, hc⟩ := head_prettyChars h.1 depth
  have hhead : itemsChars depth (item :: more) ++ rest = c :: (cs ++ (prettyItems depth more ++ rest)) := by
    simp [itemsChars, hcs]
  exact ⟨c, _, by rw [skipBlanks_newLine, hhead, skipBlanks_of_head hblank], hc, hhead⟩

theorem skipBlanks_entriesChars {entries : List (String × Json)} (hne : entries ≠ []) :
    ∃ cs, skipBlanks (newLine depth ++ (entriesChars depth entries ++ rest)) = '"' :: cs ∧
      entriesChars depth entries ++ rest = '"' :: cs := by
  obtain ⟨⟨key, value⟩, more, rfl⟩ := List.exists_cons_of_ne_nil hne
  have hhead : ∃ cs, entriesChars depth ((key, value) :: more) ++ rest = '"' :: cs := ⟨_, by
    rw [entriesChars, List.append_assoc, List.append_assoc, stringChars_append]⟩
  obtain ⟨cs, hcs⟩ := hhead
  exact ⟨cs, by rw [skipBlanks_newLine, hcs, skipBlanks_of_head rfl], hcs⟩

end Items

/-- Behind an item or an entry a value ends. -/
theorem ends_prettyItems (depth outer : Nat) (items : List Json) (rest : List Char) :
    Ends (prettyItems depth items ++ (newLine outer ++ rest)) := by
  cases items with
  | nil => exact ends_newLine outer rest
  | cons item more => exact .inr ⟨_, .inl (by rw [prettyItems]; rfl)⟩

theorem ends_prettyEntries (depth outer : Nat) (entries : List (String × Json)) (rest : List Char) :
    Ends (prettyEntries depth entries ++ (newLine outer ++ rest)) := by
  cases entries with
  | nil => exact ends_newLine outer rest
  | cons entry more => exact .inr ⟨_, .inl (by rw [prettyEntries]; rfl)⟩

theorem length_newLine (depth : Nat) : (newLine depth).length = 2 * depth + 1 := by
  simp [newLine]

mutual

/-- A value is read back from its text, whatever is written behind it. -/
theorem readValue_prettyChars : ∀ {j : Json}, j.Exact → ∀ (depth fuel room : Nat) (rest : List Char),
    (prettyChars depth j).length ≤ fuel + 1 → j.nesting < room → Ends rest →
      readValue (fuel + 1) room (prettyChars depth j ++ rest) = .ok (j, rest)
  | .null, _, _, _, _, _, _, _, _ => rfl
  | .bool true, _, _, _, _, _, _, _, _ => rfl
  | .bool false, _, _, _, _, _, _, _, _ => rfl
  | .int i, h, _, fuel, room, _, _, _, hrest => (readValue_int i hrest fuel room).1 h
  | .text s, _, depth, fuel, room, rest, _, _, _ => by
    rw [prettyChars, stringChars_append, readValue, readString_stringChars]
    rfl
  | .list [], _, _, _, _ + 1, _, _, _, _ => rfl
  | .list (item :: items), h, depth, fuel, room + 1, rest, hfuel, hroom, _ => by
    have hne : item :: items ≠ [] := List.cons_ne_nil item items
    obtain ⟨c, cs, hskipped, hc, hcs⟩ := skipBlanks_itemsChars (depth + 1) (newLine depth ++ ']' :: rest) h hne
    have htext : prettyChars depth (.list (item :: items)) ++ rest =
        '[' :: (newLine (depth + 1) ++ (itemsChars (depth + 1) (item :: items) ++ (newLine depth ++ ']' :: rest))) := by
      rw [prettyChars_list depth hne]
      simp
    have hlength : (itemsChars (depth + 1) (item :: items)).length + 1 ≤ fuel := by
      rw [prettyChars_list depth hne] at hfuel
      simp only [List.length_append, List.length_cons, length_newLine] at hfuel
      omega
    have hread := readItems_itemsChars h hne (depth + 1) depth _ room rest hlength (Nat.le_of_lt_succ hroom)
    rw [List.append_assoc, hcs] at hread
    rw [htext]
    exact readValue_list hskipped hc hread
  | .record [], _, _, _, _ + 1, _, _, _, _ => rfl
  | .record (entry :: entries), h, depth, fuel, room + 1, rest, hfuel, hroom, _ => by
    have hne : entry :: entries ≠ [] := List.cons_ne_nil entry entries
    obtain ⟨cs, hskipped, hcs⟩ := skipBlanks_entriesChars (depth + 1) (newLine depth ++ '\x7d' :: rest) hne
    have htext : prettyChars depth (.record (entry :: entries)) ++ rest =
        '\x7b' :: (newLine (depth + 1) ++
          (entriesChars (depth + 1) (entry :: entries) ++ (newLine depth ++ '\x7d' :: rest))) := by
      rw [prettyChars_record depth hne]
      simp
    have hlength : (entriesChars (depth + 1) (entry :: entries)).length + 1 ≤ fuel := by
      rw [prettyChars_record depth hne] at hfuel
      simp only [List.length_append, List.length_cons, length_newLine] at hfuel
      omega
    have hread := readEntries_entriesChars h.2 h.1 hne (depth + 1) depth _ room rest hlength (Nat.le_of_lt_succ hroom)
    rw [List.append_assoc, hcs] at hread
    rw [htext]
    exact readValue_record hskipped hread

theorem readItems_itemsChars : ∀ {items : List Json}, ExactItems items → items ≠ [] →
    ∀ (depth outer fuel room : Nat) (rest : List Char), (itemsChars depth items).length + 1 ≤ fuel →
      nestingItems items ≤ room →
        readItems fuel room (itemsChars depth items ++ newLine outer ++ ']' :: rest) = .ok (items, rest)
  | item :: items, h, _, depth, outer, fuel, room, rest, hfuel, hroom => by
    obtain ⟨hitem, hmore⟩ := Nat.max_le.mp hroom
    obtain ⟨_, _, hhead, _⟩ := head_prettyChars h.1 depth
    rw [itemsChars, List.length_append, hhead, List.length_cons] at hfuel
    obtain ⟨fuel, rfl⟩ := Nat.exists_eq_add_of_le' (Nat.le_trans (by omega : 2 ≤ _) hfuel)
    have hvalue := readValue_prettyChars h.1 depth fuel room _ (by rw [hhead, List.length_cons]; omega) hitem
      (ends_prettyItems depth outer items (']' :: rest))
    have htext : itemsChars depth (item :: items) ++ newLine outer ++ ']' :: rest =
        prettyChars depth item ++ (prettyItems depth items ++ (newLine outer ++ ']' :: rest)) := by
      simp [itemsChars]
    rw [htext]
    by_cases hne : items = []
    · subst hne
      exact readItems_last hvalue (skipBlanks_newLine outer _)
    · obtain ⟨c, cs, hskipped, _, hcs⟩ := skipBlanks_itemsChars depth (newLine outer ++ ']' :: rest) h.2 hne
      have hlength : (itemsChars depth items).length + 1 ≤ fuel + 1 := by
        rw [prettyItems_cons depth hne] at hfuel
        simp only [List.length_append, List.length_cons] at hfuel
        omega
      have hitems := readItems_itemsChars h.2 hne depth outer _ room rest hlength hmore
      rw [List.append_assoc, hcs, ← hskipped] at hitems
      refine readItems_next hvalue ?_ hitems
      rw [prettyItems_cons depth hne, List.cons_append, List.cons_append, skipBlanks_of_head rfl, List.append_assoc]

theorem readEntries_entriesChars : ∀ {entries : List (String × Json)}, ExactEntries entries →
    (entries.map Prod.fst).Nodup → entries ≠ [] →
    ∀ (depth outer fuel room : Nat) (rest : List Char), (entriesChars depth entries).length + 1 ≤ fuel →
      nestingEntries entries ≤ room →
        readEntries fuel room (entriesChars depth entries ++ newLine outer ++ '\x7d' :: rest) = .ok (entries, rest)
  | (key, value) :: entries, h, hkeys, _, depth, outer, fuel, room, rest, hfuel, hroom => by
    obtain ⟨hentry, hmore⟩ := Nat.max_le.mp hroom
    obtain ⟨hfresh, hnodup⟩ := List.nodup_cons.mp hkeys
    obtain ⟨c, cs, hhead, hblank, _⟩ := head_prettyChars h.1 depth
    simp only [entriesChars, List.length_append, List.length_cons, hhead] at hfuel
    obtain ⟨fuel, rfl⟩ := Nat.exists_eq_add_of_le' (Nat.le_trans (by omega : 2 ≤ _) hfuel)
    have hvalue := readValue_prettyChars h.1 depth fuel room _ (by rw [hhead, List.length_cons]; omega) hentry
      (ends_prettyEntries depth outer entries ('\x7d' :: rest))
    have hskip : ∀ more, skipBlanks (' ' :: (prettyChars depth value ++ more)) = prettyChars depth value ++ more := by
      intro more
      rw [hhead, List.cons_append]
      exact skipBlanks_of_head hblank _
    rw [← hskip] at hvalue
    have htext : entriesChars depth ((key, value) :: entries) ++ newLine outer ++ '\x7d' :: rest =
        stringChars key ++ ':' :: (' ' :: (prettyChars depth value ++
          (prettyEntries depth entries ++ (newLine outer ++ '\x7d' :: rest)))) := by
      simp [entriesChars]
    rw [htext]
    by_cases hne : entries = []
    · subst hne
      exact readEntries_last key hvalue (skipBlanks_newLine outer _)
    · obtain ⟨cs, hskipped, hcs⟩ := skipBlanks_entriesChars depth (newLine outer ++ '\x7d' :: rest) hne
      have hlength : (entriesChars depth entries).length + 1 ≤ fuel + 1 := by
        rw [prettyEntries_cons depth hne] at hfuel
        simp only [List.length_append, List.length_cons] at hfuel
        omega
      have hentries := readEntries_entriesChars h.2 hnodup hne depth outer _ room rest hlength hmore
      rw [List.append_assoc, hcs, ← hskipped] at hentries
      refine readEntries_next hfresh hvalue ?_ hentries
      rw [prettyEntries_cons depth hne, List.cons_append, List.cons_append, skipBlanks_of_head rfl, List.append_assoc]

end

/-- The text of a document, with the line end behind it, is read as that document. -/
theorem parse_prettyChars {j : Json} (h : j.Exact) {room : Nat} (hroom : j.nesting < room) :
    parse room (String.ofList (prettyChars 0 j ++ ['\n'])) = .ok j := by
  obtain ⟨c, cs, hhead, hblank, _⟩ := head_prettyChars h 0
  have htext : skipBlanks (prettyChars 0 j ++ ['\n']) = prettyChars 0 j ++ ['\n'] := by
    rw [hhead]
    exact skipBlanks_of_head hblank _
  have hread := readValue_prettyChars h 0 (2 * (prettyChars 0 j ++ ['\n']).length + 1) room ['\n']
    (by rw [List.length_append]; omega) hroom (.inr ⟨_, .inr rfl⟩)
  rw [parse, String.toList_ofList, htext]
  simp only [hread, bind, Except.bind]
  rfl

end BuildTree.Json
