import BuildTree.Config.File
import BuildTree.Proofs.Config.Writable
import BuildTree.Proofs.Json.Document
import BuildTree.Proofs.Table
import BuildTree.Proofs.Text.Ascii
import Mathlib.Data.List.Nodup

/-!
# Snapshots are read back

What a configuration can hold as plain data goes into a snapshot and comes back from it: the same records with their
keys in the same order, the same lists, texts, whole numbers, truth values and nothings. Only a path comes back as its
text. Numbers have to be short, and lists and records must not nest deeper than there is room for, when they are written
and when they are read. Snapshots are printable ASCII and line feeds, so the bytes of the file do not depend on how it
is decoded.
-/

namespace BuildTree

namespace Value
variable {ρ : Type}

mutual

/-- Plain data and paths: no floating point numbers, only short whole numbers, nothing that belongs to a pass, and only
records whose keys are texts, none of them there twice. -/
def Storable : Value ρ → Prop
  | .null => True
  | .bool _ => True
  | .int i => Text.Short i
  | .text _ => True
  | .path _ => True
  | .list items => StorableItems items
  | .record entries => (Table.keys entries).Nodup ∧ StorableEntries entries
  | _ => False

def StorableItems : List (Value ρ) → Prop
  | [] => True
  | item :: rest => item.Storable ∧ StorableItems rest

def StorableEntries : List (Key × Value ρ) → Prop
  | [] => True
  | (key, value) :: rest => (∃ text, key = .text text) ∧ value.Storable ∧ StorableEntries rest

end

mutual

/-- A value with its text in place of each path. -/
def withPathTexts : Value ρ → Value ρ
  | .path p => .text p.toString
  | .list items => .list (itemsWithPathTexts items)
  | .record entries => .record (entriesWithPathTexts entries)
  | value => value

def itemsWithPathTexts : List (Value ρ) → List (Value ρ)
  | [] => []
  | item :: rest => item.withPathTexts :: itemsWithPathTexts rest

def entriesWithPathTexts : List (Key × Value ρ) → List (Key × Value ρ)
  | [] => []
  | (key, value) :: rest => (key, value.withPathTexts) :: entriesWithPathTexts rest

end

end Value

namespace Json

/-- What stands in a snapshot: a line feed, or a printable character of ASCII. -/
def Printed (c : Char) : Prop :=
  c = '\n' ∨ 0x20 ≤ c.toNat ∧ c.toNat ≤ 0x7e

instance (c : Char) : Decidable (Printed c) := inferInstanceAs (Decidable (_ ∨ _))

theorem printed_newLine (depth : Nat) : ∀ c ∈ newLine depth, Printed c := by
  intro c hc
  rcases List.mem_cons.mp hc with rfl | hc
  · decide
  · rw [List.eq_of_mem_replicate hc]
    decide

theorem printed_unitEscape (n : Nat) : ∀ c ∈ unitEscape n, Printed c := by
  have hdigit : ∀ k < 16, Printed (Text.hexDigit k) := by decide
  simp only [unitEscape, Text.hexDigits, List.nil_append, List.cons_append, List.forall_mem_cons]
  exact ⟨by decide, by decide, hdigit _ (Nat.mod_lt _ (by decide)), hdigit _ (Nat.mod_lt _ (by decide)),
    hdigit _ (Nat.mod_lt _ (by decide)), hdigit _ (Nat.mod_lt _ (by decide)), by simp⟩

theorem printed_stringChar (char : Char) : ∀ c ∈ stringChar char, Printed c := by
  unfold stringChar
  repeat
    split
    · simp [Printed]
  split
  next hplain => exact List.forall_mem_singleton.mpr (.inr hplain)
  · unfold unicodeEscape
    split
    · exact printed_unitEscape _
    · exact List.forall_mem_append.mpr ⟨printed_unitEscape _, printed_unitEscape _⟩

theorem printed_stringChars (s : String) : ∀ c ∈ stringChars s, Printed c := by
  simp only [stringChars, List.forall_mem_append, List.forall_mem_cons, List.mem_flatMap]
  refine ⟨⟨by decide, ?_⟩, by decide, by simp⟩
  rintro c ⟨char, _, hc⟩
  exact printed_stringChar char c hc

theorem printed_int (i : Int) : ∀ c ∈ (toString i).toList, Printed c := by
  have hdigits : ∀ n, ∀ c ∈ Nat.toDigits 10 n, Printed c := by
    intro n c hc
    have hdigit := Char.isDigit_iff_toNat.mp (isDigit_of_mem_toDigits hc)
    exact .inr ⟨Nat.le_trans (by decide) hdigit.1, Nat.le_trans hdigit.2 (by decide)⟩
  cases i with
  | ofNat n => exact toList_ofNat n ▸ hdigits n
  | negSucc n =>
    rw [toList_negSucc]
    exact List.forall_mem_cons.mpr ⟨by decide, hdigits (n + 1)⟩

mutual

theorem printed_prettyChars : ∀ {j : Json}, j.Exact → ∀ depth, ∀ c ∈ prettyChars depth j, Printed c
  | .null, _, _ => by simp [prettyChars, Printed]
  | .bool true, _, _ => by simp [prettyChars, Printed]
  | .bool false, _, _ => by simp [prettyChars, Printed]
  | .int i, _, _ => printed_int i
  | .text s, _, _ => printed_stringChars s
  | .list [], _, _ => by simp [prettyChars, Printed]
  | .list (item :: items), h, depth => by
    have hitem := printed_prettyChars h.1 (depth + 1)
    have hitems := printed_prettyItems h.2 (depth + 1)
    simp only [prettyChars, List.forall_mem_append, List.forall_mem_cons]
    exact ⟨⟨⟨⟨⟨by decide, printed_newLine _⟩, hitem⟩, hitems⟩, printed_newLine _⟩, by decide, by simp⟩
  | .record [], _, _ => by simp [prettyChars, Printed]
  | .record ((key, value) :: entries), h, depth => by
    have hvalue := printed_prettyChars h.2.1 (depth + 1)
    have hentries := printed_prettyEntries h.2.2 (depth + 1)
    simp only [prettyChars, List.forall_mem_append, List.forall_mem_cons]
    exact ⟨⟨⟨⟨⟨⟨by decide, printed_newLine _⟩, printed_stringChars key⟩, by decide, by decide, hvalue⟩, hentries⟩,
      printed_newLine _⟩, by decide, by simp⟩

theorem printed_prettyItems : ∀ {items : List Json}, ExactItems items →
    ∀ depth, ∀ c ∈ prettyItems depth items, Printed c
  | [], _, _ => by simp [prettyItems]
  | item :: items, h, depth => by
    simp only [prettyItems, List.forall_mem_append, List.forall_mem_cons]
    exact ⟨⟨⟨by decide, printed_newLine _⟩, printed_prettyChars h.1 depth⟩, printed_prettyItems h.2 depth⟩

theorem printed_prettyEntries : ∀ {entries : List (String × Json)}, ExactEntries entries →
    ∀ depth, ∀ c ∈ prettyEntries depth entries, Printed c
  | [], _, _ => by simp [prettyEntries]
  | (key, value) :: entries, h, depth => by
    simp only [prettyEntries, List.forall_mem_append, List.forall_mem_cons]
    exact ⟨⟨⟨⟨by decide, printed_newLine _⟩, printed_stringChars key⟩, by decide, by decide,
      printed_prettyChars h.1 depth⟩, printed_prettyEntries h.2 depth⟩

end

end Json

namespace Config
variable {ρ : Type} (describe : ρ → String)

mutual

/-- The document that plain data is written as. -/
def toJson : Value ρ → Json
  | .null => .null
  | .bool b => .bool b
  | .int i => .int i
  | .float x => .float x
  | .text s => .text s
  | .list items => .list (itemsToJson items)
  | .record entries => .record (entriesToJson entries)
  | value => .text (value.toText describe)

def itemsToJson : List (Value ρ) → List Json
  | [] => []
  | item :: rest => toJson item :: itemsToJson rest

def entriesToJson : List (Key × Value ρ) → List (String × Json)
  | [] => []
  | (key, value) :: rest => (key.toText, toJson value) :: entriesToJson rest

end

section Layout

theorem done_append (first next : List Char) : Written.done first ++ Written.done next = .done (first ++ next) := rfl

theorem behind_done (separator : List Char) (item : Value ρ) (chars : List Char) :
    behind separator item (.done chars) = .done (separator ++ chars) := by
  cases item <;> rfl

theorem writeKey_text (separator : List Char) (text : String) :
    writeKey separator (.text text) = .done (separator ++ Json.stringChars text ++ [':', ' ']) := rfl

mutual

/-- If there is room for it, plain data is written as its document. -/
theorem write_eq_done : ∀ {value : Value ρ}, value.Storable → ∀ {room : Nat}, value.nesting ≤ room → ∀ depth : Nat,
    write describe room depth value = .done (Json.prettyChars depth (toJson describe value))
  | .null, _, _, _, _ => rfl
  | .bool true, _, _, _, _ => rfl
  | .bool false, _, _, _, _ => rfl
  | .int i, h, _, _, _ => by
    rw [write, writeInteger, Text.writeInteger?_of_short h]
    rfl
  | .text _, _, _, _, _ => rfl
  | .path _, _, _, _, _ => rfl
  | .list [], _, _, _, _ => rfl
  | .list (_ :: _), _, 0, hroom, _ => absurd (Nat.max_le.mp hroom).1 (Nat.not_succ_le_zero _)
  | .list (item :: rest), h, room + 1, hroom, depth => by
    obtain ⟨hitem, hrest⟩ := Nat.max_le.mp hroom
    rw [write, write_eq_done h.1 (Nat.le_of_succ_le_succ hitem), writeItems_eq_done h.2 hrest, behind_done]
    simp [done_append, toJson, itemsToJson, Json.prettyChars]
  | .record [], _, _, _, _ => rfl
  | .record (_ :: _), _, 0, hroom, _ => absurd (Nat.max_le.mp hroom).1 (Nat.not_succ_le_zero _)
  | .record ((key, value) :: rest), h, room + 1, hroom, depth => by
    obtain ⟨hvalue, hrest⟩ := Nat.max_le.mp hroom
    obtain ⟨_, ⟨text, rfl⟩, hstorable, hmore⟩ := h
    rw [write, write_eq_done hstorable (Nat.le_of_succ_le_succ hvalue), writeEntries_eq_done hmore hrest, writeKey_text]
    simp [done_append, toJson, entriesToJson, Json.prettyChars, Key.toText, Key.text?]

theorem writeItems_eq_done : ∀ {items : List (Value ρ)}, Value.StorableItems items → ∀ {room : Nat},
    Value.nestingItems items ≤ room + 1 → ∀ depth : Nat,
      writeItems describe room depth items = .done (Json.prettyItems depth (itemsToJson describe items))
  | [], _, _, _, _ => rfl
  | item :: rest, h, room, hroom, depth => by
    obtain ⟨hitem, hrest⟩ := Nat.max_le.mp hroom
    rw [writeItems, write_eq_done h.1 (Nat.le_of_succ_le_succ hitem), writeItems_eq_done h.2 hrest, behind_done]
    simp [done_append, itemsToJson, Json.prettyItems]

theorem writeEntries_eq_done : ∀ {entries : List (Key × Value ρ)}, Value.StorableEntries entries → ∀ {room : Nat},
    Value.nestingEntries entries ≤ room + 1 → ∀ depth : Nat,
      writeEntries describe room depth entries = .done (Json.prettyEntries depth (entriesToJson describe entries))
  | [], _, _, _, _ => rfl
  | (key, value) :: rest, h, room, hroom, depth => by
    obtain ⟨hvalue, hrest⟩ := Nat.max_le.mp hroom
    obtain ⟨⟨text, rfl⟩, hstorable, hmore⟩ := h
    rw [writeEntries, write_eq_done hstorable (Nat.le_of_succ_le_succ hvalue), writeEntries_eq_done hmore hrest,
      writeKey_text]
    simp [done_append, entriesToJson, Json.prettyEntries, Key.toText, Key.text?]

end

mutual

theorem nesting_toJson : ∀ value : Value ρ, (toJson describe value).nesting = value.nesting
  | .list items => nestingItems_itemsToJson items
  | .record entries => nestingEntries_entriesToJson entries
  | .null => rfl
  | .bool _ => rfl
  | .int _ => rfl
  | .float _ => rfl
  | .text _ => rfl
  | .path _ => rfl
  | .target _ => rfl
  | .targetDependency _ => rfl
  | .pathDependency _ => rfl
  | .pattern _ _ => rfl
  | .location _ => rfl
  | .other _ _ => rfl
  | .again _ => rfl
  | .transform _ => rfl

theorem nestingItems_itemsToJson : ∀ items : List (Value ρ),
    Json.nestingItems (itemsToJson describe items) = Value.nestingItems items
  | [] => rfl
  | item :: rest => by
    rw [itemsToJson, Json.nestingItems, Value.nestingItems, nesting_toJson item, nestingItems_itemsToJson rest]

theorem nestingEntries_entriesToJson : ∀ entries : List (Key × Value ρ),
    Json.nestingEntries (entriesToJson describe entries) = Value.nestingEntries entries
  | [] => rfl
  | (_, value) :: rest => by
    rw [entriesToJson, Json.nestingEntries, Value.nestingEntries, nesting_toJson value,
      nestingEntries_entriesToJson rest]

end

end Layout

theorem map_fst_entriesToJson {entries : List (Key × Value ρ)} (h : Value.StorableEntries entries) :
    ((entriesToJson describe entries).map Prod.fst).map Key.text = Table.keys entries := by
  induction entries with
  | nil => rfl
  | cons entry rest ih =>
    obtain ⟨key, value⟩ := entry
    obtain ⟨⟨text, rfl⟩, _, hmore⟩ := h
    rw [entriesToJson, List.map_cons, List.map_cons, ih hmore]
    rfl

mutual

theorem exact_toJson : ∀ {value : Value ρ}, value.Storable → (toJson describe value).Exact
  | .null, _ => trivial
  | .bool _, _ => trivial
  | .int _, h => h
  | .text _, _ => trivial
  | .path _, _ => trivial
  | .list _, h => exactItems_itemsToJson h
  | .record _, h =>
    ⟨List.Nodup.of_map Key.text ((map_fst_entriesToJson describe h.2).symm ▸ h.1), exactEntries_entriesToJson h.2⟩

theorem exactItems_itemsToJson : ∀ {items : List (Value ρ)}, Value.StorableItems items →
    Json.ExactItems (itemsToJson describe items)
  | [], _ => trivial
  | _ :: _, h => ⟨exact_toJson h.1, exactItems_itemsToJson h.2⟩

theorem exactEntries_entriesToJson : ∀ {entries : List (Key × Value ρ)}, Value.StorableEntries entries →
    Json.ExactEntries (entriesToJson describe entries)
  | [], _ => trivial
  | _ :: _, h => ⟨exact_toJson h.2.1, exactEntries_entriesToJson h.2.2⟩

end

mutual

/-- The document of plain data means that data, but for paths. -/
theorem ofJson_toJson : ∀ {value : Value ρ}, value.Storable → ofJson (toJson describe value) = value.withPathTexts
  | .null, _ => rfl
  | .bool _, _ => rfl
  | .int _, _ => rfl
  | .text _, _ => rfl
  | .path _, _ => rfl
  | .list _, h => congrArg Value.list (itemsOfJson_itemsToJson h)
  | .record _, h => congrArg Value.record (entriesOfJson_entriesToJson h.2)

theorem itemsOfJson_itemsToJson : ∀ {items : List (Value ρ)}, Value.StorableItems items →
    itemsOfJson (itemsToJson describe items) = Value.itemsWithPathTexts items
  | [], _ => rfl
  | _ :: _, h => congr (congrArg List.cons (ofJson_toJson h.1)) (itemsOfJson_itemsToJson h.2)

theorem entriesOfJson_entriesToJson : ∀ {entries : List (Key × Value ρ)}, Value.StorableEntries entries →
    entriesOfJson (entriesToJson describe entries) = Value.entriesWithPathTexts entries
  | [], _ => rfl
  | (key, _) :: _, ⟨⟨text, htext⟩, hvalue, hmore⟩ => by
    subst htext
    exact congr (congrArg List.cons (congrArg (Prod.mk (.text text)) (ofJson_toJson hvalue)))
      (entriesOfJson_entriesToJson hmore)

end

/-- A snapshot of plain data is complete if there is room for it, and it is the document of that data. -/
theorem snapshot_eq_done {value : Value ρ} (h : value.Storable) {room : Nat} (hroom : value.nesting ≤ room) :
    snapshot room describe value = .done (Json.prettyChars 0 (toJson describe value) ++ ['\n']) := by
  rw [snapshot, write_eq_done describe h hroom, done_append]

/-- The file of a snapshot is read as the configuration it was written for, with its text in place of each path: if
whole numbers are short and there was room for what nests in it, and some more room is there when it is read. -/
theorem ofContent_snapshot {value : Value ρ} (h : value.Storable) {room readRoom : Nat} (hroom : value.nesting ≤ room)
    (hread : value.nesting < readRoom) :
    (snapshot room describe value).stopped = none ∧
      ofContent readRoom (Text.encode (String.ofList (snapshot room describe value).chars)) =
        .ok value.withPathTexts := by
  have hexact := exact_toJson describe h
  rw [snapshot_eq_done describe h hroom]
  refine ⟨rfl, ?_⟩
  show ofContent readRoom (Text.encode (String.ofList (Json.prettyChars 0 (toJson describe value) ++ ['\n']))) = _
  have hprinted : ∀ c ∈ (String.ofList (Json.prettyChars 0 (toJson describe value) ++ ['\n'])).toList,
      Json.Printed c := by
    rw [String.toList_ofList]
    exact List.forall_mem_append.mpr ⟨Json.printed_prettyChars hexact 0, fun _ hc => .inl (List.mem_singleton.mp hc)⟩
  have hascii : ∀ c ∈ (String.ofList (Json.prettyChars 0 (toJson describe value) ++ ['\n'])).toList,
      Text.IsAscii c := by
    intro c hc
    rcases hprinted c hc with rfl | ⟨_, hhigh⟩
    · decide
    · exact Nat.lt_of_le_of_lt hhigh (by decide)
  have hreturn : '\r' ∉ (String.ofList (Json.prettyChars 0 (toJson describe value) ++ ['\n'])).toList := fun hc =>
    absurd (hprinted _ hc) (by decide)
  have hload : load readRoom (String.ofList (Json.prettyChars 0 (toJson describe value) ++ ['\n'])) =
      .ok value.withPathTexts := by
    rw [load, Json.parse_prettyChars hexact (nesting_toJson describe value ▸ hread)]
    exact congrArg Except.ok (ofJson_toJson describe h)
  rw [ofContent, textOfBytes_encode hascii hreturn]
  dsimp only
  rw [hload]
  rfl

/-- A configuration with empty and nested values, a path, and characters that are not written as they are. -/
def varied : Value Nat :=
  .record [
    ("toolchain", .record [("cc", .text "gcc \"-O2\"\t"), ("flags", .list []), ("more", .record [])]),
    ("größe 😀", .list [.int (-12), .bool true, .null, .list [.text ""]]),
    ("where", .path ⟨.slash, ["s", "lib"]⟩)]

theorem ofContent_snapshot_varied :
    varied.Storable ∧ varied.nesting = 3 ∧
    (snapshot 3 (fun _ => "") varied).chars = ("\x7b\n  \"toolchain\": \x7b\n    \"cc\": \"gcc \\\"-O2\\\"\\t\",\n" ++
      "    \"flags\": [],\n    \"more\": \x7b\x7d\n  \x7d,\n  \"gr\\u00f6\\u00dfe \\ud83d\\ude00\": [\n" ++
      "    -12,\n    true,\n    null,\n    [\n      \"\"\n    ]\n  ],\n  \"where\": \"/s/lib\"\n\x7d\n").toList ∧
    ofContent 4 (Text.encode (String.ofList (snapshot 3 (fun _ => "") varied).chars)) = .ok (.record [
      ("toolchain", .record [("cc", .text "gcc \"-O2\"\t"), ("flags", .list []), ("more", .record [])]),
      ("größe 😀", .list [.int (-12), .bool true, .null, .list [.text ""]]),
      ("where", .text "/s/lib")] : Value Nat) := by
  have hshort : Text.Short (-12) := (Text.short_iff _).mpr (by decide)
  have hstorable : varied.Storable := by
    simp [varied, Value.Storable, Value.StorableItems, Value.StorableEntries, Table.keys, hshort]
  have hnesting : varied.nesting = 3 := by decide
  exact ⟨hstorable, hnesting, by decide +kernel,
    (ofContent_snapshot (fun _ => "") hstorable (Nat.le_of_eq hnesting) (Nat.lt_succ_of_le (Nat.le_of_eq hnesting))).2⟩

/-- A whole number of too many digits stops a snapshot, and is not read if it stands in one all the same. -/
theorem refused_of_not_short {i : Int} (h : ¬ Text.Short i) (room : Nat) :
    snapshot room describe (.int i) = .stop .tooLong ∧
      ∃ count, load (ρ := ρ) room (toString i ++ "\n") = .error (.tooManyDigits count) := by
  constructor
  · rw [snapshot, write, writeInteger, (Text.writeInteger?_eq_none_iff i).mpr h]
    rfl
  · obtain ⟨c, cs, hhead, hc⟩ := Json.head_int i
    have hblank : Json.isBlank c = false := hc.elim (fun h => h ▸ rfl) Json.isBlank_of_isDigit
    have htext : Json.skipBlanks (toString i ++ "\n").toList = (toString i).toList ++ ['\n'] := by
      rw [String.toList_append, hhead]
      exact Json.skipBlanks_of_head hblank _
    obtain ⟨count, hread⟩ := (Json.readValue_int i (.inr ⟨[], .inr rfl⟩)
      (2 * ((toString i).toList ++ ['\n']).length + 1) room).2 h
    refine ⟨count, ?_⟩
    rw [load, Json.parse, htext]
    simp only [hread, bind, Except.bind]
    rfl

/-- A number of one digit too many. -/
def longNumber : Int :=
  Int.ofNat (10 ^ Text.digitLimit)

theorem not_short_longNumber : ¬ Text.Short longNumber :=
  Nat.lt_irrefl _

/-- Lists that stand one in another. -/
def nested : Nat → Value Nat
  | 0 => .list []
  | n + 1 => .list [nested n]

theorem storable_nested (n : Nat) : (nested n).Storable := by
  induction n with
  | zero => trivial
  | succ n ih => exact ⟨ih, trivial⟩

theorem nesting_nested (n : Nat) : (nested n).nesting = n := by
  induction n with
  | zero => rfl
  | succ n ih => rw [nested, Value.nesting, Value.nestingItems, Value.nestingItems, ih, Nat.max_zero]

/-- So a whole number can be too long to be written, and to be read if it stands in a file all the same, and whatever
room there is, plain data can nest too deep for it. -/
theorem not_ofContent_snapshot :
    (∀ room, snapshot room (fun _ : Nat => "") (.int longNumber) = .stop .tooLong) ∧
    (∀ room, ∃ count, load (ρ := Nat) room (toString longNumber ++ "\n") = .error (.tooManyDigits count)) ∧
    ∀ room, (nested (room + 1)).Storable ∧ (snapshot room (fun _ => "") (nested (room + 1))).stopped ≠ none := by
  refine ⟨fun room => (refused_of_not_short _ not_short_longNumber room).1,
    fun room => (refused_of_not_short (ρ := Nat) (fun _ => "") not_short_longNumber room).2,
    fun room => ⟨storable_nested _, fun h => ?_⟩⟩
  have hnesting := ((stopped_snapshot_iff _ room _).mp h).2
  rw [nesting_nested] at hnesting
  exact Nat.not_succ_le_self room hnesting

end Config
end BuildTree
