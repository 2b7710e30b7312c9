import BuildTree.Config.Basic
import BuildTree.Json.Reader

/-!
# Snapshots of the configuration

The configuration is written as a JSON document that other tools read: two blanks of indentation, one entry a line. What
JSON has no form for is written as its text. A key that is neither a text nor a whole number nor nothing stops the
writing, and so do a whole number of too many digits, a value that holds itself, and lists and records that nest deeper
than there is room for. What was written before that stays written.
-/

namespace BuildTree.Config
variable {ρ : Type}

inductive WriteFault where
  | badKey (kind : String)
  | tooLong
  | circular
  | tooDeep
deriving DecidableEq, Repr

def WriteFault.fault : WriteFault → Fault
  | .badKey kind => .typeMismatch (some ("keys must be str, int, float, bool or None, not " ++ kind))
  | .tooLong => .invalidValue Text.tooLongToWrite
  | .circular => .invalidValue "Circular reference detected"
  | .tooDeep => .raised "RecursionError" "maximum recursion depth exceeded while calling a Python object"

/-- What has been written, and what has stopped it. -/
structure Written where
  chars : List Char
  stopped : Option WriteFault
deriving DecidableEq, Repr

namespace Written

/-- Characters written without a fault. -/
def done (chars : List Char) : Written :=
  ⟨chars, none⟩

def stop (f : WriteFault) : Written :=
  ⟨[], some f⟩

/-- One thing written behind another, unless writing has stopped. -/
def andThen (first next : Written) : Written :=
  match first.stopped with
  | none => ⟨first.chars ++ next.chars, next.stopped⟩
  | some _ => first

instance : Append Written := ⟨andThen⟩

end Written

/-- A whole number, unless it has too many digits. -/
def writeInteger (i : Int) : Written :=
  match Text.writeInteger? i with
  | some text => .done text.toList
  | none => .stop .tooLong

/-- A key and what stands between it and its value, behind what separates them from what comes before. -/
def writeKey (separator : List Char) : Key → Written
  | .text s => .done (separator ++ Json.stringChars s ++ [':', ' '])
  | .null => .done (separator ++ Json.stringChars "null" ++ [':', ' '])
  | .int i => match Text.writeInteger? i with
    | some text => .done (separator ++ Json.stringChars text ++ [':', ' '])
    | none => .stop .tooLong
  | .other kind _ => .stop (.badKey kind)

/-- An item behind what separates it from what comes before. A whole number goes out together with that. -/
def behind (separator : List Char) (item : Value ρ) (written : Written) : Written :=
  match item, written.stopped with
  | .int _, some f => .stop f
  | _, _ => .done separator ++ written

mutual

/-- A value as JSON, starting at an indentation, with room for as many lists and records, one in another. -/
def write (describe : ρ → String) (room depth : Nat) : Value ρ → Written
  | .null => .done ['n', 'u', 'l', 'l']
  | .bool true => .done ['t', 'r', 'u', 'e']
  | .bool false => .done ['f', 'a', 'l', 's', 'e']
  | .int i => writeInteger i
  | .float x => .done (Json.floatChars x)
  | .text s => .done (Json.stringChars s)
  | .list [] => .done ['[', ']']
  | .list (item :: rest) => match room with
    | 0 => .stop .tooDeep
    | room + 1 =>
      behind ('[' :: Json.newLine (depth + 1)) item (write describe room (depth + 1) item)
        ++ writeItems describe room (depth + 1) rest ++ .done (Json.newLine depth ++ [']'])
  | .record [] => .done ['\x7b', '\x7d']
  | .record ((key, value) :: rest) => match room with
    | 0 => .stop .tooDeep
    | room + 1 =>
      .done ('\x7b' :: Json.newLine (depth + 1)) ++ writeKey [] key ++ write describe room (depth + 1) value
        ++ writeEntries describe room (depth + 1) rest ++ .done (Json.newLine depth ++ ['\x7d'])
  | .again _ => .stop .circular
  | value => .done (Json.stringChars (value.toText describe))

/-- The items after the first one. -/
def writeItems (describe : ρ → String) (room depth : Nat) : List (Value ρ) → Written
  | [] => .done []
  | item :: rest =>
    behind (',' :: Json.newLine depth) item (write describe room depth item) ++ writeItems describe room depth rest

/-- The entries after the first one. -/
def writeEntries (describe : ρ → String) (room depth : Nat) : List (Key × Value ρ) → Written
  | [] => .done []
  | (key, value) :: rest =>
    writeKey (',' :: Json.newLine depth) key ++ write describe room depth value
      ++ writeEntries describe room depth rest

end

def snapshot (room : Nat) (describe : ρ → String) (config : Value ρ) : Written :=
  write describe room 0 config ++ .done ['\n']

mutual

def ofJson : Json → Value ρ
  | .null => .null
  | .bool b => .bool b
  | .int i => .int i
  | .float x => .float x
  | .text s => .text s
  | .list items => .list (itemsOfJson items)
  | .record entries => .record (entriesOfJson entries)

def itemsOfJson : List Json → List (Value ρ)
  | [] => []
  | item :: rest => ofJson item :: itemsOfJson rest

def entriesOfJson : List (String × Json) → List (Key × Value ρ)
  | [] => []
  | (key, value) :: rest => (.text key, ofJson value) :: entriesOfJson rest

end

def load (room : Nat) (text : String) : Except Json.ReadFault (Value ρ) :=
  (Json.parse room text).map ofJson

def snapshotFile : String :=
  "kiln_config.json"

end BuildTree.Config
