import BuildTree.Fault
import BuildTree.Json.Basic
import BuildTree.Text.Integer

/-!
# Reading JSON

The reader takes the whole text or refuses it, and what is wrong first decides how: text that is no document, a whole
number of too many digits, or lists and records that nest deeper than there is room for. Beside the standard it knows
the words `NaN`, `Infinity` and `-Infinity`; a control character inside a string is refused. When a key comes twice, it
keeps its first place and its last value. A number with a point or an exponent is a floating point number. A surrogate
without its partner is read as the replacement character.
-/

namespace BuildTree.Json

inductive ReadFault where
  | malformed
  | tooManyDigits (count : Nat)
  | tooDeep (kind : String)
deriving DecidableEq, Repr

def ReadFault.fault : ReadFault → Fault
  | .malformed => .raised "JSONDecodeError" ""
  | .tooManyDigits count => .invalidValue (Text.tooManyDigits count)
  | .tooDeep kind => .raised "RecursionError"
      ("maximum recursion depth exceeded while decoding a JSON " ++ kind ++ " from a unicode string")

/-- What has to be there for a text to be a document. -/
def wanted {α : Type} (found : Option α) : Except ReadFault α :=
  match found with
  | some a => .ok a
  | none => .error .malformed

def isBlank (c : Char) : Bool :=
  c == ' ' || c == '\t' || c == '\n' || c == '\r'

def skipBlanks (cs : List Char) : List Char :=
  cs.dropWhile isBlank

def hexValue (c : Char) : Option Nat :=
  if '0' ≤ c ∧ c ≤ '9' then some (c.toNat - 48)
  else if 'a' ≤ c ∧ c ≤ 'f' then some (c.toNat - 87)
  else if 'A' ≤ c ∧ c ≤ 'F' then some (c.toNat - 55)
  else none

def hexUnit (a b c d : Char) : Option Nat := do
  return (((← hexValue a) * 16 + (← hexValue b)) * 16 + (← hexValue c)) * 16 + (← hexValue d)

def escapedChar : Char → Option Char
  | '"' => some '"'
  | '\\' => some '\\'
  | '/' => some '/'
  | 'b' => some '\x08'
  | 'f' => some '\x0c'
  | 'n' => some '\n'
  | 'r' => some '\r'
  | 't' => some '\t'
  | _ => none

/-- The code units of a string up to its closing quote, and the text after it. -/
def stringUnits : List Char → Option (List Nat × List Char)
  | [] => none
  | '"' :: rest => some ([], rest)
  | '\\' :: 'u' :: a :: b :: c :: d :: rest => do
    let unit ← hexUnit a b c d
    let (units, rest) ← stringUnits rest
    return (unit :: units, rest)
  | '\\' :: c :: rest => do
    let c ← escapedChar c
    let (units, rest) ← stringUnits rest
    return (c.toNat :: units, rest)
  | c :: rest =>
    if c.toNat < 0x20 ∨ c = '\\' then none
    else do
      let (units, rest) ← stringUnits rest
      return (c.toNat :: units, rest)

def unitChar (n : Nat) : Char :=
  if 0xd800 ≤ n ∧ n ≤ 0xdfff then '\ufffd' else Char.ofNat n

/-- The characters of code units: a high surrogate and a low one after it are one character. -/
def unitsChars : List Nat → List Char
  | [] => []
  | [n] => [unitChar n]
  | high :: low :: rest =>
    if 0xd800 ≤ high ∧ high ≤ 0xdbff ∧ 0xdc00 ≤ low ∧ low ≤ 0xdfff then
      Char.ofNat (0x10000 + (high - 0xd800) * 0x400 + (low - 0xdc00)) :: unitsChars rest
    else unitChar high :: unitsChars (low :: rest)

/-- A string after its opening quote, and the text after it. -/
def readString (cs : List Char) : Option (String × List Char) := do
  let (units, rest) ← stringUnits cs
  return (String.ofList (unitsChars units), rest)

def digitsValue (ds : List Char) : Nat :=
  ds.foldl (fun n c => n * 10 + (c.toNat - 48)) 0

def spanDigits (cs : List Char) : List Char × List Char :=
  (cs.takeWhile Char.isDigit, cs.dropWhile Char.isDigit)

/-- The digits of a whole number: a zero stands alone. -/
def wholeDigits : List Char → Option (List Char × List Char)
  | '0' :: rest => some (['0'], rest)
  | cs => match spanDigits cs with
    | ([], _) => none
    | found => some found

/-- The digits after a point, if there is a point with digits after it. -/
def fractionDigits : List Char → Option (List Char × List Char)
  | '.' :: rest => match spanDigits rest with
    | ([], _) => none
    | found => some found
  | _ => none

/-- Sign and digits of an exponent, if there is one. -/
def exponentDigits (cs : List Char) : Option (Int × List Char) :=
  match cs with
  | e :: rest =>
    if e = 'e' ∨ e = 'E' then
      let (negative, rest) := match rest with
        | '-' :: more => (true, more)
        | '+' :: more => (false, more)
        | _ => (false, rest)
      match spanDigits rest with
      | ([], _) => none
      | (ds, rest) => some (if negative then -(digitsValue ds : Int) else digitsValue ds, rest)
    else none
  | [] => none

/-- The floating point number nearest to `digits * 10 ^ exponent`. -/
def nearestFloat (digits : List Char) (exponent : Int) : Float :=
  let m := digitsValue digits
  if m = 0 then 0.0
  else
    let leading := exponent + (toString m).length
    if leading > 400 then 1.0 / 0.0
    else if leading < -400 then 0.0
    else if exponent < 0 then Float.ofScientific m true exponent.natAbs
    else Float.ofScientific m false exponent.natAbs

/-- A number after its sign, and the text after it. -/
def readMagnitude (negative : Bool) (cs : List Char) : Except ReadFault (Json × List Char) := do
  let (whole, rest) ← wanted (wholeDigits cs)
  let fraction := fractionDigits rest
  let rest := (fraction.map (·.2)).getD rest
  let exponent := exponentDigits rest
  let rest := (exponent.map (·.2)).getD rest
  if fraction.isNone && exponent.isNone then
    if Text.digitLimit < whole.length then throw (.tooManyDigits whole.length)
    let n : Int := digitsValue whole
    return (.int (if negative then -n else n), rest)
  else
    let back := (fraction.map (·.1)).getD []
    let x := nearestFloat (whole ++ back) ((exponent.map (·.1)).getD 0 - back.length)
    return (.float (if negative then -x else x), rest)

/-- Puts an entry into a record that is built from its end: an earlier entry of the same key takes the later value. -/
def consEntry (key : String) (value : Json) (later : List (String × Json)) : List (String × Json) :=
  match later.lookup key with
  | some final => (key, final) :: later.filter (·.1 ≠ key)
  | none => (key, value) :: later

mutual

/-- The value a text starts with, and the text after it. -/
def readValue : Nat → Nat → List Char → Except ReadFault (Json × List Char)
  | 0, _, _ => .error .malformed
  | fuel + 1, room, cs => match cs with
    | '"' :: rest => do
      let (s, rest) ← wanted (readString rest)
      return (.text s, rest)
    | '[' :: rest => match room with
      | 0 => .error (.tooDeep "array")
      | room + 1 => match skipBlanks rest with
        | ']' :: rest => .ok (.list [], rest)
        | rest => do
          let (items, rest) ← readItems fuel room rest
          return (.list items, rest)
    | '\x7b' :: rest => match room with
      | 0 => .error (.tooDeep "object")
      | room + 1 => match skipBlanks rest with
        | '\x7d' :: rest => .ok (.record [], rest)
        | rest => do
          let (entries, rest) ← readEntries fuel room rest
          return (.record entries, rest)
    | 'n' :: 'u' :: 'l' :: 'l' :: rest => .ok (.null, rest)
    | 't' :: 'r' :: 'u' :: 'e' :: rest => .ok (.bool true, rest)
    | 'f' :: 'a' :: 'l' :: 's' :: 'e' :: rest => .ok (.bool false, rest)
    | 'N' :: 'a' :: 'N' :: rest => .ok (.float (0.0 / 0.0), rest)
    | 'I' :: 'n' :: 'f' :: 'i' :: 'n' :: 'i' :: 't' :: 'y' :: rest => .ok (.float (1.0 / 0.0), rest)
    | '-' :: 'I' :: 'n' :: 'f' :: 'i' :: 'n' :: 'i' :: 't' :: 'y' :: rest => .ok (.float (-1.0 / 0.0), rest)
    | '-' :: rest => readMagnitude true rest
    | _ => readMagnitude false cs

/-- Items up to the closing bracket, and the text after it. -/
def readItems : Nat → Nat → List Char → Except ReadFault (List Json × List Char)
  | 0, _, _ => .error .malformed
  | fuel + 1, room, cs => do
    let (item, rest) ← readValue fuel room cs
    match skipBlanks rest with
    | ',' :: rest =>
      let (items, rest) ← readItems fuel room (skipBlanks rest)
      return (item :: items, rest)
    | ']' :: rest => return ([item], rest)
    | _ => throw .malformed

/-- Entries up to the closing brace, and the text after it. -/
def readEntries : Nat → Nat → List Char → Except ReadFault (List (String × Json) × List Char)
  | 0, _, _ => .error .malformed
  | fuel + 1, room, cs => match cs with
    | '"' :: rest => do
      let (key, rest) ← wanted (readString rest)
      match skipBlanks rest with
      | ':' :: rest =>
        let (value, rest) ← readValue fuel room (skipBlanks rest)
        match skipBlanks rest with
        | ',' :: rest =>
          let (entries, rest) ← readEntries fuel room (skipBlanks rest)
          return (consEntry key value entries, rest)
        | '\x7d' :: rest => return ([(key, value)], rest)
        | _ => throw .malformed
      | _ => throw .malformed
    | _ => .error .malformed

end

/-- The document that a whole text is, if it is one and there is room for as many lists and records, one in another. -/
def parse (room : Nat) (text : String) : Except ReadFault Json := do
  let cs := skipBlanks text.toList
  let (value, rest) ← readValue (2 * cs.length + 2) room cs
  if (skipBlanks rest).isEmpty then return value else throw .malformed

end BuildTree.Json
