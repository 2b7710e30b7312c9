import BuildTree.Decimal.FloatText
import BuildTree.Text.Quoted

/-!
# JSON documents

A document keeps the order of its keys and tells whole numbers from floating point numbers. In a text every character
outside printable ASCII is escaped.
-/

namespace BuildTree

inductive Json where
  | null
  | bool (b : Bool)
  | int (i : Int)
  | float (x : Float)
  | text (s : String)
  | list (items : List Json)
  | record (entries : List (String × Json))
deriving Inhabited

namespace Json

def unitEscape (n : Nat) : List Char :=
  '\\' :: 'u' :: Text.hexDigits 4 n

/-- The escape of a code point; one beyond 16 bits is written as two surrogates. -/
def unicodeEscape (n : Nat) : List Char :=
  if n < 0x10000 then unitEscape n
  else unitEscape (0xd800 + (n - 0x10000) / 0x400) ++ unitEscape (0xdc00 + (n - 0x10000) % 0x400)

def stringChar (c : Char) : List Char :=
  if c = '"' then ['\\', '"']
  else if c = '\\' then ['\\', '\\']
  else if c = '\n' then ['\\', 'n']
  else if c = '\r' then ['\\', 'r']
  else if c = '\t' then ['\\', 't']
  else if c = '\x0c' then ['\\', 'f']
  else if c = '\x08' then ['\\', 'b']
  else if ' ' ≤ c ∧ c ≤ '~' then [c]
  else unicodeEscape c.toNat

def stringChars (s : String) : List Char :=
  '"' :: s.toList.flatMap stringChar ++ ['"']

def floatChars (x : Float) : List Char :=
  (Decimal.floatText "Infinity" "NaN" x).toList

/-- A line end and the indentation of the next line. -/
def newLine (depth : Nat) : List Char :=
  '\n' :: List.replicate (2 * depth) ' '

/-- The value of a key, if the document is a record with that key. -/
def get? (key : String) : Json → Option Json
  | .record entries => entries.lookup key
  | _ => none

end Json
end BuildTree
