import BuildTree.Text.CharClass

/-!
# Whole numbers in texts

A text spells a whole number with decimal digits of any script, a sign in front of them and single underscores between
them; blanks around it do not count. Numbers of too many digits are neither read nor written.
-/

namespace BuildTree.Text

def digitLimit : Nat :=
  4300

def tooManyDigits (count : Nat) : String :=
  "Exceeds the limit (" ++ toString digitLimit ++ " digits) for integer string conversion: value has "
    ++ toString count ++ " digits; use sys.set_int_max_str_digits() to increase the limit"

def tooLongToWrite : String :=
  "Exceeds the limit (" ++ toString digitLimit
    ++ " digits) for integer string conversion; use sys.set_int_max_str_digits() to increase the limit"

def writeInteger? (i : Int) : Option String :=
  if (Nat.toDigits 10 i.natAbs).length ≤ digitLimit then some (toString i) else none

def digitValue? (c : Char) : Option Nat :=
  (placeInRun digitRuns c.toNat).map (· % 10)

/-- A blank that may stand around a number. -/
def isNumberBlank (c : Char) : Bool :=
  if c.toNat < 128 then c == ' ' || (9 ≤ c.toNat && c.toNat ≤ 13) else isBlankChar c

/-- The values of digits with single underscores between them. -/
def digitValues? : List Char → Option (List Nat)
  | [] => none
  | [c] => (digitValue? c).map ([·])
  | c :: '_' :: rest => do return (← digitValue? c) :: (← digitValues? rest)
  | c :: rest => do return (← digitValue? c) :: (← digitValues? rest)

def ofDigits (values : List Nat) : Nat :=
  values.foldl (fun n d => n * 10 + d) 0

def readNatural? (cs : List Char) : Option Nat := do
  let values ← digitValues? cs
  if values.length ≤ digitLimit then some (ofDigits values) else none

def readInteger? (cs : List Char) : Option Int :=
  match ((cs.dropWhile isNumberBlank).reverse.dropWhile isNumberBlank).reverse with
  | '-' :: rest => (readNatural? rest).map fun n => -(n : Int)
  | '+' :: rest => (readNatural? rest).map Int.ofNat
  | rest => (readNatural? rest).map Int.ofNat

end BuildTree.Text
