import BuildTree.Decimal.Shortest

/-!
# Texts of floating point numbers

A number is written with the fewest digits that read back as the same number. The digits stand around a point
while the exponent of the first one is at least -4 and below 16, and in front of an exponent of two or more
digits otherwise. A number without a fraction keeps `.0`.
-/

namespace BuildTree.Decimal

def twoTo (n : Nat) : Nat :=
  Nat.pow 2 n

def fractionOfBits (bits : Nat) : Fraction :=
  let mantissa : Nat := bits % twoTo 52
  let exponent : Nat := bits / twoTo 52 % twoTo 11
  if exponent = 0 then ⟨mantissa, -1074, false⟩
  else ⟨mantissa + twoTo 52, (exponent : Int) - 1075, mantissa == 0 && decide (1 < exponent)⟩

/-- A number of at least two digits. -/
def twoDigits (n : Nat) : String :=
  if n < 10 then "0" ++ toString n else toString n

/-- Digits with a point after the first `whole` of them. -/
def positional (digits : List Char) (whole : Int) : String :=
  if whole ≤ 0 then
    "0." ++ String.ofList (List.replicate (-whole).toNat '0' ++ digits)
  else
    let front := digits.take whole.toNat
    let back := digits.drop whole.toNat
    String.ofList (front ++ List.replicate (whole.toNat - front.length) '0') ++ "."
      ++ (if back.isEmpty then "0" else String.ofList back)

/-- Digits with a point after the first one and an exponent. -/
def scientific (digits : List Char) (exponent : Int) : String :=
  let mantissa := match digits with
    | [] => "0"
    | [d] => String.ofList [d]
    | d :: rest => String.ofList (d :: '.' :: rest)
  mantissa ++ "e" ++ (if exponent < 0 then "-" else "+") ++ twoDigits exponent.natAbs

def Scaled.text (d : Scaled) : String :=
  let digits := (toString d.digits).toList
  let leading := d.exponent + digits.length - 1
  if -4 ≤ leading ∧ leading < 16 then positional digits (leading + 1) else scientific digits leading

def magnitudeText (bits : Nat) : String :=
  if bits = 0 then "0.0" else (fractionOfBits bits).shortest.text

/-- The text of a number, given the words for what is not finite. -/
def floatText (infinity notANumber : String) (x : Float) : String :=
  let bits := x.toBits.toNat
  let magnitude := bits % twoTo 63
  let sign := if bits / twoTo 63 = 1 then "-" else ""
  if magnitude > 2047 * twoTo 52 then notANumber
  else if magnitude = 2047 * twoTo 52 then sign ++ infinity
  else sign ++ magnitudeText magnitude

end BuildTree.Decimal
