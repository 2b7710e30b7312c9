/-!
# Shortest decimals of binary fractions

A positive binary fraction `m * 2 ^ q` stands for all the reals that round to it. `shortest` finds the decimal
with the fewest digits among them, and of those the one nearest to the fraction itself. The search goes over
the decimal grids from coarse to fine: if a grid has a point in the interval, one of the two grid points beside
the fraction lies in it. All comparisons are exact, in natural numbers.
-/

namespace BuildTree.Decimal

/-- A binary fraction `m * 2 ^ q`; `narrow` says that the next smaller one is only half as far as the next larger. -/
structure Fraction where
  m : Nat
  q : Int
  narrow : Bool
deriving DecidableEq, Repr

/-- A decimal `digits * 10 ^ exponent`. -/
structure Scaled where
  digits : Nat
  exponent : Int
deriving DecidableEq, Repr

/-- The factor `b ^ e` above the line of a quotient. -/
def above (b : Nat) (e : Int) : Nat :=
  Nat.pow b e.toNat

/-- Compares `d * 10 ^ s` with `x * 2 ^ p`. -/
def compareScaled (d : Nat) (s : Int) (x : Nat) (p : Int) : Ordering :=
  compare (d * above 10 s * above 2 (-p)) (x * above 2 p * above 10 (-s))

/-- Whether a decimal rounds to the fraction; the ends of the interval do when `m` is even. -/
def Fraction.admits (f : Fraction) (d : Nat) (s : Int) : Bool :=
  let low := if f.narrow then 4 * f.m - 1 else 4 * f.m - 2
  let atLow := compareScaled d s low (f.q - 2)
  let atHigh := compareScaled d s (4 * f.m + 2) (f.q - 2)
  if f.m % 2 = 0 then atLow != .lt && atHigh != .gt else atLow == .gt && atHigh == .lt

/-- The last point not above the fraction on the grid of multiples of `10 ^ s`. -/
def Fraction.floorOn (f : Fraction) (s : Int) : Nat :=
  (f.m * above 2 f.q * above 10 (-s)) / (above 2 (-f.q) * above 10 s)

/-- Whether the lower of two neighbouring grid points is taken: it is nearer, or as near and even. -/
def Fraction.prefersLower (f : Fraction) (d : Nat) (s : Int) : Bool :=
  match compareScaled (2 * d + 1) s (2 * f.m) f.q with
  | .gt => true
  | .lt => false
  | .eq => d % 2 == 0

/-- The point of the grid of multiples of `10 ^ s` that is nearest to the fraction and rounds to it. -/
def Fraction.onGrid (f : Fraction) (s : Int) : Option Scaled :=
  let d := f.floorOn s
  match f.admits d s && d != 0, f.admits (d + 1) s with
  | true, true => some ⟨if f.prefersLower d s then d else d + 1, s⟩
  | true, false => some ⟨d, s⟩
  | false, true => some ⟨d + 1, s⟩
  | false, false => none

/-- The first grid with a point, over `count` grids from `10 ^ s` down. -/
def Fraction.firstGrid (f : Fraction) (s : Int) : Nat → Scaled
  | 0 => ⟨f.floorOn s, s⟩
  | count + 1 => (f.onGrid s).getD (f.firstGrid (s - 1) count)

/-- The decimal exponent of the leading digit of the fraction is below this. -/
def Fraction.topExponent (f : Fraction) : Int :=
  (f.q + Nat.log2 f.m + 1) * 30103 / 100000 + 1

/-- The shortest decimal that rounds to the fraction, of those the nearest. -/
def Fraction.shortest (f : Fraction) : Scaled :=
  f.firstGrid f.topExponent 24

end BuildTree.Decimal
