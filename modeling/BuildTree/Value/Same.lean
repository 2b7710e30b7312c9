import BuildTree.Decimal.FloatText
import BuildTree.Value.Basic

/-!
# Which values are the same

Numbers are the same if their values are, whatever their kind, and the truth values count as 1 and 0. Lists are the
same item by item; records are the same if they have the same keys with the same values, in any order. Values of
different kinds differ otherwise. No transform is the same as another one.

Lists and records cannot be keys.
-/

namespace BuildTree.Decimal

/-- The whole number that a floating point number is, if it is one. -/
def whole? (x : Float) : Option Int :=
  let bits := x.toBits.toNat
  let magnitude := bits % twoTo 63
  let f := fractionOfBits magnitude
  let shift := twoTo (-f.q).toNat
  if magnitude ≥ 2047 * twoTo 52 || f.m % shift ≠ 0 then none
  else
    let n : Int := f.m / shift * twoTo f.q.toNat
    some (if bits / twoTo 63 = 1 then -n else n)

end BuildTree.Decimal

namespace BuildTree.Value
variable {ρ : Type} [DecidableEq ρ]

def whole? : Value ρ → Option Int
  | .bool b => some (if b then 1 else 0)
  | .int i => some i
  | .float x => Decimal.whole? x
  | _ => none

def sameLeaf : Value ρ → Value ρ → Bool
  | .null, .null => true
  | .float x, .float y => x == y
  | .text s, .text t => s = t
  | .path p, .path q => p = q
  | .target t, .target u => t = u
  | .targetDependency t, .targetDependency u => t = u
  | .pathDependency p, .pathDependency q => p = q
  | .pattern source ignoreCase, .pattern source' ignoreCase' => source = source' && ignoreCase = ignoreCase'
  | .location l, .location l' => l = l'
  | .other kind shown, .other kind' shown' => kind = kind' && shown = shown'
  | a, b => match a.whole?, b.whole? with
    | some m, some n => m = n
    | _, _ => false

mutual

def same : Value ρ → Value ρ → Bool
  | .list items, .list items' => sameItems items items'
  | .record entries, .record entries' => entries.length = entries'.length && sameEntries entries entries'
  | a, b => sameLeaf a b

def sameItems : List (Value ρ) → List (Value ρ) → Bool
  | [], [] => true
  | a :: rest, b :: rest' => same a b && sameItems rest rest'
  | _, _ => false

/-- Whether every entry has its key with the same value among others. -/
def sameEntries : Record ρ → Record ρ → Bool
  | [], _ => true
  | (key, a) :: rest, others => (match Table.get? others key with
    | some b => same a b
    | none => false) && sameEntries rest others

end

@[simp] theorem same_text (s t : String) : same (.text s : Value ρ) (.text t) = decide (s = t) := by
  simp [same, sameLeaf]

def isKey : Value ρ → Bool
  | .list _ => false
  | .record _ => false
  | .again _ => false
  | _ => true

end BuildTree.Value
