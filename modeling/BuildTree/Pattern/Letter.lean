import BuildTree.Pattern.Token
import BuildTree.Text.CharClass
import BuildTree.Text.LetterCase

/-!
# Characters as patterns read them

When case is ignored, a character with another case is looked for among its lower case and the letters that are the
same letter; what is found in the text is put into lower case first. A set ignores case only if a member of it has
another case, or lies beyond the first 65536 code points. Beyond them a single member stands for itself alone, and
a range is looked up by the upper case too.

All this is by the alphabet of the mode: the characters of ASCII alone, or all of them.
-/

namespace BuildTree.Pattern

/-- Whether a character belongs to a named class. -/
def Category.has (asciiOnly : Bool) (n : Nat) (k : Category) : Bool :=
  let c := Char.ofNat n
  match k with
  | .digit => if asciiOnly then c.isDigit else Text.isDigitChar c
  | .blank => if asciiOnly then isSpacing c else Text.isBlankChar c
  | .word => if asciiOnly then c.isAlphanum || c == '_' else Text.isWordChar c

namespace Mode

def lower (mode : Mode) (n : Nat) : Nat :=
  if mode.asciiOnly then Text.asciiLower n else Text.lowerCase n

def isCased (mode : Mode) (n : Nat) : Bool :=
  if mode.asciiOnly then Text.isAsciiLetter n else Text.isCased n

/-- Whether a code point of a range has another case. -/
def meetsCased (mode : Mode) (low high : Nat) : Bool :=
  if mode.asciiOnly then (low ≤ 90 && 65 ≤ high) || (low ≤ 122 && 97 ≤ high)
  else Text.meetsRuns Text.casedRuns low high

/-- The lower case letters that are the same letter as a lower case letter, itself first. -/
def letters (mode : Mode) (n : Nat) : List Nat :=
  n :: (if mode.asciiOnly then [] else Text.sameLetters n)

def withLower (mode : Mode) (n : Nat) : List Nat :=
  if mode.asciiOnly then
    (if Text.asciiLower n = n then [n] else []) ++ (if 97 ≤ n ∧ n ≤ 122 then [n - 32] else [])
  else Text.withLowerCase n

def isOne (mode : Mode) (n : Nat) (c : Char) : Bool :=
  if mode.ignoreCase && mode.isCased n then (mode.letters (mode.lower n)).contains (mode.lower c.toNat)
  else n == c.toNat

def isHeld (mode : Mode) (held c : Char) : Bool :=
  if mode.ignoreCase then mode.lower held.toNat == mode.lower c.toNat else held == c

end Mode

def plane : Nat :=
  65536

namespace SetItem

/-- Whether a code point is a member, in its case. -/
def has (asciiOnly : Bool) (n : Nat) : SetItem → Bool
  | .one m => m == n
  | .range low high => low ≤ n && n ≤ high
  | .category k negated => k.has asciiOnly n != negated

/-- Whether a member has another case, or may have one beyond the first code points. -/
def isCased (mode : Mode) : SetItem → Bool
  | .one m => mode.isCased m
  | .range low high => plane ≤ high || mode.meetsCased low high
  | .category _ _ => false

/-- Whether a member makes a set ignore case. -/
def ignoresCase (mode : Mode) : SetItem → Bool
  | .one m => mode.isCased m || plane ≤ mode.lower m
  | item => item.isCased mode

/-- Whether a lower case code point is a member when case is ignored. -/
def hasLower (mode : Mode) (n : Nat) : SetItem → Bool
  | .one m => if plane ≤ mode.lower m then m == n else (mode.letters (mode.lower m)).contains n
  | .range low high =>
    let within := fun m => low ≤ m && m ≤ high
    ((mode.letters n).flatMap mode.withLower).any (fun m => m < plane && within m)
      || (plane ≤ high && (within n || within (Text.upperCase n)))
  | .category k negated => k.has mode.asciiOnly n != negated

end SetItem

/-- Whether a set has a member with another case that does not count. -/
def isCasedSet (mode : Mode) (items : List SetItem) : Bool :=
  mode.ignoreCase && items.any (·.isCased mode)

def inSet (mode : Mode) (items : List SetItem) (c : Char) : Bool :=
  if mode.ignoreCase && items.any (·.ignoresCase mode) then
    let n := mode.lower c.toNat
    items.any (·.hasLower mode n)
  else items.any (·.has mode.asciiOnly c.toNat)

end BuildTree.Pattern
