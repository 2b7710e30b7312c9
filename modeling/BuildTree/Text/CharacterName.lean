import BuildTree.Text.CharacterName.Alias
import BuildTree.Text.CharacterName.Alphabets
import BuildTree.Text.CharacterName.EastAsia
import BuildTree.Text.CharacterName.Forms
import BuildTree.Text.CharacterName.History
import BuildTree.Text.CharacterName.Mathematics
import BuildTree.Text.CharacterName.Shorthand
import BuildTree.Text.CharacterName.Pictographs
import BuildTree.Text.CharacterName.Signs
import BuildTree.Text.CharacterName.Syllables
import BuildTree.Text.CharacterName.Symbols

/-!
# Characters by their names

The characters of Unicode 14 by name. Syllables of Hangul and unified ideographs are named by rules, and their names
have to be in capitals; all other names may be in either case.

The other names are written by stretches of neighbouring code points. In a stretch, a small letter comes in front of
each name and tells how many words the name begins with are those of the name before it: `a` none, `b` one, and so
on. Only the words after them are written.
-/

namespace BuildTree.Text

namespace CharacterName

def after? : List Char → List Char → Option (List Char)
  | [], cs => some cs
  | _ :: _, [] => none
  | d :: beginning, c :: cs => if d = c then after? beginning cs else none

/-- The longest of some texts that another one begins with: its place among them, and what follows. -/
def longest? (texts : List String) (cs : List Char) : Option (Nat × List Char) :=
  texts.zipIdx.foldl (fun best (text, i) =>
    match after? text.toList cs, best with
    | some rest, some (_, shortest) => if rest.length < shortest.length then some (i, rest) else best
    | some rest, none => some (i, rest)
    | none, best => best) none

def leads : List String :=
  ["G", "GG", "N", "D", "DD", "R", "M", "B", "BB", "S", "SS", "", "J", "JJ", "C", "K", "T", "P", "H"]

def vowels : List String :=
  ["A", "AE", "YA", "YAE", "EO", "E", "YEO", "YE", "O", "WA", "WAE", "OE", "YO", "U", "WEO", "WE", "WI", "YU", "EU",
    "YI", "I"]

def tails : List String :=
  ["", "G", "GG", "GS", "N", "NJ", "NH", "D", "L", "LG", "LM", "LB", "LS", "LT", "LP", "LH", "M", "B", "BS", "S", "SS",
    "NG", "J", "C", "K", "T", "P", "H"]

/-- The syllable of Hangul that letters spell; each of its three parts is as long as possible. -/
def syllable? (cs : List Char) : Option Nat := do
  let (lead, cs) ← longest? leads cs
  let (vowel, cs) ← longest? vowels cs
  let (tail, cs) ← longest? tails cs
  if cs.isEmpty then some (0xac00 + (lead * vowels.length + vowel) * tails.length + tail) else none

def hexValue? (c : Char) : Option Nat :=
  if c.isDigit then some (c.toNat - 48) else if 'A' ≤ c ∧ c ≤ 'F' then some (c.toNat - 55) else none

def hexNumber? (cs : List Char) : Option Nat :=
  cs.foldlM (fun n c => (hexValue? c).map (n * 16 + ·)) 0

def ideographs : List (Nat × Nat) := [
  (0x3400, 0x4dbf), (0x4e00, 0x9fff), (0x20000, 0x2a6df), (0x2a700, 0x2b738), (0x2b740, 0x2b81d),
  (0x2b820, 0x2cea1), (0x2ceb0, 0x2ebe0), (0x30000, 0x3134a)]

def inRanges (ranges : List (Nat × Nat)) (n : Nat) : Bool :=
  ranges.any fun (first, last) => first ≤ n && n ≤ last

/-- The unified ideograph with a code of four or five digits. -/
def ideograph? (cs : List Char) : Option Nat := do
  let n ← hexNumber? cs
  if (cs.length = 4 ∨ cs.length = 5) ∧ inRanges ideographs n then some n else none

/-- Names that end in the code of the character, with the ranges of these characters. -/
def coded : List (String × List (Nat × Nat)) := [
  ("CJK COMPATIBILITY IDEOGRAPH-", [(0xf900, 0xfa6d), (0xfa70, 0xfad9), (0x2f800, 0x2fa1d)]),
  ("KHITAN SMALL SCRIPT CHARACTER-", [(0x18b00, 0x18cd5)]),
  ("NUSHU CHARACTER-", [(0x1b170, 0x1b2fb)])]

def coded? (name : List Char) : Option Nat :=
  coded.findSome? fun (beginning, ranges) => do
    let digits ← after? beginning.toList name
    let n ← hexNumber? digits
    if inRanges ranges n ∧ digits.head? ≠ some '0' then some n else none

/-- The variation selector with a short name, which ends in its number. -/
def selector? (name : List Char) : Option Nat := do
  let digits ← after? ['V', 'S'] name
  let n ← (String.ofList digits).toNat?
  if toString n ≠ String.ofList digits then none
  else if 1 ≤ n ∧ n ≤ 16 then some (0xfe00 + (n - 1))
  else if 17 ≤ n ∧ n ≤ 256 then some (0xe0100 + (n - 17))
  else none

def words (cs : List Char) : List (List Char) :=
  cs.foldr (fun c found => match c, found with
    | ' ', found => [] :: found
    | c, word :: found => (c :: word) :: found
    | c, [] => [[c]]) [[]]

/-- The names in a stretch: how many words each shares with the one before it, and its own words. -/
def entries (cs : List Char) : List (Nat × List (List Char)) :=
  let gather := fun (c : Char) (word : List Char × List (List Char) × List (Nat × List (List Char))) =>
    let (letters, own, found) := word
    if c.isLower then ([], [], (c.toNat - 97, letters :: own) :: found)
    else if c = ' ' then ([], letters :: own, found)
    else (c :: letters, own, found)
  (cs.foldr gather ([], [], [])).2.2

/-- The code point of a name among the names from a code point on; `before` is the name before them. -/
def search (name : List (List Char)) (code : Nat) (before : List (List Char)) :
    List (Nat × List (List Char)) → Option Nat
  | [] => none
  | (shared, own) :: rest =>
    let here := before.take shared ++ own
    if here = name then some code else search name (code + 1) here rest

/-- All stretches of names. -/
def stretches : List (Nat × List String) :=
  alphabets ++ syllables ++ symbols ++ eastAsia ++ forms ++ history ++ signs ++ shorthand ++ mathematics ++ pictographs

/-- The character with a name that is written in full. -/
def written? (name : List Char) : Option Nat :=
  let target := words name
  stretches.findSome? fun (code, lines) => search target code [] (entries (String.join lines).toList)

end CharacterName

open CharacterName in
def charNamed? (name : List Char) : Option Nat :=
  match after? "HANGUL SYLLABLE ".toList name, after? "CJK UNIFIED IDEOGRAPH-".toList name with
  | some rest, _ => syllable? rest
  | none, some rest => ideograph? rest
  | none, none =>
    let capitals := name.map Char.toUpper
    (coded? capitals).or ((selector? capitals).or ((aliases.lookup (String.ofList capitals)).or (written? capitals)))

end BuildTree.Text
