import BuildTree.Pattern.Token
import BuildTree.Text.CharacterName

/-!
# Escapes in patterns

What a backslash and the characters after it stand for: a character by its code or its name, a class of characters,
a place, or what a group holds. A group may only be referred to once it is closed, and inside a look behind only if
it is from outside.
-/

namespace BuildTree.Pattern

def octalValue (ds : List Char) : Nat :=
  ds.foldl (fun n c => n * 8 + (c.toNat - 48)) 0

def hexadecimalValue (ds : List Char) : Nat :=
  ds.foldl (fun n c =>
    n * 16 + (if c.isDigit then c.toNat - 48 else if 'a' ≤ c then c.toNat - 87 else c.toNat - 55)) 0

def isOctalDigit (c : Char) : Bool :=
  '0' ≤ c && c ≤ '7'

def isHexDigit (c : Char) : Bool :=
  c.isDigit || ('a' ≤ c && c ≤ 'f') || ('A' ≤ c && c ≤ 'F')

/-- The control character an escape letter stands for. -/
def controlEscape : Char → Option Nat
  | 'a' => some 7
  | 'f' => some 12
  | 'n' => some 10
  | 'r' => some 13
  | 't' => some 9
  | 'v' => some 11
  | '\\' => some 92
  | _ => none

def categoryEscape : Char → Option SetItem
  | 'd' => some (.category .digit false)
  | 'D' => some (.category .digit true)
  | 's' => some (.category .blank false)
  | 'S' => some (.category .blank true)
  | 'w' => some (.category .word false)
  | 'W' => some (.category .word true)
  | _ => none

def anchorEscape : Char → Option Anchor
  | 'A' => some .textStart
  | 'Z' => some .textEnd
  | 'b' => some .wordEdge
  | 'B' => some .insideWord
  | _ => none

/-- A character by a fixed number of hexadecimal digits. -/
def hexEscape (letter : Char) (width : Nat) : Reader Nat := do
  let ds ← takeChars isHexDigit width
  let escape := '\\' :: letter :: ds
  if ds.length ≠ width then refuseBack (.incompleteEscape (String.ofList escape)) escape.length
  else
    let n := hexadecimalValue ds
    if n > 0x10ffff then refuseBack (.badEscape (String.ofList escape)) escape.length else return n

def namedEscape (fuel : Nat) : Reader Nat := do
  if !(← accept '\x7b') then refuse .missingBrace
  else
    let name ← takeUntil '\x7d' "character name" [] fuel
    match Text.charNamed? name with
    | some n => return n
    | none => refuseBack (.unknownCharacterName (String.ofList name)) (name.length + 4)

/-- An octal escape that must stay below 256. -/
def octalEscape (ds : List Char) : Reader Nat :=
  let n := octalValue ds
  let escape := '\\' :: ds
  if n > 0o377 then refuseBack (.octalTooLarge (String.ofList escape)) escape.length else return n

/-- Escapes that are read alike inside and outside of character sets. -/
def characterEscape (c : Char) (fuel : Nat) : Reader Nat := do
  if c = 'x' then hexEscape c 2
  else if c = 'u' then hexEscape c 4
  else if c = 'U' then hexEscape c 8
  else if c = 'N' then namedEscape fuel
  else if c.isAlphanum then refuseBack (.badEscape (String.ofList ['\\', c])) 2
  else return c.toNat

/-- An escape inside a character set, after its token has been taken. -/
def setEscape (c : Char) (fuel : Nat) : Reader SetItem := do
  if c = 'b' then return .one 8
  match controlEscape c, categoryEscape c with
  | some n, _ => return .one n
  | none, some item => return item
  | none, none =>
    if isOctalDigit c then
      let more ← takeChars isOctalDigit 2
      return .one (← octalEscape (c :: more))
    else return .one (← characterEscape c fuel)

/-- A group that may be referred to. -/
def checkReference (index : Nat) (back : Nat) : Reader Width := do
  let s ← get
  match s.closed.lookup index with
  | none => refuseBack .openGroup back
  | some width => match s.lookBehindFrom with
    | none => return width
    | some start => if start ≤ index then refuse .groupInLookBehind else return width

/-- A group that a condition inside a look behind names. -/
def checkCondition (index : Nat) : Reader Unit := do
  let s ← get
  match s.lookBehindFrom with
  | none => return ()
  | some start =>
    if (s.closed.lookup index).isNone then refuse .openGroup
    else if start ≤ index then refuse .groupInLookBehind
    else return ()

/-- A reference by number, after its digits have been taken. -/
def numberedReference (mode : Mode) (ds : List Char) : Reader Node := do
  let index := decimalValue ds
  if index < (← get).groups then return .reference mode index (← checkReference index (ds.length + 1))
  else refuseBack (.invalidReference index) ds.length

/-- An escape outside of character sets, after its token has been taken. -/
def rowEscape (mode : Mode) (c : Char) (fuel : Nat) : Reader Node := do
  match anchorEscape c, categoryEscape c, controlEscape c with
  | some a, _, _ => return .anchor mode a
  | none, some item, _ => return .set mode false [item]
  | none, none, some n => return .one mode false n
  | none, none, none =>
    if c = '0' then
      let more ← takeChars isOctalDigit 2
      return .one mode false (octalValue (c :: more))
    else if c.isDigit then
      match ← takeChars Char.isDigit 1 with
      | [d] =>
        if isOctalDigit c && isOctalDigit d then
          match ← takeChars isOctalDigit 1 with
          | [e] => return .one mode false (← octalEscape [c, d, e])
          | _ => numberedReference mode [c, d]
        else numberedReference mode [c, d]
      | _ => numberedReference mode [c]
    else return .one mode false (← characterEscape c fuel)

end BuildTree.Pattern
