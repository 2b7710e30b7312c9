/-!
# Name patterns

A pattern is a regular expression with groups, references to them, looks ahead and behind, and repetition that is
greedy, lazy or possessive. Its text is read under a mode that can change inside a group, so every part that reads
characters has its own.
-/

namespace BuildTree.Pattern

/-- How the parts of a pattern read characters. -/
structure Mode where
  ignoreCase : Bool
  asciiOnly : Bool
  multiLine : Bool
  dotAll : Bool
  spaced : Bool
deriving DecidableEq, Repr, Inhabited

def Mode.plain : Mode :=
  ⟨false, false, false, false, false⟩

inductive Category where
  | digit
  | blank
  | word
deriving DecidableEq, Repr

inductive SetItem where
  | one (c : Nat)
  | range (low high : Nat)
  | category (k : Category) (negated : Bool)
deriving DecidableEq, Repr

/-- A place between characters. -/
inductive Anchor where
  | lineStart
  | lineEnd
  | textStart
  | textEnd
  | wordEdge
  | insideWord
deriving DecidableEq, Repr

/-- How a repetition chooses between going on and stopping. -/
inductive Greed where
  | greedy
  | lazy
  | possessive
deriving DecidableEq, Repr

/-- The least and the greatest number of characters that a part takes. -/
structure Width where
  least : Nat
  most : Nat
deriving DecidableEq, Repr, Inhabited

inductive Node where
  | one (mode : Mode) (negated : Bool) (c : Nat)
  | any (mode : Mode)
  | set (mode : Mode) (negated : Bool) (items : List SetItem)
  | anchor (mode : Mode) (a : Anchor)
  | group (index : Option Nat) (body : List Node)
  | atomic (body : List Node)
  | branch (choices : List (List Node))
  | repeat (least : Nat) (most : Option Nat) (greed : Greed) (body : List Node)
  | reference (mode : Mode) (index : Nat) (width : Width)
  | look (ahead positive : Bool) (width : Width) (body : List Node)
  | conditional (index : Nat) (yes : List Node) (no : Option (List Node))

/-- A whole pattern, with the mode that its text begins in. A template holds no repetition. -/
structure Expression where
  mode : Mode
  isTemplate : Bool
  body : List Node

/-- Whether two parts are the same test on one place of a text. -/
def Node.sameLeaf : Node → Node → Bool
  | .one m negated c, .one m' negated' c' => m = m' && negated = negated' && c = c'
  | .any m, .any m' => m = m'
  | .set m negated items, .set m' negated' items' => m = m' && negated = negated' && items = items'
  | .anchor m a, .anchor m' a' => m = m' && a = a'
  | .reference m index _, .reference m' index' _ => m = m' && index = index'
  | _, _ => false

/-- A character set; one that holds a single character is that character. -/
def Node.ofSet (mode : Mode) (negated : Bool) (items : List SetItem) : Node :=
  match items.eraseDups with
  | [.one c] => .one mode negated c
  | items => .set mode negated items

/-- The members of the set that a row of one part tests for, with its mode. -/
def setOfRow? : List Node → Option (Mode × List SetItem)
  | [.one mode false c] => some (mode, [.one c])
  | [.set mode false items] => some (mode, items)
  | _ => none

/-- The parts that a row and some others all begin with, and what is left of each. -/
def splitCommon : List Node → List (List Node) → List Node × List (List Node)
  | [], others => ([], [] :: others)
  | node :: rest, others =>
    if others.all (fun other => (other.head?.map node.sameLeaf).getD false) then
      let (common, rows) := splitCommon rest (others.map List.tail)
      (node :: common, rows)
    else ([], (node :: rest) :: others)

/-- Alternatives as one part. Alternatives that all test one character are one set. -/
def Node.ofRows (rows : List (List Node)) : Node :=
  match rows.mapM setOfRow? with
  | some ((mode, items) :: rest) => .set mode false (items ++ rest.flatMap (·.2)).eraseDups
  | _ => .branch rows

/-- Alternatives as a row: what all of them begin with is tested once, in front of them. -/
def rowOfChoices : List (List Node) → List Node
  | [] => []
  | [only] => only
  | first :: others =>
    let (common, rows) := splitCommon first others
    common ++ [Node.ofRows rows]

end BuildTree.Pattern
