import BuildTree.Decimal.FloatText
import BuildTree.Pattern.Reader
import BuildTree.Text.Integer
import BuildTree.Value.Basic

/-!
# Texts of values

`literal?` is how a value is shown inside a message; `text?` is what a value becomes where a text is wanted: texts
and paths stand for themselves there, everything else is shown. A value with a number of too many digits in it has
neither. Targets are shown by a function of their reference.
-/

namespace BuildTree.Value
variable {ρ : Type}

def pathLiteral (p : Path) : String :=
  "PosixPath(" ++ Text.quoted p.toString ++ ")"

def boolLiteral (b : Bool) : String :=
  if b then "True" else "False"

/-- How many characters of the text of a pattern a message shows, quotes included. -/
def patternRoom : Nat :=
  200

/-- The flags that the reading of a pattern begins with. -/
def flagWords (e : Pattern.Expression) : List String :=
  [(e.isTemplate, "re.TEMPLATE"), (e.mode.ignoreCase, "re.IGNORECASE"), (e.mode.multiLine, "re.MULTILINE"),
    (e.mode.dotAll, "re.DOTALL"), (e.mode.spaced, "re.VERBOSE"), (e.mode.asciiOnly, "re.ASCII")].filterMap
    fun (isSet, word) => if isSet then some word else none

def flagText (source : String) (ignoreCase : Bool) : String :=
  match Pattern.read source ignoreCase with
  | .error _ => ""
  | .ok e => match flagWords e with
    | [] => ""
    | words => ", " ++ String.intercalate "|" words

def patternLiteral (source : String) (ignoreCase : Bool) : String :=
  "re.compile(" ++ String.ofList ((Text.quoted source).toList.take patternRoom) ++ flagText source ignoreCase ++ ")"

def locationLiteral : Location → String
  | .line file number =>
    "SourceLocation(filename=" ++ Text.quoted file ++ ", lineno=" ++ Location.numberText number ++ ")"
  | .named shown => shown

def keyLiteral? : Key → Option String
  | .text s => some (Text.quoted s)
  | .null => some "None"
  | .int i => Text.writeInteger? i
  | .other _ shown => some shown

mutual

/-- A value as a message shows it, if it has a text. -/
def literal? (describe : ρ → String) : Value ρ → Option String
  | .null => some "None"
  | .bool b => some (boolLiteral b)
  | .int i => Text.writeInteger? i
  | .float x => some (Decimal.floatText "inf" "nan" x)
  | .text s => some (Text.quoted s)
  | .list items => do return "[" ++ String.intercalate ", " (← itemLiterals? describe items) ++ "]"
  | .record entries => do return "\x7b" ++ String.intercalate ", " (← entryLiterals? describe entries) ++ "\x7d"
  | .path p => some (pathLiteral p)
  | .target t => some (describe t)
  | .targetDependency t => some ("TargetRef(target=" ++ describe t ++ ")")
  | .pathDependency p => some ("PathRef(path=" ++ Text.quoted p ++ ")")
  | .pattern source ignoreCase => some (patternLiteral source ignoreCase)
  | .location l => some (locationLiteral l)
  | .other _ shown => some shown
  | .again isRecord => some (if isRecord then "\x7b...\x7d" else "[...]")
  | .transform _ => some "<function>"

def itemLiterals? (describe : ρ → String) : List (Value ρ) → Option (List String)
  | [] => some []
  | item :: rest => do return (← literal? describe item) :: (← itemLiterals? describe rest)

def entryLiterals? (describe : ρ → String) : List (Key × Value ρ) → Option (List String)
  | [] => some []
  | (key, value) :: rest => do
    let entry := (← keyLiteral? key) ++ ": " ++ (← literal? describe value)
    return entry :: (← entryLiterals? describe rest)

end

/-- A value where a text is wanted, if it has one. -/
def text? (describe : ρ → String) : Value ρ → Option String
  | .text s => some s
  | .path p => some p.toString
  | .location l => some l.toString
  | value => value.literal? describe

/-- What a value without a text comes to where a text is needed. -/
def unwritable : Fault :=
  .invalidValue Text.tooLongToWrite

/-- The text of a value, nothing if it has none. -/
def toText (describe : ρ → String) (value : Value ρ) : String :=
  (value.text? describe).getD ""

/-- A value as a message shows it, nothing if it has no text. -/
def literal (describe : ρ → String) (value : Value ρ) : String :=
  (value.literal? describe).getD ""

end BuildTree.Value

namespace BuildTree.Key

def text? : Key → Option String
  | .text s => some s
  | key => Value.keyLiteral? key

def toText (key : Key) : String :=
  key.text?.getD ""

end BuildTree.Key
