import BuildTree.Project.Statement
import BuildTree.Value.Text

/-!
# What statements raise

A raised fault of a kind that takes more than words does not fit. One of a kind that is no ordinary exception is an
interrupt. A fault in source text says in which file and on which line it is, as far as the file is a text and the line
a whole number; a line that needs more than 64 bits is shown as `-1`. It is located there if both are given.
-/

namespace BuildTree.Complaint

def words (c : Complaint) : String :=
  c.message.toText id

def about (c : Complaint) (script : String) : Value String :=
  c.file.getD (.text script)

def shownLine (n : Int) : Int :=
  if Int64.minValue.toInt ≤ n ∧ n ≤ Int64.maxValue.toInt then n else -1

/-- Where source text is said to be wrong, behind the words. -/
def sourceNote (file line : Value String) : String :=
  match file, line with
  | .text file, .int n => " (" ++ Path.baseName file ++ ", line " ++ toString (shownLine n) ++ ")"
  | .text file, _ => " (" ++ Path.baseName file ++ ")"
  | _, .int n => " (line " ++ toString (shownLine n) ++ ")"
  | _, _ => ""

def sourcePlace (file line : Value String) : Option Location :=
  if file.isGiven && line.isGiven then
    match file, line with
    | .text file, .int n => some (.line file (some n))
    | file, line => some (.named (file.toText id ++ ":" ++ line.toText id))
  else none

/-- The kinds of faults that words alone do not make. -/
def demandingKinds : List String :=
  ["ScriptError", "SerializationError", "DepfileFormatError", "UnicodeDecodeError", "UnicodeEncodeError",
    "UnicodeTranslateError", "ExceptionGroup", "BaseExceptionGroup"]

def fault (c : Complaint) (script : String) : Fault :=
  if demandingKinds.contains c.kind then .typeMismatch
  else if c.interrupts then .interrupt c.kind c.words
  else match c.kind with
    | "KilnError" => .general c.words none
    | "ConfigurationError" => .configuration (.stated c.words) none
    | "TypeError" => .typeMismatch (some c.words)
    | "AttributeError" => .missingAttribute (some c.words)
    | "ValueError" => .invalidValue c.words
    | "KeyError" => .missingKey (c.message.literal id)
    | "SyntaxError" =>
      .badSource (c.words ++ sourceNote (c.about script) c.line) (sourcePlace (c.about script) c.line)
    | kind => .raised kind c.words

end BuildTree.Complaint
