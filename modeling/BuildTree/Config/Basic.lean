import BuildTree.Config.Overlay
import BuildTree.Text.Lines
import BuildTree.Value.Text

/-!
# The configuration of a pass

One value, a record to begin with, that scripts extend by deltas. It is looked up by dotted keys. Settings given as
`key=value` on the command line nest by their dots.
-/

namespace BuildTree.Config
variable {ρ : Type}

/-- The configuration that a value starts: the empty record if the value counts as not given. -/
def start (initial : Value ρ) : Except Fault (Value ρ) :=
  if initial.isGiven then settle initial else .ok (.record [])

def getBelow? : List Key → Value ρ → Option (Value ρ)
  | [], value => some value
  | part :: rest, .record entries => (Table.get? entries part).bind (getBelow? rest)
  | _ :: _, _ => none

def components (key : String) : List Key :=
  (Text.splitFields '.' key).map .text

/-- The value at a dotted key; any component may be missing. -/
def get? (config : Value ρ) (key : String) : Option (Value ρ) :=
  getBelow? (components key) config

/-- Puts a value below some components; what is no record on the way is replaced by one. -/
def nestInto (value : Value ρ) : List Key → Record ρ → Record ρ
  | [], table => table
  | [leaf], table => table.insert leaf value
  | part :: next :: rest, table =>
    let below := match table.get? part with
      | some (.record entries) => entries
      | _ => []
    table.insert part (.record (nestInto value (next :: rest) below))

/-- The settings as one record, nested by the dots in their keys. -/
def nest (settings : Table (Value ρ)) : Value ρ :=
  .record (settings.foldl (fun table (key, value) => nestInto value (components key) table) [])

/-- How the configuration shows itself, if it can: the keys of a record, or the value. -/
def describe? (describeRef : ρ → String) (config : Value ρ) : Option String := do
  let inner ← match config with
    | .record entries => ((Table.keys entries).mapM Key.text?).map (String.intercalate ", ")
    | value => value.literal? describeRef
  return "Configuration(" ++ inner ++ ")"

end BuildTree.Config
