import BuildTree.Location
import BuildTree.Text.Quoted

/-!
# What a pass can fail with

A fault is reported or foreign. Reported faults are the tool's own: they say what is wrong with a declaration, a
script, a statement to be written or a dependency file, and most of them carry the location they are about.
Foreign faults come out of a script or out of arguments of the wrong kind; when one leaves a script it is
reported as the failure of that script. An interrupt is of a kind that is no ordinary fault: it stops the pass and
nothing reports it.

Every fault is a cause; its words are made in one place each. Where the language itself words a fault, the words are
left out.
-/

namespace BuildTree

inductive Owner where
  | pass
  | declared (l : Location)
  | unknown
deriving DecidableEq, Repr

inductive Rejection where
  | duplicateOutput (shown : String) (owner : Owner)
  | noPass (path : String)
  | withoutOutputs (kind : String)
  | noOutputs
  | noCommands (target : String)
  | commandChoice
  | compileSources
  | linkObjects
  | copiedOutputs (target : String) (count : Nat)
  | inheritsFromMany (shownGroup : String) (count : Nat)
  | inheritsMissing (shownGroup shownField target : String)
  | notADependency (shown : String)
  | consolePool
  | shallowPool (shown : String)
  | invalidPattern (pattern reason : String)
  | noMatch (pattern : String)
  | manyMatches (pattern : String) (names : List String)
  | leavesDirectory (path : String)
  | emptyProjectName
  | stated (message : String)
deriving DecidableEq, Repr

def Rejection.message : Rejection → String
  | .duplicateOutput shown owner =>
    "duplicate output " ++ shown ++ match owner with
      | .pass => " (written by the configure pass)"
      | .declared l => " (first declared at " ++ l.toString ++ ")"
      | .unknown => ""
  | .noPass path => "no reconfigure target to own " ++ path
  | .withoutOutputs kind => kind ++ " declared without outputs"
  | .noOutputs => "target declared without outputs"
  | .noCommands target => "command target " ++ target ++ " has no commands"
  | .commandChoice => "give exactly one of command= or commands="
  | .compileSources => "compile targets take exactly one source= and no objects="
  | .linkObjects => "link targets take a non-empty objects= list and no source="
  | .copiedOutputs target count =>
    "cannot copy " ++ target ++ ": it has " ++ toString count ++ " outputs"
  | .inheritsFromMany group count =>
    "alias " ++ group ++ " inherits metadata, so it needs exactly one target dependency (got "
      ++ toString count ++ ")"
  | .inheritsMissing group field target =>
    "alias " ++ group ++ " cannot inherit " ++ field ++ ": " ++ target
      ++ " has no such metadata"
  | .notADependency shown => "cannot depend on " ++ shown ++ ": expected a target or a path"
  | .consolePool => "the console pool is built in"
  | .shallowPool shown => "pool " ++ shown ++ " needs a depth of at least 1"
  | .invalidPattern pattern reason =>
    "invalid named target pattern " ++ Text.quoted pattern ++ ": " ++ reason
  | .noMatch pattern => "no named target matches " ++ Text.quoted pattern
  | .manyMatches pattern names =>
    "named target pattern " ++ Text.quoted pattern ++ " is ambiguous: " ++ String.intercalate ", " names
  | .leavesDirectory path => "subdirectory must be below the current one: " ++ path
  | .emptyProjectName => "project name must not be empty"
  | .stated message => message

inductive Fault where
  | general (message : String) (location : Option Location)
  | configuration (r : Rejection) (location : Option Location)
  | script (path message : String) (location : Option Location)
  | serialization (target message : String) (location : Option Location)
  | misfitTarget (target : String) (location : Option Location)
  | depfile (path message : String) (line : Option Int)
  | invalidValue (message : String)
  | typeMismatch (words : Option String := none)
  | missingAttribute (words : Option String := none)
  | unbound (name : String)
  | badSource (message : String) (place : Option Location)
  | missingKey (shown : String)
  | raised (kind message : String)
  | interrupt (kind message : String)
deriving DecidableEq, Repr

namespace Fault

def location : Fault → Option Location
  | .general _ l => l
  | .configuration _ l => l
  | .script _ _ l => l
  | .serialization _ _ l => l
  | .misfitTarget _ l => l
  | _ => none

/-- Whether a fault is the tool's own. -/
def isReported : Fault → Bool
  | .general _ _ => true
  | .configuration _ _ => true
  | .script _ _ _ => true
  | .serialization _ _ _ => true
  | .misfitTarget _ _ => true
  | .depfile _ _ _ => true
  | _ => false

def depfilePlace (path : String) (line : Option Int) : String :=
  match line with
  | some n => path ++ ":" ++ toString n
  | none => path

/-- The words of a fault, without its location. -/
def message : Fault → String
  | .general text _ => text
  | .configuration r _ => r.message
  | .script path text _ => path ++ ": " ++ text
  | .serialization target text _ => "cannot serialize " ++ target ++ ": " ++ text
  | .misfitTarget _ _ => "TypeError"
  | .depfile path text line => depfilePlace path line ++ ": " ++ text
  | .invalidValue text => text
  | .typeMismatch words => words.getD ""
  | .missingAttribute words => words.getD ""
  | .unbound name => name
  | .badSource text _ => text
  | .missingKey shown => shown
  | .raised _ text => text
  | .interrupt _ text => text

/-- The words of a fault behind its location. -/
def text (f : Fault) : String :=
  Location.before f.location f.message

def kind : Fault → String
  | .invalidValue _ => "ValueError"
  | .typeMismatch _ => "TypeError"
  | .missingAttribute _ => "AttributeError"
  | .unbound _ => "Unbound"
  | .badSource _ _ => "SyntaxError"
  | .missingKey _ => "KeyError"
  | .raised name _ => name
  | .interrupt name _ => name
  | .general _ _ => "KilnError"
  | .configuration _ _ => "ConfigurationError"
  | .script _ _ _ => "ScriptError"
  | .serialization _ _ _ => "SerializationError"
  | .misfitTarget _ _ => "SerializationError"
  | .depfile _ _ _ => "DepfileFormatError"

/-- A foreign fault as the failure of a script tells it: its kind and its words. -/
def summary (f : Fault) : String :=
  match f with
  | .typeMismatch none => f.kind
  | .missingAttribute none => f.kind
  | _ => f.kind ++ ": " ++ f.message

/-- Where a fault that leaves a script is located: bad source text knows its own place. -/
def placeIn (f : Fault) (origin : Option Location) : Option Location :=
  match f with
  | .badSource _ (some place) => some place
  | _ => origin

/-- Whether a fault stops the whole pass and is nobody's failure. -/
def isInterrupt : Fault → Bool
  | .interrupt _ _ => true
  | _ => false

/-- The fault that leaves a script: its own failure, unless the fault is reported already. -/
def leaving (f : Fault) (script : String) (origin : Option Location) : Fault :=
  if f.isReported || f.isInterrupt then f else .script script f.summary (f.placeIn origin)

end Fault
end BuildTree
