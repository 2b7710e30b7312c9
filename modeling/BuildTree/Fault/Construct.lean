import BuildTree.Target.Construct

/-!
# Faults made from arguments

The reported faults as whoever raises them makes them: from words, a location where one is known, and what they are
about. A script and a dependency file have to be paths; the line of a dependency file is shown as it is given.
-/

namespace BuildTree

inductive Fault.Kind where
  | general
  | configuration
  | script
  | serialization
  | depfile
deriving DecidableEq, Repr

/-- A fault with its words as they were given and the path it is about. -/
structure MadeFault where
  fault : Fault
  words : Given
  script : Option Path
  depfile : Option Path

namespace MadeFault

def signature : Fault.Kind → Signature
  | .general => ⟨["message", "location"], ["message"], [], false⟩
  | .configuration => ⟨["message", "location"], ["message"], [], false⟩
  | .script => ⟨["script", "message", "location"], ["script", "message"], [], false⟩
  | .serialization => ⟨["target", "message", "location"], ["target", "message"], [], false⟩
  | .depfile => ⟨["path", "message", "lineno"], ["path", "message"], [], false⟩

def plain (fault : Fault) (words : Given) : MadeFault :=
  ⟨fault, words, none, none⟩

/-- A fault in a dependency file: at a line that is a number, or at what was given instead of one. -/
def depfileFault (g : Graph) (path message line : Given) : Except Fault Fault := do
  let path ← Argument.text g path
  let words ← Argument.text g message
  match line with
  | .null => return .depfile path words none
  | .int n => return .depfile path words (some n)
  | line => return .depfile (path ++ ":" ++ (← Argument.text g line)) words none

def ofBound (g : Graph) (kind : Fault.Kind) (b : Bound TargetId) : Except Fault MadeFault := do
  let message := b.get "message"
  let location := Target.givenLocation g (b.get "location")
  match kind with
  | .general => return plain (.general (g.text message) location) message
  | .configuration => return plain (.configuration (.stated (g.text message)) location) message
  | .script =>
    let script ← Argument.path (b.get "script")
    let fault := Fault.script (← Argument.text g (b.get "script")) (← Argument.text g message) location
    return ⟨fault, .text fault.message, some script, none⟩
  | .serialization =>
    let fault := Fault.serialization (← Argument.text g (b.get "target")) (← Argument.text g message) location
    return plain fault (.text fault.message)
  | .depfile =>
    let path ← Argument.path (b.get "path")
    let fault ← depfileFault g (b.get "path") message (b.get "lineno")
    return ⟨fault, .text fault.message, none, some path⟩

def ofArguments (g : Graph) (kind : Fault.Kind) (args : Arguments TargetId) : Except Fault MadeFault :=
  match (signature kind).bind? args with
  | some b => ofBound g kind b
  | none => .error .typeMismatch

end MadeFault
end BuildTree
