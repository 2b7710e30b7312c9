/-!
# Escapes of Ninja files

A dollar sign is written twice everywhere. On a `build` line a blank ends a path and a colon ends the outputs,
so both are written after a dollar sign there.
-/

namespace BuildTree.Ninja

/-- One character of a path on a `build` line. -/
def pathChar (c : Char) : List Char :=
  if c = '$' ∨ c = ' ' ∨ c = ':' then ['$', c] else [c]

/-- One character of the value of a binding. -/
def valueChar (c : Char) : List Char :=
  if c = '$' then ['$', '$'] else [c]

/-- A path as it stands on a `build` line. -/
def escapePath (path : String) : String :=
  String.ofList (path.toList.flatMap pathChar)

def escapeValue (value : String) : String :=
  String.ofList (value.toList.flatMap valueChar)

end BuildTree.Ninja
