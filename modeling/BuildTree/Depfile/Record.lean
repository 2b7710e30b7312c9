import BuildTree.Text.Lines

/-!
# Records of dependency files

A compiler lists what it read as rules `target: prerequisites`. In a written name the blank and the hash stand
after a backslash and the dollar sign is written twice.
-/

namespace BuildTree.Depfile

/-- One target with its prerequisites, and the line its rule starts on. -/
structure Record where
  target : String
  prerequisites : List String
  line : Nat
deriving DecidableEq, Repr, Inhabited

def nameChar (c : Char) : List Char :=
  if c = ' ' ∨ c = '#' then ['\\', c]
  else if c = '$' then ['$', '$']
  else [c]

def escapeName (name : String) : String :=
  String.ofList (name.toList.flatMap nameChar)

/-- A record as one rule on one line. -/
def Record.format (r : Record) : String :=
  String.intercalate " " ((escapeName r.target ++ ":") :: r.prerequisites.map escapeName)

end BuildTree.Depfile
