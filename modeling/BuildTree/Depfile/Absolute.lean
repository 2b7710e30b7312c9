import BuildTree.Depfile.Reader
import BuildTree.Path.Normal

/-!
# Dependency files with absolute names

Compilers name what they read relative to the directory they ran in. `makeAbsolute` puts that directory before every
relative prerequisite; targets stay as they are.
-/

namespace BuildTree.Depfile

/-- The name without a colon at its end; a lone colon stays. -/
def dropStrayColon (name : String) : String :=
  let cs := name.toList
  if cs.getLast? = some ':' ∧ 1 < cs.length then String.ofList cs.dropLast else name

/-- A prerequisite seen from the directory the compiler ran in. -/
def absolutize (prerequisite root : String) : String :=
  let name := dropStrayColon prerequisite
  if Path.isAbsoluteText name then name else Path.normalize (Path.joinText root name)

def Record.absolutize (root : String) (r : Record) : Record :=
  { r with prerequisites := r.prerequisites.map (Depfile.absolutize · root) }

/-- Records as the text of a file, one line each. -/
def render (records : List Record) : String :=
  String.join (records.map fun r => r.format ++ "\n")

/-- The text of a dependency file with every prerequisite made absolute. -/
def makeAbsolute (text root : String) : Except Fault String := do
  let records ← parse text
  return render (records.map (Record.absolutize root))

end BuildTree.Depfile
