import BuildTree.Fault
import BuildTree.Pattern.Reader

/-!
# Patterns that are given

Whoever gives a text as a pattern is told what is wrong with it.
-/

namespace BuildTree

def Fault.ofPattern (source : String) (f : Pattern.Fault) : Fault :=
  .raised f.kind (f.message source)

def Pattern.compile (source : String) (ignoreCase : Bool) : Except BuildTree.Fault Expression :=
  (read source ignoreCase).mapError (BuildTree.Fault.ofPattern source)

end BuildTree
