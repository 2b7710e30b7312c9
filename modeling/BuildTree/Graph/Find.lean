import BuildTree.Graph.Basic
import BuildTree.Pattern.Compile
import BuildTree.Pattern.Search

/-!
# Looking groups up by name

A text that is the name of a group finds that group. Any other text is read as a pattern, and a pattern must
match the name of exactly one group. Looking up changes nothing.
-/

namespace BuildTree

inductive NamePattern where
  | spelled (text : String)
  | compiled (source : String) (e : Pattern.Expression)

namespace Graph

/-- The groups whose names a pattern matches, in the order of the index. -/
def matching (g : Graph) (e : Pattern.Expression) : List TargetId :=
  (g.named.filter fun entry => e.matchesIn entry.1).map (·.2)

def findMatching (g : Graph) (source : String) (e : Pattern.Expression) : Except Fault TargetId :=
  match g.matching e with
  | [] => .error (.configuration (.noMatch source) none)
  | [t] => .ok t
  | many => .error (.configuration (.manyMatches source (many.map fun t => (g.node t).name)) none)

/-- The fault of looking up by a text that is no pattern: a text outside the grammar of patterns is blamed on the
look-up, a pattern that is too large on the pattern. -/
def patternFault (source : String) (f : Pattern.Fault) : Fault :=
  if f.isGrammatical then .configuration (.invalidPattern source (f.message source)) none
  else .ofPattern source f

def find (g : Graph) : NamePattern → Except Fault TargetId
  | .compiled source e => g.findMatching source e
  | .spelled text => match g.group? text with
    | some t => .ok t
    | none => match Pattern.read text false with
      | .ok e => g.findMatching text e
      | .error f => .error (patternFault text f)

end Graph
end BuildTree
