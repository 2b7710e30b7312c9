import BuildTree.Pattern.Width

/-!
# What a whole pattern must not hold

A look behind must be of one width, and a template holds no repetition. Parts are checked in their order, each
before what is inside it.
-/

namespace BuildTree.Pattern

/-- What a part must not be. -/
inductive Misfit where
  | variableLookBehind
  | repeatInTemplate (greed : Greed)
deriving DecidableEq, Repr

mutual

/-- The first part, of this one and those inside it, that a pattern must not hold. -/
def Node.misfit? (isTemplate : Bool) : Node → Option Misfit
  | .repeat _ _ greed body =>
    if isTemplate then some (.repeatInTemplate greed) else misfitIn? isTemplate body
  | .look ahead _ width body =>
    if !ahead && !width.isFixed then some .variableLookBehind else misfitIn? isTemplate body
  | .group _ body => misfitIn? isTemplate body
  | .atomic body => misfitIn? isTemplate body
  | .branch choices => misfitInAny? isTemplate choices
  | .conditional _ yes no => (misfitIn? isTemplate yes).or (match no with
    | none => none
    | some body => misfitIn? isTemplate body)
  | _ => none

def misfitIn? (isTemplate : Bool) : List Node → Option Misfit
  | [] => none
  | node :: rest => (node.misfit? isTemplate).or (misfitIn? isTemplate rest)

def misfitInAny? (isTemplate : Bool) : List (List Node) → Option Misfit
  | [] => none
  | row :: rest => (misfitIn? isTemplate row).or (misfitInAny? isTemplate rest)

end

def Expression.misfit? (e : Expression) : Option Misfit :=
  misfitIn? e.isTemplate e.body

end BuildTree.Pattern
