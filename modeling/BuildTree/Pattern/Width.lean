import BuildTree.Pattern.Basic

/-!
# Widths of patterns

How many characters the parts of a pattern take. Widths are counted up to a bound, which is also the greatest width
of what is repeated without end; a least width stays below it. A look behind needs a width that is fixed as far as
it is counted.
-/

namespace BuildTree.Pattern

/-- The number of repetitions that stands for no bound. -/
def repeatBound : Nat :=
  4294967295

namespace Width

def counted (w : Width) : Width :=
  ⟨min w.least (repeatBound - 1), min w.most repeatBound⟩

def append (a b : Width) : Width :=
  ⟨a.least + b.least, a.most + b.most⟩

def either (a b : Width) : Width :=
  ⟨min a.least b.least, max a.most b.most⟩

def orNothing (w : Width) : Width :=
  ⟨0, w.most⟩

def times (least : Nat) (most : Option Nat) (w : Width) : Width :=
  ⟨w.least * least, w.most * most.getD repeatBound⟩

/-- Whether all that a part can match is of one width. -/
def isFixed (w : Width) : Bool :=
  w.least == w.most

end Width

mutual

def Node.width : Node → Width
  | .one _ _ _ => ⟨1, 1⟩
  | .any _ => ⟨1, 1⟩
  | .set _ _ _ => ⟨1, 1⟩
  | .anchor _ _ => ⟨0, 0⟩
  | .group _ body => (totalWidth body).counted
  | .atomic body => (totalWidth body).counted
  | .branch choices => widthOfChoices choices
  | .repeat least most _ body => (totalWidth body).counted.times least most
  | .reference _ _ w => w
  | .look _ _ _ _ => ⟨0, 0⟩
  | .conditional _ yes no => match no with
    | none => (totalWidth yes).counted.orNothing
    | some body => (totalWidth yes).counted.either (totalWidth body).counted

def totalWidth : List Node → Width
  | [] => ⟨0, 0⟩
  | node :: rest => node.width.append (totalWidth rest)

def widthOfChoices : List (List Node) → Width
  | [] => ⟨repeatBound - 1, 0⟩
  | row :: rest => (totalWidth row).counted.either (widthOfChoices rest)

end

def rowWidth (row : List Node) : Width :=
  (totalWidth row).counted

end BuildTree.Pattern
