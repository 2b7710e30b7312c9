import BuildTree.Pattern.Escape
import BuildTree.Pattern.Width
import BuildTree.Text.Identifier

/-!
# Groups in patterns

Every group that is opened takes the next number, and it may have a name, which is an identifier. A condition is
about a group given by name or by number; the number may be that of a group that is opened later.
-/

namespace BuildTree.Pattern

def groupName (terminator : Char) (fuel : Nat) : Reader String := do
  let name ← takeUntil terminator "group name" [] fuel
  if Text.isIdentifier name then return String.ofList name
  else refuseBack (.badGroupName (String.ofList name)) (name.length + 1)

/-- Opens a group and gives its number. -/
def openGroup (name : Option String) : Reader Nat := do
  let s ← get
  let index := s.groups
  match name with
  | none => set { s with groups := index + 1 }
  | some name => match s.names.lookup name with
    | some before => refuseBack (.redefinedGroup name index before) (name.length + 1)
    | none => set { s with groups := index + 1, names := (name, index) :: s.names }
  return index

def closeGroup (index : Nat) (body : List Node) : Reader Unit :=
  modify fun s => { s with closed := (index, rowWidth body) :: s.closed }

/-- The closing parenthesis of a group that starts at a position. -/
def closeParenthesis (start : Nat) : Reader Unit := do
  if !(← accept ')') then throw (.at .unterminatedGroup start)

/-- A back reference by name, after its mark. -/
def namedReference (mode : Mode) (fuel : Nat) : Reader Node := do
  let name ← groupName ')' fuel
  let back := name.length + 1
  match (← get).names.lookup name with
  | none => refuseBack (.unknownGroupName name) back
  | some index =>
    if ((← get).closed.lookup index).isNone then refuseBack .openGroup back
    return .reference mode index (← checkReference index 0)

/-- The least number that no group can have. -/
def groupBound : Nat :=
  1073741823

/-- The group that the name in a condition stands for. -/
def namedGroup (name : List Char) : Reader Nat := do
  match (← get).names.lookup (String.ofList name) with
  | none => refuseBack (.unknownGroupName (String.ofList name)) (name.length + 1)
  | some index => return index

/-- The group that the number in a condition stands for. -/
def numberedGroup (name : List Char) : Reader Nat := do
  let back := name.length + 1
  match Text.readInteger? name with
  | some (.ofNat index) =>
    if index = 0 then refuseBack .badGroupNumber back
    if groupBound ≤ index then refuseBack (.invalidReference index) back
    modify fun s =>
      if (s.promised.lookup index).isSome then s
      else { s with promised := s.promised ++ [(index, s.position - back)] }
    return index
  | _ => refuseBack (.badGroupName (String.ofList name)) back

/-- The group that a condition is about. -/
def conditionGroup (fuel : Nat) : Reader Nat := do
  let name ← takeUntil ')' "group name" [] fuel
  let index ← if Text.isIdentifier name then namedGroup name else numberedGroup name
  checkCondition index
  return index

/-- A comment group after its mark. -/
def skipComment (start : Nat) : Nat → Reader Unit
  | 0 => refuse .unterminatedComment
  | fuel + 1 => do
    match ← peek with
    | none => throw (.at .unterminatedComment start)
    | some _ =>
      match ← take with
      | some [')'] => return ()
      | _ => skipComment start fuel

/-- A comment up to the end of its line, in a spaced pattern. -/
def skipLine : Nat → Reader Unit
  | 0 => return ()
  | fuel + 1 => do
    match ← take with
    | none => return ()
    | some ['\n'] => return ()
    | some _ => skipLine fuel

end BuildTree.Pattern
