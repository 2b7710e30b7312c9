import BuildTree.Pattern.Escape

/-!
# Character sets in patterns

What stands between brackets: characters, ranges and classes, or all but these after a circumflex. The closing
bracket cannot be the first member.
-/

namespace BuildTree.Pattern

/-- A member of a character set that stands alone, or the start of a range. -/
def setMember (token : List Char) (fuel : Nat) : Reader SetItem :=
  match token with
  | ['\\', c] => setEscape c fuel
  | c :: _ => return .one c.toNat
  | [] => return .one 0

def setMembers (start : Nat) (items : List SetItem) : Nat → Reader (List SetItem)
  | 0 => refuse .unterminatedSet
  | fuel + 1 => do
    match ← take with
    | none => throw (.at .unterminatedSet start)
    | some token =>
      if token = [']'] && !items.isEmpty then return items
      else
        let low ← setMember token fuel
        if !(← accept '-') then setMembers start (items ++ [low]) fuel
        else match ← take with
          | none => throw (.at .unterminatedSet start)
          | some [']'] => return items ++ [low, .one 45]
          | some token' =>
            let high ← setMember token' fuel
            let back := token.length + 1 + token'.length
            let bad := Cause.badRange (String.ofList token) (String.ofList token')
            match low, high with
            | .one a, .one b =>
              if b < a then refuseBack bad back
              else setMembers start (items ++ [.range a b]) fuel
            | _, _ => refuseBack bad back

def readSet (mode : Mode) (fuel : Nat) : Reader Node := do
  let start := (← get).position - 1
  let negated ← accept '^'
  let items ← setMembers start [] fuel
  return Node.ofSet mode negated items

end BuildTree.Pattern
