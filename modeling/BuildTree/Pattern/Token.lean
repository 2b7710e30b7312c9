import BuildTree.Pattern.Fault

/-!
# Tokens of patterns

A pattern text is read token by token; a backslash and the character after it are one token. A backslash at the
end is refused as soon as the token before it has been taken.
-/

namespace BuildTree.Pattern

/-- How far a text has been read, the flags for the whole pattern, and the groups met so far. -/
structure ReadState where
  rest : List Char
  position : Nat
  mode : Mode
  namesUnicode : Bool
  isTemplate : Bool
  groups : Nat
  names : List (String × Nat)
  closed : List (Nat × Width)
  lookBehindFrom : Option Nat
  promised : List (Nat × Nat)

abbrev Reader (α : Type) :=
  StateT ReadState (Except Fault) α

/-- Refuses the text at a position counted back from the next token. -/
def refuseBack {α : Type} (cause : Cause) (back : Nat) : Reader α := fun s =>
  .error (.at cause (s.position - back))

def refuse {α : Type} (cause : Cause) : Reader α :=
  refuseBack cause 0

def peek : Reader (Option (List Char)) := fun s =>
  .ok (match s.rest with
    | [] => none
    | '\\' :: c :: _ => some ['\\', c]
    | c :: _ => some [c], s)

def checkDangling : Reader Unit := fun s =>
  if s.rest = ['\\'] then .error (.at .danglingEscape s.position) else .ok ((), s)

def moveOver (n : Nat) : Reader Unit := do
  modify fun s => { s with rest := s.rest.drop n, position := s.position + n }
  checkDangling

def take : Reader (Option (List Char)) := do
  match ← peek with
  | none => return none
  | some token => moveOver token.length; return some token

def accept (c : Char) : Reader Bool := do
  match ← peek with
  | some [d] => if c = d then moveOver 1; return true else return false
  | _ => return false

/-- Takes at most `n` tokens that are single characters of a kind. -/
def takeChars (ok : Char → Bool) : Nat → Reader (List Char)
  | 0 => return []
  | n + 1 => do
    match ← peek with
    | some [c] =>
      if ok c then
        moveOver 1
        return c :: (← takeChars ok n)
      else return []
    | _ => return []

/-- Takes tokens up to a terminator; `name` is what they spell so far. -/
def takeUntil (terminator : Char) (what : String) (name : List Char) : Nat → Reader (List Char)
  | 0 => refuse (.missing what)
  | fuel + 1 => do
    match ← take with
    | none => if name.isEmpty then refuse (.missing what) else refuseBack (.unterminatedName terminator) name.length
    | some token =>
      if token = [terminator] then
        if name.isEmpty then refuseBack (.missing what) 1 else return name
      else takeUntil terminator what (name ++ token) fuel

/-- Blanks that a spaced pattern skips. -/
def isSpacing (c : Char) : Bool :=
  c == ' ' || c == '\t' || c == '\n' || c == '\r' || c == '\x0b' || c == '\x0c'

def decimalValue (ds : List Char) : Nat :=
  Text.ofDigits (ds.map fun c => c.toNat - 48)

end BuildTree.Pattern
