import BuildTree.Pattern.Check
import BuildTree.Pattern.Flag
import BuildTree.Pattern.Group
import BuildTree.Pattern.Repeat
import BuildTree.Pattern.Set

/-!
# Reading patterns

A pattern is alternatives, an alternative is a row of items, and an item is a character, a set, a place, a group or
a reference, with or without a repetition. Reading ends at the first fault.
-/

namespace BuildTree.Pattern

mutual

/-- Alternatives up to the end of the group; `rows` holds those read. -/
def readChoices (top : Bool) (mode : Mode) (rows : List (List Node)) : Nat → Reader (List Node)
  | 0 => refuse .unexpectedEnd
  | fuel + 1 => do
    let items ← readRow (top && rows.isEmpty) mode [] fuel
    let rows := rows ++ [rowOfItems items]
    if ← accept '|' then
      let s ← get
      readChoices top (if top then s.mode else mode) rows fuel
    else return rowOfChoices rows
termination_by structural fuel => fuel

/-- Items up to the end of the alternative; `items` holds those read, the last one first. -/
def readRow (first : Bool) (mode : Mode) (items : List RowItem) : Nat → Reader (List RowItem)
  | 0 => refuse .unexpectedEnd
  | fuel + 1 => do
    match ← peek with
    | none => return items
    | some ['|'] => return items
    | some [')'] => return items
    | some token =>
      let start := (← get).position
      moveOver token.length
      match token with
      | ['\\', c] =>
        let node ← rowEscape mode c fuel
        readRow first mode (.part node :: items) fuel
      | [c] =>
        if mode.spaced && isSpacing c then readRow first mode items fuel
        else if mode.spaced && c = '#' then
          skipLine fuel
          readRow first mode items fuel
        else if c = '[' then
          let node ← readSet mode fuel
          readRow first mode (.part node :: items) fuel
        else if c = '.' then readRow first mode (.part (.any mode) :: items) fuel
        else if c = '^' then readRow first mode (.part (.anchor mode .lineStart) :: items) fuel
        else if c = '$' then readRow first mode (.part (.anchor mode .lineEnd) :: items) fuel
        else if c = '*' then
          let items ← applyRepeat start 0 none items
          readRow first mode items fuel
        else if c = '+' then
          let items ← applyRepeat start 1 none items
          readRow first mode items fuel
        else if c = '?' then
          let items ← applyRepeat start 0 (some 1) items
          readRow first mode items fuel
        else if c = '\x7b' then
          if (← peek) = some ['\x7d'] then readRow first mode (.part (.one mode false c.toNat) :: items) fuel
          else match ← readCounts fuel with
            | none => readRow first mode (.part (.one mode false c.toNat) :: items) fuel
            | some (least, most) =>
              let items ← applyRepeat start least most items
              readRow first mode items fuel
        else if c = '(' then
          match ← readGroup first mode items start fuel with
          | none => readRow first (← get).mode items fuel
          | some more => readRow first mode (more ++ items) fuel
        else readRow first mode (.part (.one mode false c.toNat) :: items) fuel
      | _ => return items
termination_by structural fuel => fuel

/-- A group after its opening parenthesis: the items it adds, or none if it set flags for the whole pattern. -/
def readGroup (first : Bool) (mode : Mode) (items : List RowItem) (start : Nat) :
    Nat → Reader (Option (List RowItem))
  | 0 => refuse .unexpectedEnd
  | fuel + 1 => do
    if !(← accept '?') then
      return some [.part (← readNumbered mode none start fuel)]
    else match ← take with
      | none => refuse .unexpectedEnd
      | some ['P'] =>
        if ← accept '<' then
          let name ← groupName '>' fuel
          return some [.part (← readNumbered mode (some name) start fuel)]
        else if ← accept '=' then return some [.part (← namedReference mode fuel)]
        else match ← take with
          | none => refuse .unexpectedEnd
          | some token => refuseBack (.unknownExtension (String.ofList ('P' :: token))) (token.length + 2)
      | some [':'] => return some [.bare (← readBody mode start fuel)]
      | some ['>'] => return some [.part (.atomic (← readBody mode start fuel))]
      | some ['#'] =>
        skipComment start fuel
        return some []
      | some ['='] => return some [.part (← readLook true true mode start fuel)]
      | some ['!'] => return some [.part (← readLook true false mode start fuel)]
      | some ['<'] =>
        match ← take with
        | none => refuse .unexpectedEnd
        | some ['='] => return some [.part (← readLook false true mode start fuel)]
        | some ['!'] => return some [.part (← readLook false false mode start fuel)]
        | some token => refuseBack (.unknownExtension (String.ofList ('<' :: token))) (token.length + 2)
      | some ['('] => return some [.part (← readConditional mode start fuel)]
      | some token =>
        if isFlag token || token = ['-'] then
          match ← readFlags (token.headD '-') fuel with
          | none =>
            if !first || !items.isEmpty then throw (.at .lateGlobalFlags start)
            return none
          | some (on, off) =>
            return some [.part (.group none (← readBody ((mode.turnOn on).turnOff off) start fuel))]
        else refuseBack (.unknownExtension (String.ofList token)) (token.length + 1)
termination_by structural fuel => fuel

/-- What stands in a group, up to and with its closing parenthesis. -/
def readBody (mode : Mode) (start : Nat) : Nat → Reader (List Node)
  | 0 => refuse .unexpectedEnd
  | fuel + 1 => do
    let body ← readChoices false mode [] fuel
    closeParenthesis start
    return body
termination_by structural fuel => fuel

def readNumbered (mode : Mode) (name : Option String) (start : Nat) : Nat → Reader Node
  | 0 => refuse .unexpectedEnd
  | fuel + 1 => do
    let index ← openGroup name
    let body ← readBody mode start fuel
    closeGroup index body
    return .group (some index) body
termination_by structural fuel => fuel

/-- Two alternatives of which a group decides, after the mark. -/
def readConditional (mode : Mode) (start : Nat) : Nat → Reader Node
  | 0 => refuse .unexpectedEnd
  | fuel + 1 => do
    let index ← conditionGroup fuel
    let yes ← readRow false mode [] fuel
    let no ←
      if ← accept '|' then
        let no ← readRow false mode [] fuel
        if (← peek) = some ['|'] then refuse .tooManyBranches
        pure (some (rowOfItems no))
      else pure none
    closeParenthesis start
    return .conditional index (rowOfItems yes) no
termination_by structural fuel => fuel

def readLook (ahead positive : Bool) (mode : Mode) (start : Nat) : Nat → Reader Node
  | 0 => refuse .unexpectedEnd
  | fuel + 1 => do
    let outer := (← get).lookBehindFrom
    if !ahead && outer.isNone then modify fun s => { s with lookBehindFrom := some s.groups }
    let body ← readChoices false mode [] fuel
    if !ahead then modify fun s => { s with lookBehindFrom := outer }
    closeParenthesis start
    return .look ahead positive (rowWidth body) body
termination_by structural fuel => fuel

end

def Misfit.cause : Misfit → Cause
  | .variableLookBehind => .variableLookBehind
  | .repeatInTemplate greed => .repeatInTemplate greed

/-- The first group that a condition is about and that was never opened. -/
def ReadState.brokenPromise? (s : ReadState) : Option Fault :=
  (s.promised.find? fun entry => s.groups ≤ entry.1).map fun (index, position) =>
    .at (.invalidReference index) position

def readAll (fuel : Nat) : Reader Expression := do
  checkDangling
  let body ← readChoices true (← get).mode [] fuel
  let s ← get
  if s.namesUnicode && s.mode.asciiOnly then throw .mixedAlphabets
  if (← peek).isSome then refuse .unbalancedParenthesis
  match s.brokenPromise? with
  | some fault => throw fault
  | none => pure ()
  let e : Expression := ⟨s.mode, s.isTemplate, body⟩
  match e.misfit? with
  | some misfit => throw (.whole misfit.cause)
  | none => return e

def read (text : String) (ignoreCase : Bool) : Except Fault Expression :=
  let cs := text.toList
  let start : ReadState :=
    ⟨cs, 0, { Mode.plain with ignoreCase := ignoreCase }, false, false, 1, [], [], none, []⟩
  (readAll (5 * cs.length + 8)).run' start

end BuildTree.Pattern
