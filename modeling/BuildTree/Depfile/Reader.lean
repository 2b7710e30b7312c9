import BuildTree.Depfile.Record

/-!
# Reading dependency files

Lines are joined first: a line that ends in a single backslash goes on with the next one. A joined line is cut
into names at blanks and tabs, and the first name that ends in a colon closes the targets. A line without names
is skipped; a file without records is refused.
-/

namespace BuildTree.Depfile

inductive Fault where
  | noSeparator (line : Nat)
  | noTarget (line : Nat)
  | noRecords
deriving DecidableEq, Repr, Inhabited

def Fault.line? : Fault → Option Nat
  | .noSeparator line => some line
  | .noTarget line => some line
  | .noRecords => none

def Fault.message : Fault → String
  | .noSeparator _ => "record has no target separator"
  | .noTarget _ => "record has no target"
  | .noRecords => "no dependency records"

/-- Whether a line goes on with the next one: it ends in a backslash that no backslash precedes. -/
def isContinued (line : List Char) : Bool :=
  match line.reverse with
  | '\\' :: '\\' :: _ => false
  | '\\' :: _ => true
  | _ => false

/-- Logical lines with the number of their first line; `start` and `pieces` hold the one that is open. -/
def logicalLinesFrom (number start : Nat) (pieces : List (List Char)) :
    List (List Char) → List (Nat × List Char)
  | [] => if pieces.isEmpty then [] else [(start, [' '].intercalate pieces)]
  | line :: rest =>
    let start := if pieces.isEmpty then number else start
    if isContinued line then logicalLinesFrom (number + 1) start (pieces ++ [line.dropLast]) rest
    else (start, [' '].intercalate (pieces ++ [line])) :: logicalLinesFrom (number + 1) start [] rest

def logicalLines (cs : List Char) : List (Nat × List Char) :=
  logicalLinesFrom 1 0 [] (Text.splitLines cs)

/-- The name read so far goes before the names that follow, unless it is empty. -/
def closeName (name : List Char) (names : List (List Char)) : List (List Char) :=
  if name.isEmpty then names else name :: names

/-- The names on a line; `name` is the current one so far. -/
def namesFrom (name : List Char) : List Char → List (List Char)
  | [] => closeName name []
  | '\\' :: ' ' :: rest => namesFrom (name ++ [' ']) rest
  | '\\' :: '#' :: rest => namesFrom (name ++ ['#']) rest
  | '$' :: '$' :: rest => namesFrom (name ++ ['$']) rest
  | c :: rest =>
    if c = ' ' ∨ c = '\t' then closeName name (namesFrom [] rest) else namesFrom (name ++ [c]) rest

def names (line : List Char) : List (List Char) :=
  namesFrom [] line

def closesTargets (name : List Char) : Bool :=
  name.getLast? == some ':'

/-- Targets and prerequisites of a line, cut after the first name that closes the targets. -/
def cutTargets : List (List Char) → Option (List (List Char) × List (List Char))
  | [] => none
  | name :: rest =>
    if closesTargets name then some ([name.dropLast], rest)
    else (cutTargets rest).map fun (targets, prerequisites) => (name :: targets, prerequisites)

def lineRecords (number : Nat) (line : List Char) : Except Fault (List Record) :=
  match names line with
  | [] => .ok []
  | found => match cutTargets found with
    | none => .error (.noSeparator number)
    | some (targets, prerequisites) =>
      match targets.filter (!·.isEmpty) with
      | [] => .error (.noTarget number)
      | kept => .ok (kept.map fun target =>
          ⟨String.ofList target, prerequisites.map String.ofList, number⟩)

/-- The records of logical lines in order; the first faulty line decides. -/
def linesRecords : List (Nat × List Char) → Except Fault (List Record)
  | [] => .ok []
  | (number, line) :: rest => do
    let first ← lineRecords number line
    let others ← linesRecords rest
    return first ++ others

def parse (text : String) : Except Fault (List Record) := do
  let records ← linesRecords (logicalLines text.toList)
  if records.isEmpty then throw .noRecords else return records

end BuildTree.Depfile
