import BuildTree.Ninja.File
import BuildTree.Text.Lines

/-!
# Reading Ninja files

What a reader makes of a file, as far as build statements go. Indented lines belong to the last line before them that
is not indented; an empty line ends that, and comments are skipped. The line of a build statement is cut into words at
blanks, colons and bars. A dollar sign stands for the dollar sign, blank or colon behind it, and for nothing else: a
statement with any other use of it cannot be read.
-/

namespace BuildTree.Ninja

inductive Token where
  | word (text : String)
  | pipe
  | pipes
  | colon
deriving DecidableEq, Repr

def isEscapable (c : Char) : Bool :=
  c = '$' || c = ' ' || c = ':'

def closed : Option (List Char) → List Token
  | none => []
  | some word => [.word (String.ofList word)]

/-- The parts of a line, behind the word that has begun. -/
def tokensFrom (word : Option (List Char)) : List Char → Option (List Token)
  | [] => some (closed word)
  | c :: rest =>
    if c = '$' then match rest with
      | [] => none
      | d :: more => if isEscapable d then tokensFrom (some (word.getD [] ++ [d])) more else none
    else if c = ' ' then (tokensFrom none rest).map (closed word ++ ·)
    else if c = ':' then (tokensFrom none rest).map (closed word ++ .colon :: ·)
    else if c = '|' then match rest with
      | [] => some (closed word ++ [.pipe])
      | d :: more =>
        if d = '|' then (tokensFrom none more).map (closed word ++ .pipes :: ·)
        else (tokensFrom none (d :: more)).map (closed word ++ .pipe :: ·)
    else if c = '\r' ∨ c = '\x00' then none
    else tokensFrom (some (word.getD [] ++ [c])) rest

def leadingWords : List Token → List String × List Token
  | .word w :: rest => (w :: (leadingWords rest).1, (leadingWords rest).2)
  | rest => ([], rest)

/-- The words of a section, if its mark is there, and what comes after them. -/
def markedWords (mark : Token) : List Token → List String × List Token
  | [] => ([], [])
  | t :: rest => if t = mark then leadingWords rest else ([], t :: rest)

/-- The statement that the parts of a line make together with bindings. -/
def statementOf (ts : List Token) (bindings : List Binding) : Option Statement :=
  let (outputs, ts) := leadingWords ts
  let (implicitOutputs, ts) := markedWords .pipe ts
  match ts with
  | .colon :: .word rule :: ts =>
    let (inputs, ts) := leadingWords ts
    let (implicitInputs, ts) := markedWords .pipe ts
    let (orderOnlyInputs, ts) := markedWords .pipes ts
    if outputs.isEmpty || !ts.isEmpty then none
    else some { outputs, implicitOutputs, rule, inputs, implicitInputs, orderOnlyInputs, bindings }
  | _ => none

def skipBlanks (cs : List Char) : List Char :=
  cs.dropWhile (· = ' ')

/-- The text that a value stands for. -/
def unescaped : List Char → Option (List Char)
  | [] => some []
  | c :: rest =>
    if c = '$' then match rest with
      | [] => none
      | d :: more => if isEscapable d then (unescaped more).map (d :: ·) else none
    else (unescaped rest).map (c :: ·)

def isKeyChar (c : Char) : Bool :=
  c ≠ ' ' && c ≠ '='

def bindingOf (line : List Char) : Option Binding :=
  let line := skipBlanks line
  match skipBlanks (line.dropWhile isKeyChar) with
  | '=' :: value => (unescaped (skipBlanks value)).map fun v =>
    ⟨String.ofList (line.takeWhile isKeyChar), String.ofList v⟩
  | _ => none

structure Block where
  head : List Char
  body : List (List Char)
deriving Repr

/-- Indented lines that belong to no other line are a block without a head. -/
def stray (body : List (List Char)) (more : List Block) : List Block :=
  if body.isEmpty then more else ⟨[], body⟩ :: more

/-- The indented lines that lines begin with, and the blocks after them. -/
def blocks : List (List Char) → List (List Char) × List Block
  | [] => ([], [])
  | line :: rest =>
    let (body, more) := blocks rest
    match skipBlanks line with
    | [] => ([], stray body more)
    | c :: _ =>
      if c = '#' then (body, more)
      else if line.head? = some ' ' then (line :: body, more)
      else ([], ⟨line, body⟩ :: more)

def buildWord : List Char :=
  ['b', 'u', 'i', 'l', 'd']

/-- The statement that a block is, if it is one; it may be impossible to read. -/
def Block.statement? (b : Block) : Option (Option Statement) :=
  if b.head.isEmpty then some none
  else if (buildWord ++ [' ']).isPrefixOf b.head then some do
    let ts ← tokensFrom none (b.head.drop buildWord.length)
    let bindings ← b.body.mapM bindingOf
    statementOf ts bindings
  else none

/-- The build statements of a file in their order, with `none` for each that cannot be read. -/
def statements (text : String) : List (Option Statement) :=
  let (body, more) := blocks (Text.fields '\n' text.toList)
  (stray body more).filterMap Block.statement?

end BuildTree.Ninja
