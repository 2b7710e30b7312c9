/-!
# Lines of text

Two rules about line ends. `splitLines` cuts a text at every line boundary, of which there are ten (a
carriage return followed by a line feed is one), and has no empty last line. `unifyLineEnds` is what reading
a text file does: each carriage return, with a line feed that follows it, becomes one line feed.

`fields` cuts at one separating character and keeps every field, empty ones included.
-/

namespace BuildTree.Text

def isLineBreak (c : Char) : Bool :=
  c == '\n' || c == '\r' || c == '\x0b' || c == '\x0c' || c == '\x1c' || c == '\x1d' || c == '\x1e'
    || c == '\u0085' || c == '\u2028' || c == '\u2029'

/-- The lines of a text; `line` is the current one so far. -/
def splitLinesFrom (line : List Char) : List Char → List (List Char)
  | [] => if line.isEmpty then [] else [line]
  | '\r' :: '\n' :: rest => line :: splitLinesFrom [] rest
  | c :: rest => if isLineBreak c then line :: splitLinesFrom [] rest else splitLinesFrom (line ++ [c]) rest

/-- The lines of a text, without what ends them. -/
def splitLines (cs : List Char) : List (List Char) :=
  splitLinesFrom [] cs

/-- The text with a line feed for each carriage return or pair of carriage return and line feed. -/
def unifyLineEnds : List Char → List Char
  | [] => []
  | '\r' :: '\n' :: rest => '\n' :: unifyLineEnds rest
  | c :: rest => (if c = '\r' then '\n' else c) :: unifyLineEnds rest

/-- The pieces of a text between the occurrences of a separator. -/
def fields (sep : Char) : List Char → List (List Char)
  | [] => [[]]
  | c :: rest =>
    if c = sep then [] :: fields sep rest
    else match fields sep rest with
      | [] => [[c]]
      | field :: more => (c :: field) :: more

def splitFields (sep : Char) (s : String) : List String :=
  (fields sep s.toList).map String.ofList

end BuildTree.Text
