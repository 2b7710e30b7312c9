import BuildTree.Text.Lines

/-!
# Paths

A path is a root and the components below it. Empty and `.` components are dropped when a text is read, the
component `..` is kept: what it stands for depends on the file system. One leading slash or three and more
are the one root; exactly two are a root of their own. The empty relative path is written `.`.
-/

namespace BuildTree

inductive Path.Root where
  | relative
  | slash
  | doubleSlash
deriving DecidableEq, Repr, Inhabited

/-- The root that the leading slashes of a text stand for. -/
def Path.Root.ofChars : List Char → Path.Root
  | '/' :: '/' :: '/' :: _ => .slash
  | '/' :: '/' :: _ => .doubleSlash
  | '/' :: _ => .slash
  | _ => .relative

/-- The slashes that a root is written with. -/
def Path.Root.text : Path.Root → String
  | .relative => ""
  | .slash => "/"
  | .doubleSlash => "//"

/-- A path: its root and its components from the top down. -/
structure Path where
  root : Path.Root
  parts : List String
deriving DecidableEq, Repr, Inhabited

namespace Path

/-- The components of a text: what stands between slashes, apart from nothing and `.`. -/
def components (s : String) : List String :=
  (Text.splitFields '/' s).filter fun part => part ≠ "" && part ≠ "."

def ofString (s : String) : Path :=
  ⟨Root.ofChars s.toList, components s⟩

/-- The text of a path, in its only spelling. -/
protected def toString (p : Path) : String :=
  if p.root = .relative ∧ p.parts = [] then "."
  else p.root.text ++ String.intercalate "/" p.parts

instance : ToString Path := ⟨Path.toString⟩

def isAbsolute (p : Path) : Bool :=
  p.root ≠ .relative

/-- The second path seen from the first; an absolute one stays as it is. -/
def join (base p : Path) : Path :=
  if p.isAbsolute then p else ⟨base.root, base.parts ++ p.parts⟩

def child (base : Path) (name : String) : Path :=
  base.join (ofString name)

/-- The path without its last component; a root stays as it is. -/
def parent (p : Path) : Path :=
  ⟨p.root, p.parts.dropLast⟩

def name (p : Path) : String :=
  p.parts.getLast?.getD ""

def top : Path :=
  ⟨.slash, []⟩

end Path

/-- The last piece of a text after its last slash. -/
def Path.baseName (s : String) : String :=
  (Text.splitFields '/' s).getLast?.getD ""

end BuildTree
