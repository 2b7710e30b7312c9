import BuildTree.Path.Basic

/-!
# Normal form of path texts

`normalize` spells the text of a path so that it holds no empty component, no `.`, and no `..` after a
component that it could cancel; above a root `..` is the root itself. `joinText` puts a relative text behind a
directory without looking at either. Both are about spellings: links in a file system are not consulted.
-/

namespace BuildTree.Path

/-- Whether a text starts at a root. -/
def isAbsoluteText (s : String) : Bool :=
  s.toList.head? == some '/'

/-- A text seen from a directory. -/
def joinText (dir s : String) : String :=
  if isAbsoluteText s then s
  else if dir = "" ∨ dir.toList.getLast? = some '/' then dir ++ s
  else dir ++ "/" ++ s

/-- Adds one component to those found so far, the last one first. -/
def collapseStep (rooted : Bool) (stack : List String) (part : String) : List String :=
  if part = "" ∨ part = "." then stack
  else if part ≠ ".." then part :: stack
  else match stack with
    | [] => if rooted then [] else [".."]
    | last :: rest => if last = ".." then ".." :: stack else rest

/-- The components that remain after each `..` has cancelled the one before it. -/
def collapse (rooted : Bool) (parts : List String) : List String :=
  (parts.foldl (collapseStep rooted) []).reverse

def normalize (s : String) : String :=
  let root := Root.ofChars s.toList
  let text := root.text ++ String.intercalate "/" (collapse (root ≠ .relative) (Text.splitFields '/' s))
  if text = "" then "." else text

end BuildTree.Path
