import BuildTree.Fault
import BuildTree.Path.Basic

/-!
# Scopes

A scope says which directory below the root is being configured and which project the names of groups belong to.
Scopes do not change; entering a directory or a project makes another scope current until it is left, and then
the scope before it is current again.
-/

namespace BuildTree

/-- A directory below the root and the project that is open there. -/
structure Scope where
  directory : Path
  project : String
deriving DecidableEq, Repr, Inhabited

namespace Scope

def root : Scope :=
  ⟨⟨.relative, []⟩, ""⟩

/-- Whether a path leads below the directory it is seen from. -/
def leadsBelow (p : Path) : Bool :=
  !p.isAbsolute && !p.parts.contains ".."

/-- The scope of a directory below; `shown` is how a message spells the path. -/
def child (scope : Scope) (p : Path) (shown : String) : Except Rejection Scope :=
  if leadsBelow p then .ok { scope with directory := scope.directory.join p }
  else .error (.leavesDirectory shown)

def trimSlashes (name : String) : String :=
  String.ofList (((name.toList.dropWhile (· = '/')).reverse.dropWhile (· = '/')).reverse)

/-- The scope with a project inside the one that is open. -/
def inProject (scope : Scope) (name : String) : Except Rejection Scope :=
  let inner := trimSlashes name
  if inner = "" then .error .emptyProjectName
  else .ok { scope with project := if scope.project = "" then inner else scope.project ++ "/" ++ inner }

def qualify (scope : Scope) (name : String) : String :=
  if scope.project = "" then name else scope.project ++ "/" ++ name

def describe (scope : Scope) : String :=
  "ScopeContext(relative_path=PurePosixPath(" ++ Text.quoted scope.directory.toString
    ++ "), project_namespace=" ++ Text.quoted scope.project ++ ")"

end Scope

/-- The scope that is current and those it will be left for, the innermost first. -/
structure ScopeStack where
  current : Scope
  outer : List Scope
deriving DecidableEq, Repr, Inhabited

namespace ScopeStack

/-- Nothing has been entered. -/
def root : ScopeStack :=
  ⟨Scope.root, []⟩

def depth (stack : ScopeStack) : Nat :=
  stack.outer.length

def push (stack : ScopeStack) (scope : Scope) : ScopeStack :=
  ⟨scope, stack.current :: stack.outer⟩

/-- Leaves the innermost scope; the root is never left. -/
def pop (stack : ScopeStack) : ScopeStack :=
  match stack.outer with
  | [] => stack
  | scope :: outer => ⟨scope, outer⟩

@[simp] theorem pop_push (stack : ScopeStack) (scope : Scope) : (stack.push scope).pop = stack := rfl

end ScopeStack
end BuildTree
