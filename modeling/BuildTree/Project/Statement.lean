import BuildTree.Arguments.Signature

/-!
# Statements of scripts

A script is a list of statements. Most of them ask for one thing; entering a directory runs another script, a
project block gives its body a scope, an attempt keeps what goes wrong in its body from going further, and a raise
goes wrong on purpose. Targets are referred to by the names that earlier statements have bound them to. Every
statement knows its line.
-/

namespace BuildTree

inductive Verb where
  | command
  | copy
  | compile
  | link
  | group
  | find
  | tag
  | pool
  | markGenerated
  | reconfigureOn
  | src
  | out
  | extendConfig
  | getConfig
  | sourceDir
  | buildDir
  | config
  | scope
  | describe
  | add
  | depends
  | dependsImplicitly
  | setMetadata
  | unknown
deriving DecidableEq, Repr

/-- What a statement raises: a kind of fault with its words, and where source text is said to be wrong. Without a file
it is the script itself. What is no ordinary exception interrupts the pass. -/
structure Complaint where
  kind : String
  message : Value String
  file : Option (Value String)
  line : Value String
  interrupts : Bool := false

inductive Statement where
  | call (line : Nat) (verb : Verb) (args : Arguments String) (on bindTo : Option String)
  | subdir (line : Nat) (args : Arguments String)
  | project (line : Nat) (args : Arguments String) (body : List Statement)
  | attempt (line : Nat) (body : List Statement)
  | raise (line : Nat) (complaint : Complaint)

def Statement.line : Statement → Nat
  | .call n _ _ _ _ => n
  | .subdir n _ => n
  | .project n _ _ => n
  | .attempt n _ => n
  | .raise n _ => n

end BuildTree
