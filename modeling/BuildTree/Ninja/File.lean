import BuildTree.Ninja.Escape

/-!
# Ninja files

A file is a list of items; `render` writes them. A build statement has its paths on one line, and a section that
is empty leaves no mark. The bindings below a build statement hold plain values, which are escaped as they are
written; the bindings of rules and of the file itself are written as they are.
-/

namespace BuildTree.Ninja

structure Binding where
  key : String
  value : String
deriving DecidableEq, Repr, Inhabited

structure Statement where
  outputs : List String
  implicitOutputs : List String
  rule : String
  inputs : List String
  implicitInputs : List String
  orderOnlyInputs : List String
  bindings : List Binding
deriving DecidableEq, Repr, Inhabited

inductive Item where
  | comment (text : String)
  | blank
  | assign (b : Binding)
  | pool (name depth : String)
  | rule (name : String) (bindings : List Binding)
  | include (file : String)
  | build (s : Statement)
  | goal (path : String)
deriving DecidableEq, Repr, Inhabited

/-- The words of a section, behind its mark; nothing if the section is empty. -/
def sectionWords (mark : String) (paths : List String) : List String :=
  if paths.isEmpty then [] else mark :: paths.map escapePath

/-- The words with a colon at the end of the last one. -/
def closeWithColon : List String → List String
  | [] => []
  | [last] => [last ++ ":"]
  | word :: rest => word :: closeWithColon rest

def Statement.line (s : Statement) : String :=
  String.intercalate " "
    (closeWithColon ("build" :: s.outputs.map escapePath ++ sectionWords "|" s.implicitOutputs)
      ++ s.rule :: s.inputs.map escapePath
      ++ sectionWords "|" s.implicitInputs
      ++ sectionWords "||" s.orderOnlyInputs)

def Binding.valueLine (b : Binding) : String :=
  "  " ++ b.key ++ " = " ++ escapeValue b.value ++ "\n"

/-- A binding that is written as it is. -/
def Binding.verbatimLine (b : Binding) : String :=
  "  " ++ b.key ++ " = " ++ b.value ++ "\n"

def Item.render : Item → String
  | .comment text => "# " ++ text ++ "\n"
  | .blank => "\n"
  | .assign b => b.key ++ " = " ++ b.value ++ "\n"
  | .pool name depth => "pool " ++ name ++ "\n  depth = " ++ depth ++ "\n"
  | .rule name bindings => "rule " ++ name ++ "\n" ++ String.join (bindings.map Binding.verbatimLine)
  | .include file => "include " ++ file ++ "\n"
  | .build s => s.line ++ "\n" ++ String.join (s.bindings.map Binding.valueLine)
  | .goal path => "default " ++ escapePath path ++ "\n"

def render (items : List Item) : String :=
  String.join (items.map Item.render)

end BuildTree.Ninja
