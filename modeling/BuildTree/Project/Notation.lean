import BuildTree.Json.Basic
import BuildTree.Project.Statement

/-!
# Scripts and values as JSON documents

A value is written as the JSON document for it. Values that JSON has no form for are records with a key of their
own, such as a path under `$path`. A script is a list of records: what a statement asks for is under `do`, its
arguments under `args` and `kw`. The lines of a script are counted by statements, each before those in its body.
-/

namespace BuildTree.Notation

def textAt? (entries : Table (Value String)) (key : String) : Option String :=
  match entries.get? key with
  | some (.text s) => some s
  | _ => none

def itemsAt (entries : Table (Value String)) (key : String) : List (Value String) :=
  match entries.get? key with
  | some (.list items) => items
  | _ => []

def field? : Key × Value String → Option (String × Value String)
  | (.text name, value) => some (name, value)
  | _ => none

def entriesAt (entries : Table (Value String)) (key : String) : Table (Value String) :=
  match entries.get? key with
  | some (.record inner) => inner.filterMap field?
  | _ => []

def transform (entries : Table (Value String)) (kind : String) : Transform String :=
  match kind with
  | "append" => .append (itemsAt entries "items")
  | "const" => .const ((entries.get? "value").getD .null)
  | "wrap" => .wrap
  | "type" => .kind
  | "fail" => .fail (.invalidValue ((textAt? entries "message").getD ""))
  | _ => .keep

/-- The value that a record stands for if it has a key of those with a meaning of their own. -/
def special? (entries : Table (Value String)) : Option (Value String) :=
  match textAt? entries "$path", textAt? entries "$target", textAt? entries "$targetref" with
  | some s, _, _ => some (.path (Path.ofString s))
  | _, some name, _ => some (.target name)
  | _, _, some name => some (.targetDependency name)
  | none, none, none =>
    match textAt? entries "$pathref", textAt? entries "$re", textAt? entries "$fn" with
    | some s, _, _ => some (.pathDependency s)
    | _, some source, _ => some (.pattern source (((entries.get? "i").map Value.isGiven).getD false))
    | _, _, some kind => some (.transform (transform entries kind))
    | none, none, none =>
      match itemsAt entries "$loc" with
      | [.text file, .int line] => some (.location (.line file (some line)))
      | [.text file, .null] => some (.location (.line file none))
      | _ => none

mutual

def value : Json → Value String
  | .null => .null
  | .bool b => .bool b
  | .int i => .int i
  | .float x => .float x
  | .text s => .text s
  | .list items => .list (values items)
  | .record entries =>
    let entries := valueEntries entries
    (special? entries).getD (.record (entries.map fun (key, value) => (.text key, value)))

def values : List Json → List (Value String)
  | [] => []
  | item :: rest => value item :: values rest

def valueEntries : List (String × Json) → List (String × Value String)
  | [] => []
  | (key, item) :: rest => (key, value item) :: valueEntries rest

end

def verbs : List (String × Verb) := [
  ("command", .command), ("declare_command_target", .command),
  ("copy", .copy), ("declare_copy_target", .copy),
  ("compile", .compile), ("declare_compile_target", .compile),
  ("link", .link), ("declare_link_target", .link),
  ("alias", .group), ("declare_alias", .group),
  ("find", .find), ("find_named_target", .find),
  ("tag", .tag),
  ("pool", .pool), ("declare_pool", .pool),
  ("mark_generated", .markGenerated),
  ("reconfigure_on", .reconfigureOn),
  ("src", .src), ("out", .out),
  ("extend_config", .extendConfig), ("get_config", .getConfig),
  ("source_dir", .sourceDir), ("build_dir", .buildDir),
  ("config", .config), ("scope", .scope), ("repr", .describe),
  ("add", .add), ("depends", .depends), ("depends_implicitly", .dependsImplicitly),
  ("set_metadata", .setMetadata)]

def verb (word : String) : Verb :=
  (verbs.lookup word).getD .unknown

def argumentsOf (fields : Table (Value String)) : Arguments String :=
  ⟨itemsAt fields "args", entriesAt fields "kw"⟩

def interruptKinds : List String :=
  ["BaseException", "GeneratorExit", "KeyboardInterrupt", "SystemExit", "CancelledError"]

def complaintOf (fields : Table (Value String)) : Complaint where
  kind := (textAt? fields "kind").getD ""
  message := (fields.get? "message").getD (.text "")
  file := fields.get? "file"
  line := (fields.get? "line").getD .null
  interrupts := interruptKinds.contains ((textAt? fields "kind").getD "")

def statementOf (line : Nat) (fields : Table (Value String)) (body : List Statement) : Statement :=
  let word := (textAt? fields "do").getD ""
  match word with
  | "subdir" => .subdir line (argumentsOf fields)
  | "enter_subdirectory" => .subdir line (argumentsOf fields)
  | "project" => .project line (argumentsOf fields) body
  | "enter_project" => .project line (argumentsOf fields) body
  | "try" => .attempt line body
  | "raise" => .raise line (complaintOf fields)
  | word => .call line (verb word) (argumentsOf fields) (textAt? fields "on") (textAt? fields "as")

mutual

/-- The statement that a document describes, and the line after it. -/
def statement (line : Nat) : Json → Statement × Nat
  | .record entries =>
    let (body, next) := bodyIn (line + 1) entries
    (statementOf line (valueEntries entries) body, next)
  | _ => (statementOf line [] [], line + 1)

/-- The body among the fields of a statement, and the line after it. -/
def bodyIn (line : Nat) : List (String × Json) → List Statement × Nat
  | [] => ([], line)
  | (key, item) :: rest => if key = "body" then bodyOf line item else bodyIn line rest

def bodyOf (line : Nat) : Json → List Statement × Nat
  | .list items => statements line items
  | _ => ([], line)

/-- The statements that documents describe, and the line after them. -/
def statements (line : Nat) : List Json → List Statement × Nat
  | [] => ([], line)
  | item :: rest =>
    let (first, line) := statement line item
    let (others, line) := statements line rest
    (first :: others, line)

end

def script (document : Json) : List Statement :=
  (bodyOf 1 document).1

end BuildTree.Notation
