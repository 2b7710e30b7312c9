import BuildTree.CommandLine.Options
import BuildTree.Table

/-!
# What the command line asks for

There are two commands, each with its own options; which one is meant is the first word for a place. Settings are
words of the form `key=value` with a key that does not start with a dash.
-/

namespace BuildTree.CommandLine

structure Verbosity where
  verbose : Bool
  debug : Bool
deriving DecidableEq, Repr

/-- What the command line asks for. A preloaded script or a dependency file can be asked for without saying which. -/
inductive Request where
  | nothing
  | configure (verbosity : Verbosity) (sourceDir buildDir : Option String) (preloads : List (Option String))
      (extra : List String)
  | makeDepfileAbsolute (verbosity : Verbosity) (root : String) (depfile : Option String)
deriving DecidableEq, Repr

def helpOption : OptionSpec :=
  ⟨"help", ["-h", "--help"], .stop .help⟩

def topGrammar : Grammar :=
  ⟨[helpOption, ⟨"version", ["--version"], .stop .version⟩], [.rest]⟩

def commonOptions : List OptionSpec :=
  [helpOption, ⟨"verbose", ["-v", "--verbose"], .flag⟩, ⟨"debug", ["--debug"], .flag⟩]

def configureGrammar : Grammar :=
  ⟨commonOptions ++ [
      ⟨"source", ["-S", "--source-dir"], .value⟩,
      ⟨"build", ["-B", "--build-dir"], .value⟩,
      ⟨"preload", ["--preload"], .value⟩],
    [.many]⟩

def depfileGrammar : Grammar :=
  ⟨commonOptions, [.one, .one]⟩

namespace Taken

def has (t : Taken) (key : String) : Bool :=
  t.options.any (·.1 = key)

def values (t : Taken) (key : String) : List (Option String) :=
  (t.options.filter (·.1 = key)).map (·.2)

def value? (t : Taken) (key : String) : Option String :=
  (t.values key).getLast?.join

def verbosity (t : Taken) : Verbosity :=
  ⟨t.has "verbose", t.has "debug"⟩

end Taken

def configureRequest (t : Taken) : Request :=
  .configure t.verbosity (t.value? "source") (t.value? "build") (t.values "preload") t.filled.flatten

def depfileRequest (t : Taken) : Except Stop Request :=
  match t.filled with
  | [[root], [depfile]] => .ok (.makeDepfileAbsolute t.verbosity root (some depfile))
  | [[root], []] => .ok (.makeDepfileAbsolute t.verbosity root none)
  | _ => .error .usage

/-- The words of a command as what it asks for, and what no place took. -/
def commandRequest (command : String) (args : List String) : Except Stop (Request × List String) := do
  match command with
  | "configure" =>
    let t ← take configureGrammar args
    return (configureRequest t, t.leftOver)
  | "rewrite-depfile" =>
    let t ← take depfileGrammar args
    return (← depfileRequest t, t.leftOver)
  | _ => throw .usage

/-- Takes words apart while there is no command. -/
def topRequest (t : Taken) : Except Stop (Request × List String) :=
  match t.filled with
  | (command :: args) :: _ => commandRequest command args
  | _ => .ok (.nothing, [])

def request (args : List String) : Except Stop Request := do
  let t ← take topGrammar args
  let (r, leftOver) ← topRequest t
  if t.leftOver.isEmpty && leftOver.isEmpty then return r else throw .usage

/-- A word before and after its first equals sign, if it has one. -/
def keyAndValue (arg : String) : Option (String × String) :=
  match splitAtEquals arg.toList with
  | (key, some value) => some (String.ofList key, String.ofList value)
  | _ => none

def setting? (arg : String) : Option (String × String) :=
  match keyAndValue arg with
  | some (key, value) => if key = "" ∨ arg.toList.head? = some '-' then none else some (key, value)
  | none => none

/-- The settings among words, a later one in place of an earlier one with its key, and the words that give none. -/
def settings (args : List String) : Table String × List String :=
  (Table.insertAll [] (args.filterMap setting?), args.filter fun arg => (setting? arg).isNone)

end BuildTree.CommandLine
