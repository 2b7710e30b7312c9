import BuildTree.CommandLine.Request
import BuildTree.Disk.BuildStep
import BuildTree.Project.Run

/-!
# Running what the command line asks for

A command ends with an exit status, or a fault that is not the tool's own escapes it. What it reports goes to the
error output, as much of it as was asked for. Configuring lists the files to write in its session; files are
written only if all of it succeeds, but for the snapshot of the configuration, which is written last and may stop.
-/

namespace BuildTree.CommandLine

inductive Ending where
  | exit (status : Nat)
  | escaped (f : Fault)
deriving DecidableEq, Repr

/-- What a command sees of its surroundings. The stack has room for as many lists and records, one in another, when a
snapshot is written. -/
structure World where
  workingDir : Path
  environment : Table String
  scripts : FileTree
  interpreter : String
  room : Nat

structure Result where
  ending : Ending
  errors : String
  session : Option Session

/-- The least urgent level that is reported. -/
def Verbosity.threshold (v : Verbosity) : Level :=
  if v.debug then .debug else if v.verbose then .info else .warning

def Verbosity.format (v : Verbosity) (line : LogLine) : String :=
  line.level.name ++ ": " ++ (if v.debug then line.source ++ ": " else "") ++ line.text ++ "\n"

def Verbosity.print (v : Verbosity) (log : List LogLine) : String :=
  String.join ((log.filter fun line => v.threshold.rank ≤ line.level.rank).map v.format)

def logSource : String :=
  "kiln"

def say (level : Level) (text : String) : LogLine :=
  ⟨level, logSource, text⟩

/-- The text that was given; otherwise that of an environment variable; otherwise a fixed one. An empty text counts
as not given. -/
def firstOf (given : Option String) (environment : Table String) (variable_ fixed : String) : String :=
  let fallback := match environment.get? variable_ with
    | some text => if text = "" then fixed else text
    | none => fixed
  match given with
  | some text => if text = "" then fallback else text
  | none => fallback

def scriptName : String :=
  "kiln.py"

/-- Whether there is a script at a path, be it one that does not load. -/
def World.hasScript (w : World) (p : Path) : Except Fault Bool :=
  match w.scripts.get? (w.workingDir.join p).toString with
  | some (.script _) => .ok true
  | some (.unloadable _) => .ok true
  | some (.unreachable kind reason) => .error (FileEntry.refusal kind reason p.toString)
  | _ => .ok false

def World.directories (w : World) (sourceDir buildDir : Option String) : Path × Path :=
  (Path.ofString (firstOf sourceDir w.environment "KILN_SOURCE_DIR" "."),
    Path.ofString (firstOf buildDir w.environment "KILN_BUILD_DIR" "build"))

def World.setup (w : World) (source build : Path) (preloads : List String) (settings : Table String) : Setup where
  source := w.workingDir.join source
  build := w.workingDir.join build
  preloads := preloads.map fun p => w.workingDir.join (Path.ofString p)
  settings := settings
  scriptName := .text scriptName
  interpreter := w.interpreter

def passEnding (setup : Setup) : Except Fault Unit → Ending × List LogLine
  | .ok _ => (.exit 0, [say .info ("Generated " ++ (setup.build.child Ninja.buildFile).toString)])
  | .error f => if f.isReported then (.exit 1, [say .error f.text]) else (.escaped f, [])

/-- Configures and writes; a pass that fails to configure writes nothing. -/
def runPass (w : World) (v : Verbosity) (setup : Setup) (before : List LogLine) : Result :=
  let (outcome, session) := (do Pass.configure; Pass.write w.room : Pass Unit).run (Session.start setup w.scripts)
  let (ending, after) := passEnding setup outcome
  ⟨ending, v.print (before ++ session.log ++ after), some session⟩

def configure (w : World) (v : Verbosity) (sourceDir buildDir : Option String) (preloads : List (Option String))
    (extra : List String) : Result :=
  let (source, build) := w.directories sourceDir buildDir
  let (settings, others) := settings extra
  let before := [
    say .debug ("  KILN_SOURCE_DIR=" ++ (w.workingDir.join source).toString),
    say .debug ("  KILN_BUILD_DIR=" ++ (w.workingDir.join build).toString)]
  if !others.isEmpty then
    ⟨.exit 1, v.print [
        say .error ("Unexpected arguments: " ++ String.intercalate " " others),
        say .info "Configuration values are given as KEY=value"], none⟩
  else match w.hasScript (source.child scriptName), preloads.mapM id with
    | .error f, _ => ⟨.escaped f, "", none⟩
    | .ok false, _ =>
      ⟨.exit 1, v.print [say .error ("No " ++ scriptName ++ " found in " ++ source.toString)], none⟩
    | .ok true, none => ⟨.escaped .typeMismatch, v.print before, none⟩
    | .ok true, some preloads => runPass w v (w.setup source build preloads settings) before

section Files
variable {m : Type → Type} [Monad m] [FileAccess m]

def depfileEnding (root depfile : String) : Except StepFault Unit → Ending × List LogLine
  | .ok _ => (.exit 0, [⟨.debug, "kiln.util.depfile",
      "Rewrote " ++ (Path.ofString depfile).toString ++ " relative to " ++ root⟩])
  | .error (.file .nullByte) => (.escaped (StepFault.file .nullByte).fault, [])
  | .error (.file f) => (.exit 1, [say .error ("Failed to rewrite " ++ depfile ++ ": " ++ f.message)])
  | .error (.undecodable f) => (.escaped (StepFault.undecodable f).fault, [])
  | .error (.depfile path f) => (.exit 1, [say .error (StepFault.depfile path f).fault.text])

def makeDepfileAbsolute (v : Verbosity) (root : String) : Option String → m Result
  | none => return ⟨.escaped .typeMismatch, "", none⟩
  | some depfile => do
    let outcome ← (BuildStep.makeDepfileAbsolute root (Path.ofString depfile)).run
    let (ending, log) := depfileEnding root depfile outcome
    return ⟨ending, v.print log, none⟩

def execute (w : World) : Request → m Result
  | .nothing => return ⟨.exit 1, "", none⟩
  | .configure v sourceDir buildDir preloads extra => return configure w v sourceDir buildDir preloads extra
  | .makeDepfileAbsolute v root depfile => makeDepfileAbsolute v root depfile

def helperEnding : Except StepFault Unit → Ending × String
  | .ok _ => (.exit 0, "")
  | .error (.depfile path f) => (.exit 1, "kiln: " ++ (StepFault.depfile path f).fault.text ++ "\n")
  | .error fault => (.escaped fault.fault, "")

def helperUsage (lines : List String) : Result :=
  ⟨.exit 1, String.join (lines.map (· ++ "\n")), none⟩

def runStep (step : BuildStep.Step m Unit) : m Result := do
  let (ending, errors) := helperEnding (← step.run)
  return ⟨ending, errors, none⟩

/-- Runs the helper commands that the rules of the build call. -/
def runHelper : List String → m Result
  | [] => return helperUsage [
      "Usage: python -m kiln.util.commands <command> [args...]",
      "Commands: copy, rewrite-depfile"]
  | ["copy", source, dest] => runStep (BuildStep.copy source dest)
  | "copy" :: _ => return helperUsage ["Usage: python -m kiln.util.commands copy <src> <dest>"]
  | ["rewrite-depfile", root, depfile] => runStep (BuildStep.makeDepfileAbsolute root (Path.ofString depfile))
  | "rewrite-depfile" :: _ =>
    return helperUsage ["Usage: python -m kiln.util.commands rewrite-depfile <root> <depfile>"]
  | command :: _ => return helperUsage ["Unknown command: " ++ command]

end Files

def versionText : String :=
  "kiln 0.1.0\n"

end BuildTree.CommandLine
