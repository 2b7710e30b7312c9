import BuildTree.CommandLine.Run
import BuildTree.Json.Reader
import BuildTree.Project.Notation

/-!
# The program

Reads scripts and writes files; everything in between is decided elsewhere. Scripts are read when a pass has looked
for them in vain, and the pass is then run again from its start, so that a pass itself reads nothing.
-/

namespace BuildTree.Program

def refusal (path : String) : IO.Error → FileFault
  | .noFileOrDirectory _ _ _ => .missing path
  | .alreadyExists _ _ _ => .alreadyThere path
  | .inappropriateType _ 20 _ => .notDirectory path
  | .inappropriateType _ _ _ => .isDirectory path
  | e => .unknown (toString e)

def guarded {α : Type} (path : String) (action : IO α) : IO (Except FileFault α) := do
  try
    return .ok (← action)
  catch e =>
    return .error (refusal path e)

/-- Makes an empty file with the first of some names that is not taken, up to a number of them. -/
def makeFirstFile (dir : Path) (start : String) : Nat → IO (Except FileFault Path)
  | 0 => return .error (.unknown "[Errno 17] No usable temporary file name found")
  | left + 1 => do
    let path := dir.child (start ++ String.ofList (Text.hexDigits 8 left))
    match ← guarded path.toString (discard <| IO.FS.Handle.mk path.toString .writeNew) with
    | .ok _ => return .ok path
    | .error (.alreadyThere _) => makeFirstFile dir start left
    | .error fault => return .error fault

instance : FileAccess IO where
  isDirectory path := do
    match ← guarded path (IO.FS.readBinFile path) with
    | .error (.isDirectory _) => return true
    | _ => return false
  areSame a b := do
    match ← guarded a (IO.FS.realPath a), ← guarded b (IO.FS.realPath b) with
    | .ok p, .ok q => return .ok (toString p == toString q)
    | _, _ => return .ok false
  makeDirectories path := guarded path.toString (IO.FS.createDirAll path.toString)
  read path := guarded path do return (← IO.FS.readBinFile path).toList
  write path content := guarded path (IO.FS.writeBinFile path ⟨content.toArray⟩)
  makeTemporary dir start := makeFirstFile dir start 10000
  move source dest := guarded source (IO.FS.rename source dest)
  remove path := guarded path (IO.FS.removeFile path)

/-- How deep the document of a script may nest. -/
def scriptRoom : Nat :=
  900

def scriptIn (text : String) : FileEntry :=
  match Json.parse scriptRoom text with
  | .ok document => .script (Notation.script document)
  | .error f => .unloadable f.fault

def readScript? (path : String) : IO (Option (String × FileEntry)) := do
  match ← guarded path (IO.FS.readFile path) with
  | .ok text => return some (path, scriptIn text)
  | .error _ => return none

/-- The scripts that a result shows to be missing and that can be read. -/
def readMissing (known : FileTree) (r : CommandLine.Result) : IO FileTree := do
  let missing := (r.session.map Session.missing).getD []
  let fresh := (missing.map (·.toString)).filter fun path => !known.has path
  return (← fresh.mapM readScript?).filterMap id

/-- Runs a request again for as long as scripts turn up that it looked for, up to a number of times. -/
def executeReading (request : CommandLine.Request) : Nat → CommandLine.World → IO CommandLine.Result
  | 0, w => CommandLine.execute w request
  | rounds + 1, w => do
    let result ← CommandLine.execute w request
    let found ← readMissing w.scripts result
    if found.isEmpty then return result
    else executeReading request rounds { w with scripts := w.scripts.insertAll found }

def rootScript (w : CommandLine.World) : CommandLine.Request → List String
  | .configure _ sourceDir buildDir _ _ =>
    let (source, _) := w.directories sourceDir buildDir
    [(w.workingDir.join (source.child CommandLine.scriptName)).toString]
  | _ => []

def writeFiles (s : Session) : IO Unit := do
  for dir in s.directories do
    IO.FS.createDirAll dir
  for (path, text) in s.written do
    IO.FS.writeFile path text

/-- Prints what a command reports and gives its exit status. -/
def finish (r : CommandLine.Result) : IO UInt32 := do
  IO.eprint r.errors
  match r.ending with
  | .exit status => return UInt32.ofNat status
  | .escaped f =>
    IO.eprintln (f.kind ++ ": " ++ f.message)
    return 1

def environment : IO (Table String) := do
  let names := ["KILN_SOURCE_DIR", "KILN_BUILD_DIR"]
  let values ← names.mapM fun name => IO.getEnv name
  return (names.zip values).filterMap fun (name, value) => value.map (name, ·)

/-- How many lists and records, one in another, a snapshot has room for. -/
def stackRoom : Nat :=
  990

/-- What the program sees of its surroundings before it has read a script. -/
def surroundings : IO CommandLine.World := do
  let workingDir := Path.ofString (toString (← IO.currentDir))
  let interpreter := toString (← IO.appPath)
  return ⟨workingDir, ← environment, [], interpreter, stackRoom⟩

/-- How many scripts a pass may ask for one after the other. -/
def maxRounds : Nat :=
  100000

def perform (request : CommandLine.Request) : IO UInt32 := do
  let w ← surroundings
  let scripts := (← (rootScript w request).mapM readScript?).filterMap id
  let result ← executeReading request maxRounds { w with scripts := scripts }
  if let some s := result.session then writeFiles s
  finish result

def usage : String :=
  "usage: kiln [-h] [--version] \x7bconfigure,rewrite-depfile\x7d ..."

def stop : CommandLine.Stop → IO UInt32
  | .usage => do
    IO.eprintln usage
    return 2
  | .help => do
    IO.println usage
    return 0
  | .version => do
    IO.print CommandLine.versionText
    return 0

def runArguments (args : List String) : IO UInt32 :=
  match CommandLine.request args with
  | .error s => stop s
  | .ok .nothing => do
    IO.println usage
    return 1
  | .ok request => perform request

end BuildTree.Program

/-- The program. The build that it writes calls it by the names of its parts. -/
def main (args : List String) : IO UInt32 :=
  match args with
  | "-m" :: "kiln.util.commands" :: rest => do
    BuildTree.Program.finish (← BuildTree.CommandLine.runHelper rest)
  | "-m" :: "kiln.cli" :: rest => BuildTree.Program.runArguments rest
  | args => BuildTree.Program.runArguments args
