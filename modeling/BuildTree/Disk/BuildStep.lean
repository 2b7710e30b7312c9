import BuildTree.Depfile.Absolute
import BuildTree.Disk.Access
import BuildTree.Fault
import BuildTree.Text.Lines

/-!
# Helper commands of the generated build

Copying a file and making the names in a dependency file absolute, over any access to files. A dependency file is
read as a whole, and what it becomes is moved to it as a whole, so that no part of it is ever seen.
-/

namespace BuildTree

inductive StepFault where
  | file (f : FileFault)
  | undecodable (f : Text.DecodeFault)
  | depfile (path : String) (f : Depfile.Fault)
deriving DecidableEq, Repr

def Text.DecodeFault.message (f : Text.DecodeFault) : String :=
  let place := match f.bytes with
    | [b] => "byte 0x" ++ String.ofList (Text.hexDigits 2 b.toNat) ++ " in position " ++ toString f.start
    | bytes => "bytes in position " ++ toString f.start ++ "-" ++ toString (f.start + bytes.length - 1)
  "'utf-8' codec can't decode " ++ place ++ ": " ++ f.reason

def StepFault.fault : StepFault → Fault
  | .file f => .raised f.kind f.message
  | .undecodable f => .raised "UnicodeDecodeError" f.message
  | .depfile path f => .depfile path f.message f.line?

def textOfBytes (bytes : Text.Bytes) : Except StepFault String :=
  match Text.decode bytes with
  | .ok cs => .ok (String.ofList (Text.unifyLineEnds cs))
  | .error f => .error (.undecodable f)

def absoluteContent (root path : String) (bytes : Text.Bytes) : Except StepFault Text.Bytes := do
  let text ← textOfBytes bytes
  match Depfile.makeAbsolute text root with
  | .ok absolute => return Text.encode absolute
  | .error f => throw (.depfile path f)

namespace BuildStep
variable {m : Type → Type} [Monad m] [FileAccess m]

abbrev Step (m : Type → Type) (α : Type) :=
  ExceptT StepFault m α

def attempt {α : Type} (access : m (Except FileFault α)) : Step m α :=
  ExceptT.mk do
    match ← access with
    | .ok a => return .ok a
    | .error f => return .error (.file f)

/-- What the names of the temporary files begin with that are made beside a file. -/
def temporaryPrefix (path : Path) : String :=
  "." ++ path.name ++ "."

/-- Puts content into a temporary file and moves that to a path. -/
def moveContent (temporary path : Path) (content : Text.Bytes) : Step m Unit := do
  attempt (FileAccess.write temporary.toString content)
  attempt (FileAccess.move temporary.toString path.toString)

/-- Does something that may fail; if it does, a file is removed before the failure goes on. -/
def orRemove (step : Step m Unit) (file : Path) : Step m Unit :=
  tryCatch step fun fault => do
    attempt (FileAccess.remove file.toString)
    throw fault

/-- Replaces the content of a file by way of a temporary file beside it, which does not stay if that fails. -/
def replaceContent (path : Path) (content : Text.Bytes) : Step m Unit := do
  let temporary ← attempt (FileAccess.makeTemporary path.parent (temporaryPrefix path))
  orRemove (moveContent temporary path content) temporary

/-- Makes the names in a dependency file absolute, in place. -/
def makeDepfileAbsolute (root : String) (path : Path) : Step m Unit := do
  let bytes ← attempt (FileAccess.read path.toString)
  match absoluteContent root path.toString bytes with
  | .ok content => replaceContent path content
  | .error fault => throw fault

/-- The place that a copy goes to: inside a directory, under its own name. -/
def copyPlace (source dest : String) : Step m String := do
  if ← ExceptT.lift (FileAccess.isDirectory dest) then return Path.joinText dest (Path.baseName source)
  else return dest

/-- Puts the content of a file into another one, which must not be the same. -/
def copyContent (source dest : String) : Step m Unit := do
  let same ← attempt (FileAccess.areSame source dest)
  if same then throw (.file (.sameFile source dest))
  let content ← attempt (FileAccess.read source)
  match ← ExceptT.lift (FileAccess.write dest content) with
  | .ok _ => return
  | .error (.isDirectory path) =>
    if ← ExceptT.lift (FileAccess.isDirectory dest) then throw (.file (.isDirectory path))
    else throw (.file (.noDirectory dest))
  | .error fault => throw (.file fault)

/-- Copies a file; directories that are missing on the way are made. -/
def copy (source dest : String) : Step m Unit := do
  attempt (FileAccess.makeDirectories (Path.ofString dest).parent)
  copyContent source (← copyPlace source dest)

end BuildStep
end BuildTree
