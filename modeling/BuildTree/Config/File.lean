import BuildTree.Config.Snapshot
import BuildTree.Disk.BuildStep

/-!
# Snapshots on disk

Loading the snapshot of a configuration that an earlier pass has written.
-/

namespace BuildTree.Config
variable {ρ : Type} {m : Type → Type} [Monad m] [FileAccess m]

def ofContent (room : Nat) (bytes : Text.Bytes) : Except Fault (Value ρ) :=
  match textOfBytes bytes with
  | .error f => .error f.fault
  | .ok text => (load room text).mapError Json.ReadFault.fault

def unreadable (path : Path) : FileFault → Fault
  | .missing _ => .raised "FileNotFoundError" ("Config file not found: " ++ path.toString)
  | .notDirectory _ => .raised "FileNotFoundError" ("Config file not found: " ++ path.toString)
  | .nullByte => .raised "FileNotFoundError" ("Config file not found: " ++ path.toString)
  | f => .raised f.kind f.message

def loadFile (room : Nat) (path : Path) : m (Except Fault (Value ρ)) := do
  match ← FileAccess.read path.toString with
  | .ok bytes => return ofContent room bytes
  | .error f => return .error (unreadable path f)

end BuildTree.Config
