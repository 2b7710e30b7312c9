import BuildTree.Disk.Access

/-!
# A file system as a value

A disk lists files and directories by their components below the root, and says in which directory the paths start
that do not start with a slash. Every component before the last has to be a directory; `..` leads to the directory
above, and from the root to the root. A path that ends with a slash means a directory. Names and paths have a greatest
length, in bytes; a path that holds a null character is none.

A file system can also refuse what would be possible, for want of room or of rights, and then part of a content may
have been written. Which of the accesses to come it refuses belongs to the disk.
-/

namespace BuildTree

open Text (Bytes)

inductive DiskEntry where
  | directory
  | file (content : Bytes)
deriving DecidableEq, Repr

/-- A refusal that has nothing to do with what is on the disk, and how many bytes are written nevertheless. -/
structure Refusal where
  fault : FileFault
  written : Nat
deriving DecidableEq, Repr

/-- Files and directories by their components, the directory where paths start, and the refusals to come: what becomes
of each of the next accesses that can be refused. -/
structure Disk where
  here : List String
  entries : List (List String × DiskEntry)
  refusals : List (Option Refusal) := []
deriving DecidableEq, Repr

namespace Disk

/-- A disk on which nothing was put: paths start in an empty directory for temporary files, and there is the device
that takes everything and holds nothing. -/
def blank : Disk where
  here := ["tmp", "work"]
  entries := [(["dev"], .directory), (["dev", "null"], .file [])]

/-- What is at a place; where paths start there is a directory, and so above it. -/
def entry? (disk : Disk) (place : List String) : Option DiskEntry :=
  if place.isPrefixOf disk.here then some .directory else disk.entries.lookup place

def insertEntry (place : List String) (entry : DiskEntry) :
    List (List String × DiskEntry) → List (List String × DiskEntry)
  | [] => [(place, entry)]
  | (other, old) :: rest =>
    if other = place then (place, entry) :: rest else (other, old) :: insertEntry place entry rest

def put (disk : Disk) (place : List String) (entry : DiskEntry) : Disk :=
  { disk with entries := insertEntry place entry disk.entries }

inductive Reached where
  | found (place : List String) (entry : DiskEntry)
  | free (place : List String)
  | nowhere
  | throughFile
  | tooLong
  | unspelled
deriving DecidableEq, Repr

/-- How many bytes a name can have. -/
def nameLimit : Nat :=
  255

/-- How many bytes a path can have. -/
def pathLimit : Nat :=
  4095

def isTooLong (name : String) : Bool :=
  nameLimit < name.utf8ByteSize

/-- What is left of a path that only says that a directory is meant. -/
def isSlash (parts : List String) : Bool :=
  parts.all (· = "")

def follow (disk : Disk) (place : List String) : List String → Reached
  | [] => match disk.entry? place with
    | some entry => .found place entry
    | none => .free place
  | part :: rest => match disk.entry? place with
    | some .directory =>
      if part = "" ∨ part = "." then follow disk place rest
      else if part = ".." then follow disk place.dropLast rest
      else if isTooLong part then .tooLong
      else follow disk (place ++ [part]) rest
    | some (.file _) => .throughFile
    | none => if isSlash (part :: rest) then .free place else .nowhere

/-- Where components of the text of a path lead; the empty text leads nowhere. -/
def reach (disk : Disk) (path : String) (parts : List String) : Reached :=
  if path.toList.contains '\x00' then .unspelled
  else if pathLimit < path.utf8ByteSize then .tooLong
  else if path = "" then .nowhere
  else follow disk (if path.toList.head? = some '/' then [] else disk.here) parts

def locate (disk : Disk) (path : String) : Reached :=
  disk.reach path (Text.splitFields '/' path)

/-- Whether the text of a path ends with a slash. -/
def meansDirectory (path : String) : Bool :=
  path.toList.getLast? == some '/'

def withoutSlashes (path : String) : String :=
  String.ofList (path.toList.reverse.dropWhile (· = '/')).reverse

def isDirectory (disk : Disk) (path : String) : Bool :=
  match disk.locate path with
  | .found _ .directory => true
  | _ => false

def areSame (disk : Disk) (a b : String) : Except FileFault Bool :=
  match disk.locate a, disk.locate b with
  | .unspelled, _ => .error .nullByte
  | _, .unspelled => .error .nullByte
  | .found p _, .found q _ => .ok (p == q)
  | _, _ => .ok false

/-- The file that a path leads to: its place and its content. -/
def fileAt (disk : Disk) (path : String) : Except FileFault (List String × Bytes) :=
  match disk.locate path with
  | .found place (.file content) => .ok (place, content)
  | .found _ .directory => .error (.isDirectory path)
  | .throughFile => .error (.notDirectory path)
  | .tooLong => .error (.nameTooLong path)
  | .unspelled => .error .nullByte
  | _ => .error (.missing path)

def read (disk : Disk) (path : String) : Except FileFault Bytes :=
  (disk.fileAt path).map Prod.snd

def erase (disk : Disk) (place : List String) : Disk :=
  { disk with entries := disk.entries.filter (·.1 ≠ place) }

def remove (disk : Disk) (path : String) : Except FileFault Disk :=
  (disk.fileAt path).map fun (place, _) => disk.erase place

/-- Why no content can be put where a path with a slash at its end leads: if anything, a directory could be there. -/
def slashFault (disk : Disk) (path : String) : FileFault :=
  match disk.reach path (Text.splitFields '/' (withoutSlashes path)).dropLast with
  | .found _ .directory => .isDirectory path
  | .found _ (.file _) => .notDirectory path
  | .throughFile => .notDirectory path
  | .tooLong => .nameTooLong path
  | .unspelled => .nullByte
  | .free _ => .missing path
  | .nowhere => .missing path

/-- Puts content into a file, which is made if its directory is there. -/
def write (disk : Disk) (path : String) (content : Bytes) : Except FileFault Disk :=
  if meansDirectory path then .error (disk.slashFault path)
  else match disk.locate path with
    | .found _ .directory => .error (.isDirectory path)
    | .found place (.file _) => .ok (disk.put place (.file content))
    | .free place => .ok (disk.put place (.file content))
    | .throughFile => .error (.notDirectory path)
    | .nowhere => .error (.missing path)
    | .tooLong => .error (.nameTooLong path)
    | .unspelled => .error .nullByte

/-- Moves a file to where a path leads; another file that is there gives way. -/
def move (disk : Disk) (source dest : String) : Except FileFault Disk := do
  let (place, content) ← disk.fileAt source
  (disk.erase place).write dest content

/-- Makes something where nothing is yet. -/
def makeEntry (disk : Disk) (path : String) (entry : DiskEntry) : Except FileFault Disk :=
  match disk.locate path with
  | .found _ _ => .error (.alreadyThere path)
  | .free place => .ok (disk.put place entry)
  | .throughFile => .error (.notDirectory path)
  | .nowhere => .error (.missing path)
  | .tooLong => .error (.nameTooLong path)
  | .unspelled => .error .nullByte

def makeDirectory (disk : Disk) (path : String) : Except FileFault Disk :=
  disk.makeEntry path .directory

def makeFile (disk : Disk) (path : String) : Except FileFault Disk :=
  if meansDirectory path then .error (disk.slashFault path) else disk.makeEntry path (.file [])

/-- Makes an empty file with the first of some names that is not taken. -/
def makeFirstFile (disk : Disk) (dir : Path) : List String → Except FileFault (Path × Disk)
  | [] => .error (.unknown "[Errno 17] No usable temporary file name found")
  | name :: names => match disk.makeFile (dir.child name).toString with
    | .ok disk => .ok (dir.child name, disk)
    | .error (.alreadyThere _) => makeFirstFile disk dir names
    | .error fault => .error fault

/-- Makes a temporary file. There are more names to be tried than there is on the disk. -/
def makeTemporary (disk : Disk) (dir : Path) (start : String) : Except FileFault (Path × Disk) :=
  disk.makeFirstFile dir <| (List.range (disk.entries.length + 1)).map fun number =>
    start ++ String.ofList (Text.hexDigits 8 number)

/-- Makes one directory unless it is there, after another attempt to make the one above it. -/
def makeDirectoryAfter (disk : Disk) (path : String) (above : Unit → Except FileFault Disk) :
    Except FileFault Disk :=
  match disk.makeDirectory path with
  | .ok disk => .ok disk
  | .error (.missing missing) => match above () with
    | .ok disk => match disk.makeDirectory path with
      | .ok disk => .ok disk
      | .error fault => if disk.isDirectory path then .ok disk else .error fault
    | .error (.missing _) => .error (.missing missing)
    | .error fault => .error fault
  | .error fault => if disk.isDirectory path then .ok disk else .error fault

/-- Makes the directory of components, given from the last to the first, and those above it. -/
def makeDirectoriesBelow (disk : Disk) (root : Path.Root) : List String → Except FileFault Disk
  | [] => .ok disk
  | last :: above =>
    disk.makeDirectoryAfter (Path.mk root (last :: above).reverse).toString fun _ =>
      makeDirectoriesBelow disk root above

/-- Makes a directory and those above it; what is there already stays. -/
def makeDirectories (disk : Disk) (path : Path) : Except FileFault Disk :=
  disk.makeDirectoriesBelow path.root path.parts.reverse

def placesAbove : List String → List (List String)
  | [] => []
  | part :: rest => [part] :: (placesAbove rest).map (part :: ·)

/-- The disk with something at the components of a name from where paths start, and directories above it. -/
def putNamed (disk : Disk) (name : String) (entry : DiskEntry) : Disk :=
  let parts := Path.components name
  let disk := (placesAbove parts.dropLast).foldl (fun disk above => disk.put (disk.here ++ above) .directory) disk
  disk.put (disk.here ++ parts) entry

/-- The files below the directory where paths start, with the text of their places from there. -/
def files (disk : Disk) : List (String × Bytes) :=
  disk.entries.filterMap fun (place, entry) => match entry with
    | .file content =>
      if disk.here.isPrefixOf place then some (String.intercalate "/" (place.drop disk.here.length), content) else none
    | .directory => none

/-- What a change of a disk that is possible or not comes to. -/
def changed {α : Type} (disk : Disk) : Except FileFault (α × Disk) → Except FileFault α × Disk
  | .ok (value, disk) => (.ok value, disk)
  | .error fault => (.error fault, disk)

/-- An access that can be refused; then only what is still done of it happens. -/
def unlessRefused {α : Type} (partly : Refusal → Disk → Disk) (access : Disk → Except FileFault (α × Disk)) :
    StateM Disk (Except FileFault α) := fun disk =>
  match disk.refusals with
  | [] => disk.changed (access disk)
  | refusal? :: rest =>
    let disk := { disk with refusals := rest }
    match refusal? with
    | none => disk.changed (access disk)
    | some refusal => (.error refusal.fault, partly refusal disk)

/-- What a refusal leaves of a file that is being written. -/
def writtenPartly (path : String) (content : Bytes) (refusal : Refusal) (disk : Disk) : Disk :=
  match disk.write path (content.take refusal.written) with
  | .ok disk => disk
  | .error _ => disk

/-- Access to the files of a disk. Reading and writing, making a temporary file and moving one can be refused. -/
instance : FileAccess (StateM Disk) where
  isDirectory path := fun disk => (disk.isDirectory path, disk)
  areSame a b := fun disk => (disk.areSame a b, disk)
  makeDirectories path := fun disk => disk.changed ((disk.makeDirectories path).map ((), ·))
  read path := unlessRefused (fun _ => id) fun disk => (disk.read path).map (·, disk)
  write path content := unlessRefused (writtenPartly path content) fun disk => (disk.write path content).map ((), ·)
  makeTemporary dir start := unlessRefused (fun _ => id) fun disk => disk.makeTemporary dir start
  move source dest := unlessRefused (fun _ => id) fun disk => (disk.move source dest).map ((), ·)
  remove path := fun disk => disk.changed ((disk.remove path).map ((), ·))

end Disk
end BuildTree
