import BuildTree.Path.Basic
import BuildTree.Text.Quoted
import BuildTree.Text.Utf8

/-!
# Access to files

What the helper commands need from a file system, and how it refuses. The commands are written over this, so that
they run on a real file system and on one that is a value.
-/

namespace BuildTree

open Text (Bytes)

inductive FileFault where
  | missing (path : String)
  | isDirectory (path : String)
  | notDirectory (path : String)
  | alreadyThere (path : String)
  | sameFile (source dest : String)
  | noDirectory (path : String)
  | nameTooLong (path : String)
  | nullByte
  | unknown (message : String)
deriving DecidableEq, Repr

namespace FileFault

def kind : FileFault → String
  | .missing _ => "FileNotFoundError"
  | .isDirectory _ => "IsADirectoryError"
  | .notDirectory _ => "NotADirectoryError"
  | .alreadyThere _ => "FileExistsError"
  | .sameFile _ _ => "SameFileError"
  | .noDirectory _ => "FileNotFoundError"
  | .nameTooLong _ => "OSError"
  | .nullByte => "ValueError"
  | .unknown _ => "OSError"

def message : FileFault → String
  | .missing path => "[Errno 2] No such file or directory: " ++ Text.quoted path
  | .isDirectory path => "[Errno 21] Is a directory: " ++ Text.quoted path
  | .notDirectory path => "[Errno 20] Not a directory: " ++ Text.quoted path
  | .alreadyThere path => "[Errno 17] File exists: " ++ Text.quoted path
  | .sameFile source dest => Text.quoted source ++ " and " ++ Text.quoted dest ++ " are the same file"
  | .noDirectory path => "Directory does not exist: " ++ path
  | .nameTooLong path => "[Errno 36] File name too long: " ++ Text.quoted path
  | .nullByte => "embedded null byte"
  | .unknown message => message

end FileFault

/-- Access to files by the spelling of their paths. A temporary file is an empty one that was not there before, in a
directory and with a name that begins in a certain way; a file can be moved to where another one is. -/
class FileAccess (m : Type → Type) where
  isDirectory : String → m Bool
  areSame : String → String → m (Except FileFault Bool)
  makeDirectories : Path → m (Except FileFault Unit)
  read : String → m (Except FileFault Bytes)
  write : String → Bytes → m (Except FileFault Unit)
  makeTemporary : Path → String → m (Except FileFault Path)
  move : String → String → m (Except FileFault Unit)
  remove : String → m (Except FileFault Unit)

end BuildTree
