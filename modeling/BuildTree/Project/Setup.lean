import BuildTree.Project.Run

/-!
# Setting a pass up

The arguments of a pass: its two directories, the scripts to run first, the settings, and the name of the scripts.
Relative paths are seen from the working directory; what is in a path stays as it is. The name of the scripts has to
be a path only when the first of them is looked for.
-/

namespace BuildTree.Setup

def signature : Signature :=
  ⟨["source_dir", "build_dir"], ["source_dir", "build_dir"], ["preloads", "variables", "script_name"], false⟩

/-- An argument as a path seen from the working directory. -/
def pathIn (workingDir : Path) (value : Given) : Except Fault Path :=
  (Argument.path value).map workingDir.join

def ofBound (workingDir : Path) (interpreter : String) (b : Bound TargetId) : Except Fault Setup := do
  let source ← pathIn workingDir (b.get "source_dir")
  let build ← pathIn workingDir (b.get "build_dir")
  let preloads ← (← Argument.items (b.getMany "preloads")).mapM (pathIn workingDir)
  let settings ← Argument.textTable (Graph.blank none) (b.get "variables")
  return {
    source := source
    build := build
    preloads := preloads
    settings := settings
    scriptName := (b.given.get? "script_name").getD (.text "kiln.py")
    interpreter := interpreter }

def ofArguments (workingDir : Path) (interpreter : String) (args : Arguments TargetId) : Except Fault Setup :=
  match signature.bind? args with
  | some b => ofBound workingDir interpreter b
  | none => .error .typeMismatch

end BuildTree.Setup
