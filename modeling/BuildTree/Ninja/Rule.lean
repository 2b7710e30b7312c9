import BuildTree.Ninja.File

/-!
# Rules of the generated build

One rule for each kind of build statement. Their bindings refer to the bindings of the statement, to the variables
of the file and to what Ninja provides itself.
-/

namespace BuildTree.Ninja

/-- The rules in the order they are written, with their bindings. -/
def rules : List (String × List Binding) := [
  ("command", [
    ⟨"command", "cd $cwd && $env $cmd"⟩,
    ⟨"depfile", "$depfile"⟩,
    ⟨"description", "$desc"⟩]),
  ("compile", [
    ⟨"command", "cd $root && $compiler $flags -MD -MF $out.d -c $in -o $out && $rewrite_depfile $root $out.d"⟩,
    ⟨"depfile", "$out.d"⟩,
    ⟨"deps", "gcc"⟩,
    ⟨"description", "CC $out"⟩]),
  ("link", [
    ⟨"command", "cd $root && $compiler $in -o $out $flags"⟩,
    ⟨"description", "LINK $out"⟩]),
  ("copy", [
    ⟨"command", "$copy $in $out"⟩,
    ⟨"description", "COPY $out"⟩]),
  ("reconfigure", [
    ⟨"command", "$reconfigure_command"⟩,
    ⟨"description", "Reconfiguring"⟩,
    ⟨"generator", "1"⟩]),
  ("clean", [
    ⟨"command", "ninja -t clean"⟩,
    ⟨"description", "Cleaning"⟩]),
  ("help", [
    ⟨"command", "$help_command"⟩,
    ⟨"description", "Listing goals"⟩])]

/-- The rule of statements that run nothing; it needs no definition. -/
def phony : String :=
  "phony"

/-- Whether a statement may name a rule. -/
def isKnownRule (name : String) : Bool :=
  name == phony || rules.any (·.1 == name)

end BuildTree.Ninja
