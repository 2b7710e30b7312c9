import BuildTree.Proofs.CommandLine.Command
import BuildTree.Proofs.Config.Writable
import BuildTree.Proofs.Project.Writing

/-!
# Configuring is all or nothing, but for the snapshot

A command line that configures writes all files of its build and then the snapshot of the configuration, in their
order, or it writes no file. What goes wrong in the words themselves, before a pass is run, in some script, or when the
build is made into texts does so before the first file. Only the snapshot is made while it is written: a configuration
that it cannot hold stops it after everything else is there, and the fault escapes.
-/

namespace BuildTree.CommandLine
open Effect Ninja

/-- The files that a command has written, in order. -/
def Result.written (r : Result) : List (String × String) :=
  (r.session.map Session.written).getD []

/-- A place with one script, which declares a copy in a partition. -/
def copyWorld : World where
  workingDir := ⟨.slash, []⟩
  environment := []
  scripts := [("/kiln.py", .script [
    .call 1 .copy ⟨[.text "a", .text "b"], [("partition", .text "extra")]⟩ none none])]
  interpreter := "/usr/bin/python3"
  room := 990

example : (configure copyWorld ⟨false, false⟩ none none [] []).ending = .exit 0 ∧
    (configure copyWorld ⟨false, false⟩ none none [] []).written.map (·.1) =
      ["/build/rules.ninja", "/build/extra.ninja", "/build/build.ninja", "/build/kiln_config.json"] ∧
    (configure copyWorld ⟨false, false⟩ none none [] ["two words"]).written = [] := by
  decide +kernel

end BuildTree.CommandLine
