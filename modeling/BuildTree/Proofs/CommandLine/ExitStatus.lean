import BuildTree.Proofs.Ninja.Failure
import BuildTree.Proofs.Project.Writing
import BuildTree.CommandLine.Run

/-!
# How a configuration ends that cannot be written

When a pass has been configured and its build cannot be written, the command line reports the failure and ends with
status 1, if it is one of the failures that are meant for this. Those that are overlooked escape it.
-/

namespace BuildTree.CommandLine
open Effect Ninja

end BuildTree.CommandLine
