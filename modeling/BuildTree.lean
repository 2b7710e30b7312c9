import BuildTree.Config.File
import BuildTree.Disk.Basic
import BuildTree.Fault.Construct
import BuildTree.Main
import BuildTree.Project.Setup
import BuildTree.Target.Construct
import BuildTree.Proofs.Graph.Change
import BuildTree.Proofs.Graph.Growth
import BuildTree.Proofs.CommandLine.Command
import BuildTree.Proofs.Graph.Claims
import BuildTree.Proofs.Graph.Request
import BuildTree.Proofs.Ninja.Emission
import BuildTree.Proofs.Ninja.LastValue
import BuildTree.Proofs.Project.Declare
import BuildTree.Proofs.Project.Move
import BuildTree.Proofs.Project.Repeat
import BuildTree.Proofs.Graph.AnyOrder
import BuildTree.Proofs.Ninja.Producers
import BuildTree.Proofs.Depfile.Layout
import BuildTree.Proofs.Depfile.Reading
import BuildTree.Proofs.Depfile.Absolute
import BuildTree.Proofs.Ninja.Files
import BuildTree.Proofs.Text.ShellCommands
import BuildTree.Proofs.Ninja.Arguments
import BuildTree.Proofs.Ninja.Expansion
import BuildTree.Proofs.Ninja.OneLine
import BuildTree.Proofs.CommandLine.ExitStatus
import BuildTree.Proofs.CommandLine.AllOrNothing
import BuildTree.Proofs.Project.Failures
import BuildTree.Proofs.Project.Reconfigure
import BuildTree.Proofs.Project.Scopes
import BuildTree.Proofs.Graph.Refusal
import BuildTree.Proofs.Graph.TagHistory
import BuildTree.Proofs.Project.Declaration
import BuildTree.Proofs.Project.ExplicitInputs
import BuildTree.Proofs.Project.Trees
import BuildTree.Proofs.Config.Snapshot
import BuildTree.Proofs.Config.Batch
import BuildTree.Proofs.CommandLine.Depfile
import BuildTree.Proofs.Json.Document
import BuildTree.Proofs.Project.OneFile
import BuildTree.Proofs.Ninja.Closed
import BuildTree.Proofs.Project.Absolute
import BuildTree.Proofs.Config.Settings
import BuildTree.Proofs.Graph.Lookup
import BuildTree.Proofs.Graph.TagContents
import BuildTree.Proofs.Project.OneName
