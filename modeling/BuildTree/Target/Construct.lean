import BuildTree.Target.Assemble

/-!
# Kinds of targets and their arguments

Each kind of target is made from arguments that fit its signature. Arguments that do not fit are refused before any
of them is read.
-/

namespace BuildTree.Target

inductive Kind where
  | plain
  | group
  | recipe
  | compilation
  | copy
  | pass
deriving DecidableEq, Repr

/-- The keywords that every kind but the configure pass takes. -/
def commonKeywords : List String :=
  ["implicit_inputs", "implicit_outputs", "order_only_inputs", "metadata", "partition", "defined_at"]

def Kind.signature : Kind → Signature
  | .plain => ⟨["outputs", "inputs"], ["outputs"], commonKeywords, false⟩
  | .group => ⟨["name", "dependencies"], ["name"], commonKeywords, false⟩
  | .recipe =>
    ⟨["outputs", "inputs"], ["outputs", "commands", "cwd"],
      ["commands", "cwd", "depfile", "env", "pool"] ++ commonKeywords, false⟩
  | .compilation =>
    ⟨["rule", "output", "inputs"], ["rule", "output", "inputs", "compiler", "root"],
      ["compiler", "flags", "root"] ++ commonKeywords, false⟩
  | .copy => ⟨["dest", "src"], ["dest", "src"], commonKeywords, false⟩
  | .pass => .places ["outputs", "command"]

/-- The location that an argument gives; anything that counts as given is a place. -/
def givenLocation (g : Graph) (value : Given) : Option Location :=
  match value with
  | .location l => some l
  | value => if value.isGiven then some (.named (g.text value)) else none

def boundParts (g : Graph) (b : Bound TargetId) (outputs inputs : Given) : TargetParts where
  outputs := outputs
  inputs := inputs
  implicitInputs := b.getMany "implicit_inputs"
  implicitOutputs := b.getMany "implicit_outputs"
  orderOnlyInputs := b.getMany "order_only_inputs"
  metadata := b.get "metadata"
  partition := b.get "partition"
  definedAt := givenLocation g (b.get "defined_at")

def constructBound (g : Graph) (kind : Kind) (b : Bound TargetId) : Except Fault Target :=
  match kind with
  | .plain => assemblePlain g (boundParts g b (b.get "outputs") (b.getMany "inputs"))
  | .group => assembleGroup g (boundParts g b (.list [b.get "name"]) (b.getMany "dependencies"))
  | .recipe => assembleRecipe g (boundParts g b (b.get "outputs") (b.getMany "inputs")) {
      commands := b.get "commands"
      cwd := b.get "cwd"
      depfile := b.get "depfile"
      env := b.get "env"
      pool := b.get "pool" }
  | .compilation => assembleCompilation g (boundParts g b (.list [b.get "output"]) (b.get "inputs")) {
      rule := b.get "rule"
      compiler := b.get "compiler"
      flags := b.getMany "flags"
      root := b.get "root" }
  | .copy => assembleCopy g (boundParts g b (.list [b.get "dest"]) (.list [b.get "src"]))
  | .pass => assemblePass g (b.get "outputs") (b.get "command")

def construct (g : Graph) (kind : Kind) (args : Arguments TargetId) : Except Fault Target :=
  match kind.signature.bind? args with
  | some b => constructBound g kind b
  | none => .error .typeMismatch

end BuildTree.Target
