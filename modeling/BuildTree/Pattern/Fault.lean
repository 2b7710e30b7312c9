import BuildTree.Pattern.Basic
import BuildTree.Text.Integer
import BuildTree.Text.Quoted

/-!
# Faults in pattern texts

What a pattern text can have wrong, and the words for it. Most faults point to a position in the text.
-/

namespace BuildTree.Pattern

inductive Cause where
  | danglingEscape
  | badEscape (escape : String)
  | incompleteEscape (escape : String)
  | octalTooLarge (escape : String)
  | missingBrace
  | missing (what : String)
  | unterminatedName (terminator : Char)
  | unknownCharacterName (name : String)
  | badGroupName (name : String)
  | unknownGroupName (name : String)
  | badGroupNumber
  | openGroup
  | groupInLookBehind
  | invalidReference (index : Nat)
  | redefinedGroup (name : String) (now before : Nat)
  | unterminatedSet
  | badRange (low high : String)
  | nothingToRepeat
  | multipleRepeat
  | reversedCounts
  | unexpectedEnd
  | unknownExtension (text : String)
  | unterminatedComment
  | unterminatedGroup
  | tooManyBranches
  | lateGlobalFlags
  | badFlags (what : String)
  | unknownFlag
  | unbalancedParenthesis
  | variableLookBehind
  | repeatInTemplate (greed : Greed)
deriving DecidableEq, Repr

def Greed.word : Greed → String
  | .greedy => "MAX_REPEAT"
  | .lazy => "MIN_REPEAT"
  | .possessive => "POSSESSIVE_REPEAT"

def Cause.message : Cause → String
  | .danglingEscape => "bad escape (end of pattern)"
  | .badEscape escape => "bad escape " ++ escape
  | .incompleteEscape escape => "incomplete escape " ++ escape
  | .octalTooLarge escape => "octal escape value " ++ escape ++ " outside of range 0-0o377"
  | .missingBrace => "missing \x7b"
  | .missing what => "missing " ++ what
  | .unterminatedName terminator => "missing " ++ String.ofList [terminator] ++ ", unterminated name"
  | .unknownCharacterName name => "undefined character name " ++ Text.quoted name
  | .badGroupName name => "bad character in group name " ++ Text.quoted name
  | .unknownGroupName name => "unknown group name " ++ Text.quoted name
  | .badGroupNumber => "bad group number"
  | .openGroup => "cannot refer to an open group"
  | .groupInLookBehind => "cannot refer to group defined in the same lookbehind subpattern"
  | .invalidReference index => "invalid group reference " ++ toString index
  | .redefinedGroup name now before =>
    "redefinition of group name " ++ Text.quoted name ++ " as group " ++ toString now ++ "; was group "
      ++ toString before
  | .unterminatedSet => "unterminated character set"
  | .badRange low high => "bad character range " ++ low ++ "-" ++ high
  | .nothingToRepeat => "nothing to repeat"
  | .multipleRepeat => "multiple repeat"
  | .reversedCounts => "min repeat greater than max repeat"
  | .unexpectedEnd => "unexpected end of pattern"
  | .unknownExtension text => "unknown extension ?" ++ text
  | .unterminatedComment => "missing ), unterminated comment"
  | .unterminatedGroup => "missing ), unterminated subpattern"
  | .tooManyBranches => "conditional backref with more than two branches"
  | .lateGlobalFlags => "global flags not at the start of the expression"
  | .badFlags what => "bad inline flags: " ++ what
  | .unknownFlag => "unknown flag"
  | .unbalancedParenthesis => "unbalanced parenthesis"
  | .variableLookBehind => "look-behind requires fixed-width pattern"
  | .repeatInTemplate greed => "internal: unsupported template operator " ++ greed.word

/-- Why a text is no pattern. -/
inductive Fault where
  | at (cause : Cause) (position : Nat)
  | whole (cause : Cause)
  | tooManyRepeats
  | tooManyDigits (count : Nat)
  | mixedAlphabets
deriving DecidableEq, Repr

def lineAndColumn (text : List Char) (position : Nat) : Option (Nat × Nat) :=
  if text.contains '\n' then
    let front := text.take position
    some (front.count '\n' + 1, (front.reverse.takeWhile (· ≠ '\n')).length + 1)
  else none

namespace Fault

def message (text : String) : Fault → String
  | .at cause position =>
    cause.message ++ " at position " ++ toString position ++
      match lineAndColumn text.toList position with
      | some (line, column) => " (line " ++ toString line ++ ", column " ++ toString column ++ ")"
      | none => ""
  | .whole cause => cause.message
  | .tooManyRepeats => "the repetition number is too large"
  | .tooManyDigits count => Text.tooManyDigits count
  | .mixedAlphabets => "ASCII and UNICODE flags are incompatible"

/-- Whether a fault is one of the grammar of patterns. -/
def isGrammatical : Fault → Bool
  | .at _ _ => true
  | .whole _ => true
  | _ => false

def kind : Fault → String
  | .at _ _ => "error"
  | .whole _ => "error"
  | .tooManyRepeats => "OverflowError"
  | .tooManyDigits _ => "ValueError"
  | .mixedAlphabets => "ValueError"

end Fault
end BuildTree.Pattern
