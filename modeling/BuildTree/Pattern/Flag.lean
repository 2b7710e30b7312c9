import BuildTree.Pattern.Token
import BuildTree.Text.Identifier

/-!
# Flags in patterns

Flags after `(?` change the mode, for the whole pattern or for the group that they open. Three flags choose an
alphabet, and only one of them can be chosen at a place.
-/

namespace BuildTree.Pattern

def isFlag (token : List Char) : Bool :=
  match token with
  | [c] => "iLmsxatu".toList.contains c
  | _ => false

/-- The flags that choose an alphabet. -/
def isAlphabetFlag (c : Char) : Bool :=
  c == 'a' || c == 'u' || c == 'L'

/-- Whether a token is a letter. -/
def isAlphabetic : List Char → Bool
  | [c] => Text.isLetterChar c
  | _ => false

def Mode.turnOn (mode : Mode) (flags : List Char) : Mode where
  ignoreCase := mode.ignoreCase || flags.contains 'i'
  asciiOnly := flags.contains 'a' || (mode.asciiOnly && !flags.contains 'u')
  multiLine := mode.multiLine || flags.contains 'm'
  dotAll := mode.dotAll || flags.contains 's'
  spaced := mode.spaced || flags.contains 'x'

def Mode.turnOff (mode : Mode) (flags : List Char) : Mode where
  ignoreCase := mode.ignoreCase && !flags.contains 'i'
  asciiOnly := mode.asciiOnly
  multiLine := mode.multiLine && !flags.contains 'm'
  dotAll := mode.dotAll && !flags.contains 's'
  spaced := mode.spaced && !flags.contains 'x'

/-- Refuses a token where a flag should be; letters are unknown flags, and for others `wanted` is missing. -/
def refuseFlag {α : Type} (wanted : String) (token : List Char) : Reader α :=
  refuseBack (if isAlphabetic token then .unknownFlag else .missing wanted) token.length

/-- Flags to turn on, from the first one; gives what ended them. -/
def flagsOn (flags : List Char) (c : Char) : Nat → Reader (List Char × Char)
  | 0 => refuse .unexpectedEnd
  | fuel + 1 => do
    if c = 'L' then refuse (.badFlags "cannot use 'L' flag with a str pattern")
    let flags := c :: flags
    if isAlphabetFlag c && flags.any (fun d => isAlphabetFlag d && d ≠ c) then
      refuse (.badFlags "flags 'a', 'u' and 'L' are incompatible")
    match ← take with
    | none => refuse (.missing "-, : or )")
    | some token =>
      if token = [')'] || token = ['-'] || token = [':'] then return (flags, token.headD ')')
      else if isFlag token then flagsOn flags (token.headD 'i') fuel
      else refuseFlag "-, : or )" token

/-- Flags to turn off, from the first one, up to the colon. -/
def flagsOff (flags : List Char) (c : Char) : Nat → Reader (List Char)
  | 0 => refuse .unexpectedEnd
  | fuel + 1 => do
    if isAlphabetFlag c then refuse (.badFlags "cannot turn off flags 'a', 'u' and 'L'")
    let flags := c :: flags
    match ← take with
    | none => refuse (.missing ":")
    | some token =>
      if token = [':'] then return flags
      else if isFlag token then flagsOff flags (token.headD 'i') fuel
      else refuseFlag ":" token

/-- The state after flags for the whole pattern. -/
def ReadState.turnOn (s : ReadState) (flags : List Char) : ReadState :=
  { s with
    mode := { s.mode.turnOn flags with asciiOnly := s.mode.asciiOnly || flags.contains 'a' }
    namesUnicode := s.namesUnicode || flags.contains 'u'
    isTemplate := s.isTemplate || flags.contains 't' }

/-- Flags for a group to turn on and off, or none if they were for the whole pattern. -/
def readFlags (c : Char) (fuel : Nat) : Reader (Option (List Char × List Char)) := do
  let (on, ending) ← if c = '-' then pure ([], '-') else flagsOn [] c fuel
  if ending = ')' then
    modify (·.turnOn on)
    return none
  else
    if on.contains 't' then refuseBack (.badFlags "cannot turn on global flag") 1
    let off ← if ending ≠ '-' then pure [] else do
      match ← take with
      | none => refuse (.missing "flag")
      | some token =>
        if isFlag token then flagsOff [] (token.headD 'i') fuel else refuseFlag "flag" token
    if off.contains 't' then refuseBack (.badFlags "cannot turn off global flag") 1
    if on.any off.contains then refuseBack (.badFlags "flag turned on and off") 1
    return some (on, off)

end BuildTree.Pattern
