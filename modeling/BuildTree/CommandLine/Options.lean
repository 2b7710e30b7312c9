import BuildTree.Text.CharClass

/-!
# Options and places on a command line

Words are told apart first: a word is an option if it starts with `-` and names one, is the beginning of the name of
exactly one, or could be a misspelt one; after `--` every word is for a place. Then options are taken in order, and
the words between them go to places. A place that takes many words takes those that stand together; words that no
place takes are left over.

This is how the parser of options that the program is run with behaves before release 3.11.9. From then on it keeps two
dashes that are attached to an option as its value, leaves over what stands behind a flag in one word and starts with an
unknown letter, and refuses letters that an equals sign attaches to a flag.
-/

namespace BuildTree.CommandLine

/-- Why parsing ends before there is anything to do. -/
inductive Stop where
  | usage
  | help
  | version
deriving DecidableEq, Repr

inductive Meaning where
  | flag
  | value
  | stop (s : Stop)
deriving DecidableEq, Repr

structure OptionSpec where
  key : String
  names : List String
  meaning : Meaning
deriving DecidableEq, Repr

/-- How many words a place takes: one, those that stand together, or one and everything behind it. -/
inductive Arity where
  | one
  | many
  | rest
deriving DecidableEq, Repr

structure Grammar where
  options : List OptionSpec
  places : List Arity

/-- A word that stands for an option: which one if it is known, its name, and what is attached to it. -/
structure OptionWord where
  spec : Option OptionSpec
  name : List Char
  attached : Option (List Char)

inductive Word where
  | plain (text : String)
  | dashes
  | option (text : String) (o : OptionWord)

def Word.text : Word → String
  | .plain text => text
  | .dashes => "--"
  | .option text _ => text

def Word.isOption : Word → Bool
  | .option _ _ => true
  | _ => false

namespace Grammar

def named (g : Grammar) : List (List Char × OptionSpec) :=
  g.options.flatMap fun spec => spec.names.map fun name => (name.toList, spec)

def option? (g : Grammar) (name : List Char) : Option OptionSpec :=
  g.named.lookup name

end Grammar

def splitAtEquals (word : List Char) : List Char × Option (List Char) :=
  match word.dropWhile (· ≠ '=') with
  | [] => (word, none)
  | _ :: after => (word.takeWhile (· ≠ '='), some after)

def abbreviated (g : Grammar) (word : List Char) : List OptionWord :=
  match word with
  | '-' :: '-' :: _ =>
    let (start, attached) := splitAtEquals word
    g.named.filterMap fun (name, spec) =>
      if start.isPrefixOf name then some ⟨some spec, name, attached⟩ else none
  | _ => g.named.filterMap fun (name, spec) =>
    if name = word.take 2 then some ⟨some spec, name, some (word.drop 2)⟩
    else if word.isPrefixOf name then some ⟨some spec, name, none⟩
    else none

/-- Whether all characters are digits, and there is one. -/
def areDigits (cs : List Char) : Bool :=
  !cs.isEmpty && cs.all Text.isDigitChar

def withoutLineBreak (word : List Char) : List Char :=
  if word.getLast? = some '\n' then word.dropLast else word

/-- Whether a word is a negative number, which is never an option. -/
def isNegativeNumber (word : List Char) : Bool :=
  match withoutLineBreak word with
  | '-' :: digits =>
    areDigits digits || match digits.dropWhile Text.isDigitChar with
      | '.' :: fraction => areDigits fraction
      | _ => false
  | _ => false

def attachedOption? (g : Grammar) (word : List Char) : Option OptionWord :=
  match splitAtEquals word with
  | (name, some attached) => (g.option? name).map fun spec => ⟨some spec, name, some attached⟩
  | _ => none

/-- The option that a word stands for, if it stands for one; an abbreviation of several is refused. -/
def optionOf? (g : Grammar) (word : List Char) : Except Stop (Option OptionWord) :=
  match word with
  | '-' :: _ :: _ =>
    match g.option? word, attachedOption? g word, abbreviated g word with
    | some spec, _, _ => .ok (some ⟨some spec, word, none⟩)
    | none, some o, _ => .ok (some o)
    | none, none, [o] => .ok (some o)
    | none, none, _ :: _ :: _ => .error .usage
    | none, none, [] =>
      if isNegativeNumber word || word.contains ' ' then .ok none else .ok (some ⟨none, word, none⟩)
  | _ => .ok none

def words (g : Grammar) : List String → Except Stop (List Word)
  | [] => .ok []
  | "--" :: rest => .ok (.dashes :: rest.map .plain)
  | text :: rest => do
    let word ← match ← optionOf? g text.toList with
      | some o => pure (Word.option text o)
      | none => pure (Word.plain text)
    return word :: (← words g rest)

/-- What has been taken from a command line: the options with their values where they have one, the words of the
places in order, the places still open, and what was left over. -/
structure Taken where
  options : List (String × Option String)
  filled : List (List String)
  openPlaces : List Arity
  leftOver : List String

namespace Taken

/-- Notes an option; some end the parsing. -/
def takeOption (t : Taken) (spec : OptionSpec) (value : Option String) : Except Stop Taken :=
  match spec.meaning with
  | .stop s => .error s
  | _ => .ok { t with options := t.options ++ [(spec.key, value)] }

def takeFlags (t : Taken) : List OptionSpec → Except Stop Taken
  | [] => .ok t
  | spec :: rest => do (← t.takeOption spec none).takeFlags rest

def leave (t : Taken) (text : String) : Taken :=
  { t with leftOver := t.leftOver ++ [text] }

end Taken

/-- The options that one word stands for: flags, then at most one that takes a value, with the value if it is
attached. -/
structure Cluster where
  flags : List OptionSpec
  valued : Option (OptionSpec × Option String)

namespace Cluster

def flag (spec : OptionSpec) : Cluster :=
  ⟨[spec], none⟩

def value (spec : OptionSpec) (attached : Option (List Char)) : Cluster :=
  ⟨[], some (spec, attached.map String.ofList)⟩

def behind (spec : OptionSpec) (c : Cluster) : Cluster :=
  { c with flags := spec :: c.flags }

end Cluster

/-- Whether a name has a single dash, so that further options can follow it in the same word. -/
def hasSingleDash (name : List Char) : Bool :=
  match name with
  | _ :: '-' :: _ => false
  | _ => true

/-- Reads what is attached to a flag as further options of one letter each; behind one that takes a value, the rest is
the value. -/
def clusterAfter (g : Grammar) : List Char → Except Stop Cluster
  | [] => .error .usage
  | c :: rest => match g.option? ['-', c] with
    | none => .error .usage
    | some spec =>
      if spec.meaning = .value then .ok (.value spec (if rest.isEmpty then none else some rest))
      else if rest.isEmpty then .ok (.flag spec)
      else (clusterAfter g rest).map (.behind spec)

def clusterOf (g : Grammar) (spec : OptionSpec) (o : OptionWord) : Except Stop Cluster :=
  if spec.meaning = .value then .ok (.value spec o.attached)
  else match o.attached with
    | none => .ok (.flag spec)
    | some attached =>
      if hasSingleDash o.name then (clusterAfter g attached).map (.behind spec) else .error .usage

/-- Removes the first `--` from the words of a place. -/
def withoutDashes (texts : List String) : List String :=
  texts.erase "--"

def untilOption (ws : List Word) : List Word :=
  ws.takeWhile (!·.isOption)

/-- The words that the next place takes; none if there is nothing for it. -/
def placeWords (arity : Arity) (ws : List Word) : Option (List Word) :=
  let dashes := ws.takeWhile fun
    | .dashes => true
    | _ => false
  match arity, ws.drop dashes.length with
  | .many, _ => some (untilOption ws)
  | _, [] => none
  | .one, w :: after =>
    if w.isOption then none
    else some (dashes ++ w :: after.takeWhile fun
      | .dashes => true
      | _ => false)
  | .rest, w :: after => if w.isOption then none else some (dashes ++ w :: after)

def placeTexts (arity : Arity) (ws : List Word) : List String :=
  match arity with
  | .rest => ws.map Word.text
  | _ => withoutDashes (ws.map Word.text)

/-- Fills places in order as far as there are words for them, and counts the words. -/
def fillPlaces : List Arity → List Word → List (List String) × List Arity × Nat
  | [], _ => ([], [], 0)
  | arity :: others, ws => match placeWords arity ws with
    | none => ([], arity :: others, 0)
    | some taken =>
      let (filled, left, count) := fillPlaces others (ws.drop taken.length)
      (placeTexts arity taken :: filled, left, taken.length + count)

/-- The state after filling places, and how many words that took. -/
def Taken.fill (t : Taken) (ws : List Word) : Taken × Nat :=
  let (filled, left, count) := fillPlaces t.openPlaces ws
  ({ t with filled := t.filled ++ filled, openPlaces := left }, count)

/-- The value that is attached to an option; two dashes are none. -/
def attachedValue (value : String) : Option String :=
  if value = "--" then none else some value

/-- Takes the options of a word for a known option, and how many words behind it are its value. -/
def takeCluster (t : Taken) (c : Cluster) (ws : List Word) : Except Stop (Taken × Nat) := do
  match c.valued with
  | none => return (← t.takeFlags c.flags, 0)
  | some (spec, some value) => return (← (← t.takeFlags c.flags).takeOption spec (attachedValue value), 0)
  | some (spec, none) => match ws with
    | .plain value :: _ => return (← (← t.takeFlags c.flags).takeOption spec (some value), 1)
    | _ => throw .usage

/-- Takes what is left when no option follows: words for places, and words that no place takes. -/
def Taken.takeRest (t : Taken) (ws : List Word) : Taken :=
  let (t, count) := t.fill ws
  (ws.drop count).foldl (fun t w => t.leave w.text) t

/-- Takes everything from words, after those at the front that have been taken already. -/
def takeWords (g : Grammar) : Taken → Nat → List Word → Except Stop Taken
  | t, _, [] => .ok (t.takeRest [])
  | t, skip + 1, _ :: rest => takeWords g t skip rest
  | t, 0, w :: rest =>
    if !(w :: rest).any Word.isOption then .ok (t.takeRest (w :: rest))
    else match w with
      | .option text o => match o.spec with
        | none => takeWords g (t.leave text) 0 rest
        | some spec => do
          let (t, count) ← takeCluster t (← clusterOf g spec o) rest
          takeWords g t count rest
      | w =>
        let (t, count) := t.fill (w :: rest)
        takeWords g (if count = 0 then t.leave w.text else t) (count - 1) rest

/-- Takes a command line apart; every place for one word has to be filled. -/
def take (g : Grammar) (args : List String) : Except Stop Taken := do
  let t ← takeWords g ⟨[], [], g.places, []⟩ 0 (← words g args)
  if t.openPlaces.contains .one then throw .usage
  return t

end BuildTree.CommandLine
