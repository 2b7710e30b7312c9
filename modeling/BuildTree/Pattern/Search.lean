import BuildTree.Pattern.Letter
import BuildTree.Pattern.Width

/-!
# Searching for patterns

A part of a pattern is run on a place in a text together with what has to follow it. The first way to match that
lets the rest match is taken, so the order of alternatives and the greed of repetitions decide only what groups
hold. A repetition goes on, beyond its least count, only from a place it has not just started from; this bounds
the rounds by the length of the text.
-/

namespace BuildTree.Pattern

/-- A place in a text and what the groups hold there. -/
structure Place where
  position : Nat
  held : List (Nat × Nat × Nat)
deriving Inhabited

abbrev Follow :=
  Place → Option Place

def Anchor.holds (mode : Mode) (text : Array Char) (i : Nat) (a : Anchor) : Bool :=
  let word := fun (j : Nat) => match text[j]? with
    | some c => Category.word.has mode.asciiOnly c.toNat
    | none => false
  let edge := (decide (0 < i) && word (i - 1)) != word i
  match a with
  | .textStart => i == 0
  | .textEnd => i == text.size
  | .lineStart => i == 0 || (mode.multiLine && text[i - 1]? == some '\n')
  | .lineEnd =>
    i == text.size || (i + 1 == text.size && text[i]? == some '\n')
      || (mode.multiLine && text[i]? == some '\n')
  | .wordEdge => !text.isEmpty && edge
  | .insideWord => !text.isEmpty && !edge

/-- Goes over one character that passes a test. -/
def step (text : Array Char) (test : Char → Bool) (follow : Follow) (p : Place) : Option Place :=
  match text[p.position]? with
  | some c => if test c then follow { p with position := p.position + 1 } else none
  | none => none

/-- Goes over the text that a group holds. -/
def stepOver (mode : Mode) (text : Array Char) (start : Nat) : Nat → Follow → Place → Option Place
  | 0, follow, p => follow p
  | n + 1, follow, p =>
    match text[start]? with
    | some c => step text (mode.isHeld c) (stepOver mode text (start + 1) n follow) p
    | none => none

/-- Rounds of a repetition; `rounds` have been made, the last one beyond the least count from `last`. -/
def rounds (once : Follow → Follow) (least : Nat) (most : Option Nat) (lazily : Bool) (follow : Follow) :
    Nat → Nat → Option Nat → Place → Option Place
  | 0, _, _, p => follow p
  | fuel + 1, made, last, p =>
    if made < least then once (rounds once least most lazily follow fuel (made + 1) last) p
    else
      let again := fun (_ : Unit) =>
        if (match most with | some n => made < n | none => true) && last ≠ some p.position then
          once (rounds once least most lazily follow fuel (made + 1) (some p.position)) p
        else none
      if lazily then (follow p).orElse again
      else (again ()).orElse fun _ => follow p

mutual

def run (text : Array Char) : Node → Follow → Place → Option Place
  | .one mode negated n, follow, p => step text (fun c => mode.isOne n c != negated) follow p
  | .any mode, follow, p => step text (fun c => mode.dotAll || c ≠ '\n') follow p
  | .set mode negated items, follow, p =>
    step text (fun c => inSet mode items c != negated) follow p
  | .anchor mode a, follow, p => if a.holds mode text p.position then follow p else none
  | .group none body, follow, p => runAll text body follow p
  | .group (some index) body, follow, p =>
    runAll text body
      (fun q => follow { q with held := (index, p.position, q.position - p.position) :: q.held }) p
  | .atomic body, follow, p => (runAll text body some p).bind follow
  | .branch choices, follow, p => runAny text choices follow p
  | .repeat least most greed body, follow, p =>
    let fuel := least + text.size + 2
    match greed with
    | .greedy => rounds (runAll text body) least most false follow fuel 0 none p
    | .lazy => rounds (runAll text body) least most true follow fuel 0 none p
    | .possessive => (rounds (runAll text body) least most false some fuel 0 none p).bind follow
  | .reference mode index _, follow, p =>
    match p.held.lookup index with
    | some (start, length) => stepOver mode text start length follow p
    | none => none
  | .look ahead positive width body, follow, p =>
    let found :=
      if ahead then runAll text body some p
      else if p.position < width.least then none
      else runAll text body some { p with position := p.position - width.least }
    match found, positive with
    | some q, true => follow { p with held := q.held }
    | none, false => follow p
    | _, _ => none
  | .conditional index yes no, follow, p =>
    if (p.held.lookup index).isSome then runAll text yes follow p
    else match no with
      | some body => runAll text body follow p
      | none => follow p

def runAll (text : Array Char) : List Node → Follow → Place → Option Place
  | [], follow, p => follow p
  | node :: rest, follow, p => run text node (runAll text rest follow) p

def runAny (text : Array Char) : List (List Node) → Follow → Place → Option Place
  | [], _, _ => none
  | body :: rest, follow, p => (runAll text body follow p).orElse fun _ => runAny text rest follow p

end

mutual

def Node.firstSet? : Node → Option (Mode × Bool × List SetItem)
  | .set mode negated items => some (mode, negated, items)
  | .group _ body => firstSetOf? body
  | _ => none

def firstSetOf? : List Node → Option (Mode × Bool × List SetItem)
  | [] => none
  | node :: _ => node.firstSet?

end

namespace Expression

/-- Whether a match can start with a character. A pattern that takes at least one character and begins with a set
without cased members starts only in that set, whose classes are read here in the alphabet of the whole
pattern. -/
def startsWith (e : Expression) (c : Char) : Bool :=
  match firstSetOf? e.body with
  | some (mode, negated, items) =>
    if (rowWidth e.body).least = 0 || isCasedSet mode items then true
    else items.any (·.has e.mode.asciiOnly c.toNat) != negated
  | none => true

def startsAt (e : Expression) (text : Array Char) (start : Nat) : Bool :=
  match text[start]? with
  | some c => e.startsWith c
  | none => true

/-- Whether a pattern matches somewhere in a text. A match needs room for what it takes at least. -/
def matchesIn (e : Expression) (text : String) : Bool :=
  let chars := text.toList.toArray
  (List.range (chars.size + 1 - (rowWidth e.body).least)).any fun start =>
    e.startsAt chars start && (runAll chars e.body some ⟨start, []⟩).isSome

end Expression
end BuildTree.Pattern
