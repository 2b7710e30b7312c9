import BuildTree.Ninja.File
import Mathlib.Logic.Relation

/-!
# Variables of Ninja files

A value is read as characters and names. What a name stands for may have names in it again, and the text of a value is
what is left when no name is. There is such a text just if no chain of names that refer to each other is endless; a
name that refers to itself, directly or not, has none.
-/

namespace BuildTree.Ninja
open Relation

/-- A part of a value: a character, or a name in whose place something else is put. -/
inductive Piece where
  | char (c : Char)
  | reference (name : String)
deriving DecidableEq, Repr

/-- Whether a name that is not in braces goes on with a character. -/
def isNameChar (c : Char) : Bool :=
  c.isAlphanum || c = '_' || c = '-'

/-- The pieces of a value from some place on. Behind a dollar sign stand the characters of a name so far; a character
that no name begins with stands for itself there. -/
def piecesFrom : Option (List Char) → List Char → List Piece
  | none, [] => []
  | some [], [] => []
  | some name, [] => [.reference (String.ofList name)]
  | none, c :: cs => if c = '$' then piecesFrom (some []) cs else .char c :: piecesFrom none cs
  | some name, c :: cs =>
    if isNameChar c then piecesFrom (some (name ++ [c])) cs
    else if name = [] then .char c :: piecesFrom none cs
    else .reference (String.ofList name) :: if c = '$' then piecesFrom (some []) cs else .char c :: piecesFrom none cs

def pieces (value : String) : List Piece :=
  piecesFrom none value.toList

example : pieces "$a-$$b.d" =
    [.reference "a-", .char '$', .char 'b', .char '.', .char 'd'] := by decide +kernel

def Piece.name? : Piece → Option String
  | .char _ => none
  | .reference name => some name

def references (ps : List Piece) : List String :=
  ps.filterMap Piece.name?

/-- A text in which nothing is left to replace. -/
def literal (cs : List Char) : List Piece :=
  cs.map .char

theorem references_literal (cs : List Char) : references (literal cs) = [] := by
  induction cs with
  | nil => rfl
  | cons c cs ih => exact ih

/-- What each name stands for. -/
abbrev Variables :=
  String → List Piece

/-- The text of a value: each name in it is replaced by the text of what it stands for. -/
inductive Expands (vars : Variables) : List Piece → List Char → Prop where
  | nil : Expands vars [] []
  | char {ps : List Piece} {cs : List Char} (c : Char) (rest : Expands vars ps cs) : Expands vars (.char c :: ps) (c :: cs)
  | reference {name : String} {ps : List Piece} {value cs : List Char} (meaning : Expands vars (vars name) value)
      (rest : Expands vars ps cs) : Expands vars (.reference name :: ps) (value ++ cs)

/-- What a name stands for has another name in it. -/
def Refers (vars : Variables) (name other : String) : Prop :=
  other ∈ references (vars name)

/-- While a name is replaced it is met again. -/
def Circular (vars : Variables) (name : String) : Prop :=
  TransGen (Refers vars) name name

/-- Every chain of names that begins with this one ends. -/
def Grounded (vars : Variables) (name : String) : Prop :=
  Acc (fun other name => Refers vars name other) name

section Expansion
variable {vars : Variables} {ps : List Piece} {name : String}

theorem Grounded.not_circular (h : Grounded vars name) : ¬ Circular vars name := by
  -- induction over longer chains too, since a circle need not be one step
  have hacc := Acc.transGen h
  clear h
  induction hacc with
  | intro name _ ih => exact fun hself => ih name (transGen_swap.mpr hself) hself

theorem Expands.grounded {cs : List Char} (h : Expands vars ps cs) : ∀ name ∈ references ps, Grounded vars name := by
  induction h with
  | nil => exact List.forall_mem_nil _
  | char c _ ih => exact ih
  | reference _ _ meaning rest => exact List.forall_mem_cons.mpr ⟨.intro _ meaning, rest⟩

theorem Expands.of_references (h : ∀ name ∈ references ps, ∃ value, Expands vars (vars name) value) :
    ∃ cs, Expands vars ps cs := by
  induction ps with
  | nil => exact ⟨[], .nil⟩
  | cons p ps ih =>
    cases p with
    | char c =>
      obtain ⟨cs, hcs⟩ := ih h
      exact ⟨c :: cs, .char c hcs⟩
    | reference name =>
      obtain ⟨⟨value, hvalue⟩, hrest⟩ := List.forall_mem_cons.mp h
      obtain ⟨cs, hcs⟩ := ih hrest
      exact ⟨value ++ cs, .reference hvalue hcs⟩

theorem Grounded.expands (h : Grounded vars name) : ∃ value, Expands vars (vars name) value := by
  induction h with
  | intro name _ ih => exact Expands.of_references ih

/-- A value has a text just if all its names lead to an end. -/
theorem exists_expands_iff : (∃ cs, Expands vars ps cs) ↔ ∀ name ∈ references ps, Grounded vars name :=
  ⟨fun ⟨_, h⟩ => h.grounded, fun h => Expands.of_references fun name hname => (h name hname).expands⟩

theorem grounded_of_references (h : references (vars name) = []) : Grounded vars name :=
  .intro _ fun other hother => by
    rw [Refers, h] at hother
    cases hother

end Expansion
end BuildTree.Ninja
