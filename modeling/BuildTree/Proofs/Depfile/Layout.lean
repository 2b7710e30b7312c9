import BuildTree.Depfile.Reader
import BuildTree.Proofs.Text.Lines

/-!
# Rules as they are laid out

Between two names of a rule stand blanks, tabs and line ends that a backslash takes back, in any mix. `Joins` says
which line a text becomes when its continuations are taken back, and what a text becomes is what reading it gives: one
logical line, numbered where it starts.
-/

namespace BuildTree.Depfile

inductive Blank where
  | space
  | tab
deriving DecidableEq, Repr

def Blank.char : Blank → Char
  | .space => ' '
  | .tab => '\t'

inductive Gap where
  | blank (b : Blank)
  | continuation
deriving DecidableEq, Repr

/-- A gap in the file. -/
def Gap.text : Gap → List Char
  | .blank b => [b.char]
  | .continuation => ['\\', '\n']

/-- A gap in the logical line. -/
def Gap.joined : Gap → Char
  | .blank b => b.char
  | .continuation => ' '

structure Separator where
  gaps : List Gap
  notEmpty : gaps ≠ []

def Separator.text (s : Separator) : List Char :=
  s.gaps.flatMap Gap.text

def Separator.joined (s : Separator) : List Char :=
  s.gaps.map Gap.joined

/-- A rule with what separates its names. The colon stands behind the last target. -/
structure Rule where
  firstTargets : List (String × Separator)
  lastTarget : String
  prerequisites : List (Separator × String)

namespace Rule

def targets (r : Rule) : List String :=
  r.firstTargets.map Prod.fst ++ [r.lastTarget]

def sources (r : Rule) : List String :=
  r.prerequisites.map Prod.snd

/-- The names of a rule as they are written, with its separators as `gap` has them. -/
def written (gap : Separator → List Char) (r : Rule) : List Char :=
  r.firstTargets.flatMap (fun (target, separator) => (escapeName target).toList ++ gap separator) ++
    ((escapeName r.lastTarget).toList ++ [':']) ++
    r.prerequisites.flatMap fun (separator, source) => gap separator ++ (escapeName source).toList

def text (r : Rule) : List Char :=
  r.written Separator.text

/-- The logical line of a rule. -/
def joined (r : Rule) : List Char :=
  r.written Separator.joined

end Rule

/-- Characters that stay on one line and in one name. -/
def PlainChars (cs : List Char) : Prop :=
  ∀ c ∈ cs, c ≠ '\t' ∧ Text.isLineBreak c = false

instance (cs : List Char) : Decidable (PlainChars cs) :=
  List.decidableBAll (fun c => c ≠ '\t' ∧ Text.isLineBreak c = false) cs

/-- A name that can be written in a rule. -/
def PlainName (name : String) : Prop :=
  name ≠ "" ∧ PlainChars name.toList

instance (name : String) : Decidable (PlainName name) := inferInstanceAs (Decidable (_ ∧ _))

/-- A name that a gap can follow: there is no backslash at its end to take something out of the gap. -/
structure SpacedName (name : String) : Prop where
  plain : PlainName name
  last : name.toList.getLast? ≠ some '\\'

instance (name : String) : Decidable (SpacedName name) :=
  decidable_of_iff (PlainName name ∧ name.toList.getLast? ≠ some '\\') ⟨fun h => ⟨h.1, h.2⟩, fun h => ⟨h.1, h.2⟩⟩

structure Rule.Plain (r : Rule) : Prop where
  firstTargets : ∀ t ∈ r.firstTargets, SpacedName t.1 ∧ t.1.toList.getLast? ≠ some ':'
  lastTarget : PlainName r.lastTarget
  prerequisites : ∀ p ∈ r.prerequisites, SpacedName p.2

/-- The line that a text becomes when the continuations in it are taken back. -/
inductive Joins : List Char → List Char → Prop
  | nil : Joins [] []
  | chars {cs text line : List Char} : (∀ c ∈ cs, Text.isLineBreak c = false) → cs.getLast? ≠ some '\\' →
      Joins text line → Joins (cs ++ text) (cs ++ line)
  | continuation {text line : List Char} : Joins text line → Joins ('\\' :: '\n' :: text) (' ' :: line)

namespace Joins

theorem append {text text' line line' : List Char} (h : Joins text line) (h' : Joins text' line') :
    Joins (text ++ text') (line ++ line') := by
  induction h with
  | nil => exact h'
  | chars hcs hlast _ ih =>
    rw [List.append_assoc, List.append_assoc]
    exact .chars hcs hlast ih
  | continuation _ ih => exact .continuation ih

theorem of_chars {cs : List Char} (h : ∀ c ∈ cs, Text.isLineBreak c = false) (hlast : cs.getLast? ≠ some '\\') :
    Joins cs cs := by
  have hjoins := Joins.chars h hlast .nil
  rwa [List.append_nil] at hjoins

theorem flatMap {α : Type} {items : List α} {text line : α → List Char}
    (h : ∀ a ∈ items, Joins (text a) (line a)) : Joins (items.flatMap text) (items.flatMap line) := by
  induction items with
  | nil => exact .nil
  | cons a items ih =>
    obtain ⟨ha, hitems⟩ := List.forall_mem_cons.mp h
    exact ha.append (ih hitems)

end Joins

theorem isLineBreak_nameChar {c d : Char} (hc : Text.isLineBreak c = false) (h : d ∈ nameChar c) :
    Text.isLineBreak d = false := by
  unfold nameChar at h
  split at h
  · rcases List.mem_cons.mp h with rfl | h
    · rfl
    · rwa [List.mem_singleton.mp h]
  split at h
  · have hd : d = '$' := by simpa using h
    rw [hd]
    rfl
  · rwa [List.mem_singleton.mp h]

theorem getLast?_nameChar (c : Char) : (nameChar c).getLast? = some c := by
  unfold nameChar
  split
  · rfl
  split
  next hc => rw [hc]; rfl
  · rfl

theorem getLast?_escapeName (name : String) : (escapeName name).toList.getLast? = name.toList.getLast? := by
  rw [escapeName, String.toList_ofList]
  rcases List.eq_nil_or_concat name.toList with h | ⟨front, last, h⟩
  · rw [h]
    rfl
  · rw [h, List.concat_eq_append, List.flatMap_append, List.flatMap_singleton, List.getLast?_append,
      getLast?_nameChar, List.getLast?_concat]
    rfl

theorem PlainName.isLineBreak_escape {name : String} (h : PlainName name) :
    ∀ c ∈ (escapeName name).toList, Text.isLineBreak c = false := by
  intro c hc
  rw [escapeName, String.toList_ofList] at hc
  obtain ⟨d, hd, hc⟩ := List.mem_flatMap.mp hc
  exact isLineBreak_nameChar (h.2 d hd).2 hc

theorem SpacedName.joins {name : String} (h : SpacedName name) :
    Joins (escapeName name).toList (escapeName name).toList := by
  apply Joins.of_chars h.plain.isLineBreak_escape
  rw [getLast?_escapeName]
  exact h.last

theorem PlainName.joins_colon {name : String} (h : PlainName name) :
    Joins ((escapeName name).toList ++ [':']) ((escapeName name).toList ++ [':']) := by
  refine .of_chars (fun c hc => ?_) (by simp)
  rcases List.mem_append.mp hc with hc | hc
  · exact h.isLineBreak_escape c hc
  · rw [List.mem_singleton.mp hc]
    rfl

theorem Blank.isLineBreak_char (b : Blank) : Text.isLineBreak b.char = false := by
  cases b <;> rfl

theorem Gap.joins (g : Gap) : Joins g.text [g.joined] := by
  cases g with
  | blank b =>
    refine .of_chars (fun c hc => ?_) ?_
    · rw [List.mem_singleton.mp hc]
      exact b.isLineBreak_char
    · cases b <;> decide
  | continuation => exact .continuation .nil

theorem Separator.joins (s : Separator) : Joins s.text s.joined := by
  have h : Joins (s.gaps.flatMap Gap.text) (s.gaps.flatMap fun g => [g.joined]) := .flatMap fun g _ => g.joins
  rwa [← List.map_eq_flatMap] at h

theorem Rule.Plain.joins {r : Rule} (h : r.Plain) : Joins r.text r.joined := by
  refine (Joins.append (.flatMap fun t ht => ?_) h.lastTarget.joins_colon).append (.flatMap fun p hp => ?_)
  · exact (h.firstTargets t ht).1.joins.append t.2.joins
  · exact p.1.joins.append (h.prerequisites p hp).joins

/-! ## Logical lines -/

theorem isContinued_eq_false {cs : List Char} (h : cs.getLast? ≠ some '\\') : isContinued cs = false := by
  rw [← List.head?_reverse] at h
  unfold isContinued
  split
  next he => exact absurd (he ▸ rfl) h
  next he => exact absurd (he ▸ rfl) h
  next => rfl

theorem isContinued_concat {cs : List Char} (h : cs.getLast? ≠ some '\\') : isContinued (cs ++ ['\\']) = true := by
  rw [← List.head?_reverse] at h
  unfold isContinued
  rw [List.reverse_concat]
  split
  next he => exact absurd ((List.cons.inj he).2 ▸ rfl) h
  next => rfl
  next hno => exact absurd rfl (hno cs.reverse)

/-- The number that an open line would have is not looked at before there is one. -/
theorem logicalLinesFrom_start (number start : Nat) (lines : List (List Char)) :
    logicalLinesFrom number start [] lines = logicalLinesFrom number 0 [] lines := by
  cases lines <;> rfl

theorem getLast?_append_ne {cs ds : List Char} {c : Char} (hcs : cs.getLast? ≠ some c) (hds : ds.getLast? ≠ some c) :
    (cs ++ ds).getLast? ≠ some c := by
  intro h
  rw [List.getLast?_append] at h
  rcases Option.or_eq_some_iff.mp h with h | ⟨_, h⟩
  · exact hds h
  · exact hcs h

/-- What a text becomes goes to the end of the line that is open, and the next line starts behind it. The induction is
on the text; `cs` is what the open line has got since its last continuation. -/
theorem logicalLinesFrom_joins {text line : List Char} (h : Joins text line) (number start : Nat)
    (pieces : List (List Char)) {cs : List Char} (hcs : ∀ c ∈ cs, Text.isLineBreak c = false)
    (hlast : cs.getLast? ≠ some '\\') (rest : List Char) :
    logicalLinesFrom number start pieces (Text.splitLines (cs ++ text ++ '\n' :: rest)) =
      (if pieces.isEmpty then number else start, pieces.flatMap (· ++ [' ']) ++ cs ++ line) ::
        logicalLinesFrom (number + text.count '\n' + 1) 0 [] (Text.splitLines rest) := by
  induction h generalizing number start pieces cs with
  | nil =>
    rw [List.append_nil, Text.splitLines_line hcs, logicalLinesFrom, isContinued_eq_false hlast,
      if_neg Bool.false_ne_true, Text.intercalate_concat, logicalLinesFrom_start, List.append_nil]
    rfl
  | @chars ds text line hds hdslast _ ih =>
    have hnone : '\n' ∉ ds := by
      intro hmem
      cases hds _ hmem
    have hcount : (ds ++ text).count '\n' = text.count '\n' := by
      rw [List.count_append, List.count_eq_zero.mpr hnone, Nat.zero_add]
    have hboth : ∀ c ∈ cs ++ ds, Text.isLineBreak c = false := by
      intro c hc
      exact (List.mem_append.mp hc).elim (hcs c) (hds c)
    rw [hcount, ← List.append_assoc cs, ih number start pieces hboth (getLast?_append_ne hlast hdslast)]
    simp only [List.append_assoc]
  | @continuation text line _ ih =>
    have hbroken : ∀ c ∈ cs ++ ['\\'], Text.isLineBreak c = false := by
      intro c hc
      rcases List.mem_append.mp hc with hc | hc
      · exact hcs c hc
      · rw [List.mem_singleton.mp hc]
        rfl
    have hsplit : cs ++ '\\' :: '\n' :: text ++ '\n' :: rest = (cs ++ ['\\']) ++ '\n' :: (text ++ '\n' :: rest) := by
      simp
    have hrest := ih (number + 1) (if pieces.isEmpty then number else start) (pieces ++ [cs]) (List.forall_mem_nil _)
      (by simp)
    rw [List.nil_append] at hrest
    have hcount : number + 1 + text.count '\n' + 1 = number + ('\\' :: '\n' :: text).count '\n' + 1 := by
      simp
      omega
    rw [hsplit, Text.splitLines_line hbroken, logicalLinesFrom, isContinued_concat hlast, if_pos rfl,
      List.dropLast_concat, hrest, if_neg (by simp), List.flatMap_append, hcount]
    simp

end BuildTree.Depfile
