import BuildTree.Proofs.Ninja.Files
import BuildTree.Proofs.Ninja.Variables

/-!
# The bindings of rules

For each statement Ninja replaces the names in the bindings of its rule. A name is looked up among the bindings of the
statement, then among those of the rule, then among the variables of the files. All bindings of all rules have a text,
but for one: the rule for commands passes on the name of a depfile under that very name, and so refers to itself in the
statement of a target that has no depfile to bind it to.
-/

namespace BuildTree.Ninja
open Effect BuildTree.Graph

/-- What a key is bound to; of several bindings the last one counts. -/
def valueOf (bindings : List Binding) (key : String) : Option String :=
  (bindings.reverse.find? (·.key = key)).map (·.value)

/-- A value outside of a rule is replaced where it stands, by what its names stand for there. -/
def settle (known : String → List Char) (value : String) : List Char :=
  (pieces value).flatMap fun
    | .char c => [c]
    | .reference name => known name

/-- The variables that items assign. What is assigned nowhere is empty. -/
def assigned (items : List Item) : String → List Char :=
  items.foldl (fun known item => match item with
    | .assign b => fun name => if name = b.key then settle known b.value else known name
    | _ => known) fun _ => []

/-- The bindings of a rule where it is defined. -/
def definition (items : List Item) (rule : String) : Option (List Binding) :=
  items.findSome? fun
    | .rule name bindings => if name = rule then some bindings else none
    | _ => none

/-- What names stand for in these bindings of a rule, for a statement for whose inputs and outputs Ninja puts in these
texts. The variables of all files are shared, since the root file includes the others. -/
def ruleVariables (files : Table (List Item)) (ins outs : List Char) (bindings : List Binding) (s : Statement) :
    Variables := fun name =>
  let known := assigned (files.flatMap (·.2))
  if name = "in" then literal ins
  else if name = "out" then literal outs
  else match valueOf s.bindings name with
    | some value => literal (settle known (escapeValue value))
    | none => match valueOf bindings name with
      | some value => pieces value
      | none => literal (known name)

/-- Targets that run commands, or compile by the rule for commands, and leave out the depfile. -/
def WithoutDepfile (g : Graph) (t : Target) : Prop :=
  match t.action with
  | .run r => r.depfile.getD "" = ""
  | .compile c => g.text c.rule = "command"
  | _ => False

section Rules

theorem valueOf_eq_none_iff (bindings : List Binding) (key : String) :
    valueOf bindings key = none ↔ ∀ b ∈ bindings, b.key ≠ key := by
  simp [valueOf]

theorem definition_append (items others : List Item) (rule : String) :
    definition (items ++ others) rule = (definition items rule).or (definition others rule) :=
  List.findSome?_append

/-- Among items that define several rules each of them is found by its name. -/
theorem definition_flatMap (write : String × List Binding → List Item)
    (hwrite : ∀ r, write r = [.rule r.1 r.2, .blank]) (rs : List (String × List Binding)) (rule : String) :
    definition (rs.flatMap write) rule = (rs.find? (·.1 = rule)).map (·.2) := by
  induction rs with
  | nil => rfl
  | cons r rs ih =>
    rw [List.flatMap_cons, definition_append, ih, hwrite]
    by_cases hname : r.1 = rule <;> simp [definition, hname]

theorem definition_rulesLayout (g : Graph) (interpreter rule : String) :
    definition (rulesLayout g interpreter) rule = (rules.find? (·.1 = rule)).map (·.2) := by
  rw [rulesLayout, rulesFileItems, definition_append, definition_append, definition_flatMap _ fun _ => rfl]
  refine congrArg (Option.or · _) (Option.or_eq_none_iff.mpr ⟨rfl, List.findSome?_eq_none_iff.mpr fun i hi => ?_⟩)
  obtain ⟨pool, _, hi⟩ := List.mem_flatMap.mp hi
  rcases List.mem_cons.mp hi with rfl | hi
  · rfl
  · rw [List.mem_singleton.mp hi]

theorem find?_rules : ∀ r ∈ rules, rules.find? (·.1 = r.1) = some r := by
  decide

/-- Within a rule each key is bound once, and not to what Ninja puts in. -/
theorem valueOf_rules : ∀ r ∈ rules, ∀ b ∈ r.2, valueOf r.2 b.key = some b.value ∧ b.key ≠ "in" ∧ b.key ≠ "out" := by
  decide

/-- No binding of a rule refers to another one, and only one refers to itself. -/
theorem references_rules : ∀ r ∈ rules, ∀ b ∈ r.2, ∀ name ∈ references (pieces b.value),
    name = "in" ∨ name = "out" ∨ valueOf r.2 name = none ∨
      (r.1 = "command" ∧ b.key = "depfile" ∧ name = "depfile") := by
  decide +kernel

theorem depfile_rules : ∀ r ∈ rules, r.1 = "command" → ∀ b ∈ r.2, b.key = "depfile" →
    references (pieces b.value) = ["depfile"] := by
  decide +kernel

theorem mem_rules_of_known {rule : String} (h : isKnownRule rule = true) (hphony : rule ≠ phony) :
    ∃ bindings, (rule, bindings) ∈ rules := by
  rcases Bool.or_eq_true_iff.mp h with h | h
  · exact absurd (eq_of_beq h) hphony
  · obtain ⟨⟨name, bindings⟩, hmem, hname⟩ := List.any_eq_true.mp h
    exact ⟨bindings, eq_of_beq hname ▸ hmem⟩

end Rules

section Lookup
variable {files : Table (List Item)} {ins outs : List Char} {bindings : List Binding} {s : Statement} {name : String}

/-- What a statement binds, what Ninja puts in and what the rule does not bind are plain text. -/
theorem grounded_of_plain
    (h : name = "in" ∨ name = "out" ∨ valueOf bindings name = none ∨ valueOf s.bindings name ≠ none) :
    Grounded (ruleVariables files ins outs bindings s) name := by
  refine grounded_of_references ?_
  unfold ruleVariables
  dsimp only
  by_cases hin : name = "in"
  · rw [if_pos hin, references_literal]
  rw [if_neg hin]
  by_cases hout : name = "out"
  · rw [if_pos hout, references_literal]
  rw [if_neg hout]
  cases hown : valueOf s.bindings name with
  | some value => exact references_literal _
  | none =>
    have hrule : valueOf bindings name = none := by simpa [hin, hout, hown] using h
    rw [hrule]
    exact references_literal _

/-- What only the rule binds is what the rule says. -/
theorem ruleVariables_of_rule {value : String} (hin : name ≠ "in") (hout : name ≠ "out")
    (hown : valueOf s.bindings name = none) (hrule : valueOf bindings name = some value) :
    ruleVariables files ins outs bindings s name = pieces value := by
  simp only [ruleVariables, hin, hout, hown, hrule, if_false]

/-- A binding of a rule is circular if it is the one for the depfile and the statement has none; all others have a
text. -/
theorem rule_binding_expands_iff {rule : String} (hrule : (rule, bindings) ∈ rules) {b : Binding} (hb : b ∈ bindings) :
    ((∃ text, Expands (ruleVariables files ins outs bindings s) (pieces b.value) text) ↔
      ¬ Circular (ruleVariables files ins outs bindings s) b.key) ∧
    (Circular (ruleVariables files ins outs bindings s) b.key ↔
      b.key = "depfile" ∧ rule = "command" ∧ valueOf s.bindings "depfile" = none) := by
  obtain ⟨hvalue, hin, hout⟩ := valueOf_rules _ hrule b hb
  -- either the name is met again in its own meaning, or all names in the binding are plain text
  by_cases hlack : b.key = "depfile" ∧ rule = "command" ∧ valueOf s.bindings "depfile" = none
  · obtain ⟨hkey, hcommand, hown⟩ := id hlack
    have href := depfile_rules _ hrule hcommand b hb hkey
    have hcircular : Circular (ruleVariables files ins outs bindings s) b.key := by
      refine .single ?_
      rw [Refers, ruleVariables_of_rule hin hout (hkey ▸ hown) hvalue, href, hkey]
      exact List.mem_singleton_self _
    refine ⟨⟨fun hexpands => ?_, fun h => absurd hcircular h⟩, iff_of_true hcircular hlack⟩
    have hground := exists_expands_iff.mp hexpands b.key (by rw [href, hkey]; exact List.mem_singleton_self _)
    exact hground.not_circular
  · have hground : ∀ name ∈ references (pieces b.value),
        Grounded (ruleVariables files ins outs bindings s) name := by
      intro name hname
      refine grounded_of_plain ?_
      rcases references_rules _ hrule b hb name hname with h | h | h | ⟨hcommand, hkey, rfl⟩
      · exact .inl h
      · exact .inr (.inl h)
      · exact .inr (.inr (.inl h))
      · exact .inr (.inr (.inr fun hown => hlack ⟨hkey, hcommand, hown⟩))
    have hself : Grounded (ruleVariables files ins outs bindings s) b.key := by
      by_cases hown : valueOf s.bindings b.key = none
      · refine .intro _ fun name hname => hground name ?_
        rwa [Refers, ruleVariables_of_rule hin hout hown hvalue] at hname
      · exact grounded_of_plain (.inr (.inr (.inr hown)))
    exact ⟨iff_of_true (exists_expands_iff.mpr hground) hself.not_circular, iff_of_false hself.not_circular hlack⟩

end Lookup

section Statements
variable {g : Graph} {interpreter : String}

theorem known_of_origin {s : Statement} (h : Origin g s) : isKnownRule s.rule = true := by
  cases h with
  | target _ stated => exact (targetStatement_eq_ok stated).2.1
  | pass _ stated _ =>
    rw [stated]
    rfl
  | clean stated =>
    rw [stated]
    rfl
  | help stated _ =>
    rw [stated]
    rfl

theorem withoutDepfile_iff (t : Target) :
    WithoutDepfile g t ↔ (declared g t).rule = "command" ∧ valueOf (targetBindings g t) "depfile" = none := by
  rw [valueOf_eq_none_iff]
  cases haction : t.action with
  | run r =>
    have hmem := mem_targetBindings_run (g := g) haction
    have hrule : (declared g t).rule = "command" := by
      rw [declared, haction]
      rfl
    rw [WithoutDepfile, haction, and_iff_right hrule]
    show r.depfile.getD "" = "" ↔ _
    constructor
    · intro hnone b hb hkey
      rcases (hmem b).mp hb with rfl | ⟨_, rfl⟩ | rfl | ⟨file, hfile, hne, rfl⟩ | ⟨_, rfl⟩ | rfl
      all_goals simp_all
    · intro hnone
      cases hfile : r.depfile with
      | none => rfl
      | some file =>
        rw [Option.getD_some]
        by_cases hempty : file = ""
        · exact hempty
        · have hbound := (hmem ⟨"depfile", file⟩).mpr (.inr (.inr (.inr (.inl ⟨file, hfile, hempty, rfl⟩))))
          exact absurd rfl (hnone _ hbound)
  | compile c => simp [WithoutDepfile, declared, targetBindings, haction, Action.rule]
  | _ => simp [WithoutDepfile, declared, targetBindings, haction, Action.rule]

/-- The statements that leave out a depfile are those of the targets that do. -/
theorem lacks_depfile_iff {s : Statement} (h : Origin g s) :
    (s.rule = "command" ∧ valueOf s.bindings "depfile" = none) ↔
      ∃ t ∈ g.targets, targetStatement g (g.node t) = .ok s ∧ WithoutDepfile g (g.node t) := by
  constructor
  · intro hlack
    cases h with
    | @target t registered stated =>
      refine ⟨t, registered, stated, ?_⟩
      rw [(targetStatement_eq_ok stated).1] at hlack
      exact (withoutDepfile_iff _).mpr hlack
    | pass _ stated _ =>
      rw [stated] at hlack
      exact absurd hlack.1 (by simp [passStatement])
    | clean stated =>
      rw [stated] at hlack
      exact absurd hlack.1 (by decide)
    | help stated _ =>
      rw [stated] at hlack
      exact absurd hlack.1 (by simp [helpStatement])
  · rintro ⟨t, _, stated, hwithout⟩
    rw [(targetStatement_eq_ok stated).1]
    exact (withoutDepfile_iff _).mp hwithout

/-- In the files that are written every binding of a rule has a text for each statement that names the rule, and none
refers to itself, except for the depfile in the statements of targets that leave it out. -/
theorem rule_expands_iff {texts : Table String} (h : emit g interpreter = .ok texts) :
    ∃ files, emitItems g interpreter = .ok files ∧ texts = files.map (fun (name, items) => (name, render items)) ∧
      ∀ entry ∈ files, ∀ s, Item.build s ∈ entry.2 → s.rule ≠ phony →
        ∃ bindings, (files.get? rulesFile).bind (definition · s.rule) = some bindings ∧
          ∀ (ins outs : List Char), ∀ b ∈ bindings,
            ((∃ text, Expands (ruleVariables files ins outs bindings s) (pieces b.value) text) ↔
              ¬ Circular (ruleVariables files ins outs bindings s) b.key) ∧
            (Circular (ruleVariables files ins outs bindings s) b.key ↔
              b.key = "depfile" ∧
                ∃ t ∈ g.targets, targetStatement g (g.node t) = .ok s ∧ WithoutDepfile g (g.node t)) := by
  obtain ⟨files, hfiles, rfl⟩ := items_of_emit h
  refine ⟨files, hfiles, rfl, fun entry hentry s hs hphony => ?_⟩
  have horigin := ((originated_of_mem hfiles hentry).split hs).1
  obtain ⟨bindings, hrule⟩ := mem_rules_of_known (known_of_origin horigin) hphony
  refine ⟨bindings, ?_, fun ins outs b hb => ?_⟩
  · rw [get?_rulesFile hfiles, Option.bind_some, definition_rulesLayout, find?_rules _ hrule]
    rfl
  · rw [← lacks_depfile_iff horigin]
    exact rule_binding_expands_iff hrule hb

end Statements

/-- A command that may say what it has read. -/
def listing (depfile : Option String) : Recipe where
  commands := [.arguments ["ls", "/s"]]
  cwd := "/b"
  depfile := depfile
  env := []
  pool := .null

/-- A graph with a command that leaves out the depfile and one that does not. -/
def listings : Graph :=
  (start none).run [
    .make { Target.emptyGroup "/b/plain" none with action := .run (listing none) }, .register ⟨1⟩,
    .make { Target.emptyGroup "/b/noted" none with action := .run (listing (some "/b/noted.d")) }, .register ⟨2⟩]

def plainListing : Statement :=
  declared listings (listings.node ⟨1⟩)

def notedListing : Statement :=
  declared listings (listings.node ⟨2⟩)

def commandBindings : List Binding :=
  [⟨"command", "cd $cwd && $env $cmd"⟩, ⟨"depfile", "$depfile"⟩, ⟨"description", "$desc"⟩]

theorem emitItems_listings :
    ∃ files, emitItems listings "/usr/bin/python3" = .ok files ∧
      (files.get? rulesFile).bind (definition · "command") = some commandBindings ∧
      ∃ entry ∈ files, .build plainListing ∈ entry.2 ∧ .build notedListing ∈ entry.2 := by
  have h : ∃ files ∈ (emitItems listings "/usr/bin/python3").toOption,
      (files.get? rulesFile).bind (definition · "command") = some commandBindings ∧
      ∃ entry ∈ files, .build plainListing ∈ entry.2 ∧ .build notedListing ∈ entry.2 := by
    decide +kernel
  obtain ⟨files, hfiles, hrest⟩ := h
  exact ⟨files, eq_ok_of_toOption hfiles, hrest⟩

theorem rule_expands_iff_listings :
    ∃ files, emitItems listings "/usr/bin/python3" = .ok files ∧
      (∀ ins outs, Circular (ruleVariables files ins outs commandBindings plainListing) "depfile") ∧
      ∀ ins outs, ∀ b ∈ commandBindings,
        ∃ text, Expands (ruleVariables files ins outs commandBindings notedListing) (pieces b.value) text := by
  obtain ⟨files, hfiles, hdefinition, entry, hentry, hplain, hnoted⟩ := emitItems_listings
  have hemit : emit listings "/usr/bin/python3" = .ok (files.map fun (name, items) => (name, render items)) := by
    rw [emit, hfiles]
    rfl
  obtain ⟨_, hfiles', _, hall⟩ := rule_expands_iff hemit
  cases hfiles.symm.trans hfiles'
  obtain ⟨bindings, hplainRule, hplainAll⟩ := hall entry hentry _ hplain (by decide)
  cases hdefinition.symm.trans hplainRule
  obtain ⟨bindings, hnotedRule, hnotedAll⟩ := hall entry hentry _ hnoted (by decide)
  cases hdefinition.symm.trans hnotedRule
  refine ⟨files, hfiles, fun ins outs => ?_, fun ins outs b hb => ?_⟩
  · refine (hplainAll ins outs ⟨"depfile", "$depfile"⟩ (by decide)).2.mpr ⟨rfl, ⟨1⟩, by decide +kernel, ?_, ?_⟩
    · exact eq_ok_of_toOption (by decide +kernel)
    · exact (withoutDepfile_iff _).mpr (by decide +kernel)
  · refine (hnotedAll ins outs b hb).1.mpr fun hcircular => ?_
    obtain ⟨_, t, _, hstated, hwithout⟩ := (hnotedAll ins outs b hb).2.mp hcircular
    have hlack : notedListing.rule = "command" ∧ valueOf notedListing.bindings "depfile" = none := by
      rw [(targetStatement_eq_ok hstated).1]
      exact (withoutDepfile_iff _).mp hwithout
    exact absurd hlack (by decide +kernel)

/-- So it is not so that Ninja can carry out every build that is written. -/
theorem not_rule_expands :
    ¬ ∀ (g : Graph) (interpreter : String) (files : Table (List Item)), emitItems g interpreter = .ok files →
      ∀ entry ∈ files, ∀ s, Item.build s ∈ entry.2 → s.rule ≠ phony →
        ∀ bindings, (files.get? rulesFile).bind (definition · s.rule) = some bindings →
          ∀ (ins outs : List Char), ∀ b ∈ bindings,
            ∃ text, Expands (ruleVariables files ins outs bindings s) (pieces b.value) text := by
  intro h
  obtain ⟨files, hfiles, hdefinition, entry, hentry, hplain, _⟩ := emitItems_listings
  have hexpands := h _ _ files hfiles entry hentry _ hplain (by decide) _ hdefinition [] [] ⟨"depfile", "$depfile"⟩
    (by decide)
  have hground := exists_expands_iff.mp hexpands "depfile" (by decide +kernel)
  refine hground.not_circular (.single ?_)
  have hvalue : valueOf commandBindings "depfile" = some "$depfile" := by decide
  rw [Refers, ruleVariables_of_rule (by decide) (by decide) (by decide +kernel) hvalue]
  decide +kernel

end BuildTree.Ninja
