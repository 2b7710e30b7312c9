import BuildTree.Ninja.Emit
import BuildTree.Proofs.Effect
import BuildTree.Proofs.Ninja.WholeFile

/-!
# The statement of a target

If a target can be written, what is written is the statement that it stands for: its outputs, its rule, its inputs and
its variables. Such a statement keeps to its lines and is read back as it is, if its paths are plain.
-/

namespace BuildTree.Ninja
open Effect

/-- The variables of a target, which its rule refers to. -/
def targetBindings (g : Graph) (t : Target) : List Binding :=
  match t.action with
  | .run r => bindingsBeforePool r ++ (if r.pool.isGiven then [⟨"pool", g.text r.pool⟩] else [])
      ++ [⟨"desc", "CMD " ++ t.name⟩]
  | .compile c => [
      ⟨"compiler", Text.shellWord (g.text c.compiler)⟩,
      ⟨"flags", Text.shellLine c.flags⟩,
      ⟨"root", Text.shellWord c.root⟩]
  | _ => []

/-- The statement that a target stands for. -/
def declared (g : Graph) (t : Target) : Statement where
  outputs := t.outputs
  implicitOutputs := t.implicitOutputs
  rule := g.text t.action.rule
  inputs := g.resolve t.inputs
  implicitInputs := g.resolve t.implicitInputs
  orderOnlyInputs := g.resolve t.orderOnlyInputs
  bindings := targetBindings g t

theorem poolInUse_eq_ok {g : Graph} {pool : Given} {used : Option Given} (h : poolInUse g pool = .ok used) :
    used = if pool.isGiven then some pool else none := by
  unfold poolInUse at h
  cases hgiven : pool.isGiven with
  | false =>
    rw [hgiven] at h
    exact (Except.ok.inj h).symm
  | true =>
    simp only [hgiven, Bool.not_true, Bool.false_eq_true, if_false] at h
    split at h
    · cases h
    split at h
    · exact (Except.ok.inj h).symm
    · cases h

theorem recipeBindings_eq_ok {g : Graph} {name : String} {r : Recipe} {bindings : List Binding}
    (h : recipeBindings g name r = .ok bindings) :
    bindings = bindingsBeforePool r ++ (if r.pool.isGiven then [⟨"pool", g.text r.pool⟩] else [])
      ++ [⟨"desc", "CMD " ++ name⟩] := by
  obtain ⟨used, hused, h⟩ := (bind_eq_ok_iff _ _ _).mp h
  rw [poolInUse_eq_ok hused] at h
  cases hgiven : r.pool.isGiven with
  | false =>
    rw [hgiven] at h
    rw [if_neg Bool.false_ne_true, List.append_nil]
    exact (Except.ok.inj h).symm
  | true =>
    rw [hgiven, if_pos rfl] at h
    rw [if_pos rfl, List.append_assoc]
    cases hpool : r.pool with
    | text pool =>
      rw [hpool] at h
      exact (Except.ok.inj h).symm
    | _ =>
      rw [hpool] at h
      cases h

theorem text_eq_of_text? {g : Graph} {value : Given} {text : String} (h : g.text? value = some text) :
    g.text value = text := by
  rw [Graph.text, Value.toText, show value.text? g.describe = some text from h, Option.getD_some]

theorem actionBindings_eq_ok {g : Graph} {t : Target} {bindings : List Binding}
    (h : actionBindings g t = .ok bindings) : bindings = targetBindings g t := by
  unfold actionBindings at h
  unfold targetBindings
  cases hact : t.action with
  | run r =>
    rw [hact] at h
    exact recipeBindings_eq_ok h
  | compile c =>
    simp only [hact] at h
    cases htext : g.text? c.compiler with
    | none => simp [htext] at h
    | some compiler =>
      have htotal : g.text c.compiler = compiler := text_eq_of_text? htext
      rw [htext] at h
      simp only [htotal]
      exact (Except.ok.inj h).symm
  | _ =>
    rw [hact] at h
    exact (Except.ok.inj h).symm

theorem knownRule_eq_ok {g : Graph} {rule : Given} {name : String} (h : knownRule g rule = .ok name) :
    name = g.text rule ∧ isKnownRule name = true := by
  cases rule with
  | text s =>
    simp only [knownRule] at h
    split at h
    · next hknown =>
      cases h
      exact ⟨rfl, hknown⟩
    · cases h
  | _ => simp [knownRule] at h

theorem firstBroken_eq_none_iff (bindings : List Binding) :
    firstBroken bindings = none ↔ ∀ b ∈ bindings, '\n' ∉ b.value.toList := by
  simp [firstBroken]

/-- What is known of a target that has a statement. -/
theorem targetStatement_eq_ok {g : Graph} {t : Target} {s : Statement} (h : targetStatement g t = .ok s) :
    s = declared g t ∧ isKnownRule s.rule = true ∧ ∀ b ∈ s.bindings, '\n' ∉ b.value.toList := by
  unfold targetStatement at h
  obtain ⟨rule, hrule, h⟩ := (bind_eq_ok_iff _ _ _).mp h
  obtain ⟨bindings, hbindings, h⟩ := (bind_eq_ok_iff _ _ _).mp h
  obtain ⟨rfl, hknown⟩ := knownRule_eq_ok hrule
  have hvars := actionBindings_eq_ok hbindings
  unfold Statement.checked at h
  cases hbroken : firstBroken bindings with
  | some key =>
    simp only [hbroken] at h
    cases h
  | none =>
    simp only [hbroken] at h
    cases h
    refine ⟨?_, hknown, (firstBroken_eq_none_iff bindings).mp hbroken⟩
    rw [declared, hvars]

/-- A rule that is known can stand on the line of a statement as it is. -/
theorem plain_of_known {name : String} (h : isKnownRule name = true) : PlainRule name ∧ PlainPath name := by
  have hall : ∀ n ∈ phony :: rules.map (·.1), n.toList.flatMap pathChar = n.toList ∧ PlainPath n := by decide
  refine hall name ?_
  rcases Bool.or_eq_true_iff.mp h with h | h
  · rw [eq_of_beq h]
    exact List.mem_cons_self
  · obtain ⟨rule, hrule, hname⟩ := List.any_eq_true.mp h
    exact List.mem_cons_of_mem _ (List.mem_map.mpr ⟨rule, hrule, eq_of_beq hname⟩)

theorem plainKey_targetBindings (g : Graph) (t : Target) : ∀ b ∈ targetBindings g t, PlainKey b.key := by
  have hnone : ∀ b ∈ ([] : List Binding), PlainKey b.key := fun b hb => by cases hb
  have hone : ∀ key value, PlainKey key → ∀ b ∈ [Binding.mk key value], PlainKey b.key := by
    intro key value hkey b hb
    rw [List.mem_singleton.mp hb]
    exact hkey
  unfold targetBindings
  cases t.action with
  | run r =>
    simp only [bindingsBeforePool, List.forall_mem_append, List.forall_mem_cons]
    refine ⟨⟨⟨⟨⟨by decide, ?_⟩, ⟨by decide, hnone⟩⟩, ?_⟩, ?_⟩, ⟨by decide, hnone⟩⟩
    · split
      · exact hnone
      · exact hone _ _ (by decide)
    · split
      · split
        · exact hnone
        · exact hone _ _ (by decide)
      · exact hnone
    · split
      · exact hone _ _ (by decide)
      · exact hnone
  | compile c =>
    simp only [List.forall_mem_cons]
    exact ⟨by decide, by decide, by decide, hnone⟩
  | _ => exact hnone

/-- What a target that runs commands binds. -/
theorem mem_targetBindings_run {g : Graph} {t : Target} {r : Recipe} (h : t.action = .run r) (b : Binding) :
    b ∈ targetBindings g t ↔
      b = ⟨"cwd", Text.shellWord r.cwd⟩ ∨ (r.env.isEmpty = false ∧ b = ⟨"env", exportLine r.env⟩) ∨
      b = ⟨"cmd", String.intercalate " && " (r.commands.map Command.shellLine)⟩ ∨
      (∃ file, r.depfile = some file ∧ file ≠ "" ∧ b = ⟨"depfile", file⟩) ∨
      (r.pool.isGiven = true ∧ b = ⟨"pool", g.text r.pool⟩) ∨ b = ⟨"desc", "CMD " ++ t.name⟩ := by
  have hone : ∀ (p : Prop) [Decidable p] (c : Binding), b ∈ (if p then [c] else []) ↔ p ∧ b = c := by
    intro p _ c
    split <;> simp_all
  have hnone : ∀ (p : Bool) (c : Binding), b ∈ (if p then [] else [c]) ↔ p = false ∧ b = c := by
    intro p c
    cases p <;> simp
  simp only [targetBindings, h, bindingsBeforePool, List.mem_append, List.mem_cons, List.not_mem_nil, or_false, hone,
    hnone, or_assoc]
  refine or_congr_right (or_congr_right (or_congr_right (or_congr_left ?_)))
  cases r.depfile with
  | none => simp
  | some file => by_cases hfile : file = "" <;> simp [hfile]

theorem targetStatements_eq_ok {g : Graph} {ts : List Target} {ss : List Statement}
    (h : targetStatements g ts = .ok ss) :
    ss = ts.map (declared g) ∧ ∀ t ∈ ts, isKnownRule (declared g t).rule = true ∧
      ∀ b ∈ targetBindings g t, '\n' ∉ b.value.toList := by
  induction ts generalizing ss with
  | nil =>
    cases h
    exact ⟨rfl, fun t ht => by cases ht⟩
  | cons t ts ih =>
    obtain ⟨s, hs, h⟩ := (bind_eq_ok_iff _ _ _).mp h
    obtain ⟨others, hothers, h⟩ := (bind_eq_ok_iff _ _ _).mp h
    obtain ⟨rfl, hall⟩ := ih hothers
    have hs' : targetStatement g t = .ok s := by
      cases hts : targetStatement g t with
      | error e =>
        rw [hts] at hs
        cases hs
      | ok s' =>
        rw [hts] at hs
        cases hs
        rfl
    obtain ⟨rfl, hrule, hvalues⟩ := targetStatement_eq_ok hs'
    cases h
    exact ⟨rfl, List.forall_mem_cons.mpr ⟨⟨hrule, hvalues⟩, hall⟩⟩

/-- The paths on the line of a statement can stand there. -/
def Statement.PlainPaths (s : Statement) : Prop :=
  ∀ p ∈ s.outputs ++ s.implicitOutputs ++ s.inputs ++ s.implicitInputs ++ s.orderOnlyInputs, PlainPath p

instance (s : Statement) : Decidable s.PlainPaths := inferInstanceAs (Decidable (∀ p ∈ _, PlainPath p))

theorem PlainPath.oneLine {p : String} (h : PlainPath p) : '\n' ∉ p.toList := fun hmem =>
  h.2 _ hmem (by decide)

/-- The paths on the line of a statement. -/
def Statement.paths (s : Statement) : List String :=
  s.outputs ++ s.implicitOutputs ++ s.inputs ++ s.implicitInputs ++ s.orderOnlyInputs

theorem lined_declared {g : Graph} {t : Target} (hpaths : ∀ p ∈ (declared g t).paths, '\n' ∉ p.toList)
    (hrule : isKnownRule (declared g t).rule = true) (hvalues : ∀ b ∈ targetBindings g t, '\n' ∉ b.value.toList) :
    (declared g t).Lined where
  outputs := List.cons_ne_nil _ _
  rule := (plain_of_known hrule).1
  paths := List.forall_mem_cons.mpr ⟨(plain_of_known hrule).2.oneLine, hpaths⟩
  bindings b hb := ⟨plainKey_targetBindings g t b hb, hvalues b hb⟩

theorem entry_declared {g : Graph} {t : Target} (hpaths : (declared g t).PlainPaths)
    (hrule : isKnownRule (declared g t).rule = true) : (declared g t).entry = some (declared g t).asRead :=
  Statement.entry_eq (List.cons_ne_nil _ _) (plain_of_known hrule).1
    (List.forall_mem_cons.mpr ⟨(plain_of_known hrule).2, hpaths⟩) (plainKey_targetBindings g t)

theorem entries_buildItems (ss : List Statement) :
    (ss.flatMap buildItems).flatMap Item.entries = ss.map Statement.entry := by
  induction ss with
  | nil => rfl
  | cons s ss ih => simp [buildItems, Item.entries, ih]

theorem clear_buildItems {ss : List Statement} (h : ∀ s ∈ ss, s.Lined) : ∀ i ∈ ss.flatMap buildItems, i.Clear := by
  intro i hi
  obtain ⟨s, hs, hi⟩ := List.mem_flatMap.mp hi
  rcases List.mem_cons.mp hi with rfl | hi
  · exact h s hs
  · rw [List.mem_singleton.mp hi]
    trivial

end BuildTree.Ninja
