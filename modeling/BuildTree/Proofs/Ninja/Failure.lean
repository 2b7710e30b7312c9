import BuildTree.Proofs.Ninja.Files
import BuildTree.Proofs.Text.LineBreaks

/-!
# Failures to write a graph

A graph that cannot be written is refused with the fault that is meant for this, whatever is wrong with a target or
with the name of a partition. Three kinds of failures are not made into that fault: a value that is given as a
partition and cannot be looked through or has no text, a pool whose name or depth has no text, and what the build says
about itself, which is the command that repeats the pass and the names of the goals, if that has no text or a line
break in it. This says exactly when one of them escapes.
-/

namespace BuildTree.Ninja
open Text Effect BuildTree.Graph

variable {g : Graph}

/-- A failure that is not made into the fault that is meant for what cannot be written. -/
def EmitFault.Escapes (e : EmitFault) : Prop :=
  e.fault.kind ≠ "SerializationError"

instance (e : EmitFault) : Decidable e.Escapes := inferInstanceAs (Decidable (_ ≠ _))

/-- Whatever is in the way of a target is made into that fault. -/
theorem not_escapes_target (name : String) (obstacle : Obstacle) (location : Option Location) :
    ¬ (EmitFault.target name obstacle location).Escapes := fun h =>
  h (by cases obstacle <;> rfl)

/-- What the build says about itself can be written and stands on single lines. -/
structure OwnLines (g : Graph) : Prop where
  pass : ∀ r, g.pass = some r → ∃ command words, (g.node r).action = .reconfigure command ∧
    command.mapM g.text? = some words ∧ ∀ word ∈ words, '\n' ∉ word.toList
  goals : ∀ name ∈ g.named.keys, '\n' ∉ name.toList

/-- A value that is given as a partition, though it cannot be looked through or has no text. -/
structure Misnamed (g : Graph) (p : Given) : Prop where
  given : p.isGiven = true
  misfit : p.items? = none ∨ g.text? p = none

/-- The failures that escape: of the first partition that is not in order, if no file can be named after it; then of a
pool; and of what the build says about itself, if everything else is in order. -/
inductive Overlooked (g : Graph) : Prop where
  | partition {before : List Given} {p : Given} {after : List Given} (split : g.partitions = before ++ p :: after)
      (checked : ∀ q ∈ before, checkPartition g q = .ok ()) (misnamed : Misnamed g p) : Overlooked g
  | pool (checked : ∀ p ∈ g.partitions, checkPartition g p = .ok ()) {pool : Given × PoolDepth}
      (declared : pool ∈ g.pools) (unspelled : ¬ SpelledPool g pool) : Overlooked g
  | own (checked : ∀ p ∈ g.partitions, checkPartition g p = .ok ()) (pools : ∀ pool ∈ g.pools, SpelledPool g pool)
      (stated : ∀ p ∈ .null :: g.partitions, ∀ t ∈ partitionTargets g p, ∃ s, targetStatement g t = .ok s)
      (broken : ¬ OwnLines g) : Overlooked g

section Partitions

theorem holdsSlash_eq_error_iff (p : Given) (e : EmitFault) :
    holdsSlash p = .error e ↔ e = .misfitPartition ∧ p.items? = none := by
  cases p <;> simp [holdsSlash, Value.items?, eq_comm]

theorem escapes_unwritable : EmitFault.unwritable.Escapes := by decide

/-- What is empty or nothing can be shown. -/
theorem exists_shown?_of_not_isGiven (g : Graph) {p : Given} (h : p.isGiven = false) : ∃ text, g.shown? p = some text := by
  cases p with
  | int i =>
    obtain rfl : i = 0 := by simpa [Value.isGiven] using h
    exact ⟨"0", rfl⟩
  | list items =>
    obtain rfl : items = [] := by simpa [Value.isGiven] using h
    exact ⟨_, rfl⟩
  | record entries =>
    obtain rfl : entries = [] := by simpa [Value.isGiven] using h
    exact ⟨_, rfl⟩
  | _ => exact ⟨_, rfl⟩

theorem escapes_partition_iff (g : Graph) (p : Given) : (EmitFault.partition g p).Escapes ↔ g.shown? p = none := by
  rw [EmitFault.partition]
  cases g.shown? p with
  | none => exact iff_of_true escapes_unwritable rfl
  | some text => exact iff_of_false (fun h => h rfl) nofun

/-- What can be looked through has a text just if it can be shown. -/
theorem shown?_eq_none_iff_of_items? (g : Graph) {p : Given} (h : p.items? ≠ none) :
    g.shown? p = none ↔ g.text? p = none := by
  cases p with
  | text s => exact iff_of_false nofun nofun
  | list items => exact Iff.rfl
  | record entries => exact Iff.rfl
  | _ => exact absurd rfl h

theorem exists_holdsSlash_of_items? {p : Given} (h : p.items? ≠ none) : ∃ slash, holdsSlash p = .ok slash := by
  cases hslash : holdsSlash p with
  | ok slash => exact ⟨slash, rfl⟩
  | error e => exact absurd ((holdsSlash_eq_error_iff p e).mp hslash).2 h

theorem escapes_checkPartition_iff (p : Given) :
    FailsWith EmitFault.Escapes (checkPartition g p) ↔ Misnamed g p := by
  rw [checkPartition_eq]
  split
  next hgiven =>
    by_cases hitems : p.items? = none
    · rw [(holdsSlash_eq_error_iff p _).mpr ⟨rfl, hitems⟩]
      exact iff_of_true ((failsWith_error_iff _ _).mpr (by decide)) ⟨hgiven, .inl hitems⟩
    obtain ⟨slash, hslash⟩ := exists_holdsSlash_of_items? hitems
    have hpartition := (escapes_partition_iff g p).trans (shown?_eq_none_iff_of_items? g hitems)
    rw [hslash, Except.bind]
    cases htext : g.text? p with
    | none =>
      refine iff_of_true ?_ ⟨hgiven, .inr htext⟩
      split
      next => exact (failsWith_error_iff _ _).mpr (hpartition.mpr htext)
      next => exact (failsWith_error_iff _ _).mpr escapes_unwritable
    | some name =>
      have hnot : ¬ (EmitFault.partition g p).Escapes := fun h => by cases (hpartition.mp h).symm.trans htext
      have hfit : g.text? p ≠ none := htext ▸ Option.some_ne_none name
      refine iff_of_false ?_ fun h => h.misfit.elim hitems hfit
      simp only [EmitFault.written, Except.bind]
      split
      next => exact fun h => hnot ((failsWith_error_iff _ _).mp h)
      next =>
        split
        next => exact fun h => hnot ((failsWith_error_iff _ _).mp h)
        next => exact not_failsWith_ok _ _
  next hgiven =>
    obtain ⟨text, hshown⟩ := exists_shown?_of_not_isGiven g (by simpa using hgiven)
    rw [failsWith_error_iff, escapes_partition_iff, hshown]
    exact iff_of_false (Option.some_ne_none text) fun h => hgiven h.given

/-- The first partition that is not in order decides. -/
theorem escapes_checkPartitions_iff (ps : List Given) :
    FailsWith EmitFault.Escapes (checkPartitions g ps) ↔ ∃ before p after, ps = before ++ p :: after ∧
      (∀ q ∈ before, checkPartition g q = .ok ()) ∧ Misnamed g p := by
  induction ps with
  | nil => exact iff_of_false (not_failsWith_ok _ _) fun ⟨_, _, _, h, _⟩ => by simp at h
  | cons first ps ih =>
    refine (failsWith_bind_iff _ _ _).trans ⟨?_, ?_⟩
    · rintro (h | ⟨⟨⟩, hfirst, h⟩)
      · exact ⟨[], first, ps, rfl, List.forall_mem_nil _, (escapes_checkPartition_iff first).mp h⟩
      · obtain ⟨before, p, after, rfl, hbefore, hp⟩ := ih.mp h
        exact ⟨first :: before, p, after, rfl, List.forall_mem_cons.mpr ⟨hfirst, hbefore⟩, hp⟩
    · rintro ⟨_ | ⟨b, before⟩, p, after, hsplit, hbefore, hp⟩
      · cases hsplit
        exact .inl ((escapes_checkPartition_iff first).mpr hp)
      · cases hsplit
        obtain ⟨hfirst, hbefore⟩ := List.forall_mem_cons.mp hbefore
        exact .inr ⟨(), hfirst, ih.mpr ⟨before, p, after, rfl, hbefore, hp⟩⟩

end Partitions

section Pools

theorem eq_of_written_error {text? : Option String} {e : EmitFault} (h : EmitFault.written text? = .error e) :
    e = .unwritable := by
  cases text? with
  | some text => cases h
  | none => exact (Except.error.inj h).symm

theorem eq_of_poolTexts_error {pools : ValueTable TargetId PoolDepth} {e : EmitFault}
    (h : poolTexts g pools = .error e) : e = .unwritable := by
  induction pools with
  | nil => cases h
  | cons pool rest ih =>
    rcases (bind_eq_error_iff _ _ _).mp h with hname | ⟨_, _, h⟩
    · exact eq_of_written_error hname
    rcases (bind_eq_error_iff _ _ _).mp h with hdepth | ⟨_, _, h⟩
    · exact eq_of_written_error hdepth
    rcases (bind_eq_error_iff _ _ _).mp h with hrest | ⟨_, _, h⟩
    · exact ih hrest
    · cases h

theorem exists_rulesItems_iff (g : Graph) (interpreter : String) :
    (∃ items, rulesItems g interpreter = .ok items) ↔ ∀ pool ∈ g.pools, SpelledPool g pool := by
  simp only [rulesItems_eq_ok_iff, exists_and_left, exists_eq, and_true]

/-- The file of rules fails for a pool that has no text. -/
theorem of_rulesItems_error {interpreter : String} {e : EmitFault} (h : rulesItems g interpreter = .error e) :
    e = .unwritable ∧ ∃ pool ∈ g.pools, ¬ SpelledPool g pool := by
  constructor
  · rcases (bind_eq_error_iff _ _ _).mp h with h | ⟨_, _, h⟩
    · exact eq_of_poolTexts_error h
    · cases h
  · have hnone : ¬ ∃ items, rulesItems g interpreter = .ok items := fun ⟨_, hitems⟩ => by
      rw [h] at hitems
      cases hitems
    rw [exists_rulesItems_iff] at hnone
    simpa using hnone

theorem escapes_rulesItems_iff (g : Graph) (interpreter : String) :
    FailsWith EmitFault.Escapes (rulesItems g interpreter) ↔ ∃ pool ∈ g.pools, ¬ SpelledPool g pool := by
  rw [failsWith_iff_not_exists fun e h => (of_rulesItems_error h).1 ▸ escapes_unwritable, exists_rulesItems_iff]
  simp

end Pools

section Targets

theorem not_escapes_targetStatements (ts : List Target) :
    ¬ FailsWith EmitFault.Escapes (targetStatements g ts) := by
  induction ts with
  | nil => exact not_failsWith_ok _ _
  | cons t ts ih =>
    refine fun h => ?_
    rcases (failsWith_bind_iff _ _ _).mp h with ⟨e, he, hescapes⟩ | ⟨first, _, h⟩
    · cases hstated : targetStatement g t with
      | error obstacle =>
        rw [hstated] at he
        cases he
        exact not_escapes_target _ _ _ hescapes
      | ok s =>
        rw [hstated] at he
        cases he
    · rcases (failsWith_bind_iff _ _ _).mp h with h | ⟨others, _, h⟩
      · exact ih h
      · exact not_failsWith_ok _ _ h

theorem exists_targetStatements_iff (ts : List Target) :
    (∃ ss, targetStatements g ts = .ok ss) ↔ ∀ t ∈ ts, ∃ s, targetStatement g t = .ok s := by
  induction ts with
  | nil => exact iff_of_true ⟨[], rfl⟩ (List.forall_mem_nil _)
  | cons t ts ih =>
    rw [List.forall_mem_cons, ← ih]
    have hfirst : ∀ s, (targetStatement g t).mapError (fun o => EmitFault.target t.name o t.definedAt) = .ok s ↔
        targetStatement g t = .ok s := by
      intro s
      cases targetStatement g t <;> simp [Except.mapError]
    constructor
    · rintro ⟨ss, h⟩
      obtain ⟨s, hs, h⟩ := (bind_eq_ok_iff _ _ _).mp h
      obtain ⟨others, hothers, _⟩ := (bind_eq_ok_iff _ _ _).mp h
      exact ⟨⟨s, (hfirst s).mp hs⟩, others, hothers⟩
    · rintro ⟨⟨s, hs⟩, others, hothers⟩
      exact ⟨s :: others, (bind_eq_ok_iff _ _ _).mpr ⟨s, (hfirst s).mpr hs,
        (bind_eq_ok_iff _ _ _).mpr ⟨others, hothers, rfl⟩⟩⟩

theorem not_escapes_addPartitionFiles (files : Table (List Item)) (ps : List Given) :
    ¬ FailsWith EmitFault.Escapes (addPartitionFiles g files ps) := by
  induction ps generalizing files with
  | nil => exact not_failsWith_ok _ _
  | cons p ps ih =>
    refine fun h => ?_
    rcases (failsWith_bind_iff _ _ _).mp h with h | ⟨items, _, h⟩
    · rcases (failsWith_bind_iff _ _ _).mp h with h | ⟨ss, _, h⟩
      · exact not_escapes_targetStatements _ h
      · exact not_failsWith_ok _ _ h
    · exact ih _ h

theorem exists_addPartitionFiles_iff (files : Table (List Item)) (ps : List Given) :
    (∃ out, addPartitionFiles g files ps = .ok out) ↔
      ∀ p ∈ ps, ∀ t ∈ partitionTargets g p, ∃ s, targetStatement g t = .ok s := by
  induction ps generalizing files with
  | nil => exact iff_of_true ⟨files, rfl⟩ (List.forall_mem_nil _)
  | cons p ps ih =>
    rw [List.forall_mem_cons, ← exists_targetStatements_iff]
    constructor
    · rintro ⟨out, h⟩
      obtain ⟨items, hitems, h⟩ := (bind_eq_ok_iff _ _ _).mp h
      obtain ⟨ss, hss, _⟩ := (bind_eq_ok_iff _ _ _).mp hitems
      exact ⟨⟨ss, hss⟩, (ih _).mp ⟨out, h⟩⟩
    · rintro ⟨⟨ss, hss⟩, hps⟩
      have hitems : partitionItems g p = .ok (header ("Partition " ++ g.shown p ++ ".") ++ ss.flatMap buildItems) :=
        (bind_eq_ok_iff _ _ _).mpr ⟨ss, hss, rfl⟩
      obtain ⟨out, h⟩ := (ih _).mpr hps
      exact ⟨out, (bind_eq_ok_iff _ _ _).mpr ⟨_, hitems, h⟩⟩

end Targets

section Own

theorem newline_mem_helpCommand_iff : '\n' ∈ (helpCommand g).toList ↔ ∃ name ∈ g.named.keys, '\n' ∈ name.toList := by
  have hecho : ∀ line : String, '\n' ∈ ("echo " ++ shellWord line).toList ↔ '\n' ∈ line.toList := fun line => by
    simp [newline_mem_shellWord_iff]
  rw [helpCommand, newline_mem_intercalate_iff (by decide)]
  simp only [hecho]
  constructor
  · rintro ⟨line, hline, h⟩
    simp only [List.mem_append, List.mem_cons, List.mem_map, List.not_mem_nil, or_false] at hline
    rcases hline with (rfl | ⟨name, hname, rfl⟩) | rfl | rfl
    · exact absurd h (by decide)
    · exact ⟨name, List.mem_mergeSort.mp hname, by simpa using h⟩
    · exact absurd h (by decide)
    · exact absurd h (by decide)
  · rintro ⟨name, hname, h⟩
    have hgoal : "  " ++ name ∈ (goals g).map ("  " ++ ·) := List.mem_map_of_mem (List.mem_mergeSort.mpr hname)
    exact ⟨"  " ++ name, List.mem_append_left _ (List.mem_cons_of_mem _ hgoal), by simpa using h⟩

theorem exists_ownStatement_iff (s : Statement) :
    (∃ s', ownStatement s = .ok s') ↔ ∀ b ∈ s.bindings, '\n' ∉ b.value.toList := by
  exact ⟨fun ⟨s', h⟩ => (ownStatement_eq_ok h).2, fun h => ⟨s, ownStatement_of_values h⟩⟩

theorem escapes_of_ownStatement {s : Statement} {e : EmitFault} (h : ownStatement s = .error e) : e.Escapes := by
  unfold ownStatement at h
  split at h
  · cases h
  · cases h
    exact (by decide : "ValueError" ≠ "SerializationError")

theorem escapes_of_mapM_written {command : List Given} {e : EmitFault}
    (h : (command.mapM fun word => EmitFault.written (g.text? word)) = .error e) : e.Escapes := by
  induction command with
  | nil => cases h
  | cons word rest ih =>
    rw [List.mapM_cons] at h
    rcases (bind_eq_error_iff _ _ _).mp h with hword | ⟨_, _, h⟩
    · exact eq_of_written_error hword ▸ escapes_unwritable
    rcases (bind_eq_error_iff _ _ _).mp h with hrest | ⟨_, _, h⟩
    · exact ih hrest
    · cases h

theorem escapes_of_passStatements {partitions : List Given} {e : EmitFault}
    (h : passStatements g partitions = .error e) : e.Escapes := by
  unfold passStatements at h
  split at h
  next => cases h
  next r _ =>
    split at h
    next command _ =>
      rcases (bind_eq_error_iff _ _ _).mp h with hwords | ⟨words, _, h⟩
      · exact escapes_of_mapM_written hwords
      rcases (bind_eq_error_iff _ _ _).mp h with hown | ⟨_, _, h⟩
      · exact escapes_of_ownStatement hown
      · cases h
    next =>
      cases h
      exact (by decide : "AttributeError" ≠ "SerializationError")

theorem exists_passStatements_iff (partitions : List Given) :
    (∃ pass, passStatements g partitions = .ok pass) ↔ ∀ r, g.pass = some r →
      ∃ command words, (g.node r).action = .reconfigure command ∧ command.mapM g.text? = some words ∧
        ∀ word ∈ words, '\n' ∉ word.toList := by
  have hlines : ∀ r words, (∀ b ∈ (passStatement g (g.node r) words partitions).bindings, '\n' ∉ b.value.toList) ↔
      ∀ word ∈ words, '\n' ∉ word.toList := by
    intro r words
    simp [passStatement, newline_mem_shellLine_iff]
  constructor
  · rintro ⟨pass, h⟩ r hr
    obtain ⟨command, words, haction, hwords, _, hvalues⟩ := passStatements_eq_ok hr h
    exact ⟨command, words, haction, hwords, (hlines r words).mp hvalues⟩
  · intro h
    cases hpass : g.pass with
    | none => exact ⟨[], by rw [passStatements, hpass]⟩
    | some r =>
      obtain ⟨command, words, haction, hwords, hlined⟩ := h r hpass
      obtain ⟨s, hs⟩ := (exists_ownStatement_iff _).mpr ((hlines r words).mpr hlined)
      refine ⟨[s], ?_⟩
      rw [passStatements, hpass]
      simp only [haction, (mapM_written_eq_ok_iff g command words).mpr hwords, bind, Except.bind, hs, pure, Except.pure]

theorem exists_helpStatement_iff :
    (∃ help, ownStatement (helpStatement g) = .ok help) ↔ ∀ name ∈ g.named.keys, '\n' ∉ name.toList := by
  rw [exists_ownStatement_iff]
  simp [helpStatement, newline_mem_helpCommand_iff]

end Own

section Files

theorem ownLines_iff (g : Graph) (partitions : List Given) : OwnLines g ↔
    (∃ pass, passStatements g partitions = .ok pass) ∧ ∃ help, ownStatement (helpStatement g) = .ok help := by
  rw [exists_passStatements_iff, exists_helpStatement_iff]
  exact ⟨fun h => ⟨h.pass, h.goals⟩, fun h => ⟨h.1, h.2⟩⟩

theorem exists_rootItems_iff (partitions : List Given) : (∃ items, rootItems g partitions = .ok items) ↔
    (∀ t ∈ partitionTargets g .null, ∃ s, targetStatement g t = .ok s) ∧ OwnLines g := by
  rw [← exists_targetStatements_iff, ownLines_iff g partitions]
  constructor
  · rintro ⟨items, h⟩
    obtain ⟨ss, hss, h⟩ := (bind_eq_ok_iff _ _ _).mp h
    obtain ⟨pass, hpass, h⟩ := (bind_eq_ok_iff _ _ _).mp h
    obtain ⟨help, hhelp, _⟩ := (bind_eq_ok_iff _ _ _).mp h
    exact ⟨⟨ss, hss⟩, ⟨pass, hpass⟩, help, hhelp⟩
  · rintro ⟨⟨ss, hss⟩, ⟨pass, hpass⟩, help, hhelp⟩
    exact ⟨_, (bind_eq_ok_iff _ _ _).mpr ⟨ss, hss, (bind_eq_ok_iff _ _ _).mpr ⟨pass, hpass,
      (bind_eq_ok_iff _ _ _).mpr ⟨help, hhelp, rfl⟩⟩⟩⟩

/-- A graph can be written just if its partitions are in order, its pools have texts, its targets have statements, and
what the build says about itself stands on single lines. -/
theorem exists_emitItems_iff (g : Graph) (interpreter : String) : (∃ out, emitItems g interpreter = .ok out) ↔
    (∀ p ∈ g.partitions, checkPartition g p = .ok ()) ∧ (∀ pool ∈ g.pools, SpelledPool g pool) ∧
      (∀ p ∈ .null :: g.partitions, ∀ t ∈ partitionTargets g p, ∃ s, targetStatement g t = .ok s) ∧ OwnLines g := by
  rw [← checkPartitions_eq_ok_iff, List.forall_mem_cons, ← exists_rulesItems_iff g interpreter]
  constructor
  · rintro ⟨out, h⟩
    obtain ⟨⟨⟩, hchecked, h⟩ := (bind_eq_ok_iff _ _ _).mp h
    obtain ⟨rules, hrules, h⟩ := (bind_eq_ok_iff _ _ _).mp h
    obtain ⟨files, hfiles, h⟩ := (bind_eq_ok_iff _ _ _).mp h
    obtain ⟨root, hroot, _⟩ := (bind_eq_ok_iff _ _ _).mp h
    obtain ⟨hstated, hown⟩ := (exists_rootItems_iff _).mp ⟨root, hroot⟩
    exact ⟨hchecked, ⟨rules, hrules⟩, ⟨hstated, (exists_addPartitionFiles_iff _ _).mp ⟨files, hfiles⟩⟩, hown⟩
  · rintro ⟨hchecked, ⟨rules, hrules⟩, ⟨hstated, hparts⟩, hown⟩
    obtain ⟨files, hfiles⟩ := (exists_addPartitionFiles_iff [(rulesFile, rules)] g.partitions).mpr hparts
    obtain ⟨root, hroot⟩ := (exists_rootItems_iff g.partitions).mpr ⟨hstated, hown⟩
    exact ⟨_, (bind_eq_ok_iff _ _ _).mpr ⟨(), hchecked, (bind_eq_ok_iff _ _ _).mpr ⟨rules, hrules,
      (bind_eq_ok_iff _ _ _).mpr ⟨files, hfiles, (bind_eq_ok_iff _ _ _).mpr ⟨root, hroot, rfl⟩⟩⟩⟩⟩

/-- A graph without partitions can be written if each part of its root file can. -/
theorem exists_emitItems_of_root (interpreter : String) (hpartitions : g.partitions = [])
    (hpools : ∀ pool ∈ g.pools, SpelledPool g pool)
    (hstated : ∀ t ∈ partitionTargets g .null, (targetStatement g t).toOption.isSome = true)
    (hpass : (passStatements g []).toOption.isSome = true) (hgoals : ∀ name ∈ g.named.keys, '\n' ∉ name.toList) :
    ∃ out, emitItems g interpreter = .ok out := by
  rw [exists_emitItems_iff, hpartitions, List.forall_mem_singleton, ownLines_iff g []]
  exact ⟨List.forall_mem_nil _, hpools, fun t ht => exists_of_toOption (hstated t ht), exists_of_toOption hpass,
    exists_helpStatement_iff.mpr hgoals⟩

/-- The root file fails like that if all targets in it have statements and what it says about itself does not fit. -/
theorem escapes_rootItems_iff (partitions : List Given) : FailsWith EmitFault.Escapes (rootItems g partitions) ↔
    (∀ t ∈ partitionTargets g .null, ∃ s, targetStatement g t = .ok s) ∧ ¬ OwnLines g := by
  have hpass : FailsWith EmitFault.Escapes (passStatements g partitions) ↔
      ¬ ∃ pass, passStatements g partitions = .ok pass :=
    failsWith_iff_not_exists fun _ => escapes_of_passStatements
  have hhelp : FailsWith EmitFault.Escapes (ownStatement (helpStatement g)) ↔
      ¬ ∃ help, ownStatement (helpStatement g) = .ok help :=
    failsWith_iff_not_exists fun _ => escapes_of_ownStatement
  rw [← exists_targetStatements_iff, ownLines_iff g partitions]
  constructor
  · -- the targets come first, then the pass, then the goals
    intro h
    rcases (failsWith_bind_iff _ _ _).mp h with h | ⟨ss, hss, h⟩
    · exact absurd h (not_escapes_targetStatements _)
    refine ⟨⟨ss, hss⟩, fun ⟨hpassOk, hhelpOk⟩ => ?_⟩
    rcases (failsWith_bind_iff _ _ _).mp h with h | ⟨pass, _, h⟩
    · exact hpass.mp h hpassOk
    rcases (failsWith_bind_iff _ _ _).mp h with h | ⟨help, _, h⟩
    · exact hhelp.mp h hhelpOk
    · exact not_failsWith_ok _ _ h
  · rintro ⟨⟨ss, hss⟩, hbroken⟩
    refine (failsWith_bind_iff _ _ _).mpr (.inr ⟨ss, hss, (failsWith_bind_iff _ _ _).mpr ?_⟩)
    by_cases hpassOk : ∃ pass, passStatements g partitions = .ok pass
    · obtain ⟨pass, hpassOk⟩ := hpassOk
      refine .inr ⟨pass, hpassOk, (failsWith_bind_iff _ _ _).mpr (.inl (hhelp.mpr fun hhelpOk => ?_))⟩
      exact hbroken ⟨⟨pass, hpassOk⟩, hhelpOk⟩
    · exact .inl (hpass.mpr hpassOk)

/-- Serializing fails with something else than it should just in the ways that are overlooked. -/
theorem escapes_emitItems_iff (g : Graph) (interpreter : String) :
    FailsWith EmitFault.Escapes (emitItems g interpreter) ↔ Overlooked g := by
  constructor
  · intro h
    rcases (failsWith_bind_iff _ _ _).mp h with h | ⟨⟨⟩, hchecked, h⟩
    · obtain ⟨before, p, after, hsplit, hbefore, hp⟩ := (escapes_checkPartitions_iff _).mp h
      exact .partition hsplit hbefore hp
    have hchecked := (checkPartitions_eq_ok_iff _).mp hchecked
    rcases (failsWith_bind_iff _ _ _).mp h with h | ⟨rules, hrules, h⟩
    · obtain ⟨pool, hpool, hunspelled⟩ := (escapes_rulesItems_iff g interpreter).mp h
      exact .pool hchecked hpool hunspelled
    rcases (failsWith_bind_iff _ _ _).mp h with h | ⟨files, hfiles, h⟩
    · exact absurd h (not_escapes_addPartitionFiles _ _)
    rcases (failsWith_bind_iff _ _ _).mp h with h | ⟨root, _, h⟩
    · obtain ⟨hroot, hbroken⟩ := (escapes_rootItems_iff _).mp h
      have hstated := (exists_addPartitionFiles_iff _ _).mp ⟨files, hfiles⟩
      exact .own hchecked ((exists_rulesItems_iff g interpreter).mp ⟨rules, hrules⟩)
        (List.forall_mem_cons.mpr ⟨hroot, hstated⟩) hbroken
    · exact absurd h (not_failsWith_ok _ _)
  · rintro (⟨hsplit, hbefore, hp⟩ | ⟨hchecked, hpool, hunspelled⟩ | ⟨hchecked, hpools, hstated, hbroken⟩)
    · exact (failsWith_bind_iff _ _ _).mpr (.inl ((escapes_checkPartitions_iff _).mpr ⟨_, _, _, hsplit, hbefore, hp⟩))
    · refine (failsWith_bind_iff _ _ _).mpr (.inr ⟨(), (checkPartitions_eq_ok_iff _).mpr hchecked, ?_⟩)
      exact (failsWith_bind_iff _ _ _).mpr (.inl ((escapes_rulesItems_iff g interpreter).mpr ⟨_, hpool, hunspelled⟩))
    · obtain ⟨hroot, hparts⟩ := List.forall_mem_cons.mp hstated
      obtain ⟨rules, hrules⟩ := (exists_rulesItems_iff g interpreter).mpr hpools
      obtain ⟨files, hfiles⟩ := (exists_addPartitionFiles_iff [(rulesFile, rules)] g.partitions).mpr hparts
      refine (failsWith_bind_iff _ _ _).mpr (.inr ⟨(), (checkPartitions_eq_ok_iff _).mpr hchecked, ?_⟩)
      refine (failsWith_bind_iff _ _ _).mpr (.inr ⟨rules, hrules, ?_⟩)
      refine (failsWith_bind_iff _ _ _).mpr (.inr ⟨files, hfiles, ?_⟩)
      exact (failsWith_bind_iff _ _ _).mpr (.inl ((escapes_rootItems_iff _).mpr ⟨hroot, hbroken⟩))

theorem escapes_emit_iff (g : Graph) (interpreter : String) :
    FailsWith EmitFault.Escapes (emit g interpreter) ↔ Overlooked g := by
  rw [← escapes_emitItems_iff g interpreter]
  refine (failsWith_bind_iff _ _ _).trans ⟨?_, .inl⟩
  rintro (h | ⟨_, _, h⟩)
  · exact h
  · exact absurd h (not_failsWith_ok _ _)

end Files
end BuildTree.Ninja
