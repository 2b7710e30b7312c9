import BuildTree.Proofs.Ninja.Failure

/-!
# The target that stops serializing

Partitions are checked before anything is written, then the pools are written, and then the targets one after the other:
those of each partition, in the order in which partitions are first used, and after them those of the root file. The
first thing that fails decides. A target whose rule is unknown or whose pool was never declared fails for that reason, whatever else is
wrong with it.
-/

namespace BuildTree.Ninja
open Effect BuildTree.Graph

variable {g : Graph} {t : Target} {o : Obstacle} {e : EmitFault}

/-- The targets in the order in which they are written. -/
def emissionOrder (g : Graph) : List Target :=
  g.partitions.flatMap (partitionTargets g) ++ partitionTargets g .null

/-- A target that refers to a rule or a pool that there is none of, and what is said about it. -/
inductive Unfit (g : Graph) (t : Target) : Obstacle → Prop where
  | rule (unknown : ∀ name, t.action.rule = .text name → isKnownRule name = false) :
      Unfit g t (if t.action.rule.isKey then .about g t.action.rule .unknownRule else .misfit)
  | pool {r : Recipe} (runs : t.action = .run r) (given : r.pool.isGiven = true) (notConsole : isConsole r.pool = false)
      (undeclared : g.pools.has r.pool = false) :
      Unfit g t (if r.pool.isKey then .about g r.pool .undeclaredPool else .misfit)

/-- What stops serializing before a target is come to: a partition, a pool that has no text, or one of the targets in
front of it. -/
def StopsBefore (g : Graph) (before : List Target) (e : EmitFault) : Prop :=
  (∃ p ∈ g.partitions, checkPartition g p = .error e) ∨ ((∃ pool ∈ g.pools, ¬ SpelledPool g pool) ∧ e = .unwritable) ∨
    ∃ u ∈ before, ∃ o, targetStatement g u = .error o ∧ e = .target u.name o u.definedAt

theorem knownRule_of_unknown {rule : Given} (h : ∀ name, rule = .text name → isKnownRule name = false) :
    knownRule g rule = .error (if rule.isKey then .about g rule .unknownRule else .misfit) := by
  cases rule with
  | text name =>
    have hkey : (Value.text name : Given).isKey = true := rfl
    rw [knownRule, h name rfl, hkey]
    rfl
  | _ => rfl

theorem poolInUse_of_undeclared {pool : Given} (given : pool.isGiven = true) (notConsole : isConsole pool = false)
    (undeclared : g.pools.has pool = false) :
    poolInUse g pool = .error (if pool.isKey then .about g pool .undeclaredPool else .misfit) := by
  rw [poolInUse, given, notConsole, undeclared]
  cases pool.isKey <;> rfl

theorem targetStatement_of_unfit (h : Unfit g t o) : targetStatement g t = .error o := by
  unfold targetStatement
  cases h with
  | rule unknown => exact (bind_eq_error_iff _ _ _).mpr (.inl (knownRule_of_unknown unknown))
  | pool runs given notConsole undeclared =>
    have hrule : knownRule g t.action.rule = .ok "command" := by
      rw [runs]
      rfl
    have hpool := poolInUse_of_undeclared given notConsole undeclared
    refine (bind_eq_error_iff _ _ _).mpr (.inr ⟨_, hrule, (bind_eq_error_iff _ _ _).mpr (.inl ?_)⟩)
    rw [actionBindings, runs]
    exact (bind_eq_error_iff _ _ _).mpr (.inl hpool)

section Order

theorem targetStatements_cons_error_iff (ts : List Target) : targetStatements g (t :: ts) = .error e ↔
    (∃ o, targetStatement g t = .error o ∧ e = .target t.name o t.definedAt) ∨
      (∃ s, targetStatement g t = .ok s) ∧ targetStatements g ts = .error e := by
  rw [targetStatements, bind_eq_error_iff]
  cases hstated : targetStatement g t with
  | error o => simp [eq_comm]
  | ok s => simp [bind_eq_error_iff, pure, Except.pure]

theorem exists_of_targetStatements_error {ts : List Target} (h : targetStatements g ts = .error e) :
    ∃ u ∈ ts, ∃ o, targetStatement g u = .error o ∧ e = .target u.name o u.definedAt := by
  induction ts with
  | nil => cases h
  | cons t ts ih =>
    rcases (targetStatements_cons_error_iff ts).mp h with hfirst | ⟨_, hrest⟩
    · exact ⟨t, List.mem_cons_self, hfirst⟩
    · obtain ⟨u, hu, hfails⟩ := ih hrest
      exact ⟨u, List.mem_cons_of_mem t hu, hfails⟩

theorem targetStatements_append_error_iff (ts us : List Target) : targetStatements g (ts ++ us) = .error e ↔
    targetStatements g ts = .error e ∨ (∃ ss, targetStatements g ts = .ok ss) ∧ targetStatements g us = .error e := by
  induction ts with
  | nil => simp [targetStatements]
  | cons t ts ih =>
    have hstated : (∃ ss, targetStatements g (t :: ts) = .ok ss) ↔
        (∃ s, targetStatement g t = .ok s) ∧ ∃ ss, targetStatements g ts = .ok ss := by
      rw [exists_targetStatements_iff, exists_targetStatements_iff, List.forall_mem_cons]
    rw [List.cons_append, targetStatements_cons_error_iff, ih, targetStatements_cons_error_iff, hstated,
      and_or_left, or_assoc, and_assoc]

/-- The files of partitions fail like their targets in their order. -/
theorem addPartitionFiles_eq_error_iff (files : Table (List Item)) (ps : List Given) :
    addPartitionFiles g files ps = .error e ↔ targetStatements g (ps.flatMap (partitionTargets g)) = .error e := by
  induction ps generalizing files with
  | nil => exact iff_of_false nofun nofun
  | cons p ps ih =>
    rw [List.flatMap_cons, targetStatements_append_error_iff, addPartitionFiles, bind_eq_error_iff, partitionItems,
      bind_eq_error_iff]
    cases targetStatements g (partitionTargets g p) with
    | error e' => simp [bind, Except.bind]
    | ok ss => simp [bind, Except.bind, pure, Except.pure, ih]

theorem emitItems_eq_error {interpreter : String} {rules : List Item}
    (hchecked : checkPartitions g g.partitions = .ok ()) (hrules : rulesItems g interpreter = .ok rules)
    (h : targetStatements g (emissionOrder g) = .error e) : emitItems g interpreter = .error e := by
  refine (bind_eq_error_iff _ _ _).mpr (.inr ⟨(), hchecked, (bind_eq_error_iff _ _ _).mpr ?_⟩)
  refine .inr ⟨rules, hrules, (bind_eq_error_iff _ _ _).mpr ?_⟩
  rcases (targetStatements_append_error_iff _ _).mp h with hparts | ⟨hparts, hroot⟩
  · exact .inl ((addPartitionFiles_eq_error_iff _ _).mpr hparts)
  · have hstated := (exists_targetStatements_iff _).mp hparts
    obtain ⟨files, hfiles⟩ := (exists_addPartitionFiles_iff [(rulesFile, rules)] g.partitions).mpr
      fun p hp t ht => hstated t (List.mem_flatMap.mpr ⟨p, hp, ht⟩)
    refine .inr ⟨files, hfiles, (bind_eq_error_iff _ _ _).mpr (.inl ?_)⟩
    exact (bind_eq_error_iff _ _ _).mpr (.inl hroot)

theorem exists_of_checkPartitions_error {ps : List Given} (h : checkPartitions g ps = .error e) :
    ∃ p ∈ ps, checkPartition g p = .error e := by
  induction ps with
  | nil => cases h
  | cons p ps ih =>
    rcases (bind_eq_error_iff _ _ _).mp h with hfirst | ⟨_, _, hrest⟩
    · exact ⟨p, List.mem_cons_self, hfirst⟩
    · obtain ⟨q, hq, hfails⟩ := ih hrest
      exact ⟨q, List.mem_cons_of_mem p hq, hfails⟩

/-- What is wrong with a target stops serializing, if nothing did before. -/
theorem emitItems_of_failing (interpreter : String) {before after : List Target}
    (hsplit : emissionOrder g = before ++ t :: after) (hfails : targetStatement g t = .error o) :
    ∃ e, emitItems g interpreter = .error e ∧ (StopsBefore g before e ∨ e = .target t.name o t.definedAt) := by
  cases hchecked : checkPartitions g g.partitions with
  | error e =>
    obtain ⟨p, hp, hpart⟩ := exists_of_checkPartitions_error hchecked
    exact ⟨e, (bind_eq_error_iff _ _ _).mpr (.inl hchecked), .inl (.inl ⟨p, hp, hpart⟩)⟩
  | ok =>
    cases hrules : rulesItems g interpreter with
    | error e =>
      obtain ⟨rfl, hpool⟩ := of_rulesItems_error hrules
      refine ⟨_, (bind_eq_error_iff _ _ _).mpr (.inr ⟨(), hchecked, ?_⟩), .inl (.inr (.inl ⟨hpool, rfl⟩))⟩
      exact (bind_eq_error_iff _ _ _).mpr (.inl hrules)
    | ok rules =>
      cases hbefore : targetStatements g before with
      | error e =>
        have horder : targetStatements g (emissionOrder g) = .error e := by
          rw [hsplit]
          exact (targetStatements_append_error_iff _ _).mpr (.inl hbefore)
        exact ⟨e, emitItems_eq_error hchecked hrules horder, .inl (.inr (.inr (exists_of_targetStatements_error hbefore)))⟩
      | ok ss =>
        have horder : targetStatements g (emissionOrder g) = .error (.target t.name o t.definedAt) := by
          rw [hsplit, targetStatements_append_error_iff]
          exact .inr ⟨⟨ss, hbefore⟩, (targetStatements_cons_error_iff _).mpr (.inl ⟨o, hfails, rfl⟩)⟩
        exact ⟨_, emitItems_eq_error hchecked hrules horder, .inr rfl⟩

end Order

end BuildTree.Ninja
