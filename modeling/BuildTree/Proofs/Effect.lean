import Mathlib.Data.List.Forall2
import Mathlib.Order.Defs.Unbundled

/-!
# Running what can fail

Of two outcomes in order the second one counts if the first one is there.

A change of a state that can fail is run by applying it to a state: it gives its outcome and the state afterwards,
whichever way it ended, and its effects stay. One equation for each way such changes are put together; with them a
run is followed step by step.

Where only the states before and after count, `Leads` follows a relation between them instead. It has to hold of the
parts of a run, and then holds of the whole if it is reflexive and transitive.
-/

namespace BuildTree.Effect

variable {ε σ α β : Type}

theorem bind_eq_ok_iff (x : Except ε α) (f : α → Except ε β) (b : β) :
    x >>= f = .ok b ↔ ∃ a, x = .ok a ∧ f a = .ok b := by
  cases x with
  | error e => simp [bind, Except.bind]
  | ok a => simp [bind, Except.bind]

theorem bind_eq_error_iff (x : Except ε α) (f : α → Except ε β) (e : ε) :
    x >>= f = .error e ↔ x = .error e ∨ ∃ a, x = .ok a ∧ f a = .error e := by
  cases x with
  | error e => simp [bind, Except.bind]
  | ok a => simp [bind, Except.bind]

theorem map_eq_ok_iff (x : Except ε α) (f : α → β) (b : β) : x.map f = .ok b ↔ ∃ a, x = .ok a ∧ f a = b := by
  cases x with
  | error e => simp [Except.map]
  | ok a => simp [Except.map]

theorem mapM_eq_ok_iff {f : α → Except ε β} {as : List α} {bs : List β} :
    as.mapM f = .ok bs ↔ List.Forall₂ (fun a b => f a = .ok b) as bs := by
  induction as generalizing bs with
  | nil => cases bs <;> simp [pure, Except.pure]
  | cons a as ih =>
    rw [List.mapM_cons, bind_eq_ok_iff]
    cases bs with
    | nil => simp [bind_eq_ok_iff, pure, Except.pure]
    | cons b bs => simp [bind_eq_ok_iff, pure, Except.pure, ih]

theorem exists_mapM_eq_ok_iff {f : α → Except ε β} {as : List α} :
    (∃ bs, as.mapM f = .ok bs) ↔ ∀ a ∈ as, ∃ b, f a = .ok b := by
  simp only [mapM_eq_ok_iff]
  induction as with
  | nil => simp
  | cons a as ih => simp [List.forall₂_cons_left_iff, ← ih]

theorem exists_of_mem_mapM {f : α → Except ε β} {as : List α} {bs : List β} (h : as.mapM f = .ok bs) {b : β}
    (hb : b ∈ bs) : ∃ a ∈ as, f a = .ok b := by
  have hall := mapM_eq_ok_iff.mp h
  clear h
  induction hall with
  | nil => cases hb
  | @cons a b' as bs hfirst _ ih =>
    rcases List.mem_cons.mp hb with rfl | hb
    · exact ⟨a, List.mem_cons_self, hfirst⟩
    · obtain ⟨a', ha', hb⟩ := ih hb
      exact ⟨a', List.mem_cons_of_mem a ha', hb⟩

theorem eq_ok_of_toOption {x : Except ε α} {a : α} (h : a ∈ x.toOption) : x = .ok a := by
  cases x with
  | error e => cases h
  | ok b =>
    cases h
    rfl

theorem exists_of_toOption {x : Except ε α} (h : x.toOption.isSome = true) : ∃ a, x = .ok a := by
  obtain ⟨a, ha⟩ := Option.isSome_iff_exists.mp h
  exact ⟨a, eq_ok_of_toOption ha⟩

theorem eq_ok_pair_of_toOption {σ : Type} {run : Except ε α × σ} {a : α} (h : a ∈ run.1.toOption) :
    run = (.ok a, run.2) :=
  Prod.ext (eq_ok_of_toOption h) rfl

section MapError
variable {ε' : Type} (f : ε → ε')

@[simp] theorem mapError_ok (a : α) : (Except.ok a : Except ε α).mapError f = .ok a := rfl

@[simp] theorem mapError_error (e : ε) : (Except.error e : Except ε α).mapError f = .error (f e) := rfl

end MapError

/-- Ends with an error that a predicate holds of. -/
def FailsWith (P : ε → Prop) (x : Except ε α) : Prop :=
  ∃ e, x = .error e ∧ P e

theorem not_failsWith_ok (P : ε → Prop) (a : α) : ¬ FailsWith P (.ok a) := fun ⟨_, h, _⟩ => by cases h

theorem failsWith_error_iff (P : ε → Prop) (e : ε) : FailsWith P (.error e : Except ε α) ↔ P e :=
  ⟨fun ⟨_, h, hp⟩ => Except.error.inj h ▸ hp, fun hp => ⟨e, rfl, hp⟩⟩

instance (P : ε → Prop) [DecidablePred P] (x : Except ε α) : Decidable (FailsWith P x) :=
  match x with
  | .ok a => isFalse (not_failsWith_ok P a)
  | .error e => decidable_of_iff (P e) (failsWith_error_iff P e).symm

/-- What fails like that whenever it fails does so just if it is not done. -/
theorem failsWith_iff_not_exists {P : ε → Prop} {x : Except ε α} (h : ∀ e, x = .error e → P e) :
    FailsWith P x ↔ ¬ ∃ a, x = .ok a := by
  cases x with
  | error e => exact iff_of_true ⟨e, rfl, h e rfl⟩ fun ⟨_, hok⟩ => by cases hok
  | ok a => exact iff_of_false (not_failsWith_ok P a) fun hnot => hnot ⟨a, rfl⟩

/-- Of two things done in order, either the first one fails like that, or it is done and the second one does. -/
theorem failsWith_bind_iff (P : ε → Prop) (x : Except ε α) (f : α → Except ε β) :
    FailsWith P (x >>= f) ↔ FailsWith P x ∨ ∃ a, x = .ok a ∧ FailsWith P (f a) := by
  cases x with
  | error e => simp [bind, Except.bind, FailsWith]
  | ok a => simp [bind, Except.bind, FailsWith]

/-- What comes after the first of two things done in order. -/
def andThen (f : α → ExceptT ε (StateM σ) β) : Except ε α × σ → Except ε β × σ
  | (.ok a, s) => (f a).run s
  | (.error e, s) => (.error e, s)

@[simp] theorem andThen_ok (f : α → ExceptT ε (StateM σ) β) (a : α) (s : σ) :
    andThen f (.ok a, s) = (f a).run s := rfl

@[simp] theorem andThen_error (f : α → ExceptT ε (StateM σ) β) (e : ε) (s : σ) :
    andThen f (.error e, s) = (.error e, s) := rfl

@[simp] theorem snd_andThen_pure (g : α → β) (first : Except ε α × σ) :
    (andThen (fun a => (pure (g a) : ExceptT ε (StateM σ) β)) first).2 = first.2 := by
  rcases first with ⟨outcome, s⟩
  cases outcome <;> rfl

@[simp] theorem run_bind (c : ExceptT ε (StateM σ) α) (f : α → ExceptT ε (StateM σ) β) (s : σ) :
    (c >>= f).run s = andThen f (c.run s) := by
  show (c >>= f) s = _
  simp only [bind, ExceptT.bind, ExceptT.mk, StateT.bind]
  cases h : c s with
  | mk outcome s' => cases outcome <;> simp [ExceptT.run, h] <;> rfl

@[simp] theorem run_pure (a : α) (s : σ) : (pure a : ExceptT ε (StateM σ) α).run s = (.ok a, s) := rfl

@[simp] theorem run_throw (e : ε) (s : σ) : (throw e : ExceptT ε (StateM σ) α).run s = (.error e, s) := rfl

@[simp] theorem run_get (s : σ) : (get : ExceptT ε (StateM σ) σ).run s = (.ok s, s) := rfl

@[simp] theorem run_set (s' s : σ) : (set s' : ExceptT ε (StateM σ) PUnit).run s = (.ok ⟨⟩, s') := rfl

@[simp] theorem run_modify (f : σ → σ) (s : σ) :
    (modify f : ExceptT ε (StateM σ) PUnit).run s = (.ok ⟨⟩, f s) := rfl

@[simp] theorem run_lift (e : Except ε α) (s : σ) :
    (liftM e : ExceptT ε (StateM σ) α).run s = (e, s) := by
  cases e <;> rfl

theorem run_bind_eq_ok_iff {c : ExceptT ε (StateM σ) α} {f : α → ExceptT ε (StateM σ) β} {s s'' : σ} {b : β} :
    (c >>= f).run s = (.ok b, s'') ↔ ∃ a s', c.run s = (.ok a, s') ∧ (f a).run s' = (.ok b, s'') := by
  rw [run_bind]
  rcases hc : c.run s with ⟨outcome, s'⟩
  cases outcome with
  | error e =>
    refine iff_of_false (fun h => ?_) fun ⟨_, _, h, _⟩ => ?_
    · cases congrArg Prod.fst h
    · cases congrArg Prod.fst h
  | ok a =>
    refine ⟨fun h => ⟨a, s', rfl, h⟩, fun ⟨_, _, h, hf⟩ => ?_⟩
    cases h
    exact hf

/-- Wherever a change starts, the relation holds between that state and the one it ends in. -/
def Leads (R : σ → σ → Prop) (c : ExceptT ε (StateM σ) α) : Prop :=
  ∀ s, R s (c.run s).2

section Leads
variable {R : σ → σ → Prop} {c : ExceptT ε (StateM σ) α}

theorem Leads.mono {R' : σ → σ → Prop} (h : Leads R c) (himp : ∀ s s', R s s' → R' s s') : Leads R' c :=
  fun s => himp _ _ (h s)

theorem leads_modify {f : σ → σ} (h : ∀ s, R s (f s)) : Leads R (modify f : ExceptT ε (StateM σ) PUnit) := h

theorem run_adapt {ε' : Type} (f : ε → ε') (s : σ) :
    (c.adapt f).run s = ((c.run s).1.mapError f, (c.run s).2) := rfl

theorem leads_adapt {ε' : Type} (f : ε → ε') (h : Leads R c) : Leads R (c.adapt f) := fun s => by
  rw [run_adapt]
  exact h s

variable [IsPreorder σ R]

/-- A change that gives something or fails, and does nothing else. -/
theorem leads_of_still (h : ∀ s, (c.run s).2 = s) : Leads R c := fun s => by
  rw [h s]
  exact refl_of R s

theorem leads_pure (a : α) : Leads R (pure a : ExceptT ε (StateM σ) α) := leads_of_still fun _ => rfl

theorem leads_throw (e : ε) : Leads R (throw e : ExceptT ε (StateM σ) α) := leads_of_still fun _ => rfl

theorem leads_get : Leads R (get : ExceptT ε (StateM σ) σ) := leads_of_still fun _ => rfl

theorem leads_lift (e : Except ε α) : Leads R (liftM e : ExceptT ε (StateM σ) α) :=
  leads_of_still fun s => by rw [run_lift]

theorem andThen_leads {f : α → ExceptT ε (StateM σ) β} {s : σ} {first : Except ε α × σ} (h : R s first.2)
    (hf : ∀ a, Leads R (f a)) : R s (andThen f first).2 := by
  rcases first with ⟨outcome, s'⟩
  cases outcome with
  | error e => exact h
  | ok a => exact trans_of R h (hf a s')

theorem leads_bind {f : α → ExceptT ε (StateM σ) β} (hc : Leads R c) (hf : ∀ a, Leads R (f a)) :
    Leads R (c >>= f) := by
  intro s
  rw [run_bind]
  exact andThen_leads (hc s) hf

end Leads

/-- A change that has done nothing when it fails. -/
def Atomic (c : ExceptT ε (StateM σ) α) : Prop :=
  ∀ s e, (c.run s).1 = .error e → (c.run s).2 = s

section Atomic
variable {c : ExceptT ε (StateM σ) α}

theorem atomic_of_still (h : ∀ s, (c.run s).2 = s) : Atomic c := fun s _ _ => h s

theorem atomic_modify (f : σ → σ) : Atomic (modify f : ExceptT ε (StateM σ) PUnit) := fun s e h => by
  rw [run_modify] at h
  cases h

/-- Checks may come first. -/
theorem atomic_bind_of_still {f : α → ExceptT ε (StateM σ) β} (h : ∀ s, (c.run s).2 = s) (hf : ∀ a, Atomic (f a)) :
    Atomic (c >>= f) := by
  intro s e hfail
  have hsame := h s
  rw [run_bind] at hfail ⊢
  rcases hrun : c.run s with ⟨outcome, s'⟩
  rw [hrun] at hfail hsame
  subst hsame
  cases outcome with
  | error e' => rfl
  | ok a => exact hf a s' e hfail

/-- What is given at the end changes nothing. -/
theorem atomic_bind_pure (hc : Atomic c) (f : α → β) :
    Atomic (c >>= fun a => (pure (f a) : ExceptT ε (StateM σ) β)) := by
  intro s e hfail
  rw [run_bind] at hfail ⊢
  rcases hrun : c.run s with ⟨outcome, s'⟩
  rw [hrun] at hfail
  cases outcome with
  | error e' =>
    have hsame := hc s e' (congrArg Prod.fst hrun)
    rw [hrun] at hsame
    exact hsame
  | ok a => cases hfail

end Atomic

/-- From where the precondition holds, a change that is done gives what the postcondition says. -/
def Yields (P : σ → Prop) (c : ExceptT ε (StateM σ) α) (Q : α → σ → Prop) : Prop :=
  ∀ s a s', P s → c.run s = (.ok a, s') → Q a s'

section Yields
variable {P : σ → Prop} {Q : α → σ → Prop} {c : ExceptT ε (StateM σ) α}

theorem yields_pure {a : α} (h : ∀ s, P s → Q a s) : Yields P (pure a : ExceptT ε (StateM σ) α) Q :=
  fun s _ _ hs hrun => by
    cases hrun
    exact h s hs

theorem yields_throw (e : ε) : Yields P (throw e : ExceptT ε (StateM σ) α) Q := fun _ _ _ _ hrun => by
  cases congrArg Prod.fst hrun

theorem yields_bind {f : α → ExceptT ε (StateM σ) β} {Q' : β → σ → Prop} (hc : Yields P c Q)
    (hf : ∀ a, Yields (Q a) (f a) Q') : Yields P (c >>= f) Q' := fun s b s'' hs hrun => by
  obtain ⟨a, s', hfirst, hrest⟩ := run_bind_eq_ok_iff.mp hrun
  exact hf a s' b s'' (hc s a s' hs hfirst) hrest

/-- A change that gives something or fails, and does nothing else, keeps the precondition. -/
theorem yields_of_still (h : ∀ s, (c.run s).2 = s) : Yields P c fun _ => P := fun s _ _ hs hrun => by
  obtain rfl := (congrArg Prod.snd hrun).symm.trans (h s)
  exact hs

theorem yields_bind_of_still {f : α → ExceptT ε (StateM σ) β} {Q' : β → σ → Prop} (h : ∀ s, (c.run s).2 = s)
    (hf : ∀ a, Yields P (f a) Q') : Yields P (c >>= f) Q' :=
  yields_bind (yields_of_still h) hf

theorem yields_trivial : Yields P c fun _ _ => True := fun _ _ _ _ _ => trivial

end Yields

end BuildTree.Effect
