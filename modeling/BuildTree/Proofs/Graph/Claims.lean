import BuildTree.Proofs.Graph.Ownership

/-!
# Exact claims

As long as one target stands for the pass from when it is installed, and is not built itself, the claims of a graph
are exactly what it produces: the outputs of its registered targets and the files that the pass writes.
-/

namespace BuildTree.Graph
open Relation

/-- An output of a registered target, or a file that the pass writes. -/
def Produces (g : Graph) (o : String) : Prop :=
  (∃ t ∈ g.targets, o ∈ (g.node t).allOutputs) ∨ g.PassWrites o

def Opens (g : Graph) (t : TargetId) : Prop :=
  ∃ name, (g.node t).partition = .text name ∧ ¬ g.UsesPartition name

def Backed (g : Graph) : Prop :=
  ∀ o ∈ g.claims.keys, g.Produces o

theorem Still.backed {g g' : Graph} (h : Still g g') (sound : Sound g) (backed : Backed g) : Backed g' := by
  intro o ho
  rw [h.claims] at ho
  rcases backed o ho with ⟨t, ht, hout⟩ | hwrites
  · refine .inl ⟨t, h.targets ▸ ht, ?_⟩
    rwa [(h.products t (sound.made t ht)).allOutputs]
  · exact .inr ((h.passWrites_iff sound o).mpr hwrites)

theorem backed_registered {g : Graph} (sound : Sound g) (backed : Backed g) {t : TargetId} (made : g.Made t) :
    Backed (g.registered t) := by
  intro o ho
  obtain ⟨owner, hclaim⟩ := (Table.mem_keys_iff _ o).mp ho
  rw [get?_claims_registered] at hclaim
  have hwrites := passWrites_registered_iff g t o
  by_cases hfile : g.openedPartition (g.node t) = some o
  · obtain ⟨hpass, name, hp, _, hplace⟩ :=
      (openedPartition_eq_some_iff sound.targetsNamed (sound.named t made) o).mp hfile
    exact .inr (hwrites.mpr (.inr ⟨hpass, name, hp, hplace⟩))
  · rw [if_neg hfile] at hclaim
    by_cases hout : o ∈ (g.node t).allOutputs
    · exact .inl ⟨t, List.mem_append_right _ List.mem_cons_self, hout⟩
    · rw [if_neg hout] at hclaim
      rcases backed o ((Table.mem_keys_iff _ o).mpr ⟨owner, hclaim⟩) with ⟨u, hu, ho⟩ | hold
      · exact .inl ⟨u, List.mem_append_left _ hu, ho⟩
      · exact .inr (hwrites.mpr (.inl hold))

theorem mem_allOutputs_generated {g : Graph} {r : TargetId} (path : String) {t : TargetId} (made : g.Made t)
    {o : String} (ho : o ∈ (g.node t).allOutputs) : o ∈ ((g.generated r path).node t).allOutputs := by
  by_cases h : t = r
  · have hnode : (g.generated r path).node t = (g.node t).addOutput path := by
      rw [← h]
      exact node_modifyNode_self g _ made
    have himplicit : ((g.node t).addOutput path).implicitOutputs = (g.node t).implicitOutputs := by
      unfold Target.addOutput
      split <;> rfl
    rw [hnode, Target.allOutputs, himplicit, List.mem_append, mem_outputs_addOutput_iff]
    exact (List.mem_append.mp ho).imp .inl id
  · have hnode : (g.generated r path).node t = g.node t := node_modifyNode_of_ne g _ h
    rwa [hnode]

theorem backed_generated {g : Graph} (sound : Sound g) (backed : Backed g) {r : TargetId} {path : String}
    (free : g.Generable r path) : Backed (g.generated r path) := by
  intro o ho
  obtain ⟨owner, hclaim⟩ := (Table.mem_keys_iff _ o).mp ho
  have hclaims : (g.generated r path).claims = g.claims.insert (g.generatedPath path) r := rfl
  have hwrites := passWrites_generated_iff sound free o
  rw [hclaims, Table.get?_insert] at hclaim
  by_cases hpath : o = g.generatedPath path
  · exact .inr (hwrites.mpr (.inr hpath))
  · rw [if_neg hpath] at hclaim
    rcases backed o ((Table.mem_keys_iff _ o).mpr ⟨owner, hclaim⟩) with ⟨t, ht, hout⟩ | hold
    · exact .inl ⟨t, ht, mem_allOutputs_generated path (sound.made t ht) hout⟩
    · exact .inr (hwrites.mpr (.inl hold))

theorem backed_installed {g : Graph} (sound : Sound g) (backed : Backed g) (hpass : g.pass = none) (r : TargetId) :
    Backed (g.installed r) := by
  intro o ho
  obtain ⟨owner, hclaim⟩ := (Table.mem_keys_iff _ o).mp ho
  have hclaims : (g.installed r).claims = g.claims.insertKeys (g.passClaims (g.node r)) r := rfl
  rw [hclaims, Table.get?_insertKeys] at hclaim
  by_cases hmem : o ∈ g.passClaims (g.node r)
  · exact .inr ((passWrites_installed_iff sound r o).mpr hmem)
  · rw [if_neg hmem] at hclaim
    rcases backed o ((Table.mem_keys_iff _ o).mpr ⟨owner, hclaim⟩) with hout | ⟨r', hr', _⟩
    · exact .inl hout
    · rw [hpass] at hr'
      cases hr'

variable {Asked : TargetId → Prop}

theorem Growth.backed {g g' : Graph} (step : Growth Target.Named Asked g g') (sound : Sound g)
    (backed : Backed g) : Backed g' := by
  cases step with
  | make fit => exact (still_push g _).backed sound backed
  | edit t same => exact (still_modifyNode g t same).backed sound backed
  | enterTag location fresh => exact (still_withTag g _ location).backed sound backed
  | enterPool admitted => exact (still_withPool g _ _).backed sound backed
  | register made free asked => exact backed_registered sound backed made
  | generate free => exact backed_generated sound backed free

theorem backed_of_growth {g g' : Graph} (steps : ReflTransGen (Growth Target.Named Asked) g g') (sound : Sound g)
    (backed : Backed g) : Backed g' :=
  Growth.invariant Growth.backed steps sound backed

theorem backed_start (buildDir : Option String) : Backed (start buildDir) :=
  backed_of_growth (growth_start buildDir) (sound_blank buildDir) fun _ h => by cases h

/-- Claims stay backed through a run in which at most one target is made the one for the pass. -/
theorem backed_run {g : Graph} {ops : List Operation} (valid : g.ValidRun ops) (sound : Sound g) (backed : Backed g)
    (once : (g.installs ops).length ≤ 1) (fresh : g.pass.isSome → g.installs ops = []) : Backed (g.run ops) := by
  induction ops generalizing g with
  | nil => exact backed
  | cons op rest ih =>
    -- a second one would leave the claims of the first behind, with nothing that produces them
    rw [installs] at once fresh
    rcases after_cases valid.1 with ⟨r, _, made, _, hby, hafter⟩ | ⟨hby, steps⟩
    · rw [hby, Option.toList_some] at once fresh
      have hpass : g.pass = none := Option.not_isSome_iff_eq_none.mp fun h => List.cons_ne_nil _ _ (fresh h)
      have hrest : (g.after op).installs rest = [] := by
        rw [List.length_append, List.length_singleton] at once
        exact List.length_eq_zero_iff.mp (by omega)
      exact ih valid.2 (hafter ▸ sound_installed sound made) (hafter ▸ backed_installed sound backed hpass r)
        (by rw [hrest]; exact Nat.zero_le _) fun _ => hrest
    · rw [hby, Option.toList_none, List.nil_append] at once fresh
      refine ih valid.2 (sound_of_growth steps sound) (backed_of_growth steps sound backed) once ?_
      rwa [(Growth.keeps_of_steps steps).pass]

/-- The registered targets made for a pass are among those that were asked to be registered. -/
def AskedFor (asked : List TargetId) (g : Graph) : Prop :=
  ∀ t ∈ g.targets, (g.node t).isPass = true → t ∈ asked

theorem isPass_congr {t u : Target} (h : u.action = t.action) : u.isPass = t.isPass := by
  rw [Target.isPass, Target.isPass, h]

theorem Growth.askedFor {g g' : Graph} {asked : List TargetId} (step : Growth Target.Named Asked g g')
    (sound : Sound g) (hasked : ∀ t, Asked t → t ∈ asked) (h : AskedFor asked g) : AskedFor asked g' := by
  have hold : ∀ t ∈ g.targets, (g'.node t).isPass = true → t ∈ asked := fun t ht hp =>
    h t ht (isPass_congr (step.keeps.action t (sound.made t ht)) ▸ hp)
  cases step with
  | make fit => exact hold
  | edit t same => exact hold
  | enterTag location fresh => exact hold
  | enterPool admitted => exact hold
  | generate free => exact hold
  | register made free asked =>
    intro u hu hp
    rcases List.mem_append.mp hu with hu | hu
    · exact hold u hu hp
    · rw [List.mem_singleton.mp hu] at hp ⊢
      exact hasked _ (asked hp)

theorem askedFor_of_growth {g g' : Graph} {asked : List TargetId}
    (steps : ReflTransGen (Growth Target.Named Asked) g g') (sound : Sound g)
    (hasked : ∀ t, Asked t → t ∈ asked) (h : AskedFor asked g) : AskedFor asked g' :=
  Growth.invariant (fun step sound h => step.askedFor sound hasked h) steps sound h

theorem mem_registers_iff (ops : List Operation) (t : TargetId) : t ∈ registers ops ↔ .register t ∈ ops := by
  simp only [registers, List.mem_filterMap]
  constructor
  · rintro ⟨op, hop, h⟩
    cases op <;> simp_all
  · intro h
    exact ⟨_, h, rfl⟩

/-- A run registers a target made for a pass only if it asks for that, and what it installs is of that kind. -/
theorem kinds_run {g : Graph} {ops asked : List Operation} (valid : g.ValidRun ops) (sound : Sound g)
    (sub : ops ⊆ asked) (h : AskedFor (registers asked) g) :
    AskedFor (registers asked) (g.run ops) ∧ (∀ t, g.Made t → ((g.run ops).node t).isPass = (g.node t).isPass) ∧
      ∀ r ∈ g.installs ops, ((g.run ops).node r).isPass = true := by
  induction ops generalizing g with
  | nil => exact ⟨h, fun _ _ => rfl, fun _ hr => by cases hr⟩
  | cons op rest ih =>
    have hsub : rest ⊆ asked := fun x hx => sub (List.mem_cons_of_mem op hx)
    rw [run_cons, installs]
    rcases after_cases valid.1 with ⟨r, rfl, made, _, hby, hafter⟩ | ⟨hby, steps⟩
    · have hnode : ∀ t, (g.after (.install r)).node t = g.node t := fun t => by rw [hafter]; rfl
      have hmade : ∀ t, g.Made t → (g.after (.install r)).Made t := fun t ht => by rw [hafter]; exact ht
      have h' : AskedFor (registers asked) (g.after (.install r)) := by
        rw [hafter]
        exact h
      obtain ⟨hasked, hkind, hinst⟩ := ih valid.2 (hafter ▸ sound_installed sound made) hsub h'
      refine ⟨hasked, fun t ht => by rw [hkind t (hmade t ht), hnode], fun r' hr' => ?_⟩
      rw [hby] at hr'
      rcases List.mem_cons.mp hr' with rfl | hr'
      · rw [hkind r' (hmade r' made), hnode]
        exact valid.1.2
      · exact hinst r' hr'
    · have keeps := Growth.keeps_of_steps steps
      have h' := askedFor_of_growth steps sound
        (fun t ht => (mem_registers_iff asked t).mpr (ht ▸ sub List.mem_cons_self)) h
      obtain ⟨hasked, hkind, hinst⟩ := ih valid.2 (sound_of_growth steps sound) hsub h'
      refine ⟨hasked, fun t ht => ?_, fun r' hr' => ?_⟩
      · rw [hkind t (keeps.made t ht), isPass_congr (keeps.action t ht)]
      · rw [hby] at hr'
        exact hinst r' hr'

theorem askedFor_start (buildDir : Option String) (asked : List TargetId) : AskedFor asked (start buildDir) :=
  askedFor_of_growth (growth_start buildDir) (sound_blank buildDir) (fun _ h => h.elim)
    fun _ h => by cases h

/-- A graph whose claims are exactly what it produces. Then no two of its targets share an output, and another one that
opens no partition is registered exactly if nothing that it makes is produced yet. -/
structure ExactClaims (g : Graph) : Prop where
  claimed_iff : ∀ o, o ∈ g.claims.keys ↔ g.Produces o
  apart : ∀ t ∈ g.targets, ∀ u ∈ g.targets, t ≠ u → ∀ o ∈ (g.node t).allOutputs, o ∉ (g.node u).allOutputs
  accepts_iff : ∀ t, g.Made t → ¬ g.Opens t →
    (g.accepts (.register t) = true ↔ ∀ o ∈ (g.node t).allOutputs, ¬ g.Produces o)

theorem not_produces_iff {g : Graph} (h : ∀ o, o ∈ g.claims.keys ↔ g.Produces o) (outputs : List String) :
    g.Unclaimed none outputs ↔ ∀ o ∈ outputs, ¬ g.Produces o := by
  rw [unclaimed_none_iff]
  refine forall₂_congr fun o _ => ?_
  rw [← h, Table.get?_eq_none_iff]

theorem openedPartition_eq_none {g : Graph} (sound : Sound g) {t : TargetId} (made : g.Made t) (h : ¬ g.Opens t) :
    g.openedPartition (g.node t) = none := by
  cases hfile : g.openedPartition (g.node t) with
  | none => rfl
  | some file =>
    obtain ⟨_, name, hp, huse, _⟩ :=
      (openedPartition_eq_some_iff sound.targetsNamed (sound.named t made) file).mp hfile
    exact absurd ⟨name, hp, huse⟩ h

/-- The claims are exact after every run that makes at most one target the one for the pass and does not ask to
register it. -/
theorem exactClaims_run {buildDir : Option String} {ops : List Operation} (valid : (start buildDir).ValidRun ops)
    (once : ((start buildDir).installs ops).length ≤ 1)
    (unasked : ∀ r ∈ (start buildDir).installs ops, r ∉ registers ops) :
    ExactClaims ((start buildDir).run ops) := by
  obtain ⟨sound, owned⟩ := owned_run valid (sound_start buildDir) (owned_start buildDir)
  obtain ⟨asked, _, kinds⟩ := kinds_run valid (sound_start buildDir) (List.Subset.refl ops)
    (askedFor_start buildDir (registers ops))
  have backed := backed_run valid (sound_start buildDir) (backed_start buildDir) once fun h => by cases h
  generalize (start buildDir).run ops = g at *
  rw [List.nil_append] at owned
  have never : ∀ t ∈ g.targets, t ∉ (start buildDir).installs ops := fun t ht hinst =>
    unasked t hinst (asked t ht (kinds t hinst))
  have hiff : ∀ o, o ∈ g.claims.keys ↔ g.Produces o := fun o => by
    refine ⟨backed o, fun h => (Table.mem_keys_iff _ o).mpr ?_⟩
    rcases h with ⟨t, ht, ho⟩ | hwrites
    · exact owned.claimed ht (never t ht) ho
    · obtain ⟨r, hr, _⟩ := id hwrites
      exact ⟨r, owned.passOwns r o hr hwrites⟩
  refine ⟨hiff, fun t ht u hu hne => owned.apart t ht u hu (never t ht) (never u hu) hne, fun t made hopens => ?_⟩
  rw [accepts_register_iff, ← not_produces_iff hiff]
  exact registrable_of_openedPartition_eq_none (openedPartition_eq_none sound made hopens)

/-- A run in which a partition is used before there is a target for the pass, and some things are refused. -/
def partitionFirst : List Operation :=
  [.make (Target.pass "build.ninja" [] [.text "kiln"]),
    .make { Target.emptyGroup "lib.a" none with
      action := .nothing, implicitOutputs := ["lib.h"], partition := .text "tools" },
    .addGenerated "early.json" none, .register ⟨2⟩, .install ⟨1⟩, .attach (.target ⟨2⟩) none ["all", "dist"],
    .addGenerated "late.json" none, .register ⟨2⟩, .declarePool (.text "console") .yes none]

theorem exactClaims_partitionFirst : ExactClaims ((start (some "/b")).run partitionFirst) := by
  refine exactClaims_run ⟨.inl rfl, .inr ⟨"tools", rfl⟩, trivial, ?_, ⟨?_, ?_⟩, trivial, trivial, ?_, trivial, trivial⟩
    (by decide +kernel) (by decide +kernel)
  · show Made _ _
    decide +kernel
  · decide +kernel
  · decide +kernel
  · show Made _ _
    decide +kernel

end BuildTree.Graph
