import BuildTree.Proofs.Graph.Claims
import BuildTree.Proofs.Graph.Registration

/-!
# Declarations in any order

While a target stands for the pass, registering others and recording what the pass writes need not come in a certain
order. What such a declaration takes for its target alone and what it leaves to the pass is known beforehand. The
declarations of a list are all carried out if nothing that one of them needs is taken at the start and no two of them
are at odds, and this says nothing about their order. Where a partition is used already, the pass has its file, so
whether a target is the first one of its partition makes no difference.
-/

namespace BuildTree.Graph
open Relation

/-- Whether the operations of a list are all carried out, one after the other. -/
def acceptsAll : Graph → List Operation → Bool
  | _, [] => true
  | g, op :: rest => g.accepts op && (g.after op).acceptsAll rest

/-- What an operation takes for a target alone. -/
def takes (g : Graph) : Operation → List String
  | .register t => (g.node t).allOutputs
  | _ => []

/-- What an operation leaves to the pass. -/
def grants (g : Graph) : Operation → List String
  | .register t => ((g.node t).partitionName?.map g.filePlace).toList
  | .addGenerated path _ => [g.generatedPath path]
  | _ => []

/-- A declaration that can come at any time: of a target which exists, is not the one for the pass and does not build
the file of its own partition, or of something that the pass writes. -/
def Declares (g : Graph) (r : TargetId) : Operation → Prop
  | .register t => g.Made t ∧ t ≠ r ∧ ∀ o ∈ (g.node t).allOutputs, ¬ g.IsOwnFile t o
  | .addGenerated _ _ => True
  | _ => False

/-- Nothing that an operation takes is claimed, and what it leaves to the pass is claimed by the pass at most. -/
structure Free (g : Graph) (r : TargetId) (op : Operation) : Prop where
  takes : ∀ o ∈ g.takes op, ∀ u, g.claims.get? o ≠ some u
  grants : ∀ f ∈ g.grants op, ∀ u, g.claims.get? f = some u → u = r

/-- One operation takes what the other one takes or leaves to the pass. -/
def AtOdds (g : Graph) (op op' : Operation) : Prop :=
  ∃ o, (o ∈ g.takes op ∧ o ∈ g.takes op') ∨ (o ∈ g.takes op ∧ o ∈ g.grants op') ∨ (o ∈ g.grants op ∧ o ∈ g.takes op')

/-- An operation makes a target the owner of an output. -/
def Hands (g : Graph) (r : TargetId) (op : Operation) (o : String) (u : TargetId) : Prop :=
  (o ∈ g.takes op ∧ op = .register u) ∨ (o ∈ g.grants op ∧ u = r)

theorem AtOdds.symm {g : Graph} {op op' : Operation} (h : g.AtOdds op op') : g.AtOdds op' op := by
  obtain ⟨o, h | h | h⟩ := h
  · exact ⟨o, .inl ⟨h.2, h.1⟩⟩
  · exact ⟨o, .inr (.inr ⟨h.2, h.1⟩)⟩
  · exact ⟨o, .inr (.inl ⟨h.2, h.1⟩)⟩

theorem register_of_mem_takes {g : Graph} {op : Operation} {o : String} (h : o ∈ g.takes op) :
    ∃ t, op = .register t := by
  cases op with
  | register t => exact ⟨t, rfl⟩
  | _ => cases h

theorem mem_grants_register_iff (g : Graph) (t : TargetId) (f : String) :
    f ∈ g.grants (.register t) ↔ g.IsOwnFile t f := by
  simp only [grants, Option.mem_toList, Option.map_eq_some_iff, Target.partitionName?_eq_some_iff, IsOwnFile,
    eq_comm (a := f)]

instance (g : Graph) (t : TargetId) (f : String) : Decidable (g.IsOwnFile t f) :=
  decidable_of_iff _ (mem_grants_register_iff g t f)

instance (g : Graph) (r : TargetId) (op : Operation) : Decidable (g.Declares r op) :=
  match op with
  | .register t => inferInstanceAs (Decidable (g.Made t ∧ t ≠ r ∧ ∀ o ∈ (g.node t).allOutputs, ¬ g.IsOwnFile t o))
  | .addGenerated _ _ => isTrue trivial
  | .make _ | .tag _ _ | .attach _ _ _ | .addInputs _ _ | .addImplicitInputs _ _ | .setMetadata _ _ | .install _
  | .declarePool _ _ _ => isFalse id

/-- What is known of a graph in which a target stands for the pass. -/
structure Settled (was : List TargetId) (r : TargetId) (g : Graph) : Prop where
  sound : Sound g
  owned : Owned was g
  pass : g.pass = some r
  isPass : (g.node r).isPass = true
  recorded : Recorded g

section Declarations
variable {was : List TargetId} {r : TargetId} {g : Graph}

theorem Settled.after (h : Settled was r g) {op : Operation} (d : g.Declares r op) :
    Settled was r (g.after op) ∧ Keeps g (g.after op) := by
  have valid : op.Valid g := by
    cases op with
    | register t => exact d.1
    | addGenerated path location => trivial
    | _ => exact d.elim
  rcases after_cases valid with ⟨u, rfl, _⟩ | ⟨_, steps⟩
  · exact d.elim
  have keeps := Growth.keeps_of_steps steps
  refine ⟨⟨sound_of_growth steps h.sound, owned_of_growth steps h.sound h.owned, ?_, ?_, ?_⟩, keeps⟩
  · rw [keeps.pass, h.pass]
  · rw [isPass_congr (keeps.action r (h.sound.passMade r h.pass)), h.isPass]
  · exact recorded_of_growth steps h.sound h.recorded

/-- The file of a partition belongs to the pass as soon as a target goes there. -/
theorem Settled.get?_filePlace (h : Settled was r g) {name : String} (used : g.UsesPartition name) :
    g.claims.get? (g.filePlace name) = some r :=
  h.owned.passOwns r _ h.pass ⟨r, h.pass, .inr ⟨name, used, rfl⟩⟩

theorem Settled.openedPartition_iff (h : Settled was r g) {t : TargetId} (made : g.Made t) (file : String) :
    g.openedPartition (g.node t) = some file ↔
      ∃ name, (g.node t).partition = .text name ∧ ¬ g.UsesPartition name ∧ file = g.filePlace name := by
  rw [openedPartition_eq_some_iff h.sound.targetsNamed (h.sound.named t made), h.pass]
  simp

theorem Settled.registrable_iff (h : Settled was r g) {t : TargetId} (made : g.Made t) :
    g.Registrable t ↔ g.Free r (.register t) := by
  constructor
  · intro free
    refine ⟨fun o ho u => ?_, fun f hf u hu => ?_⟩
    · rw [(unclaimed_none_iff g _).mp free.outputs o ho]
      exact Option.some_ne_none u |>.symm
    · obtain ⟨name, hp, rfl⟩ := (mem_grants_register_iff g t f).mp hf
      by_cases used : g.UsesPartition name
      · rw [h.get?_filePlace used] at hu
        exact (Option.some.inj hu).symm
      · have hopen := (h.openedPartition_iff made _).mpr ⟨name, hp, used, rfl⟩
        have := free.file _ hopen _ List.mem_cons_self u hu
        rw [h.pass] at this
        exact Option.some.inj this
  · intro free
    refine ⟨spelled_opened g (h.sound.named t made), (unclaimed_none_iff g _).mpr fun o ho => ?_,
      fun f hf o ho u hu => ?_⟩
    · exact Option.eq_none_iff_forall_ne_some.mpr (free.takes o ho)
    · obtain ⟨name, hp, _, hplace⟩ := (h.openedPartition_iff made f).mp hf
      rw [List.mem_singleton.mp ho] at hu
      rw [h.pass, free.grants f ((mem_grants_register_iff g t f).mpr ⟨name, hp, hplace⟩) u hu]

theorem Settled.generable_iff (h : Settled was r g) (path : String) (location : Option Location) :
    g.Generable r path ↔ g.Free r (.addGenerated path location) := by
  constructor
  · intro free
    refine ⟨fun o ho => absurd ho List.not_mem_nil, fun f hf u hu => ?_⟩
    exact Option.some.inj (free.file f hf u hu)
  · intro free
    refine ⟨h.pass, h.isPass, fun o ho u hu => ?_⟩
    rw [free.grants o ho u hu]

theorem Settled.addGenerated_after (h : Settled was r g) (path : String) (location : Option Location) :
    (g.Generable r path ∧ g.accepts (.addGenerated path location) = true ∧
        g.after (.addGenerated path location) = g.generated r path) ∨
      (¬ g.Generable r path ∧ g.accepts (.addGenerated path location) = false) := by
  rcases addGenerated_cases g path location with ⟨u, free, hrun⟩ | ⟨taken, fault, hrun⟩
  · cases (Option.some.inj (h.pass.symm.trans free.pass_eq) : r = u)
    refine .inl ⟨free, ?_, ?_⟩
    · rw [accepts, Operation.change, hrun]
      rfl
    · rw [Graph.after, Operation.change, hrun]
  · refine .inr ⟨taken r, ?_⟩
    rw [accepts, Operation.change, hrun]
    rfl

/-- A declaration is carried out exactly if it is free. -/
theorem Settled.accepts_iff_free (h : Settled was r g) {op : Operation} (d : g.Declares r op) :
    g.accepts op = true ↔ g.Free r op := by
  cases op with
  | register t => rw [accepts_register_iff, h.registrable_iff d.1]
  | addGenerated path location =>
    rw [← h.generable_iff]
    rcases h.addGenerated_after path location with ⟨free, hacc, _⟩ | ⟨taken, hacc⟩
    · exact iff_of_true hacc free
    · exact iff_of_false (by rw [hacc]; exact Bool.false_ne_true) taken
  | _ => exact d.elim

theorem register_after {t : TargetId} (free : g.Registrable t) : g.after (.register t) = g.registered t := by
  rw [Graph.after, Operation.change, (register_decides g t).accepted free]

theorem Settled.get?_claims_registered_iff (h : Settled was r g) {t : TargetId} (d : g.Declares r (.register t))
    (free : g.Free r (.register t)) (o : String) (u : TargetId) :
    (g.registered t).claims.get? o = some u ↔ g.claims.get? o = some u ∨ g.Hands r (.register t) o u := by
  obtain ⟨made, _, own⟩ := d
  have htakes : o ∈ g.takes (.register t) ↔ o ∈ (g.node t).allOutputs := Iff.rfl
  rw [get?_claims_registered, h.pass, Hands, htakes, Operation.register.injEq, mem_grants_register_iff]
  by_cases hown : g.IsOwnFile t o
  · have ho : o ∉ (g.node t).allOutputs := fun ho => own o ho hown
    have hgrant := (mem_grants_register_iff g t o).mpr hown
    by_cases hopen : g.openedPartition (g.node t) = some o
    · rw [if_pos hopen, Option.some.injEq]
      constructor
      · intro hu
        exact .inr (.inr ⟨hown, hu.symm⟩)
      · rintro (hu | hu | hu)
        · exact (free.grants o hgrant u hu).symm
        · exact absurd hu.1 ho
        · exact hu.2.symm
    · obtain ⟨name, hp, rfl⟩ := hown
      have used : g.UsesPartition name := Classical.byContradiction fun unused =>
        hopen ((h.openedPartition_iff made _).mpr ⟨name, hp, unused, rfl⟩)
      rw [if_neg hopen, if_neg ho, h.get?_filePlace used, Option.some.injEq]
      constructor
      · exact .inl
      · rintro (hu | hu | hu)
        · exact hu
        · exact absurd hu.1 ho
        · exact hu.2.symm
  · have hopen : g.openedPartition (g.node t) ≠ some o := by
      intro hopen
      obtain ⟨name, hp, _, hplace⟩ := (h.openedPartition_iff made o).mp hopen
      exact hown ⟨name, hp, hplace⟩
    rw [if_neg hopen]
    by_cases ho : o ∈ (g.node t).allOutputs
    · have hnone := free.takes o ho u
      simp [ho, hown, hnone]
    · simp [ho, hown]

theorem get?_claims_generated_iff {path : String} {location : Option Location}
    (free : g.Free r (.addGenerated path location)) (o : String) (u : TargetId) :
    (g.generated r path).claims.get? o = some u ↔
      g.claims.get? o = some u ∨ g.Hands r (.addGenerated path location) o u := by
  have hclaims : (g.generated r path).claims = g.claims.insert (g.generatedPath path) r := rfl
  have hhands : g.Hands r (.addGenerated path location) o u ↔ o = g.generatedPath path ∧ u = r := by
    simp [Hands, Graph.takes, Graph.grants]
  rw [hclaims, Table.get?_insert, hhands]
  by_cases ho : o = g.generatedPath path
  · have hgrant : o ∈ g.grants (.addGenerated path location) := ho ▸ List.mem_cons_self
    rw [if_pos ho, Option.some.injEq]
    constructor
    · intro hu
      exact .inr ⟨ho, hu.symm⟩
    · rintro (hu | hu)
      · exact (free.grants o hgrant u hu).symm
      · exact hu.2.symm
  · simp [ho]

/-- After a declaration that is carried out, the owners are those before and the ones that it makes owners. -/
theorem Settled.get?_claims_after_iff (h : Settled was r g) {op : Operation} (d : g.Declares r op)
    (hacc : g.accepts op = true) (o : String) (u : TargetId) :
    (g.after op).claims.get? o = some u ↔ g.claims.get? o = some u ∨ g.Hands r op o u := by
  have free := (h.accepts_iff_free d).mp hacc
  cases op with
  | register t =>
    rw [register_after ((h.registrable_iff d.1).mpr free)]
    exact h.get?_claims_registered_iff d free o u
  | addGenerated path location =>
    rcases h.addGenerated_after path location with ⟨_, _, hafter⟩ | ⟨_, hrefused⟩
    · rw [hafter]
      exact get?_claims_generated_iff free o u
    · rw [hrefused] at hacc
      cases hacc
  | _ => exact d.elim

end Declarations

/-- What a graph is after a list of declarations: it says of everything that they touch where it comes from, and
nothing about their order. -/
structure Adds (r : TargetId) (g : Graph) (list : List Operation) (g' : Graph) : Prop where
  claims : ∀ o u, g'.claims.get? o = some u ↔ g.claims.get? o = some u ∨ ∃ op ∈ list, g.Hands r op o u
  targets : ∀ t, t ∈ g'.targets ↔ t ∈ g.targets ∨ .register t ∈ list
  named : ∀ n u, g'.named.get? n = some u ↔
    g.named.get? n = some u ∨ (.register u ∈ list ∧ (g.node u).isGroup = true ∧ (g.node u).name = n)
  outputs : ∀ o, o ∈ (g'.node r).outputs ↔ o ∈ (g.node r).outputs ∨ ∃ location, .addGenerated o location ∈ list
  made : ∀ t, g.Made t → g'.Made t
  node : ∀ t, t ≠ r → g'.node t = g.node t
  partition : ∀ t, g.Made t → (g'.node t).partition = (g.node t).partition
  buildDir : g'.buildDir = g.buildDir

namespace Adds
variable {r : TargetId} {g g' g'' : Graph} {list list' : List Operation} {op op' : Operation}

theorem nil (r : TargetId) (g : Graph) : Adds r g [] g := by
  constructor <;> simp

theorem perm (h : Adds r g list g') (p : list.Perm list') : Adds r g list' g' where
  claims o u := by simpa only [p.mem_iff] using h.claims o u
  targets t := by simpa only [p.mem_iff] using h.targets t
  named n u := by simpa only [p.mem_iff] using h.named n u
  outputs o := by simpa only [p.mem_iff] using h.outputs o
  made := h.made
  node := h.node
  partition := h.partition
  buildDir := h.buildDir

theorem takes_eq (h : Adds r g list g') (d : g.Declares r op) : g'.takes op = g.takes op := by
  cases op with
  | register t => rw [Graph.takes, Graph.takes, h.node t d.2.1]
  | _ => rfl

theorem grants_eq (h : Adds r g list g') (d : g.Declares r op) : g'.grants op = g.grants op := by
  cases op with
  | register t => rw [Graph.grants, Graph.grants, h.node t d.2.1, filePlace_congr h.buildDir]
  | addGenerated path location => rw [Graph.grants, Graph.grants, generatedPath_congr h.buildDir]
  | _ => rfl

theorem hands_iff (h : Adds r g list g') (d : g.Declares r op) (o : String) (u : TargetId) :
    g'.Hands r op o u ↔ g.Hands r op o u := by
  rw [Hands, Hands, h.takes_eq d, h.grants_eq d]

theorem atOdds_iff (h : Adds r g list g') (d : g.Declares r op) (d' : g.Declares r op') :
    g'.AtOdds op op' ↔ g.AtOdds op op' := by
  rw [AtOdds, AtOdds, h.takes_eq d, h.grants_eq d, h.takes_eq d', h.grants_eq d']

theorem declares (h : Adds r g list g') (d : g.Declares r op) : g'.Declares r op := by
  cases op with
  | register t =>
    obtain ⟨made, hne, own⟩ := d
    refine ⟨h.made t made, hne, ?_⟩
    rw [h.node t hne]
    intro o ho
    rw [IsOwnFile, h.node t hne, filePlace_congr h.buildDir]
    exact own o ho
  | addGenerated path location => trivial
  | _ => exact d.elim

theorem trans (h : Adds r g list g') (h' : Adds r g' list' g'') (d : ∀ op ∈ list', g.Declares r op) :
    Adds r g (list ++ list') g'' where
  claims o u := by
    have hhands : (∃ op ∈ list', g'.Hands r op o u) ↔ ∃ op ∈ list', g.Hands r op o u :=
      exists_congr fun op => and_congr_right fun hop => h.hands_iff (d op hop) o u
    simp only [h'.claims, h.claims, hhands, List.mem_append, or_and_right, exists_or, or_assoc]
  targets t := by simp only [h'.targets, h.targets, List.mem_append, or_assoc]
  named n u := by
    have hnode : .register u ∈ list' → g'.node u = g.node u := fun hu => h.node u (d _ hu).2.1
    rw [h'.named, h.named, List.mem_append, or_and_right, or_assoc]
    refine or_congr_right (or_congr_right (and_congr_right fun hu => ?_))
    rw [hnode hu]
  outputs o := by simp only [h'.outputs, h.outputs, List.mem_append, exists_or, or_assoc]
  made t ht := h'.made t (h.made t ht)
  node t ht := (h'.node t ht).trans (h.node t ht)
  partition t ht := (h'.partition t (h.made t ht)).trans (h.partition t ht)
  buildDir := h'.buildDir.trans h.buildDir

end Adds

section Lists
variable {was : List TargetId} {r : TargetId} {g : Graph}

theorem Settled.get?_named_registered_iff (h : Settled was r g) {t : TargetId} (free : g.Free r (.register t))
    (n : String) (u : TargetId) : (g.registered t).named.get? n = some u ↔
      g.named.get? n = some u ∨ (u = t ∧ (g.node u).isGroup = true ∧ (g.node u).name = n) := by
  have hnamed : (g.registered t).named = if (g.node t).isGroup then g.named.insert (g.node t).name t else g.named := rfl
  rw [hnamed]
  by_cases hgroup : (g.node t).isGroup = true
  · rw [if_pos hgroup, Table.get?_insert]
    by_cases hn : n = (g.node t).name
    · -- the name is new, since what groups are found by is claimed
      have hnew : g.named.get? n = none := by
        rw [Table.get?_eq_none_iff]
        intro hmem
        obtain ⟨v, hv⟩ := (Table.mem_keys_iff _ _).mp (h.recorded.groups n hmem)
        exact free.takes n (hn ▸ List.mem_cons_self) v hv
      rw [if_pos hn, hnew]
      constructor
      · intro hu
        cases hu
        exact .inr ⟨rfl, hgroup, hn.symm⟩
      · rintro (hu | ⟨rfl, _⟩)
        · cases hu
        · rfl
    · rw [if_neg hn]
      constructor
      · exact .inl
      · rintro (hu | ⟨rfl, _, hname⟩)
        · exact hu
        · exact absurd hname.symm hn
  · rw [if_neg hgroup]
    constructor
    · exact .inl
    · rintro (hu | ⟨rfl, hgroup', _⟩)
      · exact hu
      · exact absurd hgroup' hgroup

/-- One declaration that is carried out adds what it says. -/
theorem Settled.adds_after (h : Settled was r g) {op : Operation} (d : g.Declares r op) (hacc : g.accepts op = true) :
    Adds r g [op] (g.after op) := by
  have hclaims := h.get?_claims_after_iff d hacc
  have keeps := (h.after d).2
  have free := (h.accepts_iff_free d).mp hacc
  cases op with
  | register t =>
    have hafter : g.after (.register t) = g.registered t := register_after ((h.registrable_iff d.1).mpr free)
    have hnode : ∀ u, (g.after (.register t)).node u = g.node u := fun u => by rw [hafter]; rfl
    refine ⟨fun o u => ?_, fun u => ?_, fun n u => ?_, fun o => ?_, keeps.made, fun u _ => hnode u,
      keeps.partition, keeps.buildDir⟩
    · simpa using hclaims o u
    · have htargets : (g.registered t).targets = g.targets ++ [t] := rfl
      simp [hafter, htargets]
    · rw [hafter, h.get?_named_registered_iff free]
      simp
    · simp [hnode]
  | addGenerated path location =>
    rcases h.addGenerated_after path location with ⟨generable, _, hafter⟩ | ⟨_, hrefused⟩
    · have hnode : (g.generated r path).node r = (g.node r).addOutput path :=
        node_modifyNode_self g _ (h.sound.passMade r h.pass)
      refine ⟨fun o u => ?_, fun u => ?_, fun n u => ?_, fun o => ?_, keeps.made, fun u hu => ?_,
        keeps.partition, keeps.buildDir⟩
      · simpa using hclaims o u
      · have htargets : (g.generated r path).targets = g.targets := rfl
        simp [hafter, htargets]
      · have hnamed : (g.generated r path).named = g.named := rfl
        simp [hafter, hnamed]
      · rw [hafter, hnode, mem_outputs_addOutput_iff]
        simp
      · rw [hafter]
        exact node_modifyNode_of_ne g _ hu
    · rw [hrefused] at hacc
      cases hacc
  | _ => exact d.elim

/-- After a declaration that is carried out, another one is free exactly if it was before and the two are not at
odds. -/
theorem Settled.free_after_iff (h : Settled was r g) {op op' : Operation} (d : g.Declares r op)
    (d' : g.Declares r op') (hacc : g.accepts op = true) :
    (g.after op).Free r op' ↔ g.Free r op' ∧ ¬ g.AtOdds op op' := by
  have adds := h.adds_after d hacc
  have hclaims := h.get?_claims_after_iff d hacc
  have hgives : ∀ o, o ∈ g.takes op ∨ o ∈ g.grants op → ∃ u, g.Hands r op o u := by
    rintro o (ho | ho)
    · obtain ⟨t, rfl⟩ := register_of_mem_takes ho
      exact ⟨t, .inl ⟨ho, rfl⟩⟩
    · exact ⟨r, .inr ⟨ho, rfl⟩⟩
  constructor
  · intro free
    have htakes := free.takes
    have hgrants := free.grants
    rw [adds.takes_eq d'] at htakes
    rw [adds.grants_eq d'] at hgrants
    refine ⟨⟨fun o ho u hu => ?_, fun f hf u hu => ?_⟩, ?_⟩
    · exact htakes o ho u ((hclaims o u).mpr (.inl hu))
    · exact hgrants f hf u ((hclaims f u).mpr (.inl hu))
    · rintro ⟨o, ⟨ho, ho'⟩ | ⟨ho, ho'⟩ | ⟨ho, ho'⟩⟩
      · obtain ⟨u, hu⟩ := hgives o (.inl ho)
        exact htakes o ho' u ((hclaims o u).mpr (.inr hu))
      · obtain ⟨t, rfl⟩ := register_of_mem_takes ho
        exact d.2.1 (hgrants o ho' t ((hclaims o t).mpr (.inr (.inl ⟨ho, rfl⟩))))
      · obtain ⟨u, hu⟩ := hgives o (.inr ho)
        exact htakes o ho' u ((hclaims o u).mpr (.inr hu))
  · rintro ⟨free, apart⟩
    refine ⟨fun o ho u hu => ?_, fun f hf u hu => ?_⟩
    · rw [adds.takes_eq d'] at ho
      rcases (hclaims o u).mp hu with hu | ⟨ho', _⟩ | ⟨ho', _⟩
      · exact free.takes o ho u hu
      · exact apart ⟨o, .inl ⟨ho', ho⟩⟩
      · exact apart ⟨o, .inr (.inr ⟨ho', ho⟩)⟩
    · rw [adds.grants_eq d'] at hf
      rcases (hclaims f u).mp hu with hu | ⟨hf', _⟩ | ⟨_, hu⟩
      · exact free.grants f hf u hu
      · exact absurd ⟨f, .inr (.inl ⟨hf', hf⟩)⟩ apart
      · exact hu

/-- A list of declarations is carried out exactly if each of them is free at the start and no two of them are at
odds. -/
theorem Settled.acceptsAll_iff (h : Settled was r g) {list : List Operation} (d : ∀ op ∈ list, g.Declares r op) :
    g.acceptsAll list = true ↔ (∀ op ∈ list, g.Free r op) ∧ list.Pairwise fun op op' => ¬ g.AtOdds op op' := by
  induction list generalizing g with
  | nil => simp [acceptsAll]
  | cons op rest ih =>
    obtain ⟨dop, drest⟩ := List.forall_mem_cons.mp d
    rw [acceptsAll, Bool.and_eq_true, List.forall_mem_cons, List.pairwise_cons, ← h.accepts_iff_free dop, and_assoc]
    refine and_congr_right fun hacc => ?_
    have adds := h.adds_after dop hacc
    rw [ih (h.after dop).1 fun op' hop' => adds.declares (drest op' hop')]
    have hfree : (∀ op' ∈ rest, (g.after op).Free r op') ↔ ∀ op' ∈ rest, g.Free r op' ∧ ¬ g.AtOdds op op' :=
      forall₂_congr fun op' hop' => h.free_after_iff dop (drest op' hop') hacc
    have hpairs : (rest.Pairwise fun a b => ¬ (g.after op).AtOdds a b) ↔ rest.Pairwise fun a b => ¬ g.AtOdds a b :=
      List.Pairwise.iff_of_mem fun ha hb => not_congr (adds.atOdds_iff (drest _ ha) (drest _ hb))
    rw [hfree, hpairs]
    simp only [imp_and, forall_and, and_assoc]

theorem Settled.adds_run (h : Settled was r g) {list : List Operation} (d : ∀ op ∈ list, g.Declares r op)
    (hacc : g.acceptsAll list = true) : Adds r g list (g.run list) := by
  induction list generalizing g with
  | nil => exact .nil r g
  | cons op rest ih =>
    obtain ⟨dop, drest⟩ := List.forall_mem_cons.mp d
    rw [acceptsAll, Bool.and_eq_true] at hacc
    have adds := h.adds_after dop hacc.1
    exact adds.trans (ih (h.after dop).1 (fun op' hop' => adds.declares (drest op' hop')) hacc.2) drest

end Lists

/-- Two graphs with the same target for the pass that say the same of every output, and have the same targets,
partitions, groups and files of the pass. -/
structure SameBuild (r : TargetId) (g g' : Graph) : Prop where
  claims : ∀ o, g'.claims.get? o = g.claims.get? o
  targets : ∀ t, t ∈ g'.targets ↔ t ∈ g.targets
  partitions : ∀ p, p ∈ g'.partitions ↔ p ∈ g.partitions
  named : ∀ n, g'.named.get? n = g.named.get? n
  outputs : ∀ o, o ∈ (g'.node r).outputs ↔ o ∈ (g.node r).outputs

theorem Adds.usesPartition_iff {r : TargetId} {g g' : Graph} {list : List Operation} (h : Adds r g list g')
    (sound : Sound g) (d : ∀ op ∈ list, g.Declares r op) (name : String) :
    g'.UsesPartition name ↔ g.UsesPartition name ∨
      ∃ t, .register t ∈ list ∧ (g.node t).partition = .text name := by
  have hpartition : ∀ t, t ∈ g.targets ∨ .register t ∈ list → (g'.node t).partition = (g.node t).partition := by
    rintro t (ht | ht)
    · exact h.partition t (sound.made t ht)
    · exact h.partition t (d _ ht).1
  constructor
  · rintro ⟨t, ht, hp⟩
    have ht' := (h.targets t).mp ht
    rw [hpartition t ht'] at hp
    exact ht'.imp (fun hold => ⟨t, hold, hp⟩) fun hnew => ⟨t, hnew, hp⟩
  · rintro (⟨t, ht, hp⟩ | ⟨t, ht, hp⟩)
    · exact ⟨t, (h.targets t).mpr (.inl ht), (hpartition t (.inl ht)).trans hp⟩
    · exact ⟨t, (h.targets t).mpr (.inr ht), (hpartition t (.inr ht)).trans hp⟩

theorem mem_partitions_iff {g : Graph} (sound : Sound g) (p : Given) :
    p ∈ g.partitions ↔ ∃ name, g.UsesPartition name ∧ p = .text name := by
  simp only [partitions_eq sound.targetsNamed, List.mem_map, mem_partitionNames_iff, eq_comm (a := p)]

/-- What the same declarations have added makes the same build. -/
theorem Adds.sameBuild {r : TargetId} {g g' g'' : Graph} {list : List Operation} (h' : Adds r g list g')
    (h'' : Adds r g list g'') (sound : Sound g) (sound' : Sound g') (sound'' : Sound g'')
    (d : ∀ op ∈ list, g.Declares r op) : SameBuild r g' g'' where
  claims o := Option.ext fun u => (h''.claims o u).trans (h'.claims o u).symm
  targets t := (h''.targets t).trans (h'.targets t).symm
  partitions p := by
    simp only [mem_partitions_iff sound', mem_partitions_iff sound'', h'.usesPartition_iff sound d,
      h''.usesPartition_iff sound d]
  named n := Option.ext fun u => (h''.named n u).trans (h'.named n u).symm
  outputs o := (h''.outputs o).trans (h'.outputs o).symm

theorem Settled.run {was : List TargetId} {r : TargetId} {g : Graph} (h : Settled was r g) {list : List Operation}
    (d : ∀ op ∈ list, g.Declares r op) (hacc : g.acceptsAll list = true) : Settled was r (g.run list) := by
  induction list generalizing g with
  | nil => exact h
  | cons op rest ih =>
    obtain ⟨dop, drest⟩ := List.forall_mem_cons.mp d
    rw [acceptsAll, Bool.and_eq_true] at hacc
    have adds := h.adds_after dop hacc.1
    exact ih (h.after dop).1 (fun op' hop' => adds.declares (drest op' hop')) hacc.2

theorem settled_run {buildDir : Option String} {ops : List Operation} (valid : (start buildDir).ValidRun ops)
    {r : TargetId} (hpass : ((start buildDir).run ops).pass = some r) :
    Settled ((start buildDir).installs ops) r ((start buildDir).run ops) := by
  obtain ⟨sound, owned⟩ := owned_run valid (sound_start buildDir) (owned_start buildDir)
  obtain ⟨_, _, kinds⟩ := kinds_run valid (sound_start buildDir) (List.Subset.refl ops)
    (askedFor_start buildDir (registers ops))
  rw [List.nil_append] at owned
  exact ⟨sound, owned, hpass, kinds r (owned.passWas r hpass),
    recorded_run valid (sound_start buildDir) (recorded_start buildDir)⟩

/-- Of the orders in which declarations can come in a graph with a target for the pass, all are carried out or none,
and all of them lead to the same build. -/
theorem declared_in_any_order {buildDir : Option String} {ops : List Operation}
    (valid : (start buildDir).ValidRun ops) {r : TargetId} (hpass : ((start buildDir).run ops).pass = some r)
    {list other : List Operation} (d : ∀ op ∈ list, ((start buildDir).run ops).Declares r op)
    (p : list.Perm other) :
    (((start buildDir).run ops).acceptsAll list = true ↔ ((start buildDir).run ops).acceptsAll other = true) ∧
      (((start buildDir).run ops).acceptsAll list = true →
        SameBuild r (((start buildDir).run ops).run list) (((start buildDir).run ops).run other)) := by
  have settled := settled_run valid hpass
  generalize (start buildDir).run ops = g at *
  have d' : ∀ op ∈ other, g.Declares r op := fun op hop => d op (p.mem_iff.mpr hop)
  have hiff : g.acceptsAll list = true ↔ g.acceptsAll other = true := by
    rw [settled.acceptsAll_iff d, settled.acceptsAll_iff d']
    have hpairs := p.pairwise_iff (R := fun op op' => ¬ g.AtOdds op op') fun h h' => h h'.symm
    rw [hpairs]
    simp only [p.mem_iff]
  refine ⟨hiff, fun hacc => ?_⟩
  have hacc' := hiff.mp hacc
  exact (settled.adds_run d hacc).sameBuild ((settled.adds_run d' hacc').perm p.symm) settled.sound
    (settled.run d hacc).sound (settled.run d' hacc').sound d

/-- A run that gets a target for the pass, two for one partition and a group, and registers none of them. -/
def undeclared : List Operation :=
  [.make (Target.pass "build.ninja" [] [.text "kiln"]), .install ⟨1⟩,
    .make { Target.emptyGroup "/b/parser.c" none with
      action := .nothing, implicitOutputs := ["/b/parser.h"], partition := .text "tools" },
    .make { Target.emptyGroup "/b/lexer.c" none with action := .nothing, partition := .text "tools" },
    .make (Target.emptyGroup "dist" none)]

/-- Declarations after it, which record the file of the partition that they open too. -/
def declarations : List Operation :=
  [.register ⟨2⟩, .addGenerated "tools.ninja" none, .register ⟨3⟩, .register ⟨4⟩, .addGenerated "flags.json" none]

theorem declared_in_any_order_reverse :
    ((start (some "/b")).run undeclared).acceptsAll declarations.reverse = true ∧
      SameBuild ⟨1⟩ (((start (some "/b")).run undeclared).run declarations)
        (((start (some "/b")).run undeclared).run declarations.reverse) := by
  have valid : (start (some "/b")).ValidRun undeclared :=
    ⟨.inl rfl, ⟨by decide +kernel, by decide +kernel⟩, .inr ⟨"tools", rfl⟩, .inr ⟨"tools", rfl⟩, .inl rfl, trivial⟩
  have hpass : ((start (some "/b")).run undeclared).pass = some ⟨1⟩ := by decide +kernel
  have d : ∀ op ∈ declarations, ((start (some "/b")).run undeclared).Declares ⟨1⟩ op := by decide +kernel
  have hacc : ((start (some "/b")).run undeclared).acceptsAll declarations = true := by decide +kernel
  have h := declared_in_any_order valid hpass d declarations.reverse_perm.symm
  exact ⟨h.1.mp hacc, h.2 hacc⟩

end BuildTree.Graph
