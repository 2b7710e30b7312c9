import BuildTree.Proofs.Graph.Operation

/-!
# Who owns an output

The claims of a graph say for each output which target makes it. Two things hold after every operation. The target
for the pass owns every file that the pass writes. A registered target owns its outputs, with one exception: of the
file of its own partition, which registering checks before the outputs are claimed and claims after them, the target
for the pass is the owner.

Targets that have been the one for the pass at some time are left out of the second. Their outputs grow without being
claimed under their own names.
-/

namespace BuildTree.Graph
open Relation

/-- A file that the pass writes: an output of its target, or the file of a partition in use, in its place. -/
def PassWrites (g : Graph) (f : String) : Prop :=
  ∃ r, g.pass = some r ∧
    ((∃ o ∈ (g.node r).outputs, f = g.generatedPath o) ∨ ∃ name, g.UsesPartition name ∧ f = g.filePlace name)

def IsOwnFile (g : Graph) (t : TargetId) (f : String) : Prop :=
  ∃ name, (g.node t).partition = .text name ∧ f = g.filePlace name

/-- What is true of the owners after every operation, where `was` lists the targets that have been the one for the
pass. -/
structure Owned (was : List TargetId) (g : Graph) : Prop where
  passWas : ∀ r, g.pass = some r → r ∈ was
  passOwns : ∀ r f, g.pass = some r → g.PassWrites f → g.claims.get? f = some r
  owns : ∀ t ∈ g.targets, t ∉ was → ∀ o ∈ (g.node t).allOutputs,
    g.claims.get? o = some t ∨ (g.pass.isSome ∧ g.IsOwnFile t o)
  apart : ∀ t ∈ g.targets, ∀ u ∈ g.targets, t ∉ was → u ∉ was → t ≠ u →
    ∀ o ∈ (g.node t).allOutputs, o ∉ (g.node u).allOutputs

theorem generatedPath_congr {g g' : Graph} (h : g'.buildDir = g.buildDir) : g'.generatedPath = g.generatedPath := by
  funext name
  rw [generatedPath, generatedPath, h]

theorem filePlace_congr {g g' : Graph} (h : g'.buildDir = g.buildDir) : g'.filePlace = g.filePlace := by
  funext name
  rw [filePlace, filePlace, generatedPath_congr h]

theorem IsOwnFile.passWrites {g : Graph} {t : TargetId} {f : String} (h : g.IsOwnFile t f) (ht : t ∈ g.targets)
    (hpass : g.pass.isSome) : g.PassWrites f := by
  obtain ⟨r, hr⟩ := Option.isSome_iff_exists.mp hpass
  obtain ⟨name, hname, hf⟩ := h
  exact ⟨r, hr, .inr ⟨name, ⟨t, ht, hname⟩, hf⟩⟩

theorem Owned.claimed {was : List TargetId} {g : Graph} (h : Owned was g) {t : TargetId} (ht : t ∈ g.targets)
    (hwas : t ∉ was) {o : String} (ho : o ∈ (g.node t).allOutputs) : ∃ owner, g.claims.get? o = some owner := by
  rcases h.owns t ht hwas o ho with hown | ⟨hpass, hfile⟩
  · exact ⟨t, hown⟩
  · obtain ⟨r, hr⟩ := Option.isSome_iff_exists.mp hpass
    exact ⟨r, h.passOwns r o hr (hfile.passWrites ht hpass)⟩

theorem usesPartition_of_keeps {g g' : Graph} (sound : Sound g) (keeps : Keeps g g')
    (htargets : g'.targets = g.targets) (name : String) : g'.UsesPartition name ↔ g.UsesPartition name := by
  rw [UsesPartition, UsesPartition, htargets]
  constructor
  · rintro ⟨t, ht, hp⟩
    exact ⟨t, ht, keeps.partition t (sound.made t ht) ▸ hp⟩
  · rintro ⟨t, ht, hp⟩
    exact ⟨t, ht, (keeps.partition t (sound.made t ht)).trans hp⟩

section Still
variable {g g' : Graph}

theorem Still.usesPartition_iff (h : Still g g') (sound : Sound g) (name : String) :
    g'.UsesPartition name ↔ g.UsesPartition name :=
  usesPartition_of_keeps sound h.keeps h.targets name

theorem Still.passWrites_iff (h : Still g g') (sound : Sound g) (f : String) :
    g'.PassWrites f ↔ g.PassWrites f := by
  have houts : ∀ r, g.pass = some r → (g'.node r).outputs = (g.node r).outputs := fun r hr =>
    (h.products r (sound.passMade r hr)).outputs
  simp only [PassWrites, h.pass, h.usesPartition_iff sound, generatedPath_congr h.buildDir,
    filePlace_congr h.buildDir]
  constructor
  · rintro ⟨r, hr, hf⟩
    exact ⟨r, hr, by rwa [houts r hr] at hf⟩
  · rintro ⟨r, hr, hf⟩
    exact ⟨r, hr, by rwa [houts r hr]⟩

theorem Still.owned (h : Still g g') (sound : Sound g) {was : List TargetId} (owned : Owned was g) :
    Owned was g' where
  passWas r hr := owned.passWas r (h.pass ▸ hr)
  passOwns r f hr hf := by
    rw [h.claims]
    exact owned.passOwns r f (h.pass ▸ hr) ((h.passWrites_iff sound f).mp hf)
  owns t ht hwas o ho := by
    rw [h.targets] at ht
    have same := h.products t (sound.made t ht)
    rw [same.allOutputs] at ho
    rw [h.claims, h.pass, IsOwnFile, same.partition, filePlace_congr h.buildDir]
    exact owned.owns t ht hwas o ho
  apart t ht u hu hwt hwu hne o ho := by
    rw [h.targets] at ht hu
    rw [(h.products t (sound.made t ht)).allOutputs] at ho
    rw [(h.products u (sound.made u hu)).allOutputs]
    exact owned.apart t ht u hu hwt hwu hne o ho

end Still

/-- Registering a target claims its outputs, and after them the file that it opens. -/
theorem get?_claims_registered (g : Graph) (t : TargetId) (o : String) :
    (g.registered t).claims.get? o =
      if g.openedPartition (g.node t) = some o then g.pass
      else if o ∈ (g.node t).allOutputs then some t else g.claims.get? o := by
  cases hfile : g.openedPartition (g.node t) with
  | none => simp [registered, hfile, Table.get?_insertKeys]
  | some file =>
    cases hpass : g.pass with
    | none => simp [openedPartition, hpass] at hfile
    | some r =>
      simp only [registered, hfile, hpass, Table.get?_insert, Table.get?_insertKeys, Option.some.injEq,
        eq_comm (a := o)]

theorem usesPartition_registered_iff (g : Graph) (t : TargetId) (name : String) :
    (g.registered t).UsesPartition name ↔ g.UsesPartition name ∨ (g.node t).partition = .text name := by
  have hnode : ∀ u, (g.registered t).node u = g.node u := fun _ => rfl
  have htargets : (g.registered t).targets = g.targets ++ [t] := rfl
  simp only [UsesPartition, hnode, htargets, List.mem_append, List.mem_singleton]
  constructor
  · rintro ⟨u, hu | rfl, hp⟩
    · exact .inl ⟨u, hu, hp⟩
    · exact .inr hp
  · rintro (⟨u, hu, hp⟩ | hp)
    · exact ⟨u, .inl hu, hp⟩
    · exact ⟨t, .inr rfl, hp⟩

theorem passWrites_registered_iff (g : Graph) (t : TargetId) (f : String) :
    (g.registered t).PassWrites f ↔ g.PassWrites f ∨ (g.pass.isSome ∧ g.IsOwnFile t f) := by
  have hpass : (g.registered t).pass = g.pass := rfl
  have hnode : ∀ u, (g.registered t).node u = g.node u := fun _ => rfl
  have hpath : (g.registered t).generatedPath = g.generatedPath := rfl
  have hplace : (g.registered t).filePlace = g.filePlace := rfl
  simp only [PassWrites, hpass, hnode, hpath, hplace, usesPartition_registered_iff]
  constructor
  · rintro ⟨r, hr, hout | ⟨name, huse | hp, hf⟩⟩
    · exact .inl ⟨r, hr, .inl hout⟩
    · exact .inl ⟨r, hr, .inr ⟨name, huse, hf⟩⟩
    · exact .inr ⟨hr ▸ rfl, name, hp, hf⟩
  · rintro (⟨r, hr, hout | ⟨name, huse, hf⟩⟩ | ⟨hsome, name, hp, hf⟩)
    · exact ⟨r, hr, .inl hout⟩
    · exact ⟨r, hr, .inr ⟨name, .inl huse, hf⟩⟩
    · obtain ⟨r, hr⟩ := Option.isSome_iff_exists.mp hsome
      exact ⟨r, hr, .inr ⟨name, .inr hp, hf⟩⟩

theorem passWrites_registered_cases {g : Graph} (sound : Sound g) {t : TargetId} (made : g.Made t) {f : String}
    (h : (g.registered t).PassWrites f) : g.PassWrites f ∨ g.openedPartition (g.node t) = some f := by
  rcases (passWrites_registered_iff g t f).mp h with h | ⟨hpass, name, hp, hplace⟩
  · exact .inl h
  · by_cases huse : g.UsesPartition name
    · obtain ⟨r, hr⟩ := Option.isSome_iff_exists.mp hpass
      exact .inl ⟨r, hr, .inr ⟨name, huse, hplace⟩⟩
    · exact .inr ((openedPartition_eq_some_iff sound.targetsNamed (sound.named t made) f).mpr
        ⟨hpass, name, hp, huse, hplace⟩)

theorem owned_registered {was : List TargetId} {g : Graph} (sound : Sound g) (owned : Owned was g) {t : TargetId}
    (made : g.Made t) (free : g.Registrable t) : Owned was (g.registered t) := by
  have hfree := (unclaimed_none_iff g _).mp free.outputs
  have hopen := openedPartition_eq_some_iff sound.targetsNamed (sound.named t made)
  refine ⟨owned.passWas, fun r f hr hf => ?_, fun u hu hwas o ho => ?_, fun u hu v hv hwu hwv hne o ho ho' => ?_⟩
  · -- the pass wrote the file before, or it is the one that is opened now and claimed last
    have hcases := passWrites_registered_cases sound made hf
    rw [get?_claims_registered]
    by_cases hfile : g.openedPartition (g.node t) = some f
    · rw [if_pos hfile]
      exact hr
    · have hclaim := owned.passOwns r f hr (hcases.resolve_right hfile)
      have hnot : f ∉ (g.node t).allOutputs := fun ho => by simp [hfree f ho] at hclaim
      rw [if_neg hfile, if_neg hnot, hclaim]
  · rw [get?_claims_registered]
    rcases List.mem_append.mp hu with hu | hu
    · -- an older target keeps what it owns: what is claimed now was free, or the pass had it already
      rcases owned.owns u hu hwas o ho with hown | hfile
      · have hnot : o ∉ (g.node t).allOutputs := fun ho => by simp [hfree o ho] at hown
        have hfile : g.openedPartition (g.node t) ≠ some o := fun hfile =>
          hwas (owned.passWas u (free.file o hfile o List.mem_cons_self u hown).symm)
        exact .inl (by rw [if_neg hfile, if_neg hnot, hown])
      · exact .inr hfile
    · -- the new target owns all that it makes but for the file of its partition, if it opens it
      cases List.mem_singleton.mp hu
      by_cases hfile : g.openedPartition (g.node t) = some o
      · obtain ⟨hpass, name, hp, _, hplace⟩ := (hopen o).mp hfile
        exact .inr ⟨hpass, name, hp, hplace⟩
      · exact .inl ((if_neg hfile).trans (if_pos ho))
  · rcases List.mem_append.mp hu with hu | hu <;> rcases List.mem_append.mp hv with hv | hv
    · exact owned.apart u hu v hv hwu hwv hne o ho ho'
    · cases List.mem_singleton.mp hv
      obtain ⟨owner, hclaim⟩ := owned.claimed hu hwu ho
      simp [hfree o ho'] at hclaim
    · cases List.mem_singleton.mp hu
      obtain ⟨owner, hclaim⟩ := owned.claimed hv hwv ho'
      simp [hfree o ho] at hclaim
    · exact hne ((List.mem_singleton.mp hu).trans (List.mem_singleton.mp hv).symm)

theorem passWrites_generated_iff {g : Graph} (sound : Sound g) {r : TargetId} {path : String}
    (free : g.Generable r path) (f : String) :
    (g.generated r path).PassWrites f ↔ g.PassWrites f ∨ f = g.generatedPath path := by
  have hpass : (g.generated r path).pass = g.pass := rfl
  have hpath : (g.generated r path).generatedPath = g.generatedPath := rfl
  have hplace : (g.generated r path).filePlace = g.filePlace := rfl
  have hnode : (g.generated r path).node r = (g.node r).addOutput path :=
    node_modifyNode_self g _ (sound.passMade r free.pass_eq)
  have huse := usesPartition_of_keeps sound (keeps_generated g r path) rfl
  simp only [PassWrites, hpass, hpath, hplace, huse, free.pass_eq, Option.some.injEq, exists_eq_left', hnode,
    mem_outputs_addOutput_iff]
  constructor
  · rintro (⟨o, ho | rfl, hf⟩ | hname)
    · exact .inl (.inl ⟨o, ho, hf⟩)
    · exact .inr hf
    · exact .inl (.inr hname)
  · rintro ((⟨o, ho, hf⟩ | hname) | hf)
    · exact .inl ⟨o, .inl ho, hf⟩
    · exact .inr hname
    · exact .inl ⟨path, .inr rfl, hf⟩

theorem owned_generated {was : List TargetId} {g : Graph} (sound : Sound g) (owned : Owned was g) {r : TargetId}
    {path : String} (free : g.Generable r path) : Owned was (g.generated r path) := by
  have hclaims : (g.generated r path).claims = g.claims.insert (g.generatedPath path) r := rfl
  have hr := owned.passWas r free.pass_eq
  -- only the target for the pass gets an output, and that one is left out of what targets own
  have hnode : ∀ u, u ∉ was → (g.generated r path).node u = g.node u := fun u hu =>
    node_modifyNode_of_ne g _ fun he => hu (he ▸ hr)
  refine ⟨owned.passWas, fun r' f hr' hf => ?_, fun u hu hwas o ho => ?_, fun u hu v hv hwu hwv hne o ho => ?_⟩
  · cases (Option.some.inj (free.pass_eq.symm.trans hr') : r = r')
    rw [hclaims, Table.get?_insert]
    rcases (passWrites_generated_iff sound free f).mp hf with hf | rfl
    · rw [owned.passOwns r f hr' hf, ite_self]
    · rw [if_pos rfl]
  · rw [hnode u hwas] at ho
    rw [hclaims, Table.get?_insert, IsOwnFile, hnode u hwas]
    rcases owned.owns u hu hwas o ho with hown | hfile
    · have hother : o ≠ g.generatedPath path := by
        rintro rfl
        have := free.file _ List.mem_cons_self u hown
        exact hwas (Option.some.inj this ▸ hr)
      exact .inl (by rw [if_neg hother, hown])
    · exact .inr hfile
  · rw [hnode u hwu] at ho
    rw [hnode v hwv]
    exact owned.apart u hu v hv hwu hwv hne o ho

theorem passWrites_installed_iff {g : Graph} (sound : Sound g) (r : TargetId) (f : String) :
    (g.installed r).PassWrites f ↔ f ∈ g.passClaims (g.node r) := by
  have hpass : (g.installed r).pass = some r := rfl
  have hnode : (g.installed r).node r = g.node r := rfl
  have hpath : (g.installed r).generatedPath = g.generatedPath := rfl
  have hplace : (g.installed r).filePlace = g.filePlace := rfl
  have huse : (g.installed r).UsesPartition = g.UsesPartition := rfl
  simp only [PassWrites, hpass, hpath, hplace, huse, Option.some.injEq, exists_eq_left', hnode,
    passClaims_eq sound.targetsNamed, List.mem_append, List.mem_map, mem_partitionNames_iff, eq_comm (a := f)]

theorem owned_installed {was : List TargetId} {g : Graph} (sound : Sound g) (owned : Owned was g) {r : TargetId}
    (free : g.Unclaimed g.pass (g.passClaims (g.node r))) : Owned (was ++ [r]) (g.installed r) := by
  have hclaims : (g.installed r).claims = g.claims.insertKeys (g.passClaims (g.node r)) r := rfl
  have hold : ∀ {u}, u ∉ was ++ [r] → u ∉ was := fun hu h => hu (List.mem_append_left _ h)
  refine ⟨fun r' hr' => ?_, fun r' f hr' hf => ?_, fun u hu hwas o ho => ?_, fun u hu v hv hwu hwv => ?_⟩
  · cases (Option.some.inj hr' : r = r')
    simp
  · cases (Option.some.inj hr' : r = r')
    rw [hclaims, Table.get?_insertKeys, if_pos ((passWrites_installed_iff sound r f).mp hf)]
  · rw [hclaims, Table.get?_insertKeys]
    rcases owned.owns u hu (hold hwas) o ho with hown | ⟨_, hfile⟩
    · have hother : o ∉ g.passClaims (g.node r) := fun hmem =>
        hold hwas (owned.passWas u (free o hmem u hown).symm)
      exact .inl (by rw [if_neg hother, hown])
    · exact .inr ⟨rfl, hfile⟩
  · exact owned.apart u hu v hv (hold hwu) (hold hwv)

variable {Asked : TargetId → Prop}

theorem Growth.owned {g g' : Graph} (step : Growth Target.Named Asked g g') (sound : Sound g)
    {was : List TargetId} (owned : Owned was g) : Owned was g' := by
  cases step with
  | make fit => exact (still_push g _).owned sound owned
  | edit t same => exact (still_modifyNode g t same).owned sound owned
  | enterTag location fresh => exact (still_withTag g _ location).owned sound owned
  | enterPool admitted => exact (still_withPool g _ _).owned sound owned
  | register made free asked => exact owned_registered sound owned made free
  | generate free => exact owned_generated sound owned free

theorem owned_of_growth {g g' : Graph} (steps : ReflTransGen (Growth Target.Named Asked) g g') (sound : Sound g)
    {was : List TargetId} (owned : Owned was g) : Owned was g' :=
  Growth.invariant (fun step sound owned => step.owned sound owned) steps sound owned

theorem owned_blank (buildDir : Option String) : Owned [] (blank buildDir) where
  passWas _ h := by cases h
  passOwns _ _ h := by cases h
  owns _ h := by cases h
  apart _ h := by cases h

theorem growth_start (buildDir : Option String) :
    ReflTransGen (Growth Target.Named fun _ => False) (blank buildDir) (start buildDir) :=
  growth_tag (blank buildDir) defaultTag none

theorem sound_start (buildDir : Option String) : Sound (start buildDir) :=
  sound_of_growth (growth_start buildDir) (sound_blank buildDir)

theorem owned_start (buildDir : Option String) : Owned [] (start buildDir) :=
  owned_of_growth (growth_start buildDir) (sound_blank buildDir) (owned_blank buildDir)

/-- Owners stay right through a run, where the targets installed on the way join those that have been the one for
the pass. -/
theorem owned_run {g : Graph} {ops : List Operation} {was : List TargetId} (valid : g.ValidRun ops) (sound : Sound g)
    (owned : Owned was g) : Sound (g.run ops) ∧ Owned (was ++ g.installs ops) (g.run ops) := by
  induction ops generalizing g was with
  | nil => exact ⟨sound, by rwa [installs, List.append_nil]⟩
  | cons op rest ih =>
    rw [run_cons, installs]
    rcases after_cases valid.1 with ⟨r, _, made, free, hby, hafter⟩ | ⟨hby, steps⟩
    · have h := ih valid.2 (hafter ▸ sound_installed sound made) (hafter ▸ owned_installed sound owned free)
      rwa [hby, Option.toList_some, ← List.append_assoc]
    · have h := ih valid.2 (sound_of_growth steps sound) (owned_of_growth steps sound owned)
      rwa [hby, Option.toList_none, List.nil_append]

/-- What is both built and written by the pass: a registered target that builds the file of its own partition does
so while the pass writes it, and no other one does, unless it has been the one for the pass itself. -/
theorem built_and_written {buildDir : Option String} {ops : List Operation} (valid : (start buildDir).ValidRun ops)
    {t : TargetId} (ht : t ∈ ((start buildDir).run ops).targets)
    (hpass : ((start buildDir).run ops).pass.isSome) {o : String}
    (ho : o ∈ (((start buildDir).run ops).node t).allOutputs) :
    (((start buildDir).run ops).IsOwnFile t o → ((start buildDir).run ops).PassWrites o) ∧
      (((start buildDir).run ops).PassWrites o →
        ((start buildDir).run ops).IsOwnFile t o ∨ t ∈ (start buildDir).installs ops) := by
  obtain ⟨_, owned⟩ := owned_run valid (sound_start buildDir) (owned_start buildDir)
  refine ⟨fun hfile => hfile.passWrites ht hpass, fun hwrites => ?_⟩
  by_cases hwas : t ∈ (start buildDir).installs ops
  · exact .inr hwas
  obtain ⟨r, hr⟩ := Option.isSome_iff_exists.mp hpass
  rcases owned.owns t ht hwas o ho with hown | ⟨_, hfile⟩
  · have hclaim := owned.passOwns r o hr hwrites
    have htr : t = r := Option.some.inj (hown.symm.trans hclaim)
    exact absurd (htr ▸ owned.passWas r hr) hwas
  · exact .inl hfile

/-- A run in which a target goes to a partition and builds the file of it. -/
def clash : List Operation :=
  [.make (Target.pass "build.ninja" [] [.text "kiln"]), .install ⟨1⟩,
    .make { Target.emptyGroup "/b/tools.ninja" none with action := .nothing, partition := .text "tools" },
    .register ⟨2⟩]

theorem validRun_clash : (start (some "/b")).ValidRun clash := by
  refine ⟨.inl rfl, ⟨?_, ?_⟩, .inr ⟨"tools", rfl⟩, ?_, trivial⟩
  · decide +kernel
  · decide +kernel
  · show Made _ _
    decide +kernel

theorem built_and_written_clash :
    (((start (some "/b")).run clash).IsOwnFile ⟨2⟩ "/b/tools.ninja" →
        ((start (some "/b")).run clash).PassWrites "/b/tools.ninja") ∧
      (((start (some "/b")).run clash).PassWrites "/b/tools.ninja" →
        ((start (some "/b")).run clash).IsOwnFile ⟨2⟩ "/b/tools.ninja" ∨
          (⟨2⟩ : TargetId) ∈ (start (some "/b")).installs clash) :=
  built_and_written validRun_clash (by decide +kernel) (by decide +kernel) (by decide +kernel)

/-- So it is not so that what the pass writes is never built. -/
theorem not_disjoint_built_written :
    ¬ ∀ (dir : String) (ops : List Operation), (start (some dir)).ValidRun ops →
      ((start (some dir)).run ops).pass.isSome →
      ∀ t ∈ ((start (some dir)).run ops).targets, ∀ o ∈ (((start (some dir)).run ops).node t).allOutputs,
        ¬ ((start (some dir)).run ops).PassWrites o := by
  intro h
  refine h "/b" clash validRun_clash (by decide +kernel) ⟨2⟩ (by decide +kernel) "/b/tools.ninja"
    (by decide +kernel) ⟨⟨1⟩, by decide +kernel, .inr ⟨"tools", ⟨⟨2⟩, by decide +kernel, ?_⟩, by decide +kernel⟩⟩
  rw [← Target.partitionName?_eq_some_iff]
  decide +kernel

end BuildTree.Graph
