import BuildTree.Proofs.Graph.Change

/-!
# Partitions in use

A target is declared with the name of its partition or with none. Among such targets partitions are told apart by
their names alone, so the partitions in use are a list of names, each once, in order of first use.
-/

namespace BuildTree

/-- The partition of a target is a name or none. -/
def Target.Named (t : Target) : Prop :=
  t.partition = .null ∨ ∃ name, t.partition = .text name

instance (t : Target) : Decidable t.Named :=
  match h : t.partition with
  | .null => isTrue (.inl h)
  | .text name => isTrue (.inr ⟨name, h⟩)
  | .bool _ | .int _ | .float _ | .list _ | .record _ | .path _ | .target _ | .targetDependency _
  | .pathDependency _ | .pattern _ _ | .location _ | .transform _ | .other _ _ | .again _ =>
    isFalse (by simp [Target.Named, h])

theorem Target.Named.of_partition {t u : Target} (h : t.Named) (he : u.partition = t.partition) : u.Named := by
  rw [Target.Named, he]
  exact h

def Target.partitionName? (t : Target) : Option String :=
  match t.partition with
  | .text name => some name
  | _ => none

theorem Target.partitionName?_eq_some_iff (t : Target) (name : String) :
    t.partitionName? = some name ↔ t.partition = .text name := by
  unfold partitionName?
  cases t.partition <;> simp

namespace Graph

def UsesPartition (g : Graph) (name : String) : Prop :=
  ∃ t ∈ g.targets, (g.node t).partition = .text name

/-- The names of the partitions in use, in order of first use. -/
def partitionNames (g : Graph) : List String :=
  (g.targets.filterMap fun t => (g.node t).partitionName?).eraseDups

theorem mem_partitionNames_iff (g : Graph) (name : String) : name ∈ g.partitionNames ↔ g.UsesPartition name := by
  simp only [partitionNames, List.mem_eraseDups, List.mem_filterMap, Target.partitionName?_eq_some_iff,
    UsesPartition]

theorem nodup_eraseDups (names : List String) : names.eraseDups.Nodup := by
  match names with
  | [] => exact List.nodup_nil
  | n :: rest =>
    rw [List.eraseDups_cons, List.nodup_cons, List.mem_eraseDups]
    exact ⟨by simp, nodup_eraseDups _⟩
termination_by names.length
decreasing_by
  have := List.length_filter_le (fun b => !b == n) rest
  simp only [List.length_cons]
  omega

theorem nodup_partitionNames (g : Graph) : g.partitionNames.Nodup := nodup_eraseDups _

def seeAlso (seen : List Given) (p : Given) : List Given :=
  if seen.any (·.same p) then seen else seen ++ [p]

theorem any_same_text_iff (names : List String) (name : String) :
    (names.map Value.text : List Given).any (·.same (.text name)) = true ↔ name ∈ names := by
  simp only [List.any_map, List.any_eq_true, Function.comp_apply, Value.same_text, decide_eq_true_eq]
  constructor
  · rintro ⟨n, hn, rfl⟩
    exact hn
  · intro h
    exact ⟨name, h, rfl⟩

/-- Adding to a list what is not in it yet leaves each thing once, in order of first occurrence. -/
theorem foldl_once {α β : Type} [DecidableEq α] {f : α → β} {add : List β → α → List β}
    (hadd : ∀ seen a, add (seen.map f) a = if a ∈ seen then seen.map f else (seen ++ [a]).map f) (all seen : List α) :
    all.foldl add (seen.map f) = (seen ++ (all.removeAll seen).eraseDups).map f := by
  induction all generalizing seen with
  | nil => simp
  | cons a rest ih =>
    by_cases h : a ∈ seen
    · have hrest : (a :: rest).removeAll seen = rest.removeAll seen := by simp [List.removeAll, h]
      rw [List.foldl_cons, hadd, if_pos h, ih, hrest]
    · have hrest : (a :: rest).removeAll seen = a :: rest.removeAll seen := by simp [List.removeAll, h]
      have hrest' : rest.removeAll (seen ++ [a]) = (rest.removeAll seen).filter (fun b => !b == a) := by
        simp only [List.removeAll, List.filter_filter]
        refine List.filter_congr fun b _ => ?_
        by_cases hb : b = a <;> simp [hb]
      rw [List.foldl_cons, hadd, if_neg h, ih, hrest, hrest', List.eraseDups_cons, List.append_assoc]
      rfl

theorem foldl_once_nil {α β : Type} [DecidableEq α] {f : α → β} {add : List β → α → List β}
    (hadd : ∀ seen a, add (seen.map f) a = if a ∈ seen then seen.map f else (seen ++ [a]).map f) (all : List α) :
    all.foldl add [] = all.eraseDups.map f := by
  have hnothing : all.removeAll [] = all := by simp [List.removeAll]
  have h := foldl_once hadd all []
  rwa [hnothing, List.nil_append] at h

theorem seeAlso_text (seen : List String) (name : String) : seeAlso (seen.map Value.text) (.text name) =
    if name ∈ seen then seen.map Value.text else (seen ++ [name]).map Value.text := by
  by_cases h : name ∈ seen
  · rw [seeAlso, if_pos ((any_same_text_iff seen name).mpr h), if_pos h]
  · rw [seeAlso, if_neg (fun hs => h ((any_same_text_iff seen name).mp hs)), if_neg h, List.map_append]
    rfl

theorem routed_partitions {g : Graph} (named : ∀ t ∈ g.targets, (g.node t).Named) :
    (g.targets.filter g.isRouted).map (fun t => (g.node t).partition) =
      (g.targets.filterMap fun t => (g.node t).partitionName?).map Value.text := by
  generalize g.targets = ts at named
  induction ts with
  | nil => rfl
  | cons t rest ih =>
    have ih' := ih fun u hu => named u (List.mem_cons_of_mem t hu)
    rcases named t List.mem_cons_self with hp | ⟨name, hp⟩
    · have hr : g.isRouted t = false := by simp [isRouted, hp]
      have hn : (g.node t).partitionName? = none := by simp [Target.partitionName?, hp]
      simp only [List.filter_cons, hr, Bool.false_eq_true, if_false, List.filterMap_cons, hn, ih']
    · have hr : g.isRouted t = true := by simp [isRouted, hp]
      have hn : (g.node t).partitionName? = some name := by simp [Target.partitionName?, hp]
      simp only [List.filter_cons, hr, if_true, List.filterMap_cons, hn, List.map_cons, hp, ih']

/-- The partitions that the graph finds are those names. -/
theorem partitions_eq {g : Graph} (named : ∀ t ∈ g.targets, (g.node t).Named) :
    g.partitions = g.partitionNames.map Value.text := by
  have h : (g.targets.filterMap fun t => (g.node t).partitionName?).foldl
      (fun seen name => seeAlso seen (.text name)) [] = g.partitionNames.map Value.text := foldl_once_nil seeAlso_text _
  rw [← List.foldl_map, ← routed_partitions named] at h
  exact h

@[simp] theorem partitionFile_text (g : Graph) (name : String) : g.partitionFile (.text name) = name ++ ".ninja" := rfl

def filePlace (g : Graph) (name : String) : String :=
  g.generatedPath (name ++ ".ninja")

/-- A target opens the file of a partition that no target goes to yet, if there is a target for the pass. -/
theorem openedPartition_eq_some_iff {g : Graph} (named : ∀ t ∈ g.targets, (g.node t).Named) {t : Target}
    (ht : t.Named) (file : String) :
    g.openedPartition t = some file ↔
      g.pass.isSome ∧ ∃ name, t.partition = .text name ∧ ¬ g.UsesPartition name ∧ file = g.filePlace name := by
  unfold openedPartition
  cases hpass : g.pass with
  | none => simp
  | some r =>
    rcases ht with hp | ⟨name, hp⟩
    · simp [hp]
    · have hany : g.partitions.any (·.same (.text name)) = true ↔ g.UsesPartition name := by
        rw [partitions_eq named, any_same_text_iff, mem_partitionNames_iff]
      simp only [hp, Value.text.injEq, Option.isSome_some, true_and, partitionFile_text]
      by_cases hu : g.UsesPartition name
      · rw [if_pos (hany.mpr hu)]
        constructor
        · rintro ⟨⟩
        · rintro ⟨_, rfl, hn, _⟩
          exact absurd hu hn
      · rw [if_neg (fun hs => hu (hany.mp hs))]
        constructor
        · rintro ⟨⟩
          exact ⟨name, rfl, hu, rfl⟩
        · rintro ⟨_, rfl, _, rfl⟩
          rfl

@[simp] theorem text_text (g : Graph) (name : String) : g.text (.text name) = name := rfl

@[simp] theorem text?_text (g : Graph) (name : String) : g.text? (.text name) = some name := rfl

theorem spelled_opened (g : Graph) {t : Target} (ht : t.Named) : g.Spelled (g.opened t) := by
  intro p hp
  obtain ⟨hopens, rfl⟩ : (g.openedPartition t).isSome ∧ p = t.partition := by
    simpa [opened] using hp
  rcases ht with hnull | ⟨name, hname⟩
  · cases hpass : g.pass <;> simp [openedPartition, hpass, hnull] at hopens
  · rw [hname]
    rfl

theorem passClaims_eq {g : Graph} (named : ∀ t ∈ g.targets, (g.node t).Named) (t : Target) :
    g.passClaims t = t.outputs.map g.generatedPath ++ g.partitionNames.map g.filePlace := by
  rw [passClaims, partitions_eq named, List.map_map]
  rfl

end Graph
end BuildTree
