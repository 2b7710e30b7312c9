import BuildTree.Graph.Request
import BuildTree.Proofs.Graph.Change
import BuildTree.Target.Construct

/-!
# Refused requests

Four of the things that a graph can be asked for are checked first: to register a target, to make one stand for the
pass, to record a file of the pass, and to declare a pool. Every check comes before the first change, so one of these
that is refused leaves the whole graph as it was, and whatever is asked for later is answered as if it had never been
asked.
-/

namespace BuildTree.Graph
open Effect

theorem Decides.unchanged {α : Type} {c : Change α} {g next : Graph} {admits : Prop} {result : α}
    (h : Decides c g admits result next) {f : Fault} (hfail : (c.run g).1 = .error f) : (c.run g).2 = g := by
  by_cases hp : admits
  · rw [h.accepted hp] at hfail
    cases hfail
  · obtain ⟨f', hrun⟩ := h.refused hp
    rw [hrun]

section Atomic

theorem atomic_throw {α : Type} (f : Fault) : Atomic (throw f : Change α) := atomic_of_still fun _ => rfl

theorem atomic_throw_bind {α β : Type} (f : Fault) (rest : α → Change β) :
    Atomic ((throw f : Change α) >>= rest) :=
  atomic_of_still fun _ => rfl

theorem atomic_bind_lift {α β : Type} (e : Except Fault α) {rest : α → Change β} (h : ∀ a, Atomic (rest a)) :
    Atomic ((liftM e : Change α) >>= rest) :=
  atomic_bind_of_still (fun g => by rw [run_lift]) h

theorem atomic_bind_get {β : Type} {rest : Graph → Change β} (h : ∀ g, Atomic (rest g)) :
    Atomic ((get : Change Graph) >>= rest) :=
  atomic_bind_of_still (fun _ => rfl) h

theorem atomic_register (t : TargetId) : Atomic (register t) := fun g _ h => (register_decides g t).unchanged h

theorem atomic_setPass (t : TargetId) : Atomic (setPass t) := fun g _ h => (setPass_decides g t).unchanged h

theorem atomic_declarePool (name : Given) (depth : PoolDepth) (location : Option Location) :
    Atomic (declarePool name depth location) := fun g _ h => (declarePool_decides g name depth location).unchanged h

theorem atomic_declareGivenPool (name depth : Given) (location : Option Location) :
    Atomic (declareGivenPool name depth location) := by
  have hdeclare : Atomic (do
      let depth ← (Argument.depth depth : Except Fault PoolDepth)
      declarePool name depth location : Change Unit) :=
    atomic_bind_lift _ fun depth => atomic_declarePool name depth location
  unfold declareGivenPool
  split
  · exact atomic_bind_of_still (fun _ => rfl) fun _ => hdeclare
  · exact hdeclare

theorem atomic_addGenerated (path : String) (location : Option Location) : Atomic (addGenerated path location) := by
  intro g f h
  rcases addGenerated_cases g path location with ⟨r, _, hrun⟩ | ⟨_, f', hrun⟩
  · rw [hrun] at h
    cases h
  · rw [hrun]

theorem atomic_addOtherGenerated (name : Given) (location : Option Location) :
    Atomic (addOtherGenerated name location) := by
  refine atomic_bind_get fun g => ?_
  by_cases hkey : (g.pass.isNone || !name.isKey) = true
  · simp only [hkey, if_true]
    exact atomic_throw_bind _ _
  · simp only [hkey]
    refine atomic_bind_of_still (fun _ => rfl) fun _ => ?_
    split
    · exact atomic_throw _
    · split
      · exact atomic_throw_bind _ _
      · split
        · exact atomic_throw _
        · exact atomic_modify _

theorem atomic_addGivenGenerated (name : Given) (location : Option Location) :
    Atomic (addGivenGenerated name location) := by
  refine atomic_bind_get fun g => atomic_bind_get fun g' => ?_
  split
  · exact atomic_addGenerated _ _
  · split
    · exact atomic_addOtherGenerated _ _
    · exact atomic_addGenerated _ _
  · exact atomic_addOtherGenerated _ _
  · exact atomic_throw _

end Atomic

/-- What can be asked of a graph, with arguments of any kind. -/
inductive Request where
  | make (kind : Target.Kind) (args : Arguments TargetId)
  | register (target : Given)
  | setPass (target : Given)
  | addGenerated (path : Given) (location : Option Location)
  | declarePool (name depth : Given) (location : Option Location)
  | tag (name : Given) (location : Option Location)
  | attach (target tags : Given) (location : Option Location)
  | find (pattern : Given)
  | depends (t : TargetId) (values : List Given)
  | dependsImplicitly (t : TargetId) (values : List Given)
  | addToGroup (t : TargetId) (values : List Given)
  | setMetadata (t : TargetId) (entries : Record TargetId)
  | addPassInput (t : TargetId) (path : Given)
  | addPassOutput (t : TargetId) (path : Given)

namespace Request

/-- What a request does, and the target that it gives if it gives one. -/
def change : Request → Change Given
  | make kind args => do
    let t ← (Target.construct (← get) kind args : Except Fault Target)
    return .target (← allocate t)
  | register target => do
    let t ← (targetOf target : Except Fault TargetId)
    Graph.register t
    return target
  | setPass target => do
    let t ← (targetOf target : Except Fault TargetId)
    Graph.setPass t
    return .null
  | addGenerated path location => do
    addGivenGenerated path location
    return .null
  | declarePool name depth location => do
    declareGivenPool name depth location
    return .null
  | tag name location => do
    let name ← (Argument.exactText name : Except Fault String)
    return .target (← Graph.tag name location)
  | attach target tags location => do
    attachGiven target tags location
    return .null
  | find pattern => do
    return .target (← ((← get).findGiven pattern : Except Fault TargetId))
  | depends t values => do
    Graph.depends t values
    return .null
  | dependsImplicitly t values => do
    Graph.dependsImplicitly t values
    return .null
  | addToGroup t values => do
    Graph.addToGroup t values
    return .null
  | setMetadata t entries => do
    Graph.setMetadata t entries
    return .null
  | addPassInput t path => do
    Graph.addPassInput t path
    return .null
  | addPassOutput t path => do
    Graph.addPassOutput t path
    return .null

/-- The requests that are checked before anything is done. -/
def isChecked : Request → Bool
  | register _ => true
  | setPass _ => true
  | addGenerated _ _ => true
  | declarePool _ _ _ => true
  | _ => false

theorem atomic_of_isChecked {r : Request} (h : r.isChecked = true) : Atomic r.change := by
  cases r with
  | register target =>
    exact atomic_bind_lift _ fun t => atomic_bind_pure (atomic_register t) fun _ => target
  | setPass target => exact atomic_bind_lift _ fun t => atomic_bind_pure (atomic_setPass t) fun _ => Value.null
  | addGenerated path location => exact atomic_bind_pure (atomic_addGivenGenerated path location) fun _ => Value.null
  | declarePool name depth location =>
    exact atomic_bind_pure (atomic_declareGivenPool name depth location) fun _ => Value.null
  | _ => cases h

end Request

/-- The graph after requests, whether they are carried out or refused. -/
def served (g : Graph) (requests : List Request) : Graph :=
  requests.foldl (fun g r => (r.change.run g).2) g

/-- What requests are answered, one after the other. -/
def answers : Graph → List Request → List (Except Fault Given)
  | _, [] => []
  | g, r :: rest => (r.change.run g).1 :: answers (r.change.run g).2 rest

theorem insertIdx_length_append {α : Type} (a : α) (before later : List α) :
    (before ++ later).insertIdx before.length a = before ++ a :: later := by
  induction before with
  | nil => rfl
  | cons b rest ih => rw [List.cons_append, List.length_cons, List.insertIdx_succ_cons, ih, List.cons_append]

section Served
variable (g : Graph) (before later : List Request)

theorem served_append : g.served (before ++ later) = (g.served before).served later :=
  List.foldl_append

theorem answers_append : g.answers (before ++ later) = g.answers before ++ (g.served before).answers later := by
  induction before generalizing g with
  | nil => rfl
  | cons r rest ih =>
    rw [List.cons_append, answers, answers, ih]
    rfl

theorem length_answers (requests : List Request) : (g.answers requests).length = requests.length := by
  induction requests generalizing g with
  | nil => rfl
  | cons r rest ih => rw [answers, List.length_cons, ih, List.length_cons]

end Served

/-- Of a checked request that is refused nothing is left: not in the graph, and not in what is asked for before or
later, which is answered as it is without the refused one and leads to the same graph. -/
theorem refused_leaves_no_trace (g : Graph) (before later : List Request) {r : Request} (hr : r.isChecked = true)
    {f : Fault} (refused : (r.change.run (g.served before)).1 = .error f) :
    (r.change.run (g.served before)).2 = g.served before ∧
      g.served (before ++ r :: later) = g.served (before ++ later) ∧
      g.answers (before ++ r :: later) = (g.answers (before ++ later)).insertIdx before.length (.error f) := by
  have hsame : (r.change.run (g.served before)).2 = g.served before :=
    Request.atomic_of_isChecked hr (g.served before) f refused
  refine ⟨hsame, ?_, ?_⟩
  · rw [served_append, served_append]
    exact congrArg (fun g : Graph => g.served later) hsame
  · rw [answers_append, answers_append, answers, hsame, refused, ← length_answers g before,
      insertIdx_length_append]

/-- Requests after which the file of the partition `tools` belongs to another target than the one for the pass. -/
def fileTaken : List Request :=
  [.make .pass ⟨[.text "build.ninja", .list [.text "kiln"]], []⟩, .setPass (.target ⟨1⟩),
    .make .copy ⟨[.text "/b/tools.ninja", .text "/s/in"], []⟩, .register (.target ⟨2⟩),
    .make .copy ⟨[.text "/b/gen", .text "/s/in"], [("partition", .text "tools")]⟩]

/-- Registering the first target of that partition passes the check of its outputs and is refused by the one of the
file. Its output is still free for another target. -/
theorem refused_leaves_no_trace_fileTaken :
    let later := [.tag (.text "dist") none, .make .copy ⟨[.text "/b/gen", .text "/s/other"], []⟩,
      .register (.target ⟨5⟩)]
    (start (some "/b")).served (fileTaken ++ .register (.target ⟨3⟩) :: later) =
        (start (some "/b")).served (fileTaken ++ later) ∧
      (start (some "/b")).answers (fileTaken ++ .register (.target ⟨3⟩) :: later) =
        ((start (some "/b")).answers (fileTaken ++ later)).insertIdx 5
          (.error (.configuration (.duplicateOutput "'/b/tools.ninja'" .unknown) none)) ∧
      ((start (some "/b")).answers (fileTaken ++ .register (.target ⟨3⟩) :: later)).map (·.isOk) =
        [true, true, true, true, true, false, true, true, true] := by
  intro later
  have refused : FailsWith (· = .configuration (.duplicateOutput "'/b/tools.ninja'" .unknown) none)
      ((Request.register (.target ⟨3⟩)).change.run ((start (some "/b")).served fileTaken)).1 := by
    decide +kernel
  obtain ⟨_, hrun, rfl⟩ := refused
  obtain ⟨_, hserved, hanswers⟩ := refused_leaves_no_trace (start (some "/b")) fileTaken later rfl hrun
  exact ⟨hserved, hanswers, by decide +kernel⟩

end BuildTree.Graph
