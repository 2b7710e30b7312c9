import BuildTree.Proofs.Ninja.Files
import BuildTree.Proofs.Text.ShellCommands

/-!
# Arguments on their way to the shell

Below the line of its statement a target binds what its rule runs. Read line by line, with the escapes of values undone,
and split as a shell splits a line, these bindings are the arguments that the target was declared with: each of them is
one word, whatever characters it has, and commands end where they did.
-/

namespace BuildTree.Ninja
open Text Effect BuildTree.Graph

/-- The indented lines below a line of a text, or below several lines, up to an empty one. -/
def Below (text head : String) (body : List (List Char)) : Prop :=
  (∀ l ∈ body, l.head? = some ' ') ∧
    ∃ before after, fields '\n' text.toList = before ++ fields '\n' head.toList ++ body ++ [] :: after

/-- What lines bind a key to; of several bindings the last one counts. -/
def boundIn (key : String) (lines : List (List Char)) : Option String :=
  ((lines.filterMap bindingOf).filter (·.key = key)).getLast?.map (·.value)

/-- Lines that bind what a target runs to its own arguments. -/
def ArgumentsKept (g : Graph) (t : Target) (lines : List (List Char)) : Prop :=
  match t.action with
  | .run r => (boundIn "cwd" lines).bind shellSplit = some [r.cwd] ∧
      ∀ commands, r.commands = commands.map Command.arguments → (∀ args ∈ commands, args ≠ []) →
        (boundIn "cmd" lines).bind shellCommands = some commands
  | .compile c => (boundIn "compiler" lines).bind shellSplit = some [g.text c.compiler] ∧
      (boundIn "flags" lines).bind shellSplit = some c.flags ∧ (boundIn "root" lines).bind shellSplit = some [c.root]
  | _ => True

/-- A text has the statement of a target, and what the target runs is read back from the lines below it. -/
def Survives (g : Graph) (t : Target) (text : String) : Prop :=
  ∃ body, Below text (declared g t).line body ∧ ArgumentsKept g t body

section Lines

/-- A statement whose values stand on one line has its bindings below its line, wherever it is written. -/
theorem below_buildItems {s : Statement} (h : ∀ b ∈ s.bindings, PlainKey b.key ∧ '\n' ∉ b.value.toList)
    (before after : List Item) :
    Below (render (before ++ buildItems s ++ after)) s.line (s.bindings.map Binding.valueChars) := by
  have hbindings : ∀ l ∈ s.bindings.map Binding.valueChars, '\n' ∉ l := by
    intro l hl
    obtain ⟨b, hb, rfl⟩ := List.mem_map.mp hl
    exact newline_notMem_valueLine (h b hb).1 (h b hb).2
  refine ⟨fun l hl => ?_, (before.flatMap Item.lines).flatMap (fields '\n'),
    fields '\n' (ended (after.flatMap Item.lines)), ?_⟩
  · obtain ⟨b, _, rfl⟩ := List.mem_map.mp hl
    rfl
  · have hlines : (buildItems s).flatMap Item.lines = s.line.toList :: s.bindings.map Binding.valueChars ++ [[]] := by
      simp [buildItems, Item.lines]
    have hblank : fields '\n' [] = [[]] := rfl
    rw [toList_render, List.flatMap_append, List.flatMap_append, hlines, ended_append, fields_ended_append]
    simp only [List.flatMap_append, List.flatMap_cons, List.flatMap_nil, flatMap_fields hbindings, hblank,
      List.append_nil, List.append_assoc, List.singleton_append]

end Lines

section Values

theorem trimmed_of_head {value : String} (h : value.toList.head? ≠ some ' ') : trimmed value = value := by
  rw [trimmed]
  cases hchars : value.toList with
  | nil => rw [← hchars, ← String.ofList_toList (s := value), hchars]; rfl
  | cons c cs =>
    rw [hchars] at h
    rw [skipBlanks_of_ne (by simpa using h), ← hchars, String.ofList_toList]

theorem head?_shellWordChars (cs : List Char) : (shellWordChars cs).head? ≠ some ' ' := by
  unfold shellWordChars
  split
  next hsafe =>
    intro hhead
    simp only [Bool.and_eq_true, List.all_eq_true] at hsafe
    have := hsafe.2 ' ' (List.mem_of_head? hhead)
    cases this
  · simp

theorem trimmed_shellWord (arg : String) : trimmed (shellWord arg) = shellWord arg :=
  trimmed_of_head (by rw [shellWord, String.toList_ofList]; exact head?_shellWordChars _)

theorem shellSplit_shellWord (arg : String) : shellSplit (shellWord arg) = some [arg] := by
  have hline : shellLine [arg] = shellWord arg := by simp [shellLine]
  rw [← hline, shellSplit_shellLine]

theorem shellWordChars_ne_nil (cs : List Char) : shellWordChars cs ≠ [] := by
  unfold shellWordChars
  split
  next hsafe =>
    intro hnil
    rw [hnil] at hsafe
    cases hsafe
  · simp

theorem head?_shellLine (args : List String) (rest : List Char) (h : args = [] → rest = []) :
    ((shellLine args).toList ++ rest).head? ≠ some ' ' := by
  cases args with
  | nil =>
    rw [h rfl]
    decide
  | cons arg args =>
    have hne := shellWordChars_ne_nil arg.toList
    rw [shellLine, List.map_cons, toList_intercalate_cons, shellWord, String.toList_ofList, List.append_assoc,
      List.head?_append_of_ne_nil _ hne]
    exact head?_shellWordChars _

theorem trimmed_shellLine (args : List String) : trimmed (shellLine args) = shellLine args :=
  trimmed_of_head (by simpa using head?_shellLine args [] fun _ => rfl)

theorem trimmed_commands {commands : List (List String)} (h : ∀ args ∈ commands, args ≠ []) :
    trimmed (String.intercalate " && " (commands.map shellLine)) =
      String.intercalate " && " (commands.map shellLine) := by
  -- the first command has a word, and no word begins with a blank
  refine trimmed_of_head ?_
  rw [String.toList_intercalate]
  cases commands with
  | nil => decide
  | cons args others =>
    have hne : args ≠ [] := h args List.mem_cons_self
    cases others with
    | nil => simpa using head?_shellLine args [] fun _ => rfl
    | cons next others =>
      rw [List.map_cons, List.map_cons, List.map_cons, List.map_cons, List.intercalate_cons_cons, List.append_assoc]
      exact head?_shellLine args _ fun hnil => absurd hnil hne

/-- A binding that is the only one of its key is what the lines of bindings bind that key to. -/
theorem boundIn_of_mem {bindings : List Binding} (h : ∀ b ∈ bindings, PlainKey b.key) {b : Binding}
    (hb : b ∈ bindings) (honly : ∀ c ∈ bindings, c.key = b.key → c = b) :
    boundIn b.key (bindings.map Binding.valueChars) = some (trimmed b.value) := by
  have hread : (bindings.map Binding.valueChars).filterMap bindingOf =
      bindings.map fun b => ⟨b.key, trimmed b.value⟩ := by
    rw [List.filterMap_map]
    exact List.filterMap_eq_map_iff_forall_eq_some.mpr fun c hc => bindingOf_valueChars (h c hc)
  have hne : bindings.filter (·.key = b.key) ≠ [] :=
    List.ne_nil_of_mem (List.mem_filter.mpr ⟨hb, by simp⟩)
  have hlast : (bindings.filter (·.key = b.key)).getLast? = some b := by
    obtain ⟨hc, hkey⟩ := List.mem_filter.mp (List.getLast_mem hne)
    rw [List.getLast?_eq_some_getLast hne, honly _ hc (by simpa using hkey)]
  rw [boundIn, hread, List.filter_map, List.getLast?_map, Option.map_map]
  show Option.map _ (bindings.filter (·.key = b.key)).getLast? = _
  rw [hlast]
  rfl

end Values

section Targets
variable {g : Graph}

theorem boundIn_targetBindings {t : Target} {key value : String} (hb : ⟨key, value⟩ ∈ targetBindings g t)
    (honly : ∀ b ∈ targetBindings g t, b.key = key → b = ⟨key, value⟩) :
    boundIn key ((targetBindings g t).map Binding.valueChars) = some (trimmed value) :=
  boundIn_of_mem (plainKey_targetBindings g t) hb honly

/-- The bindings of a target bind its arguments, each as one word. -/
theorem argumentsKept_targetBindings (t : Target) :
    ArgumentsKept g t ((targetBindings g t).map Binding.valueChars) := by
  unfold ArgumentsKept
  cases haction : t.action with
  | run r =>
    have hmem := fun b => mem_targetBindings_run (g := g) haction b
    have hcwd : boundIn "cwd" ((targetBindings g t).map Binding.valueChars) = some (trimmed (shellWord r.cwd)) := by
      refine boundIn_targetBindings ((hmem _).mpr (.inl rfl)) fun b hb hkey => ?_
      rcases (hmem b).mp hb with rfl | ⟨_, rfl⟩ | rfl | ⟨_, _, _, rfl⟩ | ⟨_, rfl⟩ | rfl
      · rfl
      all_goals exact absurd hkey (by simp)
    have hcmd : boundIn "cmd" ((targetBindings g t).map Binding.valueChars) =
        some (trimmed (String.intercalate " && " (r.commands.map Command.shellLine))) := by
      refine boundIn_targetBindings ((hmem _).mpr (.inr (.inr (.inl rfl)))) fun b hb hkey => ?_
      rcases (hmem b).mp hb with rfl | ⟨_, rfl⟩ | rfl | ⟨_, _, _, rfl⟩ | ⟨_, rfl⟩ | rfl
      · exact absurd hkey (by simp)
      · exact absurd hkey (by simp)
      · rfl
      all_goals exact absurd hkey (by simp)
    refine ⟨by rw [hcwd, Option.bind_some, trimmed_shellWord, shellSplit_shellWord], ?_⟩
    intro commands hcommands hfull
    have hlines : r.commands.map Command.shellLine = commands.map shellLine := by
      rw [hcommands, List.map_map]
      rfl
    rw [hcmd, hlines, Option.bind_some, trimmed_commands hfull, shellCommands_lines hfull]
  | compile c =>
    have hbindings : targetBindings g t = [⟨"compiler", shellWord (g.text c.compiler)⟩, ⟨"flags", shellLine c.flags⟩,
        ⟨"root", shellWord c.root⟩] := by
      rw [targetBindings, haction]
    have hbound : ∀ key value, ⟨key, value⟩ ∈ targetBindings g t →
        boundIn key ((targetBindings g t).map Binding.valueChars) = some (trimmed value) := by
      intro key value hb
      refine boundIn_targetBindings hb fun b hb' hkey => ?_
      rw [hbindings] at hb hb'
      simp only [List.mem_cons, List.not_mem_nil, or_false, Binding.mk.injEq] at hb hb'
      rcases hb with ⟨rfl, rfl⟩ | ⟨rfl, rfl⟩ | ⟨rfl, rfl⟩ <;> rcases hb' with rfl | rfl | rfl <;> simp_all
    rw [hbound "compiler" (shellWord (g.text c.compiler)) (by simp [hbindings]),
      hbound "flags" (shellLine c.flags) (by simp [hbindings]), hbound "root" (shellWord c.root) (by simp [hbindings])]
    simp only [Option.bind_some, trimmed_shellWord, trimmed_shellLine, shellSplit_shellWord, shellSplit_shellLine,
      and_self]
  | _ => trivial

/-- Whatever arguments the targets of a graph have, wherever the statements of these targets are written the lines
below them give the arguments back; and each of them is written in its file, if partitions have names. -/
theorem arguments_survive {interpreter : String} {texts : Table String} (h : emit g interpreter = .ok texts) :
    ∃ files, emitItems g interpreter = .ok files ∧ texts = files.map (fun (name, items) => (name, render items)) ∧
      ∀ t ∈ g.targets,
        (∀ entry ∈ files, Item.build (declared g (g.node t)) ∈ entry.2 → Survives g (g.node t) (render entry.2)) ∧
        ((∀ u ∈ g.targets, (g.node u).Named) →
          ∃ text, texts.get? (fileOf (g.node t)) = some text ∧ Survives g (g.node t) text) := by
  obtain ⟨files, hfiles, rfl⟩ := items_of_emit h
  have hsurvives : ∀ t, ∀ entry ∈ files, Item.build (declared g (g.node t)) ∈ entry.2 →
      Survives g (g.node t) (render entry.2) := by
    intro t entry hentry hs
    obtain ⟨horigin, before, after, hitems⟩ := (originated_of_mem hfiles hentry).split hs
    refine ⟨_, ?_, argumentsKept_targetBindings _⟩
    rw [hitems]
    exact below_buildItems (fun b hb => ⟨plainKey_targetBindings g _ b hb, horigin.values b hb⟩) before after
  refine ⟨files, hfiles, rfl, fun t ht => ⟨hsurvives t, fun named => ?_⟩⟩
  obtain ⟨_, items, hfile, hs⟩ := (laid_of_emitItems named hfiles).statement ht
  refine ⟨render items, ?_, hsurvives t _ (Table.mem_of_get? hfile) hs⟩
  rw [Table.get?_map, hfile]
  rfl

end Targets

/-- Arguments that would be split, dropped or taken for something else if any step on the way forgot about them. -/
def awkwardRecipe : Recipe where
  commands := [.arguments ["tool", "", "&&", "it's $HOME", "K=v w", "#"], .arguments ["a&&b", "\"'", "$$"]]
  cwd := "/s dir"
  depfile := none
  env := [("A", "b c")]
  pool := .null

def awkwardCompilation : Compilation where
  rule := .text "compile"
  compiler := .path (Path.ofString "/opt/my cc")
  flags := ["-DNAME=\"a b\"", "", "$(X);"]
  root := "~"

/-- A run that registers a target with each of them. -/
def awkward : List Operation :=
  [.make { Target.emptyGroup "/b/out" none with action := .run awkwardRecipe }, .register ⟨1⟩,
    .make { Target.emptyGroup "/b/a b.o" none with action := .compile awkwardCompilation, partition := .text "objects" },
    .register ⟨2⟩]

theorem arguments_survive_awkward :
    ∃ files, emit ((start none).run awkward) "/usr/bin/python3" = .ok files ∧
      (∃ text body, files.get? "build.ninja" = some text ∧ Below text "build /b/out: command" body ∧
        (boundIn "cmd" body).bind shellCommands =
          some [["tool", "", "&&", "it's $HOME", "K=v w", "#"], ["a&&b", "\"'", "$$"]]) ∧
      ∃ text body, files.get? "objects.ninja" = some text ∧ Below text "build /b/a$ b.o: compile" body ∧
        (boundIn "compiler" body).bind shellSplit = some ["/opt/my cc"] ∧
        (boundIn "flags" body).bind shellSplit = some ["-DNAME=\"a b\"", "", "$(X);"] := by
  have hok : ∃ files ∈ (emit ((start none).run awkward) "/usr/bin/python3").toOption, True := by decide +kernel
  obtain ⟨files, hfiles, _⟩ := hok
  have hemit := eq_ok_of_toOption hfiles
  have hnamed : ∀ t ∈ ((start none).run awkward).targets, (((start none).run awkward).node t).Named := by
    decide +kernel
  obtain ⟨_, _, _, hall⟩ := arguments_survive hemit
  refine ⟨files, hemit, ?_, ?_⟩
  · obtain ⟨text, hfile, body, hbelow, _, hcmd⟩ := (hall ⟨1⟩ (by decide +kernel)).2 hnamed
    exact ⟨text, body, hfile, hbelow, hcmd _ rfl (by decide)⟩
  · obtain ⟨text, hfile, body, hbelow, hcompiler, hflags, _⟩ := (hall ⟨2⟩ (by decide +kernel)).2 hnamed
    exact ⟨text, body, hfile, hbelow, hcompiler, hflags⟩

end BuildTree.Ninja
