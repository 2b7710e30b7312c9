import BuildTree.CommandLine.Run
import BuildTree.Proofs.CommandLine.Parse
import BuildTree.Proofs.CommandLine.Settings
import BuildTree.Proofs.Path.Spelling

/-!
# The command line of a pass

A setup whose places are spelled from the root is what its own command line asks for. It does not matter where that
command line is run and what the environment says there, as long as the same interpreter runs it.
-/

namespace BuildTree

theorem Path.Fixed.plainWord {p : Path} (h : p.Fixed) : CommandLine.PlainWord p.toString := by
  unfold CommandLine.PlainWord
  rw [head?_toString h.absolute]
  decide

namespace CommandLine

/-- The pass that words ask for in some surroundings, if they ask for one. -/
def World.asked? (w : World) (args : List String) : Option Setup :=
  match request args with
  | .ok (.configure _ sourceDir buildDir preloads extra) =>
    let (source, build) := w.directories sourceDir buildDir
    let (settings, others) := settings extra
    if others.isEmpty then (preloads.mapM id).map fun preloads => w.setup source build preloads settings else none
  | _ => none

/-- A setup that a command line can say: its places are fixed, its settings are those of words, and its scripts have
their usual name. -/
structure Said (setup : Setup) : Prop where
  source : setup.source.Fixed
  build : setup.build.Fixed
  preloads : ∀ p ∈ setup.preloads, p.Fixed
  settings : Spelt setup.settings
  scriptName : setup.scriptName = .text scriptName

/-- Whatever directories, preloads and words a pass is set up from, a command line can say it. -/
theorem said_setup {w : World} (hdir : w.workingDir.Fixed) (source build : String) (preloads args : List String) :
    Said (w.setup (Path.ofString source) (Path.ofString build) preloads (settings args).1) where
  source := hdir.join source
  build := hdir.join build
  preloads p hp := by
    obtain ⟨text, _, rfl⟩ := List.mem_map.mp hp
    exact hdir.join text
  settings := spelt_settings args
  scriptName := rfl

/-- The words of a setup behind the ones that call the tool. -/
def commandWords (setup : Setup) : List String :=
  "configure" :: configureArgs setup.source.toString setup.build.toString (setup.preloads.map Path.toString)
    (setup.settings.map settingWord)

theorem command_eq (setup : Setup) :
    setup.command = setup.interpreter :: "-m" :: "kiln.cli" :: commandWords setup := by
  simp [Setup.command, commandWords, configureArgs, List.flatMap_map, settingWord]

theorem firstOf_some {text : String} (h : text ≠ "") (environment : Table String) (variable_ fixed : String) :
    firstOf (some text) environment variable_ fixed = text :=
  if_neg h

theorem mapM_id_some (texts : List String) : (texts.map some).mapM id = some texts := by
  induction texts with
  | nil => rfl
  | cons text rest ih => rw [List.map_cons, List.mapM_cons, ih]; rfl

/-- The command line of a setup asks for that setup. -/
theorem asked?_commandWords {setup : Setup} (h : Said setup) {w : World} (hw : w.interpreter = setup.interpreter) :
    w.asked? (commandWords setup) = some setup := by
  have hpreloads : ∀ text ∈ setup.preloads.map Path.toString, PlainWord text := fun text htext => by
    obtain ⟨p, hp, rfl⟩ := List.mem_map.mp htext
    exact (h.preloads p hp).plainWord
  have hsettings : ∀ word ∈ setup.settings.map settingWord, PlainWord word := fun word hword => by
    obtain ⟨⟨key, value⟩, hentry, rfl⟩ := List.mem_map.mp hword
    have hkey := h.settings.keys key (List.mem_map_of_mem hentry)
    rw [PlainWord, (hkey.head?_settingWord value).1]
    exact hkey.noDash
  have hrequest := request_configureArgs h.source.plainWord h.build.plainWord hpreloads hsettings
  -- all places are seen from the root, so neither the working directory nor the environment has a say
  have hseen : ∀ ps : List Path, (∀ p ∈ ps, p.Fixed) →
      (ps.map Path.toString).map (fun p => w.workingDir.join (Path.ofString p)) = ps := fun ps hps => by
    rw [List.map_map]
    exact (List.map_congr_left fun p hp => (hps p hp).join_ofString _).trans (List.map_id ps)
  unfold World.asked?
  rw [commandWords, hrequest]
  simp only [settings_spelt h.settings, mapM_id_some, World.directories, firstOf_some h.source.toString_ne_empty,
    firstOf_some h.build.toString_ne_empty, World.setup, h.source.join_ofString, h.build.join_ofString,
    hseen setup.preloads h.preloads, hw, List.isEmpty_nil, if_true, Option.map_some, ← h.scriptName]

end CommandLine
end BuildTree
