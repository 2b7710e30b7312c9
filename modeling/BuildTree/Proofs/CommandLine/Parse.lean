import BuildTree.CommandLine.Run
import BuildTree.Proofs.Effect
import BuildTree.Proofs.Table

/-!
# Parsing the command line of a pass

A command line that gives a source directory, a build directory, scripts to preload and further words is parsed into
just these, as long as none of them begins with a dash. Settings that are spelled as words are read back in their
order.
-/

namespace BuildTree.CommandLine
open Effect

/-- A word that cannot be taken for an option. -/
def PlainWord (text : String) : Prop :=
  text.toList.head? ≠ some '-'

instance (text : String) : Decidable (PlainWord text) := inferInstanceAs (Decidable (_ ≠ _))

theorem PlainWord.ne_dashes {text : String} (h : PlainWord text) : text ≠ "--" := fun he =>
  h (by rw [he]; decide)

theorem optionOf?_plain (g : Grammar) {text : String} (h : PlainWord text) : optionOf? g text.toList = .ok none := by
  unfold PlainWord at h
  unfold optionOf?
  split
  · next hcs => simp [hcs] at h
  · rfl

section Words

theorem words_plain (g : Grammar) {text : String} (h : PlainWord text) {rest : List String} {ws : List Word}
    (hrest : words g rest = .ok ws) : words g (text :: rest) = .ok (.plain text :: ws) := by
  rw [words.eq_def]
  split
  · next he => cases he
  · next he => exact absurd (List.cons.inj he).1 h.ne_dashes
  · next he =>
    cases he
    simp only [optionOf?_plain g h, hrest]
    rfl

theorem words_plains (g : Grammar) {texts : List String} (h : ∀ text ∈ texts, PlainWord text) :
    words g texts = .ok (texts.map .plain) := by
  induction texts with
  | nil => rfl
  | cons text rest ih =>
    obtain ⟨htext, hrest⟩ := List.forall_mem_cons.mp h
    exact words_plain g htext (ih hrest)

theorem words_option (g : Grammar) {text : String} {o : OptionWord} (hne : text ≠ "--")
    (ho : optionOf? g text.toList = .ok (some o)) {rest : List String} {ws : List Word}
    (hrest : words g rest = .ok ws) : words g (text :: rest) = .ok (.option text o :: ws) := by
  rw [words.eq_def]
  split
  · next he => cases he
  · next he => exact absurd (List.cons.inj he).1 hne
  · next he =>
    cases he
    simp only [ho, hrest]
    rfl

theorem text_words {g : Grammar} {texts : List String} {ws : List Word} (h : words g texts = .ok ws) :
    ws.map Word.text = texts := by
  induction texts generalizing ws with
  | nil =>
    cases h
    rfl
  | cons text rest ih =>
    rw [words.eq_def] at h
    split at h
    · next he => cases he
    · next he =>
      cases h
      cases he
      simp [Word.text, Function.comp_def]
    · next he =>
      cases he
      obtain ⟨o, _, h⟩ := (bind_eq_ok_iff _ _ _).mp h
      have hword : ∃ w : Word, w.text = text ∧ (words g rest >>= fun others => pure (w :: others)) = .ok ws := by
        cases o with
        | none => exact ⟨.plain text, rfl, h⟩
        | some o => exact ⟨.option text o, rfl, h⟩
      obtain ⟨w, htext, h⟩ := hword
      obtain ⟨others, hothers, h⟩ := (bind_eq_ok_iff _ _ _).mp h
      cases h
      rw [List.map_cons, htext, ih hothers]

end Words

section Taking

theorem takeWords_skipped (g : Grammar) (t : Taken) (ws : List Word) :
    takeWords g t ws.length ws = .ok (t.takeRest []) := by
  induction ws with
  | nil => rw [List.length_nil, takeWords]
  | cons w ws ih => rw [List.length_cons, takeWords, ih]

theorem takeRest_closed (t : Taken) (h : t.openPlaces = []) : t.takeRest [] = t := by
  unfold Taken.takeRest Taken.fill
  rw [h]
  simp [fillPlaces, ← h]

/-- A place for the first word and everything behind it takes all words. -/
theorem take_rest {g : Grammar} (hplaces : g.places = [.rest]) {text : String} (h : PlainWord text)
    {rest : List String} {ws : List Word} (hrest : words g rest = .ok ws) :
    take g (text :: rest) = .ok ⟨[], [text :: rest], [], []⟩ := by
  have hwords := words_plain g h hrest
  have htexts := text_words hwords
  have hfill : Taken.fill ⟨[], [], [.rest], []⟩ (.plain text :: ws) =
      (⟨[], [text :: rest], [], []⟩, ws.length + 1) := by
    simp [Taken.fill, fillPlaces, placeWords, Word.isOption, placeTexts, ← htexts]
  have htaken : takeWords g ⟨[], [], g.places, []⟩ 0 (.plain text :: ws) = .ok ⟨[], [text :: rest], [], []⟩ := by
    rw [hplaces, takeWords.eq_def]
    dsimp only
    split
    · rw [Taken.takeRest, hfill]
      simp
    · rw [hfill]
      dsimp only
      rw [if_neg (Nat.succ_ne_zero _), Nat.add_sub_cancel, takeWords_skipped, takeRest_closed _ rfl]
  rw [take, hwords]
  show (takeWords g ⟨[], [], g.places, []⟩ 0 (.plain text :: ws) >>= _) = _
  rw [htaken]
  rfl

/-- An option with a value takes the next word. -/
theorem takeWords_value (g : Grammar) (t : Taken) (text : String) {o : OptionWord} {spec : OptionSpec}
    (hspec : o.spec = some spec) (hmeaning : spec.meaning = .value) (hattached : o.attached = none) (value : String)
    (rest : List Word) :
    takeWords g t 0 (.option text o :: .plain value :: rest) =
      takeWords g { t with options := t.options ++ [(spec.key, some value)] } 0 rest := by
  have hcluster : clusterOf g spec o = .ok ⟨[], some (spec, none)⟩ := by
    rw [clusterOf, if_pos hmeaning, hattached]
    rfl
  have htake : takeCluster t ⟨[], some (spec, none)⟩ (.plain value :: rest) =
      .ok ({ t with options := t.options ++ [(spec.key, some value)] }, 1) := by
    show (t.takeOption spec (some value)).map _ = _
    rw [Taken.takeOption, hmeaning]
    rfl
  rw [takeWords]
  simp only [List.any_cons, Word.isOption, Bool.true_or, Bool.not_true, Bool.false_eq_true, if_false, hspec, hcluster]
  show (takeCluster t ⟨[], some (spec, none)⟩ (.plain value :: rest) >>= _) = _
  rw [htake]
  show takeWords g _ 1 (.plain value :: rest) = _
  rw [takeWords]

end Taking

section Configure

def valueOption (name : String) (spec : OptionSpec) : OptionWord :=
  ⟨some spec, name.toList, none⟩

def sourceOption : OptionSpec := ⟨"source", ["-S", "--source-dir"], .value⟩

def buildOption : OptionSpec := ⟨"build", ["-B", "--build-dir"], .value⟩

def preloadOption : OptionSpec := ⟨"preload", ["--preload"], .value⟩

/-- The words behind `configure`. -/
def configureArgs (source build : String) (preloads extra : List String) : List String :=
  "-S" :: source :: "-B" :: build :: ((preloads.flatMap fun p => ["--preload", p]) ++ extra)

/-- What the words of a command line are to the parser of `configure`. -/
def configureWords (source build : String) (preloads extra : List String) : List Word :=
  .option "-S" (valueOption "-S" sourceOption) :: .plain source ::
    .option "-B" (valueOption "-B" buildOption) :: .plain build ::
    ((preloads.flatMap fun p => [.option "--preload" (valueOption "--preload" preloadOption), .plain p])
      ++ extra.map .plain)

variable {source build : String} {preloads extra : List String}

theorem words_configureArgs (hsource : PlainWord source) (hbuild : PlainWord build)
    (hpreloads : ∀ p ∈ preloads, PlainWord p) (hextra : ∀ e ∈ extra, PlainWord e) :
    words configureGrammar (configureArgs source build preloads extra) =
      .ok (configureWords source build preloads extra) := by
  have hrest : words configureGrammar ((preloads.flatMap fun p => ["--preload", p]) ++ extra) =
      .ok ((preloads.flatMap fun p => [.option "--preload" (valueOption "--preload" preloadOption), .plain p])
        ++ extra.map .plain) := by
    induction preloads with
    | nil => exact words_plains _ hextra
    | cons p ps ih =>
      obtain ⟨hp, hps⟩ := List.forall_mem_cons.mp hpreloads
      exact words_option _ (by decide) rfl (words_plain _ hp (ih hps))
  exact words_option _ (by decide) rfl (words_plain _ hsource (words_option _ (by decide) rfl
    (words_plain _ hbuild hrest)))

theorem words_topGrammar (hsource : PlainWord source) (hbuild : PlainWord build)
    (hpreloads : ∀ p ∈ preloads, PlainWord p) (hextra : ∀ e ∈ extra, PlainWord e) :
    ∃ ws, words topGrammar (configureArgs source build preloads extra) = .ok ws := by
  have hrest : ∃ ws, words topGrammar ((preloads.flatMap fun p => ["--preload", p]) ++ extra) = .ok ws := by
    induction preloads with
    | nil => exact ⟨_, words_plains _ hextra⟩
    | cons p ps ih =>
      obtain ⟨hp, hps⟩ := List.forall_mem_cons.mp hpreloads
      obtain ⟨ws, hws⟩ := ih hps
      exact ⟨_, words_option _ (by decide) rfl (words_plain _ hp hws)⟩
  obtain ⟨ws, hws⟩ := hrest
  exact ⟨_, words_option _ (by decide) rfl (words_plain _ hsource (words_option _ (by decide) rfl
    (words_plain _ hbuild hws)))⟩

def configureOptions (source build : String) (preloads : List String) : List (String × Option String) :=
  ("source", some source) :: ("build", some build) :: preloads.map fun p => ("preload", some p)

theorem takeWords_preloads (t : Taken) (rest : List Word) :
    takeWords configureGrammar t 0
        ((preloads.flatMap fun p => [.option "--preload" (valueOption "--preload" preloadOption), .plain p]) ++ rest) =
      takeWords configureGrammar { t with options := t.options ++ preloads.map fun p => ("preload", some p) } 0 rest := by
  induction preloads generalizing t with
  | nil => simp
  | cons p ps ih =>
    have hsplit : ((p :: ps).flatMap fun p =>
        [Word.option "--preload" (valueOption "--preload" preloadOption), .plain p]) ++ rest =
        .option "--preload" (valueOption "--preload" preloadOption) :: .plain p :: ((ps.flatMap fun p =>
          [Word.option "--preload" (valueOption "--preload" preloadOption), .plain p]) ++ rest) := rfl
    rw [hsplit, takeWords_value _ t "--preload" rfl rfl rfl, ih]
    simp [preloadOption]

theorem fillPlaces_many (hextra : ∀ e ∈ extra, PlainWord e) :
    fillPlaces [.many] (extra.map .plain) = ([extra], [], extra.length) := by
  have hwords : placeWords .many (extra.map .plain) = some (extra.map .plain) := by
    have huntil : ∀ es : List String, untilOption (es.map .plain) = es.map .plain := fun es => by
      induction es with
      | nil => rfl
      | cons e es ih => exact congrArg (Word.plain e :: ·) ih
    exact congrArg some (huntil extra)
  have htexts : placeTexts .many (extra.map .plain) = extra := by
    have hid : (extra.map Word.plain).map Word.text = extra := by
      rw [List.map_map]
      exact List.map_id extra
    rw [placeTexts, hid, withoutDashes, List.erase_of_not_mem]
    · exact fun hmem => (hextra _ hmem).ne_dashes rfl
    · exact fun he => by cases he
  rw [fillPlaces, hwords]
  dsimp only
  rw [htexts, fillPlaces, List.length_map]
  rfl

theorem takeWords_extra (t : Taken) (hplaces : t.openPlaces = [.many]) (hextra : ∀ e ∈ extra, PlainWord e) :
    takeWords configureGrammar t 0 (extra.map .plain) =
      .ok { t with filled := t.filled ++ [extra], openPlaces := [] } := by
  have hnone : (extra.map Word.plain).any Word.isOption = false := by
    simp [Word.isOption]
  have hdrop : (extra.map Word.plain).drop extra.length = [] := List.drop_eq_nil_of_le (by simp)
  have hrest : t.takeRest (extra.map .plain) = { t with filled := t.filled ++ [extra], openPlaces := [] } := by
    rw [Taken.takeRest, Taken.fill, hplaces, fillPlaces_many hextra]
    dsimp only
    rw [hdrop]
    rfl
  cases extra with
  | nil => rw [List.map_nil, takeWords, ← hrest, List.map_nil]
  | cons e es =>
    rw [List.map_cons] at hnone hrest ⊢
    rw [takeWords.eq_def]
    simp only [hnone, Bool.not_false, if_true, hrest]

theorem take_configure (hsource : PlainWord source) (hbuild : PlainWord build)
    (hpreloads : ∀ p ∈ preloads, PlainWord p) (hextra : ∀ e ∈ extra, PlainWord e) :
    take configureGrammar (configureArgs source build preloads extra) =
      .ok ⟨configureOptions source build preloads, [extra], [], []⟩ := by
  have htaken : takeWords configureGrammar ⟨[], [], configureGrammar.places, []⟩ 0
      (configureWords source build preloads extra) = .ok ⟨configureOptions source build preloads, [extra], [], []⟩ := by
    rw [configureWords, takeWords_value _ _ "-S" rfl rfl rfl, takeWords_value _ _ "-B" rfl rfl rfl,
      takeWords_preloads, takeWords_extra _ rfl hextra]
    rfl
  rw [take, words_configureArgs hsource hbuild hpreloads hextra]
  show (takeWords _ _ _ _ >>= _) = _
  rw [htaken]
  rfl

theorem configureRequest_configureOptions (source build : String) (preloads extra : List String) :
    configureRequest ⟨configureOptions source build preloads, [extra], [], []⟩ =
      .configure ⟨false, false⟩ (some source) (some build) (preloads.map some) extra := by
  have hother : ∀ key, key ≠ "source" → key ≠ "build" → key ≠ "preload" →
      (Taken.has ⟨configureOptions source build preloads, [extra], [], []⟩ key) = false := by
    intro key hs hb hp
    simp [Taken.has, configureOptions, Ne.symm hs, Ne.symm hb, Ne.symm hp]
  have hverbosity : Taken.verbosity ⟨configureOptions source build preloads, [extra], [], []⟩ = ⟨false, false⟩ := by
    rw [Taken.verbosity, hother "verbose" (by decide) (by decide) (by decide),
      hother "debug" (by decide) (by decide) (by decide)]
  have hnone : ∀ key, key ≠ "preload" → ((preloads.map fun p => ("preload", some p)).filter
      fun o : String × Option String => decide (o.1 = key)) = [] := by
    intro key hkey
    simp [List.filter_eq_nil_iff, Ne.symm hkey]
  have hall : (preloads.map fun p => ("preload", some p)).filter
      (fun o : String × Option String => decide (o.1 = "preload")) = preloads.map fun p => ("preload", some p) := by
    simp
  rw [configureRequest, hverbosity]
  simp [Taken.value?, Taken.values, configureOptions, hnone, hall]

/-- A command line of plain words is parsed into them. -/
theorem request_configureArgs (hsource : PlainWord source) (hbuild : PlainWord build)
    (hpreloads : ∀ p ∈ preloads, PlainWord p) (hextra : ∀ e ∈ extra, PlainWord e) :
    request ("configure" :: configureArgs source build preloads extra) =
      .ok (.configure ⟨false, false⟩ (some source) (some build) (preloads.map some) extra) := by
  obtain ⟨ws, hws⟩ := words_topGrammar hsource hbuild hpreloads hextra
  have htop := take_rest (g := topGrammar) rfl (by decide : PlainWord "configure") hws
  have hcommand : commandRequest "configure" (configureArgs source build preloads extra) =
      .ok (.configure ⟨false, false⟩ (some source) (some build) (preloads.map some) extra, []) := by
    rw [commandRequest, take_configure hsource hbuild hpreloads hextra,
      ← configureRequest_configureOptions source build preloads extra]
    rfl
  rw [request, htop]
  show (commandRequest "configure" _ >>= _) = _
  rw [hcommand]
  rfl

end Configure

end BuildTree.CommandLine
