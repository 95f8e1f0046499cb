import BomEvidence.Command.Run
import BomEvidence.Proofs.Text.Blanks

/-!
The rules of the settings and those of a run agree. A language that the settings may name is one
that a run knows, whatever its case; the sizes that the settings may have are those of a run. So a
run is refused only for what the settings do not rule out: an input that is not given, or a path
that is too long or climbs.
-/

namespace BomEvidence

/-! ### Languages -/

theorem tag_is_known : ∀ tag ∈ Settings.languageTags, (Language.tags.lookup tag).isSome = true := by
  decide

theorem tag_is_shown : ∀ tag ∈ Settings.languageTags,
    tag.toList.all (fun c => Text.isBlank c = false) = true := by
  decide

theorem language_is_known {name : String} (listed : Text.lower name ∈ Settings.languageTags) :
    ∃ language, Language.ofTag? name = some language := by
  have trimmed : Text.trim name = name :=
    Text.trim_of_shown (Text.shown_of_lower (Text.each_of_all (tag_is_shown _ listed)))
  have known := tag_is_known (Text.lower name) listed
  rw [← trimmed] at known
  exact Option.isSome_iff_exists.1 known

/-! ### Rules -/

/-- A part of the path, between slashes or ends, is the name of the parent directory. -/
def HasParentPart (path : String) : Prop := Text.HasPart ['/'] path.toList ['.', '.']

theorem climbs_iff {path : String} : climbs path = true ↔ HasParentPart path := by
  rw [climbs, decide_eq_true_eq]
  exact Text.mem_split_iff (c := '/') rfl (by decide)

instance (path : String) : Decidable (HasParentPart path) := decidable_of_iff _ climbs_iff

structure PathAllowed (path : String) : Prop where
  short : path.utf8ByteSize ≤ 4096
  level : ¬HasParentPart path

instance (path : String) : Decidable (PathAllowed path) :=
  decidable_of_iff (path.utf8ByteSize ≤ 4096 ∧ ¬HasParentPart path)
    ⟨fun kept => ⟨kept.1, kept.2⟩, fun allowed => ⟨allowed.short, allowed.level⟩⟩

structure SizesAllowed (least greatest : UInt64) : Prop where
  positive : greatest ≠ 0
  bounded : greatest.toNat ≤ Settings.sizeLimit
  apart : least < greatest

theorem violation_eq_none_iff {Cause : Type} {broken : Prop} [Decidable broken] {cause : Cause}
    {rest : Option Cause} :
    (if broken then some cause else rest) = none ↔ ¬broken ∧ rest = none := by
  by_cases holds : broken
  · simp [holds]
  · simp [holds]

theorem sizes_allowed_iff {least greatest : UInt64} :
    SizesAllowed least greatest ↔
      ¬(greatest = 0 || Settings.sizeLimit < greatest.toNat) = true ∧ ¬greatest ≤ least := by
  rw [Bool.or_eq_true, not_or, decide_eq_true_eq, decide_eq_true_eq, Nat.not_lt,
    UInt64.not_le]
  constructor
  · intro allowed
    exact ⟨⟨allowed.positive, allowed.bounded⟩, allowed.apart⟩
  · intro kept
    obtain ⟨⟨positive, bounded⟩, apart⟩ := kept
    exact ⟨positive, bounded, apart⟩

theorem path_violation_eq_none_iff {field path : String} :
    RunConfig.pathViolation? field path = none ↔ PathAllowed path := by
  rw [RunConfig.pathViolation?, violation_eq_none_iff, violation_eq_none_iff, climbs_iff,
    Nat.not_lt]
  constructor
  · intro kept
    exact ⟨kept.1, kept.2.1⟩
  · intro allowed
    exact ⟨allowed.short, allowed.level, rfl⟩

theorem Settings.rules_of_validated {settings : Settings}
    (valid : settings.validated = .ok settings) :
    Text.lower settings.evidence.language ∈ languageTags ∧
      SizesAllowed settings.evidence.leastSliceBytes settings.evidence.greatestSliceBytes := by
  have kept : settings.firstViolation? = none := by
    unfold validated at valid
    cases found : settings.firstViolation? with
    | none => rfl
    | some cause =>
        rw [found] at valid
        cases valid
  simp only [firstViolation?, violation_eq_none_iff, not_not] at kept
  obtain ⟨_, _, listed, positive, apart, _⟩ := kept
  exact ⟨listed, sizes_allowed_iff.2 ⟨positive, apart⟩⟩

theorem RunConfig.first_violation_eq_none_iff {config : RunConfig} :
    config.firstViolation? = none ↔ config.input ≠ "" ∧
      SizesAllowed config.leastSliceBytes config.greatestSliceBytes ∧
      ∀ path ∈ config.paths.map Prod.snd, PathAllowed path := by
  rw [firstViolation?, violation_eq_none_iff, violation_eq_none_iff, violation_eq_none_iff,
    sizes_allowed_iff, List.findSome?_eq_none_iff, and_assoc]
  simp only [path_violation_eq_none_iff, List.mem_map, forall_exists_index, and_imp,
    forall_apply_eq_imp_iff₂]

/-! ### Arguments and settings -/

namespace CommandLine

variable (arguments : AttachArguments) (settings : Settings)

/-- The path of the database by arguments and settings. Blanks around the path of the settings do
not count, unless there is nothing else. -/
def effectiveDatabase : String :=
  let configured := settings.evidence.databasePath
  arguments.databasePath.getD (if Text.allBlank configured then configured else Text.trim configured)

/-- The path of the output by arguments, which is that of the input if none is given. -/
def effectiveOutput : String :=
  let given := arguments.output.getD ""
  if given = "" then arguments.input else given

def effectivePaths : List String :=
  [arguments.input, effectiveOutput arguments, effectiveDatabase arguments settings] ++
    [arguments.usagesPath, arguments.dataFlowPath, arguments.reachablesPath,
      arguments.semanticsPath].flatMap Option.toList ++
    [arguments.cryptoCatalog.getD settings.evidence.cryptoCatalogPath]

def effectiveConfig (language : Language) : RunConfig where
  input := arguments.input
  output := effectiveOutput arguments
  language := language
  databasePath := effectiveDatabase arguments settings
  usagesPath := arguments.usagesPath
  dataFlowPath := arguments.dataFlowPath
  reachablesPath := arguments.reachablesPath
  semanticsPath := arguments.semanticsPath
  withDataFlow := arguments.withDataFlow || settings.evidence.withDataFlow
  withReachables := arguments.withReachables || settings.evidence.withReachables
  includeCrypto := arguments.includeCrypto || settings.evidence.includeCrypto
  annotate := arguments.annotate || settings.evidence.annotate
  leastSliceBytes := settings.evidence.leastSliceBytes
  greatestSliceBytes := settings.evidence.greatestSliceBytes
  cryptoCatalogPath := arguments.cryptoCatalog.getD settings.evidence.cryptoCatalogPath

variable {arguments settings}

theorem database_path_eq : (settings.databasePath? arguments.databasePath).getD
    settings.evidence.databasePath = effectiveDatabase arguments settings := by
  unfold Settings.databasePath? effectiveDatabase
  cases arguments.databasePath with
  | some path => rfl
  | none =>
      rw [Option.none_or, Option.filter_some, Option.getD_none]
      by_cases blank : Text.allBlank settings.evidence.databasePath = true
      · have empty := Text.trim_eq_empty_iff.2 blank
        rw [if_pos blank, empty]
        rfl
      · have shown := mt Text.trim_eq_empty_iff.1 blank
        rw [if_neg blank, if_pos (bne_iff_ne.2 shown), Option.getD_some]

theorem paths_effective_config (language : Language) :
    (effectiveConfig arguments settings language).paths.map Prod.snd =
      effectivePaths arguments settings := by
  simp only [RunConfig.paths, effectiveConfig, effectivePaths, List.map_append, List.map_map,
    List.map_cons, List.map_nil, Function.comp_def, List.map_id_fun', id_eq, List.flatMap_cons,
    List.flatMap_nil, List.append_nil, List.append_assoc]

theorem run_config_eq {language : Language}
    (chosen : languageOr arguments.language (RunConfig.ofSettings settings.evidence).language =
      .ok language) :
    runConfig arguments settings =
      (effectiveConfig arguments settings language).validated.mapError .run := by
  unfold runConfig
  dsimp only [RunConfig.ofSettings] at chosen ⊢
  rw [chosen]
  dsimp only [bind, Except.bind]
  rw [database_path_eq]
  rfl

theorem run_config_eq_ok_iff {language : Language}
    (chosen : languageOr arguments.language (RunConfig.ofSettings settings.evidence).language =
      .ok language) {config : RunConfig} :
    runConfig arguments settings = .ok config ↔
      (effectiveConfig arguments settings language).firstViolation? = none ∧
        effectiveConfig arguments settings language = config := by
  rw [run_config_eq chosen, RunConfig.validated]
  cases (effectiveConfig arguments settings language).firstViolation? with
  | none => simp [Except.mapError]
  | some cause => simp [Except.mapError]

theorem language_or_eq {name : Option String} (language : Language)
    (known : ∀ tag ∈ name, ∃ chosen, Language.ofTag? tag = some chosen) :
    languageOr name language = .ok ((name.bind Language.ofTag?).getD language) := by
  cases name with
  | none => rfl
  | some tag =>
      obtain ⟨chosen, parsed⟩ := known tag rfl
      simp only [languageOr, parsed, Option.bind_some, Option.getD_some]

/-- What is asked for by either is on, and what is given by the arguments comes before what stands
in the settings. -/
structure Merges (arguments : AttachArguments) (settings : Settings) (config : RunConfig) : Prop where
  dataFlow : config.withDataFlow = (arguments.withDataFlow || settings.evidence.withDataFlow)
  reachables : config.withReachables =
    (arguments.withReachables || settings.evidence.withReachables)
  crypto : config.includeCrypto = (arguments.includeCrypto || settings.evidence.includeCrypto)
  annotate : config.annotate = (arguments.annotate || settings.evidence.annotate)
  input : config.input = arguments.input
  output : ∀ path ∈ arguments.output, path ≠ "" → config.output = path
  database : ∀ path ∈ arguments.databasePath, config.databasePath = path
  catalog : ∀ path ∈ arguments.cryptoCatalog, config.cryptoCatalogPath = path
  slices : [config.usagesPath, config.dataFlowPath, config.reachablesPath, config.semanticsPath] =
    [arguments.usagesPath, arguments.dataFlowPath, arguments.reachablesPath, arguments.semanticsPath]
  paths : config.paths.map Prod.snd = effectivePaths arguments settings

theorem effective_config_merges (language : Language) :
    Merges arguments settings (effectiveConfig arguments settings language) where
  dataFlow := rfl
  reachables := rfl
  crypto := rfl
  annotate := rfl
  input := rfl
  output := by
    intro path given named
    rw [effectiveConfig, effectiveOutput, Option.mem_def.1 given, Option.getD_some, if_neg named]
  database := by
    intro path given
    rw [effectiveConfig, effectiveDatabase, Option.mem_def.1 given, Option.getD_some]
  catalog := by
    intro path given
    rw [effectiveConfig, Option.mem_def.1 given, Option.getD_some]
  slices := rfl
  paths := paths_effective_config language

/-- Settings that are valid name a language that a run knows, and arguments whose language is known
make a run with them unless the input is not given or one of the paths is not allowed. -/
theorem run_config_of_valid_settings {settings : Settings}
    (valid : settings.validated = .ok settings) :
    ∃ configured, Language.ofTag? settings.evidence.language = some configured ∧
      (RunConfig.ofSettings settings.evidence).language = configured ∧
      ∀ arguments : AttachArguments,
        (∀ name ∈ arguments.language, ∃ language, Language.ofTag? name = some language) →
        ((∃ config, runConfig arguments settings = .ok config) ↔
          arguments.input ≠ "" ∧ ∀ path ∈ effectivePaths arguments settings, PathAllowed path) ∧
        ∀ config, runConfig arguments settings = .ok config →
          config.language = (arguments.language.bind Language.ofTag?).getD configured ∧
            Merges arguments settings config := by
  obtain ⟨listed, sizes⟩ := Settings.rules_of_validated valid
  obtain ⟨configured, parsed⟩ := language_is_known listed
  have default : (RunConfig.ofSettings settings.evidence).language = configured := by
    rw [RunConfig.ofSettings, parsed, Option.getD_some]
  refine ⟨configured, parsed, default, ?_⟩
  intro arguments known
  have chosen : languageOr arguments.language (RunConfig.ofSettings settings.evidence).language =
      .ok ((arguments.language.bind Language.ofTag?).getD configured) := by
    rw [language_or_eq _ known, default]
  constructor
  · simp only [run_config_eq_ok_iff chosen, RunConfig.first_violation_eq_none_iff,
      paths_effective_config]
    constructor
    · intro made
      obtain ⟨_, ⟨given, _, allowed⟩, _⟩ := made
      exact ⟨given, allowed⟩
    · intro kept
      exact ⟨_, ⟨kept.1, sizes, kept.2⟩, rfl⟩
  · intro config made
    obtain ⟨_, rfl⟩ := (run_config_eq_ok_iff chosen).1 made
    exact ⟨rfl, effective_config_merges _⟩

/-- A language in capitals, a database with a blank behind it and one feature that is on. -/
def sampleSettings : Settings where
  general := Settings.defaultLog
  evidence := { Settings.defaultEvidence with
    language := "PHP"
    databasePath := "names.db "
    includeCrypto := true }

/-- Two dots that are within the name of a file. -/
def sampleArguments : AttachArguments where
  input := "bom.json"
  output := none
  language := some " ts"
  databasePath := none
  usagesPath := some "slices/usages..json"
  dataFlowPath := none
  reachablesPath := none
  semanticsPath := none
  withDataFlow := true
  withReachables := false
  includeCrypto := false
  annotate := false
  mapsOutput := none
  cryptoCatalog := none

theorem run_config_of_sample_settings : sampleSettings.validated = .ok sampleSettings ∧
    (∀ name ∈ sampleArguments.language, ∃ language, Language.ofTag? name = some language) ∧
    ∃ config, runConfig sampleArguments sampleSettings = .ok config ∧
      config.language = .typescript ∧ Merges sampleArguments sampleSettings config := by
  have kept : sampleSettings.firstViolation? = none := by decide +kernel
  have valid : sampleSettings.validated = .ok sampleSettings := by
    rw [Settings.validated, kept]
  have parsed : Language.ofTag? " ts" = some .typescript := by decide +kernel
  have known : ∀ name ∈ sampleArguments.language, ∃ language,
      Language.ofTag? name = some language := by
    intro name given
    rw [← Option.some.inj given]
    exact ⟨.typescript, parsed⟩
  obtain ⟨configured, _, _, runs⟩ := run_config_of_valid_settings valid
  obtain ⟨made, merged⟩ := runs sampleArguments known
  obtain ⟨config, isMade⟩ := made.2 ⟨by decide, by decide +kernel⟩
  obtain ⟨language, merges⟩ := merged config isMade
  refine ⟨valid, known, config, isMade, ?_, merges⟩
  rw [language]
  change ((Language.ofTag? " ts").getD configured) = .typescript
  rw [parsed, Option.getD_some]

end CommandLine

end BomEvidence
