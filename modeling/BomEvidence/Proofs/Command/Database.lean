import BomEvidence.Proofs.Command.Configured

/-!
The database of a run and that of the commands on the index. Both take the path that the arguments
give, or else that of the settings without the blanks around it, so that a run asks the database
that a query asks. Where the settings hold blanks alone, the commands on the index have no database;
a run takes the blanks for a path.
-/

namespace BomEvidence

theorem bind_eq_ok {Cause First Second : Type} {step : Except Cause First}
    {next : First → Except Cause Second} {value : Second} :
    (step >>= next) = .ok value ↔ ∃ held, step = .ok held ∧ next held = .ok value := by
  cases step <;> simp [bind, Except.bind]

theorem map_error_eq_ok {Cause Other Value : Type} {step : Except Cause Value}
    {change : Cause → Other} {value : Value} :
    step.mapError change = .ok value ↔ step = .ok value := by
  cases step <;> simp [Except.mapError]

theorem FileTree.not_holds_empty (files : FileTree) : files.holds "" = false := rfl

namespace CommandLine

/-- No database is given, and the settings name one by blanks alone. -/
structure NamedByBlanks (given : Option String) (settings : Settings) : Prop where
  notGiven : given = none
  blank : Text.allBlank settings.evidence.databasePath = true
  present : settings.evidence.databasePath ≠ ""

section Paths

variable {settings : Settings} {given : Option String}

theorem database_path_eq_none_iff : settings.databasePath? given = none ↔
    given = none ∧ Text.allBlank settings.evidence.databasePath = true := by
  rw [Settings.databasePath?, Option.or_eq_none_iff, ← Text.trim_eq_empty_iff]
  simp [Option.filter_eq_none_iff]

theorem named_by_blanks_iff : NamedByBlanks given settings ↔
    settings.databasePath? given = none ∧ settings.evidence.databasePath ≠ "" := by
  rw [database_path_eq_none_iff]
  constructor
  · intro named
    exact ⟨⟨named.notGiven, named.blank⟩, named.present⟩
  · intro unnamed
    exact ⟨unnamed.1.1, unnamed.1.2, unnamed.2⟩

theorem index_path_eq_ok_iff {path : String} :
    indexPath settings given = .ok path ↔ settings.databasePath? given = some path := by
  unfold indexPath
  cases settings.databasePath? given <;> simp

theorem query_index_found {files changed : FileTree} {needle path searched : String}
    {packages : List String}
    (asked : queryIndex files settings needle given =
      .ok (.found path searched packages, changed)) :
    settings.databasePath? given = some path ∧ files.holds path = true ∧
      ∃ catalog, files.openDatabase path = .ok (catalog, changed) ∧
        catalog.databaseIndex.find needle = .ok packages := by
  unfold queryIndex at asked
  obtain ⟨own, named, asked⟩ := bind_eq_ok.1 asked
  split at asked
  · rename_i present
    obtain ⟨held, opened, asked⟩ := bind_eq_ok.1 asked
    obtain ⟨found, answer, told⟩ := bind_eq_ok.1 asked
    cases told
    exact ⟨index_path_eq_ok_iff.1 named, present, held.1, map_error_eq_ok.1 opened,
      map_error_eq_ok.1 answer⟩
  · cases asked

end Paths

section Made

variable {arguments : AttachArguments} {settings : Settings} {config : RunConfig}

theorem database_of_made (made : runConfig arguments settings = .ok config) :
    config.databasePath = (settings.databasePath? arguments.databasePath).getD
      settings.evidence.databasePath := by
  rw [database_path_eq]
  obtain ⟨language, chosen, _⟩ := bind_eq_ok.1 made
  obtain ⟨_, rfl⟩ := (run_config_eq_ok_iff chosen).1 made
  rfl

/-- The path of the database of a run is that of the commands on the index, or empty where these
have none, exactly unless the settings name it by blanks alone: then these commands are refused, and
the run has the blanks for its path. Whatever a query finds in its database, the index of the run
answers as well, and both leave the same files. -/
theorem run_asks_database_of_query (made : runConfig arguments settings = .ok config) :
    (config.databasePath = (settings.databasePath? arguments.databasePath).getD "" ↔
      ¬NamedByBlanks arguments.databasePath settings) ∧
    (NamedByBlanks arguments.databasePath settings →
      config.databasePath = settings.evidence.databasePath ∧
        ∀ path, indexPath settings arguments.databasePath ≠ .ok path) ∧
    ∀ (files changed : FileTree) (needle path searched : String) (packages : List String),
      queryIndex files settings needle arguments.databasePath =
        .ok (.found path searched packages, changed) →
      ∃ index, Run.chooseIndex config none files = (some index, changed) ∧
        index.find needle = .ok packages := by
  have chosen := database_of_made made
  rw [named_by_blanks_iff]
  refine ⟨?_, ?_, ?_⟩
  · rw [chosen]
    cases settings.databasePath? arguments.databasePath <;> simp
  · intro unnamed
    rw [chosen, unnamed.1]
    refine ⟨rfl, fun path named => ?_⟩
    rw [index_path_eq_ok_iff, unnamed.1] at named
    cases named
  · intro files changed needle path searched packages asked
    obtain ⟨named, present, catalog, opened, answer⟩ := query_index_found asked
    rw [named, Option.getD_some] at chosen
    have nonempty : path ≠ "" := by
      rintro rfl
      rw [FileTree.not_holds_empty] at present
      cases present
    refine ⟨catalog.databaseIndex, ?_, answer⟩
    unfold Run.chooseIndex
    dsimp only
    rw [chosen, if_neg nonempty, opened]

end Made

theorem sample_asks_database_of_query :
    ∃ config, runConfig sampleArguments sampleSettings = .ok config ∧
      config.databasePath = "names.db" ∧
      ∀ (files changed : FileTree) (needle path searched : String) (packages : List String),
        queryIndex files sampleSettings needle sampleArguments.databasePath =
          .ok (.found path searched packages, changed) →
        ∃ index, Run.chooseIndex config none files = (some index, changed) ∧
          index.find needle = .ok packages := by
  have done : (runConfig sampleArguments sampleSettings).isOk = true := by decide +kernel
  cases made : runConfig sampleArguments sampleSettings with
  | error failure =>
      rw [made] at done
      cases done
  | ok config =>
      obtain ⟨same, _, asked⟩ := run_asks_database_of_query made
      refine ⟨config, rfl, ?_, asked⟩
      have shown : ¬NamedByBlanks sampleArguments.databasePath sampleSettings := by
        intro named
        exact absurd named.blank (by decide +kernel)
      rw [same.2 shown]
      decide +kernel

def blankSettings : Settings :=
  { sampleSettings with evidence := { sampleSettings.evidence with databasePath := " " } }

theorem blank_is_path_of_run :
    ¬∀ (arguments : AttachArguments) (settings : Settings) (config : RunConfig),
      runConfig arguments settings = .ok config →
      config.databasePath = (settings.databasePath? arguments.databasePath).getD "" := by
  intro always
  have made : (runConfig sampleArguments blankSettings).toOption.map RunConfig.databasePath =
      some " " := by
    decide +kernel
  cases outcome : runConfig sampleArguments blankSettings with
  | error failure =>
      rw [outcome] at made
      cases made
  | ok config =>
      have blank : config.databasePath = " " := by
        rw [outcome] at made
        exact Option.some.inj made
      have nothing : (blankSettings.databasePath? sampleArguments.databasePath).getD "" = "" := by
        decide +kernel
      have same := always _ _ _ outcome
      rw [blank, nothing] at same
      exact absurd same (by decide)

end CommandLine

end BomEvidence
