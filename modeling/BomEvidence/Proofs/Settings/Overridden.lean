import BomEvidence.Settings.Load
import Mathlib.Tactic.MkIffOfInductiveProp

/-!
Files of settings in one environment. Files that differ only where a variable takes the place of
what they hold have the same settings in effect. Still the values that no longer count have to keep
the rules, so that the one file may be refused where the other one is not.
-/

namespace BomEvidence

/-! ### Variables that can be used -/

/-- The variable has a value, and any value is a text. -/
def Environment.HoldsText (environment : Environment) (name : String) : Prop :=
  (environment.get? name).isSome = true

def Environment.HoldsFlag (environment : Environment) (name : String) : Prop :=
  environment.get? name = some "true" ∨ environment.get? name = some "false"

def Environment.HoldsWord (environment : Environment) (name : String) : Prop :=
  ((environment.get? name).bind (Text.unsigned? UInt64.size)).isSome = true

namespace Settings

theorem text_or_eq_iff {held? : Option String} {value other : String} :
    textOr held? value = textOr held? other ↔ held?.isSome = true ∨ value = other := by
  cases held? <;> simp [textOr]

theorem flag_or_eq_iff {held? : Option String} {value other : Bool} :
    flagOr held? value = flagOr held? other ↔
      (held? = some "true" ∨ held? = some "false") ∨ value = other := by
  unfold flagOr
  split
  · simp
  · simp
  · rename_i notTrue notFalse
    rw [or_iff_right (not_or.2 ⟨notTrue, notFalse⟩)]

theorem word_or_eq_iff {held? : Option String} {value other : UInt64} :
    wordOr held? value = wordOr held? other ↔
      (held?.bind (Text.unsigned? UInt64.size)).isSome = true ∨ value = other := by
  unfold wordOr
  cases held?.bind (Text.unsigned? UInt64.size) <;> simp

/-- Settings that differ only where a variable can be used in their place. -/
@[mk_iff]
structure AgreeBeside (environment : Environment) (first second : Settings) : Prop where
  level : environment.HoldsText (generalVariable "LOG_LEVEL") ∨
    first.general.level = second.general.level
  format : environment.HoldsText (generalVariable "LOG_FORMAT") ∨
    first.general.format = second.general.format
  language : environment.HoldsText (evidenceVariable "LANGUAGE") ∨
    first.evidence.language = second.evidence.language
  databasePath : environment.HoldsText (evidenceVariable "DB_PATH") ∨
    first.evidence.databasePath = second.evidence.databasePath
  withDataFlow : environment.HoldsFlag (evidenceVariable "WITH_DATA_FLOW") ∨
    first.evidence.withDataFlow = second.evidence.withDataFlow
  withReachables : environment.HoldsFlag (evidenceVariable "WITH_REACHABLES") ∨
    first.evidence.withReachables = second.evidence.withReachables
  includeCrypto : environment.HoldsFlag (evidenceVariable "INCLUDE_CRYPTO") ∨
    first.evidence.includeCrypto = second.evidence.includeCrypto
  annotate : environment.HoldsFlag (evidenceVariable "ANNOTATE") ∨
    first.evidence.annotate = second.evidence.annotate
  leastSliceBytes : environment.HoldsWord (evidenceVariable "MIN_SLICE_BYTES") ∨
    first.evidence.leastSliceBytes = second.evidence.leastSliceBytes
  greatestSliceBytes : environment.HoldsWord (evidenceVariable "MAX_SLICE_BYTES") ∨
    first.evidence.greatestSliceBytes = second.evidence.greatestSliceBytes
  cryptoCatalogPath : environment.HoldsText (evidenceVariable "CRYPTO_CATALOG_PATH") ∨
    first.evidence.cryptoCatalogPath = second.evidence.cryptoCatalogPath

section Loading

variable {environment : Environment} {files others : FileTree} {path other : String}
  {settings first second : Settings}

theorem with_environment_eq_iff :
    first.withEnvironment environment = second.withEnvironment environment ↔
      AgreeBeside environment first second := by
  simp only [withEnvironment, Settings.mk.injEq, LogSettings.mk.injEq, EvidenceSettings.mk.injEq,
    text_or_eq_iff, flag_or_eq_iff, word_or_eq_iff, agreeBeside_iff, Environment.HoldsText,
    Environment.HoldsFlag, Environment.HoldsWord, and_assoc]

instance (environment : Environment) (first second : Settings) :
    Decidable (AgreeBeside environment first second) := decidable_of_iff _ with_environment_eq_iff

/-! ### Loading -/

/-- A file is a document of settings, which may break rules. -/
def IsHeld (files : FileTree) (path : String) (settings : Settings) : Prop :=
  ∃ source, files.readText path = .ok source ∧ parse source = .ok settings

theorem is_held_iff : IsHeld files path settings ↔
    ((files.readText path).toOption.bind fun source => (parse source).toOption) =
      some settings := by
  unfold IsHeld
  cases files.readText path with
  | error failure => simp [Except.toOption]
  | ok source => cases parsed : parse source <;> simp [Except.toOption, parsed]

instance (files : FileTree) (path : String) (settings : Settings) :
    Decidable (IsHeld files path settings) := decidable_of_iff _ is_held_iff.symm

/-- Settings are loaded if they keep the rules twice, by themselves and in the environment. -/
theorem load_of_held (held : IsHeld files path settings) : load files environment path =
    settings.validated.bind fun kept => (kept.withEnvironment environment).validated := by
  obtain ⟨source, found, parsed⟩ := held
  unfold load ofFile
  rw [found]
  dsimp only
  rw [parsed]
  rfl

/-- The first rule that is broken is that of the file, or else that of the settings in effect. -/
theorem load_eq_of_held (held : IsHeld files path settings) : load files environment path =
    match settings.firstViolation?.or (settings.withEnvironment environment).firstViolation? with
    | none => .ok (settings.withEnvironment environment)
    | some cause => .error (.settings cause) := by
  rw [load_of_held held]
  unfold validated
  cases settings.firstViolation? with
  | none => rfl
  | some cause => rfl

/-- Files that differ only where the environment has a variable that can be used have the same
settings in effect, and no others are loaded from either of them. The outcome is the same exactly if
both break the same rule first or none, or if the one that breaks none is refused for the rule that
the other one breaks, which the settings in effect break as well. -/
theorem load_eq_iff_of_overridden (held : IsHeld files path first)
    (alsoHeld : IsHeld others other second) (agree : AgreeBeside environment first second) :
    ∃ effective, first.withEnvironment environment = effective ∧
      second.withEnvironment environment = effective ∧
      (∀ loaded, load files environment path = .ok loaded → loaded = effective) ∧
      (∀ loaded, load others environment other = .ok loaded → loaded = effective) ∧
      (load files environment path = load others environment other ↔
        first.firstViolation? = second.firstViolation? ∨
        first.firstViolation? = none ∧ second.firstViolation? = effective.firstViolation? ∨
        second.firstViolation? = none ∧ first.firstViolation? = effective.firstViolation?) := by
  have same := with_environment_eq_iff.2 agree
  refine ⟨first.withEnvironment environment, rfl, same.symm, ?_⟩
  rw [load_eq_of_held held, load_eq_of_held alsoHeld, ← same]
  cases first.firstViolation? <;> cases second.firstViolation? <;>
    cases (first.withEnvironment environment).firstViolation? <;> simp [eq_comm]

end Loading

def sampleEnvironment : Environment :=
  .ofList [(generalVariable "LOG_LEVEL", "debug"), (evidenceVariable "MAX_SLICE_BYTES", "+8192")]

def sampleSettings (level : String) (greatest : UInt64) : Settings where
  general := { defaultLog with level }
  evidence := { defaultEvidence with greatestSliceBytes := greatest }

def sampleFile (level : String) (greatest : UInt64) : FileTree :=
  FileTree.empty.add "purlscope.toml" (.text (ofLines
    ["[general]", "log_level = " ++ Toml.quote level, "[evidence]",
      "max_slice_bytes = " ++ greatest.toNat.repr]))

theorem load_eq_of_sample_files :
    (IsHeld (sampleFile "warn" 2048) "purlscope.toml" (sampleSettings "warn" 2048) ∧
      IsHeld (sampleFile "error" 4096) "purlscope.toml" (sampleSettings "error" 4096) ∧
      AgreeBeside sampleEnvironment (sampleSettings "warn" 2048) (sampleSettings "error" 4096)) ∧
    load (sampleFile "warn" 2048) sampleEnvironment "purlscope.toml" =
      load (sampleFile "error" 4096) sampleEnvironment "purlscope.toml" := by
  have held : IsHeld (sampleFile "warn" 2048) "purlscope.toml" (sampleSettings "warn" 2048) := by
    decide +kernel
  have alsoHeld : IsHeld (sampleFile "error" 4096) "purlscope.toml"
      (sampleSettings "error" 4096) := by
    decide +kernel
  have agree : AgreeBeside sampleEnvironment (sampleSettings "warn" 2048)
      (sampleSettings "error" 4096) := by
    decide +kernel
  obtain ⟨_, _, _, _, _, same⟩ := load_eq_iff_of_overridden held alsoHeld agree
  exact ⟨⟨held, alsoHeld, agree⟩, same.2 (Or.inl (by decide +kernel))⟩

/-- A file with an unknown level is refused, though the environment has another level for it. -/
theorem overridden_level_is_refused :
    ¬∀ (environment : Environment) (files others : FileTree) (path other : String)
      (first second : Settings), IsHeld files path first → IsHeld others other second →
      AgreeBeside environment first second →
      load files environment path = load others environment other := by
  intro always
  have held : IsHeld (sampleFile "verbose" 2048) "purlscope.toml"
      (sampleSettings "verbose" 2048) := by
    decide +kernel
  have alsoHeld : IsHeld (sampleFile "warn" 2048) "purlscope.toml"
      (sampleSettings "warn" 2048) := by
    decide +kernel
  have agree : AgreeBeside sampleEnvironment (sampleSettings "verbose" 2048)
      (sampleSettings "warn" 2048) := by
    decide +kernel
  have same := always _ _ _ _ _ _ _ held alsoHeld agree
  have refused : (sampleSettings "verbose" 2048).firstViolation?.isSome = true := by
    decide +kernel
  have accepted : (sampleSettings "warn" 2048).firstViolation?.or
      ((sampleSettings "warn" 2048).withEnvironment sampleEnvironment).firstViolation? = none := by
    decide +kernel
  obtain ⟨cause, broken⟩ := Option.isSome_iff_exists.1 refused
  rw [load_eq_of_held held, load_eq_of_held alsoHeld, broken, accepted] at same
  cases same

end Settings

end BomEvidence
