import BomEvidence.Proofs.Bom.Attached
import BomEvidence.Proofs.Evidence.Places
import BomEvidence.Proofs.Text.Joined
import Mathlib.Data.List.Nodup
import Mathlib.Data.List.Perm.Subperm

/-!
Positions in source code and their places. A place is written as the file and the line with a mark
between them. A file may have the mark and digits in its name, but a line is written in digits
alone, so that the last mark of a place tells where its line begins. So no two positions have the
same place: a package has the place of a position only if it had it before or some slice tells this
very position, and its component has an occurrence for each position that is told.
-/

namespace BomEvidence

structure Position where
  file : String
  line : UInt64
  deriving DecidableEq, Repr

def Position.place (position : Position) : String := location position.file position.line

/-! ### The place of a position -/

theorem not_mem_numeral {c : Char} (noDigit : c.isDigit = false) (number : Nat) :
    c ∉ number.repr.toList := by
  intro member
  rw [Nat.toList_repr] at member
  have digit := Nat.isDigit_of_mem_toDigits (by decide) (by decide) member
  rw [noDigit] at digit
  cases digit

/-- The last mark of a place stands between its file and its line. -/
theorem location_eq_iff {file other : String} {line later : UInt64} :
    location file line = location other later ↔ file = other ∧ line = later := by
  have noMark : ∀ number : Nat, '#' ∉ number.repr.toList := not_mem_numeral (by decide)
  have lines : line.toNat.repr = later.toNat.repr ↔ line = later := by
    constructor
    · intro same
      -- The digits of a number are read back as the number.
      have read := congrArg (fun text => Nat.ofDigitChars 10 (String.toList text) 0) same
      simp only [Nat.toList_repr, Nat.ofDigitChars_ten_toDigits] at read
      exact UInt64.toNat_inj.1 read
    · intro same
      rw [same]
  unfold location
  rw [Text.append_mark_inj (c := '#') rfl (noMark _) (noMark _), lines]

theorem Position.place_injective : Function.Injective Position.place := by
  intro first second same
  obtain ⟨file, line⟩ := location_eq_iff.1 same
  cases first
  cases second
  cases file
  cases line
  rfl

/-! ### Positions that slices tell -/

/-- An object of a usage slice tells the first line of a symbol that leads to a package. -/
def UsageSlice.Tells (slice : UsageSlice) (collector : Collector) (purl : String)
    (position : Position) : Prop :=
  let types := collector.userTypes ∪ slice.typeNames
  ∃ object ∈ slice.objects, ∃ symbol, collector.Shows types object symbol purl ∧
    object.file = some position.file ∧
    Mention.line? (Mention.ofObject collector.language types object) symbol = some position.line

/-- A semantics slice lists a line of a symbol of a module, and the module is a component that is a
package. -/
def SemanticsSlice.Tells (slice : SemanticsSlice) (components : List Bom.Component) (purl : String)
    (position : Position) : Prop :=
  ∃ component ∈ components, ∃ name, component.name = some name ∧ component.purl = some purl ∧
    ∃ symbols, slice.files.get? position.file = some symbols ∧
      ∃ symbol ∈ slice.symbolsOf name, ∃ lines, symbols.get? symbol = some lines ∧
        position.line ∈ lines

def Intake.Tells (collector : Collector) (purl : String) (position : Position) : Intake → Prop
  | .usages slice => slice.Tells collector purl position
  | .semantics components slice => slice.Tells components purl position
  | .reachables _ | .dataFlow _ => False

theorem UsageSlice.places_iff_tells {slice : UsageSlice} {collector : Collector}
    {purl place : String} : slice.Places collector purl place ↔
      ∃ position, slice.Tells collector purl position ∧ position.place = place := by
  constructor
  · intro places
    obtain ⟨object, member, symbol, shows, known⟩ := places
    obtain ⟨line, found, rfl⟩ := Option.map_eq_some_iff.1 known
    cases named : object.file with
    | none =>
        have source := shows.file
        rw [ObjectSlice.hasSourceFile, named] at source
        cases source
    | some file => exact ⟨⟨file, line⟩, ⟨object, member, symbol, shows, named, found⟩, rfl⟩
  · intro told
    obtain ⟨position, ⟨object, member, symbol, shows, named, found⟩, rfl⟩ := told
    refine ⟨object, member, symbol, shows, ?_⟩
    rw [Collector.placeOf, Collector.placeIn, found, named]
    rfl

theorem SemanticsSlice.places_iff_tells {slice : SemanticsSlice} {components : List Bom.Component}
    {purl place : String} : slice.Places components purl place ↔
      ∃ position, slice.Tells components purl position ∧ position.place = place := by
  constructor
  · intro places
    obtain ⟨component, member, name, named, isPackage, file, symbols, inFiles, symbol, declared,
      lines, inSymbols, line, onLine, rfl⟩ := places
    exact ⟨⟨file, line⟩, ⟨component, member, name, named, isPackage, symbols, inFiles, symbol,
      declared, lines, inSymbols, onLine⟩, rfl⟩
  · intro told
    obtain ⟨position, ⟨component, member, name, named, isPackage, symbols, inFiles, symbol,
      declared, lines, inSymbols, onLine⟩, rfl⟩ := told
    exact ⟨component, member, name, named, isPackage, position.file, symbols, inFiles, symbol,
      declared, lines, inSymbols, position.line, onLine, rfl⟩

namespace Collector

/-- Some slice of a run of slices tells a position, as it is judged by what came before it. -/
def Told (collector : Collector) (intakes : List Intake) (purl : String) (position : Position) :
    Prop :=
  ∃ before intake after, intakes = before ++ intake :: after ∧
    intake.Tells (collector.takeAll before) purl position

variable {collector : Collector} {purl place : String}

theorem not_told_nil {position : Position} : ¬collector.Told [] purl position := by
  intro told
  obtain ⟨before, _, _, split, _⟩ := told
  cases before <;> cases split

theorem told_cons {intake : Intake} {rest : List Intake} {position : Position} :
    collector.Told (intake :: rest) purl position ↔
      intake.Tells collector purl position ∨ (collector.take intake).Told rest purl position := by
  constructor
  · intro told
    obtain ⟨before, later, after, split, tells⟩ := told
    cases before with
    | nil =>
        obtain ⟨rfl, rfl⟩ := List.cons.inj split
        exact Or.inl tells
    | cons first before =>
        obtain ⟨rfl, rfl⟩ := List.cons.inj split
        exact Or.inr ⟨before, later, after, rfl, tells⟩
  · intro either
    rcases either with tells | ⟨before, later, after, rfl, tells⟩
    · exact ⟨[], intake, rest, rfl, tells⟩
    · exact ⟨intake :: before, later, after, rfl, tells⟩

theorem has_place_take {intake : Intake} : (collector.take intake).maps.HasPlace purl place ↔
    collector.maps.HasPlace purl place ∨
      ∃ position, intake.Tells collector purl position ∧ position.place = place := by
  -- Reachables and data flow leave the locations as they are.
  have unchanged : ∀ {after : Collector}, after.maps.locations = collector.maps.locations →
      (after.maps.HasPlace purl place ↔
        collector.maps.HasPlace purl place ∨
          ∃ position : Position, False ∧ position.place = place) := by
    intro after same
    simp [EvidenceMaps.HasPlace, same]
  cases intake with
  | usages slice => exact has_place_add_usages.trans (or_congr Iff.rfl UsageSlice.places_iff_tells)
  | semantics components slice =>
      exact has_place_add_semantics.trans (or_congr Iff.rfl SemanticsSlice.places_iff_tells)
  | reachables slice =>
      exact unchanged (add_reachables_keeps (fun _ _ _ => rfl) (fun _ _ _ => rfl) (fun _ _ => rfl)
        collector slice)
  | dataFlow slice => exact unchanged (add_data_flow_keeps (fun _ _ _ => rfl) collector slice)

theorem has_place_take_all {intakes : List Intake} :
    (collector.takeAll intakes).maps.HasPlace purl place ↔ collector.maps.HasPlace purl place ∨
      ∃ position, collector.Told intakes purl position ∧ position.place = place := by
  induction intakes generalizing collector with
  | nil => simp [takeAll, not_told_nil]
  | cons intake rest ih =>
      have later := @ih (collector.take intake)
      rw [has_place_take, or_assoc, ← exists_or] at later
      simp only [← or_and_right, ← told_cons] at later
      exact later

theorem has_position_take_all {intakes : List Intake} {position : Position} :
    (collector.takeAll intakes).maps.HasPlace purl position.place ↔
      collector.maps.HasPlace purl position.place ∨ collector.Told intakes purl position := by
  rw [has_place_take_all]
  refine or_congr Iff.rfl ?_
  constructor
  · intro told
    obtain ⟨other, told, same⟩ := told
    exact Position.place_injective same ▸ told
  · intro told
    exact ⟨position, told, rfl⟩

/-- A component of a package has an occurrence of its own for each position that is told. -/
theorem told_occurrences {intakes : List Intake} {component : Bom.Component}
    (isPackage : component.purl = some purl) {positions : List Position}
    (distinct : positions.Nodup)
    (told : ∀ position ∈ positions, collector.Told intakes purl position) :
    (positions.map Position.place).Subperm
      (component.attach (collector.takeAll intakes).maps).locations := by
  have written : ∀ place ∈ positions.map Position.place,
      place ∈ (EvidenceUpdate.ofMaps (collector.takeAll intakes).maps purl).places := by
    intro place member
    obtain ⟨position, among, rfl⟩ := List.mem_map.1 member
    exact EvidenceUpdate.mem_of_maps.2
      ⟨has_position_take_all.2 (Or.inr (told position among)), location_ne_empty _ _⟩
  refine (distinct.map Position.place_injective).subperm ?_
  intro place member
  rw [Bom.Component.attach_locations isPackage (List.ne_nil_of_mem (written place member))]
  exact written place member

end Collector

end BomEvidence
