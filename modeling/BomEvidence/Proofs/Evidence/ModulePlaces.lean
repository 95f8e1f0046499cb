import BomEvidence.Proofs.Evidence.Independence

/-!
The places that a semantics slice adds. A component has the places of the symbols that the module of
its name declares, in its build as well as in its own declarations, and is known from then on even
where a file lists such a symbol without a line.
-/

namespace BomEvidence

namespace SemanticsSlice

/-- A module declares a symbol, or its build lists it. -/
inductive Declares (slice : SemanticsSlice) (moduleName symbol : String) : Prop where
  | built {symbols : List String} (listed : slice.buildSymbols.get? moduleName = some symbols)
      (member : symbol ∈ symbols)
  | ofClass {info : ModuleInfo} (known : slice.modules.get? moduleName = some info)
      (member : symbol ∈ info.classes)
  | ofProtocol {info : ModuleInfo} (known : slice.modules.get? moduleName = some info)
      (member : symbol ∈ info.protocols)
  | ofEnumeration {info : ModuleInfo} (known : slice.modules.get? moduleName = some info)
      (member : symbol ∈ info.enumerations)
  | classMethod {info : ModuleInfo} {owner : String} {methods : List String}
      (known : slice.modules.get? moduleName = some info)
      (owned : info.classMethods.get? owner = some methods) (member : symbol ∈ methods)
  | protocolMethod {info : ModuleInfo} {owner : String} {methods : List String}
      (known : slice.modules.get? moduleName = some info)
      (owned : info.protocolMethods.get? owner = some methods) (member : symbol ∈ methods)

theorem mem_flatten_values {lists : TextMap (List String)} {text : String} :
    text ∈ lists.values.flatten ↔ ∃ key texts, lists.get? key = some texts ∧ text ∈ texts := by
  rw [List.mem_flatten]
  constructor
  · rintro ⟨texts, among, member⟩
    rcases List.mem_map.1 among with ⟨⟨key, _⟩, listed, rfl⟩
    exact ⟨key, _, TextMap.mem_entries_iff.1 listed, member⟩
  · rintro ⟨key, texts, found, member⟩
    have listed := TextMap.mem_entries_iff.2 found
    exact ⟨texts, List.mem_map_of_mem listed, member⟩

theorem mem_symbols_of {slice : SemanticsSlice} {moduleName symbol : String} :
    symbol ∈ slice.symbolsOf moduleName ↔ slice.Declares moduleName symbol := by
  have built : symbol ∈ (slice.buildSymbols.get? moduleName).getD [] ↔
      ∃ symbols, slice.buildSymbols.get? moduleName = some symbols ∧ symbol ∈ symbols := by
    cases slice.buildSymbols.get? moduleName <;> simp
  have declared : symbol ∈ ((slice.modules.get? moduleName).map ModuleInfo.symbols).getD [] ↔
      ∃ info, slice.modules.get? moduleName = some info ∧ symbol ∈ info.symbols := by
    cases slice.modules.get? moduleName <;> simp
  rw [symbolsOf, List.mem_append, built, declared]
  simp only [ModuleInfo.symbols, List.mem_append, mem_flatten_values]
  constructor
  · rintro (⟨symbols, listed, member⟩ | ⟨info, known, own⟩)
    · exact .built listed member
    · rcases own with (((member | member) | member) | ⟨_, _, owned, member⟩) | ⟨_, _, owned, member⟩
      · exact .ofClass known member
      · exact .ofProtocol known member
      · exact .ofEnumeration known member
      · exact .classMethod known owned member
      · exact .protocolMethod known owned member
  · intro declares
    cases declares with
    | built listed member => exact Or.inl ⟨_, listed, member⟩
    | ofClass known member => exact Or.inr ⟨_, known, by simp [member]⟩
    | ofProtocol known member => exact Or.inr ⟨_, known, by simp [member]⟩
    | ofEnumeration known member => exact Or.inr ⟨_, known, by simp [member]⟩
    | classMethod known owned member =>
        exact Or.inr ⟨_, known, Or.inl (Or.inr ⟨_, _, owned, member⟩)⟩
    | protocolMethod known owned member => exact Or.inr ⟨_, known, Or.inr ⟨_, _, owned, member⟩⟩

/-- A component is a package and has the name of a module, and a file lists lines of a symbol that
this module declares. -/
def Finds (slice : SemanticsSlice) (component : Bom.Component) (purl file : String)
    (lines : List UInt64) : Prop :=
  component.purl = some purl ∧ ∃ moduleName symbol index, component.name = some moduleName ∧
    slice.Declares moduleName symbol ∧ slice.files.get? file = some index ∧
    index.get? symbol = some lines

end SemanticsSlice

namespace Collector

open EvidenceMaps

theorem mem_places_of_component {slice : SemanticsSlice} {component : Bom.Component}
    {purl : String} {places : List String} :
    (purl, places) ∈ componentPlaces slice component ↔
      ∃ file lines, slice.Finds component purl file lines ∧
        places = lines.map (location file) := by
  simp only [mem_component_places, mem_module_places, SemanticsSlice.mem_symbols_of]
  constructor
  · rintro ⟨moduleName, named, isPackage, file, index, inFiles, symbol, declares, lines, inIndex,
      same⟩
    exact ⟨file, lines, ⟨isPackage, moduleName, symbol, index, named, declares, inFiles, inIndex⟩,
      same⟩
  · rintro ⟨file, lines, found, same⟩
    rcases found with
      ⟨isPackage, moduleName, symbol, index, named, declares, inFiles, inIndex⟩
    exact ⟨moduleName, named, isPackage, file, index, inFiles, symbol, declares, lines, inIndex,
      same⟩

theorem add_semantics_finds {holds : EvidenceMaps → Prop} {adds : String → List String → Prop}
    (grows : Grows holds adds) (collector : Collector) (components : List Bom.Component)
    (slice : SemanticsSlice) :
    holds (collector.addSemantics components slice).maps ↔ holds collector.maps ∨
      ∃ component ∈ components, ∃ purl file lines, slice.Finds component purl file lines ∧
        adds purl (lines.map (location file)) := by
  rw [add_semantics_grows grows]
  apply or_congr_right
  constructor
  · rintro ⟨⟨purl, places⟩, listed, added⟩
    rcases List.mem_flatMap.1 listed with ⟨component, member, own⟩
    rcases mem_places_of_component.1 own with ⟨file, lines, found, rfl⟩
    exact ⟨component, member, purl, file, lines, found, added⟩
  · rintro ⟨component, member, purl, file, lines, found, added⟩
    have own := mem_places_of_component.2 ⟨file, lines, found, rfl⟩
    exact ⟨_, List.mem_flatMap.2 ⟨component, member, own⟩, added⟩

/-- The places of packages after a semantics slice, for any state of the collector: those that were
known, and those of the components that have the name of a module. -/
theorem add_semantics_places (collector : Collector) (components : List Bom.Component)
    (slice : SemanticsSlice) :
    let before := collector.maps
    let after := (collector.addSemantics components slice).maps
    (∀ purl place, after.HasPlace purl place ↔ before.HasPlace purl place ∨
      ∃ component ∈ components, ∃ file lines, slice.Finds component purl file lines ∧
        ∃ line ∈ lines, place = file ++ "#" ++ line.toNat.repr) ∧
    ∀ purl, after.IsLocated purl ↔ before.IsLocated purl ∨
      ∃ component ∈ components, ∃ file lines, slice.Finds component purl file lines := by
  intro before after
  constructor
  · intro purl place
    rw [add_semantics_finds (has_place_grows purl place)]
    apply or_congr_right
    constructor
    · rintro ⟨component, member, _, file, lines, found, rfl, placed⟩
      rcases List.mem_map.1 placed with ⟨line, onLine, rfl⟩
      exact ⟨component, member, file, lines, found, line, onLine, rfl⟩
    · rintro ⟨component, member, file, lines, found, line, onLine, rfl⟩
      exact ⟨component, member, purl, file, lines, found, rfl, List.mem_map_of_mem onLine⟩
  · intro purl
    rw [add_semantics_finds (is_located_grows purl)]
    apply or_congr_right
    constructor
    · rintro ⟨component, member, _, file, lines, found, rfl⟩
      exact ⟨component, member, file, lines, found⟩
    · rintro ⟨component, member, file, lines, found⟩
      exact ⟨component, member, purl, file, lines, found, rfl⟩

end Collector

end BomEvidence
