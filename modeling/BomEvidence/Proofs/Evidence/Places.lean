import BomEvidence.Evidence.Seed
import BomEvidence.Proofs.Evidence.UsagePlaces

/-!
Where the places of packages come from: from the components of a document, from usage
slices and from semantics slices. Reachables and data-flow slices leave them as they are.
No place is the empty text.
-/

namespace BomEvidence

/-- A semantics slice tells that a symbol of a module stands at a place, and the module is
a component that is a package. -/
def SemanticsSlice.Places (slice : SemanticsSlice) (components : List Bom.Component)
    (purl place : String) : Prop :=
  ∃ component ∈ components, ∃ name, component.name = some name ∧ component.purl = some purl ∧
    ∃ file symbols, slice.files.get? file = some symbols ∧
      ∃ symbol ∈ slice.symbolsOf name, ∃ lines, symbols.get? symbol = some lines ∧
        ∃ line ∈ lines, place = location file line

def Bom.Places (components : List Bom.Component) (purl place : String) : Prop :=
  ∃ component ∈ components, component.purl = some purl ∧ place ∈ component.locations ∧ place ≠ ""

theorem location_ne_empty (file : String) (line : UInt64) : location file line ≠ "" := by
  intro empty
  have letters := congrArg String.toList empty
  simp [location] at letters

namespace Seed

theorem add_component_places (property : AliasProperty) (seed : Seed) (component : Bom.Component)
    (purl place : String) :
    (seed.addComponent property component).locations.Relates purl place ↔
      seed.locations.Relates purl place ∨
        component.purl = some purl ∧ place ∈ component.locations ∧ place ≠ "" := by
  unfold addComponent
  cases named : component.purl with
  | none => simp
  | some name =>
      have nonempty : place ∈ places component ↔ place ∈ component.locations ∧ place ≠ "" := by
        unfold places
        rw [List.mem_filter, bne_iff_ne]
      dsimp only
      rw [← nonempty, Option.some.injEq]
      split
      · rename_i noPlaces
        rw [List.isEmpty_iff.1 noPlaces]
        simp
      · exact TextMap.relates_alter seed.locations name purl place (places component)

theorem of_components_places (language : Language) (components : List Bom.Component)
    (purl place : String) :
    (ofComponents language components).locations.Relates purl place ↔
      Bom.Places components purl place := by
  have folded : (components.foldl (addComponent language.traits.aliasProperty)
        empty).locations.Relates purl place ↔
      empty.locations.Relates purl place ∨ Bom.Places components purl place :=
    (foldl_grows (fun _ => True) (fun seed : Seed => seed.locations.Relates purl place)
      (fun _ _ _ _ => trivial)
      (fun seed component _ _ => add_component_places _ seed component purl place) empty trivial).2
  exact folded.trans (or_iff_right (TextMap.not_relates_emptyset purl place))

end Seed

namespace EvidenceMaps

theorem has_place_add_all {maps : EvidenceMaps} {places : List (String × List String)}
    {purl place : String} : (maps.addAllLocations places).HasPlace purl place ↔
      maps.HasPlace purl place ∨ ∃ entry ∈ places, entry.1 = purl ∧ place ∈ entry.2 :=
  (has_place_grows purl place).all Prod.fst Prod.snd places maps

end EvidenceMaps

namespace Collector

theorem has_place_add_locations {collector : Collector} {places : TextMap TextSet}
    {purl place : String} : (collector.addLocations places).maps.HasPlace purl place ↔
      collector.maps.HasPlace purl place ∨ places.Relates purl place := by
  refine EvidenceMaps.has_place_add_all.trans (or_congr Iff.rfl ?_)
  constructor
  · intro fact
    rcases fact with ⟨_, member, rfl, among⟩
    obtain ⟨⟨name, set⟩, held, rfl⟩ := List.mem_map.1 member
    exact ⟨set, TextMap.mem_entries_iff.1 held, among⟩
  · intro fact
    rcases fact with ⟨set, held, among⟩
    exact ⟨(purl, set.toList),
      List.mem_map.2 ⟨(purl, set), TextMap.mem_entries_iff.2 held, rfl⟩, rfl, among⟩

theorem mem_module_places {slice : SemanticsSlice} {name : String} {places : List String} :
    places ∈ modulePlaces slice name ↔
      ∃ file symbols, slice.files.get? file = some symbols ∧
        ∃ symbol ∈ slice.symbolsOf name, ∃ lines, symbols.get? symbol = some lines ∧
          places = lines.map (location file) := by
  unfold modulePlaces
  constructor
  · intro member
    rcases List.mem_flatMap.1 member with ⟨⟨file, symbols⟩, inFiles, inFile⟩
    rcases List.mem_map.1 inFile with ⟨⟨symbol, lines⟩, kept, rfl⟩
    rcases List.mem_filter.1 kept with ⟨inSymbols, declared⟩
    exact ⟨file, symbols, TextMap.mem_entries_iff.1 inFiles, symbol, of_decide_eq_true declared,
      lines, TextMap.mem_entries_iff.1 inSymbols, rfl⟩
  · rintro ⟨file, symbols, inFiles, symbol, declared, lines, inSymbols, rfl⟩
    apply List.mem_flatMap.2 ⟨(file, symbols), TextMap.mem_entries_iff.2 inFiles, ?_⟩
    apply List.mem_map.2 ⟨(symbol, lines), ?_, rfl⟩
    exact List.mem_filter.2 ⟨TextMap.mem_entries_iff.2 inSymbols, decide_eq_true declared⟩

theorem mem_component_places {slice : SemanticsSlice} {component : Bom.Component}
    {purl : String} {places : List String} :
    (purl, places) ∈ componentPlaces slice component ↔
      ∃ name, component.name = some name ∧ component.purl = some purl ∧
        places ∈ modulePlaces slice name := by
  unfold componentPlaces
  constructor
  · intro member
    split at member
    · rename_i name package named isPackage
      rcases List.mem_map.1 member with ⟨own, inModule, same⟩
      cases same
      exact ⟨name, named, isPackage, inModule⟩
    · cases member
  · rintro ⟨name, named, isPackage, inModule⟩
    rw [named, isPackage]
    exact List.mem_map_of_mem inModule

theorem has_place_add_semantics {collector : Collector} {components : List Bom.Component}
    {slice : SemanticsSlice} {purl place : String} :
    (collector.addSemantics components slice).maps.HasPlace purl place ↔
      collector.maps.HasPlace purl place ∨ slice.Places components purl place := by
  refine EvidenceMaps.has_place_add_all.trans (or_congr Iff.rfl ?_)
  constructor
  · rintro ⟨⟨package, places⟩, listed, rfl, among⟩
    rcases List.mem_flatMap.1 listed with ⟨component, member, own⟩
    rcases mem_component_places.1 own with ⟨name, named, isPackage, inModule⟩
    rcases mem_module_places.1 inModule with
      ⟨file, symbols, inFiles, symbol, declared, lines, inSymbols, rfl⟩
    rcases List.mem_map.1 among with ⟨line, onLine, rfl⟩
    exact ⟨component, member, name, named, isPackage, file, symbols, inFiles, symbol, declared,
      lines, inSymbols, line, onLine, rfl⟩
  · rintro ⟨component, member, name, named, isPackage, file, symbols, inFiles, symbol, declared,
      lines, inSymbols, line, onLine, rfl⟩
    have inModule := mem_module_places.2
      ⟨file, symbols, inFiles, symbol, declared, lines, inSymbols, rfl⟩
    have own := mem_component_places.2 ⟨name, named, isPackage, inModule⟩
    exact ⟨_, List.mem_flatMap.2 ⟨component, member, own⟩, rfl, List.mem_map_of_mem onLine⟩

/-! ### What slices leave as it was -/

section Frames

variable {Kept : Type} {read : EvidenceMaps → Kept}

theorem add_usages_keeps
    (places : ∀ maps purl places, read (maps.addLocations purl places) = read maps)
    (services : ∀ (maps : EvidenceMaps) services, read { maps with services } = read maps)
    (collector : Collector) (slice : UsageSlice) :
    read (collector.addUsages slice).maps = read collector.maps := by
  have symbol : ∀ (place : String → Option String) (next : Collector) (symbol : String),
      read (next.addSymbol place symbol).maps = read next.maps := by
    intro place next symbol
    exact foldl_keeps read (fun maps purl _ => places maps purl (place symbol).toList) next.maps
  have object : ∀ (next : Collector) (object : ObjectSlice),
      read (next.addObject object).maps = read next.maps := by
    intro next object
    let place := placeIn (object.file.getD "")
      (Mention.ofObject next.language next.userTypes object)
    exact (services _ _).trans
      (foldl_keeps (fun next : Collector => read next.maps) (fun next name _ => symbol place next name)
        next)
  exact (services _ _).trans
    (foldl_keeps (fun next : Collector => read next.maps) (fun next item _ => object next item)
      { collector with userTypes := collector.userTypes ∪ slice.typeNames })

theorem add_semantics_keeps
    (places : ∀ maps purl places, read (maps.addLocations purl places) = read maps)
    (collector : Collector) (components : List Bom.Component) (slice : SemanticsSlice) :
    read (collector.addSemantics components slice).maps = read collector.maps :=
  foldl_keeps read (fun maps entry _ => places maps entry.1 entry.2) collector.maps

theorem add_reachables_keeps
    (stacked : ∀ maps stack purl, read (maps.addStack stack purl) = read maps)
    (provided : ∀ maps references purl, read (maps.addProvided references purl) = read maps)
    (algorithms : ∀ maps algorithm, read (maps.addAlgorithm algorithm) = read maps)
    (collector : Collector) (slice : ReachablesSlice) :
    read (collector.addReachables slice).maps = read collector.maps := by
  have linked : ∀ providers maps algorithm,
      read (linkAlgorithm providers maps algorithm) = read maps := by
    intro providers maps algorithm
    exact (algorithms _ _).trans
      (foldl_keeps read (fun maps purl _ => provided maps [algorithm.reference] purl) maps)
  have chain : ∀ (next : Collector) (node : ReachableNode),
      read (next.addChain node).maps = read next.maps := by
    intro next node
    let reached := (reachedBy node).toList.foldl
      (fun maps purl => maps.addStack (stackOf node) purl) next.maps
    let known := (providersOf node).toList.foldl (fun maps purl => maps.addProvided [] purl) reached
    have reachedKeeps : read reached = read next.maps :=
      foldl_keeps read (fun maps purl _ => stacked maps (stackOf node) purl) next.maps
    have knownKeeps : read known = read next.maps :=
      (foldl_keeps read (fun maps purl _ => provided maps [] purl) reached).trans reachedKeeps
    unfold addChain
    dsimp only
    split
    · exact (foldl_keeps read (fun maps algorithm _ => linked (providersOf node) maps algorithm)
        known).trans knownKeeps
    · exact knownKeeps
  exact foldl_keeps (fun next : Collector => read next.maps) (fun next node _ => chain next node)
    collector

theorem add_data_flow_keeps
    (stacked : ∀ maps stack purl, read (maps.addStack stack purl) = read maps)
    (collector : Collector) (slice : DataFlowSlice) :
    read (collector.addDataFlow slice).maps = read collector.maps := by
  have path : ∀ (next : Collector) (path : List NodeId),
      read (next.addPath slice path).maps = read next.maps := by
    intro next path
    let stack := (slice.along path).map DataFlowNode.frame
    exact foldl_keeps read (fun maps purl _ => stacked maps stack purl) next.maps
  exact foldl_keeps (fun next : Collector => read next.maps) (fun next item _ => path next item)
    collector

end Frames

end Collector

/-! ### Places are not empty -/

theorem UsageSlice.Places.ne_empty {slice : UsageSlice} {collector : Collector}
    {purl place : String} (places : slice.Places collector purl place) : place ≠ "" := by
  obtain ⟨object, _, symbol, _, known⟩ := places
  obtain ⟨line, _, rfl⟩ := Option.map_eq_some_iff.1 known
  exact location_ne_empty _ line

theorem SemanticsSlice.Places.ne_empty {slice : SemanticsSlice} {components : List Bom.Component}
    {purl place : String} (places : slice.Places components purl place) : place ≠ "" := by
  obtain ⟨_, _, _, _, _, file, _, _, _, _, _, _, line, _, rfl⟩ := places
  exact location_ne_empty file line

end BomEvidence
