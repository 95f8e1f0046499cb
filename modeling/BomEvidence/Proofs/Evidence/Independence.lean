import BomEvidence.Proofs.Evidence.Unplaced
import BomEvidence.Proofs.Evidence.UsageRecords

/-!
Slices of different kinds do not depend on each other, as long as no two of them resolve
symbols. Reachables and usages change separate parts of a collector, and each reads its own part
alone. Semantics slices only add places, which no other slice reads.
-/

namespace BomEvidence

/-! ### Reachables and usages -/

/-- The maps with the call stacks, the providers and the algorithms of other maps. -/
def EvidenceMaps.graft (maps chained : EvidenceMaps) : EvidenceMaps :=
  { maps with
    callstacks := chained.callstacks
    providers := chained.providers
    algorithms := chained.algorithms }

namespace Collector

def graft (collector chained : Collector) : Collector :=
  { collector with
    detector := chained.detector
    detections := chained.detections
    maps := collector.maps.graft chained.maps }

theorem graft_self (collector : Collector) : collector.graft collector = collector := rfl

theorem add_symbol_graft (place : String → Option String) (collector chained : Collector)
    (symbol : String) : (collector.graft chained).addSymbol place symbol =
      (collector.addSymbol place symbol).graft chained := by
  let purls := collector.resolver.purlsOf symbol
  have placed : purls.toList.foldl (fun maps purl => maps.addLocations purl (place symbol).toList)
        (collector.maps.graft chained.maps) =
      (purls.toList.foldl (fun maps purl => maps.addLocations purl (place symbol).toList)
        collector.maps).graft chained.maps :=
    List.foldl_hom (fun maps => EvidenceMaps.graft maps chained.maps) (by intros; rfl)
  exact congrArg (fun maps => { (collector.addSymbol place symbol).graft chained with maps }) placed

theorem add_object_graft (collector chained : Collector) (object : ObjectSlice) :
    (collector.graft chained).addObject object = (collector.addObject object).graft chained := by
  let mentions := Mention.ofObject collector.language collector.userTypes object
  let place := placeIn (object.file.getD "") mentions
  let detect (located : Collector) : Collector := { located with
    maps.services := Service.detectUsages collector.language object located.maps.services }
  have located : (requests collector.language collector.userTypes mentions).foldl (addSymbol place)
        (collector.graft chained) =
      ((requests collector.language collector.userTypes mentions).foldl (addSymbol place)
        collector).graft chained :=
    List.foldl_hom (fun next => graft next chained)
      fun next symbol => add_symbol_graft place next chained symbol
  exact congrArg detect located

theorem add_usages_graft (collector chained : Collector) (slice : UsageSlice) :
    (collector.graft chained).addUsages slice = (collector.addUsages slice).graft chained := by
  let knowing := { collector with userTypes := collector.userTypes ∪ slice.typeNames }
  let detect (added : Collector) : Collector := { added with
    maps.services := Service.detectTypes collector.language slice.userTypes added.maps.services }
  have added : (slice.objects.filter ObjectSlice.hasSourceFile).foldl addObject
        (knowing.graft chained) =
      ((slice.objects.filter ObjectSlice.hasSourceFile).foldl addObject knowing).graft chained :=
    List.foldl_hom (fun next => graft next chained)
      fun next object => add_object_graft next chained object
  exact congrArg detect added

theorem fold_provided_graft (references purls : List String) (maps chained : EvidenceMaps) :
    purls.foldl (fun maps purl => maps.addProvided references purl) (maps.graft chained) =
      maps.graft (purls.foldl (fun maps purl => maps.addProvided references purl) chained) :=
  List.foldl_hom maps.graft (by intros; rfl)

theorem link_algorithm_graft (providers : TextSet) (maps chained : EvidenceMaps)
    (algorithm : Algorithm) : linkAlgorithm providers (maps.graft chained) algorithm =
      maps.graft (linkAlgorithm providers chained algorithm) :=
  congrArg (fun maps => maps.addAlgorithm algorithm)
    (fold_provided_graft [algorithm.reference] providers.toList maps chained)

theorem add_chain_graft (collector chained : Collector) (node : ReachableNode) :
    (collector.graft chained).addChain node = collector.graft (chained.addChain node) := by
  have stacked : (reachedBy node).toList.foldl (fun maps purl => maps.addStack (stackOf node) purl)
        (collector.maps.graft chained.maps) =
      collector.maps.graft ((reachedBy node).toList.foldl
        (fun maps purl => maps.addStack (stackOf node) purl) chained.maps) :=
    List.foldl_hom collector.maps.graft (by intros; rfl)
  have linked : ∀ (algorithms : List Algorithm) (known : EvidenceMaps),
      algorithms.foldl (linkAlgorithm (providersOf node)) (collector.maps.graft known) =
        collector.maps.graft (algorithms.foldl (linkAlgorithm (providersOf node)) known) :=
    fun algorithms known => List.foldl_hom collector.maps.graft
      fun maps algorithm => link_algorithm_graft (providersOf node) collector.maps maps algorithm
  unfold addChain
  dsimp only [graft]
  rw [stacked, fold_provided_graft]
  cases detect chained.detector node with
  | ok algorithms => dsimp only; rw [linked]
  | error failure => rfl

theorem add_reachables_graft (collector chained : Collector) (slice : ReachablesSlice) :
    (collector.graft chained).addReachables slice = collector.graft (chained.addReachables slice) :=
  List.foldl_hom collector.graft fun next node => add_chain_graft collector next node

theorem add_reachables_add_usages (collector : Collector) (reachables : ReachablesSlice)
    (usages : UsageSlice) : (collector.addReachables reachables).addUsages usages =
      (collector.addUsages usages).addReachables reachables := by
  calc (collector.addReachables reachables).addUsages usages
      = (collector.graft (collector.addReachables reachables)).addUsages usages := by
        rw [← add_reachables_graft, graft_self]
    _ = (collector.addUsages usages).graft (collector.addReachables reachables) :=
        add_usages_graft ..
    _ = ((collector.addUsages usages).graft collector).addReachables reachables :=
        (add_reachables_graft ..).symm
    _ = (collector.addUsages usages).addReachables reachables := by
        rw [← add_usages_graft, graft_self]

/-! ### Semantics and the other slices -/

theorem eq_of_unplaced {first second : Collector} (same : first.unplaced = second.unplaced)
    (locations : first.maps.locations = second.maps.locations) : first = second := by
  have placed : ∀ collector : Collector,
      { collector.unplaced with maps.locations := collector.maps.locations } = collector :=
    fun _ => rfl
  rw [← placed first, ← placed second, same, locations]

section Semantics

variable {Item : Type} {step : Collector → Item → Collector}

/-- A step that reads no places commutes with a semantics slice, if it does so in the places. -/
theorem Blind.add_semantics (blind : Blind step) {collector : Collector}
    {components : List Bom.Component} {slice : SemanticsSlice} {item : Item}
    (locations : (step (collector.addSemantics components slice) item).maps.locations =
      ((step collector item).addSemantics components slice).maps.locations) :
    step (collector.addSemantics components slice) item =
      (step collector item).addSemantics components slice := by
  apply eq_of_unplaced
  · rw [add_semantics_unplaced]
    exact blind.congr (add_semantics_unplaced collector components slice) item
  · exact locations

theorem locations_add_semantics (collector : Collector) (components : List Bom.Component)
    (slice : SemanticsSlice) : (collector.addSemantics components slice).maps.locations =
      (components.flatMap (componentPlaces slice)).foldl (fun locations entry =>
        locations.alter entry.1 fun held => (held.getD ∅).insertAll entry.2)
        collector.maps.locations :=
  (List.foldl_hom EvidenceMaps.locations (by intros; rfl)).symm

theorem Blind.add_semantics_of_keeps (blind : Blind step)
    (keeps : ∀ collector item, (step collector item).maps.locations = collector.maps.locations)
    (collector : Collector) (components : List Bom.Component) (slice : SemanticsSlice)
    (item : Item) : step (collector.addSemantics components slice) item =
      (step collector item).addSemantics components slice := by
  apply blind.add_semantics
  rw [keeps, locations_add_semantics, locations_add_semantics, keeps]

end Semantics

theorem add_semantics_grows {holds : EvidenceMaps → Prop} {adds : String → List String → Prop}
    (grows : EvidenceMaps.Grows holds adds) (collector : Collector)
    (components : List Bom.Component) (slice : SemanticsSlice) :
    holds (collector.addSemantics components slice).maps ↔ holds collector.maps ∨
      ∃ entry ∈ components.flatMap (componentPlaces slice), adds entry.1 entry.2 :=
  grows.all Prod.fst Prod.snd _ collector.maps

theorem add_semantics_add_usages (collector : Collector) (components : List Bom.Component)
    (semantics : SemanticsSlice) (usages : UsageSlice) :
    (collector.addSemantics components semantics).addUsages usages =
      (collector.addUsages usages).addSemantics components semantics := by
  -- Each adds its places to those that are there, and the other does not decide which.
  have grown : ∀ {holds : EvidenceMaps → Prop} {adds : String → List String → Prop},
      EvidenceMaps.Grows holds adds →
      (holds ((collector.addSemantics components semantics).addUsages usages).maps ↔
        holds ((collector.addUsages usages).addSemantics components semantics).maps) := by
    intro holds adds grows
    have usagesLast := add_usages_grows grows (collector.addSemantics components semantics) usages
    have usagesFirst := add_usages_grows grows collector usages
    simp only [shows_iff] at usagesLast usagesFirst
    rw [usagesLast, add_semantics_grows grows, add_semantics_grows grows, usagesFirst]
    exact or_right_comm
  apply add_usages_blind.add_semantics
  apply TextMap.ext_relates
  · intro purl
    exact grown (EvidenceMaps.is_located_grows purl)
  · intro purl place
    exact grown (EvidenceMaps.has_place_grows purl place)

/-- Of reachables, usages and semantics slices each two can be taken in in either order, and so
can data flow and semantics. The services are a matter of the language and the slices. -/
theorem intakes_independent :
    (∀ (collector : Collector) (reachables : ReachablesSlice) (usages : UsageSlice)
      (components : List Bom.Component) (semantics : SemanticsSlice),
      (collector.addReachables reachables).addUsages usages =
        (collector.addUsages usages).addReachables reachables ∧
      (collector.addReachables reachables).addSemantics components semantics =
        (collector.addSemantics components semantics).addReachables reachables ∧
      (collector.addUsages usages).addSemantics components semantics =
        (collector.addSemantics components semantics).addUsages usages) ∧
    (∀ (collector : Collector) (dataFlow : DataFlowSlice) (components : List Bom.Component)
      (semantics : SemanticsSlice),
      (collector.addDataFlow dataFlow).addSemantics components semantics =
        (collector.addSemantics components semantics).addDataFlow dataFlow) ∧
    ∀ (language : Language) (intakes : List Intake) (imports imports' : ImportTable)
      (index index' : Option NamespaceIndex) (detector detector' : Option Detector)
      (places places' : TextMap TextSet),
      let first := (new (.new language imports index) detector).addLocations places
      let second := (new (.new language imports' index') detector').addLocations places'
      (first.takeAll intakes).maps.services = (second.takeAll intakes).maps.services := by
  refine ⟨?_, ?_, ?_⟩
  · intro collector reachables usages components semantics
    refine ⟨add_reachables_add_usages collector reachables usages, ?_, ?_⟩
    · exact (add_reachables_blind.add_semantics_of_keeps
        (add_reachables_keeps (fun _ _ _ => rfl) (fun _ _ _ => rfl) (fun _ _ => rfl))
        collector components semantics reachables).symm
    · exact (add_semantics_add_usages collector components semantics usages).symm
  · intro collector dataFlow components semantics
    exact (add_data_flow_blind.add_semantics_of_keeps (add_data_flow_keeps (fun _ _ _ => rfl))
      collector components semantics dataFlow).symm
  · intro language intakes imports imports' index index' detector detector' places places'
    apply take_all_services
    · rfl
    · have unseeded : ∀ (collector : Collector) (places : TextMap TextSet),
          (collector.addLocations places).maps.services = collector.maps.services :=
        fun collector places => foldl_keeps EvidenceMaps.services (by intros; rfl) collector.maps
      rw [unseeded, unseeded]
      rfl

end Collector

end BomEvidence
