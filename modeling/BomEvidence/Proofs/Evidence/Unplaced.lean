import BomEvidence.Proofs.Evidence.Places

/-!
What a collector makes of slices does not depend on the places that it knows. Two collectors
that differ in their places alone differ in their places alone after the same slices.
-/

namespace BomEvidence

def EvidenceMaps.unplaced (maps : EvidenceMaps) : EvidenceMaps := { maps with locations := ∅ }

namespace Collector

def unplaced (collector : Collector) : Collector := { collector with maps := collector.maps.unplaced }

/-- A step that depends on places in nothing but the places that it leaves. -/
def Blind {Item : Type} (step : Collector → Item → Collector) : Prop :=
  ∀ collector item, (step collector item).unplaced = (step collector.unplaced item).unplaced

theorem Blind.congr {Item : Type} {step : Collector → Item → Collector} (blind : Blind step)
    {first second : Collector} (same : first.unplaced = second.unplaced) (item : Item) :
    (step first item).unplaced = (step second item).unplaced := by
  rw [blind first, blind second, same]

theorem Blind.foldl {Item : Type} {step : Collector → Item → Collector} (blind : Blind step)
    (items : List Item) {first second : Collector} (same : first.unplaced = second.unplaced) :
    (items.foldl step first).unplaced = (items.foldl step second).unplaced := by
  induction items generalizing first second with
  | nil => exact same
  | cons item rest ih => exact ih (blind.congr same item)

/-! ### Usages -/

theorem fold_locations_unplaced (places : List String) (purls : List String) (maps : EvidenceMaps) :
    (purls.foldl (fun maps purl => maps.addLocations purl places) maps).unplaced = maps.unplaced :=
  foldl_keeps EvidenceMaps.unplaced (by intros; rfl) maps

theorem add_symbol_unplaced (place : String → Option String) (collector : Collector)
    (symbol : String) : (collector.addSymbol place symbol).unplaced =
      { collector.unplaced with resolver := (collector.resolver.resolve symbol).2 } := by
  have kept := fold_locations_unplaced (place symbol).toList
    (collector.resolver.purlsOf symbol).toList collector.maps
  unfold unplaced
  rw [← kept]
  rfl

theorem add_symbol_blind (place : String → Option String) : Blind (addSymbol place) := by
  intro collector symbol
  rw [add_symbol_unplaced, add_symbol_unplaced]
  rfl

theorem add_object_blind : Blind addObject := by
  intro collector object
  let mentions := Mention.ofObject collector.language collector.userTypes object
  let symbols := requests collector.language collector.userTypes mentions
  let place := placeIn (object.file.getD "") mentions
  let detect (located : Collector) : Collector := { located with
    maps.services := Service.detectUsages collector.language object located.maps.services }
  have located : (symbols.foldl (addSymbol place) collector).unplaced =
      (symbols.foldl (addSymbol place) collector.unplaced).unplaced :=
    (add_symbol_blind place).foldl symbols rfl
  exact congrArg detect located

theorem add_usages_blind : Blind addUsages := by
  intro collector slice
  let knowing := { collector with userTypes := collector.userTypes ∪ slice.typeNames }
  let objects := slice.objects.filter ObjectSlice.hasSourceFile
  let detect (added : Collector) : Collector := { added with
    maps.services :=
      Service.detectTypes collector.language slice.userTypes added.maps.services }
  have added : (objects.foldl addObject knowing).unplaced =
      (objects.foldl addObject knowing.unplaced).unplaced := add_object_blind.foldl objects rfl
  exact congrArg detect added

/-! ### Semantics -/

theorem add_semantics_unplaced (collector : Collector) (components : List Bom.Component)
    (slice : SemanticsSlice) :
    (collector.addSemantics components slice).unplaced = collector.unplaced := by
  have kept : (collector.maps.addAllLocations
      (components.flatMap (componentPlaces slice))).unplaced = collector.maps.unplaced :=
    foldl_keeps EvidenceMaps.unplaced (by intros; rfl) collector.maps
  exact congrArg (fun maps => { collector with maps }) kept

/-! ### Reachables and data flow -/

theorem fold_stack_unplaced (stack : List Frame) (purls : List String) (maps : EvidenceMaps) :
    (purls.foldl (fun maps purl => maps.addStack stack purl) maps).unplaced =
      purls.foldl (fun maps purl => maps.addStack stack purl) maps.unplaced :=
  (List.foldl_hom EvidenceMaps.unplaced (by intros; rfl)).symm

theorem fold_provided_unplaced (references purls : List String) (maps : EvidenceMaps) :
    (purls.foldl (fun maps purl => maps.addProvided references purl) maps).unplaced =
      purls.foldl (fun maps purl => maps.addProvided references purl) maps.unplaced :=
  (List.foldl_hom EvidenceMaps.unplaced (by intros; rfl)).symm

theorem link_algorithm_unplaced (providers : TextSet) (maps : EvidenceMaps)
    (algorithm : Algorithm) : (linkAlgorithm providers maps algorithm).unplaced =
      linkAlgorithm providers maps.unplaced algorithm :=
  congrArg (fun maps => maps.addAlgorithm algorithm)
    (fold_provided_unplaced [algorithm.reference] providers.toList maps)

theorem fold_link_unplaced (providers : TextSet) (algorithms : List Algorithm)
    (maps : EvidenceMaps) : (algorithms.foldl (linkAlgorithm providers) maps).unplaced =
      algorithms.foldl (linkAlgorithm providers) maps.unplaced :=
  (List.foldl_hom EvidenceMaps.unplaced fun maps algorithm =>
    (link_algorithm_unplaced providers maps algorithm).symm).symm

theorem add_chain_unplaced (collector : Collector) (node : ReachableNode) :
    (collector.addChain node).unplaced = collector.unplaced.addChain node := by
  have same : detect collector.unplaced.detector node = detect collector.detector node := rfl
  unfold addChain
  dsimp only
  rw [same]
  cases detect collector.detector node with
  | ok algorithms =>
      dsimp only [unplaced]
      rw [fold_link_unplaced, fold_provided_unplaced, fold_stack_unplaced]
  | error _ =>
      dsimp only [unplaced]
      rw [fold_provided_unplaced, fold_stack_unplaced]

theorem add_path_unplaced (slice : DataFlowSlice) (collector : Collector) (path : List NodeId) :
    (collector.addPath slice path).unplaced = collector.unplaced.addPath slice path := by
  let stack := (slice.along path).map DataFlowNode.frame
  let purls := (collector.resolver.resolveAll ((slice.along path).flatMap
    (nodeRequests collector.language collector.userTypes))).1
  have same := fold_stack_unplaced stack purls.toList collector.maps
  unfold addPath
  dsimp only [unplaced]
  rw [same]
  rfl

theorem add_reachables_blind : Blind addReachables := by
  intro collector slice
  have blind : Blind addChain := by
    intro collector node
    rw [add_chain_unplaced, add_chain_unplaced]
    rfl
  exact blind.foldl slice.nodes rfl

theorem add_data_flow_blind : Blind addDataFlow := by
  intro collector slice
  have blind : Blind (addPath slice) := by
    intro collector path
    rw [add_path_unplaced, add_path_unplaced]
    rfl
  exact blind.foldl slice.paths rfl

end Collector

end BomEvidence
