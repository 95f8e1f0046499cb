import BomEvidence.Proofs.Evidence.References
import BomEvidence.Proofs.Evidence.Services

/-!
Evidence only grows. Whatever a collector is given, and in whatever order, it forgets no place, no
call stack and no reference, keeps the first algorithm of each reference, and keeps the endpoints
of each service. A mark of a service that is set at all is only ever set to true.
-/

namespace BomEvidence

/-- Each key of a map is a key of another one, where its value has changed in a given way only. -/
def TextMap.WithinBy {Value : Type} (change : Value → Value → Prop) (before after : TextMap Value) :
    Prop :=
  ∀ key value, before.get? key = some value →
    ∃ later, after.get? key = some later ∧ change value later

def TextSet.Within (before after : TextSet) : Prop := ∀ text ∈ before, text ∈ after

/-- A mark stays as it is, or becomes true. -/
def Service.Rises (before after : Option Bool) : Prop := after = before ∨ after = some true

structure Service.Within (before after : Service) : Prop where
  endpoints : before.endpoints.Within after.endpoints
  authenticated : Rises before.authenticated after.authenticated
  trustBoundary : Rises before.trustBoundary after.trustBoundary

structure EvidenceMaps.Within (before after : EvidenceMaps) : Prop where
  locations : before.locations.WithinBy TextSet.Within after.locations
  callstacks : before.callstacks.WithinBy List.IsPrefix after.callstacks
  providers : before.providers.WithinBy TextSet.Within after.providers
  algorithms : before.algorithms.WithinBy Eq after.algorithms
  services : before.services.WithinBy Service.Within after.services

/-- A run of steps relates its start to its end as each of its steps does. -/
theorem foldl_related {State Item Value : Type} {related : Value → Value → Prop}
    (same : ∀ value, related value value)
    (compose : ∀ first second third, related first second → related second third →
      related first third)
    {step : State → Item → State} (read : State → Value)
    (steps : ∀ state item, related (read state) (read (step state item))) (items : List Item)
    (state : State) : related (read state) (read (items.foldl step state)) := by
  induction items generalizing state with
  | nil => exact same _
  | cons item rest ih => exact compose _ _ _ (steps state item) (ih (step state item))

/-! ### Growing is reflexive and transitive -/

namespace TextMap.WithinBy

variable {Value : Type} {change : Value → Value → Prop}

theorem refl (same : ∀ value, change value value) (map : TextMap Value) : map.WithinBy change map :=
  fun _ value held => ⟨value, held, same value⟩

theorem trans (compose : ∀ first second third, change first second → change second third →
    change first third) {before middle after : TextMap Value} (left : before.WithinBy change middle)
    (right : middle.WithinBy change after) : before.WithinBy change after := by
  intro key value held
  obtain ⟨next, heldNext, toNext⟩ := left key value held
  obtain ⟨later, heldLater, toLater⟩ := right key next heldNext
  exact ⟨later, heldLater, compose value next later toNext toLater⟩

theorem alter (same : ∀ value, change value value) (map : TextMap Value) (key : String)
    {make : Option Value → Value} (changes : ∀ value, change value (make (some value))) :
    map.WithinBy change (map.alter key make) := by
  intro other value held
  rw [get_alter]
  split
  · rename_i atKey
    rw [← atKey, held]
    exact ⟨make (some value), rfl, changes value⟩
  · exact ⟨value, held, same value⟩

end TextMap.WithinBy

namespace TextSet.Within

theorem refl (set : TextSet) : set.Within set := fun _ member => member

theorem trans (first second third : TextSet) (left : first.Within second)
    (right : second.Within third) : first.Within third :=
  fun text member => right text (left text member)

theorem insert_all (set : TextSet) (texts : List String) : set.Within (set.insertAll texts) :=
  fun _ member => mem_insert_all.2 (Or.inr member)

end TextSet.Within

namespace Service

theorem Rises.trans {first second third : Option Bool} (left : Rises first second)
    (right : Rises second third) : Rises first third := by
  rcases right with same | raised
  · exact same ▸ left
  · exact Or.inr raised

namespace Within

theorem refl (service : Service) : service.Within service :=
  ⟨TextSet.Within.refl _, Or.inl rfl, Or.inl rfl⟩

theorem trans (first second third : Service) (left : first.Within second)
    (right : second.Within third) : first.Within third :=
  ⟨TextSet.Within.trans _ _ _ left.endpoints right.endpoints,
    left.authenticated.trans right.authenticated, left.trustBoundary.trans right.trustBoundary⟩

theorem grow (start : Service) (authenticated : Bool) (routes : List String) (service : Service) :
    service.Within (grow start authenticated routes (some service)) := by
  cases authenticated with
  | false => exact ⟨TextSet.Within.insert_all _ routes, Or.inl rfl, Or.inl rfl⟩
  | true => exact ⟨TextSet.Within.insert_all _ routes, Or.inr rfl, Or.inr rfl⟩

end Within

end Service

namespace EvidenceMaps

namespace Within

theorem refl (maps : EvidenceMaps) : maps.Within maps where
  locations := .refl TextSet.Within.refl _
  callstacks := .refl List.prefix_refl _
  providers := .refl TextSet.Within.refl _
  algorithms := .refl Eq.refl _
  services := .refl Service.Within.refl _

theorem trans {first second third : EvidenceMaps} (left : first.Within second)
    (right : second.Within third) : first.Within third where
  locations := left.locations.trans TextSet.Within.trans right.locations
  callstacks := left.callstacks.trans (fun _ _ _ start rest => start.trans rest) right.callstacks
  providers := left.providers.trans TextSet.Within.trans right.providers
  algorithms := left.algorithms.trans (fun _ _ _ same => same.trans) right.algorithms
  services := left.services.trans Service.Within.trans right.services

theorem foldl {State Item : Type} {step : State → Item → State} (maps : State → EvidenceMaps)
    (grows : ∀ state item, (maps state).Within (maps (step state item))) (items : List Item)
    (state : State) : (maps state).Within (maps (items.foldl step state)) :=
  foldl_related refl (fun _ _ _ => trans) maps grows items state

end Within

/-! ### Changes of maps -/

theorem within_add_locations (maps : EvidenceMaps) (purl : String) (places : List String) :
    maps.Within (maps.addLocations purl places) :=
  { Within.refl maps with
    locations := .alter TextSet.Within.refl maps.locations purl fun set =>
      TextSet.Within.insert_all set places }

theorem within_add_all_locations (maps : EvidenceMaps) (places : List (String × List String)) :
    maps.Within (maps.addAllLocations places) := by
  refine Within.foldl id (fun maps entry => ?_) places maps
  exact within_add_locations maps entry.1 entry.2

theorem within_add_stack (maps : EvidenceMaps) (stack : List Frame) (purl : String) :
    maps.Within (maps.addStack stack purl) :=
  { Within.refl maps with
    callstacks := .alter List.prefix_refl maps.callstacks purl fun held =>
      List.prefix_append held [stack] }

theorem within_add_provided (maps : EvidenceMaps) (references : List String) (purl : String) :
    maps.Within (maps.addProvided references purl) :=
  { Within.refl maps with
    providers := .alter TextSet.Within.refl maps.providers purl fun set =>
      TextSet.Within.insert_all set references }

theorem within_add_algorithm (maps : EvidenceMaps) (algorithm : Algorithm) :
    maps.Within (maps.addAlgorithm algorithm) :=
  { Within.refl maps with
    algorithms := .alter Eq.refl maps.algorithms algorithm.reference fun _ => rfl }

theorem within_with_services (maps : EvidenceMaps) {services : ServiceMap}
    (grows : maps.services.WithinBy Service.Within services) :
    maps.Within { maps with services } :=
  { Within.refl maps with services := grows }

end EvidenceMaps

/-! ### Services of a slice -/

namespace Service

theorem within_detect_usages (language : Language) (object : ObjectSlice) (services : ServiceMap) :
    services.WithinBy Within (detectUsages language object services) := by
  refine foldl_related (.refl Within.refl) (fun _ _ _ => .trans Within.trans) id ?_ object.usages
    services
  intro services usage
  change services.WithinBy Within (detectUsage language (nameOf object) services usage)
  unfold detectUsage
  dsimp only
  split
  · exact .refl Within.refl services
  · exact .alter Within.refl services (nameOf object) (Within.grow (new none) _ _)

theorem within_detect_types (language : Language) (types : List UserType) (services : ServiceMap) :
    services.WithinBy Within (detectTypes language types services) := by
  have one : ∀ (services : ServiceMap) (type : UserType),
      services.WithinBy Within (detectType language services type) := by
    intro services type
    unfold detectType
    dsimp only
    split
    · exact .refl Within.refl services
    · exact .alter Within.refl services (nameOfFile type.file)
        (Within.grow (new (some false)) false _)
  unfold detectTypes
  split
  · exact foldl_related (.refl Within.refl) (fun _ _ _ => .trans Within.trans) id one types services
  · exact .refl Within.refl services

end Service

/-! ### Slices -/

namespace Collector

theorem within_add_locations (collector : Collector) (places : TextMap TextSet) :
    collector.maps.Within (collector.addLocations places).maps :=
  EvidenceMaps.within_add_all_locations collector.maps _

theorem within_add_symbol (place : String → Option String) (collector : Collector)
    (symbol : String) : collector.maps.Within (collector.addSymbol place symbol).maps :=
  EvidenceMaps.Within.foldl id
    (fun maps purl => EvidenceMaps.within_add_locations maps purl (place symbol).toList) _
    collector.maps

theorem within_add_object (collector : Collector) (object : ObjectSlice) :
    collector.maps.Within (collector.addObject object).maps := by
  let mentions := Mention.ofObject collector.language collector.userTypes object
  let symbols := requests collector.language collector.userTypes mentions
  let place := placeIn (object.file.getD "") mentions
  have located : collector.maps.Within (symbols.foldl (addSymbol place) collector).maps :=
    EvidenceMaps.Within.foldl Collector.maps (within_add_symbol place) symbols collector
  exact located.trans (EvidenceMaps.within_with_services _ (Service.within_detect_usages _ _ _))

theorem within_add_usages (collector : Collector) (slice : UsageSlice) :
    collector.maps.Within (collector.addUsages slice).maps := by
  let knowing := { collector with userTypes := collector.userTypes ∪ slice.typeNames }
  have added : knowing.maps.Within
      ((slice.objects.filter ObjectSlice.hasSourceFile).foldl addObject knowing).maps :=
    EvidenceMaps.Within.foldl Collector.maps within_add_object _ knowing
  exact added.trans (EvidenceMaps.within_with_services _ (Service.within_detect_types _ _ _))

theorem within_add_semantics (collector : Collector) (components : List Bom.Component)
    (slice : SemanticsSlice) :
    collector.maps.Within (collector.addSemantics components slice).maps :=
  EvidenceMaps.within_add_all_locations collector.maps _

theorem within_add_data_flow (collector : Collector) (slice : DataFlowSlice) :
    collector.maps.Within (collector.addDataFlow slice).maps := by
  refine EvidenceMaps.Within.foldl Collector.maps (fun next path => ?_) slice.paths collector
  let stack := (slice.along path).map DataFlowNode.frame
  exact EvidenceMaps.Within.foldl id
    (fun maps purl => EvidenceMaps.within_add_stack maps stack purl) _ next.maps

theorem within_link_algorithm (providers : TextSet) (maps : EvidenceMaps) (algorithm : Algorithm) :
    maps.Within (linkAlgorithm providers maps algorithm) :=
  (EvidenceMaps.Within.foldl id
    (fun maps purl => EvidenceMaps.within_add_provided maps [algorithm.reference] purl) _
    maps).trans (EvidenceMaps.within_add_algorithm _ algorithm)

theorem within_add_chain (collector : Collector) (node : ReachableNode) :
    collector.maps.Within (collector.addChain node).maps := by
  let stacked := (reachedBy node).toList.foldl
    (fun maps purl => maps.addStack (stackOf node) purl) collector.maps
  let known := (providersOf node).toList.foldl (fun maps purl => maps.addProvided [] purl) stacked
  have toStacked : collector.maps.Within stacked :=
    EvidenceMaps.Within.foldl id
      (fun maps purl => EvidenceMaps.within_add_stack maps (stackOf node) purl) _ collector.maps
  have toKnown : stacked.Within known :=
    EvidenceMaps.Within.foldl id
      (fun maps purl => EvidenceMaps.within_add_provided maps [] purl) _ stacked
  obtain ⟨_, added⟩ := add_chain_eq collector node
  rw [added]
  exact (toStacked.trans toKnown).trans
    (EvidenceMaps.Within.foldl id (within_link_algorithm (providersOf node)) _ known)

theorem within_serve (collector : Collector) (serving : Serving) :
    collector.maps.Within (collector.serve serving).maps := by
  unfold serve
  cases serving.intake with
  | usages slice => exact within_add_usages collector slice
  | semantics components slice => exact within_add_semantics collector components slice
  | dataFlow slice => exact within_add_data_flow collector slice
  | reachables slice =>
      refine EvidenceMaps.Within.foldl Collector.maps (fun next chain => ?_) _ collector
      exact within_add_chain (next.answering (serving.answer chain.2)) chain.1

/-! ### Runs -/

/-- What a collector is given: places that are known already, or a slice. -/
inductive Gift where
  | places (known : TextMap TextSet)
  | slice (serving : Serving)

def receive (collector : Collector) : Gift → Collector
  | .places known => collector.addLocations known
  | .slice serving => collector.serve serving

def receiveAll (collector : Collector) (gifts : List Gift) : Collector := gifts.foldl receive collector

theorem within_receive (collector : Collector) (gift : Gift) :
    collector.maps.Within (collector.receive gift).maps := by
  cases gift with
  | places known => exact within_add_locations collector known
  | slice serving => exact within_serve collector serving

/-- A collector keeps its evidence in any run of places and slices, in any order. -/
theorem evidence_only_grows (collector : Collector) (gifts : List Gift) :
    collector.maps.Within (collector.receiveAll gifts).maps :=
  EvidenceMaps.Within.foldl Collector.maps within_receive gifts collector

end Collector

end BomEvidence
