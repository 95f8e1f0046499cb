import BomEvidence.Proofs.Evidence.Independence
import BomEvidence.Proofs.Resolution.Counted
import BomEvidence.Proofs.Sorted.Keys

/-!
What a collector detects and counts of it. Besides the work of its resolver it counts algorithms
and failures of its detector, and its services have the names under which usage slices show routes.
-/

namespace BomEvidence

/-! ### Names of services -/

namespace Service

/-- The names under which a usage slice shows routes: those of objects with such usages, and those
of the files of such types in languages whose types are services. -/
def shownNames (language : Language) (slice : UsageSlice) : List String :=
  ((namedUsages (slice.objects.filter ObjectSlice.hasSourceFile)).filter
      fun named => !(usageRoutes language named.2).isEmpty).map Prod.fst ++
    if language.traits.typesAreServices then
      (slice.userTypes.filter fun type => !(typeRoutes language type).isEmpty).map
        fun type => nameOfFile type.file
    else []

variable (language : Language) (services : ServiceMap) (name : String)

theorem contains_alter_unless (skips : Bool) (key : String) (change : Option Service → Service) :
    (if skips then services else services.alter key change).contains name = true ↔
      services.contains name = true ∨ (skips = false ∧ key = name) := by
  cases skips with
  | true => simp
  | false =>
      rw [if_neg Bool.false_ne_true, TextMap.contains_alter]
      simp

theorem contains_detect_usage (named : String × Usage) :
    (detectUsage language named.1 services named.2).contains name = true ↔
      services.contains name = true ∨
        ((usageRoutes language named.2).isEmpty = false ∧ named.1 = name) :=
  contains_alter_unless services name _ named.1 _

theorem contains_detect_type (type : UserType) :
    (detectType language services type).contains name = true ↔
      services.contains name = true ∨
        ((typeRoutes language type).isEmpty = false ∧ nameOfFile type.file = name) :=
  contains_alter_unless services name _ (nameOfFile type.file) _

theorem contains_detect_types (types : List UserType) :
    (detectTypes language types services).contains name = true ↔ services.contains name = true ∨
      language.traits.typesAreServices = true ∧ ∃ type ∈ types,
        (typeRoutes language type).isEmpty = false ∧ nameOfFile type.file = name := by
  unfold detectTypes
  cases language.traits.typesAreServices with
  | false => simp
  | true =>
      have grown := (foldl_grows (fun _ : ServiceMap => True) (fun held => held.contains name = true)
        (fun _ _ _ _ => trivial)
        (fun held type (_ : type ∈ types) _ => contains_detect_type language held name type)
        services trivial).2
      simpa using grown

theorem contains_of_slice (slice : UsageSlice) :
    (ofSlice language slice services).contains name = true ↔
      services.contains name = true ∨ name ∈ shownNames language slice := by
  let named := namedUsages (slice.objects.filter ObjectSlice.hasSourceFile)
  have grown := (foldl_grows (fun _ : ServiceMap => True) (fun held => held.contains name = true)
    (fun _ _ _ _ => trivial)
    (fun held usage (_ : usage ∈ named) _ => contains_detect_usage language held name usage)
    services trivial).2
  have usages : (∃ usage ∈ named, (usageRoutes language usage.2).isEmpty = false ∧
      usage.1 = name) ↔ name ∈ (named.filter
        fun usage => !(usageRoutes language usage.2).isEmpty).map Prod.fst := by
    simp [and_assoc]
  have types : (language.traits.typesAreServices = true ∧ ∃ type ∈ slice.userTypes,
      (typeRoutes language type).isEmpty = false ∧ nameOfFile type.file = name) ↔
      name ∈ if language.traits.typesAreServices then
        (slice.userTypes.filter fun type => !(typeRoutes language type).isEmpty).map
          fun type => nameOfFile type.file
      else [] := by
    cases language.traits.typesAreServices <;> simp [and_assoc]
  unfold ofSlice shownNames
  rw [contains_detect_types, grown, usages, types, List.mem_append, or_assoc]

end Service

def Intake.serviceNames (language : Language) : Intake → List String
  | .usages slice => Service.shownNames language slice
  | .reachables _ | .semantics _ _ | .dataFlow _ => []

namespace Collector

theorem contains_take (collector : Collector) (intake : Intake) (name : String) :
    (collector.take intake).maps.services.contains name = true ↔
      collector.maps.services.contains name = true ∨
        name ∈ intake.serviceNames collector.language := by
  rw [take_services]
  cases intake with
  | usages slice => exact Service.contains_of_slice collector.language _ name slice
  | reachables slice => simp [Intake.serviceNames]
  | semantics components slice => simp [Intake.serviceNames]
  | dataFlow slice => simp [Intake.serviceNames]

/-- The services of a run of slices are those that some slice shows. -/
theorem contains_take_all (collector : Collector) (intakes : List Intake) (name : String) :
    (collector.takeAll intakes).maps.services.contains name = true ↔
      collector.maps.services.contains name = true ∨
        name ∈ intakes.flatMap (Intake.serviceNames collector.language) := by
  induction intakes generalizing collector with
  | nil => simp [takeAll]
  | cons intake rest ih =>
      have later := ih (collector.take intake)
      rw [take_language, contains_take, or_assoc, ← List.mem_append] at later
      exact later

/-! ### Counters of the detector -/

theorem add_chain_counts {collector : Collector}
    (counts : collector.detections.OfSource .detector) (node : ReachableNode) :
    (collector.addChain node).detections.OfSource .detector := by
  unfold addChain
  dsimp only
  split
  · exact counts.add rfl _
  · exact counts.add rfl 1

theorem take_counts {collector : Collector} (counts : collector.detections.OfSource .detector)
    (intake : Intake) : (collector.take intake).detections.OfSource .detector := by
  cases intake with
  | usages slice =>
      -- A collector that is grafted onto itself does not change, and keeps its own detections.
      have grafted := add_usages_graft collector collector slice
      rw [graft_self] at grafted
      rw [take, grafted]
      exact counts
  | reachables slice =>
      apply List.foldlRecOn (motive := fun next : Collector => next.detections.OfSource .detector)
      · exact counts
      · intro next later node _
        exact add_chain_counts later node
  | semantics components slice => exact counts
  | dataFlow slice =>
      have kept : (collector.addDataFlow slice).detections = collector.detections :=
        foldl_keeps Collector.detections (by intros; rfl) collector
      exact kept ▸ counts

theorem take_all_counts {collector : Collector} (counts : collector.detections.OfSource .detector)
    (intakes : List Intake) : (collector.takeAll intakes).detections.OfSource .detector := by
  induction intakes generalizing collector with
  | nil => exact counts
  | cons intake rest ih => exact ih (take_counts counts intake)

theorem take_all_counted {collector : Collector} (counted : collector.resolver.Counted)
    (intakes : List Intake) : (collector.takeAll intakes).resolver.Counted := by
  rw [take_all_resolver]
  exact counted.resolve_all _

end Collector

end BomEvidence
