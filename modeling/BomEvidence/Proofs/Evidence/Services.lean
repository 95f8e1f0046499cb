import BomEvidence.Proofs.Evidence.Places
import BomEvidence.Proofs.Sorted.Settling

/-!
The services of usage slices. What a slice tells of services depends on its language, on its
records and on the services that are known before, and the records may come in any order and
more than once. The resolver has no part in it, and other slices tell of no services.
-/

namespace BomEvidence

theorem Settles.guarded {State Item : Type} {step : State → Item → State} (settles : Settles step)
    (skips : Item → Bool) : Settles fun state item => if skips item then state else step state item := by
  constructor
  · intro state first second
    cases skipsFirst : skips first <;> cases skipsSecond : skips second <;>
      simp [settles.commutes state first second]
  · intro state item
    cases skips item <;> simp [settles.repeats]

namespace Service

def grow (start : Service) (authenticated : Bool) (routes : List String)
    (held : Option Service) : Service :=
  let service := held.getD start
  let service := if authenticated then service.markAuthenticated else service
  { service with endpoints := service.endpoints.insertAll routes }

theorem grow_comm (start : Service) (first second : Bool) (routes others : List String)
    (held : Option Service) : grow start second others (some (grow start first routes held)) =
      grow start first routes (some (grow start second others held)) := by
  cases first <;> cases second <;>
    simp [grow, markAuthenticated, TextSet.insert_all_comm _ routes others]

theorem grow_twice (start : Service) (authenticated : Bool) (routes : List String)
    (held : Option Service) : grow start authenticated routes (some
      (grow start authenticated routes held)) = grow start authenticated routes held := by
  cases authenticated <;> simp [grow, markAuthenticated, TextSet.insert_all_twice]

theorem settles_usages (language : Language) :
    Settles fun services (named : String × Usage) =>
      detectUsage language named.1 services named.2 := by
  let authenticated (usage : Usage) :=
    (inspectedMethods language usage).any mentionsAuthentication
  have grows : Settles fun (services : ServiceMap) (named : String × Usage) =>
      services.alter named.1
        (grow (new none) (authenticated named.2) (usageRoutes language named.2)) := by
    apply TextMap.settles_alter
    · intro first second held _
      exact grow_comm ..
    · intro named held
      exact grow_twice ..
  exact grows.guarded fun named => (usageRoutes language named.2).isEmpty

theorem settles_types (language : Language) : Settles (detectType language) := by
  have grows : Settles fun (services : ServiceMap) (type : UserType) =>
      services.alter (nameOfFile type.file)
        (grow (new (some false)) false (typeRoutes language type)) := by
    apply TextMap.settles_alter
    · intro first second held _
      exact grow_comm ..
    · intro type held
      exact grow_twice ..
  exact grows.guarded fun type => (typeRoutes language type).isEmpty

def namedUsages (objects : List ObjectSlice) : List (String × Usage) :=
  objects.flatMap fun object => object.usages.map fun usage => (nameOf object, usage)

def ofSlice (language : Language) (slice : UsageSlice) (services : ServiceMap) : ServiceMap :=
  detectTypes language slice.userTypes <|
    (namedUsages (slice.objects.filter ObjectSlice.hasSourceFile)).foldl
      (fun services named => detectUsage language named.1 services named.2) services

theorem detect_types_congr (language : Language) {types others : List UserType}
    (same : ∀ type, type ∈ types ↔ type ∈ others) (services : ServiceMap) :
    detectTypes language types services = detectTypes language others services := by
  unfold detectTypes
  rw [(settles_types language).foldl_eq same]

theorem mem_named_usages_congr {objects others : List ObjectSlice}
    (same : ∀ object, object ∈ objects ↔ object ∈ others) (named : String × Usage) :
    named ∈ namedUsages objects ↔ named ∈ namedUsages others := by
  simp [namedUsages, same]

theorem of_slice_congr (language : Language) {first second : UsageSlice}
    (objects : ∀ object, object ∈ first.objects ↔ object ∈ second.objects)
    (types : ∀ type, type ∈ first.userTypes ↔ type ∈ second.userTypes) (services : ServiceMap) :
    ofSlice language first services = ofSlice language second services := by
  have ofFiles : ∀ object, object ∈ first.objects.filter ObjectSlice.hasSourceFile ↔
      object ∈ second.objects.filter ObjectSlice.hasSourceFile := by
    intro object
    simp [objects]
  unfold ofSlice
  rw [(settles_usages language).foldl_eq (mem_named_usages_congr ofFiles)]
  exact detect_types_congr language types _

end Service

namespace Collector

theorem add_object_services (collector : Collector) (object : ObjectSlice) :
    (collector.addObject object).maps.services =
      Service.detectUsages collector.language object collector.maps.services := by
  let mentions := Mention.ofObject collector.language collector.userTypes object
  let place := placeIn (object.file.getD "") mentions
  have symbol : ∀ (next : Collector) (symbol : String),
      (next.addSymbol place symbol).maps.services = next.maps.services := by
    intro next symbol
    apply foldl_keeps EvidenceMaps.services
    intros
    rfl
  have located : ((requests collector.language collector.userTypes mentions).foldl
      (addSymbol place) collector).maps.services = collector.maps.services :=
    foldl_keeps (fun next : Collector => next.maps.services) (fun next name _ => symbol next name)
      collector
  exact congrArg (Service.detectUsages collector.language object) located

theorem add_usages_services (collector : Collector) (slice : UsageSlice) :
    (collector.addUsages slice).maps.services =
      Service.ofSlice collector.language slice collector.maps.services := by
  let knowing := { collector with userTypes := collector.userTypes ∪ slice.typeNames }
  let detect (services : ServiceMap) (object : ObjectSlice) : ServiceMap :=
    Service.detectUsages collector.language object services
  have folded : ∀ objects : List ObjectSlice,
      (objects.foldl addObject knowing).language = collector.language ∧
        (objects.foldl addObject knowing).maps.services =
          objects.foldl detect collector.maps.services := by
    intro objects
    apply List.foldl_rel (r := fun (next : Collector) (services : ServiceMap) =>
      next.language = collector.language ∧ next.maps.services = services)
    · exact ⟨rfl, rfl⟩
    · intro object _ next services known
      constructor
      · exact (add_object_asks next object).language.trans known.1
      · rw [add_object_services, known.1, known.2]
  have served := (folded (slice.objects.filter ObjectSlice.hasSourceFile)).2
  have flat : ∀ objects : List ObjectSlice, objects.foldl detect collector.maps.services =
      (Service.namedUsages objects).foldl (fun services named =>
        Service.detectUsage collector.language named.1 services named.2)
        collector.maps.services := by
    intro objects
    rw [Service.namedUsages, List.foldl_flatMap]
    simp only [List.foldl_map]
    rfl
  rw [flat] at served
  exact congrArg (Service.detectTypes collector.language slice.userTypes) served

/-- What a slice does to the services is a matter of the language alone. -/
theorem take_services (collector : Collector) (intake : Intake) :
    (collector.take intake).maps.services =
      match intake with
      | .usages slice => Service.ofSlice collector.language slice collector.maps.services
      | _ => collector.maps.services := by
  cases intake with
  | usages slice => exact add_usages_services collector slice
  | reachables slice =>
      exact add_reachables_keeps (fun _ _ _ => rfl) (fun _ _ _ => rfl) (fun _ _ => rfl) collector
        slice
  | semantics components slice =>
      exact add_semantics_keeps (fun _ _ _ => rfl) collector components slice
  | dataFlow slice => exact add_data_flow_keeps (fun _ _ _ => rfl) collector slice

theorem take_all_services {first second : Collector} (language : first.language = second.language)
    (services : first.maps.services = second.maps.services) (intakes : List Intake) :
    (first.takeAll intakes).maps.services = (second.takeAll intakes).maps.services := by
  induction intakes generalizing first second with
  | nil => exact services
  | cons intake rest ih =>
      apply ih
      · rw [take_language, take_language, language]
      · rw [take_services, take_services, language, services]

end Collector

end BomEvidence
