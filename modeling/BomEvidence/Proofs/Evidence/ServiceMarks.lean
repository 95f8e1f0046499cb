import BomEvidence.Proofs.Evidence.Services
import BomEvidence.Proofs.Text.AnyCase
import Mathlib.Data.List.Infix

/-!
The marks of detected services. Objects with usages and types are handed to the detectors in any
order and with any languages. Both detectors add what they find to the service of a name, so that
what holds of every service is a matter of one such step.
-/

namespace BomEvidence.Service

/-! ### Names -/

theorem suffix_of_stem (stem : String) :
    "service".toList <:+ (stem ++ "-service").toList := by
  have ends : "service".toList <:+ "-service".toList := by decide
  rw [String.toList_append]
  exact ends.trans (List.suffix_append _ _)

theorem name_ends (object : ObjectSlice) : "service".toList <:+ (nameOf object).toList := by
  have ends (stem : String) : "service".toList <:+
      (if Text.endsWith stem "service" then stem else stem ++ "-service").toList := by
    split
    · rename_i already
      exact List.isSuffixOf_iff_suffix.1 already
    · exact suffix_of_stem stem
  exact ends _

theorem file_name_ends (file : Option String) : "service".toList <:+ (nameOfFile file).toList := by
  unfold nameOfFile
  split
  · exact suffix_of_stem _
  · exact List.suffix_refl _

/-! ### Authentication -/

theorem mentions_authentication_iff {method : String} :
    mentionsAuthentication method = true ↔ Text.InAnyCase "auth".toList method.toList := by
  have only : ∀ letter ∈ "auth".toList, Text.OnlyAscii letter := by
    intro letter member
    have among : letter ∈ ['a', 'u', 't', 'h'] := member
    simp only [List.mem_cons, List.not_mem_nil, or_false] at among
    rcases among with rfl | rfl | rfl | rfl <;> decide +kernel
  have mapped : (Text.lower method).toList = Text.lowerChars method.toList :=
    String.toList_ofList
  calc mentionsAuthentication method = true
    _ ↔ "auth".toList <:+: (Text.lower method).toList := Text.occurs_iff_infix
    _ ↔ "auth".toList <:+: Text.lowerChars method.toList := by rw [mapped]
    _ ↔ Text.InAnyCase "auth".toList method.toList := Text.infix_lower_iff (by decide) only

/-! ### What detectors find -/

inductive Detection where
  | usages (language : Language) (object : ObjectSlice)
  | types (language : Language) (listed : List UserType)

def Detection.apply (services : ServiceMap) : Detection → ServiceMap
  | .usages language object => detectUsages language object services
  | .types language listed => detectTypes language listed services

def detectAll (detections : List Detection) : ServiceMap := detections.foldl Detection.apply ∅

/-- Routes of one service, the mark of authentication with which it begins if it is new, and
whether authentication is mentioned beside them. -/
structure Finding where
  name : String
  start : Option Bool
  authenticated : Bool
  routes : List String

namespace Finding

def ofUsage (language : Language) (object : ObjectSlice) (usage : Usage) : Finding where
  name := nameOf object
  start := none
  authenticated := (inspectedMethods language usage).any mentionsAuthentication
  routes := usageRoutes language usage

def ofType (language : Language) (type : UserType) : Finding where
  name := nameOfFile type.file
  start := some false
  authenticated := false
  routes := typeRoutes language type

def add (services : ServiceMap) (finding : Finding) : ServiceMap :=
  if finding.routes.isEmpty then services
  else services.alter finding.name (grow (new finding.start) finding.authenticated finding.routes)

end Finding

def Detection.findings : Detection → List Finding
  | .usages language object => object.usages.map (Finding.ofUsage language object)
  | .types language listed =>
      if language.traits.typesAreServices then listed.map (Finding.ofType language) else []

theorem Finding.add_of_usage (language : Language) (object : ObjectSlice) (services : ServiceMap)
    (usage : Usage) : Finding.add services (.ofUsage language object usage) =
      detectUsage language (nameOf object) services usage := rfl

theorem Finding.add_of_type (language : Language) (services : ServiceMap) (type : UserType) :
    Finding.add services (.ofType language type) = detectType language services type := by
  unfold add ofType grow
  simp only [Bool.false_eq_true, if_false]
  rfl

theorem Detection.apply_eq (detection : Detection) (services : ServiceMap) :
    detection.apply services = detection.findings.foldl Finding.add services := by
  cases detection with
  | usages language object =>
      rw [findings, List.foldl_map]
      simp only [Finding.add_of_usage]
      rfl
  | types language listed =>
      change detectTypes language listed services = (if language.traits.typesAreServices then
        listed.map (Finding.ofType language) else []).foldl Finding.add services
      unfold detectTypes
      split
      · rw [List.foldl_map]
        simp only [Finding.add_of_type]
      · rfl

theorem detect_all_eq (detections : List Detection) :
    detectAll detections = (detections.flatMap Detection.findings).foldl Finding.add ∅ := by
  rw [List.foldl_flatMap, detectAll]
  congr 1
  funext services detection
  exact detection.apply_eq services

/-! ### One finding -/

/-- What holds of every service under its name: it has an endpoint, and it is a boundary of trust
exactly if it is authenticated, or else nothing is said of boundaries. -/
structure Marked (name : String) (service : Service) : Prop where
  named : "service".toList <:+ name.toList
  reached : service.endpoints ≠ ∅
  told : service.trustBoundary = none ∨ service.trustBoundary = some true
  trusted : service.trustBoundary = some true ↔ service.authenticated = some true

def AllMarked (services : ServiceMap) : Prop :=
  ∀ name service, services.get? name = some service → service.Marked name

def Authenticates (services : ServiceMap) (name : String) : Prop :=
  ∃ service, services.get? name = some service ∧ service.authenticated = some true

theorem new_trusted (start : Option Bool) :
    ((new start).trustBoundary = none ∨ (new start).trustBoundary = some true) ∧
      ((new start).trustBoundary = some true ↔ (new start).authenticated = some true) := by
  rcases start with _ | _ | _ <;> decide

theorem grow_marked {name : String} {start : Option Bool} {authenticated : Bool}
    {routes : List String} {held : Option Service} (named : "service".toList <:+ name.toList)
    (some : routes ≠ []) (marked : ∀ service ∈ held, service.Marked name) :
    (grow (new start) authenticated routes held).Marked name := by
  have reached (endpoints : TextSet) : endpoints.insertAll routes ≠ ∅ := by
    obtain ⟨route, others, rfl⟩ := List.exists_cons_of_ne_nil some
    intro nothing
    have member : route ∈ endpoints.insertAll (route :: others) :=
      TextSet.mem_insert_all.2 (Or.inl List.mem_cons_self)
    rw [nothing] at member
    exact TextSet.not_mem_emptyset route member
  cases authenticated with
  | true => exact ⟨named, reached _, Or.inr rfl, iff_of_true rfl rfl⟩
  | false =>
      cases held with
      | none => exact ⟨named, reached _, (new_trusted start).1, (new_trusted start).2⟩
      | some service =>
          have kept := marked service rfl
          exact ⟨named, reached _, kept.told, kept.trusted⟩

theorem grow_authenticated_iff {start : Option Bool} {authenticated : Bool} {routes : List String}
    {held : Option Service} (unmarked : start ≠ some true) :
    (grow (new start) authenticated routes held).authenticated = some true ↔
      (∃ service, held = some service ∧ service.authenticated = some true) ∨
        authenticated = true := by
  cases authenticated with
  | true => exact iff_of_true rfl (Or.inr rfl)
  | false =>
      cases held with
      | none => simpa [grow, new] using unmarked
      | some service => simp [grow]

namespace Finding

/-- The names of findings are names of services, and no service is new and authenticated without
a mention of authentication. -/
structure Fits (finding : Finding) : Prop where
  named : "service".toList <:+ finding.name.toList
  unmarked : finding.start ≠ some true

theorem add_marked {services : ServiceMap} {finding : Finding} (fits : finding.Fits)
    (marked : AllMarked services) : AllMarked (add services finding) := by
  unfold add
  split
  · exact marked
  · rename_i some
    intro name service found
    rw [TextMap.get_alter] at found
    split at found
    · rename_i same
      rw [← Option.some.inj found, same]
      exact grow_marked fits.named (by simpa using some) fun held isHeld =>
        marked finding.name held isHeld
    · exact marked name service found

theorem add_authenticates_iff {services : ServiceMap} {finding : Finding} (fits : finding.Fits)
    (name : String) : Authenticates (add services finding) name ↔ Authenticates services name ∨
      finding.routes ≠ [] ∧ finding.name = name ∧ finding.authenticated = true := by
  unfold add
  split
  · rename_i none
    simp [List.isEmpty_iff.1 none]
  · rename_i some
    have routed : finding.routes ≠ [] := by simpa using some
    unfold Authenticates
    rw [TextMap.get_alter]
    by_cases same : name = finding.name
    · rw [if_pos same, ← same]
      simp only [Option.some.injEq, exists_eq_left', grow_authenticated_iff fits.unmarked]
      simp [routed]
    · simp [if_neg same, Ne.symm same]

end Finding

theorem Detection.of_mem_findings {language : Language} {listed : List UserType}
    {finding : Finding} (member : finding ∈ (Detection.types language listed).findings) :
    ∃ type ∈ listed, Finding.ofType language type = finding := by
  change finding ∈ if language.traits.typesAreServices then
    listed.map (Finding.ofType language) else [] at member
  split at member
  · exact List.mem_map.1 member
  · cases member

theorem Detection.findings_fit (detection : Detection) : ∀ finding ∈ detection.findings,
    finding.Fits := by
  intro finding member
  cases detection with
  | usages language object =>
      obtain ⟨usage, _, rfl⟩ := List.mem_map.1 member
      exact ⟨name_ends object, by simp [Finding.ofUsage]⟩
  | types language listed =>
      obtain ⟨type, _, rfl⟩ := of_mem_findings member
      exact ⟨file_name_ends type.file, by simp [Finding.ofType]⟩

/-! ### What is read in a usage -/

/-- A definition in Ruby code whose name has a slash names a route. -/
def NamesRoute (language : Language) (usage : Usage) (name : String) : Prop :=
  language = .ruby ∧ '/' ∈ name.toList ∧
    ∃ definition, usage.definedBy = some definition ∧ definition.name = some name

/-- A usage refers to the method of its target, or else to that of its definition. -/
inductive RefersTo (usage : Usage) : String → Prop
  | target {ref : ObjectRef} {method : String} (targeted : usage.target = some ref)
      (resolved : ref.resolvedMethod = some method) : RefersTo usage method
  | definition {ref : ObjectRef} {method : String}
      (untold : ∀ ref, usage.target = some ref → ref.resolvedMethod = none)
      (defined : usage.definedBy = some ref) (resolved : ref.resolvedMethod = some method) :
      RefersTo usage method

/-- The methods that are inspected for authentication: the one that a usage refers to, unless it
names a route instead, and those that it invokes, except in PHP. -/
inductive Inspects (language : Language) (usage : Usage) : String → Prop
  | referred {method : String} (unrouted : ∀ name, ¬NamesRoute language usage name)
      (refers : RefersTo usage method) : Inspects language usage method
  | invoked {call : Call} {method : String} (scanned : language ≠ .php)
      (among : call ∈ usage.invokedCalls) (resolved : call.resolvedMethod = some method) :
      Inspects language usage method

/-- The texts that are scanned for routes: the name of a route, and except in PHP the methods that
are inspected. -/
inductive Scans (language : Language) (usage : Usage) : String → Prop
  | named {name : String} (routed : NamesRoute language usage name) : Scans language usage name
  | inspected {method : String} (scanned : language ≠ .php)
      (inspects : Inspects language usage method) : Scans language usage method

section Reading

variable {language : Language} {usage : Usage}

theorem scans_methods_iff : language.traits.scansMethods = true ↔ language ≠ .php := by
  cases language <;> decide

theorem ruby_route_iff {name : String} :
    rubyRoute? language usage = some name ↔ NamesRoute language usage name := by
  have slash (name : String) : Text.contains name "/" = true ↔ '/' ∈ name.toList :=
    Text.occurs_iff_infix.trans (List.singleton_infix_iff _ _)
  unfold rubyRoute? NamesRoute
  split
  · rename_i own defined
    obtain ⟨definition, isDefinition, named⟩ := Option.bind_eq_some_iff.1 defined
    simp only [Option.ite_none_right_eq_some, slash, Option.some.injEq, isDefinition, true_and,
      exists_eq_left', named]
    constructor
    · rintro ⟨slashed, rfl⟩
      exact ⟨slashed, rfl⟩
    · rintro ⟨slashed, rfl⟩
      exact ⟨slashed, rfl⟩
  · rename_i other
    refine iff_of_false (Option.some_ne_none _ ∘ Eq.symm) ?_
    rintro ⟨rfl, _, definition, isDefinition, named⟩
    exact other name rfl (by rw [isDefinition]; exact named)

theorem usage_method_iff {method : String} :
    usageMethod? usage = some method ↔ RefersTo usage method := by
  unfold usageMethod?
  rw [Option.or_eq_some_iff, Option.bind_eq_some_iff, Option.bind_eq_none_iff,
    Option.bind_eq_some_iff]
  constructor
  · intro either
    rcases either with ⟨_, targeted, resolved⟩ | ⟨untold, _, defined, resolved⟩
    · exact .target targeted resolved
    · exact .definition untold defined resolved
  · intro refers
    cases refers with
    | target targeted resolved => exact Or.inl ⟨_, targeted, resolved⟩
    | definition untold defined resolved => exact Or.inr ⟨untold, _, defined, resolved⟩

theorem mem_called_methods_iff {method : String} : method ∈ calledMethods language usage ↔
    language ≠ .php ∧ ∃ call ∈ usage.invokedCalls, call.resolvedMethod = some method := by
  unfold calledMethods
  rw [← scans_methods_iff]
  split <;> simp_all

theorem mem_inspected_methods_iff {method : String} :
    method ∈ inspectedMethods language usage ↔ Inspects language usage method := by
  have unrouted : rubyRoute? language usage = none ↔ ∀ name, ¬NamesRoute language usage name := by
    simp only [Option.eq_none_iff_forall_ne_some, ne_eq, ruby_route_iff]
  have listed : method ∈ inspectedMethods language usage ↔
      rubyRoute? language usage = none ∧ usageMethod? usage = some method ∨
        method ∈ calledMethods language usage := by
    unfold inspectedMethods
    split <;> simp_all
  rw [listed, unrouted, usage_method_iff, mem_called_methods_iff]
  constructor
  · intro either
    rcases either with ⟨unnamed, refers⟩ | ⟨scanned, _, among, resolved⟩
    · exact .referred unnamed refers
    · exact .invoked scanned among resolved
  · intro inspects
    cases inspects with
    | referred unnamed refers => exact Or.inl ⟨unnamed, refers⟩
    | invoked scanned among resolved => exact Or.inr ⟨scanned, _, among, resolved⟩

theorem usage_routes_eq (language : Language) (usage : Usage) :
    usageRoutes language usage = ((rubyRoute? language usage).toList ++
      if language.traits.scansMethods then inspectedMethods language usage else []).flatMap
        (Route.extract language) := by
  unfold usageRoutes inspectedMethods calledMethods
  cases rubyRoute? language usage <;> cases language.traits.scansMethods <;>
    cases usageMethod? usage <;> simp

theorem mem_usage_routes_iff {route : String} : route ∈ usageRoutes language usage ↔
    ∃ code, Scans language usage code ∧ route ∈ Route.extract language code := by
  have scanned (code : String) : code ∈ (rubyRoute? language usage).toList ++
      (if language.traits.scansMethods then inspectedMethods language usage else []) ↔
      Scans language usage code := by
    rw [List.mem_append, Option.mem_toList, ruby_route_iff, List.mem_ite_nil_right,
      mem_inspected_methods_iff, scans_methods_iff]
    constructor
    · intro either
      rcases either with routed | ⟨scanned, inspects⟩
      · exact .named routed
      · exact .inspected scanned inspects
    · intro scans
      cases scans with
      | named routed => exact Or.inl routed
      | inspected scanned inspects => exact Or.inr ⟨scanned, inspects⟩
  rw [usage_routes_eq, List.mem_flatMap]
  simp only [scanned]

theorem usage_routes_ne_nil_iff : usageRoutes language usage ≠ [] ↔
    ∃ code, Scans language usage code ∧ Route.extract language code ≠ [] := by
  constructor
  · intro routed
    obtain ⟨route, shown⟩ := List.exists_mem_of_ne_nil _ routed
    obtain ⟨code, scans, inCode⟩ := mem_usage_routes_iff.1 shown
    exact ⟨code, scans, List.ne_nil_of_mem inCode⟩
  · intro fact
    rcases fact with ⟨code, scans, routed⟩
    obtain ⟨route, inCode⟩ := List.exists_mem_of_ne_nil _ routed
    exact List.ne_nil_of_mem (mem_usage_routes_iff.2 ⟨code, scans, inCode⟩)

end Reading

/-! ### All calls -/

/-- A usage shows routes of a service, and a method that is inspected in it mentions
authentication. -/
def ShowsAuthentication (detections : List Detection) (name : String) : Prop :=
  ∃ language object usage, .usages language object ∈ detections ∧ usage ∈ object.usages ∧
    nameOf object = name ∧ (∃ code, Scans language usage code ∧ Route.extract language code ≠ []) ∧
    ∃ method, Inspects language usage method ∧ Text.InAnyCase "auth".toList method.toList

theorem found_authenticated_iff {detections : List Detection} {name : String} :
    (∃ finding ∈ detections.flatMap Detection.findings, finding.routes ≠ [] ∧ finding.name = name ∧
      finding.authenticated = true) ↔ ShowsAuthentication detections name := by
  constructor
  · intro shown
    obtain ⟨finding, member, routed, named, authenticated⟩ := shown
    obtain ⟨detection, among, found⟩ := List.mem_flatMap.1 member
    cases detection with
    | usages language object =>
        obtain ⟨usage, used, rfl⟩ := List.mem_map.1 found
        obtain ⟨method, inspected, mentions⟩ := List.any_eq_true.1 authenticated
        exact ⟨language, object, usage, among, used, named, usage_routes_ne_nil_iff.1 routed,
          method, mem_inspected_methods_iff.1 inspected, mentions_authentication_iff.1 mentions⟩
    | types language listed =>
        obtain ⟨type, _, rfl⟩ := Detection.of_mem_findings found
        cases authenticated
  · intro shown
    obtain ⟨language, object, usage, among, used, named, routed, method, inspects, mentions⟩ :=
      shown
    refine ⟨Finding.ofUsage language object usage, ?_, usage_routes_ne_nil_iff.2 routed, named, ?_⟩
    · exact List.mem_flatMap.2 ⟨_, among, List.mem_map_of_mem used⟩
    · exact List.any_eq_true.2 ⟨method, mem_inspected_methods_iff.2 inspects,
        mentions_authentication_iff.2 mentions⟩

/-- After any calls of the detectors every service is marked, and a service is authenticated
exactly if a usage showed routes of it together with a mention of authentication. -/
theorem detect_all_marks (detections : List Detection) :
    (∀ name service, (detectAll detections).get? name = some service → service.Marked name) ∧
      ∀ name, (∃ service, (detectAll detections).get? name = some service ∧
        service.authenticated = some true) ↔ ShowsAuthentication detections name := by
  have fit : ∀ finding ∈ detections.flatMap Detection.findings, finding.Fits := by
    intro finding member
    obtain ⟨detection, _, found⟩ := List.mem_flatMap.1 member
    exact detection.findings_fit finding found
  have run (name : String) := foldl_grows AllMarked (Authenticates · name)
    (fun _ finding member marked => Finding.add_marked (fit finding member) marked)
    (fun _ finding member _ => Finding.add_authenticates_iff (fit finding member) name)
    ∅ (by intro _ _ found; cases found)
  rw [detect_all_eq]
  refine ⟨(run "").1, fun name => ?_⟩
  refine (run name).2.trans ?_
  rw [found_authenticated_iff, or_iff_right_iff_imp]
  intro held
  obtain ⟨_, found, _⟩ := held
  cases found

end BomEvidence.Service
