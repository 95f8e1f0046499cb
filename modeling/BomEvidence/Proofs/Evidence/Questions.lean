import BomEvidence.Evidence.Collector
import BomEvidence.Proofs.Resolution.Memo

/-!
What a collector asks its resolver while it takes in slices, and which types of the
analysed code it knows at that moment. Usage slices never ask for such a type, neither by
its name as it stands nor by the name of a class. The class of a data-flow node is asked
for without that test, and this is the only way in which such a type is asked for.
-/

namespace BomEvidence

inductive Intake where
  | usages (slice : UsageSlice)
  | reachables (slice : ReachablesSlice)
  | semantics (components : List Bom.Component) (slice : SemanticsSlice)
  | dataFlow (slice : DataFlowSlice)

namespace Collector

def take (collector : Collector) : Intake → Collector
  | .usages slice => collector.addUsages slice
  | .reachables slice => collector.addReachables slice
  | .semantics components slice => collector.addSemantics components slice
  | .dataFlow slice => collector.addDataFlow slice

def takeAll (collector : Collector) (intakes : List Intake) : Collector := intakes.foldl take collector

/-- The types of the analysed code that are known while a slice is taken in. A usage slice
tells its own types before any of its objects is looked at. -/
def typesDuring (collector : Collector) : Intake → TextSet
  | .usages slice => collector.userTypes ∪ slice.typeNames
  | .reachables _ | .semantics _ _ | .dataFlow _ => collector.userTypes

def objectQuestions (language : Language) (types : TextSet) (object : ObjectSlice) : List String :=
  requests language types (Mention.ofObject language types object)

def pathQuestions (language : Language) (types : TextSet) (slice : DataFlowSlice)
    (path : List NodeId) : List String := (slice.along path).flatMap (nodeRequests language types)

def questions (collector : Collector) : Intake → List String
  | .usages slice => (slice.objects.filter ObjectSlice.hasSourceFile).flatMap
      (objectQuestions collector.language (collector.userTypes ∪ slice.typeNames))
  | .reachables _ | .semantics _ _ => []
  | .dataFlow slice =>
      slice.paths.flatMap (pathQuestions collector.language collector.userTypes slice)

/-- The questions of a run of slices, each with the types that are known when it is asked. -/
def handed (collector : Collector) : List Intake → List (TextSet × String)
  | [] => []
  | intake :: rest =>
      (collector.questions intake).map (fun symbol => (collector.typesDuring intake, symbol)) ++
        (collector.take intake).handed rest

/-! ### The questions are what the resolver is asked -/

/-- A collector comes out of another one by asking symbols in order. -/
structure Asks (before : Collector) (symbols : List String) (after : Collector) : Prop where
  resolver : after.resolver = (before.resolver.resolveAll symbols).2
  userTypes : after.userTypes = before.userTypes

theorem Asks.language {before after : Collector} {symbols : List String}
    (asks : before.Asks symbols after) : after.language = before.language := by
  unfold Collector.language
  rw [asks.resolver]
  exact (Resolver.resolve_all_sources before.resolver symbols).language

theorem Asks.append {before middle after : Collector} {first second : List String}
    (left : before.Asks first middle) (right : middle.Asks second after) :
    before.Asks (first ++ second) after := by
  constructor
  · rw [right.resolver, left.resolver, Resolver.resolve_all_append]
  · exact right.userTypes.trans left.userTypes

theorem asks_nothing {before after : Collector} (resolver : after.resolver = before.resolver)
    (userTypes : after.userTypes = before.userTypes) : before.Asks [] after :=
  ⟨resolver, userTypes⟩

/-- Steps that ask by the language and the types alone ask the same wherever they stand. -/
theorem foldl_asks {Item : Type} {step : Collector → Item → Collector} {ask : Item → List String}
    {language : Language} {types : TextSet} {items : List Item}
    (asks : ∀ collector : Collector, ∀ item ∈ items, collector.language = language →
      collector.userTypes = types → collector.Asks (ask item) (step collector item))
    {collector : Collector} (sameLanguage : collector.language = language)
    (sameTypes : collector.userTypes = types) :
    collector.Asks (items.flatMap ask) (items.foldl step collector) := by
  induction items generalizing collector with
  | nil => exact asks_nothing rfl rfl
  | cons item rest ih =>
      have first := asks collector item List.mem_cons_self sameLanguage sameTypes
      have later := ih (fun next other member => asks next other (List.mem_cons_of_mem _ member))
        (first.language.trans sameLanguage) (first.userTypes.trans sameTypes)
      rw [List.flatMap_cons, List.foldl_cons]
      exact first.append later

theorem add_symbol_asks (place : String → Option String) (collector : Collector) (symbol : String) :
    collector.Asks [symbol] (collector.addSymbol place symbol) := ⟨rfl, rfl⟩

theorem add_object_asks (collector : Collector) (object : ObjectSlice) :
    collector.Asks (objectQuestions collector.language collector.userTypes object)
      (collector.addObject object) := by
  let symbols := objectQuestions collector.language collector.userTypes object
  let place := placeIn (object.file.getD "")
    (Mention.ofObject collector.language collector.userTypes object)
  have folded : collector.Asks (symbols.flatMap fun symbol => [symbol])
      (symbols.foldl (addSymbol place) collector) :=
    foldl_asks (fun next symbol _ _ _ => add_symbol_asks place next symbol) rfl rfl
  rw [List.flatMap_singleton'] at folded
  exact ⟨folded.resolver, folded.userTypes⟩

theorem add_path_asks (slice : DataFlowSlice) (collector : Collector) (path : List NodeId) :
    collector.Asks (pathQuestions collector.language collector.userTypes slice path)
      (collector.addPath slice path) := ⟨rfl, rfl⟩

theorem add_chain_asks (collector : Collector) (node : ReachableNode) :
    collector.Asks [] (collector.addChain node) := by
  unfold addChain
  dsimp only
  split <;> exact asks_nothing rfl rfl

theorem add_usages_asks (collector : Collector) (slice : UsageSlice) :
    Asks { collector with userTypes := collector.userTypes ∪ slice.typeNames }
      (collector.questions (.usages slice)) (collector.addUsages slice) := by
  let knowing := { collector with userTypes := collector.userTypes ∪ slice.typeNames }
  have folded : knowing.Asks (collector.questions (.usages slice))
      ((slice.objects.filter ObjectSlice.hasSourceFile).foldl addObject knowing) := by
    apply foldl_asks
    · intro next object _ sameLanguage sameTypes
      have asks := add_object_asks next object
      rw [sameLanguage, sameTypes] at asks
      exact asks
    · rfl
    · rfl
  exact ⟨folded.resolver, folded.userTypes⟩

theorem add_data_flow_asks (collector : Collector) (slice : DataFlowSlice) :
    collector.Asks (collector.questions (.dataFlow slice)) (collector.addDataFlow slice) :=
  foldl_asks (fun next path _ sameLanguage sameTypes => by
    have asks := add_path_asks slice next path
    rw [sameLanguage, sameTypes] at asks
    exact asks) rfl rfl

theorem add_reachables_asks (collector : Collector) (slice : ReachablesSlice) :
    collector.Asks [] (collector.addReachables slice) := by
  have folded : collector.Asks (slice.nodes.flatMap fun _ => [])
      (slice.nodes.foldl addChain collector) :=
    foldl_asks (fun next node _ _ _ => add_chain_asks next node) rfl rfl
  rw [List.flatMap_eq_nil_iff.2 fun _ _ => rfl] at folded
  exact folded

theorem take_asks (collector : Collector) (intake : Intake) :
    Asks { collector with userTypes := collector.typesDuring intake } (collector.questions intake)
      (collector.take intake) := by
  cases intake with
  | usages slice => exact add_usages_asks collector slice
  | reachables slice => exact add_reachables_asks collector slice
  | semantics components slice => exact asks_nothing rfl rfl
  | dataFlow slice => exact add_data_flow_asks collector slice

theorem take_language (collector : Collector) (intake : Intake) :
    (collector.take intake).language = collector.language := (take_asks collector intake).language

theorem take_all_language (collector : Collector) (intakes : List Intake) :
    (collector.takeAll intakes).language = collector.language := by
  induction intakes generalizing collector with
  | nil => rfl
  | cons intake rest ih => exact (ih (collector.take intake)).trans (take_language collector intake)

/-- What a run of slices leaves in the resolver is what its questions leave there. -/
theorem take_all_resolver (collector : Collector) (intakes : List Intake) :
    (collector.takeAll intakes).resolver =
      (collector.resolver.resolveAll ((collector.handed intakes).map Prod.snd)).2 := by
  induction intakes generalizing collector with
  | nil => rfl
  | cons intake rest ih =>
      have first := (take_asks collector intake).resolver
      have later := ih (collector.take intake)
      rw [first] at later
      unfold takeAll at later ⊢
      simp only [handed, List.foldl_cons, List.map_append, List.map_map, Function.comp_def,
        List.map_id', Resolver.resolve_all_append]
      exact later

theorem mem_handed {collector : Collector} {intakes : List Intake} {types : TextSet}
    {symbol : String} : (types, symbol) ∈ collector.handed intakes ↔
      ∃ before intake after, intakes = before ++ intake :: after ∧
        types = (collector.takeAll before).typesDuring intake ∧
        symbol ∈ (collector.takeAll before).questions intake := by
  induction intakes generalizing collector with
  | nil => simp [handed]
  | cons intake rest ih =>
      rw [handed, List.mem_append, ih, List.mem_map]
      constructor
      · intro either
        rcases either with ⟨question, member, same⟩ | ⟨before, later, after, rfl, sameTypes, member⟩
        · cases same
          exact ⟨[], intake, rest, rfl, rfl, member⟩
        · exact ⟨intake :: before, later, after, rfl, sameTypes, member⟩
      · intro fact
        rcases fact with ⟨before, later, after, split, sameTypes, member⟩
        cases before with
        | nil =>
            obtain ⟨rfl, rfl⟩ := List.cons.inj split
            exact Or.inl ⟨symbol, member, by rw [sameTypes]; rfl⟩
        | cons first before =>
            obtain ⟨rfl, rfl⟩ := List.cons.inj split
            exact Or.inr ⟨before, later, after, rfl, sameTypes, member⟩

/-! ### Questions for types of the analysed code -/

theorem not_mem_of_not_filterable {language : Language} {types : TextSet} {symbol : String}
    (passes : Symbol.isFilterable language types symbol = false) : symbol ∉ types := by
  intro member
  rw [Symbol.is_filterable_of_mem member] at passes
  cases passes

theorem usage_question_is_no_user_type {collector : Collector} {slice : UsageSlice}
    {symbol : String} (member : symbol ∈ collector.questions (.usages slice)) :
    symbol ∉ collector.typesDuring (.usages slice) := by
  obtain ⟨object, _, asked⟩ := List.mem_flatMap.1 member
  have passes := (List.mem_filter.1 asked).2
  exact not_mem_of_not_filterable (Bool.not_eq_true' _ ▸ passes)

theorem mem_node_requests {language : Language} {types : TextSet} {node : DataFlowNode}
    {symbol : String} : symbol ∈ nodeRequests language types node ↔
      ∃ type, node.typeFor language = some type ∧
        Symbol.isFilterable language types type = false ∧
        (symbol = type ∨ Symbol.className? language type = some symbol) := by
  unfold nodeRequests
  cases named : node.typeFor language with
  | none => simp
  | some type =>
      cases filtered : Symbol.isFilterable language types type with
      | true => simp [filtered]
      | false =>
          simp only [Bool.false_eq_true, if_false, List.mem_cons, Option.mem_toList,
            Option.some.injEq, exists_eq_left', filtered, true_and, Option.filter_eq_some_iff]
          constructor
          · intro either
            rcases either with same | ⟨reduced, _⟩
            · exact Or.inl same
            · exact Or.inr reduced
          · intro either
            rcases either with same | reduced
            · exact Or.inl same
            · by_cases same : symbol = type
              · exact Or.inl same
              · exact Or.inr ⟨reduced, by simpa using same⟩

end Collector

/-- A path of a slice leads over a node whose type is looked up, and the class of this
type has the given name. -/
def DataFlowSlice.NamesClass (slice : DataFlowSlice) (language : Language) (types : TextSet)
    (name : String) : Prop :=
  ∃ path ∈ slice.paths, ∃ node ∈ slice.along path, ∃ type,
    node.typeFor language = some type ∧ Symbol.isFilterable language types type = false ∧
      Symbol.className? language type = some name

namespace Collector

theorem user_type_question_iff {collector : Collector} {intake : Intake} {symbol : String} :
    (symbol ∈ collector.questions intake ∧ symbol ∈ collector.typesDuring intake) ↔
      ∃ slice, intake = .dataFlow slice ∧ symbol ∈ collector.userTypes ∧
        slice.NamesClass collector.language collector.userTypes symbol := by
  cases intake with
  | usages slice =>
      constructor
      · intro fact
        rcases fact with ⟨asked, known⟩
        exact absurd known (usage_question_is_no_user_type asked)
      · intro fact
        rcases fact with ⟨_, same, _⟩
        cases same
  | reachables slice => simp [questions]
  | semantics components slice => simp [questions]
  | dataFlow slice =>
      simp only [questions, typesDuring, pathQuestions, List.mem_flatMap, mem_node_requests,
        Intake.dataFlow.injEq, exists_eq_left', DataFlowSlice.NamesClass]
      constructor
      · intro fact
        rcases fact with ⟨⟨path, onSlice, node, onPath, type, named, passes, same | reduced⟩, known⟩
        · exact absurd (same ▸ known) (not_mem_of_not_filterable passes)
        · exact ⟨known, path, onSlice, node, onPath, type, named, passes, reduced⟩
      · intro fact
        rcases fact with ⟨known, path, onSlice, node, onPath, type, named, passes, reduced⟩
        exact ⟨⟨path, onSlice, node, onPath, type, named, passes, Or.inr reduced⟩, known⟩

/-- The symbols that a run of slices hands to the resolver, and which of them are types of
the analysed code at that moment: the classes of data-flow nodes whose names are such
types, and no others. -/
theorem user_type_handed_iff (language : Language) (imports : ImportTable)
    (index : Option NamespaceIndex) (detector : Option Detector) (intakes : List Intake) :
    let start := Collector.new (.new language imports index) detector
    (start.takeAll intakes).resolver =
        (start.resolver.resolveAll ((start.handed intakes).map Prod.snd)).2 ∧
      ∀ types symbol, ((types, symbol) ∈ start.handed intakes ∧ symbol ∈ types) ↔
        ∃ before slice after, intakes = before ++ .dataFlow slice :: after ∧
          types = (start.takeAll before).userTypes ∧ symbol ∈ types ∧
          slice.NamesClass language types symbol := by
  intro start
  refine ⟨take_all_resolver start intakes, fun types symbol => ?_⟩
  have sameLanguage (before : List Intake) : (start.takeAll before).language = language :=
    take_all_language start before
  rw [mem_handed]
  constructor
  · intro fact
    rcases fact with ⟨⟨before, intake, after, split, rfl, asked⟩, known⟩
    obtain ⟨slice, rfl, member, names⟩ := user_type_question_iff.1 ⟨asked, known⟩
    rw [sameLanguage] at names
    exact ⟨before, slice, after, split, rfl, member, names⟩
  · intro fact
    rcases fact with ⟨before, slice, after, split, rfl, member, names⟩
    rw [← sameLanguage before] at names
    obtain ⟨asked, known⟩ := user_type_question_iff.2 ⟨slice, rfl, member, names⟩
    exact ⟨⟨before, .dataFlow slice, after, split, rfl, asked⟩, known⟩

/-- A usage slice that defines a class, and a path over a node whose type is an inner class
of it. -/
def innerClassRun : List Intake :=
  [.usages ⟨[], [⟨"com.example.App", [], [], none, none⟩]⟩,
    .dataFlow {
      nodes := [{
        id := .number 1, label := none, name := none, fullName := none
        typeName := some "com.example.App$Inner", code := none, parentPackage := none
        parentClass := none, parentMethod := some "run", parentFile := some "src/App.java"
        line := some 7, column := none }]
      paths := [[.number 1]] }]

theorem outer_class_of_inner_class_handed :
    ¬∀ (language : Language) (imports : ImportTable) (index : Option NamespaceIndex)
      (detector : Option Detector) (intakes : List Intake),
      ∀ entry ∈ (Collector.new (.new language imports index) detector).handed intakes,
        entry.2 ∉ entry.1 := by
  intro never
  have handed : (TextSet.ofList ["com.example.App"], "com.example.App") ∈
      (Collector.new (.new .java ∅ none) none).handed innerClassRun := by decide +kernel
  exact never .java ∅ none none innerClassRun _ handed (by decide)

end Collector

end BomEvidence
