import BomEvidence.Proofs.Evidence.Stacks
import BomEvidence.Proofs.Resolution.Answers

/-!
Collectors that work with different indexes. What a collector becomes is decided by the answers to
the symbols that it hands to its resolver: an index that answers these as another one does can
stand in its place.
-/

namespace BomEvidence

namespace Resolver

/-- Two resolvers that differ in their indexes at most, and these answer some symbols alike. -/
structure Agrees (symbols : Set String) (first second : Resolver) : Prop where
  index : Option.Rel (fun index other => ∀ symbol ∈ symbols, index.find symbol = other.find symbol)
    first.index second.index
  language : first.language = second.language
  imports : first.imports = second.imports
  cache : first.cache = second.cache
  queries : first.queries = second.queries
  tally : first.tally = second.tally

variable {symbols : Set String} {first second : Resolver}

theorem Agrees.missing (agrees : first.Agrees symbols second) :
    first.missing.Agrees symbols second.missing :=
  ⟨agrees.index, agrees.language, agrees.imports,
    congrArg (fun cache => { cache with misses := cache.misses + 1 }) agrees.cache, agrees.queries,
    agrees.tally⟩

theorem Agrees.look_up (agrees : first.Agrees symbols second) {symbol : String}
    (asked : symbol ∈ symbols) : (first.lookUp symbol).1 = (second.lookUp symbol).1 ∧
      (first.lookUp symbol).2.Agrees symbols (second.lookUp symbol).2 := by
  obtain ⟨language, imports, index, cache, queries, tally⟩ := first
  obtain ⟨_, _, other, _, _, _⟩ := second
  obtain ⟨indexes, rfl, rfl, rfl, rfl, rfl⟩ := agrees
  unfold lookUp
  dsimp only at indexes ⊢
  cases imports.isEmpty with
  | false => exact ⟨rfl, indexes, rfl, rfl, rfl, rfl, rfl⟩
  | true =>
      cases indexes with
      | none => exact ⟨rfl, .none, rfl, rfl, rfl, rfl, rfl⟩
      | @some own others answers =>
          dsimp only
          rw [answers symbol asked]
          cases others.find symbol <;> exact ⟨rfl, .some answers, rfl, rfl, rfl, rfl, rfl⟩

theorem Agrees.resolve (agrees : first.Agrees symbols second) {symbol : String}
    (asked : symbol ∈ symbols) : (first.resolve symbol).1 = (second.resolve symbol).1 ∧
      (first.resolve symbol).2.Agrees symbols (second.resolve symbol).2 := by
  cases held : first.cache.known.get? symbol with
  | some resolution =>
      have alsoHeld : second.cache.known.get? symbol = some resolution := by
        rw [← agrees.cache, held]
      rw [resolve_of_known held, resolve_of_known alsoHeld]
      refine ⟨rfl, agrees.index, agrees.language, agrees.imports, ?_, agrees.queries, ?_⟩
      · exact congrArg (fun cache => { cache with hits := cache.hits + 1 }) agrees.cache
      · exact congrArg (·.increment .cacheHit) agrees.tally
  | none =>
      have alsoNone : second.cache.known.get? symbol = none := by rw [← agrees.cache, held]
      obtain ⟨answer, _⟩ := agrees.look_up asked
      obtain ⟨_, learnt⟩ := agrees.missing.look_up asked
      rw [resolve_of_unknown held, resolve_of_unknown alsoNone]
      refine ⟨answer, learnt.index, learnt.language, learnt.imports, ?_, learnt.queries,
        learnt.tally⟩
      dsimp only
      rw [agrees.missing.cache, answer]

theorem Agrees.resolve_all (agrees : first.Agrees symbols second) {asked : List String}
    (among : ∀ symbol ∈ asked, symbol ∈ symbols) :
    (first.resolveAll asked).1 = (second.resolveAll asked).1 ∧
      (first.resolveAll asked).2.Agrees symbols (second.resolveAll asked).2 := by
  induction asked generalizing first second with
  | nil => exact ⟨rfl, agrees⟩
  | cons symbol rest ih =>
      obtain ⟨answer, learnt⟩ := agrees.resolve (among symbol List.mem_cons_self)
      obtain ⟨others, learntAll⟩ :=
        ih learnt fun other member => among other (List.mem_cons_of_mem _ member)
      rw [resolve_all_cons, resolve_all_cons, others]
      exact ⟨congrArg (fun resolution => resolution.purls ∪ _) answer, learntAll⟩

end Resolver

namespace Collector

structure Agrees (symbols : Set String) (first second : Collector) : Prop where
  resolver : first.resolver.Agrees symbols second.resolver
  detector : first.detector = second.detector
  userTypes : first.userTypes = second.userTypes
  maps : first.maps = second.maps
  detections : first.detections = second.detections

variable {symbols : Set String} {first second : Collector}

theorem Agrees.language (agrees : first.Agrees symbols second) : first.language = second.language :=
  agrees.resolver.language

theorem Agrees.foldl {Item : Type} {step : Collector → Item → Collector} {items : List Item}
    {language : Language} {types : TextSet} (agrees : first.Agrees symbols second)
    (sameLanguage : first.language = language) (sameTypes : first.userTypes = types)
    (asks : ∀ (next : Collector) (item : Item), ∃ asked, next.Asks asked (step next item))
    (keeps : ∀ item ∈ items, ∀ {first second : Collector}, first.language = language →
      first.userTypes = types → first.Agrees symbols second →
      (step first item).Agrees symbols (step second item)) :
    (items.foldl step first).Agrees symbols (items.foldl step second) := by
  induction items generalizing first second with
  | nil => exact agrees
  | cons item rest ih =>
      obtain ⟨_, asksNow⟩ := asks first item
      exact ih (keeps item List.mem_cons_self sameLanguage sameTypes agrees)
        (asksNow.language.trans sameLanguage) (asksNow.userTypes.trans sameTypes)
        fun other member => keeps other (List.mem_cons_of_mem item member)

/-! ### Usages -/

theorem Agrees.add_symbol (agrees : first.Agrees symbols second) (place : String → Option String)
    {symbol : String} (asked : symbol ∈ symbols) :
    (first.addSymbol place symbol).Agrees symbols (second.addSymbol place symbol) := by
  obtain ⟨answer, learnt⟩ := agrees.resolver.resolve asked
  refine ⟨learnt, agrees.detector, agrees.userTypes, ?_, agrees.detections⟩
  unfold addSymbol
  dsimp only
  rw [answer, agrees.maps]

theorem Agrees.add_object (agrees : first.Agrees symbols second) {object : ObjectSlice}
    (among : ∀ symbol ∈ objectQuestions first.language first.userTypes object, symbol ∈ symbols) :
    (first.addObject object).Agrees symbols (second.addObject object) := by
  let mentions := Mention.ofObject first.language first.userTypes object
  let asked := requests first.language first.userTypes mentions
  let place := placeIn (object.file.getD "") mentions
  have located : (asked.foldl (addSymbol place) first).Agrees symbols
      (asked.foldl (addSymbol place) second) :=
    List.foldl_rel agrees fun symbol member _ _ next => next.add_symbol place (among symbol member)
  unfold addObject
  rw [← agrees.language, ← agrees.userTypes]
  refine ⟨located.resolver, located.detector, located.userTypes, ?_, located.detections⟩
  dsimp only
  rw [located.maps]

theorem Agrees.add_usages (agrees : first.Agrees symbols second) {slice : UsageSlice}
    (among : ∀ symbol ∈ first.questions (.usages slice), symbol ∈ symbols) :
    (first.addUsages slice).Agrees symbols (second.addUsages slice) := by
  have knowing : Agrees symbols { first with userTypes := first.userTypes ∪ slice.typeNames }
      { second with userTypes := second.userTypes ∪ slice.typeNames } :=
    ⟨agrees.resolver, agrees.detector, congrArg (· ∪ slice.typeNames) agrees.userTypes, agrees.maps,
      agrees.detections⟩
  have object : ∀ object ∈ slice.objects.filter ObjectSlice.hasSourceFile,
      ∀ {next other : Collector}, next.language = first.language →
      next.userTypes = first.userTypes ∪ slice.typeNames → next.Agrees symbols other →
      (next.addObject object).Agrees symbols (other.addObject object) := by
    intro object member next other language userTypes same
    apply same.add_object
    rw [language, userTypes]
    intro symbol asked
    exact among symbol (List.mem_flatMap.2 ⟨object, member, asked⟩)
  have same := knowing.foldl rfl rfl (fun next object => ⟨_, add_object_asks next object⟩) object
  unfold addUsages
  rw [← agrees.language]
  refine ⟨same.resolver, same.detector, same.userTypes, ?_, same.detections⟩
  dsimp only
  rw [same.maps]

/-! ### Semantics and data flow -/

theorem Agrees.add_semantics (agrees : first.Agrees symbols second)
    (components : List Bom.Component) (slice : SemanticsSlice) :
    (first.addSemantics components slice).Agrees symbols
      (second.addSemantics components slice) := by
  refine ⟨agrees.resolver, agrees.detector, agrees.userTypes, ?_, agrees.detections⟩
  unfold addSemantics
  rw [agrees.maps]

theorem Agrees.add_path (agrees : first.Agrees symbols second) {slice : DataFlowSlice}
    {path : List NodeId}
    (among : ∀ symbol ∈ pathQuestions first.language first.userTypes slice path, symbol ∈ symbols) :
    (first.addPath slice path).Agrees symbols (second.addPath slice path) := by
  obtain ⟨purls, learnt⟩ := agrees.resolver.resolve_all among
  have questions : pathQuestions first.language first.userTypes slice path =
      (slice.along path).flatMap (nodeRequests second.language second.userTypes) := by
    rw [agrees.language, agrees.userTypes]
    rfl
  rw [questions] at purls learnt
  unfold addPath
  rw [agrees.language, agrees.userTypes]
  refine ⟨learnt, agrees.detector, rfl, ?_, agrees.detections⟩
  dsimp only
  rw [purls, agrees.maps]

theorem Agrees.add_data_flow (agrees : first.Agrees symbols second) {slice : DataFlowSlice}
    (among : ∀ symbol ∈ first.questions (.dataFlow slice), symbol ∈ symbols) :
    (first.addDataFlow slice).Agrees symbols (second.addDataFlow slice) := by
  have path : ∀ path ∈ slice.paths, ∀ {next other : Collector}, next.language = first.language →
      next.userTypes = first.userTypes → next.Agrees symbols other →
      (next.addPath slice path).Agrees symbols (other.addPath slice path) := by
    intro path member next other language userTypes same
    apply same.add_path
    rw [language, userTypes]
    intro symbol asked
    exact among symbol (List.mem_flatMap.2 ⟨path, member, asked⟩)
  exact agrees.foldl rfl rfl (fun next path => ⟨_, add_path_asks slice next path⟩) path

/-! ### Reachables -/

theorem Agrees.add_chain (agrees : first.Agrees symbols second) (node : ReachableNode) :
    (first.addChain node).Agrees symbols (second.addChain node) := by
  unfold addChain
  rw [agrees.detector, agrees.maps, agrees.detections]
  dsimp only
  split <;> exact ⟨agrees.resolver, rfl, agrees.userTypes, rfl, rfl⟩

theorem Agrees.add_reachables (agrees : first.Agrees symbols second) (slice : ReachablesSlice) :
    (first.addReachables slice).Agrees symbols (second.addReachables slice) :=
  List.foldl_rel agrees fun node _ _ _ next => next.add_chain node

/-! ### Runs of slices -/

theorem Agrees.take (agrees : first.Agrees symbols second) {intake : Intake}
    (among : ∀ symbol ∈ first.questions intake, symbol ∈ symbols) :
    (first.take intake).Agrees symbols (second.take intake) := by
  cases intake with
  | usages slice => exact agrees.add_usages among
  | reachables slice => exact agrees.add_reachables slice
  | semantics components slice => exact agrees.add_semantics components slice
  | dataFlow slice => exact agrees.add_data_flow among

/-- An index that answers all symbols which a run of slices hands over as another one does can
stand in its place. -/
theorem Agrees.take_all (agrees : first.Agrees symbols second) {intakes : List Intake}
    (among : ∀ entry ∈ first.handed intakes, entry.2 ∈ symbols) :
    (first.takeAll intakes).Agrees symbols (second.takeAll intakes) := by
  induction intakes generalizing first second with
  | nil => exact agrees
  | cons intake rest ih =>
      have next := agrees.take fun symbol asked =>
        among (first.typesDuring intake, symbol)
          (List.mem_append_left _ (List.mem_map_of_mem asked))
      exact ih next fun entry member => among entry (List.mem_append_right _ member)

end Collector

end BomEvidence
