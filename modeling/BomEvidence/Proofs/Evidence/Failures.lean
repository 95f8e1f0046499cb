import BomEvidence.Proofs.Evidence.Stacks
import BomEvidence.Proofs.Resolution.Answers

/-!
What a collector makes of an index or a detector that fails. A failure tells as much as an answer
without any finding: two collectors whose sources find the same collect the same, whichever of
their questions fail.
-/

namespace BomEvidence

namespace Resolver

/-- Two resolvers whose indexes find the same, and which know the same already. -/
structure Concurs (first second : Resolver) : Prop where
  language : first.language = second.language
  imports : first.imports = second.imports
  index : (first.index.map fun index => findings ∘ index.find) =
    second.index.map fun index => findings ∘ index.find
  cache : first.cache = second.cache
  queries : first.queries = second.queries

variable {first second : Resolver}

theorem kept_look_up (resolver : Resolver) (symbol : String) :
    (resolver.lookUp symbol).1.kept =
      if !resolver.imports.isEmpty then
        .ofPurls (resolver.imports.purlsFor resolver.language.traits.aliasMatch symbol)
      else
        match resolver.index.map fun index => findings ∘ index.find with
        | none => .unresolved
        | some find => .ofPurls (.ofList (find symbol)) := by
  have keeps : ∀ purls, (Resolution.ofPurls purls).kept = .ofPurls purls := by
    intro purls
    unfold Resolution.ofPurls
    split <;> rfl
  unfold lookUp
  split
  · exact keeps _
  · cases resolver.index with
    | none => rfl
    | some index =>
        dsimp only [Option.map_some, Function.comp_apply]
        cases index.find symbol with
        | ok purls => exact keeps _
        | error failure => rfl

theorem Concurs.kept_look_up (same : first.Concurs second) (symbol : String) :
    (first.lookUp symbol).1.kept = (second.lookUp symbol).1.kept := by
  rw [Resolver.kept_look_up, Resolver.kept_look_up, same.imports, same.language, same.index]

theorem Concurs.asks_index (same : first.Concurs second) : first.asksIndex = second.asksIndex := by
  have present := congrArg Option.isSome same.index
  rw [Option.isSome_map, Option.isSome_map] at present
  unfold asksIndex
  rw [same.imports, present]

theorem Concurs.resolve (same : first.Concurs second) (symbol : String) :
    first.purlsOf symbol = second.purlsOf symbol ∧
      (first.resolve symbol).2.Concurs (second.resolve symbol).2 := by
  have answers := same.kept_look_up symbol
  cases held : first.cache.known.get? symbol with
  | some resolution =>
      have alsoHeld : second.cache.known.get? symbol = some resolution := by
        rw [← same.cache, held]
      rw [purls_of_eq, purls_of_eq, held, alsoHeld, resolve_of_known held,
        resolve_of_known alsoHeld]
      refine ⟨rfl, same.language, same.imports, same.index, ?_, same.queries⟩
      dsimp only
      rw [same.cache]
  | none =>
      have alsoNone : second.cache.known.get? symbol = none := by rw [← same.cache, held]
      have sources := (look_up_sources first.missing symbol).trans (missing_sources first)
      have otherSources := (look_up_sources second.missing symbol).trans (missing_sources second)
      have asks : first.missing.asksIndex = second.missing.asksIndex := same.asks_index
      rw [purls_of_eq, purls_of_eq, held, alsoNone, resolve_of_unknown held,
        resolve_of_unknown alsoNone]
      -- The answers may differ by a failure, which is kept as the absence of packages.
      refine ⟨?_, ?_, ?_, ?_, ?_, ?_⟩
      · rw [Option.getD_none, Option.getD_none, ← Resolution.purls_kept, answers,
          Resolution.purls_kept]
      · exact (sources.language.trans same.language).trans otherSources.language.symm
      · exact (sources.imports.trans same.imports).trans otherSources.imports.symm
      · dsimp only
        rw [sources.index, otherSources.index, same.index]
      · unfold missing ResolutionCache.insert
        dsimp only
        rw [answers, same.cache]
      · dsimp only
        rw [look_up_queries, look_up_queries, asks]
        exact congrArg (· + _) same.queries

theorem Concurs.resolve_all (same : first.Concurs second) (symbols : List String) :
    (first.resolveAll symbols).1 = (second.resolveAll symbols).1 ∧
      (first.resolveAll symbols).2.Concurs (second.resolveAll symbols).2 := by
  induction symbols generalizing first second with
  | nil => exact ⟨rfl, same⟩
  | cons symbol rest ih =>
      obtain ⟨purls, learnt⟩ := same.resolve symbol
      obtain ⟨others, learntAll⟩ := ih learnt
      rw [resolve_all_cons, resolve_all_cons, purls, others]
      exact ⟨rfl, learntAll⟩

end Resolver

namespace Collector

structure Concurs (first second : Collector) : Prop where
  resolver : first.resolver.Concurs second.resolver
  detector : (first.detector.map fun detector => findings ∘ detector.detect) =
    second.detector.map fun detector => findings ∘ detector.detect
  userTypes : first.userTypes = second.userTypes
  maps : first.maps = second.maps

variable {first second : Collector}

theorem Concurs.language (same : first.Concurs second) : first.language = second.language :=
  same.resolver.language

theorem Concurs.add_locations (same : first.Concurs second) (places : TextMap TextSet) :
    (first.addLocations places).Concurs (second.addLocations places) := by
  refine ⟨same.resolver, same.detector, same.userTypes, ?_⟩
  unfold addLocations
  rw [same.maps]

/-! ### Usages -/

theorem Concurs.add_symbol (same : first.Concurs second) (place : String → Option String)
    (symbol : String) : (first.addSymbol place symbol).Concurs (second.addSymbol place symbol) := by
  obtain ⟨purls, learnt⟩ := same.resolver.resolve symbol
  refine ⟨learnt, same.detector, same.userTypes, ?_⟩
  change (first.resolver.purlsOf symbol).toList.foldl _ first.maps =
    (second.resolver.purlsOf symbol).toList.foldl _ second.maps
  rw [purls, same.maps]

theorem Concurs.add_object (same : first.Concurs second) (object : ObjectSlice) :
    (first.addObject object).Concurs (second.addObject object) := by
  let mentions := Mention.ofObject second.language second.userTypes object
  let symbols := requests second.language second.userTypes mentions
  let place := placeIn (object.file.getD "") mentions
  have located : (symbols.foldl (addSymbol place) first).Concurs
      (symbols.foldl (addSymbol place) second) :=
    List.foldl_rel same fun symbol _ _ _ concurs => concurs.add_symbol place symbol
  unfold addObject
  rw [same.language, same.userTypes]
  refine ⟨located.resolver, located.detector, located.userTypes, ?_⟩
  dsimp only
  rw [located.maps]

theorem Concurs.add_usages (same : first.Concurs second) (slice : UsageSlice) :
    (first.addUsages slice).Concurs (second.addUsages slice) := by
  have knowing : Concurs { first with userTypes := first.userTypes ∪ slice.typeNames }
      { second with userTypes := second.userTypes ∪ slice.typeNames } :=
    ⟨same.resolver, same.detector, congrArg (· ∪ slice.typeNames) same.userTypes, same.maps⟩
  have added := List.foldl_rel (l := slice.objects.filter ObjectSlice.hasSourceFile) knowing
    fun object _ _ _ concurs => concurs.add_object object
  unfold addUsages
  rw [same.language]
  refine ⟨added.resolver, added.detector, added.userTypes, ?_⟩
  dsimp only
  rw [added.maps]

/-! ### Semantics and data flow -/

theorem Concurs.add_semantics (same : first.Concurs second) (components : List Bom.Component)
    (slice : SemanticsSlice) :
    (first.addSemantics components slice).Concurs (second.addSemantics components slice) := by
  refine ⟨same.resolver, same.detector, same.userTypes, ?_⟩
  unfold addSemantics
  rw [same.maps]

theorem Concurs.add_path (same : first.Concurs second) (slice : DataFlowSlice)
    (path : List NodeId) : (first.addPath slice path).Concurs (second.addPath slice path) := by
  obtain ⟨purls, learnt⟩ := same.resolver.resolve_all
    ((slice.along path).flatMap (nodeRequests second.language second.userTypes))
  unfold addPath
  rw [same.language, same.userTypes]
  refine ⟨learnt, same.detector, rfl, ?_⟩
  dsimp only
  rw [purls, same.maps]

theorem Concurs.add_data_flow (same : first.Concurs second) (slice : DataFlowSlice) :
    (first.addDataFlow slice).Concurs (second.addDataFlow slice) :=
  List.foldl_rel same fun path _ _ _ concurs => concurs.add_path slice path

/-! ### Reachables -/

theorem findings_detect (detector : Option Detector) (node : ReachableNode) :
    findings (detect detector node) =
      match detector.map fun detector => findings ∘ detector.detect with
      | none => []
      | some find => if cryptoCode node = "" then [] else find (cryptoCode node) := by
  cases detector with
  | none => rfl
  | some detector =>
      unfold detect
      dsimp only [Option.map_some]
      split <;> rfl

theorem Concurs.add_chain (same : first.Concurs second) (node : ReachableNode) :
    (first.addChain node).Concurs (second.addChain node) := by
  obtain ⟨_, added⟩ := add_chain_eq first node
  obtain ⟨_, otherAdded⟩ := add_chain_eq second node
  have algorithms : findings (detect first.detector node) =
      findings (detect second.detector node) := by
    rw [findings_detect, findings_detect, same.detector]
  rw [added, otherAdded, algorithms, same.maps]
  exact ⟨same.resolver, same.detector, same.userTypes, rfl⟩

theorem Concurs.add_reachables (same : first.Concurs second) (slice : ReachablesSlice) :
    (first.addReachables slice).Concurs (second.addReachables slice) :=
  List.foldl_rel same fun node _ _ _ concurs => concurs.add_chain node

end Collector

end BomEvidence
