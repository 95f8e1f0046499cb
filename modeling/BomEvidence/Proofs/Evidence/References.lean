import BomEvidence.Proofs.Evidence.Linkage

/-!
The references of algorithms that a collector holds. Whatever a detector answers, and however its
answers change from chain to chain, each reference that a package provides stands for an algorithm
that is known, and each algorithm is known by its own reference.
-/

namespace BomEvidence

/-- Each algorithm stands under its own reference. -/
def Algorithm.Own (known : TextMap Algorithm) : Prop :=
  ∀ reference algorithm, known.get? reference = some algorithm → algorithm.reference = reference

/-- No reference is without its algorithm, and no algorithm stands under another reference. -/
structure EvidenceMaps.Grounded (maps : EvidenceMaps) : Prop where
  provided : ∀ purl reference, maps.providers.Relates purl reference →
    maps.algorithms.contains reference = true
  own : Algorithm.Own maps.algorithms

namespace EvidenceMaps

theorem Grounded.empty : (∅ : EvidenceMaps).Grounded :=
  ⟨fun purl reference provided => absurd provided (TextMap.not_relates_emptyset purl reference),
    fun _ _ found => nomatch found⟩

def links (maps : EvidenceMaps) : TextMap TextSet × TextMap Algorithm :=
  (maps.providers, maps.algorithms)

theorem Grounded.congr {maps other : EvidenceMaps} (grounded : maps.Grounded)
    (same : other.links = maps.links) : other.Grounded := by
  obtain ⟨providers, algorithms⟩ := Prod.mk.inj same
  constructor
  · rw [providers, algorithms]
    exact grounded.provided
  · rw [algorithms]
    exact grounded.own

end EvidenceMaps

namespace Collector

/-! ### One chain -/

theorem link_algorithm_algorithms (providers : TextSet) (maps : EvidenceMaps)
    (algorithm : Algorithm) : (linkAlgorithm providers maps algorithm).algorithms =
      maps.algorithms.insertNew algorithm.reference algorithm := by
  have kept : (providers.toList.foldl (fun maps purl => maps.addProvided [algorithm.reference] purl)
      maps).algorithms = maps.algorithms := foldl_keeps EvidenceMaps.algorithms (by intros; rfl) maps
  unfold linkAlgorithm EvidenceMaps.addAlgorithm
  dsimp only
  rw [kept]

theorem add_chain_algorithms (collector : Collector) (node : ReachableNode) :
    (collector.addChain node).maps.algorithms =
      (findings (detect collector.detector node)).foldl
        (fun known algorithm => known.insertNew algorithm.reference algorithm)
        collector.maps.algorithms := by
  obtain ⟨_, added⟩ := add_chain_eq collector node
  have stacked (maps : EvidenceMaps) : ((reachedBy node).toList.foldl
      (fun maps purl => maps.addStack (stackOf node) purl) maps).algorithms = maps.algorithms :=
    foldl_keeps EvidenceMaps.algorithms (by intros; rfl) maps
  have known (maps : EvidenceMaps) : ((providersOf node).toList.foldl
      (fun maps purl => maps.addProvided [] purl) maps).algorithms = maps.algorithms :=
    foldl_keeps EvidenceMaps.algorithms (by intros; rfl) maps
  have linked (maps : EvidenceMaps) (algorithms : List Algorithm) :
      (algorithms.foldl (linkAlgorithm (providersOf node)) maps).algorithms =
        algorithms.foldl (fun known algorithm => known.insertNew algorithm.reference algorithm)
          maps.algorithms :=
    (List.foldl_hom EvidenceMaps.algorithms fun maps algorithm =>
      (link_algorithm_algorithms (providersOf node) maps algorithm).symm).symm
  rw [added]
  dsimp only
  rw [linked, known, stacked]

theorem own_insert_new {known : TextMap Algorithm} (own : Algorithm.Own known)
    (added : Algorithm) : Algorithm.Own (known.insertNew added.reference added) := by
  intro reference algorithm found
  unfold TextMap.insertNew at found
  rw [TextMap.get_alter] at found
  split at found
  · rename_i same
    cases held : known.get? added.reference with
    | none =>
        rw [held] at found
        cases found
        exact same.symm
    | some first =>
        rw [held] at found
        cases found
        exact (own added.reference first held).trans same.symm
  · exact own reference algorithm found

theorem add_chain_grounded {collector : Collector} (grounded : collector.maps.Grounded)
    (node : ReachableNode) : (collector.addChain node).maps.Grounded := by
  constructor
  · intro purl reference provided
    rw [algorithm_add_chain]
    rcases (link_add_chain collector node purl reference).1 provided with before | ⟨_, found⟩
    · exact Or.inl (grounded.provided purl reference before)
    · exact Or.inr found
  · rw [add_chain_algorithms]
    refine List.foldlRecOn (motive := Algorithm.Own) _ _ grounded.own ?_
    intro known own added _
    exact own_insert_new own added

/-! ### Detectors that change -/

/-- A slice that is taken in, and how the detector answers at the chain of each position if it is
a reachables slice. -/
structure Serving where
  intake : Intake
  answer : Nat → String → Except Failure (List Algorithm)

def answering (collector : Collector) (answer : String → Except Failure (List Algorithm)) :
    Collector :=
  { collector with
    detector := collector.detector.map fun detector => { detector with detect := answer } }

def addChainAnswered (answer : Nat → String → Except Failure (List Algorithm))
    (collector : Collector) (chain : ReachableNode × Nat) : Collector :=
  { (collector.answering (answer chain.2)).addChain chain.1 with detector := collector.detector }

/-- Takes in a slice while the detector answers at each chain in a way of its own. -/
def serve (collector : Collector) (serving : Serving) : Collector :=
  match serving.intake with
  | .reachables slice => slice.nodes.zipIdx.foldl (addChainAnswered serving.answer) collector
  | intake => collector.take intake

/-- A collector after slices, whose detector may answer differently each time it is asked. -/
def serveAll (collector : Collector) (servings : List Serving) : Collector :=
  servings.foldl serve collector

theorem add_chain_answered_own {collector : Collector}
    {answer : Nat → String → Except Failure (List Algorithm)}
    (own : ∀ detector, collector.detector = some detector →
      ∀ position, answer position = detector.detect) (chain : ReachableNode × Nat) :
    collector.addChainAnswered answer chain = collector.addChain chain.1 := by
  have unchanged : collector.answering (answer chain.2) = collector := by
    unfold answering
    cases held : collector.detector with
    | none => rw [Option.map_none, ← held]
    | some detector => rw [Option.map_some, own detector held chain.2, ← held]
  unfold addChainAnswered
  rw [unchanged, ← add_chain_detector collector chain.1]

/-- A detector that always answers as it does is taken as it is. -/
theorem serve_own {collector : Collector} {serving : Serving}
    (own : ∀ detector, collector.detector = some detector →
      ∀ position, serving.answer position = detector.detect) :
    collector.serve serving = collector.take serving.intake := by
  unfold serve
  split
  · rename_i slice isReachables
    rw [isReachables]
    -- The detector is put back after each chain, so that every chain meets the same one.
    have chains : ∀ (nodes : List ReachableNode) (start : Nat) (next : Collector),
        next.detector = collector.detector →
        (nodes.zipIdx start).foldl (addChainAnswered serving.answer) next =
          nodes.foldl addChain next := by
      intro nodes
      induction nodes with
      | nil => intro start next _; rfl
      | cons node rest ih =>
          intro start next same
          rw [List.zipIdx_cons, List.foldl_cons, List.foldl_cons,
            add_chain_answered_own fun detector held => own detector (same ▸ held)]
          exact ih (start + 1) _ ((add_chain_detector next node).trans same)
    exact chains slice.nodes 0 collector rfl
  · rfl

/-! ### Runs of slices -/

theorem serve_grounded {collector : Collector} (grounded : collector.maps.Grounded)
    (serving : Serving) : (collector.serve serving).maps.Grounded := by
  unfold serve
  cases serving.intake with
  | reachables slice =>
      refine List.foldlRecOn (motive := fun next : Collector => next.maps.Grounded) _ _ grounded ?_
      intro next kept chain _
      have start : (next.answering (serving.answer chain.2)).maps.Grounded := kept
      exact add_chain_grounded start chain.1
  | usages slice =>
      have kept : (collector.addUsages slice).maps.links = collector.maps.links :=
        add_usages_keeps (fun _ _ _ => rfl) (fun _ _ => rfl) collector slice
      exact grounded.congr kept
  | semantics components slice =>
      have kept : (collector.addSemantics components slice).maps.links = collector.maps.links :=
        add_semantics_keeps (fun _ _ _ => rfl) collector components slice
      exact grounded.congr kept
  | dataFlow slice =>
      have kept : (collector.addDataFlow slice).maps.links = collector.maps.links :=
        add_data_flow_keeps (fun _ _ _ => rfl) collector slice
      exact grounded.congr kept

/-- The references of a collector stay grounded in any run of slices. -/
theorem serve_all_grounded {collector : Collector} (grounded : collector.maps.Grounded)
    (servings : List Serving) : (collector.serveAll servings).maps.Grounded := by
  induction servings generalizing collector with
  | nil => exact grounded
  | cons serving rest ih => exact ih (serve_grounded grounded serving)

end Collector

end BomEvidence
