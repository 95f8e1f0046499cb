import BomEvidence.Proofs.Evidence.Places

/-!
The call stacks that slices tell of a package, in the order in which they are told. A reachables
slice tells one for each of its chains that reaches the package, and a data-flow slice one for
each of its paths on which a node leads to it. Other slices leave the call stacks as they are.
-/

namespace BomEvidence

/-- A fold whose every step appends to a list appends what all steps append. The invariant is what
makes the part of a step independent of the steps before it. -/
theorem foldl_appends {State Item Value : Type} {step : State → Item → State}
    {part : Item → List Value} {items : List Item} (invariant : State → Prop)
    (read : State → List Value)
    (keeps : ∀ state, ∀ item ∈ items, invariant state → invariant (step state item))
    (appends : ∀ state, ∀ item ∈ items, invariant state →
      read (step state item) = read state ++ part item)
    (state : State) (start : invariant state) :
    read (items.foldl step state) = read state ++ items.flatMap part := by
  induction items generalizing state with
  | nil => simp
  | cons item rest ih =>
      have next := keeps state item List.mem_cons_self start
      rw [List.foldl_cons, ih
        (fun later other member => keeps later other (List.mem_cons_of_mem _ member))
        (fun later other member => appends later other (List.mem_cons_of_mem _ member)) _ next,
        appends state item List.mem_cons_self start, List.flatMap_cons, List.append_assoc]

theorem flat_map_if {Item Value : Type} (keep : Item → Bool) (value : Item → Value)
    (items : List Item) : (items.flatMap fun item => if keep item then [value item] else []) =
      (items.filter keep).map value := by
  induction items with
  | nil => rfl
  | cons item rest ih =>
      rw [List.flatMap_cons, ih, List.filter_cons]
      split <;> rfl

/-- What an answer tells, where a failure tells of nothing. -/
def findings {Item : Type} : Except Failure (List Item) → List Item
  | .ok items => items
  | .error _ => []

/-! ### What slices tell -/

/-- The call stacks that a reachables slice tells of a package: the steps that stand in a file, for
each chain that names the package. -/
def ReachablesSlice.stacksOf (slice : ReachablesSlice) (purl : String) : List (List Frame) :=
  (slice.nodes.filter fun node => purl != "" && node.purls.contains purl).map fun node =>
    (node.flows.filter ReachableFlow.hasSourceFile).map ReachableFlow.frame

namespace DataFlowSlice

/-- The nodes that the names of a path stand for: of the nodes of one name the last one, where
operators do not count. -/
def nodesOn (slice : DataFlowSlice) (path : List NodeId) : List DataFlowNode :=
  path.filterMap fun id =>
    (slice.nodes.filter fun node => !node.isOperator && node.id = id).getLast?

theorem along_eq_nodes_on (slice : DataFlowSlice) (path : List NodeId) :
    slice.along path = slice.nodesOn path := by
  have named : ∀ id, slice.node? id =
      (slice.nodes.filter fun node => !node.isOperator && node.id = id).getLast? := by
    intro id
    rw [← List.head?_reverse, ← List.filter_reverse, List.head?_filter]
    rfl
  unfold along nodesOn
  congr 1
  funext id
  exact named id

end DataFlowSlice

/-- A node leads to a package: by its type, or by the class of its type. -/
def Collector.leadsTo (collector : Collector) (types : TextSet) (purl : String)
    (node : DataFlowNode) : Bool :=
  (nodeRequests collector.language types node).any fun symbol =>
    purl ∈ collector.resolver.purlsOf symbol

/-- The call stacks that a data-flow slice tells of a package: the frames along each path on which
a node leads to it. -/
def DataFlowSlice.stacksOf (slice : DataFlowSlice) (collector : Collector) (types : TextSet)
    (purl : String) : List (List Frame) :=
  (slice.paths.filter fun path => (slice.nodesOn path).any (collector.leadsTo types purl)).map
    fun path => (slice.nodesOn path).map DataFlowNode.frame

namespace EvidenceMaps

def stacksOf (maps : EvidenceMaps) (purl : String) : List (List Frame) :=
  (maps.callstacks.get? purl).getD []

theorem stacks_add_stack (maps : EvidenceMaps) (stack : List Frame) (asked purl : String) :
    (maps.addStack stack asked).stacksOf purl =
      maps.stacksOf purl ++ if asked = purl then [stack] else [] := by
  unfold stacksOf addStack
  dsimp only
  rw [TextMap.get_alter]
  by_cases same : asked = purl
  · rw [if_pos same, if_pos same.symm, same, Option.getD_some]
  · rw [if_neg same, if_neg (Ne.symm same), List.append_nil]

theorem stacks_add_to_all (maps : EvidenceMaps) (stack : List Frame) (purls : TextSet)
    (purl : String) :
    (purls.toList.foldl (fun maps asked => maps.addStack stack asked) maps).stacksOf purl =
      maps.stacksOf purl ++ if purl ∈ purls then [stack] else [] := by
  -- A set lists each of its members once, so that the package gets the stack once at most.
  have once : ∀ texts : List String, texts.Pairwise (· < ·) →
      (texts.flatMap fun asked => if asked = purl then [stack] else []) =
        if purl ∈ texts then [stack] else [] := by
    intro texts ascending
    induction texts with
    | nil => rfl
    | cons head rest ih =>
        obtain ⟨above, ascendingRest⟩ := List.pairwise_cons.1 ascending
        rw [List.flatMap_cons, ih ascendingRest]
        by_cases same : head = purl
        · have absent : purl ∉ rest := by
            intro member
            exact String.lt_irrefl purl (same ▸ above purl member)
          simp [same, absent]
        · simp [same, Ne.symm same]
  rw [foldl_appends (fun _ => True) (fun maps : EvidenceMaps => maps.stacksOf purl)
    (fun _ _ _ _ => trivial) (fun maps asked _ _ => stacks_add_stack maps stack asked purl) maps
    trivial, once purls.toList purls.ascending]
  rfl

end EvidenceMaps

namespace Collector

/-! ### Reachables -/

/-- The stack and the providers of a chain are added in any case, and its algorithms if any are
found. -/
theorem add_chain_eq (collector : Collector) (node : ReachableNode) :
    ∃ detections, collector.addChain node = { collector with
      maps := (findings (detect collector.detector node)).foldl (linkAlgorithm (providersOf node))
        ((providersOf node).toList.foldl (fun maps purl => maps.addProvided [] purl)
          ((reachedBy node).toList.foldl (fun maps purl => maps.addStack (stackOf node) purl)
            collector.maps))
      detections } := by
  unfold addChain
  dsimp only
  cases detect collector.detector node <;> exact ⟨_, rfl⟩

theorem stacks_add_chain (collector : Collector) (node : ReachableNode) (purl : String) :
    (collector.addChain node).maps.stacksOf purl =
      collector.maps.stacksOf purl ++ if purl ∈ reachedBy node then [stackOf node] else [] := by
  let stacked := (reachedBy node).toList.foldl
    (fun maps purl => maps.addStack (stackOf node) purl) collector.maps
  let known := (providersOf node).toList.foldl (fun maps purl => maps.addProvided [] purl) stacked
  have knownKeeps : known.stacksOf purl = stacked.stacksOf purl :=
    foldl_keeps (fun maps : EvidenceMaps => maps.stacksOf purl) (by intros; rfl) stacked
  have linkedKeeps : ∀ algorithms : List Algorithm,
      (algorithms.foldl (linkAlgorithm (providersOf node)) known).stacksOf purl =
        known.stacksOf purl := by
    intro algorithms
    refine foldl_keeps (fun maps : EvidenceMaps => maps.stacksOf purl) ?_ known
    intro maps algorithm _
    exact foldl_keeps (fun maps : EvidenceMaps => maps.stacksOf purl) (by intros; rfl) maps
  obtain ⟨_, added⟩ := add_chain_eq collector node
  rw [added, ← EvidenceMaps.stacks_add_to_all]
  exact (linkedKeeps _).trans knownKeeps

theorem stacks_add_reachables (collector : Collector) (slice : ReachablesSlice) (purl : String) :
    (collector.addReachables slice).maps.stacksOf purl =
      collector.maps.stacksOf purl ++ slice.stacksOf purl := by
  have reached : ∀ node, (purl != "" && node.purls.contains purl) =
      decide (purl ∈ reachedBy node) := by
    intro node
    rw [Bool.eq_iff_iff, decide_eq_true_eq]
    unfold reachedBy
    rw [TextSet.mem_of_list, List.mem_filter, Bool.and_eq_true_iff, List.contains_iff_mem, and_comm]
  unfold addReachables ReachablesSlice.stacksOf
  rw [foldl_appends (fun _ => True) (fun next : Collector => next.maps.stacksOf purl)
    (fun _ _ _ _ => trivial) (fun next node _ _ => stacks_add_chain next node purl) collector
    trivial, ← flat_map_if]
  simp only [reached, decide_eq_true_eq]
  rfl

/-! ### Data flow -/

theorem stacks_add_path (slice : DataFlowSlice) (collector : Collector) (path : List NodeId)
    (purl : String) : (collector.addPath slice path).maps.stacksOf purl =
      collector.maps.stacksOf purl ++
        if (slice.nodesOn path).any (collector.leadsTo collector.userTypes purl) then
          [(slice.nodesOn path).map DataFlowNode.frame]
        else [] := by
  rw [← DataFlowSlice.along_eq_nodes_on]
  let symbols := (slice.along path).flatMap (nodeRequests collector.language collector.userTypes)
  have led : (slice.along path).any (collector.leadsTo collector.userTypes purl) = true ↔
      purl ∈ (collector.resolver.resolveAll symbols).1 := by
    rw [Resolver.mem_resolve_all, List.any_eq_true]
    unfold leadsTo symbols
    simp only [List.any_eq_true, decide_eq_true_eq, List.mem_flatMap]
    constructor
    · intro fact
      rcases fact with ⟨node, onPath, symbol, asked, leads⟩
      exact ⟨symbol, ⟨node, onPath, asked⟩, leads⟩
    · intro fact
      rcases fact with ⟨symbol, ⟨node, onPath, asked⟩, leads⟩
      exact ⟨node, onPath, symbol, asked, leads⟩
  have added := EvidenceMaps.stacks_add_to_all collector.maps
    ((slice.along path).map DataFlowNode.frame) (collector.resolver.resolveAll symbols).1 purl
  simp only [led]
  exact added

theorem leads_to_congr {first second : Collector} (language : first.language = second.language)
    (purls : ∀ symbol, first.resolver.purlsOf symbol = second.resolver.purlsOf symbol)
    (types : TextSet) (purl : String) :
    first.leadsTo types purl = second.leadsTo types purl := by
  funext node
  unfold leadsTo
  rw [language]
  simp only [purls]

theorem stacks_add_data_flow (collector : Collector) (slice : DataFlowSlice) (purl : String) :
    (collector.addDataFlow slice).maps.stacksOf purl =
      collector.maps.stacksOf purl ++ slice.stacksOf collector collector.userTypes purl := by
  unfold addDataFlow DataFlowSlice.stacksOf
  rw [← flat_map_if]
  refine foldl_appends (Alike · collector) (fun next : Collector => next.maps.stacksOf purl) ?_ ?_
    collector ⟨rfl, rfl, fun _ => rfl⟩
  · intro next path _ alike
    exact (add_path_asks slice next path).alike.trans alike
  · intro next path _ alike
    rw [stacks_add_path, alike.userTypes, leads_to_congr alike.language alike.purls]

end Collector

end BomEvidence
