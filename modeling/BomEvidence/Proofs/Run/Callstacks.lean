import BomEvidence.Proofs.Bom.Callstack
import BomEvidence.Proofs.Evidence.Frames
import BomEvidence.Proofs.Run.Occurrences

/-!
The call stacks that a run writes. Those of the reachables slice come first and those of the
data-flow slice after them, which is judged with the types of the usage slice in mind; a component
gets the stack that is picked of those of its package. The frames of a stack show the steps of one
chain or the nodes on one path.
-/

namespace BomEvidence

namespace RunSlices

def typeNames (slices : RunSlices) : TextSet :=
  slices.usages.slice?.elim ∅ fun slice => slice.data.typeNames

end RunSlices

namespace Run

theorem collect_stacks {collector : Collector} {components : List Bom.Component}
    {slices : RunSlices} (fresh : collector.userTypes = ∅) (purl : String) :
    (collect collector components slices).maps.stacksOf purl =
      collector.maps.stacksOf purl ++
        (RunSlices.loaded? slices.reachables).elim [] (fun slice => slice.data.stacksOf purl) ++
        (RunSlices.loaded? slices.dataFlow).elim [] (fun slice =>
          slice.data.stacksOf collector slices.typeNames purl) := by
  let held (collector : Collector) : List (List Frame) := collector.maps.stacksOf purl
  let reached := addSlice Collector.addReachables (RunSlices.loaded? slices.reachables) collector
  let used := addSlice Collector.addUsages slices.usages.slice? reached
  let named := addSlice (fun collector slice => collector.addSemantics components slice)
    (RunSlices.loaded? slices.semantics) used
  have reachedAlike : reached.Alike collector := add_reached.1
  have reachedStacks : held reached = held collector ++
      (RunSlices.loaded? slices.reachables).elim [] fun slice => slice.data.stacksOf purl := by
    unfold reached addSlice
    cases RunSlices.loaded? slices.reachables with
    | none => exact (List.append_nil _).symm
    | some slice => exact Collector.stacks_add_reachables collector slice.data purl
  have usedStacks : held used = held reached :=
    add_slice_keeps held (@Collector.add_usages_keeps _ (fun maps => maps.stacksOf purl)
      (fun _ _ _ => rfl) (fun _ _ => rfl)) slices.usages.slice? reached
  -- The types of the usage slice are the only ones that are known, as no other slice tells any.
  have usedAlike : used.Alike { collector with userTypes := slices.typeNames } := by
    unfold used addSlice RunSlices.typeNames
    cases slices.usages.slice? with
    | none => exact ⟨reachedAlike.language, reachedAlike.userTypes.trans fresh, reachedAlike.purls⟩
    | some slice =>
        have asked := (Collector.add_usages_asks reached slice.data).alike
        refine ⟨asked.language.trans reachedAlike.language, ?_, fun symbol =>
          (asked.purls symbol).trans (reachedAlike.purls symbol)⟩
        refine asked.userTypes.trans ?_
        ext type
        change type ∈ reached.userTypes ∪ slice.data.typeNames ↔ type ∈ slice.data.typeNames
        rw [reachedAlike.userTypes, fresh, TextSet.mem_union]
        exact or_iff_right (TextSet.not_mem_emptyset type)
  have namedStacks : held named = held used :=
    add_slice_keeps held (fun collector slice =>
      @Collector.add_semantics_keeps _ (fun maps => maps.stacksOf purl) (fun _ _ _ => rfl) collector
        components slice) (RunSlices.loaded? slices.semantics) used
  have namedAlike : named.Alike { collector with userTypes := slices.typeNames } := by
    refine Collector.Alike.trans ?_ usedAlike
    unfold named addSlice
    split <;> exact ⟨rfl, rfl, fun _ => rfl⟩
  change held (addSlice Collector.addDataFlow (RunSlices.loaded? slices.dataFlow) named) = _
  rw [← reachedStacks, ← usedStacks, ← namedStacks]
  cases RunSlices.loaded? slices.dataFlow with
  | none => exact (List.append_nil _).symm
  | some slice =>
      refine (Collector.stacks_add_data_flow named slice.data purl).trans ?_
      congr 1
      unfold DataFlowSlice.stacksOf
      rw [namedAlike.userTypes, Collector.leads_to_congr namedAlike.language namedAlike.purls]
      rfl

section Stacks

variable (config : RunConfig) (given : Collaborators) (files : FileTree) (document : Bom.Document)

/-- The call stacks of a package: those that the reachables slice tells, and then those that the
data-flow slice tells. -/
def stacksOf (purl : String) : List (List Frame) :=
  (RunSlices.loaded? (slices config given files document).reachables).elim []
      (fun slice => slice.data.stacksOf purl) ++
    (RunSlices.loaded? (slices config given files document).dataFlow).elim [] fun slice =>
      slice.data.stacksOf (starter config given files document)
        (slices config given files document).typeNames purl

theorem collected_stacks (purl : String) :
    (collected config given files document).maps.stacksOf purl =
      stacksOf config given files document purl := by
  let begun := (starter config given files document).addLocations (seed config document).locations
  have nothing : begun.maps.stacksOf purl = [] :=
    foldl_keeps (fun maps : EvidenceMaps => maps.stacksOf purl) (by intros; rfl)
      (starter config given files document).maps
  refine (collect_stacks rfl purl).trans ?_
  rw [nothing, List.nil_append]
  rfl

variable {config given files document}

/-- What the frames of a stack of a package show, of whichever slice it is. -/
theorem frames_show {purl : String} {stack : List Frame}
    (told : stack ∈ stacksOf config given files document purl) :
    (∃ slice, RunSlices.loaded? (slices config given files document).reachables = some slice ∧
      ∃ node ∈ slice.data.nodes, purl ∈ node.purls ∧ List.Forall₂ ReachableFlow.ShownAs
        (node.flows.filter ReachableFlow.hasSourceFile) stack) ∨
    ∃ slice, RunSlices.loaded? (slices config given files document).dataFlow = some slice ∧
      ∃ path ∈ slice.data.paths,
        List.Forall₂ DataFlowNode.ShownAs (slice.data.nodesOn path) stack := by
  unfold stacksOf at told
  rcases List.mem_append.1 told with reached | flowed
  · cases chains : RunSlices.loaded? (slices config given files document).reachables with
    | none =>
        rw [chains] at reached
        cases reached
    | some slice =>
        rw [chains] at reached
        exact Or.inl ⟨slice, rfl, ReachablesSlice.stacks_show reached⟩
  · cases paths : RunSlices.loaded? (slices config given files document).dataFlow with
    | none =>
        rw [paths] at flowed
        cases flowed
    | some slice =>
        rw [paths] at flowed
        exact Or.inr ⟨slice, rfl, DataFlowSlice.stacks_show flowed⟩

end Stacks

/-- A reachables slice of two chains, one of which passes a step in no file. -/
def sampleReachables : Json :=
  .object [("reachables", .array
    [.object [("purls", .array [.text "pkg:maven/slf4j@2.0", .text "pkg:maven/slf4j@2.0"]),
      ("flows", .array [.object [("parentFileName", .text "App.java")],
        .object [("parentFileName", .text "<unknown>")]])],
    .object [("purls", .array [.text ""]), ("flows", .array [])]])]

def sampleStackConfig : RunConfig :=
  { sampleConfig with
    dataFlowPath := some "data-flow.json"
    reachablesPath := some "reachables.json"
    withDataFlow := true
    withReachables := true }

end Run

end BomEvidence
