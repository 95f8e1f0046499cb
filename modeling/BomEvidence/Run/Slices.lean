import BomEvidence.Bom.Attach
import BomEvidence.Run.Config
import BomEvidence.Slice.DataFlow
import BomEvidence.Slice.Reachable
import BomEvidence.Slice.Semantics
import BomEvidence.Slice.Usage

/-!
The slices of a run. Usage slices are always looked for; the other kinds only where the
configuration asks for them, and semantics slices only for Swift code with components.
-/

namespace BomEvidence

/-- What became of the slices of a run. Kinds that were not looked for are absent. -/
structure RunSlices where
  reachables : Option (LoadOutcome ReachablesSlice)
  usages : LoadOutcome UsageSlice
  semantics : Option (LoadOutcome SemanticsSlice)
  dataFlow : Option (LoadOutcome DataFlowSlice)
  deriving Repr

namespace RunSlices

def load (config : RunConfig) (hasComponents : Bool) (files : FileTree) : RunSlices where
  reachables :=
    if config.withReachables || config.includeCrypto then
      some (SliceKind.reachables.load ReachablesSlice.ofTree? config.reachablesPath config.limits
        files)
    else none
  usages := SliceKind.usages.load UsageSlice.ofTree? config.usagesPath config.limits files
  semantics :=
    if config.language = .swift && hasComponents then
      some (SliceKind.semantics.load SemanticsSlice.ofTree? config.semanticsPath config.limits files)
    else none
  dataFlow :=
    if config.withDataFlow then
      some (SliceKind.dataFlow.load DataFlowSlice.ofTree? config.dataFlowPath config.limits files)
    else none

def loaded? {Slice : Type} (outcome : Option (LoadOutcome Slice)) : Option (LoadedSlice Slice) :=
  outcome.bind LoadOutcome.slice?

def outcomes (slices : RunSlices) : List (SliceKind × LoadStatus) :=
  (slices.reachables.map fun outcome => (SliceKind.reachables, outcome.status)).toList ++
    [(.usages, slices.usages.status)] ++
    (slices.semantics.map fun outcome => (SliceKind.semantics, outcome.status)).toList ++
    (slices.dataFlow.map fun outcome => (SliceKind.dataFlow, outcome.status)).toList

def anyLoaded (slices : RunSlices) : Bool :=
  (loaded? slices.reachables).isSome || slices.usages.isLoaded ||
    (loaded? slices.semantics).isSome || (loaded? slices.dataFlow).isSome

def records (slices : RunSlices) : List SliceRecord :=
  let ofSlice {Slice : Type} (kind : SliceKind) (slice : Option (LoadedSlice Slice)) :
      List SliceRecord :=
    slice.toList.map fun slice => ⟨kind, slice.path, slice.raw⟩
  ofSlice .usages slices.usages.slice? ++ ofSlice .dataFlow (loaded? slices.dataFlow) ++
    ofSlice .reachables (loaded? slices.reachables)

def tally (slices : RunSlices) : Tally :=
  slices.outcomes.foldl (fun tally (kind, status) => tally.increment (.sliceLoaded kind status)) ∅

end RunSlices

end BomEvidence
