/-!
The kinds of slices, and what can become of an attempt to load one.
-/

namespace BomEvidence

inductive SliceKind where
  | usages
  | dataFlow
  | reachables
  | semantics
  deriving DecidableEq, Repr

def SliceKind.name : SliceKind → String
  | .usages => "usages"
  | .dataFlow => "data-flow"
  | .reachables => "reachables"
  | .semantics => "semantics"

/-- Whether a short file of the kind is an empty answer of the analyser. -/
def SliceKind.requiresMinimum : SliceKind → Bool
  | .usages | .reachables => true
  | .dataFlow | .semantics => false

inductive LoadStatus where
  | loaded
  | missing
  | tooSmall
  | tooLarge
  | invalid
  deriving DecidableEq, Repr

def LoadStatus.name : LoadStatus → String
  | .loaded => "loaded"
  | .missing => "missing"
  | .tooSmall => "too_small"
  | .tooLarge => "too_large"
  | .invalid => "invalid"

end BomEvidence
