import BomEvidence.Slice.Kind
import BomEvidence.Text.Search

/-!
Counters of what an operation did. Every operation adds to a tally; the total of a
counter is the sum of what was added to it.
-/

namespace BomEvidence

inductive Counter where
  | indexQuery
  | indexFailure
  | cacheHit
  | sliceLoaded (kind : SliceKind) (status : LoadStatus)
  | occurrence
  | callstack
  | service
  | algorithm
  | detectorFailure
  deriving DecidableEq, Repr

def Counter.name : Counter → String
  | .indexQuery => "purlscope_resolver_index_queries_total"
  | .indexFailure => "purlscope_resolver_index_failures_total"
  | .cacheHit => "purlscope_resolver_cache_hits_total"
  | .sliceLoaded _ _ => "purlscope_slices_loaded_total"
  | .occurrence => "purlscope_evidence_occurrences_total"
  | .callstack => "purlscope_evidence_callstacks_total"
  | .service => "purlscope_evidence_services_total"
  | .algorithm => "purlscope_crypto_algorithms_detected_total"
  | .detectorFailure => "purlscope_crypto_detector_failures_total"

def Counter.labels : Counter → List (String × String)
  | .sliceLoaded kind status => [("kind", kind.name), ("result", status.name)]
  | _ => []

def Counter.series (counter : Counter) : String :=
  if counter.labels.isEmpty then counter.name
  else counter.name ++ "\x7b" ++
    Text.join "," (counter.labels.map fun (name, value) => name ++ "=" ++ value) ++ "\x7d"

structure Tally where
  events : List (Counter × Nat)
  deriving DecidableEq, Repr

namespace Tally

def empty : Tally := ⟨[]⟩

instance : EmptyCollection Tally := ⟨empty⟩
instance : Inhabited Tally := ⟨empty⟩

def add (tally : Tally) (counter : Counter) (times : Nat) : Tally :=
  ⟨tally.events ++ [(counter, times)]⟩

def increment (tally : Tally) (counter : Counter) : Tally := tally.add counter 1

def append (first second : Tally) : Tally := ⟨first.events ++ second.events⟩

instance : Append Tally := ⟨append⟩

def sumOf : List Nat → Nat
  | [] => 0
  | number :: rest => number + sumOf rest

theorem sum_of_append (first second : List Nat) :
    sumOf (first ++ second) = sumOf first + sumOf second := by
  induction first with
  | nil => simp [sumOf]
  | cons number rest ih => simp only [List.cons_append, sumOf, ih]; omega

def total (tally : Tally) (counter : Counter) : Nat :=
  sumOf ((tally.events.filter fun event => event.1 = counter).map Prod.snd)

theorem total_add (tally : Tally) (counter other : Counter) (times : Nat) :
    (tally.add counter times).total other =
      tally.total other + if counter = other then times else 0 := by
  by_cases same : counter = other <;> simp [total, add, same, sum_of_append, sumOf]

theorem total_append (first second : Tally) (counter : Counter) :
    (first ++ second).total counter = first.total counter + second.total counter := by
  change (append first second).total counter = _
  simp [total, append, sum_of_append]

def counters (tally : Tally) : List Counter := (tally.events.map Prod.fst).eraseDups

def totals (tally : Tally) : List (Counter × Nat) :=
  (tally.counters.map fun counter => (counter, tally.total counter)).filter fun total => 0 < total.2

end Tally

def metricDescriptions : List (String × String) :=
  [("counter purlscope_resolver_index_queries_total",
      "Namespace index queries issued by the purl resolver"),
    ("counter purlscope_resolver_index_failures_total",
      "Namespace index queries that failed and were cached as empty"),
    ("counter purlscope_resolver_cache_hits_total",
      "Symbol resolutions served from the resolver cache"),
    ("counter purlscope_slices_loaded_total", "Slice load attempts by kind and result"),
    ("counter purlscope_evidence_occurrences_total", "Occurrence locations written into the SBOM"),
    ("counter purlscope_evidence_callstacks_total", "Call stacks written into the SBOM"),
    ("counter purlscope_evidence_services_total", "Services detected from usages"),
    ("histogram purlscope_evidence_run_duration_seconds",
      "Wall clock duration of one evidence run"),
    ("counter purlscope_crypto_algorithms_detected_total",
      "Cryptographic algorithms detected in reachable flows"),
    ("counter purlscope_crypto_detector_failures_total",
      "Crypto detector invocations that failed")]

end BomEvidence
