import BomEvidence.Proofs.Resolution.Memo

/-!
What a resolver counts. The parts of a run have counters of their own, and those of a resolver for
questions to the index and for known symbols agree with its numbers.
-/

namespace BomEvidence

inductive Counter.Source where
  | slices
  | resolver
  | detector
  | attaching
  deriving DecidableEq, Repr

def Counter.source : Counter → Source
  | .sliceLoaded _ _ => .slices
  | .indexQuery | .indexFailure | .cacheHit => .resolver
  | .algorithm | .detectorFailure => .detector
  | .occurrence | .callstack | .service => .attaching

namespace Tally

def OfSource (source : Counter.Source) (tally : Tally) : Prop :=
  ∀ event ∈ tally.events, event.1.source = source

variable {source : Counter.Source} {tally : Tally}

theorem of_source_empty (source : Counter.Source) : (∅ : Tally).OfSource source := nofun

theorem OfSource.add (counts : tally.OfSource source) {counter : Counter}
    (own : counter.source = source) (times : Nat) : (tally.add counter times).OfSource source := by
  intro event member
  rcases List.mem_append.1 member with before | added
  · exact counts event before
  · rw [List.mem_singleton.1 added]
    exact own

theorem OfSource.total_eq_zero (counts : tally.OfSource source) {counter : Counter}
    (foreign : counter.source ≠ source) : tally.total counter = 0 := by
  have none : (tally.events.filter fun event => event.1 = counter) = [] := by
    rw [List.filter_eq_nil_iff]
    intro event member same
    exact foreign (of_decide_eq_true same ▸ counts event member)
  unfold total
  rw [none]
  rfl

end Tally

namespace Resolver

/-- The counters of a resolver tell its own numbers. -/
structure Counted (resolver : Resolver) : Prop where
  queries : resolver.tally.total .indexQuery = resolver.queries
  hits : resolver.tally.total .cacheHit = resolver.cache.hits
  own : resolver.tally.OfSource .resolver

variable {resolver : Resolver}

theorem counted_new (language : Language) (imports : ImportTable) (index : Option NamespaceIndex) :
    (Resolver.new language imports index).Counted := ⟨rfl, rfl, Tally.of_source_empty .resolver⟩

theorem Counted.after (counted : resolver.Counted) (counter : Counter) {later : Resolver}
    (own : counter.source = .resolver) (tally : later.tally = resolver.tally.increment counter)
    (queries : later.queries = resolver.queries + if counter = .indexQuery then 1 else 0)
    (hits : later.cache.hits = resolver.cache.hits + if counter = .cacheHit then 1 else 0) :
    later.Counted := by
  constructor
  · rw [tally, queries, Tally.increment, Tally.total_add, counted.queries]
  · rw [tally, hits, Tally.increment, Tally.total_add, counted.hits]
  · rw [tally]
    exact counted.own.add own 1

theorem Counted.look_up (counted : resolver.Counted) (symbol : String) :
    (resolver.lookUp symbol).2.Counted := by
  unfold lookUp
  split
  · exact counted
  · split
    · exact counted
    · have asked : Counted { resolver with
          queries := resolver.queries + 1
          tally := resolver.tally.increment .indexQuery } :=
        counted.after .indexQuery rfl rfl rfl rfl
      dsimp only
      split
      · exact asked
      · exact asked.after .indexFailure rfl rfl rfl rfl

theorem Counted.resolve (counted : resolver.Counted) (symbol : String) :
    (resolver.resolve symbol).2.Counted := by
  cases held : resolver.cache.known.get? symbol with
  | some resolution =>
      rw [resolve_of_known held]
      exact counted.after .cacheHit rfl rfl rfl rfl
  | none =>
      have missed : resolver.missing.Counted := ⟨counted.queries, counted.hits, counted.own⟩
      have looked := missed.look_up symbol
      rw [resolve_of_unknown held]
      refine ⟨looked.queries, ?_, looked.own⟩
      -- What is kept for a symbol does not touch the number of hits.
      rw [looked.hits, look_up_cache]
      rfl

theorem Counted.resolve_all (counted : resolver.Counted) (symbols : List String) :
    (resolver.resolveAll symbols).2.Counted := by
  induction symbols generalizing resolver with
  | nil => exact counted
  | cons symbol rest ih => exact ih (counted.resolve symbol)

end Resolver

end BomEvidence
