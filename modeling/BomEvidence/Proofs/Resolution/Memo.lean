import BomEvidence.Proofs.Sorted.Laws
import BomEvidence.Resolution.Resolver

/-!
What a resolver keeps does not show in its answers. A symbol has the same packages
whatever was resolved before it, so that a run of questions can be judged by the state
in which it began.
-/

namespace BomEvidence

namespace Resolution

@[simp] theorem purls_kept (resolution : Resolution) : resolution.kept.purls = resolution.purls := by
  cases resolution <;> rfl

end Resolution

namespace Resolver

def purlsOf (resolver : Resolver) (symbol : String) : TextSet := (resolver.resolve symbol).1.purls

structure SameSources (first second : Resolver) : Prop where
  language : first.language = second.language
  imports : first.imports = second.imports
  index : first.index = second.index

theorem SameSources.trans {first second third : Resolver} (left : first.SameSources second)
    (right : second.SameSources third) : first.SameSources third :=
  ⟨left.language.trans right.language, left.imports.trans right.imports,
    left.index.trans right.index⟩

theorem look_up_sources (resolver : Resolver) (symbol : String) :
    (resolver.lookUp symbol).2.SameSources resolver := by
  unfold lookUp
  split
  · exact ⟨rfl, rfl, rfl⟩
  · split
    · exact ⟨rfl, rfl, rfl⟩
    · dsimp only
      split <;> exact ⟨rfl, rfl, rfl⟩

theorem look_up_cache (resolver : Resolver) (symbol : String) :
    (resolver.lookUp symbol).2.cache = resolver.cache := by
  unfold lookUp
  split
  · rfl
  · split
    · rfl
    · dsimp only
      split <;> rfl

/-- The answer for a symbol that is not known is a matter of the sources alone. -/
theorem look_up_answer {first second : Resolver} (same : first.SameSources second)
    (symbol : String) : (first.lookUp symbol).1 = (second.lookUp symbol).1 := by
  obtain ⟨language, imports, index⟩ := same
  unfold lookUp
  rw [imports, index, language]
  split
  · rfl
  · split
    · rfl
    · dsimp only
      split <;> rfl

theorem resolve_of_known {resolver : Resolver} {symbol : String} {resolution : Resolution}
    (known : resolver.cache.known.get? symbol = some resolution) :
    resolver.resolve symbol = (resolution, { resolver with
      cache := { resolver.cache with hits := resolver.cache.hits + 1 }
      tally := resolver.tally.increment .cacheHit }) := by
  unfold resolve ResolutionCache.get
  rw [known]

/-- A resolver that did not know a symbol it was asked for. -/
def missing (resolver : Resolver) : Resolver :=
  { resolver with cache := { resolver.cache with misses := resolver.cache.misses + 1 } }

theorem missing_sources (resolver : Resolver) : resolver.missing.SameSources resolver :=
  ⟨rfl, rfl, rfl⟩

theorem resolve_of_unknown {resolver : Resolver} {symbol : String}
    (unknown : resolver.cache.known.get? symbol = none) :
    resolver.resolve symbol = ((resolver.lookUp symbol).1, { (resolver.missing.lookUp symbol).2 with
      cache := resolver.missing.cache.insert symbol (resolver.lookUp symbol).1 }) := by
  rw [← look_up_answer (missing_sources resolver) symbol, ← look_up_cache resolver.missing symbol]
  unfold resolve ResolutionCache.get
  rw [unknown]
  rfl

theorem resolve_sources (resolver : Resolver) (symbol : String) :
    (resolver.resolve symbol).2.SameSources resolver := by
  cases found : resolver.cache.known.get? symbol with
  | some resolution =>
      rw [resolve_of_known found]
      exact ⟨rfl, rfl, rfl⟩
  | none =>
      rw [resolve_of_unknown found]
      have kept := (look_up_sources resolver.missing symbol).trans (missing_sources resolver)
      exact ⟨kept.language, kept.imports, kept.index⟩

theorem known_resolve (resolver : Resolver) (symbol : String) :
    (resolver.resolve symbol).2.cache.known =
      if (resolver.cache.known.get? symbol).isSome then resolver.cache.known
      else resolver.cache.known.insert symbol (resolver.lookUp symbol).1.kept := by
  cases found : resolver.cache.known.get? symbol with
  | some resolution => rw [resolve_of_known found]; rfl
  | none =>
      rw [resolve_of_unknown found]
      rfl

theorem purls_of_eq (resolver : Resolver) (symbol : String) :
    resolver.purlsOf symbol =
      ((resolver.cache.known.get? symbol).getD (resolver.lookUp symbol).1).purls := by
  unfold purlsOf
  cases found : resolver.cache.known.get? symbol with
  | some resolution => rw [resolve_of_known found]; rfl
  | none =>
      rw [resolve_of_unknown found]
      rfl

/-- No question changes the packages of a symbol, not even one for the symbol itself that
failed: its failure is kept as the absence of packages, and it had none. -/
@[simp] theorem purls_of_resolve (resolver : Resolver) (asked symbol : String) :
    (resolver.resolve asked).2.purlsOf symbol = resolver.purlsOf symbol := by
  rw [purls_of_eq, purls_of_eq, known_resolve,
    look_up_answer (resolve_sources resolver asked) symbol]
  cases found : resolver.cache.known.get? asked with
  | some resolution => rfl
  | none =>
      rw [Option.isSome_none, if_neg Bool.false_ne_true, TextMap.get_insert]
      by_cases same : symbol = asked
      · subst same
        rw [if_pos rfl, found]
        exact Resolution.purls_kept _
      · rw [if_neg same]

@[simp] theorem resolve_all_nil (resolver : Resolver) :
    resolver.resolveAll [] = (∅, resolver) := rfl

@[simp] theorem resolve_all_cons (resolver : Resolver) (symbol : String) (rest : List String) :
    resolver.resolveAll (symbol :: rest) =
      (resolver.purlsOf symbol ∪ ((resolver.resolve symbol).2.resolveAll rest).1,
        ((resolver.resolve symbol).2.resolveAll rest).2) := rfl

theorem resolve_all_append (resolver : Resolver) (first second : List String) :
    (resolver.resolveAll (first ++ second)).2 =
      ((resolver.resolveAll first).2.resolveAll second).2 := by
  induction first generalizing resolver with
  | nil => rfl
  | cons symbol rest ih => exact ih _

theorem resolve_all_sources (resolver : Resolver) (symbols : List String) :
    (resolver.resolveAll symbols).2.SameSources resolver := by
  induction symbols generalizing resolver with
  | nil => exact ⟨rfl, rfl, rfl⟩
  | cons symbol rest ih =>
      exact (ih (resolver.resolve symbol).2).trans (resolve_sources resolver symbol)

@[simp] theorem purls_of_resolve_all (resolver : Resolver) (asked : List String)
    (symbol : String) : (resolver.resolveAll asked).2.purlsOf symbol = resolver.purlsOf symbol := by
  induction asked generalizing resolver with
  | nil => rfl
  | cons first rest ih => rw [resolve_all_cons, ih, purls_of_resolve]

/-- Resolving symbols one after the other gives the packages that each has on its own. -/
theorem mem_resolve_all {resolver : Resolver} {symbols : List String} {purl : String} :
    purl ∈ (resolver.resolveAll symbols).1 ↔ ∃ symbol ∈ symbols, purl ∈ resolver.purlsOf symbol := by
  induction symbols generalizing resolver with
  | nil => simp
  | cons symbol rest ih =>
      rw [resolve_all_cons, TextSet.mem_union, ih]
      simp only [purls_of_resolve, List.mem_cons, exists_eq_or_imp]

end Resolver

end BomEvidence
