import BomEvidence.Metrics
import BomEvidence.Namespace.Index
import BomEvidence.Resolution.ImportTable

/-!
The resolution of symbols to packages. Import aliases are used if any are known,
and the namespace index otherwise. Every answer is kept, a failed query as the
absence of packages, so that the index is asked at most once for a symbol.
-/

namespace BomEvidence

inductive Resolution where
  | resolved (purls : TextSet)
  | unresolved
  | failed (reason : String)
  deriving DecidableEq, Repr

namespace Resolution

def ofPurls (purls : TextSet) : Resolution := if purls.isEmpty then .unresolved else .resolved purls

def purls : Resolution → TextSet
  | .resolved purls => purls
  | .unresolved | .failed _ => ∅

def isResolved : Resolution → Bool
  | .resolved _ => true
  | .unresolved | .failed _ => false

/-- A resolution as it is kept: a failure is no more than the absence of packages. -/
def kept : Resolution → Resolution
  | .failed _ => .unresolved
  | other => other

end Resolution

/-- The resolutions that are known, and how often it was asked for one that was known
or was not. -/
structure ResolutionCache where
  known : TextMap Resolution
  hits : Nat
  misses : Nat
  deriving DecidableEq, Repr

namespace ResolutionCache

def empty : ResolutionCache := ⟨∅, 0, 0⟩

instance : EmptyCollection ResolutionCache := ⟨empty⟩

def get (cache : ResolutionCache) (symbol : String) : Option Resolution × ResolutionCache :=
  match cache.known.get? symbol with
  | some resolution => (some resolution, { cache with hits := cache.hits + 1 })
  | none => (none, { cache with misses := cache.misses + 1 })

def insert (cache : ResolutionCache) (symbol : String) (resolution : Resolution) :
    ResolutionCache :=
  { cache with known := cache.known.insert symbol resolution.kept }

def size (cache : ResolutionCache) : Nat := cache.known.size

end ResolutionCache

structure Resolver where
  language : Language
  imports : ImportTable
  index : Option NamespaceIndex
  cache : ResolutionCache
  queries : Nat
  tally : Tally

namespace Resolver

def new (language : Language) (imports : ImportTable) (index : Option NamespaceIndex) : Resolver :=
  ⟨language, imports, index, ∅, 0, ∅⟩

def lookUp (resolver : Resolver) (symbol : String) : Resolution × Resolver :=
  if !resolver.imports.isEmpty then
    (.ofPurls (resolver.imports.purlsFor resolver.language.traits.aliasMatch symbol), resolver)
  else
    match resolver.index with
    | none => (.unresolved, resolver)
    | some index =>
        let asked := { resolver with
          queries := resolver.queries + 1
          tally := resolver.tally.increment .indexQuery }
        match index.find symbol with
        | .ok purls => (.ofPurls (.ofList purls), asked)
        | .error failure =>
            (.failed failure.message, { asked with tally := asked.tally.increment .indexFailure })

def resolve (resolver : Resolver) (symbol : String) : Resolution × Resolver :=
  match resolver.cache.get symbol with
  | (some known, cache) =>
      (known, { resolver with cache := cache, tally := resolver.tally.increment .cacheHit })
  | (none, cache) =>
      let (resolution, resolver) := { resolver with cache := cache }.lookUp symbol
      (resolution, { resolver with cache := resolver.cache.insert symbol resolution })

def resolveAll (resolver : Resolver) : List String → TextSet × Resolver
  | [] => (∅, resolver)
  | symbol :: rest =>
      let (resolution, resolver) := resolver.resolve symbol
      let (purls, resolver) := resolver.resolveAll rest
      (resolution.purls ∪ purls, resolver)

end Resolver

end BomEvidence
