import BomEvidence.FileTree
import BomEvidence.Metrics

/-!
Loading slices. A slice is loaded when its file exists, has an allowed size and can
be read; whatever else happens is an outcome without evidence, never an error.
-/

namespace BomEvidence

/-- The sizes of slice files in bytes: beyond the least one where the kind requires it,
and up to the greatest one. -/
structure SliceLimits where
  least : UInt64
  greatest : UInt64
  deriving DecidableEq, Repr

def SliceLimits.standard : SliceLimits := ⟨1024, 512 * 1024 * 1024⟩

structure LoadedSlice (Slice : Type) where
  data : Slice
  raw : String
  path : String
  deriving Repr

inductive LoadOutcome (Slice : Type) where
  | loaded (slice : LoadedSlice Slice)
  | missing
  | tooSmall (size : Nat)
  | tooLarge (size : Nat)
  | invalid (cause : SliceFailure)
  deriving Repr

namespace LoadOutcome

variable {Slice : Type}

def slice? : LoadOutcome Slice → Option (LoadedSlice Slice)
  | .loaded slice => some slice
  | _ => none

def status : LoadOutcome Slice → LoadStatus
  | .loaded _ => .loaded
  | .missing => .missing
  | .tooSmall _ => .tooSmall
  | .tooLarge _ => .tooLarge
  | .invalid _ => .invalid

def isLoaded (outcome : LoadOutcome Slice) : Bool := outcome.slice?.isSome

end LoadOutcome

namespace SliceKind

variable {Slice : Type}

def readFile (read : Json.Tree.Reader Slice) (path : String) (files : FileTree) :
    LoadOutcome Slice :=
  match files.readText path with
  | .error failure => .invalid (.readFailed path failure.message)
  | .ok raw =>
      match (Json.Tree.ofText? raw).bind read with
      | none => .invalid (.invalid path "not a slice of this kind")
      | some data => .loaded ⟨data, raw, path⟩

def load (kind : SliceKind) (read : Json.Tree.Reader Slice) (path : Option String)
    (limits : SliceLimits) (files : FileTree) : LoadOutcome Slice :=
  match path with
  | none => .missing
  | some path =>
      match files.find path with
      | .error .notFound => .missing
      | .error failure => .invalid (.readFailed path failure.message)
      | .ok entry =>
          match FileTree.entrySize? entry with
          | none => .missing
          | some size =>
              if limits.greatest.toNat < size then .tooLarge size
              else if kind.requiresMinimum && size ≤ limits.least.toNat then .tooSmall size
              else readFile read path files

end SliceKind

end BomEvidence
