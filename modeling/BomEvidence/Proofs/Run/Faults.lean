import BomEvidence.Run.Slices

/-!
What keeps a slice from being loaded, and what a run gets to see of such a slice: as little as of
one whose path is not configured.
-/

namespace BomEvidence

def FileTree.sizeAt? (tree : FileTree) (path : String) : Option Nat :=
  (tree.find path).toOption.bind entrySize?

namespace SliceKind

variable {Slice : Type} {kind : SliceKind} {read : Json.Tree.Reader Slice} {limits : SliceLimits}
  {files : FileTree}

/-- What keeps the slice of a kind from being loaded from the end of a path. -/
inductive Fault (kind : SliceKind) (read : Json.Tree.Reader Slice) (limits : SliceLimits)
    (files : FileTree) (path : String) : Prop where
  | missing (absent : files.find path = .error .notFound)
  | unreadable (failure : PathFailure) (unread : files.readText path = .error failure)
  | tooLarge (size : Nat) (measured : files.sizeAt? path = some size)
      (large : limits.greatest.toNat < size)
  | tooSmall (size : Nat) (measured : files.sizeAt? path = some size)
      (limited : kind.requiresMinimum = true) (small : size ≤ limits.least.toNat)
  | malformed (raw : String) (text : files.readText path = .ok raw)
      (noSlice : (Json.Tree.ofText? raw).bind read = none)

def FaultAt (kind : SliceKind) (read : Json.Tree.Reader Slice) (path : Option String)
    (limits : SliceLimits) (files : FileTree) : Prop :=
  ∃ own, path = some own ∧ kind.Fault read limits files own

theorem slice_of_load {path : String} {slice : LoadedSlice Slice}
    (loaded : (kind.load read (some path) limits files).slice? = some slice) :
    ∃ size, files.sizeAt? path = some size ∧ size ≤ limits.greatest.toNat ∧
      (kind.requiresMinimum = true → limits.least.toNat < size) ∧
      files.readText path = .ok slice.raw ∧
      (Json.Tree.ofText? slice.raw).bind read = some slice.data ∧ slice.path = path := by
  unfold load at loaded
  dsimp only at loaded
  split at loaded
  · cases loaded
  · cases loaded
  · rename_i entry found
    split at loaded
    · cases loaded
    · rename_i size measured
      split at loaded
      · cases loaded
      · split at loaded
        · cases loaded
        · rename_i fits large
          unfold readFile at loaded
          split at loaded
          · cases loaded
          · rename_i raw text
            split at loaded
            · cases loaded
            · rename_i data isSlice
              cases loaded
              refine ⟨size, ?_, by omega, ?_, text, isSlice, rfl⟩
              · rw [FileTree.sizeAt?, found]
                exact measured
              · intro limited
                simpa [limited] using large

theorem Fault.not_loaded {path : String} (fault : kind.Fault read limits files path) :
    (kind.load read (some path) limits files).slice? = none := by
  rw [Option.eq_none_iff_forall_ne_some]
  intro slice loaded
  obtain ⟨size, measured, fits, large, text, isSlice, _⟩ := slice_of_load loaded
  cases fault with
  | missing absent =>
      rw [FileTree.sizeAt?, absent] at measured
      cases measured
  | unreadable failure unread => exact nomatch unread.symm.trans text
  | tooLarge other otherMeasured tooLarge =>
      have same : size = other := Option.some.inj (measured.symm.trans otherMeasured)
      omega
  | tooSmall other otherMeasured limited small =>
      have same : size = other := Option.some.inj (measured.symm.trans otherMeasured)
      have above := large limited
      omega
  | malformed raw otherText noSlice =>
      have same : slice.raw = raw := Except.ok.inj (text.symm.trans otherText)
      rw [same, noSlice] at isSlice
      cases isSlice

theorem FaultAt.slice_eq {path : Option String} (fault : kind.FaultAt read path limits files) :
    (kind.load read path limits files).slice? = (kind.load read none limits files).slice? := by
  obtain ⟨own, configured, fault⟩ := fault
  rw [configured]
  exact fault.not_loaded

end SliceKind

namespace RunConfig

def SliceFault (config : RunConfig) (files : FileTree) : SliceKind → Prop
  | .usages => SliceKind.usages.FaultAt UsageSlice.ofTree? config.usagesPath config.limits files
  | .dataFlow =>
      SliceKind.dataFlow.FaultAt DataFlowSlice.ofTree? config.dataFlowPath config.limits files
  | .reachables =>
      SliceKind.reachables.FaultAt ReachablesSlice.ofTree? config.reachablesPath config.limits files
  | .semantics =>
      SliceKind.semantics.FaultAt SemanticsSlice.ofTree? config.semanticsPath config.limits files

def withoutSlice (config : RunConfig) : SliceKind → RunConfig
  | .usages => { config with usagesPath := none }
  | .dataFlow => { config with dataFlowPath := none }
  | .reachables => { config with reachablesPath := none }
  | .semantics => { config with semanticsPath := none }

end RunConfig

namespace RunSlices

/-- Two attempts to load slices that loaded the same, whatever became of the others. -/
structure LoadedAlike (first second : RunSlices) : Prop where
  reachables : loaded? first.reachables = loaded? second.reachables
  usages : first.usages.slice? = second.usages.slice?
  semantics : loaded? first.semantics = loaded? second.semantics
  dataFlow : loaded? first.dataFlow = loaded? second.dataFlow

theorem LoadedAlike.any_loaded {first second : RunSlices} (alike : first.LoadedAlike second) :
    first.anyLoaded = second.anyLoaded := by
  unfold anyLoaded LoadOutcome.isLoaded
  rw [alike.reachables, alike.usages, alike.semantics, alike.dataFlow]

theorem LoadedAlike.records {first second : RunSlices} (alike : first.LoadedAlike second) :
    first.records = second.records := by
  unfold RunSlices.records
  rw [alike.reachables, alike.usages, alike.dataFlow]

theorem loaded_if {Slice : Type} (wanted : Bool) {first second : LoadOutcome Slice}
    (same : first.slice? = second.slice?) :
    loaded? (if wanted then some first else none) =
      loaded? (if wanted then some second else none) := by
  cases wanted with
  | false => rfl
  | true => exact same

theorem loaded_without {config : RunConfig} {files : FileTree} {kind : SliceKind}
    (fault : config.SliceFault files kind) (hasComponents : Bool) :
    (load config hasComponents files).LoadedAlike
      (load (config.withoutSlice kind) hasComponents files) := by
  cases kind with
  | usages => exact ⟨rfl, fault.slice_eq, rfl, rfl⟩
  | dataFlow =>
      have absent := loaded_if config.withDataFlow fault.slice_eq
      exact ⟨rfl, rfl, rfl, absent⟩
  | reachables =>
      have absent := loaded_if (config.withReachables || config.includeCrypto) fault.slice_eq
      exact ⟨absent, rfl, rfl, rfl⟩
  | semantics =>
      have absent := loaded_if (config.language = .swift && hasComponents) fault.slice_eq
      exact ⟨rfl, rfl, absent, rfl⟩

end RunSlices

end BomEvidence
