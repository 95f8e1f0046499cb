import BomEvidence.Proofs.Evidence.Substitution
import BomEvidence.Proofs.Run.Outcome

/-!
A run as a run of slices. The slices that were loaded are taken in one after the other, and this
fixes the symbols that the run asks for, whatever the index answers. Runs whose indexes answer
these symbols alike are the same.
-/

namespace BomEvidence

def RunSlices.intakes (slices : RunSlices) (components : List Bom.Component) : List Intake :=
  ((RunSlices.loaded? slices.reachables).map fun slice => Intake.reachables slice.data).toList ++
    ((slices.usages.slice?.map fun slice => Intake.usages slice.data).toList ++
      (((RunSlices.loaded? slices.semantics).map
          fun slice => Intake.semantics components slice.data).toList ++
        ((RunSlices.loaded? slices.dataFlow).map fun slice => Intake.dataFlow slice.data).toList))

theorem Collector.take_all_append (collector : Collector) (first second : List Intake) :
    collector.takeAll (first ++ second) = (collector.takeAll first).takeAll second :=
  List.foldl_append

theorem RunResult.eq_of_parts {first second : RunResult} (outcome : first.outcome = second.outcome)
    (files : first.files = second.files) (tally : first.tally = second.tally) : first = second := by
  cases first
  cases second
  cases outcome
  cases files
  cases tally
  rfl

namespace Run

theorem add_slice_eq {Slice : Type} (add : Collector → Slice → Collector) (intake : Slice → Intake)
    (takes : ∀ (collector : Collector) slice, add collector slice = collector.take (intake slice))
    (slice : Option (LoadedSlice Slice)) (collector : Collector) :
    addSlice add slice collector =
      collector.takeAll (slice.map fun slice => intake slice.data).toList := by
  cases slice with
  | none => rfl
  | some slice => exact takes collector slice.data

theorem collect_eq (collector : Collector) (components : List Bom.Component) (slices : RunSlices) :
    collect collector components slices = collector.takeAll (slices.intakes components) := by
  unfold collect RunSlices.intakes
  dsimp only
  rw [Collector.take_all_append, Collector.take_all_append, Collector.take_all_append,
    add_slice_eq Collector.addReachables Intake.reachables fun _ _ => rfl,
    add_slice_eq Collector.addUsages Intake.usages fun _ _ => rfl,
    add_slice_eq (fun next slice => next.addSemantics components slice)
      (Intake.semantics components) fun _ _ => rfl,
    add_slice_eq Collector.addDataFlow Intake.dataFlow fun _ _ => rfl]

section Parts

variable (config : RunConfig) (given : Collaborators) (files : FileTree) (document : Bom.Document)

def seeded : Collector :=
  (starter config given files document).addLocations (seed config document).locations

def intakes : List Intake := (slices config given files document).intakes document.components

theorem collected_eq : collected config given files document =
    (seeded config given files document).takeAll (intakes config given files document) :=
  collect_eq _ _ _

def asked : List String :=
  ((seeded config given files document).handed (intakes config given files document)).map Prod.snd

end Parts

variable {config : RunConfig} {given : Collaborators} {now : Instant} {files : FileTree}

/-- What a run counts once it read its document: the slices, the collecting and the attaching. -/
theorem tally_of_read {document : Bom.Document} (read : readDocument config files = .ok document) :
    (execute config given now files).tally =
      (slices config given files document).tally ++ (collected config given files document).tally ++
        document.attachTally (collected config given files document).maps := by
  unfold execute
  rw [read]
  unfold collected starter seed slices detector index opened
  dsimp only
  split <;> rfl

/-- Runs whose indexes answer alike all symbols that are handed to the resolver are the same. -/
theorem execute_of_same_answers {first second : NamespaceIndex}
    (answers : ∀ document, readDocument config files = .ok document →
      ∀ symbol ∈ asked config { given with index := some first } files document,
        first.find symbol = second.find symbol) :
    execute config { given with index := some first } now files =
      execute config { given with index := some second } now files := by
  cases read : readDocument config files with
  | error failure => rw [execute_of_unread read, execute_of_unread read]
  | ok document =>
      let one : Collaborators := { given with index := some first }
      let other : Collaborators := { given with index := some second }
      let symbols : Set String := { symbol | symbol ∈ asked config one files document }
      have start : (seeded config one files document).Agrees symbols
          (seeded config other files document) :=
        ⟨⟨.some (answers document read), rfl, rfl, rfl, rfl, rfl⟩, rfl, rfl, rfl, rfl⟩
      have agrees : (collected config one files document).Agrees symbols
          (collected config other files document) := by
        rw [collected_eq, collected_eq]
        exact start.take_all fun entry member => List.mem_map_of_mem member
      have wrote : wrote config one now files document = wrote config other now files document := by
        unfold Run.wrote evidenced records
        rw [agrees.maps]
        rfl
      have reports : report config one files document = report config other files document := by
        unfold report
        rw [agrees.maps, agrees.resolver.queries, agrees.resolver.cache]
        rfl
      have tallies : (collected config one files document).tally =
          (collected config other files document).tally := by
        unfold Collector.tally
        rw [agrees.resolver.tally, agrees.detections]
      apply RunResult.eq_of_parts
      · rw [(execute_of_read read).1, (execute_of_read read).1]
        change (Run.wrote config one now files document).map _ = _
        rw [wrote, reports]
      · rw [(execute_of_read read).2, (execute_of_read read).2]
        change (Run.wrote config one now files document).toOption.getD _ = _
        rw [wrote]
        rfl
      · rw [tally_of_read read, tally_of_read read]
        change _ ++ (collected config one files document).tally ++
          document.attachTally (collected config one files document).maps = _
        rw [tallies, agrees.maps]
        rfl

end Run

end BomEvidence
