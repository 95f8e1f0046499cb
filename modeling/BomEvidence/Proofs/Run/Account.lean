import BomEvidence.Proofs.Bom.Account
import BomEvidence.Proofs.Evidence.Detections
import BomEvidence.Proofs.Run.Intakes
import BomEvidence.Proofs.Run.Occurrences

/-!
The account of a run: its report and its counters agree with each other and with the document that
it wrote. Slices, the collector and attaching each raise counters of their own, so that every total
is that of one of them.
-/

namespace BomEvidence

/-! ### Attempts to load slices -/

def RunConfig.attempts (config : RunConfig) (hasComponents : Bool) : SliceKind → Bool
  | .usages => true
  | .dataFlow => config.withDataFlow
  | .reachables => config.withReachables || config.includeCrypto
  | .semantics => config.language = .swift && hasComponents

namespace RunSlices

def status? (slices : RunSlices) : SliceKind → Option LoadStatus
  | .usages => some slices.usages.status
  | .dataFlow => slices.dataFlow.map LoadOutcome.status
  | .reachables => slices.reachables.map LoadOutcome.status
  | .semantics => slices.semantics.map LoadOutcome.status

theorem attempted_of_load (config : RunConfig) (hasComponents : Bool) (files : FileTree)
    (kind : SliceKind) :
    ((load config hasComponents files).status? kind).isSome =
      config.attempts hasComponents kind := by
  unfold load
  cases kind with
  | usages => rfl
  | dataFlow => cases asked : config.withDataFlow <;> simp [status?, RunConfig.attempts, asked]
  | reachables =>
      cases asked : config.withReachables || config.includeCrypto <;>
        simp [status?, RunConfig.attempts, asked]
  | semantics =>
      cases asked : decide (config.language = .swift) && hasComponents <;>
        simp [status?, RunConfig.attempts, asked]

theorem outcomes_of_kind (slices : RunSlices) (kind : SliceKind) :
    (slices.outcomes.filter fun outcome => outcome.1 = kind) =
      ((slices.status? kind).map fun status => (kind, status)).toList := by
  obtain ⟨reachables, usages, semantics, dataFlow⟩ := slices
  cases kind <;> cases reachables <;> cases semantics <;> cases dataFlow <;> rfl

theorem tally_total (slices : RunSlices) (counter : Counter) :
    slices.tally.total counter = slices.outcomes.countP fun outcome =>
      Counter.sliceLoaded outcome.1 outcome.2 = counter := by
  have grown : ∀ (outcomes : List (SliceKind × LoadStatus)) (tally : Tally),
      (outcomes.foldl (fun tally outcome =>
          tally.increment (.sliceLoaded outcome.1 outcome.2)) tally).total counter =
        tally.total counter +
          outcomes.countP fun outcome => Counter.sliceLoaded outcome.1 outcome.2 = counter := by
    intro outcomes
    induction outcomes with
    | nil => simp
    | cons outcome rest ih =>
        intro tally
        rw [List.foldl_cons, ih, Tally.increment, Tally.total_add, List.countP_cons]
        simp only [decide_eq_true_eq]
        omega
  have fromNone := grown slices.outcomes ∅
  rw [show (∅ : Tally).total counter = 0 from rfl, Nat.zero_add] at fromNone
  exact fromNone

theorem tally_of_slices (slices : RunSlices) : slices.tally.OfSource .slices := by
  apply List.foldlRecOn (motive := fun tally : Tally => tally.OfSource .slices)
  · exact Tally.of_source_empty .slices
  · intro tally counts outcome _
    exact counts.add rfl 1

theorem counted_of_kind (slices : RunSlices) (kind : SliceKind) (status : LoadStatus) :
    slices.tally.total (.sliceLoaded kind status) =
      if slices.status? kind = some status then 1 else 0 := by
  have counted : slices.tally.total (.sliceLoaded kind status) =
      slices.outcomes.count (kind, status) := by
    rw [tally_total, List.count_eq_countP]
    apply List.countP_congr
    intro outcome _
    simp [Prod.ext_iff]
  rw [counted, ← List.count_filter (p := fun outcome => outcome.1 = kind) (by simp),
    outcomes_of_kind]
  cases slices.status? kind with
  | none => rfl
  | some other => simp [List.count_singleton]

end RunSlices

/-! ### The account -/

namespace Run

/-- The report and the counters of a run agree with each other and with the document that was read
and the one that was written. The services are those of some names, and the log tells what was
written into each component. -/
structure Accounts (config : RunConfig) (document written : Bom.Document)
    (services : List String) (log : List Bom.Attachment) (report : RunReport) (tally : Tally) :
    Prop where
  inputs : written.components.take document.components.length =
    document.components.map (Bom.Component.attach report.maps)
  received : List.Forall₂ (Bom.Component.Receives report.maps) document.components log
  occurrences : report.summary.occurrences = log.countP fun entry => entry.occurrences.isSome
  places : tally.total .occurrence =
    Tally.sumOf ((log.filterMap Bom.Attachment.occurrences).map List.length)
  callstacks : report.summary.callstacks = log.countP fun entry => entry.frames.isSome
  countedCallstacks : tally.total .callstack = report.summary.callstacks
  algorithms : written.components.length = document.components.length + report.summary.algorithms
  providers : report.summary.providers = log.countP fun entry => entry.tagged
  services : report.summary.services = services.toFinset.card
  countedServices : tally.total .service = report.summary.services
  queries : tally.total .indexQuery = report.queries
  hits : tally.total .cacheHit = report.hits
  attempts : ∀ kind, ∃ status : Option LoadStatus,
    status.isSome = config.attempts (!document.components.isEmpty) kind ∧
    (report.slices.filter fun outcome => outcome.1 = kind) =
      (status.map fun status => (kind, status)).toList ∧
    ∀ result, tally.total (.sliceLoaded kind result) = if status = some result then 1 else 0

section Parts

variable (config : RunConfig) (given : Collaborators) (files : FileTree) (document : Bom.Document)

def serviceNames : List String :=
  (intakes config given files document).flatMap (Intake.serviceNames config.language)

theorem services_of_collected :
    (collected config given files document).maps.services.size =
      (serviceNames config given files document).toFinset.card := by
  have nothing : (seeded config given files document).maps.services = ∅ :=
    foldl_keeps EvidenceMaps.services (by intros; rfl) (∅ : EvidenceMaps)
  apply TextMap.size_of_names
  intro name
  rw [collected_eq, Collector.contains_take_all, nothing]
  have unnamed : ¬(∅ : ServiceMap).contains name = true := nofun
  rw [or_iff_right unnamed]
  rfl

theorem located_of_collected : (collected config given files document).maps.Located := by
  intro purl place held
  exact ((collected_has_place config given files document).1 held).ne_empty

theorem counted_of_collected : (collected config given files document).resolver.Counted := by
  rw [collected_eq]
  exact Collector.take_all_counted (Resolver.counted_new ..) _

theorem detections_of_collected :
    (collected config given files document).detections.OfSource .detector := by
  rw [collected_eq]
  exact Collector.take_all_counts (Tally.of_source_empty .detector) _

end Parts

variable {config : RunConfig} {given : Collaborators} {now : Instant} {files : FileTree}

/-- How often a run counts is told by the part that raises the counter. -/
theorem total_of_source {document : Bom.Document}
    (read : readDocument config files = .ok document) (counter : Counter) :
    (execute config given now files).tally.total counter =
      let ended := collected config given files document
      match counter.source with
      | .slices => (slices config given files document).tally.total counter
      | .resolver => ended.resolver.tally.total counter
      | .detector => ended.detections.total counter
      | .attaching => (document.attachTally ended.maps).total counter := by
  have loaded := RunSlices.tally_of_slices (slices config given files document)
  have resolved := (counted_of_collected config given files document).own
  have detected := detections_of_collected config given files document
  have attached :=
    Bom.Document.attach_counts (collected config given files document).maps document
  rw [tally_of_read read, Tally.total_append, Tally.total_append, Collector.tally,
    Tally.total_append]
  cases source : counter.source with
  | slices =>
      rw [resolved.total_eq_zero (by simp [source]), detected.total_eq_zero (by simp [source]),
        attached.total_eq_zero (by simp [source])]
      rfl
  | resolver =>
      rw [loaded.total_eq_zero (by simp [source]), detected.total_eq_zero (by simp [source]),
        attached.total_eq_zero (by simp [source]), Nat.zero_add]
      rfl
  | detector =>
      rw [loaded.total_eq_zero (by simp [source]), resolved.total_eq_zero (by simp [source]),
        attached.total_eq_zero (by simp [source]), Nat.zero_add, Nat.zero_add]
      rfl
  | attaching =>
      rw [loaded.total_eq_zero (by simp [source]), resolved.total_eq_zero (by simp [source]),
        detected.total_eq_zero (by simp [source]), Nat.zero_add]

theorem accounts_of_read {document : Bom.Document}
    (read : readDocument config files = .ok document) :
    Accounts config document (evidenced config given files document now)
      (serviceNames config given files document)
      (document.attachments (collected config given files document).maps)
      (report config given files document) (execute config given now files).tally := by
  have total := @total_of_source config given now files document read
  have located := located_of_collected config given files document
  have counted := counted_of_collected config given files document
  constructor
  · exact Bom.Document.inputs_of_attach _ document _ now
  · exact Bom.Document.receives_attachments _ document
  · exact Bom.Document.summary_occurrences located document
  · exact (total .occurrence).trans (Bom.Document.counted_occurrences located document)
  · exact Bom.Document.summary_callstacks _ document
  · exact (total .callstack).trans (Bom.Document.counted_callstacks _ document)
  · exact Bom.Document.length_of_attach _ document _ now
  · exact Bom.Document.summary_providers _ document
  · exact services_of_collected config given files document
  · exact (total .service).trans (Bom.Document.counted_services _ document)
  · exact (total .indexQuery).trans counted.queries
  · exact (total .cacheHit).trans counted.hits
  · intro kind
    refine ⟨(slices config given files document).status? kind, ?_, ?_, ?_⟩
    · exact RunSlices.attempted_of_load config _ _ kind
    · exact RunSlices.outcomes_of_kind _ kind
    · intro result
      exact (total (.sliceLoaded kind result)).trans (RunSlices.counted_of_kind _ kind result)

/-- The report of a run that succeeds, its counters and the document that it wrote agree. -/
theorem accounts_of_execute {reported : RunReport}
    (succeeds : (execute config given now files).outcome = .ok reported) :
    ∃ (document : Bom.Document) (processed : Json) (log : List Bom.Attachment),
      let written := document.attach reported.maps (records config given files document) now
      readDocument config files = .ok document ∧
      given.postProcessor.process written.toJson = .ok processed ∧
      (execute config given now files).files.readText config.outputPath = .ok processed.pretty ∧
      Accounts config document written (serviceNames config given files document) log reported
        (execute config given now files).tally := by
  have done : (execute config given now files).outcome.isOk = true := by
    rw [succeeds]
    rfl
  obtain ⟨document, read, processed, made, text⟩ := execute_is_ok done
  rw [report_of_execute read succeeds]
  exact ⟨document, processed, document.attachments (collected config given files document).maps,
    read, made, text, accounts_of_read read⟩

theorem accounts_of_sample :
    ∃ reported, (execute sampleConfig sampleCollaborators ⟨0⟩ sampleFiles).outcome = .ok reported ∧
      ∃ (document : Bom.Document) (processed : Json) (log : List Bom.Attachment),
        let written := document.attach reported.maps
          (records sampleConfig sampleCollaborators sampleFiles document) ⟨0⟩
        readDocument sampleConfig sampleFiles = .ok document ∧
        sampleCollaborators.postProcessor.process written.toJson = .ok processed ∧
        (execute sampleConfig sampleCollaborators ⟨0⟩ sampleFiles).files.readText
          sampleConfig.outputPath = .ok processed.pretty ∧
        Accounts sampleConfig document written
          (serviceNames sampleConfig sampleCollaborators sampleFiles document) log reported
          (execute sampleConfig sampleCollaborators ⟨0⟩ sampleFiles).tally := by
  have done : (execute sampleConfig sampleCollaborators ⟨0⟩ sampleFiles).outcome.isOk = true := by
    decide +kernel
  cases outcome : (execute sampleConfig sampleCollaborators ⟨0⟩ sampleFiles).outcome with
  | error failure =>
      rw [outcome] at done
      cases done
  | ok reported => exact ⟨reported, rfl, accounts_of_execute outcome⟩

end Run

end BomEvidence
