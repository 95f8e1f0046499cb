import BomEvidence.Proofs.Bom.Reattached
import BomEvidence.Proofs.Evidence.Unplaced
import BomEvidence.Proofs.Run.Occurrences

/-!
What a run collects from the document that another run wrote. It begins with the places that
the first run found, and it finds them again together with the same call stacks, algorithms
and services.
-/

namespace BomEvidence

/-! ### What a second run starts with -/

namespace Seed

def importComponent (property : AliasProperty) (table : ImportTable) (component : Bom.Component) :
    ImportTable :=
  match component.purl with
  | none => table
  | some purl =>
      match component.property? property.name with
      | some aliases => table.insertJoined purl aliases property.separator
      | none => table

theorem of_components_imports (language : Language) (components : List Bom.Component) :
    (ofComponents language components).imports =
      components.foldl (importComponent language.traits.aliasProperty) ∅ := by
  have commutes : ∀ (seed : Seed) (component : Bom.Component),
      importComponent language.traits.aliasProperty seed.imports component =
        (addComponent language.traits.aliasProperty seed component).imports := by
    intro seed component
    unfold importComponent addComponent
    cases component.purl <;> rfl
  exact (List.foldl_hom Seed.imports commutes).symm

theorem imports_of_attach (language : Language) (document : Bom.Document) (maps : EvidenceMaps)
    (records : Option (List SliceRecord)) (now : Instant) :
    (ofComponents language (document.attach maps records now).components).imports =
      (ofComponents language document.components).imports := by
  let property := language.traits.aliasProperty
  have old : ∀ table component, importComponent property table (component.attach maps) =
      importComponent property table component := by
    intro table component
    unfold importComponent Bom.Component.property? Bom.Component.attach
    cases component.purl <;> rfl
  have new : ∀ (algorithms : List Algorithm) (hasAlgorithms : Bool) (table : ImportTable),
      (algorithms.map (Bom.Component.ofAlgorithm hasAlgorithms)).foldl (importComponent property)
        table = table := by
    intro algorithms hasAlgorithms table
    rw [List.foldl_map]
    exact foldl_keeps id (fun _ _ _ => rfl) table
  rw [of_components_imports, of_components_imports]
  change (document.components.map (Bom.Component.attach maps) ++ List.map _ _).foldl _ _ = _
  rw [List.foldl_append, new, List.foldl_map]
  congr 1
  funext table component
  exact old table component

end Seed

namespace Run

/-! ### What a second run collects -/

theorem add_slice_unplaced {Slice : Type} {add : Collector → Slice → Collector}
    (blind : Collector.Blind add) (slice : Option (LoadedSlice Slice)) {first second : Collector}
    (same : first.unplaced = second.unplaced) :
    (addSlice add slice first).unplaced = (addSlice add slice second).unplaced := by
  cases slice with
  | none => exact same
  | some slice => exact blind.congr same slice.data

/-- Apart from places it does not matter which places and components a run begins with. -/
theorem collect_unplaced {first second : Collector} {components others : List Bom.Component}
    {slices same : RunSlices} (start : first.unplaced = second.unplaced)
    (reachables : slices.reachables = same.reachables) (usages : slices.usages = same.usages)
    (dataFlow : slices.dataFlow = same.dataFlow) :
    (collect first components slices).unplaced = (collect second others same).unplaced := by
  unfold collect
  rw [reachables, usages, dataFlow]
  have named : ∀ components slice collector,
      (addSlice (fun collector slice => collector.addSemantics components slice) slice
        collector).unplaced = collector.unplaced := fun components =>
    add_slice_keeps Collector.unplaced fun collector slice =>
      Collector.add_semantics_unplaced collector components slice
  apply add_slice_unplaced Collector.add_data_flow_blind
  rw [named, named]
  apply add_slice_unplaced Collector.add_usages_blind
  exact add_slice_unplaced Collector.add_reachables_blind _ start

theorem collect_algorithms {collector : Collector} {components : List Bom.Component}
    {slices : RunSlices} (unreached : RunSlices.loaded? slices.reachables = none) :
    (collect collector components slices).maps.algorithms = collector.maps.algorithms := by
  have used : ∀ slice next, (addSlice Collector.addUsages slice next).maps.algorithms =
      next.maps.algorithms := add_slice_keeps (fun next => next.maps.algorithms)
    (Collector.add_usages_keeps (fun _ _ _ => rfl) (fun _ _ => rfl))
  have named : ∀ slice next, (addSlice (fun next slice => next.addSemantics components slice) slice
      next).maps.algorithms = next.maps.algorithms :=
    add_slice_keeps (fun next => next.maps.algorithms) fun next slice =>
      Collector.add_semantics_keeps (fun _ _ _ => rfl) next components slice
  have flowed : ∀ slice next, (addSlice Collector.addDataFlow slice next).maps.algorithms =
      next.maps.algorithms := add_slice_keeps (fun next => next.maps.algorithms)
    (Collector.add_data_flow_keeps fun _ _ _ => rfl)
  unfold collect
  rw [unreached, flowed, named, used]
  rfl

/-- Two runs that ask the same index and detector and find the same slices. -/
structure SameSources (config later : RunConfig) (given : Collaborators)
    (files laterFiles : FileTree) : Prop where
  language : later.language = config.language
  annotate : later.annotate = config.annotate
  index : index later given laterFiles = index config given files
  detector : detector later given laterFiles = detector config given files
  slices : ∀ hasComponents, RunSlices.load later hasComponents (opened later given laterFiles) =
    RunSlices.load config hasComponents (opened config given files)

section Second

variable {config later : RunConfig} {given : Collaborators} {files laterFiles : FileTree}
  {document : Bom.Document} {now : Instant}

theorem starter_evidenced (sources : SameSources config later given files laterFiles) :
    starter later given laterFiles (evidenced config given files document now) =
      starter config given files document := by
  unfold starter seed evidenced
  rw [sources.language, sources.index, sources.detector, Seed.imports_of_attach]

theorem slices_evidenced (sources : SameSources config later given files laterFiles) :
    slices later given laterFiles (evidenced config given files document now) =
      RunSlices.load config (!(evidenced config given files document now).components.isEmpty)
        (opened config given files) := sources.slices _

theorem collected_unplaced (sources : SameSources config later given files laterFiles) :
    (collected later given laterFiles (evidenced config given files document now)).unplaced =
      (collected config given files document).unplaced := by
  have start : ∀ (collector : Collector) (places : TextMap TextSet),
      (collector.addLocations places).unplaced = collector.unplaced := by
    intro collector places
    have kept : (collector.maps.addAllLocations
        (places.entries.map fun entry => (entry.1, entry.2.toList))).unplaced =
          collector.maps.unplaced := foldl_keeps EvidenceMaps.unplaced (by intros; rfl) collector.maps
    exact congrArg (fun maps => { collector with maps }) kept
  unfold collected
  apply collect_unplaced
  · rw [start, start, starter_evidenced sources]
  · rw [slices_evidenced sources]
    rfl
  · rw [slices_evidenced sources]
    rfl
  · rw [slices_evidenced sources]
    rfl

/-- The places that the written document tells of a package are all that the run found. -/
theorem places_evidenced {component : Bom.Component} {purl place : String}
    (member : component ∈ document.components) (isPackage : component.purl = some purl) :
    Bom.Places (evidenced config given files document now).components purl place ↔
      Places config given files document purl place := by
  have has : ∀ input, Bom.Component.HasPlaces (Places config given files document) input
      (input.attach (collected config given files document).maps) := fun input =>
    Bom.Component.attach_has_places (fun purl place => mem_collected_places ..) input
  constructor
  · intro fact
    rcases fact with ⟨output, among, outputPackage, located, nonempty⟩
    rcases List.mem_append.1 among with old | new
    · obtain ⟨input, inDocument, rfl⟩ := List.mem_map.1 old
      have inputPackage : input.purl = some purl := (has input).purl ▸ outputPackage
      by_cases told : ∃ place, Places config given files document purl place
      · exact ((has input).members purl inputPackage told place).1 located
      · have kept := (has input).ofNoPlace purl inputPackage told
        have same : (input.attach (collected config given files document).maps).locations =
            input.locations := by
          change ((Bom.Component.occurrences _).getD []).map _ =
            ((Bom.Component.occurrences _).getD []).map _
          rw [kept]
        exact Or.inl ⟨input, inDocument, inputPackage, same ▸ located, nonempty⟩
    · obtain ⟨algorithm, _, rfl⟩ := List.mem_map.1 new
      cases outputPackage
  · intro told
    refine ⟨component.attach (collected config given files document).maps,
      List.mem_append_left _ (List.mem_map_of_mem member), ?_, ?_, told.ne_empty⟩
    · rw [Bom.Component.attach_purl, isPackage]
    · exact ((has component).members purl isPackage ⟨place, told⟩ place).2 told

theorem semantics_places_evidenced {slice : SemanticsSlice} {purl place : String} :
    slice.Places (evidenced config given files document now).components purl place ↔
      slice.Places document.components purl place := by
  have named : ∀ (maps : EvidenceMaps) (component : Bom.Component),
      (component.attach maps).name = component.name := by
    intro maps component
    unfold Bom.Component.attach
    cases component.purl <;> rfl
  constructor
  · intro fact
    rcases fact with ⟨output, among, name, outputName, outputPackage, told⟩
    rcases List.mem_append.1 among with old | new
    · obtain ⟨input, inDocument, rfl⟩ := List.mem_map.1 old
      rw [named] at outputName
      rw [Bom.Component.attach_purl] at outputPackage
      exact ⟨input, inDocument, name, outputName, outputPackage, told⟩
    · obtain ⟨algorithm, _, rfl⟩ := List.mem_map.1 new
      cases outputPackage
  · intro fact
    rcases fact with ⟨input, inDocument, name, inputName, inputPackage, told⟩
    refine ⟨input.attach (collected config given files document).maps,
      List.mem_append_left _ (List.mem_map_of_mem inDocument), name, ?_, ?_, told⟩
    · rw [named, inputName]
    · rw [Bom.Component.attach_purl, inputPackage]

theorem places_again (sources : SameSources config later given files laterFiles)
    {component : Bom.Component} {purl place : String} (member : component ∈ document.components)
    (isPackage : component.purl = some purl) :
    Places later given laterFiles (evidenced config given files document now) purl place ↔
      Places config given files document purl place := by
  have someInput : (!document.components.isEmpty) = true := by
    cases components : document.components with
    | nil => rw [components] at member; cases member
    | cons head rest => rfl
  have someOutput :
      (!(evidenced config given files document now).components.isEmpty) = true := by
    have output : component.attach (collected config given files document).maps ∈
        (evidenced config given files document now).components :=
      List.mem_append_left _ (List.mem_map_of_mem member)
    cases components : (evidenced config given files document now).components with
    | nil => rw [components] at output; cases output
    | cons head rest => rfl
  have sameSlices : slices later given laterFiles (evidenced config given files document now) =
      slices config given files document := by
    rw [slices_evidenced sources, someOutput, slices, someInput]
  have semantics : SemanticsPlaces (evidenced config given files document now).components
        (slices config given files document) purl place ↔
      SemanticsPlaces document.components (slices config given files document) purl place := by
    unfold SemanticsPlaces
    simp only [semantics_places_evidenced]
  unfold Places
  rw [sameSlices, starter_evidenced sources, semantics, places_evidenced member isPackage]
  exact or_iff_left_of_imp Or.inr

theorem updates_again (sources : SameSources config later given files laterFiles)
    {component : Bom.Component} {purl : String} (member : component ∈ document.components)
    (isPackage : component.purl = some purl) :
    EvidenceUpdate.ofMaps (collected later given laterFiles
        (evidenced config given files document now)).maps purl =
      EvidenceUpdate.ofMaps (collected config given files document).maps purl := by
  have locations : ((collected later given laterFiles
        (evidenced config given files document now)).maps.locations.get? purl).getD ∅ =
      ((collected config given files document).maps.locations.get? purl).getD ∅ := by
    ext place
    rw [← TextMap.relates_iff, ← TextMap.relates_iff]
    exact (collected_has_place ..).trans
      ((places_again sources member isPackage).trans (collected_has_place ..).symm)
  have callstacks : (collected later given laterFiles
        (evidenced config given files document now)).maps.callstacks =
      (collected config given files document).maps.callstacks :=
    congrArg (fun collector => collector.maps.callstacks) (collected_unplaced sources)
  unfold EvidenceUpdate.ofMaps
  rw [locations, callstacks]

theorem collected_attach_alike (sources : SameSources config later given files laterFiles) :
    (collected later given laterFiles
      (evidenced config given files document now)).maps.AttachAlike
      (collected config given files document).maps document.components := by
  have same : (collected later given laterFiles
        (evidenced config given files document now)).unplaced =
      (collected config given files document).unplaced := collected_unplaced sources
  constructor
  · exact congrArg (fun collector => collector.maps.algorithms) same
  · exact congrArg (fun collector => collector.maps.providers) same
  · exact congrArg (fun collector => collector.maps.services) same
  · intro component member purl isPackage
    exact updates_again sources member isPackage

theorem reached_of_new_components (nothing : document.components = [])
    (something : (evidenced config given files document now).components ≠ []) :
    (RunSlices.loaded? (slices config given files document).reachables).isSome = true := by
  cases reached : RunSlices.loaded? (slices config given files document).reachables with
  | some slice => rfl
  | none =>
      have noAlgorithms : (collected config given files document).maps.algorithms = ∅ := by
        unfold collected
        rw [collect_algorithms reached]
        exact foldl_keeps EvidenceMaps.algorithms (by intros; rfl)
          (starter config given files document).maps
      have noneNew : document.newAlgorithms (collected config given files document).maps = [] := by
        unfold Bom.Document.newAlgorithms
        rw [noAlgorithms]
        rfl
      exfalso
      apply something
      change document.attachedComponents _ = []
      unfold Bom.Document.attachedComponents
      rw [nothing, noneNew]
      rfl

theorem any_loaded_of_reached {slices : RunSlices}
    (reached : (RunSlices.loaded? slices.reachables).isSome = true) : slices.anyLoaded = true := by
  unfold RunSlices.anyLoaded
  rw [reached]
  simp only [Bool.true_or]

/-- Components that are new to a document without any are algorithms, so that a reachables slice
was loaded both times. -/
theorem any_loaded_again (sources : SameSources config later given files laterFiles) :
    (slices later given laterFiles (evidenced config given files document now)).anyLoaded =
      (slices config given files document).anyLoaded := by
  rw [slices_evidenced sources]
  by_cases same : (evidenced config given files document now).components.isEmpty =
      document.components.isEmpty
  · rw [same]
    rfl
  · have nothing : document.components = [] := by
      cases components : document.components with
      | nil => rfl
      | cons head rest =>
          exfalso
          apply same
          have attached : (evidenced config given files document now).components =
              document.attachedComponents (collected config given files document).maps := rfl
          rw [attached, Bom.Document.attachedComponents, components]
          rfl
    have something : (evidenced config given files document now).components ≠ [] := by
      intro empty
      rw [empty, nothing] at same
      exact same rfl
    have reached := reached_of_new_components nothing something
    have first : (slices config given files document).anyLoaded = true :=
      any_loaded_of_reached reached
    have second : (RunSlices.load config
        (!(evidenced config given files document now).components.isEmpty)
        (opened config given files)).anyLoaded = true := by
      apply any_loaded_of_reached
      exact reached
    rw [first, second]

theorem records_again (sources : SameSources config later given files laterFiles) :
    records later given laterFiles (evidenced config given files document now) =
      records config given files document := by
  have texts : (slices later given laterFiles
        (evidenced config given files document now)).records =
      (slices config given files document).records := by
    rw [slices_evidenced sources]
    rfl
  unfold records
  rw [any_loaded_again sources, texts, sources.annotate]

end Second

end Run

end BomEvidence
