import BomEvidence.Proofs.Bom.Attached
import BomEvidence.Proofs.Evidence.Places
import BomEvidence.Proofs.Run.Outcome
import BomEvidence.Proofs.Sorted.Bytes

/-!
The occurrences that a run writes. A place survives a run because the places of all
components are put into the maps before any slice is read, slices only add places, and a
component gets all places of its package back.
-/

namespace BomEvidence

theorem Collector.Alike.places_iff {first second : Collector} (alike : first.Alike second)
    {slice : UsageSlice} {purl place : String} :
    slice.Places first purl place ↔ slice.Places second purl place := by
  unfold UsageSlice.Places
  simp only [Collector.shows_iff, alike.userTypes, alike.language, alike.purls]

namespace Run

def UsagePlaces (collector : Collector) (slices : RunSlices) (purl place : String) : Prop :=
  ∃ slice, slices.usages.slice? = some slice ∧ slice.data.Places collector purl place

def SemanticsPlaces (components : List Bom.Component) (slices : RunSlices)
    (purl place : String) : Prop :=
  ∃ slice, RunSlices.loaded? slices.semantics = some slice ∧
    slice.data.Places components purl place

theorem add_reached {collector : Collector} {slices : RunSlices} :
    let reached := addSlice Collector.addReachables (RunSlices.loaded? slices.reachables) collector
    reached.Alike collector ∧ reached.maps.locations = collector.maps.locations := by
  dsimp only
  unfold addSlice
  split
  · rename_i slice _
    exact ⟨(Collector.add_reachables_asks collector slice.data).alike,
      Collector.add_reachables_keeps (fun _ _ _ => rfl) (fun _ _ _ => rfl) (fun _ _ => rfl) collector
        slice.data⟩
  · exact ⟨⟨rfl, rfl, fun _ => rfl⟩, rfl⟩

theorem collect_has_place {collector : Collector} {components : List Bom.Component}
    {slices : RunSlices} {purl place : String} :
    (collect collector components slices).maps.HasPlace purl place ↔
      collector.maps.HasPlace purl place ∨ UsagePlaces collector slices purl place ∨
        SemanticsPlaces components slices purl place := by
  let reached := addSlice Collector.addReachables (RunSlices.loaded? slices.reachables) collector
  let used := addSlice Collector.addUsages slices.usages.slice? reached
  let named := addSlice (fun collector slice => collector.addSemantics components slice)
    (RunSlices.loaded? slices.semantics) used
  obtain ⟨alike, kept⟩ : reached.Alike collector ∧
      reached.maps.locations = collector.maps.locations := add_reached
  have usedPlaces : used.maps.HasPlace purl place ↔
      collector.maps.HasPlace purl place ∨ UsagePlaces collector slices purl place := by
    have start : reached.maps.HasPlace purl place ↔ collector.maps.HasPlace purl place := by
      rw [EvidenceMaps.HasPlace, kept, EvidenceMaps.HasPlace]
    unfold used addSlice UsagePlaces
    cases slices.usages.slice? with
    | none => simp [start]
    | some slice =>
        dsimp only
        rw [Collector.has_place_add_usages, start, alike.places_iff]
        simp
  have namedPlaces : named.maps.HasPlace purl place ↔
      used.maps.HasPlace purl place ∨ SemanticsPlaces components slices purl place := by
    unfold named addSlice SemanticsPlaces
    cases RunSlices.loaded? slices.semantics with
    | none => simp
    | some slice =>
        dsimp only
        rw [Collector.has_place_add_semantics]
        simp
  have flowKeeps : (collect collector components slices).maps.locations = named.maps.locations :=
    add_slice_keeps (fun collector => collector.maps.locations)
      (Collector.add_data_flow_keeps fun _ _ _ => rfl) (RunSlices.loaded? slices.dataFlow) named
  rw [EvidenceMaps.HasPlace, flowKeeps]
  change named.maps.HasPlace purl place ↔ _
  rw [namedPlaces, usedPlaces, or_assoc]

section Places

variable (config : RunConfig) (given : Collaborators) (files : FileTree) (document : Bom.Document)

/-- The places of a package: those of the document, and those that slices tell. -/
def Places (purl place : String) : Prop :=
  Bom.Places document.components purl place ∨
    UsagePlaces (starter config given files document) (slices config given files document) purl
      place ∨
    SemanticsPlaces document.components (slices config given files document) purl place

theorem collected_has_place {purl place : String} :
    (collected config given files document).maps.HasPlace purl place ↔
      Places config given files document purl place := by
  unfold collected Places
  have nothing : ¬(starter config given files document).maps.HasPlace purl place :=
    TextMap.not_relates_emptyset purl place
  have alike : Collector.Alike
      ((starter config given files document).addLocations (seed config document).locations)
      (starter config given files document) := ⟨rfl, rfl, fun _ => rfl⟩
  have usages : UsagePlaces
        ((starter config given files document).addLocations (seed config document).locations)
        (slices config given files document) purl place ↔
      UsagePlaces (starter config given files document) (slices config given files document) purl
        place := by
    unfold UsagePlaces
    simp only [alike.places_iff]
  rw [collect_has_place, Collector.has_place_add_locations, or_iff_right nothing, usages, seed,
    Seed.of_components_places]

variable {config given files document} in
theorem Places.ne_empty {purl place : String}
    (places : Places config given files document purl place) : place ≠ "" := by
  rcases places with ⟨_, _, _, _, nonempty⟩ | ⟨_, _, told⟩ | ⟨_, _, told⟩
  · exact nonempty
  · exact told.ne_empty
  · exact told.ne_empty

theorem mem_collected_places {purl place : String} :
    place ∈ (EvidenceUpdate.ofMaps (collected config given files document).maps purl).places ↔
      Places config given files document purl place := by
  rw [EvidenceUpdate.mem_of_maps, collected_has_place, and_iff_left_iff_imp]
  exact Places.ne_empty

end Places

end Run

/-- A component of the output has the places of its package: all of them in the order of their
bytes if there are any, and otherwise the occurrences of the input. -/
structure Bom.Component.HasPlaces (places : String → String → Prop) (input output : Component) :
    Prop where
  purl : output.purl = input.purl
  ofNoPackage : input.purl = none → output.occurrences = input.occurrences
  ascending : ∀ purl, input.purl = some purl → (∃ place, places purl place) →
    output.locations.Pairwise fun first second => bytesOf first < bytesOf second
  members : ∀ purl, input.purl = some purl → (∃ place, places purl place) →
    ∀ place, place ∈ output.locations ↔ places purl place
  ofNoPlace : ∀ purl, input.purl = some purl → (¬∃ place, places purl place) →
    output.occurrences = input.occurrences

theorem Bom.Component.attach_has_places {maps : EvidenceMaps} {places : String → String → Prop}
    (held : ∀ purl place, place ∈ (EvidenceUpdate.ofMaps maps purl).places ↔ places purl place)
    (component : Component) : HasPlaces places component (component.attach maps) := by
  have placed : ∀ {purl}, (∃ place, places purl place) →
      (EvidenceUpdate.ofMaps maps purl).places ≠ [] := by
    intro purl fact
    rcases fact with ⟨place, told⟩
    exact List.ne_nil_of_mem ((held purl place).2 told)
  constructor
  · exact attach_purl maps component
  · intro noPackage
    rw [attach_of_no_purl noPackage]
    rfl
  · intro purl isPackage told
    rw [attach_locations isPackage (placed told)]
    exact (EvidenceUpdate.places_ascending _).imp lt_iff_bytes_lt.1
  · intro purl isPackage told
    rw [attach_locations isPackage (placed told)]
    exact held purl
  · intro purl isPackage untold
    have noPlaces : (EvidenceUpdate.ofMaps maps purl).places.isEmpty = true := by
      rw [List.isEmpty_iff, List.eq_nil_iff_forall_not_mem]
      intro place member
      exact untold ⟨place, (held purl place).1 member⟩
    rw [attach_occurrences isPackage, if_pos noPlaces]

namespace Run

/-- The occurrences of every component of the document after a run that succeeds. -/
theorem occurrences_of_execute {config : RunConfig} {given : Collaborators} {now : Instant}
    {files : FileTree} (done : (execute config given now files).outcome.isOk = true) :
    ∃ (document written : Bom.Document) (processed : Json),
      readDocument config files = .ok document ∧
      given.postProcessor.process written.toJson = .ok processed ∧
      (execute config given now files).files.readText config.outputPath = .ok processed.pretty ∧
      ∀ (position : Nat) (input : Bom.Component), document.components[position]? = some input →
        ∃ output, written.components[position]? = some output ∧
          input.HasPlaces (Places config given files document) output := by
  obtain ⟨document, read, processed, made, text⟩ := execute_is_ok done
  refine ⟨document, evidenced config given files document now, processed, read, made, text, ?_⟩
  intro position input found
  let maps := (collected config given files document).maps
  refine ⟨input.attach maps, Bom.Document.attach_component found, ?_⟩
  exact Bom.Component.attach_has_places (fun purl place => mem_collected_places ..) input

def sampleDocument : Bom.Document :=
  { (default : Bom.Document) with
    specVersion := some "1.5"
    components := [{ (default : Bom.Component) with
      purl := some "pkg:maven/slf4j@2.0"
      evidence := some ⟨some [⟨"Main.java#7", ∅⟩], none, ∅⟩ }] }

def sampleUsages : Json :=
  .object [("objectSlices", .array [.object [("fileName", .text "App.java"),
    ("usages", .array [.object [("targetObj", .object [("isExternal", .bool true),
      ("lineNumber", .ofWord 12), ("typeFullName", .text "slf4j.Logger")])]])]])]

def sampleFiles : FileTree :=
  (FileTree.empty.add "bom.json" (.text sampleDocument.toJson.compact)).add "usages.json"
    (.text sampleUsages.compact)

def sampleConfig : RunConfig where
  input := "bom.json"
  output := ""
  language := .java
  databasePath := ""
  usagesPath := some "usages.json"
  dataFlowPath := none
  reachablesPath := none
  semanticsPath := none
  withDataFlow := false
  withReachables := false
  includeCrypto := false
  annotate := true
  leastSliceBytes := 0
  greatestSliceBytes := 4096
  cryptoCatalogPath := ""

def sampleCollaborators : Collaborators :=
  ⟨some (Catalog.memoryIndex (.ofList [("pkg:maven/slf4j@2.0", "slf4j.Logger")])),
    none, .identity⟩

theorem occurrences_of_sample :
    (execute sampleConfig sampleCollaborators ⟨0⟩ sampleFiles).outcome.isOk = true ∧
    ∃ (document written : Bom.Document) (processed : Json),
      readDocument sampleConfig sampleFiles = .ok document ∧
      sampleCollaborators.postProcessor.process written.toJson = .ok processed ∧
      (execute sampleConfig sampleCollaborators ⟨0⟩ sampleFiles).files.readText
        sampleConfig.outputPath = .ok processed.pretty ∧
      ∀ (position : Nat) (input : Bom.Component), document.components[position]? = some input →
        ∃ output, written.components[position]? = some output ∧
          input.HasPlaces (Places sampleConfig sampleCollaborators sampleFiles document) output := by
  have done : (execute sampleConfig sampleCollaborators ⟨0⟩ sampleFiles).outcome.isOk = true := by
    decide +kernel
  exact ⟨done, occurrences_of_execute done⟩

end Run

end BomEvidence
