import BomEvidence.Proofs.Bom.Attached

/-!
Evidence that is attached a second time. A component, a service or a dependency that has its
evidence does not change, every algorithm stands in the document already, and only the version
counts the second time.
-/

namespace BomEvidence

/-- Two maps that attach the same to the components of a document. -/
structure EvidenceMaps.AttachAlike (first second : EvidenceMaps) (components : List Bom.Component) :
    Prop where
  algorithms : first.algorithms = second.algorithms
  providers : first.providers = second.providers
  services : first.services = second.services
  updates : ∀ component ∈ components, ∀ purl, component.purl = some purl →
    EvidenceUpdate.ofMaps first purl = EvidenceUpdate.ofMaps second purl

theorem EvidenceMaps.AttachAlike.refl (maps : EvidenceMaps) (components : List Bom.Component) :
    maps.AttachAlike maps components := ⟨rfl, rfl, rfl, fun _ _ _ _ => rfl⟩

namespace Bom

theorem provided_by_congr {first second : EvidenceMaps} (same : first.providers = second.providers)
    (purl : String) : providedBy? first purl = providedBy? second purl := by
  unfold providedBy?
  rw [same]

namespace Component

@[simp] theorem attach_reference (maps : EvidenceMaps) (component : Component) :
    (component.attach maps).reference = component.reference := by
  unfold attach
  dsimp only
  split <;> rfl

theorem attach_attach {maps later : EvidenceMaps} {component : Component}
    (providers : later.providers = maps.providers)
    (updates : ∀ purl, component.purl = some purl →
      EvidenceUpdate.ofMaps later purl = EvidenceUpdate.ofMaps maps purl) :
    (component.attach maps).attach later = component.attach maps := by
  cases isPackage : component.purl with
  | none =>
      have still : (component.attach maps).purl = none := by rw [attach_purl, isPackage]
      rw [attach_of_no_purl still, attach_of_no_purl isPackage]
  | some purl =>
      have still : (component.attach maps).purl = some purl := by rw [attach_purl, isPackage]
      rw [attach_of_purl still, updates purl isPackage, provided_by_congr providers,
        attach_of_purl isPackage]
      dsimp only
      rw [EvidenceUpdate.merge_into_merge_into]
      by_cases provides : (providedBy? maps purl).isSome = true
      · simp only [provides, if_true, merged_texts_merged_texts]
      · simp only [provides]
        rfl

theorem attach_of_algorithm (maps : EvidenceMaps) (hasAlgorithms : Bool) (algorithm : Algorithm) :
    (ofAlgorithm hasAlgorithms algorithm).attach maps = ofAlgorithm hasAlgorithms algorithm := by
  rw [attach_of_no_purl rfl]
  rfl

end Component

namespace Dependency

theorem attach_of_none {maps : EvidenceMaps} {dependency : Dependency}
    (absent : providedBy? maps dependency.reference = none) :
    dependency.attach maps = dependency := by
  unfold attach
  rw [absent]

theorem attach_of_some {maps : EvidenceMaps} {dependency : Dependency} {references : TextSet}
    (provided : providedBy? maps dependency.reference = some references) :
    dependency.attach maps = { dependency with
      provides := some (mergedTexts dependency.provides references.toList) } := by
  unfold attach
  rw [provided]

theorem attach_attach {maps later : EvidenceMaps} (providers : later.providers = maps.providers)
    (dependency : Dependency) :
    (dependency.attach maps).attach later = dependency.attach maps := by
  cases provided : providedBy? maps dependency.reference with
  | none =>
      rw [attach_of_none provided]
      exact attach_of_none ((provided_by_congr providers _).trans provided)
  | some references =>
      have again : providedBy? later (dependency.attach maps).reference = some references := by
        rw [attach_of_some provided, provided_by_congr providers]
        exact provided
      rw [attach_of_some again, attach_of_some provided]
      dsimp only
      rw [merged_texts_merged_texts]

end Dependency

namespace Document

variable {document : Document} {maps later : EvidenceMaps} {records : Option (List SliceRecord)}
  {now next : Instant}

/-- What is read from the components of a document with evidence, where it is read alike from a
component with evidence and without: what the document tells, and then what new algorithms tell. -/
theorem filter_map_attach {Value : Type} {read : Component → Option Value}
    {new : Algorithm → Option Value}
    (kept : ∀ component : Component, read (component.attach maps) = read component)
    (created : ∀ hasAlgorithms algorithm,
      read (.ofAlgorithm hasAlgorithms algorithm) = new algorithm) :
    (document.attach maps records now).components.filterMap read =
      document.components.filterMap read ++ (document.newAlgorithms maps).filterMap new := by
  have old : read ∘ Component.attach maps = read := funext kept
  have others (hasAlgorithms : Bool) : read ∘ Component.ofAlgorithm hasAlgorithms = new :=
    funext (created hasAlgorithms)
  change List.filterMap read (_ ++ _) = _
  rw [List.filterMap_append, List.filterMap_map, List.filterMap_map, old, others]

theorem algorithm_of_attach {algorithm : Algorithm} (member : algorithm ∈ maps.algorithms.values) :
    some algorithm.reference ∈
      (document.attach maps records now).components.map Component.reference := by
  by_cases known : some algorithm.reference ∈ document.components.map Component.reference
  · obtain ⟨component, among, reference⟩ := List.mem_map.1 known
    refine List.mem_map.2 ⟨component.attach maps, List.mem_append_left _ ?_, ?_⟩
    · exact List.mem_map_of_mem among
    · rw [Component.attach_reference, reference]
  · have new : algorithm ∈ document.newAlgorithms maps :=
      List.mem_filter.2 ⟨member, decide_eq_true known⟩
    exact List.mem_map.2 ⟨_, List.mem_append_right _ (List.mem_map_of_mem new), rfl⟩

theorem new_algorithms_attach (same : later.algorithms = maps.algorithms) :
    (document.attach maps records now).newAlgorithms later = [] := by
  unfold newAlgorithms
  rw [same, List.filter_eq_nil_iff]
  intro algorithm member
  rw [decide_eq_true_eq, Decidable.not_not]
  exact algorithm_of_attach member

theorem attached_components_attach (alike : later.AttachAlike maps document.components) :
    (document.attach maps records now).attachedComponents later =
      (document.attach maps records now).components := by
  unfold attachedComponents
  dsimp only
  rw [new_algorithms_attach alike.algorithms, List.map_nil, List.append_nil]
  change (document.attachedComponents maps).map (Component.attach later) =
    document.attachedComponents maps
  rw [← List.map_id (document.attachedComponents maps), List.map_map]
  apply List.map_congr_left
  intro component member
  change component.attach later = component
  rcases List.mem_append.1 member with old | new
  · obtain ⟨before, among, rfl⟩ := List.mem_map.1 old
    exact Component.attach_attach alike.providers (alike.updates before among)
  · obtain ⟨algorithm, _, rfl⟩ := List.mem_map.1 new
    exact Component.attach_of_algorithm later _ algorithm

theorem first_tool_attach : (document.attach maps records now).firstTool? = document.firstTool? := by
  unfold firstTool? attach
  cases document.metadata <;> rfl

theorem annotation_attach (slice : SliceRecord) :
    annotation (document.attach maps records now) next slice =
      annotation document next slice := by
  unfold annotation
  rw [first_tool_attach]
  rfl

/-- Attaching the same evidence again is attaching it once, at the later instant, and counting
one more version. -/
theorem attach_attach (alike : later.AttachAlike maps document.components) :
    (document.attach maps records now).attach later records next =
      { document.attach maps records next with
        version := some (document.version.getD 1 + 1 + 1) } := by
  have services : (if later.services.isEmpty then (document.attach maps records now).services
      else some (ServiceEntry.mergeAll later.services
        ((document.attach maps records now).services.getD []))) =
      (document.attach maps records now).services := by
    rw [alike.services]
    unfold attach
    dsimp only
    by_cases nothing : maps.services.isEmpty = true
    · rw [if_pos nothing, if_pos nothing]
    · rw [if_neg nothing, if_neg nothing, Option.getD_some, ServiceEntry.merge_all_merge_all]
  have dependencies : (document.attach maps records now).dependencies.map
      (·.map (Dependency.attach later)) = (document.attach maps records now).dependencies := by
    unfold attach
    dsimp only
    rw [Option.map_map]
    congr 1
    funext dependencies
    rw [Function.comp_apply, List.map_map]
    apply List.map_congr_left
    intro dependency _
    exact Dependency.attach_attach alike.providers dependency
  have extra : (document.attach maps records now).extra.erase "signature" =
      (document.attach maps records now).extra := TextMap.erase_erase document.extra "signature"
  refine (Document.mk.injEq ..).mpr ⟨rfl, rfl, rfl, rfl, rfl, attached_components_attach alike,
    services, dependencies, ?_, extra⟩
  cases records with
  | none => rfl
  | some slices =>
      change some (slices.map _) = some (slices.map _)
      congr 1
      apply List.map_congr_left
      intro slice _
      exact annotation_attach slice

/-- Attaching the same evidence twice is attaching it once and counting one more version. Every
algorithm has its component then, and none is left to be added. -/
theorem attach_again_counts_version (document : Document) (maps : EvidenceMaps)
    (records : Option (List SliceRecord)) (now : Instant) :
    let once := document.attach maps records now
    once.attach maps records now = { once with version := once.version.map (· + 1) } ∧
      once.newAlgorithms maps = [] :=
  ⟨attach_attach (.refl maps document.components), new_algorithms_attach rfl⟩

end Document

end Bom

end BomEvidence
