import BomEvidence.Proofs.Bom.Reattached
import BomEvidence.Proofs.Evidence.References

/-!
References in a document with evidence. Where no reference of the evidence is without its
algorithm, what a dependency newly provides is a component of the document, and components that
were told apart by their references still are.
-/

namespace BomEvidence

namespace Bom

def Document.references (document : Document) : List String :=
  document.components.filterMap Component.reference

/-- What is added to a document is referenced well: a dependency provides nothing new that is not
a component, and references that were distinct stay distinct. -/
structure Document.Referenced (before after : Document) : Prop where
  provided : ∀ (position : Nat) old new, (before.dependencies.getD [])[position]? = some old →
    (after.dependencies.getD [])[position]? = some new →
      ∀ reference ∈ new.provides.getD [], reference ∉ old.provides.getD [] →
        ∃ component ∈ after.components, component.reference = some reference
  distinct : before.references.Nodup → after.references.Nodup

theorem Dependency.provides_of_attach {maps : EvidenceMaps} {dependency : Dependency}
    {reference : String} (provided : reference ∈ (dependency.attach maps).provides.getD []) :
    reference ∈ dependency.provides.getD [] ∨
      maps.providers.Relates dependency.reference reference := by
  cases known : providedBy? maps dependency.reference with
  | none =>
      rw [attach_of_none known] at provided
      exact Or.inl provided
  | some references =>
      rw [attach_of_some known, Option.getD_some, mem_merged_texts] at provided
      obtain ⟨held, _⟩ := Option.filter_eq_some_iff.1 known
      exact provided.imp_right fun member => ⟨references, held, member⟩

namespace Document

variable {document : Document} {maps : EvidenceMaps} {records : Option (List SliceRecord)}
  {now : Instant}

theorem references_of_attach : (document.attach maps records now).references =
    document.references ++ (document.newAlgorithms maps).map Algorithm.reference := by
  unfold references
  rw [filter_map_attach (Component.attach_reference maps) fun _ _ => rfl]
  exact congrArg _ (congrFun List.filterMap_eq_map _)

theorem component_of_provided (grounded : maps.Grounded) {purl reference : String}
    (provided : maps.providers.Relates purl reference) :
    ∃ component ∈ (document.attach maps records now).components,
      component.reference = some reference := by
  obtain ⟨algorithm, known⟩ :=
    Option.isSome_iff_exists.1 (grounded.provided purl reference provided)
  have member : algorithm ∈ maps.algorithms.values :=
    List.mem_map_of_mem (TextMap.mem_entries_iff.2 known)
  have standing : some algorithm.reference ∈
      (document.attach maps records now).components.map Component.reference :=
    algorithm_of_attach member
  rw [grounded.own reference algorithm known] at standing
  exact List.mem_map.1 standing

theorem new_references_distinct (grounded : maps.Grounded) :
    ((document.newAlgorithms maps).map Algorithm.reference).Nodup := by
  have keys : maps.algorithms.values.map Algorithm.reference = maps.algorithms.keys := by
    unfold TextMap.values TextMap.keys
    rw [List.map_map]
    apply List.map_congr_left
    intro entry member
    exact grounded.own entry.1 entry.2 (TextMap.mem_entries_iff.1 member)
  have all : (maps.algorithms.values.map Algorithm.reference).Nodup := by
    rw [keys]
    exact maps.algorithms.keys_nodup
  unfold newAlgorithms
  exact all.sublist (List.filter_sublist.map Algorithm.reference)

theorem attach_referenced (grounded : maps.Grounded) :
    Referenced document (document.attach maps records now) := by
  constructor
  · intro position old new before after reference provided notBefore
    have attached : (document.attach maps records now).dependencies.getD [] =
        (document.dependencies.getD []).map (Dependency.attach maps) := by
      unfold attach
      cases document.dependencies <;> rfl
    rw [attached, List.getElem?_map, before, Option.map_some] at after
    cases after
    rcases Dependency.provides_of_attach provided with known | added
    · exact absurd known notBefore
    · exact component_of_provided grounded added
  · intro distinct
    -- New algorithms are told apart by their keys, and from the document by being new to it.
    rw [references_of_attach, List.nodup_append]
    refine ⟨distinct, new_references_distinct grounded, ?_⟩
    intro reference known other new same
    obtain ⟨algorithm, isNew, rfl⟩ := List.mem_map.1 new
    obtain ⟨component, among, own⟩ := List.mem_filterMap.1 known
    have absent := of_decide_eq_true (List.mem_filter.1 isNew).2
    exact absent (List.mem_map.2 ⟨component, among, own.trans (congrArg some same)⟩)

end Document

end Bom

/-- The references that a new collector holds after slices stand for algorithms, whatever the
detector answered, and so does every reference in a document that gets its evidence. -/
theorem Collector.references_grounded (resolver : Resolver) (detector : Option Detector)
    (servings : List Serving) :
    let maps := ((Collector.new resolver detector).serveAll servings).maps
    maps.Grounded ∧ ∀ (document : Bom.Document) (records : Option (List SliceRecord))
      (now : Instant), document.Referenced (document.attach maps records now) := by
  intro maps
  have grounded : maps.Grounded := serve_all_grounded .empty servings
  exact ⟨grounded, fun _ _ _ => Bom.Document.attach_referenced grounded⟩

end BomEvidence
