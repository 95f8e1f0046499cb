import BomEvidence.Proofs.Bom.Callstack
import BomEvidence.Proofs.Bom.Reattached
import Mathlib.Data.List.Forall2

/-!
What evidence leaves of a document as it was. Components keep their order and everything but
their evidence, their tags and their signatures, and come before the components of new
algorithms. Services that were not detected keep their places, and a dependency may change in
what it provides. Of the other members of the document only the version, the time and the
signature change.
-/

namespace BomEvidence

def EvidenceMaps.Provides (maps : EvidenceMaps) (purl : String) : Prop :=
  ∃ reference, maps.providers.Relates purl reference

namespace EvidenceUpdate

theorem merge_into_member (update : EvidenceUpdate) (existing : Option Bom.Evidence)
    (key : String) : ((update.mergeInto existing).bind fun evidence => evidence.extra.get? key) =
      existing.bind fun evidence => evidence.extra.get? key := by
  unfold mergeInto
  split
  · rfl
  · cases existing <;> rfl

theorem merge_into_callstack_member (update : EvidenceUpdate) (existing : Option Bom.Evidence)
    (key : String) :
    (((update.mergeInto existing).bind Bom.Evidence.callstack).bind fun callstack =>
        callstack.extra.get? key) =
      (existing.bind Bom.Evidence.callstack).bind fun callstack => callstack.extra.get? key := by
  rw [merge_into_callstack]
  cases update.frames with
  | none => rfl
  | some frames => cases existing.bind Bom.Evidence.callstack <;> rfl

theorem of_maps_is_empty {maps : EvidenceMaps} {purl : String}
    (noPlace : maps.locations.get? purl = none) (noStack : maps.callstacks.get? purl = none) :
    (ofMaps maps purl).isEmpty = true := by
  unfold ofMaps
  rw [noPlace, noStack]
  rfl

end EvidenceUpdate

namespace Bom

theorem provided_by_iff {maps : EvidenceMaps} {purl : String} :
    (providedBy? maps purl).isSome = true ↔ maps.Provides purl := by
  unfold providedBy? EvidenceMaps.Provides
  simp only [TextMap.relates_iff]
  cases maps.providers.get? purl with
  | none => simp
  | some references =>
      obtain ⟨texts, ascending⟩ := references
      cases texts with
      | nil => simp [TextSet.isEmpty, TextSet.mem_def]
      | cons first rest =>
          exact iff_of_true rfl ⟨first, List.mem_cons_self⟩

/-! ### Components -/

def Component.evidenceMember? (component : Component) (key : String) : Option Json :=
  component.evidence.bind fun evidence => evidence.extra.get? key

def Component.callstackMember? (component : Component) (key : String) : Option Json :=
  component.callstack.bind fun callstack => callstack.extra.get? key

/-- What a component keeps when evidence is attached to it, and when its evidence or its tags
change at all. -/
structure Component.Keeps (maps : EvidenceMaps) (before after : Component) : Prop where
  type : after.type = before.type
  name : after.name = before.name
  purl : after.purl = before.purl
  reference : after.reference = before.reference
  description : after.description = before.description
  properties : after.properties = before.properties
  extra : after.extra = before.extra
  signature : after.signature = none
  evidenceMembers : ∀ key, after.evidenceMember? key = before.evidenceMember? key
  callstackMembers : ∀ key, after.callstackMember? key = before.callstackMember? key
  evidence : (∀ purl, before.purl = some purl →
    maps.locations.get? purl = none ∧ maps.callstacks.get? purl = none) →
      after.evidence = before.evidence
  tags : (∀ purl, before.purl = some purl → ¬maps.Provides purl) → after.tags = before.tags
  providerTags : ∀ purl, before.purl = some purl → maps.Provides purl →
    ∃ tags, after.tags = some tags ∧ tags.Pairwise (· < ·) ∧
      ∀ tag, tag ∈ tags ↔ tag ∈ before.tags.getD [] ∨ tag = "crypto" ∨ tag = "crypto-generate"

namespace Component

theorem keeps_of_no_purl {maps : EvidenceMaps} {component : Component}
    (noPackage : component.purl = none) : Keeps maps component (component.attach maps) := by
  rw [attach_of_no_purl noPackage]
  constructor
  case providerTags =>
    intro purl isPackage
    rw [noPackage] at isPackage
    cases isPackage
  all_goals intros; rfl

theorem keeps_of_purl {maps : EvidenceMaps} {component : Component} {purl : String}
    (isPackage : component.purl = some purl) : Keeps maps component (component.attach maps) := by
  have own : ∀ {other}, component.purl = some other → other = purl := by
    intro other isOther
    exact Option.some.inj (isOther.symm.trans isPackage)
  rw [attach_of_purl isPackage]
  constructor
  case evidenceMembers =>
    intro key
    exact EvidenceUpdate.merge_into_member _ component.evidence key
  case callstackMembers =>
    intro key
    exact EvidenceUpdate.merge_into_callstack_member _ component.evidence key
  case evidence =>
    intro unknown
    obtain ⟨noPlace, noStack⟩ := unknown purl isPackage
    exact if_pos (EvidenceUpdate.of_maps_is_empty noPlace noStack)
  case tags =>
    intro providesNothing
    exact if_neg fun provides => providesNothing purl isPackage (provided_by_iff.1 provides)
  case providerTags =>
    intro other isOther provides
    rw [own isOther] at provides
    refine ⟨mergedTexts component.tags providerTags, if_pos (provided_by_iff.2 provides),
      merged_texts_ascending _ _, fun tag => ?_⟩
    rw [mem_merged_texts, providerTags, List.mem_pair]
  all_goals rfl

theorem attach_keeps (maps : EvidenceMaps) (component : Component) :
    Keeps maps component (component.attach maps) := by
  cases isPackage : component.purl with
  | none => exact keeps_of_no_purl isPackage
  | some purl => exact keeps_of_purl isPackage

end Component

/-! ### Services -/

/-- Services of names that were not detected stand where they stood, and no other service of such
a name is there. -/
structure ServiceEntry.Keeps (detected : ServiceMap) (before after : List ServiceEntry) :
    Prop where
  places : ∀ (position : Nat) entry, before[position]? = some entry →
    detected.get? entry.name = none → after[position]? = some entry
  others : (after.filter fun entry => (detected.get? entry.name).isNone) =
    before.filter fun entry => (detected.get? entry.name).isNone

namespace ServiceEntry

theorem merge_named_place {name : String} {service : Service} {entries : List ServiceEntry}
    {position : Nat} {entry : ServiceEntry} (found : entries[position]? = some entry)
    (apart : entry.name ≠ name) : (mergeNamed name service entries)[position]? = some entry := by
  induction entries generalizing position with
  | nil => cases found
  | cons head rest ih =>
      by_cases same : head.name = name
      · rw [merge_named_same same]
        cases position with
        | zero =>
            cases found
            exact absurd same apart
        | succ before => exact found
      · rw [merge_named_apart same]
        cases position with
        | zero => exact found
        | succ before => exact ih found

theorem filter_merge_named (keep : String → Bool) {name : String} {service : Service}
    (dropped : keep name = false) (entries : List ServiceEntry) :
    ((mergeNamed name service entries).filter fun entry => keep entry.name) =
      entries.filter fun entry => keep entry.name := by
  induction entries with
  | nil =>
      have created : ∀ entry ∈ mergeNamed name service [], ¬keep entry.name = true := by
        intro entry member
        rw [List.mem_singleton.1 member]
        exact Bool.not_eq_true _ ▸ dropped
      rw [List.filter_eq_nil_iff.2 created, List.filter_nil]
  | cons head rest ih =>
      by_cases same : head.name = name
      · have headDropped : keep head.name = false := same ▸ dropped
        have mergedDropped : keep (head.merge service).name = false := headDropped
        rw [merge_named_same same, List.filter_cons_of_neg (by rw [mergedDropped]; exact nofun),
          List.filter_cons_of_neg (by rw [headDropped]; exact nofun)]
      · rw [merge_named_apart same, List.filter_cons, List.filter_cons, ih]

theorem merge_all_keeps (detected : ServiceMap) (entries : List ServiceEntry) :
    Keeps detected entries (mergeAll detected entries) := by
  have known : ∀ added ∈ detected.entries, detected.get? added.1 = some added.2 :=
    fun added member => TextMap.mem_entries_iff.1 member
  constructor
  · intro position entry found unknown
    have apart : ∀ added ∈ detected.entries, entry.name ≠ added.1 := by
      intro added member same
      rw [same, known added member] at unknown
      cases unknown
    refine List.foldlRecOn (motive := fun merged : List ServiceEntry =>
      merged[position]? = some entry) detected.entries _ found ?_
    intro merged kept added member
    exact merge_named_place kept (apart added member)
  · refine foldl_keeps (fun entries : List ServiceEntry =>
      entries.filter fun entry => (detected.get? entry.name).isNone) ?_ entries
    intro entries added member
    refine filter_merge_named (fun name => (detected.get? name).isNone) ?_ entries
    rw [known added member]
    rfl

end ServiceEntry

/-! ### Documents -/

def Dependency.unproviding (dependency : Dependency) : Dependency :=
  { dependency with provides := none }

theorem Dependency.attach_unproviding (maps : EvidenceMaps) (dependency : Dependency) :
    (dependency.attach maps).unproviding = dependency.unproviding := by
  unfold attach
  split <;> rfl

def Metadata.timeless (metadata : Metadata) : Metadata := { metadata with timestamp := none }

namespace Document

structure Keeps (maps : EvidenceMaps) (records : Option (List SliceRecord))
    (before after : Document) : Prop where
  components : ∃ kept added, after.components = kept ++ added ∧
    List.Forall₂ (Component.Keeps maps) before.components kept ∧
      ∀ component ∈ added, ∃ algorithm ∈ maps.algorithms.values, component =
        .ofAlgorithm (before.version?.any (·.atLeast .withAlgorithms)) algorithm
  purls : after.components.filterMap Component.purl = before.components.filterMap Component.purl
  services : ServiceEntry.Keeps maps.services (before.services.getD []) (after.services.getD [])
  noServices : maps.services.isEmpty = true → after.services = before.services
  dependencies : after.dependencies.map (·.map Dependency.unproviding) =
    before.dependencies.map (·.map Dependency.unproviding)
  annotations : records = none → after.annotations = before.annotations
  metadata : after.metadata.map Metadata.timeless =
    some (before.metadata.getD default).timeless
  format : after.format = before.format
  specVersion : after.specVersion = before.specVersion
  serialNumber : after.serialNumber = before.serialNumber
  extra : ∀ key, key ≠ "signature" → after.extra.get? key = before.extra.get? key
  signature : after.extra.get? "signature" = none

variable (document : Document) (maps : EvidenceMaps) (records : Option (List SliceRecord))
  (now : Instant)

theorem purls_of_attach : (document.attach maps records now).components.filterMap Component.purl =
    document.components.filterMap Component.purl := by
  rw [filter_map_attach (Component.attach_purl maps) fun _ _ => rfl,
    List.filterMap_eq_nil_iff.2 fun _ _ => rfl, List.append_nil]

/-- Attaching evidence leaves a document as it was but for what the evidence is about. -/
theorem attach_keeps_rest : Keeps maps records document (document.attach maps records now) := by
  constructor
  case components =>
    refine ⟨document.components.map (Component.attach maps), _, rfl, ?_, ?_⟩
    · rw [List.forall₂_map_right_iff, List.forall₂_same]
      exact fun component _ => Component.attach_keeps maps component
    · intro component member
      obtain ⟨algorithm, isNew, rfl⟩ := List.mem_map.1 member
      exact ⟨algorithm, (List.mem_filter.1 isNew).1, rfl⟩
  case purls => exact purls_of_attach document maps records now
  case services =>
    have merged := ServiceEntry.merge_all_keeps maps.services (document.services.getD [])
    unfold attach
    dsimp only
    by_cases nothing : maps.services.isEmpty = true
    · rw [if_pos nothing]
      exact ⟨fun _ _ found _ => found, rfl⟩
    · rw [if_neg nothing, Option.getD_some]
      exact merged
  case noServices => exact fun nothing => if_pos nothing
  case dependencies =>
    change (document.dependencies.map (·.map (Dependency.attach maps))).map _ = _
    rw [Option.map_map]
    congr 1
    funext dependencies
    rw [Function.comp_apply, List.map_map]
    exact List.map_congr_left fun dependency _ => Dependency.attach_unproviding maps dependency
  case annotations =>
    intro noRecords
    rw [noRecords]
    rfl
  case extra => exact fun key other => (TextMap.get_erase ..).trans (if_neg other)
  case signature => exact (TextMap.get_erase ..).trans (if_pos rfl)
  all_goals rfl

end Document

end Bom

end BomEvidence
