import BomEvidence.Proofs.Crypto.Listing
import BomEvidence.Proofs.Evidence.Positions
import BomEvidence.Proofs.Evidence.References

/-!
The texts that evidence is known by. A reference is written as a name and an object identifier with
a mark between them; where the identifiers have no mark, the last mark of a reference tells where
its identifier begins, whatever the name is. So the algorithms of a catalog have references of their
own. Main statement: positions have places of their own and are written as occurrences of their own,
and after any slices each entry of a catalog that was found is held under its reference.
-/

namespace BomEvidence

/-! ### References -/

/-- The last mark of a reference stands between its name and its identifier. -/
theorem Algorithm.reference_for_eq_iff {name other : String} {oid later : Option String}
    (free : '@' ∉ (oid.getD "").toList) (freeToo : '@' ∉ (later.getD "").toList) :
    referenceFor name oid = referenceFor other later ↔
      name = other ∧ oid.getD "" = later.getD "" := by
  unfold referenceFor
  rw [Text.append_mark_inj (c := '@') rfl free freeToo, String.append_right_inj]

namespace AlgorithmCatalog

def HavePlainIdentifiers (entries : TextMap Entry) : Prop :=
  ∀ name entry, entries.get? name = some entry → '@' ∉ (entry.1.getD "").toList

/-- An algorithm is that of an entry, whose name has a given property. -/
def Offers (entries : TextMap Entry) (named : String → Prop) (algorithm : Algorithm) : Prop :=
  ∃ name entry, entries.get? name = some entry ∧ named name ∧ entry.algorithm name = algorithm

variable {entries : TextMap Entry} {named other : String → Prop}

theorem Offers.mono {algorithm : Algorithm} (offered : Offers entries named algorithm)
    (weaker : ∀ name, named name → other name) : Offers entries other algorithm := by
  obtain ⟨name, entry, held, holds, made⟩ := offered
  exact ⟨name, entry, held, weaker name holds, made⟩

theorem offers_exists_iff {Item : Type} {items : List Item} {named : Item → String → Prop}
    {algorithm : Algorithm} : (∃ item ∈ items, Offers entries (named item) algorithm) ↔
      Offers entries (fun name => ∃ item ∈ items, named item name) algorithm := by
  constructor
  · intro fact
    rcases fact with ⟨item, member, name, entry, held, holds, made⟩
    exact ⟨name, entry, held, ⟨item, member, holds⟩, made⟩
  · intro fact
    rcases fact with ⟨name, entry, held, ⟨item, member, holds⟩, made⟩
    exact ⟨item, member, name, entry, held, holds, made⟩

theorem eq_of_reference (plain : HavePlainIdentifiers entries) {first second : Algorithm}
    (offered : Offers entries named first) (offeredToo : Offers entries other second)
    (same : first.reference = second.reference) : first = second := by
  obtain ⟨name, entry, held, _, rfl⟩ := offered
  obtain ⟨later, last, heldToo, _, rfl⟩ := offeredToo
  obtain ⟨rfl, _⟩ := (Algorithm.reference_for_eq_iff (plain name entry held)
    (plain later last heldToo)).1 same
  rw [held] at heldToo
  cases heldToo
  rfl

end AlgorithmCatalog

/-! ### Algorithms of a catalog -/

open AlgorithmCatalog (Entry HavePlainIdentifiers Offers ofEntries)

/-- Algorithms of entries that stand under their own references. -/
def Algorithm.OfEntries (entries : TextMap Entry) (known : TextMap Algorithm) : Prop :=
  ∀ reference algorithm, known.get? reference = some algorithm →
    algorithm.reference = reference ∧ Offers entries (fun _ => True) algorithm

section Storing

variable {entries : TextMap Entry} {named : String → Prop} {known : TextMap Algorithm}

theorem held_insert_new (plain : HavePlainIdentifiers entries)
    (own : Algorithm.OfEntries entries known) {added : Algorithm}
    (offered : Offers entries named added) (reference : String) (algorithm : Algorithm) :
    (known.insertNew added.reference added).get? reference = some algorithm ↔
      known.get? reference = some algorithm ∨
        added = algorithm ∧ algorithm.reference = reference := by
  unfold TextMap.insertNew
  rw [TextMap.get_alter]
  by_cases same : reference = added.reference
  · subst same
    rw [if_pos rfl]
    cases held : known.get? added.reference with
    | none =>
        rw [Option.getD_none, Option.some.injEq, or_iff_right (Option.some_ne_none _).symm]
        exact ⟨fun same => ⟨same, congrArg Algorithm.reference same.symm⟩, fun fact => fact.1⟩
    | some first =>
        -- What is held under the reference is the same entry of the catalog.
        obtain ⟨sameReference, offeredFirst⟩ := own _ first held
        obtain rfl := AlgorithmCatalog.eq_of_reference plain offeredFirst offered sameReference
        rw [Option.getD_some, Option.some.injEq, or_iff_left_of_imp fun fact => fact.1]
  · rw [if_neg same, or_iff_left]
    intro fact
    rcases fact with ⟨rfl, atKey⟩
    exact same atKey.symm

theorem of_entries_insert_new (plain : HavePlainIdentifiers entries)
    (own : Algorithm.OfEntries entries known) {added : Algorithm}
    (offered : Offers entries named added) :
    Algorithm.OfEntries entries (known.insertNew added.reference added) := by
  intro reference algorithm held
  rcases (held_insert_new plain own offered reference algorithm).1 held with before | ⟨rfl, same⟩
  · exact own reference algorithm before
  · exact ⟨same, offered.mono fun _ _ => trivial⟩

/-- The algorithms of entries are held once they were added, and nothing takes the place of another
one. -/
theorem held_insert_all (plain : HavePlainIdentifiers entries)
    (own : Algorithm.OfEntries entries known) {added : List Algorithm}
    (offered : ∀ algorithm ∈ added, Offers entries named algorithm) (reference : String)
    (algorithm : Algorithm) :
    let after := added.foldl (fun known algorithm => known.insertNew algorithm.reference algorithm)
      known
    Algorithm.OfEntries entries after ∧
      (after.get? reference = some algorithm ↔ known.get? reference = some algorithm ∨
        algorithm ∈ added ∧ algorithm.reference = reference) := by
  intro after
  obtain ⟨kept, grown⟩ : Algorithm.OfEntries entries after ∧
      (after.get? reference = some algorithm ↔ known.get? reference = some algorithm ∨
        ∃ item ∈ added, item = algorithm ∧ algorithm.reference = reference) :=
    foldl_grows (Algorithm.OfEntries entries) (fun known => known.get? reference = some algorithm)
      (fun _ item member own => of_entries_insert_new plain own (offered item member))
      (fun _ item member own => held_insert_new plain own (offered item member) reference algorithm)
      known own
  refine ⟨kept, grown.trans (or_congr Iff.rfl ?_)⟩
  constructor
  · intro fact
    rcases fact with ⟨_, member, rfl, same⟩
    exact ⟨member, same⟩
  · intro fact
    exact ⟨algorithm, fact.1, rfl, fact.2⟩

end Storing

def ReachableNode.Mentions (node : ReachableNode) (name : String) : Prop :=
  ∃ code, node.Searches code ∧ AlgorithmCatalog.Mentions code name

def Intake.Mentions : Intake → String → Prop
  | .reachables slice, name => ∃ node ∈ slice.nodes, node.Mentions name
  | .usages _, _ | .semantics _ _, _ | .dataFlow _, _ => False

namespace Collector

variable {entries : TextMap Entry} {collector : Collector}

theorem mem_findings_iff {node : ReachableNode} {algorithm : Algorithm} :
    algorithm ∈ findings (detect (some (ofEntries entries).detector) node) ↔
      Offers entries node.Mentions algorithm := by
  unfold Offers ReachableNode.Mentions detect
  simp only [searches_iff]
  constructor
  · intro member
    split at member
    · cases member
    · rename_i nonempty
      obtain ⟨name, entry, held, mentioned, made⟩ :=
        AlgorithmCatalog.mem_find_of_entries_iff.1 member
      exact ⟨name, entry, held, ⟨_, ⟨rfl, nonempty⟩, mentioned⟩, made⟩
  · intro offered
    obtain ⟨name, entry, held, ⟨_, ⟨rfl, nonempty⟩, mentioned⟩, made⟩ := offered
    rw [if_neg nonempty]
    exact AlgorithmCatalog.mem_find_of_entries_iff.2 ⟨name, entry, held, mentioned, made⟩

/-- A collector whose detector is a catalog, and which holds the algorithms of its entries alone. -/
structure Catalogued (entries : TextMap Entry) (collector : Collector) : Prop where
  detector : collector.detector = some (ofEntries entries).detector
  own : Algorithm.OfEntries entries collector.maps.algorithms

def Holds (collector : Collector) (reference : String) (algorithm : Algorithm) : Prop :=
  collector.maps.algorithms.get? reference = some algorithm

theorem Catalogued.add_chain (plain : HavePlainIdentifiers entries)
    (catalogued : collector.Catalogued entries) (node : ReachableNode) (reference : String)
    (algorithm : Algorithm) :
    (collector.addChain node).Catalogued entries ∧
      ((collector.addChain node).Holds reference algorithm ↔
        collector.Holds reference algorithm ∨
          Offers entries node.Mentions algorithm ∧ algorithm.reference = reference) := by
  have offered : ∀ added ∈ findings (detect collector.detector node),
      Offers entries node.Mentions added := by
    intro added member
    rw [catalogued.detector] at member
    exact mem_findings_iff.1 member
  obtain ⟨own, held⟩ := held_insert_all plain catalogued.own offered reference algorithm
  rw [← add_chain_algorithms] at own held
  refine ⟨⟨(add_chain_detector collector node).trans catalogued.detector, own⟩, ?_⟩
  rw [Holds, held, ← mem_findings_iff, ← catalogued.detector]
  rfl

theorem take_detector (collector : Collector) (intake : Intake) :
    (collector.take intake).detector = collector.detector := by
  cases intake with
  | usages slice =>
      have object : ∀ (next : Collector) (object : ObjectSlice),
          (next.addObject object).detector = next.detector :=
        fun next object => foldl_keeps Collector.detector (by intros; rfl) next
      exact foldl_keeps Collector.detector (fun next item _ => object next item)
        { collector with userTypes := collector.userTypes ∪ slice.typeNames }
  | semantics components slice => rfl
  | reachables slice =>
      exact foldl_keeps Collector.detector (fun next node _ => add_chain_detector next node)
        collector
  | dataFlow slice => exact foldl_keeps Collector.detector (by intros; rfl) collector

theorem Catalogued.take (plain : HavePlainIdentifiers entries)
    (catalogued : collector.Catalogued entries) (intake : Intake) (reference : String)
    (algorithm : Algorithm) :
    (collector.take intake).Catalogued entries ∧
      ((collector.take intake).Holds reference algorithm ↔ collector.Holds reference algorithm ∨
        Offers entries intake.Mentions algorithm ∧ algorithm.reference = reference) := by
  -- Only reachables are searched for algorithms.
  have unchanged : (collector.take intake).maps.algorithms = collector.maps.algorithms →
      (∀ name, ¬intake.Mentions name) → (collector.take intake).Catalogued entries ∧
        ((collector.take intake).Holds reference algorithm ↔ collector.Holds reference algorithm ∨
          Offers entries intake.Mentions algorithm ∧ algorithm.reference = reference) := by
    intro same never
    have unoffered : ¬Offers entries intake.Mentions algorithm := by
      intro offered
      obtain ⟨name, _, _, mentioned, _⟩ := offered
      exact never name mentioned
    unfold Holds
    rw [same, or_iff_left fun fact => unoffered fact.1]
    exact ⟨⟨(take_detector collector intake).trans catalogued.detector, same ▸ catalogued.own⟩,
      Iff.rfl⟩
  cases intake with
  | reachables slice =>
      let after := slice.nodes.foldl addChain collector
      obtain ⟨kept, grown⟩ : after.Catalogued entries ∧
          (after.Holds reference algorithm ↔ collector.Holds reference algorithm ∨
            ∃ node ∈ slice.nodes,
              Offers entries node.Mentions algorithm ∧ algorithm.reference = reference) :=
        foldl_grows (Catalogued entries) (fun next => next.Holds reference algorithm)
          (fun _ node _ catalogued => (catalogued.add_chain plain node reference algorithm).1)
          (fun _ node _ catalogued => (catalogued.add_chain plain node reference algorithm).2)
          collector catalogued
      refine ⟨kept, grown.trans (or_congr Iff.rfl ?_)⟩
      simp only [← and_assoc, exists_and_right, AlgorithmCatalog.offers_exists_iff]
      rfl
  | usages slice =>
      exact unchanged (add_usages_keeps (fun _ _ _ => rfl) (fun _ _ => rfl) collector slice)
        fun _ => id
  | semantics components slice =>
      exact unchanged (add_semantics_keeps (fun _ _ _ => rfl) collector components slice)
        fun _ => id
  | dataFlow slice =>
      exact unchanged (add_data_flow_keeps (fun _ _ _ => rfl) collector slice) fun _ => id

/-- Slices add the algorithms of the entries that they mention, each under its own reference. -/
theorem Catalogued.take_all (plain : HavePlainIdentifiers entries)
    (catalogued : collector.Catalogued entries) (intakes : List Intake) (reference : String)
    (algorithm : Algorithm) :
    (collector.takeAll intakes).Holds reference algorithm ↔ collector.Holds reference algorithm ∨
      Offers entries (fun name => ∃ intake ∈ intakes, intake.Mentions name) algorithm ∧
        algorithm.reference = reference := by
  have grown : (collector.takeAll intakes).Holds reference algorithm ↔
      collector.Holds reference algorithm ∨ ∃ intake ∈ intakes,
        Offers entries intake.Mentions algorithm ∧ algorithm.reference = reference :=
    (foldl_grows (Catalogued entries) (fun next : Collector => next.Holds reference algorithm)
      (fun _ intake _ catalogued => (catalogued.take plain intake reference algorithm).1)
      (fun _ intake _ catalogued => (catalogued.take plain intake reference algorithm).2)
      collector catalogued).2
  refine grown.trans (or_congr Iff.rfl ?_)
  simp only [← and_assoc, exists_and_right, AlgorithmCatalog.offers_exists_iff]

/-- No two positions have the same place. So slices give a package the place of a position only if
they tell this very position, and its component gets an occurrence for each position that they tell.
No two names and identifiers have the same reference, where the identifiers have no mark and a
missing one counts as empty. So a collector with a catalog of such identifiers holds the algorithm
of each entry that its slices mention, under its own reference, and no other algorithm. -/
theorem identifiers_stay_apart :
    (∀ file other line later,
      location file line = location other later ↔ file = other ∧ line = later) ∧
    (∀ (collector : Collector) (intakes : List Intake) (purl : String),
      (∀ position : Position, (collector.takeAll intakes).maps.HasPlace purl position.place ↔
        collector.maps.HasPlace purl position.place ∨ collector.Told intakes purl position) ∧
      ∀ component : Bom.Component, component.purl = some purl →
        ∀ positions : List Position, positions.Nodup →
          (∀ position ∈ positions, collector.Told intakes purl position) →
          (positions.map Position.place).Subperm
            (component.attach (collector.takeAll intakes).maps).locations) ∧
    (∀ name other oid later, '@' ∉ (oid.getD "").toList → '@' ∉ (later.getD "").toList →
      (Algorithm.referenceFor name oid = Algorithm.referenceFor other later ↔
        name = other ∧ oid.getD "" = later.getD "")) ∧
    ∀ (entries : TextMap Entry) (collector : Collector), HavePlainIdentifiers entries →
      collector.detector = some (ofEntries entries).detector → collector.maps.algorithms = ∅ →
      ∀ (intakes : List Intake) (reference : String) (algorithm : Algorithm),
        (collector.takeAll intakes).maps.algorithms.get? reference = some algorithm ↔
          Offers entries (fun name => ∃ intake ∈ intakes, intake.Mentions name) algorithm ∧
            algorithm.reference = reference := by
  refine ⟨fun _ _ _ _ => location_eq_iff, ?_, fun _ _ _ _ => Algorithm.reference_for_eq_iff, ?_⟩
  · intro collector intakes purl
    refine ⟨fun position => has_position_take_all, ?_⟩
    intro component isPackage positions distinct told
    exact told_occurrences isPackage distinct told
  · intro entries collector plain detector noAlgorithms intakes reference algorithm
    have own : Algorithm.OfEntries entries collector.maps.algorithms := by
      intro reference algorithm held
      rw [noAlgorithms] at held
      cases held
    have held := Catalogued.take_all plain ⟨detector, own⟩ intakes reference algorithm
    refine held.trans (or_iff_right ?_)
    unfold Holds
    rw [noAlgorithms]
    exact Option.some_ne_none _ ∘ Eq.symm

/-- Two entries whose references differ in a mark at the end. -/
def markedEntries : TextMap Entry := .ofList [("aes", (some "2", none)), ("aes@2", (none, none))]

/-- Two files whose names differ in a mark and a digit. -/
def markedUsages : UsageSlice :=
  let usage : Usage :=
    { (default : Usage) with
      target := some { (default : ObjectRef) with
        typeName := some "slf4j.Logger", isExternal := some true, line := some 2 } }
  { objects := [
      { (default : ObjectSlice) with file := some "App", usages := [usage] },
      { (default : ObjectSlice) with file := some "App#2", usages := [usage] }]
    userTypes := [] }

def markedChain : ReachablesSlice :=
  ⟨[⟨[], [{ (default : ReachableFlow) with tags := "crypto", code := "AES2" }]⟩]⟩

def markedCollector : Collector :=
  .new (.new .java ∅ (some (Catalog.memoryIndex (.ofList [("pkg:maven/slf4j@2.0", "slf4j.Logger")]))))
    (some (ofEntries markedEntries).detector)

def markedIntakes : List Intake := [.reachables markedChain, .usages markedUsages]

def markedPositions : List Position := [⟨"App", 2⟩, ⟨"App#2", 2⟩]

def markedComponent : Bom.Component :=
  { (default : Bom.Component) with purl := some "pkg:maven/slf4j@2.0" }

theorem identifiers_stay_apart_marked :
    (location "App" 2 ≠ location "App#2" 2 ∧
      Algorithm.referenceFor "aes" (some "2") ≠ Algorithm.referenceFor "aes@2" none) ∧
    (markedPositions.Nodup ∧
      (∀ position ∈ markedPositions,
        markedCollector.Told markedIntakes "pkg:maven/slf4j@2.0" position) ∧
      ["App#2", "App#2#2"].Subperm
        (markedComponent.attach (markedCollector.takeAll markedIntakes).maps).locations) ∧
    HavePlainIdentifiers markedEntries ∧
      (markedCollector.takeAll markedIntakes).maps.algorithms.get? "crypto/algorithm/aes@2" =
        some ⟨"crypto/algorithm/aes@2", "aes", some "2", none⟩ ∧
      (markedCollector.takeAll markedIntakes).maps.algorithms.get? "crypto/algorithm/aes@2@" =
        some ⟨"crypto/algorithm/aes@2@", "aes@2", none, none⟩ := by
  obtain ⟨locations, occurrences, references, algorithms⟩ := identifiers_stay_apart
  have shows : ∀ object ∈ markedUsages.objects,
      Shows (markedCollector.take (.reachables markedChain))
        ((markedCollector.take (.reachables markedChain)).userTypes ∪ markedUsages.typeNames) object
        "slf4j.Logger" "pkg:maven/slf4j@2.0" := by
    intro object member
    rcases List.mem_pair.1 member with rfl | rfl <;>
      exact ⟨by decide +kernel, by decide +kernel, by decide +kernel, by decide +kernel⟩
  have told : ∀ position ∈ markedPositions,
      markedCollector.Told markedIntakes "pkg:maven/slf4j@2.0" position := by
    intro position member
    refine ⟨[.reachables markedChain], .usages markedUsages, [], rfl, ?_⟩
    rcases List.mem_pair.1 member with rfl | rfl
    · exact ⟨_, List.mem_cons_self, _, shows _ List.mem_cons_self, rfl, by decide +kernel⟩
    · exact ⟨_, List.mem_cons_of_mem _ List.mem_cons_self, _,
        shows _ (List.mem_cons_of_mem _ List.mem_cons_self), rfl, by decide +kernel⟩
  have plain : HavePlainIdentifiers markedEntries := by
    intro name entry held
    have each : ∀ item ∈ markedEntries.entries, '@' ∉ (item.2.1.getD "").toList := by
      decide +kernel
    exact each _ (TextMap.mem_entries_iff.2 held)
  have found : ∀ name, AlgorithmCatalog.Mentions "\nAES2" name →
      ∃ intake ∈ markedIntakes, intake.Mentions name := by
    intro name mentioned
    refine ⟨.reachables markedChain, List.mem_cons_self, _, List.mem_cons_self, _, ?_, mentioned⟩
    exact searches_iff.2 ⟨by decide +kernel, by decide⟩
  have held := algorithms markedEntries markedCollector plain rfl rfl markedIntakes
  refine ⟨⟨fun same => ?_, fun same => ?_⟩, ⟨by decide, told, ?_⟩, plain, ?_, ?_⟩
  · exact absurd ((locations ..).1 same).1 (by decide)
  · exact absurd ((references _ _ _ _ (by decide) (by decide)).1 same).1 (by decide)
  · exact (occurrences markedCollector markedIntakes _).2 markedComponent rfl _ (by decide) told
  · exact (held _ _).2 ⟨⟨"aes", (some "2", none), by decide +kernel,
      found _ ⟨by decide +kernel, by decide +kernel⟩, by decide +kernel⟩, rfl⟩
  · exact (held _ _).2 ⟨⟨"aes@2", (none, none), by decide +kernel,
      found _ ⟨by decide +kernel, by decide +kernel⟩, by decide +kernel⟩, rfl⟩

end Collector

end BomEvidence
