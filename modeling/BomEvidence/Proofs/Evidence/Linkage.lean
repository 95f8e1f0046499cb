import BomEvidence.Proofs.Evidence.Stacks
import BomEvidence.Proofs.Text.Blanks

/-!
How reachables slices link packages with algorithms. A chain names its providers in the tags of the
steps that generate cryptography, and its algorithms are those that the detector finds in its code
from the first step on whose tags speak of cryptography. A package is linked with an algorithm
exactly when one chain names the package and has the algorithm found in it, so that the providers
of one chain are not linked with the algorithms of another.
-/

namespace BomEvidence

theorem Text.join_empty (texts : List String) :
    (Text.join "" texts).toList = texts.flatMap String.toList := by
  have flat : ∀ pieces : List (List Char), List.intercalate [] pieces = pieces.flatten := by
    intro pieces
    induction pieces with
    | nil => rfl
    | cons piece rest ih =>
        cases rest with
        | nil => rfl
        | cons next later =>
            rw [List.intercalate_cons_cons, ih, List.append_nil]
            rfl
  unfold Text.join
  rw [String.toList_ofList]
  exact flat (texts.map String.toList)

namespace ReachableFlow

/-- A tag of a step: what stands between two commas of its tags, without the blanks around it. -/
def HasTag (flow : ReachableFlow) (tag : String) : Prop :=
  ∃ piece, ',' ∉ piece ∧ Text.HasPart [','] flow.tags.toList piece ∧ Text.Trims piece tag.toList

def SpeaksOfCrypto (flow : ReachableFlow) : Prop := "crypto".toList <:+: flow.tags.toList

/-- The tags of a step speak of making cryptography, or its code of using it. -/
def GeneratesCrypto (flow : ReachableFlow) : Prop :=
  "crypto-generate".toList <:+: flow.tags.toList ∨
    ∃ word ∈ ["encrypt", "decrypt", "sign"], word.toList <:+: flow.code.toList

theorem mem_tag_list_iff {flow : ReachableFlow} {tag : String} :
    tag ∈ flow.tagList ↔ flow.HasTag tag ∧ tag ≠ "" := by
  have mark : ",".toList = [','] := rfl
  unfold tagList HasTag
  rw [List.mem_filter, List.mem_map, bne_iff_ne]
  refine and_congr_left fun _ => ?_
  constructor
  · intro fact
    rcases fact with ⟨piece, among, rfl⟩
    obtain ⟨noMark, part⟩ := (Text.mem_split_single_iff mark).1 among
    refine ⟨piece.toList, noMark, part, Text.trim_chars_eq_iff.1 ?_⟩
    exact String.toList_ofList.symm
  · intro fact
    rcases fact with ⟨piece, noMark, part, trims⟩
    refine ⟨String.ofList piece, (Text.mem_split_single_iff mark).2 ?_, ?_⟩
    · rw [String.toList_ofList]
      exact ⟨noMark, part⟩
    · rw [Text.trim, String.toList_ofList, Text.trim_chars_eq_iff.2 trims, String.ofList_toList]

theorem mem_tagged_purls_iff {flow : ReachableFlow} {purl : String} :
    purl ∈ flow.taggedPurls ↔ flow.HasTag purl ∧ "pkg:".toList <+: purl.toList := by
  unfold taggedPurls
  rw [List.mem_filter, mem_tag_list_iff, Text.startsWith, List.isPrefixOf_iff_prefix, and_assoc]
  refine and_congr_right fun _ => and_iff_right_of_imp ?_
  rintro begins rfl
  exact absurd begins (by decide)

theorem is_crypto_iff {flow : ReachableFlow} : flow.isCrypto = true ↔ flow.SpeaksOfCrypto :=
  Text.contains_iff

theorem generates_crypto_iff {flow : ReachableFlow} :
    flow.generatesCrypto = true ↔ flow.GeneratesCrypto := by
  unfold generatesCrypto GeneratesCrypto
  simp only [Bool.or_eq_true, Text.contains_iff, List.mem_cons, List.not_mem_nil, or_false,
    exists_eq_or_imp, exists_eq_left, or_assoc]

end ReachableFlow

namespace ReachableNode

/-- A chain names a package as a provider: it is tagged on a step that generates cryptography. -/
def Provides (node : ReachableNode) (purl : String) : Prop :=
  ∃ flow ∈ node.flows, flow.GeneratesCrypto ∧ flow.HasTag purl ∧ "pkg:".toList <+: purl.toList

/-- The code of a chain that is searched for algorithms: a line break and the code of each step
that has any, from the first one on that speaks of cryptography. -/
def Searches (node : ReachableNode) (code : String) : Prop :=
  ∃ before opening rest, node.flows = before ++ opening :: rest ∧
    (∀ flow ∈ before, ¬flow.SpeaksOfCrypto) ∧ opening.SpeaksOfCrypto ∧
    code.toList = ((opening :: rest).filter fun flow => flow.code != "").flatMap
      (fun flow => '\n' :: flow.code.toList) ∧ code ≠ ""

def Finds (node : ReachableNode) (detector : Option Detector) (reference : String) : Prop :=
  ∃ held, detector = some held ∧ ∃ code, node.Searches code ∧
    ∃ algorithms, held.detect code = .ok algorithms ∧
      ∃ algorithm ∈ algorithms, algorithm.reference = reference

end ReachableNode

namespace Collector

theorem mem_providers_of {node : ReachableNode} {purl : String} :
    purl ∈ providersOf node ↔ node.Provides purl := by
  unfold providersOf ReachableNode.Provides
  simp only [TextSet.mem_of_list, List.mem_flatMap, List.mem_filter, and_assoc,
    ReachableFlow.generates_crypto_iff, ReachableFlow.mem_tagged_purls_iff]

theorem code_of_flows (flows : List ReachableFlow) :
    (Text.join "" (((flows.map ReachableFlow.code).filter (· != "")).map
        fun code => "\n" ++ code)).toList =
      (flows.filter fun flow => flow.code != "").flatMap fun flow => '\n' :: flow.code.toList := by
  rw [Text.join_empty, List.flatMap_map, List.filter_map, List.flatMap_map]
  congr 1
  funext flow
  exact String.toList_append

theorem searches_iff {node : ReachableNode} {code : String} :
    node.Searches code ↔ cryptoCode node = code ∧ code ≠ "" := by
  unfold ReachableNode.Searches
  simp only [← ReachableFlow.is_crypto_iff, Bool.not_eq_true]
  constructor
  · intro searches
    obtain ⟨before, opening, rest, split, noneBefore, opens, letters, nonempty⟩ := searches
    have opened : (node.flows.dropWhile fun flow => !flow.isCrypto) = opening :: rest := by
      rw [split, List.dropWhile_append_of_pos fun flow member => by rw [noneBefore flow member]; rfl]
      exact List.dropWhile_cons_of_neg (by rw [opens]; exact Bool.false_ne_true)
    refine ⟨String.toList_injective ?_, nonempty⟩
    rw [cryptoCode, opened, code_of_flows, letters]
  · intro fact
    rcases fact with ⟨rfl, nonempty⟩
    cases opened : node.flows.dropWhile fun flow => !flow.isCrypto with
    | nil =>
        -- No step speaks of cryptography, so that there is no code to be searched.
        rw [cryptoCode, opened] at nonempty
        exact absurd rfl nonempty
    | cons opening rest =>
        have stops := List.head?_dropWhile_not (fun flow => !flow.isCrypto) node.flows
        rw [opened] at stops
        refine ⟨node.flows.takeWhile fun flow => !flow.isCrypto, opening, rest, ?_, ?_, ?_, ?_,
          nonempty⟩
        · rw [← opened, List.takeWhile_append_dropWhile]
        · intro flow member
          have passes := List.mem_takeWhile_imp member
          exact (Bool.not_eq_true' _).mp passes
        · exact (Bool.not_eq_false' _).mp stops
        · rw [cryptoCode, opened, code_of_flows]

theorem finds_iff {node : ReachableNode} {detector : Option Detector} {reference : String} :
    node.Finds detector reference ↔
      ∃ algorithm ∈ findings (detect detector node), algorithm.reference = reference := by
  unfold ReachableNode.Finds
  simp only [searches_iff]
  cases detector with
  | none => simp [detect, findings]
  | some held =>
      unfold detect
      dsimp only
      constructor
      · intro fact
        rcases fact with ⟨_, same, _, ⟨rfl, nonempty⟩, algorithms, answer, found⟩
        cases same
        rw [if_neg nonempty, answer]
        exact found
      · intro found
        by_cases noCode : cryptoCode node = ""
        · rw [if_pos noCode] at found
          rcases found with ⟨_, member, _⟩
          cases member
        · rw [if_neg noCode] at found
          cases answer : held.detect (cryptoCode node) with
          | ok algorithms =>
              rw [answer] at found
              exact ⟨held, rfl, _, ⟨rfl, noCode⟩, algorithms, answer, found⟩
          | error failure =>
              rw [answer] at found
              rcases found with ⟨_, member, _⟩
              cases member

end Collector

/-! ### What a chain adds -/

namespace EvidenceMaps

/-- A property of maps that stacks leave alone, and that grows by a case of its own whenever a
package is made a provider or an algorithm is added. -/
structure LinkGrows (holds : EvidenceMaps → Prop) (provides : String → List String → Prop)
    (stores : Algorithm → Prop) : Prop where
  stacked : ∀ maps stack purl, holds (maps.addStack stack purl) ↔ holds maps
  provided : ∀ maps references purl,
    holds (maps.addProvided references purl) ↔ holds maps ∨ provides purl references
  stored : ∀ maps algorithm, holds (maps.addAlgorithm algorithm) ↔ holds maps ∨ stores algorithm

theorem link_grows (purl reference : String) :
    LinkGrows (fun maps => maps.providers.Relates purl reference)
      (fun asked references => asked = purl ∧ reference ∈ references) (fun _ => False) := by
  constructor
  · intro maps stack asked
    rfl
  · intro maps references asked
    exact TextMap.relates_alter maps.providers asked purl reference references
  · intro maps algorithm
    rw [or_false]
    rfl

theorem provider_grows (purl : String) :
    LinkGrows (fun maps => maps.providers.contains purl = true) (fun asked _ => asked = purl)
      (fun _ => False) := by
  constructor
  · intro maps stack asked
    rfl
  · intro maps references asked
    exact TextMap.contains_alter maps.providers asked purl _
  · intro maps algorithm
    rw [or_false]
    rfl

theorem algorithm_grows (reference : String) :
    LinkGrows (fun maps => maps.algorithms.contains reference = true) (fun _ _ => False)
      (fun algorithm => algorithm.reference = reference) := by
  constructor
  · intro maps stack asked
    rfl
  · intro maps references asked
    rw [or_false]
    rfl
  · intro maps algorithm
    exact TextMap.contains_alter maps.algorithms algorithm.reference reference _

end EvidenceMaps

namespace Collector

section Growth

variable {holds : EvidenceMaps → Prop} {provides : String → List String → Prop}
  {stores : Algorithm → Prop}

theorem provide_all_grows (grows : EvidenceMaps.LinkGrows holds provides stores)
    (references : List String) (purls : TextSet) (maps : EvidenceMaps) :
    holds (purls.toList.foldl (fun maps purl => maps.addProvided references purl) maps) ↔
      holds maps ∨ ∃ purl ∈ purls, provides purl references :=
  (foldl_grows (fun _ => True) holds (fun _ _ _ _ => trivial)
    (fun maps purl _ _ => grows.provided maps references purl) maps trivial).2

theorem link_all_grows (grows : EvidenceMaps.LinkGrows holds provides stores)
    (providers : TextSet) (algorithms : List Algorithm) (maps : EvidenceMaps) :
    holds (algorithms.foldl (linkAlgorithm providers) maps) ↔ holds maps ∨
      ∃ algorithm ∈ algorithms,
        (∃ purl ∈ providers, provides purl [algorithm.reference]) ∨ stores algorithm := by
  refine (foldl_grows (fun _ => True) holds (fun _ _ _ _ => trivial) ?_ maps trivial).2
  intro maps algorithm _ _
  unfold linkAlgorithm
  rw [grows.stored, provide_all_grows grows, or_assoc]

/-- What a chain adds to a property of links: a case for each of its providers, and for each
algorithm that is found in it. -/
theorem add_chain_grows (grows : EvidenceMaps.LinkGrows holds provides stores)
    (collector : Collector) (node : ReachableNode) :
    holds (collector.addChain node).maps ↔ holds collector.maps ∨
      (∃ purl ∈ providersOf node, provides purl []) ∨
      ∃ algorithm ∈ findings (detect collector.detector node),
        (∃ purl ∈ providersOf node, provides purl [algorithm.reference]) ∨ stores algorithm := by
  have stacked : holds ((reachedBy node).toList.foldl
      (fun maps purl => maps.addStack (stackOf node) purl) collector.maps) ↔
        holds collector.maps := by
    rw [← eq_iff_iff]
    refine foldl_keeps holds ?_ collector.maps
    intro maps purl _
    exact propext (grows.stacked maps (stackOf node) purl)
  obtain ⟨_, added⟩ := add_chain_eq collector node
  rw [added, link_all_grows grows, provide_all_grows grows, stacked, or_assoc]

theorem add_chain_detector (collector : Collector) (node : ReachableNode) :
    (collector.addChain node).detector = collector.detector := by
  obtain ⟨_, added⟩ := add_chain_eq collector node
  rw [added]

end Growth

theorem link_add_chain (collector : Collector) (node : ReachableNode) (purl reference : String) :
    (collector.addChain node).maps.providers.Relates purl reference ↔
      collector.maps.providers.Relates purl reference ∨
        node.Provides purl ∧ node.Finds collector.detector reference := by
  rw [add_chain_grows (EvidenceMaps.link_grows purl reference), finds_iff, ← mem_providers_of]
  refine or_congr Iff.rfl ?_
  constructor
  · intro either
    -- A provider is first entered without any reference, and then once for each algorithm.
    rcases either with ⟨_, _, _, nothing⟩ | ⟨algorithm, found, ⟨_, provides, rfl, same⟩ | never⟩
    · cases nothing
    · exact ⟨provides, algorithm, found, (List.mem_singleton.1 same).symm⟩
    · exact never.elim
  · intro both
    rcases both with ⟨provides, algorithm, found, same⟩
    exact Or.inr ⟨algorithm, found, Or.inl ⟨purl, provides, rfl, List.mem_singleton.2 same.symm⟩⟩

theorem provider_add_chain (collector : Collector) (node : ReachableNode) (purl : String) :
    (collector.addChain node).maps.providers.contains purl = true ↔
      collector.maps.providers.contains purl = true ∨ node.Provides purl := by
  rw [add_chain_grows (EvidenceMaps.provider_grows purl), ← mem_providers_of]
  refine or_congr Iff.rfl ?_
  constructor
  · intro either
    rcases either with ⟨_, provides, rfl⟩ | ⟨_, _, ⟨_, provides, rfl⟩ | never⟩
    · exact provides
    · exact provides
    · exact never.elim
  · intro provides
    exact Or.inl ⟨purl, provides, rfl⟩

theorem algorithm_add_chain (collector : Collector) (node : ReachableNode) (reference : String) :
    (collector.addChain node).maps.algorithms.contains reference = true ↔
      collector.maps.algorithms.contains reference = true ∨
        node.Finds collector.detector reference := by
  rw [add_chain_grows (EvidenceMaps.algorithm_grows reference), finds_iff]
  refine or_congr Iff.rfl ?_
  constructor
  · intro either
    rcases either with ⟨_, _, never⟩ | ⟨algorithm, found, ⟨_, _, never⟩ | same⟩
    · exact never.elim
    · exact never.elim
    · exact ⟨algorithm, found, same⟩
  · intro fact
    rcases fact with ⟨algorithm, found, same⟩
    exact Or.inr ⟨algorithm, found, Or.inr same⟩

theorem add_reachables_grows (holds : EvidenceMaps → Prop)
    (adds : Option Detector → ReachableNode → Prop)
    (chain : ∀ (next : Collector) node,
      holds (next.addChain node).maps ↔ holds next.maps ∨ adds next.detector node)
    (collector : Collector) (slice : ReachablesSlice) :
    holds (collector.addReachables slice).maps ↔
      holds collector.maps ∨ ∃ node ∈ slice.nodes, adds collector.detector node := by
  refine (foldl_grows (fun next : Collector => next.detector = collector.detector)
    (fun next : Collector => holds next.maps) ?_ ?_ collector rfl).2
  · intro next node _ same
    exact (add_chain_detector next node).trans same
  · intro next node _ same
    rw [chain, same]

/-- After the chains of a slice alone, a package is linked with an algorithm exactly when one chain
names the package as a provider and has the algorithm found in it. Every provider that a chain
names is known, whether or not an algorithm is found, and the algorithms are those that are found
in some chain. -/
theorem links_of_reachables (collector : Collector) (slice : ReachablesSlice) :
    let maps := ({ collector with maps := ∅ }.addReachables slice).maps
    (∀ purl reference, maps.providers.Relates purl reference ↔ ∃ node ∈ slice.nodes,
        node.Provides purl ∧ node.Finds collector.detector reference) ∧
      (∀ purl, maps.providers.contains purl = true ↔
        ∃ node ∈ slice.nodes, node.Provides purl) ∧
      ∀ reference, maps.algorithms.contains reference = true ↔
        ∃ node ∈ slice.nodes, node.Finds collector.detector reference := by
  let start := { collector with maps := ∅ }
  refine ⟨fun purl reference => ?_, fun purl => ?_, fun reference => ?_⟩
  · have grown := add_reachables_grows (fun maps => maps.providers.Relates purl reference)
      (fun detector node => node.Provides purl ∧ node.Finds detector reference)
      (fun next node => link_add_chain next node purl reference) start slice
    exact grown.trans (or_iff_right (TextMap.not_relates_emptyset purl reference))
  · have grown := add_reachables_grows (fun maps => maps.providers.contains purl = true)
      (fun _ node => node.Provides purl)
      (fun next node => provider_add_chain next node purl) start slice
    exact grown.trans (or_iff_right Bool.false_ne_true)
  · have grown := add_reachables_grows (fun maps => maps.algorithms.contains reference = true)
      (fun detector node => node.Finds detector reference)
      (fun next node => algorithm_add_chain next node reference) start slice
    exact grown.trans (or_iff_right Bool.false_ne_true)

end Collector

end BomEvidence
