import BomEvidence.Proofs.Crypto.Matching
import BomEvidence.Proofs.Evidence.Linkage

/-!
The algorithms that a catalog finds in a chain. The code of the steps is searched as one text, with
a line break in front of each step, and the plain form of a text has no line breaks. A name is
therefore found in a chain where it stands in the code of one step, and also where the plain code of
one step ends with its first part and that of a later step begins with its last part.
-/

namespace BomEvidence

namespace ReachableNode

def searchedFlows (node : ReachableNode) : List ReachableFlow :=
  node.flows.dropWhile fun flow => !flow.isCrypto

def plainCodes (node : ReachableNode) : List (List Char) :=
  node.searchedFlows.map fun flow => plainChars flow.code.toList

theorem plain_crypto_code (node : ReachableNode) :
    plainChars (Collector.cryptoCode node).toList = node.plainCodes.flatten := by
  have breaks : ∀ flows : List ReachableFlow,
      plainChars ((flows.filter fun flow => flow.code != "").flatMap
        fun flow => '\n' :: flow.code.toList) =
      (flows.map fun flow => plainChars flow.code.toList).flatten := by
    intro flows
    rw [plain_chars_flat_map]
    induction flows with
    | nil => rfl
    | cons flow rest ih =>
        rw [List.map_cons, List.flatten_cons, ← ih]
        by_cases noCode : flow.code = ""
        · rw [List.filter_cons_of_neg (by simp [noCode]), noCode]
          rfl
        · rw [List.filter_cons_of_pos (by simp [noCode]), List.flatMap_cons]
          rfl
  exact (congrArg plainChars (Collector.code_of_flows node.searchedFlows)).trans (breaks _)

end ReachableNode

namespace Collector

variable (entries : TextMap AlgorithmCatalog.Entry) (node : ReachableNode)

theorem detect_by_catalog : detect (some (AlgorithmCatalog.ofEntries entries).detector) node =
    .ok ((AlgorithmCatalog.ofEntries entries).find (cryptoCode node)) := by
  unfold detect AlgorithmCatalog.detector
  dsimp only
  split
  · rename_i noCode
    rw [noCode, AlgorithmCatalog.find_empty]
  · rfl

/-- A catalog finds in a chain what it finds in the code of one of the steps, and the algorithms
whose plain names reach from the code of one step into that of a later one. -/
theorem found_in_chain_iff :
    ∃ found, detect (some (AlgorithmCatalog.ofEntries entries).detector) node = .ok found ∧
      ∀ algorithm, algorithm ∈ found ↔
        (∃ flow ∈ node.searchedFlows,
          algorithm ∈ (AlgorithmCatalog.ofEntries entries).find flow.code) ∨
        ∃ signature ∈ (AlgorithmCatalog.ofEntries entries).signatures,
          signature.algorithm = algorithm ∧ Text.Spans signature.needle.toList node.plainCodes := by
  refine ⟨_, detect_by_catalog entries node, fun algorithm => ?_⟩
  simp only [AlgorithmCatalog.mem_find_iff, ReachableNode.plain_crypto_code]
  constructor
  · intro found
    obtain ⟨signature, member, same, stands⟩ := found
    rcases (Text.infix_flatten_iff (AlgorithmCatalog.needle_ne_nil member)).1 stands with
      within | spans
    · obtain ⟨code, among, inside⟩ := within
      obtain ⟨flow, searched, rfl⟩ := List.mem_map.1 among
      exact Or.inl ⟨flow, searched, signature, member, same, inside⟩
    · exact Or.inr ⟨signature, member, same, spans⟩
  · intro either
    rcases either with ⟨flow, searched, signature, member, same, inside⟩ |
      ⟨signature, member, same, spans⟩
    · refine ⟨signature, member, same,
        (Text.infix_flatten_iff (AlgorithmCatalog.needle_ne_nil member)).2 (Or.inl ?_)⟩
      exact ⟨_, List.mem_map_of_mem searched, inside⟩
    · exact ⟨signature, member, same,
        (Text.infix_flatten_iff (AlgorithmCatalog.needle_ne_nil member)).2 (Or.inr spans)⟩

/-- A chain of two steps, the code of which speaks of a parser and then of sanitizing. -/
def parserChain : ReachableNode :=
  ⟨[], [{ (default : ReachableFlow) with tags := "crypto", code := "parser" },
    { (default : ReachableFlow) with code := "sanitize(input)" }]⟩

theorem name_across_steps_is_found :
    ¬∀ (entries : TextMap AlgorithmCatalog.Entry) (node : ReachableNode) (found : List Algorithm),
      detect (some (AlgorithmCatalog.ofEntries entries).detector) node = .ok found →
      ∀ algorithm ∈ found, ∃ flow ∈ node.flows,
        algorithm ∈ (AlgorithmCatalog.ofEntries entries).find flow.code := by
  intro always
  let rsa : Algorithm := ⟨"crypto/algorithm/rsa@1.2.840.113549.1.1.1", "rsa",
    some "1.2.840.113549.1.1.1", some "RSA encryption"⟩
  have found : rsa ∈ AlgorithmCatalog.builtin.find (cryptoCode parserChain) := by decide +kernel
  have inNoStep : ∀ flow ∈ parserChain.flows, rsa ∉ AlgorithmCatalog.builtin.find flow.code := by
    decide +kernel
  obtain ⟨flow, member, alone⟩ := always _ parserChain _ (detect_by_catalog _ parserChain) rsa found
  exact inNoStep flow member alone

end Collector

end BomEvidence
