import BomEvidence.Crypto.Catalog
import BomEvidence.Proofs.Text.Spanning

/-!
What a catalog finds in a code: the algorithms whose plain names stand in the plain form of the
code. The plain form of joined texts is that of the texts joined, since each character is kept or
left out on its own.
-/

namespace BomEvidence

theorem plain_chars_flat_map {Item : Type} (write : Item → List Char) (items : List Item) :
    plainChars (items.flatMap write) = items.flatMap fun item => plainChars (write item) := by
  unfold plainChars
  rw [List.filter_flatMap, List.map_flatMap]

def Signature.algorithm (signature : Signature) : Algorithm where
  reference := Algorithm.referenceFor signature.name signature.oid
  name := signature.name
  oid := signature.oid
  description := signature.description

namespace AlgorithmCatalog

theorem mem_find_iff {catalog : AlgorithmCatalog} {code : String} {algorithm : Algorithm} :
    algorithm ∈ catalog.find code ↔ ∃ signature ∈ catalog.signatures,
      signature.algorithm = algorithm ∧ signature.needle.toList <:+: plainChars code.toList := by
  have stands : ∀ signature : Signature, Text.contains (plain code) signature.needle = true ↔
      signature.needle.toList <:+: plainChars code.toList := by
    intro signature
    rw [← Text.occurs_iff_infix, Text.contains, plain, String.toList_ofList]
  unfold find
  simp only [List.mem_map, List.mem_filter, stands]
  refine exists_congr fun signature => ?_
  rw [and_assoc, and_congr_right_iff]
  intro _
  exact and_comm

variable {entries : TextMap Entry}

theorem needle_ne_nil {signature : Signature}
    (member : signature ∈ (ofEntries entries).signatures) : signature.needle.toList ≠ [] := by
  obtain ⟨⟨name, oid, description⟩, _, made⟩ := List.mem_filterMap.1 member
  dsimp only at made
  split at made
  · cases made
  · rename_i shown
    cases made
    intro blank
    rw [blank] at shown
    exact shown rfl

theorem find_empty : (ofEntries entries).find "" = [] := by
  refine List.eq_nil_iff_forall_not_mem.2 fun algorithm found => ?_
  obtain ⟨signature, member, _, stands⟩ := mem_find_iff.1 found
  exact needle_ne_nil member (List.infix_nil.1 stands)

end AlgorithmCatalog

end BomEvidence
