import BomEvidence.Namespace.Index
import BomEvidence.Proofs.Json.Canonical
import BomEvidence.Proofs.Json.Escaped
import BomEvidence.Proofs.Sorted.Keys

/-!
Symbols that a catalog lists as an array. They are kept as the written form of the array, between
quotes and escaped, and a search looks for the text of a symbol in this form. Legible symbols are
found; one with a backslash between other characters, as names in namespaces have it, is found only
within the form of another one.
-/

namespace BomEvidence

namespace Catalog

theorem mem_memory_find_iff {catalog : Catalog} {purl data needle : String}
    (held : catalog.get? purl = some data) :
    purl ∈ catalog.find needle ↔ needle.toList <:+: data.toList := by
  rw [find, TextMap.mem_filter_keys, held]
  constructor
  · intro found
    obtain ⟨_, same, contains⟩ := found
    rw [Option.some.inj same]
    exact Text.occurs_iff_infix.1 contains
  · intro within
    exact ⟨data, rfl, Text.occurs_iff_infix.2 within⟩

theorem held_of_listed {source purl : String} {members : List (String × Json)} {items : List Json}
    (read : Json.parse? source = some (.object members)) (listed : (purl, .array items) ∈ members) :
    ∃ catalog, ofJson source = .ok catalog ∧
      catalog.get? purl = some (Json.array items).compact := by
  obtain ⟨tree, _, value⟩ := Option.bind_eq_some_iff.1 read
  have ascending := (Json.canonical_object_iff.1 (Json.canonical_of_value tree value)).1
  unfold ofJson entries?
  rw [read]
  refine ⟨_, rfl, TextMap.get_of_ascending ?_ ?_⟩
  · rw [List.map_map]
    exact ascending
  · exact List.mem_map.2 ⟨(purl, .array items), listed, rfl⟩

/-- A package whose symbols are listed as an array, and a search in memory for one of these: it is
found if the symbol is legible; without quotation marks, exactly if the symbol stands in the
escaped form of some listed one; and never with a control character. -/
theorem listed_symbol_search {source purl : String} {members : List (String × Json)}
    {symbols : List String} (read : Json.parse? source = some (.object members))
    (listed : (purl, .array (symbols.map .text)) ∈ members) :
    ∃ catalog, ofJson source = .ok catalog ∧ ∀ symbol ∈ symbols,
      ∃ purls, catalog.memoryIndex.find symbol = .ok purls ∧
        (Json.Legible symbol.toList → purl ∈ purls) ∧
        ('"' ∉ symbol.toList → (purl ∈ purls ↔
          ∃ other ∈ symbols, symbol.toList <:+: Json.escaped other.toList)) ∧
        ((∃ c ∈ symbol.toList, c.toNat < 0x20) → purl ∉ purls) := by
  obtain ⟨catalog, made, held⟩ := held_of_listed read listed
  refine ⟨catalog, made, fun symbol member => ⟨catalog.find symbol, rfl, ?_⟩⟩
  rw [mem_memory_find_iff held]
  refine ⟨fun legible => ?_, fun noQuote => Json.infix_compact_iff member noQuote, ?_⟩
  · exact (Json.stands_iff_legible.2 legible).trans (Json.escaped_infix_compact member)
  · intro control within
    obtain ⟨c, among, low⟩ := control
    have shown := Json.compact_texts_shown (within.subset among)
    omega

def sampleListing : String :=
  "\x7b\"pkg:composer/acme/http@1\": [\"Acme\\\\Http\", \"acme_request\"]\x7d"

def sampleSymbols : List String := ["Acme\\Http", "acme_request"]

def sampleMembers : List (String × Json) :=
  [("pkg:composer/acme/http@1", .array (sampleSymbols.map .text))]

theorem listed_symbol_search_of_sample :
    (Json.parse? sampleListing = some (.object sampleMembers) ∧
      ("pkg:composer/acme/http@1", Json.array (sampleSymbols.map .text)) ∈ sampleMembers) ∧
    ∃ catalog, ofJson sampleListing = .ok catalog ∧
      (∃ purls, catalog.memoryIndex.find "acme_request" = .ok purls ∧
        "pkg:composer/acme/http@1" ∈ purls) ∧
      ∃ purls, catalog.memoryIndex.find "Acme\\Http" = .ok purls ∧
        "pkg:composer/acme/http@1" ∉ purls := by
  have read : Json.parse? sampleListing = some (.object sampleMembers) := by decide +kernel
  have listed : ("pkg:composer/acme/http@1", Json.array (sampleSymbols.map .text)) ∈
      sampleMembers := List.mem_cons_self
  obtain ⟨catalog, made, searched⟩ := listed_symbol_search read listed
  obtain ⟨others, answered, found, _⟩ := searched "acme_request" (by decide)
  obtain ⟨purls, asked, _, unquoted, _⟩ := searched "Acme\\Http" (by decide)
  refine ⟨⟨read, listed⟩, catalog, made, ⟨others, answered, found (by decide +kernel)⟩, purls,
    asked, ?_⟩
  rw [unquoted (by decide +kernel)]
  decide +kernel

theorem namespaced_symbol_is_not_found : ¬∀ (source purl : String) (members : List (String × Json))
    (symbols : List String), Json.parse? source = some (.object members) →
    (purl, .array (symbols.map .text)) ∈ members →
    ∃ catalog, ofJson source = .ok catalog ∧ ∀ symbol ∈ symbols,
      ∃ purls, catalog.memoryIndex.find symbol = .ok purls ∧ purl ∈ purls := by
  intro always
  obtain ⟨catalog, made, searched⟩ := always sampleListing "pkg:composer/acme/http@1"
    sampleMembers sampleSymbols (by decide +kernel) List.mem_cons_self
  obtain ⟨purls, answered, found⟩ := searched "Acme\\Http" (by decide)
  have nothing : (ofJson sampleListing).toOption.map (·.find "Acme\\Http") = some [] := by
    decide +kernel
  rw [made] at nothing
  have same : catalog.find "Acme\\Http" = purls := Except.ok.inj answered
  have empty : purls = [] := by
    rw [← same]
    exact Option.some.inj nothing
  rw [empty] at found
  cases found

end Catalog

end BomEvidence
