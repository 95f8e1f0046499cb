import BomEvidence.Proofs.Namespace.Store
import BomEvidence.Proofs.Run.Intakes
import BomEvidence.Proofs.Run.Occurrences

/-!
The two places where a catalog can be held. In memory a needle is looked for as it is, and in a
database up to the case of ASCII letters. Where this makes no difference for the symbols that a
run asks for, the run does the same with either.
-/

namespace BomEvidence

namespace Catalog

/-- A search by the pattern of a needle tells no package but those whose symbols contain it. -/
def Literal (catalog : Catalog) (needle : String) : Prop :=
  ∀ entry ∈ catalog.entries, Like.Tells needle entry.2 → Text.contains entry.2 needle = true

instance (catalog : Catalog) (needle : String) : Decidable (catalog.Literal needle) :=
  inferInstanceAs (Decidable (∀ entry ∈ catalog.entries,
    Like.Tells needle entry.2 → Text.contains entry.2 needle = true))

theorem tells_of_contains {needle data : String} (free : Like.NulFree data.toList)
    (contains : Text.contains data needle = true) : Like.Tells needle data := by
  obtain ⟨before, after, same⟩ := Text.occurs_iff.1 contains
  have uncut : Like.NulFree needle.toList := by
    intro c member
    apply free c
    rw [same]
    exact List.mem_append_left _ (List.mem_append_right _ member)
  unfold Like.Tells
  rw [if_pos uncut]
  exact ⟨before, needle.toList, after, same, rfl⟩

theorem find_eq_iff_literal {catalog : Catalog} {needle : String}
    (free : ∀ entry ∈ catalog.entries, Like.NulFree entry.2.toList)
    (fits : (Like.containing needle).utf8ByteSize ≤ Like.sizeLimit) :
    catalog.memoryIndex.find needle = catalog.databaseIndex.find needle ↔
      catalog.Literal needle := by
  rw [find_like_eq catalog fits]
  change Except.ok (catalog.filter fun _ symbols => Text.contains symbols needle).keys = _ ↔ _
  rw [Except.ok.injEq]
  constructor
  · intro same entry member tells
    have matched : entry.1 ∈
        (catalog.filter fun _ symbols => Like.matches? (Like.containing needle) symbols).keys :=
      List.mem_map_of_mem
        (List.mem_filter.2 ⟨member, (Like.matches_iff_tells (free entry member)).2 tells⟩)
    rw [← same, TextMap.mem_filter_keys] at matched
    obtain ⟨data, held, contains⟩ := matched
    have own : data = entry.2 := Option.some.inj (held.symm.trans (TextMap.mem_entries_iff.1 member))
    exact own ▸ contains
  · intro literal
    have alike : ∀ entry ∈ catalog.entries, Text.contains entry.2 needle =
        Like.matches? (Like.containing needle) entry.2 := by
      intro entry member
      rw [Bool.eq_iff_iff, Like.matches_iff_tells (free entry member)]
      exact ⟨tells_of_contains (free entry member), literal entry member⟩
    exact congrArg (List.map Prod.fst) (List.filter_congr alike)

end Catalog

namespace Run

/-- A catalog without characters of the code zero, from memory and from a database: a needle whose
pattern fits is answered alike exactly if its search is literal, and a run that asks for such
needles only is the same with either. -/
theorem backends_agree_on_literal_needles {source : String} {entries : List (String × String)}
    (accepted : Catalog.entries? source = .ok entries)
    (free : ∀ entry ∈ entries, Like.NulFree entry.2.toList) :
    ∃ catalog, Catalog.ofJson source = .ok catalog ∧
      let memory := catalog.memoryIndex
      let database := ((∅ : Catalog).importAll entries).2.databaseIndex
      (∀ needle, (Like.containing needle).utf8ByteSize ≤ Like.sizeLimit →
        (memory.find needle = database.find needle ↔ catalog.Literal needle)) ∧
      ∀ (config : RunConfig) (given : Collaborators) (now : Instant) (files : FileTree),
        (∀ document, readDocument config files = .ok document →
          ∀ symbol ∈ asked config { given with index := some memory } files document,
            (Like.containing symbol).utf8ByteSize ≤ Like.sizeLimit ∧ catalog.Literal symbol) →
        execute config { given with index := some memory } now files =
          execute config { given with index := some database } now files := by
  have read : Catalog.ofJson source = .ok (TextMap.ofList entries) := by
    unfold Catalog.ofJson
    rw [accepted]
    rfl
  have held : ((∅ : Catalog).importAll entries).2 = TextMap.ofList entries := by
    rw [Catalog.import_all_eq]
    rfl
  have freeHeld : ∀ entry ∈ (TextMap.ofList entries).entries, Like.NulFree entry.2.toList := by
    intro entry member
    exact free entry (TextMap.mem_of_get_of_list (TextMap.mem_entries_iff.1 member))
  refine ⟨TextMap.ofList entries, read, ?_⟩
  rw [held]
  refine ⟨fun needle => Catalog.find_eq_iff_literal freeHeld, ?_⟩
  intro config given now files literal
  apply execute_of_same_answers
  intro document isRead symbol member
  obtain ⟨fits, isLiteral⟩ := literal document isRead symbol member
  exact (Catalog.find_eq_iff_literal freeHeld fits).2 isLiteral

theorem of_json_of_accepted {source : String} {entries : List (String × String)}
    (accepted : (Catalog.entries? source).toOption = some entries) :
    Catalog.entries? source = .ok entries ∧
      Catalog.ofJson source = .ok (TextMap.ofList entries) := by
  unfold Catalog.ofJson
  cases read : Catalog.entries? source with
  | error failure =>
      rw [read] at accepted
      cases accepted
  | ok found =>
      rw [read] at accepted
      cases accepted
      exact ⟨rfl, rfl⟩

/-- A catalog of two packages, whose symbols are apart even without the case of their letters. -/
def sampleCatalogText : String :=
  "\x7b\"pkg:maven/slf4j@2.0\": \"slf4j.Logger\", \"pkg:npm/a@1\": \"index_of\"\x7d"

def sampleEntries : List (String × String) :=
  [("pkg:maven/slf4j@2.0", "slf4j.Logger"), ("pkg:npm/a@1", "index_of")]

theorem backends_agree_on_sample :
    ∃ catalog, Catalog.ofJson sampleCatalogText = .ok catalog ∧
      execute sampleConfig { sampleCollaborators with index := some catalog.memoryIndex } ⟨0⟩
          sampleFiles =
        execute sampleConfig { sampleCollaborators with
          index := some ((∅ : Catalog).importAll sampleEntries).2.databaseIndex } ⟨0⟩ sampleFiles := by
  obtain ⟨accepted, opened⟩ := of_json_of_accepted
    (show (Catalog.entries? sampleCatalogText).toOption = some sampleEntries by decide +kernel)
  obtain ⟨catalog, read, _, runs⟩ :=
    backends_agree_on_literal_needles accepted (by decide +kernel)
  have isSample : catalog = TextMap.ofList sampleEntries := Except.ok.inj (read.symm.trans opened)
  subst isSample
  refine ⟨_, read, runs sampleConfig sampleCollaborators ⟨0⟩ sampleFiles ?_⟩
  have literal : (readDocument sampleConfig sampleFiles).toOption.all (fun document =>
      decide (∀ symbol ∈ asked sampleConfig { sampleCollaborators with
          index := some (Catalog.memoryIndex (TextMap.ofList sampleEntries)) } sampleFiles document,
        (Like.containing symbol).utf8ByteSize ≤ Like.sizeLimit ∧
          Catalog.Literal (TextMap.ofList sampleEntries) symbol)) = true := by
    decide +kernel
  intro document isRead
  rw [isRead, Except.toOption, Option.all_some, decide_eq_true_eq] at literal
  exact literal

def classCatalogText : String := "\x7b\"pkg:maven/App@1\": \"com.Foo\"\x7d"

def classEntries : List (String × String) := [("pkg:maven/App@1", "com.Foo")]

theorem backends_disagree_on_case :
    ¬∀ (source : String) (entries : List (String × String)),
      Catalog.entries? source = .ok entries →
      (∀ entry ∈ entries, Like.NulFree entry.2.toList) →
      ∀ catalog, Catalog.ofJson source = .ok catalog →
      ∀ needle, (Like.containing needle).utf8ByteSize ≤ Like.sizeLimit →
        catalog.memoryIndex.find needle =
          ((∅ : Catalog).importAll entries).2.databaseIndex.find needle := by
  intro always
  obtain ⟨accepted, read⟩ := of_json_of_accepted
    (show (Catalog.entries? classCatalogText).toOption = some classEntries by decide +kernel)
  have same := always classCatalogText classEntries accepted (by decide +kernel) _ read "com.foo"
    (by decide +kernel)
  have fromMemory : (Catalog.memoryIndex (TextMap.ofList classEntries)).find "com.foo" = .ok [] := by
    rfl
  have fromDatabase : ((∅ : Catalog).importAll classEntries).2.databaseIndex.find "com.foo" =
      .ok ["pkg:maven/App@1"] := by
    rfl
  rw [fromMemory, fromDatabase] at same
  cases same

end Run

end BomEvidence
