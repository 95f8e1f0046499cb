import BomEvidence.Namespace.Index
import BomEvidence.Proofs.Json.Members
import BomEvidence.Proofs.Namespace.Like
import BomEvidence.Proofs.Sorted.Bytes
import BomEvidence.Proofs.Sorted.Keys

/-!
Catalogs in a database. Batches of entries are imported one after the other, and the last entry of
a package stays, within a batch as well as across batches. A search finds the packages whose last
entry contains the needle, up to the case of ASCII letters.
-/

namespace BomEvidence

namespace Like

theorem contains_iff_occurs {needle text : List Char} :
    Contains needle text ↔ Text.occurs (needle.map Char.toLower) (text.map Char.toLower) = true := by
  rw [Text.occurs_iff]
  constructor
  · intro found
    obtain ⟨before, middle, after, rfl, letters⟩ := found
    refine ⟨before.map Char.toLower, after.map Char.toLower, ?_⟩
    rw [List.map_append, List.map_append, letters]
  · intro found
    obtain ⟨before, after, same⟩ := found
    obtain ⟨head, rest, rfl, headSame, _⟩ := List.map_eq_append_iff.1 same
    obtain ⟨first, middle, rfl, _, letters⟩ := List.map_eq_append_iff.1 headSame
    exact ⟨first, middle, rest, rfl, letters⟩

instance (needle text : List Char) : Decidable (Contains needle text) :=
  decidable_of_iff _ contains_iff_occurs.symm

theorem ends_with_iff_suffix {needle text : List Char} : EndsWith needle text ↔
    (needle.map Char.toLower).isSuffixOf (text.map Char.toLower) = true := by
  rw [List.isSuffixOf_iff_suffix]
  constructor
  · intro found
    obtain ⟨before, middle, rfl, letters⟩ := found
    exact ⟨before.map Char.toLower, by rw [List.map_append, letters]⟩
  · intro found
    obtain ⟨before, same⟩ := found
    obtain ⟨head, middle, rfl, _, letters⟩ := List.map_eq_append_iff.1 same.symm
    exact ⟨head, middle, rfl, letters⟩

instance (needle text : List Char) : Decidable (EndsWith needle text) :=
  decidable_of_iff _ ends_with_iff_suffix.symm

/-- A search by the pattern of a needle tells a text: the needle stands in it, or, if a character
with the code zero cuts the needle, what is left of the needle ends it. -/
def Tells (needle text : String) : Prop :=
  if NulFree needle.toList then Contains needle.toList text.toList
  else EndsWith (upToNul needle.toList) text.toList

instance (needle text : String) : Decidable (Tells needle text) :=
  inferInstanceAs (Decidable (if NulFree needle.toList then Contains needle.toList text.toList
    else EndsWith (upToNul needle.toList) text.toList))

theorem matches_iff_tells {needle text : String} (free : NulFree text.toList) :
    matches? (containing needle) text = true ↔ Tells needle text := by
  have whole : upToNul text.toList = text.toList := up_to_nul_of_free free
  unfold Tells
  split
  · rename_i uncut
    rw [matches_containing uncut, whole]
  · rename_i cut
    rw [matches_containing_cut cut, whole]

end Like

namespace TextMap

variable {Value : Type}

/-- What a map made of entries holds under a key is the last entry of that key. -/
theorem get_of_list_iff {entries : List (String × Value)} {key : String} {value : Value} :
    (ofList entries).get? key = some value ↔
      ∃ before after, entries = before ++ (key, value) :: after ∧ ∀ entry ∈ after, entry.1 ≠ key := by
  rw [get_of_list, List.lookup_eq_some_iff]
  simp only [bne_iff_ne]
  constructor
  · intro found
    obtain ⟨later, earlier, same, apart⟩ := found
    refine ⟨earlier.reverse, later.reverse, ?_, fun entry member => ?_⟩
    · rw [← List.reverse_reverse entries, same]
      simp
    · exact (apart entry (List.mem_reverse.1 member)).symm
  · intro found
    obtain ⟨before, after, rfl, apart⟩ := found
    refine ⟨after.reverse, before.reverse, by simp, fun entry member => ?_⟩
    exact (apart entry (List.mem_reverse.1 member)).symm

theorem contains_of_list {entries : List (String × Value)} {key : String} :
    (ofList entries).contains key = true ↔ key ∈ entries.map Prod.fst := by
  unfold contains
  rw [get_of_list, ← Bool.not_eq_false, Option.isSome_eq_false_iff, Option.isNone_iff_eq_none,
    List.lookup_eq_none_iff]
  simp only [List.mem_reverse, bne_iff_ne, ne_eq, not_forall, Decidable.not_not, List.mem_map,
    exists_prop]
  apply exists_congr
  intro entry
  rw [eq_comm]

end TextMap

namespace Catalog

def importBatches (catalog : Catalog) (batches : List (List (String × String))) :
    List Nat × Catalog :=
  batches.foldl (fun (counts, held) batch =>
    (counts ++ [(held.importAll batch).1], (held.importAll batch).2)) ([], catalog)

/-- A package was imported with these symbols, and not again after that. -/
def LastImported (batches : List (List (String × String))) (purl data : String) : Prop :=
  ∃ before after, batches.flatten = before ++ (purl, data) :: after ∧
    ∀ entry ∈ after, entry.1 ≠ purl

theorem import_all_eq (catalog : Catalog) (batch : List (String × String)) :
    catalog.importAll batch = (batch.length, catalog.insertAll batch) := by
  have counted : ∀ (batch : List (String × String)) (count : Nat) (held : Catalog),
      batch.foldl (fun state entry => (state.1 + 1, state.2.insert entry.1 entry.2)) (count, held) =
        (count + batch.length, held.insertAll batch) := by
    intro batch
    induction batch with
    | nil => intro count held; rfl
    | cons entry rest ih =>
        intro count held
        rw [List.foldl_cons, ih, List.length_cons, Nat.add_right_comm, Nat.add_assoc]
        rfl
  rw [← Nat.zero_add batch.length]
  exact counted batch 0 catalog

theorem import_batches_eq (catalog : Catalog) (batches : List (List (String × String))) :
    catalog.importBatches batches =
      (batches.map List.length, catalog.insertAll batches.flatten) := by
  have counted : ∀ (batches : List (List (String × String))) (counts : List Nat) (held : Catalog),
      batches.foldl (fun state batch =>
        (state.1 ++ [(state.2.importAll batch).1], (state.2.importAll batch).2)) (counts, held) =
          (counts ++ batches.map List.length, held.insertAll batches.flatten) := by
    intro batches
    induction batches with
    | nil =>
        intro counts held
        rw [List.map_nil, List.append_nil]
        rfl
    | cons batch rest ih =>
        intro counts held
        have joined : held.insertAll (batch ++ rest.flatten) =
            (held.insertAll batch).insertAll rest.flatten := List.foldl_append
        rw [List.foldl_cons, ih, import_all_eq, List.map_cons, List.flatten_cons, joined,
          List.append_assoc, List.singleton_append]
  exact counted batches [] catalog

theorem find_like_eq (catalog : Catalog) {needle : String}
    (fits : (Like.containing needle).utf8ByteSize ≤ Like.sizeLimit) :
    catalog.databaseIndex.find needle =
      .ok (catalog.filter fun _ symbols => Like.matches? (Like.containing needle) symbols).keys := by
  change catalog.findLike needle = _
  unfold findLike
  have short : ¬Like.sizeLimit < (Like.containing needle).utf8ByteSize := Nat.not_lt.2 fits
  simp [short]

theorem keys_bytes_ascending {Value : Type} (map : TextMap Value) :
    map.keys.Pairwise fun first second => bytesOf first < bytesOf second :=
  map.keys_ascending.imp lt_iff_bytes_lt.1

/-- Any history of imports into an empty database: each import counts its batch, there are as many
packages as different names, and a needle whose pattern fits finds, in ascending order of the bytes
of their names, the packages whose last symbols it tells. -/
theorem last_imports_are_found (batches : List (List (String × String)))
    (free : ∀ batch ∈ batches, ∀ entry ∈ batch, Like.NulFree entry.2.toList) :
    let (counts, catalog) := (∅ : Catalog).importBatches batches
    counts = batches.map List.length ∧
      catalog.size = (batches.flatten.map Prod.fst).toFinset.card ∧
      ∀ needle, (Like.containing needle).utf8ByteSize ≤ Like.sizeLimit →
        ∃ purls, catalog.databaseIndex.find needle = .ok purls ∧
          purls.Pairwise (fun first second => bytesOf first < bytesOf second) ∧
          ∀ purl, purl ∈ purls ↔
            ∃ data, LastImported batches purl data ∧ Like.Tells needle data := by
  rw [import_batches_eq]
  refine ⟨rfl, TextMap.size_of_names fun _ => TextMap.contains_of_list, fun needle fits => ?_⟩
  refine ⟨_, find_like_eq _ fits, keys_bytes_ascending _, fun purl => ?_⟩
  rw [TextMap.mem_filter_keys]
  apply exists_congr
  intro data
  have last : ((∅ : Catalog).insertAll batches.flatten).get? purl = some data ↔
      LastImported batches purl data := TextMap.get_of_list_iff
  rw [last, and_congr_right_iff]
  intro imported
  obtain ⟨before, after, same, _⟩ := imported
  have member : (purl, data) ∈ batches.flatten := by simp [same]
  obtain ⟨batch, among, inBatch⟩ := List.mem_flatten.1 member
  exact Like.matches_iff_tells (free batch among (purl, data) inBatch)

/-- Two batches, of which the second one imports a package of the first one again. -/
def upgradeBatches : List (List (String × String)) :=
  [[("pkg:npm/b@1", "old.Symbol"), ("pkg:npm/a@1", "snake_case")], [("pkg:npm/b@1", "New_Case")]]

theorem last_imports_of_upgrade :
    ((∅ : Catalog).importBatches upgradeBatches).1 = [2, 1] ∧
      ∃ purls, ((∅ : Catalog).importBatches upgradeBatches).2.databaseIndex.find "_case" = .ok purls ∧
        ∀ purl, purl ∈ purls ↔ ∃ data, LastImported upgradeBatches purl data ∧
          Like.Contains "_case".toList data.toList := by
  obtain ⟨counts, _, found⟩ := last_imports_are_found upgradeBatches (by decide +kernel)
  obtain ⟨purls, answered, _, members⟩ := found "_case" (by decide +kernel)
  have uncut : Like.NulFree "_case".toList := by decide +kernel
  simp only [Like.Tells, if_pos uncut] at members
  exact ⟨counts, purls, answered, members⟩

theorem needle_with_nul_finds_other_symbols :
    ¬∀ batches : List (List (String × String)),
      (∀ batch ∈ batches, ∀ entry ∈ batch, Like.NulFree entry.2.toList) →
      ∀ needle, (Like.containing needle).utf8ByteSize ≤ Like.sizeLimit →
      ∀ purls, ((∅ : Catalog).importBatches batches).2.databaseIndex.find needle = .ok purls →
      ∀ purl, purl ∈ purls ↔ ∃ data, LastImported batches purl data ∧
        Like.Contains needle.toList data.toList := by
  intro always
  have found : ((∅ : Catalog).importBatches [[("pkg:npm/a@1", "x")]]).2.databaseIndex.find "\x00" =
      .ok ["pkg:npm/a@1"] := by rfl
  have members := always [[("pkg:npm/a@1", "x")]] (by decide +kernel) "\x00" (by decide +kernel) _
    found "pkg:npm/a@1"
  obtain ⟨data, ⟨before, after, same, _⟩, contains⟩ := members.1 List.mem_cons_self
  have member : ("pkg:npm/a@1", data) ∈ [("pkg:npm/a@1", "x")] := by
    change ("pkg:npm/a@1", data) ∈ [[("pkg:npm/a@1", "x")]].flatten
    simp [same]
  obtain rfl : data = "x" := congrArg Prod.snd (List.mem_singleton.1 member)
  exact absurd contains (by decide +kernel)

end Catalog

end BomEvidence
