import BomEvidence.Proofs.Crypto.Matching
import BomEvidence.Proofs.Sorted.Laws
import BomEvidence.Text.Search

/-!
What a catalog written as JSON finds. The plain form keeps, lowers or drops each character on its
own and keeps what is plain already: joined texts have their plain forms joined, and a plain form is
its own. A catalog looks for its entries whose plain names are not blank, in the order of their
names, and it searches a code in its plain form alone.
-/

namespace BomEvidence

/-! ### Plain forms -/

def IsKeptChar (c : Char) : Prop := c.isAlphanum = true ∨ c = ' '

instance (c : Char) : Decidable (IsKeptChar c) := inferInstanceAs (Decidable (_ ∨ _))

theorem ascii_of_kept {c : Char} (kept : IsKeptChar c) : c.toNat < 0x80 := by
  rcases kept with letter | rfl
  · have ranges : (decide (c.val ≥ 'A'.val ∧ c.val ≤ 'Z'.val) ||
        (decide (c.val ≥ 'a'.val) && decide (c.val ≤ 'z'.val)) ||
        (decide (c.val ≥ '0'.val) && decide (c.val ≤ '9'.val))) = true := letter
    simp only [Bool.or_eq_true, Bool.and_eq_true, decide_eq_true_eq] at ranges
    rcases ranges with (⟨_, high⟩ | ⟨_, high⟩) | ⟨_, high⟩ <;>
      exact Nat.lt_of_le_of_lt high (by decide)
  · decide

/-- What holds of the characters of ASCII that are kept holds of all that are. -/
theorem forall_kept {motive : Char → Prop}
    (ascii : ∀ code : Fin 0x80, IsKeptChar (Char.ofNat code) → motive (Char.ofNat code))
    {c : Char} (kept : IsKeptChar c) : motive c := by
  have named : Char.ofNat c.toNat = c := Char.ofNat_toNat c
  have holds := ascii ⟨c.toNat, ascii_of_kept kept⟩
  rw [named] at holds
  exact holds kept

theorem is_kept_lower {c : Char} (kept : IsKeptChar c) : IsKeptChar c.toLower :=
  forall_kept (motive := fun c => IsKeptChar c.toLower) (by decide) kept

theorem lower_lower {c : Char} (kept : IsKeptChar c) : c.toLower.toLower = c.toLower :=
  forall_kept (motive := fun c => c.toLower.toLower = c.toLower) (by decide) kept

theorem is_blank_of_kept {c : Char} (kept : IsKeptChar c) : Text.isBlank c = decide (c = ' ') :=
  forall_kept (motive := fun c => Text.isBlank c = decide (c = ' ')) (by decide) kept

@[simp] theorem to_list_plain (text : String) : (plain text).toList = plainChars text.toList :=
  String.toList_ofList

theorem mem_plain_chars_iff {text : List Char} {c : Char} :
    c ∈ plainChars text ↔ ∃ source ∈ text, IsKeptChar source ∧ source.toLower = c := by
  simp [plainChars, IsKeptChar, and_assoc]

theorem plain_append (first second : String) :
    plain (first ++ second) = plain first ++ plain second := by
  unfold plain plainChars
  rw [String.toList_append, List.filter_append, List.map_append, String.ofList_append]

theorem plain_chars_of_kept {text : List Char}
    (kept : ∀ c ∈ text, IsKeptChar c ∧ c.toLower = c) : plainChars text = text := by
  have filtered : text.filter (fun c => c.isAlphanum || c = ' ') = text :=
    List.filter_eq_self.2 fun c member => by simpa [IsKeptChar] using (kept c member).1
  unfold plainChars
  rw [filtered]
  exact (List.map_congr_left fun c member => (kept c member).2).trans (List.map_id text)

theorem plain_plain (text : String) : plain (plain text) = plain text := by
  have same : plainChars (plainChars text.toList) = plainChars text.toList := by
    apply plain_chars_of_kept
    intro c member
    obtain ⟨source, _, kept, rfl⟩ := mem_plain_chars_iff.1 member
    exact ⟨is_kept_lower kept, lower_lower kept⟩
  unfold plain
  rw [String.toList_ofList, same]

theorem all_blank_plain_iff {text : String} :
    Text.allBlank (plain text) = true ↔ (plain text).toList.all (· = ' ') = true := by
  rw [Text.allBlank, to_list_plain, List.all_eq_true, List.all_eq_true]
  refine forall₂_congr fun c member => ?_
  obtain ⟨source, _, kept, rfl⟩ := mem_plain_chars_iff.1 member
  rw [is_blank_of_kept (is_kept_lower kept)]

/-! ### Entries -/

namespace AlgorithmCatalog

def readEntries? (source : String) : Option (TextMap Entry) := do
  Json.Tree.Reader.map? entry? (← Json.Tree.ofText? source)

theorem of_json_eq_ok_iff {source : String} {catalog : AlgorithmCatalog} :
    ofJson source = .ok catalog ↔ ∃ entries, readEntries? source = some entries ∧
      entries.isEmpty = false ∧ ofEntries entries = catalog := by
  unfold ofJson
  dsimp only
  generalize reading : (do Json.Tree.Reader.map? entry? (← Json.Tree.ofText? source) :
    Option (TextMap Entry)) = read
  have listed : readEntries? source = read := reading
  rw [listed]
  cases read with
  | none => simp
  | some entries =>
      cases empty : entries.isEmpty <;> simp [empty]

def Entry.algorithm (entry : Entry) (name : String) : Algorithm where
  reference := Algorithm.referenceFor name entry.1
  name := name
  oid := entry.1
  description := entry.2

/-- A name that is not blank in its plain form, which stands in the plain form of the code. -/
structure Mentions (code name : String) : Prop where
  shown : Text.allBlank (plain name) = false
  stands : (plain name).toList <:+: (plain code).toList

def Entry.signature (entry : Entry) (name : String) : Signature :=
  ⟨name, plain name, entry.1, entry.2⟩

variable {entries : TextMap Entry}

theorem mem_signatures_iff {signature : Signature} :
    signature ∈ (ofEntries entries).signatures ↔ ∃ name entry, (name, entry) ∈ entries.entries ∧
      Text.allBlank (plain name) = false ∧ entry.signature name = signature := by
  have shown : ∀ name, Text.allBlank (plain name) = false ↔
      ¬(plain name).toList.all (· = ' ') = true := by
    intro name
    rw [← all_blank_plain_iff, Bool.not_eq_true]
  simp only [ofEntries, List.mem_filterMap, Prod.exists, shown]
  constructor
  · intro made
    obtain ⟨name, oid, description, member, made⟩ := made
    split at made
    · cases made
    · rename_i looked
      exact ⟨name, oid, description, member, looked, Option.some.inj made⟩
  · intro named
    obtain ⟨name, oid, description, member, looked, rfl⟩ := named
    exact ⟨name, oid, description, member, if_neg looked⟩

theorem signatures_ascending : (ofEntries entries).signatures.Pairwise fun first second =>
    first.name < second.name := by
  refine entries.ascending.filterMap _ ?_
  intro first second below signature made other madeOther
  have names : ∀ {entry : String × Entry} {signature : Signature},
      (if (plain entry.1).toList.all (· = ' ') then none else some (entry.2.signature entry.1)) =
        some signature → signature.name = entry.1 := by
    intro entry signature made
    split at made
    · cases made
    · cases made
      rfl
  rw [names made, names madeOther]
  exact below

/-- A catalog finds its entries that the code mentions, and no others. -/
theorem mem_find_of_entries_iff {code : String} {algorithm : Algorithm} :
    algorithm ∈ (ofEntries entries).find code ↔ ∃ name entry, entries.get? name = some entry ∧
      Mentions code name ∧ entry.algorithm name = algorithm := by
  simp only [mem_find_iff, mem_signatures_iff, ← TextMap.mem_entries_iff]
  constructor
  · intro found
    obtain ⟨_, ⟨name, entry, member, shown, rfl⟩, made, stands⟩ := found
    rw [← to_list_plain] at stands
    exact ⟨name, entry, member, ⟨shown, stands⟩, made⟩
  · intro named
    obtain ⟨name, entry, member, mentioned, made⟩ := named
    have stands := mentioned.stands
    rw [to_list_plain code] at stands
    exact ⟨entry.signature name, ⟨name, entry, member, mentioned.shown, rfl⟩, made, stands⟩

theorem find_ascending (code : String) :
    ((ofEntries entries).find code).Pairwise fun first second => first.name < second.name :=
  List.pairwise_map.2 (signatures_ascending.filter _)

/-! ### Codes -/

theorem Mentions.around {code name : String} (mentioned : Mentions code name)
    (before after : String) : Mentions (before ++ code ++ after) name := by
  refine ⟨mentioned.shown, mentioned.stands.trans ?_⟩
  rw [plain_append, plain_append, String.toList_append, String.toList_append]
  exact List.infix_append _ _ _

theorem find_subset_around (code before after : String) :
    (ofEntries entries).find code ⊆ (ofEntries entries).find (before ++ code ++ after) := by
  intro algorithm found
  obtain ⟨name, entry, held, mentioned, made⟩ := mem_find_of_entries_iff.1 found
  exact mem_find_of_entries_iff.2 ⟨name, entry, held, mentioned.around before after, made⟩

theorem find_plain (catalog : AlgorithmCatalog) (code : String) :
    catalog.find (plain code) = catalog.find code := by
  unfold find
  rw [plain_plain]

theorem mentions_of_word {name word : String} (shown : Text.allBlank (plain name) = false)
    (spelled : plain word = plain name) (before after : String) :
    Mentions (before ++ word ++ after) name := by
  have itself : Mentions word name := ⟨shown, spelled ▸ List.infix_rfl⟩
  exact itself.around before after

/-- A catalog read from JSON lists, in the strict order of their names, the entries whose names the
code mentions and no others. So it finds an entry by each spelling of its name within any code,
finds as much in more code, and finds the same in the plain form of a code. -/
theorem detector_lists_mentioned {source : String} {catalog : AlgorithmCatalog}
    (read : ofJson source = .ok catalog) :
    ∃ entries, readEntries? source = some entries ∧
      (∀ code, catalog.detector.detect code = .ok (catalog.find code) ∧
        ((catalog.find code).Pairwise fun first second => first.name < second.name) ∧
        ∀ algorithm, algorithm ∈ catalog.find code ↔ ∃ name entry,
          entries.get? name = some entry ∧ Mentions code name ∧
            entry.algorithm name = algorithm) ∧
      (∀ name entry, entries.get? name = some entry → Text.allBlank (plain name) = false →
        ∀ word before after, plain word = plain name →
          entry.algorithm name ∈ catalog.find (before ++ word ++ after)) ∧
      (∀ code more, catalog.find code ⊆ catalog.find (code ++ more) ∧
        catalog.find code ⊆ catalog.find (more ++ code)) ∧
      ∀ code, catalog.find (plain code) = catalog.find code := by
  obtain ⟨entries, listed, _, rfl⟩ := of_json_eq_ok_iff.1 read
  refine ⟨entries, listed, ?_, ?_, ?_, find_plain _⟩
  · intro code
    exact ⟨rfl, find_ascending code, fun algorithm => mem_find_of_entries_iff⟩
  · intro name entry held shown word before after spelled
    exact mem_find_of_entries_iff.2
      ⟨name, entry, held, mentions_of_word shown spelled before after, rfl⟩
  · intro code more
    constructor
    · have within : (ofEntries entries).find code ⊆ (ofEntries entries).find ("" ++ code ++ more) :=
        find_subset_around code "" more
      rwa [String.empty_append] at within
    · have within : (ofEntries entries).find code ⊆ (ofEntries entries).find (more ++ code ++ "") :=
        find_subset_around code more ""
      rwa [String.append_empty] at within

/-- Two names of one plain form and one whose plain form is blank. -/
def sampleListing : String :=
  "\x7b\"SHA-256\": \x7b\"oid\": \"2.16.840\"\x7d, \"sha/256\": \x7b\x7d, \"--\": \x7b\x7d\x7d"

def sampleCatalog : AlgorithmCatalog :=
  ⟨[⟨"SHA-256", "sha256", some "2.16.840", none⟩, ⟨"sha/256", "sha256", none, none⟩]⟩

theorem sample_catalog_lists_mentioned : ofJson sampleListing = .ok sampleCatalog ∧
    (sampleCatalog.find "digest('Sha_256')").map Algorithm.name = ["SHA-256", "sha/256"] ∧
    Entry.algorithm (some "2.16.840", none) "SHA-256" ∈
      sampleCatalog.find ("digest('" ++ "Sha_256" ++ "')") := by
  have made : (ofJson sampleListing).toOption = some sampleCatalog := by decide +kernel
  have read : ofJson sampleListing = .ok sampleCatalog := by
    cases result : ofJson sampleListing with
    | error failure =>
        rw [result] at made
        cases made
    | ok catalog =>
        rw [result] at made
        rw [Option.some.inj made]
  obtain ⟨entries, listed, _, spelled, _⟩ := detector_lists_mentioned read
  have held : (readEntries? sampleListing).bind (·.get? "SHA-256") =
      some (some "2.16.840", none) := by
    decide +kernel
  rw [listed] at held
  refine ⟨read, by decide +kernel, ?_⟩
  exact spelled "SHA-256" (some "2.16.840", none) held (by decide +kernel) "Sha_256" "digest('" "')"
    (by decide +kernel)

end AlgorithmCatalog

end BomEvidence
