import BomEvidence.Proofs.Bom.Merge
import BomEvidence.Proofs.Sorted.Bytes
import BomEvidence.Proofs.Sorted.Keys

/-!
How detected services are merged with those of a document. A list is merged from its head on: the
head takes what was detected under its name, the rest of the list is merged with everything else,
and what no service of the list took is added to the end.
-/

namespace BomEvidence.Bom

namespace ServiceEntry

/-! ### One service -/

structure Absorbs (service : Service) (before after : ServiceEntry) : Prop where
  name : after.name = before.name
  extra : after.extra = before.extra
  endpoints : ∀ endpoint, endpoint ∈ after.endpoints.getD [] ↔
    endpoint ∈ before.endpoints.getD [] ∨ endpoint ∈ service.endpoints
  ascending : (after.endpoints.getD []).Pairwise fun first second =>
    bytesOf first < bytesOf second
  absent : after.endpoints = none ↔ after.endpoints.getD [] = []
  marked : service.authenticated = some true → after.authenticated = some true
  unmarked : service.authenticated ≠ some true → ∀ told, before.authenticated = some told →
    after.authenticated = some told
  untold : service.authenticated ≠ some true → before.authenticated = none →
    after.authenticated = service.authenticated
  trusted : service.trustBoundary = some true → after.trustBoundary = some true
  untrusted : service.trustBoundary ≠ some true → after.trustBoundary = before.trustBoundary

theorem merge_absorbs (service : Service) (entry : ServiceEntry) :
    Absorbs service entry (entry.merge service) := by
  have endpoints := merge_endpoints entry service
  constructor
  case name => rfl
  case extra => rfl
  case endpoints =>
    intro endpoint
    rw [endpoints, mem_merged_texts, TextSet.mem_to_list]
  case ascending =>
    rw [endpoints]
    apply (merged_texts_ascending _ _).imp
    exact lt_iff_bytes_lt.1
  case absent =>
    simp only [merge]
    split <;> simp_all
  case marked => exact fun marked => if_pos marked
  case unmarked =>
    intro unmarked told isTold
    rw [merge, if_neg unmarked, isTold, Option.some_or]
  case untold =>
    intro unmarked untold
    rw [merge, if_neg unmarked, untold, Option.none_or]
  case trusted => exact fun trusted => if_pos trusted
  case untrusted => exact fun untrusted => if_neg untrusted

def absorb (detected : ServiceMap) (entry : ServiceEntry) : ServiceEntry :=
  ((detected.get? entry.name).map entry.merge).getD entry

theorem absorb_of_some {detected : ServiceMap} {entry : ServiceEntry} {service : Service}
    (found : detected.get? entry.name = some service) :
    entry.absorb detected = entry.merge service := by
  rw [absorb, found, Option.map_some, Option.getD_some]

theorem absorb_of_none {detected : ServiceMap} {entry : ServiceEntry}
    (missing : detected.get? entry.name = none) : entry.absorb detected = entry := by
  rw [absorb, missing, Option.map_none, Option.getD_none]

def named (name : String) : ServiceEntry := { (default : ServiceEntry) with name }

/-! ### Lists of services -/

theorem merge_each_cons {changes : List (String × Service)}
    (ascending : changes.Pairwise fun first second => first.1 < second.1)
    (entry : ServiceEntry) (rest : List ServiceEntry) :
    mergeEach changes (entry :: rest) =
      ((changes.lookup entry.name).map entry.merge).getD entry ::
        mergeEach (changes.filter fun change => change.1 ≠ entry.name) rest := by
  induction changes generalizing entry rest with
  | nil => rfl
  | cons change changes ih =>
      rcases List.pairwise_cons.1 ascending with ⟨above, later⟩
      rw [mergeEach, TextMap.lookup_entry_cons]
      by_cases same : entry.name = change.1
      · have taken : changes.lookup entry.name = none := by
          apply TextMap.lookup_below
          rw [same]
          exact above
        have skipped : ¬change.1 ≠ entry.name := fun apart => apart same.symm
        rw [merge_named_same same, ih later, if_pos same]
        rw [List.filter_cons_of_neg (by simpa using skipped)]
        change ((changes.lookup entry.name).map _).getD _ :: _ = _
        rw [taken]
        rfl
      · have kept : change.1 ≠ entry.name := Ne.symm same
        rw [merge_named_apart same, ih later, if_neg same]
        rw [List.filter_cons_of_pos (by simpa using kept)]
        rfl

theorem merge_each_nil {changes : List (String × Service)}
    (ascending : changes.Pairwise fun first second => first.1 < second.1) :
    mergeEach changes [] = changes.map fun change => (named change.1).merge change.2 := by
  induction changes with
  | nil => rfl
  | cons change changes ih =>
      rcases List.pairwise_cons.1 ascending with ⟨above, later⟩
      have taken : changes.lookup change.1 = none := TextMap.lookup_below above
      have others : (changes.filter fun other => other.1 ≠ change.1) = changes := by
        apply List.filter_eq_self.2
        intro other member
        apply decide_eq_true
        intro same
        exact String.lt_irrefl _ (same ▸ above other member)
      change mergeEach changes [(named change.1).merge change.2] = _
      rw [merge_each_cons later]
      change ((changes.lookup change.1).map _).getD _ ::
        mergeEach (changes.filter fun other => other.1 ≠ change.1) [] = _
      rw [taken, others, ih later]
      rfl

theorem merge_all_cons (detected : ServiceMap) (entry : ServiceEntry) (rest : List ServiceEntry) :
    mergeAll detected (entry :: rest) =
      entry.absorb detected :: mergeAll (detected.erase entry.name) rest := by
  rw [merge_all_eq_merge_each, merge_each_cons detected.ascending, merge_all_eq_merge_each]
  rfl

theorem merge_all_nil (detected : ServiceMap) :
    mergeAll detected [] =
      detected.entries.map fun change => (named change.1).merge change.2 := by
  rw [merge_all_eq_merge_each, merge_each_nil detected.ascending]

/-- A list of services before and after detected ones were merged with it. Every service stays in
its place, those behind them are new, and what is new was detected under no name of the list. -/
structure Merged (detected : ServiceMap) (before after : List ServiceEntry) : Prop where
  /-- The first service of a name takes what was detected under this name. -/
  absorbs : ∀ (position : Nat) entry service, before[position]? = some entry →
    (∀ earlier ∈ before.take position, earlier.name ≠ entry.name) →
    detected.get? entry.name = some service →
      ∃ changed, after[position]? = some changed ∧ Absorbs service entry changed
  /-- Other services do not change. -/
  keeps : ∀ (position : Nat) entry, before[position]? = some entry →
    (∃ earlier ∈ before.take position, earlier.name = entry.name) ∨
      detected.get? entry.name = none → after[position]? = some entry
  names : ∀ name, name ∈ (after.drop before.length).map ServiceEntry.name ↔
    detected.contains name = true ∧ ∀ entry ∈ before, entry.name ≠ name
  ascending : ((after.drop before.length).map ServiceEntry.name).Pairwise fun first second =>
    bytesOf first < bytesOf second
  new : ∀ entry ∈ after.drop before.length, ∃ service,
    detected.get? entry.name = some service ∧ Absorbs service (named entry.name) entry

variable {detected : ServiceMap} {entries : List ServiceEntry}

theorem get_of_first {position : Nat} {entry : ServiceEntry} {service : Service}
    (there : entries[position]? = some entry)
    (first : ∀ earlier ∈ entries.take position, earlier.name ≠ entry.name)
    (found : detected.get? entry.name = some service) :
    (mergeAll detected entries)[position]? = some (entry.merge service) := by
  induction entries generalizing detected position with
  | nil => cases there
  | cons head rest ih =>
      rw [merge_all_cons]
      cases position with
      | zero =>
          cases there
          rw [List.getElem?_cons_zero, absorb_of_some found]
      | succ position =>
          have apart : head.name ≠ entry.name := first head List.mem_cons_self
          apply ih there
          · intro earlier member
            exact first earlier (List.mem_cons_of_mem _ member)
          · rw [TextMap.get_erase, if_neg apart.symm, found]

theorem get_of_other {position : Nat} {entry : ServiceEntry}
    (there : entries[position]? = some entry)
    (other : (∃ earlier ∈ entries.take position, earlier.name = entry.name) ∨
      detected.get? entry.name = none) :
    (mergeAll detected entries)[position]? = some entry := by
  induction entries generalizing detected position with
  | nil => cases there
  | cons head rest ih =>
      rw [merge_all_cons]
      cases position with
      | zero =>
          cases there
          have missing : detected.get? entry.name = none := by
            apply other.resolve_left
            rintro ⟨earlier, member, _⟩
            cases member
          rw [List.getElem?_cons_zero, absorb_of_none missing]
      | succ position =>
          apply ih there
          rw [TextMap.get_erase]
          by_cases same : entry.name = head.name
          · exact Or.inr (if_pos same)
          · rw [if_neg same]
            apply other.imp_left
            rintro ⟨earlier, member, named⟩
            rcases List.mem_cons.1 member with rfl | later
            · exact absurd named.symm same
            · exact ⟨earlier, later, named⟩

theorem names_behind : ((mergeAll detected entries).drop entries.length).map ServiceEntry.name =
    detected.keys.filter fun name => name ∉ entries.map ServiceEntry.name := by
  induction entries generalizing detected with
  | nil =>
      have all : (detected.keys.filter fun name => name ∉ ([] : List ServiceEntry).map
          ServiceEntry.name) = detected.keys := by
        apply List.filter_eq_self.2
        simp
      rw [all, merge_all_nil, List.length_nil, List.drop_zero, List.map_map]
      rfl
  | cons head rest ih =>
      have erased : (detected.erase head.name).keys =
          detected.keys.filter fun name => name ≠ head.name := by
        rw [TextMap.keys, TextMap.keys, List.filter_map]
        rfl
      rw [merge_all_cons, List.length_cons, List.drop_succ_cons, ih, erased, List.filter_filter]
      apply List.filter_congr
      intro name _
      simp only [List.map_cons, List.mem_cons, not_or, Bool.decide_and]
      exact Bool.and_comm _ _

theorem absorbs_of_behind {entry : ServiceEntry}
    (member : entry ∈ (mergeAll detected entries).drop entries.length) :
    ∃ service, detected.get? entry.name = some service ∧
      Absorbs service (named entry.name) entry := by
  induction entries generalizing detected with
  | nil =>
      rw [merge_all_nil, List.length_nil, List.drop_zero] at member
      rcases List.mem_map.1 member with ⟨change, listed, rfl⟩
      exact ⟨change.2, TextMap.mem_entries_iff.1 listed, merge_absorbs change.2 (named change.1)⟩
  | cons head rest ih =>
      rw [merge_all_cons, List.length_cons, List.drop_succ_cons] at member
      rcases ih member with ⟨service, found, absorbs⟩
      rw [TextMap.get_erase] at found
      split at found
      · cases found
      · exact ⟨service, found, absorbs⟩

theorem merge_all_merged (detected : ServiceMap) (entries : List ServiceEntry) :
    Merged detected entries (mergeAll detected entries) := by
  constructor
  case absorbs =>
    intro position entry service there first found
    exact ⟨_, get_of_first there first found, merge_absorbs service entry⟩
  case keeps =>
    intro position entry there other
    exact get_of_other there other
  case names =>
    intro name
    rw [names_behind, List.mem_filter, TextMap.mem_keys_iff, decide_eq_true_eq, List.mem_map]
    apply and_congr_right
    intro _
    constructor
    · intro missing entry member same
      exact missing ⟨entry, member, same⟩
    · rintro apart ⟨entry, member, same⟩
      exact apart entry member same
  case ascending =>
    rw [names_behind]
    apply (detected.keys_ascending.filter _).imp
    exact lt_iff_bytes_lt.1
  case new =>
    intro entry member
    exact absorbs_of_behind member

end ServiceEntry

/-- The services of a document after evidence was attached to it: those that were there before, in
their places, the first one of each detected name with what was detected, and behind them those of
new names. A document without services gets a list of them only where some were detected. -/
theorem Document.services_of_attach (document : Document) (maps : EvidenceMaps)
    (records : Option (List SliceRecord)) (now : Instant) :
    let before := document.services
    let after := (document.attach maps records now).services
    (after = none ↔ before = none ∧ maps.services.isEmpty = true) ∧
      ServiceEntry.Merged maps.services (before.getD []) (after.getD []) := by
  have merged := ServiceEntry.merge_all_merged maps.services (document.services.getD [])
  dsimp only [attach]
  by_cases nothing : maps.services.isEmpty = true
  · have unchanged : ServiceEntry.mergeAll maps.services (document.services.getD []) =
        document.services.getD [] := by
      rw [ServiceEntry.mergeAll, List.isEmpty_iff.1 nothing, List.foldl_nil]
    rw [unchanged] at merged
    rw [if_pos nothing]
    exact ⟨by simp [nothing], merged⟩
  · rw [if_neg nothing]
    exact ⟨by simp [nothing], merged⟩

end BomEvidence.Bom
