import BomEvidence.Proofs.Evidence.Services
import BomEvidence.Proofs.Resolution.Answers

/-!
A usage slice is a set of records. Slices with the same objects and the same types leave the same
evidence, in whatever order the records stand and however often one of them occurs: the resolver
learns the same symbols with as many queries, and each symbol leads to the same packages whenever
it is asked for.
-/

namespace BomEvidence

attribute [ext] EvidenceMaps

namespace Resolver

def learnt (resolver : Resolver) : TextMap Resolution × Nat :=
  (resolver.cache.known, resolver.queries)

def learn (resolver : Resolver) (before : TextMap Resolution × Nat) (symbol : String) :
    TextMap Resolution × Nat :=
  if (before.1.get? symbol).isSome then before
  else
    (before.1.insert symbol (resolver.lookUp symbol).1.kept,
      before.2 + if resolver.asksIndex then 1 else 0)

theorem learn_congr {first second : Resolver} (same : first.SameSources second) :
    first.learn = second.learn := by
  funext before symbol
  unfold learn asksIndex
  rw [look_up_answer same, same.imports, same.index]

theorem learnt_resolve (resolver : Resolver) (symbol : String) :
    (resolver.resolve symbol).2.learnt = resolver.learn resolver.learnt symbol := by
  unfold learnt learn
  dsimp only
  rw [known_resolve]
  cases found : resolver.cache.known.get? symbol with
  | some resolution =>
      rw [resolve_of_known found]
      simp
  | none =>
      rw [resolve_of_unknown found]
      simp [look_up_queries, missing, asksIndex]

theorem learnt_resolve_all (resolver : Resolver) (symbols : List String) :
    (resolver.resolveAll symbols).2.learnt = symbols.foldl resolver.learn resolver.learnt := by
  induction symbols generalizing resolver with
  | nil => rfl
  | cons symbol rest ih =>
      rw [resolve_all_cons, ih, learn_congr (resolve_sources resolver symbol), learnt_resolve,
        List.foldl_cons]

theorem learn_of_known (resolver : Resolver) {before : TextMap Resolution × Nat} {symbol : String}
    (known : (before.1.get? symbol).isSome = true) : resolver.learn before symbol = before := by
  unfold learn
  rw [if_pos known]

theorem learn_of_unknown (resolver : Resolver) {before : TextMap Resolution × Nat}
    {symbol : String} (unknown : (before.1.get? symbol).isSome = false) :
    resolver.learn before symbol = (before.1.insert symbol (resolver.lookUp symbol).1.kept,
      before.2 + if resolver.asksIndex then 1 else 0) := by
  unfold learn
  rw [unknown, if_neg Bool.false_ne_true]

theorem known_learn (resolver : Resolver) (before : TextMap Resolution × Nat)
    (asked symbol : String) : ((resolver.learn before asked).1.get? symbol).isSome =
      (decide (symbol = asked) || (before.1.get? symbol).isSome) := by
  unfold learn
  cases found : before.1.get? asked with
  | some resolution =>
      by_cases same : symbol = asked <;> simp [same, found]
  | none =>
      by_cases same : symbol = asked <;> simp [same, TextMap.get_insert]

/-- What the sources say to a symbol does not depend on what was learnt before. -/
theorem settles_learn (resolver : Resolver) : Settles resolver.learn := by
  constructor
  · intro before first second
    by_cases same : first = second
    · rw [same]
    · have unaffected : ∀ asked other, asked ≠ other →
          ((resolver.learn before asked).1.get? other).isSome = (before.1.get? other).isSome := by
        intro asked other apart
        simp [known_learn, apart.symm]
      have knownFirst := unaffected second first (Ne.symm same)
      have knownSecond := unaffected first second same
      cases left : (before.1.get? first).isSome with
      | true => rw [resolver.learn_of_known left, resolver.learn_of_known (knownFirst.trans left)]
      | false =>
          cases right : (before.1.get? second).isSome with
          | true =>
              rw [resolver.learn_of_known right, resolver.learn_of_known (knownSecond.trans right)]
          | false =>
              rw [resolver.learn_of_unknown (knownFirst.trans left),
                resolver.learn_of_unknown (knownSecond.trans right),
                resolver.learn_of_unknown left, resolver.learn_of_unknown right]
              apply Prod.ext
              · exact TextMap.alter_comm before.1 same _ _
              · rfl
  · intro before symbol
    apply learn_of_known
    simp [known_learn]

end Resolver

namespace Collector

/-- The questions of a usage slice are those of its records. -/
theorem questions_congr (collector : Collector) {first second : UsageSlice}
    (objects : ∀ object, object ∈ first.objects ↔ object ∈ second.objects)
    (names : first.typeNames = second.typeNames) (symbol : String) :
    symbol ∈ collector.questions (.usages first) ↔ symbol ∈ collector.questions (.usages second) := by
  simp [questions, names, objects]

theorem add_usages_learns (collector : Collector) (slice : UsageSlice) :
    (collector.addUsages slice).resolver.learnt =
      (collector.questions (.usages slice)).foldl collector.resolver.learn
        collector.resolver.learnt := by
  rw [(add_usages_asks collector slice).resolver]
  exact Resolver.learnt_resolve_all _ _

theorem add_usages_locations_congr (collector : Collector) {first second : UsageSlice}
    (objects : ∀ object, object ∈ first.objects ↔ object ∈ second.objects)
    (names : first.typeNames = second.typeNames) :
    (collector.addUsages first).maps.locations = (collector.addUsages second).maps.locations := by
  apply TextMap.ext_relates
  · intro purl
    have left : (collector.addUsages first).maps.IsLocated purl ↔ _ := is_located_add_usages
    have right : (collector.addUsages second).maps.IsLocated purl ↔ _ := is_located_add_usages
    simp only [objects, names] at left
    exact left.trans right.symm
  · intro purl place
    have left : (collector.addUsages first).maps.HasPlace purl place ↔ _ := has_place_add_usages
    have right : (collector.addUsages second).maps.HasPlace purl place ↔ _ := has_place_add_usages
    unfold UsageSlice.Places at left right
    simp only [objects, names] at left
    exact left.trans right.symm

/-- Only the set of the records of a usage slice counts, for any state of the collector. -/
theorem add_usages_of_same_records (collector : Collector) {first second : UsageSlice}
    (objects : ∀ object, object ∈ first.objects ↔ object ∈ second.objects)
    (types : ∀ type, type ∈ first.userTypes ↔ type ∈ second.userTypes) :
    let left := collector.addUsages first
    let right := collector.addUsages second
    left.maps = right.maps ∧ left.userTypes = right.userTypes ∧
      left.resolver.queries = right.resolver.queries := by
  intro left right
  have names : first.typeNames = second.typeNames := by
    apply TextSet.of_list_congr
    intro name
    simp [types]
  have services : left.maps.services = right.maps.services := by
    rw [add_usages_services, add_usages_services]
    exact Service.of_slice_congr collector.language objects types collector.maps.services
  have kept : ∀ {Kept : Type} (read : EvidenceMaps → Kept),
      (∀ maps purl places, read (EvidenceMaps.addLocations maps purl places) = read maps) →
      (∀ (maps : EvidenceMaps) services, read { maps with services } = read maps) →
      read left.maps = read right.maps := by
    intro Kept read placed served
    exact (add_usages_keeps placed served collector first).trans
      (add_usages_keeps placed served collector second).symm
  have learnt : left.resolver.learnt = right.resolver.learnt := by
    rw [add_usages_learns, add_usages_learns]
    exact (Resolver.settles_learn collector.resolver).foldl_eq
      (questions_congr collector objects names) _
  refine ⟨?_, ?_, congrArg Prod.snd learnt⟩
  · apply EvidenceMaps.ext
    · exact add_usages_locations_congr collector objects names
    · exact kept EvidenceMaps.callstacks (fun _ _ _ => rfl) (fun _ _ => rfl)
    · exact kept EvidenceMaps.providers (fun _ _ _ => rfl) (fun _ _ => rfl)
    · exact kept EvidenceMaps.algorithms (fun _ _ _ => rfl) (fun _ _ => rfl)
    · exact services
  · rw [(add_usages_asks collector first).userTypes, (add_usages_asks collector second).userTypes,
      names]

/-- An object of one file, with a usage of a type that calls a method. -/
def objectUsing (name file type method : String) : ObjectSlice where
  code := none
  fullName := some name
  signature := none
  file := some file
  line := none
  column := none
  usages := [{
    target := some ⟨none, some type, none, none, none, some 3, none⟩
    definedBy := none
    invokedCalls := [⟨none, some method, [], none, none, none, none⟩]
    argumentCalls := []
    procedures := []
    fields := [] }]

theorem add_usages_of_reordered_records :
    let login := objectUsing "app.login" "login.py" "flask.Flask" "route('/login/auth')"
    let home := objectUsing "app.home" "home.py" "ssl.SSLContext" "route('/home')"
    let routes : UserType := ⟨"Routes", [⟨some "'/api'", none, none, none⟩], [], none, none⟩
    let find (symbol : String) : Except Failure (List String) :=
      if symbol = "flask.Flask" then .ok ["pkg:pypi/flask@3.0.0"]
      else .error (.index (.queryFailed "locked"))
    let start := Collector.new (.new .python ∅ (some ⟨"memory", find⟩)) none
    let left := start.addUsages ⟨[login, home], [routes]⟩
    let right := start.addUsages ⟨[home, login, home], [routes, routes]⟩
    (left.maps = right.maps ∧ left.userTypes = right.userTypes ∧
      left.resolver.queries = right.resolver.queries) ∧
      left.maps.HasPlace "pkg:pypi/flask@3.0.0" "login.py#3" ∧
      left.maps.services.keys = ["app-home-service", "app-login-service", "service"] ∧
      left.resolver.queries = 4 := by
  intro login home routes find start left right
  refine ⟨?_, ?_, ?_, ?_⟩
  · apply add_usages_of_same_records start
    · intro object
      simp only [List.mem_cons, List.not_mem_nil, or_false]
      tauto
    · intro type
      simp
  · rw [EvidenceMaps.HasPlace, TextMap.relates_iff]
    decide +kernel
  · decide +kernel
  · decide +kernel

end Collector

end BomEvidence
