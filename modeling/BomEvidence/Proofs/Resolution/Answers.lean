import BomEvidence.Proofs.Resolution.Memo
import Mathlib.Data.Finset.Card
import Mathlib.Data.List.Induction

/-!
Resolvers whose index may answer differently each time it is asked. The first question for a
symbol decides what every later one is told, the index is asked at most once for a symbol, and
every question is counted as a hit or as a miss.
-/

namespace BomEvidence

namespace Resolver

/-- A symbol, and how the index answers while it is resolved. -/
structure Question where
  symbol : String
  answer : String → Except Failure (List String)

def answering (resolver : Resolver) (answer : String → Except Failure (List String)) : Resolver :=
  { resolver with index := resolver.index.map fun index => { index with find := answer } }

/-- Resolves the symbol of a question while the index answers as the question says. -/
def ask (resolver : Resolver) (question : Question) : Resolution × Resolver :=
  let (resolution, resolved) := (resolver.answering question.answer).resolve question.symbol
  (resolution, { resolved with index := resolver.index })

def after (resolver : Resolver) (questions : List Question) : Resolver :=
  questions.foldl (fun resolver question => (resolver.ask question).2) resolver

/-- The outcome of a question for a symbol depends on how the index answers. -/
def Consults (resolver : Resolver) (symbol : String) : Prop :=
  ∃ first second, resolver.ask ⟨symbol, first⟩ ≠ resolver.ask ⟨symbol, second⟩

def asksIndex (resolver : Resolver) : Bool := resolver.imports.isEmpty && resolver.index.isSome

def told (resolver : Resolver) (question : Question) : Resolution :=
  ((resolver.answering question.answer).lookUp question.symbol).1

/-! ### One question -/

theorem answering_own {resolver : Resolver} {index : NamespaceIndex}
    (held : resolver.index = some index) : resolver.answering index.find = resolver := by
  obtain ⟨language, imports, _, cache, queries, tally⟩ := resolver
  subst held
  rfl

theorem ask_own {resolver : Resolver} {index : NamespaceIndex}
    (held : resolver.index = some index) (symbol : String) :
    resolver.ask ⟨symbol, index.find⟩ = resolver.resolve symbol := by
  unfold ask
  dsimp only
  rw [answering_own held, held, ← held, ← (resolve_sources resolver symbol).index]

theorem answering_congr {first second : Resolver} (same : first.SameSources second)
    (answer : String → Except Failure (List String)) :
    (first.answering answer).SameSources (second.answering answer) := by
  refine ⟨same.language, same.imports, ?_⟩
  unfold answering
  rw [same.index]

theorem told_congr {first second : Resolver} (same : first.SameSources second)
    (question : Question) : first.told question = second.told question :=
  look_up_answer (answering_congr same question.answer) question.symbol

theorem ask_of_known {resolver : Resolver} {resolution : Resolution} (question : Question)
    (known : resolver.cache.known.get? question.symbol = some resolution) :
    resolver.ask question = (resolution, { resolver with
      cache := { resolver.cache with hits := resolver.cache.hits + 1 }
      tally := resolver.tally.increment .cacheHit }) := by
  have found : (resolver.answering question.answer).cache.known.get? question.symbol =
      some resolution := known
  unfold ask
  rw [resolve_of_known found]
  rfl

theorem look_up_queries (resolver : Resolver) (symbol : String) :
    (resolver.lookUp symbol).2.queries = resolver.queries + if resolver.asksIndex then 1 else 0 := by
  unfold lookUp asksIndex
  cases resolver.imports.isEmpty with
  | false => rfl
  | true =>
      cases resolver.index with
      | none => rfl
      | some index =>
          dsimp only
          cases index.find symbol <;> rfl

theorem ask_of_unknown {resolver : Resolver} (question : Question)
    (unknown : resolver.cache.known.get? question.symbol = none) :
    ∃ tally, resolver.ask question = (resolver.told question, { resolver with
      cache := {
        known := resolver.cache.known.insert question.symbol (resolver.told question).kept
        hits := resolver.cache.hits
        misses := resolver.cache.misses + 1 }
      queries := resolver.queries + if resolver.asksIndex then 1 else 0
      tally }) := by
  let asking := resolver.answering question.answer
  have found : asking.cache.known.get? question.symbol = none := unknown
  have sources : (asking.missing.lookUp question.symbol).2.SameSources asking :=
    (look_up_sources asking.missing question.symbol).trans (missing_sources asking)
  have queries := look_up_queries asking.missing question.symbol
  have sameIndex : asking.missing.asksIndex = resolver.asksIndex := by
    unfold asksIndex asking missing answering
    rw [Option.isSome_map]
  rw [sameIndex] at queries
  refine ⟨(asking.missing.lookUp question.symbol).2.tally, ?_⟩
  unfold ask
  rw [resolve_of_unknown found]
  refine Prod.ext rfl ?_
  dsimp only
  rw [sources.language, sources.imports, queries]
  rfl

theorem ask_sources (resolver : Resolver) (question : Question) :
    (resolver.ask question).2.SameSources resolver := by
  cases found : resolver.cache.known.get? question.symbol with
  | some resolution =>
      rw [ask_of_known question found]
      exact ⟨rfl, rfl, rfl⟩
  | none =>
      obtain ⟨tally, asked⟩ := ask_of_unknown question found
      rw [asked]
      exact ⟨rfl, rfl, rfl⟩

theorem consults_iff {resolver : Resolver} {symbol : String} :
    resolver.Consults symbol ↔
      resolver.asksIndex = true ∧ resolver.cache.known.get? symbol = none := by
  cases found : resolver.cache.known.get? symbol with
  | some resolution =>
      refine iff_of_false ?_ (fun fact => nomatch fact.2)
      rintro ⟨first, second, differ⟩
      rw [ask_of_known ⟨symbol, first⟩ found,
        ask_of_known ⟨symbol, second⟩ found] at differ
      exact differ rfl
  | none =>
      rw [and_iff_left rfl]
      cases asks : resolver.asksIndex with
      | true =>
          refine iff_of_true ⟨fun _ => .ok [""], fun _ => .ok [], ?_⟩ rfl
          obtain ⟨noImports, hasIndex⟩ := Bool.and_eq_true_iff.1 asks
          obtain ⟨index, held⟩ := Option.isSome_iff_exists.1 hasIndex
          obtain ⟨_, first⟩ := ask_of_unknown ⟨symbol, fun _ => .ok [""]⟩ found
          obtain ⟨_, second⟩ := ask_of_unknown ⟨symbol, fun _ => .ok []⟩ found
          have told : ∀ purls, resolver.told ⟨symbol, fun _ => .ok purls⟩ =
              .ofPurls (.ofList purls) := by
            intro purls
            unfold told answering lookUp
            dsimp only
            rw [noImports, held]
            rfl
          intro same
          have answers := congrArg Prod.fst same
          rw [first, second] at answers
          dsimp only at answers
          rw [told, told] at answers
          cases answers
      | false =>
          refine iff_of_false ?_ Bool.false_ne_true
          rintro ⟨first, second, differ⟩
          apply differ
          unfold ask
          dsimp only
          have unknown : ∀ answer, (resolver.answering answer).cache.known.get? symbol = none :=
            fun _ => found
          rw [resolve_of_unknown (unknown first), resolve_of_unknown (unknown second)]
          unfold asksIndex at asks
          unfold answering missing lookUp
          dsimp only
          cases noImports : resolver.imports.isEmpty with
          | false => rfl
          | true =>
              rw [noImports, Bool.true_and] at asks
              rw [Option.isSome_eq_false_iff, Option.isNone_iff_eq_none] at asks
              rw [asks]
              rfl

/-! ### What one question leaves -/

theorem known_ask (resolver : Resolver) (question : Question) (symbol : String) :
    (resolver.ask question).2.cache.known.get? symbol =
      (resolver.cache.known.get? symbol).or
        (if question.symbol = symbol then some (resolver.told question).kept else none) := by
  cases found : resolver.cache.known.get? question.symbol with
  | some resolution =>
      rw [ask_of_known question found]
      by_cases same : question.symbol = symbol
      · rw [if_pos same, ← same, found, Option.some_or]
      · rw [if_neg same, Option.or_none]
  | none =>
      obtain ⟨_, asked⟩ := ask_of_unknown question found
      rw [asked, TextMap.get_insert]
      by_cases same : question.symbol = symbol
      · rw [if_pos same, if_pos same.symm, ← same, found, Option.none_or]
      · rw [if_neg same, if_neg (Ne.symm same), Option.or_none]

theorem counted_ask (resolver : Resolver) (question : Question) :
    (resolver.ask question).2.cache.hits + (resolver.ask question).2.cache.misses =
      resolver.cache.hits + resolver.cache.misses + 1 := by
  cases found : resolver.cache.known.get? question.symbol with
  | some resolution =>
      rw [ask_of_known question found]
      dsimp only
      omega
  | none =>
      obtain ⟨_, asked⟩ := ask_of_unknown question found
      rw [asked]
      dsimp only
      omega

theorem queries_ask (resolver : Resolver) (question : Question) :
    (resolver.ask question).2.queries = resolver.queries +
      if resolver.asksIndex = true ∧ resolver.cache.known.get? question.symbol = none then 1
      else 0 := by
  cases found : resolver.cache.known.get? question.symbol with
  | some resolution =>
      rw [ask_of_known question found, if_neg fun fact => nomatch fact.2]
      rfl
  | none =>
      obtain ⟨_, asked⟩ := ask_of_unknown question found
      rw [asked]
      simp only [and_true]

/-! ### Runs of questions -/

section Runs

variable {start : Resolver}

theorem after_append (start : Resolver) (earlier : List Question) (question : Question) :
    start.after (earlier ++ [question]) = ((start.after earlier).ask question).2 := by
  unfold after
  rw [List.foldl_append]
  rfl

theorem after_sources (start : Resolver) (questions : List Question) :
    (start.after questions).SameSources start := by
  induction questions using List.reverseRecOn with
  | nil => exact ⟨rfl, rfl, rfl⟩
  | append_singleton earlier question ih =>
      rw [after_append]
      exact (ask_sources _ question).trans ih

theorem asks_index_after (start : Resolver) (questions : List Question) :
    (start.after questions).asksIndex = start.asksIndex := by
  have sources := after_sources start questions
  unfold asksIndex
  rw [sources.imports, sources.index]

/-- What is known of a symbol is what its first question was told. -/
theorem known_after (fresh : start.cache.known = ∅) (questions : List Question)
    (symbol : String) : (start.after questions).cache.known.get? symbol =
      (questions.find? fun question => question.symbol = symbol).map fun first =>
        (start.told first).kept := by
  induction questions using List.reverseRecOn with
  | nil =>
      change start.cache.known.get? symbol = none
      rw [fresh]
      rfl
  | append_singleton earlier question ih =>
      rw [after_append, known_ask, ih, told_congr (after_sources start earlier), List.find?_append,
        Option.map_or]
      congr 1
      by_cases same : question.symbol = symbol <;> simp [same]

theorem unknown_after_iff (fresh : start.cache.known = ∅) {questions : List Question}
    {symbol : String} : (start.after questions).cache.known.get? symbol = none ↔
      symbol ∉ questions.map Question.symbol := by
  rw [known_after fresh, Option.map_eq_none_iff, List.find?_eq_none]
  simp

theorem ask_after (fresh : start.cache.known = ∅) (earlier : List Question)
    (question : Question) : ((start.after earlier).ask question).1 =
      match earlier.find? fun other => other.symbol = question.symbol with
      | some first => (start.told first).kept
      | none => start.told question := by
  have known := known_after fresh earlier question.symbol
  cases found : earlier.find? fun other => other.symbol = question.symbol with
  | some first =>
      rw [found, Option.map_some] at known
      rw [ask_of_known question known]
  | none =>
      rw [found, Option.map_none] at known
      obtain ⟨_, asked⟩ := ask_of_unknown question known
      rw [asked]
      exact told_congr (after_sources start earlier) question

theorem counted_after (start : Resolver) (questions : List Question) :
    (start.after questions).cache.hits + (start.after questions).cache.misses =
      start.cache.hits + start.cache.misses + questions.length := by
  induction questions using List.reverseRecOn with
  | nil => rfl
  | append_singleton earlier question ih =>
      rw [after_append, counted_ask, ih, List.length_append, List.length_singleton]
      omega

theorem distinct_append (earlier : List Question) (question : Question) :
    ((earlier ++ [question]).map Question.symbol).toFinset.card =
      (earlier.map Question.symbol).toFinset.card +
        if question.symbol ∈ earlier.map Question.symbol then 0 else 1 := by
  have grown : ((earlier ++ [question]).map Question.symbol).toFinset =
      insert question.symbol (earlier.map Question.symbol).toFinset := by
    rw [List.map_append, List.toFinset_append, Finset.union_comm]
    rfl
  rw [grown, Finset.card_insert_eq_ite]
  simp only [List.mem_toFinset]
  split <;> rfl

theorem queries_after (fresh : start.cache.known = ∅) (questions : List Question) :
    (start.after questions).queries = start.queries +
      if start.asksIndex = true then (questions.map Question.symbol).toFinset.card else 0 := by
  induction questions using List.reverseRecOn with
  | nil => simp [after]
  | append_singleton earlier question ih =>
      rw [after_append, queries_ask, ih, asks_index_after, distinct_append]
      simp only [unknown_after_iff fresh]
      cases start.asksIndex with
      | false => simp
      | true =>
          by_cases known : question.symbol ∈ earlier.map Question.symbol
          · simp only [known, not_true_eq_false, and_false, if_true, if_false, Nat.add_zero]
          · simp only [known, not_false_eq_true, and_self, if_true, if_false, Nat.add_assoc]

/-- The first answer for a symbol is the answer to all later questions, without its failure. -/
theorem ask_again (fresh : start.cache.known = ∅) {earlier between : List Question}
    {first again : Question} (new : first.symbol ∉ earlier.map Question.symbol)
    (same : again.symbol = first.symbol) :
    ((start.after (earlier ++ first :: between)).ask again).1 =
      ((start.after earlier).ask first).1.kept := by
  have unasked : (earlier.find? fun other => other.symbol = first.symbol) = none := by
    rw [List.find?_eq_none]
    intro other member
    rw [decide_eq_true_eq]
    intro equal
    exact new (equal ▸ List.mem_map_of_mem member)
  have asked : ((first :: between).find? fun other => other.symbol = first.symbol) = some first :=
    List.find?_cons_of_pos (decide_eq_true rfl)
  have answered := ask_after fresh earlier first
  have repeated := ask_after fresh (earlier ++ first :: between) again
  rw [same, List.find?_append, unasked, Option.none_or, asked] at repeated
  rw [unasked] at answered
  rw [repeated, answered]

theorem purls_of_ask_after (fresh : start.cache.known = ∅)
    (answer : String → Except Failure (List String)) (symbols : List String) (symbol : String) :
    ((start.after (symbols.map fun asked => ⟨asked, answer⟩)).ask ⟨symbol, answer⟩).1.purls =
      (start.ask ⟨symbol, answer⟩).1.purls := by
  have alone : (start.ask ⟨symbol, answer⟩).1 = start.told ⟨symbol, answer⟩ :=
    ask_after fresh [] ⟨symbol, answer⟩
  rw [alone, ask_after fresh]
  dsimp only
  split
  · rename_i first found
    obtain ⟨asked, _, rfl⟩ := List.mem_map.1 (List.mem_of_find?_eq_some found)
    have same : asked = symbol := by simpa using List.find?_some found
    rw [same, Resolution.purls_kept]
  · rfl

end Runs

/-- What a new resolver makes of questions while its index answers as it likes: the index is asked
for a symbol once, the first answer stays, every question is counted, and an index that does not
change is heard as if each symbol were the only one. -/
theorem first_answer_stays (language : Language) (imports : ImportTable)
    (index : Option NamespaceIndex) :
    let start := Resolver.new language imports index
    (∀ held, index = some held → ∀ questions symbol,
      (start.after questions).ask ⟨symbol, held.find⟩ = (start.after questions).resolve symbol) ∧
    (∀ earlier symbol, (start.after earlier).Consults symbol ↔
      imports.isEmpty = true ∧ index.isSome = true ∧ symbol ∉ earlier.map Question.symbol) ∧
    (∀ questions, (start.after questions).queries =
      if imports.isEmpty = true ∧ index.isSome = true then
        (questions.map Question.symbol).toFinset.card
      else 0) ∧
    (∀ earlier first between again, first.symbol ∉ earlier.map Question.symbol →
      again.symbol = first.symbol →
      let answer := ((start.after earlier).ask first).1
      let repeated := ((start.after (earlier ++ first :: between)).ask again).1
      repeated.purls = answer.purls ∧
        (∀ reason, answer = .failed reason → repeated = .unresolved) ∧
        ((∀ reason, answer ≠ .failed reason) → repeated = answer)) ∧
    (∀ questions, (start.after questions).cache.hits + (start.after questions).cache.misses =
      questions.length) ∧
    ∀ answer (symbols : List String) symbol,
      ((start.after (symbols.map fun asked => ⟨asked, answer⟩)).ask ⟨symbol, answer⟩).1.purls =
        (start.ask ⟨symbol, answer⟩).1.purls := by
  intro start
  have fresh : start.cache.known = ∅ := rfl
  have asks : start.asksIndex = true ↔ imports.isEmpty = true ∧ index.isSome = true :=
    Bool.and_eq_true_iff
  refine ⟨?_, ?_, ?_, ?_, ?_, fun answer => purls_of_ask_after fresh answer⟩
  · intro held isIndex questions symbol
    exact ask_own ((after_sources start questions).index.trans isIndex) symbol
  · intro earlier symbol
    rw [consults_iff, asks_index_after, asks, unknown_after_iff fresh, and_assoc]
  · intro questions
    rw [queries_after fresh]
    simp only [asks]
    exact Nat.zero_add _
  · intro earlier first between again new same answer repeated
    have stays : repeated = answer.kept := ask_again fresh new same
    refine ⟨?_, ?_, ?_⟩
    · rw [stays, Resolution.purls_kept]
    · intro reason failed
      rw [stays, failed]
      rfl
    · intro succeeded
      rw [stays]
      cases outcome : answer with
      | failed reason => exact absurd outcome (succeeded reason)
      | _ => rfl
  · intro questions
    exact (counted_after start questions).trans (Nat.zero_add _)

theorem first_answer_stays_of_sample :
    let start := Resolver.new .java ∅ (some ⟨"memory", fun _ => .ok []⟩)
    let first : Question := ⟨"slf4j.Logger", fun _ => .error (.index (.queryFailed "locked"))⟩
    let again : Question := ⟨"slf4j.Logger", fun _ => .ok ["pkg:maven/slf4j@2.0"]⟩
    ((start.after []).ask first).1 = .failed "index error: query failed: locked" ∧
      ((start.after ([] ++ first :: [])).ask again).1 = .unresolved ∧
      (start.after [first, again]).queries = 1 := by
  intro start first again
  obtain ⟨_, _, queries, stays, _, _⟩ :=
    first_answer_stays .java ∅ (some ⟨"memory", fun _ => .ok []⟩)
  have failed : ((start.after []).ask first).1 =
      .failed "index error: query failed: locked" := by
    decide
  refine ⟨failed, (stays [] first [] again nofun rfl).2.1 _ failed, ?_⟩
  rw [queries]
  decide

end Resolver

end BomEvidence
