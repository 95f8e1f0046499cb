import BomEvidence.Proofs.Evidence.Reading
import BomEvidence.Proofs.Evidence.UsagePlaces

/-!
Where an object tells the place of a symbol. At each spot that is read an object may record names
with a line: the names of its head and of calls as they are, and of other signatures the text and
the class. Main statement: the place of a symbol is the one that its first record tells, in the
order in which the spots are read, and a symbol without a record has no place.
-/

namespace BomEvidence

/-! ### Records -/

/-- A symbol is admitted by what is known of its origin: it is external, or nothing is known of it
and it is no marker. -/
def Mention.Admitted (isExternal : Option Bool) (symbol : String) : Prop :=
  isExternal = some true ∨ isExternal = none ∧ symbol ∉ emptyMarkers

def Call.IsScoped (call : Call) : Prop :=
  Text.startsWith (call.resolvedMethod.getD "") "@" = true ∨
    Text.contains (call.name.getD "") "::" = true

/-- The signatures of a call are admitted by what is known of the call, and all of them where the
call is annotated or scoped. -/
def Call.Admits (call : Call) (signature : String) : Prop :=
  call.IsScoped ∨ Mention.Admitted call.isExternal signature

/-- The names that a signature gives: its text without array marks, where the text counts, and the
name of its class. A signature that is filtered gives none. -/
inductive Mention.Gives (language : Language) (types : TextSet) (counts : Bool)
    (signature : String) : String → Prop
  | text (passes : Symbol.isFilterable language types signature = false) (exact : counts = true)
      (noParenthesis : Text.contains signature "(" = false)
      (noFile : Text.contains signature ".py" = false) :
      Gives language types counts signature (Symbol.withoutArrays signature)
  | ofClass (passes : Symbol.isFilterable language types signature = false) {name : String}
      (reduced : Symbol.className? language signature = some name) :
      Gives language types counts signature name

namespace ObjectSlice

structure IsHeadAlone (object : ObjectSlice) : Prop where
  unused : object.usages = []
  marked : (∃ signature, object.signature = some signature ∧
      Text.startsWith signature "@" = true) ∨
    ∃ code, object.code = some code ∧ Text.startsWith code "use" = true

/-- An object records a symbol with a line at a spot, where the signatures of calls have to be
admitted in a given way. -/
inductive Records (language : Language) (types : TextSet) (admits : Call → String → Prop)
    (object : ObjectSlice) : Spot → String → UInt64 → Prop
  | head {name : String} {line : UInt64} (alone : object.IsHeadAlone)
      (named : object.fullName = some name) (nonempty : name ≠ "")
      (placed : object.line = some line) :
      Records language types admits object .head name line
  | part {index : Nat} {usage : Usage} {part : UsagePart} {isExternal : Option Bool}
      {symbol name : String} {line : UInt64} (used : object.usages[index]? = some usage)
      (shown : usage.symbolAt? part = some (isExternal, symbol))
      (admitted : Mention.Admitted isExternal symbol)
      (given : Mention.Gives language types language.traits.callNodeLines symbol name)
      (placed : usage.line = some line) :
      Records language types admits object (.part index part) name line
  | callName {index position : Nat} {usage : Usage} {call : Call} {name : String} {line : UInt64}
      (used : object.usages[index]? = some usage)
      (called : (usage.invokedCalls ++ usage.argumentCalls ++ usage.procedures)[position]? =
        some call)
      (inScope : call.IsScoped) (named : call.name = some name) (nonempty : name ≠ "")
      (placed : call.line = some line) :
      Records language types admits object (.call index position .name) name line
  | callSignature {index position : Nat} {usage : Usage} {call : Call} {part : CallPart}
      {signature name : String} {line : UInt64} (used : object.usages[index]? = some usage)
      (called : (usage.invokedCalls ++ usage.argumentCalls ++ usage.procedures)[position]? =
        some call)
      (shown : call.signatureAt? part = some signature) (admitted : admits call signature)
      (given : Mention.Gives language types true signature name)
      (placed : call.line = some line) :
      Records language types admits object (.call index position part) name line

/-- A record of a symbol that no other record of it precedes. -/
structure RecordsFirst (language : Language) (types : TextSet) (admits : Call → String → Prop)
    (object : ObjectSlice) (symbol : String) (spot : Spot) (line : UInt64) : Prop where
  records : object.Records language types admits spot symbol line
  first : ∀ other later, object.Records language types admits other symbol later →
    ¬other.Precedes spot

/-- A symbol that is no marker, or that every call which has it as a signature admits or refuses
without a look at the markers: the call is scoped or its origin is known. -/
def IsUnmarked (object : ObjectSlice) (symbol : String) : Prop :=
  symbol ∈ Mention.emptyMarkers → ∀ usage ∈ object.usages, ∀ call ∈ usage.calls, ∀ part,
    call.signatureAt? part = some symbol → call.IsScoped ∨ call.isExternal ≠ none

end ObjectSlice

/-! ### What is read at a spot -/

namespace Mention

theorem is_considered_iff {isExternal : Option Bool} {symbol : String} :
    isConsidered (isExternal, symbol) = true ↔ Admitted isExternal symbol := by
  unfold Admitted
  cases isExternal with
  | none => simp [isConsidered]
  | some isExternal => simp [isConsidered]

theorem mem_of_name_iff {language : Language} {signature name : String} {place : Option UInt64}
    {counts : Bool} {line : UInt64} :
    ⟨name, some line⟩ ∈ ofName language signature place counts ↔
      (counts = true ∧ Text.contains signature "(" = false ∧
        Text.contains signature ".py" = false ∧ Symbol.withoutArrays signature = name) ∧
      place = some line := by
  unfold ofName
  cases Text.contains signature "(" with
  | true => simp
  | false =>
      cases Text.contains signature ".py" with
      | true => simp
      | false =>
          cases counts with
          | false => simp
          | true =>
              cases place with
              | none => simp
              | some known =>
                  -- The path of a module is mentioned without a line.
                  by_cases path : language.traits.callNodeLines && Text.contains signature ":" <;>
                    simp [path, eq_comm]

theorem mem_of_symbol_iff {language : Language} {types : TextSet} {signature name : String}
    {place : Option UInt64} {counts : Bool} {line : UInt64} :
    ⟨name, some line⟩ ∈ ofSymbol language types signature place counts ↔
      Gives language types counts signature name ∧ place = some line := by
  have reduced : ⟨name, some line⟩ ∈ (Symbol.className? language signature).toList.map
        (fun found => Mention.mk found place) ↔
      Symbol.className? language signature = some name ∧ place = some line := by
    simp only [List.mem_map, Option.mem_toList, Mention.mk.injEq, ← and_assoc, exists_and_right,
      exists_eq_right]
  unfold ofSymbol
  cases passes : Symbol.isFilterable language types signature with
  | true =>
      rw [if_pos rfl]
      constructor
      · intro member
        cases member
      · intro fact
        rcases fact.1 with ⟨passed, _⟩ | ⟨passed, _⟩ <;> rw [passes] at passed <;> cases passed
  | false =>
      rw [if_neg Bool.false_ne_true, List.mem_append, mem_of_name_iff, reduced, ← or_and_right]
      refine and_congr_left fun _ => ?_
      constructor
      · intro either
        rcases either with ⟨rfl, noParenthesis, noFile, rfl⟩ | found
        · exact .text passes rfl noParenthesis noFile
        · exact .ofClass passes found
      · intro given
        cases given with
        | text _ exact noParenthesis noFile => exact Or.inl ⟨exact, noParenthesis, noFile, rfl⟩
        | ofClass _ found => exact Or.inr found

end Mention

/-! ### What is read is what is recorded -/

namespace Mention

variable {language : Language} {types : TextSet}

theorem mem_of_head_iff {object : ObjectSlice} {name : String} {line : UInt64} :
    ⟨name, some line⟩ ∈ ofHead object ↔ object.IsHeadAlone ∧ object.fullName = some name ∧
      name ≠ "" ∧ object.line = some line := by
  have starts : ∀ (text : Option String) (mark : String),
      text.any (fun held => Text.startsWith held mark) = true ↔
        ∃ held, text = some held ∧ Text.startsWith held mark = true := by
    intro text mark
    cases text <;> simp
  have alone : (object.usages.isEmpty &&
        (object.signature.any (fun signature => Text.startsWith signature "@") ||
          object.code.any (fun code => Text.startsWith code "use"))) = true ↔
      object.IsHeadAlone := by
    rw [Bool.and_eq_true_iff, Bool.or_eq_true_iff, List.isEmpty_iff, starts, starts]
    exact ⟨fun fact => ⟨fact.1, fact.2⟩, fun fact => ⟨fact.unused, fact.marked⟩⟩
  unfold ofHead
  dsimp only
  rw [← alone]
  split
  · rename_i passes
    simp only [passes, true_and, List.mem_map, Option.mem_toList, Option.filter_eq_some_iff,
      bne_iff_ne, Mention.mk.injEq]
    constructor
    · intro fact
      rcases fact with ⟨_, ⟨named, nonempty⟩, rfl, placed⟩
      exact ⟨named, nonempty, placed⟩
    · intro fact
      rcases fact with ⟨named, nonempty, placed⟩
      exact ⟨name, ⟨named, nonempty⟩, rfl, placed⟩
  · rename_i fails
    simp only [fails, Bool.false_eq_true, false_and, List.not_mem_nil]

theorem is_some_scoped_name_iff {call : Call} :
    (scopedName? call).isSome = true ↔ call.IsScoped := by
  unfold scopedName? Call.IsScoped
  rw [← Bool.or_eq_true_iff]
  split <;> simp_all

theorem scoped_name_iff {call : Call} {name : String} :
    scopedName? call = some name ↔ call.IsScoped ∧ call.name.getD "" = name := by
  rw [← is_some_scoped_name_iff]
  unfold scopedName?
  split <;> simp

theorem mem_at_part_iff {usage : Usage} {piece : UsagePart} {name : String} {line : UInt64} :
    ⟨name, some line⟩ ∈ atPart language types usage piece ↔ ∃ isExternal symbol,
      usage.symbolAt? piece = some (isExternal, symbol) ∧ Admitted isExternal symbol ∧
        Gives language types language.traits.callNodeLines symbol name ∧
        usage.line = some line := by
  unfold atPart
  simp only [List.mem_flatMap, Option.mem_toList, Option.filter_eq_some_iff, mem_of_symbol_iff,
    Prod.exists, is_considered_iff, and_assoc]

theorem mem_at_call_name_iff {call : Call} {name : String} {line : UInt64} :
    ⟨name, some line⟩ ∈ atCallPart language types call .name ↔
      call.IsScoped ∧ call.name = some name ∧ name ≠ "" ∧ call.line = some line := by
  unfold atCallPart
  simp only [List.mem_map, Option.mem_toList, Option.filter_eq_some_iff, scoped_name_iff,
    Mention.mk.injEq, decide_eq_true_eq]
  constructor
  · intro fact
    rcases fact with ⟨_, ⟨⟨inScope, named⟩, nonempty⟩, rfl, placed⟩
    cases held : call.name with
    | none =>
        rw [held] at named
        exact absurd named.symm nonempty
    | some own =>
        rw [held] at named
        exact ⟨inScope, congrArg some named, nonempty, placed⟩
  · intro fact
    rcases fact with ⟨inScope, named, nonempty, placed⟩
    exact ⟨name, ⟨⟨inScope, by rw [named]; rfl⟩, nonempty⟩, rfl, placed⟩

theorem mem_at_signature_iff {call : Call} {piece : CallPart} (signs : piece ≠ .name)
    {name : String} {line : UInt64} : ⟨name, some line⟩ ∈ atCallPart language types call piece ↔
      ∃ signature, call.signatureAt? piece = some signature ∧
        (call.IsScoped ∨ call.isExternal ≠ some false) ∧
        Gives language types true signature name ∧ call.line = some line := by
  have asked : ((scopedName? call).isSome || call.isExternal ≠ some false) = true ↔
      call.IsScoped ∨ call.isExternal ≠ some false := by
    rw [Bool.or_eq_true_iff, is_some_scoped_name_iff, decide_eq_true_iff]
  have opened : atCallPart language types call piece =
      if (scopedName? call).isSome || call.isExternal ≠ some false then
        (call.signatureAt? piece).toList.flatMap fun signature =>
          ofSymbol language types signature call.line true
      else [] := by
    cases piece with
    | name => exact absurd rfl signs
    | method => rfl
    | parameter index => rfl
  by_cases asks : call.IsScoped ∨ call.isExternal ≠ some false
  · rw [opened, if_pos (asked.2 asks)]
    simp only [List.mem_flatMap, Option.mem_toList, mem_of_symbol_iff, asks, true_and]
  · rw [opened, if_neg (mt asked.1 asks)]
    simp only [asks, false_and, and_false, exists_false, List.not_mem_nil]

theorem eq_of_gives_marker {counts : Bool} {signature name : String}
    (marker : signature ∈ emptyMarkers) (given : Gives language types counts signature name) :
    name = signature := by
  have whole : ∀ text ∈ emptyMarkers, Symbol.withoutArrays text = text := by decide
  have reduced : ∀ text ∈ emptyMarkers, Symbol.className? language text = some text ∨
      Symbol.className? language text = none := by
    cases language <;> decide
  cases given with
  | text => exact whole signature marker
  | ofClass _ found =>
      rcases reduced signature marker with same | none
      · exact Option.some.inj (found.symm.trans same)
      · rw [none] at found
        cases found

end Mention

namespace ObjectSlice

variable {language : Language} {types : TextSet} {object : ObjectSlice}

def lineAt? (object : ObjectSlice) : Spot → Option UInt64
  | .head => object.line
  | .part index _ => object.usages[index]?.bind Usage.line
  | .call index position _ =>
      (object.usages[index]?.bind fun usage => usage.calls[position]?).bind Call.line

theorem Records.line_at {admits : Call → String → Prop} {spot : Spot} {name : String}
    {line : UInt64} (records : object.Records language types admits spot name line) :
    object.lineAt? spot = some line := by
  have called : ∀ {index position : Nat} {usage : Usage} {call : Call} {piece : CallPart},
      object.usages[index]? = some usage →
      (usage.invokedCalls ++ usage.argumentCalls ++ usage.procedures)[position]? = some call →
      object.lineAt? (.call index position piece) = call.line := by
    intro index position usage call piece used found
    have standing : usage.calls[position]? = some call := found
    simp only [lineAt?, used, Option.bind_some, standing]
  cases records with
  | head _ _ _ placed => exact placed
  | part used _ _ _ placed => simp only [lineAt?, used, Option.bind_some, placed]
  | callName used found _ _ _ placed => rw [called used found, placed]
  | callSignature used found _ _ _ placed => rw [called used found, placed]

theorem IsUnmarked.admits_iff {name : String} (unmarked : object.IsUnmarked name) {usage : Usage}
    (used : usage ∈ object.usages) {call : Call} (called : call ∈ usage.calls) {piece : CallPart}
    {signature : String} (shown : call.signatureAt? piece = some signature)
    (given : Mention.Gives language types true signature name) :
    (call.IsScoped ∨ call.isExternal ≠ some false) ↔ call.Admits signature := by
  refine or_congr_right' fun unscoped => ?_
  unfold Mention.Admitted
  constructor
  · intro notInternal
    cases known : call.isExternal with
    | none =>
        refine Or.inr ⟨rfl, fun marker => ?_⟩
        obtain rfl := Mention.eq_of_gives_marker marker given
        rcases unmarked marker usage used call called piece shown with inScope | told
        · exact unscoped inScope
        · exact told known
    | some isExternal =>
        cases isExternal with
        | true => exact Or.inl rfl
        | false => exact absurd known notInternal
  · intro admitted internal
    rw [internal] at admitted
    rcases admitted with same | ⟨same, _⟩ <;> cases same

theorem mem_reading_iff {name : String} (unmarked : object.IsUnmarked name) {spot : Spot}
    {line : UInt64} : (spot, ⟨name, some line⟩) ∈ objectReading language types object ↔
      object.Records language types Call.Admits spot name line := by
  rw [mem_object_reading]
  simp only [mem_usage_reading]
  constructor
  · intro fact
    rcases fact with ⟨rfl, member⟩ | ⟨usage, index, used, inUsage⟩
    · obtain ⟨alone, named, nonempty, placed⟩ := Mention.mem_of_head_iff.1 member
      exact .head alone named nonempty placed
    rcases inUsage with ⟨piece, _, rfl, member⟩ | ⟨call, position, called, piece, _, rfl, member⟩
    · obtain ⟨isExternal, symbol, shown, admitted, given, placed⟩ :=
        Mention.mem_at_part_iff.1 member
      exact .part used shown admitted given placed
    · by_cases isName : piece = .name
      · subst isName
        obtain ⟨inScope, named, nonempty, placed⟩ := Mention.mem_at_call_name_iff.1 member
        exact .callName used called inScope named nonempty placed
      · obtain ⟨signature, shown, asked, given, placed⟩ :=
          (Mention.mem_at_signature_iff isName).1 member
        have admitted := (unmarked.admits_iff (List.mem_of_getElem? used)
          (List.mem_of_getElem? called) shown given).1 asked
        exact .callSignature used called shown admitted given placed
  · intro records
    cases records with
    | head alone named nonempty placed =>
        exact Or.inl ⟨rfl, Mention.mem_of_head_iff.2 ⟨alone, named, nonempty, placed⟩⟩
    | part used shown admitted given placed =>
        refine Or.inr ⟨_, _, used, Or.inl ⟨_, Usage.mem_part_list shown, rfl, ?_⟩⟩
        exact Mention.mem_at_part_iff.2 ⟨_, _, shown, admitted, given, placed⟩
    | callName used called inScope named nonempty placed =>
        refine Or.inr ⟨_, _, used, Or.inr ⟨_, _, called, .name, by simp [Call.partList], rfl, ?_⟩⟩
        exact Mention.mem_at_call_name_iff.2 ⟨inScope, named, nonempty, placed⟩
    | @callSignature _ _ _ _ piece _ _ _ used called shown admitted given placed =>
        refine Or.inr ⟨_, _, used, Or.inr ⟨_, _, called, piece, Call.mem_part_list shown, rfl, ?_⟩⟩
        have signs : piece ≠ .name := by
          intro isName
          rw [isName] at shown
          cases shown
        have asked := (unmarked.admits_iff (List.mem_of_getElem? used)
          (List.mem_of_getElem? called) shown given).2 admitted
        exact (Mention.mem_at_signature_iff signs).2 ⟨_, shown, asked, given, placed⟩

end ObjectSlice

namespace ObjectSlice

theorem line_iff_records_first {symbol : String} (unmarked : object.IsUnmarked symbol)
    {line : UInt64} : Mention.line? (Mention.ofObject language types object) symbol = some line ↔
      ∃ spot, object.RecordsFirst language types Call.Admits symbol spot line := by
  have single : ∀ spot first second,
      (spot, ⟨symbol, some first⟩) ∈ objectReading language types object →
      (spot, ⟨symbol, some second⟩) ∈ objectReading language types object → first = second := by
    intro spot first second one other
    have left := ((mem_reading_iff unmarked).1 one).line_at
    have right := ((mem_reading_iff unmarked).1 other).line_at
    exact Option.some.inj (left.symm.trans right)
  rw [← map_object_reading, line_of_reading (object_reading_in_order object) single]
  refine exists_congr fun spot => ?_
  constructor
  · intro here
    refine ⟨(mem_reading_iff unmarked).1 here.present, fun other later records => ?_⟩
    exact here.first other later ((mem_reading_iff unmarked).2 records)
  · intro here
    refine ⟨(mem_reading_iff unmarked).2 here.records, fun other later present => ?_⟩
    exact here.first other later ((mem_reading_iff unmarked).1 present)

theorem Records.has_line {spot : Spot} {symbol : String} {line : UInt64}
    (records : object.Records language types Call.Admits spot symbol line)
    (unmarked : object.IsUnmarked symbol) :
    ∃ first, Mention.line? (Mention.ofObject language types object) symbol = some first := by
  cases known : Mention.line? (Mention.ofObject language types object) symbol with
  | none =>
      have absent := Mention.line_eq_none_iff.1 known line
      rw [← map_object_reading] at absent
      exact absurd (List.mem_map_of_mem ((mem_reading_iff unmarked).2 records)) absent
  | some first => exact ⟨first, rfl⟩

end ObjectSlice

namespace Collector

/-- A symbol with a place in an object is one that the object mentions, and its place is the line of
its first record. A symbol has a place whenever the object records it. -/
theorem place_of_first_record (language : Language) (types : TextSet) (object : ObjectSlice) :
    (∀ symbol place, placeOf language types object symbol = some place →
      symbol ∈ Mention.symbols (Mention.ofObject language types object)) ∧
    ∀ symbol, object.IsUnmarked symbol →
      ((∃ place, placeOf language types object symbol = some place) ↔
        ∃ spot line, object.Records language types Call.Admits spot symbol line) ∧
      ∀ place, placeOf language types object symbol = some place ↔
        ∃ spot line, object.RecordsFirst language types Call.Admits symbol spot line ∧
          place = location (object.file.getD "") line := by
  have placed : ∀ {symbol place}, placeOf language types object symbol = some place ↔
      ∃ line, Mention.line? (Mention.ofObject language types object) symbol = some line ∧
        location (object.file.getD "") line = place := Option.map_eq_some_iff
  constructor
  · intro symbol place told
    obtain ⟨line, known, _⟩ := placed.1 told
    obtain ⟨mention, first, _⟩ := Option.bind_eq_some_iff.1 known
    have passes := List.find?_some first
    have named : mention.symbol = symbol := of_decide_eq_true (Bool.and_eq_true_iff.1 passes).1
    rw [Mention.symbols, TextSet.mem_of_list, ← named]
    exact List.mem_map_of_mem (List.mem_of_find?_eq_some first)
  · intro symbol unmarked
    constructor
    · constructor
      · intro fact
        rcases fact with ⟨_, told⟩
        obtain ⟨line, known, _⟩ := placed.1 told
        obtain ⟨spot, first⟩ := (ObjectSlice.line_iff_records_first unmarked).1 known
        exact ⟨spot, line, first.records⟩
      · intro fact
        rcases fact with ⟨_, _, records⟩
        obtain ⟨line, known⟩ := records.has_line unmarked
        exact ⟨_, placed.2 ⟨line, known, rfl⟩⟩
    · intro place
      constructor
      · intro told
        obtain ⟨line, known, rfl⟩ := placed.1 told
        obtain ⟨spot, first⟩ := (ObjectSlice.line_iff_records_first unmarked).1 known
        exact ⟨spot, line, first, rfl⟩
      · intro fact
        rcases fact with ⟨spot, line, first, rfl⟩
        exact placed.2 ⟨line, (ObjectSlice.line_iff_records_first unmarked).2 ⟨spot, first⟩, rfl⟩

/-- A class that is the name of a call, and of which a usage behind it tells an earlier line. -/
def sampleObject : ObjectSlice :=
  { (default : ObjectSlice) with
    file := some "app.rb"
    usages := [
      { (default : Usage) with
        invokedCalls := [
          { (default : Call) with name := some "Faraday::Connection", line := some 5 }] },
      { (default : Usage) with
        target := some { (default : ObjectRef) with
          typeName := some "Faraday::Connection", isExternal := some true, line := some 3 } }] }

theorem place_of_first_record_sample :
    sampleObject.IsUnmarked "Faraday::Connection" ∧
    placeOf .ruby ∅ sampleObject "Faraday::Connection" = some "app.rb#5" ∧
    "Faraday::Connection" ∈ Mention.symbols (Mention.ofObject .ruby ∅ sampleObject) ∧
    ∃ spot line,
      sampleObject.RecordsFirst .ruby ∅ Call.Admits "Faraday::Connection" spot line ∧
        "app.rb#5" = location (sampleObject.file.getD "") line := by
  have unmarked : sampleObject.IsUnmarked "Faraday::Connection" :=
    fun marker => absurd marker (by decide)
  have placed : placeOf .ruby ∅ sampleObject "Faraday::Connection" = some "app.rb#5" := by
    decide +kernel
  obtain ⟨mentioned, records⟩ := place_of_first_record .ruby ∅ sampleObject
  exact ⟨unmarked, placed, mentioned _ _ placed, ((records _ unmarked).2 _).1 placed⟩

def objectOfCalls (file : String) (first second : Call) : ObjectSlice :=
  { (default : ObjectSlice) with
    file := some file
    usages := [{ (default : Usage) with invokedCalls := [first, second] }] }

/-- Of two calls the second one is the one that records a symbol which the first one neither has as
its name nor as a signature that is admitted. -/
theorem line_of_second_call {language : Language} {admits : Call → String → Prop} {file : String}
    {first second : Call} {spot : Spot} {symbol : String} {line : UInt64}
    (unnamed : first.name ≠ some symbol)
    (refused : ∀ part signature, first.signatureAt? part = some signature →
      ¬admits first signature)
    (records : (objectOfCalls file first second).Records language ∅ admits spot symbol line) :
    second.line = some line := by
  have onlyUsage : ∀ {index : Nat} {usage : Usage},
      (objectOfCalls file first second).usages[index]? = some usage →
      usage = { (default : Usage) with invokedCalls := [first, second] } :=
    fun used => List.mem_singleton.1 (List.mem_of_getElem? used)
  have isCall : ∀ {position : Nat} {call : Call},
      ([first, second] ++ [] ++ [])[position]? = some call → call = first ∨ call = second := by
    intro position call called
    simpa using List.mem_of_getElem? called
  cases records with
  | head alone => cases alone.unused
  | @part _ _ piece _ _ _ _ used shown =>
      obtain rfl := onlyUsage used
      cases piece <;> cases shown
  | callName used called _ named _ placed =>
      obtain rfl := onlyUsage used
      rcases isCall called with rfl | rfl
      · exact absurd named unnamed
      · exact placed
  | callSignature used called shown admitted _ placed =>
      obtain rfl := onlyUsage used
      rcases isCall called with rfl | rfl
      · exact absurd admitted (refused _ _ shown)
      · exact placed

/-- A method that is called through a scope by a call which is known to be internal, and then by one
of unknown origin. -/
def scopedObject : ObjectSlice :=
  objectOfCalls "app.rb"
    { (default : Call) with
      name := some "Faraday::Connection", resolvedMethod := some "Net::HTTP",
      isExternal := some false, line := some 5 }
    { (default : Call) with
      name := some "start", resolvedMethod := some "Net::HTTP", line := some 9 }

/-- If the origin of a call had to admit its signatures, then only the second call would record the
symbol. But the place of the symbol is the line of the first call. -/
theorem unadmitted_signatures_are_recorded :
    let admits := fun (call : Call) signature => Mention.Admitted call.isExternal signature
    placeOf .ruby ∅ scopedObject "Net::HTTP" = some "app.rb#5" ∧
      scopedObject.Records .ruby ∅ admits (.call 0 1 .method) "Net::HTTP" 9 ∧
      ∀ spot line, scopedObject.Records .ruby ∅ admits spot "Net::HTTP" line → line = 9 := by
  intro admits
  refine ⟨by decide +kernel, ?_, ?_⟩
  · exact .callSignature rfl rfl rfl (Or.inr ⟨rfl, by decide⟩)
      (.text (by decide +kernel) rfl (by decide +kernel) (by decide +kernel)) rfl
  · intro spot line records
    have placed := line_of_second_call (by decide) (fun _ _ _ admitted => ?_) records
    · exact (Option.some.inj placed).symm
    · rcases admitted with same | ⟨same, _⟩ <;> cases same

end Collector

end BomEvidence
