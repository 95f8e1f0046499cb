import BomEvidence.Evidence.Mention
import Mathlib.Data.List.Basic

/-!
How an object is read for symbols. It is read from its head through its usages, and each usage
through its parts and then through its calls. What an object mentions is what it mentions at these
spots in their order; so the line of a symbol is the one that it has at the first spot which tells
any.
-/

namespace BomEvidence

/-! ### Spots -/

inductive UsagePart where
  | targetType
  | targetMethod
  | definedName
  | definedType
  | definedMethod
  | field (index : Nat)
  deriving DecidableEq, Repr

inductive CallPart where
  | name
  | method
  | parameter (index : Nat)
  deriving DecidableEq, Repr

inductive Spot where
  | head
  | part (usage : Nat) (part : UsagePart)
  | call (usage call : Nat) (part : CallPart)
  deriving DecidableEq, Repr

def UsagePart.rank : UsagePart → Nat
  | .targetType => 0
  | .targetMethod => 1
  | .definedName => 2
  | .definedType => 3
  | .definedMethod => 4
  | .field index => 5 + index

def CallPart.rank : CallPart → Nat
  | .name => 0
  | .method => 1
  | .parameter index => 2 + index

/-- The order in which spots are read: the head first, then usage by usage, in a usage its parts
before its calls, and the parts of each in their order. -/
def Spot.Precedes : Spot → Spot → Prop
  | _, .head => False
  | .head, _ => True
  | .part usage piece, .part later other =>
      usage < later ∨ usage = later ∧ piece.rank < other.rank
  | .part usage _, .call later _ _ => usage ≤ later
  | .call usage _ _, .part later _ => usage < later
  | .call usage position piece, .call later next other =>
      usage < later ∨ usage = later ∧ (position < next ∨ position = next ∧ piece.rank < other.rank)

/-- The symbol at a part of a usage, and whether it is known to be external. The name of a
definition is external if it has a scope. -/
def Usage.symbolAt? (usage : Usage) : UsagePart → Option (Option Bool × String)
  | .targetType => usage.target.bind fun ref => ref.typeName.map (ref.isExternal, ·)
  | .targetMethod => usage.target.bind fun ref => ref.resolvedMethod.map (ref.isExternal, ·)
  | .definedName => (usage.definedBy.bind ObjectRef.name).map fun name =>
      (some (Text.contains name "::"), name)
  | .definedType => usage.definedBy.bind fun ref => ref.typeName.map (ref.isExternal, ·)
  | .definedMethod => usage.definedBy.bind fun ref => ref.resolvedMethod.map (ref.isExternal, ·)
  | .field index => usage.fields[index]?.bind fun field =>
      field.typeName.map (field.isExternal, ·)

def Call.signatureAt? (call : Call) : CallPart → Option String
  | .name => none
  | .method => call.resolvedMethod
  | .parameter index => call.parameterTypes[index]?

/-! ### Reading an object spot by spot -/

theorem filter_map_range {Item : Type} (items : List Item) :
    (List.range items.length).filterMap (fun index => items[index]?) = items := by
  induction items with
  | nil => rfl
  | cons item rest ih =>
      rw [List.length_cons, List.range_succ_eq_map, List.filterMap_cons, List.getElem?_cons_zero,
        List.filterMap_map]
      exact congrArg (List.cons item) ih

def Usage.partList (usage : Usage) : List UsagePart :=
  [.targetType, .targetMethod, .definedName, .definedType, .definedMethod] ++
    (List.range usage.fields.length).map .field

def Call.partList (call : Call) : List CallPart :=
  [.name, .method] ++ (List.range call.parameterTypes.length).map .parameter

theorem Usage.mem_part_list {usage : Usage} {piece : UsagePart} {entry : Option Bool × String}
    (shown : usage.symbolAt? piece = some entry) : piece ∈ usage.partList := by
  cases piece with
  | field index =>
      obtain ⟨field, found, _⟩ := Option.bind_eq_some_iff.1 shown
      have bound := (List.getElem?_eq_some_iff.1 found).1
      exact List.mem_append_right _ (List.mem_map_of_mem (List.mem_range.2 bound))
  | _ => simp [Usage.partList]

theorem Call.mem_part_list {call : Call} {piece : CallPart} {signature : String}
    (shown : call.signatureAt? piece = some signature) : piece ∈ call.partList := by
  cases piece with
  | parameter index =>
      have bound := (List.getElem?_eq_some_iff.1 shown).1
      exact List.mem_append_right _ (List.mem_map_of_mem (List.mem_range.2 bound))
  | _ => simp [Call.partList]

namespace Mention

variable (language : Language) (types : TextSet)

def atPart (usage : Usage) (piece : UsagePart) : List Mention :=
  ((usage.symbolAt? piece).filter isConsidered).toList.flatMap fun entry =>
    ofSymbol language types entry.2 usage.line language.traits.callNodeLines

def atCallPart (call : Call) : CallPart → List Mention
  | .name => ((scopedName? call).filter (· ≠ "")).toList.map fun name => ⟨name, call.line⟩
  | piece =>
      if (scopedName? call).isSome || call.isExternal ≠ some false then
        (call.signatureAt? piece).toList.flatMap fun signature =>
          ofSymbol language types signature call.line true
      else []

theorem typed_symbols_eq (usage : Usage) :
    typedSymbols usage = usage.partList.filterMap usage.symbolAt? := by
  have fields : (usage.fields.filterMap fun field => field.typeName.map (field.isExternal, ·)) =
      (List.range usage.fields.length).filterMap (usage.symbolAt? ∘ .field) := by
    have found := congrArg
      (List.filterMap fun field : Field => field.typeName.map (field.isExternal, ·))
      (filter_map_range usage.fields)
    rw [List.filterMap_filterMap] at found
    exact found.symm
  unfold typedSymbols Usage.partList
  dsimp only
  rw [List.filterMap_append, List.filterMap_map, ← fields,
    List.filterMap_eq_flatMap_toList usage.symbolAt?]
  simp only [List.flatMap_cons, List.flatMap_nil, List.append_nil, List.append_assoc]
  rfl

theorem of_usage_eq (usage : Usage) : ofUsage language types usage =
    usage.partList.flatMap (atPart language types usage) ++
      usage.calls.flatMap (ofCall language types) := by
  unfold ofUsage
  rw [typed_symbols_eq, List.filter_filterMap, List.filterMap_eq_flatMap_toList, List.flatMap_assoc]
  rfl

theorem of_symbol_empty (place : Option UInt64) (counts : Bool) :
    ofSymbol language types "" place counts = [] := by
  unfold ofSymbol
  rw [Symbol.is_filterable_empty, if_pos rfl]

theorem signatures_eq (call : Call) :
    (ofSymbol language types (call.resolvedMethod.getD "") call.line true ++
      call.parameterTypes.flatMap fun type => ofSymbol language types type call.line true) =
    (.method :: (List.range call.parameterTypes.length).map .parameter).flatMap fun piece =>
      (call.signatureAt? piece).toList.flatMap fun signature =>
        ofSymbol language types signature call.line true := by
  have method : ofSymbol language types (call.resolvedMethod.getD "") call.line true =
      call.resolvedMethod.toList.flatMap fun signature =>
        ofSymbol language types signature call.line true := by
    cases call.resolvedMethod with
    | none => exact of_symbol_empty language types call.line true
    | some method => exact (List.append_nil _).symm
  have parameters : call.parameterTypes.flatMap
        (fun type => ofSymbol language types type call.line true) =
      (List.range call.parameterTypes.length).flatMap fun index =>
        call.parameterTypes[index]?.toList.flatMap fun signature =>
          ofSymbol language types signature call.line true := by
    rw [← List.flatMap_assoc, ← List.filterMap_eq_flatMap_toList, filter_map_range]
  rw [List.flatMap_cons, List.flatMap_map, method, parameters]
  rfl

theorem of_call_eq (call : Call) : ofCall language types call =
    call.partList.flatMap (atCallPart language types call) := by
  have apart : call.partList.flatMap (atCallPart language types call) =
      atCallPart language types call .name ++ (atCallPart language types call .method ++
        (List.range call.parameterTypes.length).flatMap fun index =>
          atCallPart language types call (.parameter index)) := by
    unfold Call.partList
    rw [List.cons_append, List.singleton_append, List.flatMap_cons, List.flatMap_cons,
      List.flatMap_map]
  unfold ofCall
  dsimp only
  rw [apart, signatures_eq, List.flatMap_cons, List.flatMap_map]
  unfold atCallPart
  cases named : scopedName? call with
  | none =>
      by_cases internal : call.isExternal = some false <;> simp [internal]
  | some name =>
      by_cases empty : name = "" <;> simp [empty, Option.filter]

end Mention

/-! ### The order of reading -/

namespace Spot

theorem not_precedes_self (spot : Spot) : ¬spot.Precedes spot := by
  cases spot <;> simp [Precedes]

theorem eq_of_not_precedes {first second : Spot} (before : ¬first.Precedes second)
    (after : ¬second.Precedes first) : first = second := by
  have parts : ∀ {first second : UsagePart}, first.rank = second.rank → first = second := by
    intro first second same
    cases first <;> cases second <;> simp_all [UsagePart.rank] <;> omega
  have callParts : ∀ {first second : CallPart}, first.rank = second.rank → first = second := by
    intro first second same
    cases first <;> cases second <;> simp_all [CallPart.rank] <;> omega
  cases first with
  | head => cases second <;> simp_all [Precedes]
  | part usage piece =>
      cases second with
      | head => simp [Precedes] at after
      | part later other =>
          simp only [Precedes] at before after
          obtain rfl : usage = later := by omega
          rw [parts (by omega : piece.rank = other.rank)]
      | call later next other =>
          simp only [Precedes] at before after
          omega
  | call usage position piece =>
      cases second with
      | head => simp [Precedes] at after
      | part later other =>
          simp only [Precedes] at before after
          omega
      | call later next other =>
          simp only [Precedes] at before after
          obtain rfl : usage = later := by omega
          obtain rfl : position = next := by omega
          rw [callParts (by omega : piece.rank = other.rank)]

end Spot

def InOrder (reading : List (Spot × Mention)) : Prop :=
  reading.Pairwise fun earlier later => ¬later.1.Precedes earlier.1

def tagged {Item : Type} (spot : Item → Spot) (mentions : Item → List Mention)
    (items : List Item) : List (Spot × Mention) :=
  items.flatMap fun item => (mentions item).map (spot item, ·)

section Tagged

variable {Item : Type} {spot : Item → Spot} {mentions : Item → List Mention} {items : List Item}

theorem map_tagged : (tagged spot mentions items).map Prod.snd = items.flatMap mentions := by
  unfold tagged
  simp [List.map_flatMap, Function.comp_def]

theorem mem_tagged {place : Spot} {mention : Mention} :
    (place, mention) ∈ tagged spot mentions items ↔
      ∃ item ∈ items, spot item = place ∧ mention ∈ mentions item := by
  unfold tagged
  simp only [List.mem_flatMap, List.mem_map, Prod.mk.injEq]
  constructor
  · intro fact
    rcases fact with ⟨item, member, _, inItem, rfl, rfl⟩
    exact ⟨item, member, rfl, inItem⟩
  · intro fact
    rcases fact with ⟨item, member, same, inItem⟩
    exact ⟨item, member, mention, inItem, same, rfl⟩

theorem tagged_in_order
    (ordered : items.Pairwise fun earlier later => ¬(spot later).Precedes (spot earlier)) :
    InOrder (tagged spot mentions items) := by
  unfold InOrder tagged
  rw [List.pairwise_flatMap]
  constructor
  · intro item _
    rw [List.pairwise_map]
    exact List.pairwise_of_forall fun _ _ => (spot item).not_precedes_self
  · refine ordered.imp ?_
    intro earlier later apart first inEarlier second inLater
    obtain ⟨_, _, rfl⟩ := List.mem_map.1 inEarlier
    obtain ⟨_, _, rfl⟩ := List.mem_map.1 inLater
    exact apart

end Tagged

/-- Named pieces and numbered ones behind them are ascending, where the numbers count on from a rank
that no named piece reaches. -/
theorem ranks_ascending {Piece : Type} (rank : Piece → Nat) {named : List Piece}
    (numbered : Nat → Piece) {start : Nat}
    (ascending : named.Pairwise fun earlier later => rank earlier < rank later)
    (below : ∀ piece ∈ named, rank piece < start)
    (counted : ∀ index, rank (numbered index) = start + index) (count : Nat) :
    (named ++ (List.range count).map numbered).Pairwise fun earlier later =>
      rank earlier < rank later := by
  rw [List.pairwise_append]
  refine ⟨ascending, ?_, ?_⟩
  · rw [List.pairwise_map]
    refine List.pairwise_lt_range.imp ?_
    intro first second less
    rw [counted, counted]
    exact Nat.add_lt_add_left less start
  · intro first among second behind
    obtain ⟨index, _, rfl⟩ := List.mem_map.1 behind
    rw [counted]
    exact Nat.lt_of_lt_of_le (below first among) (Nat.le_add_right start index)

theorem part_list_ascending (usage : Usage) :
    usage.partList.Pairwise fun earlier later => earlier.rank < later.rank :=
  ranks_ascending UsagePart.rank .field (by decide) (by decide) (fun _ => rfl) usage.fields.length

theorem call_part_list_ascending (call : Call) :
    call.partList.Pairwise fun earlier later => earlier.rank < later.rank :=
  ranks_ascending CallPart.rank .parameter (by decide) (by decide) (fun _ => rfl)
    call.parameterTypes.length

theorem positions_ascending {Item : Type} (items : List Item) :
    items.zipIdx.Pairwise fun earlier later => earlier.2 < later.2 := by
  rw [← List.pairwise_map (f := Prod.snd) (R := (· < ·)), List.zipIdx_map_snd]
  exact List.pairwise_lt_range'

section Reading

variable (language : Language) (types : TextSet)

def callReading (index : Nat) (called : Call × Nat) : List (Spot × Mention) :=
  tagged (.call index called.2) (Mention.atCallPart language types called.1) called.1.partList

def usageReading (used : Usage × Nat) : List (Spot × Mention) :=
  tagged (.part used.2) (Mention.atPart language types used.1) used.1.partList ++
    used.1.calls.zipIdx.flatMap (callReading language types used.2)

def objectReading (object : ObjectSlice) : List (Spot × Mention) :=
  (Mention.ofHead object).map (.head, ·) ++
    object.usages.zipIdx.flatMap (usageReading language types)

theorem flat_map_positions {Item Other : Type} (change : Item → List Other) (items : List Item) :
    (items.zipIdx.flatMap fun item => change item.1) = items.flatMap change := by
  rw [← List.flatMap_map Prod.fst change, List.zipIdx_map_fst]

theorem map_object_reading (object : ObjectSlice) :
    (objectReading language types object).map Prod.snd =
      Mention.ofObject language types object := by
  have calls : ∀ index called, (callReading language types index called).map Prod.snd =
      Mention.ofCall language types called.1 := by
    intro index called
    rw [Mention.of_call_eq]
    exact map_tagged
  have usages : ∀ used, (usageReading language types used).map Prod.snd =
      Mention.ofUsage language types used.1 := by
    intro used
    unfold usageReading
    rw [Mention.of_usage_eq, List.map_append, map_tagged, List.map_flatMap]
    simp only [calls]
    rw [flat_map_positions]
  unfold objectReading Mention.ofObject
  rw [List.map_append, List.map_flatMap, List.map_map]
  simp only [usages]
  rw [flat_map_positions]
  exact congrArg (· ++ _) (List.map_id _)

variable {language types}

theorem mem_call_reading {index : Nat} {called : Call × Nat} {spot : Spot} {mention : Mention} :
    (spot, mention) ∈ callReading language types index called ↔ ∃ piece ∈ called.1.partList,
      .call index called.2 piece = spot ∧
        mention ∈ Mention.atCallPart language types called.1 piece := mem_tagged

theorem mem_usage_reading {used : Usage × Nat} {spot : Spot} {mention : Mention} :
    (spot, mention) ∈ usageReading language types used ↔
      (∃ piece ∈ used.1.partList, .part used.2 piece = spot ∧
        mention ∈ Mention.atPart language types used.1 piece) ∨
      ∃ call position, used.1.calls[position]? = some call ∧ ∃ piece ∈ call.partList,
        .call used.2 position piece = spot ∧
          mention ∈ Mention.atCallPart language types call piece := by
  unfold usageReading
  rw [List.mem_append, mem_tagged, List.mem_flatMap]
  refine or_congr_right ?_
  constructor
  · intro fact
    rcases fact with ⟨⟨call, position⟩, listed, member⟩
    exact ⟨call, position, List.mem_zipIdx_iff_getElem?.1 listed, mem_call_reading.1 member⟩
  · intro fact
    rcases fact with ⟨call, position, found, member⟩
    exact ⟨(call, position), List.mem_zipIdx_iff_getElem?.2 found, mem_call_reading.2 member⟩

theorem mem_object_reading {object : ObjectSlice} {spot : Spot} {mention : Mention} :
    (spot, mention) ∈ objectReading language types object ↔
      (spot = .head ∧ mention ∈ Mention.ofHead object) ∨
      ∃ usage index, object.usages[index]? = some usage ∧
        (spot, mention) ∈ usageReading language types (usage, index) := by
  unfold objectReading
  rw [List.mem_append, List.mem_map, List.mem_flatMap]
  refine or_congr ?_ ?_
  · constructor
    · intro fact
      rcases fact with ⟨_, member, same⟩
      cases same
      exact ⟨rfl, member⟩
    · intro fact
      rcases fact with ⟨rfl, member⟩
      exact ⟨mention, member, rfl⟩
  · constructor
    · intro fact
      rcases fact with ⟨⟨usage, index⟩, listed, member⟩
      exact ⟨usage, index, List.mem_zipIdx_iff_getElem?.1 listed, member⟩
    · intro fact
      rcases fact with ⟨usage, index, found, member⟩
      exact ⟨(usage, index), List.mem_zipIdx_iff_getElem?.2 found, member⟩

theorem call_reading_in_order (index : Nat) (called : Call × Nat) :
    InOrder (callReading language types index called) := by
  refine tagged_in_order ((call_part_list_ascending called.1).imp ?_)
  intro earlier later less
  simp only [Spot.Precedes]
  omega

theorem usage_reading_in_order (used : Usage × Nat) :
    InOrder (usageReading language types used) := by
  unfold usageReading InOrder
  rw [List.pairwise_append, List.pairwise_flatMap]
  refine ⟨?_, ⟨fun called _ => call_reading_in_order used.2 called, ?_⟩, ?_⟩
  · refine tagged_in_order ((part_list_ascending used.1).imp ?_)
    intro earlier later less
    simp only [Spot.Precedes]
    omega
  · refine (positions_ascending used.1.calls).imp ?_
    intro first second less earlier inFirst later inSecond
    obtain ⟨_, _, same, _⟩ := mem_call_reading.1 inFirst
    obtain ⟨_, _, other, _⟩ := mem_call_reading.1 inSecond
    rw [← same, ← other]
    simp only [Spot.Precedes]
    omega
  · intro earlier inParts later inCalls
    obtain ⟨_, _, same, _⟩ := mem_tagged.1 inParts
    obtain ⟨_, _, member⟩ := List.mem_flatMap.1 inCalls
    obtain ⟨_, _, other, _⟩ := mem_call_reading.1 member
    rw [← same, ← other]
    exact Nat.lt_irrefl used.2

theorem object_reading_in_order (object : ObjectSlice) :
    InOrder (objectReading language types object) := by
  have spots : ∀ {used : Usage × Nat} {read : Spot × Mention},
      read ∈ usageReading language types used →
        (∃ piece, read.1 = .part used.2 piece) ∨ ∃ position piece,
          read.1 = .call used.2 position piece := by
    intro used read member
    rcases mem_usage_reading.1 member with ⟨piece, _, same, _⟩ | ⟨_, position, _, piece, _, same, _⟩
    · exact Or.inl ⟨piece, same.symm⟩
    · exact Or.inr ⟨position, piece, same.symm⟩
  unfold objectReading InOrder
  rw [List.pairwise_append, List.pairwise_flatMap, List.pairwise_map]
  refine ⟨?_, ⟨fun used _ => usage_reading_in_order used, ?_⟩, ?_⟩
  · exact List.pairwise_of_forall fun _ _ => id
  · refine (positions_ascending object.usages).imp ?_
    intro first second less earlier inFirst later inSecond
    rcases spots inFirst with ⟨_, same⟩ | ⟨_, _, same⟩ <;>
      rcases spots inSecond with ⟨_, other⟩ | ⟨_, _, other⟩ <;>
        rw [same, other] <;> simp only [Spot.Precedes] <;> omega
  · intro earlier inHead later _
    obtain ⟨_, _, rfl⟩ := List.mem_map.1 inHead
    cases later.1 <;> exact id

end Reading

/-! ### The first mention with a line -/

theorem Mention.line_eq_none_iff {mentions : List Mention} {symbol : String} :
    line? mentions symbol = none ↔ ∀ line, ⟨symbol, some line⟩ ∉ mentions := by
  unfold line?
  rw [Option.bind_eq_none_iff]
  constructor
  · intro never line member
    cases first : mentions.find? fun mention => mention.symbol = symbol && mention.line.isSome with
    | none => simpa using List.find?_eq_none.1 first _ member
    | some mention =>
        have passes := List.find?_some first
        rw [Bool.and_eq_true_iff, never mention first] at passes
        cases passes.2
  · intro absent mention first
    have passes := List.find?_some first
    cases placed : mention.line with
    | none => rfl
    | some line =>
        have named : mention.symbol = symbol := of_decide_eq_true (Bool.and_eq_true_iff.1 passes).1
        have same : mention = ⟨symbol, some line⟩ := by rw [← named, ← placed]
        exact absurd (same ▸ List.mem_of_find?_eq_some first) (absent line)

/-- A line of a symbol at a spot of a reading, where no spot before it has any line of the symbol. -/
structure FirstLine (reading : List (Spot × Mention)) (symbol : String) (spot : Spot)
    (line : UInt64) : Prop where
  present : (spot, Mention.mk symbol (some line)) ∈ reading
  first : ∀ other later, (other, Mention.mk symbol (some later)) ∈ reading → ¬other.Precedes spot

section Lines

variable {reading : List (Spot × Mention)} {symbol : String} {line : UInt64}

theorem first_line_of_reading (ordered : InOrder reading)
    (told : Mention.line? (reading.map Prod.snd) symbol = some line) :
    ∃ spot, FirstLine reading symbol spot line := by
  unfold Mention.line? at told
  rw [List.find?_map] at told
  obtain ⟨_, mapped, placed⟩ := Option.bind_eq_some_iff.1 told
  obtain ⟨⟨spot, mention⟩, first, rfl⟩ := Option.map_eq_some_iff.1 mapped
  obtain ⟨passes, before, after, split, fails⟩ := List.find?_eq_some_iff_append.1 first
  have named : mention.symbol = symbol := of_decide_eq_true (Bool.and_eq_true_iff.1 passes).1
  obtain rfl : mention = ⟨symbol, some line⟩ := by
    rw [← named, ← placed]
  refine ⟨spot, List.mem_of_find?_eq_some first, ?_⟩
  intro other later member
  rw [split, List.mem_append, List.mem_cons] at member
  rcases member with inBefore | same | inAfter
  · have failed := fails _ inBefore
    simp at failed
  · cases same
    exact spot.not_precedes_self
  · unfold InOrder at ordered
    rw [split, List.pairwise_append, List.pairwise_cons] at ordered
    exact ordered.2.1.1 _ inAfter

/-- The line of a symbol in a reading is that of the first of its mentions with a line, where two
mentions at one spot do not differ. -/
theorem line_of_reading (ordered : InOrder reading)
    (single : ∀ spot first second, (spot, Mention.mk symbol (some first)) ∈ reading →
      (spot, Mention.mk symbol (some second)) ∈ reading → first = second) :
    Mention.line? (reading.map Prod.snd) symbol = some line ↔
      ∃ spot, FirstLine reading symbol spot line := by
  constructor
  · exact first_line_of_reading ordered
  · intro fact
    rcases fact with ⟨spot, here⟩
    cases told : Mention.line? (reading.map Prod.snd) symbol with
    | none =>
        have absent := Mention.line_eq_none_iff.1 told line
        exact absurd (List.mem_map_of_mem here.present) absent
    | some known =>
        -- Neither of the two spots precedes the other one.
        obtain ⟨other, there⟩ := first_line_of_reading ordered told
        obtain rfl : other = spot := Spot.eq_of_not_precedes
          (here.first other known there.present) (there.first spot line here.present)
        rw [single other known line there.present here.present]

end Lines

end BomEvidence
