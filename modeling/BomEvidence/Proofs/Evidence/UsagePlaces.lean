import BomEvidence.Proofs.Evidence.Questions

/-!
The places that a usage slice adds. A package has a place after a usage slice exactly when
it had it before, or when an object of the slice mentions a symbol there that leads to the
package. The resolver changes from symbol to symbol, but not its answers, so that each
object can be judged by the collector that was there before the slice.
-/

namespace BomEvidence

namespace EvidenceMaps

def HasPlace (maps : EvidenceMaps) (purl place : String) : Prop := maps.locations.Relates purl place

/-- A package is known, with or without a place. -/
def IsLocated (maps : EvidenceMaps) (purl : String) : Prop := maps.locations.contains purl = true

/-- A property of maps that is about their places alone, and that grows by a case of its own
whenever places are added. -/
structure Grows (holds : EvidenceMaps → Prop) (adds : String → List String → Prop) : Prop where
  places : ∀ maps other, maps.locations = other.locations → (holds maps ↔ holds other)
  added : ∀ maps purl places,
    holds (maps.addLocations purl places) ↔ holds maps ∨ adds purl places

theorem has_place_grows (purl place : String) :
    Grows (fun maps => maps.HasPlace purl place)
      (fun asked places => asked = purl ∧ place ∈ places) := by
  constructor
  · intro maps other same
    rw [HasPlace, HasPlace, same]
  · intro maps asked places
    exact TextMap.relates_alter maps.locations asked purl place places

theorem is_located_grows (purl : String) :
    Grows (fun maps => maps.IsLocated purl) (fun asked _ => asked = purl) := by
  constructor
  · intro maps other same
    rw [IsLocated, IsLocated, same]
  · intro maps asked places
    exact TextMap.contains_alter maps.locations asked purl _

variable {holds : EvidenceMaps → Prop} {adds : String → List String → Prop}

theorem Grows.all {Item : Type} (grows : Grows holds adds) (purl : Item → String)
    (places : Item → List String) (items : List Item) (maps : EvidenceMaps) :
    holds (items.foldl (fun maps item => maps.addLocations (purl item) (places item)) maps) ↔
      holds maps ∨ ∃ item ∈ items, adds (purl item) (places item) :=
  (foldl_grows (fun _ => True) holds (fun _ _ _ _ => trivial)
    (fun maps item _ _ => grows.added maps (purl item) (places item)) maps trivial).2

end EvidenceMaps

namespace Collector

open EvidenceMaps

structure Alike (first second : Collector) : Prop where
  language : first.language = second.language
  userTypes : first.userTypes = second.userTypes
  purls : ∀ symbol, first.resolver.purlsOf symbol = second.resolver.purlsOf symbol

theorem Alike.trans {first second third : Collector} (left : first.Alike second)
    (right : second.Alike third) : first.Alike third :=
  ⟨left.language.trans right.language, left.userTypes.trans right.userTypes,
    fun symbol => (left.purls symbol).trans (right.purls symbol)⟩

theorem Asks.alike {before after : Collector} {symbols : List String}
    (asks : before.Asks symbols after) : after.Alike before := by
  refine ⟨asks.language, asks.userTypes, fun symbol => ?_⟩
  rw [asks.resolver, Resolver.purls_of_resolve_all]

/-- The place where an object mentions a symbol first, if the line is known. -/
def placeOf (language : Language) (types : TextSet) (object : ObjectSlice) (symbol : String) :
    Option String :=
  placeIn (object.file.getD "") (Mention.ofObject language types object) symbol

/-- An object of a file mentions a symbol that is looked up and leads to a package. -/
structure Shows (collector : Collector) (types : TextSet) (object : ObjectSlice)
    (symbol purl : String) : Prop where
  file : object.hasSourceFile = true
  mentioned : symbol ∈ Mention.symbols (Mention.ofObject collector.language types object)
  passes : Symbol.isFilterable collector.language types symbol = false
  leads : purl ∈ collector.resolver.purlsOf symbol

theorem mem_object_questions {language : Language} {types : TextSet} {object : ObjectSlice}
    {symbol : String} : symbol ∈ objectQuestions language types object ↔
      symbol ∈ Mention.symbols (Mention.ofObject language types object) ∧
        Symbol.isFilterable language types symbol = false := by
  unfold objectQuestions requests
  rw [List.mem_filter, TextSet.mem_to_list, Bool.not_eq_true']

theorem shows_iff {collector : Collector} {types : TextSet} {object : ObjectSlice}
    {symbol purl : String} : collector.Shows types object symbol purl ↔
      object.hasSourceFile = true ∧ symbol ∈ objectQuestions collector.language types object ∧
        purl ∈ collector.resolver.purlsOf symbol := by
  rw [mem_object_questions]
  constructor
  · intro shows
    exact ⟨shows.file, ⟨shows.mentioned, shows.passes⟩, shows.leads⟩
  · intro fact
    rcases fact with ⟨file, ⟨mentioned, passes⟩, leads⟩
    exact ⟨file, mentioned, passes, leads⟩

section Growth

variable {holds : EvidenceMaps → Prop} {adds : String → List String → Prop}

theorem add_symbol_grows (grows : Grows holds adds) (place : String → Option String)
    (collector : Collector) (symbol : String) :
    holds (collector.addSymbol place symbol).maps ↔ holds collector.maps ∨
      ∃ purl ∈ collector.resolver.purlsOf symbol, adds purl (place symbol).toList :=
  grows.all id (fun _ => (place symbol).toList) (collector.resolver.purlsOf symbol).toList
    collector.maps

theorem add_object_grows (grows : Grows holds adds) (collector : Collector)
    (object : ObjectSlice) :
    holds (collector.addObject object).maps ↔ holds collector.maps ∨
      ∃ symbol ∈ objectQuestions collector.language collector.userTypes object,
        ∃ purl ∈ collector.resolver.purlsOf symbol,
          adds purl (placeOf collector.language collector.userTypes object symbol).toList := by
  let place := placeOf collector.language collector.userTypes object
  let symbols := objectQuestions collector.language collector.userTypes object
  have folded : holds (symbols.foldl (addSymbol place) collector).maps ↔
      holds collector.maps ∨ ∃ symbol ∈ symbols,
        ∃ purl ∈ collector.resolver.purlsOf symbol, adds purl (place symbol).toList := by
    refine (foldl_grows (Alike · collector) (fun next : Collector => holds next.maps) ?_ ?_
      _ ⟨rfl, rfl, fun _ => rfl⟩).2
    · intro next symbol _ alike
      exact (add_symbol_asks place next symbol).alike.trans alike
    · intro next symbol _ alike
      rw [add_symbol_grows grows, alike.purls]
  have unserved : holds (collector.addObject object).maps ↔
      holds (symbols.foldl (addSymbol place) collector).maps := grows.places _ _ rfl
  rw [unserved, folded]

theorem add_usages_grows (grows : Grows holds adds) (collector : Collector)
    (slice : UsageSlice) :
    let types := collector.userTypes ∪ slice.typeNames
    holds (collector.addUsages slice).maps ↔ holds collector.maps ∨
      ∃ object ∈ slice.objects, ∃ symbol purl, collector.Shows types object symbol purl ∧
        adds purl (placeOf collector.language types object symbol).toList := by
  intro types
  let knowing := { collector with userTypes := types }
  have folded : holds ((slice.objects.filter ObjectSlice.hasSourceFile).foldl addObject
        knowing).maps ↔ holds collector.maps ∨
      ∃ object ∈ slice.objects.filter ObjectSlice.hasSourceFile,
        ∃ symbol ∈ objectQuestions collector.language types object,
          ∃ purl ∈ collector.resolver.purlsOf symbol,
            adds purl (placeOf collector.language types object symbol).toList := by
    refine (foldl_grows (Alike · knowing) (fun next : Collector => holds next.maps) ?_ ?_
      _ ⟨rfl, rfl, fun _ => rfl⟩).2
    · intro next object _ alike
      exact (add_object_asks next object).alike.trans alike
    · intro next object _ alike
      rw [add_object_grows grows, alike.language, alike.userTypes]
      simp only [alike.purls]
      rfl
  have unserved : holds (collector.addUsages slice).maps ↔
      holds ((slice.objects.filter ObjectSlice.hasSourceFile).foldl addObject knowing).maps :=
    grows.places _ _ rfl
  rw [unserved, folded]
  refine or_congr Iff.rfl ?_
  constructor
  · intro fact
    rcases fact with ⟨object, member, symbol, asked, purl, leads, added⟩
    obtain ⟨inSlice, file⟩ := List.mem_filter.1 member
    obtain ⟨mentioned, passes⟩ := mem_object_questions.1 asked
    exact ⟨object, inSlice, symbol, purl, ⟨file, mentioned, passes, leads⟩, added⟩
  · intro fact
    rcases fact with ⟨object, inSlice, symbol, purl, shows, added⟩
    exact ⟨object, List.mem_filter.2 ⟨inSlice, shows.file⟩, symbol,
      mem_object_questions.2 ⟨shows.mentioned, shows.passes⟩, purl, shows.leads, added⟩

end Growth

end Collector

/-! ### Lines of mentions -/

def Usage.lines (usage : Usage) : List UInt64 := usage.line.toList ++ usage.calls.filterMap Call.line

def ObjectSlice.lines (object : ObjectSlice) : List UInt64 :=
  object.line.toList ++ object.usages.flatMap Usage.lines

namespace Mention

theorem line_of_name {language : Language} {symbol : String} {line : Option UInt64}
    {exact : Bool} {mention : Mention} (member : mention ∈ ofName language symbol line exact) :
    mention.line = none ∨ mention.line = line := by
  unfold ofName at member
  split at member
  · cases member
  · split at member
    · rw [List.mem_singleton.1 member]
      exact Or.inl rfl
    · rcases List.mem_append.1 member with path | whole
      · split at path
        · rw [List.mem_singleton.1 path]
          exact Or.inl rfl
        · cases path
      · rw [List.mem_singleton.1 whole]
        exact Or.inr rfl

theorem line_of_symbol {language : Language} {types : TextSet} {symbol : String}
    {line : Option UInt64} {exact : Bool} {mention : Mention}
    (member : mention ∈ ofSymbol language types symbol line exact) :
    mention.line = none ∨ mention.line = line := by
  unfold ofSymbol at member
  split at member
  · cases member
  · rcases List.mem_append.1 member with whole | reduced
    · exact line_of_name whole
    · obtain ⟨name, _, rfl⟩ := List.mem_map.1 reduced
      exact Or.inr rfl

theorem line_of_call {language : Language} {types : TextSet} {call : Call} {mention : Mention}
    (member : mention ∈ ofCall language types call) :
    mention.line = none ∨ mention.line = call.line := by
  have signature : ∀ {other : Mention},
      other ∈ ofSymbol language types (call.resolvedMethod.getD "") call.line true ++
        call.parameterTypes.flatMap (fun type => ofSymbol language types type call.line true) →
      other.line = none ∨ other.line = call.line := by
    intro other among
    rcases List.mem_append.1 among with method | parameter
    · exact line_of_symbol method
    · obtain ⟨type, _, found⟩ := List.mem_flatMap.1 parameter
      exact line_of_symbol found
  unfold ofCall at member
  dsimp only at member
  split at member
  · rcases List.mem_append.1 member with named | rest
    · split at named
      · cases named
      · rw [List.mem_singleton.1 named]
        exact Or.inr rfl
    · exact signature rest
  · split at member
    · cases member
    · exact signature member

theorem line_of_usage {language : Language} {types : TextSet} {usage : Usage}
    {mention : Mention} {line : UInt64} (member : mention ∈ ofUsage language types usage)
    (known : mention.line = some line) : line ∈ usage.lines := by
  unfold ofUsage at member
  rcases List.mem_append.1 member with typed | called
  · obtain ⟨⟨_, symbol⟩, _, found⟩ := List.mem_flatMap.1 typed
    rcases line_of_symbol found with none | same
    · rw [none] at known
      cases known
    · exact List.mem_append_left _ (Option.mem_toList.2 (same.symm.trans known))
  · obtain ⟨call, among, found⟩ := List.mem_flatMap.1 called
    rcases line_of_call found with none | same
    · rw [none] at known
      cases known
    · exact List.mem_append_right _ (List.mem_filterMap.2 ⟨call, among, same.symm.trans known⟩)

theorem line_of_object {language : Language} {types : TextSet} {object : ObjectSlice}
    {mention : Mention} {line : UInt64} (member : mention ∈ ofObject language types object)
    (known : mention.line = some line) : line ∈ object.lines := by
  unfold ofObject at member
  rcases List.mem_append.1 member with head | used
  · unfold ofHead at head
    dsimp only at head
    split at head
    · obtain ⟨name, _, rfl⟩ := List.mem_map.1 head
      exact List.mem_append_left _ (Option.mem_toList.2 known)
    · cases head
  · obtain ⟨usage, among, found⟩ := List.mem_flatMap.1 used
    exact List.mem_append_right _ (List.mem_flatMap.2 ⟨usage, among, line_of_usage found known⟩)

theorem mention_of_line {mentions : List Mention} {symbol : String} {line : UInt64}
    (found : line? mentions symbol = some line) :
    ∃ mention ∈ mentions, mention.line = some line := by
  unfold line? at found
  obtain ⟨mention, first, known⟩ := Option.bind_eq_some_iff.1 found
  exact ⟨mention, List.mem_of_find?_eq_some first, known⟩

end Mention

namespace Collector

open EvidenceMaps

theorem place_of_parts {language : Language} {types : TextSet} {object : ObjectSlice}
    {symbol place : String} (file : object.hasSourceFile = true)
    (known : placeOf language types object symbol = some place) :
    ∃ file, object.file = some file ∧ ∃ line ∈ object.lines,
      place = file ++ "#" ++ line.toNat.repr := by
  obtain ⟨line, found, rfl⟩ := Option.map_eq_some_iff.1 known
  obtain ⟨mention, member, sameLine⟩ := Mention.mention_of_line found
  cases named : object.file with
  | none =>
      rw [ObjectSlice.hasSourceFile, named] at file
      cases file
  | some name => exact ⟨name, rfl, line, Mention.line_of_object member sameLine, rfl⟩

end Collector

/-- A usage slice tells that a package is used at a place. -/
def UsageSlice.Places (slice : UsageSlice) (collector : Collector) (purl place : String) : Prop :=
  let types := collector.userTypes ∪ slice.typeNames
  ∃ object ∈ slice.objects, ∃ symbol, collector.Shows types object symbol purl ∧
    Collector.placeOf collector.language types object symbol = some place

namespace Collector

open EvidenceMaps

theorem has_place_add_usages {collector : Collector} {slice : UsageSlice} {purl place : String} :
    (collector.addUsages slice).maps.HasPlace purl place ↔
      collector.maps.HasPlace purl place ∨ slice.Places collector purl place := by
  refine (add_usages_grows (has_place_grows purl place) collector slice).trans
    (or_congr Iff.rfl ?_)
  unfold UsageSlice.Places
  simp only [Option.mem_toList]
  constructor
  · intro fact
    rcases fact with ⟨object, member, symbol, _, shows, rfl, known⟩
    exact ⟨object, member, symbol, shows, known⟩
  · intro fact
    rcases fact with ⟨object, member, symbol, shows, known⟩
    exact ⟨object, member, symbol, purl, shows, rfl, known⟩

theorem is_located_add_usages {collector : Collector} {slice : UsageSlice} {purl : String} :
    (collector.addUsages slice).maps.IsLocated purl ↔ collector.maps.IsLocated purl ∨
      ∃ object ∈ slice.objects, ∃ symbol,
        collector.Shows (collector.userTypes ∪ slice.typeNames) object symbol purl := by
  refine (add_usages_grows (is_located_grows purl) collector slice).trans (or_congr Iff.rfl ?_)
  constructor
  · intro fact
    rcases fact with ⟨object, member, symbol, _, shows, rfl⟩
    exact ⟨object, member, symbol, shows⟩
  · intro fact
    rcases fact with ⟨object, member, symbol, shows⟩
    exact ⟨object, member, symbol, purl, shows, rfl⟩

/-- The places of packages after a usage slice, for any state of the collector. -/
theorem add_usages_places (collector : Collector) (slice : UsageSlice) :
    let types := collector.userTypes ∪ slice.typeNames
    let before := collector.maps
    let after := (collector.addUsages slice).maps
    (∀ purl place, after.HasPlace purl place ↔ before.HasPlace purl place ∨
      ∃ object ∈ slice.objects, ∃ symbol, collector.Shows types object symbol purl ∧
        placeOf collector.language types object symbol = some place) ∧
    (∀ purl, after.IsLocated purl ↔ before.IsLocated purl ∨
      ∃ object ∈ slice.objects, ∃ symbol, collector.Shows types object symbol purl) ∧
    ∀ purl place, after.HasPlace purl place → ¬before.HasPlace purl place →
      ∃ object ∈ slice.objects, ∃ symbol, collector.Shows types object symbol purl ∧
        placeOf collector.language types object symbol = some place ∧
        ∃ file, object.file = some file ∧ ∃ line ∈ object.lines,
          place = file ++ "#" ++ line.toNat.repr := by
  intro types before after
  refine ⟨fun purl place => has_place_add_usages, fun purl => is_located_add_usages, ?_⟩
  intro purl place held fresh
  rcases has_place_add_usages.1 held with known | ⟨object, member, symbol, shows, known⟩
  · exact absurd known fresh
  · exact ⟨object, member, symbol, shows, known, place_of_parts shows.file known⟩

end Collector

end BomEvidence
