import BomEvidence.Proofs.Evidence.Questions
import BomEvidence.Proofs.Namespace.Store

/-!
The empty symbol, under which every package is found: each alias begins with it, and each text
contains it. A symbol becomes empty where its arrays are left out, where an inner class is cut off
and where the path of a module is split off. No slice asks for it even so: the mentions of a usage
slice pass the filter once more before they are asked for, and a data-flow node asks for a type
that passes the filter and for a class, which is never empty.
-/

namespace BomEvidence

/-- Every package is found under a symbol, in any table whose aliases are compared by their starts
and in any index. -/
def FindsEvery (symbol : String) : Prop :=
  (∀ (imports : ImportTable) (purl : String) (aliases : List String),
    imports.aliases.get? purl = some aliases → aliases ≠ [] →
      purl ∈ imports.purlsFor .overlap symbol) ∧
    ∀ catalog : Catalog, catalog.memoryIndex.find symbol = .ok catalog.keys ∧
      catalog.databaseIndex.find symbol = .ok catalog.keys

/-! ### What the empty symbol finds -/

namespace Text

theorem starts_with_empty (text : String) : startsWith text "" = true := rfl

theorem contains_empty (text : String) : contains text "" = true :=
  occurs_iff.2 ⟨[], text.toList, rfl⟩

theorem empty_contains_iff {needle : String} : contains "" needle = true ↔ needle = "" := by
  unfold contains
  rw [String.toList_empty, occurs, List.isEmpty_iff, String.toList_eq_nil_iff]

theorem before_of_start (mark rest : String) : before (mark ++ rest) mark = "" := by
  have found : breakAt? mark.toList (mark.toList ++ rest.toList) = some ([], rest.toList) := by
    cases same : mark.toList ++ rest.toList with
    | nil =>
        obtain ⟨noMark, noRest⟩ := List.append_eq_nil_iff.1 same
        rw [noMark, noRest]
        rfl
    | cons c text =>
        have dropped : dropStart? mark.toList (c :: text) = some rest.toList :=
          drop_start_eq_some.2 same.symm
        rw [breakAt?, dropped]
  unfold before
  rw [String.toList_append, found]

end Text

theorem ImportTable.mem_purls_for_empty {imports : ImportTable} {purl : String}
    {aliases : List String} (held : imports.aliases.get? purl = some aliases)
    (named : aliases ≠ []) : purl ∈ imports.purlsFor .overlap "" := by
  obtain ⟨name, member⟩ := List.exists_mem_of_ne_nil aliases named
  have starts : aliasNames .overlap name "" = true := by
    unfold aliasNames
    rw [Text.starts_with_empty, Bool.or_true]
  exact TextMap.mem_filter_keys.2 ⟨aliases, held, List.any_eq_true.2 ⟨name, member, starts⟩⟩

namespace Catalog

theorem filter_keys_of_all {catalog : Catalog} {keep : String → String → Bool}
    (all : ∀ purl symbols, keep purl symbols = true) :
    (TextMap.filter catalog keep).keys = catalog.keys := by
  have kept : TextMap.filter catalog keep = catalog := by
    unfold TextMap.filter
    congr 1
    exact List.filter_eq_self.2 fun entry _ => all entry.1 entry.2
  rw [kept]

theorem memory_finds_empty (catalog : Catalog) :
    catalog.memoryIndex.find "" = .ok catalog.keys :=
  congrArg Except.ok (filter_keys_of_all fun _ symbols => Text.contains_empty symbols)

theorem database_finds_empty (catalog : Catalog) :
    catalog.databaseIndex.find "" = .ok catalog.keys := by
  rw [find_like_eq catalog (by decide +kernel)]
  refine congrArg Except.ok (filter_keys_of_all fun _ symbols => ?_)
  have free : Like.NulFree "".toList := nofun
  exact (Like.matches_containing free).2 ⟨[], [], _, rfl, rfl⟩

end Catalog

/-- No other symbol finds every package: one without symbols of its own is found by the empty
symbol alone. -/
theorem finds_every_iff {symbol : String} : FindsEvery symbol ↔ symbol = "" := by
  constructor
  · intro every
    have found := (every.2 (TextMap.ofList [("pkg:npm/a@1", "")])).1
    have member : "pkg:npm/a@1" ∈
        Catalog.find (TextMap.ofList [("pkg:npm/a@1", "")]) symbol := by
      rw [Except.ok.inj found]
      decide
    obtain ⟨symbols, held, contains⟩ := TextMap.mem_filter_keys.1 member
    obtain rfl : symbols = "" := (Option.some.inj held).symm
    exact Text.empty_contains_iff.1 contains
  · intro same
    subst same
    exact ⟨fun _ _ _ => ImportTable.mem_purls_for_empty,
      fun catalog => ⟨catalog.memory_finds_empty, catalog.database_finds_empty⟩⟩

/-! ### What is never asked for -/

theorem Resolver.unknown_of_unasked {resolver : Resolver} {symbols : List String} {symbol : String}
    (unasked : symbol ∉ symbols) (unknown : resolver.cache.known.get? symbol = none) :
    (resolver.resolveAll symbols).2.cache.known.get? symbol = none := by
  induction symbols generalizing resolver with
  | nil => exact unknown
  | cons asked rest ih =>
      obtain ⟨other, later⟩ := not_or.1 (mt List.mem_cons.2 unasked)
      have stillUnknown : (resolver.resolve asked).2.cache.known.get? symbol = none := by
        rw [known_resolve]
        split
        · exact unknown
        · rw [TextMap.get_insert, if_neg other, unknown]
      exact ih later stillUnknown

namespace Collector

theorem request_ne_empty {language : Language} {types : TextSet} {mentions : List Mention}
    {symbol : String} (asked : symbol ∈ requests language types mentions) : symbol ≠ "" := by
  intro same
  subst same
  have passes := (List.mem_filter.1 asked).2
  rw [Symbol.is_filterable_empty] at passes
  cases passes

theorem node_request_ne_empty {language : Language} {types : TextSet} {node : DataFlowNode}
    {symbol : String} (asked : symbol ∈ nodeRequests language types node) : symbol ≠ "" := by
  obtain ⟨type, _, passes, same | reduced⟩ := mem_node_requests.1 asked
  · intro empty
    rw [← same, empty, Symbol.is_filterable_empty] at passes
    cases passes
  · exact Symbol.class_name_ne_empty reduced

theorem question_ne_empty {collector : Collector} {intake : Intake} {symbol : String}
    (asked : symbol ∈ collector.questions intake) : symbol ≠ "" := by
  cases intake with
  | usages slice =>
      obtain ⟨object, _, requested⟩ := List.mem_flatMap.1 asked
      exact request_ne_empty requested
  | reachables slice => cases asked
  | semantics components slice => cases asked
  | dataFlow slice =>
      obtain ⟨path, _, onPath⟩ := List.mem_flatMap.1 asked
      obtain ⟨node, _, requested⟩ := List.mem_flatMap.1 onPath
      exact node_request_ne_empty requested

theorem handed_ne_empty {collector : Collector} {intakes : List Intake} {symbol : String}
    (handed : symbol ∈ (collector.handed intakes).map Prod.snd) : symbol ≠ "" := by
  obtain ⟨entry, member, rfl⟩ := List.mem_map.1 handed
  obtain ⟨before, intake, after, _, _, asked⟩ := mem_handed.1 member
  exact question_ne_empty asked

/-- The symbols that a run of slices hands to the resolver are never the one that finds every
package, and the resolver is left without an answer for it, although each of the cuts that a
symbol goes through makes it of other symbols. -/
theorem empty_symbol_never_handed (language : Language) (imports : ImportTable)
    (index : Option NamespaceIndex) (detector : Option Detector) (intakes : List Intake) :
    let start := Collector.new (.new language imports index) detector
    (start.takeAll intakes).resolver =
        (start.resolver.resolveAll ((start.handed intakes).map Prod.snd)).2 ∧
      (∀ symbol ∈ (start.handed intakes).map Prod.snd, symbol ≠ "") ∧
      (start.takeAll intakes).resolver.cache.known.get? "" = none ∧
      (∀ symbol, FindsEvery symbol ↔ symbol = "") ∧
      Symbol.withoutArrays "[]" = "" ∧
      (∀ rest, Text.before ("$" ++ rest) "$" = "") ∧
      ∀ rest, Mention.modulePath ("::" ++ rest) = "" := by
  intro start
  have resolved := take_all_resolver start intakes
  have unasked : "" ∉ (start.handed intakes).map Prod.snd :=
    fun handed => handed_ne_empty handed rfl
  refine ⟨resolved, fun symbol => handed_ne_empty, ?_, fun symbol => finds_every_iff,
    by decide, Text.before_of_start "$", fun rest => ?_⟩
  · rw [resolved]
    exact Resolver.unknown_of_unasked unasked rfl
  · unfold Mention.modulePath
    rw [Text.before_of_start]
    rfl

/-- An object of which a mention is empty. It asks for nothing. -/
example :
    let target : ObjectRef := ⟨none, some "[]", none, none, none, none, none⟩
    let object : ObjectSlice :=
      ⟨none, none, none, some "src/main.js", none, none, [⟨some target, none, [], [], [], []⟩]⟩
    "" ∈ Mention.symbols (Mention.ofObject .javascript ∅ object) ∧
      objectQuestions .javascript ∅ object = [] := by
  decide +kernel

end Collector

end BomEvidence
