import BomEvidence.Proofs.Json.Record
import BomEvidence.Proofs.Json.Written

/-!
Trees that were read from a text fit into it: their numbers are finite, and no container stands
too deep. A value that fits is read again from what is written of it, with every floating-point
number read anew.
-/

namespace BomEvidence.Json

/-- Whether a number can be read from a text: an integer of 64 bits or a finite number. -/
def Number.isFinite : Number → Bool
  | .integer value => -0x8000000000000000 ≤ value && value < 0x10000000000000000
  | .float value => value.magnitude < Binary64.infinite

namespace Tree

mutual

/-- Whether a tree inside of `depth` containers has finite numbers and no container below the
deepest level. -/
def fits (depth : Nat) : Tree → Bool
  | .number value => value.isFinite
  | .array items => depth + 1 ≤ depthLimit && itemsFit (depth + 1) items
  | .object members => depth + 1 ≤ depthLimit && membersFit (depth + 1) members
  | _ => true

def itemsFit (depth : Nat) : List Tree → Bool
  | [] => true
  | item :: rest => fits depth item && itemsFit depth rest

def membersFit (depth : Nat) : List (String × Tree) → Bool
  | [] => true
  | (_, item) :: rest => fits depth item && membersFit depth rest

end

theorem items_fit_iff {depth : Nat} {items : List Tree} :
    itemsFit depth items = true ↔ ∀ item ∈ items, item.fits depth = true := by
  induction items with
  | nil => simp [itemsFit]
  | cons item rest ih => simp [itemsFit, ih]

theorem members_fit_iff {depth : Nat} {members : List (String × Tree)} :
    membersFit depth members = true ↔ ∀ member ∈ members, member.2.fits depth = true := by
  induction members with
  | nil => simp [membersFit]
  | cons member rest ih => simp [membersFit, ih]

theorem array_fits_iff {depth : Nat} {items : List Tree} : (array items).fits depth = true ↔
    depth + 1 ≤ depthLimit ∧ ∀ item ∈ items, item.fits (depth + 1) = true := by
  simp [fits, items_fit_iff]

theorem object_fits_iff {depth : Nat} {members : List (String × Tree)} :
    (object members).fits depth = true ↔
      depth + 1 ≤ depthLimit ∧ ∀ member ∈ members, member.2.fits (depth + 1) = true := by
  simp [fits, members_fit_iff]

/-! ### What is read from a text -/

theorem magnitude_of_magnitude {magnitude : Nat} (finite : magnitude < Binary64.infinite)
    (negative : Bool) : (Binary64.ofMagnitude negative magnitude).magnitude = magnitude := by
  simp only [Binary64.infinite, Binary64.fractionSize] at finite
  cases negative <;> simp [Binary64.ofMagnitude, Binary64.magnitude, Binary64.signSize] <;> omega

theorem decimal_finite {negative : Bool} {digits : Nat} {power : Int} {value : Binary64}
    (read : Binary64.ofDecimal? negative digits power = some value) :
    (Number.float value).isFinite = true := by
  obtain ⟨magnitude, decimal, rfl⟩ := Option.map_eq_some_iff.1 read
  have finite := Binary64.decimal_magnitude_finite decimal
  simp [Number.isFinite, magnitude_of_magnitude finite, finite]

theorem numeral_finite {numeral : Numeral} {value : Number} (read : numeral.value? = some value) :
    value.isFinite = true := by
  have float : ∀ {negative : Bool} {digits : Nat} {power : Int},
      (Binary64.ofDecimal? negative digits power).map Number.float = some value →
        value.isFinite = true := by
    intro negative digits power made
    obtain ⟨number, decimal, rfl⟩ := Option.map_eq_some_iff.1 made
    exact decimal_finite decimal
  have below : (gather 0 numeral.whole).1 < wordLimit := gather_lt (by decide) numeral.whole
  unfold Numeral.value? at read
  generalize gather 0 numeral.whole = gathered at below read
  obtain ⟨amount, dropped⟩ := gathered
  have word : amount < 0x10000000000000000 := below
  dsimp only at read
  split at read
  · split at read
    · exact float read
    split at read
    · cases read
      simp [Number.isFinite]
      omega
    split at read
    · exact float read
    · rename_i kept
      cases read
      simp only [Bool.or_eq_true, decide_eq_true_eq, not_or, Nat.not_lt] at kept
      simp [Number.isFinite]
      omega
  · exact float read

theorem on_level_fits {depth : Nat} {container : Tree}
    (inside : depth + 1 ≤ depthLimit → container.fits depth = true) :
    (onLevel (depth + 1) container).fits depth = true := by
  unfold onLevel
  split
  · rename_i within
    exact inside within
  · rfl

structure ReadFits (fuel : Nat) : Prop where
  value : ∀ {depth : Nat} {input rest : List Char} {tree : Tree},
    readValue fuel depth input = some (tree, rest) → tree.fits depth = true
  items : ∀ {depth : Nat} {done : List Tree} {input rest : List Char} {tree : Tree},
    readItems fuel (depth + 1) done input = some (tree, rest) →
    (∀ item ∈ done, item.fits (depth + 1) = true) → tree.fits depth = true
  members : ∀ {depth : Nat} {done : Option (List (String × Tree))} {input rest : List Char}
    {tree : Tree}, readMembers fuel (depth + 1) done input = some (tree, rest) →
    (∀ members, done = some members → ∀ member ∈ members, member.2.fits (depth + 1) = true) →
    tree.fits depth = true

theorem read_value_fits {fuel : Nat} (less : ReadFits fuel) {depth : Nat} {input rest : List Char}
    {tree : Tree} (read : readValue (fuel + 1) depth input = some (tree, rest)) :
    tree.fits depth = true := by
  rw [readValue] at read
  split at read
  · obtain ⟨⟨content, after⟩, _, made⟩ := Option.bind_eq_some_iff.1 read
    cases made
    cases content <;> rfl
  · split at read
    · cases read
      apply on_level_fits
      intro inside
      rw [array_fits_iff]
      exact ⟨inside, List.forall_mem_nil _⟩
    · exact less.items read (List.forall_mem_nil _)
  · split at read
    · cases read
      apply on_level_fits
      intro inside
      rw [object_fits_iff]
      exact ⟨inside, List.forall_mem_nil _⟩
    · apply less.members read
      intro members none
      cases none
      exact List.forall_mem_nil _
  · cases read
    rfl
  · cases read
    rfl
  · cases read
    rfl
  · obtain ⟨⟨numeral, after⟩, _, made⟩ := Option.bind_eq_some_iff.1 read
    cases made
    split
    · rename_i value isValue
      exact numeral_finite isValue
    · rfl

theorem read_items_fits {fuel : Nat} (less : ReadFits fuel) {depth : Nat} {done : List Tree}
    {input rest : List Char} {tree : Tree}
    (read : readItems (fuel + 1) (depth + 1) done input = some (tree, rest))
    (fit : ∀ item ∈ done, item.fits (depth + 1) = true) : tree.fits depth = true := by
  rw [readItems] at read
  split at read
  · cases read
  · rename_i item after itemRead
    have all : ∀ other ∈ item :: done, other.fits (depth + 1) = true :=
      List.forall_mem_cons.2 ⟨less.value itemRead, fit⟩
    split at read
    · exact less.items read all
    · cases read
      apply on_level_fits
      intro inside
      rw [array_fits_iff]
      exact ⟨inside, fun other member => all other (List.mem_reverse.1 member)⟩
    · cases read

theorem read_members_fits {fuel : Nat} (less : ReadFits fuel) {depth : Nat}
    {done : Option (List (String × Tree))} {input rest : List Char} {tree : Tree}
    (read : readMembers (fuel + 1) (depth + 1) done input = some (tree, rest))
    (fit : ∀ members, done = some members → ∀ member ∈ members,
      member.2.fits (depth + 1) = true) : tree.fits depth = true := by
  rw [readMembers] at read
  split at read
  case h_2 => cases read
  split at read
  · cases read
  · rename_i key after _
    split at read
    case h_2 => cases read
    split at read
    · cases read
    · rename_i value after valueRead
      have all : ∀ members, (do some ((← key, value) :: (← done))) = some members →
          ∀ member ∈ members, member.2.fits (depth + 1) = true := by
        intro members held
        simp only [Option.bind_eq_bind, Option.bind_eq_some_iff, Option.some.injEq] at held
        obtain ⟨name, _, before, isDone, rfl⟩ := held
        exact List.forall_mem_cons.2 ⟨less.value valueRead, fit before isDone⟩
      dsimp only at read
      split at read
      · exact less.members read all
      · cases read
        apply on_level_fits
        intro inside
        split
        · rename_i members held
          rw [object_fits_iff]
          exact ⟨inside, fun member among => all members held member (List.mem_reverse.1 among)⟩
        · rfl
      · cases read

theorem read_fits (fuel : Nat) : ReadFits fuel := by
  induction fuel with
  | zero => exact ⟨nofun, nofun, nofun⟩
  | succ fuel ih => exact ⟨read_value_fits ih, read_items_fits ih, read_members_fits ih⟩

theorem of_text_fits {text : String} {tree : Tree} (read : ofText? text = some tree) :
    tree.fits 0 = true := by
  obtain ⟨⟨held, rest⟩, valueRead, made⟩ := Option.bind_eq_some_iff.1 read
  dsimp only at made
  split at made
  · cases made
    exact (read_fits _).value valueRead
  · cases made

end Tree

/-! ### Values that fit -/

def fits (depth : Nat) (value : Json) : Bool := value.tree.fits depth

theorem array_fits_iff {depth : Nat} {items : List Json} : (array items).fits depth = true ↔
    depth + 1 ≤ Tree.depthLimit ∧ ∀ item ∈ items, item.fits (depth + 1) = true := by
  rw [fits, tree, Tree.array_fits_iff, item_trees_eq, List.forall_mem_map]
  rfl

theorem object_fits_iff {depth : Nat} {members : List (String × Json)} :
    (object members).fits depth = true ↔ depth + 1 ≤ Tree.depthLimit ∧
      ∀ member ∈ members, member.2.fits (depth + 1) = true := by
  rw [fits, tree, Tree.object_fits_iff, member_trees_eq, List.forall_mem_map]
  rfl

theorem fits_member {depth : Nat} {value part : Json} {key : String}
    (fit : value.fits depth = true) (held : value.member? key = some part) :
    part.fits (depth + 1) = true := by
  cases value with
  | object members =>
      exact (object_fits_iff.1 fit).2 (key, part) (TextMap.mem_of_lookup held)
  | _ => cases held

theorem fits_item {depth position : Nat} {value part : Json} (fit : value.fits depth = true)
    (held : value.item? position = some part) : part.fits (depth + 1) = true := by
  cases value with
  | array items => exact (array_fits_iff.1 fit).2 part (List.mem_of_getElem? held)
  | _ => cases held

def OptionFits (depth : Nat) (value : Option Json) : Prop :=
  ∀ present, value = some present → present.fits depth = true

def MapFits (depth : Nat) (members : TextMap Json) : Prop :=
  ∀ key value, members.get? key = some value → value.fits depth = true

theorem map_fits_empty (depth : Nat) : MapFits depth ∅ := fun _ _ held => by cases held

theorem map_fits_insert {depth : Nat} {members : TextMap Json} (fit : MapFits depth members)
    (key : String) {value : Json} (valueFits : value.fits depth = true) :
    MapFits depth (members.insert key value) := by
  intro other part held
  rw [TextMap.get_insert] at held
  split at held
  · cases held
    exact valueFits
  · exact fit other part held

theorem map_fits_erase {depth : Nat} {members : TextMap Json} (fit : MapFits depth members)
    (key : String) : MapFits depth (members.erase key) := by
  intro other value held
  rw [TextMap.get_erase] at held
  split at held
  · cases held
  · exact fit other value held

theorem of_map_fits {depth : Nat} {members : TextMap Json} (inside : depth + 1 ≤ Tree.depthLimit)
    (fit : MapFits (depth + 1) members) : (ofMap members).fits depth = true :=
  object_fits_iff.2
    ⟨inside, fun member among => fit member.1 member.2 (TextMap.mem_entries_iff.1 among)⟩

theorem map_fits_of_list {depth : Nat} {entries : List (String × Json)}
    (fit : ∀ entry ∈ entries, entry.2.fits depth = true) : MapFits depth (.ofList entries) :=
  fun key value held => fit (key, value) (TextMap.mem_of_get_of_list held)

mutual

theorem value_fits : (source : Tree) → {depth : Nat} → {value : Json} →
    source.fits depth = true → source.value? = some value → value.fits depth = true
  | .null, _, _, _, read | .bool _, _, _, _, read | .text _, _, _, _, read => by
      cases read
      rfl
  | .number _, _, _, fit, read => by
      cases read
      exact fit
  | .unreadable, _, _, _, read => by cases read
  | .array items, depth, value, fit, read => by
      rw [Tree.value?] at read
      obtain ⟨values, itemsRead, rfl⟩ := Option.map_eq_some_iff.1 read
      obtain ⟨inside, each⟩ := Tree.array_fits_iff.1 fit
      exact array_fits_iff.2 ⟨inside, values_fit items each itemsRead⟩
  | .object members, depth, value, fit, read => by
      rw [Tree.value?] at read
      obtain ⟨values, membersRead, rfl⟩ := Option.map_eq_some_iff.1 read
      obtain ⟨inside, each⟩ := Tree.object_fits_iff.1 fit
      exact of_map_fits inside (map_fits_of_list (member_values_fit members each membersRead))

theorem values_fit : (items : List Tree) → {depth : Nat} → {values : List Json} →
    (∀ item ∈ items, item.fits depth = true) → Tree.values? items = some values →
    ∀ value ∈ values, value.fits depth = true
  | [], _, _, _, read => by
      cases read
      exact List.forall_mem_nil _
  | item :: rest, depth, values, fit, read => by
      simp only [Tree.values?, Option.bind_eq_bind, Option.bind_eq_some_iff,
        Option.some.injEq] at read
      obtain ⟨first, itemRead, others, restRead, rfl⟩ := read
      obtain ⟨itemFits, restFits⟩ := List.forall_mem_cons.1 fit
      exact List.forall_mem_cons.2
        ⟨value_fits item itemFits itemRead, values_fit rest restFits restRead⟩

theorem member_values_fit : (members : List (String × Tree)) → {depth : Nat} →
    {values : List (String × Json)} → (∀ member ∈ members, member.2.fits depth = true) →
    Tree.memberValues? members = some values → ∀ value ∈ values, value.2.fits depth = true
  | [], _, _, _, read => by
      cases read
      exact List.forall_mem_nil _
  | (key, item) :: rest, depth, values, fit, read => by
      simp only [Tree.memberValues?, Option.bind_eq_bind, Option.bind_eq_some_iff,
        Option.some.injEq] at read
      obtain ⟨first, itemRead, others, restRead, rfl⟩ := read
      obtain ⟨itemFits, restFits⟩ := List.forall_mem_cons.1 fit
      exact List.forall_mem_cons.2
        ⟨value_fits item itemFits itemRead, member_values_fit rest restFits restRead⟩

end

/-! ### Values that do not fit -/

mutual

/-- A value with finite numbers that does not fit has no value where it is read. -/
theorem value_of_deep : (value : Json) → {shown depth : Nat} → value.fits shown = true →
    ¬value.fits depth = true → (value.treeOn depth).value? = none
  | .null, _, _, _, deep | .bool _, _, _, _, deep | .text _, _, _, _, deep => absurd rfl deep
  | .number _, _, _, fit, deep => absurd fit deep
  | .array items, shown, depth, fit, deep => by
      obtain ⟨_, each⟩ := array_fits_iff.1 fit
      -- If the array itself is not too deep, one of its items is.
      by_cases inside : depth + 1 ≤ Tree.depthLimit
      · rw [treeOn, Tree.on_level_of_le inside, Tree.value?,
          values_of_deep items each fun all => deep (array_fits_iff.2 ⟨inside, all⟩)]
        rfl
      · rw [treeOn, Tree.onLevel, if_neg inside, Tree.value?]
  | .object members, shown, depth, fit, deep => by
      obtain ⟨_, each⟩ := object_fits_iff.1 fit
      by_cases inside : depth + 1 ≤ Tree.depthLimit
      · rw [treeOn, Tree.on_level_of_le inside, Tree.value?,
          member_values_of_deep members each fun all => deep (object_fits_iff.2 ⟨inside, all⟩)]
        rfl
      · rw [treeOn, Tree.onLevel, if_neg inside, Tree.value?]

theorem values_of_deep : (items : List Json) → {shown depth : Nat} →
    (∀ item ∈ items, item.fits shown = true) → (¬∀ item ∈ items, item.fits depth = true) →
    Tree.values? (itemTreesOn depth items) = none
  | [], _, _, _, deep => absurd (List.forall_mem_nil _) deep
  | item :: rest, shown, depth, fit, deep => by
      obtain ⟨first, others⟩ := List.forall_mem_cons.1 fit
      rw [itemTreesOn, Tree.values?]
      by_cases itemFits : item.fits depth = true
      · have restDeep : ¬∀ other ∈ rest, other.fits depth = true := fun all =>
          deep (List.forall_mem_cons.2 ⟨itemFits, all⟩)
        rw [values_of_deep rest others restDeep]
        simp
      · rw [value_of_deep item first itemFits]
        rfl

theorem member_values_of_deep : (members : List (String × Json)) → {shown depth : Nat} →
    (∀ member ∈ members, member.2.fits shown = true) →
    (¬∀ member ∈ members, member.2.fits depth = true) →
    Tree.memberValues? (memberTreesOn depth members) = none
  | [], _, _, _, deep => absurd (List.forall_mem_nil _) deep
  | (key, item) :: rest, shown, depth, fit, deep => by
      obtain ⟨first, others⟩ := List.forall_mem_cons.1 fit
      rw [memberTreesOn, Tree.memberValues?]
      by_cases itemFits : item.fits depth = true
      · have restDeep : ¬∀ other ∈ rest, other.2.fits depth = true := fun all =>
          deep (List.forall_mem_cons.2 ⟨itemFits, all⟩)
        rw [member_values_of_deep rest others restDeep]
        simp
      · rw [value_of_deep item first itemFits]
        rfl

end

/-! ### Records that fit -/

def Tree.Fields.Fit (depth : Nat) (fields : Tree.Fields) : Prop :=
  ∀ name part, fields.lookup name = some part → part.fits depth = true

section Records

variable {depth : Nat} {names : List String} {source : Tree} {fields : Tree.Fields}
  {extra : TextMap Json} {name : String} {Item : Type} {read : Tree.Reader Item}
  {Holds : Item → Prop}

theorem open_record_fits (opened : source.openRecord? names = some (fields, extra))
    (fit : source.fits depth = true) : fields.Fit (depth + 1) ∧ MapFits (depth + 1) extra := by
  cases source with
  | object members =>
      obtain ⟨_, each⟩ := Tree.object_fits_iff.1 fit
      simp only [Tree.openRecord?, Option.bind_eq_bind, Option.bind_eq_some_iff] at opened
      obtain ⟨values, valuesRead, rest⟩ := opened
      split at rest
      · cases rest
        constructor
        · intro name part held
          exact each (name, part) (List.mem_of_mem_filter (TextMap.mem_of_lookup held))
        · apply map_fits_of_list
          apply member_values_fit _ _ valuesRead
          exact fun member among => each member (List.mem_of_mem_filter among)
      · cases rest
  | _ => cases opened

theorem fits_of_lists {part : Tree} (fit : source.fits depth = true) (lists : source.Lists part) :
    part.fits (depth + 1) = true := by
  obtain ⟨parts, rfl, among⟩ := lists
  exact (Tree.array_fits_iff.1 fit).2 part among

theorem fits_of_optional (fit : fields.Fit depth) {value : Option Item}
    (answer : fields.optional? name read = some value)
    (each : ∀ {part item}, part.fits depth = true → read part = some item → Holds item) :
    ∀ item, value = some item → Holds item :=
  holds_of_optional answer fun held => each (fit name _ held)

theorem fits_of_optional_list (fit : fields.Fit depth) {value : Option (List Item)}
    (answer : fields.optional? name (.list? read) = some value)
    (each : ∀ {part item}, part.fits (depth + 1) = true → read part = some item → Holds item) :
    ∀ items, value = some items → ∀ item ∈ items, Holds item :=
  holds_of_optional_list answer fun held among => each (fits_of_lists (fit name _ held) among)

theorem fits_of_list_of (fit : fields.Fit depth) {items : List Item}
    (answer : fields.listOf? name read = some items)
    (each : ∀ {part item}, part.fits (depth + 1) = true → read part = some item → Holds item) :
    ∀ item ∈ items, Holds item :=
  holds_of_list_of answer fun held among => each (fits_of_lists (fit name _ held) among)

theorem fits_of_optional_any (fit : fields.Fit depth) {value : Option Json}
    (answer : fields.optional? name .any? = some value) : OptionFits depth value :=
  fits_of_optional fit answer (value_fits _)

theorem of_fields_fits {written : List (String × Option Json)} (inside : depth + 1 ≤ Tree.depthLimit)
    (each : ∀ field ∈ written, OptionFits (depth + 1) field.2)
    (fit : MapFits (depth + 1) extra) : (ofFields written extra).fits depth = true := by
  rw [of_fields_eq]
  apply of_map_fits inside
  induction written generalizing extra with
  | nil => exact fit
  | cons field rest ih =>
      obtain ⟨key, value⟩ := field
      obtain ⟨first, others⟩ := List.forall_mem_cons.1 each
      cases value with
      | none => exact ih others fit
      | some value => exact ih others (map_fits_insert fit key (first value rfl))

end Records

/-! ### Writers whose values fit -/

section Writers

variable {depth : Nat} {Item : Type} {write : Item → Json}

theorem option_map_fits {item : Option Item}
    (fit : ∀ present, item = some present → (write present).fits depth = true) :
    OptionFits depth (item.map write) := by
  intro present held
  obtain ⟨before, isBefore, rfl⟩ := Option.map_eq_some_iff.1 held
  exact fit before isBefore

theorem of_list_fits {items : List Item} (inside : depth + 1 ≤ Tree.depthLimit)
    (each : ∀ item ∈ items, (write item).fits (depth + 1) = true) :
    (ofList write items).fits depth = true :=
  array_fits_iff.2 ⟨inside, List.forall_mem_map.2 each⟩

theorem option_list_fits {items : Option (List Item)} (inside : depth + 1 ≤ Tree.depthLimit)
    (each : ∀ present, items = some present → ∀ item ∈ present,
      (write item).fits (depth + 1) = true) : OptionFits depth (items.map (ofList write)) :=
  option_map_fits fun present isPresent => of_list_fits inside (each present isPresent)

theorem text_fits (value : String) : (text value).fits depth = true := rfl

theorem word_fits (value : UInt64) : (ofWord value).fits depth = true := by
  have bound : value.toNat < 0x10000000000000000 := value.toNat_lt
  simp only [ofWord, ofNat, fits, tree, Tree.fits, Number.isFinite, Bool.and_eq_true,
    decide_eq_true_eq]
  omega

theorem option_text_fits (value : Option String) : OptionFits depth (value.map text) :=
  option_map_fits fun present _ => text_fits present

theorem option_bool_fits (value : Option Bool) : OptionFits depth (value.map bool) :=
  option_map_fits fun _ _ => rfl

theorem option_word_fits (value : Option UInt64) : OptionFits depth (value.map ofWord) :=
  option_map_fits fun present _ => word_fits present

theorem option_texts_fit (inside : depth + 1 ≤ Tree.depthLimit) (texts : Option (List String)) :
    OptionFits depth (texts.map Bom.textsJson) :=
  option_list_fits inside fun _ _ text _ => text_fits text

end Writers

end BomEvidence.Json
