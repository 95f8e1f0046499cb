import BomEvidence.Proofs.Json.Canonical
import BomEvidence.Proofs.Json.Float
import BomEvidence.Proofs.Json.Lexeme

/-!
What is read from the text that is written of a value. The reader follows the writer: both take
the items of a container in order, and what the writer puts between them are blanks and commas. A
floating-point number may be read as another one, and a container that stands too deep is read as
an unreadable part; everything else is read as it was.
-/

namespace BomEvidence

namespace Json

def Reread (value : Json) : Prop := Tree.ofText? value.pretty = some value.tree

mutual

/-- Whether a value inside of `depth` containers has integers of 64 bits for its numbers and
no container below the deepest level. -/
def isPlain (depth : Nat) : Json → Bool
  | .number (.integer value) => -0x8000000000000000 ≤ value && value < 0x10000000000000000
  | .number (.float _) => false
  | .array items => depth + 1 ≤ Tree.depthLimit && arePlain (depth + 1) items
  | .object members => depth + 1 ≤ Tree.depthLimit && memberPlain (depth + 1) members
  | _ => true

def arePlain (depth : Nat) : List Json → Bool
  | [] => true
  | item :: rest => isPlain depth item && arePlain depth rest

def memberPlain (depth : Nat) : List (String × Json) → Bool
  | [] => true
  | (_, item) :: rest => isPlain depth item && memberPlain depth rest

end

/-! ### Numbers -/

def Number.numeral : Number → Tree.Numeral
  | .integer value => .ofInteger value
  | .float value => Tree.floatNumeral value

theorem Number.text_shown (number : Number) : number.text.toList = number.numeral.shown := by
  cases number with
  | integer value => exact Tree.Numeral.integer_shown value
  | float value => exact Tree.text_shown value

theorem Number.numeral_formed (number : Number) : number.numeral.WellFormed := by
  cases number with
  | integer value => exact Tree.Numeral.integer_formed value
  | float value => exact Tree.float_numeral_formed value

def Number.leaf (number : Number) : Tree :=
  match number.numeral.value? with
  | some value => .number value
  | none => .unreadable

mutual

/-- The tree that is read from what is written of a value inside of `depth` containers. -/
def treeOn (depth : Nat) : Json → Tree
  | .null => .null
  | .bool value => .bool value
  | .number value => value.leaf
  | .text value => .text value
  | .array items => Tree.onLevel (depth + 1) (.array (itemTreesOn (depth + 1) items))
  | .object members => Tree.onLevel (depth + 1) (.object (memberTreesOn (depth + 1) members))

def itemTreesOn (depth : Nat) : List Json → List Tree
  | [] => []
  | item :: rest => treeOn depth item :: itemTreesOn depth rest

def memberTreesOn (depth : Nat) : List (String × Json) → List (String × Tree)
  | [] => []
  | (key, item) :: rest => (key, treeOn depth item) :: memberTreesOn depth rest

end

namespace Tree

theorem skip_blanks_cons {first : Char} (shown : isBlank first = false) (rest : List Char) :
    skipBlanks (first :: rest) = first :: rest := by
  rw [skipBlanks, List.dropWhile_cons, shown, if_neg Bool.false_ne_true]

theorem skip_blanks_new_line (depth : Nat) (rest : List Char) :
    skipBlanks ((newLine depth).toList ++ rest) = skipBlanks rest := by
  rw [newLine, String.toList_ofList]
  apply List.dropWhile_append_of_pos
  intro c member
  rcases List.mem_cons.1 member with isLineFeed | isSpace
  · rw [isLineFeed]
    rfl
  · rw [List.eq_of_mem_replicate isSpace]
    rfl

theorem ends_new_line (depth : Nat) (rest : List Char) : Ends ((newLine depth).toList ++ rest) := by
  rw [newLine, String.toList_ofList, List.cons_append]
  exact ends_line_feed _

theorem new_line_length (depth : Nat) : 0 < (newLine depth).toList.length := by
  rw [newLine, String.toList_ofList]
  exact Nat.succ_pos _

theorem read_value_new_line (fuel depth level : Nat) (rest : List Char) :
    readValue fuel depth ((newLine level).toList ++ rest) = readValue fuel depth rest := by
  cases fuel with
  | zero => rfl
  | succ fuel => rw [readValue, readValue, skip_blanks_new_line]

theorem read_items_new_line (fuel depth level : Nat) (done : List Tree) (rest : List Char) :
    readItems fuel depth done ((newLine level).toList ++ rest) = readItems fuel depth done rest := by
  cases fuel with
  | zero => rfl
  | succ fuel => rw [readItems, readItems, read_value_new_line]

theorem read_members_new_line (fuel depth level : Nat) (done : Option (List (String × Tree)))
    (rest : List Char) : readMembers fuel depth done ((newLine level).toList ++ rest) =
      readMembers fuel depth done rest := by
  cases fuel with
  | zero => rfl
  | succ fuel => rw [readMembers, readMembers, skip_blanks_new_line]

theorem number_first {first : Char} (shape : first = '-' ∨ first.isDigit = true) :
    isBlank first = false ∧ first ∉ ['"', '[', ']', '\x7b', 't', 'f', 'n'] := by
  rcases shape with rfl | isDigit
  · decide
  · constructor
    · cases blank : isBlank first with
      | false => rfl
      | true =>
          simp [isBlank] at blank
          rcases blank with ((rfl | rfl) | rfl) | rfl <;> cases isDigit
    · intro special
      simp at special
      rcases special with rfl | rfl | rfl | rfl | rfl | rfl | rfl <;> cases isDigit

theorem pretty_first (depth : Nat) (value : Json) :
    ∃ first rest, (prettyAt depth value).toList = first :: rest ∧ isBlank first = false ∧
      first ≠ ']' := by
  cases value with
  | null => exact ⟨'n', "ull".toList, by simp [prettyAt], by decide⟩
  | bool value =>
      cases value with
      | true => exact ⟨'t', "rue".toList, by simp [prettyAt], by decide⟩
      | false => exact ⟨'f', "alse".toList, by simp [prettyAt], by decide⟩
  | number number =>
      obtain ⟨first, rest, written, shape⟩ := Numeral.shown_first number.numeral_formed
      obtain ⟨shown, nothingElse⟩ := number_first shape
      refine ⟨first, rest, number.text_shown.trans written, shown, ?_⟩
      intro same
      subst same
      exact nothingElse (by decide)
  | text text =>
      obtain ⟨body, written, _⟩ := quoted_text_of_quote text []
      exact ⟨'"', body, written, by decide⟩
  | array items =>
      rw [prettyAt]
      split
      · exact ⟨'[', _, rfl, by decide⟩
      · rw [String.toList_append, String.toList_append, String.toList_append]
        exact ⟨'[', _, rfl, by decide⟩
  | object members =>
      rw [prettyAt]
      split
      · exact ⟨'\x7b', _, rfl, by decide⟩
      · rw [String.toList_append, String.toList_append, String.toList_append]
        exact ⟨'\x7b', _, rfl, by decide⟩

theorem read_text (fuel depth : Nat) (text : String) (rest : List Char) :
    readValue (fuel + 1) depth ((quote text).toList ++ rest) = some (.text text, rest) := by
  obtain ⟨body, written, read⟩ := quoted_text_of_quote text rest
  rw [written, readValue, List.cons_append, skip_blanks_cons (by decide)]
  simp [read]

theorem read_number (fuel depth : Nat) (number : Number) {rest : List Char} (ends : Ends rest) :
    readValue (fuel + 1) depth (number.text.toList ++ rest) = some (number.leaf, rest) := by
  have read := Numeral.numeral_of_shown number.numeral_formed ends
  obtain ⟨first, others, written, shape⟩ := Numeral.shown_first number.numeral_formed
  obtain ⟨shown, nothingElse⟩ := number_first shape
  rw [written, List.cons_append] at read
  rw [number.text_shown, written, readValue, List.cons_append, skip_blanks_cons shown]
  split
  case h_7 =>
    rw [read]
    rfl
  all_goals
    rename_i begins
    obtain ⟨rfl, _⟩ := List.cons.inj begins
    exact absurd (by decide) nothingElse

theorem on_level_of_le {depth : Nat} (inside : depth ≤ depthLimit) (container : Tree) :
    onLevel depth container = container := by
  rw [onLevel, if_pos inside]

theorem pretty_length (depth : Nat) (value : Json) :
    0 < (prettyAt depth value).toList.length := by
  obtain ⟨first, rest, written, _⟩ := pretty_first depth value
  rw [written]
  exact Nat.succ_pos _

theorem read_value_space (fuel depth : Nat) (rest : List Char) :
    readValue fuel depth (' ' :: rest) = readValue fuel depth rest := by
  have skipped : skipBlanks (' ' :: rest) = skipBlanks rest := rfl
  cases fuel with
  | zero => rfl
  | succ fuel => rw [readValue, readValue, skipped]

/-! ### Containers -/

theorem pretty_items_last (depth : Nat) (item : Json) : (prettyItems depth [item]).toList =
    (newLine (depth + 1)).toList ++ (prettyAt (depth + 1) item).toList := by
  simp [prettyItems]

theorem pretty_items_next (depth : Nat) (item next : Json) (items : List Json) :
    (prettyItems depth (item :: next :: items)).toList =
      (newLine (depth + 1)).toList ++ ((prettyAt (depth + 1) item).toList ++
        ',' :: (prettyItems depth (next :: items)).toList) := by
  simp [prettyItems]

theorem pretty_items_cons (depth : Nat) (item : Json) (items : List Json) : ∃ more,
    (prettyItems depth (item :: items)).toList =
      (newLine (depth + 1)).toList ++ ((prettyAt (depth + 1) item).toList ++ more) := by
  cases items with
  | nil => exact ⟨[], by rw [pretty_items_last, List.append_nil]⟩
  | cons next items => exact ⟨_, pretty_items_next depth item next items⟩

theorem pretty_members_last (depth : Nat) (key : String) (item : Json) :
    (prettyMembers depth [(key, item)]).toList =
      (newLine (depth + 1)).toList ++ ((quote key).toList ++
        ':' :: ' ' :: (prettyAt (depth + 1) item).toList) := by
  simp [prettyMembers]

theorem pretty_members_next (depth : Nat) (key : String) (item : Json) (next : String × Json)
    (members : List (String × Json)) :
    (prettyMembers depth ((key, item) :: next :: members)).toList =
      (newLine (depth + 1)).toList ++ ((quote key).toList ++
        ':' :: ' ' :: ((prettyAt (depth + 1) item).toList ++
          ',' :: (prettyMembers depth (next :: members)).toList)) := by
  simp [prettyMembers]

theorem pretty_members_cons (depth : Nat) (key : String) (item : Json)
    (members : List (String × Json)) : ∃ more, (prettyMembers depth ((key, item) :: members)).toList =
      (newLine (depth + 1)).toList ++ ((quote key).toList ++ more) := by
  cases members with
  | nil => exact ⟨_, pretty_members_last depth key item⟩
  | cons next members => exact ⟨_, pretty_members_next depth key item next members⟩

theorem pretty_items_length (depth : Nat) (item : Json) (items : List Json) :
    0 < (prettyItems depth (item :: items)).toList.length := by
  obtain ⟨more, shape⟩ := pretty_items_cons depth item items
  have positive := new_line_length (depth + 1)
  rw [shape, List.length_append]
  omega

theorem pretty_members_length (depth : Nat) (member : String × Json)
    (members : List (String × Json)) :
    0 < (prettyMembers depth (member :: members)).toList.length := by
  obtain ⟨more, shape⟩ := pretty_members_cons depth member.1 member.2 members
  have positive := new_line_length (depth + 1)
  rw [shape, List.length_append]
  omega

theorem pretty_array (depth : Nat) (item : Json) (items : List Json) :
    (prettyAt depth (.array (item :: items))).toList =
      '[' :: ((prettyItems depth (item :: items)).toList ++ ((newLine depth).toList ++ [']'])) := by
  simp [prettyAt]

theorem pretty_object (depth : Nat) (member : String × Json) (members : List (String × Json)) :
    (prettyAt depth (.object (member :: members))).toList = '\x7b' ::
      ((prettyMembers depth (member :: members)).toList ++ ((newLine depth).toList ++ ['\x7d'])) := by
  simp [prettyAt]

theorem read_array (fuel depth : Nat) (item : Json) (items : List Json) (rest : List Char) :
    readValue (fuel + 1) depth ((prettyAt depth (.array (item :: items))).toList ++ rest) =
      readItems fuel (depth + 1) [] ((prettyItems depth (item :: items)).toList ++
        ((newLine depth).toList ++ ']' :: rest)) := by
  obtain ⟨more, shape⟩ := pretty_items_cons depth item items
  obtain ⟨first, others, written, shown, noEnd⟩ := pretty_first (depth + 1) item
  rw [pretty_array, shape, written, List.cons_append, readValue, skip_blanks_cons (by decide)]
  simp only [List.append_assoc, List.cons_append, List.nil_append]
  rw [skip_blanks_new_line, skip_blanks_cons shown, read_items_new_line]
  split
  · rename_i closes
    exact absurd (List.cons.inj closes).1 noEnd
  · rfl

theorem read_object (fuel depth : Nat) (member : String × Json) (members : List (String × Json))
    (rest : List Char) :
    readValue (fuel + 1) depth ((prettyAt depth (.object (member :: members))).toList ++ rest) =
      readMembers fuel (depth + 1) (some []) ((prettyMembers depth (member :: members)).toList ++
        ((newLine depth).toList ++ '\x7d' :: rest)) := by
  obtain ⟨key, item⟩ := member
  obtain ⟨more, shape⟩ := pretty_members_cons depth key item members
  obtain ⟨body, written, _⟩ := quoted_text_of_quote key []
  rw [pretty_object, shape, written, List.cons_append, readValue, skip_blanks_cons (by decide)]
  simp only [List.append_assoc, List.cons_append, List.nil_append]
  rw [skip_blanks_new_line, skip_blanks_cons (by decide), read_members_new_line]
  split
  · rename_i closes
    cases closes
  · rfl

theorem read_last_item {fuel depth : Nat} {done : List Tree} {item : Json} {rest : List Char}
    (read : readValue fuel (depth + 1) ((prettyAt (depth + 1) item).toList ++
        ((newLine depth).toList ++ ']' :: rest)) =
      some (item.treeOn (depth + 1), (newLine depth).toList ++ ']' :: rest)) :
    readItems (fuel + 1) (depth + 1) done ((prettyItems depth [item]).toList ++
        ((newLine depth).toList ++ ']' :: rest)) =
      some (onLevel (depth + 1) (.array (item.treeOn (depth + 1) :: done).reverse), rest) := by
  rw [pretty_items_last, List.append_assoc, read_items_new_line, readItems, read]
  dsimp only
  rw [skip_blanks_new_line, skip_blanks_cons (by decide)]
  rfl

theorem read_next_item {fuel depth : Nat} {done : List Tree} {item next : Json}
    {items : List Json} {tail : List Char}
    (read : readValue fuel (depth + 1) ((prettyAt (depth + 1) item).toList ++
        ',' :: ((prettyItems depth (next :: items)).toList ++ tail)) =
      some (item.treeOn (depth + 1), ',' :: ((prettyItems depth (next :: items)).toList ++ tail))) :
    readItems (fuel + 1) (depth + 1) done
        ((prettyItems depth (item :: next :: items)).toList ++ tail) =
      readItems fuel (depth + 1) (item.treeOn (depth + 1) :: done)
        ((prettyItems depth (next :: items)).toList ++ tail) := by
  rw [pretty_items_next, List.append_assoc, List.append_assoc, List.cons_append,
    read_items_new_line, readItems, read]
  dsimp only
  rw [skip_blanks_cons (by decide)]
  rfl

theorem read_member {fuel depth : Nat} {done : List (String × Tree)} {key : String} {item : Json}
    {tail : List Char}
    (read : readValue fuel depth ((prettyAt depth item).toList ++ tail) = some (item.treeOn depth, tail)) :
    readMembers (fuel + 1) depth (some done)
        ((quote key).toList ++ (':' :: ' ' :: ((prettyAt depth item).toList ++ tail))) =
      match skipBlanks tail with
      | ',' :: rest => readMembers fuel depth (some ((key, item.treeOn depth) :: done)) rest
      | '\x7d' :: rest =>
          some (onLevel depth (.object ((key, item.treeOn depth) :: done).reverse), rest)
      | _ => none := by
  obtain ⟨body, written, readKey⟩ := quoted_text_of_quote key
    (':' :: ' ' :: ((prettyAt depth item).toList ++ tail))
  rw [written, List.cons_append, readMembers, skip_blanks_cons (by decide)]
  simp only [readKey]
  rw [skip_blanks_cons (by decide)]
  simp only [read_value_space, read]
  rfl

theorem read_last_member {fuel depth : Nat} {done : List (String × Tree)} {key : String}
    {item : Json} {rest : List Char}
    (read : readValue fuel (depth + 1) ((prettyAt (depth + 1) item).toList ++
        ((newLine depth).toList ++ '\x7d' :: rest)) =
      some (item.treeOn (depth + 1), (newLine depth).toList ++ '\x7d' :: rest)) :
    readMembers (fuel + 1) (depth + 1) (some done) ((prettyMembers depth [(key, item)]).toList ++
        ((newLine depth).toList ++ '\x7d' :: rest)) =
      some (onLevel (depth + 1) (.object ((key, item.treeOn (depth + 1)) :: done).reverse), rest) := by
  rw [pretty_members_last, List.append_assoc, List.append_assoc, List.cons_append,
    List.cons_append, read_members_new_line, read_member read, skip_blanks_new_line,
    skip_blanks_cons (by decide)]
  rfl

theorem read_next_member {fuel depth : Nat} {done : List (String × Tree)} {key : String}
    {item : Json} {next : String × Json} {members : List (String × Json)} {tail : List Char}
    (read : readValue fuel (depth + 1) ((prettyAt (depth + 1) item).toList ++
        ',' :: ((prettyMembers depth (next :: members)).toList ++ tail)) =
      some (item.treeOn (depth + 1), ',' :: ((prettyMembers depth (next :: members)).toList ++ tail))) :
    readMembers (fuel + 1) (depth + 1) (some done)
        ((prettyMembers depth ((key, item) :: next :: members)).toList ++ tail) =
      readMembers fuel (depth + 1) (some ((key, item.treeOn (depth + 1)) :: done))
        ((prettyMembers depth (next :: members)).toList ++ tail) := by
  rw [pretty_members_next, List.append_assoc, List.append_assoc, List.cons_append,
    List.cons_append, List.append_assoc, List.cons_append, read_members_new_line,
    read_member read, skip_blanks_cons (by decide)]
  rfl

/-! ### Values -/

/-- Twice the length of a text is fuel for one more step. -/
theorem fuel_of_length {length fuel : Nat} (positive : 0 < length) (enough : 2 * length ≤ fuel) :
    ∃ less, fuel = less + 1 := by
  refine ⟨fuel - 1, ?_⟩
  omega

/-- A value is read where it is written inside of `depth` containers, and reading ends behind it. -/
def ReadsBack (depth : Nat) (value : Json) : Prop :=
  ∀ (fuel : Nat) (rest : List Char), 2 * (prettyAt depth value).toList.length ≤ fuel → Ends rest →
    readValue fuel depth ((prettyAt depth value).toList ++ rest) = some (value.treeOn depth, rest)

theorem reads_back_of_step {depth : Nat} {value : Json}
    (step : ∀ (less : Nat) (rest : List Char),
      2 * (prettyAt depth value).toList.length ≤ less + 1 → Ends rest →
      readValue (less + 1) depth ((prettyAt depth value).toList ++ rest) =
        some (value.treeOn depth, rest)) : ReadsBack depth value := by
  intro fuel rest enough ends
  obtain ⟨less, rfl⟩ := fuel_of_length (pretty_length depth value) enough
  exact step less rest enough ends

theorem read_items_pretty {depth : Nat} {items : List Json}
    (each : ∀ item ∈ items, ReadsBack (depth + 1) item) (nonempty : items ≠ []) {fuel : Nat}
    (enough : 2 * (prettyItems depth items).toList.length ≤ fuel) (done : List Tree)
    (rest : List Char) :
    readItems fuel (depth + 1) done ((prettyItems depth items).toList ++
        ((newLine depth).toList ++ ']' :: rest)) =
      some (onLevel (depth + 1) (.array (done.reverse ++ itemTreesOn (depth + 1) items)), rest) := by
  induction items generalizing fuel done with
  | nil => exact absurd rfl nonempty
  | cons item items ih =>
      obtain ⟨less, rfl⟩ := fuel_of_length (pretty_items_length depth item items) enough
      have positive := new_line_length (depth + 1)
      have readItem : ReadsBack (depth + 1) item := each item List.mem_cons_self
      have others : ∀ other ∈ items, ReadsBack (depth + 1) other := fun other member =>
        each other (List.mem_cons_of_mem item member)
      cases items with
      | nil =>
          rw [pretty_items_last, List.length_append] at enough
          have read := readItem less _ (by omega) (ends_new_line depth (']' :: rest))
          rw [read_last_item read, List.reverse_cons]
          rfl
      | cons next items =>
          rw [pretty_items_next, List.length_append, List.length_append, List.length_cons]
            at enough
          have read := readItem less _ (by omega) (ends_comma
            ((prettyItems depth (next :: items)).toList ++ ((newLine depth).toList ++ ']' :: rest)))
          rw [read_next_item read, ih others (List.cons_ne_nil _ _) (by omega), List.reverse_cons,
            List.append_assoc]
          rfl

theorem read_members_pretty {depth : Nat} {members : List (String × Json)}
    (each : ∀ member ∈ members, ReadsBack (depth + 1) member.2) (nonempty : members ≠ [])
    {fuel : Nat} (enough : 2 * (prettyMembers depth members).toList.length ≤ fuel)
    (done : List (String × Tree)) (rest : List Char) :
    readMembers fuel (depth + 1) (some done) ((prettyMembers depth members).toList ++
        ((newLine depth).toList ++ '\x7d' :: rest)) =
      some (onLevel (depth + 1) (.object (done.reverse ++ memberTreesOn (depth + 1) members)), rest) := by
  induction members generalizing fuel done with
  | nil => exact absurd rfl nonempty
  | cons member members ih =>
      obtain ⟨less, rfl⟩ := fuel_of_length (pretty_members_length depth member members) enough
      obtain ⟨key, item⟩ := member
      have readItem : ReadsBack (depth + 1) item := each (key, item) List.mem_cons_self
      have others : ∀ other ∈ members, ReadsBack (depth + 1) other.2 := fun other among =>
        each other (List.mem_cons_of_mem (key, item) among)
      cases members with
      | nil =>
          rw [pretty_members_last] at enough
          simp only [List.length_append, List.length_cons] at enough
          have read := readItem less _ (by omega) (ends_new_line depth ('\x7d' :: rest))
          rw [read_last_member read, List.reverse_cons]
          rfl
      | cons next members =>
          rw [pretty_members_next] at enough
          simp only [List.length_append, List.length_cons] at enough
          have read := readItem less _ (by omega) (ends_comma
            ((prettyMembers depth (next :: members)).toList ++
              ((newLine depth).toList ++ '\x7d' :: rest)))
          rw [read_next_member read, ih others (List.cons_ne_nil _ _) (by omega),
            List.reverse_cons, List.append_assoc]
          rfl

theorem array_reads_back {depth : Nat} {items : List Json}
    (each : ∀ item ∈ items, ReadsBack (depth + 1) item) : ReadsBack depth (.array items) := by
  apply reads_back_of_step
  intro less rest enough _
  cases items with
  | nil => simp [prettyAt, readValue, skip_blanks_cons, isBlank, treeOn, itemTreesOn]
  | cons item items =>
      rw [pretty_array, List.length_cons, List.length_append] at enough
      rw [read_array, read_items_pretty each (List.cons_ne_nil _ _) (by omega), treeOn]
      rfl

theorem object_reads_back {depth : Nat} {members : List (String × Json)}
    (each : ∀ member ∈ members, ReadsBack (depth + 1) member.2) :
    ReadsBack depth (.object members) := by
  apply reads_back_of_step
  intro less rest enough _
  cases members with
  | nil => simp [prettyAt, readValue, skip_blanks_cons, isBlank, treeOn, memberTreesOn]
  | cons member members =>
      rw [pretty_object, List.length_cons, List.length_append] at enough
      rw [read_object, read_members_pretty each (List.cons_ne_nil _ _) (by omega), treeOn]
      rfl

mutual

theorem value_reads_back : (value : Json) → (depth : Nat) → ReadsBack depth value
  | .null, depth => reads_back_of_step fun less rest _ _ => by
      simp [prettyAt, readValue, skip_blanks_cons, isBlank, treeOn]
  | .bool value, depth => reads_back_of_step fun less rest _ _ => by
      cases value <;> simp [prettyAt, readValue, skip_blanks_cons, isBlank, treeOn]
  | .number value, depth => reads_back_of_step fun less rest _ ends => by
      rw [prettyAt, treeOn]
      exact read_number less depth value ends
  | .text content, depth => reads_back_of_step fun less rest _ _ => by
      rw [prettyAt, treeOn]
      exact read_text less depth content rest
  | .array items, depth => array_reads_back (items_read_back items (depth + 1))
  | .object members, depth => object_reads_back (members_read_back members (depth + 1))

theorem items_read_back : (items : List Json) → (depth : Nat) →
    ∀ item ∈ items, ReadsBack depth item
  | [], _ => fun _ member => absurd member List.not_mem_nil
  | item :: rest, depth =>
      List.forall_mem_cons.2 ⟨value_reads_back item depth, items_read_back rest depth⟩

theorem members_read_back : (members : List (String × Json)) → (depth : Nat) →
    ∀ member ∈ members, ReadsBack depth member.2
  | [], _ => fun _ member => absurd member List.not_mem_nil
  | (_, item) :: rest, depth =>
      List.forall_mem_cons.2 ⟨value_reads_back item depth, members_read_back rest depth⟩

end

end Tree

theorem of_text_of_pretty (value : Json) : Tree.ofText? value.pretty = some (value.treeOn 0) := by
  have enough : 2 * value.pretty.toList.length ≤ 2 * value.pretty.length + 2 :=
    Nat.le_add_right _ 2
  have read := Tree.value_reads_back value 0 _ [] enough Tree.ends_nil
  rw [List.append_nil] at read
  have readPretty : Tree.readValue (2 * value.pretty.length + 2) 0 value.pretty.toList =
      some (value.treeOn 0, []) := read
  unfold Tree.ofText?
  rw [readPretty]
  rfl

mutual

theorem tree_on_of_plain : (value : Json) → (depth : Nat) → value.isPlain depth = true →
    value.treeOn depth = value.tree
  | .null, _, _ | .bool _, _, _ | .text _, _, _ => by rw [treeOn, tree]
  | .number (.integer value), depth, plain => by
      simp only [isPlain, Bool.and_eq_true, decide_eq_true_eq] at plain
      have read := Tree.Numeral.integer_value plain.1 plain.2
      rw [treeOn, tree, Number.leaf, Number.numeral, read]
  | .number (.float _), _, plain => by cases plain
  | .array items, depth, plain => by
      simp only [isPlain, Bool.and_eq_true, decide_eq_true_eq] at plain
      rw [treeOn, Tree.on_level_of_le plain.1, item_trees_on_of_plain items (depth + 1) plain.2,
        tree]
  | .object members, depth, plain => by
      simp only [isPlain, Bool.and_eq_true, decide_eq_true_eq] at plain
      rw [treeOn, Tree.on_level_of_le plain.1,
        member_trees_on_of_plain members (depth + 1) plain.2, tree]

theorem item_trees_on_of_plain : (items : List Json) → (depth : Nat) →
    arePlain depth items = true → itemTreesOn depth items = itemTrees items
  | [], _, _ => rfl
  | item :: rest, depth, plain => by
      rw [arePlain, Bool.and_eq_true] at plain
      rw [itemTreesOn, tree_on_of_plain item depth plain.1,
        item_trees_on_of_plain rest depth plain.2, itemTrees]

theorem member_trees_on_of_plain : (members : List (String × Json)) → (depth : Nat) →
    memberPlain depth members = true → memberTreesOn depth members = memberTrees members
  | [], _, _ => rfl
  | (_, item) :: rest, depth, plain => by
      rw [memberPlain, Bool.and_eq_true] at plain
      rw [memberTreesOn, tree_on_of_plain item depth plain.1,
        member_trees_on_of_plain rest depth plain.2, memberTrees]

end

/-- A plain value is read from the text that is written of it. -/
theorem reread_of_plain {value : Json} (plain : value.isPlain 0 = true) : value.Reread := by
  rw [Reread, of_text_of_pretty, tree_on_of_plain value 0 plain]

end Json

end BomEvidence
