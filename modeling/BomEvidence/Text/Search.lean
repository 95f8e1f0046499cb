/-!
Searching, cutting and replacing in text. Every operation looks for a literal
mark from the left and never lets two finds overlap; text is handled as its
list of characters, so that each operation is a structural recursion. Blanks are
trimmed, and a text is read as a path and as a number.
-/

namespace BomEvidence.Text

def dropStart? : (mark text : List Char) → Option (List Char)
  | [], text => some text
  | _ :: _, [] => none
  | m :: mark, c :: text => if m = c then dropStart? mark text else none

theorem drop_start_eq_some {mark text rest : List Char} :
    dropStart? mark text = some rest ↔ text = mark ++ rest := by
  induction mark generalizing text with
  | nil => simp [dropStart?]
  | cons m mark ih =>
      cases text with
      | nil => simp [dropStart?]
      | cons c text =>
          by_cases same : m = c
          · simp [dropStart?, same, ih]
          · simp [dropStart?, same, Ne.symm same]

def occurs (needle : List Char) : List Char → Bool
  | [] => needle.isEmpty
  | c :: text => needle.isPrefixOf (c :: text) || occurs needle text

theorem occurs_iff {needle text : List Char} :
    occurs needle text = true ↔ ∃ before after, text = before ++ needle ++ after := by
  induction text with
  | nil =>
      simp only [occurs, List.isEmpty_iff]
      constructor
      · rintro rfl; exact ⟨[], [], rfl⟩
      · rintro ⟨before, after, same⟩
        cases before <;> cases needle <;> simp_all
  | cons c text ih =>
      simp only [occurs, Bool.or_eq_true, List.isPrefixOf_iff_prefix, ih]
      constructor
      · rintro (⟨after, same⟩ | ⟨before, after, same⟩)
        · exact ⟨[], after, by simpa using same.symm⟩
        · exact ⟨c :: before, after, by simp [same]⟩
      · rintro ⟨before, after, same⟩
        cases before with
        | nil => exact Or.inl ⟨after, by simpa using same.symm⟩
        | cons b before =>
            simp only [List.cons_append, List.cons.injEq] at same
            exact Or.inr ⟨before, after, same.2⟩

def breakAt? (mark : List Char) : List Char → Option (List Char × List Char)
  | [] => if mark.isEmpty then some ([], []) else none
  | c :: text =>
      match dropStart? mark (c :: text) with
      | some rest => some ([], rest)
      | none => (breakAt? mark text).map fun (before, after) => (c :: before, after)

def afterLast? (mark : List Char) : List Char → Option (List Char)
  | [] => if mark.isEmpty then some [] else none
  | c :: text =>
      match afterLast? mark text with
      | some rest => some rest
      | none => dropStart? mark (c :: text)

/-- The first piece of a text and the pieces that follow it, cut at every mark.
The count says how many characters of a mark already found are still to pass. -/
def pieces (mark : List Char) : Nat → List Char → List Char × List (List Char)
  | _, [] => ([], [])
  | skip + 1, _ :: text => pieces mark skip text
  | 0, c :: text =>
      if mark.isPrefixOf (c :: text) then
        let (piece, later) := pieces mark (mark.length - 1) text
        ([], piece :: later)
      else
        let (piece, later) := pieces mark 0 text
        (c :: piece, later)

/-- The pieces between the marks. The empty mark stands before, between and
after all characters, so it yields each character and an empty piece at both ends. -/
def splitChars (mark text : List Char) : List (List Char) :=
  if mark.isEmpty then [] :: (text.map fun c => [c]) ++ [[]]
  else
    let (piece, later) := pieces mark 0 text
    piece :: later

theorem split_chars_ne_nil (mark text : List Char) : splitChars mark text ≠ [] := by
  unfold splitChars
  split <;> simp

def startsWith (text mark : String) : Bool := mark.toList.isPrefixOf text.toList

def endsWith (text mark : String) : Bool := mark.toList.isSuffixOf text.toList

def contains (text needle : String) : Bool := occurs needle.toList text.toList

def split (text mark : String) : List String :=
  (splitChars mark.toList text.toList).map String.ofList

/-- The text before the first mark, or all of it where there is none. -/
def before (text mark : String) : String :=
  match breakAt? mark.toList text.toList with
  | some (head, _) => String.ofList head
  | none => text

def afterLast (text mark : String) : Option String :=
  (afterLast? mark.toList text.toList).map String.ofList

def withoutStart? (text mark : String) : Option String :=
  (dropStart? mark.toList text.toList).map String.ofList

def replaceFirst (text mark new : String) : String :=
  match breakAt? mark.toList text.toList with
  | some (head, rest) => String.ofList (head ++ new.toList ++ rest)
  | none => text

def replace (text mark new : String) : String :=
  String.ofList (List.intercalate new.toList (splitChars mark.toList text.toList))

def join (separator : String) (texts : List String) : String :=
  String.ofList (List.intercalate separator.toList (texts.map String.toList))

/-! ### Blanks and readings -/

/-- Whether a character has the Unicode property `White_Space`. -/
def isBlank (c : Char) : Bool :=
  let code := c.toNat
  (0x09 ≤ code && code ≤ 0x0D) || code = 0x20 || code = 0x85 || code = 0xA0 ||
    code = 0x1680 || (0x2000 ≤ code && code ≤ 0x200A) || code = 0x2028 || code = 0x2029 ||
    code = 0x202F || code = 0x205F || code = 0x3000

/-- A text without the blanks at both of its ends. -/
def trimChars (text : List Char) : List Char :=
  ((text.dropWhile isBlank).reverse.dropWhile isBlank).reverse

def trim (text : String) : String := String.ofList (trimChars text.toList)

def allBlank (text : String) : Bool := text.toList.all isBlank

/-- A path without the part behind its last slash, where it has one. -/
def directory (path : String) : String :=
  let parts := split path "/"
  join "/" (if 1 < parts.length then parts.dropLast else parts)

/-- The value of decimal digits below a limit. A plus sign may stand in front of them. -/
def unsigned? (limit : Nat) (source : String) : Option Nat :=
  let digits := match source.toList with | '+' :: rest => rest | other => other
  let value := digits.foldl (fun value c => value * 10 + (c.toNat - '0'.toNat)) 0
  if digits.isEmpty || !digits.all Char.isDigit || limit ≤ value then none else some value

end BomEvidence.Text
