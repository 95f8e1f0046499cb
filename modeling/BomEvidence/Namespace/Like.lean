/-!
Matching by patterns with wildcards, as the operator `LIKE` of SQL does it. The
percent sign stands for any text and the underscore for one character; behind the
escape character each stands for itself. Letters of ASCII match in either case.
-/

namespace BomEvidence.Like

inductive Token where
  | anyText
  | anyChar
  | char (c : Char)
  deriving DecidableEq, Repr

def escapeChar : Char := '\\'

/-- The parts of a pattern, unless an escape character ends it. -/
def tokens? : List Char → Option (List Token)
  | [] => some []
  | [c] =>
      if c = escapeChar then none
      else if c = '%' then some [.anyText]
      else if c = '_' then some [.anyChar]
      else some [.char c]
  | c :: next :: rest =>
      if c = escapeChar then (tokens? rest).map (.char next :: ·)
      else if c = '%' then (tokens? (next :: rest)).map (.anyText :: ·)
      else if c = '_' then (tokens? (next :: rest)).map (.anyChar :: ·)
      else (tokens? (next :: rest)).map (.char c :: ·)

/-- Whether two characters match: they are the same up to the case of ASCII letters. -/
def sameLetter (first second : Char) : Bool := first.toLower = second.toLower

/-- Whether some end of a text, be it all of it or nothing, passes a test. -/
def someEnd (test : List Char → Bool) : List Char → Bool
  | [] => test []
  | c :: text => test (c :: text) || someEnd test text

def matchesTokens : List Token → List Char → Bool
  | [], text => text.isEmpty
  | .anyText :: rest, text => someEnd (matchesTokens rest) text
  | .anyChar :: rest, text =>
      match text with
      | [] => false
      | _ :: text => matchesTokens rest text
  | .char c :: rest, text =>
      match text with
      | [] => false
      | d :: text => sameLetter c d && matchesTokens rest text

/-- A text ends where a character with the code zero stands. -/
def upToNul (text : List Char) : List Char := text.takeWhile fun c => c.toNat ≠ 0

def matches? (pattern text : String) : Bool :=
  match tokens? (upToNul pattern.toList) with
  | some parts => matchesTokens parts (upToNul text.toList)
  | none => false

/-- A text with the escape character before each character that a pattern would not
take for itself. -/
def escape (text : List Char) : List Char :=
  text.flatMap fun c =>
    if c = '%' || c = '_' || c = escapeChar then [escapeChar, c] else [c]

def containing (needle : String) : String :=
  String.ofList ('%' :: (escape needle.toList ++ ['%']))

def sizeLimit : Nat := 50000

end BomEvidence.Like
