import BomEvidence.Text.Search

/-!
The marks, texts and words that a TOML document consists of. Comments are left out.
A word is whatever stands between the marks; texts have their escapes resolved.
-/

namespace BomEvidence.Toml

inductive Token where
  | blank (c : Char)
  | newLine
  | dot
  | comma
  | equals
  | openBracket
  | closeBracket
  | openBrace
  | closeBrace
  /-- A text between quotation marks, and whether it may span lines. -/
  | quoted (content : String) (spansLines : Bool)
  | word (content : String)
  deriving DecidableEq, Repr

def isBlank (c : Char) : Bool := c = ' ' || c = '\t'

/-- A character that may stand in comments and texts: no control character but the tab. -/
def isPlain (c : Char) : Bool := c = '\t' || (0x20 ≤ c.toNat && c.toNat ≠ 0x7F)

abbrev Reading := Option (List Char × List Char)

def Reading.push (c : Char) (reading : Reading) : Reading :=
  reading.map fun (content, rest) => (c :: content, rest)

def hexValue? (c : Char) : Option Nat :=
  if '0' ≤ c && c ≤ '9' then some (c.toNat - '0'.toNat)
  else if 'a' ≤ c && c ≤ 'f' then some (c.toNat - 'a'.toNat + 10)
  else if 'A' ≤ c && c ≤ 'F' then some (c.toNat - 'A'.toNat + 10)
  else none

def ofHex? (digits : List Char) : Option Char := do
  let code ← digits.foldlM (fun value digit => (hexValue? digit).map (value * 16 + ·)) 0
  if code < 0xD800 || (0xDFFF < code && code < 0x110000) then some (Char.ofNat code) else none

def escaped? : Char → Option Char
  | 'b' => some (Char.ofNat 0x08)
  | 't' => some '\t'
  | 'n' => some '\n'
  | 'f' => some (Char.ofNat 0x0C)
  | 'r' => some '\r'
  | 'e' => some (Char.ofNat 0x1B)
  | '"' => some '"'
  | '\\' => some '\\'
  | _ => none

def readText : List Char → Reading
  | [] => none
  | '"' :: rest => some ([], rest)
  | '\\' :: 'x' :: a :: b :: rest => do (readText rest).push (← ofHex? [a, b])
  | '\\' :: 'u' :: a :: b :: c :: d :: rest => do (readText rest).push (← ofHex? [a, b, c, d])
  | '\\' :: 'U' :: a :: b :: c :: d :: e :: f :: g :: h :: rest => do
      (readText rest).push (← ofHex? [a, b, c, d, e, f, g, h])
  | '\\' :: letter :: rest => do (readText rest).push (← escaped? letter)
  | c :: rest => if isPlain c && c ≠ '\\' then (readText rest).push c else none

def readLiteral : List Char → Reading
  | [] => none
  | '\'' :: rest => some ([], rest)
  | c :: rest => if isPlain c then (readLiteral rest).push c else none

def endsLine : List Char → Bool
  | '\n' :: _ => true
  | '\r' :: '\n' :: _ => true
  | c :: rest => isBlank c && endsLine rest
  | [] => false

/-- Reads a text of several lines up to its three quotation marks, before which two more
may stand. A backslash at the end of a line drops all space up to the next character. -/
def readLines (skipping : Bool) : List Char → Reading
  | [] => none
  | '"' :: '"' :: '"' :: '"' :: '"' :: rest => some (['"', '"'], rest)
  | '"' :: '"' :: '"' :: '"' :: rest => some (['"'], rest)
  | '"' :: '"' :: '"' :: rest => some ([], rest)
  | '\\' :: 'x' :: a :: b :: rest => do (readLines false rest).push (← ofHex? [a, b])
  | '\\' :: 'u' :: a :: b :: c :: d :: rest => do
      (readLines false rest).push (← ofHex? [a, b, c, d])
  | '\\' :: 'U' :: a :: b :: c :: d :: e :: f :: g :: h :: rest => do
      (readLines false rest).push (← ofHex? [a, b, c, d, e, f, g, h])
  | '\\' :: letter :: rest =>
      if endsLine (letter :: rest) then readLines true (letter :: rest)
      else do (readLines false rest).push (← escaped? letter)
  | '\r' :: '\n' :: rest =>
      if skipping then readLines true rest
      else ((readLines false rest).push '\n').push '\r'
  | c :: rest =>
      if skipping && (isBlank c || c = '\n') then readLines true rest
      else if c = '\n' || (isPlain c && c ≠ '\\') then (readLines false rest).push c
      else none

def readLiteralLines : List Char → Reading
  | [] => none
  | '\'' :: '\'' :: '\'' :: '\'' :: '\'' :: rest => some (['\'', '\''], rest)
  | '\'' :: '\'' :: '\'' :: '\'' :: rest => some (['\''], rest)
  | '\'' :: '\'' :: '\'' :: rest => some ([], rest)
  | '\r' :: '\n' :: rest => ((readLiteralLines rest).push '\n').push '\r'
  | c :: rest => if c = '\n' || isPlain c then (readLiteralLines rest).push c else none

/-- Drops the line break with which a text of several lines may begin. -/
def withoutFirstBreak : List Char → List Char
  | '\n' :: rest => rest
  | '\r' :: '\n' :: rest => rest
  | text => text

/-- The characters behind a comment, which ends with its line. -/
def skipComment : List Char → Option (List Char)
  | [] => some []
  | '\n' :: rest => some ('\n' :: rest)
  | '\r' :: '\n' :: rest => some ('\n' :: rest)
  | c :: rest => if isPlain c then skipComment rest else none

def mark? : Char → Option Token
  | '.' => some .dot
  | ',' => some .comma
  | '=' => some .equals
  | '[' => some .openBracket
  | ']' => some .closeBracket
  | '{' => some .openBrace
  | '}' => some .closeBrace
  | _ => none

def isWordChar (c : Char) : Bool :=
  (mark? c).isNone && !isBlank c && isPlain c && c ≠ '#' && c ≠ '"' && c ≠ '\''

/-- Reads the first token, none for a comment, and the characters behind it. -/
def readToken : List Char → Option (Option Token × List Char)
  | [] => none
  | '\n' :: rest => some (some .newLine, rest)
  | '\r' :: '\n' :: rest => some (some .newLine, rest)
  | '#' :: rest => (skipComment rest).map fun rest => (none, rest)
  | '"' :: '"' :: '"' :: rest =>
      (readLines false (withoutFirstBreak rest)).map fun (content, rest) =>
        (some (.quoted (String.ofList content) true), rest)
  | '\'' :: '\'' :: '\'' :: rest =>
      (readLiteralLines (withoutFirstBreak rest)).map fun (content, rest) =>
        (some (.quoted (String.ofList content) true), rest)
  | '"' :: rest =>
      (readText rest).map fun (content, rest) => (some (.quoted (String.ofList content) false), rest)
  | '\'' :: rest =>
      (readLiteral rest).map fun (content, rest) =>
        (some (.quoted (String.ofList content) false), rest)
  | c :: rest =>
      if isBlank c then some (some (.blank c), rest)
      else
        match mark? c with
        | some token => some (some token, rest)
        | none =>
            if isWordChar c then
              some (some (.word (String.ofList (c :: rest.takeWhile isWordChar))),
                rest.dropWhile isWordChar)
            else none

/-- The tokens of a text, of which there are no more than characters. -/
def tokensWithin : Nat → List Char → Option (List Token)
  | _, [] => some []
  | 0, _ => none
  | fuel + 1, text => do
      let (token, rest) ← readToken text
      let later ← tokensWithin fuel rest
      some (token.toList ++ later)

/-- The tokens of a document. A byte order mark may stand in front of it. -/
def tokens? (source : String) : Option (List Token) :=
  let text := match source.toList with
    | c :: rest => if c.toNat = 0xFEFF then rest else c :: rest
    | [] => []
  tokensWithin text.length text

end BomEvidence.Toml
