import BomEvidence.Text.Search

/-!
Texts as TOML documents write them. Of the four forms the first one is taken that
needs no escapes: between double quotes, between single quotes, and both of these
over several lines. A text that needs escapes stands between double quotes.
-/

namespace BomEvidence.Toml

inductive QuoteForm where
  | basic
  | literal
  | basicLines
  | literalLines
  deriving DecidableEq, Repr

def longestRun (c : Char) (text : List Char) : Nat :=
  let (longest, last) := text.foldl
    (fun (longest, run) d => if d = c then (max longest (run + 1), run + 1) else (longest, 0)) (0, 0)
  max longest last

def isControl (c : Char) : Bool := c ≠ '\t' && c ≠ '\n' && (c.toNat < 0x20 || c.toNat = 0x7F)

def QuoteForm.holds (text : List Char) : QuoteForm → Bool
  | .basic => !text.any isControl && '\\' ∉ text && '"' ∉ text && '\n' ∉ text
  | .literal => !text.any isControl && '\'' ∉ text && '\n' ∉ text
  | .basicLines => !text.any isControl && '\\' ∉ text && longestRun '"' text ≤ 2
  | .literalLines => !text.any isControl && longestRun '\'' text ≤ 2

def QuoteForm.forText (text : List Char) : QuoteForm :=
  match [basic, literal, basicLines, literalLines].find? (·.holds text) with
  | some form => form
  | none => if '\n' ∈ text then basicLines else basic

def hexDigit (value : Nat) : Char := (Nat.digitChar (value % 16)).toUpper

def escapeChar (spansLines : Bool) (c : Char) : List Char :=
  if c = '\t' then ['\\', 't']
  else if c = '\n' then if spansLines then ['\n'] else ['\\', 'n']
  else if c = '\r' then ['\\', 'r']
  else if c = '\\' then ['\\', '\\']
  else if c.toNat = 0x08 then ['\\', 'b']
  else if c.toNat = 0x0C then ['\\', 'f']
  else if c.toNat < 0x20 || c.toNat = 0x7F then
    ['\\', 'u', '0', '0', hexDigit (c.toNat / 16), hexDigit c.toNat]
  else [c]

/-- A text with escapes. Of double quotes in a row only so many stand as they are. -/
def escapeText (spansLines : Bool) (allowed : Nat) : (run : Nat) → List Char → List Char
  | _, [] => []
  | run, '"' :: rest =>
      if run < allowed then '"' :: escapeText spansLines allowed (run + 1) rest
      else '\\' :: '"' :: escapeText spansLines allowed 0 rest
  | _, c :: rest => escapeChar spansLines c ++ escapeText spansLines allowed 0 rest

def firstBreak (text : List Char) : List Char := if '\n' ∈ text then ['\n'] else []

def quote (source : String) : String :=
  let text := source.toList
  String.ofList <| match QuoteForm.forText text with
    | .basic => ['"'] ++ escapeText false 0 0 text ++ ['"']
    | .literal => ['\''] ++ text ++ ['\'']
    | .basicLines =>
        ['"', '"', '"'] ++ firstBreak text ++ escapeText true 2 0 text ++ ['"', '"', '"']
    | .literalLines => ['\'', '\'', '\''] ++ firstBreak text ++ text ++ ['\'', '\'', '\'']

end BomEvidence.Toml
