import BomEvidence.Text.CaseTable

/-!
Small letters. Each character is mapped on its own, by the full mapping of the
Unicode character database without its rules on context; the one letter with a
mapping of two characters is the dotted capital I.
-/

namespace BomEvidence.Text

def smallLetter (c : Char) : Char :=
  if c.toNat < 0x80 then c.toLower
  else
    match caseRuns.find? (·.holds c.toNat) with
    | some run => Char.ofNat (c.toNat + run.shift).toNat
    | none => c

def lowerChar (c : Char) : List Char :=
  if c.toNat = 0x130 then ['i', Char.ofNat 0x307] else [smallLetter c]

def lowerChars (text : List Char) : List Char := text.flatMap lowerChar

def lower (text : String) : String := String.ofList (lowerChars text.toList)

/-- Whether the lower-case mapping leaves a text as it is. -/
def isLower (text : String) : Bool := lowerChars text.toList = text.toList

/-- The capital of a character where that is a letter of the Latin alphabet
without marks. Outside of ASCII only the dotless i and the long s have one. -/
def capital (c : Char) : Char :=
  if c.toNat = 0x131 then 'I' else if c.toNat = 0x17F then 'S' else c.toUpper

def capitals (text : String) : String := String.ofList (text.toList.map capital)

end BomEvidence.Text
