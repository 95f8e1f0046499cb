import BomEvidence.Text.Search

/-!
Instants as they are written into documents: date and time of day in the calendar of
Gregory, to the millisecond. The calendar is counted in cycles of four centuries,
and a year in it begins in March, so that the day that some years lack comes last.
-/

namespace BomEvidence

/-- A point of time in milliseconds since the beginning of 1970. -/
structure Instant where
  milliseconds : Int
  deriving DecidableEq, Repr

structure Date where
  year : Int
  month : Nat
  day : Nat
  deriving DecidableEq, Repr

namespace Date

/-- The days of four centuries. -/
def cycleDays : Nat := 146097

/-- The days from the first of March of the year zero to the beginning of 1970. -/
def epochDays : Nat := 719468

/-- The days of a year before a month, both counted from March. -/
def daysBefore (month : Nat) : Nat := (153 * month + 2) / 5

def ofDays (days : Int) : Date :=
  let count := days + epochDays
  let cycle := count / cycleDays
  let day := (count % cycleDays).toNat
  let year := (day - day / 1460 + day / 36524 - day / 146096) / 365
  let dayOfYear := day - (365 * year + year / 4 - year / 100)
  let month := (5 * dayOfYear + 2) / 153
  let calendarYear := (year : Int) + cycle * 400
  { year := if month < 10 then calendarYear else calendarYear + 1
    month := if month < 10 then month + 3 else month - 9
    day := dayOfYear - daysBefore month + 1 }

end Date

namespace Instant

def padded (width value : Nat) : String :=
  let digits := value.repr
  String.ofList (List.replicate (width - digits.length) '0') ++ digits

/-- A year has four digits. One that needs more, or lies before the year zero, has a sign. -/
def yearText (year : Int) : String :=
  if year < 0 then "-" ++ padded 4 year.natAbs
  else if year < 10000 then padded 4 year.natAbs
  else "+" ++ padded 4 year.natAbs

def dayLength : Nat := 24 * 60 * 60 * 1000

def text (instant : Instant) : String :=
  let date := Date.ofDays (instant.milliseconds / dayLength)
  let time := (instant.milliseconds % dayLength).toNat
  yearText date.year ++ "-" ++ padded 2 date.month ++ "-" ++ padded 2 date.day ++ "T" ++
    padded 2 (time / 3600000) ++ ":" ++ padded 2 (time / 60000 % 60) ++ ":" ++
    padded 2 (time / 1000 % 60) ++ "." ++ padded 3 (time % 1000) ++ "Z"

end Instant

end BomEvidence
