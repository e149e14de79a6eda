import Ingest.Text.Numeral
import Ingest.Time.Calendar
import Ingest.Time.Instant

/-!
# Time/Stamp — the written forms of an instant

A stamp is a date, a separator, a time of day with a fraction of 0, 3, 6 or 9 digits (the fewest
that are exact), and a mark for UTC. Years outside 0 to 9999 carry a sign and at least four digits;
a leap second is written as second 60.
-/

namespace Ingest.Instant

open Text Time

/-- A year, with a sign outside 0 to 9999. -/
def yearText (year : Int) : String :=
  if 0 ≤ year ∧ year ≤ 9999 then padded 4 year.natAbs
  else (if year < 0 then "-" else "+") ++ padded 4 year.natAbs

/-- The fraction of a second, with its point. -/
def fractionText (nano : Nat) : String :=
  if nano = 0 then ""
  else if nano % 1000000 = 0 then "." ++ padded 3 (nano / 1000000)
  else if nano % 1000 = 0 then "." ++ padded 6 (nano / 1000)
  else "." ++ padded 9 nano

/-- The date of an instant. -/
def date (t : Instant) : Date := Date.ofDayNumber (t.second / 86400)

/-- A stamp with the given separator and mark. -/
def stamp (separator mark : String) (t : Instant) : String :=
  let d := t.date
  let secondOfDay := (t.second % 86400).toNat
  let second := secondOfDay % 60 + t.nano / 1000000000
  yearText d.year ++ "-" ++ padded 2 d.month ++ "-" ++ padded 2 d.day ++ separator ++
    padded 2 (secondOfDay / 3600) ++ ":" ++ padded 2 (secondOfDay / 60 % 60) ++ ":" ++
    padded 2 second ++ fractionText (t.nano % 1000000000) ++ mark

/-- The form inside data: `1970-01-01T00:00:05Z`. -/
def text (t : Instant) : String := t.stamp "T" "Z"

/-- The form inside messages: `1970-01-01 00:00:05 UTC`. -/
def display (t : Instant) : String := t.stamp " " " UTC"

/-- The form with a numeric offset: `1970-01-01T00:00:05+00:00`. -/
def offsetText (t : Instant) : String := t.stamp "T" "+00:00"

end Ingest.Instant
