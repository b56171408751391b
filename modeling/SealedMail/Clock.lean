/-! # Clock and calendar

The engine keeps one clock reading in seconds since the Unix epoch; zero means the reading
is unset and the system time stands in. A reading is shown as a timestamp `YYYY-MM-DDThh:mm:ss+00:00` in UTC
for years -262143 to 262142 of the proleptic Gregorian calendar: a year from 0 to 9999 has
four digits, any other year an explicit sign and at least four digits.
-/

namespace SealedMail

/-- The engine clock: a reading in seconds, zero when unset. -/
structure Clock where
  /-- The stored reading. -/
  time : Int := 0
deriving Repr, DecidableEq, Inhabited

namespace Clock

/-- A clock reading `t`. -/
def startingAt (t : Int) : Clock := ⟨t⟩

/-- The clock after an update; any value is stored as it is. -/
def update (_ : Clock) (t : Int) : Clock := ⟨t⟩

/-- The reading, or the system time `system` when the reading is unset. -/
def nowOr (c : Clock) (system : Int) : Int := if c.time = 0 then system else c.time

end Clock

namespace Calendar

/-- The civil date (year, month, day) of a day count from 1970-01-01. The count is split into
400-year eras of 146097 days; the division rounds down, so a negative count falls in the era
that holds it. -/
def civilOfDays (z : Int) : Int × Nat × Nat :=
  let z := z + 719468
  let era := z / 146097
  let doe := (z - era * 146097).toNat
  let yoe := (doe - doe / 1460 + doe / 36524 - doe / 146096) / 365
  let y : Int := yoe + era * 400
  let doy := doe - (365 * yoe + yoe / 4 - yoe / 100)
  let mp := (5 * doy + 2) / 153
  let d := doy - (153 * mp + 2) / 5 + 1
  let m := if mp < 10 then mp + 3 else mp - 9
  (if m ≤ 2 then y + 1 else y, m, d)

/-- The earliest second a timestamp can show: -262143-01-01T00:00:00. -/
def minSecond : Int := -8334601228800

/-- The latest second a timestamp can show: 262142-12-31T23:59:59. -/
def maxSecond : Int := 8210266876799

/-- The creation time a new signature or key records for a clock reading: the reading as a
date, with a negative reading counted as the epoch and one past the latest date standing for the
epoch too, written in the four bytes of an OpenPGP time, which keep its low 32 bits. -/
def recordedTime (t : Int) : Nat := if t > maxSecond then 0 else t.toNat % Nat.pow 2 32

/-- A number with at least `width` digits, zero padded. -/
def padded (n : Nat) (width : Nat) : String :=
  let s := toString n
  String.ofList (List.replicate (width - s.length) '0') ++ s

/-- The year as a timestamp writes it. -/
def yearText (y : Int) : String :=
  if 0 ≤ y && y ≤ 9999 then padded y.toNat 4
  else (if y < 0 then "-" else "+") ++ padded y.natAbs 4

/-- The timestamp of a second, if it is in the calendar's range. -/
def rfc3339? (t : Int) : Option String :=
  if t < minSecond || t > maxSecond then none
  else
    let days := if t ≥ 0 then t / 86400 else -((-t + 86399) / 86400)
    let secs := (t - days * 86400).toNat
    let (y, m, d) := civilOfDays days
    some (yearText y ++ "-" ++ padded m 2 ++ "-" ++ padded d 2 ++ "T" ++ padded (secs / 3600) 2 ++
      ":" ++ padded (secs / 60 % 60) 2 ++ ":" ++ padded (secs % 60) 2 ++ "+00:00")

end Calendar

/-- The clock reading as a timestamp; none when unset or out of range. -/
def Clock.dateTime? (c : Clock) : Option String :=
  if c.time = 0 then none else Calendar.rfc3339? c.time

end SealedMail
