import ImportTracking.Timestamp.Calendar
import ImportTracking.Text.Padding

/-!
# Timestamp — instants of civil time

A `Timestamp` is an instant in UTC: whole seconds since 1970-01-01T00:00:00 and nanoseconds.  A
leap second is the second before it with a thousand million nanoseconds more, so nanoseconds run
up to twice that and timestamps are ordered by their parts.

`rfc3339` writes an instant with a `Z` and the fewest of 0, 3, 6 or 9 decimals that are exact;
`columnText` writes it for a table, whose rows are ordered by this text; `display` writes it to
the second, for reports.
-/

namespace ImportTracking

/-- An instant in UTC. -/
structure Timestamp where
  /-- Seconds since 1970-01-01T00:00:00. -/
  seconds : Int
  /-- Nanoseconds, from a thousand million on within a leap second. -/
  nanos : Nat
deriving DecidableEq, Repr, Inhabited

namespace Timestamp

/-- Nanoseconds in a second. -/
def nanosPerSec : Nat := 1000000000

/-- 1970-01-01T00:00:00. -/
def epoch : Timestamp := ⟨0, 0⟩

/-- The instant that many seconds after 1970-01-01T00:00:00. -/
def ofSeconds (s : Int) : Timestamp := ⟨s, 0⟩

/-- Whether the first instant is not after the second. -/
def notAfter (a b : Timestamp) : Bool :=
  a.seconds < b.seconds || (a.seconds == b.seconds && a.nanos ≤ b.nanos)

/-- Nanoseconds since 1970-01-01T00:00:00. -/
def sinceEpoch (t : Timestamp) : Int := t.seconds * nanosPerSec + t.nanos

/-- The instant that many nanoseconds after 1970-01-01T00:00:00. -/
def ofSinceEpoch (n : Int) : Timestamp := ⟨n / nanosPerSec, (n % nanosPerSec).toNat⟩

/-- Nanoseconds from the second instant to the first. -/
def nanosFrom (later earlier : Timestamp) : Int := later.sinceEpoch - earlier.sinceEpoch

theorem sinceEpoch_ofSinceEpoch (n : Int) : (ofSinceEpoch n).sinceEpoch = n := by
  simp only [sinceEpoch, ofSinceEpoch, nanosPerSec]; omega

/-- An instant taken apart. -/
structure Parts where
  date : Date
  hour : Nat
  minute : Nat
  second : Nat
  /-- Nanoseconds within the second. -/
  nano : Nat

/-- The parts of an instant; within a leap second the seconds read 60. -/
def parts (t : Timestamp) : Parts :=
  let day := t.seconds / 86400
  let s := (t.seconds % 86400).toNat
  { date := Date.ofDayNumber day
    hour := s / 3600
    minute := s / 60 % 60
    second := if t.nanos < nanosPerSec then s % 60 else s % 60 + 1
    nano := t.nanos % nanosPerSec }

/-- A year: four digits, or a sign and at least four digits outside of 0 to 9999. -/
def yearText (year : Int) : String :=
  if 0 ≤ year ∧ year ≤ 9999 then Text.zeroPadded 4 year.toNat
  else (if year < 0 then "-" else "+") ++ Text.zeroPadded 4 year.natAbs

/-- Two digits. -/
def two (n : Nat) : String := Text.zeroPadded 2 n

def dateText (d : Date) : String := yearText d.year ++ "-" ++ two d.month ++ "-" ++ two d.day

def timeText (p : Parts) : String := two p.hour ++ ":" ++ two p.minute ++ ":" ++ two p.second

/-- The decimals of a second: none, three, six or nine. -/
def fractionText (nano : Nat) : String :=
  if nano = 0 then ""
  else if nano % 1000000 = 0 then "." ++ Text.zeroPadded 3 (nano / 1000000)
  else if nano % 1000 = 0 then "." ++ Text.zeroPadded 6 (nano / 1000)
  else "." ++ Text.zeroPadded 9 nano

/-- The date and the time of an instant, without the offset. -/
def civilText (t : Timestamp) : String :=
  let p := t.parts
  dateText p.date ++ "T" ++ timeText p ++ fractionText p.nano

/-- An instant as RFC 3339 writes it. -/
def rfc3339 (t : Timestamp) : String := t.civilText ++ "Z"

/-- An instant as a column of a table holds it. -/
def columnText (t : Timestamp) : String := t.civilText ++ "+00:00"

/-- Whether the year of an instant is one of 0 to 9999, which are written without a sign: it is
not before the first second of the year 0, and before the first of the year 10000. -/
def isUnsignedYear (t : Timestamp) : Bool := -62167219200 ≤ t.seconds && t.seconds < 253402300800

/-- Whether the first instant's column does not come after the second's.  Columns are compared
as text.  Between years without a sign that is the order of time, fractions included, because
`+` comes before `.` and both come before the digits.  A year with a sign comes before all of
these, whether it is far in the future or before the year 0, and two of them are in the order of
their characters. -/
def columnNotAfter (a b : Timestamp) : Bool :=
  if a.isUnsignedYear && b.isUnsignedYear then a.notAfter b else a.columnText ≤ b.columnText

/-- An instant for people to read. -/
def display (t : Timestamp) : String :=
  let p := t.parts
  dateText p.date ++ " " ++ timeText p

end Timestamp

end ImportTracking
