import ImportTracking.Timestamp.Basic
import ImportTracking.Text.Blank
import ImportTracking.Word

/-!
# Timestamp — reading

Reads a date and time with an offset from UTC, in the form of RFC 3339.  Each reader returns
what it read from the front of a text, with what is left of it.  More is accepted than
that form: blanks before each part, a blank or a small `t` between date and time, a signed year
of any length, `UTC` for the offset, and colons or blanks or neither inside it.

The parts are checked as they are read, so the first part that does not fit decides the error;
whether there is such a day is checked when all of the text has been read.
-/

namespace ImportTracking.Timestamp

/-- Why a text is no timestamp. -/
inductive ReadError where
  | outOfRange
  | impossible
  | invalid
  | tooShort
  | tooLong
deriving DecidableEq, Repr

namespace ReadError

/-- The wording of an error. -/
def message : ReadError → String
  | .outOfRange => "input is out of range"
  | .impossible => "no possible date and time matching input"
  | .invalid => "input contains invalid characters"
  | .tooShort => "premature end of input"
  | .tooLong => "trailing input"

end ReadError

def isDigit (c : Char) : Bool := '0' ≤ c && c ≤ '9'

def digitValue (c : Char) : Nat := c.toNat - 0x30

/-- Takes in further digits, at most `room` of them. -/
def scanDigits : (room : Nat) → Nat → List Char → Except ReadError (Nat × List Char)
  | 0, n, cs => .ok (n, cs)
  | _ + 1, n, [] => .ok (n, [])
  | room + 1, n, c :: cs =>
    if isDigit c then
      let next := n * 10 + digitValue c
      if next ≤ Word.maxSigned64 then scanDigits room next cs else .error .outOfRange
    else .ok (n, c :: cs)

/-- Reads a number of at least one and at most `width` digits. -/
def scanNumber (width : Nat) : List Char → Except ReadError (Nat × List Char)
  | [] => .error .tooShort
  | c :: cs => if isDigit c then scanDigits width 0 (c :: cs) else .error .invalid

/-- Reads a number between bounds, after blanks. -/
def scanPart (width low high : Nat) (cs : List Char) : Except ReadError (Nat × List Char) := do
  let (n, rest) ← scanNumber width (Text.trimStart cs)
  if low ≤ n ∧ n ≤ high then .ok (n, rest) else .error .outOfRange

/-- Reads a year: four digits at most, or a sign and any number of them. -/
def scanYear (cs : List Char) : Except ReadError (Int × List Char) := do
  let (y, rest) ←
    match Text.trimStart cs with
    | '-' :: more => (scanNumber more.length more).map fun r => (-(r.1 : Int), r.2)
    | '+' :: more => (scanNumber more.length more).map fun r => ((r.1 : Int), r.2)
    | more => (scanNumber 4 more).map fun r => ((r.1 : Int), r.2)
  if Word.isSigned32 y then .ok (y, rest) else .error .outOfRange

/-- Reads one given character, after blanks. -/
def scanMark (mark : Char) (cs : List Char) : Except ReadError (List Char) :=
  match Text.trimStart cs with
  | [] => .error .tooShort
  | c :: rest => if c = mark then .ok rest else .error .invalid

/-- Reads the decimals of a second: nine digits count, more are passed over. -/
def scanFraction : List Char → Except ReadError (Nat × List Char)
  | '.' :: cs => do
    let (n, rest) ← scanNumber 9 cs
    let read := cs.length - rest.length
    .ok (n * Nat.pow 10 (9 - read), rest.dropWhile isDigit)
  | cs => .ok (0, cs)

/-- The length of a text in bytes. -/
def byteLength (cs : List Char) : Nat := (cs.map Char.utf8Size).foldl (· + ·) 0

/-- Reads two digits. -/
def scanTwoDigits (cs : List Char) : Except ReadError ((Nat × Nat) × List Char) :=
  match cs with
  | a :: b :: rest =>
    if isDigit a && isDigit b then .ok ((digitValue a, digitValue b), rest) else .error .invalid
  | cs => if byteLength cs < 2 then .error .tooShort else .error .invalid

/-- Reads an offset in hours and minutes after its sign; in seconds. -/
def scanOffsetAmount (cs : List Char) : Except ReadError (Nat × List Char) := do
  let ((h₁, h₂), rest) ← scanTwoDigits cs
  let rest := rest.dropWhile fun c => c = ':' || Text.isBlank c
  let ((m₁, m₂), rest) ← scanTwoDigits rest
  if m₁ ≤ 5 then .ok ((h₁ * 10 + h₂) * 3600 + (m₁ * 10 + m₂) * 60, rest)
  else .error .outOfRange

/-- The minus sign of mathematics, which an offset may be written with. -/
def minusSign : Char := Char.ofNat 0x2212

/-- Whether a character is a letter of `UTC`, large or small. -/
def isUtc (u t c : Char) : Bool :=
  (u = 'U' || u = 'u') && (t = 'T' || t = 't') && (c = 'C' || c = 'c')

/-- Reads an offset with its sign, or `Z`; in seconds east of UTC. -/
def scanSignedOffset : List Char → Except ReadError (Int × List Char)
  | [] => .error .tooShort
  | c :: rest =>
    if c = 'Z' || c = 'z' then .ok (0, rest)
    else if c = '+' then (scanOffsetAmount rest).map fun r => ((r.1 : Int), r.2)
    else if c = '-' || c = minusSign then
      (scanOffsetAmount rest).map fun r => (-(r.1 : Int), r.2)
    else .error .invalid

/-- Reads an offset. -/
def scanOffset (cs : List Char) : Except ReadError (Int × List Char) :=
  match cs with
  | u :: t :: c :: rest => if isUtc u t c then .ok (0, rest) else scanSignedOffset cs
  | cs => scanSignedOffset cs

/-- The instant of a local date and time at an offset. -/
def ofLocal (date : Date) (secondOfDay nanos : Nat) (offset : Int) :
    Except ReadError Timestamp :=
  let seconds := date.dayNumber * 86400 + (secondOfDay : Int) - offset
  let year := (Date.ofDayNumber (seconds / 86400)).year
  if Date.firstYear ≤ year ∧ year ≤ Date.lastYear then .ok ⟨seconds, nanos⟩
  else .error .impossible

/-- Reads a timestamp. -/
def ofChars (cs : List Char) : Except ReadError Timestamp := do
  let (year, cs) ← scanYear cs
  let cs ← scanMark '-' cs
  let (month, cs) ← scanPart 2 1 12 cs
  let cs ← scanMark '-' cs
  let (day, cs) ← scanPart 2 1 31 cs
  let cs ←
    match cs with
    | [] => Except.error ReadError.tooShort
    | c :: rest =>
      if c = 'T' || c = 't' || c = ' ' then .ok rest else .error .invalid
  let (hour, cs) ← scanPart 2 0 23 cs
  let cs ← scanMark ':' cs
  let (minute, cs) ← scanPart 2 0 59 cs
  let cs ← scanMark ':' cs
  let (second, cs) ← scanPart 2 0 60 cs
  let (nano, cs) ← scanFraction cs
  let (offset, cs) ← scanOffset (Text.trimStart cs)
  if !(Text.trimStart cs).isEmpty then .error .tooLong
  else
    match Date.ofParts? year month day with
    | none => .error .outOfRange
    | some date =>
      if 86400 ≤ offset.natAbs then .error .outOfRange
      else if second = 60 then
        ofLocal date (hour * 3600 + minute * 60 + 59) (nano + nanosPerSec) offset
      else ofLocal date (hour * 3600 + minute * 60 + second) nano offset

/-- Reads a timestamp. -/
def parse (text : String) : Except ReadError Timestamp := ofChars text.toList

end ImportTracking.Timestamp
