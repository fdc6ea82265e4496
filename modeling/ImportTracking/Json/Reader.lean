import ImportTracking.Json.Value
import ImportTracking.Word

/-!
# Json — reading text

A recursive-descent reader over characters.  Each function takes what is left of the text and
returns what it read with what is then left, or nothing when the text is not JSON.

Every call inside a container leaves at least its bracket behind, so the length of the text
bounds the depth of the calls; `parse?` starts with that bound.
-/

namespace ImportTracking.Json

/-- The text without the blanks JSON allows between tokens. -/
def skipBlanks (cs : List Char) : List Char :=
  cs.dropWhile fun c => c = ' ' || c = '\n' || c = '\t' || c.toNat = 0xd

/-- The value of a hexadecimal digit. -/
def hexDigit? (c : Char) : Option Nat :=
  if '0' ≤ c && c ≤ '9' then some (c.toNat - 0x30)
  else if 'a' ≤ c && c ≤ 'f' then some (c.toNat - 0x61 + 10)
  else if 'A' ≤ c && c ≤ 'F' then some (c.toNat - 0x41 + 10)
  else none

/-- Reads the four hexadecimal digits of an escape. -/
def readHexUnit : List Char → Option (Nat × List Char)
  | a :: b :: c :: d :: rest => do
    let a ← hexDigit? a
    let b ← hexDigit? b
    let c ← hexDigit? c
    let d ← hexDigit? d
    some (((a * 16 + b) * 16 + c) * 16 + d, rest)
  | _ => none

/-- Reads what follows `\u`: one unit, or two that make up a character beyond 16 bits. -/
def readEscapedUnits (cs : List Char) : Option (Char × List Char) := do
  let (u, rest) ← readHexUnit cs
  if u < 0xd800 || 0xe000 ≤ u then some (Char.ofNat u, rest)
  else if 0xdc00 ≤ u then none
  else
    match rest with
    | '\\' :: 'u' :: more =>
      let (v, rest) ← readHexUnit more
      if 0xdc00 ≤ v && v < 0xe000 then
        some (Char.ofNat (0x10000 + (u - 0xd800) * 0x400 + (v - 0xdc00)), rest)
      else none
    | _ => none

/-- Reads one character of a string, written plainly or escaped. -/
def readStringChar : List Char → Option (Char × List Char)
  | '\\' :: 'u' :: rest => readEscapedUnits rest
  | '\\' :: c :: rest =>
    match c with
    | '"' | '\\' | '/' => some (c, rest)
    | 'b' => some (Char.ofNat 0x8, rest)
    | 'f' => some (Char.ofNat 0xc, rest)
    | 'n' => some ('\n', rest)
    | 'r' => some (Char.ofNat 0xd, rest)
    | 't' => some ('\t', rest)
    | _ => none
  | c :: rest => if c.toNat < 0x20 || c = '\\' then none else some (c, rest)
  | [] => none

/-- Reads the rest of a string up to its closing quote. -/
def readString : (fuel : Nat) → List Char → Option (List Char × List Char)
  | 0, _ => none
  | _ + 1, '"' :: rest => some ([], rest)
  | fuel + 1, cs => do
    let (c, rest) ← readStringChar cs
    let (more, rest) ← readString fuel rest
    some (c :: more, rest)

/-! ### Numbers -/

/-- The value of decimal digits. -/
def digitsValue (ds : List Char) : Nat := ds.foldl (fun n d => n * 10 + (d.toNat - 0x30)) 0

/-- The digits at the front of a text, and what follows them. -/
def spanDigits (cs : List Char) : List Char × List Char := cs.span fun c => '0' ≤ c && c ≤ '9'

/-- Takes in digits while the number they make fits a word; returns that number and how many
digits were taken. -/
def leadingWord : (soFar taken : Nat) → List Char → Nat × Nat
  | n, k, [] => (n, k)
  | n, k, d :: ds =>
    let next := n * 10 + (d.toNat - 0x30)
    if next ≤ Word.max64 then leadingWord next (k + 1) ds else (n, k)

/-- Reads an exponent, if one follows. -/
def readExponent : List Char → Option (Option Int × List Char)
  | c :: rest =>
    if c = 'e' || c = 'E' then
      let (negative, rest) :=
        match rest with
        | '+' :: r => (false, r)
        | '-' :: r => (true, r)
        | r => (false, r)
      let (ds, rest) := spanDigits rest
      if ds.isEmpty then none
      else
        let n : Int := digitsValue ds
        some (some (if negative then -n else n), rest)
    else some (none, c :: rest)
  | [] => some (none, [])

/-- Reads the digits after a point, if one follows. -/
def readFraction : List Char → Option (Option (List Char) × List Char)
  | '.' :: rest =>
    let (ds, rest) := spanDigits rest
    if ds.isEmpty then none else some (some ds, rest)
  | cs => some (none, cs)

/-- The double of a number's parts.  Of the digits only the longest part in front that fits a
word counts; a digit left out before the point still moves the exponent. -/
def doubleOfParts (negative : Bool) (whole fraction : List Char) (exponent : Int) :
    Option Double :=
  let (w, takenWhole) := leadingWord 0 0 whole
  let left := whole.length - takenWhole
  let (digits, takenFraction) := leadingWord w 0 fraction
  Double.ofDecimal negative digits (exponent + (left : Int) - (takenFraction : Int))

/-- Reads a number whose sign has been read. -/
def readUnsigned (negative : Bool) (cs : List Char) : Option (Number × List Char) := do
  let (whole, rest) := spanDigits cs
  let leadingZero := match whole with
    | '0' :: _ :: _ => true
    | _ => false
  if whole.isEmpty || leadingZero then none
  else
    let (fraction, rest) ← readFraction rest
    let (exponent, rest) ← readExponent rest
    let n := digitsValue whole
    let isWhole := fraction.isNone && exponent.isNone &&
      (if negative then 0 < n && n ≤ Word.maxSigned64 + 1 else n ≤ Word.max64)
    if isWhole then some (.whole (if negative then -(n : Int) else n), rest)
    else
      let x ← doubleOfParts negative whole (fraction.getD []) (exponent.getD 0)
      some (.double x, rest)

/-- Reads a number. -/
def readNumber : List Char → Option (Number × List Char)
  | '-' :: rest => readUnsigned true rest
  | cs => readUnsigned false cs

/-! ### Values -/

mutual

/-- Reads a value that starts at the first character. -/
def readValue : (fuel : Nat) → List Char → Option (Json × List Char)
  | 0, _ => none
  | fuel + 1, cs =>
    match cs with
    | 'n' :: 'u' :: 'l' :: 'l' :: rest => some (.null, rest)
    | 't' :: 'r' :: 'u' :: 'e' :: rest => some (.bool true, rest)
    | 'f' :: 'a' :: 'l' :: 's' :: 'e' :: rest => some (.bool false, rest)
    | '"' :: rest => do
      let (s, rest) ← readString (rest.length + 1) rest
      some (.str (String.ofList s), rest)
    | '[' :: rest =>
      match skipBlanks rest with
      | ']' :: rest => some (.arr [], rest)
      | rest => do
        let (items, rest) ← readItems fuel rest
        some (.arr items, rest)
    | '\x7b' :: rest =>
      match skipBlanks rest with
      | '\x7d' :: rest => some (.obj [], rest)
      | rest => do
        let (members, rest) ← readMembers fuel rest
        some (ofMembers members, rest)
    | cs => do
      let (n, rest) ← readNumber cs
      some (.num n, rest)

/-- Reads the items of an array, up to and with its closing bracket. -/
def readItems : (fuel : Nat) → List Char → Option (List Json × List Char)
  | 0, _ => none
  | fuel + 1, cs => do
    let (j, rest) ← readValue fuel cs
    match skipBlanks rest with
    | ']' :: rest => some ([j], rest)
    | ',' :: rest =>
      let (more, rest) ← readItems fuel (skipBlanks rest)
      some (j :: more, rest)
    | _ => none

/-- Reads the members of an object, up to and with its closing brace. -/
def readMembers : (fuel : Nat) → List Char → Option (List (String × Json) × List Char)
  | 0, _ => none
  | fuel + 1, cs =>
    match cs with
    | '"' :: rest => do
      let (name, rest) ← readString (rest.length + 1) rest
      match skipBlanks rest with
      | ':' :: rest =>
        let (j, rest) ← readValue fuel (skipBlanks rest)
        match skipBlanks rest with
        | '\x7d' :: rest => some ([(String.ofList name, j)], rest)
        | ',' :: rest =>
          let (more, rest) ← readMembers fuel (skipBlanks rest)
          some ((String.ofList name, j) :: more, rest)
        | _ => none
      | _ => none
    | _ => none

end

/-- The value a text stands for, blanks around it allowed. -/
def parse? (text : String) : Option Json :=
  let cs := skipBlanks text.toList
  match readValue (cs.length + 1) cs with
  | some (j, rest) => if (skipBlanks rest).isEmpty then some j else none
  | none => none

end ImportTracking.Json
