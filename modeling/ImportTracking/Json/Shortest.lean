import ImportTracking.Json.Double

/-!
# Json — the shortest decimal of a double

The text of a double has the fewest digits that read back as the same double, and of those the
digits nearest to it; on a tie the last digit is even.  `Shortest.decimal` finds them: for one
digit, two digits, and so on, it tries the two neighbours of the number on the decimal grid of
that many digits.

Powers of ten below `10¹⁶` and from `10⁻⁵` up are written with a point, the others with an
exponent; a whole number keeps a zero behind the point.
-/

namespace ImportTracking.Json.Shortest

/-- The decimal `digits · 10^exponent`. -/
structure Decimal where
  digits : Nat
  exponent : Int
deriving DecidableEq, Repr

/-- `n · 10^k` as a fraction over `10^(-k)` when `k` is negative. -/
def scaled (n : Nat) (k : Int) : Nat × Nat :=
  if 0 ≤ k then (n * Nat.pow 10 k.toNat, 1) else (n, Nat.pow 10 k.natAbs)

/-- The exponent of the first digit of a magnitude: `10^e ≤ magnitude · 2⁻¹⁰⁷⁴ < 10^(e+1)`. -/
def firstDigitExponent (magnitude : Nat) : Int :=
  ((Nat.toDigits 10 (magnitude * Nat.pow 10 400 / Double.one)).length : Int) - 401

/-- The numbers that round to a magnitude, in quarters of a unit, and whether the ends do. -/
structure RoundingInterval where
  low : Nat
  high : Nat
  endsIncluded : Bool

/-- The interval of a magnitude: half a step each way, and half of that below a power of two. -/
def roundingInterval (magnitude : Nat) : RoundingInterval :=
  let step := Double.spacing magnitude
  let below := if magnitude = step * Nat.pow 2 52 && 1 < step then step else 2 * step
  { low := 4 * magnitude - below
    high := 4 * magnitude + 2 * step
    endsIncluded := magnitude / step % 2 == 0 }

/-- Whether `d · 10^grid` lies in the interval. -/
def RoundingInterval.holds (i : RoundingInterval) (d : Nat) (grid : Int) : Bool :=
  let (n, den) := scaled d grid
  let value := n * 4 * Double.one
  if i.endsIncluded then i.low * den ≤ value && value ≤ i.high * den
  else i.low * den < value && value < i.high * den

/-- The better of the two neighbours `d` and `d + 1` of a magnitude on a grid, if one of them
reads back. -/
def candidate (magnitude : Nat) (i : RoundingInterval) (grid : Int) : Option Nat :=
  let (up, down) := scaled 1 grid
  let d := magnitude * down / (Double.one * up)
  let rest := 2 * (magnitude * down % (Double.one * up))
  let nearer :=
    if rest < Double.one * up then d
    else if Double.one * up < rest then d + 1
    else if d % 2 = 0 then d else d + 1
  let other := if nearer = d then d + 1 else d
  if i.holds nearer grid then some nearer
  else if i.holds other grid then some other
  else none

/-- Tries the grids with `count` digits and more, at most `fuel` of them. -/
def search (magnitude : Nat) (i : RoundingInterval) (e : Int) :
    (fuel : Nat) → (count : Nat) → Decimal
  | 0, _ => ⟨magnitude, 0⟩
  | fuel + 1, count =>
    let grid := e - (count : Int) + 1
    match candidate magnitude i grid with
    | some d => ⟨d, grid⟩
    | none => search magnitude i e fuel (count + 1)

/-- The shortest decimal of a positive magnitude. -/
def decimal (magnitude : Nat) : Decimal :=
  search magnitude (roundingInterval magnitude) (firstDigitExponent magnitude) 17 1

/-- Digits without the zeros at their end, and how many those were. -/
def stripZeros : List Char → List Char × Nat
  | [] => ([], 0)
  | c :: cs =>
    match stripZeros cs with
    | ([], n) => if c = '0' then ([], n + 1) else ([c], n)
    | (ds, n) => (c :: ds, n)

/-- The text of `digits · 10^exponent`, where `digits` does not end in a zero. -/
def layout (digits : List Char) (exponent : Int) : List Char :=
  let count : Int := digits.length
  let point := count + exponent
  if 0 ≤ exponent && point ≤ 16 then
    digits ++ List.replicate exponent.toNat '0' ++ ['.', '0']
  else if 0 < point && point ≤ 16 then
    digits.take point.toNat ++ '.' :: digits.drop point.toNat
  else if -5 < point && point ≤ 0 then
    ['0', '.'] ++ List.replicate point.natAbs '0' ++ digits
  else
    let power := point - 1
    let sign := if power < 0 then '-' else '+'
    let mantissa :=
      match digits with
      | [] => []
      | [d] => [d]
      | d :: ds => d :: '.' :: ds
    mantissa ++ 'e' :: sign :: Nat.toDigits 10 power.natAbs

/-- The text of a double. -/
def text (x : Double) : String :=
  let sign := if x.negative then ['-'] else []
  let body :=
    if x.magnitude = 0 then ['0', '.', '0']
    else
      let d := decimal x.magnitude
      let (digits, zeros) := stripZeros (Nat.toDigits 10 d.digits)
      layout digits (d.exponent + (zeros : Int))
  String.ofList (sign ++ body)

end ImportTracking.Json.Shortest
