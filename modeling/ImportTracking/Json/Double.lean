/-!
# Json — double-precision numbers

A finite number of the binary format with 53 significant bits.  Every such number is a whole
multiple of the smallest one, 2⁻¹⁰⁷⁴, so a `Double` is a sign and that multiple, its
`magnitude`; all arithmetic is exact arithmetic on naturals followed by one rounding.

`roundRatio` rounds a fraction to the nearest double, a tie to the even neighbour.
`ofDecimal` reads a decimal `digits · 10^exponent`: the digits are rounded, then multiplied or
divided by a rounded power of ten, then rounded again.
-/

namespace ImportTracking.Json

/-- A finite double: `magnitude · 2⁻¹⁰⁷⁴`, with a sign that zero has too. -/
structure Double where
  negative : Bool
  magnitude : Nat
deriving DecidableEq, Repr, Inhabited

namespace Double

/-- The unit of magnitudes is `2⁻¹⁰⁷⁴`. -/
def unitExponent : Nat := 1074

/-- The magnitude of one. -/
def one : Nat := Nat.pow 2 unitExponent

/-- Magnitudes from this one up are beyond the format. -/
def limit : Nat := one * Nat.pow 2 1024

/-- The distance to the next larger magnitude of the format. -/
def spacing (magnitude : Nat) : Nat := Nat.pow 2 (magnitude.log2 + 1 - 53)

/-- The quotient `n / d` rounded to a whole number, a tie to the even one. -/
def roundHalfEven (n d : Nat) : Nat :=
  let q := n / d
  let r := 2 * (n % d)
  if r < d then q else if d < r then q + 1 else if q % 2 = 0 then q else q + 1

/-- The magnitude nearest to the fraction `n / d`, or nothing when that is beyond the format. -/
def roundRatio (n d : Nat) : Option Nat :=
  let units := n * one
  let step := spacing (units / d)
  let rounded := roundHalfEven units (d * step) * step
  if rounded < limit then some rounded else none

/-- The largest power of ten that a double can come near to. -/
def maxPower : Nat := 308

/-- The magnitude of a power of ten, rounded. -/
def powerOfTen (k : Nat) : Option Nat := roundRatio (Nat.pow 10 k) 1

/-- `magnitude` divided by powers of ten no larger than `10³⁰⁸`, one after another. -/
def scaleDown (magnitude : Nat) : (fuel : Nat) → (k : Nat) → Option Nat
  | 0, _ => some magnitude
  | fuel + 1, k =>
    if k ≤ maxPower then (powerOfTen k).bind fun p => roundRatio magnitude p
    else if magnitude = 0 then some 0
    else
      (powerOfTen maxPower).bind fun p =>
        (roundRatio magnitude p).bind fun m => scaleDown m fuel (k - maxPower)

/-- The magnitude of `digits · 10^exponent`, or nothing when it is beyond the format. -/
def magnitudeOfDecimal (digits : Nat) (exponent : Int) : Option Nat :=
  (roundRatio digits 1).bind fun m =>
    if 0 ≤ exponent then
      if exponent.toNat ≤ maxPower then
        (powerOfTen exponent.toNat).bind fun p => roundRatio (m * p) (one * one)
      else if m = 0 then some 0 else none
    else scaleDown m (exponent.natAbs / maxPower + 1) exponent.natAbs

/-- Reads a decimal. -/
def ofDecimal (negative : Bool) (digits : Nat) (exponent : Int) : Option Double :=
  (magnitudeOfDecimal digits exponent).map fun m => ⟨negative, m⟩

end Double

end ImportTracking.Json
