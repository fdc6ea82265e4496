/-!
# Word — the bounds of whole numbers of fixed width

The largest numbers that 32 and 64 bits hold, without and with a sign.  A signed number goes
down to one less than the negative of the largest.
-/

namespace ImportTracking.Word

/-- The largest number of 32 bits. -/
def max32 : Nat := 4294967295

/-- The largest number of 64 bits. -/
def max64 : Nat := 18446744073709551615

/-- The largest number of 32 bits with a sign. -/
def maxSigned32 : Nat := 2147483647

/-- The largest number of 64 bits with a sign. -/
def maxSigned64 : Nat := 9223372036854775807

/-- Whether 32 bits with a sign hold a number. -/
def isSigned32 (n : Int) : Bool := -(maxSigned32 : Int) - 1 ≤ n && n ≤ maxSigned32

/-- Whether 64 bits with a sign hold a number. -/
def isSigned64 (n : Int) : Bool := -(maxSigned64 : Int) - 1 ≤ n && n ≤ maxSigned64

end ImportTracking.Word
