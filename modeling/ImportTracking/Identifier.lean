/-!
# Identifier — names never used before

Job ids, correlation ids and lease tokens are drawn from a supply: the n-th one drawn has the
text that a `Naming` gives to n.  The standard naming writes the serial number, spread over 128
bits, in hexadecimal; a correlation id is written in the groups of a UUID.
-/

namespace ImportTracking.Identifier

/-- How many different numbers 128 bits hold. -/
def span : Nat := 0x100000000000000000000000000000000

/-- An odd factor with bits all over its length. -/
def factor : Nat := 0xda942042e4dd58b5da3e39cb94b95bdb

/-- A serial number, spread over 128 bits. -/
def spread (serial : Nat) : Nat := serial * factor % span

/-- The number in 32 hexadecimal digits. -/
def hexDigits (n : Nat) : List Char :=
  let ds := Nat.toDigits 16 n
  List.replicate (32 - ds.length) '0' ++ ds

/-- Hexadecimal digits in groups of 8, 4, 4, 4 and 12. -/
def grouped (ds : List Char) : List Char :=
  ds.take 8 ++ '-' :: (ds.drop 8).take 4 ++ '-' :: (ds.drop 12).take 4 ++
    '-' :: (ds.drop 16).take 4 ++ '-' :: ds.drop 20

/-- The texts of the identifiers drawn, by their serial numbers. -/
structure Naming where
  jid : Nat → String
  correlation : Nat → String
  token : Nat → String

/-- The naming in hexadecimal. -/
def Naming.standard : Naming where
  jid n := String.ofList (hexDigits (spread n))
  correlation n := String.ofList (grouped (hexDigits (spread n)))
  token n := String.ofList (hexDigits (spread n))

/-- A supply of identifiers: the naming, and how many of each kind have been drawn. -/
structure Supply where
  naming : Naming
  jids : Nat := 0
  correlations : Nat := 0
  tokens : Nat := 0

namespace Supply

/-- Draws a job id. -/
def drawJid (s : Supply) : String × Supply :=
  (s.naming.jid (s.jids + 1), { s with jids := s.jids + 1 })

/-- Draws a correlation id. -/
def drawCorrelation (s : Supply) : String × Supply :=
  (s.naming.correlation (s.correlations + 1), { s with correlations := s.correlations + 1 })

/-- Draws a lease token. -/
def drawToken (s : Supply) : String × Supply :=
  (s.naming.token (s.tokens + 1), { s with tokens := s.tokens + 1 })

end Supply

end ImportTracking.Identifier
