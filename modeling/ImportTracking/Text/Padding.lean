/-!
# Text — padding to a width

A text is brought to a width, counted in characters, with fill on one side.  A text that is
already as wide is kept whole: nothing is ever cut off.
-/

namespace ImportTracking.Text

/-- The text, followed by spaces up to the width. -/
def padEnd (width : Nat) (s : String) : String :=
  s ++ String.ofList (List.replicate (width - s.length) ' ')

/-- The number in decimal, with zeros in front up to the width. -/
def zeroPadded (width : Nat) (n : Nat) : String :=
  let digits := String.ofList (Nat.toDigits 10 n)
  String.ofList (List.replicate (width - digits.length) '0') ++ digits

end ImportTracking.Text
