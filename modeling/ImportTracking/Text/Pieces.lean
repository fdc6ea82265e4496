import ImportTracking.Text.Blank

/-!
# Text — lists in one text

A list of items written in one text with commas between them; blanks around an item do not
count, and an item of blanks alone is left out.  A number in such a setting is decimal digits
with at most one plus sign in front.

Main statements: `pieces_append_sep` (cutting a text at a separator) and
`mem_commaList_ne_nil` (no item is empty).
-/

namespace ImportTracking.Text

/-- The parts of a text between separators. -/
def pieces (sep : Char) : List Char → List (List Char)
  | [] => [[]]
  | c :: cs =>
    if c = sep then [] :: pieces sep cs
    else
      match pieces sep cs with
      | p :: ps => (c :: p) :: ps
      | [] => [[c]]

/-- The items of a list with commas between them. -/
def commaList (cs : List Char) : List (List Char) :=
  ((pieces ',' cs).map trim).filter fun p => !p.isEmpty

/-- Whether a character is a decimal digit. -/
def isDecimal (c : Char) : Bool := '0' ≤ c && c ≤ '9'

/-- The number that decimal digits denote. -/
def decimalValue (ds : List Char) : Nat := ds.foldl (fun n d => n * 10 + (d.toNat - 0x30)) 0

/-- The number a text denotes, if it is at most `limit`. -/
def natural? (limit : Nat) (cs : List Char) : Option Nat :=
  let ds :=
    match cs with
    | '+' :: ds => ds
    | ds => ds
  if !ds.isEmpty && ds.all isDecimal && decimalValue ds ≤ limit then some (decimalValue ds)
  else none

theorem pieces_ne_nil (sep : Char) (cs : List Char) : pieces sep cs ≠ [] := by
  induction cs with
  | nil => simp [pieces]
  | cons c cs ih =>
    by_cases h : c = sep
    · simp [pieces, h]
    · simp only [pieces, h, if_false]
      cases hp : pieces sep cs with
      | nil => exact absurd hp ih
      | cons p ps => simp

/-- A separator cuts a text in two, which are cut up on their own. -/
theorem pieces_append_sep (sep : Char) (a b : List Char) :
    pieces sep (a ++ sep :: b) = pieces sep a ++ pieces sep b := by
  induction a with
  | nil => simp [pieces]
  | cons c cs ih =>
    by_cases h : c = sep
    · simp [pieces, h, ih]
    · simp only [List.cons_append, pieces, h, if_false, ih]
      cases hp : pieces sep cs with
      | nil => exact absurd hp (pieces_ne_nil sep cs)
      | cons p ps => simp

theorem mem_commaList_ne_nil {p cs : List Char} (h : p ∈ commaList cs) : p ≠ [] := by
  simp only [commaList, List.mem_filter] at h
  intro hp
  simp [hp] at h

end ImportTracking.Text
