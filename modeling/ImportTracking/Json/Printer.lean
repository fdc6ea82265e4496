import ImportTracking.Json.Value
import ImportTracking.Json.Shortest

/-!
# Json — text

`compact` writes a value on one line, without blanks; `indented` gives each item and each member
a line of its own, two spaces further in than its container.  In a string only the quote, the
backslash and the control characters are escaped; backspace, tab, line feed, form feed and
carriage return by their letters, the other controls by four hexadecimal digits.
-/

namespace ImportTracking.Json

/-- A character as it stands inside a string. -/
def stringChar (c : Char) : List Char :=
  if c = '"' then ['\\', '"']
  else if c = '\\' then ['\\', '\\']
  else if c.toNat = 0x8 then ['\\', 'b']
  else if c.toNat = 0x9 then ['\\', 't']
  else if c.toNat = 0xa then ['\\', 'n']
  else if c.toNat = 0xc then ['\\', 'f']
  else if c.toNat = 0xd then ['\\', 'r']
  else if c.toNat < 0x10 then ['\\', 'u', '0', '0', '0'] ++ Nat.toDigits 16 c.toNat
  else if c.toNat < 0x20 then ['\\', 'u', '0', '0'] ++ Nat.toDigits 16 c.toNat
  else [c]

/-- A string with its quotes. -/
def stringText (s : String) : String :=
  String.ofList ('"' :: s.toList.flatMap stringChar ++ ['"'])

namespace Number

/-- The text of a number. -/
def text : Number → String
  | .whole n => toString n
  | .double x => Shortest.text x

end Number

mutual

/-- The compact text of a value. -/
def compact : Json → String
  | .null => "null"
  | .bool true => "true"
  | .bool false => "false"
  | .num n => n.text
  | .str s => stringText s
  | .arr items => "[" ++ compactItems items ++ "]"
  | .obj members => "\x7b" ++ compactMembers members ++ "\x7d"

/-- Items with commas between them. -/
def compactItems : List Json → String
  | [] => ""
  | [j] => compact j
  | j :: k :: rest => compact j ++ "," ++ compactItems (k :: rest)

/-- Members with commas between them. -/
def compactMembers : List (String × Json) → String
  | [] => ""
  | [(name, j)] => stringText name ++ ":" ++ compact j
  | (name, j) :: m :: rest =>
    stringText name ++ ":" ++ compact j ++ "," ++ compactMembers (m :: rest)

end

/-! ### On several lines -/

/-- The spaces in front of a line at a depth. -/
def margin (depth : Nat) : String := String.ofList (List.replicate (2 * depth) ' ')

mutual

/-- The text of a value that stands at a depth. -/
def indentedAt (depth : Nat) : Json → String
  | .arr [] => "[]"
  | .arr items => "[\n" ++ indentedItems (depth + 1) items ++ "\n" ++ margin depth ++ "]"
  | .obj [] => "\x7b\x7d"
  | .obj members =>
    "\x7b\n" ++ indentedMembers (depth + 1) members ++ "\n" ++ margin depth ++ "\x7d"
  | .null => "null"
  | .bool true => "true"
  | .bool false => "false"
  | .num n => n.text
  | .str s => stringText s

/-- Items on lines of their own. -/
def indentedItems (depth : Nat) : List Json → String
  | [] => ""
  | [j] => margin depth ++ indentedAt depth j
  | j :: k :: rest =>
    margin depth ++ indentedAt depth j ++ ",\n" ++ indentedItems depth (k :: rest)

/-- Members on lines of their own. -/
def indentedMembers (depth : Nat) : List (String × Json) → String
  | [] => ""
  | [(name, j)] => margin depth ++ stringText name ++ ": " ++ indentedAt depth j
  | (name, j) :: m :: rest =>
    margin depth ++ stringText name ++ ": " ++ indentedAt depth j ++ ",\n" ++
      indentedMembers depth (m :: rest)

end

/-- The text of a value on several lines. -/
def indented (j : Json) : String := indentedAt 0 j

end ImportTracking.Json
