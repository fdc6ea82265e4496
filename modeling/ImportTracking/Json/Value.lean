import ImportTracking.Json.Double

/-!
# Json — values

A JSON value.  Numbers without fraction and exponent that a 64-bit word can hold are whole
numbers, all others are doubles.  The members of an object stand in ascending order of their
names, each name once; `insert` and `ofMembers` keep them so.
-/

namespace ImportTracking

/-- A JSON number. -/
inductive Json.Number where
  | whole (n : Int)
  | double (x : Json.Double)
deriving DecidableEq, Repr, Inhabited

/-- A JSON value. -/
inductive Json where
  | null
  | bool (b : Bool)
  | num (n : Json.Number)
  | str (s : String)
  | arr (items : List Json)
  | obj (members : List (String × Json))
deriving Inhabited

namespace Json

/-- A whole number as a value. -/
def int (n : Int) : Json := .num (.whole n)

/-- A natural number as a value. -/
def nat (n : Nat) : Json := .num (.whole n)

/-- The text, or null. -/
def ofText? : Option String → Json
  | some s => .str s
  | none => .null

/-- Puts a member at its place in ascending order of names, in place of one of that name. -/
def insert (name : String) (value : Json) : List (String × Json) → List (String × Json)
  | [] => [(name, value)]
  | m :: ms =>
    if m.1 = name then (name, value) :: ms
    else if name < m.1 then (name, value) :: m :: ms
    else m :: insert name value ms

/-- The object with these members; of two of one name the later counts. -/
def ofMembers (members : List (String × Json)) : Json :=
  .obj (members.foldl (fun ms m => insert m.1 m.2 ms) [])

/-- The value of the first member of a name. -/
def find? (name : String) : List (String × Json) → Option Json
  | [] => none
  | m :: ms => if m.1 = name then some m.2 else find? name ms

/-- The member of that name, when the value is an object that has one. -/
def get? (name : String) : Json → Option Json
  | .obj ms => find? name ms
  | _ => none

/-- The members of the second object over those of the first: a member of both keeps the
second's value.  A value that is no object adds nothing. -/
def merge (base onTop : Json) : Json :=
  match base, onTop with
  | .obj ms, .obj more => .obj (more.foldl (fun acc m => insert m.1 m.2 acc) ms)
  | j, _ => j

end Json

end ImportTracking
