import ImportTracking.Json.Value
import ImportTracking.Json.Shortest
import ImportTracking.Text.Quoted
import ImportTracking.Word

/-!
# Json — typed reading

A `Decoder α` turns a JSON value into an `α` or says what is wrong with it.  The causes are the
constructors of `Misfit`; their wording is in `Misfit.message`.

A record is described by its `Fields`, in the order of its declaration.  It is read from an
object or from an array of its fields in that order.  In an object the members are looked at in
ascending order of their names, so the first member in that order that does not fit decides the
error; members of other names are ignored, and a missing field is an error only after every
member present did fit.  In an array the items are looked at from the front.

A choice is described by variants (`Variant`): each is written as its name, or as an object with
that name as its only member.
-/

namespace ImportTracking.Json

/-- Why a value is not of the type asked for. -/
inductive Misfit where
  /-- The value is of another kind. -/
  | wrongType (found expected : String)
  /-- The value is of the right kind and out of range. -/
  | wrongValue (found expected : String)
  | missingField (name : String)
  | unknownVariant (name : String) (known : List String)
  | wrongLength (length : Nat) (expected : String)
  /-- A text is not of the form asked for. -/
  | malformed (reason : String)
deriving DecidableEq, Repr

/-- A name between backticks. -/
def ticked (name : String) : String := "\x60" ++ name ++ "\x60"

/-- The alternatives a choice could have been. -/
def alternatives : List String → String
  | [] => "there are no variants"
  | [a] => ticked a
  | [a, b] => ticked a ++ " or " ++ ticked b
  | names => "one of " ++ ", ".intercalate (names.map ticked)

namespace Misfit

/-- The wording of a misfit. -/
def message : Misfit → String
  | .wrongType found expected => "invalid type: " ++ found ++ ", expected " ++ expected
  | .wrongValue found expected => "invalid value: " ++ found ++ ", expected " ++ expected
  | .missingField name => "missing field " ++ ticked name
  | .unknownVariant name known =>
    "unknown variant " ++ ticked name ++ ", expected " ++ alternatives known
  | .wrongLength n expected => "invalid length " ++ toString n ++ ", expected " ++ expected
  | .malformed reason => reason

end Misfit

/-- A value as errors name it. -/
def described : Json → String
  | .null => "null"
  | .bool b => "boolean " ++ ticked (if b then "true" else "false")
  | .num (.whole n) => "integer " ++ ticked (toString n)
  | .num (.double x) => "floating point " ++ ticked (Shortest.text x)
  | .str s => "string " ++ Text.quoted s
  | .arr _ => "sequence"
  | .obj _ => "map"

/-- A reader of JSON values. -/
abbrev Decoder (α : Type) := Json → Except Misfit α

namespace Decoder

/-- The misfit of a value of another kind than `expected`. -/
def refuse {α : Type} (expected : String) (j : Json) : Except Misfit α :=
  .error (.wrongType (described j) expected)

def bool : Decoder Bool
  | .bool b => .ok b
  | j => refuse "a boolean" j

def string : Decoder String
  | .str s => .ok s
  | j => refuse "a string" j

/-- Whole numbers within a range, named `kind` in errors. -/
def wholeWithin (range : Int → Bool) (kind : String) : Decoder Int
  | .num (.whole n) =>
    if range n then .ok n
    else .error (.wrongValue ("integer " ++ ticked (toString n)) kind)
  | j => refuse kind j

/-- Signed 32-bit numbers. -/
def int32 : Decoder Int := wholeWithin Word.isSigned32 "i32"

/-- Signed 64-bit numbers. -/
def int64 : Decoder Int := wholeWithin Word.isSigned64 "i64"

/-- Unsigned 32-bit numbers. -/
def nat32 : Decoder Nat := fun j =>
  (wholeWithin (fun n => 0 ≤ n && n ≤ Word.max32) "u32" j).map Int.toNat

/-- A value, or null for none. -/
def orNull {α : Type} (d : Decoder α) : Decoder (Option α)
  | .null => .ok none
  | j => (d j).map some

/-- The items of an array, one after another. -/
def items {α : Type} (d : Decoder α) : List Json → Except Misfit (List α)
  | [] => .ok []
  | j :: js =>
    match d j with
    | .error e => .error e
    | .ok a => (items d js).map (a :: ·)

end Decoder

/-! ### Records -/

/-- The fields of a record, in the order of their declaration. -/
structure Fields (α : Type) where
  /-- Each field's name, and the misfit of a value given for it. -/
  rules : List (String × (Json → Option Misfit))
  /-- The record, from the members of an object. -/
  ofMembers : List (String × Json) → Except Misfit α
  /-- The record and the items left over, from items in order of declaration; the misfit is the
  one for a field that has no item. -/
  ofItems : Misfit → List Json → Except Misfit (α × List Json)

namespace Fields

/-- The misfit of a value that a decoder refuses. -/
def misfit? {α : Type} (d : Decoder α) (j : Json) : Option Misfit :=
  match d j with
  | .error e => some e
  | .ok _ => none

/-- A field.  `absent` is what it takes from an object without it, `short` from an array that
ends before it; none of them means that it has to be there. -/
def field {α : Type} (name : String) (d : Decoder α) (absent short : Option α) : Fields α where
  rules := [(name, misfit? d)]
  ofMembers ms :=
    match find? name ms, absent with
    | some j, _ => d j
    | none, some a => .ok a
    | none, none => .error (.missingField name)
  ofItems tooShort
    | j :: js => (d j).map fun a => (a, js)
    | [] =>
      match short with
      | some a => .ok (a, [])
      | none => .error tooShort

/-- A field that has to be there. -/
def required {α : Type} (name : String) (d : Decoder α) : Fields α := field name d none none

/-- A field that may be null, and may be left out of an object. -/
def optional {α : Type} (name : String) (d : Decoder α) : Fields (Option α) :=
  field name d.orNull (some none) none

/-- A field with a default for when it is left out. -/
def withDefault {α : Type} (name : String) (d : Decoder α) (a : α) : Fields α :=
  field name d (some a) (some a)

instance : Applicative Fields where
  pure a :=
    { rules := []
      ofMembers := fun _ => .ok a
      ofItems := fun _ js => .ok (a, js) }
  seq f x :=
    { rules := f.rules ++ (x ()).rules
      ofMembers := fun ms => do
        let g ← f.ofMembers ms
        let a ← (x ()).ofMembers ms
        return g a
      ofItems := fun e js => do
        let (g, js) ← f.ofItems e js
        let (a, js) ← (x ()).ofItems e js
        return (g a, js) }

/-- The first misfit among members, looked at in their order. -/
def firstMisfit (rules : List (String × (Json → Option Misfit))) :
    List (String × Json) → Option Misfit
  | [] => none
  | m :: ms =>
    match rules.find? fun r => r.1 == m.1 with
    | none => firstMisfit rules ms
    | some r =>
      match r.2 m.2 with
      | some e => some e
      | none => firstMisfit rules ms

/-- Reads a record from the members of an object. -/
def fromMembers {α : Type} (f : Fields α) (ms : List (String × Json)) : Except Misfit α :=
  match firstMisfit f.rules ms with
  | some e => .error e
  | none => f.ofMembers ms

/-- What errors call a record of this name. -/
def title (name : String) : String := "struct " ++ name

/-- What errors call an array of a record's fields. -/
def arrayTitle {α : Type} (name : String) (f : Fields α) : String :=
  title name ++ " with " ++ toString f.rules.length ++
    if f.rules.length = 1 then " element" else " elements"

/-- Reads a record from an array of its fields. -/
def fromItems {α : Type} (name : String) (f : Fields α) (js : List Json) : Except Misfit α :=
  match f.ofItems (.wrongLength js.length (f.arrayTitle name)) js with
  | .error e => .error e
  | .ok (a, []) => .ok a
  | .ok (_, _ :: _) => .error (.wrongLength js.length "fewer elements in array")

end Fields

/-- A record of the given name. -/
def Decoder.record {α : Type} (name : String) (f : Fields α) : Decoder α
  | .obj ms => f.fromMembers ms
  | .arr js => f.fromItems name js
  | j => Decoder.refuse (Fields.title name) j

/-! ### Choices -/

/-- One alternative of a choice. -/
inductive Variant (α : Type) where
  /-- A name alone. -/
  | plain (a : α)
  /-- A name with a value. -/
  | carrying (d : Decoder α)
  /-- A name with a record, which only an object can give. -/
  | carryingRecord (f : Fields α)

namespace Variant

/-- Reads an alternative of which only the name was given. -/
def fromName {α : Type} : Variant α → Except Misfit α
  | .plain a => .ok a
  | .carrying _ => .error (.wrongType "unit variant" "newtype variant")
  | .carryingRecord _ => .error (.wrongType "unit variant" "struct variant")

/-- Reads an alternative whose name came with a value. -/
def fromContent {α : Type} : Variant α → Json → Except Misfit α
  | .plain a, .null => .ok a
  | .plain _, j => Decoder.refuse "unit" j
  | .carrying d, j => d j
  | .carryingRecord f, .obj ms => f.fromMembers ms
  | .carryingRecord _, j => Decoder.refuse "struct variant" j

end Variant

/-- One of several named alternatives. -/
def Decoder.choice {α : Type} (variants : List (String × Variant α)) : Decoder α := fun j =>
  let named (name : String) : Except Misfit (Variant α) :=
    match variants.find? fun v => v.1 == name with
    | some v => .ok v.2
    | none => .error (.unknownVariant name (variants.map (·.1)))
  match j with
  | .str name => named name >>= Variant.fromName
  | .obj [(name, content)] => named name >>= fun v => v.fromContent content
  | .obj _ => .error (.wrongValue "map" "map with a single key")
  | j => Decoder.refuse "string or map" j

/-- A choice between names alone. -/
def Decoder.oneOf {α : Type} (names : List (String × α)) : Decoder α :=
  Decoder.choice (names.map fun n => (n.1, .plain n.2))

end ImportTracking.Json
