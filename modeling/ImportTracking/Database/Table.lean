/-!
# Database — tables

A table is its rows in ascending order of their ids, with the largest id ever used.  The next
row gets the id after that one, so ids are not used again when rows are deleted.

Main statements: `mem_insert` and `mem_filter` (what a table holds afterwards).
-/

namespace ImportTracking.Database

/-- Rows with an id. -/
class HasId (Row : Type) where
  id : Row → Int

/-- A table. -/
structure Table (Row : Type) where
  /-- The rows, in ascending order of their ids. -/
  rows : List Row
  /-- The largest id ever used. -/
  lastId : Nat
deriving Repr

namespace Table

variable {Row : Type} [HasId Row]

/-- A new table. -/
def empty : Table Row := ⟨[], 0⟩

instance : Inhabited (Table Row) := ⟨empty⟩

/-- The id of the next row. -/
def nextId (t : Table Row) : Int := t.lastId + 1

/-- The row of an id. -/
def find? (t : Table Row) (id : Int) : Option Row := t.rows.find? fun r => HasId.id r == id

/-- Puts a row in its place among rows in ascending order of their ids. -/
def place (row : Row) : List Row → List Row
  | [] => [row]
  | r :: rs => if HasId.id row < HasId.id r then row :: r :: rs else r :: place row rs

/-- The table with one more row. -/
def insert (t : Table Row) (row : Row) : Table Row :=
  ⟨place row t.rows, max t.lastId (HasId.id row).toNat⟩

/-- The table with the rows that `keep` says. -/
def filter (t : Table Row) (keep : Row → Bool) : Table Row := { t with rows := t.rows.filter keep }

/-- The table with the row of an id changed. -/
def modify (t : Table Row) (id : Int) (change : Row → Row) : Table Row :=
  { t with rows := t.rows.map fun r => if HasId.id r == id then change r else r }

theorem mem_place {row r : Row} {rs : List Row} : r ∈ place row rs ↔ r = row ∨ r ∈ rs := by
  induction rs with
  | nil => simp [place]
  | cons x xs ih =>
    by_cases h : HasId.id row < HasId.id x
    · simp [place, h]
    · simp [place, h, ih, or_left_comm]

/-- A table holds afterwards what it held and the new row. -/
theorem mem_insert {t : Table Row} {row r : Row} :
    r ∈ (t.insert row).rows ↔ r = row ∨ r ∈ t.rows :=
  mem_place

omit [HasId Row] in
theorem mem_filter {t : Table Row} {keep : Row → Bool} {r : Row} :
    r ∈ (t.filter keep).rows ↔ r ∈ t.rows ∧ keep r = true := by
  simp [filter]

end Table

end ImportTracking.Database
