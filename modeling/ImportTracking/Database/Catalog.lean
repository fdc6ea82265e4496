import ImportTracking.Database.Schema

/-!
# Database — catalog

What a database knows of its own make-up: the definitions of its tables and indexes, as the
statements gave them that made them.  A `Catalog` is the list of both; a table that is dropped goes
with its indexes.

Main statement: `hasTable_drop` (a table that is dropped is gone, and no other is).
-/

namespace ImportTracking.Database

/-- What a column holds. -/
inductive ColumnType where
  | integer
  /-- Text, of at most so many characters if there is a bound. -/
  | string (bound : Option Nat)
  | text
  | boolean
  | timestamp
deriving DecidableEq, Repr

/-- What a column of a new row holds when nothing is given. -/
inductive ColumnDefault where
  | text (s : String)
  | number (n : Int)
  | boolean (b : Bool)
  /-- The time of the insert. -/
  | now
deriving DecidableEq, Repr

/-- The definition of a column. -/
structure ColumnDefinition where
  name : String
  type : ColumnType
  required : Bool := true
  /-- Whether rows are told apart by this column, which numbers them. -/
  primaryKey : Bool := false
  unique : Bool := false
  default : Option ColumnDefault := none
deriving DecidableEq, Repr

/-- The definition of a foreign key.  It names a row by its id; deleting that row deletes the rows
that name it. -/
structure KeyDefinition where
  name : String
  column : String
  parent : TableName
deriving DecidableEq, Repr

/-- The definition of a table. -/
structure TableDefinition where
  table : TableName
  columns : List ColumnDefinition
  foreignKeys : List KeyDefinition := []
deriving DecidableEq, Repr

/-- The definition of an index beside a table. -/
structure IndexDefinition where
  name : String
  table : TableName
  columns : List String
  unique : Bool := false
deriving DecidableEq, Repr

/-- The tables and the indexes that exist, in the order of their making. -/
structure Catalog where
  tables : List TableDefinition := []
  indexes : List IndexDefinition := []
deriving DecidableEq, Repr

namespace TableDefinition

def hasColumn (d : TableDefinition) (name : String) : Bool := d.columns.any (·.name == name)

end TableDefinition

namespace Catalog

variable (c : Catalog)

/-- The definition of a table, if it exists. -/
def table? (t : TableName) : Option TableDefinition := c.tables.find? (·.table == t)

def hasTable (t : TableName) : Bool := c.tables.any (·.table == t)

def hasIndex (name : String) : Bool := c.indexes.any (·.name == name)

/-- The catalog with one more table. -/
def addTable (d : TableDefinition) : Catalog := { c with tables := c.tables ++ [d] }

/-- The catalog with one more index. -/
def addIndex (i : IndexDefinition) : Catalog := { c with indexes := c.indexes ++ [i] }

/-- The catalog without a table and its indexes. -/
def drop (t : TableName) : Catalog where
  tables := c.tables.filter (·.table != t)
  indexes := c.indexes.filter (·.table != t)

/-- The make-up of a table, if it exists.  A unique column has an index of its own. -/
def schema? (t : TableName) : Option Schema :=
  (c.table? t).map fun d =>
    { columns := d.columns.map fun c => ⟨c.name, c.required, c.primaryKey⟩
      indexes := (d.columns.filter (·.unique)).map (fun c => ⟨[c.name], true⟩) ++
        (c.indexes.filter (·.table == t)).map fun i => ⟨i.columns, i.unique⟩
      foreignKeys := d.foreignKeys.map fun k => ⟨k.column, k.parent⟩ }

theorem hasTable_addTable (d : TableDefinition) (t : TableName) :
    (c.addTable d).hasTable t = (c.hasTable t || d.table == t) := by
  simp [addTable, hasTable]

theorem hasTable_drop (t other : TableName) :
    (c.drop t).hasTable other = (other != t && c.hasTable other) := by
  simp only [drop, hasTable, List.any_filter]
  induction c.tables with
  | nil => simp
  | cons d ds ih =>
    rw [List.any_cons, List.any_cons, ih, Bool.and_or_distrib_left]
    by_cases h : d.table = other
    · rw [h]
    · rw [beq_false_of_ne h, Bool.and_false, Bool.and_false]

end Catalog

end ImportTracking.Database
