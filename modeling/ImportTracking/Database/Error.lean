import ImportTracking.Text.Lowercase

/-!
# Database — errors

What can go wrong with a database, the wording of each error, and its `Kind`.  The kind of an
error that the database itself reports is found in the wording, in lower case, by keywords; the
first keyword in the order of `Kind.ofText` decides.

Main statement: `isUniqueViolation_iff` (a lost race for a unique row is told by its kind).
-/

namespace ImportTracking.Database

/-- An error of the database or of the access to it. -/
inductive Error where
  | recordNotFound (message : String)
  | acquireTimeout
  | acquireClosed
  | connection (message : String)
  /-- A statement that writes was refused. -/
  | execution (message : String)
  /-- A statement that reads was refused. -/
  | query (message : String)
  | custom (message : String)
  | conversion (message : String)
  | json (message : String)
  | migration (message : String)
  | attributeNotSet (name : String)
  | recordNotInserted
  | recordNotUpdated
  | insertIdNotUnpacked
  | primaryKeyNotFound
  /-- A value is none of another type. -/
  | inconvertible (source target reason : String)
  /-- A row number is none of a type. -/
  | inconvertibleId (type : String)
deriving DecidableEq, Repr, Inhabited

/-- The kinds of errors callers tell apart. -/
inductive Kind where
  | notFound
  | uniqueViolation
  | foreignKeyViolation
  | connectionError
  | timeout
  | locked
  | unknown
deriving DecidableEq, Repr, Inhabited

namespace Kind

/-- The name of a kind. -/
def name : Kind → String
  | .notFound => "NotFound"
  | .uniqueViolation => "UniqueViolation"
  | .foreignKeyViolation => "ForeignKeyViolation"
  | .connectionError => "ConnectionError"
  | .timeout => "Timeout"
  | .locked => "Locked"
  | .unknown => "Unknown"

/-- Whether the lower-case text holds one of the keywords. -/
def mentions (keywords : List String) (lower : List Char) : Bool :=
  keywords.any fun w => Text.occursIn w.toList lower

/-- The kind that the keywords of a text say. -/
def ofText (text : List Char) : Kind :=
  let lower := Text.lowercase text
  if mentions ["unique", "duplicate"] lower then .uniqueViolation
  else if mentions ["foreign key"] lower then .foreignKeyViolation
  else if mentions ["deadlock", "database is locked"] lower then .locked
  else if mentions ["timeout"] lower then .timeout
  else .unknown

end Kind

namespace Error

/-- The wording of an error. -/
def text : Error → String
  | .recordNotFound m => "RecordNotFound Error: " ++ m
  | .acquireTimeout => "Failed to acquire connection from pool: Connection pool timed out"
  | .acquireClosed => "Failed to acquire connection from pool: Connection closed"
  | .connection m => "Connection Error: " ++ m
  | .execution m => "Execution Error: " ++ m
  | .query m => "Query Error: " ++ m
  | .custom m => "Custom Error: " ++ m
  | .conversion m => "Type Error: " ++ m
  | .json m => "Json Error: " ++ m
  | .migration m => "Migration Error: " ++ m
  | .attributeNotSet name => "Attribute " ++ name ++ " is NotSet"
  | .recordNotInserted => "None of the records are inserted"
  | .recordNotUpdated => "None of the records are updated"
  | .insertIdNotUnpacked => "Failed to unpack last_insert_id"
  | .primaryKeyNotFound => "Failed to get primary key from model"
  | .inconvertible source target reason =>
    "Error converting `" ++ source ++ "` into `" ++ target ++ "`: " ++ reason
  | .inconvertibleId type => "Type '" ++ type ++ "' cannot be converted from u64"

/-- The kind of an error. -/
def kind (e : Error) : Kind :=
  match e with
  | .recordNotFound _ => .notFound
  | .acquireTimeout | .acquireClosed => .timeout
  | .connection m =>
    if Kind.mentions ["timeout"] (Text.lowercase m.toList) then .timeout else .connectionError
  | .execution _ | .query _ | .custom _ => Kind.ofText e.text.toList
  | _ => .unknown

/-- Whether a row was refused because another one has its unique columns. -/
def isUniqueViolation (e : Error) : Bool := e.kind == .uniqueViolation

theorem isUniqueViolation_iff (e : Error) :
    e.isUniqueViolation = true ↔ e.kind = .uniqueViolation := by
  simp [isUniqueViolation]

end Error

end ImportTracking.Database
