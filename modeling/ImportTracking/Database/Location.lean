/-!
# Database — location

Where a database is kept: in memory, or in a file that is created when it is missing.
-/

namespace ImportTracking.Database

/-- The path that stands for a database in memory. -/
def inMemoryPath : String := ":memory:"

/-- The file used when no path is given. -/
def defaultPath : String := "bulk_import.db"

/-- The URL of the database at a path. -/
def url (path : Option String) : String :=
  let path := path.getD defaultPath
  if path = inMemoryPath then "sqlite::memory:" else "sqlite://" ++ path ++ "?mode=rwc"

end ImportTracking.Database
