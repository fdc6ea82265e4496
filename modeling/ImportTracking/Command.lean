import ImportTracking.Database.Document
import ImportTracking.Json.Printer
import ImportTracking.Json.Reader
import ImportTracking.Report
import ImportTracking.Text.Pieces
import ImportTracking.Word

/-!
# Command — the command line

Three commands work on a database that is given as a document: one applies all migrations, one
rolls them back first, and one writes the report on an entity.
-/

namespace ImportTracking

/-- What is asked for on the command line. -/
inductive Command where
  | migrate
  | reset
  | report (entityId : Int) (asJson : Bool)
deriving DecidableEq, Repr

namespace Command

/-- How the commands are written. -/
def usage : String :=
  "usage: db migrate | db reset | report --entity ID [--json]\n" ++
    "The database is read from standard input as a JSON document."

/-- The options of a report. -/
def reportOptions (entityId : Option Int) (asJson : Bool) : List String → Option Command
  | [] => entityId.map fun id => .report id asJson
  | "--json" :: rest => reportOptions entityId true rest
  | "--entity" :: id :: rest =>
    match Text.natural? Word.maxSigned32 id.toList with
    | some n => reportOptions (some n) asJson rest
    | none => none
  | _ => none

/-- The command that arguments ask for. -/
def ofArguments? : List String → Option Command
  | ["db", "migrate"] => some .migrate
  | ["db", "reset"] => some .reset
  | "report" :: options => reportOptions none false options
  | _ => none

/-- The database of a document; no document stands for one without tables. -/
def databaseOf (document : String) : Except String Database :=
  if (Json.skipBlanks document.toList).isEmpty then .ok .blank
  else
    match Json.parse? document with
    | none => .error "the database is no JSON document"
    | some j => (Database.decoder j).mapError Json.Misfit.message

/-- What a command writes, given the document of the database. -/
def execute (c : Command) (document : String) : Except String String := do
  let db ← databaseOf document
  match c with
  | .migrate => return (db.up none).toJson.indented ++ "\n"
  | .reset => return db.reset.toJson.indented ++ "\n"
  | .report entityId asJson =>
    let state : Session.State :=
      { database := db
        clock := .epoch
        supply := { naming := .standard } }
    match (Session.run (Report.load entityId).run state).1 with
    | .error f => .error f.message
    | .ok r => return if asJson then r.toJson.indented ++ "\n" else r.render

end Command

end ImportTracking
