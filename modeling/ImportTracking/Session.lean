import ImportTracking.Program
import ImportTracking.Identifier
import ImportTracking.Fault
import ImportTracking.Database.Statement

/-!
# Session — programs that use the database

A program that works with the database alone makes these calls: it executes a statement, reads
the clock, or draws a new identifier.  `Session.answer` plays them against a database, a clock
that stands still, and a supply of identifiers.
-/

namespace ImportTracking

/-- The calls of a program that uses the database. -/
inductive Session.Call where
  | query (s : Database.Statement)
  | now
  | newJid
  | newCorrelation
  | newToken

/-- What is replied to each call. -/
abbrev Session.Reply : Session.Call → Type
  | .query s => Except Database.Error s.Result
  | .now => Timestamp
  | .newJid => String
  | .newCorrelation => String
  | .newToken => String

/-- The interface of programs that use the database. -/
abbrev Session : Interface := ⟨Session.Call, Session.Reply⟩

namespace Session

/-- What the calls are played against. -/
structure State where
  database : Database
  clock : Timestamp
  supply : Identifier.Supply

/-- Answers a call. -/
def answer : (c : Call) → State → Reply c × State
  | .query s, st =>
    let r := Database.execute s st.database
    (r.1, { st with database := r.2 })
  | .now, st => (st.clock, st)
  | .newJid, st =>
    let r := st.supply.drawJid
    (r.1, { st with supply := r.2 })
  | .newCorrelation, st =>
    let r := st.supply.drawCorrelation
    (r.1, { st with supply := r.2 })
  | .newToken, st =>
    let r := st.supply.drawToken
    (r.1, { st with supply := r.2 })

/-- A program that uses the database and may fail. -/
abbrev Task (α : Type) := ExceptT Fault (Program Session) α

/-- Executes a statement; a refusal is a fault. -/
def query (s : Database.Statement) : Task s.Result :=
  ExceptT.mk ((Program.ask (I := Session) (.query s)).bind fun r =>
    .done (match r with
      | .ok a => .ok a
      | .error e => .error (.database e)))

/-- Executes a statement and hands a refusal on. -/
def tryQuery (s : Database.Statement) : Program Session (Except Database.Error s.Result) :=
  Program.ask (I := Session) (.query s)

/-- Reads the clock. -/
def now : Program Session Timestamp := Program.ask (I := Session) .now

/-- Draws a job id. -/
def newJid : Program Session String := Program.ask (I := Session) .newJid

/-- Draws a correlation id. -/
def newCorrelation : Program Session String := Program.ask (I := Session) .newCorrelation

/-- Draws a lease token. -/
def newToken : Program Session String := Program.ask (I := Session) .newToken

/-- Plays a program. -/
def run {α : Type} (p : Program Session α) (st : State) : α × State := Program.run answer p st

/-! ### Looking rows up -/

/-- The entity of an id. -/
def findEntity (id : Int) : Task Entity := do
  match ← query (.findEntity id) with
  | some e => return e
  | none => throw (.notFound .entity id)

/-- The tracker of an id. -/
def findTracker (id : Int) : Task Tracker := do
  match ← query (.findTracker id) with
  | some t => return t
  | none => throw (.notFound .tracker id)

/-- The version of the source instance an entity comes from, if it is known. -/
def sourceVersion (e : Entity) : Task (Option String) := do
  return (← query (.findImport e.importId)).bind Import.sourceVersion

end Session

end ImportTracking
