import ImportTracking.Proofs.Transitions

/-!
# Stages — how far a transition has come

A caller attempts a transition on a tracker as it says it saw it, which may be out of date or
made up.  Its program goes through few stages: it reads the clock, updates the row if its status
is still the one seen, reads the row back, and is done.

* `stage_step`: what one call does at each stage, and which stage follows.
* `Stage.holds_mono`: what is known at a stage stays so while others move trackers.
-/

namespace ImportTracking

open Tracker

/-- A transition that a caller attempts on a tracker as it saw it. -/
structure Attempt where
  seen : Tracker
  change : Transition

namespace Attempt

open Work (Scene Surroundings advance_now_bind advance_query_bind_ok advance_query_bind_error
  advance_findTracker_bind)

/-- The attempt as it is carried out. -/
def program (a : Attempt) : Program Work (Except Fault Tracker) :=
  (Work.onDatabase (a.seen.transition a.change)).run

/-- The status that the event leads to from the one seen. -/
def target (a : Attempt) : Option Status := a.seen.known?.bind (·.apply a.change.event)

/-- The row is in the status that the attempt leads to. -/
def Reached (a : Attempt) (db : Database) : Prop :=
  ∃ t next, db.tracker? a.seen.id = some t ∧ t.known? = some next ∧ a.target = some next

/-- The stored row moves along an edge of the lifecycle, by the event of the attempt; no other
row changes, and no other column. -/
def Moves (a : Attempt) (db db' : Database) : Prop :=
  ∃ t current next now, db.tracker? a.seen.id = some t ∧ t.known? = some current ∧
    current.apply a.change.event = some next ∧ db' = db.putTracker (a.change.result t next now)

variable {a : Attempt} {db db' : Database}

theorem target_eq {current next : Status} (hs : a.seen.known? = some current)
    (hn : current.apply a.change.event = some next) : a.target = some next := by
  simp [target, hs, hn]

namespace Moves

theorem keyed (h : a.Moves db db') (hk : db.Keyed) : db'.Keyed := by
  obtain ⟨t, current, next, now, -, -, -, rfl⟩ := h
  exact Database.keyed_putTracker hk _

/-- After a move the row is where the event leads. -/
theorem tracker?_self (h : a.Moves db db') :
    ∃ t t' current next, db.tracker? a.seen.id = some t ∧ t.known? = some current ∧
      current.apply a.change.event = some next ∧ db'.tracker? a.seen.id = some t' ∧
      t'.known? = some next := by
  obtain ⟨t, current, next, now, ht, hc, hn, rfl⟩ := h
  exact ⟨t, _, current, next, ht, hc, hn, Transition.tracker?_putTracker_result ht,
    Transition.known?_result⟩

/-- No other tracker is touched. -/
theorem tracker?_of_ne (h : a.Moves db db') {id : Int} (hid : id ≠ a.seen.id) :
    db'.tracker? id = db.tracker? id := by
  obtain ⟨t, current, next, now, ht, -, -, rfl⟩ := h
  exact Database.tracker?_putTracker_of_ne (by
    rwa [Transition.id_result, Database.id_of_tracker? ht])

end Moves

/-! ### Stages -/

/-- What the caller is told that reads `row` back after its update met `count` rows. -/
def verdict (a : Attempt) (next : Status) (count : Nat) (row : Tracker) : Session.Task Tracker :=
  if count = 0 then
    match row.statusOf with
    | .error f => throw f
    | .ok observed =>
      if observed = next then return row
      else throw (.invalidTransition observed.name a.change.event.name)
  else return row

/-- A verdict is reached without a call: on a row that was updated it is good, and on another one
only if the row is where the attempt leads. -/
theorem verdict_done (a : Attempt) (next : Status) (count : Nat) (row : Tracker) :
    ∃ r, (Work.onDatabase (a.verdict next count row)).run = .done r ∧
      (count ≠ 0 → r = .ok row) ∧
      (count = 0 → (r = .ok row ∧ row.known? = some next) ∨
        ∃ f, r = .error f ∧ f.isNotFound = false) := by
  unfold verdict statusOf
  by_cases hc : count = 0
  · rw [if_pos hc]
    cases row.known? with
    | none => exact ⟨_, rfl, fun h => absurd hc h, fun _ => .inr ⟨_, rfl, rfl⟩⟩
    | some observed =>
        by_cases ho : observed = next
        · simp only [if_pos ho]
          exact ⟨_, rfl, fun h => absurd hc h, fun _ => .inl ⟨rfl, congrArg some ho⟩⟩
        · simp only [if_neg ho]
          exact ⟨_, rfl, fun h => absurd hc h, fun _ => .inr ⟨_, rfl, rfl⟩⟩
  · rw [if_neg hc]
    exact ⟨_, rfl, fun _ => rfl, fun h => absurd h hc⟩

/-- How far a caller has come. -/
inductive Stage where
  | fresh (current next : Status)
  | timed (current next : Status) (now : Timestamp)
  /-- The update met so many rows. -/
  | updated (next : Status) (count : Nat)
  | ended (r : Except Fault Tracker)

namespace Stage

/-- What is left to do at a stage. -/
def program (a : Attempt) : Stage → Program Work (Except Fault Tracker)
  | fresh current next => (Work.onDatabase (a.seen.move a.change current next)).run
  | timed current next now =>
    (Work.onDatabase (Session.query
      (.updateTracker a.seen.id current.name (a.change.update next now)) >>= fun count =>
        Session.findTracker a.seen.id >>= a.verdict next count)).run
  | updated next count =>
    (Work.onDatabase (Session.findTracker a.seen.id >>= a.verdict next count)).run
  | ended r => .done r

/-- What is known at a stage. -/
def Holds (a : Attempt) (db : Database) : Stage → Prop
  | fresh current next | timed current next _ =>
    a.seen.known? = some current ∧ current.apply a.change.event = some next
  | updated next count =>
    a.target = some next ∧ (count ≠ 0 → ∃ t, db.tracker? a.seen.id = some t)
  | ended _ => True

/-- The stage that follows a call, and what the call does to the database. -/
inductive Follows (a : Attempt) (db : Database) : Stage → Stage → Database → Prop where
  | look {current next : Status} (now : Timestamp) :
      Follows a db (fresh current next) (timed current next now) db
  | write {current next : Status} {now : Timestamp} {count : Nat} {db' : Database}
      (hn : count ≠ 0) (hm : a.Moves db db') (hr : a.Reached db') :
      Follows a db (timed current next now) (updated next count) db'
  | miss {current next : Status} {now : Timestamp} :
      Follows a db (timed current next now) (updated next 0) db
  | refuse {current next : Status} {now : Timestamp} {f : Fault} :
      Follows a db (timed current next now) (ended (.error f)) db
  | confirm {next : Status} {count : Nat} {t : Tracker} (hn : count ≠ 0) :
      Follows a db (updated next count) (ended (.ok t)) db
  | agree {next : Status} {t : Tracker} (hr : a.Reached db) :
      Follows a db (updated next 0) (ended (.ok t)) db
  | deny {next : Status} {f : Fault} : Follows a db (updated next 0) (ended (.error f)) db
  | rest {r : Except Fault Tracker} : Follows a db (ended r) (ended r) db

theorem follows_moves {st st' : Stage} (h : Follows a db st st' db') :
    db' = db ∨ a.Moves db db' := by
  cases h with
  | write _ hm _ => exact .inr hm
  | look | miss | refuse | confirm | agree | deny | rest => exact .inl rfl

/-- What is known at a stage stays so while others move trackers. -/
theorem holds_mono {st : Stage} (h : st.Holds a db)
    (hd : db' = db ∨ ∃ b : Attempt, b.Moves db db') : st.Holds a db' := by
  obtain rfl | ⟨b, hm⟩ := hd
  · exact h
  cases st with
  | fresh | timed | ended => exact h
  | updated next count =>
      refine ⟨h.1, fun hn => ?_⟩
      by_cases hid : a.seen.id = b.seen.id
      · obtain ⟨-, t, -, -, -, -, -, ht, -⟩ := hm.tracker?_self
        exact ⟨t, hid ▸ ht⟩
      · obtain ⟨t, ht⟩ := h.2 hn
        exact ⟨t, (hm.tracker?_of_ne hid).trans ht⟩

end Stage

variable {σ : Type} {sc : Scene σ}

/-- **One call at any stage** leads to a stage that may follow. -/
theorem stage_step (others : Surroundings σ) (hk : sc.database.Keyed) {st : Stage}
    (h : st.Holds a sc.database) :
    ∃ st' sc', (st.program a).advance (Scene.answer others) sc = (st'.program a, sc') ∧
      st'.Holds a sc'.database ∧ Stage.Follows a sc.database st st' sc'.database := by
  cases st with
  | fresh current next =>
      obtain ⟨now, s, hadv⟩ := advance_now_bind
      exact ⟨.timed current next now, _, hadv, h, .look now⟩
  | timed current next now =>
      obtain ⟨hs, hn⟩ := h
      have htarget := target_eq hs hn
      -- the status seen is compared with the row as it is now
      rcases Database.execute_updateTracker hk a.seen.id current.name (a.change.update next now)
        with ⟨t, count, ht, hst, hc, he⟩ | ⟨-, he⟩ | ⟨e, he⟩
      · exact ⟨.updated next count, _, advance_query_bind_ok he,
          ⟨htarget, fun _ => ⟨_, Transition.tracker?_putTracker_result ht⟩⟩,
          .write hc ⟨t, current, next, now, ht, known?_of_status hst, hn, rfl⟩
            ⟨_, next, Transition.tracker?_putTracker_result ht, Transition.known?_result,
              htarget⟩⟩
      · exact ⟨.updated next 0, _, advance_query_bind_ok he, ⟨htarget, fun h => absurd rfl h⟩,
          .miss⟩
      · exact ⟨.ended _, _, advance_query_bind_error he, trivial, .refuse⟩
  | updated next count =>
      obtain ⟨htarget, hrow⟩ := h
      obtain ⟨p, hadv, ⟨t, ht, rfl⟩ | ⟨hnone, e, rfl⟩⟩ :=
        advance_findTracker_bind others sc a.seen.id (a.verdict next count)
      · obtain ⟨r, hr, hgood, hbad⟩ := verdict_done a next count t
        rw [hr] at hadv
        refine ⟨.ended r, sc, hadv, trivial, ?_⟩
        by_cases hc : count = 0
        · subst hc
          obtain ⟨rfl, hs⟩ | ⟨f, rfl, -⟩ := hbad rfl
          · exact .agree ⟨t, next, ht, hs, htarget⟩
          · exact .deny
        · obtain rfl := hgood hc
          exact .confirm hc
      · by_cases hc : count = 0
        · subst hc
          exact ⟨.ended (.error e), sc, hadv, trivial, .deny⟩
        · obtain ⟨t, ht⟩ := hrow hc
          rw [hnone] at ht
          cases ht
  | ended r => exact ⟨.ended r, sc, rfl, trivial, .rest⟩

/-- Every caller starts fresh, or is refused at once. -/
theorem program_eq (a : Attempt) :
    (∃ current next, a.program = (Stage.fresh current next).program a ∧
      a.seen.known? = some current ∧ current.apply a.change.event = some next) ∨
    ∃ f, a.program = (Stage.ended (.error f)).program a := by
  unfold program transition statusOf
  cases hs : a.seen.known? with
  | none => exact .inr ⟨_, rfl⟩
  | some current =>
      cases hn : current.apply a.change.event with
      | none => exact .inr ⟨_, by simp only [nextStatus, hn]; rfl⟩
      | some next => exact .inl ⟨current, next, by simp only [nextStatus, hn]; rfl, rfl, hn⟩

end Attempt

end ImportTracking
