import ImportTracking.Tracker.Transition
import ImportTracking.Proofs.Course
import ImportTracking.Proofs.Rows

/-!
# Transitions — of a tracker as it is stored

A transition by a caller who holds the stored row, with an event that its status allows, always
succeeds: it replaces the row by the one the event leads to, and returns that.

* `plays_findTracker_bind`, `plays_findEntity_bind`: a row that is there is found.
* `plays_transition_seen`: what a transition of the stored row does.
-/

namespace ImportTracking

namespace Tracker

/-- The name of a known status is what the row stores. -/
theorem status_of_known? {t : Tracker} {s : Status} (h : t.known? = some s) :
    t.status = s.name := by
  have := List.find?_some h
  exact (by simpa using this : s.name = t.status).symm

theorem known?_of_status {t : Tracker} {s : Status} (h : t.status = s.name) :
    t.known? = some s := by
  rw [known?, h, Status.ofName?_name]

/-- A tracker that may be run is enqueued or started. -/
theorem isRunnable_iff {t : Tracker} :
    t.isRunnable = true ↔ t.known? = some .enqueued ∨ t.known? = some .started := by
  unfold isRunnable
  cases t.known? with
  | none => simp
  | some s => cases s <;> simp [Status.isRunnable]

namespace Transition

/-- What a transition writes when its event leads to `next`. -/
def update (tr : Transition) (next : Status) (now : Timestamp) : Database.TrackerUpdate :=
  { status := next.name, updatedAt := now, jid := tr.jid, batched := tr.batched }

/-- The row of a tracker after a transition whose event leads to `next`: what the transition does
not record stays as it was. -/
def result (tr : Transition) (t : Tracker) (next : Status) (now : Timestamp) : Tracker :=
  { t with
    status := next.name
    updatedAt := now
    jid := tr.jid.or t.jid
    batched := tr.batched.getD t.batched }

variable {tr : Transition} {t : Tracker} {next : Status} {now : Timestamp}

/-- The update is what makes the row so. -/
theorem applyTo_update : (tr.update next now).applyTo t = tr.result t next now := rfl

@[simp] theorem id_result : (tr.result t next now).id = t.id := rfl

@[simp] theorem known?_result : (tr.result t next now).known? = some next :=
  known?_of_status rfl

/-- The row that a transition put is found where the tracker was. -/
theorem tracker?_putTracker_result {db : Database} {id : Int} (h : db.tracker? id = some t) :
    (db.putTracker (tr.result t next now)).tracker? id = some (tr.result t next now) := by
  obtain rfl := Database.id_of_tracker? h
  exact Database.tracker?_putTracker_self h

end Transition

end Tracker

namespace Work

open Tracker

variable {κ : Clock} {db db' : Database} {log : List Exchange}

/-- One call of a task that looks a tracker up. -/
theorem advance_findTracker_bind {σ β : Type} (others : Surroundings σ) (sc : Scene σ) (id : Int)
    (f : Tracker → Session.Task β) :
    ∃ p, (onDatabase (Session.findTracker id >>= f)).run.advance (Scene.answer others) sc =
        (p, sc) ∧
      ((∃ t, sc.database.tracker? id = some t ∧ p = (onDatabase (f t)).run) ∨
        sc.database.tracker? id = none ∧ ∃ e, p = .done (.error e)) := by
  rw [Session.findTracker, bind_assoc]
  cases htab : sc.database.trackers with
  | none =>
      have hnone : sc.database.tracker? id = none := by
        simp [Database.tracker?, Database.trackerRows, htab]
      exact ⟨_, advance_query_bind_error (Database.execute_findTracker_of_none htab id),
        .inr ⟨hnone, _, rfl⟩⟩
  | some tab =>
      refine ⟨_, advance_query_bind_ok (Database.execute_findTracker_of_some htab id), ?_⟩
      cases sc.database.tracker? id with
      | none => exact .inr ⟨rfl, _, rfl⟩
      | some t => exact .inl ⟨t, rfl, rfl⟩

section
variable {β : Type} {r : Except Fault β}

/-- A task goes on with the tracker that is there. -/
theorem plays_findTracker_bind {id : Int} {t : Tracker} (ht : db.tracker? id = some t)
    {f : Tracker → Session.Task β} :
    Plays κ (onDatabase (Session.findTracker id >>= f)).run db log r db' ↔
      Plays κ (onDatabase (f t)).run db log r db' := by
  rw [Session.findTracker, bind_assoc, plays_query_bind_ok (Database.execute_findTracker ht)]
  exact Iff.rfl

/-- A task that looks for a tracker that is not there ends in a fault, always the same. -/
theorem plays_findTracker_bind_of_none {id : Int} (ht : db.tracker? id = none) :
    ∃ g, ∀ κ (f : Tracker → Session.Task β) log (r : Except Fault β) db',
      Plays κ (onDatabase (Session.findTracker id >>= f)).run db log r db' ↔
        log = [] ∧ r = .error g ∧ db' = db := by
  cases htab : db.trackers with
  | none =>
      refine ⟨.database (Database.Refusal.noSuchTable .trackers).onRead, fun κ f log r db' => ?_⟩
      rw [Session.findTracker, bind_assoc,
        plays_query_bind_error (Database.execute_findTracker_of_none htab id)]
  | some tab =>
      refine ⟨.notFound .tracker id, fun κ f log r db' => ?_⟩
      rw [Session.findTracker, bind_assoc,
        plays_query_bind_ok (Database.execute_findTracker_of_some htab id), ht]
      exact Iff.rfl

/-- A task goes on with the entity that is there. -/
theorem plays_findEntity_bind {id : Int} {e : Entity} (he : db.entity? id = some e)
    {f : Entity → Session.Task β} :
    Plays κ (onDatabase (Session.findEntity id >>= f)).run db log r db' ↔
      Plays κ (onDatabase (f e)).run db log r db' := by
  rw [Session.findEntity, bind_assoc, plays_query_bind_ok (Database.execute_findEntity he)]
  exact Iff.rfl

/-- A task that looks for an entity that is not there ends in a fault, always the same: that it is
not there, if there is a table to look in. -/
theorem plays_findEntity_bind_of_none {id : Int} (he : db.entity? id = none) :
    ∃ g, (∀ κ (f : Entity → Session.Task β) log (r : Except Fault β) db',
      Plays κ (onDatabase (Session.findEntity id >>= f)).run db log r db' ↔
        log = [] ∧ r = .error g ∧ db' = db) ∧
      (db.hasTable .entities = true → g.isNotFound = true) := by
  obtain hnone | ⟨htab, e, herr⟩ := Database.execute_findEntity_of_none he
  · refine ⟨.notFound .entity id, fun κ f log r db' => ?_, fun _ => rfl⟩
    rw [Session.findEntity, bind_assoc, plays_query_bind_ok hnone]
    exact Iff.rfl
  · refine ⟨.database e, fun κ f log r db' => ?_, fun h => ?_⟩
    · rw [Session.findEntity, bind_assoc, plays_query_bind_error herr]
    · rw [htab] at h
      cases h

/-- A task that looks a tracker up goes on with the one that is there. -/
theorem plays_found_bind {id : Int} {t : Tracker} (ht : db.tracker? id = some t)
    {f : Tracker → Task β}
    (h : Plays κ (onDatabase (Session.findTracker id) >>= f).run db log r db') :
    Plays κ (f t).run db log r db' := by
  have hfind {l : List Exchange} {x : Except Fault Tracker} {db₁ : Database}
      (hx : Plays κ (onDatabase (Session.findTracker id)).run db l x db₁) :
      l = [] ∧ x = .ok t ∧ db₁ = db := by
    rw [← bind_pure (Session.findTracker id), plays_findTracker_bind ht] at hx
    exact hx
  obtain ⟨l₁, l₂, t', db₁, rfl, hx, hnext⟩ | ⟨f, rfl, hx⟩ := plays_task_bind.mp h
  · obtain ⟨rfl, hok, rfl⟩ := hfind hx
    cases hok
    exact hnext
  · obtain ⟨-, herr, -⟩ := hfind hx
    cases herr

end

/-- **A transition of the stored row** whose event is allowed replaces the row by the one the
event leads to. -/
theorem plays_transition_seen (hk : db.Keyed) {t : Tracker} {tr : Transition} {s next : Status}
    (ht : db.tracker? t.id = some t) (hs : t.known? = some s)
    (hn : s.apply tr.event = some next) {r : Except Fault Tracker}
    (h : Plays κ (onDatabase (t.transition tr)).run db log r db') :
    log = [] ∧ ∃ now, r = .ok (tr.result t next now) ∧
      db' = db.putTracker (tr.result t next now) := by
  have hmove : t.transition tr = move t tr s next := by
    simp only [transition, statusOf, hs, nextStatus, hn]
  rw [hmove, move, plays_now_bind] at h
  obtain ⟨now, -, h⟩ := h
  -- the update meets the status that was seen
  obtain ⟨n, hn0, hupdate⟩ := Database.execute_update_seen hk ht (tr.update next now)
  rw [status_of_known? hs, Transition.applyTo_update] at hupdate
  replace h := (plays_query_bind_ok hupdate).mp h
  -- and the row is read back
  replace h := (plays_findTracker_bind (Transition.tracker?_putTracker_result ht)).mp h
  rw [if_neg hn0] at h
  obtain ⟨rfl, rfl, rfl⟩ := h
  exact ⟨rfl, now, rfl, rfl⟩

/-- A task goes on after a transition of the stored row, from where that left it. -/
theorem plays_transition_bind {β : Type} (hk : db.Keyed) {t : Tracker}
    {tr : Transition} {s next : Status} (ht : db.tracker? t.id = some t)
    (hs : t.known? = some s) (hn : s.apply tr.event = some next) {f : Tracker → Task β}
    {r : Except Fault β} (h : Plays κ (onDatabase (t.transition tr) >>= f).run db log r db') :
    ∃ now, Plays κ (f (tr.result t next now)).run (db.putTracker (tr.result t next now)) log r
      db' := by
  obtain ⟨l₁, l₂, t', db₁, rfl, hmove, hnext⟩ | ⟨f, rfl, hmove⟩ := plays_task_bind.mp h
  · obtain ⟨rfl, now, ht', rfl⟩ := plays_transition_seen hk ht hs hn hmove
    cases ht'
    exact ⟨now, hnext⟩
  · obtain ⟨-, now, ht', -⟩ := plays_transition_seen hk ht hs hn hmove
    cases ht'

end Work

end ImportTracking
