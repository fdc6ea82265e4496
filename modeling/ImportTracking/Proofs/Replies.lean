import ImportTracking.Proofs.Course
import ImportTracking.Proofs.Mirror

/-!
# Replies — collaborators that answer alike, whatever is asked

To ask what an invocation does when it is made again, its collaborators have to answer alike both
times.  `Replies` fixes what the health signal, the source instance, the pipeline and the scheduler
answer, and `Replies.around` puts them around a program, at one time, with leases from a store of
either kind.

* `Lease.Keeping.refused_again`: a lease that is refused is refused again at the same time.
* `heard_run`: every run among them notes the replies that were fixed, and leaves the store as its
  calls do.
-/

namespace ImportTracking

/-! ### Lease stores of either kind -/

namespace Lease

/-- Where leases are kept: within a process, with its clock at an instant, or in a database. -/
inductive Keeping where
  | memory (m : Memory) (instant : Nat)
  | shared (db : Database)

namespace Keeping

/-- A lease is asked for, with the token that is generated for it. -/
def obtain_ (now : Timestamp) (token key : String) (ttl : Duration) :
    Keeping → Except Cause (Option Lease) × Keeping
  | memory m instant =>
    let r := m.tryObtain instant token key ttl
    (.ok r.1, memory r.2 instant)
  | shared db =>
    let r := Session.run (Shared.tryObtain key ttl) (Shared.visit db now token)
    (r.1, shared r.2.database)

def release (now : Timestamp) (lease : Lease) : Keeping → Except Cause Unit × Keeping
  | memory m instant => (.ok (), memory (m.release lease) instant)
  | shared db =>
    let r := Session.run (Shared.release lease) (Shared.visit db now "")
    (r.1, shared r.2.database)

/-- The rows of leases in a database are as its indexes keep them. -/
def Sound : Keeping → Prop
  | memory _ _ => True
  | shared db => ∀ t, db.leases = some t → Database.Orderly t

/-- A reply that is not a lease. -/
def Refusal (reply : Except Cause (Option Lease)) : Prop := ∀ lease, reply ≠ .ok (some lease)

end Keeping

namespace Shared

open Keeping (Refusal)

variable {db : Database} {t : Database.Table Row} {key token : String} {ttl : Duration}
  {now : Timestamp}

/-- Without its table no lease can be had. -/
theorem run_tryObtain_of_none (ht : db.leases = none) (key : String) (ttl : Duration)
    (token : String) :
    ∃ cause, Session.run (tryObtain key ttl) (visit db now token) =
      (.error cause, visit db now token) := by
  have hfind : Database.execute (.findLease key) db =
      (.error (Database.Refusal.noSuchTable .leases).onRead, db) := by
    simp only [Database.execute, ht, Database.readable]
    rfl
  rw [tryObtain_eq, Session.run_now_bind, Session.run_tryQuery_bind hfind]
  exact ⟨_, rfl⟩

/-- A lease that cannot be asked for so long is not written. -/
theorem run_write_of_long (httl : ¬ttl.nanos ≤ longestTtl) (db : Database) (key token : String) :
    ∃ cause, (Session.run (write key ttl) (visit db now token)).1 = .error cause ∧
      (Session.run (write key ttl) (visit db now token)).2.database = db := by
  rw [write, Session.run_now_bind, Session.run_newToken_bind, if_neg httl]
  exact ⟨_, rfl, rfl⟩

/-- A lease on a key without a row is refused only if it is asked for too long, and then again. -/
theorem write_refused (ht : db.leases = some t) (hfree : ∀ r ∈ t.rows, r.key ≠ key)
    (h : Refusal (Session.run (write key ttl) (visit db now token)).1) :
    (Session.run (write key ttl) (visit db now token)).2.database = db ∧
      ∀ token', Refusal (Session.run (tryObtain key ttl) (visit db now token')).1 := by
  by_cases httl : ttl.nanos ≤ longestTtl
  · exact absurd (run_write now token ht hfree httl).1 (h _)
  · obtain ⟨_, -, hdb⟩ := run_write_of_long httl db key token
    refine ⟨hdb, fun token' lease hgot => ?_⟩
    obtain ⟨cause, herr, -⟩ := run_write_of_long httl db key token'
    rw [run_tryObtain ht, (Database.lease?_eq_none_iff ht).mpr hfree] at hgot
    rw [show found key ttl now (.ok none) = write key ttl from rfl, herr] at hgot
    cases hgot

end Shared

namespace Keeping

variable {now : Timestamp} {token key : String} {ttl : Duration}

/-- **A lease that is refused is refused again** at the same time. -/
theorem refused_again {k : Keeping} (hk : k.Sound) (h : Refusal (k.obtain_ now token key ttl).1)
    (token' : String) : Refusal ((k.obtain_ now token key ttl).2.obtain_ now token' key ttl).1 := by
  cases k with
  | memory m instant =>
      by_cases hheld : m.isHeld instant key = true
      · have hsame (token : String) : m.tryObtain instant token key ttl = (none, m) := by
          rw [Memory.tryObtain, if_pos hheld]
        simp only [obtain_, hsame]
        exact fun _ h => by cases h
      · refine absurd ?_ (h ⟨key, token⟩)
        simp only [obtain_, Memory.tryObtain, if_neg hheld]
  | shared db =>
      show Refusal (Session.run (Shared.tryObtain key ttl) (Shared.visit
        (Session.run (Shared.tryObtain key ttl) (Shared.visit db now token)).2.database now
        token')).1
      replace h : Refusal
        (Session.run (Shared.tryObtain key ttl) (Shared.visit db now token)).1 := h
      cases ht : db.leases with
      | none =>
          obtain ⟨_, hfirst⟩ := Shared.run_tryObtain_of_none ht key ttl token
          obtain ⟨_, hsecond⟩ := Shared.run_tryObtain_of_none ht key ttl token'
          rw [hfirst]
          show Refusal (Session.run _ (Shared.visit db now token')).1
          rw [hsecond]
          exact fun _ h => by cases h
      | some t =>
          have ho := hk t ht
          rw [Shared.run_tryObtain ht] at h ⊢
          cases hrow : db.lease? key with
          | none =>
              rw [hrow] at h
              obtain ⟨hdb, hagain⟩ :=
                Shared.write_refused ht ((Database.lease?_eq_none_iff ht).mp hrow) h
              rw [show Shared.found key ttl now (.ok none) = Shared.write key ttl from rfl, hdb]
              exact hagain token'
          | some row =>
              rw [hrow] at h
              by_cases hvalid : row.expiresAt ≤ now
              · -- the expired row is gone, and the lease was asked for too long
                have hfree : ∀ r ∈
                    (t.filter fun l => !(l.id == row.id && l.token == row.token)).rows,
                    r.key ≠ key := by
                  intro r hr hkey
                  obtain ⟨hr, hkeep⟩ := Database.Table.mem_filter.mp hr
                  obtain rfl := Option.some.inj
                    (((ho.lease?_eq_some_iff ht).mpr ⟨hr, hkey⟩).symm.trans hrow)
                  simp at hkeep
                rw [Shared.run_found_of_expired ht hvalid] at h ⊢
                obtain ⟨hdb, hagain⟩ := Shared.write_refused rfl hfree h
                rw [hdb]
                exact hagain token'
              · rw [Shared.found_of_valid key ttl hvalid]
                show Refusal (Session.run _ (Shared.visit db now token')).1
                rw [Shared.run_tryObtain ht, hrow, Shared.found_of_valid key ttl hvalid]
                exact fun _ h => by cases h

end Keeping

end Lease

/-! ### Replies that are fixed -/

namespace Work

open Lease (Keeping)

/-- What collaborators answer, whatever the question says: the health signal, the source instance
and the pipeline once, and the scheduler to the first job that it is offered, the second, and so
on. -/
structure Replies where
  load : Except Cause Bool
  exported : Except Cause Export.Payload
  ran : Except Cause Pipeline.Outcome
  scheduled : Nat → Except Cause Unit

/-- Where such collaborators stand: the leases, and how many jobs the scheduler was offered. -/
structure Stand where
  leases : Keeping
  offered : Nat := 0

/-- The reply to a request, at a time and with a token for a lease. -/
def Replies.turn (rs : Replies) (now : Timestamp) (token : String) :
    (r : Request) → Stand → r.Reply × Stand
  | .isUnderLoad _ _, s => (rs.load, s)
  | .obtainLease key ttl, s =>
    let r := s.leases.obtain_ now token key ttl
    (r.1, { s with leases := r.2 })
  | .releaseLease lease, s =>
    let r := s.leases.release now lease
    (r.1, { s with leases := r.2 })
  | .readExport _ _ _, s => (rs.exported, s)
  | .runPipeline _ _, s => (rs.ran, s)
  | .schedulePipeline _ _, s => (rs.scheduled s.offered, { s with offered := s.offered + 1 })
  | .scheduleBatch _, s => (rs.scheduled s.offered, { s with offered := s.offered + 1 })
  | .performBatch _, s => (.ok (), s)
  | .track _ _, s => ((), s)

/-- Collaborators that reply so, at one time; ids are generated in the order of `ids`. -/
def Replies.around (rs : Replies) (now : Timestamp) (ids : Nat → String) :
    Surroundings (Stand × Nat)
  | .session (.query _), s => (.error default, s)
  | .session .now, s => (now, s)
  | .session .newJid, s => (ids s.2, (s.1, s.2 + 1))
  | .session .newCorrelation, s => (ids s.2, (s.1, s.2 + 1))
  | .session .newToken, s => (ids s.2, (s.1, s.2 + 1))
  | .request r, s =>
    let x := rs.turn now (ids s.2) r s.1
    (x.1, (x.2, s.2 + 1))

/-- The replies of a log are theirs, and take them from `s` to `s'`. -/
def Heard (rs : Replies) (now : Timestamp) : Stand → List Exchange → Stand → Prop
  | s, [], s' => s' = s
  | s, x :: log, s' =>
    ∃ token, x.2 = (rs.turn now token x.1 s).1 ∧ Heard rs now (rs.turn now token x.1 s).2 log s'

variable {rs : Replies} {now : Timestamp} {ids : Nat → String} {s s' : Stand}

/-- A log that is heard is heard in parts. -/
theorem heard_append {l₁ l₂ : List Exchange} :
    Heard rs now s (l₁ ++ l₂) s' ↔ ∃ m, Heard rs now s l₁ m ∧ Heard rs now m l₂ s' := by
  induction l₁ generalizing s with
  | nil =>
      constructor
      · exact fun h => ⟨s, rfl, h⟩
      · rintro ⟨_, rfl, h⟩
        exact h
  | cons x l ih =>
      constructor
      · rintro ⟨token, hx, h⟩
        obtain ⟨m, h₁, h₂⟩ := ih.mp h
        exact ⟨m, ⟨token, hx, h₁⟩, h₂⟩
      · rintro ⟨m, ⟨token, hx, h₁⟩, h₂⟩
        exact ⟨token, hx, ih.mpr ⟨m, h₁, h₂⟩⟩

/-- **What a run among them notes is heard.** -/
theorem heard_run {α : Type} (rs : Replies) (now : Timestamp) (ids : Nat → String)
    (p : Program Work α) (sc : Scene (Stand × Nat)) :
    ∃ log, (p.run (Scene.answer (rs.around now ids)) sc).2.exchanges = sc.exchanges ++ log ∧
      Heard rs now sc.around.1 log (p.run (Scene.answer (rs.around now ids)) sc).2.around.1 := by
  -- what follows a call runs from the scene the call leaves, so the scene is any
  induction p generalizing sc with
  | done a => exact ⟨[], by simp, rfl⟩
  | call c next ih =>
      rw [Program.run_call]
      obtain ⟨log, hl, hh⟩ := ih (Scene.answer (rs.around now ids) c sc).1
        (Scene.answer (rs.around now ids) c sc).2
      cases c with
      | session c => cases c <;> exact ⟨log, hl, hh⟩
      | request r =>
          refine ⟨⟨r, (rs.turn now (ids sc.around.2) r sc.around.1).1⟩ :: log, ?_, ids sc.around.2,
            rfl, hh⟩
          rw [hl]
          simp [Scene.answer, Scene.consult, Replies.around]

end Work

end ImportTracking
