import ImportTracking.Delivery
import ImportTracking.Proofs.Protocols
import ImportTracking.Proofs.Stages

/-!
# Roles — what an errand owes to the tracker of its job

A tracker that is enqueued, or started without batches, waits to be run.  An errand that comes for
its lease, or works under it, owes the tracker that it does not wait for ever.  It has paid when it
sees that the tracker does not wait, moves it on, or schedules a job that will come for it; after a
fault it still owes, until it has scheduled a retry or failed the tracker.

`Role` says where an errand stands in this, and `duties` which calls it may make there.

* `keeps_transition`: what comes of a transition by the holder of the lease.
* `keeps_plain`: what is no part of a duty changes none.
-/

namespace ImportTracking

open Tracker (Status Transition isRunnable_iff)

/-- A tracker waits when it is enqueued, or started without batches. -/
def Tracker.Waiting (t : Tracker) : Prop :=
  t.known? = some .enqueued ∨ t.known? = some .started ∧ t.batched = false

instance (t : Tracker) : Decidable t.Waiting := inferInstanceAs (Decidable (_ ∨ _))

/-- A tracker that waits may be run. -/
theorem Tracker.Waiting.isRunnable {t : Tracker} (h : t.Waiting) : t.isRunnable = true :=
  isRunnable_iff.mpr (h.imp_right And.left)

/-- After the update no tracker waits. -/
def Database.TrackerUpdate.settles (u : Database.TrackerUpdate) : Bool :=
  match Status.ofName? u.status with
  | some .enqueued => false
  | some .started => u.batched == some true
  | _ => true

theorem Database.TrackerUpdate.not_waiting {u : Database.TrackerUpdate} (h : u.settles = true)
    (t : Tracker) : ¬(u.applyTo t).Waiting := by
  unfold settles at h
  rintro (he | ⟨hs, hb⟩)
  · rw [show Status.ofName? u.status = some .enqueued from he] at h
    cases h
  · rw [show Status.ofName? u.status = some .started from hs] at h
    replace hb : u.batched.getD t.batched = false := hb
    rw [show u.batched = some true by simpa using h] at hb
    cases hb

namespace Runtime

/-- Where an errand stands with the tracker of its job. -/
inductive Role where
  /-- It comes for the lease. -/
  | seeking
  /-- It holds the lease, and owes; the status that it saw last, if it did. -/
  | owing (status : Option String)
  /-- It holds the lease, and owes nothing. -/
  | content
  /-- It has released the lease after a fault, and owes. -/
  | faulted
  /-- It is about to fail the tracker, which it saw in this status. -/
  | ending (status : String)
  /-- It owes nothing. -/
  | idle
deriving DecidableEq

namespace Role

/-- Whether it holds the lease. -/
def holds : Role → Bool
  | owing _ | content => true
  | _ => false

/-- Whether it is going to fail the tracker. -/
def isEnding : Role → Bool
  | ending _ => true
  | _ => false

/-- The role once all is paid. -/
def paid (g : Role) : Role := if g.holds then content else idle

def afterReading (t : Tracker) : Role → Role
  | owing _ => if t.isRunnable then owing (some t.status) else content
  | faulted => if t.isRunnable then ending t.status else idle
  | g => g

/-- An update of the holder that meets no row has come too late: the tracker was failed. -/
def afterUpdate (u : Database.TrackerUpdate) (count : Nat) : Role → Role
  | owing _ =>
    if count = 0 then owing (some Status.failed.name)
    else if u.settles then content else owing (some u.status)
  | ending _ => idle
  | g => g

def afterAsking : Option Lease → Role
  | some _ => owing none
  | none => idle

def afterRelease : Role → Role
  | owing _ => faulted
  | content => idle
  | g => g

/-- The role after a call and its reply. -/
def next : Role → (c : Work.Call) → Work.Reply c → Role
  | g, .session (.query (.findTracker _)), .ok (some t) => g.afterReading t
  | g, .session (.query (.updateTracker _ _ u)), .ok count => g.afterUpdate u count
  | g, .request (.schedulePipeline _ _), _ => g.paid
  | _, .request (.obtainLease _ _), .ok lease => afterAsking lease
  | g, .request (.releaseLease _), _ => g.afterRelease
  | g, _, _ => g

/-- Whether it may write such an update, over this status. -/
def MayWrite (status : String) (u : Database.TrackerUpdate) : Role → Prop
  | owing s => s = some status
  | content => u.settles = true
  | ending s => s = status ∧ u.status = Status.failed.name
  | idle => u.status = Status.failed.name
  | _ => False

/-- The calls that an errand for `job` may make in a role. -/
def Allows (c : Coordinator) (job : PipelineJob) (g : Role) : Work.Call → Prop
  | .session (.query (.findTracker id)) => id = job.trackerId
  | .session (.query (.findEntity id)) => id = job.entityId
  | .session (.query (.updateTracker id status u)) => id = job.trackerId ∧ g.MayWrite status u
  | .request (.schedulePipeline job' _) =>
    job'.trackerId = job.trackerId ∧ job'.entityId = job.entityId ∧ g.isEnding = false
  | .request (.obtainLease key _) => g = seeking ∧ key = c.settings.leaseKey job.trackerId
  | .request (.releaseLease _) => g.holds = true
  | _ => True

/-- The replies that can be given while the rows are there, jobs are accepted and no one else holds
the lease. -/
def Expects (job : PipelineJob) (g : Role) : (c : Work.Call) → Work.Reply c → Prop
  | .session (.query (.findTracker _)), r =>
    ∃ t, r = .ok (some t) ∧ t.id = job.trackerId ∧
      ∀ s, g = owing (some s) → t.status = s ∨ t.status = Status.failed.name
  | .session (.query (.findEntity _)), r => ∃ e, r = .ok (some e)
  | .session (.query (.findImport _)), r => ∃ i, r = .ok i
  | .session (.query (.updateTracker _ _ _)), r => ∃ n, r = .ok n
  | .request (.schedulePipeline _ _), r => r = .ok ()
  | .request (.obtainLease _ _), r => ∃ lease, r = .ok lease
  | _, _ => True

end Role

/-- What an errand for a job keeps to. -/
def duties (c : Coordinator) (job : PipelineJob) : Protocol Work Role :=
  ⟨Role.Allows c job, Role.Expects job, Role.next⟩

section
open Protocol Work

variable {c : Coordinator} {job : PipelineJob} {g : Role}

/-- Plain calls are part of no duty. -/
theorem keeps_plain {α : Type} {p : Program Work α} {post : Role → α → Prop}
    (hp : p.Confined Plain) (h : ∀ a, post g a) : (duties c job).Keeps post p g := by
  refine .of_confined hp (fun call hc => ?_) (fun call r hc => ?_) h
  · rcases call with (q | _ | _ | _ | _) | q
    · cases q <;> first | exact trivial | exact hc.elim
    all_goals first | exact trivial | (cases q <;> first | exact trivial | exact hc.elim)
  · rcases call with (q | _ | _ | _ | _) | q
    · cases q <;> first | rfl | exact hc.elim
    all_goals first | rfl | (cases q <;> first | rfl | exact hc.elim)

section
variable {β : Type} {post : Role → Except Fault β → Prop}

/-- The tracker that is looked up is there. -/
theorem keeps_findTracker_bind {id : Int} {f : Tracker → Session.Task β}
    (hid : id = job.trackerId)
    (h : ∀ t, t.id = job.trackerId →
      (∀ s, g = .owing (some s) → t.status = s ∨ t.status = Status.failed.name) →
      (duties c job).Keeps post (onDatabase (f t)).run (g.afterReading t)) :
    (duties c job).Keeps post (onDatabase (Session.findTracker id >>= f)).run g := by
  rw [Session.findTracker, bind_assoc]
  refine keeps_query_bind hid (fun x hx => ?_) fun e hx => ?_
  · obtain ⟨t, ht, hid', hs⟩ := hx
    cases ht
    exact h t hid' hs
  · obtain ⟨t, ht, -⟩ := hx
    cases ht

theorem keeps_findTracker_task {f : Tracker → Work.Task β}
    (h : ∀ t, t.id = job.trackerId →
      (∀ s, g = .owing (some s) → t.status = s ∨ t.status = Status.failed.name) →
      (duties c job).Keeps post (f t).run (g.afterReading t)) :
    (duties c job).Keeps post (onDatabase (Session.findTracker job.trackerId) >>= f).run g := by
  refine Keeps.task_bind (M := fun g' r => ∃ t, r = .ok t ∧
    (duties c job).Keeps post (f t).run g') ?_ (fun g' t hx => ?_) fun g' e hx => ?_
  · rw [← bind_pure (Session.findTracker job.trackerId)]
    exact keeps_findTracker_bind rfl fun t hid hs => ⟨t, rfl, h t hid hs⟩
  · obtain ⟨_, ht, hk⟩ := hx
    cases ht
    exact hk
  · obtain ⟨_, ht, -⟩ := hx
    cases ht

end

/-! ### Transitions -/

section
variable {t : Tracker} {tr : Transition} {current next : Status}

/-- A transition writes the row, if its status is still the one seen, and reads it back. -/
theorem keeps_transition {post : Role → Except Fault Tracker → Prop}
    (hs : t.known? = some current) (hn : current.apply tr.event = some next)
    (hid : t.id = job.trackerId) (hw : ∀ now, g.MayWrite current.name (tr.update next now))
    (h : ∀ now n t' r, t'.id = job.trackerId →
      (∀ s, g.afterUpdate (tr.update next now) n = .owing (some s) →
        t'.status = s ∨ t'.status = Status.failed.name) →
      (r = .ok t' ∨ n = 0 ∧ ∃ f, r = .error f ∧ f.isNotFound = false) →
      post ((g.afterUpdate (tr.update next now) n).afterReading t') r) :
    (duties c job).Keeps post (onDatabase (t.transition tr)).run g := by
  have hmove : t.transition tr = t.move tr current next := by
    simp only [Tracker.transition, Tracker.statusOf, hs, Tracker.nextStatus, hn]
  rw [hmove]
  refine ⟨trivial, fun now _ => ?_⟩
  -- what the update met decides what is made of the row that is read back
  have hrest (n : Nat) : (duties c job).Keeps post (onDatabase (Session.findTracker t.id >>=
      Attempt.verdict ⟨t, tr⟩ next n)).run (g.afterUpdate (tr.update next now) n) := by
    refine keeps_findTracker_bind hid fun t' hid' hs' => ?_
    obtain ⟨r, hr, hgood, hbad⟩ := Attempt.verdict_done ⟨t, tr⟩ next n t'
    rw [hr]
    refine h now n t' r hid' hs' ?_
    by_cases hc : n = 0
    · obtain ⟨rfl, -⟩ | hf := hbad hc
      · exact .inl rfl
      · exact .inr ⟨hc, hf⟩
    · exact .inl (hgood hc)
  refine keeps_query_bind (s := .updateTracker t.id current.name (tr.update next now))
    ⟨hid, hw now⟩ (fun n _ => hrest n) fun e he => ?_
  obtain ⟨n, hn⟩ := he
  cases hn

/-- A transition after which no tracker waits. -/
def settles (tr : Transition) : Status → Bool
  | .enqueued => false
  | .started => tr.batched == some true
  | _ => true

theorem settles_update (tr : Transition) (next : Status) (now : Timestamp) :
    (tr.update next now).settles = settles tr next := by
  rw [Database.TrackerUpdate.settles, show (tr.update next now).status = next.name from rfl,
    Status.ofName?_name]
  cases next <;> rfl

theorem isRunnable_of_not_settles (h : settles tr next = false) : next.isRunnable = true := by
  cases next <;> first | rfl | cases h

theorem not_isRunnable_of_failed (h : t.status = Status.failed.name) : t.isRunnable = false := by
  rw [Tracker.isRunnable, Tracker.known?_of_status h]
  rfl

/-- **A transition by the holder of the lease** is done, or finds that the tracker was failed. -/
theorem keeps_transition_owing (hs : t.known? = some current)
    (hn : current.apply tr.event = some next) (hid : t.id = job.trackerId) :
    (duties c job).Keeps (fun g r => match r with
      | .ok t' => t'.id = job.trackerId ∧
        (g = .content ∧ (settles tr next = true ∨ t'.known? = some .failed) ∨
          g = .owing (some t'.status) ∧ t'.known? = some next ∧ settles tr next = false)
      | .error f => g = .content ∧ f.isNotFound = false)
      (onDatabase (t.transition tr)).run (.owing (some t.status)) := by
  refine keeps_transition hs hn hid (fun _ => congrArg some (Tracker.status_of_known? hs))
    fun now n t' r hid' hs' hr => ?_
  rw [Role.afterUpdate, settles_update] at hs' ⊢
  by_cases hc : n = 0
  · -- the row was failed by another one in between
    rw [if_pos hc] at hs' ⊢
    have hfailed : t'.status = Status.failed.name := (hs' _ rfl).elim id id
    rw [Role.afterReading, not_isRunnable_of_failed hfailed, if_neg Bool.false_ne_true]
    obtain rfl | ⟨-, f, rfl, hf⟩ := hr
    · exact ⟨hid', .inl ⟨rfl, .inr (Tracker.known?_of_status hfailed)⟩⟩
    · exact ⟨rfl, hf⟩
  · obtain rfl : r = .ok t' := hr.resolve_right fun h => hc h.1
    rw [if_neg hc] at hs' ⊢
    cases hset : settles tr next with
    | true => exact ⟨hid', .inl ⟨rfl, .inl rfl⟩⟩
    | false =>
        rw [hset, if_neg Bool.false_ne_true] at hs'
        rw [if_neg Bool.false_ne_true]
        obtain hnext | hfailed := hs' _ rfl
        · have hknown := Tracker.known?_of_status (s := next) hnext
          have hrun : t'.isRunnable = true := by
            rw [Tracker.isRunnable, hknown]
            exact isRunnable_of_not_settles hset
          rw [Role.afterReading, if_pos hrun]
          exact ⟨hid', .inr ⟨rfl, hknown, rfl⟩⟩
        · rw [Role.afterReading, not_isRunnable_of_failed hfailed, if_neg Bool.false_ne_true]
          exact ⟨hid', .inl ⟨rfl, .inr (Tracker.known?_of_status hfailed)⟩⟩

/-- An event that is not allowed makes no call. -/
theorem keeps_transition_refused {post : Role → Except Fault Tracker → Prop}
    (h : ∀ s, t.known? = some s → s.apply tr.event = none) (hpost : ∀ f, post g (.error f)) :
    (duties c job).Keeps post (onDatabase (t.transition tr)).run g := by
  cases hs : t.known? with
  | none =>
      simp only [Tracker.transition, Tracker.statusOf, hs]
      exact hpost _
  | some s =>
      rw [show (onDatabase (t.transition tr)).run = ofSession (t.transition tr).run from rfl,
        Tracker.transition_of_not_allowed hs (h s hs)]
      exact hpost _

/-- Where nothing is owed, a transition that settles the tracker changes nothing about that. -/
theorem keeps_transition_content (hid : t.id = job.trackerId)
    (h : ∀ s next, t.known? = some s → s.apply tr.event = some next → settles tr next = true) :
    (duties c job).Keeps (fun g r => g = .content ∧ ∀ t', r = .ok t' → t'.id = job.trackerId)
      (onDatabase (t.transition tr)).run .content := by
  by_cases hnone : ∀ s, t.known? = some s → s.apply tr.event = none
  · exact keeps_transition_refused hnone fun f => ⟨rfl, nofun⟩
  · push Not at hnone
    obtain ⟨s, hs, hsome⟩ := hnone
    obtain ⟨next, hn⟩ := Option.ne_none_iff_exists'.mp hsome
    refine keeps_transition hs hn hid
      (fun now => (settles_update tr next now).trans (h s next hs hn))
      fun now n t' r hid' _ hr => ⟨rfl, fun t'' ht => ?_⟩
    obtain rfl | ⟨-, f, rfl, -⟩ := hr
    · cases ht
      exact hid'
    · cases ht

/-- Where an errand may fail the tracker that it saw. -/
def MayFail (t : Tracker) (g : Role) : Prop :=
  (g = .owing (some t.status) ∨ g = .ending t.status) ∧ t.isRunnable = true ∨ g = .content ∨
    g = .idle

/-- After it is failed nothing is owed to a tracker. -/
theorem keeps_transition_fail (hid : t.id = job.trackerId) (hg : MayFail t g)
    (htr : tr.event = .fail) :
    (duties c job).Keeps (fun g' _ => g' = g.paid) (onDatabase (t.transition tr)).run g := by
  have hfail (s : Status) : s.apply tr.event = some .failed := by
    rw [htr]
    cases s <;> rfl
  obtain ⟨hg, hrun⟩ | rfl | rfl := hg
  · obtain ⟨s, hs⟩ : ∃ s, t.known? = some s := by
      obtain hs | hs := isRunnable_iff.mp hrun
      · exact ⟨_, hs⟩
      · exact ⟨_, hs⟩
    obtain rfl | rfl := hg
    · refine (keeps_transition_owing hs (hfail s) hid).mono fun g r hr => ?_
      cases r with
      | error f => exact hr.1
      | ok t' =>
          obtain ⟨-, ⟨hg, -⟩ | ⟨-, -, hset⟩⟩ := hr
          · exact hg
          · cases hset
    · exact keeps_transition hs (hfail s) hid
        (fun _ => ⟨Tracker.status_of_known? hs, rfl⟩) fun _ _ _ _ _ _ _ => rfl
  · refine (keeps_transition_content hid fun s next _ hn => ?_).mono fun g r hr => hr.1
    rw [hfail s] at hn
    cases hn
    rfl
  · cases hs : t.known? with
    | none =>
        refine keeps_transition_refused (fun s h => ?_) fun f => rfl
        rw [hs] at h
        cases h
    | some s => exact keeps_transition hs (hfail s) hid (fun _ => rfl) fun _ _ _ _ _ _ _ => rfl

end

end

end Runtime

end ImportTracking
