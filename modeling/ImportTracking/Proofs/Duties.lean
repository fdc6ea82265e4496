import ImportTracking.Proofs.Roles

/-!
# Duties — what an errand does with the tracker of its job

An errand that handles a job keeps to the duties of its role from its first call to its last.  The
proof follows the program: what is done under the lease leaves nothing owed, or a fault that is no
missing row; after a fault a retry is scheduled, or the tracker failed.

* `keeps_performLocked`: the work under the lease pays, or ends in a fault.
* `keeps_deliver`: an errand owes nothing in the end.
-/

namespace ImportTracking.Runtime

open Tracker (Status Transition isRunnable_iff)
open Protocol Work
open Invocation (Outcome)

variable {c : Coordinator} {job : PipelineJob} {g : Role}

/-- A job that is put back will come for the tracker. -/
theorem keeps_reEnqueue (hg : g.isEnding = false) (delay : Duration) :
    (duties c job).Keeps (fun g' _ => g' = g.paid) (reEnqueue job delay).run g :=
  ⟨trivial, fun _ _ => ⟨⟨rfl, rfl, hg⟩, fun r _ => by cases r <;> rfl⟩⟩

theorem keeps_reEnqueue_return {β : Type} (hg : g.isEnding = false) (delay : Duration) (b : β) :
    (duties c job).Keeps (fun g' _ => g' = g.paid)
      (do reEnqueue job delay; return b : Work.Task β).run g :=
  (keeps_reEnqueue hg delay).task_bind (fun _ _ h => h) fun _ _ h => h

/-- A tracker that is failed is owed nothing, whether the failure can be recorded or not. -/
theorem keeps_failTracker {t : Tracker} {e : Entity} {report : FaultReport} {a : Attributes}
    {jid correlation : String} (hid : t.id = job.trackerId) (hg : MayFail t g) :
    (duties c job).Keeps (fun g' _ => g' = g.paid)
      (FailureLog.failTracker t e report a jid (some correlation)).run g := by
  refine (keeps_transition_fail hid hg rfl).task_bind (fun g' t' hg' => ?_) fun g' f hg' => hg'
  refine ⟨trivial, fun _ _ => ⟨trivial, fun now _ => ⟨trivial, fun r _ => ?_⟩⟩⟩
  cases r <;> exact hg'

/-! ### Under the lease -/

/-- What a turn leaves: nothing is owed, or there is a fault. -/
def Turned (g : Role) (r : Except Fault Outcome) : Prop :=
  g = .content ∨ (∃ s, g = .owing s) ∧ ∃ f, r = .error f ∧ f.isNotFound = false

variable {t : Tracker} {e : Entity}

/-- A started tracker is finished, or put back and a job scheduled, or there is a fault. -/
theorem keeps_runPipeline {p : Pipeline} (hid : t.id = job.trackerId)
    (hg : g = .content ∧ t.known? = some .failed ∨
      g = .owing (some t.status) ∧ t.known? = some .started) :
    (duties c job).Keeps Turned (Coordinator.runPipeline p t e job).run g := by
  have hrole : g = .content ∨ ∃ s, g = .owing s :=
    hg.imp And.left fun h => ⟨_, h.1⟩
  have hending : g.isEnding = false := by
    obtain rfl | ⟨s, rfl⟩ := hrole <;> rfl
  refine Keeps.task_bind (M := fun g' r => g' = g ∧ ∀ f, r = .error f → f.isNotFound = false)
    (keeps_expect ⟨trivial, fun r _ => ?_⟩) (fun g' outcome h => ?_) fun g' f h => ?_
  · refine ⟨rfl, fun f hf => ?_⟩
    cases r with
    | ok o => cases hf
    | error cause =>
        cases hf
        rfl
  · obtain ⟨rfl, -⟩ := h
    cases outcome with
    | ok =>
        obtain ⟨rfl, -⟩ | ⟨rfl, hs⟩ := hg
        · refine (keeps_transition_content hid fun s next _ hn => ?_).task_bind
            (fun g' _ h => .inl h.1) fun g' _ h => .inl h.1
          cases s <;> cases hn <;> rfl
        · refine (keeps_transition_owing hs rfl hid).task_bind (fun g' t' h => ?_)
            fun g' f h => .inl h.1
          obtain ⟨-, ⟨rfl, -⟩ | ⟨-, -, hset⟩⟩ := h
          · exact .inl rfl
          · cases hset
    | retry delay reason =>
        obtain ⟨rfl, hs⟩ | ⟨rfl, hs⟩ := hg
        · refine Keeps.task_bind (M := fun g r => g = .content) (keeps_transition_refused
            (fun s h => ?_) fun f => rfl) (fun g' _ h => ?_) fun g' f h => .inl h
          · obtain rfl := Option.some.inj (hs.symm.trans h)
            rfl
          · subst h
            exact (keeps_reEnqueue_return rfl delay _).mono fun g r h => .inl h
        · refine (keeps_transition_owing hs rfl hid).task_bind (fun g' t' h => ?_)
            fun g' f h => .inl h.1
          obtain ⟨-, ⟨rfl, -⟩ | ⟨rfl, -, -⟩⟩ := h
          · exact (keeps_reEnqueue_return rfl delay _).mono fun g r h => .inl h
          · exact (keeps_reEnqueue_return rfl delay _).mono fun g r h => .inl h
    | fatal errorClass message => exact hrole.imp_right fun h => ⟨h, _, rfl, rfl⟩
  · obtain ⟨rfl, hf⟩ := h
    exact hrole.imp_right fun h => ⟨h, f, rfl, hf f rfl⟩

/-- A tracker that may be run is started. -/
theorem keeps_start (hid : t.id = job.trackerId) (hrun : t.isRunnable = true)
    (batched : Option Bool) :
    (duties c job).Keeps (fun g r => match r with
      | .ok t' => t'.id = job.trackerId ∧
        (g = .content ∧ (batched = some true ∨ t'.known? = some .failed) ∨
          g = .owing (some t'.status) ∧ t'.known? = some .started ∧ batched ≠ some true)
      | .error f => g = .content ∧ f.isNotFound = false)
      (Coordinator.start t job batched).run (.owing (some t.status)) := by
  have hstart : ∃ s : Status, t.known? = some s ∧ s.apply .start = some .started := by
    obtain hs | hs := isRunnable_iff.mp hrun
    · exact ⟨_, hs, rfl⟩
    · exact ⟨_, hs, rfl⟩
  obtain ⟨s, hs, hn⟩ := hstart
  refine (keeps_transition_owing (c := c) hs hn hid).mono fun g r h => ?_
  cases r with
  | error f => exact h
  | ok t' => simpa [settles] using h

/-- **Carrying a decision out** pays, or ends in a fault. -/
theorem keeps_act (hid : t.id = job.trackerId) (hrun : t.isRunnable = true) (d : Decision)
    (p : Option Pipeline) :
    (duties c job).Keeps Turned (c.act d p t e job).run (.owing (some t.status)) := by
  cases d with
  | skip =>
      have hskip : ∃ s : Status, t.known? = some s ∧ s.apply .skip = some .skipped := by
        obtain hs | hs := isRunnable_iff.mp hrun
        · exact ⟨_, hs, rfl⟩
        · exact ⟨_, hs, rfl⟩
      obtain ⟨s, hs, hn⟩ := hskip
      refine (keeps_transition_owing hs hn hid).task_bind (fun g' t' h => ?_) fun g' f h => .inl h.1
      obtain ⟨-, ⟨rfl, -⟩ | ⟨-, -, hset⟩⟩ := h
      · exact .inl rfl
      · cases hset
  | fail f => exact .inr ⟨⟨_, rfl⟩, _, rfl, rfl⟩
  | reEnqueue => exact (keeps_reEnqueue_return rfl _ _).mono fun g r h => .inl h
  | finishEmptyBatched =>
      refine (keeps_start hid hrun (some true)).task_bind (fun g' t' h => ?_) fun g' f h => .inl h.1
      obtain ⟨hid', ⟨rfl, -⟩ | ⟨-, -, hne⟩⟩ := h
      · refine (keeps_transition_content hid' fun s next _ hn => ?_).task_bind
          (fun g' _ h => .inl h.1) fun g' _ h => .inl h.1
        cases s <;> cases hn <;> rfl
      · exact absurd rfl hne
  | startBatched count =>
      refine (keeps_start hid hrun (some true)).task_bind (fun g' t' h => ?_) fun g' f h => .inl h.1
      obtain ⟨-, ⟨rfl, -⟩ | ⟨-, -, hne⟩⟩ := h
      · refine Keeps.task_bind (M := fun g _ => g = .content)
          (keeps_plain (confined_enqueueAll t' count) fun _ => rfl) (fun g' _ h => .inl h)
          fun g' _ h => .inl h
      · exact absurd rfl hne
  | run =>
      cases p with
      | none => exact .inr ⟨⟨_, rfl⟩, _, rfl, rfl⟩
      | some p =>
          refine (keeps_start hid hrun none).task_bind (fun g' t' h => ?_) fun g' f h => .inl h.1
          obtain ⟨hid', ⟨rfl, hf⟩ | ⟨rfl, hs, -⟩⟩ := h
          · exact keeps_runPipeline hid' (.inl ⟨rfl, hf.resolve_left nofun⟩)
          · exact keeps_runPipeline hid' (.inr ⟨rfl, hs⟩)

/-- A turn pays, or ends in a fault. -/
theorem keeps_runTracker (hid : t.id = job.trackerId) (hrun : t.isRunnable = true) :
    (duties c job).Keeps Turned (c.runTracker t e job).run (.owing (some t.status)) := by
  refine Keeps.lift_bind (M := fun g _ => g = .owing (some t.status))
    (keeps_plain (confined_pollExport _ t e) fun _ => rfl) fun g' o h => ?_
  subst h
  exact ⟨trivial, fun now _ => keeps_act hid hrun _ _⟩

/-- A terminal fault is recorded, and with that all is paid. -/
theorem keeps_recordIfTerminal {a : Attributes} {f : Fault}
    (hg : Turned g (.error f)) :
    (duties c job).Keeps Turned (Coordinator.recordIfTerminal e a job f).run g := by
  unfold Coordinator.recordIfTerminal
  split
  · refine keeps_findTracker_task fun t hid _ => ?_
    have hfail : MayFail t (g.afterReading t) ∧ (g.afterReading t).paid = .content := by
      obtain rfl | ⟨⟨s, rfl⟩, -⟩ := hg
      · exact ⟨.inr (.inl rfl), rfl⟩
      · rw [Role.afterReading]
        by_cases hrun : t.isRunnable = true
        · rw [if_pos hrun]
          exact ⟨.inl ⟨.inl rfl, hrun⟩, rfl⟩
        · rw [if_neg hrun]
          exact ⟨.inr (.inl rfl), rfl⟩
    exact (keeps_failTracker hid hfail.1).task_bind (fun g' _ h => .inl (h.trans hfail.2))
      fun g' _ h => .inl (h.trans hfail.2)
  · exact hg

/-- **The work under the lease** pays, or ends in a fault. -/
theorem keeps_performLocked (a : Attributes) :
    (duties c job).Keeps Turned (c.performLocked job e a).run (.owing none) := by
  refine keeps_findTracker_task fun t hid _ => ?_
  by_cases hrun : t.isRunnable = true
  · rw [if_pos hrun, Role.afterReading, if_pos hrun]
    refine (keeps_runTracker hid hrun).tryCatch (fun g o h => .inl (h.resolve_right fun h => ?_))
      fun g f h => keeps_recordIfTerminal h
    obtain ⟨-, _, hf, -⟩ := h
    cases hf
  · rw [if_neg hrun, Role.afterReading, if_neg hrun]
    exact .inl rfl

/-! ### Without the lease -/

/-- What an invocation leaves: nothing is owed, or there is a fault. -/
def Done (g : Role) (r : Except Fault Outcome) : Prop :=
  g = .idle ∨ g = .faulted ∧ ∃ f, r = .error f ∧ f.isNotFound = false

theorem keeps_performUnderLease (a : Attributes) :
    (duties c job).Keeps Done (c.performUnderLease job e a).run .seeking := by
  refine Keeps.bind (M := fun g (o : Option (Except Fault Outcome)) =>
    Done g (o.getD (.ok .leaseHeld))) ?_ fun g o h => h
  refine ⟨⟨rfl, rfl⟩, fun r hr => ?_⟩
  obtain ⟨lease, rfl⟩ := hr
  cases lease with
  | none => exact .inl rfl
  | some lease =>
      refine (keeps_performLocked a).bind fun g r h => ?_
      obtain rfl | ⟨⟨s, rfl⟩, hf⟩ := h
      · exact ⟨rfl, fun _ _ => .inl rfl⟩
      · exact ⟨rfl, fun _ _ => .inr ⟨rfl, hf⟩⟩

/-- What a job is about is there. -/
theorem keeps_load_bind {β : Type} {post : Role → Except Fault β → Prop}
    {f : Coordinator.Subject → Work.Task β}
    (h : ∀ s : Coordinator.Subject, s.tracker.id = job.trackerId →
      (duties c job).Keeps post (f s).run (g.afterReading s.tracker)) :
    (duties c job).Keeps post (onDatabase (Coordinator.load job) >>= f).run g := by
  refine Keeps.task_bind (M := fun g' r => ∃ s, r = .ok s ∧
    (duties c job).Keeps post (f s).run g') ?_ (fun g' s hx => ?_) fun g' e hx => ?_
  · rw [Coordinator.load, Session.findEntity, bind_assoc]
    refine keeps_query_bind rfl (fun x hx => ?_) fun e hx => ?_
    · obtain ⟨e, he⟩ := hx
      cases he
      refine keeps_findTracker_bind rfl fun t hid _ => ?_
      rw [Session.sourceVersion, bind_assoc]
      refine keeps_query_bind trivial (fun i hi => ⟨_, rfl, h ⟨e, t, _⟩ hid⟩) fun e he => ?_
      obtain ⟨i, hi⟩ := he
      cases hi
    · obtain ⟨e, he⟩ := hx
      cases he
  · obtain ⟨_, ht, hk⟩ := hx
    cases ht
    exact hk
  · obtain ⟨_, ht, -⟩ := hx
    cases ht

/-- **An invocation** leaves nothing owed, or a fault. -/
theorem keeps_perform : (duties c job).Keeps Done (c.perform job).run .seeking := by
  refine keeps_load_bind fun s _ => ?_
  refine Keeps.lift_bind (M := fun g _ => g = .seeking)
    (keeps_plain (confined_admission _ _ _ _) fun _ => rfl) fun g' v h => ?_
  subst h
  cases v with
  | proceed => exact keeps_performUnderLease s.attributes
  | defer delay goal => exact (keeps_reEnqueue_return rfl delay _).mono fun g r h => .inl h

theorem keeps_exhaust (f : Fault) (hg : g = .faulted ∨ g = .idle) :
    (duties c job).Keeps (fun g _ => g = .idle) (Coordinator.exhaust job f) g := by
  refine Keeps.bind (M := fun g _ => g = Role.idle) ?_ fun g r h => h
  refine keeps_load_bind fun s hid => ?_
  have hfail : MayFail s.tracker (g.afterReading s.tracker) ∧
      (g.afterReading s.tracker).paid = .idle := by
    obtain rfl | rfl := hg
    · rw [Role.afterReading]
      by_cases hrun : s.tracker.isRunnable = true
      · rw [if_pos hrun]
        exact ⟨.inl ⟨.inr rfl, hrun⟩, rfl⟩
      · rw [if_neg hrun]
        exact ⟨.inr (.inr rfl), rfl⟩
    · exact ⟨.inr (.inr rfl), rfl⟩
  exact (keeps_failTracker hid hfail.1).mono fun g r h => h.trans hfail.2

/-- After a fault a retry is scheduled, or the tracker failed. -/
theorem keeps_afterFault {f : Fault} (hg : Done g (.error f)) :
    (duties c job).Keeps (fun g _ => g = .idle) (c.afterFault job f) g := by
  have hrole : g = .faulted ∨ g = .idle := (hg.imp_right And.left).symm
  unfold Coordinator.afterFault
  split
  · -- a missing row leaves nothing to do
    rename_i hmissing
    obtain rfl | ⟨-, f', hf, hnot⟩ := hg
    · rfl
    · cases hf
      rw [hnot] at hmissing
      cases hmissing
  split
  · exact keeps_exhaust f hrole
  · refine ⟨⟨rfl, rfl, ?_⟩, fun r hr => ?_⟩
    · obtain rfl | rfl := hrole <;> rfl
    · cases (show r = .ok () from hr)
      obtain rfl | rfl := hrole <;> rfl

/-- **An errand owes nothing in the end.** -/
theorem keeps_deliver :
    (duties c job).Keeps (fun g _ => g = .idle) (c.handle (.pipeline job)) .seeking := by
  refine Keeps.bind (M := fun g _ => g = Role.idle) ?_ fun g d h => h
  refine keeps_perform.bind fun g r h => ?_
  cases r with
  | ok outcome =>
      refine h.resolve_right fun h => ?_
      obtain ⟨-, _, hf, -⟩ := h
      cases hf
  | error f => exact keeps_afterFault h

end ImportTracking.Runtime
