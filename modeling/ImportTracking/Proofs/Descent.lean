import ImportTracking.Runtime
import ImportTracking.Proofs.Course
import ImportTracking.Proofs.Frame
import ImportTracking.Proofs.Lineage

/-!
# Descent — every job can be traced back

One job is put into the queue; all others are scheduled for it, or for jobs that were.  Each is of
the tracker, the entity and the correlation id of the first one.  Its id is its parent's exactly
when it is a retry; its attempts are counted from there, and anew otherwise.

* `descends_of_call`: what a job that is scheduled has from the job that is handled.
* `Traced`, `traced_step`: what every move keeps.
* `run_descends`: so it is in every run.
-/

namespace ImportTracking.Runtime

open Work (Plain)

/-! ### Descendants -/

/-- The job ids that were drawn. -/
def drawn (deeds : List Deed) : List String := deeds.filterMap fun x => drawnBy x.call x.reply

/-- The job id that an errand drew in its last call, if it did. -/
def drawnLast (deeds : List Deed) (i : Nat) : Option String :=
  (deeds.filter (·.number == i)).getLast?.bind fun x => drawnBy x.call x.reply

/-- The call is the first one after a fault of the job. -/
def Deed.FollowsFault (c : Coordinator) (job : PipelineJob) (x : Deed) : Prop :=
  ∃ f, x.rest = (c.afterFault job f).bind fun _ => .done ()

/-- What a job `j` that is scheduled in a call has from the `first` one and from its `parent`. -/
structure Descends (c : Coordinator) (first parent : PipelineJob) (before : List Deed) (x : Deed)
    (j : PipelineJob) : Prop where
  trackerId : j.trackerId = first.trackerId
  entityId : j.entityId = first.entityId
  correlationId : j.correlationId = first.correlationId
  retry : x.FollowsFault c parent →
    j.jid = parent.jid ∧ j.attempt = parent.attempt + 1 ∧ parent.attempt < c.settings.maxRetries
  other : ¬x.FollowsFault c parent → drawnLast before x.number = some j.jid ∧ j.attempt = 0
  /-- If no id is drawn twice, an id that is drawn is not the parent's. -/
  jid_eq_iff : (first.jid :: drawn before).Nodup → (j.jid = parent.jid ↔ x.FollowsFault c parent)
  attempt_le : j.attempt ≤ max first.attempt c.settings.maxRetries
  attempt_fits : first.attempt ≤ Word.max32 → c.settings.maxRetries ≤ Word.max32 →
    j.attempt ≤ Word.max32

variable {c : Coordinator} {first job : PipelineJob} {deeds : List Deed} {i : Nat}

@[simp] theorem drawn_append (l l' : List Deed) : drawn (l ++ l') = drawn l ++ drawn l' :=
  List.filterMap_append

theorem drawnLast_append_single (x : Deed) :
    drawnLast (deeds ++ [x]) i =
      if x.number = i then drawnBy x.call x.reply else drawnLast deeds i := by
  by_cases hi : x.number = i <;> simp [drawnLast, List.filter_append, hi]

/-- An id that was drawn last was drawn. -/
theorem mem_drawn_of_drawnLast {jid : String} (h : drawnLast deeds i = some jid) :
    jid ∈ drawn deeds := by
  obtain ⟨x, hx, hjid⟩ := Option.bind_eq_some_iff.mp h
  have hmem := List.mem_of_mem_filter (List.mem_of_getLast? hx)
  exact List.mem_filterMap.mpr ⟨x, hmem, hjid⟩

/-! ### Errands -/

/-- An errand performs its job still, and concludes from that then, or there is nothing left to
conclude. -/
inductive Stage (c : Coordinator) (job : PipelineJob) : Option String → Program Work Unit → Prop
    where
  | performing {last : Option String} {p : Program Work (Except Fault Invocation.Outcome)}
      (h : (lineage job).Keeps (fun _ _ => True) p last) :
      Stage c job last (p.bind (conclude c job))
  | concluded {last : Option String} {p : Program Work Unit}
      (h : (lineage job).Keeps (fun _ _ => True) p last) : Stage c job last p

/-- **Every call of an errand** is one that the lineage of its job allows, or the retry. -/
theorem Stage.call {last : Option String} {call : Work.Call}
    {next : Work.Reply call → Program Work Unit} (h : Stage c job last (.call call next)) :
    ((lineage job).Allows last call ∧ ∀ r, (lineage job).Expects last call r →
      Stage c job (drawnBy call r) (next r)) ∨
    (∃ f, .call call next = (c.afterFault job f).bind fun _ => .done ()) ∧
      (∃ delay, call = .request (.schedulePipeline job.retried delay)) ∧
      ∀ r, Stage c job (drawnBy call r) (next r) := by
  have hdone : Faithful job (.done () : Program Work Unit) := faithful_done ()
  generalize hrest : (Program.call call next : Program Work Unit) = rest at h
  cases h with
  | concluded h =>
      subst hrest
      exact .inl ⟨h.1, fun r hr => .concluded (h.2 r hr)⟩
  | @performing p h =>
      cases p with
      | call call' next' =>
          cases hrest
          exact .inl ⟨h.1, fun r hr => .performing (h.2 r hr)⟩
      | done r =>
          cases r with
          | ok o => cases hrest
          | error f =>
              change (.call call next : Program Work Unit) = (c.afterFault job f).bind _ at hrest
              obtain hf | hf | ⟨-, delay, n, hn, hf⟩ := afterFault_cases c job f
              · rw [hf] at hrest
                cases hrest
              · rw [hf] at hrest
                have hkeeps := (faithful_exhaust f).bind (fun _ => hdone) last
                rw [← hrest] at hkeeps
                exact .inl ⟨hkeeps.1, fun r hr => .concluded (hkeeps.2 r hr)⟩
              · refine .inr ⟨⟨f, rfl⟩, ?_⟩
                rw [hf] at hrest
                cases hrest
                exact ⟨⟨delay, rfl⟩, fun r =>
                  .concluded ((hn r).bind (fun _ => hdone) _)⟩

/-- A job of the family: the first one, or one that descends from it. -/
structure Kin (c : Coordinator) (first : PipelineJob) (deeds : List Deed) (job : PipelineJob) :
    Prop where
  trackerId : job.trackerId = first.trackerId
  entityId : job.entityId = first.entityId
  correlationId : job.correlationId = first.correlationId
  attempt_le : job.attempt ≤ max first.attempt c.settings.maxRetries
  jid_mem : job.jid ∈ first.jid :: drawn deeds

theorem Kin.append (h : Kin c first deeds job) (l : List Deed) : Kin c first (deeds ++ l) job where
  __ := h
  jid_mem := by
    rw [drawn_append, ← List.cons_append]
    exact List.mem_append_left _ h.jid_mem

/-- **A job that is scheduled** descends from the job that is handled, and is one of the family. -/
theorem descends_of_call (hkin : Kin c first deeds job)
    (hfresh : ∀ jid, drawnLast deeds i = some jid → (first.jid :: drawn deeds).Nodup →
      jid ≠ job.jid)
    {j : PipelineJob} {delay : Duration}
    {next : Except Cause Unit → Program Work Unit} {r : Except Cause Unit}
    (h : Stage c job (drawnLast deeds i) (.call (.request (.schedulePipeline j delay)) next)) :
    Descends c first job deeds
        ⟨i, .call (.request (.schedulePipeline j delay)) next,
          .request (.schedulePipeline j delay), r⟩ j ∧
      Kin c first deeds j := by
  obtain ⟨⟨jid, hlast, rfl⟩, -⟩ | ⟨hfault, ⟨delay', hcall⟩, -⟩ := h.call
  · -- a job that is put back counts its attempts anew, so that it is no retry
    have hnot : ¬Deed.FollowsFault c job ⟨i, .call (.request (.schedulePipeline
        (job.reEnqueued jid) delay)) next, .request (.schedulePipeline (job.reEnqueued jid) delay),
        r⟩ := fun ⟨f, hf⟩ =>
      nomatch congrArg PipelineJob.attempt (retried_of_conclude (r := .error f) hf.symm).1
    refine ⟨⟨hkin.trackerId, hkin.entityId, hkin.correlationId, fun h => absurd h hnot,
      fun _ => ⟨hlast, rfl⟩, fun hnodup => iff_of_false (hfresh jid hlast hnodup) hnot,
      Nat.zero_le _, fun _ _ => Nat.zero_le _⟩, ⟨hkin.trackerId, hkin.entityId,
      hkin.correlationId, Nat.zero_le _, List.mem_cons_of_mem _ (mem_drawn_of_drawnLast hlast)⟩⟩
  · cases hcall
    obtain ⟨f, hf⟩ := hfault
    have hmax := (retried_of_conclude (r := .error f) hf.symm).2
    have hle : job.attempt + 1 ≤ max first.attempt c.settings.maxRetries :=
      Nat.le_trans hmax (Nat.le_max_right _ _)
    refine ⟨⟨hkin.trackerId, hkin.entityId, hkin.correlationId, fun _ => ⟨rfl, rfl, hmax⟩,
      fun hnot => absurd ⟨f, hf⟩ hnot, fun _ => iff_of_true rfl ⟨f, hf⟩, hle,
      fun _ hfits => Nat.le_trans hmax hfits⟩,
      ⟨hkin.trackerId, hkin.entityId, hkin.correlationId, hle, hkin.jid_mem⟩⟩

/-! ### Runs -/

/-- An errand handles a job of the family, whose id is not the one that was drawn last. -/
def Handles (c : Coordinator) (first : PipelineJob) (deeds : List Deed) (i : Nat) (e : Errand) :
    Prop :=
  match e.job with
  | .pipeline job => Kin c first deeds job ∧ Stage c job (drawnLast deeds i) e.rest ∧
      ∀ jid, drawnLast deeds i = some jid → (first.jid :: drawn deeds).Nodup → jid ≠ job.jid
  | .batch _ => e.rest.Confined Plain

/-- All that a runtime holds can be traced back to the `first` job, and to the database that it
started with. -/
structure Traced (c : Coordinator) (first : PipelineJob) (db : Database) (rt : Runtime) : Prop where
  pending : ∀ w ∈ rt.pending, ∀ job, w.job = .pipeline job → Kin c first rt.deeds job
  handles : ∀ i e, rt.errands[i]? = some e → Handles c first rt.deeds i e
  numbers : ∀ x ∈ rt.deeds, x.number < rt.errands.length
  descends : ∀ n x, rt.deeds[n]? = some x → ∀ j delay,
    x.call = .request (.schedulePipeline j delay) →
    ∃ e parent, rt.errands[x.number]? = some e ∧ e.job = .pipeline parent ∧
      Descends c first parent (rt.deeds.take n) x j
  failures : ∃ rows, rt.database.failureRows.Perm (rows ++ db.failureRows) ∧
    ∀ row ∈ rows, row.correlationId = first.correlationId ∧ row.entityId = first.entityId

section
variable {rt : Runtime} {db : Database} {e : Errand} {call : Work.Call}
  {next : Work.Reply call → Program Work Unit} {answers : Answers}

theorem drawnLast_eq_none (h : ∀ x ∈ deeds, x.number ≠ i) : drawnLast deeds i = none := by
  have hnone : deeds.filter (·.number == i) = [] :=
    List.filter_eq_nil_iff.mpr fun x hx => by simpa using h x hx
  rw [drawnLast, hnone]
  rfl

theorem handles_pipeline (hjob : e.job = .pipeline job) :
    Handles c first deeds i e ↔
      Kin c first deeds job ∧ Stage c job (drawnLast deeds i) e.rest ∧
        ∀ jid, drawnLast deeds i = some jid → (first.jid :: drawn deeds).Nodup →
          jid ≠ job.jid := by
  rw [Handles, hjob]

theorem handles_batch {id : Int} (hjob : e.job = .batch id) :
    Handles c first deeds i e ↔ e.rest.Confined Plain := by
  rw [Handles, hjob]

/-- The calls of others change nothing for an errand. -/
theorem Handles.append {x : Deed} (h : Handles c first deeds i e) (hx : x.number ≠ i) :
    Handles c first (deeds ++ [x]) i e := by
  cases hjob : e.job with
  | batch id => exact (handles_batch hjob).mpr ((handles_batch hjob).mp h)
  | pipeline job =>
      obtain ⟨hkin, hstage, hfresh⟩ := (handles_pipeline hjob).mp h
      rw [handles_pipeline hjob, drawnLast_append_single, if_neg hx]
      refine ⟨hkin.append _, hstage, fun jid hjid hnodup => hfresh jid hjid ?_⟩
      rw [drawn_append, ← List.cons_append] at hnodup
      exact hnodup.of_append_left

/-- The database replies as expected. -/
theorem lineage_expects (last : Option String) (answers : Answers) (call : Work.Call)
    (db : Database) : (lineage job).Expects last call (reply answers call db).1 := by
  rcases call with (s | _ | _ | _ | _) | q
  · cases s with
    | findEntity id =>
        rw [show (reply answers (.session (.query (.findEntity id))) db).1 =
          (Database.readable .entities db.entities).map (·.find? id) from rfl]
        cases db.entities with
        | none => exact trivial
        | some tab =>
            rw [show (Database.readable .entities (some tab)).map (·.find? id) =
              .ok (tab.find? id) from rfl]
            cases he : tab.find? id with
            | none => exact trivial
            | some e =>
                have hid := List.find?_some he
                exact eq_of_beq hid
    | _ => exact trivial
  all_goals exact trivial

/-- A call adds no failure, unless it is the insert of one. -/
theorem failureRows_reply (answers : Answers) (call : Work.Call) (db : Database) :
    (reply answers call db).2.failureRows = db.failureRows ∨
      ∃ row id, call = .session (.query (.insertFailure row)) ∧
        (reply answers call db).2.failureRows.Perm ({ row with id := id } :: db.failureRows) := by
  rcases call with (s | _ | _ | _ | _) | q
  · obtain h | ⟨row, id, rfl, h⟩ := Database.failureRows_execute s db
    · exact .inl h
    · exact .inr ⟨row, id, rfl, h⟩
  all_goals exact .inl rfl

/-- **A call** leaves all traced, if what it schedules and records is of the family. -/
theorem Traced.make (ht : Traced c first db rt) (he : rt.errands[i]? = some e)
    (hsent : ∀ j, sent? call (reply answers call rt.database).1 = some (.pipeline j) →
      Kin c first rt.deeds j)
    (hself : Handles c first
      (rt.deeds ++ [⟨i, e.rest, call, (reply answers call rt.database).1⟩]) i
      { e with
        holds := holdsAfter e.holds call (reply answers call rt.database).1
        rest := next (reply answers call rt.database).1 })
    (hdescends : ∀ j delay, call = .request (.schedulePipeline j delay) →
      ∃ parent, e.job = .pipeline parent ∧ Descends c first parent rt.deeds
        ⟨i, e.rest, call, (reply answers call rt.database).1⟩ j)
    (hfailure : ∀ row, call = .session (.query (.insertFailure row)) →
      row.correlationId = first.correlationId ∧ row.entityId = first.entityId) :
    Traced c first db (rt.make i e call next (reply answers call rt.database)) := by
  have hlt : i < rt.errands.length := (List.getElem?_eq_some_iff.mp he).1
  have hdeeds : (rt.make i e call next (reply answers call rt.database)).deeds =
    rt.deeds ++ [⟨i, e.rest, call, (reply answers call rt.database).1⟩] := rfl
  refine ⟨fun w hw job hjob => ?_, fun j e' he' => ?_, fun x hx => ?_,
    fun n x hx j delay hcall => ?_, ?_⟩
  · obtain hw | hw := List.mem_append.mp hw
    · exact (ht.pending w hw job hjob).append _
    · obtain ⟨sent, hs, rfl⟩ := List.mem_map.mp hw
      obtain rfl : sent = .pipeline job := hjob
      exact (hsent job (Option.mem_toList.mp hs)).append _
  · rw [errands_make he] at he'
    by_cases hj : j = i
    · rw [if_pos hj] at he'
      obtain rfl := Option.some.inj he'
      subst hj
      exact hself
    · rw [if_neg hj] at he'
      exact (ht.handles j e' he').append (Ne.symm hj)
  · rw [show (rt.make i e call next (reply answers call rt.database)).errands.length =
      rt.errands.length from List.length_set]
    obtain hx | hx := List.mem_append.mp hx
    · exact ht.numbers x hx
    · obtain rfl := List.mem_singleton.mp hx
      exact hlt
  · rw [hdeeds] at hx ⊢
    rw [errands_make he]
    obtain hn | hn := Nat.lt_or_ge n rt.deeds.length
    · rw [List.getElem?_append_left hn] at hx
      rw [List.take_append_of_le_length hn.le]
      obtain ⟨e', parent, he', hjob, hd⟩ := ht.descends n x hx j delay hcall
      by_cases hxi : x.number = i
      · rw [if_pos hxi]
        rw [hxi, he] at he'
        obtain rfl := Option.some.inj he'
        exact ⟨_, parent, rfl, hjob, hd⟩
      · rw [if_neg hxi]
        exact ⟨e', parent, he', hjob, hd⟩
    · -- the call that is made now comes last
      obtain ⟨hn', hx⟩ := List.getElem?_eq_some_iff.mp hx
      have hn : n = rt.deeds.length := by
        rw [List.length_append, List.length_singleton] at hn'
        omega
      subst hn
      rw [List.getElem_concat_length rfl] at hx
      subst hx
      obtain ⟨parent, hjob, hd⟩ := hdescends j delay hcall
      rw [if_pos rfl, List.take_left]
      exact ⟨_, parent, rfl, hjob, hd⟩
  · obtain ⟨rows, hperm, hrows⟩ := ht.failures
    obtain hsame | ⟨row, id, hcall, hadd⟩ := failureRows_reply answers call rt.database
    · refine ⟨rows, ?_, hrows⟩
      change (reply answers call rt.database).2.failureRows.Perm _
      rwa [hsame]
    · exact ⟨_ :: rows, hadd.trans (hperm.cons _),
        List.forall_mem_cons.mpr ⟨hfailure row hcall, hrows⟩⟩

/-- A pipeline job that is sent was scheduled. -/
theorem call_of_sent {r : Work.Reply call} {j : PipelineJob}
    (h : sent? call r = some (.pipeline j)) :
    ∃ delay, call = .request (.schedulePipeline j delay) := by
  rcases call with _ | q
  · cases h
  cases q with
  | schedulePipeline j' delay =>
      rcases r with _ | _ <;> cases h
      exact ⟨delay, rfl⟩
  | scheduleBatch id => rcases r with _ | _ <;> cases h
  | _ => cases h

theorem Traced.make_pipeline (ht : Traced c first db rt) (he : rt.errands[i]? = some e)
    (hjob : e.job = .pipeline job) (hrest : e.rest = .call call next) (answers : Answers) :
    Traced c first db (rt.make i e call next (reply answers call rt.database)) := by
  obtain ⟨hkin, hstage, hfresh⟩ := (handles_pipeline hjob).mp (ht.handles i e he)
  rw [hrest] at hstage
  have hdescends (j : PipelineJob) (delay : Duration)
      (hcall : call = .request (.schedulePipeline j delay)) :
      Descends c first job rt.deeds ⟨i, e.rest, call, (reply answers call rt.database).1⟩ j ∧
        Kin c first rt.deeds j := by
    subst hcall
    rw [hrest]
    exact descends_of_call hkin hfresh hstage
  refine ht.make he (fun j hs => ?_) ?_
    (fun j delay hcall => ⟨job, hjob, (hdescends j delay hcall).1⟩) fun row hcall => ?_
  · obtain ⟨delay, hcall⟩ := call_of_sent hs
    exact (hdescends j delay hcall).2
  · rw [handles_pipeline (by exact hjob), drawnLast_append_single, if_pos rfl]
    refine ⟨hkin.append _, ?_, fun jid hjid hnodup heq => ?_⟩
    · obtain ⟨-, hnext⟩ | ⟨-, -, hnext⟩ := hstage.call
      · exact hnext _ (lineage_expects _ answers call rt.database)
      · exact hnext _
    · -- the id that is drawn now would be there already, as the id of the job
      rw [drawn_append, ← List.cons_append] at hnodup
      refine (List.nodup_append.mp hnodup).2.2 _ hkin.jid_mem jid ?_ heq.symm
      exact List.mem_filterMap.mpr ⟨_, List.mem_singleton_self _, hjid⟩
  · obtain ⟨hallows, -⟩ | ⟨-, ⟨delay, hcall'⟩, -⟩ := hstage.call
    · subst hcall
      exact ⟨hallows.1.trans hkin.correlationId, hallows.2.trans hkin.entityId⟩
    · cases hcall.symm.trans hcall'

theorem Traced.make_batch (ht : Traced c first db rt) (he : rt.errands[i]? = some e) {id : Int}
    (hjob : e.job = .batch id) (hrest : e.rest = .call call next) (answers : Answers) :
    Traced c first db (rt.make i e call next (reply answers call rt.database)) := by
  have hplain := (handles_batch hjob).mp (ht.handles i e he)
  rw [hrest] at hplain
  cases hplain with
  | call hp hnext =>
      have hnot (j : PipelineJob) (delay : Duration)
          (hcall : call = .request (.schedulePipeline j delay)) : False := by
        subst hcall
        exact hp
      refine ht.make he (fun j hs => ?_) ?_ (fun j delay hcall => (hnot j delay hcall).elim)
        fun row hcall => ?_
      · obtain ⟨delay, hcall⟩ := call_of_sent hs
        exact (hnot j delay hcall).elim
      · exact (handles_batch (by exact hjob)).mpr (hnext _)
      · subst hcall
        exact hp.elim

/-- A job that is received is handled from its beginning. -/
theorem Traced.received (ht : Traced c first db rt) {place : Nat} {w : Parcel}
    (hw : rt.pending[place]? = some w) : Traced c first db (rt.receive c place) := by
  have hdeeds := deeds_receive c rt place
  refine ⟨fun w' hw' => ?_, fun j e he => ?_, fun x hx => ?_, fun n x hx j delay hcall => ?_, ?_⟩
  · rw [hdeeds]
    exact ht.pending w' (pending_receive_subset c rt place hw')
  · rw [hdeeds]
    rw [errands_receive hw] at he
    by_cases hj : j = rt.errands.length
    · rw [if_pos hj] at he
      obtain rfl := Option.some.inj he
      cases hjob : w.job with
      | batch id => exact (handles_batch rfl).mpr (.call trivial fun _ => .done _)
      | pipeline job =>
          have hlast : drawnLast rt.deeds j = none :=
            drawnLast_eq_none fun x hx => hj ▸ (ht.numbers x hx).ne
          rw [handles_pipeline rfl, hlast]
          refine ⟨ht.pending w (List.mem_of_getElem? hw) job hjob, ?_, nofun⟩
          rw [handle_eq]
          exact .performing (faithful_perform _)
    · rw [if_neg hj] at he
      exact ht.handles j e he
  · rw [hdeeds] at hx
    have hlt := ht.numbers x hx
    simp only [receive, hw, List.length_append]
    omega
  · rw [hdeeds] at hx ⊢
    obtain ⟨e, parent, he, hd⟩ := ht.descends n x hx j delay hcall
    rw [errands_receive hw, if_neg (ht.numbers x (List.mem_of_getElem? hx)).ne]
    exact ⟨e, parent, he, hd⟩
  · rw [database_receive]
    exact ht.failures

/-- **A move** leaves all traced. -/
theorem traced_step (ht : Traced c first db rt) (m : Move) : Traced c first db (rt.step c m) := by
  obtain ⟨hstep, -⟩ | ⟨place, w, hw, -, hstep⟩ |
    ⟨i, e, call, next, answers, he, hrest, -, hstep⟩ := step_cases c m rt
  · rw [hstep]
    exact ht
  · rw [hstep]
    exact ht.received hw
  · rw [hstep]
    cases hjob : e.job with
    | pipeline job => exact ht.make_pipeline he hjob hrest answers
    | batch id => exact ht.make_batch he hjob hrest answers

/-- Any number of moves leave all traced. -/
theorem traced_run (ms : List Move) (ht : Traced c first db rt) :
    Traced c first db (rt.run c ms) := by
  induction ms generalizing rt with
  | nil => exact ht
  | cons m ms ih => exact ih (traced_step ht m)

/-- At first there is the first job only. -/
theorem traced_start (c : Coordinator) (first : PipelineJob) (db : Database) :
    Traced c first db (start db [.pipeline first]) where
  pending w hw job hjob := by
    obtain rfl := List.mem_singleton.mp hw
    cases hjob
    exact ⟨rfl, rfl, rfl, Nat.le_max_left _ _, List.mem_cons_self⟩
  handles _ _ he := nomatch he
  numbers _ hx := nomatch hx
  descends _ _ hx := nomatch hx
  failures := ⟨[], .rfl, nofun⟩

end

/-- **Every job descends** from the first one, in every run, whatever is answered: each job that is
scheduled has what it should have from the first one and from the job that is handled then.  Every
failure that is recorded is of the entity of the first job, under its correlation id. -/
theorem run_descends (c : Coordinator) (first : PipelineJob) (db : Database) (ms : List Move) :
    let rt := (start db [.pipeline first]).run c ms
    (∀ n x, rt.deeds[n]? = some x → ∀ j delay, x.call = .request (.schedulePipeline j delay) →
      ∃ e parent, rt.errands[x.number]? = some e ∧ e.job = .pipeline parent ∧
        Descends c first parent (rt.deeds.take n) x j) ∧
    ∃ rows, rt.database.failureRows.Perm (rows ++ db.failureRows) ∧
      ∀ row ∈ rows, row.correlationId = first.correlationId ∧ row.entityId = first.entityId := by
  intro rt
  have ht : Traced c first db rt := traced_run ms (traced_start c first db)
  exact ⟨ht.descends, ht.failures⟩

/-- A job is put back, the next one crashes and is retried, and the retry fails for good. -/
theorem run_descends_failed :
    let c : Coordinator := { registry := ⟨[⟨"issues", "issues", false⟩]⟩ }
    let e : Entity := { (default : Entity) with id := 1 }
    let t : Tracker :=
      { (default : Tracker) with id := 1, pipelineName := "issues", status := "enqueued" }
    let first : PipelineJob := .first 1 1 "one" "corr"
    let others (ran : Except Cause Pipeline.Outcome) : Answers := fun call =>
      (Work.steady .epoch "two" (fun
        | .runPipeline _ _ => ran
        | r => Work.granted r) call ()).1
    let ms : List Move :=
      .receive 0 :: List.replicate 20 (.advance 0 (others (.ok (.retry .zero "")))) ++
        .receive 0 :: List.replicate 20 (.advance 1 (others (.error default))) ++
        .receive 0 :: List.replicate 30 (.advance 2 (others (.ok (.fatal "" ""))))
    let rt := (start (.single e t) [.pipeline first]).run c ms
    (rt.deeds.filterMap fun x => match x.call with
        | .request (.schedulePipeline j _) => some (x.number, j)
        | _ => none) =
        [(0, first.reEnqueued "two"), (1, (first.reEnqueued "two").retried)] ∧
      (first.jid :: drawn rt.deeds).Nodup ∧ rt.database.failureRows.length = 1 ∧
      ∃ rows, rt.database.failureRows.Perm (rows ++ (Database.single e t).failureRows) ∧
        ∀ row ∈ rows, row.correlationId = first.correlationId ∧ row.entityId = first.entityId := by
  intro c e t first others ms rt
  exact ⟨by decide +kernel, by decide +kernel, by decide +kernel,
    (run_descends c first (.single e t) ms).2⟩

end ImportTracking.Runtime
