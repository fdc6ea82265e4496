import ImportTracking.Proofs.Duplicates
import ImportTracking.Proofs.Replies

/-!
# Redelivery — an invocation that is made twice

A queue may deliver a job twice in a row.  The second invocation finds what the first one left: the
tracker ended, or started, or enqueued again, some batches there, or nothing changed at all.  When
the collaborators answer as they did, at the same time, it does nothing that the first one did not,
but that the tracker was changed later.

* `FansOut.again`: a fan-out that is repeated finds every batch that it comes to.
* `Acts.again`: an action that is repeated writes the rows that it wrote.
* `perform_again`: so the rows are the same after a second invocation, whatever came of the first.
-/

namespace ImportTracking

open Work

/-! ### The rows after a second time -/

/-- A tracker without the time of its last change. -/
def Tracker.untimed (t : Tracker) : Tracker := { t with updatedAt := .epoch }

namespace Database

variable {db db' : Database}

/-- The rows are the same, but for the time of the last change of one tracker. -/
def Retouched (id : Int) (db db' : Database) : Prop :=
  db' = db ∨ ∃ t now, db.tracker? id = some t ∧ db' = db.putTracker { t with updatedAt := now }

theorem hasTable_of_isSome_batch? {trackerId number : Int}
    (h : (db.batch? trackerId number).isSome = true) : db.hasTable .batches = true := by
  cases htab : db.batches with
  | none => simp [batch?, batchRows, htab] at h
  | some tab => simp [hasTable, htab]

/-- The rows of trackers are the same, but for the times of their last changes, and those of batches
and failures the same. -/
structure SameRows (db db' : Database) : Prop where
  trackers : db'.trackerRows.map Tracker.untimed = db.trackerRows.map Tracker.untimed
  batches : db'.batchRows = db.batchRows
  failures : db'.failureRows = db.failureRows

theorem Retouched.sameRows {id : Int} (hk : db.Keyed) (h : Retouched id db db') :
    SameRows db db' := by
  obtain rfl | ⟨t, now, ht, rfl⟩ := h
  · exact ⟨rfl, rfl, rfl⟩
  · refine ⟨?_, rfl, rfl⟩
    rw [trackerRows_putTracker, List.map_map]
    refine List.map_congr_left fun r hr => ?_
    -- the only row of that id is the one that was found
    by_cases hid : r.id = t.id
    · have hrt := tracker?_of_mem hk hr
      rw [hid, id_of_tracker? ht, ht] at hrt
      obtain rfl := Option.some.inj hrt
      simp [Tracker.untimed]
    · simp [hid]

/-- A batch that is there stays when others are added. -/
theorem isSome_batch?_addBatches (rows : List Batch) {trackerId number : Int}
    (h : (db.batch? trackerId number).isSome = true) :
    ((db.addBatches rows).batch? trackerId number).isSome = true := by
  have htab := hasTable_of_isSome_batch? h
  rw [batch?, List.find?_isSome] at h ⊢
  obtain ⟨b, hb, hkey⟩ := h
  exact ⟨b, (mem_batchRows_addBatches rows htab).mpr (.inr hb), hkey⟩

end Database

open Database (Retouched SameRows)

/-! ### Fan-outs -/

namespace Batch

variable {trackerId : Int} {rs : Replies} {now : Timestamp}

/-- A batch that was ensured is found. -/
theorem Ensured.isSome {number : Int} {db db' : Database} {b : Batch}
    (h : Ensured trackerId number db b db') : (db'.batch? trackerId number).isSome = true := by
  obtain ⟨⟨ht, hn⟩, hmem, -⟩ := h.spec
  rw [Database.batch?, List.find?_isSome]
  exact ⟨b, hmem, by simp [ht, hn]⟩

/-- A batch that is there is not added. -/
theorem Ensured.eq_of_isSome {number : Int} {db db' : Database} {b : Batch}
    (h : Ensured trackerId number db b db')
    (hthere : (db.batch? trackerId number).isSome = true) : db' = db := by
  cases h with
  | found => rfl
  | created _ hnone =>
      rw [hnone] at hthere
      cases hthere

/-- **A fan-out that is repeated** finds every batch that it comes to, when the scheduler answers
as it did. -/
theorem FansOut.again {count number : Nat} {a a' b b' : Database} {l₁ l₂ : List Exchange}
    {r₁ r₂ : Except Fault (List Batch)} {s₁ s₂ m₁ m₂ : Stand}
    (h₁ : FansOut trackerId count number a l₁ r₁ a')
    (h₂ : FansOut trackerId count number b l₂ r₂ b')
    (hthere : ∀ k, (a'.batch? trackerId k).isSome = true → (b.batch? trackerId k).isSome = true)
    (htab : b.hasTable .batches = a.hasTable .batches)
    (hh₁ : Heard rs now s₁ l₁ m₁) (hh₂ : Heard rs now s₂ l₂ m₂)
    (hs : s₂.offered = s₁.offered) : b' = b := by
  -- the repeated fan-out goes no further than the first one, whose batches are all there
  induction h₁ generalizing b l₂ r₂ s₁ s₂ with
  | nil =>
      cases h₂
      rfl
  | @cons count number a a₁ a' _ _ _ he hf ih =>
      have hfound : (b.batch? trackerId number).isSome = true := by
        obtain ⟨rows, -, rfl⟩ := hf.addBatches
        exact hthere _ (Database.isSome_batch?_addBatches rows he.isSome)
      obtain ⟨_, -, hh₁⟩ := hh₁
      cases h₂ with
      | cons he' hf' =>
          obtain rfl := he'.eq_of_isSome hfound
          obtain ⟨_, -, hh₂⟩ := hh₂
          exact ih hf' hthere (htab.trans (he.hasTable .batches).symm) hh₁ hh₂
            (congrArg (· + 1) hs)
      | refused he' => exact he'.eq_of_isSome hfound
      | unreadable => rfl
  | @refused count number a a₁ _ _ he =>
      have hfound := hthere _ he.isSome
      cases h₂ with
      | cons he' hf' =>
          -- the job that was refused is refused again
          obtain ⟨_, hok, -⟩ := hh₂
          obtain ⟨_, herr, -⟩ := hh₁
          have hsame := (show _ = rs.scheduled s₂.offered from hok).trans
            ((congrArg rs.scheduled hs).trans (show _ = rs.scheduled s₁.offered from herr).symm)
          cases hsame
      | refused he' => exact he'.eq_of_isSome hfound
      | unreadable => rfl
  | unreadable hnone =>
      cases h₂ with
      | cons he' | refused he' =>
          have hsome := Database.hasTable_of_isSome_batch? he'.isSome
          rw [he'.hasTable, htab, hnone] at hsome
          cases hsome
      | unreadable => rfl

end Batch

/-! ### Polls and admissions -/

namespace Coordinator

open Tracker
open Invocation (Outcome)

variable {c : Coordinator} {t t' : Tracker} {e : Entity} {a : Attributes} {job : PipelineJob}
  {db db₁ db₂ : Database} {rs : Replies} {now : Timestamp} {s m : Stand}

/-- What a poll learns when the source instance answers so. -/
def polled (rs : Replies) (p : Option Pipeline) (e : Entity) : Option Export.Snapshot :=
  (p.filter fun p => p.fileExtraction && !e.isFailed).map fun p =>
    Export.Snapshot.ofReply p.relation (rs.exported.mapError Cause.text)

theorem Polls.heard {p : Option Pipeline} {l : List Exchange} {o : Option Export.Snapshot}
    (h : Polls p t e l o) (hh : Heard rs now s l m) : m = s ∧ o = polled rs p e := by
  cases h with
  | nothing h =>
      refine ⟨hh, ?_⟩
      cases p with
      | none => rfl
      | some p =>
          cases he : e.isFailed with
          | true => simp [polled, he]
          | false => simp [polled, h p rfl he]
  | read hp hf he reply =>
      obtain ⟨_, hreply, rfl⟩ := hh
      obtain rfl : reply = rs.exported := hreply
      exact ⟨rfl, by simp [polled, hp, hf, he]⟩

theorem Admits.heard {l : List Exchange} (h : Admits c t e l) (hh : Heard rs now s l m) :
    m = s ∧ (c.settings.deferralEnabled = true → rs.load ≠ .ok true) := by
  cases h with
  | unasked hoff =>
      refine ⟨hh, fun hon => ?_⟩
      rw [hoff] at hon
      cases hon
  | asked _ reply hr =>
      obtain ⟨_, hreply, rfl⟩ := hh
      obtain rfl : reply = rs.load := hreply
      exact ⟨rfl, fun _ => hr⟩

/-! ### Actions -/

/-- A tracker that was moved, and is moved once more in the same way, differs only in the time. -/
theorem retouched_moved {st : Status} {jid : String} {batched : Bool} {n n' : Timestamp}
    (ht : db.tracker? t.id = some (t.moved st jid batched n)) :
    Retouched t.id db (db.putTracker ((t.moved st jid batched n).moved st jid batched n')) :=
  .inr ⟨_, n', ht, rfl⟩

/-- **An action that is repeated**, when the pipeline and the scheduler answer as they did, comes to
the rows that it came to; and it does not end the tracker, if it did not at first. -/
theorem Acts.again {p : Option Pipeline} {d : Decision} {l₁ l₂ : List Exchange}
    {r₁ r₂ : Except Fault Outcome} {s₁ s₂ m₁ m₂ : Stand} (ht : db.tracker? t.id = some t)
    (h₁ : Acts c p t e job db d l₁ r₁ db₁) (hr : ∀ f, r₁ = .error f → f.isTerminal = false)
    (ht' : db₁.tracker? t.id = some t') (hrun : t'.isRunnable = true)
    (h₂ : Acts c p t' e job db₁ d l₂ r₂ db₂) (hh₁ : Heard rs now s₁ l₁ m₁)
    (hh₂ : Heard rs now s₂ l₂ m₂) (hs : s₂.offered = s₁.offered) :
    (∀ f, r₂ = .error f → f.isTerminal = false) ∧ Retouched t.id db₁ db₂ := by
  have hmoved {st : Status} {batched : Bool} {n : Timestamp}
      (h : (db.putTracker (t.moved st job.jid batched n)).tracker? t.id = some t') :
      t' = t.moved st job.jid batched n :=
    Option.some.inj (h.symm.trans (Database.tracker?_putTracker_moved ht))
  cases h₁ with
  | skip | finishEmpty | ran =>
      -- the tracker has ended
      obtain rfl := hmoved ht'
      rw [isRunnable_moved] at hrun
      cases hrun
  | fail | gaveUp => cases hr _ rfl
  | reEnqueue | reEnqueueRefused =>
      cases h₂ with
      | reEnqueue => exact ⟨nofun, .inl rfl⟩
      | reEnqueueRefused =>
          refine ⟨fun f hf => ?_, .inl rfl⟩
          cases hf
          rfl
  | unknown hp =>
      cases h₂ with
      | unknown =>
          refine ⟨fun f hf => ?_, .inl rfl⟩
          cases hf
          rfl
      | ran hp' | crashed hp' | gaveUp hp' | retried hp' | retryRefused hp' =>
          rw [hp] at hp'
          cases hp'
  | fannedOut hf | fanOutStopped hf =>
      obtain ⟨rows, -, rfl⟩ := hf.addBatches
      rw [Database.tracker?_addBatches] at ht'
      obtain rfl := hmoved ht'
      rw [← Database.tracker?_addBatches rows] at ht'
      cases h₂ with
      | fannedOut hf' =>
          rw [hf.again hf' (fun _ h => h) (by simp) hh₁ hh₂ hs]
          exact ⟨nofun, retouched_moved ht'⟩
      | fanOutStopped hf' =>
          rw [hf.again hf' (fun _ h => h) (by simp) hh₁ hh₂ hs]
          refine ⟨fun f hr => ?_, retouched_moved ht'⟩
          cases hr
          obtain ⟨cause, rfl⟩ | ⟨g, rfl⟩ := hf'.error rfl <;> rfl
  | crashed hp n cause =>
      obtain rfl := hmoved ht'
      obtain ⟨_, hran, -⟩ := hh₁
      cases h₂ with
      | unknown hp' =>
          rw [hp] at hp'
          cases hp'
      | crashed =>
          refine ⟨fun f hf => ?_, retouched_moved ht'⟩
          cases hf
          rfl
      | ran | gaveUp | retried | retryRefused =>
          obtain ⟨_, hran', -⟩ := hh₂
          cases hran.trans hran'.symm
  | retried hp n n' delay reason | retryRefused hp n n' delay reason =>
      obtain rfl := hmoved ht'
      obtain ⟨_, hran, -⟩ := hh₁
      cases h₂ with
      | unknown hp' =>
          rw [hp] at hp'
          cases hp'
      | retried => exact ⟨nofun, retouched_moved ht'⟩
      | retryRefused =>
          refine ⟨fun f hf => ?_, retouched_moved ht'⟩
          cases hf
          rfl
      | ran | gaveUp | crashed =>
          obtain ⟨_, hran', -⟩ := hh₂
          cases hran.trans hran'.symm

/-! ### Invocations -/

/-- **The work under the lease, repeated**, comes to the rows that it came to. -/
theorem Serves.again {a' : Attributes} {l₁ l₂ : List Exchange} {r₁ r₂ : Except Fault Outcome}
    {s₁ s₂ m₁ m₂ : Stand} (ht : db.tracker? t.id = some t)
    (h₁ : Serves (.still now) c t e a job db l₁ r₁ db₁) (ht' : db₁.tracker? t.id = some t')
    (h₂ : Serves (.still now) c t' e a' job db₁ l₂ r₂ db₂) (hh₁ : Heard rs now s₁ l₁ m₁)
    (hh₂ : Heard rs now s₂ l₂ m₂) (hs : s₂.offered = s₁.offered) : Retouched t.id db₁ db₂ := by
  obtain ⟨hname, hcreated⟩ := (h₁.kept ht).lasting ht'
  -- a tracker that may not be run is left alone
  by_cases hrun : t'.isRunnable = true
  · cases h₁ with
    | notRunnable hnot =>
        obtain rfl := Option.some.inj (ht.symm.trans ht')
        rw [hrun] at hnot
        cases hnot
    | recorded =>
        have hfailed := ht'.symm.trans (Database.tracker?_putTracker_moved ht)
        obtain rfl := Option.some.inj hfailed
        rw [isRunnable_moved] at hrun
        cases hrun
    | @acted o n l₁ l₁' _ _ _ hn hp ha hr =>
        obtain ⟨q₁, hh₁, hh₁'⟩ := heard_append.mp hh₁
        obtain ⟨rfl, rfl⟩ := hp.heard hh₁
        obtain rfl : n = now := hn
        have hcs (o : Option Export.Snapshot) :
            c.circumstances t' e o n = c.circumstances t e o n := by
          simp only [circumstances, age, hname, hcreated]
        cases h₂ with
        | notRunnable => exact .inl rfl
        | @acted o' n' l₂ l₂' _ _ _ hn' hp' ha' hr' =>
            obtain ⟨q₂, hh₂, hh₂'⟩ := heard_append.mp hh₂
            obtain ⟨rfl, rfl⟩ := hp'.heard hh₂
            obtain rfl : n' = n := hn'
            rw [hname, hcs] at ha'
            exact (ha.again ht hr ht' hrun ha' hh₁' hh₂' hs).2
        | @recorded o' n' _ _ l₂ l₂' _ _ _ hn' hp' ha' =>
            -- a fault that ends the tracker would have ended it before
            rw [List.append_assoc] at hh₂
            obtain ⟨q₂, hh₂, hh₂'⟩ := heard_append.mp hh₂
            obtain ⟨rfl, rfl⟩ := hp'.heard hh₂
            obtain rfl : n' = n := hn'
            rw [hname, hcs] at ha'
            obtain ⟨q₃, hh₂', -⟩ := heard_append.mp hh₂'
            cases (ha.again ht hr ht' hrun ha' hh₁' hh₂' hs).1 _ rfl
  · cases h₂ with
    | notRunnable => exact .inl rfl
    | acted hrun' | recorded hrun' => exact absurd hrun' hrun

/-- **An invocation, repeated**, comes to the rows that it came to. -/
theorem Performs.again {l₁ l₂ : List Exchange} {r₁ r₂ : Except Fault Outcome} {s₁ s₂ m₁ m₂ : Stand}
    (ht : db.tracker? t.id = some t) (h₁ : Performs (.still now) c t e job db l₁ r₁ db₁)
    (ht' : db₁.tracker? t.id = some t') (h₂ : Performs (.still now) c t' e job db₁ l₂ r₂ db₂)
    (hsound : s₁.leases.Sound) (hh₁ : Heard rs now s₁ l₁ m₁) (hh₂ : Heard rs now s₂ l₂ m₂)
    (hleases : s₂.leases = m₁.leases) (hs : s₂.offered = s₁.offered) :
    Retouched t.id db₁ db₂ := by
  cases h₂ with
  | deferred | deferralRefused | leaseHeld => exact .inl rfl
  | @served l' log' _ _ _ hadm' lease' _ hserves' =>
      obtain ⟨q₂, hq₂, token₂, hgot₂, hrest₂⟩ := heard_append.mp hh₂
      obtain ⟨rfl, hload⟩ := hadm'.heard hq₂
      cases h₁ with
      | deferred hon | deferralRefused hon =>
          -- the destination would be under load again
          obtain ⟨_, hreply, -⟩ := hh₁
          exact absurd hreply.symm (hload hon)
      | @leaseHeld l hadm reply hr =>
          -- the lease would be held again
          obtain ⟨q₁, hq₁, token₁, hgot₁, rfl⟩ := heard_append.mp hh₁
          obtain ⟨rfl, -⟩ := hadm.heard hq₁
          obtain rfl : reply = (q₁.leases.obtain_ now token₁ (c.settings.leaseKey job.trackerId)
            c.settings.leaseTimeout).1 := hgot₁
          have hheld := Lease.Keeping.refused_again hsound hr token₂ lease'
          refine absurd ?_ hheld
          exact (congrArg (fun k => (Lease.Keeping.obtain_ now token₂ _ _ k).1) hleases).symm.trans
            hgot₂.symm
      | @served l log _ _ _ hadm lease _ hserves =>
          obtain ⟨q₁, hq₁, token₁, -, hrest₁⟩ := heard_append.mp hh₁
          obtain ⟨rfl, -⟩ := hadm.heard hq₁
          obtain ⟨_, hlog₁, -⟩ := heard_append.mp hrest₁
          obtain ⟨_, hlog₂, -⟩ := heard_append.mp hrest₂
          exact hserves.again ht ht' hserves' hlog₁ hlog₂ hs

/-- What a job is about cannot be looked up when its tracker is not there. -/
theorem loads_of_none (ht : db.tracker? job.trackerId = none) : ∃ g, Loads job db (.error g) := by
  cases he : db.entity? job.entityId with
  | none =>
      obtain ⟨g, hg, -⟩ := plays_findEntity_bind_of_none he
      exact ⟨g, fun κ log r db' => hg κ _ log r db'⟩
  | some e =>
      obtain ⟨g, hg⟩ := plays_findTracker_bind_of_none ht
      refine ⟨g, fun κ log r db' => ?_⟩
      rw [load, plays_findEntity_bind he]
      exact hg κ _ log r db'

/-- **Two plays of an invocation**, one after the other. -/
theorem plays_perform_again {l₁ l₂ : List Exchange} {r₁ r₂ : Except Fault Outcome}
    {s₁ s₂ m₁ m₂ : Stand} (hk : db.Keyed)
    (h₁ : Plays (.still now) (c.perform job).run db l₁ r₁ db₁)
    (h₂ : Plays (.still now) (c.perform job).run db₁ l₂ r₂ db₂)
    (hsound : s₁.leases.Sound) (hh₁ : Heard rs now s₁ l₁ m₁) (hh₂ : Heard rs now s₂ l₂ m₂)
    (hleases : s₂.leases = m₁.leases) (hs : s₂.offered = s₁.offered) :
    Retouched job.trackerId db₁ db₂ := by
  cases ht : db.tracker? job.trackerId with
  | none =>
      obtain ⟨g, hl⟩ := loads_of_none ht
      obtain ⟨-, -, rfl⟩ := hl.bind_error h₁
      obtain ⟨-, -, rfl⟩ := hl.bind_error h₂
      exact .inl rfl
  | some t =>
      have hid := Database.id_of_tracker? ht
      obtain ⟨e, version, he, hl⟩ | ⟨g, hl, -⟩ := loads ht
      · have hp₁ := plays_perform hl hk ht he h₁
        rw [← hid] at ht ⊢
        obtain ⟨t', ht', -⟩ := hp₁.kept ht
        obtain ⟨e', version', he', hl'⟩ | ⟨g, hl', -⟩ := loads (hid ▸ ht')
        · obtain rfl := Option.some.inj (he'.symm.trans ((h₁.stands.entity _).trans he))
          have hp₂ := plays_perform hl' (h₁.stands.keyed hk) (hid ▸ ht') he' h₂
          exact hp₁.again ht ht' hp₂ hsound hh₁ hh₂ hleases hs
        · obtain ⟨-, -, rfl⟩ := hl'.bind_error h₂
          exact .inl rfl
      · obtain ⟨-, -, rfl⟩ := hl.bind_error h₁
        obtain ⟨-, -, rfl⟩ := hl.bind_error h₂
        exact .inl rfl

/-- An invocation that is made twice in a row: the second one starts from the database and the
leases that the first one left, and is given the same replies. -/
def performTwice (c : Coordinator) (job : PipelineJob) (rs : Replies) (now : Timestamp)
    (ids : Nat → String) (db : Database) (leases : Lease.Keeping) :
    (Except Fault Outcome × Scene (Stand × Nat)) × (Except Fault Outcome × Scene (Stand × Nat)) :=
  let run := (c.perform job).run.run (Scene.answer (rs.around now ids))
  let first := run ⟨db, (⟨leases, 0⟩, 0), []⟩
  (first, run ⟨first.2.database, (⟨first.2.around.1.leases, 0⟩, first.2.around.2), []⟩)

/-- **An invocation that is made twice in a row**, at one time and with the same replies, leaves
the rows as the first one left them, whatever that came to; from every database, every state of the
store of leases, and for every job. -/
theorem perform_again (c : Coordinator) (job : PipelineJob) (rs : Replies) (now : Timestamp)
    (ids : Nat → String) (db : Database) (leases : Lease.Keeping) (hk : db.Keyed)
    (hl : leases.Sound) :
    SameRows (c.performTwice job rs now ids db leases).1.2.database
      (c.performTwice job rs now ids db leases).2.2.database := by
  have hclock (s : Stand × Nat) :
      Clock.still now (rs.around now ids (.session .now) s).1 := rfl
  have hplays (sc : Scene (Stand × Nat)) (hex : sc.exchanges = []) :
      let r := (c.perform job).run.run (Scene.answer (rs.around now ids)) sc
      ∃ l, Plays (.still now) (c.perform job).run sc.database l r.1 r.2.database ∧
        Heard rs now sc.around.1 l r.2.around.1 := by
    obtain ⟨l, hl, hp⟩ := plays_run (rs.around now ids) hclock (c.perform job).run sc
    obtain ⟨l', hl', hh⟩ := heard_run rs now ids (c.perform job).run sc
    rw [hex, List.nil_append] at hl hl'
    obtain rfl := hl.symm.trans hl'
    exact ⟨_, hp, hh⟩
  obtain ⟨l₁, hp₁, hh₁⟩ := hplays ⟨db, (⟨leases, 0⟩, 0), []⟩ rfl
  let mid := (c.performTwice job rs now ids db leases).1.2
  obtain ⟨l₂, hp₂, hh₂⟩ := hplays ⟨mid.database, (⟨mid.around.1.leases, 0⟩, mid.around.2), []⟩ rfl
  exact (plays_perform_again hk hp₁ hp₂ hl hh₁ hh₂ rfl rfl).sameRows (hp₁.stands.keyed hk)

/-- A fan-out that the scheduler stops at its second batch. -/
theorem perform_again_stopped :
    let c : Coordinator := { registry := ⟨[⟨"issues", "issues", true⟩]⟩ }
    let e : Entity := { (default : Entity) with id := 1 }
    let t : Tracker :=
      { (default : Tracker) with id := 1, pipelineName := "issues", status := "enqueued" }
    let job : PipelineJob := .first 1 1 "jid" "corr"
    let rs : Replies :=
      { load := .ok false
        exported := .ok (.single { state := some .finished, batched := true, batchCount := 3 })
        ran := .error default
        scheduled := fun n => if n = 0 then .ok () else .error default }
    let r := c.performTwice job rs .epoch (fun _ => "") (.single e t) (.memory {} 0)
    r.1.1 = .error (.scheduling default) ∧ r.1.2.database.batchRows.map (·.number) = [1, 2] ∧
      SameRows r.1.2.database r.2.2.database :=
  ⟨by decide +kernel, by decide +kernel,
    perform_again _ _ _ _ _ _ _ (Database.keyed_single _ _) trivial⟩

end Coordinator

end ImportTracking
