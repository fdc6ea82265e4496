import ImportTracking.Proofs.Course
import ImportTracking.Proofs.Duties
import ImportTracking.Proofs.Errands

/-!
# Wake-ups — no tracker is forgotten

Many errands run at once, and each may be refused the lease that it comes for, in which case it ends
and leaves the tracker to whoever holds the lease.  A job is scheduled before the lease is released,
so this goes well unless the holder that refuses an errand is one that the errand descends from.

* `fits_step`: a move keeps every errand to its duties, and every tracker served.
* `run_settled`: when all is quiet, no tracker waits that a job came for.
-/

namespace ImportTracking

namespace Runtime

open Work (Plain)

/-! ### Calm runs -/

/-- The key of the lease that is asked for, and whether it is granted. -/
def Deed.asked? : Deed → Option (String × Bool)
  | ⟨_, _, .request (.obtainLease key _), .ok lease⟩ => some (key, lease.isSome)
  | _ => none

/-- The store of leases cannot be reached, or a job is not accepted. -/
def Deed.isDenied : Deed → Bool
  | ⟨_, _, .request (.obtainLease _ _), .error _⟩ => true
  | ⟨_, _, .request (.schedulePipeline _ _), .error _⟩ => true
  | _ => false

/-- Nothing is denied, and a lease is granted exactly when no errand holds one on its key. -/
def Calm (rt : Runtime) (x : Deed) : Prop :=
  x.isDenied = false ∧
    ∀ p ∈ x.asked?, p.2 = true ↔ ∀ e ∈ rt.errands, e.holds ≠ some p.1

/-- No errand is refused a lease by one that it descends from. -/
def Apart (rt : Runtime) (x : Deed) : Prop :=
  ∀ p ∈ x.asked?, p.2 = false →
    ∀ e ∈ rt.errands[x.number]?, ∀ j ∈ e.line, ∀ e' ∈ rt.errands[j]?, e'.holds ≠ some p.1

instance (rt : Runtime) (x : Deed) : Decidable (Calm rt x) := inferInstanceAs (Decidable (_ ∧ _))

instance (rt : Runtime) (x : Deed) : Decidable (Apart rt x) :=
  inferInstanceAs (Decidable (∀ p ∈ x.asked?, _))

/-- Every call of a run is as said, in the state that it is made in. -/
def Throughout (P : Runtime → Deed → Prop) (c : Coordinator) : List Move → Runtime → Prop
  | [], _ => True
  | m :: ms, rt => (∀ x ∈ rt.deed? m, P rt x) ∧ Throughout P c ms (rt.step c m)

instance Throughout.decidable (P : Runtime → Deed → Prop) [∀ rt x, Decidable (P rt x)]
    (c : Coordinator) : (ms : List Move) → (rt : Runtime) → Decidable (Throughout P c ms rt)
  | [], _ => isTrue trivial
  | m :: ms, rt =>
    have := Throughout.decidable P c ms (rt.step c m)
    inferInstanceAs (Decidable (_ ∧ _))

/-! ### Errands on duty -/

/-- The rows that a job names are there. -/
def Rows (job : PipelineJob) (db : Database) : Prop :=
  (∃ t, db.tracker? job.trackerId = some t) ∧ ∃ e, db.entity? job.entityId = some e

/-- An errand keeps to the duties of its role. -/
def OnDuty (c : Coordinator) (db : Database) (g : Role) (e : Errand) : Prop :=
  match e.job with
  | .pipeline job => Rows job db ∧ (duties c job).Keeps (fun g _ => g = .idle) e.rest g ∧
      e.holds = if g.holds then some (c.settings.leaseKey job.trackerId) else none
  | .batch _ => e.rest.Confined Plain ∧ e.holds = none

/-- Every errand is on duty, and every tracker served. -/
structure Fits (c : Coordinator) (roles : Nat → Role) (rt : Runtime) : Prop where
  migrated : rt.database.Migrated
  keyed : rt.database.Keyed
  rows : ∀ w ∈ rt.pending, ∀ job, w.job = .pipeline job → Rows job rt.database
  onDuty : ∀ i e, rt.errands[i]? = some e → OnDuty c rt.database (roles i) e
  served : ∀ k t, rt.database.tracker? k = some t → (situation roles rt k t).Served

section
variable {c : Coordinator} {roles : Nat → Role} {rt : Runtime} {i : Nat} {e : Errand}
  {job : PipelineJob} {g : Role} {t t' : Tracker}

theorem onDuty_pipeline {db : Database} (hjob : e.job = .pipeline job) :
    OnDuty c db g e ↔
      Rows job db ∧ (duties c job).Keeps (fun g _ => g = .idle) e.rest g ∧
        e.holds = if g.holds then some (c.settings.leaseKey job.trackerId) else none := by
  rw [OnDuty, hjob]

theorem onDuty_batch {db : Database} {id : Int} (hjob : e.job = .batch id) :
    OnDuty c db g e ↔ e.rest.Confined Plain ∧ e.holds = none := by
  rw [OnDuty, hjob]

theorem Rows.of_stands {db db' : Database} (h : Database.Stands db db') (hr : Rows job db) :
    Rows job db' :=
  ⟨h.tracker? hr.1, by rw [h.entity]; exact hr.2⟩

/-- What a call leaves of the database. -/
theorem reply_stands (answers : Answers) (call : Work.Call) (db : Database) :
    Database.Stands db (reply answers call db).2 := by
  rcases call with (s | _ | _ | _ | _) | q
  · exact Database.execute_stands s db
  all_goals exact .refl db

/-- The replies to an errand on duty are those that its role expects. -/
theorem Fits.expects (hf : Fits c roles rt) (he : rt.errands[i]? = some e)
    (hjob : e.job = .pipeline job) {call : Work.Call} {answers : Answers}
    (hrows : Rows job rt.database) (hallows : (roles i).Allows c job call)
    (hcalm : Calm rt ⟨i, e.rest, call, (reply answers call rt.database).1⟩) :
    (roles i).Expects job call (reply answers call rt.database).1 := by
  obtain ⟨⟨t, ht⟩, e', he'⟩ := hrows
  rcases call with (s | _ | _ | _ | _) | q
  · cases s with
    | findTracker id =>
        obtain rfl : id = job.trackerId := hallows
        rw [show reply answers (.session (.query (.findTracker job.trackerId))) rt.database =
          (.ok (some t), rt.database) from Database.execute_findTracker ht]
        refine ⟨t, rfl, Database.id_of_tracker? ht, fun st hst => ?_⟩
        exact (hf.served _ t ht).known i st e.line
          (party_situation.mpr ⟨e, he, by rw [hjob]; rfl, by rw [hst]⟩)
    | findEntity id =>
        obtain rfl : id = job.entityId := hallows
        rw [show reply answers (.session (.query (.findEntity job.entityId))) rt.database =
          (.ok (some e'), rt.database) from Database.execute_findEntity he']
        exact ⟨e', rfl⟩
    | findImport id =>
        obtain ⟨x, hx, hok⟩ := Database.execute_findImport rt.database id
        obtain ⟨i, rfl⟩ := hok (hf.migrated _)
        rw [show reply answers (.session (.query (.findImport id))) rt.database =
          (.ok i, rt.database) from hx]
        exact ⟨i, rfl⟩
    | updateTracker id st u =>
        obtain ⟨rfl, -⟩ := hallows
        obtain ⟨-, n, -, hx⟩ | ⟨-, hx⟩ :=
          Database.execute_updateTracker_of_tracker hf.keyed ht st u
        · exact ⟨n, congrArg Prod.fst hx⟩
        · exact ⟨0, congrArg Prod.fst hx⟩
    | _ => exact trivial
  all_goals first
    | exact trivial
    | skip
  cases q with
  | schedulePipeline job' delay =>
      generalize hr : (reply answers (.request (.schedulePipeline job' delay)) rt.database).1 = r
        at hcalm
      cases r with
      | ok u => exact rfl
      | error cause => cases hcalm.1
  | obtainLease key ttl =>
      generalize hr : (reply answers (.request (.obtainLease key ttl)) rt.database).1 = r at hcalm
      cases r with
      | ok lease => exact ⟨lease, rfl⟩
      | error cause => cases hcalm.1
  | _ => exact trivial

/-! ### What a call does to a tracker -/

section
variable {call : Work.Call} {next : Work.Reply call → Program Work Unit}
  {r : Work.Reply call × Database} {k : Int}

/-- A lease is granted to the only one that holds it then. -/
theorem shift_granted (hf : Fits c roles rt) (he : rt.errands[i]? = some e)
    (hk : e.job.trackerId? = some k)
    (hsent : ∀ job, sent? call r.1 = some job → job.trackerId? ≠ some k)
    (hg : roles i = .seeking)
    (hfree : ∀ e ∈ rt.errands, e.holds ≠ some (c.settings.leaseKey k)) :
    Situation.Shift (situation roles rt k t)
      (situation (Function.update roles i (.owing none)) (rt.make i e call next r) k t) := by
  rw [situation_make_unsent he hk hsent (t := t)]
  refine .granted (party_situation.mpr ⟨e, he, hk, by rw [hg]⟩) fun j q hq => ?_
  obtain ⟨e', he', hk', rfl⟩ := party_situation.mp hq
  obtain ⟨job, hjob, rfl⟩ := Job.eq_pipeline hk'
  obtain ⟨-, -, hholds⟩ := (onDuty_pipeline hjob).mp (hf.onDuty j e' he')
  refine Bool.eq_false_iff.mpr fun hh => hfree e' (List.mem_of_getElem? he') ?_
  rw [hholds, if_pos hh]

/-- A lease is refused by an errand that is about the same tracker. -/
theorem shift_refused (hf : Fits c roles rt) (he : rt.errands[i]? = some e)
    (hk : e.job.trackerId? = some k)
    (hsent : ∀ job, sent? call r.1 = some job → job.trackerId? ≠ some k)
    (hg : roles i = .seeking)
    (hheld : ∃ e ∈ rt.errands, e.holds = some (c.settings.leaseKey k))
    (hapart : ∀ j ∈ e.line, ∀ e' ∈ rt.errands[j]?, e'.holds ≠ some (c.settings.leaseKey k)) :
    Situation.Shift (situation roles rt k t)
      (situation (Function.update roles i .idle) (rt.make i e call next r) k t) := by
  rw [situation_make_unsent he hk hsent (t := t)]
  obtain ⟨e', hmem, hholds⟩ := hheld
  obtain ⟨j, he'⟩ := List.mem_iff_getElem?.mp hmem
  have hduty := hf.onDuty j e' he'
  cases hjob : e'.job with
  | batch id =>
      rw [((onDuty_batch hjob).mp hduty).2] at hholds
      cases hholds
  | pipeline job =>
      have hkey := hholds
      rw [((onDuty_pipeline hjob).mp hduty).2.2] at hkey
      obtain ⟨hh, hkey⟩ := Option.ite_none_right_eq_some.mp hkey
      obtain rfl := c.settings.leaseKey_injective (Option.some.inj hkey)
      refine .refused (j := j) (party_situation.mpr ⟨e, he, hk, by rw [hg]⟩)
        (party_situation.mpr ⟨e', he', by rw [hjob]; rfl, rfl⟩) hh fun hj => ?_
      exact hapart j hj e' he' hholds

end

/-- **A statement of an errand on duty** is a shift in the situation of its tracker. -/
theorem Fits.shift_query (hf : Fits c roles rt) (he : rt.errands[i]? = some e)
    (hjob : e.job = .pipeline job) {s : Database.Statement}
    {next : Session.Reply (.query s) → Program Work Unit}
    (hallows : (roles i).Allows c job (.session (.query s)))
    (ht : rt.database.tracker? job.trackerId = some t) :
    ∃ t', (Database.execute s rt.database).2.tracker? job.trackerId = some t' ∧
      Situation.Shift (situation roles rt job.trackerId t)
        (situation
          (Function.update roles i
            ((roles i).next (.session (.query s)) (Database.execute s rt.database).1))
          (rt.make i e (.session (.query s)) next (Database.execute s rt.database))
          job.trackerId t') := by
  have hk : e.job.trackerId? = some job.trackerId := by rw [hjob]; rfl
  have hs := hf.served _ t ht
  have hsent (r : Session.Reply (.query s)) (job' : Job)
      (h : sent? (.session (.query s)) r = some job') : job'.trackerId? ≠ some job.trackerId :=
    nomatch h
  cases s with
  | findTracker id =>
      obtain rfl : id = job.trackerId := hallows
      rw [Database.execute_findTracker ht]
      exact ⟨t, ht, shift_findTracker hs he hk (hsent _)⟩
  | updateTracker id status u =>
      obtain ⟨rfl, hw⟩ := hallows
      obtain ⟨-, n, hn, hx⟩ | ⟨hstale, hx⟩ :=
        Database.execute_updateTracker_of_tracker hf.keyed ht status u
      · rw [hx]
        refine ⟨u.applyTo t, ?_, shift_written he hk (hsent _) hw hn⟩
        have hid : (u.applyTo t).id = job.trackerId := (Database.id_of_tracker? ht :)
        rw [← hid] at ht ⊢
        exact Database.tracker?_putTracker_self ht
      · rw [hx]
        exact ⟨t, ht, shift_stale hs he hk (hsent _) hw hstale⟩
  | _ =>
      refine ⟨t, ?_, shift_quiet hs he hk (hsent _) (.inl rfl)⟩
      exact (Database.tracker?_congr (Database.trackers_execute (by nofun) _) _).trans ht

/-- **A request of an errand on duty** is a shift in the situation of its tracker. -/
theorem Fits.shift_request (hf : Fits c roles rt) (he : rt.errands[i]? = some e)
    (hjob : e.job = .pipeline job) {q : Work.Request} {r : q.Reply}
    {next : q.Reply → Program Work Unit} (hallows : (roles i).Allows c job (.request q))
    (hcalm : Calm rt ⟨i, e.rest, .request q, r⟩) (hapart : Apart rt ⟨i, e.rest, .request q, r⟩)
    (ht : rt.database.tracker? job.trackerId = some t) :
    Situation.Shift (situation roles rt job.trackerId t)
      (situation (Function.update roles i ((roles i).next (.request q) r))
        (rt.make i e (.request q) next (r, rt.database)) job.trackerId t) := by
  have hk : e.job.trackerId? = some job.trackerId := by rw [hjob]; rfl
  have hs := hf.served _ t ht
  cases q with
  | schedulePipeline job' delay =>
      cases r with
      | error cause => cases hcalm.1
      | ok u => exact shift_scheduled he hk rfl hallows.1
  | obtainLease key ttl =>
      obtain ⟨hg, rfl⟩ := hallows
      rcases r with cause | _ | lease
      · cases hcalm.1
      · have hheld : ∃ e ∈ rt.errands, e.holds = some (c.settings.leaseKey job.trackerId) := by
          simpa using hcalm.2 _ rfl
        exact shift_refused hf he hk nofun hg hheld (hapart _ rfl rfl e he)
      · exact shift_granted hf he hk nofun hg ((hcalm.2 _ rfl).mp rfl)
  | releaseLease lease => exact shift_released hs he hk nofun
  | scheduleBatch id =>
      refine shift_quiet hs he hk (fun job' h => ?_) (.inl rfl)
      cases r with
      | error cause => cases h
      | ok u =>
          cases h
          nofun
  | _ => exact shift_quiet hs he hk nofun (.inl rfl)

/-- **Every call of an errand on duty** is a shift in the situation of its tracker. -/
theorem Fits.shift (hf : Fits c roles rt) (he : rt.errands[i]? = some e)
    (hjob : e.job = .pipeline job) {call : Work.Call} {next : Work.Reply call → Program Work Unit}
    {answers : Answers} (hallows : (roles i).Allows c job call)
    (hcalm : Calm rt ⟨i, e.rest, call, (reply answers call rt.database).1⟩)
    (hapart : Apart rt ⟨i, e.rest, call, (reply answers call rt.database).1⟩)
    (ht : rt.database.tracker? job.trackerId = some t) :
    ∃ t', (reply answers call rt.database).2.tracker? job.trackerId = some t' ∧
      Situation.Shift (situation roles rt job.trackerId t)
        (situation
          (Function.update roles i ((roles i).next call (reply answers call rt.database).1))
          (rt.make i e call next (reply answers call rt.database)) job.trackerId t') := by
  rcases call with (s | _ | _ | _ | _) | q
  · exact hf.shift_query he hjob hallows ht
  -- a call that is neither changes nothing
  all_goals first
    | exact ⟨t, ht, hf.shift_request he hjob hallows hcalm hapart ht⟩
    | exact ⟨t, ht, shift_quiet (hf.served _ t ht) he (by rw [hjob]; rfl) nofun (.inl rfl)⟩

/-! ### Moves -/

/-- What an errand holds goes with its role. -/
theorem holdsAfter_eq {call : Work.Call} {r : Work.Reply call} (hallows : g.Allows c job call)
    (h : e.holds = if g.holds then some (c.settings.leaseKey job.trackerId) else none) :
    holdsAfter e.holds call r =
      if (g.next call r).holds then some (c.settings.leaseKey job.trackerId) else none := by
  rcases call with (s | _ | _ | _ | _) | q
  · cases s with
    | findTracker id =>
        rcases r with _ | _ | t
        · exact h
        · exact h
        · rw [show g.next (.session (.query (.findTracker id))) (.ok (some t)) =
            g.afterReading t from rfl]
          cases g <;> first | exact h | (rw [Role.afterReading]; split <;> exact h)
    | updateTracker id status u =>
        rcases r with _ | n
        · exact h
        · rw [show g.next (.session (.query (.updateTracker id status u))) (.ok n) =
            g.afterUpdate u n from rfl]
          cases g <;> first
            | exact h
            | (rw [Role.afterUpdate]; split <;> [exact h; (split <;> exact h)])
    | _ => exact h
  all_goals first
    | exact h
    | skip
  cases q with
  | schedulePipeline job' delay => cases g <;> exact h
  | obtainLease key ttl =>
      obtain ⟨rfl, rfl⟩ := hallows
      rcases r with _ | _ | lease
      · exact h
      · exact h
      · rfl
  | releaseLease lease => cases g <;> rfl
  | _ => exact h

/-- A job that an errand schedules is about the same rows as its own. -/
theorem sent_of_allows {call : Work.Call} {r : Work.Reply call} {job' : PipelineJob}
    (hallows : g.Allows c job call) (h : sent? call r = some (.pipeline job')) :
    job'.trackerId = job.trackerId ∧ job'.entityId = job.entityId := by
  rcases call with _ | q
  · cases h
  cases q with
  | schedulePipeline job'' delay =>
      rcases r with _ | _
      · cases h
      · cases h
        exact ⟨hallows.1, hallows.2.1⟩
  | scheduleBatch id => rcases r with _ | _ <;> cases h
  | _ => cases h

theorem trackerId?_of_sent {call : Work.Call} {r : Work.Reply call} {k : Int}
    (hallows : g.Allows c job call) (hk : k ≠ job.trackerId) (job' : Job)
    (h : sent? call r = some job') : job'.trackerId? ≠ some k := by
  cases job' with
  | batch id => nofun
  | pipeline job' =>
      intro hk'
      exact hk ((Option.some.inj hk').symm.trans (sent_of_allows hallows h).1)

/-- The rows of other trackers are left alone. -/
theorem reply_tracker?_of_ne {call : Work.Call} (answers : Answers) {db : Database}
    (hkeyed : db.Keyed) {k : Int} (hallows : g.Allows c job call) (hk : k ≠ job.trackerId) :
    (reply answers call db).2.tracker? k = db.tracker? k := by
  rcases call with (s | _ | _ | _ | _) | q
  · cases s with
    | updateTracker id status u =>
        obtain ⟨rfl, -⟩ := hallows
        rw [show reply answers (.session (.query (.updateTracker job.trackerId status u))) db =
          Database.execute (.updateTracker job.trackerId status u) db from rfl]
        obtain ⟨t, n, ht, -, -, hx⟩ | ⟨-, hx⟩ | ⟨f, hx⟩ :=
          Database.execute_updateTracker hkeyed job.trackerId status u
        · rw [hx]
          exact Database.tracker?_putTracker_of_ne fun h =>
            hk (h.trans (Database.id_of_tracker? ht :))
        · rw [hx]
        · rw [hx]
    | _ => exact Database.tracker?_congr (Database.trackers_execute (by nofun) _) _
  all_goals rfl

theorem OnDuty.of_stands {db db' : Database} (h : Database.Stands db db') (hd : OnDuty c db g e) :
    OnDuty c db' g e := by
  cases hjob : e.job with
  | batch id => exact (onDuty_batch hjob).mpr ((onDuty_batch hjob).mp hd)
  | pipeline job =>
      obtain ⟨hrows, hrest⟩ := (onDuty_pipeline hjob).mp hd
      exact (onDuty_pipeline hjob).mpr ⟨hrows.of_stands h, hrest⟩

/-- **A call of an errand** keeps every errand on duty, and every tracker served. -/
theorem Fits.make (hf : Fits c roles rt) (he : rt.errands[i]? = some e)
    (hjob : e.job = .pipeline job) {call : Work.Call} {next : Work.Reply call → Program Work Unit}
    (hrest : e.rest = .call call next) {answers : Answers}
    (hcalm : Calm rt ⟨i, e.rest, call, (reply answers call rt.database).1⟩)
    (hapart : Apart rt ⟨i, e.rest, call, (reply answers call rt.database).1⟩) :
    Fits c (Function.update roles i ((roles i).next call (reply answers call rt.database).1))
      (rt.make i e call next (reply answers call rt.database)) := by
  have hstands := reply_stands answers call rt.database
  obtain ⟨hrows, hkeeps, hholds⟩ := (onDuty_pipeline hjob).mp (hf.onDuty i e he)
  rw [hrest] at hkeeps
  obtain ⟨hallows, hnext⟩ := hkeeps
  refine ⟨hstands.migrated hf.migrated, hstands.keyed hf.keyed, fun w hw job' hjob' => ?_,
    fun j e' he' => ?_, fun k t' ht' => ?_⟩
  · -- a job that is scheduled names the rows that the errand's own job names
    obtain hw | hw := List.mem_append.mp hw
    · exact (hf.rows w hw job' hjob').of_stands hstands
    · obtain ⟨sent, hsent, rfl⟩ := List.mem_map.mp hw
      obtain rfl : sent = .pipeline job' := hjob'
      obtain ⟨ht, he⟩ := sent_of_allows hallows (Option.mem_toList.mp hsent)
      unfold Rows
      rw [ht, he]
      exact hrows.of_stands hstands
  · rw [errands_make he] at he'
    by_cases hj : j = i
    · subst hj
      rw [if_pos rfl] at he'
      obtain rfl := Option.some.inj he'
      rw [Function.update_self]
      exact (onDuty_pipeline (by exact hjob)).mpr ⟨hrows.of_stands hstands,
        hnext _ (hf.expects he hjob hrows hallows hcalm), holdsAfter_eq hallows hholds⟩
    · rw [if_neg hj] at he'
      rw [Function.update_of_ne hj]
      exact (hf.onDuty j e' he').of_stands hstands
  · by_cases hk : k = job.trackerId
    · subst hk
      obtain ⟨⟨t, ht⟩, -⟩ := hrows
      obtain ⟨t'', ht'', hshift⟩ := hf.shift he hjob hallows hcalm hapart ht
      obtain rfl := Option.some.inj (ht'.symm.trans ht'')
      exact (hf.served _ t ht).shift hshift
    · rw [situation_make_of_ne he (by rw [hjob]; exact fun h => hk (Option.some.inj h).symm)
        (trackerId?_of_sent hallows hk)]
      exact hf.served k t' ((reply_tracker?_of_ne answers hf.keyed hallows hk).symm.trans ht')

/-- A plain call schedules no job about a tracker. -/
theorem trackerId?_of_plain {call : Work.Call} {r : Work.Reply call} (hp : Plain call) (job' : Job)
    (h : sent? call r = some job') : job'.trackerId? = none := by
  rcases call with _ | q
  · cases h
  cases q with
  | scheduleBatch id =>
      rcases r with _ | _
      · cases h
      · cases h
        rfl
  | schedulePipeline job'' delay => exact hp.elim
  | _ => cases h

/-- A plain call leaves every tracker alone. -/
theorem reply_tracker?_of_plain {call : Work.Call} (answers : Answers) (hp : Plain call)
    (db : Database) (k : Int) : (reply answers call db).2.tracker? k = db.tracker? k := by
  rcases call with (s | _ | _ | _ | _) | q
  · exact Database.tracker?_congr (Database.trackers_execute (fun _ _ _ h => by
      subst h
      exact hp) db) k
  all_goals rfl

/-- By a plain call no lease is taken or given back. -/
theorem holdsAfter_of_plain {call : Work.Call} (hp : Plain call) (r : Work.Reply call)
    (held : Option String) : holdsAfter held call r = held := by
  rcases call with _ | q
  · rfl
  cases q with
  | obtainLease key ttl => exact hp.elim
  | releaseLease lease => exact hp.elim
  | _ => rfl

/-- A call of an errand for a batch is about no tracker. -/
theorem Fits.make_batch (hf : Fits c roles rt) (he : rt.errands[i]? = some e) {id : Int}
    (hjob : e.job = .batch id) {call : Work.Call} {next : Work.Reply call → Program Work Unit}
    (hrest : e.rest = .call call next) (answers : Answers) :
    Fits c roles (rt.make i e call next (reply answers call rt.database)) := by
  have hstands := reply_stands answers call rt.database
  obtain ⟨hplain, hholds⟩ := (onDuty_batch hjob).mp (hf.onDuty i e he)
  rw [hrest] at hplain
  cases hplain with
  | call hp hnext =>
      have hsent (k : Int) (job' : Job) (h : sent? call (reply answers call rt.database).1 =
          some job') : job'.trackerId? ≠ some k := by
        rw [trackerId?_of_plain hp job' h]
        nofun
      refine ⟨hstands.migrated hf.migrated, hstands.keyed hf.keyed, fun w hw job' hjob' => ?_,
        fun j e' he' => ?_, fun k t' ht' => ?_⟩
      · obtain hw | hw := List.mem_append.mp hw
        · exact (hf.rows w hw job' hjob').of_stands hstands
        · obtain ⟨sent, hs, rfl⟩ := List.mem_map.mp hw
          obtain rfl : sent = .pipeline job' := hjob'
          exact absurd rfl (hsent _ _ (Option.mem_toList.mp hs))
      · rw [errands_make he] at he'
        by_cases hj : j = i
        · rw [if_pos hj] at he'
          obtain rfl := Option.some.inj he'
          exact (onDuty_batch (by exact hjob)).mpr
            ⟨hnext _, (holdsAfter_of_plain hp _ _).trans hholds⟩
        · rw [if_neg hj] at he'
          exact (hf.onDuty j e' he').of_stands hstands
      · have hsituation : situation (Function.update roles i (roles i))
            (rt.make i e call next (reply answers call rt.database)) k t' =
            situation roles rt k t' :=
          situation_make_of_ne he (by rw [hjob]; nofun) (hsent k)
        rw [Function.update_eq_self] at hsituation
        rw [hsituation]
        exact hf.served k t' ((reply_tracker?_of_plain answers hp _ k).symm.trans ht')

/-- A job that is received is handled by an errand that comes for the lease. -/
theorem Fits.received (hf : Fits c roles rt) {place : Nat} {w : Parcel}
    (hw : rt.pending[place]? = some w) :
    Fits c (Function.update roles rt.errands.length .seeking) (rt.receive c place) := by
  have hdb := database_receive c rt place
  refine ⟨by rw [hdb]; exact hf.migrated, by rw [hdb]; exact hf.keyed, fun w' hw' => ?_,
    fun j e he => ?_, fun k t ht => ?_⟩
  · rw [hdb]
    exact hf.rows w' (pending_receive_subset c rt place hw')
  · rw [hdb]
    rw [errands_receive hw] at he
    by_cases hj : j = rt.errands.length
    · rw [if_pos hj] at he
      obtain rfl := Option.some.inj he
      subst hj
      rw [Function.update_self]
      cases hjob : w.job with
      | batch id => exact (onDuty_batch rfl).mpr ⟨.call trivial fun _ => .done _, rfl⟩
      | pipeline job =>
          exact (onDuty_pipeline rfl).mpr
            ⟨hf.rows w (List.mem_of_getElem? hw) job hjob, keeps_deliver, rfl⟩
    · rw [if_neg hj] at he
      rw [Function.update_of_ne hj]
      exact hf.onDuty j e he
  · rw [hdb] at ht
    by_cases hk : w.job.trackerId? = some k
    · exact (hf.served k t ht).shift (shift_received hw hk)
    · rw [situation_receive_of_ne hw hk]
      exact hf.served k t ht

/-- **A move** keeps every errand on duty, and every tracker served. -/
theorem fits_step (hf : Fits c roles rt) (m : Move)
    (h : ∀ x ∈ rt.deed? m, Calm rt x ∧ Apart rt x) : ∃ roles', Fits c roles' (rt.step c m) := by
  obtain ⟨hstep, -⟩ | ⟨place, w, hw, -, hstep⟩ |
    ⟨i, e, call, next, answers, he, hrest, hdeed, hstep⟩ := step_cases c m rt
  · rw [hstep]
    exact ⟨roles, hf⟩
  · rw [hstep]
    exact ⟨_, hf.received hw⟩
  · rw [hstep]
    obtain ⟨hcalm, hapart⟩ := h _ hdeed
    cases hjob : e.job with
    | pipeline job => exact ⟨_, hf.make he hjob hrest hcalm hapart⟩
    | batch id => exact ⟨_, hf.make_batch he hjob hrest answers⟩

/-- Any number of moves keep it. -/
theorem fits_run (ms : List Move) (hf : Fits c roles rt)
    (h : Throughout (fun rt x => Calm rt x ∧ Apart rt x) c ms rt) :
    ∃ roles', Fits c roles' (rt.run c ms) := by
  induction ms generalizing roles rt with
  | nil => exact ⟨roles, hf⟩
  | cons m ms ih =>
      obtain ⟨roles', hf'⟩ := fits_step hf m h.1
      exact ih hf' h.2

/-- Before anything is received nothing is owed. -/
theorem fits_start (c : Coordinator) {db : Database} (hm : db.Migrated) (hk : db.Keyed)
    {jobs : List Job} (hrows : ∀ job, .pipeline job ∈ jobs → Rows job db) :
    Fits c (fun _ => .idle) (start db jobs) := by
  have hnone (i : Nat) : (start db jobs).errands[i]? = none := rfl
  refine ⟨hm, hk, fun w hw job hjob => ?_, fun i e he => ?_, fun k t ht => ?_⟩
  · obtain ⟨job', hmem, rfl⟩ := List.mem_map.mp hw
    exact hrows job (hjob ▸ hmem)
  · rw [hnone] at he
    cases he
  · have hparty (i : Nat) : (situation (fun _ => .idle) (start db jobs) k t).party i = none := rfl
    refine ⟨fun _ ⟨i, p, hp⟩ => ?_, fun i _ _ hp => ?_, fun i _ _ _ hp => ?_, fun i _ hp => ?_⟩
    all_goals
      rw [hparty] at hp
      cases hp

/-- **No tracker is forgotten.**  When jobs are accepted, a lease is granted exactly when no errand
holds one on its key, and no errand is refused one by an errand that it descends from, then in the
end, with no job in the queue and none being handled, no tracker waits that a job came for. -/
theorem run_settled (c : Coordinator) {db : Database} (hm : db.Migrated) (hk : db.Keyed)
    {jobs : List Job} (hrows : ∀ job, .pipeline job ∈ jobs → Rows job db) (ms : List Move)
    (h : Throughout (fun rt x => Calm rt x ∧ Apart rt x) c ms (start db jobs))
    (hquiet : ((start db jobs).run c ms).Quiet) :
    ∀ e ∈ ((start db jobs).run c ms).errands, ∀ job, e.job = .pipeline job →
      ∃ t, ((start db jobs).run c ms).database.tracker? job.trackerId = some t ∧ ¬t.Waiting := by
  intro e hmem job hjob
  obtain ⟨roles, hf⟩ := fits_run ms (fits_start c hm hk hrows) h
  obtain ⟨i, he⟩ := List.mem_iff_getElem?.mp hmem
  obtain ⟨⟨⟨t, ht⟩, -⟩, -⟩ := (onDuty_pipeline hjob).mp (hf.onDuty i e he)
  refine ⟨t, ht, fun hw => ?_⟩
  have hs := hf.served _ t ht
  obtain ⟨l, w, hmem, -⟩ | ⟨j, p, hp, ho⟩ :=
    hs.owed hw ⟨i, _, party_situation.mpr ⟨e, he, by rw [hjob]; rfl, rfl⟩⟩
  · rw [hquiet.1] at hmem
    cases hmem
  · -- an errand that has nothing left to do owes nothing
    obtain ⟨e', he', hk', rfl⟩ := party_situation.mp hp
    obtain ⟨job', hjob', -⟩ := Job.eq_pipeline hk'
    obtain ⟨-, hkeeps, -⟩ := (onDuty_pipeline hjob').mp (hf.onDuty j e' he')
    have hdone := hquiet.2 e' (List.mem_of_getElem? he')
    cases hrest : e'.rest with
    | call call next =>
        rw [hrest] at hdone
        cases hdone
    | done u =>
        rw [hrest] at hkeeps
        rw [show roles j = .idle from hkeeps] at ho
        exact ho

end

/-- Others that grant every request; the lease is free or not, and pipelines end so. -/
def granting (free : Bool) (outcome : Pipeline.Outcome) : Answers := fun call =>
  (Work.steady .epoch "again" (fun
    | .obtainLease key _ => .ok (if free then some ⟨key, ""⟩ else none)
    | .runPipeline _ _ => .ok outcome
    | r => Work.granted r) call ()).1

/-- Two jobs for one tracker.  The second one is refused the lease while the first one runs, and the
first one puts its job back, which is received after the lease was released. -/
theorem run_settled_contended :
    let c : Coordinator := { registry := ⟨[⟨"issues", "issues", false⟩]⟩ }
    let e : Entity := { (default : Entity) with id := 1 }
    let t : Tracker :=
      { (default : Tracker) with id := 1, pipelineName := "issues", status := "enqueued" }
    let jobs : List Job :=
      [.pipeline (.first 1 1 "one" "corr"), .pipeline (.first 1 1 "two" "corr")]
    let ms : List Move :=
      [.receive 0, .receive 0] ++
        List.replicate 5 (.advance 0 (granting true (.retry .zero ""))) ++
        List.replicate 5 (.advance 1 (granting false .ok)) ++
        List.replicate 12 (.advance 0 (granting true (.retry .zero ""))) ++
        [.receive 0] ++ List.replicate 20 (.advance 2 (granting true .ok))
    let rt := (start (.single e t) jobs).run c ms
    rt.Quiet ∧ rt.errands.map (fun e => (e.job.trackerId?, e.line)) =
        [(some 1, []), (some 1, []), (some 1, [0])] ∧
      ∀ e ∈ rt.errands, ∀ job, e.job = .pipeline job →
        ∃ t, rt.database.tracker? job.trackerId = some t ∧ ¬t.Waiting := by
  intro c e t jobs ms rt
  have hquiet : rt.Quiet := by decide +kernel
  have hrows (job : PipelineJob) (h : .pipeline job ∈ jobs) : Rows job (.single e t) := by
    obtain h | h : job = .first 1 1 "one" "corr" ∨ job = .first 1 1 "two" "corr" := by
      simpa [jobs] using h
    all_goals
      rw [h]
      exact ⟨⟨t, Database.tracker?_single e t⟩, e, Database.entity?_single e t⟩
  exact ⟨hquiet, by decide +kernel, run_settled c (Database.migrated_single e t)
    (Database.keyed_single e t) hrows ms (by decide +kernel) hquiet⟩

/-- A job that is put back without delay can be received before the lease is released; it is refused
then, and nobody comes for the tracker any more. -/
theorem run_forgotten :
    let c : Coordinator := { registry := ⟨[⟨"issues", "issues", false⟩]⟩ }
    let e : Entity := { (default : Entity) with id := 1 }
    let t : Tracker :=
      { (default : Tracker) with id := 1, pipelineName := "issues", status := "enqueued" }
    let jobs : List Job := [.pipeline (.first 1 1 "one" "corr")]
    let ms : List Move :=
      [.receive 0] ++ List.replicate 16 (.advance 0 (granting true (.retry .zero ""))) ++
        [.receive 0] ++ List.replicate 5 (.advance 1 (granting false .ok)) ++
        [.advance 0 (granting true .ok)]
    let rt := (start (.single e t) jobs).run c ms
    t.isRunnable = true ∧ Throughout Calm c ms (start (.single e t) jobs) ∧ rt.Quiet ∧
      rt.errands.map (fun e => (e.job.trackerId?, e.line)) = [(some 1, []), (some 1, [0])] ∧
      (rt.database.tracker? 1).map (·.status) = some Tracker.Status.enqueued.name := by
  decide +kernel

end Runtime

end ImportTracking
