import ImportTracking.Proofs.Errands
import ImportTracking.Proofs.Twins
import ImportTracking.Proofs.Visits

/-!
# Commuting — jobs for different trackers, in either order

Two jobs for different trackers are handled one after the other.  Which of them comes first makes no
difference: each is disposed of as if it were alone, and the rows, the leases and the jobs that are
scheduled are the same in the end, but for the ids that are generated on the way.

* `agrees_of_twins`, `Agrees.bind`: twins that are run side by side do the same.
* `agrees_deliver`: a job does the same in two scenes in which its tracker sees the same.
* `deliver_comm`: two jobs for different trackers may be handled in either order.

Collaborators are taken to answer a request always alike (`fixed`), and the scheduler to pay no heed
to generated ids (`Heedless`); a store of leases, of either kind, is one of them.
-/

namespace ImportTracking.Work

open Lease (Keeping)

/-! ### Collaborators that reply by a fixed function -/

/-- Collaborators that reply to each request by a fixed function of it, at one time, and a store of
leases; ids are generated in the order of `ids`. -/
def fixed (reply : (r : Request) → r.Reply) (now : Timestamp) (ids : Nat → String) :
    Surroundings (Keeping × Nat)
  | .session (.query _), s => (.error default, s)
  | .session .now, s => (now, s)
  | .session .newJid, s => (ids s.2, (s.1, s.2 + 1))
  | .session .newCorrelation, s => (ids s.2, (s.1, s.2 + 1))
  | .session .newToken, s => (ids s.2, (s.1, s.2 + 1))
  | .request (.obtainLease key ttl), s =>
    let r := s.1.obtain_ now (ids s.2) key ttl
    (r.1, (r.2, s.2 + 1))
  | .request (.releaseLease lease), s =>
    let r := s.1.release now lease
    (r.1, (r.2, s.2))
  | .request q, s => (reply q, s)

/-- Replies that do not depend on what was generated after the outset `o`. -/
structure Heedless (o : Database) (reply : (r : Request) → r.Reply) : Prop where
  pipeline : ∀ (job job' : PipelineJob) (delay : Duration), job'.anonymous = job.anonymous →
    reply (.schedulePipeline job' delay) = reply (.schedulePipeline job delay)
  batch : ∀ id id' : Int, known o.lastBatchId id' = known o.lastBatchId id →
    reply (.scheduleBatch id') = reply (.scheduleBatch id)

/-- A job that is offered to the scheduler, but for generated ids. -/
inductive Offer where
  | pipeline (job : Option String × PipelineJob) (delay : Duration)
  | batch (id : Option Int)
deriving DecidableEq

/-- The job that is offered in an exchange, if one is, with the reply. -/
def Exchange.offer? (last : Nat) : Exchange → Option (Offer × Except Cause Unit)
  | ⟨.schedulePipeline job delay, r⟩ => some (.pipeline job.anonymous delay, r)
  | ⟨.scheduleBatch id, r⟩ => some (.batch (known last id), r)
  | _ => none

/-- All jobs that were offered to the scheduler, with its replies; those that it accepted are
scheduled. -/
def offers (o : Database) (log : List Exchange) : Multiset (Offer × Except Cause Unit) :=
  ↑(log.filterMap (Exchange.offer? o.lastBatchId))

theorem offers_append (o : Database) (log : List Exchange) (x : Exchange) :
    offers o (log ++ [x]) = offers o log + ↑(Exchange.offer? o.lastBatchId x).toList := by
  rw [offers, List.filterMap_append, ← Multiset.coe_add]
  cases h : Exchange.offer? o.lastBatchId x <;> simp [offers, h]

/-! ### Runs side by side -/

/-- Two runs of work on a tracker, side by side: among collaborators that reply alike, each with ids
of its own and from a scene of its own. -/
structure Comparison where
  /-- What is generated is generated since then. -/
  outset : Database
  tracker : Int
  reply : (r : Request) → r.Reply
  heedless : Heedless outset reply
  now : Timestamp
  ids : Nat → String
  ids' : Nat → String
  start : Scene (Keeping × Nat)
  start' : Scene (Keeping × Nat)

namespace Comparison

variable (w : Comparison)

/-- A run of a program from a scene. -/
def play {α : Type} (ids : Nat → String) (p : Program Work α) (s : Scene (Keeping × Nat)) :
    α × Scene (Keeping × Nat) :=
  p.run (Scene.answer (fixed w.reply w.now ids)) s

/-- The runs have come the same way. -/
structure Beside (s s' : Scene (Keeping × Nat)) : Prop where
  databases : Database.Parallel w.outset w.tracker w.start.database w.start'.database
    s.database s'.database
  offers : offers w.outset s.exchanges + Work.offers w.outset w.start'.exchanges =
    Work.offers w.outset s'.exchanges + Work.offers w.outset w.start.exchanges

/-- Two programs, where the runs have come the same way and the leases are `L`, do the same and
leave leases that are `L'`. -/
def Agrees {α β : Type} (L L' : Keeping → Keeping → Prop) (post : α → β → Prop)
    (p : Program Work α) (p' : Program Work β) : Prop :=
  ∀ s s', w.Beside s s' → L s.around.1 s'.around.1 →
    post (w.play w.ids p s).1 (w.play w.ids' p' s').1 ∧
      w.Beside (w.play w.ids p s).2 (w.play w.ids' p' s').2 ∧
      L' (w.play w.ids p s).2.around.1 (w.play w.ids' p' s').2.around.1

variable {w} {s s' : Scene (Keeping × Nat)} {α β γ δ : Type}

theorem Agrees.bind {L L' L'' : Keeping → Keeping → Prop} {M : α → β → Prop} {post : γ → δ → Prop}
    {p : Program Work α} {p' : Program Work β} {f : α → Program Work γ} {f' : β → Program Work δ}
    (hp : w.Agrees L L' M p p') (hf : ∀ a b, M a b → w.Agrees L' L'' post (f a) (f' b)) :
    w.Agrees L L'' post (p.bind f) (p'.bind f') := by
  intro s s' hb hl
  obtain ⟨hm, hb, hl⟩ := hp s s' hb hl
  simp only [play, Program.run_bind]
  exact hf _ _ hm _ _ hb hl

/-- Requests that were noted on both sides are noted alike, when they offer the same. -/
theorem Beside.note (hb : w.Beside s s') {x x' : Exchange}
    (hx : Exchange.offer? w.outset.lastBatchId x' = Exchange.offer? w.outset.lastBatchId x)
    {k k' : Keeping × Nat} :
    w.Beside ⟨s.database, k, s.exchanges ++ [x]⟩ ⟨s'.database, k', s'.exchanges ++ [x']⟩ := by
  refine ⟨hb.databases, ?_⟩
  rw [offers_append, offers_append, hx, add_right_comm, hb.offers, add_right_comm]

/-- A request that offers nothing leaves the runs side by side. -/
theorem Beside.ask (hb : w.Beside s s') {q q' : Request}
    (hq : ∀ r, Exchange.offer? w.outset.lastBatchId ⟨q, r⟩ = none)
    (hq' : ∀ r, Exchange.offer? w.outset.lastBatchId ⟨q', r⟩ = none) :
    w.Beside (w.play w.ids (request q) s).2 (w.play w.ids' (request q') s').2 :=
  hb.note ((hq' _).trans (hq _).symm)

/-- What is called for but no request leaves nothing. -/
theorem Beside.around (hb : w.Beside s s') (k k' : Keeping × Nat) :
    w.Beside { s with around := k } { s' with around := k' } := ⟨hb.databases, hb.offers⟩

theorem play_schedulePipeline {ids : Nat → String} {job : PipelineJob} {delay : Duration}
    {r : Except Cause Unit} (hr : w.reply (.schedulePipeline job delay) = r)
    (f : Except Cause Unit → Program Work α) (s : Scene (Keeping × Nat)) :
    w.play ids (.call (.request (.schedulePipeline job delay)) f) s =
      w.play ids (f r)
        { s with exchanges := s.exchanges ++ [⟨.schedulePipeline job delay, r⟩] } := by
  subst hr
  rfl

theorem play_scheduleBatch {ids : Nat → String} {id : Int} {r : Except Cause Unit}
    (hr : w.reply (.scheduleBatch id) = r) (f : Except Cause Unit → Program Work α)
    (s : Scene (Keeping × Nat)) :
    w.play ids (.call (.request (.scheduleBatch id)) f) s =
      w.play ids (f r) { s with exchanges := s.exchanges ++ [⟨.scheduleBatch id, r⟩] } := by
  subst hr
  rfl

/-- **Twins that are run side by side do the same**, and leave the leases alone. -/
theorem agrees_of_twins {post : α → β → Prop} {p : Program Work α} {p' : Program Work β}
    (hp : Twins w.outset w.tracker post p p') (L : Keeping → Keeping → Prop) :
    w.Agrees L L post p p' := by
  induction hp with
  | done h => exact fun s s' hb hl => ⟨h, hb, hl⟩
  | query hs _ ih =>
      intro s s' hb hl
      obtain ⟨hx, hm⟩ :=
        Database.execute_moves hs hb.databases.alike hb.databases.grown hb.databases.grown'
      exact ih _ _ hx _ _ ⟨hb.databases.moves hm, hb.offers⟩ hl
  | now _ ih => exact fun s s' hb hl => ih w.now _ _ (hb.around _ _) hl
  | newJid _ ih => exact fun s s' hb hl => ih _ _ _ _ (hb.around _ _) hl
  | @schedulePipeline job job' delay f f' hjob _ ih =>
      intro s s' hb hl
      rw [play_schedulePipeline rfl,
        play_schedulePipeline (w.heedless.pipeline job job' delay hjob)]
      exact ih _ _ _ (hb.note (by simp only [Exchange.offer?, hjob])) hl
  | @scheduleBatch id id' f f' hid _ ih =>
      intro s s' hb hl
      rw [play_scheduleBatch rfl, play_scheduleBatch (w.heedless.batch id id' hid)]
      exact ih _ _ _ (hb.note (by simp only [Exchange.offer?, hid])) hl
  | @request q f f' hq _ ih =>
      intro s s' hb hl
      cases q with
      | obtainLease | releaseLease | schedulePipeline | scheduleBatch => exact hq.elim
      | isUnderLoad | readExport | runPipeline | performBatch | track =>
          exact ih _ _ _ (hb.note rfl) hl

/-! ### Jobs side by side -/

variable (w) in
/-- The leases are as they were at the start. -/
def AtStart (k k' : Keeping) : Prop := k = w.start.around.1 ∧ k' = w.start'.around.1

variable (w) in
/-- The leases are as they were at the start, or as a visit left them, on both sides. -/
def Visited (key : String) (ttl : Duration) : Keeping → Keeping → Prop :=
  Keeping.SameVisit w.now key ttl w.start.around.1 w.start'.around.1

variable (w) in
/-- Both stores are sound, and grant a lease on the key or refuse it both. -/
structure Ready (key : String) (ttl : Duration) : Prop where
  sound : w.start.around.1.Sound
  sound' : w.start'.around.1.Sound
  granting : w.start'.around.1.granting w.now key ttl = w.start.around.1.granting w.now key ttl

theorem agrees_idle {L : Keeping → Keeping → Prop} {key : String} {ttl : Duration}
    {post : α → β → Prop} {p : Program Work α} {p' : Program Work β}
    (hp : w.Agrees L w.AtStart post p p') : w.Agrees L (w.Visited key ttl) post p p' :=
  fun s s' hb hl => let ⟨h, hb, hl⟩ := hp s s' hb hl; ⟨h, hb, .inl hl⟩

/-- Work under a lease is done on both sides or on neither, and leaves no lease behind. -/
theorem agrees_guarded {key : String} {ttl : Duration} (hw : w.Ready key ttl)
    {work : Program Work α} (hwork : Twins w.outset w.tracker Eq work work) :
    let p := Lease.guarded (request (.obtainLease key ttl))
      (fun lease => request (.releaseLease lease)) work
    w.Agrees w.AtStart (w.Visited key ttl) Eq p p := by
  rintro p s s' hb ⟨hl, hl'⟩
  have hsound : s.around.1.Sound := hl ▸ hw.sound
  have hsound' : s'.around.1.Sound := hl' ▸ hw.sound'
  have hgranting : s'.around.1.granting w.now key ttl = s.around.1.granting w.now key ttl := by
    rw [hl, hl', hw.granting]
  rw [Visited, ← hl, ← hl']
  let asked : Program Work _ := request (.obtainLease key ttl)
  have hb₁ : w.Beside (w.play w.ids asked s).2 (w.play w.ids' asked s').2 :=
    hb.ask (fun _ => rfl) fun _ => rfl
  cases hg : s.around.1.granting w.now key ttl with
  | true =>
      obtain ⟨hr, hleft⟩ := Keeping.obtain_of_granting hsound hg (w.ids s.around.2)
      obtain ⟨hr', hleft'⟩ :=
        Keeping.obtain_of_granting hsound' (hgranting.trans hg) (w.ids' s'.around.2)
      have hp : w.play w.ids p s = _ := Lease.guarded_obtained _ hr
      have hp' : w.play w.ids' p s' = _ := Lease.guarded_obtained _ hr'
      obtain ⟨hval, hb₂, hk, hk'⟩ := agrees_of_twins hwork
        (fun k k' => k = (w.play w.ids asked s).2.around.1 ∧
          k' = (w.play w.ids' asked s').2.around.1) _ _ hb₁ ⟨rfl, rfl⟩
      rw [hp, hp']
      refine ⟨congrArg some hval, hb₂.ask (fun _ => rfl) fun _ => rfl, .inr ⟨?_, ?_⟩⟩
      · rw [← hleft]
        exact congrArg (fun k => (k.release w.now ⟨key, w.ids s.around.2⟩).2) hk
      · rw [← hleft']
        exact congrArg (fun k => (k.release w.now ⟨key, w.ids' s'.around.2⟩).2) hk'
  | false =>
      obtain ⟨hr, hleft⟩ := Keeping.obtain_of_not_granting hsound hg (w.ids s.around.2)
      obtain ⟨hr', hleft'⟩ :=
        Keeping.obtain_of_not_granting hsound' (hgranting.trans hg) (w.ids' s'.around.2)
      have hp : w.play w.ids p s = _ := Lease.guarded_held _ rfl hr
      have hp' : w.play w.ids' p s' = _ := Lease.guarded_held _ rfl hr'
      rw [hp, hp']
      exact ⟨rfl, hb₁, .inr ⟨hleft, hleft'⟩⟩

section
variable {c : Coordinator} {job : PipelineJob}

/-- The lease that a job asks for is to be had on both sides, or on neither. -/
abbrev ReadyFor (w : Comparison) (c : Coordinator) (job : PipelineJob) : Prop :=
  w.Ready (c.settings.leaseKey job.trackerId) c.settings.leaseTimeout

/-- The leases are as they were at the start, or as a job left them. -/
abbrev VisitedBy (w : Comparison) (c : Coordinator) (job : PipelineJob) :
    Keeping → Keeping → Prop :=
  w.Visited (c.settings.leaseKey job.trackerId) c.settings.leaseTimeout

theorem agrees_performUnderLease (hw : w.ReadyFor c job) (hjob : job.trackerId = w.tracker)
    (e : Entity) (a : Attributes) :
    w.Agrees w.AtStart (w.VisitedBy c job) Eq (c.performUnderLease job e a).run
      (c.performUnderLease job e a).run := by
  have hwork : Twins w.outset w.tracker Eq (c.performLocked job e a).run
      (c.performLocked job e a).run := (twins_performLocked hjob a).mono fun _ _ h => h.eq
  refine (agrees_guarded hw hwork).bind ?_
  rintro x _ rfl
  exact fun s s' hb hl => ⟨rfl, hb, hl⟩

theorem agrees_perform (hw : w.ReadyFor c job) (hjob : job.trackerId = w.tracker) :
    w.Agrees w.AtStart (w.VisitedBy c job) Eq (c.perform job).run (c.perform job).run := by
  rw [Coordinator.perform, run_task_bind]
  refine (agrees_of_twins (twins_load hjob) _).bind fun x y hxy => ?_
  cases hxy with
  | error f => exact agrees_idle (agrees_of_twins (.done rfl) _)
  | @ok sub _ h =>
      obtain ⟨rfl, -⟩ := h
      dsimp only
      rw [run_lift_bind]
      refine (agrees_of_twins (twins_admission _ _) _).bind ?_
      rintro v _ rfl
      cases v with
      | proceed => exact agrees_performUnderLease hw hjob _ _
      | defer delay goal =>
          exact agrees_idle
            (agrees_of_twins ((twins_reEnqueue_then job delay _).mono fun _ _ h => h.eq) _)

/-- **A job does the same** in two scenes in which its tracker sees the same. -/
theorem agrees_deliver (hw : w.ReadyFor c job) (hjob : job.trackerId = w.tracker) :
    w.Agrees w.AtStart (w.VisitedBy c job) Eq (c.deliver job) (c.deliver job) := by
  refine (agrees_perform hw hjob).bind ?_
  rintro r _ rfl
  cases r with
  | ok outcome => exact agrees_of_twins (.done rfl) _
  | error f => exact agrees_of_twins (twins_afterFault hjob f) _

/-- What is the same when a job was handled from the start on both sides. -/
theorem deliver_beside (hw : w.ReadyFor c job) (hjob : job.trackerId = w.tracker)
    (ha : Database.Alike w.outset w.tracker w.start.database w.start'.database)
    (hg : Database.Grown w.outset w.start.database)
    (hg' : Database.Grown w.outset w.start'.database) {r r' : Delivery × Scene (Keeping × Nat)}
    (hr : w.play w.ids (c.deliver job) w.start = r)
    (hr' : w.play w.ids' (c.deliver job) w.start' = r') :
    r.1 = r'.1 ∧ w.Beside r.2 r'.2 ∧ w.VisitedBy c job r.2.around.1 r'.2.around.1 := by
  subst hr hr'
  exact agrees_deliver hw hjob _ _ ⟨.refl ha hg hg', add_comm _ _⟩ ⟨rfl, rfl⟩

end

end Comparison

/-! ### Either order -/

/-- Two scenes that are the same, but for ids that were generated after the outset `o`. -/
structure Concur (o : Database) (s s' : Scene (Keeping × Nat)) : Prop where
  trackers : s'.database.trackerRows = s.database.trackerRows
  batches : (s'.database.batchRows.map (Batch.anonymous o.lastBatchId)).Perm
    (s.database.batchRows.map (Batch.anonymous o.lastBatchId))
  failures : (s'.database.failureRows.map (Failure.anonymous o.lastFailureId)).Perm
    (s.database.failureRows.map (Failure.anonymous o.lastFailureId))
  offers : offers o s'.exchanges = offers o s.exchanges
  leases : s'.around.1 = s.around.1

/-- The scenes that work on two trackers leaves, in either order, are the same: from `s` it goes by
way of `s₁` to `s₁₂`, and by way of `s₂` to `s₂₁`. -/
theorem concur_of_square {o : Database} {n m : Int} {s s₁ s₂ s₁₂ s₂₁ : Scene (Keeping × Nat)}
    (hnm : n ≠ m)
    (hdb : Database.Parallel o n s.database s₂.database s₁.database s₂₁.database)
    (hdb' : Database.Parallel o m s.database s₁.database s₂.database s₁₂.database)
    (hoffers : offers o s₁.exchanges + offers o s₂.exchanges =
      offers o s₂₁.exchanges + offers o s.exchanges)
    (hoffers' : offers o s₂.exchanges + offers o s₁.exchanges =
      offers o s₁₂.exchanges + offers o s.exchanges)
    (hleases : s₂₁.around.1 = s₁₂.around.1) : Concur o s₁₂ s₂₁ := by
  obtain ⟨htrackers, hrows⟩ := hdb.square hnm hdb'
  refine ⟨htrackers, Multiset.coe_eq_coe.mp (congrArg Prod.fst hrows),
    Multiset.coe_eq_coe.mp (congrArg Prod.snd hrows), ?_, hleases⟩
  rw [add_comm, hoffers'] at hoffers
  exact (add_right_cancel hoffers).symm

end Work

namespace Coordinator

open Work
open Lease (Keeping)

/-- Two jobs are handled one after the other. -/
def deliverBoth (c : Coordinator) (a b : PipelineJob) : Program Work (Delivery × Delivery) :=
  (c.deliver a).bind fun x => (c.deliver b).bind fun y => .done (x, y)

theorem run_deliverBoth {σ : Type} (answer : (call : Call) → σ → Reply call × σ) (c : Coordinator)
    (a b : PipelineJob) (s : σ) :
    (c.deliverBoth a b).run answer s =
      let r := (c.deliver a).run answer s
      let r' := (c.deliver b).run answer r.2
      ((r.1, r'.1), r'.2) := by
  rw [deliverBoth, Program.run_bind, Program.run_bind]
  rfl

/-- **Jobs for different trackers commute.**  In either order each is disposed of as if it were
alone; and the trackers, the batches and failures up to generated ids, the jobs that were offered to
the scheduler, and the leases are the same in the end. -/
theorem deliver_comm (c : Coordinator) {a b : PipelineJob} (hab : a.trackerId ≠ b.trackerId)
    {db : Database} (hdb : db.Keyed) {leases : Keeping} (hleases : leases.Sound)
    {reply : (r : Request) → r.Reply} (hreply : Heedless db reply) (now : Timestamp)
    (ids ids' : Nat → String) :
    let s : Scene (Keeping × Nat) := ⟨db, (leases, 0), []⟩
    let alone (job : PipelineJob) :=
      ((c.deliver job).run (Scene.answer (fixed reply now ids)) s).1
    let ab := (c.deliverBoth a b).run (Scene.answer (fixed reply now ids)) s
    let ba := (c.deliverBoth b a).run (Scene.answer (fixed reply now ids')) s
    ab.1 = (alone a, alone b) ∧ ba.1 = (alone b, alone a) ∧ Concur db ab.2 ba.2 := by
  intro s alone ab ba
  let compare (n : Int) (i i' : Nat → String) (t : Scene (Keeping × Nat)) : Comparison :=
    ⟨db, n, reply, hreply, now, i, i', s, t⟩
  have hg : Database.Grown db s.database := ⟨hdb, Nat.le_refl _, Nat.le_refl _⟩
  have hkey : c.settings.leaseKey a.trackerId ≠ c.settings.leaseKey b.trackerId :=
    fun h => hab (c.settings.leaseKey_injective h)
  -- what each job leaves the other one, when it comes first
  obtain ⟨x, hx⟩ : ∃ x, (c.deliver a).run (Scene.answer (fixed reply now ids)) s = x := ⟨_, rfl⟩
  obtain ⟨y, hy⟩ : ∃ y, (c.deliver b).run (Scene.answer (fixed reply now ids')) s = y := ⟨_, rfl⟩
  obtain ⟨-, hbx, hlx⟩ := Comparison.deliver_beside (w := compare a.trackerId ids ids s)
    ⟨hleases, hleases, rfl⟩ rfl (.refl db _ db) hg hg hx hx
  obtain ⟨hval, hby, hly⟩ := Comparison.deliver_beside (w := compare b.trackerId ids' ids s)
    ⟨hleases, hleases, rfl⟩ rfl (.refl db _ db) hg hg hy rfl
  have htx := hbx.databases.touches
  have hty := hby.databases.touches
  -- so each does second what it does first
  obtain ⟨x', hx'⟩ : ∃ x', (c.deliver a).run (Scene.answer (fixed reply now ids')) y.2 = x' :=
    ⟨_, rfl⟩
  obtain ⟨y', hy'⟩ : ∃ y', (c.deliver b).run (Scene.answer (fixed reply now ids)) x.2 = y' :=
    ⟨_, rfl⟩
  obtain ⟨hvalx, hbx', hlx'⟩ := Comparison.deliver_beside (w := compare a.trackerId ids ids' y.2)
    ⟨hleases, hly.sound hleases, hly.granting hkey⟩ rfl (hty.alike hab db) hg (hty.grown hg) hx hx'
  obtain ⟨hvaly, hby', hly'⟩ := Comparison.deliver_beside (w := compare b.trackerId ids' ids x.2)
    ⟨hleases, hlx.sound hleases, hlx.granting hkey.symm⟩ rfl (htx.alike hab.symm db) hg
    (htx.grown hg) hy hy'
  have hfirst : ab = ((x.1, y'.1), y'.2) := by simp only [ab, run_deliverBoth, hx, hy']
  have hsecond : ba = ((y.1, x'.1), x'.2) := by simp only [ba, run_deliverBoth, hy, hx']
  have hx₁ : alone a = x.1 := congrArg Prod.fst hx
  have hy₁ : alone b = y.1 := hval.symm
  rw [hfirst, hsecond, hx₁, hy₁, hvalx, hvaly]
  exact ⟨rfl, rfl, concur_of_square hab hbx'.databases hby'.databases hbx'.offers hby'.offers
    (hlx'.square hly' hkey)⟩

/-- Of two trackers of one entity, with ids that differ in the sign alone, one is fanned out and the
other fails. -/
theorem deliver_comm_opposite :
    let c : Coordinator :=
      { settings := { leaseKeyPrefix := "lease:" }
        registry := ⟨[⟨"issues", "issues", true⟩, ⟨"labels", "labels", false⟩]⟩ }
    let t (id : Int) (name : String) : Tracker :=
      { (default : Tracker) with id := id, pipelineName := name, status := "enqueued" }
    let db : Database :=
      { Database.single { (default : Entity) with id := 1 } default with
        trackers := some ⟨[t (-7) "labels", t 7 "issues"], 7⟩ }
    let a : PipelineJob := .first 7 1 "jid-a" "corr-a"
    let b : PipelineJob := .first (-7) 1 "jid-b" "corr-b"
    let reply : (r : Request) → r.Reply
      | .readExport _ _ _ =>
        .ok (.single { state := some .finished, batched := true, batchCount := 2 })
      | .runPipeline _ context => .ok (.fatal "Fatal" context.jid)
      | .schedulePipeline job _ => if job.attempt = 0 then .ok () else .error default
      | r => granted r
    let ids (n : Nat) : String := "id-" ++ toString n
    let ids' (n : Nat) : String := "no-" ++ toString n
    let s : Scene (Keeping × Nat) := ⟨db, (.shared { leases := some .empty }, 0), []⟩
    let alone (job : PipelineJob) :=
      ((c.deliver job).run (Scene.answer (fixed reply .epoch ids)) s).1
    let ab := (c.deliverBoth a b).run (Scene.answer (fixed reply .epoch ids)) s
    let ba := (c.deliverBoth b a).run (Scene.answer (fixed reply .epoch ids')) s
    ab.1 = (.completed (.batchesEnqueued 2), .completed (.failed "Fatal")) ∧
      (ab.2.database.batchRows.length = 2 ∧ ab.2.database.failureRows.length = 1) ∧
      (a.trackerId ≠ b.trackerId ∧ db.Keyed ∧ Heedless db reply) ∧
      ab.1 = (alone a, alone b) ∧ ba.1 = (alone b, alone a) ∧ Concur db ab.2 ba.2 := by
  intro c t db a b reply ids ids' s alone ab ba
  have hab : a.trackerId ≠ b.trackerId := by decide
  have hdb : db.Keyed := by
    show (List.map _ _).Nodup
    decide
  have hreply : Heedless db reply := by
    refine ⟨fun job job' delay h => ?_, fun _ _ _ => rfl⟩
    have hattempt : job'.attempt = job.attempt := congrArg (·.2.attempt) h
    simp only [reply, hattempt]
  have hleases : (Keeping.shared { leases := some .empty }).Sound := by
    rintro _ ⟨⟩
    exact Database.Orderly.empty
  exact ⟨by decide +kernel, by decide +kernel, ⟨hab, hdb, hreply⟩,
    deliver_comm c hab hdb hleases hreply .epoch ids ids'⟩

end Coordinator

end ImportTracking
