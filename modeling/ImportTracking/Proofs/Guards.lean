import ImportTracking.Lease.Drill
import ImportTracking.Proofs.Stores

/-!
# Guards — work under leases kept in memory

A guarded call obtains a lease, does its work, and releases the lease.  The work is a script
again: it obtains and releases leases, lets time pass, and makes guarded calls of its own, to any
depth.  So a lease may expire under the work that it guards, and its key go to others and come
back.

The invariant that a run keeps is about the tokens in the store: a lease that is there after a run
was there before it, or its token was drawn in between (`World.Later`).  When no token is drawn
twice, the token of a guarded call is therefore on no lease but its own, whatever its work does.

The clock cannot tell every instant.  A call that finds its key free, and whose lease would expire
too late, panics before anything is stored; a panic of the work is one of the call, and the lease is
not released then.  So the law is one of calls whose instants the clock can tell
(`Guarded.InRange`), and these come to their end.

* `later_run`: what becomes of the leases while a program is played.
* `exists_value`: a run comes to its end when the clock can tell every instant that it leads to.
* `Guarded.Lawful`: what holds of a guarded call; `Guarded.lawful_of_local`: it does, whatever the
  work.
* `Makes`: the guarded calls that a script makes, each with the world that it finds.
* `guards_lawful`: the law holds of every one of them.
-/

namespace ImportTracking.Lease.Drill

/-! ### Tokens in the store -/

namespace World

/-- The tokens drawn so far, in order. -/
def drawn (w : World) : List String :=
  (List.range' 1 w.session.supply.tokens).map w.session.supply.naming.token

@[simp] theorem drawn_draw (w : World) : w.draw.drawn = w.drawn ++ [w.nextToken] := by
  simp [drawn, draw, nextToken, Identifier.Supply.drawToken, List.range'_1_concat, Nat.add_comm 1]

/-- The world when a lease was released in memory. -/
def release (w : World) (lease : Lease) : World := { w with memory := w.memory.release lease }

@[simp] theorem memory_release (w : World) (lease : Lease) :
    (w.release lease).memory = w.memory.release lease := rfl

@[simp] theorem drawn_release (w : World) (lease : Lease) :
    (w.release lease).drawn = w.drawn := rfl

/-- The leases are kept in memory, and the tokens of those in the store have been drawn. -/
structure Local (w : World) : Prop where
  place : w.place = .memory
  stored : ∀ key h, w.memory.lookup key = some h → h.token ∈ w.drawn

/-- A world without leases, in memory. -/
def empty (naming : Identifier.Naming) : World :=
  { place := .memory
    session := { database := .fresh, clock := .epoch, supply := { naming := naming } } }

theorem local_empty (naming : Identifier.Naming) : (empty naming).Local :=
  ⟨rfl, fun _ _ hl => nomatch hl⟩

/-- `w'` comes after `w`, and `more` are the tokens drawn in between: a lease that is in the store
was there before, or has one of them. -/
structure Later (w : World) (more : List String) (w' : World) : Prop where
  place : w'.place = w.place
  drawn : w'.drawn = w.drawn ++ more
  stored : ∀ key h, w'.memory.lookup key = some h →
    w.memory.lookup key = some h ∨ h.token ∈ more

variable {w w' w'' : World} {more more' : List String}

namespace Later

/-- No token is drawn when leases are only taken away. -/
theorem of_subset (hp : w'.place = w.place) (hd : w'.drawn = w.drawn)
    (hs : ∀ key h, w'.memory.lookup key = some h → w.memory.lookup key = some h) :
    w.Later [] w' where
  place := hp
  drawn := by rw [hd, List.append_nil]
  stored key h hl := .inl (hs key h hl)

theorem refl (w : World) : w.Later [] w := of_subset rfl rfl fun _ _ => id

theorem trans (h : w.Later more w') (h' : w'.Later more' w'') : w.Later (more ++ more') w'' where
  place := h'.place.trans h.place
  drawn := by rw [h'.drawn, h.drawn, List.append_assoc]
  stored key e he := by
    obtain he | he := h'.stored key e he
    · exact (h.stored key e he).imp_right (List.mem_append_left _)
    · exact .inr (List.mem_append_right _ he)

/-- Of tokens that differ in the end, those drawn earlier differ too. -/
theorem nodup (h : w.Later more w') (hd : w'.drawn.Nodup) : w.drawn.Nodup :=
  (List.nodup_append.mp (h.drawn ▸ hd)).1

/-- A token that was drawn before is not drawn again. -/
theorem not_mem (h : w.Later more w') (hd : w'.drawn.Nodup) {token : String}
    (ht : token ∈ w.drawn) : token ∉ more := fun hmem =>
  (List.nodup_append.mp (h.drawn ▸ hd)).2.2 _ ht _ hmem rfl

theorem locally (h : w.Later more w') (hw : w.Local) : w'.Local where
  place := h.place.trans hw.place
  stored key e he := by
    rw [h.drawn, List.mem_append]
    exact (h.stored key e he).imp_left (hw.stored key e)

end Later

end World

/-! ### What calls do to the leases -/

variable {w w' : World} {key : String} {ttl : Duration}

/-- The clock can tell the instant after such a time. -/
def World.Tells (w : World) (d : Duration) : Prop := w.instant + d.nanos ≤ w.last

/-- While a lease on the key has not expired, the store grants none and stays as it is. -/
theorem answer_obtain_of_held (hp : w.place = .memory) {h : Held}
    (hl : w.memory.lookup key = some h) (hv : w.instant < h.expiresAt) :
    answer (.obtain_ key ttl) w = (some (.ok none), w.draw) := by
  have hheld := Memory.isHeld_iff.mpr ⟨h, hl, hv⟩
  simp only [answer, hp]
  rw [Memory.tryObtainBy_of_tells (.inl hheld), Memory.tryObtain, if_pos hheld]
  rfl

theorem not_isHeld (hfree : ∀ h, w.memory.lookup key = some h → h.expiresAt ≤ w.instant) :
    ¬ w.memory.isHeld w.instant key = true := fun hb => by
  obtain ⟨h, hl, hv⟩ := Memory.isHeld_iff.mp hb
  exact absurd (hfree h hl) (Nat.not_le_of_lt hv)

/-- Otherwise the lease is granted and put on the key, -/
theorem answer_obtain_of_free (hp : w.place = .memory)
    (hfree : ∀ h, w.memory.lookup key = some h → h.expiresAt ≤ w.instant) (ht : w.Tells ttl) :
    answer (.obtain_ key ttl) w =
      (some (.ok (some ⟨key, w.nextToken⟩)),
        { w.draw with memory := w.memory.set key ⟨w.nextToken, w.instant + ttl.nanos⟩ }) := by
  simp only [answer, hp]
  rw [Memory.tryObtainBy_of_tells (.inr ht), Memory.tryObtain, if_neg (not_isHeld hfree)]
  rfl

/-- unless the clock cannot tell when it would expire. -/
theorem answer_obtain_of_not_tells (hp : w.place = .memory)
    (hfree : ∀ h, w.memory.lookup key = some h → h.expiresAt ≤ w.instant) (ht : ¬ w.Tells ttl) :
    answer (.obtain_ key ttl) w = (none, w.draw) := by
  simp only [answer, hp]
  rw [Memory.tryObtainBy_of_not_tells (by simpa using not_isHeld hfree) (Nat.lt_of_not_le ht)]
  rfl

theorem answer_release (hp : w.place = .memory) (lease : Lease) :
    answer (.release lease) w = (some (.ok ()), w.release lease) := by
  simp only [answer, hp, World.release]

/-- What is in the store after a release was there before, and had another key or token. -/
theorem lookup_release_eq_some {m : Memory} {lease : Lease} {h : Held} :
    (m.release lease).lookup key = some h ↔
      m.lookup key = some h ∧ (key = lease.key → h.token ≠ lease.token) := by
  by_cases hk : key = lease.key
  · subst hk
    simp [Memory.lookup_release_self, Option.filter_eq_some_iff]
  · simp [Memory.lookup_release_of_ne m lease hk, hk]

/-- Whether a lease is granted or not, its token is the only one drawn. -/
theorem later_obtain (hp : w.place = .memory) (key : String) (ttl : Duration) :
    w.Later [w.nextToken] (answer (.obtain_ key ttl) w).2 := by
  by_cases hheld : ∃ h, w.memory.lookup key = some h ∧ w.instant < h.expiresAt
  · obtain ⟨h, hl, hv⟩ := hheld
    rw [answer_obtain_of_held hp hl hv]
    exact ⟨rfl, w.drawn_draw, fun _ _ => .inl⟩
  · push Not at hheld
    by_cases ht : w.Tells ttl
    · rw [answer_obtain_of_free hp hheld ht]
      refine ⟨rfl, w.drawn_draw, fun other h hl => ?_⟩
      by_cases hk : other = key
      · subst hk
        obtain rfl := Option.some.inj ((Memory.lookup_set_self _ _ _).symm.trans hl)
        exact .inr List.mem_cons_self
      · exact .inl (by rwa [Memory.lookup_set_of_ne _ _ hk] at hl)
    · rw [answer_obtain_of_not_tells hp hheld ht]
      exact ⟨rfl, w.drawn_draw, fun _ _ => .inl⟩

theorem later_answer (hp : w.place = .memory) (c : Call) :
    ∃ more, w.Later more (answer c w).2 := by
  match c with
  | .obtain_ key ttl => exact ⟨_, later_obtain hp key ttl⟩
  | .release lease =>
      rw [answer_release hp]
      exact ⟨[], .of_subset rfl rfl fun key h hl => (lookup_release_eq_some.mp hl).1⟩
  | .keep slot lease => exact ⟨[], .of_subset rfl rfl fun _ _ => id⟩
  | .recall slot => exact ⟨[], .refl w⟩
  | .advance by_ =>
      simp only [answer, hp]
      by_cases ht : w.instant + by_.nanos ≤ w.last
      · rw [if_pos ht]
        exact ⟨[], .of_subset hp.symm rfl fun _ _ => id⟩
      · rw [if_neg ht]
        exact ⟨[], .refl w⟩
  | .seed key token expiresIn =>
      rw [answer, hp]
      exact ⟨[], .refl w⟩
  | .dropTable =>
      rw [answer, hp]
      exact ⟨[], .refl w⟩
  | .look =>
      rw [answer, hp]
      exact ⟨[], .refl w⟩

/-- **What a run does to the leases**: whatever is in the store after it was there before, or has a
token that was drawn in between.  It makes no difference whether the run panics. -/
theorem later_run {α : Type} (p : Program interface α) (hp : w.place = .memory) :
    ∃ more, w.Later more (p.tryRun answer w).2 := by
  induction p generalizing w with
  | done a => exact ⟨[], .refl w⟩
  | call c next ih =>
      obtain ⟨more, hc⟩ := later_answer hp c
      rcases ha : answer c w with ⟨_ | r, w'⟩
      · rw [ha] at hc
        rw [Program.tryRun_call_of_none ha]
        exact ⟨more, hc⟩
      · rw [ha] at hc
        rw [Program.tryRun_call_of_some ha]
        obtain ⟨more', hr⟩ := ih r (hc.place.trans hp)
        exact ⟨more ++ more', hc.trans hr⟩

/-! ### Instants that can be told -/

/-- The clock can tell the instants that a call leads to: where time passes, and where a lease is
put on a key. -/
def Tellable : Call → World → Prop
  | .obtain_ key ttl, w => w.memory.isHeld w.instant key = true ∨ w.Tells ttl
  | .advance by_, w => w.Tells by_
  | _, _ => True

instance (w : World) (d : Duration) : Decidable (w.Tells d) :=
  inferInstanceAs (Decidable (_ ≤ _))

instance : (c : Call) → DecidablePred (Tellable c)
  | .obtain_ _ _, _ => inferInstanceAs (Decidable (_ ∨ _))
  | .advance _, _ => inferInstanceAs (Decidable (World.Tells _ _))
  | .release _, _ | .keep _ _, _ | .recall _, _ | .seed _ _ _, _ | .dropTable, _ | .look, _ =>
    isTrue trivial

/-- Nothing else panics. -/
theorem exists_answer (hp : w.place = .memory) {c : Call} (hc : Tellable c w) :
    ∃ r w', answer c w = (some r, w') := by
  match c with
  | .obtain_ key ttl =>
      simp only [answer, hp]
      rw [Memory.tryObtainBy_of_tells hc]
      exact ⟨_, _, rfl⟩
  | .release lease => exact ⟨_, _, answer_release hp lease⟩
  | .keep slot lease => exact ⟨_, _, rfl⟩
  | .recall slot => exact ⟨_, _, rfl⟩
  | .advance by_ =>
      simp only [answer, hp]
      exact ⟨_, _, if_pos hc⟩
  | .seed key token expiresIn =>
      simp only [answer, hp]
      exact ⟨_, _, rfl⟩
  | .dropTable =>
      simp only [answer, hp]
      exact ⟨_, _, rfl⟩
  | .look =>
      simp only [answer, hp]
      exact ⟨_, _, rfl⟩

/-- **A run comes to its end** when the clock can tell every instant that it leads to. -/
theorem exists_value {α : Type} {p : Program interface α} (hp : w.place = .memory)
    (h : p.Always answer Tellable w) : ∃ a w', p.tryRun answer w = (some a, w') := by
  induction p generalizing w with
  | done a => exact ⟨a, w, rfl⟩
  | call c next ih =>
      obtain ⟨hc, hnext⟩ := (Program.always_call _ _ _ _ _).mp h
      obtain ⟨r, w', ha⟩ := exists_answer hp hc
      obtain ⟨more, hlater⟩ := later_answer hp c
      rw [ha] at hlater hnext
      rw [Program.tryRun_call_of_some ha]
      exact ih r (hlater.place.trans hp) hnext

/-! ### Scripts, step by step -/

/-- There is no table to look at, so what came of a step is told as it is. -/
theorem run_seen (hp : w.place = .memory) (a : Answer) :
    (seen a).tryRun answer w = (some a, w) := by
  have hlook : (ask .look).tryRun answer w = (some none, w) := by
    refine (Program.tryRun_ask (I := interface) _ _).trans ?_
    simp only [answer, hp]
  exact Program.tryRun_bind_of_some (I := interface) hlook _

/-- A script goes on after a step, -/
theorem run_program_of_some {s : Step} {a : Answer} (rest : List Step)
    (h : (stepProgram s).tryRun answer w = (some a, w')) :
    ((program (s :: rest)).tryRun answer w).2 = ((program rest).tryRun answer w').2 := by
  rw [program]
  refine (congrArg Prod.snd (Program.tryRun_bind_of_some h _)).trans ?_
  rcases hr : (program rest).tryRun answer w' with ⟨_ | more, w''⟩
  · rw [hr]
    exact congrArg Prod.snd (Program.tryRun_bind_of_none hr _)
  · rw [hr]
    exact (congrArg Prod.snd (Program.tryRun_bind_of_some hr _)).trans rfl

/-- and ends at one that panics. -/
theorem run_program_of_none {s : Step} (rest : List Step)
    (h : (stepProgram s).tryRun answer w = (none, w')) :
    ((program (s :: rest)).tryRun answer w).2 = w' := by
  rw [program]
  exact congrArg Prod.snd (Program.tryRun_bind_of_none h _)

/-! ### Guarded calls -/

/-- A guarded call, and the world that it finds. -/
structure Guarded where
  key : String
  ttl : Duration
  work : List Step
  /-- The failure that the work ends in, if it fails. -/
  failure : Option String
  before : World

namespace Guarded

/-- The call, as a step. -/
def step (g : Guarded) : Step := .guard_ g.key g.ttl g.work g.failure

/-- What comes of the call, and the world then. -/
def outcome (g : Guarded) : Option Answer × World := (stepProgram g.step).tryRun answer g.before

/-- What the call returns, unless it panics. -/
def returned (g : Guarded) : Option Answer := g.outcome.1

/-- The world when the call is over. -/
def after (g : Guarded) : World := g.outcome.2

/-- The call returned, and the work was done. -/
def Ran (g : Guarded) : Prop := ∃ a, g.returned = some a ∧ a ≠ .notRun

/-- No lease that has not expired is on the key. -/
def Free (g : Guarded) : Prop :=
  ∀ h, g.before.memory.lookup g.key = some h → h.expiresAt ≤ g.before.instant

/-- The call's own lease, if it is granted one. -/
def lease (g : Guarded) : Lease := ⟨g.key, g.before.nextToken⟩

/-- What the own lease is in the store. -/
def entry (g : Guarded) : Held := ⟨g.before.nextToken, g.before.instant + g.ttl.nanos⟩

/-- The world when the store has answered. -/
def entered (g : Guarded) : World := (answer (.obtain_ g.key g.ttl) g.before).2

/-- The work, done from there. -/
def worked (g : Guarded) : Option (List Answer) × World :=
  (program g.work).tryRun answer g.entered

/-- What the work comes to: the answers of its steps, or its failure. -/
def result (g : Guarded) (answers : List Answer) : Answer :=
  match g.failure with
  | none => .ran answers
  | some text => .ranFailed text

/-- The call is granted its own lease. -/
def Granted (g : Guarded) : Prop :=
  (answer (.obtain_ g.key g.ttl) g.before).1 = some (.ok (some g.lease))

/-- The clock can tell when the own lease expires, if it is put on the key, and all that the work
leads to. -/
structure InRange (g : Guarded) : Prop where
  own : Tellable (.obtain_ g.key g.ttl) g.before
  work : g.Granted → (program g.work).Always answer Tellable g.entered

/-- **The law of guarded calls.** -/
structure Lawful (g : Guarded) : Prop where
  /-- The work is done just when no lease that has not expired is on the key. -/
  runs : g.Ran ↔ g.Free
  /-- Work that is done is done under a lease of its own, what it comes to is returned unchanged,
  and nothing is changed after it but the leases. -/
  returns : g.Ran → g.Granted ∧
    (∃ answers, g.worked.1 = some answers ∧ g.returned = some (g.result answers)) ∧
    g.after = { g.worked.2 with memory := g.after.memory }
  /-- What is in the store afterwards was there when the work was done, and its token is not the
  call's own. -/
  clears : g.Ran → ∀ key h, g.after.memory.lookup key = some h →
    g.worked.2.memory.lookup key = some h ∧ h.token ≠ g.lease.token
  /-- What was in the store when the work was done is left there, unless it is the call's own lease;
  so is the lease of another who took the key when the own one had expired. -/
  spares : g.Ran → ∀ key h, g.worked.2.memory.lookup key = some h → (key, h) ≠ (g.key, g.entry) →
    g.after.memory.lookup key = some h
  /-- If the work is not done, the call says so, and nothing is changed, save that a token was
  drawn. -/
  skips : ¬ g.Ran → g.returned = some .notRun ∧ g.after = g.before.draw

variable {g : Guarded}

theorem free_or_held (g : Guarded) :
    g.Free ∨ ∃ h, g.before.memory.lookup g.key = some h ∧ g.before.instant < h.expiresAt := by
  simpa only [Free, not_forall, not_le, exists_prop] using Classical.em g.Free

/-- Without the lease the call returns at once. -/
theorem outcome_of_held (hp : g.before.place = .memory) {h : Held}
    (hl : g.before.memory.lookup g.key = some h) (hv : g.before.instant < h.expiresAt) :
    g.outcome = (some .notRun, g.before.draw) := by
  have hobtain : (ask (.obtain_ g.key g.ttl)).tryRun answer g.before =
      (some (.ok none), g.before.draw) :=
    (Program.tryRun_ask _ _).trans (answer_obtain_of_held hp hl hv)
  have hguarded : (guarded (ask (.obtain_ g.key g.ttl)) (fun lease => ask (.release lease))
      (program g.work)).tryRun answer g.before = (some none, g.before.draw) :=
    tryRun_guarded_of_refused hobtain nofun
  rw [outcome, step, stepProgram]
  refine (Program.tryRun_bind_of_some hguarded _).trans ?_
  exact run_seen (w := g.before.draw) hp .notRun

/-- A call that finds its key free is granted its lease, if the clock can tell when it expires. -/
theorem obtain_of_free (hp : g.before.place = .memory) (hfree : g.Free)
    (ht : g.before.Tells g.ttl) :
    answer (.obtain_ g.key g.ttl) g.before = (some (.ok (some g.lease)),
      { g.before.draw with memory := g.before.memory.set g.key g.entry }) :=
  answer_obtain_of_free hp hfree ht

/-- A call whose lease is granted found its key free, -/
theorem free_of_granted (hp : g.before.place = .memory) (hgranted : g.Granted) : g.Free := by
  obtain hfree | ⟨h, hl, hv⟩ := g.free_or_held
  · exact hfree
  · rw [Granted, answer_obtain_of_held hp hl hv] at hgranted
    cases hgranted

/-- and the clock can tell when its lease expires. -/
theorem tells_of_granted (hp : g.before.place = .memory) (hgranted : g.Granted) :
    g.before.Tells g.ttl := by
  by_contra ht
  rw [Granted, answer_obtain_of_not_tells hp (free_of_granted hp hgranted) ht] at hgranted
  cases hgranted

/-- If the clock cannot tell when the lease would expire, the call panics, and the work is not
done. -/
theorem outcome_of_not_tells (hp : g.before.place = .memory) (hfree : g.Free)
    (ht : ¬ g.before.Tells g.ttl) : g.outcome = (none, g.before.draw) := by
  have hobtain : (ask (.obtain_ g.key g.ttl)).tryRun answer g.before = (none, g.before.draw) :=
    (Program.tryRun_ask _ _).trans (answer_obtain_of_not_tells hp hfree ht)
  rw [outcome, step, stepProgram]
  exact Program.tryRun_bind_of_none (Program.tryRun_bind_of_none hobtain _) _

theorem entered_local (hl : g.before.Local) : g.entered.Local :=
  (later_obtain hl.place g.key g.ttl).locally hl

theorem place_worked (hl : g.before.Local) : g.worked.2.place = .memory := by
  obtain ⟨_, hw⟩ := later_run (program g.work) (entered_local hl).place
  exact hw.place.trans (entered_local hl).place

theorem obtain_of_granted (hgranted : g.Granted) :
    (ask (.obtain_ g.key g.ttl)).tryRun answer g.before = (some (.ok (some g.lease)), g.entered) :=
  (Program.tryRun_ask _ _).trans (Prod.ext hgranted rfl)

/-- With the lease the work is done, the lease released, and the result returned. -/
theorem outcome_of_value (hl : g.before.Local) (hgranted : g.Granted) {answers : List Answer}
    (hw : g.worked.1 = some answers) :
    g.outcome = (some (g.result answers), g.worked.2.release g.lease) := by
  have hplace := place_worked hl
  have hwork : (program g.work).tryRun answer g.entered = (some answers, g.worked.2) :=
    Prod.ext hw rfl
  have hrelease : (ask (.release g.lease)).tryRun answer g.worked.2 =
      (some (.ok ()), g.worked.2.release g.lease) :=
    (Program.tryRun_ask _ _).trans (answer_release hplace g.lease)
  have hguarded : (guarded (ask (.obtain_ g.key g.ttl)) (fun lease => ask (.release lease))
      (program g.work)).tryRun answer g.before =
        (some (some answers), g.worked.2.release g.lease) :=
    tryRun_guarded_of_obtained (obtain_of_granted hgranted) hwork hrelease
  rw [outcome, step, stepProgram, result]
  refine (Program.tryRun_bind_of_some hguarded _).trans ?_
  cases g.failure with
  | none => exact run_seen (w := g.worked.2.release g.lease) hplace (.ran answers)
  | some text => exact run_seen (w := g.worked.2.release g.lease) hplace (.ranFailed text)

/-- A panic of the work is one of the call, which does not release its lease. -/
theorem outcome_of_panic (hgranted : g.Granted) (hw : g.worked.1 = none) :
    g.outcome = (none, g.worked.2) := by
  have hguarded : (guarded (ask (.obtain_ g.key g.ttl)) (fun lease => ask (.release lease))
      (program g.work)).tryRun answer g.before = (none, g.worked.2) :=
    tryRun_guarded_of_panic (obtain_of_granted hgranted) (Prod.ext hw rfl)
  rw [outcome, step, stepProgram]
  exact Program.tryRun_bind_of_none hguarded _

/-- Once the work is over, no more tokens are drawn. -/
theorem drawn_after (hl : g.before.Local) (hgranted : g.Granted) :
    g.after.drawn = g.worked.2.drawn := by
  cases hw : g.worked.1 with
  | none => rw [after, outcome_of_panic hgranted hw]
  | some answers => rw [after, outcome_of_value hl hgranted hw, World.drawn_release]

/-- **No other lease gets the token of a call**: when no token is drawn twice, what has the own
token when the work is done is the own lease. -/
theorem eq_entry_of_token (hl : g.before.Local) (hgranted : g.Granted)
    (hd : g.worked.2.drawn.Nodup) {key : String} {h : Held}
    (hlookup : g.worked.2.memory.lookup key = some h) (ht : h.token = g.lease.token) :
    (key, h) = (g.key, g.entry) := by
  have hentered : g.entered = { g.before.draw with memory := g.before.memory.set g.key g.entry } :=
    congrArg Prod.snd (obtain_of_free hl.place (free_of_granted hl.place hgranted)
      (tells_of_granted hl.place hgranted))
  have ho : g.before.Later [g.lease.token] g.entered := later_obtain hl.place g.key g.ttl
  obtain ⟨more, hw⟩ := later_run (program g.work) (entered_local hl).place
  -- the own token was not drawn before the call, nor is it drawn during the work
  have hbefore : g.lease.token ∉ g.before.drawn := fun hmem =>
    ho.not_mem (hw.nodup hd) hmem List.mem_cons_self
  have hmore : g.lease.token ∉ more := by
    refine hw.not_mem hd ?_
    rw [ho.drawn]
    exact List.mem_append_right _ List.mem_cons_self
  obtain hle | hin := hw.stored key h hlookup
  · rw [hentered] at hle
    by_cases hk : key = g.key
    · subst hk
      rw [Memory.lookup_set_self] at hle
      rw [Option.some.inj hle]
    · rw [Memory.lookup_set_of_ne _ _ hk] at hle
      exact absurd (ht ▸ hl.stored key h hle) hbefore
  · exact absurd (ht ▸ hin) hmore

/-- A call that finds its key free is granted its lease, and comes to its end, if the clock can tell
the instants that it leads to. -/
theorem InRange.granted (hr : g.InRange) (hl : g.before.Local) (hfree : g.Free) :
    g.Granted ∧ ∃ answers, g.worked.1 = some answers := by
  have ht : g.before.Tells g.ttl := hr.own.resolve_left (not_isHeld hfree)
  have hgranted : g.Granted := congrArg Prod.fst (obtain_of_free hl.place hfree ht)
  obtain ⟨answers, w', hw⟩ := exists_value (entered_local hl).place (hr.work hgranted)
  exact ⟨hgranted, answers, congrArg Prod.fst hw⟩

/-- **One guarded call keeps the law**, whatever its work does. -/
theorem lawful_of_local (hl : g.before.Local) (hd : g.after.drawn.Nodup) (hr : g.InRange) :
    g.Lawful := by
  obtain hfree | ⟨h, hlookup, hv⟩ := g.free_or_held
  · obtain ⟨hgranted, answers, hw⟩ := hr.granted hl hfree
    have houtcome := outcome_of_value hl hgranted hw
    have hreturned : g.returned = some (g.result answers) := congrArg Prod.fst houtcome
    have hafter : g.after = g.worked.2.release g.lease := congrArg Prod.snd houtcome
    have hran : g.Ran := by
      refine ⟨_, hreturned, ?_⟩
      rw [result]
      cases g.failure <;> nofun
    have hdrawn : g.worked.2.drawn.Nodup := by rwa [drawn_after hl hgranted] at hd
    exact
      { runs := iff_of_true hran hfree
        returns := fun _ => ⟨hgranted, ⟨answers, hw, hreturned⟩, by rw [hafter]; rfl⟩
        clears := fun _ key h hlookup => by
          rw [hafter, World.memory_release, lookup_release_eq_some] at hlookup
          refine ⟨hlookup.1, fun ht => ?_⟩
          have hown := eq_entry_of_token hl hgranted hdrawn hlookup.1 ht
          exact hlookup.2 (congrArg Prod.fst hown) ht
        spares := fun _ key h hlookup hne => by
          rw [hafter, World.memory_release, lookup_release_eq_some]
          exact ⟨hlookup, fun _ ht => hne (eq_entry_of_token hl hgranted hdrawn hlookup ht)⟩
        skips := fun hskip => absurd hran hskip }
  · have houtcome := outcome_of_held hl.place hlookup hv
    have hreturned : g.returned = some .notRun := congrArg Prod.fst houtcome
    have hskip : ¬ g.Ran := by
      rintro ⟨a, ha, hne⟩
      exact hne (Option.some.inj (ha.symm.trans hreturned))
    exact
      { runs := iff_of_false hskip fun hfree => Nat.not_le_of_lt hv (hfree h hlookup)
        returns := fun hran => absurd hran hskip
        clears := fun hran => absurd hran hskip
        spares := fun hran => absurd hran hskip
        skips := fun _ => ⟨hreturned, congrArg Prod.snd houtcome⟩ }

end Guarded

/-! ### Every call of a script -/

/-- The guarded calls that a script makes. -/
inductive Makes : List Step → World → Guarded → Prop where
  /-- The script starts with the call. -/
  | here (g : Guarded) (rest : List Step) : Makes (g.step :: rest) g.before g
  /-- The script starts with a guarded call whose lease is granted, and the work makes the call. -/
  | within {outer g : Guarded} {rest : List Step} (hgranted : outer.Granted)
      (h : Makes outer.work outer.entered g) : Makes (outer.step :: rest) outer.before g
  /-- The script makes the call after its first step. -/
  | next {s : Step} {rest : List Step} {w w' : World} {a : Answer} {g : Guarded}
      (hs : (stepProgram s).tryRun answer w = (some a, w')) (h : Makes rest w' g) :
      Makes (s :: rest) w g

/-- Tokens that differ when a script is over differed after its first step. -/
theorem nodup_step {s : Step} {rest : List Step} (hl : w.Local)
    (hd : ((program (s :: rest)).tryRun answer w).2.drawn.Nodup) :
    ((stepProgram s).tryRun answer w).2.drawn.Nodup := by
  obtain ⟨_, hs⟩ := later_run (stepProgram s) hl.place
  rcases h : (stepProgram s).tryRun answer w with ⟨_ | a, w'⟩ <;> rw [h] at hs ⊢
  · rwa [run_program_of_none rest h] at hd
  · obtain ⟨_, hr⟩ := later_run (program rest) (hs.locally hl).place
    rw [run_program_of_some rest h] at hd
    exact hr.nodup hd

/-- **Guarded calls keep the law, however they are nested.**  A script is played against leases
kept in memory, and no token is drawn twice; then every guarded call that it makes is lawful, be it
a step of the script, of the work of such a step, or deeper, if the clock can tell the instants that
the call leads to. -/
theorem guards_lawful {script : List Step} {w : World} {g : Guarded} (hmakes : Makes script w g)
    (hl : w.Local) (hd : ((program script).tryRun answer w).2.drawn.Nodup) (hr : g.InRange) :
    g.Lawful := by
  induction hmakes with
  | here g rest => exact Guarded.lawful_of_local hl (nodup_step hl hd) hr
  | @within outer g rest hgranted h ih =>
      -- the tokens that the work draws have been drawn when the call around it is over
      have hafter : outer.after.drawn.Nodup := nodup_step hl hd
      rw [Guarded.drawn_after hl hgranted] at hafter
      exact ih (Guarded.entered_local hl) hafter hr
  | @next s rest w w' a g hs h ih =>
      obtain ⟨_, hlater⟩ := later_run (stepProgram s) hl.place
      rw [hs] at hlater
      rw [run_program_of_some rest hs] at hd
      exact ih (hlater.locally hl) hd hr

/-- A call whose lease expires under its work; the work then takes the key for another holder, tries
a guarded call on it, and fails. -/
def overtaken : Guarded where
  key := "tracker:7"
  ttl := .ofSecs 30
  work := [.advance (.ofSecs 31), .obtain_ "heir" "tracker:7" (.ofSecs 30),
    .guard_ "tracker:7" (.ofSecs 5) [.advance (.ofSecs 99)] none]
  failure := some "boom"
  before := .empty .standard

/-- The call that the work of `overtaken` tries. -/
def refused : Guarded where
  key := "tracker:7"
  ttl := .ofSecs 5
  work := [.advance (.ofSecs 99)]
  failure := none
  before := ((program (overtaken.work.take 2)).tryRun answer overtaken.entered).2

/-- The call around returns its failure and leaves the heir's lease on the key; the call within
finds that lease and is not run. -/
theorem guards_lawful_overtaken :
    (overtaken.Lawful ∧ overtaken.Ran ∧ overtaken.returned = some (.ranFailed "boom") ∧
      overtaken.after.memory.lookup "tracker:7" =
        some ⟨Identifier.Naming.standard.token 2, (Duration.ofSecs 61).nanos⟩) ∧
    refused.Lawful ∧ ¬ refused.Ran := by
  have hlocal : overtaken.before.Local := World.local_empty .standard
  have hdrawn : ((program [overtaken.step]).tryRun answer overtaken.before).2.drawn.Nodup := by
    decide +kernel
  have hrange : overtaken.InRange := ⟨by decide +kernel, fun _ => by decide +kernel⟩
  have houter := guards_lawful (.here overtaken []) hlocal hdrawn hrange
  have hran : overtaken.Ran := houter.runs.mpr fun h hl => nomatch hl
  obtain ⟨hgranted, ⟨answers, -, hreturned⟩, -⟩ := houter.returns hran
  have hmakes : Makes [overtaken.step] overtaken.before refused :=
    .within hgranted (.next rfl (.next rfl (.here refused [])))
  have hinner := guards_lawful hmakes hlocal hdrawn
    ⟨by decide +kernel, fun _ => by decide +kernel⟩
  have hheld : refused.before.memory.isHeld refused.before.instant refused.key = true := by
    decide +kernel
  obtain ⟨h, hl, hv⟩ := Memory.isHeld_iff.mp hheld
  refine ⟨⟨houter, hran, hreturned, by decide +kernel⟩, hinner, fun hrefused => ?_⟩
  exact Nat.not_le_of_lt hv (hinner.runs.mp hrefused h hl)

/-- A call on a free key, with a time that takes the clock beyond its last instant: it panics, and
the work is not done. -/
theorem guards_lawful_overlong :
    let g : Guarded :=
      { key := "tracker:7", ttl := .ofSecs Word.max64, work := [], failure := none,
        before := .empty .standard }
    g.Free ∧ ¬ g.Ran ∧ g.returned = none ∧ g.after.memory.entries = [] := by
  intro g
  have hfree : g.Free := fun h hl => nomatch hl
  have houtcome := Guarded.outcome_of_not_tells (g := g) rfl hfree (by decide +kernel)
  have hreturned : g.returned = none := congrArg Prod.fst houtcome
  refine ⟨hfree, ?_, hreturned, by rw [Guarded.after, houtcome]; rfl⟩
  rintro ⟨a, ha, -⟩
  rw [hreturned] at ha
  cases ha

end ImportTracking.Lease.Drill
