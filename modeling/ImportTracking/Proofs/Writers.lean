import ImportTracking.Proofs.Interleaving
import ImportTracking.Proofs.Stages

/-!
# Writers — transitions at the same time

Any number of callers attempt transitions at once, and their statements interleave in any
order.  What a caller does over time, and what it is told in the end, is settled by the stage it
is at (`Promise`): a call keeps the promise of its stage when the stage that follows keeps its
own.

* `promise_steps`: every caller keeps the promise of its stage along every schedule.
* `attempts_lawful`: what holds of every history of such callers.
-/

namespace ImportTracking

open Tracker

namespace Attempt

open Work (Scene Surroundings)

variable {a : Attempt} {σ : Type} {sc : Scene σ}

/-! ### One caller's part in a history -/

/-- No step of these changes the database. -/
def Quiet (xs : List (Pool.Step (Scene σ))) : Prop :=
  ∀ x ∈ xs, x.after.database = x.before.database

/-- One of these steps leaves the row where the attempt leads, and no later one changes it. -/
def Lands (a : Attempt) (xs : List (Pool.Step (Scene σ))) : Prop :=
  ∃ xs₁ x xs₂, xs = xs₁ ++ x :: xs₂ ∧ a.Reached x.after.database ∧ Quiet xs₂

variable {x : Pool.Step (Scene σ)} {xs : List (Pool.Step (Scene σ))}
  {r : Option (Except Fault Tracker)}

theorem Quiet.cons (h : x.after.database = x.before.database) (hq : Quiet xs) : Quiet (x :: xs) :=
  List.forall_mem_cons.mpr ⟨h, hq⟩

theorem Lands.cons (h : a.Lands xs) (x : Pool.Step (Scene σ)) : a.Lands (x :: xs) := by
  obtain ⟨xs₁, y, xs₂, rfl, hr, hq⟩ := h
  exact ⟨x :: xs₁, y, xs₂, rfl, hr, hq⟩

/-- What a caller at a stage will have done, and what it will be told. -/
def Promise (a : Attempt) (xs : List (Pool.Step (Scene σ))) (r : Option (Except Fault Tracker)) :
    Stage → Prop
  | .fresh _ _ | .timed _ _ _ =>
    (∀ f, r = some (.error f) → Quiet xs) ∧ (∀ t, r = some (.ok t) → a.Lands xs)
  | .updated _ count =>
    Quiet xs ∧ (count ≠ 0 → ∀ f, r ≠ some (.error f)) ∧
      (count = 0 → ∀ t, r = some (.ok t) → a.Lands xs)
  | .ended v => Quiet xs ∧ r = some v

/-- A caller that is not scheduled again has made no call since. -/
theorem promise_nil (st : Stage) : a.Promise (σ := σ) [] (st.program a).value? st := by
  have hquiet : Quiet ([] : List (Pool.Step (Scene σ))) := List.forall_mem_nil _
  cases st with
  | fresh current next =>
      rw [show ((Stage.fresh current next).program a).value? = none from rfl]
      exact ⟨fun _ h => (nomatch h), fun _ h => (nomatch h)⟩
  | timed current next now =>
      rw [show ((Stage.timed current next now).program a).value? = none from rfl]
      exact ⟨fun _ h => (nomatch h), fun _ h => (nomatch h)⟩
  | updated next count =>
      rw [show ((Stage.updated next count).program a).value? = none from rfl]
      exact ⟨hquiet, fun _ _ => nofun, fun _ _ h => (nomatch h)⟩
  | ended v => exact ⟨hquiet, rfl⟩

/-- **A call keeps the promise of its stage** when the stage that follows keeps its own. -/
theorem promise_cons {st st' : Stage}
    (h : Stage.Follows a x.before.database st st' x.after.database) (hp : a.Promise xs r st') :
    a.Promise (x :: xs) r st := by
  generalize hb : x.before.database = before at h
  generalize ha : x.after.database = after at h
  -- of all the calls only a write that is met changes the database
  have hx : after = before → x.after.database = x.before.database := by
    rintro rfl
    rw [ha, hb]
  cases h with
  | look now => exact ⟨fun f hf => (hp.1 f hf).cons (hx rfl), fun t ht => (hp.2 t ht).cons x⟩
  | write hn hm hr =>
      obtain ⟨hq, hgood, -⟩ := hp
      exact ⟨fun f hf => absurd hf (hgood hn f), fun t _ => ⟨[], x, xs, rfl, ha ▸ hr, hq⟩⟩
  | miss =>
      obtain ⟨hq, -, hland⟩ := hp
      exact ⟨fun _ _ => hq.cons (hx rfl), fun t ht => (hland rfl t ht).cons x⟩
  | refuse =>
      obtain ⟨hq, rfl⟩ := hp
      exact ⟨fun _ _ => hq.cons (hx rfl), fun _ h => (nomatch h)⟩
  | confirm hn =>
      obtain ⟨hq, rfl⟩ := hp
      exact ⟨hq.cons (hx rfl), fun _ _ h => (nomatch h), fun h => absurd h hn⟩
  | agree hr =>
      obtain ⟨hq, rfl⟩ := hp
      exact ⟨hq.cons (hx rfl), fun h => absurd rfl h,
        fun _ _ _ => ⟨[], x, xs, rfl, ha ▸ hr, hq⟩⟩
  | deny =>
      obtain ⟨hq, rfl⟩ := hp
      exact ⟨hq.cons (hx rfl), fun h => absurd rfl h, fun _ _ h => (nomatch h)⟩
  | rest =>
      obtain ⟨hq, rfl⟩ := hp
      exact ⟨hq.cons (hx rfl), rfl⟩

/-! ### Histories -/

/-- The attempts are under way: every program of the pool is at a stage of the attempt at its
place. -/
def Underway (attempts : List Attempt) (ps : Pool Work (Except Fault Tracker)) (db : Database) :
    Prop :=
  ∀ (i : Nat) (p : Program Work _), ps[i]? = some p →
    ∃ a, attempts[i]? = some a ∧ ∃ st : Stage, p = st.program a ∧ st.Holds a db

variable {attempts : List Attempt} {ps : Pool Work (Except Fault Tracker)} {i : Nat}

theorem underway_start (attempts : List Attempt) (db : Database) :
    Underway attempts (attempts.map program) db := by
  intro i p hp
  rw [List.getElem?_map, Option.map_eq_some_iff] at hp
  obtain ⟨a, ha, rfl⟩ := hp
  obtain ⟨current, next, h, hst⟩ | ⟨f, h⟩ := a.program_eq
  · exact ⟨a, ha, _, h, hst⟩
  · exact ⟨a, ha, _, h, trivial⟩

/-- **One step of a pool** leaves the database or moves a tracker, for the attempt at its place,
and leaves the attempts under way. -/
theorem underway_step (others : Surroundings σ) (hk : sc.database.Keyed)
    (h : Underway attempts ps sc.database) (i : Nat) :
    let r := Pool.advance (Scene.answer others) i ps sc
    Underway attempts r.1 r.2.database ∧ r.2.database.Keyed ∧
      (r.2.database = sc.database ∨
        ∃ a, attempts[i]? = some a ∧ a.Moves sc.database r.2.database) := by
  intro r
  cases hp : ps[i]? with
  | none =>
      have hr : r = (ps, sc) := Pool.advance_of_none _ hp
      rw [hr]
      exact ⟨h, hk, .inl rfl⟩
  | some p =>
      obtain ⟨a, ha, st, rfl, hst⟩ := h i p hp
      obtain ⟨hself, hsc⟩ := Pool.advance_self (Scene.answer others) sc hp
      obtain ⟨st', sc', hadv, hst', hf⟩ := stage_step others hk hst
      rw [hadv] at hself hsc
      -- the caller whose turn it is goes on to its next stage, and to the others its move is one
      -- that what they know survives
      have hd := Stage.follows_moves hf
      rw [show r.2 = sc' from hsc]
      refine ⟨fun j q hq => ?_, ?_, hd.imp_right fun hm => ⟨a, ha, hm⟩⟩
      · by_cases hj : j = i
        · subst hj
          obtain rfl : st'.program a = q := Option.some.inj (hself.symm.trans hq)
          exact ⟨a, ha, st', rfl, hst'⟩
        · obtain ⟨b, hb, stb, rfl, hstb⟩ := h j q ((Pool.advance_of_ne _ hj).symm.trans hq)
          exact ⟨b, hb, stb, rfl, Stage.holds_mono hstb (hd.imp_right fun hm => ⟨a, hm⟩)⟩
      · obtain hd | hm := hd
        · rwa [hd]
        · exact hm.keyed hk

/-- What a caller at a stage does along the rest of a schedule, and is told, is what its stage
promises. -/
theorem promise_steps (others : Surroundings σ) (sched : List Nat) (hk : sc.database.Keyed)
    (h : Underway attempts ps sc.database) {st : Stage} (hp : ps[i]? = some (st.program a))
    (hst : st.Holds a sc.database) :
    a.Promise (Pool.own i (Pool.steps (Scene.answer others) sched ps sc))
      (Pool.value? (Pool.runSchedule (Scene.answer others) sched ps sc).1 i) st := by
  induction sched generalizing ps sc st with
  | nil =>
      have hv : Pool.value? ps i = (st.program a).value? := by simp [Pool.value?, hp]
      rw [Pool.runSchedule, hv]
      exact promise_nil st
  | cons j sched ih =>
      obtain ⟨hu, hk', hd⟩ := underway_step others hk h j
      by_cases hj : j = i
      · subst hj
        obtain ⟨hself, hsc⟩ := Pool.advance_self (Scene.answer others) sc hp
        obtain ⟨st', sc', hadv, hst', hf⟩ := stage_step others hk hst
        rw [hadv] at hself hsc
        rw [Pool.steps, Pool.own_cons, if_pos rfl]
        have hdb := congrArg Scene.database hsc
        exact promise_cons (hdb ▸ hf) (ih hk' hu hself (hdb ▸ hst'))
      · rw [Pool.steps, Pool.own_cons, if_neg hj]
        refine ih hk' hu ((Pool.advance_of_ne _ (Ne.symm hj)).trans hp) (Stage.holds_mono hst ?_)
        exact hd.imp_right fun ⟨b, _, hb⟩ => ⟨b, hb⟩

/-! ### Terminal trackers -/

/-- From the first database to the second a tracker that has ended stays as it ended, unless it
fails. -/
def Lasting (db db' : Database) : Prop :=
  ∀ id t s, db.tracker? id = some t → t.known? = some s → s.isTerminal = true →
    ∃ t', db'.tracker? id = some t' ∧ (t'.known? = some s ∨ t'.known? = some .failed)

theorem lasting_refl (db : Database) : Lasting db db :=
  fun _ t _ ht hs _ => ⟨t, ht, .inl hs⟩

theorem Lasting.trans {db db' db'' : Database} (h : Lasting db db') (h' : Lasting db' db'') :
    Lasting db db'' := by
  intro id t s ht hs hterm
  obtain ⟨t', ht', hs' | hs'⟩ := h id t s ht hs hterm
  · exact h' id t' s ht' hs' hterm
  · obtain ⟨t'', ht'', hs''⟩ := h' id t' .failed ht' hs' rfl
    exact ⟨t'', ht'', .inr (hs''.elim (fun h => h) fun h => h)⟩

/-- A move takes a tracker that has ended to a failure, by a failure, or leaves its status. -/
theorem Moves.of_isTerminal {db db' : Database} (h : a.Moves db db') {id : Int} {t : Tracker}
    {s : Status} (ht : db.tracker? id = some t) (hs : t.known? = some s)
    (hterm : s.isTerminal = true) :
    ∃ t', db'.tracker? id = some t' ∧
      (t'.known? = some s ∨ t'.known? = some .failed ∧ a.change.event = .fail) := by
  by_cases hid : id = a.seen.id
  · subst hid
    obtain ⟨t₀, t', current, next, ht₀, hc, hn, ht', hs'⟩ := h.tracker?_self
    obtain rfl : t₀ = t := Option.some.inj (ht₀.symm.trans ht)
    obtain rfl : current = s := Option.some.inj (hc.symm.trans hs)
    refine ⟨t', ht', ?_⟩
    obtain rfl | ⟨rfl, he⟩ := Status.apply_of_isTerminal hterm hn
    · exact .inl hs'
    · exact .inr ⟨hs', he⟩
  · exact ⟨t, (h.tracker?_of_ne hid).trans ht, .inl hs⟩

theorem Moves.lasting {db db' : Database} (h : a.Moves db db') : Lasting db db' := by
  intro id t s ht hs hterm
  obtain ⟨t', ht', h'⟩ := h.of_isTerminal ht hs hterm
  exact ⟨t', ht', h'.imp_right And.left⟩

/-! ### Histories of attempts -/

/-- What holds of a history `xs` of attempts that starts from the database `db`, when the caller
at a place was told `told` in the end, if it came to an end. -/
structure Lawful (attempts : List Attempt) (db : Database) (xs : List (Pool.Step (Scene σ)))
    (told : Nat → Option (Except Fault Tracker)) : Prop where
  /-- A step that changes anything is a move of its caller. -/
  moves : ∀ x ∈ xs, x.after.database = x.before.database ∨
    ∃ a, attempts[x.place]? = some a ∧ a.Moves x.before.database x.after.database
  /-- A caller that was refused has changed nothing. -/
  refused : ∀ i a f, attempts[i]? = some a → told i = some (.error f) → Quiet (Pool.own i xs)
  /-- A caller that was told of success left the row where its attempt leads, or met it there,
  and changed nothing after that. -/
  granted : ∀ i a t, attempts[i]? = some a → told i = some (.ok t) → a.Lands (Pool.own i xs)
  /-- If no other caller comes in between, the row is there when it is told so. -/
  undisturbed : ∀ i a t xs₁ ys xs₂, attempts[i]? = some a → told i = some (.ok t) →
    xs = xs₁ ++ ys ++ xs₂ → (∀ x ∈ xs₁ ++ xs₂, x.place ≠ i) → (∀ x ∈ ys, x.place = i) →
    ∃ y ∈ ys.getLast?, a.Reached y.after.database
  /-- A tracker that has ended stays so. -/
  lasting : (db :: xs.map (·.after.database)).Pairwise Lasting
  /-- It is only ever ended anew by a failure. -/
  ended : ∀ x ∈ xs, ∀ id t t' s, x.before.database.tracker? id = some t → t.known? = some s →
    s.isTerminal = true → x.after.database.tracker? id = some t' → t'.known? ≠ some s →
    t'.known? = some .failed ∧
      ∃ a, attempts[x.place]? = some a ∧ a.change.event = .fail

/-- Every step of the attempts is a move of its caller, or changes nothing. -/
theorem moves_steps (others : Surroundings σ) (sched : List Nat) (hk : sc.database.Keyed)
    (h : Underway attempts ps sc.database) :
    ∀ x ∈ Pool.steps (Scene.answer others) sched ps sc,
      x.after.database = x.before.database ∨
        ∃ a, attempts[x.place]? = some a ∧ a.Moves x.before.database x.after.database := by
  induction sched generalizing ps sc with
  | nil => exact List.forall_mem_nil _
  | cons i sched ih =>
      obtain ⟨hu, hk', hd⟩ := underway_step others hk h i
      exact List.forall_mem_cons.mpr ⟨hd, ih hk' hu⟩

/-- A tracker that has ended stays so, over the whole of a history whose steps are moves. -/
theorem lasting_steps {answer : (c : Work.Call) → Scene σ → Work.Reply c × Scene σ}
    (sched : List Nat) (ps : Pool Work (Except Fault Tracker)) (sc : Scene σ)
    (h : ∀ x ∈ Pool.steps answer sched ps sc, x.after.database = x.before.database ∨
      ∃ a : Attempt, a.Moves x.before.database x.after.database) :
    (sc.database :: (Pool.steps answer sched ps sc).map (·.after.database)).Pairwise Lasting := by
  induction sched generalizing ps sc with
  | nil => exact List.pairwise_singleton _ _
  | cons i sched ih =>
      obtain ⟨hstep, hrest⟩ := List.forall_mem_cons.mp h
      have hp := ih _ _ hrest
      have hl : Lasting sc.database (Pool.advance answer i ps sc).2.database := by
        obtain he | ⟨a, hm⟩ := hstep
        · rw [show (Pool.advance answer i ps sc).2.database = sc.database from he]
          exact lasting_refl _
        · exact hm.lasting
      refine List.pairwise_cons.mpr ⟨List.forall_mem_cons.mpr ⟨hl, fun db hdb => ?_⟩, hp⟩
      exact hl.trans ((List.pairwise_cons.mp hp).1 db hdb)

/-- After the last of some steps that follow one another quietly, the database is as after the
first. -/
theorem quiet_getLast {xs : List (Pool.Step (Scene σ))} (x : Pool.Step (Scene σ))
    (hc : (x :: xs).IsChain fun x y => y.before = x.after) (hq : Quiet xs) :
    ∃ y ∈ (x :: xs).getLast?, y.after.database = x.after.database := by
  induction xs generalizing x with
  | nil => exact ⟨x, rfl, rfl⟩
  | cons y ys ih =>
      obtain ⟨hxy, hc⟩ := List.isChain_cons_cons.mp hc
      obtain ⟨hqy, hq⟩ := List.forall_mem_cons.mp hq
      obtain ⟨z, hz, he⟩ := ih y hc hq
      exact ⟨z, hz, he.trans (hqy.trans (congrArg Scene.database hxy))⟩

/-- A caller that lands undisturbed leaves the row where its attempt leads. -/
theorem Lands.getLast {ys : List (Pool.Step (Scene σ))} (h : a.Lands ys)
    (hc : ys.IsChain fun x y => y.before = x.after) :
    ∃ y ∈ ys.getLast?, a.Reached y.after.database := by
  obtain ⟨ys₁, x, ys₂, rfl, hr, hq⟩ := h
  obtain ⟨y, hy, he⟩ := quiet_getLast x (List.isChain_append.mp hc).2.1 hq
  refine ⟨y, ?_, he ▸ hr⟩
  rwa [List.getLast?_append_of_ne_nil _ (List.cons_ne_nil _ _)]

/-- What a caller has done that was refused, and what one that was told of success. -/
theorem told_start (others : Surroundings σ) (sched : List Nat) (hk : sc.database.Keyed)
    (ha : attempts[i]? = some a) :
    let xs := Pool.own i (Pool.steps (Scene.answer others) sched (attempts.map program) sc)
    let told := Pool.value?
      (Pool.runSchedule (Scene.answer others) sched (attempts.map program) sc).1 i
    (∀ f, told = some (.error f) → Quiet xs) ∧ ∀ t, told = some (.ok t) → a.Lands xs := by
  intro xs told
  have hu := underway_start attempts sc.database
  have hp : (attempts.map program)[i]? = some a.program := by simp [ha]
  obtain ⟨current, next, h, hst⟩ | ⟨f, h⟩ := a.program_eq
  · rw [h] at hp
    exact promise_steps others sched hk hu hp hst
  · rw [h] at hp
    obtain ⟨hq, htold⟩ := promise_steps others sched hk hu hp trivial
    exact ⟨fun _ _ => hq, fun t ht => nomatch htold.symm.trans ht⟩

/-- **Callers of transitions cannot corrupt the lifecycle**, whatever they say they saw, whatever
they attempt, and however their statements interleave. -/
theorem attempts_lawful (others : Surroundings σ) (attempts : List Attempt) (sched : List Nat)
    (sc : Scene σ) (hk : sc.database.Keyed) :
    Lawful attempts sc.database
      (Pool.steps (Scene.answer others) sched (attempts.map program) sc)
      (Pool.value?
        (Pool.runSchedule (Scene.answer others) sched (attempts.map program) sc).1) := by
  have hmoves := moves_steps others sched hk (underway_start attempts sc.database)
  refine ⟨hmoves, fun i a f ha => (told_start others sched hk ha).1 f,
    fun i a t ha => (told_start others sched hk ha).2 t, ?_, ?_, ?_⟩
  · intro i a t xs₁ ys xs₂ ha ht hxs hout hin
    have hland := (told_start others sched hk ha).2 t ht
    have hchain := Pool.steps_chained (Scene.answer others) sched
      (attempts.map program) sc
    rw [hxs] at hland hchain
    rw [Pool.own_append_append hout hin] at hland
    exact hland.getLast (List.isChain_append.mp (List.isChain_append.mp hchain).1).2.1
  · exact lasting_steps sched _ sc fun x hx => (hmoves x hx).imp_right fun ⟨a, _, hm⟩ => ⟨a, hm⟩
  · intro x hx id t t' s ht hs hterm ht' hne
    obtain he | ⟨a, ha, hm⟩ := hmoves x hx
    · rw [he, ht] at ht'
      obtain rfl := Option.some.inj ht'
      exact absurd hs hne
    · obtain ⟨t₁, ht₁, hs₁ | ⟨hs₁, hev⟩⟩ := hm.of_isTerminal ht hs hterm
      · obtain rfl := Option.some.inj (ht₁.symm.trans ht')
        exact absurd hs₁ hne
      · obtain rfl := Option.some.inj (ht₁.symm.trans ht')
        exact ⟨hs₁, a, ha, hev⟩

/-- Of two callers that saw a tracker started, the one that is late to retry it is refused. -/
theorem attempts_lawful_race :
    let started : Tracker := { (default : Tracker) with status := "started" }
    let attempts : List Attempt :=
      [⟨started, { event := .finish }⟩, ⟨started, { event := .retry }⟩]
    let sc : Scene Unit := ⟨.single default started, (), []⟩
    let answer := Scene.answer (Work.steady .epoch "" Work.granted)
    let sched := [0, 1, 0, 1, 0, 1]
    let told := Pool.value? (Pool.runSchedule answer sched (attempts.map program) sc).1
    sc.database.Keyed ∧ told 1 = some (.error (.invalidTransition "finished" "retry")) ∧
      Lawful attempts sc.database (Pool.steps answer sched (attempts.map program) sc) told :=
  ⟨Database.keyed_single _ _, rfl, attempts_lawful _ _ _ _ (Database.keyed_single _ _)⟩

end Attempt

end ImportTracking
