import ImportTracking.Runtime
import ImportTracking.Proofs.Frame
import ImportTracking.Proofs.Situations

/-!
# Errands — the situation of a tracker among many errands

A runtime holds errands about all sorts of trackers.  The `situation` of one tracker is what the
runtime looks like from there, when every errand has a role.  What happens to other trackers does
not change it; what happens to this one is a shift.

* `situation_make_of_ne`, `situation_receive_of_ne`: errands about other trackers change nothing.
* `shift_quiet`, `shift_written`, `shift_scheduled`, `shift_received`: the errands about this one.
-/

namespace ImportTracking

/-- The tracker that a job is about. -/
def Job.trackerId? : Job → Option Int
  | .pipeline job => some job.trackerId
  | .batch _ => none

/-- A job about a tracker is a pipeline job. -/
theorem Job.eq_pipeline {j : Job} {k : Int} (h : j.trackerId? = some k) :
    ∃ job, j = .pipeline job ∧ job.trackerId = k := by
  cases j with
  | pipeline job => exact ⟨job, rfl, Option.some.inj h⟩
  | batch id => cases h

/-! ### Keys -/

theorem toDigits_injective {m n : Nat} (h : Nat.toDigits 10 m = Nat.toDigits 10 n) : m = n := by
  rw [← Nat.ofDigitChars_ten_toDigits (n := m), h, Nat.ofDigitChars_ten_toDigits]

theorem toList_repr (k : Int) : k.repr.toList =
    match k with
    | .ofNat m => Nat.toDigits 10 m
    | .negSucc m => '-' :: Nat.toDigits 10 (m + 1) := by
  cases k <;> simp [Int.repr, Nat.repr_eq_ofList_toDigits]

/-- The key of a lease says which tracker it is of. -/
theorem Settings.leaseKey_injective (s : Settings) {k k' : Int} (h : s.leaseKey k = s.leaseKey k') :
    k = k' := by
  have hlist := congrArg String.toList ((String.append_right_inj _).mp h)
  have hsign (m : Nat) (ds : List Char) : Nat.toDigits 10 m ≠ '-' :: ds := fun hd =>
    absurd (Nat.isDigit_of_mem_toDigits (by decide) (by decide) (hd ▸ List.mem_cons_self))
      (by decide)
  rw [show (toString k).toList = _ from toList_repr k,
    show (toString k').toList = _ from toList_repr k'] at hlist
  cases k with
  | ofNat m =>
      cases k' with
      | ofNat n => exact congrArg Int.ofNat (toDigits_injective hlist)
      | negSucc n => exact absurd hlist (hsign m _)
  | negSucc m =>
      cases k' with
      | ofNat n => exact absurd hlist.symm (hsign n _)
      | negSucc n =>
          exact congrArg Int.negSucc (Nat.succ.inj (toDigits_injective (List.cons.inj hlist).2))

namespace Runtime

open Tracker (Status)

/-! ### Situations of a runtime -/

/-- The situation of a tracker. -/
def situation (roles : Nat → Role) (rt : Runtime) (k : Int) (t : Tracker) : Situation where
  row := t
  coming := {l | ∃ w ∈ rt.pending, w.job.trackerId? = some k ∧ w.line = l}
  party i := rt.errands[i]?.bind fun e =>
    if e.job.trackerId? = some k then some (roles i, e.line) else none

section
variable {c : Coordinator} {roles : Nat → Role} {rt : Runtime} {k : Int} {t t' : Tracker} {i : Nat}
  {e : Errand} {g : Role}

theorem party_situation {p : Role × List Nat} :
    (situation roles rt k t).party i = some p ↔
      ∃ e, rt.errands[i]? = some e ∧ e.job.trackerId? = some k ∧ p = (roles i, e.line) := by
  simp only [situation, Option.bind_eq_some_iff, Option.ite_none_right_eq_some, Option.some.injEq]
  exact exists_congr fun e => and_congr_right fun _ => and_congr_right fun _ => eq_comm

section
variable {call : Work.Call} {next : Work.Reply call → Program Work Unit}
  {r : Work.Reply call × Database}

/-- A call changes the role of its errand, and may put a job into the queue. -/
theorem situation_make (he : rt.errands[i]? = some e) (hk : e.job.trackerId? = some k) :
    situation (Function.update roles i g) (rt.make i e call next r) k t' =
      { row := t'
        coming := {l | l ∈ (situation roles rt k t).coming ∨
          ∃ job, sent? call r.1 = some job ∧ job.trackerId? = some k ∧ l = i :: e.line}
        party := (situation roles rt k t).put i g e.line } := by
  unfold situation
  congr 1
  · ext l
    simp only [make, List.mem_append, List.mem_map, Option.mem_toList, Set.mem_ofPred_eq]
    constructor
    · rintro ⟨w, hw | ⟨job, hjob, rfl⟩, hwk, rfl⟩
      · exact .inl ⟨w, hw, hwk, rfl⟩
      · exact .inr ⟨job, hjob, hwk, rfl⟩
    · rintro (⟨w, hw, hwk, rfl⟩ | ⟨job, hjob, hwk, rfl⟩)
      · exact ⟨w, .inl hw, hwk, rfl⟩
      · exact ⟨_, .inr ⟨job, hjob, rfl⟩, hwk, rfl⟩
  · funext j
    rw [errands_make he]
    by_cases hj : j = i
    · subst hj
      rw [if_pos rfl, Situation.put_self]
      simp [hk]
    · rw [if_neg hj, Situation.put_of_ne hj]
      simp [Function.update_of_ne hj]

/-- A call of an errand about another tracker changes nothing. -/
theorem situation_make_of_ne (he : rt.errands[i]? = some e) (hk : e.job.trackerId? ≠ some k)
    (hsent : ∀ job, sent? call r.1 = some job → job.trackerId? ≠ some k) :
    situation (Function.update roles i g) (rt.make i e call next r) k t =
      situation roles rt k t := by
  unfold situation
  congr 1
  · ext l
    simp only [make, List.mem_append, List.mem_map, Option.mem_toList, Set.mem_ofPred_eq]
    constructor
    · rintro ⟨w, hw | ⟨job, hjob, rfl⟩, hwk, rfl⟩
      · exact ⟨w, hw, hwk, rfl⟩
      · exact absurd hwk (hsent job hjob)
    · rintro ⟨w, hw, hwk, rfl⟩
      exact ⟨w, .inl hw, hwk, rfl⟩
  · funext j
    rw [errands_make he]
    by_cases hj : j = i
    · subst hj
      rw [if_pos rfl, he]
      simp [hk]
    · rw [if_neg hj]
      simp [Function.update_of_ne hj]

/-! ### What a call does to a tracker -/

/-- A call that schedules nothing changes the role of its errand, and perhaps the row. -/
theorem situation_make_unsent (he : rt.errands[i]? = some e) (hk : e.job.trackerId? = some k)
    (hsent : ∀ job, sent? call r.1 = some job → job.trackerId? ≠ some k) :
    situation (Function.update roles i g) (rt.make i e call next r) k t' =
      { situation roles rt k t with
        row := t'
        party := (situation roles rt k t).put i g e.line } := by
  rw [situation_make he hk (t := t)]
  congr 1
  ext l
  refine ⟨fun h => h.resolve_right fun ⟨job, hjob, hjk, _⟩ => hsent job hjob hjk, .inl⟩

/-- A call that neither schedules nor writes changes the role of its errand. -/
theorem shift_quiet (hs : (situation roles rt k t).Served) (he : rt.errands[i]? = some e)
    (hk : e.job.trackerId? = some k)
    (hsent : ∀ job, sent? call r.1 = some job → job.trackerId? ≠ some k)
    (hg : g = roles i ∨
      (t.Waiting → (roles i).Owes t.status → g.Owes t.status) ∧
      (∀ status, g = .owing (some status) →
        t.status = status ∨ t.status = Status.failed.name) ∧
      (g.holds = true → (roles i).holds = true) ∧
      (g = .content → roles i = .content ∨ ¬t.Waiting) ∧
      roles i ≠ .seeking) :
    Situation.Shift (situation roles rt k t)
      (situation (Function.update roles i g) (rt.make i e call next r) k t) := by
  have hp : (situation roles rt k t).party i = some (roles i, e.line) :=
    party_situation.mpr ⟨e, he, hk, rfl⟩
  rw [situation_make_unsent he hk hsent (t := t)]
  obtain rfl | ⟨howes, hknown, hholds, hcontent, hseeking⟩ := hg
  · exact .quiet hp (fun _ h => h)
      (fun status h => hs.known i status e.line (by rw [hp, h])) id .inl id
  · exact .quiet hp howes hknown hholds hcontent fun h => absurd h hseeking

/-- The row that an errand reads tells it whether it owes something. -/
theorem shift_findTracker (hs : (situation roles rt k t).Served) (he : rt.errands[i]? = some e)
    (hk : e.job.trackerId? = some k)
    (hsent : ∀ job, sent? call r.1 = some job → job.trackerId? ≠ some k) :
    Situation.Shift (situation roles rt k t)
      (situation (Function.update roles i ((roles i).afterReading t))
        (rt.make i e call next r) k t) := by
  refine shift_quiet hs he hk hsent ?_
  by_cases hrun : t.isRunnable = true
  · cases hg : roles i with
    | owing status =>
        rw [Role.afterReading, if_pos hrun]
        refine .inr ⟨fun _ _ => trivial, fun status h => ?_, fun _ => rfl, by simp, by simp⟩
        cases h
        exact .inl rfl
    | faulted =>
        rw [Role.afterReading, if_pos hrun]
        exact .inr ⟨fun _ _ => rfl, by simp, by simp [Role.holds], by simp, by simp⟩
    | _ => exact .inl rfl
  · have hnot : ¬t.Waiting := fun hw => hrun hw.isRunnable
    cases hg : roles i with
    | owing status =>
        rw [Role.afterReading, if_neg hrun]
        exact .inr ⟨fun hw => absurd hw hnot, by simp, fun _ => rfl, fun _ => .inr hnot, by simp⟩
    | faulted =>
        rw [Role.afterReading, if_neg hrun]
        exact .inr ⟨fun hw => absurd hw hnot, by simp, by simp [Role.holds], by simp, by simp⟩
    | _ => exact .inl rfl

/-- An update that meets another status than was seen changes nothing. -/
theorem shift_stale (hs : (situation roles rt k t).Served) (he : rt.errands[i]? = some e)
    (hk : e.job.trackerId? = some k)
    (hsent : ∀ job, sent? call r.1 = some job → job.trackerId? ≠ some k) {status : String}
    {u : Database.TrackerUpdate} (hw : (roles i).MayWrite status u) (hstale : t.status ≠ status) :
    Situation.Shift (situation roles rt k t)
      (situation (Function.update roles i ((roles i).afterUpdate u 0))
        (rt.make i e call next r) k t) := by
  refine shift_quiet hs he hk hsent ?_
  cases hg : roles i with
  | owing seen =>
      rw [hg] at hw
      obtain rfl : seen = some status := hw
      -- only a failure can have come in between
      have hfailed : t.status = Status.failed.name :=
        (hs.known i status e.line
          (party_situation.mpr ⟨e, he, hk, by rw [hg]⟩)).resolve_left hstale
      rw [Role.afterUpdate, if_pos rfl]
      exact .inr ⟨fun _ _ => trivial, fun _ _ => .inr hfailed, fun _ => rfl, by simp, by simp⟩
  | ending seen =>
      rw [hg] at hw
      obtain ⟨rfl, -⟩ := hw
      rw [Role.afterUpdate]
      exact .inr ⟨fun _ ho => absurd (Eq.symm ho) hstale, by simp, by simp [Role.holds], by simp,
        by simp⟩
  | _ => exact .inl rfl

/-- An update that meets the status that was seen writes the row. -/
theorem shift_written (he : rt.errands[i]? = some e) (hk : e.job.trackerId? = some k)
    (hsent : ∀ job, sent? call r.1 = some job → job.trackerId? ≠ some k) {status : String}
    {u : Database.TrackerUpdate} (hw : (roles i).MayWrite status u) {n : Nat} (hn : n ≠ 0) :
    Situation.Shift (situation roles rt k t)
      (situation (Function.update roles i ((roles i).afterUpdate u n))
        (rt.make i e call next r) k (u.applyTo t)) := by
  have hp : (situation roles rt k t).party i = some (roles i, e.line) :=
    party_situation.mpr ⟨e, he, hk, rfl⟩
  rw [situation_make_unsent he hk hsent (t := t)]
  cases hg : roles i with
  | owing seen =>
      rw [hg] at hp
      rw [Role.afterUpdate, if_neg hn]
      refine .written hp rfl ?_
      by_cases hset : u.settles = true
      · rw [if_pos hset]
        exact .inr ⟨rfl, Database.TrackerUpdate.not_waiting hset t⟩
      · rw [if_neg hset]
        exact .inl rfl
  | content =>
      rw [hg] at hp hw
      exact .written hp rfl (.inr ⟨rfl, Database.TrackerUpdate.not_waiting hw t⟩)
  | ending seen =>
      rw [hg] at hp hw
      exact .failed hp (by simp) hw.2
  | idle =>
      rw [hg] at hp hw
      exact .failed hp (by simp) hw
  | seeking | faulted =>
      rw [hg] at hw
      exact hw.elim

/-- A job that is scheduled will come for the tracker. -/
theorem shift_scheduled (he : rt.errands[i]? = some e) (hk : e.job.trackerId? = some k)
    {job : PipelineJob} (hsent : sent? call r.1 = some (.pipeline job)) (hjob : job.trackerId = k) :
    Situation.Shift (situation roles rt k t)
      (situation (Function.update roles i (roles i).paid) (rt.make i e call next r) k t) := by
  have hcoming : {l | l ∈ (situation roles rt k t).coming ∨
      ∃ job, sent? call r.1 = some job ∧ job.trackerId? = some k ∧ l = i :: e.line} =
      insert (i :: e.line) (situation roles rt k t).coming := by
    ext l
    constructor
    · rintro (h | ⟨_, -, -, rfl⟩)
      · exact Set.mem_insert_of_mem _ h
      · exact Set.mem_insert _ _
    · rintro (rfl | h)
      · exact .inr ⟨_, hsent, congrArg some hjob, rfl⟩
      · exact .inl h
  rw [situation_make he hk (t := t), hcoming]
  exact .scheduled (party_situation.mpr ⟨e, he, hk, rfl⟩)

/-- Whoever gives the lease back goes on as one that owes what it still has to read. -/
theorem shift_released (hs : (situation roles rt k t).Served) (he : rt.errands[i]? = some e)
    (hk : e.job.trackerId? = some k)
    (hsent : ∀ job, sent? call r.1 = some job → job.trackerId? ≠ some k) :
    Situation.Shift (situation roles rt k t)
      (situation (Function.update roles i (roles i).afterRelease) (rt.make i e call next r)
        k t) := by
  refine shift_quiet hs he hk hsent ?_
  cases hg : roles i with
  | owing status =>
      exact .inr ⟨fun _ _ => trivial, by simp [Role.afterRelease],
        by simp [Role.afterRelease, Role.holds], by simp [Role.afterRelease], by simp⟩
  | content =>
      exact .inr ⟨fun _ ho => ho.elim, by simp [Role.afterRelease],
        by simp [Role.afterRelease, Role.holds], by simp [Role.afterRelease], by simp⟩
  | _ => exact .inl rfl

end

/-! ### A job is received -/

/-- A job about a tracker is received. -/
theorem shift_received {w : Parcel} {place : Nat} (hw : rt.pending[place]? = some w) {k : Int}
    (hk : w.job.trackerId? = some k) :
    Situation.Shift (situation roles rt k t)
      (situation (Function.update roles rt.errands.length .seeking) (rt.receive c place) k t) := by
  have hparty : (situation (Function.update roles rt.errands.length .seeking)
      (rt.receive c place) k t).party =
      (situation roles rt k t).put rt.errands.length .seeking w.line := by
    funext j
    simp only [situation, errands_receive hw]
    by_cases hj : j = rt.errands.length
    · rw [if_pos hj, hj, Situation.put_self]
      simp [hk]
    · rw [if_neg hj, Situation.put_of_ne hj]
      simp [Function.update_of_ne hj]
  have hnone : (situation roles rt k t).party rt.errands.length = none := by
    simp [situation]
  rw [show situation _ (rt.receive c place) k t = { situation roles rt k t with
      coming := {l | ∃ w' ∈ (rt.receive c place).pending, w'.job.trackerId? = some k ∧ w'.line = l}
      party := (situation roles rt k t).put rt.errands.length .seeking w.line } by
    rw [← hparty]
    rfl]
  refine .received hnone fun l ⟨w', hmem, hwk, hl⟩ => ?_
  obtain rfl | hmem := mem_pending_receive (c := c) hw hmem
  · exact .inl hl.symm
  · exact .inr ⟨w', hmem, hwk, hl⟩

/-- A job about another tracker is received. -/
theorem situation_receive_of_ne {w : Parcel} {place : Nat} (hw : rt.pending[place]? = some w)
    {k : Int} (hk : w.job.trackerId? ≠ some k) :
    situation (Function.update roles rt.errands.length .seeking) (rt.receive c place) k t =
      situation roles rt k t := by
  unfold situation
  congr 1
  · ext l
    refine exists_congr fun w' => and_congr_left fun ⟨hwk, _⟩ =>
      ⟨fun h => pending_receive_subset c rt place h, fun h => ?_⟩
    refine (mem_pending_receive (c := c) hw h).resolve_left fun heq => hk ?_
    rw [← heq, hwk]
  · funext j
    rw [errands_receive hw]
    by_cases hj : j = rt.errands.length
    · rw [if_pos hj, hj]
      simp [hk]
    · rw [if_neg hj]
      simp [Function.update_of_ne hj]

end

end Runtime

end ImportTracking
