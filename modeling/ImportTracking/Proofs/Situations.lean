import Mathlib.Data.Set.Insert
import ImportTracking.Proofs.Roles

/-!
# Situations — who will come for a tracker

A `Situation` is all that matters to one tracker: its row, the jobs in the queue for it, and the
errands about it, each with its role and the errands that it descends from.  `Shift` is what a call,
or a job that is received, can do to it.

A tracker that waits is `Owed`: a job is in the queue for it, or an errand owes it something.  To
keep this the situation has to be `Served`.  The holder of the lease is the only one, and knows the
status of the row, unless the tracker was failed; and a holder that owes nothing, while the tracker
waits, has a job in the queue that descends from it, or an errand that still comes for the lease.
This is why an errand may be refused the lease by any errand except those that it descends from.

* `Served.shift`: every shift keeps it.
-/

namespace ImportTracking.Runtime

open Tracker (Status)

/-- Whether an errand owes something to a tracker of this status. -/
def Role.Owes (status : String) : Role → Prop
  | .seeking | .owing _ | .faulted => True
  | .ending s => s = status
  | .content | .idle => False

/-- A tracker, and those that are about it. -/
structure Situation where
  row : Tracker
  /-- The lines of the jobs in the queue. -/
  coming : Set (List Nat)
  /-- The role and the line of every errand. -/
  party : Nat → Option (Role × List Nat)

namespace Situation

variable {s s' : Situation} {i j : Nat} {p q : Role × List Nat} {g : Role} {l : List Nat}

/-- A job is in the queue, or an errand owes something. -/
def Owed (s : Situation) : Prop :=
  (∃ l, l ∈ s.coming) ∨ ∃ i p, s.party i = some p ∧ p.1.Owes s.row.status

/-- A job that descends from an errand is in the queue, or comes for the lease. -/
def Followed (s : Situation) (i : Nat) : Prop :=
  (∃ l ∈ s.coming, i ∈ l) ∨ ∃ j l, s.party j = some (.seeking, l) ∧ i ∈ l

/-- What keeps a tracker that waits from being forgotten. -/
structure Served (s : Situation) : Prop where
  owed : s.row.Waiting → (∃ i p, s.party i = some p) → s.Owed
  known : ∀ i status l, s.party i = some (.owing (some status), l) →
    s.row.status = status ∨ s.row.status = Status.failed.name
  alone : ∀ i j p q, s.party i = some p → s.party j = some q → p.1.holds = true →
    q.1.holds = true → i = j
  followed : ∀ i l, s.party i = some (.content, l) → s.row.Waiting → s.Followed i

/-- The errand `i` has the role `g`, and the line `l`. -/
def put (s : Situation) (i : Nat) (g : Role) (l : List Nat) : Nat → Option (Role × List Nat) :=
  Function.update s.party i (some (g, l))

theorem put_self : s.put i g l i = some (g, l) := Function.update_self ..

theorem put_of_ne (h : j ≠ i) : s.put i g l j = s.party j := Function.update_of_ne h ..

/-- Who is in a situation after a change: the errand that changed, or another one as it was. -/
theorem put_eq_some (h : s.put i g l j = some p) :
    j = i ∧ p = (g, l) ∨ j ≠ i ∧ s.party j = some p := by
  by_cases hj : j = i
  · subst hj
    rw [put_self] at h
    exact .inl ⟨rfl, (Option.some.inj h).symm⟩
  · rw [put_of_ne hj] at h
    exact .inr ⟨hj, h⟩

/-- What a call of an errand can do to the situation of its tracker, or a job that is received. -/
inductive Shift (s : Situation) : Situation → Prop where
  /-- The row stays, and nothing is scheduled. -/
  | quiet {i : Nat} {g g' : Role} {l : List Nat} (hp : s.party i = some (g, l))
      (howes : s.row.Waiting → g.Owes s.row.status → g'.Owes s.row.status)
      (hknown : ∀ status, g' = .owing (some status) →
        s.row.status = status ∨ s.row.status = Status.failed.name)
      (hholds : g'.holds = true → g.holds = true)
      (hcontent : g' = .content → g = .content ∨ ¬s.row.Waiting)
      (hseeking : g = .seeking → g' = .seeking) :
      Shift s { s with party := s.put i g' l }
  /-- The holder of the lease writes the row. -/
  | written {i : Nat} {g g' : Role} {l : List Nat} {row : Tracker}
      (hp : s.party i = some (g, l)) (hg : g.holds = true)
      (hg' : g' = .owing (some row.status) ∨ g' = .content ∧ ¬row.Waiting) :
      Shift s { s with row := row, party := s.put i g' l }
  /-- An errand without the lease fails the tracker. -/
  | failed {i : Nat} {g : Role} {l : List Nat} {row : Tracker} (hp : s.party i = some (g, l))
      (hg : g ≠ .seeking) (hrow : row.status = Status.failed.name) :
      Shift s { s with row := row, party := s.put i .idle l }
  | scheduled {i : Nat} {g : Role} {l : List Nat} (hp : s.party i = some (g, l)) :
      Shift s { s with coming := insert (i :: l) s.coming, party := s.put i g.paid l }
  | granted {i : Nat} {l : List Nat} (hp : s.party i = some (.seeking, l))
      (hfree : ∀ j q, s.party j = some q → q.1.holds = false) :
      Shift s { s with party := s.put i (.owing none) l }
  /-- The lease is refused, but not by an errand that this one descends from. -/
  | refused {i j : Nat} {l : List Nat} {p : Role × List Nat} (hp : s.party i = some (.seeking, l))
      (hj : s.party j = some p) (hholds : p.1.holds = true) (hline : j ∉ l) :
      Shift s { s with party := s.put i .idle l }
  | received {i : Nat} {l : List Nat} {coming : Set (List Nat)} (hp : s.party i = none)
      (hcoming : ∀ l' ∈ s.coming, l' = l ∨ l' ∈ coming) :
      Shift s { s with coming := coming, party := s.put i .seeking l }

/-- A tracker that was failed does not wait. -/
theorem not_waiting_of_failed {t : Tracker} (h : t.status = Status.failed.name) : ¬t.Waiting :=
  fun hw => by
    have hrun := hw.isRunnable
    rw [not_isRunnable_of_failed h] at hrun
    cases hrun

/-- Whoever owes something is there after a change, if it is not the errand that changed. -/
theorem Owed.put (h : s.Owed) {coming : Set (List Nat)}
    (hcoming : ∀ l' ∈ s.coming, (∃ l, l ∈ coming) ∨ g.Owes s.row.status)
    (hi : ∀ p, s.party i = some p → p.1.Owes s.row.status →
      (∃ l, l ∈ coming) ∨ g.Owes s.row.status ∨
        ∃ j q, j ≠ i ∧ s.party j = some q ∧ q.1.Owes s.row.status) :
    Owed { s with coming := coming, party := s.put i g l } := by
  have hself (hg : g.Owes s.row.status) :
      Owed { s with coming := coming, party := s.put i g l } :=
    .inr ⟨i, _, put_self, hg⟩
  obtain ⟨l', hl'⟩ | ⟨j, p, hp, ho⟩ := h
  · exact (hcoming l' hl').elim .inl hself
  · by_cases hj : j = i
    · subst hj
      obtain h | hg | ⟨k, q, hk, hq, ho'⟩ := hi p hp ho
      · exact .inl h
      · exact hself hg
      · exact .inr ⟨k, q, (put_of_ne hk).trans hq, ho'⟩
    · exact .inr ⟨j, p, (put_of_ne hj).trans hp, ho⟩

/-- Whoever follows an errand still does, if it is not the errand that changed. -/
theorem Followed.put (h : s.Followed j) {coming : Set (List Nat)}
    (hcoming : ∀ l' ∈ s.coming, j ∈ l' → (∃ l ∈ coming, j ∈ l) ∨ g = .seeking ∧ j ∈ l)
    (hi : ∀ l', s.party i = some (.seeking, l') → j ∈ l' →
      (∃ l ∈ coming, j ∈ l) ∨ g = .seeking ∧ j ∈ l) :
    Followed { s with coming := coming, party := s.put i g l } j := by
  have hself (hg : g = .seeking ∧ j ∈ l) :
      Followed { s with coming := coming, party := s.put i g l } j :=
    .inr ⟨i, l, by rw [← hg.1]; exact put_self, hg.2⟩
  obtain ⟨l', hl', hmem⟩ | ⟨k, l', hp, hmem⟩ := h
  · exact (hcoming l' hl' hmem).elim .inl hself
  · by_cases hk : k = i
    · subst hk
      exact (hi l' hp hmem).elim .inl hself
    · exact .inr ⟨k, l', (put_of_ne hk).trans hp, hmem⟩

/-- There is one holder still, unless the errand that changed becomes another one. -/
theorem alone_put (hs : s.Served)
    (h : ∀ j q, j ≠ i → s.party j = some q → q.1.holds = true → g.holds = false) (j k : Nat)
    (p q : Role × List Nat) (hj : s.put i g l j = some p) (hk : s.put i g l k = some q)
    (hp : p.1.holds = true) (hq : q.1.holds = true) : j = k := by
  obtain ⟨hji, rfl⟩ | ⟨hji, hj'⟩ := put_eq_some hj <;>
    obtain ⟨hki, rfl⟩ | ⟨hki, hk'⟩ := put_eq_some hk
  · rw [hji, hki]
  · rw [h k q hki hk' hq] at hp
    cases hp
  · rw [h j p hji hj' hp] at hq
    cases hq
  · exact hs.alone j k p q hj' hk' hp hq

/-- Beside the holder of the lease there is no other one. -/
theorem Served.holds_of_ne (hs : s.Served) (hp : s.party i = some p) (hh : p.1.holds = true)
    (hj : j ≠ i) (hq : s.party j = some q) : q.1.holds = false :=
  Bool.eq_false_iff.mpr fun h => hj (hs.alone j i q p hq hp h hh)

/-- **Every shift keeps** that a tracker that waits is not forgotten. -/
theorem Served.shift (hs : s.Served) (h : Shift s s') : s'.Served := by
  cases h with
  | @quiet i g g' l hp howes hknown hholds hcontent hseeking =>
      refine ⟨fun hw _ => ?_, fun j status l' hj => ?_, ?_, fun j l' hj hw => ?_⟩
      · refine (hs.owed hw ⟨i, _, hp⟩).put (fun l' hl' => .inl ⟨l', hl'⟩) fun p hp' ho => ?_
        obtain rfl := Option.some.inj (hp.symm.trans hp')
        exact .inr (.inl (howes hw ho))
      · obtain ⟨-, he⟩ | ⟨-, hj⟩ := put_eq_some hj
        · cases he
          exact hknown status rfl
        · exact hs.known j status l' hj
      · refine alone_put hs fun j q hji hq hh => Bool.eq_false_iff.mpr fun hg' => ?_
        exact hji (hs.alone j i q _ hq hp hh (hholds hg'))
      · have hfollowed : s.Followed j := by
          obtain ⟨rfl, he⟩ | ⟨-, hj⟩ := put_eq_some hj
          · cases he
            obtain rfl | hnot := hcontent rfl
            · exact hs.followed j l hp hw
            · exact absurd hw hnot
          · exact hs.followed j l' hj hw
        refine hfollowed.put (fun l' hl' hmem => .inl ⟨l', hl', hmem⟩) fun l' hl' hmem => ?_
        cases Option.some.inj (hp.symm.trans hl')
        exact .inr ⟨hseeking rfl, hmem⟩
  | @written i g g' l row hp hg hg' =>
      have hother {j : Nat} {q : Role × List Nat} (hj : j ≠ i) (hq : s.party j = some q) :
          q.1.holds = false := hs.holds_of_ne hp hg hj hq
      refine ⟨fun hw _ => ?_, fun j status l' hj => ?_, ?_, fun j l' hj hw => ?_⟩
      · refine .inr ⟨i, _, put_self, ?_⟩
        obtain rfl | ⟨-, hnot⟩ := hg'
        · exact trivial
        · exact absurd hw hnot
      · obtain ⟨-, he⟩ | ⟨hji, hj⟩ := put_eq_some hj
        · cases he
          obtain he | ⟨he, -⟩ := hg'
          · cases he
            exact .inl rfl
          · cases he
        · cases hother hji hj
      · refine alone_put hs fun j q hji hq hh => ?_
        rw [hother hji hq] at hh
        cases hh
      · obtain ⟨-, he⟩ | ⟨hji, hj⟩ := put_eq_some hj
        · cases he
          obtain he | ⟨-, hnot⟩ := hg'
          · cases he
          · exact absurd hw hnot
        · cases hother hji hj
  | @failed i g l row hp hg hrow =>
      have hnot := not_waiting_of_failed hrow
      exact ⟨fun hw _ => absurd hw hnot, fun j status l' _ => .inr hrow,
        alone_put hs fun _ _ _ _ _ => rfl, fun j l' _ hw => absurd hw hnot⟩
  | @scheduled i g l hp =>
      have hmem : i :: l ∈ insert (i :: l) s.coming := Set.mem_insert _ _
      refine ⟨fun hw _ => .inl ⟨_, hmem⟩, fun j status l' hj => ?_, ?_, fun j l' hj hw => ?_⟩
      · obtain ⟨-, he⟩ | ⟨-, hj⟩ := put_eq_some hj
        · cases g <;> cases he
        · exact hs.known j status l' hj
      · refine alone_put hs fun j q hji hq hh => Bool.eq_false_iff.mpr fun hpaid => ?_
        exact hji (hs.alone j i q _ hq hp hh (by cases g <;> first | rfl | cases hpaid))
      · obtain ⟨rfl, -⟩ | ⟨-, hj⟩ := put_eq_some hj
        · exact .inl ⟨_, hmem, List.mem_cons_self⟩
        · refine (hs.followed j l' hj hw).put
            (fun l' hl' hj => .inl ⟨l', Set.mem_insert_of_mem _ hl', hj⟩) fun l' hl' hj => ?_
          cases Option.some.inj (hp.symm.trans hl')
          exact .inl ⟨_, hmem, List.mem_cons_of_mem _ hj⟩
  | @granted i l hp hfree =>
      refine ⟨fun hw _ => .inr ⟨i, _, put_self, trivial⟩, fun j status l' hj => ?_, ?_,
        fun j l' hj hw => ?_⟩
      · obtain ⟨-, he⟩ | ⟨-, hj⟩ := put_eq_some hj
        · cases he
        · exact hs.known j status l' hj
      · refine alone_put hs fun j q _ hq hh => ?_
        rw [hfree j q hq] at hh
        cases hh
      · obtain ⟨-, he⟩ | ⟨-, hj⟩ := put_eq_some hj
        · cases he
        · cases hfree j _ hj
  | @refused i j l p hp hj hholds hline =>
      have hne : j ≠ i := by
        rintro rfl
        cases Option.some.inj (hp.symm.trans hj)
        cases hholds
      refine ⟨fun hw _ => ?_, fun k status l' hk => ?_, alone_put hs fun _ _ _ _ _ => rfl,
        fun k l' hk hw => ?_⟩
      · -- the holder owes something, or is followed by another one than the errand refused
        obtain ⟨role, l'⟩ := p
        cases role with
        | owing status => exact .inr ⟨j, _, (put_of_ne hne).trans hj, trivial⟩
        | content =>
            obtain ⟨l', hl', -⟩ | ⟨k, l', hk, hmem⟩ := hs.followed j l' hj hw
            · exact .inl ⟨l', hl'⟩
            · have hki : k ≠ i := by
                rintro rfl
                cases Option.some.inj (hp.symm.trans hk)
                exact hline hmem
              exact .inr ⟨k, _, (put_of_ne hki).trans hk, trivial⟩
        | _ => cases hholds
      · obtain ⟨-, he⟩ | ⟨-, hk⟩ := put_eq_some hk
        · cases he
        · exact hs.known k status l' hk
      · obtain ⟨-, he⟩ | ⟨-, hk⟩ := put_eq_some hk
        · cases he
        · obtain rfl := hs.alone k j _ p hk hj rfl hholds
          refine (hs.followed k l' hk hw).put (fun l' hl' hmem => .inl ⟨l', hl', hmem⟩)
            fun l' hl' hmem => ?_
          cases Option.some.inj (hp.symm.trans hl')
          exact absurd hmem hline
  | @received i l coming hp hcoming =>
      refine ⟨fun hw _ => .inr ⟨i, _, put_self, trivial⟩, fun j status l' hj => ?_,
        alone_put hs fun _ _ _ _ _ => rfl, fun j l' hj hw => ?_⟩
      · obtain ⟨-, he⟩ | ⟨-, hj⟩ := put_eq_some hj
        · cases he
        · exact hs.known j status l' hj
      · obtain ⟨-, he⟩ | ⟨-, hj⟩ := put_eq_some hj
        · cases he
        · refine (hs.followed j l' hj hw).put (fun l' hl' hmem => ?_) fun l' hl' _ => ?_
          · obtain rfl | hl' := hcoming l' hl'
            · exact .inr ⟨rfl, hmem⟩
            · exact .inl ⟨l', hl', hmem⟩
          · rw [hp] at hl'
            cases hl'

end Situation

end ImportTracking.Runtime
