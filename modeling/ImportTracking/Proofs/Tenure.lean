import ImportTracking.Lease.Basic
import Mathlib.Data.List.Nodup
import Mathlib.Order.CompletePartialOrder
import Mathlib.Order.Interval.Set.Disjoint

/-!
# Tenure — leases over time

The history of a lease store is the list of the leases it granted and of the tokens that were
presented to be released, in their order.  A lease is *unreleased* when it was granted and its own
key and token were not presented since.  A history is *exclusive* when no lease was granted while
an earlier one on the same key was unreleased and valid.

* `unreleased_append_granted`, `unreleased_append_released`: which leases one more event leaves
  unreleased.
* `Exclusive.append_granted`: a grant that respects the earlier ones keeps a history exclusive.
* `Exclusive.disjoint`: in an exclusive history two leases on one key are never valid at the same
  time, unless the first was released before the second was granted.
-/

namespace ImportTracking.Lease

/-- Where an element stands in a list with one more element: at the end, or before. -/
theorem append_singleton_eq_split {α : Type} {xs before after : List α} {x y : α} :
    xs ++ [x] = before ++ y :: after ↔
      (xs = before ∧ x = y ∧ after = []) ∨
        ∃ rest, after = rest ++ [x] ∧ xs = before ++ y :: rest := by
  constructor
  · intro h
    obtain rfl | ⟨rest, z, rfl⟩ := after.eq_nil_or_concat
    · obtain ⟨rfl, hx⟩ := List.append_inj' h rfl
      exact .inl ⟨rfl, List.singleton_inj.mp hx, rfl⟩
    · rw [List.concat_eq_append, ← List.cons_append, ← List.append_assoc] at h
      obtain ⟨rfl, hx⟩ := List.append_inj' h rfl
      obtain rfl := List.singleton_inj.mp hx
      exact .inr ⟨rest, List.concat_eq_append, rfl⟩
  · rintro (⟨rfl, rfl, rfl⟩ | ⟨rest, rfl, rfl⟩)
    · rfl
    · simp

/-- A lease that was granted: it is valid from one time on, and up to, not at, another. -/
structure Grant (τ : Type) where
  lease : Lease
  since : τ
  expiresAt : τ

/-- What happens to leases. -/
inductive Event (τ : Type) where
  | granted (g : Grant τ)
  /-- Someone presents a key and a token, be they the holder's or not. -/
  | released (lease : Lease)

namespace Event

variable {τ : Type}

/-- The key that an event is about. -/
def key : Event τ → String
  | granted g => g.lease.key
  | released lease => lease.key

/-- The lease that was granted, if one was. -/
def grant? : Event τ → Option (Grant τ)
  | granted g => some g
  | released _ => none

end Event

section
variable {τ : Type}

/-- The leases that were granted, in order. -/
def grants (log : List (Event τ)) : List (Grant τ) := log.filterMap Event.grant?

/-- The lease was granted, and its own key and token were not presented since. -/
def Unreleased (log : List (Event τ)) (g : Grant τ) : Prop :=
  ∃ before after, log = before ++ .granted g :: after ∧ .released g.lease ∉ after

/-- Whenever a lease was granted, every earlier one on its key that was unreleased then had
expired. -/
def Exclusive [LE τ] (log : List (Event τ)) : Prop :=
  ∀ before g after, log = before ++ .granted g :: after →
    ∀ g', Unreleased before g' → g'.lease.key = g.lease.key → g'.expiresAt ≤ g.since

variable {log : List (Event τ)} {g g' : Grant τ} {lease : Lease}

/-- A lease is its key and its token. -/
theorem eq_of_key_of_token {l l' : Lease} (hk : l.key = l'.key) (ht : l.token = l'.token) :
    l = l' := by
  obtain ⟨k, t⟩ := l
  obtain ⟨k', t'⟩ := l'
  cases hk
  cases ht
  rfl

@[simp] theorem mem_grants : g ∈ grants log ↔ .granted g ∈ log := by
  rw [grants, List.mem_filterMap]
  constructor
  · rintro ⟨e, he, hg⟩
    cases e with
    | granted g₁ =>
        obtain rfl : g₁ = g := Option.some.inj hg
        exact he
    | released => cases hg
  · intro h
    exact ⟨_, h, rfl⟩

theorem not_unreleased_nil : ¬ Unreleased [] g := by
  rintro ⟨before, after, h, -⟩
  exact List.append_ne_nil_of_right_ne_nil before (List.cons_ne_nil _ after) h.symm

theorem Unreleased.mem (h : Unreleased log g) : .granted g ∈ log := by
  obtain ⟨before, after, rfl, -⟩ := h
  exact List.mem_append_right _ List.mem_cons_self

/-- What was released stays so until it is granted anew. -/
theorem unreleased_append_granted :
    Unreleased (log ++ [.granted g']) g ↔ g = g' ∨ Unreleased log g := by
  constructor
  · rintro ⟨before, after, h, hno⟩
    obtain ⟨-, he, -⟩ | ⟨rest, rfl, hlog⟩ := append_singleton_eq_split.mp h
    · cases he
      exact .inl rfl
    · exact .inr ⟨before, rest, hlog, fun hr => hno (List.mem_append_left _ hr)⟩
  · rintro (rfl | ⟨before, after, rfl, hno⟩)
    · exact ⟨log, [], rfl, List.not_mem_nil⟩
    · refine ⟨before, after ++ [.granted g'], by simp, fun hr => ?_⟩
      rcases List.mem_append.mp hr with hr | hr
      · exact hno hr
      · cases List.mem_singleton.mp hr

/-- A release leaves every lease unreleased but the one whose key and token are presented. -/
theorem unreleased_append_released :
    Unreleased (log ++ [.released lease]) g ↔ g.lease ≠ lease ∧ Unreleased log g := by
  constructor
  · rintro ⟨before, after, h, hno⟩
    obtain ⟨-, he, -⟩ | ⟨rest, rfl, hlog⟩ := append_singleton_eq_split.mp h
    · cases he
    · refine ⟨?_, before, rest, hlog, fun hr => hno (List.mem_append_left _ hr)⟩
      rintro rfl
      exact hno (List.mem_append_right _ (List.mem_singleton_self _))
  · rintro ⟨hne, before, after, rfl, hno⟩
    refine ⟨before, after ++ [.released lease], by simp, fun hr => ?_⟩
    rcases List.mem_append.mp hr with hr | hr
    · exact hno hr
    · cases List.mem_singleton.mp hr
      exact hne rfl

/-- A condition on the unreleased leases on a key, said of every lease that was granted on it. -/
theorem forall_unreleased_iff {key : String} {p : Grant τ → Prop} :
    (∀ g, Unreleased log g → g.lease.key = key → p g) ↔
      ∀ before g after, log = before ++ .granted g :: after → g.lease.key = key →
        .released g.lease ∈ after ∨ p g := by
  constructor
  · intro h before g after hlog hkey
    by_cases hr : .released g.lease ∈ after
    · exact .inl hr
    · exact .inr (h g ⟨before, after, hlog, hr⟩ hkey)
  · rintro h g ⟨before, after, hlog, hno⟩ hkey
    exact (h before g after hlog hkey).resolve_left hno

/-- With distinct tokens no two grants are of one lease. -/
theorem eq_of_lease_eq (h : ((grants log).map (·.lease.token)).Nodup) (hg : .granted g ∈ log)
    (hg' : .granted g' ∈ log) (he : g.lease = g'.lease) : g = g' :=
  List.inj_on_of_nodup_map h (mem_grants.mpr hg) (mem_grants.mpr hg') (congrArg Lease.token he)

end

/-! ### Exclusive histories -/

namespace Exclusive

section
variable {τ : Type} [LE τ] {log : List (Event τ)} {g : Grant τ} {lease : Lease}

theorem nil : Exclusive ([] : List (Event τ)) := by
  intro before g after h
  exact absurd h.symm (List.append_ne_nil_of_right_ne_nil before (List.cons_ne_nil _ after))

/-- One more lease on a key whose earlier leases are released or expired. -/
theorem append_granted (h : Exclusive log)
    (hg : ∀ g', Unreleased log g' → g'.lease.key = g.lease.key → g'.expiresAt ≤ g.since) :
    Exclusive (log ++ [.granted g]) := by
  intro before g₁ after hlog
  obtain ⟨rfl, he, -⟩ | ⟨rest, -, hlog⟩ := append_singleton_eq_split.mp hlog
  · cases he
    exact hg
  · exact h before g₁ rest hlog

theorem append_released (h : Exclusive log) : Exclusive (log ++ [.released lease]) := by
  intro before g₁ after hlog
  obtain ⟨-, he, -⟩ | ⟨rest, -, hlog⟩ := append_singleton_eq_split.mp hlog
  · cases he
  · exact h before g₁ rest hlog

end

/-- Two leases on one key are never valid at the same time, unless the first was released before
the second was granted. -/
theorem disjoint {τ : Type} [Preorder τ] {log before between after : List (Event τ)}
    {g g' : Grant τ} (h : Exclusive log)
    (hlog : log = before ++ .granted g :: between ++ .granted g' :: after)
    (hkey : g.lease.key = g'.lease.key) (hno : .released g.lease ∉ between) :
    Disjoint (Set.Ico g.since g.expiresAt) (Set.Ico g'.since g'.expiresAt) := by
  have hle : g.expiresAt ≤ g'.since := h _ g' after hlog g ⟨before, between, rfl, hno⟩ hkey
  rw [Set.disjoint_left]
  intro x hx hx'
  exact lt_irrefl x (lt_of_lt_of_le hx.2 (hle.trans hx'.1))

end Exclusive

end ImportTracking.Lease
