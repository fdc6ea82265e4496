import ImportTracking.Proofs.Stores

/-!
# Holders — the history of leases kept in memory

Memory keeps one lease for a key, the one that was put there last.  Over time it nevertheless
answers as its whole history demands: of the leases ever granted it holds those that are
unreleased, except that an expired one may have made way (`Tracks`).

* `tracks_turn`, `tracks_after`: a turn keeps memory in step with its history, and so do any
  number of turns.
* `separate`: the turns on one key go as if there were no others.
* `history_law`: what holds of every history.
-/

namespace ImportTracking.Lease

namespace Memory

/-- What is in memory after some turns. -/
def after (m : Memory) (ts : List Turn) : Memory := (play turn ts m).2

/-- The history of some turns. -/
def log : Memory → List Turn → List (Event Nat)
  | _, [] => []
  | m, t :: ts => (t.event? (m.turn t).1).toList ++ log (m.turn t).2 ts

variable {m m' : Memory} {t : Turn} {ts : List Turn}

theorem after_append (m : Memory) (ts us : List Turn) :
    m.after (ts ++ us) = (m.after ts).after us := by
  induction ts generalizing m with
  | nil => rfl
  | cons t ts ih => exact ih (m.turn t).2

theorem log_append (m : Memory) (ts us : List Turn) :
    m.log (ts ++ us) = m.log ts ++ (m.after ts).log us := by
  induction ts generalizing m with
  | nil => rfl
  | cons t ts ih =>
      rw [List.cons_append, log, log, ih, List.append_assoc]
      rfl

/-! ### Memory and its history -/

/-- At a time, memory is in step with its history: what it holds is unreleased, and what is
unreleased it holds, or that has expired. -/
structure Tracks (now : Nat) (m : Memory) (log : List (Event Nat)) : Prop where
  held : ∀ key h, m.lookup key = some h →
    ∃ g, Unreleased log g ∧ g.lease = ⟨key, h.token⟩ ∧ g.expiresAt = h.expiresAt
  kept : ∀ g, Unreleased log g →
    m.lookup g.lease.key = some ⟨g.lease.token, g.expiresAt⟩ ∨ g.expiresAt ≤ now

namespace Tracks

variable {now now' : Nat} {log : List (Event Nat)}

theorem empty : Tracks now {} [] where
  held _ _ h := nomatch h
  kept _ h := absurd h not_unreleased_nil

theorem mono (h : Tracks now m log) (hle : now ≤ now') : Tracks now' m log where
  held := h.held
  kept g hg := (h.kept g hg).imp_right fun he => he.trans hle

/-- Whether any lease on a key is valid can be read off its history, or off what is on it. -/
theorem expired_iff (h : Tracks now m log) (hle : now ≤ now') (key : String) :
    (∀ x, m.lookup key = some x → x.expiresAt ≤ now') ↔
      ∀ g, Unreleased log g → g.lease.key = key → g.expiresAt ≤ now' := by
  constructor
  · rintro hx g hg rfl
    obtain hk | he := h.kept g hg
    · exact hx _ hk
    · exact he.trans hle
  · intro hg x hx
    obtain ⟨g, hu, hlease, he⟩ := h.held key x hx
    rw [← he]
    exact hg g hu (by rw [hlease])

/-- A lease that is put on a key without a valid one. -/
theorem set (h : Tracks now m log) {g : Grant Nat} (hle : now ≤ now')
    (hfree : ∀ x, m.lookup g.lease.key = some x → x.expiresAt ≤ now') :
    Tracks now' (m.set g.lease.key ⟨g.lease.token, g.expiresAt⟩) (log ++ [.granted g]) where
  held key x hx := by
    by_cases hkey : key = g.lease.key
    · subst hkey
      rw [lookup_set_self] at hx
      obtain rfl := Option.some.inj hx
      exact ⟨g, unreleased_append_granted.mpr (.inl rfl), rfl, rfl⟩
    · rw [lookup_set_of_ne m _ hkey] at hx
      obtain ⟨g', hu, hg'⟩ := h.held key x hx
      exact ⟨g', unreleased_append_granted.mpr (.inr hu), hg'⟩
  kept g' hg' := by
    obtain rfl | hu := unreleased_append_granted.mp hg'
    · exact .inl (lookup_set_self _ _ _)
    · by_cases hkey : g'.lease.key = g.lease.key
      · exact .inr ((h.expired_iff hle _).mp hfree g' hu hkey)
      · rw [lookup_set_of_ne m _ hkey]
        exact (h.kept g' hu).imp_right fun he => he.trans hle

/-- A lease that is presented, be it on its key or not. -/
theorem release (h : Tracks now m log) (lease : Lease) :
    Tracks now (m.release lease) (log ++ [.released lease]) where
  held key x hx := by
    by_cases hkey : key = lease.key
    · subst hkey
      rw [lookup_release_self, Option.filter_eq_some_iff] at hx
      obtain ⟨hx, hne⟩ := hx
      obtain ⟨g, hu, hg, he⟩ := h.held _ x hx
      refine ⟨g, unreleased_append_released.mpr ⟨?_, hu⟩, hg, he⟩
      rintro rfl
      rw [hg] at hne
      simp at hne
    · rw [lookup_release_of_ne m lease hkey] at hx
      obtain ⟨g, hu, hg, he⟩ := h.held key x hx
      refine ⟨g, unreleased_append_released.mpr ⟨?_, hu⟩, hg, he⟩
      rintro rfl
      exact hkey (by rw [hg])
  kept g hg := by
    obtain ⟨hne, hu⟩ := unreleased_append_released.mp hg
    refine (h.kept g hu).imp_left fun hk => ?_
    by_cases hkey : g.lease.key = lease.key
    · have htoken : g.lease.token ≠ lease.token := fun ht => hne (eq_of_key_of_token hkey ht)
      rw [hkey, lookup_release_self, ← hkey, hk]
      simpa using htoken
    · rwa [lookup_release_of_ne m lease hkey]

end Tracks

/-- **A turn keeps memory in step with its history.** -/
theorem tracks_turn {now : Nat} {log : List (Event Nat)} (h : Tracks now m log)
    (hle : now ≤ t.now) :
    Tracks t.now (m.turn t).2 (log ++ (t.event? (m.turn t).1).toList) := by
  obtain ⟨key, ttl, x, -, -, -, hturn, he⟩ | ⟨key, ttl, -, hfree, hturn, he⟩ |
    ⟨lease, -, hturn, he⟩ := m.turn_cases t
  · rw [he, hturn]
    simpa using h.mono hle
  · rw [he, hturn]
    exact h.set (g := t.asked key ttl) hle hfree
  · rw [he, hturn]
    exact (h.mono hle).release lease

/-- **Turns at times that do not decrease keep memory in step with its history.** -/
theorem tracks_after {now last : Nat} {log : List (Event Nat)} (h : Tracks now m log)
    (hts : ts.Pairwise fun t u => t.now ≤ u.now) (hfirst : ∀ t ∈ ts, now ≤ t.now)
    (hlast : ∀ t ∈ ts, t.now ≤ last) (hle : now ≤ last) :
    Tracks last (m.after ts) (log ++ m.log ts) := by
  induction ts generalizing m now log with
  | nil =>
      rw [Memory.log, List.append_nil]
      exact h.mono hle
  | cons t ts ih =>
      obtain ⟨ht, hts⟩ := List.pairwise_cons.mp hts
      obtain ⟨hnow, -⟩ := List.forall_mem_cons.mp hfirst
      obtain ⟨hle', hlast⟩ := List.forall_mem_cons.mp hlast
      rw [Memory.log, ← List.append_assoc]
      exact ih (tracks_turn h hnow) hts ht hlast hle'

/-- **Turns at times that do not decrease have an exclusive history.** -/
theorem exclusive_log {now : Nat} {log : List (Event Nat)} (h : Tracks now m log)
    (hex : Exclusive log) (hts : ts.Pairwise fun t u => t.now ≤ u.now)
    (hfirst : ∀ t ∈ ts, now ≤ t.now) : Exclusive (log ++ m.log ts) := by
  induction ts generalizing m now log with
  | nil => rwa [Memory.log, List.append_nil]
  | cons t ts ih =>
      obtain ⟨ht, hts⟩ := List.pairwise_cons.mp hts
      obtain ⟨hle, -⟩ := List.forall_mem_cons.mp hfirst
      rw [Memory.log, ← List.append_assoc]
      refine ih (tracks_turn h hle) ?_ hts ht
      obtain ⟨key, ttl, x, -, -, -, -, he⟩ | ⟨key, ttl, -, hfree, -, he⟩ | ⟨lease, -, -, he⟩ :=
        m.turn_cases t
      · rw [he]
        simpa using hex
      · rw [he]
        exact hex.append_granted ((h.expired_iff hle key).mp hfree)
      · rw [he]
        exact hex.append_released

/-! ### One key among others -/

/-- What a turn adds to the history is about the key of its call. -/
theorem key_of_event? {e : Event Nat} (m : Memory) (he : t.event? (m.turn t).1 = some e) :
    e.key = t.call.key := by
  obtain ⟨key, ttl, x, hc, -, -, -, he'⟩ | ⟨key, ttl, hc, -, -, he'⟩ | ⟨lease, hc, -, he'⟩ :=
    m.turn_cases t
  · rw [he] at he'
    cases he'
  · rw [he] at he'
    cases he'
    rw [hc]
    rfl
  · rw [he] at he'
    cases he'
    rw [hc]
    rfl

/-- **The turns on one key go as if there were no others.** -/
theorem separate {key : String} (h : m.lookup key = m'.lookup key) :
    (m.log ts).filter (·.key == key) = m'.log (ts.filter (·.call.key == key)) ∧
      (m.after ts).lookup key = (m'.after (ts.filter (·.call.key == key))).lookup key := by
  induction ts generalizing m m' with
  | nil => exact ⟨rfl, h⟩
  | cons t ts ih =>
      rw [Memory.log, List.filter_append, List.filter_cons]
      by_cases hkey : t.call.key = key
      · subst hkey
        obtain ⟨ha, hl⟩ := turn_congr h
        obtain ⟨hlog, hafter⟩ := ih hl
        have hself : (t.event? (m.turn t).1).toList.filter (·.key == t.call.key) =
            (t.event? (m'.turn t).1).toList := by
          rw [← ha, List.filter_eq_self]
          intro e he
          simpa using key_of_event? m (Option.mem_toList.mp he)
        rw [if_pos (beq_self_eq_true _), hself, hlog]
        exact ⟨rfl, hafter⟩
      · have hnone : (t.event? (m.turn t).1).toList.filter (·.key == key) = [] := by
          rw [List.filter_eq_nil_iff]
          intro e he hk
          exact hkey ((key_of_event? m (Option.mem_toList.mp he)).symm.trans (by simpa using hk))
        rw [if_neg (by simpa using hkey), hnone, List.nil_append]
        exact ih ((lookup_turn_of_ne m (Ne.symm hkey)).trans h)

/-! ### The law -/

/-- What holds of the turns that a store went through which was empty at first. -/
structure HistoryLaw (ts : List Turn) : Prop where
  /-- A lease on a key is granted exactly when each earlier one was released since, by its own key
  and token, or has expired. -/
  granted_iff : ∀ before t after key ttl, ts = before ++ t :: after → t.call = .obtain_ key ttl →
    (((({} : Memory).after before).turn t).1 = .granted ⟨key, t.token⟩ ↔
      ∀ earlier g later, ({} : Memory).log before = earlier ++ .granted g :: later →
        g.lease.key = key → .released g.lease ∈ later ∨ g.expiresAt ≤ t.now)
  /-- When it is not granted, the key is said to be held. -/
  otherwise_held : ∀ before t after key ttl, ts = before ++ t :: after →
    t.call = .obtain_ key ttl →
    ((({} : Memory).after before).turn t).1 = .granted ⟨key, t.token⟩ ∨
      ((({} : Memory).after before).turn t).1 = .held
  /-- Two leases on one key are never valid at the same time, unless the first was released before
  the second was granted. -/
  disjoint : ∀ before g between g' after,
    ({} : Memory).log ts = before ++ .granted g :: between ++ .granted g' :: after →
    g.lease.key = g'.lease.key → .released g.lease ∉ between →
    Disjoint (Set.Ico g.since g.expiresAt) (Set.Ico g'.since g'.expiresAt)
  /-- Who holds a valid lease keeps it when the key and token of another lease are presented, or
  of none that was ever granted. -/
  steadfast : ∀ before t after lease holder, ts = before ++ t :: after → t.call = .release lease →
    Unreleased (({} : Memory).log before) holder → t.now < holder.expiresAt →
    ((∃ g, .granted g ∈ ({} : Memory).log before ∧ g.lease = lease ∧ g ≠ holder) ∨
      ∀ g, .granted g ∈ ({} : Memory).log before → g.lease ≠ lease) →
    (({} : Memory).after (before ++ [t])).lookup holder.lease.key =
      some ⟨holder.lease.token, holder.expiresAt⟩
  /-- What comes of the turns on a key, and what is on it, is as if there were no others. -/
  separate : ∀ key,
    (({} : Memory).log ts).filter (·.key == key) =
        ({} : Memory).log (ts.filter (·.call.key == key)) ∧
      (({} : Memory).after ts).lookup key =
        (({} : Memory).after (ts.filter (·.call.key == key))).lookup key

/-- **Leases kept in memory obey the law of their history**, whatever is asked of them, if time
does not go back and no token is generated twice. -/
theorem history_law (ts : List Turn) (htimes : ts.Pairwise fun t u => t.now ≤ u.now)
    (htokens : ((grants (({} : Memory).log ts)).map (·.lease.token)).Nodup) : HistoryLaw ts := by
  -- before each turn memory is in step with its history so far
  have htracks {before after : List Turn} {t : Turn} (hts : ts = before ++ t :: after) :
      Tracks t.now (({} : Memory).after before) (({} : Memory).log before) := by
    obtain ⟨hbefore, -, hlast⟩ := List.pairwise_append.mp (hts ▸ htimes)
    exact tracks_after .empty hbefore (fun _ _ => Nat.zero_le _)
      (fun u hu => hlast u hu t List.mem_cons_self) (Nat.zero_le _)
  refine ⟨?_, fun _ _ _ _ _ _ hc => turn_granted_or_held _ hc, ?_, ?_,
    fun key => Memory.separate rfl⟩
  · intro before t after key ttl hts hc
    rw [turn_granted_iff hc, (htracks hts).expired_iff le_rfl key]
    exact forall_unreleased_iff
  · intro before g between g' after hlog hkey hno
    have hex : Exclusive ([] ++ ({} : Memory).log ts) :=
      exclusive_log .empty .nil htimes fun t _ => Nat.zero_le t.now
    exact hex.disjoint hlog hkey hno
  · intro before t after lease holder hts hc hheld hvalid hother
    have hne : holder.lease ≠ lease := by
      rintro rfl
      obtain ⟨g, hg, he, hne⟩ | hforged := hother
      · refine hne (eq_of_lease_eq ?_ hg hheld.mem he)
        rw [hts, log_append, grants, List.filterMap_append, List.map_append] at htokens
        exact htokens.of_append_left
      · exact hforged holder hheld.mem rfl
    have hturn : t.event? ((({} : Memory).after before).turn t).1 = some (.released lease) := by
      simp only [Turn.event?, hc]
    have h := tracks_turn (htracks hts) le_rfl
    rw [hturn] at h
    rw [after_append]
    exact (h.kept holder (unreleased_append_released.mpr ⟨hne, hheld⟩)).resolve_right
      (Nat.not_le_of_lt hvalid)

/-- Of a lease that expired, its key was taken over by another holder, and the first one presents
its token late. -/
theorem history_law_takeover :
    let ts : List Turn :=
      [⟨0, "a", .obtain_ "k" (.ofSecs 30)⟩,
        ⟨Duration.nanosPerSec * 30, "b", .obtain_ "k" (.ofSecs 30)⟩,
        ⟨Duration.nanosPerSec * 31, "", .release ⟨"k", "a"⟩⟩,
        ⟨Duration.nanosPerSec * 32, "c", .obtain_ "k" (.ofSecs 30)⟩]
    ts.Pairwise (fun t u => t.now ≤ u.now) ∧
      ((grants (({} : Memory).log ts)).map (·.lease.token)).Nodup ∧
      (play turn ts {}).1 = [.granted ⟨"k", "a"⟩, .granted ⟨"k", "b"⟩, .released, .held] ∧
      HistoryLaw ts := by
  refine ⟨by decide, by decide, by decide, history_law _ (by decide) (by decide)⟩

end Memory

end ImportTracking.Lease
