import IdealNetwork.Lib.Runs

/-!
# Bounded queues

A queue that several parties share, one access at a time: items arrive at its
end, and takers remove as many as they ask for from its front. It holds a fixed
number of items. An item that arrives at a full queue displaces the oldest.

What has arrived is then, in order, what is gone and what is queued, and what
was taken is part of what is gone (`History`). An item that is gone and was not
taken has been overrun: as many others as the queue holds came after it.

To tell one arrival from another that is equal to it, arrivals are numbered
(`number`). A queue does not look at its items, so this changes nothing
(`run_number`).
-/

set_option autoImplicit false

namespace Fifo

variable {α β : Type}

/-- One access to the queue. -/
inductive Access (α : Type) where
  | arrive (item : α)
  | take (n : ℕ)
deriving DecidableEq

/-- Append an item. A full queue loses its oldest first. -/
def push (cap : ℕ) (queue : List α) (item : α) : List α :=
  (if queue.length = cap then queue.tail else queue) ++ [item]

def step (cap : ℕ) : Access α → List α → List α
  | .arrive item, queue => push cap queue item
  | .take n, queue => queue.drop n

/-- What an access takes. -/
def taken : Access α → List α → List α
  | .arrive _, _ => []
  | .take n, queue => queue.take n

/-- What arrives in the course of some accesses. -/
def arrivals (accesses : List (Access α)) : List α :=
  accesses.filterMap fun
    | .arrive item => some item
    | .take _ => none

/-! ## What becomes of an arrival -/

/-- How what has arrived, what was taken, what is gone and what is queued are
related. -/
structure History (cap : ℕ) (arrived taken gone queue : List α) : Prop where
  order : arrived = gone ++ queue
  bound : queue.length ≤ cap
  sublist : taken.Sublist gone
  overrun : ∀ item ∈ gone, item ∉ taken →
    ∃ before after, arrived = before ++ item :: after ∧ cap ≤ after.length

section

variable {cap : ℕ} {arrived took gone queue rest : List α} {item oldest : α}

theorem History.taken_sublist (h : History cap arrived took gone queue) : took.Sublist arrived := by
  rw [h.order]
  exact h.sublist.trans (List.sublist_append_left gone queue)

theorem History.start (cap : ℕ) : History cap ([] : List α) [] [] [] :=
  ⟨rfl, Nat.zero_le cap, .slnil, nofun⟩

/-- What was overrun stays so when another item arrives. -/
theorem History.overrun_arrive (h : History cap arrived took gone queue) (item : α) :
    ∀ other ∈ gone, other ∉ took →
      ∃ before after, arrived ++ [item] = before ++ other :: after ∧ cap ≤ after.length := by
  intro other hgone htaken
  obtain ⟨before, after, horder, hafter⟩ := h.overrun other hgone htaken
  refine ⟨before, after ++ [item], ?_, ?_⟩
  · rw [horder, List.append_assoc, List.cons_append]
  · rw [List.length_append]
    exact hafter.trans (Nat.le_add_right _ _)

/-- An item arrives, and there is room. -/
theorem History.arrive_room (h : History cap arrived took gone queue) (hroom : queue.length < cap)
    (item : α) : History cap (arrived ++ [item]) took gone (queue ++ [item]) where
  order := by rw [h.order, List.append_assoc]
  bound := by
    rw [List.length_append]
    exact hroom
  sublist := h.sublist
  overrun := h.overrun_arrive item

/-- An item arrives at a full queue. The oldest item has as many after it as the
queue holds: the rest of the queue, and the new item. -/
theorem History.arrive_full (h : History cap arrived took gone (oldest :: rest))
    (hfull : (oldest :: rest).length = cap) (item : α) :
    History cap (arrived ++ [item]) took (gone ++ [oldest]) (rest ++ [item]) where
  order := by
    rw [h.order, List.append_assoc, List.append_assoc]
    rfl
  bound := by
    rw [List.length_append]
    exact hfull.le
  sublist := h.sublist.trans (List.sublist_append_left gone [oldest])
  overrun := by
    intro other hgone htaken
    rcases List.mem_append.mp hgone with hbefore | holdest
    · exact h.overrun_arrive item other hbefore htaken
    · rw [List.mem_singleton.mp holdest]
      refine ⟨gone, rest ++ [item], ?_, ?_⟩
      · rw [h.order, List.append_assoc]
        rfl
      · rw [List.length_append]
        exact hfull.ge

/-- Items are taken. -/
theorem History.take (h : History cap arrived took gone queue) (n : ℕ) :
    History cap arrived (took ++ queue.take n) (gone ++ queue.take n) (queue.drop n) where
  order := by rw [h.order, List.append_assoc, List.take_append_drop]
  bound := by
    rw [List.length_drop]
    exact (Nat.sub_le _ _).trans h.bound
  sublist := h.sublist.append (List.Sublist.refl _)
  overrun := by
    intro other hgone htaken
    obtain ⟨hnot, hnow⟩ := not_or.mp (mt List.mem_append.mpr htaken)
    exact h.overrun other ((List.mem_append.mp hgone).resolve_right hnow) hnot

/-- One access. -/
theorem History.step (hcap : 0 < cap) (h : History cap arrived took gone queue)
    (access : Access α) :
    ∃ gone', History cap (arrived ++ arrivals [access]) (took ++ taken access queue) gone'
      (step cap access queue) := by
  cases access with
  | arrive item =>
    show ∃ gone', History cap (arrived ++ [item]) (took ++ []) gone' (push cap queue item)
    rw [List.append_nil, push]
    split
    next hfull =>
      cases queue with
      | nil => exact absurd hfull hcap.ne
      | cons oldest rest => exact ⟨_, h.arrive_full hfull item⟩
    next hne => exact ⟨_, h.arrive_room (lt_of_le_of_ne h.bound hne) item⟩
  | take n =>
    show ∃ gone', History cap (arrived ++ []) (took ++ queue.take n) gone' (queue.drop n)
    rw [List.append_nil]
    exact ⟨_, h.take n⟩

end

/-- EVERY RUN HAS A HISTORY, whatever is accessed in whatever order. -/
theorem history {cap : ℕ} (hcap : 0 < cap) (accesses : List (Access α)) :
    ∃ gone, History cap (arrivals accesses) (Runs.outputs (step cap) taken accesses []) gone
      (Runs.run (step cap) accesses []) := by
  induction accesses using List.reverseRecOn with
  | nil => exact ⟨[], .start cap⟩
  | append_singleton accesses access ih =>
    obtain ⟨gone, h⟩ := ih
    rw [arrivals, List.filterMap_append, Runs.outputs_concat, Runs.run_concat]
    exact h.step hcap access

/-! ## Numbers -/

def Access.map (f : α → β) : Access α → Access β
  | .arrive item => .arrive (f item)
  | .take n => .take n

/-- The same accesses, each arrival with its number, from `k` on. -/
def number : ℕ → List (Access α) → List (Access (α × ℕ))
  | _, [] => []
  | k, .arrive item :: rest => .arrive (item, k) :: number (k + 1) rest
  | k, .take n :: rest => .take n :: number k rest

theorem map_number (k : ℕ) (accesses : List (Access α)) :
    (number k accesses).map (Access.map Prod.fst) = accesses := by
  fun_induction number k accesses with
  | case1 => rfl
  | case2 k item rest ih => rw [List.map_cons, ih, Access.map]
  | case3 k n rest ih => rw [List.map_cons, ih, Access.map]

theorem arrivals_number (k : ℕ) (accesses : List (Access α)) :
    arrivals (number k accesses) = (arrivals accesses).zipIdx k := by
  fun_induction number k accesses with
  | case1 => rfl
  | case2 k item rest ih => exact congrArg (List.cons (item, k)) ih
  | case3 k n rest ih => exact ih

theorem map_step (f : α → β) (cap : ℕ) (access : Access α) (queue : List α) :
    (step cap access queue).map f = step cap (access.map f) (queue.map f) := by
  cases access with
  | arrive item =>
    show (push cap queue item).map f = push cap (queue.map f) (f item)
    unfold push
    rw [List.length_map, List.map_append, List.map_singleton, apply_ite (List.map f), List.map_tail]
  | take n => exact List.map_drop

theorem map_taken (f : α → β) (access : Access α) (queue : List α) :
    (taken access queue).map f = taken (access.map f) (queue.map f) := by
  cases access with
  | arrive item => rfl
  | take n => exact List.map_take

/-- Numbers change nothing: without them, the queue is the queue. -/
theorem run_number (cap : ℕ) (accesses : List (Access α)) :
    (Runs.run (step cap) (number 0 accesses) []).map Prod.fst =
      Runs.run (step cap) accesses [] := by
  have h : (Runs.run (step cap) (number 0 accesses) []).map Prod.fst =
      Runs.run (step cap) ((number 0 accesses).map (Access.map Prod.fst)) [] :=
    Runs.map_run (step cap) (map_step Prod.fst cap)
  rwa [map_number] at h

theorem outputs_number (cap : ℕ) (accesses : List (Access α)) :
    (Runs.outputs (step cap) taken (number 0 accesses) []).map Prod.fst =
      Runs.outputs (step cap) taken accesses [] := by
  have h : (Runs.outputs (step cap) taken (number 0 accesses) []).map Prod.fst =
      Runs.outputs (step cap) taken ((number 0 accesses).map (Access.map Prod.fst)) [] :=
    Runs.map_outputs_run (step cap) (map_step Prod.fst cap) (map_taken Prod.fst)
  rwa [map_number] at h

/-- Numbers are taken in order, and none twice. -/
theorem History.pairwise_number {cap : ℕ} {arrived : List α} {took gone queue : List (α × ℕ)}
    (h : History cap arrived.zipIdx took gone queue) : (took.map Prod.snd).Pairwise (· < ·) := by
  have hnumbers : (took.map Prod.snd).Sublist (arrived.zipIdx.map Prod.snd) :=
    h.taken_sublist.map Prod.snd
  rw [List.zipIdx_map_snd] at hnumbers
  exact (List.pairwise_lt_range' ..).sublist hnumbers

/-- A numbered item that was overrun has a number that far back. -/
theorem History.overrun_number {cap : ℕ} {arrived : List α} {took gone queue : List (α × ℕ)}
    (h : History cap arrived.zipIdx took gone queue) {entry : α × ℕ} (hgone : entry ∈ gone)
    (htaken : entry ∉ took) : entry.2 + cap < arrived.length := by
  obtain ⟨before, after, horder, hafter⟩ := h.overrun entry hgone htaken
  have hlength : arrived.length = before.length + (after.length + 1) := by
    rw [← List.length_zipIdx (i := 0), horder, List.length_append, List.length_cons]
  have hentry : arrived.zipIdx[before.length]? = some entry := by
    rw [horder, List.getElem?_append_right (le_refl _), Nat.sub_self, List.getElem?_cons_zero]
  rw [List.getElem?_zipIdx] at hentry
  obtain ⟨item, -, rfl⟩ := Option.map_eq_some_iff.mp hentry
  show 0 + before.length + cap < arrived.length
  omega

end Fifo
