import IdealNetwork.Client.Gossip

/-!
# The runner

`RetryableGossipsubRunner` keeps a gossip node going. Every node it builds has a
channel of its own, and a task that forwards what is in it to the channel of the
receiver. Twice a second the runner looks at the receiver's queue. If the node's
task has ended, or the queue has been found empty for more than the timeout, it
aborts the task and builds another node.

A task that is aborted stops where it next waits, and a forwarder empties its
channel after the node is gone, so that several nodes may have their part in what
the receiver gets. All tasks run at once: a run is any order of their steps.

No message is lost or duplicated between a node and the queue, and those of one
node stay in order (`gossip_accounted`). The watchdog looks at the queue and not
at what arrives: it never fires while a pulse lies there (`watchdog`).
-/

set_option autoImplicit false

namespace IdealNetwork.Client.Gossipsub

open Fifo (Access arrivals)

variable {Peer : Type}

/-! ## Tasks and channels -/

/-- The task that runs a node: not there yet, spawned, done with dialling, over. -/
inductive Task (Peer : Type) where
  | absent
  | spawned
  | polling (allowed : AllowedPeerMap Peer)
  | finished

/-- A node's task, and what is in its channel. -/
structure Swarm (Peer : Type) where
  task : Task Peer
  temp : List CanonicalPulse

/-- The nodes by their numbers, the number of the last one, the receiver's channel
and queue, and the time of the watchdog, in nanoseconds. -/
structure Runner (Peer : Type) where
  swarms : ℕ → Swarm Peer
  current : ℕ
  main : List CanonicalPulse
  pulses : List CanonicalPulse
  lastNonempty : ℕ

/-- The reader of messages, the peers to dial, the capacity of the queue and the
timeout in seconds. -/
structure Setup (Peer : Type) where
  decode : Scale.Bytes → Option ProtoPulse
  peers : List (Multiaddr Peer)
  capacity : ℕ
  timeout : ℕ

/-- The first node is built. -/
def Runner.new (now : ℕ) : Runner Peer where
  swarms g := if g = 0 then ⟨.spawned, []⟩ else ⟨.absent, []⟩
  current := 0
  main := []
  pulses := []
  lastNonempty := now

/-- A step of one of the tasks: a node dials its peers, handles an event of its
swarm, or ends; its forwarder takes a pulse; the receiver's task takes one; a
consumer takes some; the runner makes a turn of its loop. The last reads the clock
up to three times: when it has seen the queue, when it compares, and when it has
built another node. -/
inductive Step (Peer : Type) where
  | start (swarm : ℕ) (dial : List (Multiaddr Peer) → Multiaddr Peer → Bool)
  | event (swarm : ℕ) (event : SwarmEvent Peer)
  | stop (swarm : ℕ)
  | forward (swarm : ℕ)
  | receive
  | consume (n : ℕ)
  | watch (seen now rebuilt : ℕ)

def Runner.setSwarm (g : ℕ) (swarm : Swarm Peer) (s : Runner Peer) : Runner Peer :=
  { s with swarms := Function.update s.swarms g swarm }

def Runner.setTask (g : ℕ) (task : Task Peer) (s : Runner Peer) : Runner Peer :=
  s.setSwarm g { s.swarms g with task }

/-- Build another node. -/
def Runner.restart (rebuilt : ℕ) (s : Runner Peer) : Runner Peer :=
  { s.setSwarm (s.current + 1) ⟨.spawned, []⟩ with
    current := s.current + 1
    lastNonempty := rebuilt }

/-- When the queue was last seen with a pulse in it. -/
def Runner.lastSeen (seen : ℕ) (s : Runner Peer) : ℕ :=
  if s.pulses.isEmpty then s.lastNonempty else seen

def Task.isFinished : Task Peer → Bool
  | .finished => true
  | _ => false

section

variable [DecidableEq Peer] (R : Setup Peer)

/-- More than the timeout has gone by. -/
def Setup.silent (seen now : ℕ) (s : Runner Peer) : Bool :=
  R.timeout * 10 ^ 9 < now - s.lastSeen seen

def Step.apply : Step Peer → Runner Peer → Runner Peer
  | .start g dial, s =>
    match (s.swarms g).task with
    | .spawned =>
      match dialPeers dial [] R.peers fun _ => none with
      | .ok allowed => s.setTask g (.polling allowed)
      | .error _ => s.setTask g .finished
    | _ => s
  | .event g e, s =>
    match (s.swarms g).task with
    | .polling allowed =>
      s.setSwarm g
        { s.swarms g with temp := (s.swarms g).temp ++ (handleEvent R.decode allowed e).1 }
    | _ => s
  | .stop g, s =>
    match (s.swarms g).task with
    | .absent => s
    | _ => s.setTask g .finished
  | .forward g, s =>
    match (s.swarms g).temp with
    | pulse :: temp => { s.setSwarm g { s.swarms g with temp } with main := s.main ++ [pulse] }
    | [] => s
  | .receive, s =>
    match s.main with
    | pulse :: main => { s with main, pulses := DrandReceiver.push R.capacity s.pulses pulse }
    | [] => s
  | .consume n, s => { s with pulses := (DrandReceiver.consume n s.pulses).2 }
  | .watch seen now rebuilt, s =>
    if (s.swarms s.current).task.isFinished then s.restart rebuilt
    else if R.silent seen now s then s.restart rebuilt
    else { s with lastNonempty := s.lastSeen seen }

/-! ## What is observed -/

/-- What happens to pulses and to nodes. -/
inductive Trace where
  | accepted (swarm : ℕ) (pulse : CanonicalPulse)
  | forwarded (swarm : ℕ) (pulse : CanonicalPulse)
  | arrived (pulse : CanonicalPulse)
  | consumed (n : ℕ)
  | ended
  | silenced
deriving DecidableEq

def Step.trace : Step Peer → Runner Peer → List Trace
  | .event g e, s =>
    match (s.swarms g).task with
    | .polling allowed => (handleEvent R.decode allowed e).1.map (.accepted g)
    | _ => []
  | .forward g, s => (s.swarms g).temp.head?.toList.map (.forwarded g)
  | .receive, s => s.main.head?.toList.map .arrived
  | .consume n, _ => [.consumed n]
  | .watch seen now _, s =>
    if (s.swarms s.current).task.isFinished then [.ended]
    else if R.silent seen now s then [.silenced]
    else []
  | .start _ _, _ => []
  | .stop _, _ => []

def run (steps : List (Step Peer)) (s : Runner Peer) : Runner Peer :=
  Runs.run (Step.apply R) steps s

def trace (steps : List (Step Peer)) (s : Runner Peer) : List Trace :=
  Runs.outputs (Step.apply R) (Step.trace R) steps s

end

/-- What a node has taken from its peers. -/
def acceptedBy (g : ℕ) (log : List Trace) : List CanonicalPulse :=
  log.filterMap fun
    | .accepted g' pulse => if g' = g then some pulse else none
    | _ => none

/-- What has been forwarded of it. -/
def forwardedBy (g : ℕ) (log : List Trace) : List CanonicalPulse :=
  log.filterMap fun
    | .forwarded g' pulse => if g' = g then some pulse else none
    | _ => none

/-- What has been forwarded in all. -/
def forwarded (log : List Trace) : List CanonicalPulse :=
  log.filterMap fun
    | .forwarded _ pulse => some pulse
    | _ => none

/-- The accesses to the receiver's queue. -/
def accesses (log : List Trace) : List (Access CanonicalPulse) :=
  log.filterMap fun
    | .arrived pulse => some (.arrive pulse)
    | .consumed n => some (.take n)
    | _ => none

/-! ## Accounts -/

section

variable {g : ℕ} {log more : List Trace}

@[simp] theorem acceptedBy_append :
    acceptedBy g (log ++ more) = acceptedBy g log ++ acceptedBy g more :=
  List.filterMap_append

@[simp] theorem forwardedBy_append :
    forwardedBy g (log ++ more) = forwardedBy g log ++ forwardedBy g more :=
  List.filterMap_append

@[simp] theorem forwarded_append : forwarded (log ++ more) = forwarded log ++ forwarded more :=
  List.filterMap_append

@[simp] theorem accesses_append : accesses (log ++ more) = accesses log ++ accesses more :=
  List.filterMap_append

@[simp] theorem arrivals_append {before after : List (Access CanonicalPulse)} :
    arrivals (before ++ after) = arrivals before ++ arrivals after :=
  List.filterMap_append

end

variable {R : Setup Peer} {s : Runner Peer} {log : List Trace}

/-- Every address that was to be dialled names a peer, and no others are allowed. -/
def Setup.Trusts (R : Setup Peer) (allowed : AllowedPeerMap Peer) : Prop :=
  (∀ peer ∈ R.peers, (extractPeerId peer).isSome) ∧
    ∀ id, (allowed id).isSome → id ∈ R.peers.filterMap extractPeerId

/-- Where everything is that was taken from a peer. -/
structure Accounted (R : Setup Peer) (log : List Trace) (s : Runner Peer) : Prop where
  temps : ∀ g, forwardedBy g log ++ (s.swarms g).temp = acceptedBy g log
  main : arrivals (accesses log) ++ s.main = forwarded log
  pulses : s.pulses = Runs.run (DrandReceiver.access R.capacity) (accesses log) []
  absent : ∀ g, s.current < g → s.swarms g = ⟨.absent, []⟩
  trusted : ∀ g allowed, (s.swarms g).task = .polling allowed → R.Trusts allowed

theorem Accounted.new (now : ℕ) : Accounted R [] (Runner.new now) where
  temps g := by
    unfold Runner.new
    dsimp only
    split <;> rfl
  main := rfl
  pulses := rfl
  absent g hg := if_neg (Nat.ne_of_gt hg)
  trusted g allowed htask := by
    unfold Runner.new at htask
    dsimp only at htask
    split at htask <;> cases htask

theorem Accounted.there {g : ℕ} (h : Accounted R log s) (hne : s.swarms g ≠ ⟨.absent, []⟩) :
    g ≤ s.current :=
  Nat.le_of_not_lt fun hlt => hne (h.absent g hlt)

/-- One node moves: what it takes and what is forwarded of it is in its channel or
in the receiver's. -/
theorem Accounted.move {g : ℕ} {swarm : Swarm Peer} {more : List Trace}
    {main : List CanonicalPulse} (h : Accounted R log s)
    (hthere : g ≤ s.current) (htrusts : ∀ allowed, swarm.task = .polling allowed → R.Trusts allowed)
    (hothers : ∀ g', g' ≠ g → acceptedBy g' more = [] ∧ forwardedBy g' more = [])
    (htemp : (s.swarms g).temp ++ acceptedBy g more = forwardedBy g more ++ swarm.temp)
    (hmain : s.main ++ forwarded more = main) (haccesses : accesses more = []) :
    Accounted R (log ++ more) { s.setSwarm g swarm with main } where
  temps g' := by
    rw [acceptedBy_append, forwardedBy_append, ← h.temps g']
    show _ ++ (Function.update s.swarms g swarm g').temp = _
    rw [Function.update_apply]
    split
    next heq => rw [heq, List.append_assoc, List.append_assoc, htemp]
    next hne => rw [(hothers g' hne).1, (hothers g' hne).2, List.append_nil, List.append_nil]
  main := by
    rw [accesses_append, haccesses, List.append_nil, forwarded_append, ← h.main,
      List.append_assoc, hmain]
  pulses := by
    rw [accesses_append, haccesses, List.append_nil]
    exact h.pulses
  absent g' hg' := by
    have hlater : s.current < g' := hg'
    exact (Function.update_of_ne (by omega) _ _).trans (h.absent g' hlater)
  trusted g' allowed htask := by
    have hswarm : (Function.update s.swarms g swarm g').task = .polling allowed := htask
    rw [Function.update_apply] at hswarm
    split at hswarm
    next => exact htrusts allowed hswarm
    next => exact h.trusted g' allowed hswarm

/-- A task that is there goes on to another state. -/
theorem Accounted.setTask {g : ℕ} {task : Task Peer} (h : Accounted R log s)
    (hthere : g ≤ s.current) (htrusts : ∀ allowed, task = .polling allowed → R.Trusts allowed) :
    Accounted R log (s.setTask g task) := by
  have hmoved : Accounted R (log ++ [])
      { s.setSwarm g { s.swarms g with task } with main := s.main } :=
    h.move hthere htrusts (fun _ _ => ⟨rfl, rfl⟩) (List.append_nil _) (List.append_nil _) rfl
  rw [List.append_nil] at hmoved
  exact hmoved

/-- Another node is built. -/
theorem Accounted.restart (h : Accounted R log s) (rebuilt : ℕ) {x : Trace}
    (hx : x = .ended ∨ x = .silenced) : Accounted R (log ++ [x]) (s.restart rebuilt) := by
  have hlog : ∀ g, acceptedBy g (log ++ [x]) = acceptedBy g log ∧
      forwardedBy g (log ++ [x]) = forwardedBy g log := by
    intro g
    rcases hx with rfl | rfl <;> simp [acceptedBy, forwardedBy]
  have hchannel : accesses (log ++ [x]) = accesses log ∧
      forwarded (log ++ [x]) = forwarded log := by
    rcases hx with rfl | rfl <;> simp [accesses, forwarded]
  have hempty : (s.swarms (s.current + 1)).temp = [] := by
    rw [h.absent _ (Nat.lt_succ_self _)]
  refine ⟨fun g => ?_, ?_, ?_, fun g hg => ?_, fun g allowed htask => ?_⟩
  · rw [(hlog g).1, (hlog g).2, ← h.temps g]
    show _ ++ (Function.update s.swarms (s.current + 1) ⟨.spawned, []⟩ g).temp = _
    rw [Function.update_apply]
    split
    next heq => rw [heq, hempty]
    next => rfl
  · rw [hchannel.1, hchannel.2]
    exact h.main
  · rw [hchannel.1]
    exact h.pulses
  · have hlater : s.current + 1 < g := hg
    exact (Function.update_of_ne (Nat.ne_of_gt hlater) _ _).trans (h.absent g (by omega))
  · have hswarm : (Function.update s.swarms (s.current + 1) ⟨.spawned, []⟩ g).task =
      .polling allowed := htask
    rw [Function.update_apply] at hswarm
    split at hswarm
    next => cases hswarm
    next => exact h.trusted g allowed hswarm

/-- An access to the receiver's queue. -/
theorem Accounted.access {x : Trace} {request : Access CanonicalPulse}
    {main : List CanonicalPulse} (h : Accounted R log s)
    (hx : ∀ g, acceptedBy g [x] = [] ∧ forwardedBy g [x] = []) (hforwarded : forwarded [x] = [])
    (haccess : accesses [x] = [request]) (hmain : arrivals [request] ++ main = s.main) :
    Accounted R (log ++ [x])
      { s with main, pulses := DrandReceiver.access R.capacity request s.pulses } where
  temps g := by
    rw [acceptedBy_append, forwardedBy_append, (hx g).1, (hx g).2, List.append_nil,
      List.append_nil]
    exact h.temps g
  main := by
    rw [accesses_append, haccess, arrivals_append, List.append_assoc, hmain, forwarded_append,
      hforwarded, List.append_nil]
    exact h.main
  pulses := by
    rw [accesses_append, haccess, Runs.run_concat, ← h.pulses]
  absent := h.absent
  trusted := h.trusted

theorem acceptedBy_map (g g' : ℕ) (pulses : List CanonicalPulse) :
    acceptedBy g' (pulses.map (.accepted g)) = if g = g' then pulses else [] := by
  unfold acceptedBy
  rw [List.filterMap_map]
  split
  next heq => simp [heq]
  next hne => simp [hne]

theorem Accounted.step [DecidableEq Peer] (h : Accounted R log s) (x : Step Peer) :
    Accounted R (log ++ x.trace R s) (x.apply R s) := by
  cases x with
  | start g dial =>
    rw [Step.trace, List.append_nil, Step.apply]
    split
    next htask =>
      have hthere := h.there fun heq => nomatch (congrArg Swarm.task heq).symm.trans htask
      split
      next allowed hdial =>
        refine h.setTask hthere fun allowed' heq => ?_
        obtain rfl := Task.polling.inj heq
        obtain ⟨hnamed, hallowed⟩ := dialPeers_ok hdial
        exact ⟨hnamed, fun id hid => (hallowed id hid).resolve_left nofun⟩
      next => exact h.setTask hthere nofun
    next => exact h
  | event g e =>
    rw [Step.trace, Step.apply]
    split
    next allowed htask =>
      have hthere := h.there fun heq => nomatch (congrArg Swarm.task heq).symm.trans htask
      refine h.move hthere (fun allowed' htask' => h.trusted g allowed' htask') ?_ ?_ ?_ ?_
      · intro g' hne
        rw [acceptedBy_map, if_neg hne.symm]
        exact ⟨rfl, by simp [forwardedBy]⟩
      · rw [acceptedBy_map, if_pos rfl]
        simp [forwardedBy]
      · simp [forwarded]
      · simp [accesses]
    next => rwa [List.append_nil]
  | stop g =>
    rw [Step.trace, List.append_nil, Step.apply]
    split
    next => exact h
    next hne => exact h.setTask (h.there fun heq => hne (congrArg Swarm.task heq)) nofun
  | forward g =>
    rw [Step.trace, Step.apply]
    split
    next pulse temp htemp =>
      have hthere := h.there fun heq => nomatch (congrArg Swarm.temp heq).symm.trans htemp
      rw [htemp]
      refine h.move hthere (fun allowed htask => h.trusted g allowed htask) ?_ ?_ rfl rfl
      · intro g' hne
        exact ⟨rfl, by simp [forwardedBy, hne.symm]⟩
      · simp [htemp, acceptedBy, forwardedBy]
    next htemp =>
      rw [htemp]
      exact (List.append_nil log).symm ▸ h
  | receive =>
    rw [Step.trace, Step.apply]
    split
    next pulse main hmain =>
      rw [hmain]
      have hread : Accounted R (log ++ [.arrived pulse])
          { s with main, pulses := DrandReceiver.access R.capacity (.arrive pulse) s.pulses } :=
        h.access (fun _ => ⟨rfl, rfl⟩) rfl rfl hmain.symm
      exact hread
    next hmain =>
      rw [hmain]
      exact (List.append_nil log).symm ▸ h
  | consume n =>
    have hread : Accounted R (log ++ [.consumed n])
        { s with pulses := DrandReceiver.access R.capacity (.take n) s.pulses } :=
      h.access (fun _ => ⟨rfl, rfl⟩) rfl rfl rfl
    exact hread
  | watch seen now rebuilt =>
    rw [Step.trace, Step.apply]
    split
    next => exact h.restart rebuilt (Or.inl rfl)
    next =>
      split
      next => exact h.restart rebuilt (Or.inr rfl)
      next =>
        rw [List.append_nil]
        exact ⟨h.temps, h.main, h.pulses, h.absent, h.trusted⟩

/-- What is taken from a peer was in a message of one that is allowed. -/
theorem Step.accepted_of_mem [DecidableEq Peer] {x : Step Peer} {g : ℕ} {pulse : CanonicalPulse}
    (h : .accepted g pulse ∈ x.trace R s) :
    ∃ allowed source data, (s.swarms g).task = .polling allowed ∧
      x = .event g (.message source data) ∧ (allowed source).isSome ∧
      tryHandlePulse R.decode data = (.ok pulse : Except (Error Peer) CanonicalPulse) := by
  cases x with
  | event g' e =>
    rw [Step.trace] at h
    split at h
    next allowed htask =>
      obtain ⟨pulse', hmem, heq⟩ := List.mem_map.mp h
      obtain ⟨rfl, rfl⟩ := Trace.accepted.inj heq
      obtain ⟨source, data, rfl, hsource, hpulse⟩ := mem_handleEvent hmem
      exact ⟨allowed, source, data, htask, rfl, hsource, hpulse⟩
    next => cases h
  | forward g' =>
    obtain ⟨_, _, heq⟩ := List.mem_map.mp h
    cases heq
  | receive =>
    obtain ⟨_, _, heq⟩ := List.mem_map.mp h
    cases heq
  | consume n => cases List.mem_singleton.mp h
  | watch seen now rebuilt =>
    rw [Step.trace] at h
    split at h
    next => cases List.mem_singleton.mp h
    next =>
      split at h
      next => cases List.mem_singleton.mp h
      next => cases h
  | start g' dial => cases h
  | stop g' => cases h

theorem mem_acceptedBy {g : ℕ} {pulse : CanonicalPulse} :
    pulse ∈ acceptedBy g log ↔ .accepted g pulse ∈ log := by
  unfold acceptedBy
  rw [List.mem_filterMap]
  constructor
  · rintro ⟨entry, hmem, hentry⟩
    split at hentry
    next g' pulse' =>
      split at hentry
      next heq =>
        cases hentry
        exact heq ▸ hmem
      next => cases hentry
    next => cases hentry
  · intro hmem
    exact ⟨_, hmem, if_pos rfl⟩

/-- A node has had the pulse in a message of one of the peers, all of whose
addresses name them. -/
def Setup.Heard (R : Setup Peer) (steps : List (Step Peer)) (g : ℕ) (pulse : CanonicalPulse) :
    Prop :=
  (∀ peer ∈ R.peers, (extractPeerId peer).isSome) ∧
    ∃ source data, .event g (.message source data) ∈ steps ∧
      source ∈ R.peers.filterMap extractPeerId ∧
      tryHandlePulse R.decode data = (.ok pulse : Except (Error Peer) CanonicalPulse)

/-- GOSSIP IS ACCOUNTED FOR, whatever the tasks' order and however often nodes are
built. What a node takes from its peers is forwarded, in order, or still in its
channel. What is forwarded arrives at the queue, in order, or is still in the
receiver's channel. The queue is what these arrivals and its consumers make of it.
Nothing is taken but pulses read from messages of the peers the runner was given,
and nothing at all if one of their addresses names no peer. -/
theorem gossip_accounted [DecidableEq Peer] (R : Setup Peer) (now : ℕ)
    (steps : List (Step Peer)) :
    let s := run R steps (Runner.new now)
    let log := trace R steps (Runner.new now)
    (∀ g, forwardedBy g log ++ (s.swarms g).temp = acceptedBy g log) ∧
      arrivals (accesses log) ++ s.main = forwarded log ∧
      s.pulses = Runs.run (DrandReceiver.access R.capacity) (accesses log) [] ∧
      ∀ g, ∀ pulse ∈ acceptedBy g log, R.Heard steps g pulse := by
  intro s log
  have hrun : Accounted R log s ∧
      ∀ g pulse, .accepted g pulse ∈ log → R.Heard steps g pulse := by
    refine Runs.run_invariant_outputs (Step.apply R) (Q := fun (log : List Trace) u =>
      Accounted R log u ∧ ∀ g pulse, .accepted g pulse ∈ log → R.Heard steps g pulse)
      [] ⟨.new now, nofun⟩ ?_
    rintro x hx log u ⟨haccounted, hheard⟩
    refine ⟨haccounted.step x, fun g pulse hmem => ?_⟩
    rcases List.mem_append.mp hmem with hbefore | hnow
    · exact hheard g pulse hbefore
    · obtain ⟨allowed, source, data, htask, rfl, hsource, hpulse⟩ := Step.accepted_of_mem hnow
      obtain ⟨hnamed, hallowed⟩ := haccounted.trusted g allowed htask
      exact ⟨hnamed, source, data, hx, hallowed source hsource, hpulse⟩
  exact ⟨hrun.1.temps, hrun.1.main, hrun.1.pulses,
    fun g pulse hpulse => hrun.2 g pulse (mem_acceptedBy.mp hpulse)⟩

/-! ## The watchdog -/

/-- The clock does not go back. -/
def Timely : Step Peer → Runner Peer → Prop
  | .watch seen now rebuilt, s => s.lastNonempty ≤ seen ∧ seen ≤ now ∧ now ≤ rebuilt
  | _, _ => True

/-- Nobody consumes, and a turn of the loop takes no longer than the timeout. -/
def Unattended (R : Setup Peer) : Step Peer → Runner Peer → Prop
  | .consume _, _ => False
  | .watch seen now _, _ => now ≤ seen + R.timeout * 10 ^ 9
  | _, _ => True

/-- Every turn finds the queue empty. -/
def Deserted : Step Peer → Runner Peer → Prop
  | .watch _ _ _, s => s.pulses = []
  | _, _ => True

/-- How often a node was given up because the queue was empty. -/
def silences (log : List Trace) : ℕ := log.count .silenced

@[simp] theorem silences_append {more : List Trace} :
    silences (log ++ more) = silences log + silences more :=
  List.count_append

theorem lastSeen_of_empty {seen : ℕ} (h : s.pulses = []) : s.lastSeen seen = s.lastNonempty :=
  if_pos (List.isEmpty_iff.mpr h)

theorem lastSeen_of_nonempty {seen : ℕ} (h : s.pulses ≠ []) : s.lastSeen seen = seen :=
  if_neg (by rwa [List.isEmpty_iff])

theorem lastNonempty_le_lastSeen {seen : ℕ} (h : s.lastNonempty ≤ seen) :
    s.lastNonempty ≤ s.lastSeen seen := by
  unfold Runner.lastSeen
  split
  next => exact le_rfl
  next => exact h

section

variable [DecidableEq Peer]

/-- A step that is not a turn of the loop leaves its time alone and gives up no
node. -/
theorem Step.watch_or_elsewhere (x : Step Peer) (R : Setup Peer) (s : Runner Peer) :
    (∃ seen now rebuilt, x = .watch seen now rebuilt) ∨
      ((x.apply R s).lastNonempty = s.lastNonempty ∧ (x.apply R s).current = s.current ∧
        silences (x.trace R s) = 0) := by
  cases x with
  | start g dial =>
    right
    rw [Step.apply, Step.trace]
    split
    next => split <;> exact ⟨rfl, rfl, rfl⟩
    next => exact ⟨rfl, rfl, rfl⟩
  | event g e =>
    right
    rw [Step.apply, Step.trace]
    split
    next => exact ⟨rfl, rfl, by simp [silences, List.count_eq_zero]⟩
    next => exact ⟨rfl, rfl, rfl⟩
  | stop g =>
    right
    rw [Step.apply, Step.trace]
    split <;> exact ⟨rfl, rfl, rfl⟩
  | forward g =>
    right
    rw [Step.apply, Step.trace]
    split <;> exact ⟨rfl, rfl, by simp [silences, List.count_eq_zero]⟩
  | receive =>
    right
    rw [Step.apply, Step.trace]
    split <;> exact ⟨rfl, rfl, by simp [silences, List.count_eq_zero]⟩
  | consume n => exact Or.inr ⟨rfl, rfl, rfl⟩
  | watch seen now rebuilt => exact Or.inl ⟨seen, now, rebuilt, rfl⟩

/-- A turn of the loop. -/
inductive Turn (R : Setup Peer) (seen now rebuilt : ℕ) (s : Runner Peer) :
    List Trace → Runner Peer → Prop
  | ended : Turn R seen now rebuilt s [.ended] (s.restart rebuilt)
  | silenced (silent : R.timeout * 10 ^ 9 < now - s.lastSeen seen) :
      Turn R seen now rebuilt s [.silenced] (s.restart rebuilt)
  | kept (heard : now - s.lastSeen seen ≤ R.timeout * 10 ^ 9) :
      Turn R seen now rebuilt s [] { s with lastNonempty := s.lastSeen seen }

theorem Step.turn (R : Setup Peer) (seen now rebuilt : ℕ) (s : Runner Peer) :
    ∃ more t, (Step.watch seen now rebuilt).trace R s = more ∧
      (Step.watch seen now rebuilt).apply R s = t ∧ Turn R seen now rebuilt s more t := by
  refine ⟨_, _, rfl, rfl, ?_⟩
  rw [Step.trace, Step.apply]
  split
  next => exact .ended
  next =>
    split
    next hsilent => exact .silenced (of_decide_eq_true hsilent)
    next hheard => exact .kept (Nat.le_of_not_lt fun h => hheard (decide_eq_true h))

/-- The loop's time moves past the timeout whenever a node is given up. -/
theorem Step.paced {x : Step Peer} (hx : Timely x s) :
    s.lastNonempty + silences (x.trace R s) * (R.timeout * 10 ^ 9 + 1) ≤
      (x.apply R s).lastNonempty := by
  rcases x.watch_or_elsewhere R s with ⟨seen, now, rebuilt, rfl⟩ | ⟨htime, _, hnone⟩
  · obtain ⟨hseen, hnow, hrebuilt⟩ := hx
    have hlast := lastNonempty_le_lastSeen hseen
    obtain ⟨more, t, hmore, ht, hturn⟩ := Step.turn R seen now rebuilt s
    rw [hmore, ht]
    cases hturn with
    | ended =>
      show s.lastNonempty + 0 * _ ≤ rebuilt
      omega
    | silenced silent =>
      show s.lastNonempty + 1 * _ ≤ rebuilt
      omega
    | kept heard =>
      show s.lastNonempty + 0 * _ ≤ s.lastSeen seen
      omega
  · rw [htime, hnone, Nat.zero_mul, Nat.add_zero]

/-- While nobody consumes, a queue with a pulse in it keeps one, and no node is
given up. -/
theorem Step.unattended {x : Step Peer} (hx : Unattended R x s) (h : s.pulses ≠ []) :
    (x.apply R s).pulses ≠ [] ∧ silences (x.trace R s) = 0 := by
  rcases x.watch_or_elsewhere R s with ⟨seen, now, rebuilt, rfl⟩ | ⟨_, _, hnone⟩
  · have hquick : now ≤ seen + R.timeout * 10 ^ 9 := hx
    have hseen : s.lastSeen seen = seen := lastSeen_of_nonempty h
    obtain ⟨more, t, hmore, ht, hturn⟩ := Step.turn R seen now rebuilt s
    rw [hmore, ht]
    cases hturn with
    | ended => exact ⟨h, rfl⟩
    | silenced silent => omega
    | kept heard => exact ⟨h, rfl⟩
  · refine ⟨?_, hnone⟩
    cases x with
    | consume n => exact hx.elim
    | start g dial =>
      rw [Step.apply]
      split
      next => split <;> exact h
      next => exact h
    | receive =>
      rw [Step.apply]
      split
      next => exact List.append_ne_nil_of_right_ne_nil _ (List.cons_ne_nil _ _)
      next => exact h
    | watch seen now rebuilt =>
      rw [Step.apply]
      split
      next => exact h
      next => split <;> exact h
    | _ =>
      rw [Step.apply]
      split <;> exact h

/-- While every turn finds the queue empty, the time of a node that is kept does
not move. -/
theorem Step.deserted {x : Step Peer} (hx : Deserted x s) :
    s.current < (x.apply R s).current ∨
      (x.apply R s).current = s.current ∧ (x.apply R s).lastNonempty = s.lastNonempty := by
  rcases x.watch_or_elsewhere R s with ⟨seen, now, rebuilt, rfl⟩ | ⟨htime, hcurrent, _⟩
  · have hempty : s.pulses = [] := hx
    have hseen : s.lastSeen seen = s.lastNonempty := lastSeen_of_empty hempty
    obtain ⟨more, t, _, ht, hturn⟩ := Step.turn R seen now rebuilt s
    rw [ht]
    cases hturn with
    | ended => exact Or.inl (Nat.lt_succ_self _)
    | silenced silent => exact Or.inl (Nat.lt_succ_self _)
    | kept heard => exact Or.inr ⟨rfl, hseen⟩
  · exact Or.inr ⟨hcurrent, htime⟩

theorem deserted_run {steps : List (Step Peer)}
    (h : Runs.Along (Step.apply R) Deserted steps s) :
    s.current < (Runs.run (Step.apply R) steps s).current ∨
      (Runs.run (Step.apply R) steps s).current = s.current ∧
        (Runs.run (Step.apply R) steps s).lastNonempty = s.lastNonempty := by
  refine Runs.run_invariant_along (Step.apply R) (P := fun u => s.current < u.current ∨
    u.current = s.current ∧ u.lastNonempty = s.lastNonempty) (Or.inr ⟨rfl, rfl⟩) h ?_
  rintro x _ u hx hu
  rcases Step.deserted (R := R) hx with hlater | ⟨hcurrent, htime⟩
  · refine Or.inl (lt_of_le_of_lt ?_ hlater)
    rcases hu with hgone | ⟨hsame, -⟩
    · exact hgone.le
    · exact hsame.ge
  · rw [hcurrent, htime]
    exact hu

/-- A turn after the timeout that finds the queue empty builds another node. -/
theorem Step.gives_up {seen now rebuilt : ℕ} (hempty : s.pulses = [])
    (hlate : s.lastNonempty + R.timeout * 10 ^ 9 < now) :
    s.current < ((Step.watch seen now rebuilt).apply R s).current := by
  have hseen : s.lastSeen seen = s.lastNonempty := lastSeen_of_empty hempty
  obtain ⟨more, t, _, ht, hturn⟩ := Step.turn R seen now rebuilt s
  rw [ht]
  cases hturn with
  | ended => exact Nat.lt_succ_self _
  | silenced silent => exact Nat.lt_succ_self _
  | kept heard => omega

/-- THE WATCHDOG LOOKS AT THE QUEUE. Nodes are given up no faster than one in a
timeout. While nobody consumes, a pulse in the queue keeps the node that is there,
whether messages come or not. If every turn finds the queue empty, a node does not
outlive the first turn after the timeout. -/
theorem watchdog (R : Setup Peer) (steps : List (Step Peer)) (s : Runner Peer) :
    (Runs.Along (Step.apply R) Timely steps s →
      s.lastNonempty + silences (trace R steps s) * (R.timeout * 10 ^ 9 + 1) ≤
        (run R steps s).lastNonempty) ∧
    (s.pulses ≠ [] → Runs.Along (Step.apply R) (Unattended R) steps s →
      silences (trace R steps s) = 0) ∧
    (∀ before seen now rebuilt, steps = before ++ [.watch seen now rebuilt] →
      Runs.Along (Step.apply R) Deserted steps s → s.lastNonempty + R.timeout * 10 ^ 9 < now →
      s.current < (run R steps s).current) := by
  refine ⟨fun htimely => ?_, fun hpulses hunattended => ?_, ?_⟩
  · refine Runs.run_invariant_history (Step.apply R) (Q := fun past u => s.lastNonempty +
      silences (trace R past s) * (R.timeout * 10 ^ 9 + 1) ≤ u.lastNonempty) ?_ htimely ?_
    · show s.lastNonempty + 0 * _ ≤ s.lastNonempty
      omega
    · intro past x _ hx hpast
      have hpaced := Step.paced (R := R) hx
      rw [trace, Runs.outputs_concat, silences_append, Nat.add_mul, ← Nat.add_assoc]
      exact (Nat.add_le_add_right hpast _).trans hpaced
  · suffices h : (run R steps s).pulses ≠ [] ∧ silences (trace R steps s) = 0 from h.2
    refine Runs.run_invariant_history (Step.apply R) (Q := fun past u =>
      u.pulses ≠ [] ∧ silences (trace R past s) = 0) ⟨hpulses, rfl⟩ hunattended ?_
    rintro past x _ hx ⟨hpast, hnone⟩
    obtain ⟨hnext, hnow⟩ := Step.unattended hx hpast
    refine ⟨hnext, ?_⟩
    rw [trace, Runs.outputs_concat, silences_append]
    exact Nat.add_eq_zero_iff.mpr ⟨hnone, hnow⟩
  · rintro before seen now rebuilt rfl hdeserted hlate
    obtain ⟨hbefore, hlast, -⟩ := (Runs.along_append _).mp hdeserted
    rw [run, Runs.run_concat]
    rcases deserted_run hbefore with hgone | ⟨hsame, htime⟩
    · rcases Step.deserted (R := R) hlast with hlater | ⟨hkept, -⟩
      · exact hgone.trans hlater
      · exact hgone.trans_eq hkept.symm
    · exact hsame.symm.trans_lt (Step.gives_up hlast (by rwa [htime]))

end

/-! A runner that hears nothing turns twice, the second time after its timeout. -/

def quietSetup : Setup ℕ := ⟨fun _ => none, [], 4, 12⟩

def quietTurns : List (Step ℕ) :=
  [.watch 6000000000 6000000001 6000000002, .watch 13000000000 13000000001 13000000002]

/-- One pulse was left in its queue. -/
def quietLeftover : Runner ℕ := { Runner.new 0 with pulses := [⟨1, Vector.replicate 48 0⟩] }

/-- The empty queue costs the node, the pulse left in the queue keeps it. -/
theorem watchdog_quietTurns :
    silences (trace quietSetup quietTurns (Runner.new 0)) = 1 ∧
      0 + 1 * (12 * 10 ^ 9 + 1) ≤ (run quietSetup quietTurns (Runner.new 0)).lastNonempty ∧
      0 < (run quietSetup quietTurns (Runner.new 0)).current ∧
      silences (trace quietSetup quietTurns quietLeftover) = 0 := by
  have honce : silences (trace quietSetup quietTurns (Runner.new 0)) = 1 := by decide
  obtain ⟨hpace, -, hfires⟩ := watchdog quietSetup quietTurns (Runner.new 0)
  obtain ⟨-, hblind, -⟩ := watchdog quietSetup quietTurns quietLeftover
  refine ⟨honce, ?_, ?_, ?_⟩
  · rw [← honce]
    exact hpace ⟨⟨by decide, by decide, by decide⟩, ⟨by decide, by decide, by decide⟩, trivial⟩
  · exact hfires [.watch 6000000000 6000000001 6000000002] _ _ _ rfl ⟨rfl, rfl, trivial⟩ (by decide)
  · have hfirst : 6000000001 ≤ 6000000000 + quietSetup.timeout * 10 ^ 9 := by decide
    have hsecond : 13000000001 ≤ 13000000000 + quietSetup.timeout * 10 ^ 9 := by decide
    exact hblind (List.cons_ne_nil _ _) ⟨hfirst, hsecond, trivial⟩

end IdealNetwork.Client.Gossipsub
