import IdealNetwork.Client.Worker
import IdealNetwork.Lib.Runs

/-!
# The pulse finalization gadget

The collator's background task. Pulses that come in over gossip wait in a
bounded queue. On every finality notification the gadget takes some of them,
keeps the latest one that is not yet ingested, submits it, and moves its
counter past it.

The gadget is generic in its submitter, as it is in the source: what a
submission does to the submitter, and what it returns, is part of the
notification. It holds a lock while it handles a notification, and touches the
queue once, so pulses that come in meanwhile are as good as in before or
after.
-/

set_option autoImplicit false

namespace IdealNetwork.Client

open Scale Storage Crypto

/-! ## Receiving pulses -/

/-- A pulse as it is decoded from a gossip message. -/
structure ProtoPulse where
  round : UInt64
  signature : Bytes

structure CanonicalPulse where
  round : RoundNumber
  signature : OpaqueSignature
deriving DecidableEq

/-- `ProtoPulse::try_into`: the signature has 48 bytes. Nothing is said about
the round. -/
def ProtoPulse.tryInto (pulse : ProtoPulse) : Option CanonicalPulse :=
  (tryIntoArray 48 pulse.signature).map fun signature => ⟨pulse.round, signature⟩

/-- The loop of `DrandReceiver::new`, on one pulse. -/
def DrandReceiver.push (N : ℕ) (pulses : List CanonicalPulse) (pulse : CanonicalPulse) :
    List CanonicalPulse :=
  (if pulses.length = N then pulses.tail else pulses) ++ [pulse]

/-- `DrandReceiver::consume`: the pulses taken, and those left. -/
def DrandReceiver.consume : ℕ → List CanonicalPulse → List CanonicalPulse × List CanonicalPulse
  | 0, pulses => ([], pulses)
  | n + 1, [] => consume n []
  | n + 1, pulse :: pulses =>
    let (pulsesOut, left) := consume n pulses
    (pulse :: pulsesOut, left)

theorem DrandReceiver.consume_eq (n : ℕ) (pulses : List CanonicalPulse) :
    consume n pulses = (pulses.take n, pulses.drop n) := by
  induction n generalizing pulses with
  | zero => rfl
  | succ n ih =>
    cases pulses with
    | nil => rw [consume, ih, List.take_nil, List.take_nil, List.drop_nil, List.drop_nil]
    | cons pulse pulses => simp only [consume, ih, List.take_succ_cons, List.drop_succ_cons]

/-! ## The gadget -/

/-- How handling a notification ends early: with an error, which is logged,
or in a panic, which brings down the node. -/
inductive Fault where
  | error (e : GadgetError)
  | panicked (message : String)
deriving DecidableEq, Repr

/-- A range of rounds a submission was made for. -/
structure Rounds where
  start : RoundNumber
  «end» : RoundNumber
deriving DecidableEq

/-- The queue of the receiver, the counter, the submitter, and whether the
task still runs. The gadget does not keep the last field: it is the record of
the calls of `submit_pulse` that returned `Ok`, in order, after each of which
the counter is set. -/
structure Gadget (σ : Type) where
  pulses : List CanonicalPulse
  nextRound : RoundNumber
  submitter : σ
  running : Bool
  done : List Rounds

/-- `PulseFinalizationGadget::new`. -/
def Gadget.new {σ : Type} (submitter : σ) : Gadget σ := ⟨[], 0, submitter, true, []⟩

/-- What the gadget finds when it handles a notification: the best block, the
runtime's API, and its submitter. -/
structure Notification (σ Hash : Type) where
  bestHash : Hash
  /-- `runtime_api().next_round`. -/
  nextRound : Hash → Except String RoundNumber
  /-- `runtime_api().max_rounds`. -/
  maxRounds : Hash → Except String UInt8
  submitPulse : Bytes → RoundNumber → RoundNumber → Action GadgetError σ Hash

/-- What comes in from outside. -/
inductive Input (Notification : Type) where
  | gossip (pulse : ProtoPulse)
  | finality (notification : Notification)

section

variable {σ Hash G₁ G₂ Gt : Type} [AddCommGroup G₁] (E : Engine G₁ G₂ Gt)

/-- Take pulses from the queue. -/
def consume (n : ℕ) : Action Fault (Gadget σ) (List CanonicalPulse) := fun g =>
  let (pulsesOut, left) := DrandReceiver.consume n g.pulses
  (.ok pulsesOut, { g with pulses := left })

/-- Call the submitter. -/
def submitted (call : Action GadgetError σ Hash) : Action Fault (Gadget σ) Hash := fun g =>
  match call g.submitter with
  | (.ok hash, submitter) => (.ok hash, { g with submitter })
  | (.error e, submitter) => (.error (.error e), { g with submitter })

/-- The bytes of the sum of the signatures that decode. -/
def aggregate (pulses : List CanonicalPulse) : Option Bytes :=
  E.serializeCompressed
    ((pulses.filterMap fun pulse => E.deserializeG1 pulse.signature.toList).foldl (· + ·) zeroOnG1)

/-- The round the gadget filters by: what the runtime says, or what the gadget
remembers if that is more. -/
def Notification.firstRound (n : Notification σ Hash) (localRound : RoundNumber) : RoundNumber :=
  max ((n.nextRound n.bestHash).toOption.getD 0) localRound

/-- The end of `handle_finality_notification`: submit the new pulses, which
come latest first, and set the counter. -/
def submitNewPulses (n : Notification σ Hash) (newPulses : List CanonicalPulse) :
    Action Fault (Gadget σ) Unit :=
  match newPulses.getLast?, newPulses.head? with
  | some first, some last => do
    let start := first.round
    let «end» := last.round
    let asigBytes ← .okOr (aggregate E newPulses) (.panicked "The signature is well formatted. qed.")
    let _ ← submitted (n.submitPulse asigBytes start «end»)
    .modify fun g => { g with nextRound := «end» + 1, done := g.done ++ [⟨start, «end»⟩] }
  | _, _ => pure ()

/-- `handle_finality_notification`. -/
def handleFinalityNotification (n : Notification σ Hash) : Action Fault (Gadget σ) Unit := do
  let g ← .get
  let nextRound := n.firstRound g.nextRound
  let maxRounds ← .ofExcept
    ((n.maxRounds n.bestHash).mapError fun _ => .panicked "The max rounds is defined. qed.")
  let pulses ← consume maxRounds.toNat
  -- the latest pulse only
  submitNewPulses E n ((pulses.filter fun p => decide (nextRound ≤ p.round)).reverse.take 1)

/-- A gossip message. One that does not convert is dropped. -/
def onGossip (N : ℕ) (pulse : ProtoPulse) (g : Gadget σ) : Gadget σ :=
  match pulse.tryInto with
  | some canonical => { g with pulses := DrandReceiver.push N g.pulses canonical }
  | none => g

/-- The body of the loop in `run`: an error is logged, and a panic ends the
task, which is an essential one. -/
def onFinality (n : Notification σ Hash) (g : Gadget σ) : Gadget σ :=
  if g.running = true then
    match handleFinalityNotification E n g with
    | (.error (.panicked _), g') => { g' with running := false }
    | (_, g') => g'
  else g

/-- One input. -/
def step (N : ℕ) : Input (Notification σ Hash) → Gadget σ → Gadget σ
  | .gossip pulse, g => onGossip N pulse g
  | .finality n, g => onFinality E n g

end

/-! ## What one input can do -/

section

variable {σ Hash G₁ G₂ Gt : Type} [AddCommGroup G₁] {E : Engine G₁ G₂ Gt}
variable {n : Notification σ Hash} {g : Gadget σ}

/-- The pulses a notification takes from the queue. -/
def Notification.taken (n : Notification σ Hash) (g : Gadget σ) : List CanonicalPulse :=
  match n.maxRounds n.bestHash with
  | .ok maxRounds => g.pulses.take maxRounds.toNat
  | .error _ => []

/-- The pulse of a notification: the last one it takes whose round has come. -/
def Notification.latest (n : Notification σ Hash) (g : Gadget σ) : Option CanonicalPulse :=
  ((n.taken g).filter fun p => decide (n.firstRound g.nextRound ≤ p.round)).getLast?

/-- What one notification does to the submitter, the counter and the record.
With no new pulse, or in a panic before the submission, nothing. -/
inductive Handled (E : Engine G₁ G₂ Gt) (n : Notification σ Hash) (g g' : Gadget σ) : Prop
  | idle (quiet : g.running = false ∨ n.latest g = none ∨ ∃ p, aggregate E [p] = none)
      (submitter : g'.submitter = g.submitter) (nextRound : g'.nextRound = g.nextRound)
      (done : g'.done = g.done)
  | failed (pulse : CanonicalPulse) (asig : Bytes) (e : GadgetError) (running : g.running = true)
      (latest : n.latest g = some pulse)
      (call : n.submitPulse asig pulse.round pulse.round g.submitter = (.error e, g'.submitter))
      (nextRound : g'.nextRound = g.nextRound) (done : g'.done = g.done)
  | submitted (pulse : CanonicalPulse) (asig : Bytes) (hash : Hash) (running : g.running = true)
      (latest : n.latest g = some pulse)
      (call : n.submitPulse asig pulse.round pulse.round g.submitter = (.ok hash, g'.submitter))
      (nextRound : g'.nextRound = pulse.round + 1)
      (done : g'.done = g.done ++ [⟨pulse.round, pulse.round⟩])

/-- The handler submits the pulse of the notification, if there is one. -/
theorem handle_latest {maxRounds : UInt8} (h : n.maxRounds n.bestHash = .ok maxRounds) :
    handleFinalityNotification E n g = submitNewPulses E n (n.latest g).toList
      { g with pulses := g.pulses.drop maxRounds.toNat } := by
  have hlatest : ((g.pulses.take maxRounds.toNat).filter fun p =>
      decide (n.firstRound g.nextRound ≤ p.round)).reverse.take 1 = (n.latest g).toList := by
    rw [List.take_one, List.head?_reverse, Notification.latest, Notification.taken, h]
  have hconsume : consume maxRounds.toNat g =
      (.ok (g.pulses.take maxRounds.toNat), { g with pulses := g.pulses.drop maxRounds.toNat }) := by
    rw [consume, DrandReceiver.consume_eq]
  unfold handleFinalityNotification
  refine (Action.bind_of_ok rfl).trans ?_
  rw [h]
  refine (Action.bind_of_ok rfl).trans ((Action.bind_of_ok hconsume).trans ?_)
  rw [hlatest]

section

variable {pulse : CanonicalPulse} {asig : Bytes} {submitter : σ}

/-- A sum that cannot be written brings down the node. -/
theorem submitNewPulses_of_unwritten (h : aggregate E [pulse] = none) :
    submitNewPulses E n [pulse] g =
      (.error (.panicked "The signature is well formatted. qed."), g) := by
  simp only [submitNewPulses, List.getLast?_singleton, List.head?_cons, h]
  rfl

theorem submitNewPulses_of_error {e : GadgetError} (h : aggregate E [pulse] = some asig)
    (hcall : n.submitPulse asig pulse.round pulse.round g.submitter = (.error e, submitter)) :
    submitNewPulses E n [pulse] g = (.error (.error e), { g with submitter }) := by
  have hsubmitted : submitted (n.submitPulse asig pulse.round pulse.round) g =
      (.error (.error e), { g with submitter }) := by
    rw [submitted, hcall]
  simp only [submitNewPulses, List.getLast?_singleton, List.head?_cons, h]
  exact (Action.bind_of_ok rfl).trans (Action.bind_of_error hsubmitted)

theorem submitNewPulses_of_ok {hash : Hash} (h : aggregate E [pulse] = some asig)
    (hcall : n.submitPulse asig pulse.round pulse.round g.submitter = (.ok hash, submitter)) :
    submitNewPulses E n [pulse] g =
      (.ok (), { g with
        submitter
        nextRound := pulse.round + 1
        done := g.done ++ [⟨pulse.round, pulse.round⟩] }) := by
  have hsubmitted : submitted (n.submitPulse asig pulse.round pulse.round) g =
      (.ok hash, { g with submitter }) := by
    rw [submitted, hcall]
  simp only [submitNewPulses, List.getLast?_singleton, List.head?_cons, h]
  exact (Action.bind_of_ok rfl).trans (Action.bind_of_ok hsubmitted)

end

/-- Without an answer on the number of rounds the node goes down. -/
theorem handle_of_maxRounds_error {message : String} (h : n.maxRounds n.bestHash = .error message) :
    handleFinalityNotification E n g =
      (.error (.panicked "The max rounds is defined. qed."), g) := by
  unfold handleFinalityNotification
  refine (Action.bind_of_ok rfl).trans ?_
  rw [h]
  rfl

/-- Every notification does one of three things. -/
theorem onFinality_handled (n : Notification σ Hash) (g : Gadget σ) :
    Handled E n g (onFinality E n g) := by
  unfold onFinality
  split
  next hrunning =>
    cases hmax : n.maxRounds n.bestHash with
    | error message =>
      have hlatest : n.latest g = none := by
        rw [Notification.latest, Notification.taken, hmax]
        rfl
      rw [handle_of_maxRounds_error hmax]
      exact .idle (Or.inr (Or.inl hlatest)) rfl rfl rfl
    | ok maxRounds =>
      rw [handle_latest hmax]
      cases hlatest : n.latest g with
      | none => exact .idle (Or.inr (Or.inl hlatest)) rfl rfl rfl
      | some pulse =>
        rw [Option.toList_some]
        cases hasig : aggregate E [pulse] with
        | none =>
          rw [submitNewPulses_of_unwritten hasig]
          exact .idle (Or.inr (Or.inr ⟨pulse, hasig⟩)) rfl rfl rfl
        | some asig =>
          cases hcall : n.submitPulse asig pulse.round pulse.round g.submitter with
          | mk result submitter =>
            cases result with
            | error e =>
              rw [submitNewPulses_of_error
                (g := { g with pulses := g.pulses.drop maxRounds.toNat }) hasig hcall]
              exact .failed pulse asig e hrunning hlatest hcall rfl rfl
            | ok hash =>
              rw [submitNewPulses_of_ok
                (g := { g with pulses := g.pulses.drop maxRounds.toNat }) hasig hcall]
              exact .submitted pulse asig hash hrunning hlatest hcall rfl rfl
  next hrunning => exact .idle (Or.inl (Bool.eq_false_of_not_eq_true hrunning)) rfl rfl rfl

/-- A gossip message only reaches the queue. -/
theorem onGossip_eq (N : ℕ) (pulse : ProtoPulse) (g : Gadget σ) :
    ∃ pulses, onGossip N pulse g = { g with pulses } := by
  unfold onGossip
  split
  next canonical _ => exact ⟨_, rfl⟩
  next => exact ⟨g.pulses, rfl⟩

/-- The pulse of a notification is one of those it takes, and its round has
come. -/
theorem Notification.latest_spec {pulse : CanonicalPulse} (h : n.latest g = some pulse) :
    pulse ∈ n.taken g ∧ n.firstRound g.nextRound ≤ pulse.round := by
  have hmem := List.mem_filter.mp (List.mem_of_getLast? h)
  exact ⟨hmem.1, of_decide_eq_true hmem.2⟩

end

end IdealNetwork.Client
