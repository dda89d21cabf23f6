import IdealNetwork.Beacon.Ingestion
import IdealNetwork.Manager.Service

/-!
# The chain

The beacon pallet with the manager pallet as its dispatcher. Blocks mix the
calls of both; every accepted submission distributes its pulse, and the
manager's hook runs at the end of the block.

The ranges the beacon accepts increase, and a distribution serves a
subscription once at most, so a subscription is sent at most one pulse in a
block, and no round twice.
-/

set_option autoImplicit false

namespace IdealNetwork.Chain

open Beacon
open Manager (served)

variable {G₁ G₂ Gt : Type} [AddCommGroup G₁] {T : Beacon.Config G₁ G₂ Gt}

/-- A call of one of the two pallets. -/
inductive Extrinsic (T : Beacon.Config G₁ G₂ Gt) where
  | beacon (origin : Origin) (call : Beacon.Call T.Signature)
  | manager (origin : Origin) (call : Manager.Call)

structure Block (T : Beacon.Config G₁ G₂ Gt) where
  findAuthor : Option AccountId32
  env : Manager.Env
  extrinsics : List (Extrinsic T)

section

variable (M : Manager.Config)

/-- What the beacon pallet sees of an extrinsic. -/
def Extrinsic.toBeacon (env : Manager.Env) :
    Extrinsic T → Beacon.Extrinsic T (Manager.State M)
  | .beacon origin c => .call origin c
  | .manager origin c => .elsewhere fun m => (Manager.dispatch M env origin c m).2

/-- What the beacon pallet finds in a block. -/
def Block.beaconEnv (b : Block T) : Beacon.Env (Manager.State M) where
  findAuthor := b.findAuthor
  dispatch := Manager.distribute M b.env

/-- What the beacon pallet sees of a block. -/
def Block.toBeacon (b : Block T) : Beacon.Block T (Manager.State M) where
  env := b.beaconEnv M
  extrinsics := b.extrinsics.map (Extrinsic.toBeacon M b.env)
  hooks := Manager.onFinalize M

/-- The state after a run of blocks. -/
def run (blocks : List (Block T)) (s : Beacon.State (Manager.State M)) :
    Beacon.State (Manager.State M) :=
  Beacon.run (blocks.map (Block.toBeacon M)) s

end

variable {M : Manager.Config} {s t : Beacon.State (Manager.State M)} {id : SubscriptionId}

/-! ## What a subscription is sent -/

/-- The pulses an extrinsic sends a subscription: those it dispatches, if the
subscription is served by it. -/
def sentBy (id : SubscriptionId) (env : Beacon.Env (Manager.State M))
    (x : Beacon.Extrinsic T (Manager.State M)) (s : Beacon.State (Manager.State M)) :
    List RuntimePulse :=
  if served id s.dispatcher < served id (x.apply env s).dispatcher then
    (x.accepted env s).map Accumulation.toPulse
  else []

/-- The pulses a block sends a subscription. -/
def sentIn (id : SubscriptionId) (b : Beacon.Block T (Manager.State M))
    (s : Beacon.State (Manager.State M)) : List RuntimePulse :=
  Runs.outputs (Beacon.Extrinsic.apply b.env) (sentBy id b.env) b.extrinsics s

/-- The pulses a run of blocks sends a subscription, in order. -/
def sentTo (M : Manager.Config) (id : SubscriptionId) (blocks : List (Block T))
    (s : Beacon.State (Manager.State M)) : List RuntimePulse :=
  Runs.outputs Beacon.Block.apply (sentIn id) (blocks.map (Block.toBeacon M)) s

/-- Only accepted pulses are sent. -/
theorem sentBy_sublist (env : Beacon.Env (Manager.State M))
    (x : Beacon.Extrinsic T (Manager.State M)) (s : Beacon.State (Manager.State M)) :
    (sentBy id env x s).Sublist ((x.accepted env s).map Accumulation.toPulse) := by
  unfold sentBy
  split
  next => exact List.Sublist.refl _
  next => exact List.nil_sublist _

theorem sentIn_sublist (b : Beacon.Block T (Manager.State M))
    (s : Beacon.State (Manager.State M)) :
    (sentIn id b s).Sublist ((b.accepted s).map Accumulation.toPulse) :=
  Runs.outputs_sublist _ (sentBy_sublist b.env)

theorem sentTo_sublist (blocks : List (Block T)) (s : Beacon.State (Manager.State M)) :
    (sentTo M id blocks s).Sublist
      ((accepted (blocks.map (Block.toBeacon M)) s).map Accumulation.toPulse) :=
  Runs.outputs_sublist _ sentIn_sublist

/-- A subscription is sent at most one pulse in a block. -/
theorem length_sentIn_le (b : Block T) (s : Beacon.State (Manager.State M)) :
    (sentIn id (b.toBeacon M) s).length ≤ 1 :=
  calc (sentIn id (b.toBeacon M) s).length
      ≤ (((b.toBeacon M).accepted s).map Accumulation.toPulse).length :=
        (sentIn_sublist _ s).length_le
    _ = ((b.toBeacon M).accepted s).length := List.length_map _
    _ ≤ 1 := (b.toBeacon M).length_accepted_le s

/-- The pulses a subscription is sent cover increasing ranges of rounds. -/
theorem pairwise_sentTo (hlast : RejectsLastRound T) (hinit : Beacon.Initial s)
    (blocks : List (Block T)) :
    (sentTo M id blocks s).Pairwise fun p q => p.end < q.start := by
  have hingested := Ingested.run hlast (blocks.map (Block.toBeacon M)) hinit
  exact ((List.pairwise_map.mpr hingested.increasing).sublist (sentTo_sublist blocks s))

/-! ## Nothing else is sent -/

/-- A call of the beacon pallet serves a subscription as often as it sends it
a pulse. -/
theorem served_of_callEffect (env : Manager.Env) {benv : Beacon.Env (Manager.State M)}
    {more : List Accumulation} (hdispatch : benv.dispatch = Manager.distribute M env)
    (h : Beacon.CallEffect T benv s more t) :
    served id t.dispatcher = served id s.dispatcher +
      (if served id s.dispatcher < served id t.dispatcher then
        more.map Accumulation.toPulse else []).length := by
  cases h with
  | @submitted acc pk first config ordered height fresh valid =>
    show served id (benv.dispatch acc.toPulse s.dispatcher) = served id s.dispatcher +
      (if served id s.dispatcher < served id (benv.dispatch acc.toPulse s.dispatcher) then
        [acc.toPulse] else []).length
    rw [hdispatch]
    rcases Manager.served_distribute env acc.toPulse id s.dispatcher with hsame | honce
    · rw [hsame, if_neg (lt_irrefl _), List.length_nil, Nat.add_zero]
    · rw [honce, if_pos (Nat.lt_succ_self _), List.length_singleton]
  | configured pk => rw [if_neg (lt_irrefl _), List.length_nil, Nat.add_zero]
  | refused => rw [if_neg (lt_irrefl _), List.length_nil, Nat.add_zero]

theorem served_apply (b : Block T) (x : Extrinsic T) (s : Beacon.State (Manager.State M)) :
    served id ((x.toBeacon M b.env).apply (b.beaconEnv M) s).dispatcher =
      served id s.dispatcher + (sentBy id (b.beaconEnv M) (x.toBeacon M b.env) s).length := by
  cases x with
  | beacon origin call =>
    exact served_of_callEffect b.env rfl
      (Beacon.Extrinsic.call_effect (b.beaconEnv M) origin call s)
  | manager origin call =>
    have hsame : served id (Manager.dispatch M b.env origin call s.dispatcher).2 =
        served id s.dispatcher :=
      Manager.dispatch_invariant (P := fun m => served id m = served id s.dispatcher) call rfl
        fun heffect => heffect.served
    show served id (Manager.dispatch M b.env origin call s.dispatcher).2 = served id s.dispatcher +
      (if served id s.dispatcher < served id (Manager.dispatch M b.env origin call s.dispatcher).2
        then [] else []).length
    rw [ite_self, List.length_nil, Nat.add_zero, hsame]

theorem served_onFinalize (m : Manager.State M) :
    served id (Manager.onFinalize M m) = served id m :=
  Manager.onFinalize_invariant (P := fun u => served id u = served id m) rfl
    fun _ _ hterm hu => hterm.served.trans hu

/-- A block serves a subscription as often as it sends it a pulse. -/
theorem served_block (b : Block T) (s : Beacon.State (Manager.State M)) :
    served id ((b.toBeacon M).apply s).dispatcher =
      served id s.dispatcher + (sentIn id (b.toBeacon M) s).length := by
  have hextrinsics : served id (Runs.run (Beacon.Extrinsic.apply (b.beaconEnv M))
      (b.toBeacon M).extrinsics s).dispatcher =
      served id s.dispatcher + (sentIn id (b.toBeacon M) s).length := by
    refine Runs.run_invariant_outputs (Beacon.Extrinsic.apply (b.beaconEnv M))
      (Q := fun (log : List RuntimePulse) u =>
        served id u.dispatcher = served id s.dispatcher + log.length) [] rfl ?_
    intro y hy log u hu
    obtain ⟨x, _, rfl⟩ := List.mem_map.mp hy
    rw [served_apply, hu, List.length_append, Nat.add_assoc]
    rfl
  exact (served_onFinalize _).trans hextrinsics

theorem served_run (blocks : List (Block T)) (s : Beacon.State (Manager.State M)) :
    served id (run M blocks s).dispatcher =
      served id s.dispatcher + (sentTo M id blocks s).length := by
  refine Runs.run_invariant_outputs Beacon.Block.apply
    (Q := fun (log : List RuntimePulse) u =>
      served id u.dispatcher = served id s.dispatcher + log.length) [] rfl ?_
  intro c hc log u hu
  obtain ⟨b, _, rfl⟩ := List.mem_map.mp hc
  rw [served_block, hu, List.length_append, Nat.add_assoc]

/-- INGESTION IS IN ORDER AND EXACTLY ONCE. In every run of blocks the
accepted ranges are nonempty and increase, and the last of them decides the
next round and the sparse accumulation. A block accepts one submission at
most. With no other pallet about, the dispatcher is given what was accepted,
once each and in order. A call that fails has written nothing. And with the
manager as dispatcher, a subscription is served exactly the pulses it is
sent: at most one in a block, and no round twice. -/
theorem ingestion_exactly_once (T : Beacon.Config G₁ G₂ Gt) (hlast : RejectsLastRound T) :
    (∀ (D : Type) (s₀ : Beacon.State D), Beacon.Initial s₀ →
      ∀ blocks : List (Beacon.Block T D),
        Ingested (accepted blocks s₀) (Beacon.run blocks s₀) ∧
        ((∀ b ∈ blocks, b.Own) →
          (Beacon.run blocks s₀).dispatcher = dispatchAll (pulses blocks s₀) s₀.dispatcher ∧
          (pulses blocks s₀).map Prod.snd = (accepted blocks s₀).map Accumulation.toPulse)) ∧
    (∀ (D : Type) (b : Beacon.Block T D) (s : Beacon.State D), (b.accepted s).length ≤ 1) ∧
    (∀ (D : Type) (env : Beacon.Env D) origin call (s t : Beacon.State D) e,
      perform T env origin call s = (.error e, t) → t = s) ∧
    ∀ (M : Manager.Config) (s₀ : Beacon.State (Manager.State M)), Beacon.Initial s₀ →
      ∀ (blocks : List (Block T)) (id : SubscriptionId),
        (∀ b ∈ blocks, ∀ s, (sentIn id (b.toBeacon M) s).length ≤ 1) ∧
        ((sentTo M id blocks s₀).Pairwise fun p q => p.end < q.start) ∧
        served id (run M blocks s₀).dispatcher =
          served id s₀.dispatcher + (sentTo M id blocks s₀).length := by
  refine ⟨fun D s₀ hinit blocks => ⟨Ingested.run hlast blocks hinit, fun hown => ?_⟩,
    fun D b s => b.length_accepted_le s,
    fun D env origin call s t e h => perform_failsClean origin call s t e h,
    fun M s₀ hinit blocks id => ⟨fun b _ s => length_sentIn_le b s, ?_, ?_⟩⟩
  · exact ⟨dispatcher_run hown s₀, map_pulses blocks s₀⟩
  · exact pairwise_sentTo hlast hinit blocks
  · exact served_run blocks s₀

section Sample

open Crypto IdealNetwork.Runtime

theorem rejectsLastRound_sampleBeacon : RejectsLastRound sampleBeacon := by
  intro pk asig start h
  obtain ⟨amsg, bytes, hmsg, _⟩ := verifyBeaconSignature_ok.mp h
  obtain ⟨P, hP⟩ := aggregateMessage_ok hmsg UInt64.maxValue
    (UInt64.mem_rangeInclusive.mpr ⟨UInt64.le_maxValue start, UInt64.le_refl _⟩)
  cases hP

/-- A key of the small curve. -/
def sampleKey : OpaquePublicKey := pointBytes 96 (3 : ℕ)

/-- A submission by the author of a block. -/
def submit (P : ℕ) (start «end» : RoundNumber) : Extrinsic sampleBeacon :=
  .beacon .none (.trySubmitAsig (pointBytes 48 P) start «end» ())

/-- Rounds 5 and 6 are submitted three times, once too late and once after
the block has its pulse, and round 8 follows. -/
def sampleBlocks : List (Block sampleBeacon) :=
  [⟨some alice, online 1,
      [.beacon .root (.setBeaconConfig sampleKey),
        .manager (.signed alice) (.createSubscription (sampleParams 10)),
        submit 5 5 6, submit 5 5 6]⟩,
    ⟨some alice, online 2, [submit 5 5 6, submit 3 8 8]⟩]

/-- The chain before its first block. -/
def sampleGenesis : Beacon.State (Manager.State standalone) where
  beaconConfig := none
  nextRound := 0
  sparseAccumulation := none
  didUpdate := none
  events := []
  dispatcher := funded

theorem ingestion_exactly_once_sampleBlocks :
    RejectsLastRound sampleBeacon ∧
      sentTo standalone sampleId sampleBlocks sampleGenesis =
        [⟨pointBytes 48 5, 5, 6⟩, ⟨pointBytes 48 3, 8, 8⟩] ∧
      served sampleId (run standalone sampleBlocks sampleGenesis).dispatcher = 2 := by
  have hsent : sentTo standalone sampleId sampleBlocks sampleGenesis =
      [⟨pointBytes 48 5, 5, 6⟩, ⟨pointBytes 48 3, 8, 8⟩] := by decide +kernel
  obtain ⟨_, _, hserved⟩ := (ingestion_exactly_once sampleBeacon
    rejectsLastRound_sampleBeacon).2.2.2 standalone sampleGenesis ⟨rfl, rfl, rfl⟩ sampleBlocks
    sampleId
  refine ⟨rejectsLastRound_sampleBeacon, hsent, ?_⟩
  rw [hserved, hsent]
  rfl

end Sample

end IdealNetwork.Chain
