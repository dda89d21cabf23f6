import IdealNetwork.Beacon.Pallet
import IdealNetwork.Lib.Runs

/-!
# Ingestion

A chain is a list of blocks, and a block is any sequence of calls followed by
the finalization hooks. What the calls of a run accept forms a log of
accumulations, and the log decides the storage: `Ingested` says that its
ranges increase, that `NextRound` stands right after the last of them, and
that the last of them is the sparse accumulation.

Calls of other pallets are part of a block: they may write the dispatcher's
storage, and never this pallet's.
-/

set_option autoImplicit false

namespace IdealNetwork.Beacon

open Scale Storage Crypto

variable {G₁ G₂ Gt D : Type} [AddCommGroup G₁]

/-! ## What one call does -/

/-- The state in which an accepted submission leaves the chain. -/
def ingested (env : Env D) (acc : Accumulation) (s : State D) : State D :=
  { s with
    nextRound := acc.end.saturatingAdd 1
    sparseAccumulation := some acc
    didUpdate := some true
    dispatcher := env.dispatch acc.toPulse s.dispatcher
    events := s.events ++ [.signatureVerificationSuccess] }

/-- What a call does, with the accumulations it accepts. -/
inductive CallEffect (T : Config G₁ G₂ Gt) (env : Env D) (s : State D) :
    List Accumulation → State D → Prop
  | submitted {acc pk} (first : s.didUpdate = none) (config : s.beaconConfig = some pk)
      (ordered : acc.start ≤ acc.end)
      (height : acc.end.toNat - acc.start.toNat ≤ T.maxSigsPerBlock.toNat)
      (fresh : s.nextRound ≤ acc.start)
      (valid : verifyBeaconSignature T pk acc.signature acc.start acc.end = .ok ()) :
      CallEffect T env s [acc] (ingested env acc s)
  | configured (pk) : CallEffect T env s []
      { s with beaconConfig := some pk, events := s.events ++ [.beaconConfigSet] }
  | refused : CallEffect T env s [] s

variable {T : Config G₁ G₂ Gt} {env : Env D} {s t : State D} {origin : Origin}

/-- An empty range is refused: the saturated height is zero, and the ends
differ. -/
theorem start_le_end {start «end» : RoundNumber}
    (h : «end».saturatingSub start = 0 → start = «end») : start ≤ «end» := by
  by_contra hlt
  have hzero : «end».saturatingSub start = 0 :=
    if_neg fun hle => hlt hle
  exact hlt (h hzero ▸ UInt64.le_refl _)

omit [AddCommGroup G₁] in
/-- The check of the author's signature leaves no trace. -/
theorem verifySignature_bind_ok {α : Type} {payload : Bytes} {signature : T.Signature}
    {f : Unit → PalletM D α} {a : α} :
    (verifySignature T env payload signature >>= f) s = (.ok a, t) ↔
      (∃ authorId, env.findAuthor = some authorId ∧ T.verify signature payload authorId = true) ∧
        f () s = (.ok a, t) := by
  simp only [verifySignature, Action.bind_ok, Action.okOr_ok, Action.ensure_ok]
  constructor
  · rintro ⟨_, _, ⟨author, _, ⟨hauthor, rfl⟩, hverify, rfl⟩, hf⟩
    exact ⟨⟨author, hauthor, hverify⟩, hf⟩
  · rintro ⟨⟨author, hauthor, hverify⟩, hf⟩
    exact ⟨(), s, ⟨author, s, ⟨hauthor, rfl⟩, hverify, rfl⟩, hf⟩

theorem trySubmitAsig_ok {asig : OpaqueSignature} {start «end» : RoundNumber}
    {signature : T.Signature} {u : Unit}
    (h : trySubmitAsig T env origin asig start «end» signature s = (.ok u, t)) :
    CallEffect T env s [⟨asig, start, «end»⟩] t := by
  simp only [trySubmitAsig, verifySignature_bind_ok, depositEvent, Action.ensure_bind_ok,
    Action.when_ensure_bind_ok, Action.okOr_bind_ok, Action.get_bind_ok, Action.ofExcept_bind_ok,
    Action.modify_bind_ok, Action.modify_ok] at h
  obtain ⟨_, _, hfirst, pk, hpk, hheight, hmax, hfresh, _, hvalid, rfl⟩ := h
  refine .submitted hfirst hpk (start_le_end hheight) ?_ ?_ hvalid
  · have hle := UInt64.le_iff_toNat_le.mp hmax
    rw [UInt64.toNat_saturatingSub, UInt8.toNat_toUInt64] at hle
    exact hle
  · by_cases hzero : 0 < s.nextRound
    · exact hfresh hzero
    · exact UInt64.le_trans (UInt64.not_lt.mp hzero) (UInt64.zero_le)

theorem setBeaconConfig_ok {pk : OpaquePublicKey} {u : Unit}
    (h : setBeaconConfig origin pk s = (.ok u, t)) : CallEffect T env s [] t := by
  simp only [setBeaconConfig, depositEvent, Action.ensure_bind_ok, Action.modify_bind_ok,
    Action.modify_ok] at h
  obtain ⟨_, rfl⟩ := h
  exact .configured pk

/-- A call checks before it writes: one that fails has written nothing, even
without its storage layer. -/
theorem perform_failsClean (origin : Origin) (call : Call T.Signature) :
    Action.FailsClean (perform T env origin call) := by
  cases call with
  | trySubmitAsig asig start «end» signature =>
    have hauthor : Action.ReadsOnly (verifySignature T env
        (encode (α := Bytes) asig.toList ++ encode start ++ encode «end») signature) :=
      Action.readsOnly_okOr.bind fun _ => Action.readsOnly_ensure
    show Action.FailsClean (trySubmitAsig T env origin asig start «end» signature)
    unfold trySubmitAsig
    refine Action.failsClean_bind Action.readsOnly_ensure fun _ => ?_
    refine Action.failsClean_bind hauthor fun _ => ?_
    refine Action.failsClean_bind Action.readsOnly_get fun s => ?_
    refine Action.failsClean_bind Action.readsOnly_ensure fun _ => ?_
    refine Action.failsClean_bind Action.readsOnly_okOr fun pk => ?_
    refine Action.failsClean_bind Action.readsOnly_ensure.when fun _ => ?_
    refine Action.failsClean_bind Action.readsOnly_ensure fun _ => ?_
    refine Action.failsClean_bind Action.readsOnly_ensure.when fun _ => ?_
    refine Action.failsClean_bind Action.readsOnly_ofExcept fun _ => ?_
    exact Action.failsClean_modify_bind
  | setBeaconConfig pk =>
    show Action.FailsClean (setBeaconConfig origin pk)
    unfold setBeaconConfig
    exact Action.failsClean_bind Action.readsOnly_ensure fun _ =>
      Action.failsClean_modify_bind

/-! ## Blocks -/

/-- A call of this pallet, or a call of another that may write the
dispatcher's storage. -/
inductive Extrinsic (T : Config G₁ G₂ Gt) (D : Type) where
  | call (origin : Origin) (call : Call T.Signature)
  | elsewhere (effect : D → D)

/-- The extrinsics of a block, and what the hooks of other pallets do to the
dispatcher's storage at its end. -/
structure Block (T : Config G₁ G₂ Gt) (D : Type) where
  env : Env D
  extrinsics : List (Extrinsic T D)
  hooks : D → D

def Extrinsic.apply (env : Env D) : Extrinsic T D → State D → State D
  | .call origin c, s => (dispatch T env origin c s).2
  | .elsewhere effect, s => { s with dispatcher := effect s.dispatcher }

/-- The accumulation of a submission that succeeds. -/
def Extrinsic.accepted (env : Env D) : Extrinsic T D → State D → List Accumulation
  | .call origin (.trySubmitAsig asig start «end» signature), s =>
    match (dispatch T env origin (.trySubmitAsig asig start «end» signature) s).1 with
    | .ok _ => [⟨asig, start, «end»⟩]
    | .error _ => []
  | _, _ => []

def Block.apply (b : Block T D) (s : State D) : State D :=
  let t := Runs.run (Extrinsic.apply b.env) b.extrinsics s
  onFinalize { t with dispatcher := b.hooks t.dispatcher }

def Block.accepted (b : Block T D) (s : State D) : List Accumulation :=
  Runs.outputs (Extrinsic.apply b.env) (Extrinsic.accepted b.env) b.extrinsics s

/-- The state after a run of blocks. -/
def run (blocks : List (Block T D)) (s : State D) : State D := Runs.run Block.apply blocks s

/-- What a run of blocks accepts, in order. -/
def accepted (blocks : List (Block T D)) (s : State D) : List Accumulation :=
  Runs.outputs Block.apply Block.accepted blocks s

/-- Storage before the first submission. -/
structure Initial (s : State D) : Prop where
  nextRound : s.nextRound = 0
  sparseAccumulation : s.sparseAccumulation = none
  didUpdate : s.didUpdate = none

theorem Extrinsic.call_effect (env : Env D) (origin : Origin) (call : Call T.Signature)
    (s : State D) :
    CallEffect T env s (Extrinsic.accepted env (.call origin call) s)
      (Extrinsic.apply env (.call origin call) s) := by
  rcases Action.transactional_cases (perform T env origin call) s with
    ⟨_, t, hperform, hdispatch⟩ | ⟨e, hdispatch⟩
  · cases call with
    | trySubmitAsig asig start «end» signature =>
      simp only [Extrinsic.accepted, Extrinsic.apply, dispatch, hdispatch]
      exact trySubmitAsig_ok hperform
    | setBeaconConfig pk =>
      simp only [Extrinsic.accepted, Extrinsic.apply, dispatch, hdispatch]
      exact setBeaconConfig_ok hperform
  · cases call with
    | trySubmitAsig asig start «end» signature =>
      simp only [Extrinsic.accepted, Extrinsic.apply, dispatch, hdispatch]
      exact .refused
    | setBeaconConfig pk =>
      simp only [Extrinsic.accepted, Extrinsic.apply, dispatch, hdispatch]
      exact .refused

/-- THE BLOCK RULE: what the calls keep, and what does not depend on the
dispatcher's storage, the extrinsics of a block keep. -/
theorem extrinsics_invariant {P : List Accumulation → State D → Prop}
    {extrinsics : List (Extrinsic T D)} (log : List Accumulation) (h : P log s)
    (calls : ∀ {log u more v}, CallEffect T env u more v → P log u → P (log ++ more) v)
    (others : ∀ {log u} d, P log u → P log { u with dispatcher := d }) :
    P (log ++ Runs.outputs (Extrinsic.apply env) (Extrinsic.accepted env) extrinsics s)
      (Runs.run (Extrinsic.apply env) extrinsics s) := by
  refine Runs.run_invariant_outputs _ log h fun x _ log u hu => ?_
  cases x with
  | call origin call => exact calls (Extrinsic.call_effect env origin call u) hu
  | elsewhere effect =>
    rw [Extrinsic.accepted, List.append_nil]
    · exact others _ hu
    · nofun

/-! ## Increasing ranges -/

/-- The storage that follows from what has been accepted. -/
structure Ingested (log : List Accumulation) (s : State D) : Prop where
  nonempty : ∀ acc ∈ log, acc.start ≤ acc.end
  increasing : log.Pairwise fun a b => a.end < b.start
  nextRound : s.nextRound.toNat = log.getLast?.elim 0 fun acc => acc.end.toNat + 1
  sparseAccumulation : s.sparseAccumulation = log.getLast?

variable {log : List Accumulation}

theorem Ingested.initial (h : Initial s) : Ingested [] s where
  nonempty := nofun
  increasing := .nil
  nextRound := congrArg UInt64.toNat h.nextRound
  sparseAccumulation := h.sparseAccumulation

/-- Every accepted range lies below the next round. -/
theorem Ingested.end_lt_nextRound (h : Ingested log s) {acc : Accumulation} (hacc : acc ∈ log) :
    acc.end.toNat < s.nextRound.toNat := by
  rcases List.eq_nil_or_concat' log with rfl | ⟨init, last, rfl⟩
  · cases hacc
  · have hnext : s.nextRound.toNat = last.end.toNat + 1 := by
      rw [h.nextRound, List.getLast?_concat]
      rfl
    rw [hnext]
    rw [List.mem_append, List.mem_singleton] at hacc
    rcases hacc with hinit | rfl
    · have hbelow := (List.pairwise_append.mp h.increasing).2.2 acc hinit last
        (List.mem_singleton_self last)
      have hlast := h.nonempty last List.mem_concat_self
      rw [UInt64.lt_iff_toNat_lt] at hbelow
      rw [UInt64.le_iff_toNat_le] at hlast
      omega
    · omega

/-- Only the beacon's own storage matters. -/
theorem Ingested.congr (h : Ingested log s) (hnext : t.nextRound = s.nextRound)
    (hsparse : t.sparseAccumulation = s.sparseAccumulation) : Ingested log t where
  nonempty := h.nonempty
  increasing := h.increasing
  nextRound := hnext ▸ h.nextRound
  sparseAccumulation := hsparse.trans h.sparseAccumulation

/-- The verifier rejects every range that ends at `u64::MAX`, where the next
round would saturate. -/
def RejectsLastRound (T : Config G₁ G₂ Gt) : Prop :=
  ∀ pk asig start, verifyBeaconSignature T pk asig start UInt64.maxValue ≠ .ok ()

theorem Ingested.callEffect (hlast : RejectsLastRound T) {more : List Accumulation}
    (heffect : CallEffect T env s more t) (h : Ingested log s) : Ingested (log ++ more) t := by
  cases heffect with
  | @submitted acc pk first config ordered height fresh valid =>
    have hne : acc.end ≠ UInt64.maxValue := by
      intro heq
      rw [heq] at valid
      exact hlast _ _ _ valid
    refine ⟨?_, ?_, ?_, (List.getLast?_concat ..).symm⟩
    · intro a ha
      rcases List.mem_append.mp ha with hlog | hnew
      · exact h.nonempty a hlog
      · exact List.mem_singleton.mp hnew ▸ ordered
    · refine List.pairwise_append.mpr ⟨h.increasing, List.pairwise_singleton _ _, ?_⟩
      intro a ha b hb
      obtain rfl := List.mem_singleton.mp hb
      exact UInt64.lt_iff_toNat_lt.mpr
        ((h.end_lt_nextRound ha).trans_le (UInt64.le_iff_toNat_le.mp fresh))
    · rw [List.getLast?_concat]
      show (acc.end.saturatingAdd 1).toNat = acc.end.toNat + 1
      rw [UInt64.toNat_saturatingAdd]
      exact min_eq_left (Nat.le_sub_one_of_lt (UInt64.toNat_succ_lt hne))
  | configured pk => exact (List.append_nil log).symm ▸ h.congr rfl rfl
  | refused => exact (List.append_nil log).symm ▸ h

theorem Ingested.block (hlast : RejectsLastRound T) (b : Block T D) (h : Ingested log s) :
    Ingested (log ++ b.accepted s) (b.apply s) :=
  (extrinsics_invariant log h (fun heffect hu => hu.callEffect hlast heffect)
    fun _ hu => hu.congr rfl rfl).congr rfl rfl

/-- In every run the log of what was accepted decides the storage. -/
theorem Ingested.run (hlast : RejectsLastRound T) (blocks : List (Block T D)) (h : Initial s) :
    Ingested (accepted blocks s) (run blocks s) :=
  Runs.run_invariant_outputs Block.apply [] (Ingested.initial h)
    fun b _ _ _ hu => hu.block hlast b

/-! ## Once in a block, and once each -/

/-- A block accepts one submission at most: the flag the first one puts
stays until the block ends. -/
theorem Block.length_accepted_le (b : Block T D) (s : State D) : (b.accepted s).length ≤ 1 := by
  have honce : (b.accepted s).length ≤ 1 ∧ (b.accepted s ≠ [] →
      (Runs.run (Extrinsic.apply b.env) b.extrinsics s).didUpdate ≠ none) := by
    refine extrinsics_invariant (P := fun log u => log.length ≤ 1 ∧
      (log ≠ [] → u.didUpdate ≠ none)) [] ⟨Nat.zero_le 1, nofun⟩ ?_ fun _ hu => hu
    intro log u more v heffect hu
    cases heffect with
    | submitted first config ordered height fresh valid =>
      have hnil : log = [] := not_not.mp fun hne => hu.2 hne first
      subst hnil
      exact ⟨Nat.le_refl 1, nofun⟩
    | configured pk => exact (List.append_nil log).symm ▸ hu
    | refused => exact (List.append_nil log).symm ▸ hu
  exact honce.1

/-- The block holds calls of this pallet only. -/
structure Block.Own (b : Block T D) : Prop where
  calls : ∀ x ∈ b.extrinsics, ∃ origin c, x = .call origin c
  hooks : b.hooks = id

/-- Dispatch pulses in order. -/
def dispatchAll (pulses : List (Env D × RuntimePulse)) (d : D) : D :=
  pulses.foldl (fun d p => p.1.dispatch p.2 d) d

/-- The pulses of what a block accepts, in its environment. -/
def Block.pulses (b : Block T D) (s : State D) : List (Env D × RuntimePulse) :=
  (b.accepted s).map fun acc => (b.env, acc.toPulse)

/-- The pulses of what a run accepts. -/
def pulses (blocks : List (Block T D)) (s : State D) : List (Env D × RuntimePulse) :=
  Runs.outputs Block.apply Block.pulses blocks s

/-- A call dispatches what it accepts, and nothing else. -/
theorem CallEffect.dispatcher {more : List Accumulation} (h : CallEffect T env s more t) :
    t.dispatcher = dispatchAll (more.map fun acc => (env, acc.toPulse)) s.dispatcher := by
  cases h with
  | submitted first config ordered height fresh valid => rfl
  | configured pk => rfl
  | refused => rfl

theorem dispatchAll_append (front back : List (Env D × RuntimePulse)) (d : D) :
    dispatchAll (front ++ back) d = dispatchAll back (dispatchAll front d) :=
  List.foldl_append

theorem Block.Own.dispatcher_apply {b : Block T D} (hown : b.Own) (s : State D) :
    (b.apply s).dispatcher = dispatchAll (b.pulses s) s.dispatcher := by
  have hcalls : (Runs.run (Extrinsic.apply b.env) b.extrinsics s).dispatcher =
      dispatchAll (b.pulses s) s.dispatcher := by
    refine Runs.run_invariant_outputs (Extrinsic.apply b.env)
      (Q := fun (log : List Accumulation) u => u.dispatcher =
        dispatchAll (log.map fun acc => (b.env, acc.toPulse)) s.dispatcher) [] rfl ?_
    intro x hx log u hu
    obtain ⟨origin, c, rfl⟩ := hown.calls x hx
    rw [(Extrinsic.call_effect b.env origin c u).dispatcher, hu, List.map_append,
      dispatchAll_append]
  show b.hooks _ = _
  rw [hown.hooks]
  exact hcalls

/-- In a run of this pallet's calls the dispatcher has been given what was
accepted, once each and in order, and nothing else. -/
theorem dispatcher_run {blocks : List (Block T D)} (hown : ∀ b ∈ blocks, b.Own) (s : State D) :
    (run blocks s).dispatcher = dispatchAll (pulses blocks s) s.dispatcher := by
  refine Runs.run_invariant_outputs Block.apply
    (Q := fun log u => u.dispatcher = dispatchAll log s.dispatcher) [] rfl ?_
  intro b hb log u hu
  rw [(hown b hb).dispatcher_apply, hu, dispatchAll_append]

theorem map_pulses (blocks : List (Block T D)) (s : State D) :
    (pulses blocks s).map Prod.snd = (accepted blocks s).map Accumulation.toPulse :=
  Runs.map_outputs Block.apply fun _ _ => List.map_map

end IdealNetwork.Beacon
