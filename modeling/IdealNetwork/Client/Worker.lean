import IdealNetwork.Beacon.Pallet

/-!
# The pulse worker

What a collator does to submit a pulse: sign the payload with its authority
key, have the runtime build the extrinsic, and hand it to the transaction
pool. The calls of one worker share a slot, the best block number of the last
call that found another number there, so that a second call at one best block
submits nothing.

A call that submits nothing for that reason returns the hash of the best
block, as one that submits does. The slot is emptied when the pool refuses an
extrinsic, and left as it is when signing or building one fails.
-/

set_option autoImplicit false

namespace IdealNetwork.Client

open Scale Storage

inductive GadgetError where
  | extrinsicConstructionFailed
  | invalidSignatureSize (has must : UInt8)
  | keystoreError (message : String)
  | noAuthorityKeys
  | runtimeApiError (message : String)
  | signingFailed
  | transactionSubmissionFailed
deriving DecidableEq, Repr

/-- A bare extrinsic of the beacon pallet, with the bytes of an sr25519
signature. -/
abbrev Extrinsic := Beacon.Call (Vector UInt8 64)

/-- The extrinsic submits exactly the rounds from `start` to `end`. -/
def Carries (start «end» : RoundNumber) (extrinsic : Extrinsic) : Prop :=
  ∃ asig signature, extrinsic = .trySubmitAsig asig start «end» signature

/-- The runtime's `build_extrinsic`. It traps on a signature of the wrong
size, which `copy_from_slice` refuses. -/
def RuntimeApi.buildExtrinsic (asig : Bytes) (start «end» : RoundNumber) (signature : Bytes) :
    Option Extrinsic := do
  -- a wrong-sized beacon signature is replaced by a default
  let formatted := (tryIntoArray 48 asig).getD (Vector.replicate 48 0)
  let sigArray ← tryIntoArray 64 signature
  pure (.trySubmitAsig formatted start «end» sigArray)

/-- `client.info()`. -/
structure Info (Hash : Type) where
  bestNumber : BlockNumber
  bestHash : Hash
deriving DecidableEq

/-- What a call of the worker finds outside it: the keystore, the runtime's
API and the transaction pool. -/
structure Node (Hash : Type) where
  /-- `keystore.sr25519_public_keys`. -/
  publicKeys : List (Vector UInt8 32)
  /-- `keystore.sign_with`, for a key and a payload. -/
  signWith : Vector UInt8 32 → Bytes → Except String (Option Bytes)
  /-- Why the runtime cannot be called at a block, if it cannot. -/
  apiFailure : Hash → Option String
  /-- What a trap of the runtime is reported as. -/
  apiTrap : String
  /-- `transaction_pool.submit_one`: the hash of an accepted extrinsic. Why
  one is refused is only logged. -/
  submitOne : Hash → Extrinsic → Option Hash

/-- An extrinsic the pool accepted, and the best block number that the call
which submitted it had read. -/
structure Submission where
  block : BlockNumber
  extrinsic : Extrinsic

/-- What the calls of one worker share. The pool's side of it is a record of
the extrinsics it accepted from the worker, in order. -/
structure PulseWorker where
  lastSubmittedBlock : Option BlockNumber
  accepted : List Submission

/-- `PulseWorker::new`. -/
def PulseWorker.new : PulseWorker := ⟨none, []⟩

section

variable {Hash : Type} (node : Node Hash)

/-- `client.runtime_api().build_extrinsic`. -/
def Node.buildExtrinsic (atHash : Hash) (asig : Bytes) (start «end» : RoundNumber)
    (signature : Bytes) : Except String Extrinsic :=
  match node.apiFailure atHash with
  | some message => .error message
  | none =>
    match RuntimeApi.buildExtrinsic asig start «end» signature with
    | some extrinsic => .ok extrinsic
    | none => .error node.apiTrap

/-- What a collator signs. -/
def payload (asig : Bytes) (start «end» : RoundNumber) : Bytes :=
  encode asig ++ encode start ++ encode «end»

/-- `sign_with`, with its errors. -/
def Node.sign (authorityId : Vector UInt8 32) (payload : Bytes) : Except GadgetError Bytes :=
  match node.signWith authorityId payload with
  | .ok (some signature) => .ok signature
  | .ok none => .error .noAuthorityKeys
  | .error message => .error (.keystoreError message)

/-- Sign the payload and build the extrinsic. -/
def Node.construct (authorityId : Vector UInt8 32) (bestHash : Hash) (asig : Bytes)
    (start «end» : RoundNumber) : Except GadgetError Extrinsic := do
  let signature ← node.sign authorityId (payload asig start «end»)
  (node.buildExtrinsic bestHash asig start «end» signature).mapError .runtimeApiError

variable (info : Info Hash)

/-- Hand the extrinsic to the pool. -/
def handOver (extrinsic : Extrinsic) : Action GadgetError PulseWorker Hash :=
  match node.submitOne info.bestHash extrinsic with
  | some _ => do
    .modify fun w => { w with accepted := w.accepted ++ [⟨info.bestNumber, extrinsic⟩] }
    pure info.bestHash
  | none => do
    .modify fun w => { w with lastSubmittedBlock := none }
    .fail .transactionSubmissionFailed

/-- The part of `submit_pulse` that takes the slot and submits. -/
def markAndSubmit (authorityId : Vector UInt8 32) (asig : Bytes) (start «end» : RoundNumber) :
    Action GadgetError PulseWorker Hash := do
  .modify fun w => { w with lastSubmittedBlock := some info.bestNumber }
  let extrinsic ← .ofExcept (node.construct authorityId info.bestHash asig start «end»)
  handOver node info extrinsic

/-- `submit_pulse`, run without another call beside it. -/
def submitPulse (asig : Bytes) (start «end» : RoundNumber) :
    Action GadgetError PulseWorker Hash := do
  let authorityId ← .okOr node.publicKeys.head? .noAuthorityKeys
  let worker ← .get
  if worker.lastSubmittedBlock = some info.bestNumber then
    pure info.bestHash
  else
    markAndSubmit node info authorityId asig start «end»

end

section

variable {Hash : Type} {node : Node Hash} {info : Info Hash}
variable {asig signature : Bytes} {start «end» : RoundNumber}

/-- The runtime builds an extrinsic for the rounds it is given. -/
theorem Node.carries_of_buildExtrinsic {atHash : Hash} {extrinsic : Extrinsic}
    (h : node.buildExtrinsic atHash asig start «end» signature = .ok extrinsic) :
    Carries start «end» extrinsic := by
  unfold Node.buildExtrinsic at h
  cases hapi : node.apiFailure atHash with
  | some message =>
    rw [hapi] at h
    cases h
  | none =>
    rw [hapi] at h
    cases hsig : tryIntoArray 64 signature with
    | none =>
      simp only [RuntimeApi.buildExtrinsic, hsig, bind, Option.bind] at h
      cases h
    | some sigArray =>
      simp only [RuntimeApi.buildExtrinsic, hsig, bind, Option.bind, pure] at h
      exact ⟨_, sigArray, (Except.ok.inj h).symm⟩

theorem Node.carries_of_construct {authorityId : Vector UInt8 32} {bestHash : Hash}
    {extrinsic : Extrinsic}
    (h : node.construct authorityId bestHash asig start «end» = .ok extrinsic) :
    Carries start «end» extrinsic := by
  obtain ⟨signature, -, hbuild⟩ := except_bind_ok.mp h
  exact Node.carries_of_buildExtrinsic (except_mapError_ok.mp hbuild)

/-- The ways a call can end, each with what it leaves in the worker. -/
inductive Outcome (node : Node Hash) (info : Info Hash) (asig : Bytes) (start «end» : RoundNumber)
    (w : PulseWorker) : Except GadgetError Hash × PulseWorker → Prop
  | keyless (keys : node.publicKeys.head? = none) :
      Outcome node info asig start «end» w (.error .noAuthorityKeys, w)
  | skipped {authorityId : Vector UInt8 32} (keys : node.publicKeys.head? = some authorityId)
      (mark : w.lastSubmittedBlock = some info.bestNumber) :
      Outcome node info asig start «end» w (.ok info.bestHash, w)
  | unconstructed {authorityId : Vector UInt8 32} {e : GadgetError}
      (keys : node.publicKeys.head? = some authorityId)
      (mark : w.lastSubmittedBlock ≠ some info.bestNumber)
      (construct : node.construct authorityId info.bestHash asig start «end» = .error e) :
      Outcome node info asig start «end» w
        (.error e, { w with lastSubmittedBlock := some info.bestNumber })
  | refused {authorityId : Vector UInt8 32} {extrinsic : Extrinsic}
      (keys : node.publicKeys.head? = some authorityId)
      (mark : w.lastSubmittedBlock ≠ some info.bestNumber)
      (construct : node.construct authorityId info.bestHash asig start «end» = .ok extrinsic)
      (pool : node.submitOne info.bestHash extrinsic = none) :
      Outcome node info asig start «end» w
        (.error .transactionSubmissionFailed, { w with lastSubmittedBlock := none })
  | accepted {authorityId : Vector UInt8 32} {extrinsic : Extrinsic} {hash : Hash}
      (keys : node.publicKeys.head? = some authorityId)
      (mark : w.lastSubmittedBlock ≠ some info.bestNumber)
      (construct : node.construct authorityId info.bestHash asig start «end» = .ok extrinsic)
      (pool : node.submitOne info.bestHash extrinsic = some hash) :
      Outcome node info asig start «end» w
        (.ok info.bestHash,
          ⟨some info.bestNumber, w.accepted ++ [⟨info.bestNumber, extrinsic⟩]⟩)

theorem submitPulse_outcome (node : Node Hash) (info : Info Hash) (asig : Bytes)
    (start «end» : RoundNumber) (w : PulseWorker) :
    Outcome node info asig start «end» w (submitPulse node info asig start «end» w) := by
  unfold submitPulse
  cases hkey : node.publicKeys.head? with
  | none => exact .keyless hkey
  | some authorityId =>
    show Outcome node info asig start «end» w
      ((if w.lastSubmittedBlock = some info.bestNumber then pure info.bestHash
        else markAndSubmit node info authorityId asig start «end» : Action _ _ _) w)
    split
    next hmark => exact .skipped hkey hmark
    next hmark =>
      unfold markAndSubmit
      cases hconstruct : node.construct authorityId info.bestHash asig start «end» with
      | error e => exact .unconstructed hkey hmark hconstruct
      | ok extrinsic =>
        show Outcome node info asig start «end» w
          (handOver node info extrinsic { w with lastSubmittedBlock := some info.bestNumber })
        unfold handOver
        cases hpool : node.submitOne info.bestHash extrinsic with
        | none => exact .refused hkey hmark hconstruct hpool
        | some hash => exact .accepted hkey hmark hconstruct hpool

/-- A call that succeeds had a key. -/
theorem keys_of_submitPulse_ok {w w' : PulseWorker} {hash : Hash}
    (h : submitPulse node info asig start «end» w = (.ok hash, w')) : node.publicKeys ≠ [] := by
  have houtcome := submitPulse_outcome node info asig start «end» w
  rw [h] at houtcome
  intro hnil
  cases houtcome with
  | skipped keys mark => cases hnil ▸ keys
  | accepted keys mark construct pool => cases hnil ▸ keys

/-- A second call at one best block returns the hash of that block and does
nothing. -/
theorem submitPulse_of_marked {w : PulseWorker} (hkeys : node.publicKeys ≠ [])
    (h : w.lastSubmittedBlock = some info.bestNumber) :
    submitPulse node info asig start «end» w = (.ok info.bestHash, w) := by
  have houtcome := submitPulse_outcome node info asig start «end» w
  generalize submitPulse node info asig start «end» w = result at houtcome
  cases houtcome with
  | keyless keys => exact absurd (List.head?_eq_none_iff.mp keys) hkeys
  | skipped keys mark => rfl
  | unconstructed keys mark construct => exact absurd h mark
  | refused keys mark construct pool => exact absurd h mark
  | accepted keys mark construct pool => exact absurd h mark

/-- A call that succeeds past the check of the slot had the pool accept an
extrinsic with its rounds. -/
theorem submitPulse_ok {w w' : PulseWorker} {hash : Hash}
    (hmark : w.lastSubmittedBlock ≠ some info.bestNumber)
    (h : submitPulse node info asig start «end» w = (.ok hash, w')) :
    ∃ extrinsic, Carries start «end» extrinsic ∧
      w' = ⟨some info.bestNumber, w.accepted ++ [⟨info.bestNumber, extrinsic⟩]⟩ := by
  have houtcome := submitPulse_outcome node info asig start «end» w
  rw [h] at houtcome
  cases houtcome with
  | skipped keys mark => exact absurd mark hmark
  | accepted keys mark construct pool => exact ⟨_, Node.carries_of_construct construct, rfl⟩

end

/-- A node with one key, at which only the pool may fail. -/
def sampleNode (accepts : Bool) : Node Unit where
  publicKeys := [Vector.replicate 32 0]
  signWith _ _ := .ok (some (List.replicate 64 0))
  apiFailure _ := none
  apiTrap := "trap"
  submitOne _ _ := if accepts then some () else none

end IdealNetwork.Client
