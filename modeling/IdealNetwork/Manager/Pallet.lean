import IdealNetwork.Lib.Action
import IdealNetwork.Lib.Holds
import IdealNetwork.Lib.StorageMap
import IdealNetwork.Manager.Fees

/-!
# The manager pallet

Subscriptions to randomness: created, paused, reactivated, updated and
killed by their owners, served and charged by `distribute` on every pulse,
and removed by the `on_finalize` hook once they are finalized.

`Config` collects what the runtime supplies. Its constants are the
runtime's; its functions stand for code of other repositories: the currency,
the map hasher, the digest, and the conversions between locations and
accounts. What one call finds outside the pallet, the block it runs in and
what becomes of the messages it sends, is its `Env`.

Calls are dispatched inside a storage layer (`dispatch`). The hook and
`distribute` are not, so what a failing step of theirs already wrote stays.
-/

set_option autoImplicit false

namespace IdealNetwork.Manager

open Scale Storage Holds

/-! ## Configuration and storage -/

inductive Error where
  | subscriptionAlreadyExists
  | subscriptionDoesNotExist
  | subscriptionAlreadyActive
  | subscriptionInvalidTransition
  | subscriptionNotUpdatable
  | notSubscriber
  | tooManySubscriptions
  | invalidSubscriber
  | invalidParams
  | xcmSendError
deriving DecidableEq, Repr

abbrev Err := DispatchError Error

inductive HoldReason where
  | fees
  | storageDeposit
deriving DecidableEq, Repr

inductive Event where
  | subscriptionCreated (subId : SubscriptionId)
  | subscriptionTerminated (subId : SubscriptionId)
  | subscriptionPaused (subId : SubscriptionId)
  | subscriptionUpdated (subId : SubscriptionId)
  | subscriptionReactivated (subId : SubscriptionId)
  | randomnessDistributed (subId : SubscriptionId)
  | feesCollected (subId : SubscriptionId) (fees : ℕ)
  | subQuoted (requester : Location) (quote : Quote)
  | subscriptionDistributed (subId : SubscriptionId)
deriving DecidableEq

/-- A fungible asset, by the location that issues it. -/
structure Asset where
  id : Location
  amount : ℕ
deriving DecidableEq

/-- The XCM instructions the pallet sends. A missing weight limit is
`Unlimited`. -/
inductive Instruction where
  | withdrawAsset (asset : Asset)
  | buyExecution (fees : Asset) (weightLimit : Option ℕ)
  | transact (originKind : OriginKind) (fallbackMaxWeight : Option ℕ) (call : Bytes)
  | refundSurplus
  | depositAsset (allOf : Location) (beneficiary : Location)
deriving DecidableEq

/-- A program handed to the XCM sender, with its sender and target. -/
structure XcmMessage where
  sender : AccountId32
  target : Location
  program : List Instruction
deriving DecidableEq

structure Config where
  currency : Currency AccountId32 HoldReason Err
  hasher : Hasher SubscriptionId
  blake2 : Bytes → Vector UInt8 32
  xcmLocationToAccountId : Location → Option AccountId32
  localOriginToLocation : AccountId32 → Option Location
  baseFee : UInt64
  treasuryAccount : AccountId32
  sdMultiplier : ℕ
  maxSubscriptions : UInt32
  maxTerminatableSubs : UInt32
  maxXcmFees : ℕ

/-- What a call finds outside the pallet: the current block, and what the
XCM sender answers to a message. What the sender of a message is charged for its
delivery is not part of it. -/
structure Env where
  blockNumber : BlockNumber
  send : XcmMessage → Except Err Unit

/-- The pallet's storage, the currency's ledger, the events deposited and
the messages the sender took, oldest first. -/
structure State (T : Config) where
  subscriptions : Map SubscriptionId SubscriptionOf
  subCounter : UInt32
  ledger : T.currency.Ledger
  events : List Event
  sent : List XcmMessage

abbrev PalletM (T : Config) (α : Type) := Action Err (State T) α

section

variable (T : Config)

/-- Deposit an event. -/
def depositEvent (event : Event) : PalletM T Unit :=
  .modify fun s => { s with events := s.events ++ [event] }

/-- Write a subscription. -/
def insertSubscription (subId : SubscriptionId) (sub : SubscriptionOf) : PalletM T Unit :=
  .modify fun s => { s with subscriptions := s.subscriptions.insert subId sub }

/-- Run an operation of the currency that reports an amount. -/
def onLedger (op : T.currency.Ledger → Except Err (ℕ × T.currency.Ledger)) : PalletM T ℕ :=
  fun s =>
    match op s.ledger with
    | .ok (amount, ledger) => (.ok amount, { s with ledger := ledger })
    | .error e => (.error e, s)

/-! ## Origins and identifiers -/

/-- `EnsureXcm<AllowSiblingsOnly>`. -/
def xcmOriginFilter : Origin → Option Location
  | .xcm location => if AllowSiblingsOnly.contains location then some location else none
  | _ => none

/-- `ensure_signed`. -/
def ensureSigned : Origin → Except Err AccountId32
  | .signed who => .ok who
  | _ => .error .badOrigin

/-- `ensure_signed_or_valid_xcm_origin`. -/
def ensureSignedOrValidXcmOrigin (origin : Origin) : Except Err AccountId32 :=
  match xcmOriginFilter origin with
  | some location =>
    match T.xcmLocationToAccountId location with
    | some who => .ok who
    | none => .error (.module .invalidSubscriber)
  | none => ensureSigned origin

/-- `generate_sub_id`: the digest of the parameters, salted with the block and
the subscriber. -/
def generateSubId (subscriber : AccountId32) (params : CreateSubParamsOf)
    (currentBlock : BlockNumber) : SubscriptionId :=
  let salt : Bytes := encode currentBlock ++ encode subscriber
  T.blake2 (encode params ++ encode salt)

/-- `extract_parachain_location`. -/
def extractParachainLocation (location : Location) : Except Err Location :=
  match location.parents, location.interior.toList with
  | 1, .parachain id :: _ => .ok (.sibling id)
  | _, _ => .error (.module .invalidSubscriber)

/-! ## Deposits and holds -/

/-- `DepositCalculatorImpl::calculate_storage_deposit`. -/
def calculateStorageDeposit (sub : SubscriptionOf) : ℕ :=
  saturatingMul128 T.sdMultiplier (min (encodedSize sub) (2 ^ 64 - 1))

/-- `DepositCalculatorImpl::calculate_diff_deposit`. -/
def calculateDiffDeposit (oldSub newSub : SubscriptionOf) : DiffBalance :=
  let oldDeposit := calculateStorageDeposit T oldSub
  let newDeposit := calculateStorageDeposit T newSub
  let direction : BalanceDirection :=
    if oldDeposit < newDeposit then .collect
    else if newDeposit < oldDeposit then .release
    else .none
  ⟨newDeposit - oldDeposit, direction⟩

/-- `T::Currency::hold` under a reason. -/
def holdFor (reason : HoldReason) (who : AccountId32) (amount : ℕ) : PalletM T Unit := fun s =>
  match T.currency.hold reason who amount s.ledger with
  | .ok ledger => (.ok (), { s with ledger := ledger })
  | .error e => (.error e, s)

/-- `hold_fees`. -/
def holdFees (subscriber : AccountId32) (fees : ℕ) : PalletM T Unit :=
  holdFor T .fees subscriber fees

/-- `release_fees`: exactly, or not at all. -/
def releaseFees (subscriber : AccountId32) (fees : ℕ) : PalletM T Unit := do
  let _ ← onLedger T (T.currency.release .fees subscriber fees .exact)
  pure ()

/-- `manage_diff_fees`. -/
def manageDiffFees (subscriber : AccountId32) (diff : DiffBalance) : PalletM T Unit :=
  match diff.direction with
  | .collect => holdFees T subscriber diff.balance
  | .release => releaseFees T subscriber diff.balance
  | .none => pure ()

/-- `hold_deposit`. -/
def holdDeposit (subscriber : AccountId32) (deposit : ℕ) : PalletM T Unit :=
  holdFor T .storageDeposit subscriber deposit

/-- `release_deposit`: as much of it as is held. -/
def releaseDeposit (subscriber : AccountId32) (deposit : ℕ) : PalletM T Unit := do
  let _ ← onLedger T (T.currency.release .storageDeposit subscriber deposit .bestEffort)
  pure ()

/-- `manage_diff_deposit`. -/
def manageDiffDeposit (subscriber : AccountId32) (diff : DiffBalance) : PalletM T Unit :=
  match diff.direction with
  | .collect => holdDeposit T subscriber diff.balance
  | .release => releaseDeposit T subscriber diff.balance
  | .none => pure ()

/-! ## Charging and sending -/

/-- `FeesError`. -/
inductive FeesError where
  | notEnoughBalance (needed balance : ℕ)
  | other (context : Err)
deriving DecidableEq

/-- `FeesManagerImpl::collect_fees`: a best-effort transfer from the fees hold
to the treasury, reported as an error when it fell short. -/
def feesManagerCollectFees (fees : ℕ) (sub : SubscriptionOf) : Action FeesError (State T) ℕ := do
  let collected ← .mapError .other <| onLedger T <|
    T.currency.transferOnHold .fees sub.details.subscriber T.treasuryAccount fees
      .bestEffort .free .polite
  if collected < fees then .fail (.notEnoughBalance fees collected)
  else pure collected

/-- How the pallet reports a fees error. -/
def FeesError.toDispatchError : FeesError → Err
  | .notEnoughBalance _ _ => .other "NotEnoughBalance"
  | .other e => e

/-- `collect_fees`: charge a subscription for credits. -/
def collectFees (sub : SubscriptionOf) (creditsConsumed : Credits) : PalletM T Unit :=
  if creditsConsumed = 0 then pure ()
  else do
    let feesToCollect := (calculateDiffFees T.baseFee sub.creditsLeft
      (sub.creditsLeft.saturatingSub creditsConsumed)).balance
    let fees ← .mapError FeesError.toDispatchError (feesManagerCollectFees T feesToCollect sub)
    depositEvent T (.feesCollected sub.id fees)

/-- The program `xcm_send` sends: pay for execution, run the call, and give
the surplus back. -/
def xcmProgram (call : Bytes) (originKind : OriginKind) (beneficiary : Location) :
    List Instruction :=
  let feeAsset : Asset := ⟨.parent, T.maxXcmFees⟩
  [.withdrawAsset feeAsset, .buyExecution feeAsset none, .transact originKind none call,
    .refundSurplus, .depositAsset feeAsset.id beneficiary]

/-- `xcm_send`. -/
def xcmSend (env : Env) (acc : AccountId32) (target : Location) (call : Bytes)
    (originKind : OriginKind) : PalletM T Unit := do
  let beneficiary ← .okOr (T.localOriginToLocation acc) (.module .xcmSendError)
  let message : XcmMessage := ⟨acc, target, xcmProgram T call originKind beneficiary⟩
  .ofExcept (env.send message)
  .modify fun s => { s with sent := s.sent ++ [message] }

/-! ## Calls -/

/-- `Subscriptions::try_mutate` on a stored subscription: the record is written
back when the closure succeeds. -/
def tryMutate (subId : SubscriptionId)
    (f : Option SubscriptionOf → PalletM T SubscriptionOf) : PalletM T Unit := do
  let s ← .get
  let sub ← f (s.subscriptions.lookup subId)
  insertSubscription T subId sub

/-- The record of a new subscription. -/
def newSubscription (env : Env) (subscriber : AccountId32) (subId : SubscriptionId)
    (params : CreateSubParamsOf) : SubscriptionOf where
  id := subId
  details :=
    { subscriber := subscriber
      target := params.target
      call := params.call
      originKind := params.originKind }
  creditsLeft := params.credits
  state := .active
  createdAt := env.blockNumber
  updatedAt := env.blockNumber
  credits := params.credits
  frequency := params.frequency
  metadata := params.metadata
  lastDelivered := none

/-- The id of a new subscription: the one asked for, or a generated one. -/
def newSubId (env : Env) (subscriber : AccountId32) (params : CreateSubParamsOf) :
    SubscriptionId :=
  params.subId.getD (generateSubId T subscriber params env.blockNumber)

/-- `create_subscription`. -/
def createSubscription (env : Env) (origin : Origin) (params : CreateSubParamsOf) :
    PalletM T Unit := do
  let subscriber ← .ofExcept (ensureSignedOrValidXcmOrigin T origin)
  .ensure (params.credits ≠ 0) (.module .invalidParams)
  let s ← .get
  .ensure (s.subCounter < T.maxSubscriptions) (.module .tooManySubscriptions)
  let subId := newSubId T env subscriber params
  .ensure (subId ∉ s.subscriptions) (.module .subscriptionAlreadyExists)
  let subscription := newSubscription env subscriber subId params
  holdFees T subscriber (calculateSubscriptionFees T.baseFee params.credits)
  holdDeposit T subscriber (calculateStorageDeposit T subscription)
  insertSubscription T subId subscription
  .modify fun s => { s with subCounter := s.subCounter.saturatingInc }
  depositEvent T (.subscriptionCreated subId)

/-- `pause_subscription`. -/
def pauseSubscription (origin : Origin) (subId : SubscriptionId) : PalletM T Unit := do
  let subscriber ← .ofExcept (ensureSignedOrValidXcmOrigin T origin)
  tryMutate T subId fun maybeSub => do
    let sub ← .okOr maybeSub (.module .subscriptionDoesNotExist)
    .ensure (sub.details.subscriber = subscriber) (.module .notSubscriber)
    .ensure (sub.state = .active) (.module .subscriptionInvalidTransition)
    depositEvent T (.subscriptionPaused subId)
    pure { sub with state := .paused }

/-- `reactivate_subscription`. -/
def reactivateSubscription (origin : Origin) (subId : SubscriptionId) : PalletM T Unit := do
  let subscriber ← .ofExcept (ensureSignedOrValidXcmOrigin T origin)
  tryMutate T subId fun maybeSub => do
    let sub ← .okOr maybeSub (.module .subscriptionDoesNotExist)
    .ensure (sub.details.subscriber = subscriber) (.module .notSubscriber)
    .ensure (sub.state = .paused) (.module .subscriptionInvalidTransition)
    depositEvent T (.subscriptionReactivated subId)
    pure { sub with state := .active }

/-- `terminate_subscription`. -/
def terminateSubscription (sub : SubscriptionOf) (subId : SubscriptionId) : PalletM T Unit := do
  let feesDiff := calculateDiffFees T.baseFee sub.creditsLeft 0
  let sd := calculateStorageDeposit T sub
  manageDiffFees T sub.details.subscriber feesDiff
  releaseDeposit T sub.details.subscriber sd
  .modify fun s => { s with subscriptions := s.subscriptions.erase subId }
  .modify fun s => { s with subCounter := s.subCounter.saturatingDec }
  depositEvent T (.subscriptionTerminated subId)

/-- `kill_subscription`. -/
def killSubscription (origin : Origin) (subId : SubscriptionId) : PalletM T Unit := do
  let subscriber ← .ofExcept (ensureSignedOrValidXcmOrigin T origin)
  let s ← .get
  let sub ← .okOr (s.subscriptions.lookup subId) (.module .subscriptionDoesNotExist)
  .ensure (sub.details.subscriber = subscriber) (.module .notSubscriber)
  terminateSubscription T sub subId

/-- The record `update_subscription` writes: the requested fields, and the
block of the update. `credits_left` is not among them. -/
def applyUpdate (env : Env) (params : UpdateSubParamsOf) (sub : SubscriptionOf) :
    SubscriptionOf :=
  { sub with
    credits := params.credits.getD sub.credits
    frequency := params.frequency.getD sub.frequency
    metadata := params.metadata.getD sub.metadata
    updatedAt := env.blockNumber }

/-- The fees that an update asks for, over the credits bought before and after. -/
def updateFeesDiff (params : UpdateSubParamsOf) (sub : SubscriptionOf) : DiffBalance :=
  match params.credits with
  | some credits => calculateDiffFees T.baseFee sub.credits credits
  | none => ⟨0, .none⟩

/-- `update_subscription`. The source clones the record after it has been
changed, so the deposit difference compares the new record with itself. -/
def updateSubscription (env : Env) (origin : Origin) (params : UpdateSubParamsOf) :
    PalletM T Unit := do
  let subscriber ← .ofExcept (ensureSignedOrValidXcmOrigin T origin)
  tryMutate T params.subId fun maybeSub => do
    let sub ← .okOr maybeSub (.module .subscriptionDoesNotExist)
    .ensure (sub.details.subscriber = subscriber) (.module .notSubscriber)
    .ensure (sub.state = .active ∨ sub.state = .paused) (.module .subscriptionNotUpdatable)
    let feesDiff := updateFeesDiff T params sub
    let sub := applyUpdate env params sub
    let oldSub := sub
    let depositDiff := calculateDiffDeposit T sub oldSub
    manageDiffFees T subscriber feesDiff
    manageDiffDeposit T subscriber depositDiff
    depositEvent T (.subscriptionUpdated params.subId)
    pure sub

/-- `calculate_storage_deposit_from_create_params`: the deposit of a dummy
record with a default id and origin kind. -/
def calculateStorageDepositFromCreateParams (env : Env) (subscriber : AccountId32)
    (params : CreateSubParamsOf) : ℕ :=
  calculateStorageDeposit T
    (newSubscription env subscriber (Vector.replicate 32 0) { params with originKind := .xcm })

/-- The requester of a quote or of a subscription's data, with the parachain
to answer and the account that pays for the answer. -/
def ensureRequester (origin : Origin) : Except Err (Location × Location × AccountId32) := do
  let requester ← (xcmOriginFilter origin).elim (.error .badOrigin) .ok
  let target ← extractParachainLocation requester
  let acc ← (T.xcmLocationToAccountId requester).elim (.error (.module .invalidSubscriber)) .ok
  .ok (requester, target, acc)

/-- `quote_subscription`. -/
def quoteSubscription (env : Env) (origin : Origin) (params : QuoteSubParamsOf) :
    PalletM T Unit := do
  let (requester, target, acc) ← .ofExcept (ensureRequester T origin)
  let createSubParams := params.quoteRequest.createSubParams
  let deposit := calculateStorageDepositFromCreateParams T env acc createSubParams
  let credits := calculateCredits createSubParams.frequency params.quoteRequest.lifetimePulses
  let fees := calculateSubscriptionFees T.baseFee credits
  let quote : Quote := ⟨params.quoteRequest.reqRef, fees, deposit⟩
  xcmSend T env acc target (params.call.toList ++ encode quote) params.originKind
  depositEvent T (.subQuoted requester quote)

/-- `get_subscription_info`. -/
def getSubscriptionInfo (env : Env) (origin : Origin) (req : SubInfoRequestOf) :
    PalletM T Unit := do
  let (_, target, acc) ← .ofExcept (ensureRequester T origin)
  let s ← .get
  let sub ← .okOr (s.subscriptions.lookup req.subId) (.module .subscriptionDoesNotExist)
  let response : SubInfoResponse SubscriptionOf := ⟨req.reqRef, sub⟩
  xcmSend T env acc target (req.call.toList ++ encode response) req.originKind
  depositEvent T (.subscriptionDistributed req.subId)

/-- The dispatchable calls. -/
inductive Call where
  | createSubscription (params : CreateSubParamsOf)
  | pauseSubscription (subId : SubscriptionId)
  | killSubscription (subId : SubscriptionId)
  | updateSubscription (params : UpdateSubParamsOf)
  | reactivateSubscription (subId : SubscriptionId)
  | quoteSubscription (params : QuoteSubParamsOf)
  | getSubscriptionInfo (req : SubInfoRequestOf)

/-- Run a call inside its storage layer. -/
def dispatch (env : Env) (origin : Origin) (call : Call) : PalletM T Unit :=
  Action.transactional <|
    match call with
    | .createSubscription params => createSubscription T env origin params
    | .pauseSubscription subId => pauseSubscription T origin subId
    | .killSubscription subId => killSubscription T origin subId
    | .updateSubscription params => updateSubscription T env origin params
    | .reactivateSubscription subId => reactivateSubscription T origin subId
    | .quoteSubscription params => quoteSubscription T env origin params
    | .getSubscriptionInfo req => getSubscriptionInfo T env origin req

/-! ## Distribution -/

/-- `get_min_credits`. -/
def getMinCredits (sub : SubscriptionOf) : Credits := getIdleCredits (some sub)

/-- Whether a subscription is due a pulse in the current block. The sum wraps. -/
def Eligible (env : Env) (sub : SubscriptionOf) : Prop :=
  sub.state = .active ∧
    ∀ lastDelivered, sub.lastDelivered = some lastDelivered →
      lastDelivered + sub.frequency ≤ env.blockNumber

instance (env : Env) (sub : SubscriptionOf) : Decidable (Eligible env sub) :=
  match h : sub.lastDelivered with
  | none => decidable_of_iff (sub.state = .active) (by simp [Eligible, h])
  | some b => decidable_of_iff (sub.state = .active ∧ b + sub.frequency ≤ env.blockNumber)
      (by simp [Eligible, h])

/-- The call data of a delivery: the subscriber's call, the pulse and the id. -/
def deliveryCall (pulse : RuntimePulse) (subId : SubscriptionId) (sub : SubscriptionOf) : Bytes :=
  sub.details.call.toList ++ encode (pulse, subId)

/-- `pause_subscription_on_error`. -/
def pauseSubscriptionOnError (subId : SubscriptionId) (sub : SubscriptionOf) (s : State T) :
    State T :=
  { s with
    subscriptions := s.subscriptions.insert subId { sub with state := .paused }
    events := s.events ++ [.subscriptionPaused subId] }

/-- A subscription with too few credits left for a block is finalized. -/
def finalizeIfExhausted (sub : SubscriptionOf) : SubscriptionOf :=
  if sub.state ≠ .finalized ∧ sub.creditsLeft < getMinCredits sub then
    { sub with state := .finalized }
  else sub

/-- The end of an iteration: finalize if need be, and store the record. -/
def finishIteration (subId : SubscriptionId) (sub : SubscriptionOf) (s : State T) : State T :=
  { s with subscriptions := s.subscriptions.insert subId (finalizeIfExhausted sub) }

/-- The record once a pulse has been paid for. -/
def recordDelivery (env : Env) (sub : SubscriptionOf) : SubscriptionOf :=
  { sub with
    creditsLeft := sub.creditsLeft.saturatingSub (getConsumeCredits (some sub))
    lastDelivered := some env.blockNumber }

/-- The record after a block without a pulse. -/
def recordIdle (sub : SubscriptionOf) : SubscriptionOf :=
  { sub with creditsLeft := sub.creditsLeft.saturatingSub (getIdleCredits (some sub)) }

/-- Send a subscription its pulse. -/
def sendPulse (env : Env) (pulse : RuntimePulse) (subId : SubscriptionId)
    (sub : SubscriptionOf) : PalletM T Unit :=
  xcmSend T env sub.details.subscriber sub.details.target (deliveryCall pulse subId sub)
    sub.details.originKind

/-- One iteration of the loop of `distribute`. -/
def distributeOne (env : Env) (pulse : RuntimePulse) (subId : SubscriptionId)
    (sub : SubscriptionOf) (s : State T) : State T :=
  if Eligible env sub then
    match collectFees T sub (getConsumeCredits (some sub)) s with
    | (.error _, s) => pauseSubscriptionOnError T subId sub s
    | (.ok _, s) =>
      match sendPulse T env pulse subId (recordDelivery env sub) s with
      | (.error _, s) => pauseSubscriptionOnError T subId (recordDelivery env sub) s
      | (.ok _, s) =>
        finishIteration T subId (recordDelivery env sub)
          { s with events := s.events ++ [.randomnessDistributed subId] }
  else
    -- a failed collection is only logged
    let s := (collectFees T sub (getIdleCredits (some sub)) s).2
    finishIteration T subId (recordIdle sub) s

/-- `distribute`. -/
def distribute (env : Env) (pulse : RuntimePulse) (s : State T) : State T :=
  forEach (distributeOne T env pulse) (iter T.hasher s.subscriptions) s

/-- The subscriptions one `on_finalize` terminates. -/
def terminatable (s : State T) : List (SubscriptionId × SubscriptionOf) :=
  ((iter T.hasher s.subscriptions).filter fun e => e.2.state = .finalized).take
    T.maxTerminatableSubs.toNat

/-- `on_finalize`. -/
def onFinalize (s : State T) : State T :=
  forEach (fun subId sub s => (terminateSubscription T sub subId s).2) (terminatable T s) s

end

end IdealNetwork.Manager
