import IdealNetwork.Crypto
import IdealNetwork.Lib.Action
import IdealNetwork.Types

/-!
# The beacon pallet

Block authors submit aggregated beacon signatures with `try_submit_asig`. A
signature that verifies for rounds not seen before is stored as the sparse
accumulation and dispatched as a pulse, at most once in a block: the
`DidUpdate` flag it sets is taken by `on_finalize`.

`Config` collects what the runtime supplies, and `Env` what a call finds in
its block: the author, and the dispatcher. The dispatcher's own storage is a
parameter `D`, so that any pallet can stand there.
-/

set_option autoImplicit false

namespace IdealNetwork.Beacon

open Scale Storage Crypto

inductive Error where
  | beaconConfigNotSet
  | excessiveHeightProvided
  | invalidSignature
  | signatureAlreadyVerified
  | serializationFailed
  | startExpired
  | verificationFailed
  | zeroHeightProvided
deriving DecidableEq, Repr

abbrev Err := DispatchError Error

inductive Event where
  | beaconConfigSet
  | signatureVerificationSuccess
deriving DecidableEq, Repr

/-- An aggregated signature and its rounds. -/
structure Accumulation where
  signature : OpaqueSignature
  start : RoundNumber
  «end» : RoundNumber
deriving DecidableEq

/-- `RuntimePulse::from`. -/
def Accumulation.toPulse (acc : Accumulation) : RuntimePulse := ⟨acc.signature, acc.start, acc.end⟩

structure Config (G₁ G₂ Gt : Type) where
  engine : Engine G₁ G₂ Gt
  /-- `T::SignatureVerifier::verify`. -/
  signatureVerifier : Bytes → Bytes → Bytes → Except CryptoError Unit
  maxSigsPerBlock : UInt8
  /-- The signatures of block authors, and their check. -/
  Signature : Type
  verify : Signature → Bytes → AccountId32 → Bool

/-- What a call finds in its block: the author that its digest names, and
what dispatching a pulse does. -/
structure Env (D : Type) where
  findAuthor : Option AccountId32
  dispatch : RuntimePulse → D → D

/-- The pallet's storage, its events, and the dispatcher's storage. The flag
is absent until it is put. -/
structure State (D : Type) where
  beaconConfig : Option OpaquePublicKey
  nextRound : RoundNumber
  sparseAccumulation : Option Accumulation
  didUpdate : Option Bool
  events : List Event
  dispatcher : D

abbrev PalletM (D α : Type) := Action Err (State D) α

section

variable {G₁ G₂ Gt D : Type} [AddCommGroup G₁] (T : Config G₁ G₂ Gt) (env : Env D)

/-- Deposit an event. -/
def depositEvent (event : Event) : PalletM D Unit :=
  .modify fun s => { s with events := s.events ++ [event] }

/-- The sum of the points of some rounds. -/
def aggregateMessage (rounds : List RoundNumber) : Except CryptoError G₁ :=
  rounds.foldlM (fun amsg r => do
    let msg ← computeRoundOnG1 T.engine r
    pure (amsg + msg)) zeroOnG1

def verifyBeaconSignature (pk : OpaquePublicKey) (asig : OpaqueSignature)
    (start «end» : RoundNumber) : Except Err Unit := do
  let amsg ← (aggregateMessage T (UInt64.rangeInclusive start «end»)).mapError
    fun _ => .module .serializationFailed
  let amsgBytes ← (orError (T.engine.serializeCompressed amsg) .serializeG1Failure).mapError
    fun _ => .module .serializationFailed
  (T.signatureVerifier pk.toList asig.toList amsgBytes).mapError
    fun _ => .module .verificationFailed

/-- The block author signed the payload. -/
def verifySignature (payload : Bytes) (signature : T.Signature) : PalletM D Unit := do
  let authorId ← .okOr env.findAuthor (.other "No block author found")
  .ensure (T.verify signature payload authorId = true) (.module .invalidSignature)

def trySubmitAsig (origin : Origin) (asig : OpaqueSignature) (start «end» : RoundNumber)
    (signature : T.Signature) : PalletM D Unit := do
  .ensure (origin = .none) .badOrigin
  let payload := encode (α := Bytes) asig.toList ++ encode start ++ encode «end»
  verifySignature T env payload signature
  let s ← .get
  .ensure (s.didUpdate = none) (.module .signatureAlreadyVerified)
  let pk ← .okOr s.beaconConfig (.module .beaconConfigNotSet)
  let height := «end».saturatingSub start
  -- one round is a range of height zero, and so is an empty range
  .when (height = 0) (.ensure (start = «end») (.module .zeroHeightProvided))
  .ensure (height ≤ T.maxSigsPerBlock.toUInt64) (.module .excessiveHeightProvided)
  .when (0 < s.nextRound) (.ensure (s.nextRound ≤ start) (.module .startExpired))
  .ofExcept (verifyBeaconSignature T pk asig start «end»)
  let sacc : Accumulation := ⟨asig, start, «end»⟩
  .modify fun s =>
    { s with
      nextRound := «end».saturatingAdd 1
      sparseAccumulation := some sacc
      didUpdate := some true
      dispatcher := env.dispatch sacc.toPulse s.dispatcher }
  depositEvent .signatureVerificationSuccess

def setBeaconConfig (origin : Origin) (pk : OpaquePublicKey) : PalletM D Unit := do
  .ensure (origin = .root) .badOrigin
  .modify fun s => { s with beaconConfig := some pk }
  depositEvent .beaconConfigSet

/-- The hook takes the flag. What else it does is log. -/
def onFinalize (s : State D) : State D := { s with didUpdate := none }

inductive Call (Signature : Type) where
  | trySubmitAsig (asig : OpaqueSignature) (start «end» : RoundNumber) (signature : Signature)
  | setBeaconConfig (pk : OpaquePublicKey)

/-- The body of a call. -/
def perform (origin : Origin) : Call T.Signature → PalletM D Unit
  | .trySubmitAsig asig start «end» signature =>
    trySubmitAsig T env origin asig start «end» signature
  | .setBeaconConfig pk => setBeaconConfig origin pk

/-- A call, in its storage layer. -/
def dispatch (origin : Origin) (call : Call T.Signature) : PalletM D Unit :=
  .transactional (perform T env origin call)

end

/-! ## Verification -/

section

variable {G₁ G₂ Gt : Type} [AddCommGroup G₁] {T : Config G₁ G₂ Gt}

/-- The loop fails if one of its rounds does. -/
theorem aggregateMessage_ok {rounds : List RoundNumber} {amsg : G₁}
    (h : aggregateMessage T rounds = .ok amsg) :
    ∀ r ∈ rounds, ∃ P, computeRoundOnG1 T.engine r = .ok P := by
  unfold aggregateMessage at h
  generalize (zeroOnG1 : G₁) = start at h
  induction rounds generalizing start with
  | nil => nofun
  | cons r rest ih =>
    rw [List.foldlM_cons] at h
    cases hr : computeRoundOnG1 T.engine r with
    | error e =>
      rw [hr] at h
      cases h
    | ok P =>
      rw [hr] at h
      exact List.forall_mem_cons.mpr ⟨⟨P, hr⟩, ih _ h⟩

/-- The loop computes the sum of the points of its rounds. -/
theorem aggregateMessage_eq {rounds : List RoundNumber} {H : RoundNumber → G₁}
    (h : ∀ r ∈ rounds, computeRoundOnG1 T.engine r = .ok (H r)) :
    aggregateMessage T rounds = .ok (rounds.map H).sum := by
  have hloop : ∀ start : G₁, rounds.foldlM (fun amsg r => do
      let msg ← computeRoundOnG1 T.engine r
      pure (amsg + msg)) start = Except.ok (start + (rounds.map H).sum) := by
    induction rounds with
    | nil =>
      intro start
      rw [List.map_nil, List.sum_nil, add_zero]
      rfl
    | cons r rest ih =>
      intro start
      rw [List.foldlM_cons, h r List.mem_cons_self, List.map_cons, List.sum_cons, ← add_assoc]
      exact ih (fun r' hr' => h r' (List.mem_cons_of_mem r hr')) (start + H r)
  rw [aggregateMessage, hloop]
  exact congrArg Except.ok (zero_add _)

theorem verifyBeaconSignature_ok {pk : OpaquePublicKey} {asig : OpaqueSignature}
    {start «end» : RoundNumber} :
    verifyBeaconSignature T pk asig start «end» = .ok () ↔
      ∃ amsg bytes, aggregateMessage T (UInt64.rangeInclusive start «end») = .ok amsg ∧
        T.engine.serializeCompressed amsg = some bytes ∧
        T.signatureVerifier pk.toList asig.toList bytes = .ok () := by
  simp only [verifyBeaconSignature, except_bind_ok, except_mapError_ok, orError_ok,
    exists_and_left]

end

end IdealNetwork.Beacon
