import IdealNetwork.Lib.Scale

/-!
# The types of the network

The data the manager pallet, the beacon pallet and their consumers share:
the runtime's choice of identifiers and integers, subscriptions and the
parameters of the calls that make and change them, XCM locations, and the
pulse that is delivered. Records are generic where the pallet's are, and the
runtime's instances follow them.

An XCM location is not defined in this repository. Only what the pallet
matches on is spelled out: the parachain and account junctions. Every other
junction is carried by its encoding.

Balances are `u128` in the runtime and `Nat` here: the currency never issues
more than fits, so sums and differences of balances do not wrap.
-/

set_option autoImplicit false

namespace IdealNetwork

open Scale

/-! ## Runtime choices -/

abbrev AccountId32 := Vector UInt8 32
abbrev SubscriptionId := Vector UInt8 32
abbrev BlockNumber := UInt32
abbrev Credits := UInt64
abbrev OpaquePublicKey := Vector UInt8 96
abbrev OpaqueSignature := Vector UInt8 48
abbrev RoundNumber := UInt64

/-- A vector of at most `bound` items. -/
structure BoundedVec (α : Type) (bound : Nat) where
  toList : List α
  length_le : toList.length ≤ bound
deriving DecidableEq

/-- A list becomes a vector if it fits, whatever the error is if it does not. -/
theorem BoundedVec.dite_ok {α ε : Type} {bound : Nat} {items : List α} {v : BoundedVec α bound}
    {e : ε} :
    (if h : items.length ≤ bound then Except.ok ⟨items, h⟩ else .error e) = .ok v ↔
      v.toList = items := by
  constructor
  · intro h
    split at h
    next hle =>
      cases h
      rfl
    next hlt => cases h
  · rintro rfl
    rw [dif_pos v.length_le]

instance {bound : Nat} : Encode (BoundedVec UInt8 bound) where
  encode v := encode (α := Bytes) v.toList

/-- `SubscriptionMetadata<MaxMetadataLen>`. -/
abbrev Metadata := BoundedVec UInt8 8

/-- `SubscriptionCallData<MaxCallDataLen>`. -/
abbrev CallData := BoundedVec UInt8 256

/-- The errors a call returns: its own pallet's, a bad origin, or one that
another part of the runtime explains by a message. -/
inductive DispatchError (ModuleError : Type) where
  | badOrigin
  | other (message : String)
  | module (error : ModuleError)
deriving DecidableEq, Repr

/-! ## Locations -/

/-- A network identifier, by its encoding. -/
structure NetworkId where
  encoded : Bytes
deriving DecidableEq

inductive Junction where
  | parachain (id : UInt32)
  | accountId32 (network : Option NetworkId) (id : AccountId32)
  | other (encoded : Bytes)
deriving DecidableEq

/-- An XCM location: how far to climb, and at most eight junctions down. -/
structure Location where
  parents : UInt8
  interior : BoundedVec Junction 8
deriving DecidableEq

instance : Encode NetworkId where
  encode n := n.encoded

instance : Encode Junction where
  encode
    | .parachain id => 0 :: compact id.toNat
    | .accountId32 network id => 1 :: (encode network ++ encode id)
    | .other encoded => encoded

instance : Encode Location where
  encode l := encode l.parents ++
    UInt8.ofNat l.interior.toList.length :: l.interior.toList.flatMap encode

/-- The relay chain, seen from a parachain. -/
def Location.parent : Location := ⟨1, ⟨[], by decide⟩⟩

/-- The sibling parachain `id`. -/
def Location.sibling (id : UInt32) : Location := ⟨1, ⟨[.parachain id], by simp⟩⟩

/-- `AllowSiblingsOnly::contains`: a sibling parachain, or an account on one. -/
def AllowSiblingsOnly.contains (location : Location) : Bool :=
  match location.parents, location.interior.toList with
  | 1, [.parachain _] => true
  | 1, [.parachain _, .accountId32 _ _] => true
  | _, _ => false

inductive OriginKind where
  | native
  | sovereignAccount
  | superuser
  | xcm
deriving DecidableEq, Repr

instance : Encode OriginKind where
  encode
    | .native => [0]
    | .sovereignAccount => [1]
    | .superuser => [2]
    | .xcm => [3]

/-- The origins a call can come from. -/
inductive Origin where
  | root
  | signed (who : AccountId32)
  | none
  | xcm (location : Location)
deriving DecidableEq

/-! ## Subscriptions -/

inductive SubscriptionState where
  | active
  | paused
  | finalized
deriving DecidableEq, Repr

instance : Encode SubscriptionState where
  encode
    | .active => [0]
    | .paused => [1]
    | .finalized => [2]

structure SubscriptionDetails (AccountId CallData : Type) where
  subscriber : AccountId
  target : Location
  call : CallData
  originKind : OriginKind
deriving DecidableEq

structure Subscription (AccountId BlockNumber Credits Metadata SubscriptionId CallData : Type) where
  id : SubscriptionId
  details : SubscriptionDetails AccountId CallData
  creditsLeft : Credits
  state : SubscriptionState
  createdAt : BlockNumber
  updatedAt : BlockNumber
  credits : Credits
  frequency : BlockNumber
  metadata : Option Metadata
  lastDelivered : Option BlockNumber
deriving DecidableEq

structure CreateSubParams (Credits Frequency Metadata SubscriptionId CallData : Type) where
  credits : Credits
  target : Location
  call : CallData
  originKind : OriginKind
  frequency : Frequency
  metadata : Option Metadata
  subId : Option SubscriptionId
deriving DecidableEq

/-- `None` leaves a field as it is; `Some(None)` clears the metadata. -/
structure UpdateSubParams (SubId Credits BlockNumber Metadata : Type) where
  subId : SubId
  credits : Option Credits
  frequency : Option BlockNumber
  metadata : Option (Option Metadata)
deriving DecidableEq

/-- An arbitrary reference a requester chooses. -/
abbrev RequestReference := Vector UInt8 32

structure Quote where
  reqRef : RequestReference
  fees : Nat
  deposit : Nat
deriving DecidableEq

structure QuoteRequest (CreateSubParams PulseIndex : Type) where
  reqRef : RequestReference
  createSubParams : CreateSubParams
  lifetimePulses : PulseIndex
deriving DecidableEq

structure QuoteSubParams (CreateSubParams PulseIndex CallData : Type) where
  quoteRequest : QuoteRequest CreateSubParams PulseIndex
  call : CallData
  originKind : OriginKind
deriving DecidableEq

structure SubInfoRequest (SubId CallData : Type) where
  reqRef : RequestReference
  subId : SubId
  call : CallData
  originKind : OriginKind
deriving DecidableEq

structure SubInfoResponse (Sub : Type) where
  reqRef : RequestReference
  sub : Sub
deriving DecidableEq

section Encodings

variable {AccountId BlockNumber Credits Frequency Metadata SubscriptionId CallData : Type}
variable [Encode AccountId] [Encode BlockNumber] [Encode Credits] [Encode Frequency]
variable [Encode Metadata] [Encode SubscriptionId] [Encode CallData]

instance : Encode (SubscriptionDetails AccountId CallData) where
  encode d := encode d.subscriber ++ encode d.target ++ encode d.call ++ encode d.originKind

instance : Encode (Subscription AccountId BlockNumber Credits Metadata SubscriptionId CallData) where
  encode s := encode s.id ++ encode s.details ++ encode s.creditsLeft ++ encode s.state ++
    encode s.createdAt ++ encode s.updatedAt ++ encode s.credits ++ encode s.frequency ++
    encode s.metadata ++ encode s.lastDelivered

instance : Encode (CreateSubParams Credits Frequency Metadata SubscriptionId CallData) where
  encode p := encode p.credits ++ encode p.target ++ encode p.call ++ encode p.originKind ++
    encode p.frequency ++ encode p.metadata ++ encode p.subId

instance : Encode (UpdateSubParams SubscriptionId Credits BlockNumber Metadata) where
  encode p := encode p.subId ++ encode p.credits ++ encode p.frequency ++ encode p.metadata

/-- Its balances are `u128`. -/
instance : Encode Quote where
  encode q := encode q.reqRef ++ littleEndian 16 q.fees ++ littleEndian 16 q.deposit

instance {Params PulseIndex : Type} [Encode Params] [Encode PulseIndex] :
    Encode (QuoteRequest Params PulseIndex) where
  encode r := encode r.reqRef ++ encode r.createSubParams ++ encode r.lifetimePulses

instance {Params PulseIndex : Type} [Encode Params] [Encode PulseIndex] :
    Encode (QuoteSubParams Params PulseIndex CallData) where
  encode p := encode p.quoteRequest ++ encode p.call ++ encode p.originKind

instance : Encode (SubInfoRequest SubscriptionId CallData) where
  encode r := encode r.reqRef ++ encode r.subId ++ encode r.call ++ encode r.originKind

instance {Sub : Type} [Encode Sub] : Encode (SubInfoResponse Sub) where
  encode r := encode r.reqRef ++ encode r.sub

end Encodings

/-- `SubscriptionOf<Runtime>`. -/
abbrev SubscriptionOf :=
  Subscription AccountId32 BlockNumber Credits Metadata SubscriptionId CallData

/-- `CreateSubParamsOf<Runtime>`. -/
abbrev CreateSubParamsOf := CreateSubParams Credits BlockNumber Metadata SubscriptionId CallData

/-- `UpdateSubParamsOf<Runtime>`. -/
abbrev UpdateSubParamsOf := UpdateSubParams SubscriptionId Credits BlockNumber Metadata

/-- `QuoteSubParamsOf<Runtime>`. -/
abbrev QuoteSubParamsOf := QuoteSubParams CreateSubParamsOf BlockNumber CallData

/-- `SubInfoRequestOf<Runtime>`. -/
abbrev SubInfoRequestOf := SubInfoRequest SubscriptionId CallData

/-! ## Pulses -/

/-- An aggregated beacon signature and the rounds it covers. -/
structure RuntimePulse where
  signature : OpaqueSignature
  start : RoundNumber
  «end» : RoundNumber
deriving DecidableEq

instance : Encode RuntimePulse where
  encode p := encode p.signature ++ encode p.start ++ encode p.end

end IdealNetwork
