import Mathlib.Data.Nat.Digits.Lemmas
import IdealNetwork.Beacon.Pallet
import IdealNetwork.Manager.Run

/-!
# The runtime's choices

The constants and conversions the ideal-network runtime configures its
pallets with. What the runtime takes from elsewhere, the currency, the
hasher, the digest, the location converters that describe and hash, the curve
and the signatures of block authors, stays a parameter.

`standalone` and `sampleBeacon` close the parameters with the least thing
that behaves as they do: the plain ledger, keys hashed to themselves and no
further converter; the small curve and authors that sign everything.
-/

set_option autoImplicit false

namespace IdealNetwork.Runtime

open Scale Storage Holds Manager Crypto

/-- `TreasuryAccount`, from its address. -/
def treasuryAccount : AccountId32 := #v[14, 227, 41, 1, 50, 251, 64, 63, 6, 7, 56, 90, 218, 152,
  210, 13, 84, 59, 216, 255, 157, 172, 39, 132, 178, 130, 225, 85, 88, 27, 43, 56]

/-- `RelayNetwork`: `NetworkId::Polkadot`. -/
def relayNetwork : NetworkId := ⟨[2]⟩

/-- `SiblingLocationSignedAccountId32<RelayNetwork>::convert_location`. -/
def siblingLocationSignedAccountId32 (location : Location) : Option AccountId32 :=
  match location.parents, location.interior.toList with
  | 1, [.parachain _, .accountId32 network id] =>
    if network = none ∨ network = some relayNetwork then some id else none
  | _, _ => none

/-- `LocalOriginToLocation`: a signed account is the account on this chain. -/
def localOriginToLocation (who : AccountId32) : Option Location :=
  some ⟨0, ⟨[.accountId32 (some relayNetwork) who], by simp⟩⟩

/-- The manager pallet's configuration. -/
def manager (currency : Currency AccountId32 HoldReason Err) (hasher : Hasher SubscriptionId)
    (blake2 : Bytes → Vector UInt8 32) (convertLocation : Location → Option AccountId32) :
    Config where
  currency := currency
  hasher := hasher
  blake2 := blake2
  xcmLocationToAccountId location :=
    (siblingLocationSignedAccountId32 location).or (convertLocation location)
  localOriginToLocation := localOriginToLocation
  baseFee := 2900000
  treasuryAccount := treasuryAccount
  sdMultiplier := 100
  maxSubscriptions := 2000
  maxTerminatableSubs := 200
  maxXcmFees := 1000000000000

/-- The beacon pallet's configuration. -/
def beacon {G₁ G₂ Gt : Type} [AddCommGroup G₁] [AddCommGroup Gt] [DecidableEq Gt]
    (engine : Engine G₁ G₂ Gt) (Signature : Type)
    (verify : Signature → Bytes → AccountId32 → Bool) : Beacon.Config G₁ G₂ Gt where
  engine := engine
  signatureVerifier := QuicknetVerifier.verify engine
  maxSigsPerBlock := 6
  Signature := Signature
  verify := verify

/-- Keys in the order of their bytes, read as a number. -/
def identityHasher (n : ℕ) : Hasher (Vector UInt8 n) where
  key v := Nat.ofDigits 256 (v.toList.map UInt8.toNat)
  injective := by
    intro v w h
    have hbound : ∀ u : Vector UInt8 n, ∀ d ∈ u.toList.map UInt8.toNat, d < 256 := by
      intro u d hd
      obtain ⟨b, _, rfl⟩ := List.mem_map.mp hd
      exact b.toNat_lt
    have hdigits : v.toList.map UInt8.toNat = w.toList.map UInt8.toNat :=
      Nat.ofDigits_inj_of_len_eq (by decide) (by simp) (hbound v) (hbound w) h
    have hlist : v.toList = w.toList :=
      (List.map_injective_iff.mpr fun _ _ => UInt8.toNat_inj.mp) hdigits
    exact Vector.toList_inj.mp hlist

/-- Balances as plain numbers. -/
abbrev balances : Currency AccountId32 HoldReason Err :=
  plain AccountId32 HoldReason (.other "FundsUnavailable")

/-- The configuration with every parameter closed. -/
abbrev standalone : Config :=
  manager balances (identityHasher 32) (fun _ => Vector.replicate 32 0) fun _ => none

/-- The state of a chain on which some accounts have funds and nothing has
happened yet. -/
def genesis (free : AccountId32 → ℕ) : State standalone where
  subscriptions := ∅
  subCounter := 0
  ledger := { free := free, held := fun _ _ => 0 }
  events := []
  sent := []

theorem initial_genesis (free : AccountId32 → ℕ) : Initial standalone (genesis free) where
  subscriptions := rfl
  subCounter := rfl
  held := fun _ _ => rfl

/-! ## A small chain -/

def alice : AccountId32 := Vector.replicate 32 1

def sampleId : SubscriptionId := Vector.replicate 32 7

def samplePulse : RuntimePulse := ⟨Vector.replicate 48 0, 5, 6⟩

/-- A subscription to every pulse, delivered to a sibling. -/
def sampleParams (credits : Credits) : CreateSubParamsOf where
  credits := credits
  target := .sibling 2000
  call := ⟨[42, 0], by decide⟩
  originKind := .xcm
  frequency := 1
  metadata := none
  subId := some sampleId

/-- A block in which the XCM sender takes every message. -/
def online (blockNumber : BlockNumber) : Env := ⟨blockNumber, fun _ => .ok ()⟩

/-- A block in which it takes none. -/
def offline (blockNumber : BlockNumber) : Env :=
  ⟨blockNumber, fun _ => .error (.other "SendFailure")⟩

/-- A hash that knows no last round. -/
def sampleHash (bytes : Bytes) : Option (ZMod 7) :=
  if bytes = List.replicate 8 255 then none else byteSum bytes

/-- The beacon of the small chain. -/
abbrev sampleBeacon : Beacon.Config (ZMod 7) (ZMod 7) (ZMod 7) :=
  beacon (smallEngine sampleHash) Unit fun _ _ _ => true

/-- A chain on which every account has ample funds. -/
def funded : State standalone := genesis fun _ => 1000000000

end IdealNetwork.Runtime
