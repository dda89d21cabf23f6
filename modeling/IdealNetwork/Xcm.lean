import IdealNetwork.Consumer.Pallet
import IdealNetwork.Runtime

/-!
# Messages and their origins

A message of one chain to another is a program for the XCM executor, and in the
programs that the pallets send there is one call, in a `Transact`. The executor
is not a part of this repository. It takes the fees in front of the call, or
stops there, and dispatches the call with the origin that the receiving runtime
makes of where the message comes from and of the kind of origin that the
`Transact` asks for.

A runtime lists the converters that it tries for this, in order. The consumer
chain has one of its own, which is here; the others come with the executor and
are parameters (`Converters`). What is used of them is named
(`Converters.Lawful`): of all kinds, only `Xcm` makes an XCM origin.
-/

set_option autoImplicit false

namespace IdealNetwork.Xcm

open Scale Storage
open IdealNetwork.Runtime (relayNetwork)
open Manager (Instruction)

/-- An account on a sibling parachain. -/
def accountOn (para : UInt32) (who : AccountId32) : Location :=
  ⟨1, ⟨[.parachain para, .accountId32 (some relayNetwork) who], by simp⟩⟩

/-- The calls that a program dispatches. -/
def transacts (program : List Instruction) : List (OriginKind × Bytes) :=
  program.filterMap fun
    | .transact kind _ call => some (kind, call)
    | _ => none

/-! ## Origins of a `Transact` -/

/-- The origins a `Transact` can be given: one that the modelled pallets know,
or another one. -/
inductive TransactOrigin where
  | known (origin : Origin)
  | other
deriving DecidableEq

/-- A converter makes an origin, or leaves the location to the next one. -/
abbrev ConvertOrigin := OriginKind → Location → Option TransactOrigin

/-- A tuple of converters: the first that makes an origin. -/
def firstOf (converters : List ConvertOrigin) : ConvertOrigin := fun kind location =>
  converters.findSome? fun convert => convert kind location

/-- The converters of the executor that the consumer chain's runtime lists. -/
structure Converters where
  sovereignSignedViaLocation : ConvertOrigin
  relayChainAsNative : ConvertOrigin
  siblingParachainAsNative : ConvertOrigin
  signedAccountId32AsNative : ConvertOrigin
  xcmPassthrough : ConvertOrigin

/-- `IDN_PARACHAIN_ID`. -/
def idnParachainId : UInt32 := 4502

/-- `IdnOriginFilterSignedAccountId32<RelayNetwork>`: an account of the network
is the account of the same bytes here. -/
def idnOriginFilterSignedAccountId32 : ConvertOrigin
  | .native, location =>
    match location.parents, location.interior.toList with
    | 1, [.parachain para, .accountId32 network id] =>
      if para = idnParachainId ∧ (network = none ∨ network = some relayNetwork) then
        some (.known (.signed id))
      else none
    | _, _ => none
  | _, _ => none

/-- The consumer chain's `XcmOriginToTransactDispatchOrigin`. -/
def consumerOrigin (X : Converters) : ConvertOrigin :=
  firstOf [idnOriginFilterSignedAccountId32, X.sovereignSignedViaLocation, X.relayChainAsNative,
    X.siblingParachainAsNative, X.signedAccountId32AsNative, X.xcmPassthrough]

/-- The network's accounts speak for themselves on the consumer chain. -/
example (X : Converters) (who : AccountId32) :
    consumerOrigin X .native (accountOn idnParachainId who) = some (.known (.signed who)) := rfl

/-- The converter leaves the kind `Xcm` to the next one, and makes no XCM origin. -/
structure LeavesXcm (convert : ConvertOrigin) : Prop where
  leaves : ∀ location, convert .xcm location = none
  never : ∀ kind location location', convert kind location ≠ some (.known (.xcm location'))

theorem leavesXcm_idnOriginFilterSignedAccountId32 :
    LeavesXcm idnOriginFilterSignedAccountId32 where
  leaves _ := rfl
  never kind location location' := by
    unfold idnOriginFilterSignedAccountId32
    grind

/-- `XcmPassthrough` makes the XCM origin of every location whose kind is `Xcm`,
and nothing of other kinds; the converters in front of it have no part in it. -/
structure Converters.Lawful (X : Converters) : Prop where
  sovereign : LeavesXcm X.sovereignSignedViaLocation
  relay : LeavesXcm X.relayChainAsNative
  sibling : LeavesXcm X.siblingParachainAsNative
  signed : LeavesXcm X.signedAccountId32AsNative
  passes : ∀ location, X.xcmPassthrough .xcm location = some (.known (.xcm location))
  passesOnly : ∀ kind location, kind ≠ .xcm → X.xcmPassthrough kind location = none

variable {X : Converters}

theorem consumerOrigin_xcm (h : X.Lawful) (location : Location) :
    consumerOrigin X .xcm location = some (.known (.xcm location)) := by
  unfold consumerOrigin firstOf
  simp only [List.findSome?_cons, leavesXcm_idnOriginFilterSignedAccountId32.leaves,
    h.sovereign.leaves, h.relay.leaves, h.sibling.leaves, h.signed.leaves, h.passes]

/-- On the consumer chain, only the kind `Xcm` makes an XCM origin. -/
theorem kind_of_consumerOrigin_xcm (h : X.Lawful) {kind : OriginKind}
    {location location' : Location}
    (horigin : consumerOrigin X kind location = some (.known (.xcm location'))) :
    kind = .xcm := by
  obtain ⟨convert, hmem, hconvert⟩ := List.exists_of_findSome?_eq_some horigin
  simp only [List.mem_cons, List.not_mem_nil, or_false] at hmem
  rcases hmem with rfl | rfl | rfl | rfl | rfl | rfl
  · exact (leavesXcm_idnOriginFilterSignedAccountId32.never _ _ _ hconvert).elim
  · exact (h.sovereign.never _ _ _ hconvert).elim
  · exact (h.relay.never _ _ _ hconvert).elim
  · exact (h.sibling.never _ _ _ hconvert).elim
  · exact (h.signed.never _ _ _ hconvert).elim
  · by_contra hkind
    rw [h.passesOnly kind location hkind] at hconvert
    cases hconvert

end IdealNetwork.Xcm
