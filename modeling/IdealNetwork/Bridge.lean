import IdealNetwork.Codec
import IdealNetwork.Manager.Pallet

/-!
# Calls to the network from another chain

A chain that has not got the network's runtime writes calls of the manager
pallet through a mirror of them: an enumeration with the same indices and the
same arguments, inside one of the runtime's calls with the index of the
pallet. The mirror and the pallet are kept in step by hand.

`Call` is the mirror, with what it writes. `RuntimeCall` is the runtime's own
enumeration, with what it reads; of its pallets only the manager is here, and
a call of another one is not read. A call that is written by the mirror is
read as the call of the same name (`decodeAll_call`).
-/

set_option autoImplicit false

namespace IdealNetwork.Bridge

open Scale Storage

/-! ## The mirror -/

/-- The manager pallet's calls, usable without a runtime. -/
inductive IdnManagerCall where
  | createSubscription (params : CreateSubParamsOf)
  | pauseSubscription (subId : SubscriptionId)
  | killSubscription (subId : SubscriptionId)
  | updateSubscription (params : UpdateSubParamsOf)
  | reactivateSubscription (subId : SubscriptionId)
  | quoteSubscription (params : QuoteSubParamsOf)
  | getSubscriptionInfo (req : SubInfoRequestOf)

/-- The runtime's calls. -/
inductive Call where
  | idnManager (call : IdnManagerCall)

/-- The indices of the variants are given one by one. -/
instance : Encode IdnManagerCall where
  encode
    | .createSubscription params => 0 :: encode params
    | .pauseSubscription subId => 1 :: encode subId
    | .killSubscription subId => 2 :: encode subId
    | .updateSubscription params => 3 :: encode params
    | .reactivateSubscription subId => 4 :: encode subId
    | .quoteSubscription params => 5 :: encode params
    | .getSubscriptionInfo req => 6 :: encode req

instance : Encode Call where
  encode
    | .idnManager call => 40 :: encode call

/-! ## The runtime -/

/-- The network's runtime calls, as far as the manager pallet. -/
inductive RuntimeCall where
  | idnManager (call : Manager.Call)

section

variable [Decode Junction]

/-- The dispatchables, by their call indices. -/
instance : Decode Manager.Call where
  decode
    | 0 :: input => (decode input).map fun p => (.createSubscription p.1, p.2)
    | 1 :: input => (decode input).map fun p => (.pauseSubscription p.1, p.2)
    | 2 :: input => (decode input).map fun p => (.killSubscription p.1, p.2)
    | 3 :: input => (decode input).map fun p => (.updateSubscription p.1, p.2)
    | 4 :: input => (decode input).map fun p => (.reactivateSubscription p.1, p.2)
    | 5 :: input => (decode input).map fun p => (.quoteSubscription p.1, p.2)
    | 6 :: input => (decode input).map fun p => (.getSubscriptionInfo p.1, p.2)
    | _ => none

instance : Decode RuntimeCall where
  decode
    | 40 :: input => (decode input).map fun p => (.idnManager p.1, p.2)
    | _ => none

/-- What a `Transact` does to the manager pallet. -/
def transact (T : Manager.Config) (env : Manager.Env) (origin : Origin) (call : Bytes) :
    Manager.PalletM T Unit :=
  match (decodeAll call : Option RuntimeCall) with
  | some (.idnManager call) => Manager.dispatch T env origin call
  | none => .fail (.other "FailedToDecode")

end

/-! ## In step -/

/-- The pallet's call of the same name, with the same arguments. -/
def IdnManagerCall.toManager : IdnManagerCall → Manager.Call
  | .createSubscription params => .createSubscription params
  | .pauseSubscription subId => .pauseSubscription subId
  | .killSubscription subId => .killSubscription subId
  | .updateSubscription params => .updateSubscription params
  | .reactivateSubscription subId => .reactivateSubscription subId
  | .quoteSubscription params => .quoteSubscription params
  | .getSubscriptionInfo req => .getSubscriptionInfo req

/-- The runtime's call of the same name. -/
def Call.toRuntime : Call → RuntimeCall
  | .idnManager call => .idnManager call.toManager

variable [Decode Junction]

/-- The codec knows the locations in a call. -/
def IdnManagerCall.Known : IdnManagerCall → Prop
  | .createSubscription params => params.target.Known
  | .quoteSubscription params => params.quoteRequest.createSubParams.target.Known
  | _ => True

def Call.Known : Call → Prop
  | .idnManager call => call.Known

theorem decode_idnManagerCall {call : IdnManagerCall} (h : call.Known) (rest : Bytes) :
    decode (encode call ++ rest) = some (call.toManager, rest) := by
  cases call with
  | createSubscription params =>
    exact ReadBack.variant (CreateSubParams.readBack h) Manager.Call.createSubscription rest
  | pauseSubscription subId =>
    exact ReadBack.variant (readBack subId) Manager.Call.pauseSubscription rest
  | killSubscription subId =>
    exact ReadBack.variant (readBack subId) Manager.Call.killSubscription rest
  | updateSubscription params =>
    exact ReadBack.variant (readBack params) Manager.Call.updateSubscription rest
  | reactivateSubscription subId =>
    exact ReadBack.variant (readBack subId) Manager.Call.reactivateSubscription rest
  | quoteSubscription params =>
    exact ReadBack.variant (QuoteSubParams.readBack (CreateSubParams.readBack h))
      Manager.Call.quoteSubscription rest
  | getSubscriptionInfo req =>
    exact ReadBack.variant (readBack req) Manager.Call.getSubscriptionInfo rest

/-- CALLS ARRIVE: what the mirror writes, the runtime reads to the last byte,
as the call of the same name with the same arguments. -/
theorem decodeAll_call {call : Call} (h : call.Known) :
    decodeAll (encode call) = some call.toRuntime := by
  cases call with
  | idnManager call =>
    have hread := decode_idnManagerCall h []
    rw [List.append_nil] at hread
    refine decodeAll_eq_some.mpr ?_
    show (decode (encode call)).map (fun p => (RuntimeCall.idnManager p.1, p.2)) = _
    rw [hread]
    rfl

/-- So a call that is sent is dispatched. -/
theorem transact_call {T : Manager.Config} {env : Manager.Env} {origin : Origin} {bytes : Bytes}
    {call : IdnManagerCall} (hbytes : bytes = encode (Call.idnManager call)) (h : call.Known) :
    transact T env origin bytes = Manager.dispatch T env origin call.toManager := by
  have hknown : (Call.idnManager call).Known := h
  rw [transact, hbytes, decodeAll_call hknown]
  rfl

end IdealNetwork.Bridge
