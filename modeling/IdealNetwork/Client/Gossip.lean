import IdealNetwork.Client.Receiver

/-!
# Gossip

The libp2p node that listens to the beacon's topic. It dials the peers it is
given and then handles one event of the swarm after another. A message that came
by one of these peers is decoded, and goes to the channel that the node was built
with. Everything else is logged.

A message is a protocol buffer. The reader that is generated for it is not a part
of this repository: it is a parameter of what handles messages, and nothing is
assumed of it.
-/

set_option autoImplicit false

namespace IdealNetwork.Client

open Scale

namespace Gossipsub

variable {Peer : Type}

/-! ## The node -/

/-- A part of an address: a peer's identity, or anything else. -/
inductive Protocol (Peer : Type) where
  | p2p (peer : Peer)
  | other (code : Bytes)
deriving DecidableEq

abbrev Multiaddr (Peer : Type) := List (Protocol Peer)

inductive Error (Peer : Type) where
  | signatureBufferCapacityExceeded
  | unexpectedMessageFormat
  | invalidGossipsubNetworkBehaviour
  | invalidMultiaddress (who : Multiaddr Peer)
  | swarmListenFailure
deriving DecidableEq

/-- `try_handle_pulse`, where `decode` stands for `ProtoPulse::decode`. -/
def tryHandlePulse (decode : Bytes → Option ProtoPulse) (data : Bytes) :
    Except (Error Peer) CanonicalPulse :=
  match decode data with
  | none => .error .unexpectedMessageFormat
  | some pulse =>
    match pulse.tryInto with
    | none => .error .signatureBufferCapacityExceeded
    | some pulse => .ok pulse

def extractPeerId (maddr : Multiaddr Peer) : Option Peer :=
  maddr.findSome? fun
    | .p2p peer => some peer
    | .other _ => none

/-! ## Peers and events -/

/-- The peers that messages are taken from, with their addresses. -/
abbrev AllowedPeerMap (Peer : Type) := Peer → Option (Multiaddr Peer)

section

variable [DecidableEq Peer]

/-- The loop of `run` that dials: every address names a peer and can be dialled, or
`run` ends there. What the swarm says to an address may depend on those it was
given before. -/
def dialPeers (dial : List (Multiaddr Peer) → Multiaddr Peer → Bool) :
    List (Multiaddr Peer) → List (Multiaddr Peer) → AllowedPeerMap Peer →
      Except (Error Peer) (AllowedPeerMap Peer)
  | _, [], allowed => .ok allowed
  | dialled, peer :: peers, allowed =>
    match extractPeerId peer with
    | some id =>
      if dial dialled peer then
        dialPeers dial (dialled ++ [peer]) peers (Function.update allowed id (some peer))
      else .error (.invalidMultiaddress peer)
    | none => .error (.invalidMultiaddress peer)

/-- If all goes well, every address names a peer, and these are allowed. -/
theorem dialPeers_ok {dial : List (Multiaddr Peer) → Multiaddr Peer → Bool}
    {dialled peers : List (Multiaddr Peer)} {allowed allowed' : AllowedPeerMap Peer}
    (h : dialPeers dial dialled peers allowed = .ok allowed') :
    (∀ peer ∈ peers, (extractPeerId peer).isSome) ∧
      ∀ id, (allowed' id).isSome → (allowed id).isSome ∨ id ∈ peers.filterMap extractPeerId := by
  induction peers generalizing dialled allowed with
  | nil =>
    cases h
    exact ⟨nofun, fun _ => Or.inl⟩
  | cons peer peers ih =>
    unfold dialPeers at h
    split at h
    next id hid =>
      split at h
      next =>
        obtain ⟨hnamed, hallowed⟩ := ih h
        refine ⟨List.forall_mem_cons.mpr ⟨by rw [hid]; rfl, hnamed⟩, fun other hother => ?_⟩
        rw [List.filterMap_cons_some hid, List.mem_cons]
        rcases hallowed other hother with hbefore | hlater
        · rw [Function.update_apply] at hbefore
          split at hbefore
          next heq => exact Or.inr (Or.inl heq)
          next => exact Or.inl hbefore
        · exact Or.inr (Or.inr hlater)
      next => cases h
    next => cases h

end

/-- What the swarm reports. -/
inductive SwarmEvent (Peer : Type) where
  | connectionEstablished
  | message (propagationSource : Peer) (data : Bytes)
  | ping (peer : Peer) (result : Bool)
  | other

/-- `handle_event`: the pulses sent to the channel, and the addresses dialled. The
channel takes what it is sent as long as its receiver is there. -/
def handleEvent (decode : Bytes → Option ProtoPulse) (allowed : AllowedPeerMap Peer) :
    SwarmEvent Peer → List CanonicalPulse × List (Multiaddr Peer)
  | .connectionEstablished => ([], [])
  | .message source data =>
    if (allowed source).isSome then
      match (tryHandlePulse decode data : Except (Error Peer) CanonicalPulse) with
      | .ok pulse => ([pulse], [])
      | .error _ => ([], [])
    else ([], [])
  | .ping _ true => ([], [])
  | .ping peer false => ([], (allowed peer).toList)
  | .other => ([], [])

/-- What is sent was read from a message of a peer that is allowed. -/
theorem mem_handleEvent {decode : Bytes → Option ProtoPulse} {allowed : AllowedPeerMap Peer}
    {event : SwarmEvent Peer} {pulse : CanonicalPulse}
    (h : pulse ∈ (handleEvent decode allowed event).1) :
    ∃ source data, event = .message source data ∧ (allowed source).isSome ∧
      tryHandlePulse decode data = (.ok pulse : Except (Error Peer) CanonicalPulse) := by
  cases event with
  | message source data =>
    rw [handleEvent] at h
    split at h
    next hallowed =>
      split at h
      next pulse' hpulse =>
        rw [List.mem_singleton.mp h]
        exact ⟨source, data, rfl, hallowed, hpulse⟩
      next => cases h
    next => cases h
  | ping peer result => cases result <;> cases h
  | _ => cases h

end Gossipsub

end IdealNetwork.Client
