import IdealNetwork.Client.Rounds

/-!
# What the gadget submits

On a notification the gadget takes pulses from the queue, leaves out those
whose round has passed, and submits the one of the rest that came in last. Two
things are asked of the call it makes for that.

It is to claim the rounds it has signatures for. The rounds are read off the
pulse before its signature is decoded, and a signature that does not decode is
left out of the sum: the call then claims a round with the encoding of zero
(`aggregate_signs_iff`).

It is to be for the latest round. The queue is in the order of arrival, and
gossip does not arrive in the order of rounds (`freshest_wins_iff`).

The calls are those of a submitter that records its calls and is otherwise the
one of the notification (`handle_recorded`).
-/

set_option autoImplicit false

namespace IdealNetwork.Client

open Scale Storage Crypto

variable {σ Hash G₁ G₂ Gt : Type} [AddCommGroup G₁] {E : Engine G₁ G₂ Gt}
variable {n : Notification σ Hash} {g : Gadget σ}

/-! ## Recording calls -/

/-- A call of `submit_pulse`. -/
structure SubmitCall where
  asig : Bytes
  start : RoundNumber
  «end» : RoundNumber
deriving DecidableEq

/-- The notification, with a submitter that keeps a record of its calls. -/
def Notification.recorded (n : Notification σ Hash) :
    Notification (σ × List SubmitCall) Hash where
  bestHash := n.bestHash
  nextRound := n.nextRound
  maxRounds := n.maxRounds
  submitPulse asig start «end» := fun s =>
    let (result, submitter) := n.submitPulse asig start «end» s.1
    (result, (submitter, s.2 ++ [⟨asig, start, «end»⟩]))

/-- The gadget, with a record of calls beside its submitter. -/
def Gadget.withCalls (g : Gadget σ) (calls : List SubmitCall) : Gadget (σ × List SubmitCall) :=
  ⟨g.pulses, g.nextRound, (g.submitter, calls), g.running, g.done⟩

/-- The calls that handling a notification makes. -/
def calls (E : Engine G₁ G₂ Gt) (n : Notification σ Hash) (g : Gadget σ) : List SubmitCall :=
  (handleFinalityNotification E n.recorded (g.withCalls [])).2.submitter.2

/-- The call there is to make: for the latest pulse, if its sum can be written. -/
def Notification.call (E : Engine G₁ G₂ Gt) (n : Notification σ Hash) (g : Gadget σ) :
    Option SubmitCall :=
  (n.latest g).bind fun pulse => (aggregate E [pulse]).map fun asig =>
    ⟨asig, pulse.round, pulse.round⟩

/-- Recording changes nothing else, and records that call. -/
theorem handle_recorded (n : Notification σ Hash) (g : Gadget σ) :
    handleFinalityNotification E n.recorded (g.withCalls []) =
      ((handleFinalityNotification E n g).1,
        (handleFinalityNotification E n g).2.withCalls (n.call E g).toList) := by
  have hsame : n.recorded.latest (g.withCalls []) = n.latest g := rfl
  cases hmax : n.maxRounds n.bestHash with
  | error message =>
    have hnone : n.latest g = none := by
      rw [Notification.latest, Notification.taken, hmax]
      rfl
    rw [handle_of_maxRounds_error hmax, handle_of_maxRounds_error (n := n.recorded) hmax,
      Notification.call, hnone]
    rfl
  | ok maxRounds =>
    rw [handle_latest hmax, handle_latest (n := n.recorded) hmax, hsame, Notification.call]
    cases hlatest : n.latest g with
    | none => rfl
    | some pulse =>
      rw [Option.toList_some, Option.bind_some]
      cases hasig : aggregate E [pulse] with
      | none =>
        rw [submitNewPulses_of_unwritten hasig, submitNewPulses_of_unwritten hasig]
        rfl
      | some asig =>
        cases hcall : n.submitPulse asig pulse.round pulse.round g.submitter with
        | mk result submitter =>
          have hrecorded : n.recorded.submitPulse asig pulse.round pulse.round (g.submitter, []) =
              (result, (submitter, [⟨asig, pulse.round, pulse.round⟩])) := by
            simp only [Notification.recorded, hcall, List.nil_append]
          cases result with
          | error e =>
            rw [submitNewPulses_of_error (g := { g with pulses := g.pulses.drop maxRounds.toNat })
              hasig hcall]
            exact submitNewPulses_of_error hasig hrecorded
          | ok hash =>
            rw [submitNewPulses_of_ok (g := { g with pulses := g.pulses.drop maxRounds.toNat })
              hasig hcall]
            exact submitNewPulses_of_ok hasig hrecorded

theorem calls_eq (n : Notification σ Hash) (g : Gadget σ) :
    calls E n g = (n.call E g).toList := by
  rw [calls, handle_recorded]
  rfl

theorem calls_of_none (h : n.latest g = none) : calls E n g = [] := by
  rw [calls_eq, Notification.call, h]
  rfl

/-- Where every point can be written, the latest pulse is submitted. -/
theorem calls_of_latest (hE : E.RoundTrips) {pulse : CanonicalPulse}
    (h : n.latest g = some pulse) :
    ∃ asig, aggregate E [pulse] = some asig ∧
      calls E n g = [⟨asig, pulse.round, pulse.round⟩] := by
  obtain ⟨asig, hasig⟩ := Option.ne_none_iff_exists'.mp (aggregate_ne_none hE [pulse])
  refine ⟨asig, hasig, ?_⟩
  rw [calls_eq, Notification.call, h, Option.bind_some, hasig]
  rfl

/-- The pulses a notification takes whose round has not passed. -/
def Notification.fresh (n : Notification σ Hash) (g : Gadget σ) : List CanonicalPulse :=
  (n.taken g).filter fun p => decide (n.firstRound g.nextRound ≤ p.round)

/-- The pulses the rounds of the call are read off: of the fresh ones, the last. -/
def Notification.newPulses (n : Notification σ Hash) (g : Gadget σ) : List CanonicalPulse :=
  (n.fresh g).reverse.take 1

theorem Notification.newPulses_eq (n : Notification σ Hash) (g : Gadget σ) :
    n.newPulses g = (n.latest g).toList := by
  rw [Notification.newPulses, List.take_one, List.head?_reverse]
  rfl

/-! ## Signatures and rounds -/

/-- The pulse's signature is a point. -/
def CanonicalPulse.Decodes (E : Engine G₁ G₂ Gt) (pulse : CanonicalPulse) : Prop :=
  ∃ P, E.deserializeG1 pulse.signature.toList = some P

/-- The call has the sum of one signature for each of its rounds, each from one
of the pulses. -/
def SubmitCall.Signs (E : Engine G₁ G₂ Gt) (pulses : List CanonicalPulse) (c : SubmitCall) : Prop :=
  ∃ S : RoundNumber → G₁,
    (∀ r ∈ UInt64.rangeInclusive c.start c.end, ∃ pulse ∈ pulses, pulse.round = r ∧
      E.deserializeG1 pulse.signature.toList = some (S r)) ∧
    E.serializeCompressed ((UInt64.rangeInclusive c.start c.end).map S).sum = some c.asig

/-- The sum of one signature that decodes. -/
theorem aggregate_singleton {pulse : CanonicalPulse} {P : G₁}
    (h : E.deserializeG1 pulse.signature.toList = some P) :
    aggregate E [pulse] = E.serializeCompressed P := by
  have hpoints : ([pulse].filterMap fun p => E.deserializeG1 p.signature.toList) = [P] :=
    List.filterMap_cons_some (b := P) h
  rw [aggregate, hpoints, List.foldl_cons, List.foldl_nil, zeroOnG1, zero_add]

/-- THE AGGREGATE MAY SIGN NOTHING. The calls of a notification have the sum of
a signature for every round they claim, and claim no round of a pulse whose
signature does not decode, exactly if the signature of the latest pulse
decodes. -/
theorem aggregate_signs_iff (hE : E.RoundTrips) (n : Notification σ Hash) (g : Gadget σ) :
    (∀ c ∈ calls E n g, c.Signs E (n.taken g) ∧ ∀ pulse ∈ n.newPulses g, pulse.Decodes E) ↔
      ∀ pulse, n.latest g = some pulse → pulse.Decodes E := by
  cases hlatest : n.latest g with
  | none => exact iff_of_true (by rw [calls_of_none hlatest]; nofun) nofun
  | some pulse =>
    obtain ⟨asig, hasig, hcalls⟩ := calls_of_latest hE hlatest
    rw [hcalls, Notification.newPulses_eq, hlatest, Option.toList_some, List.forall_mem_singleton,
      List.forall_mem_singleton]
    constructor
    · rintro ⟨_, hdecodes⟩ _ ⟨⟩
      exact hdecodes
    · intro hdecodes
      obtain ⟨P, hP⟩ := hdecodes pulse rfl
      refine ⟨⟨fun _ => P, ?_, ?_⟩, P, hP⟩
      · intro r hr
        rw [UInt64.rangeInclusive_self, List.mem_singleton] at hr
        exact ⟨pulse, (Notification.latest_spec hlatest).1, hr.symm, hP⟩
      · rw [UInt64.rangeInclusive_self, List.map_singleton, List.sum_singleton,
          ← aggregate_singleton hP]
        exact hasig

/-! ## The latest round -/

/-- THE FRESHEST PULSE MAY LOSE. A notification that takes a fresh pulse makes a
call, and its calls are for the greatest round among the fresh pulses it takes,
exactly if the last of them to arrive has that round. -/
theorem freshest_wins_iff (hE : E.RoundTrips) (n : Notification σ Hash) (g : Gadget σ) :
    ((∀ c ∈ calls E n g, c.start = c.end ∧ (∃ pulse ∈ n.fresh g, pulse.round = c.end) ∧
        ∀ pulse ∈ n.fresh g, pulse.round ≤ c.end) ∧
      (n.fresh g ≠ [] → calls E n g ≠ [])) ↔
      ∀ last, (n.fresh g).getLast? = some last → ∀ pulse ∈ n.fresh g, pulse.round ≤ last.round := by
  change _ ↔ ∀ last, n.latest g = some last → _
  cases hlatest : n.latest g with
  | none =>
    have hnil : n.fresh g = [] := List.getLast?_eq_none_iff.mp hlatest
    refine iff_of_true ⟨?_, fun hne => absurd hnil hne⟩ nofun
    rw [calls_of_none hlatest]
    nofun
  | some last =>
    obtain ⟨asig, _, hcalls⟩ := calls_of_latest hE hlatest
    rw [hcalls, List.forall_mem_singleton]
    constructor
    · rintro ⟨⟨_, _, hgreatest⟩, _⟩ _ ⟨⟩
      exact hgreatest
    · intro hgreatest
      exact ⟨⟨rfl, ⟨last, List.mem_of_getLast? hlatest, rfl⟩, hgreatest last rfl⟩,
        fun _ => List.cons_ne_nil _ _⟩

section Sample

/-- A gadget with some pulses in its queue. -/
def queued (pulses : List CanonicalPulse) : Gadget Unit := { Gadget.new () with pulses }

/-- A pulse whose signature decodes. -/
def signedPulse (round : RoundNumber) : CanonicalPulse := ⟨round, pointBytes 48 (3 : ℕ)⟩

theorem aggregate_signs_five :
    calls (smallEngine byteSum) fortunate (queued [signedPulse 5]) = [⟨encodePoint 48 3, 5, 5⟩] ∧
      SubmitCall.Signs (smallEngine byteSum) [signedPulse 5] ⟨encodePoint 48 3, 5, 5⟩ := by
  have hcalls : calls (smallEngine byteSum) fortunate (queued [signedPulse 5]) =
      [⟨encodePoint 48 3, 5, 5⟩] := by decide +kernel
  have hdecodes : ∀ pulse, fortunate.latest (queued [signedPulse 5]) = some pulse →
      pulse.Decodes (smallEngine byteSum) := by
    rintro pulse ⟨⟩
    exact ⟨3, by decide +kernel⟩
  have hsigns := (aggregate_signs_iff smallEngine_roundTrips fortunate
    (queued [signedPulse 5])).mpr hdecodes
  rw [hcalls, List.forall_mem_singleton] at hsigns
  exact ⟨hcalls, hsigns.1⟩

/-- A pulse of 48 bytes that are no point. -/
def garbledPulse : CanonicalPulse := ⟨5, Vector.replicate 48 255⟩

/-- Round 5 is claimed, with the encoding of zero. -/
theorem aggregate_signs_nothing :
    (smallEngine byteSum).deserializeG1 garbledPulse.signature.toList = none ∧
      calls (smallEngine byteSum) fortunate (queued [garbledPulse]) = [⟨encodePoint 48 0, 5, 5⟩] :=
  ⟨by decide +kernel, by decide +kernel⟩

theorem freshest_wins_inOrder :
    calls (smallEngine byteSum) fortunate (queued [signedPulse 3, signedPulse 5]) =
        [⟨encodePoint 48 3, 5, 5⟩] ∧
      ∀ pulse ∈ fortunate.fresh (queued [signedPulse 3, signedPulse 5]), pulse.round ≤ 5 := by
  have hcalls : calls (smallEngine byteSum) fortunate (queued [signedPulse 3, signedPulse 5]) =
      [⟨encodePoint 48 3, 5, 5⟩] := by decide +kernel
  have hlast : ∀ last,
      (fortunate.fresh (queued [signedPulse 3, signedPulse 5])).getLast? = some last →
      ∀ pulse ∈ fortunate.fresh (queued [signedPulse 3, signedPulse 5]),
        pulse.round ≤ last.round := by
    rintro last ⟨⟩
    decide +kernel
  have hwins := ((freshest_wins_iff (E := smallEngine byteSum) smallEngine_roundTrips fortunate
    (queued [signedPulse 3, signedPulse 5])).mpr hlast).1
  rw [hcalls, List.forall_mem_singleton] at hwins
  exact ⟨hcalls, hwins.2.2⟩

/-- Round 5 arrives before round 3. Both are taken, and round 3 is submitted. -/
theorem freshest_loses_outOfOrder :
    fortunate.fresh (queued [signedPulse 5, signedPulse 3]) = [signedPulse 5, signedPulse 3] ∧
      (calls (smallEngine byteSum) fortunate (queued [signedPulse 5, signedPulse 3])).map
        SubmitCall.end = [3] :=
  ⟨by decide +kernel, by decide +kernel⟩

end Sample

end IdealNetwork.Client
