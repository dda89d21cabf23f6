import IdealNetwork.Runtime

/-!
# Authentication of pulses

A pulse is checked twice. The chain verifies its signature on submission
(`verify_beacon_signature`), and a consumer authenticates what it is
delivered (`RuntimePulse::authenticate`). Both build the sum of the points of
the rounds, but over two spellings of the range: `start..=end` on the chain
and `start..end + 1` in the pulse. They differ where the second is empty and
the first is not checked: an empty range authenticates with the identity as
its signature, and at `u64::MAX` the second spelling overflows
(`authenticate_agrees_iff`).

On the chain, a signature is determined by the key and the rounds, down to
its bytes (`signature_unique`): who submits it has no choice.
-/

set_option autoImplicit false

namespace IdealNetwork

open Scale Crypto Beacon

variable {G₁ G₂ Gt : Type} [AddCommGroup G₁] [AddCommGroup Gt] [DecidableEq Gt]

section

variable (E : Engine G₁ G₂ Gt) (overflowChecks : Bool)

/-- `n + 1`. An overflow wraps, or panics in a build that checks for it. -/
def addOne (n : UInt64) : Option UInt64 :=
  if overflowChecks ∧ n = UInt64.maxValue then none else some (n + 1)

/-- The aggregated message of the rounds of a pulse; nothing is a panic. -/
def RuntimePulse.message (pulse : RuntimePulse) : Option OpaqueSignature := do
  let stop ← addOne overflowChecks pulse.end
  let msg := ((UInt64.range pulse.start stop).map fun r =>
    (computeRoundOnG1 E r).toOption.getD zeroOnG1).foldl (fun amsg val => amsg + val) zeroOnG1
  let bytes ← E.serializeCompressed msg
  some (if h : bytes.length = 48 then ⟨bytes.toArray, h⟩ else Vector.replicate 48 0)

/-- The consumer's check of a pulse. -/
def RuntimePulse.authenticate (pulse : RuntimePulse) (pubkey : OpaquePublicKey) : Option Bool := do
  let message ← pulse.message E overflowChecks
  some (QuicknetVerifier.verify E pubkey.toList pulse.signature.toList message.toList).isOk

end

variable [AddCommGroup G₂] {E : Engine G₁ G₂ Gt} {e : G₁ →+ G₂ →+ Gt} {overflowChecks : Bool}
variable {H : RoundNumber → G₁} {pk : OpaquePublicKey} {sig : OpaqueSignature}
variable {start «end» : RoundNumber}
variable {Signature : Type} {verify : Signature → Bytes → AccountId32 → Bool}

/-! ## The two equations -/

/-- Key and signature decode, and the signature pairs with the generator as
the message does with the key. -/
def Signs (E : Engine G₁ G₂ Gt) (e : G₁ →+ G₂ →+ Gt) (pk : OpaquePublicKey)
    (sig : OpaqueSignature) (msg : G₁) : Prop :=
  ∃ Q P, E.deserializeG2 pk.toList = some Q ∧ E.deserializeG1 sig.toList = some P ∧
    e P E.generator = e msg Q

/-- The verifier, at a message in the form the checks give it. -/
theorem verify_iff_signs (hE : E.Computes e) {msg : G₁} {bytes : Bytes}
    (hbytes : E.deserializeG1 bytes = some msg) :
    QuicknetVerifier.verify E pk.toList sig.toList bytes = .ok () ↔ Signs E e pk sig msg := by
  rw [QuicknetVerifier.verify_ok hE]
  constructor
  · rintro ⟨Q, P, M, hQ, hP, hM, heq⟩
    cases hbytes.symm.trans hM
    exact ⟨Q, P, hQ, hP, heq⟩
  · rintro ⟨Q, P, hQ, hP, heq⟩
    exact ⟨Q, P, msg, hQ, hP, hbytes, heq⟩

/-- The check on the chain is the equation for the inclusive range. -/
theorem verifyBeaconSignature_iff (hE : E.Computes e) (hround : E.RoundTrips)
    (hH : ∀ r ∈ UInt64.rangeInclusive start «end», computeRoundOnG1 E r = .ok (H r)) :
    verifyBeaconSignature (Runtime.beacon E Signature verify) pk sig start «end» = .ok () ↔
      Signs E e pk sig ((UInt64.rangeInclusive start «end»).map H).sum := by
  obtain ⟨bytes, hser, hdec⟩ := hround ((UInt64.rangeInclusive start «end»).map H).sum
  rw [verifyBeaconSignature_ok, ← verify_iff_signs hE hdec]
  constructor
  · rintro ⟨amsg, bytes', hmsg, hser', hverify⟩
    cases (aggregateMessage_eq hH).symm.trans hmsg
    cases hser.symm.trans hser'
    exact hverify
  · exact fun hverify => ⟨_, _, aggregateMessage_eq hH, hser, hverify⟩

omit [AddCommGroup Gt] [DecidableEq Gt] [AddCommGroup G₂] in
/-- The message of a pulse encodes the sum of the points of the half-open
range, unless its end overflows. -/
theorem message_eq (hround : E.RoundTrips) (hH : ∀ r, computeRoundOnG1 E r = .ok (H r))
    (sig : OpaqueSignature) (start : RoundNumber)
    (hgoes : ¬ (overflowChecks ∧ «end» = UInt64.maxValue)) :
    ∃ bytes, RuntimePulse.message E overflowChecks ⟨sig, start, «end»⟩ = some bytes ∧
      E.deserializeG1 bytes.toList = some ((UInt64.range start («end» + 1)).map H).sum := by
  have hpoints : ((UInt64.range start («end» + 1)).map fun r =>
      (computeRoundOnG1 E r).toOption.getD zeroOnG1).foldl (fun amsg val => amsg + val) zeroOnG1 =
      ((UInt64.range start («end» + 1)).map H).sum := by
    rw [List.sum_eq_foldl]
    congr 1
    exact List.map_congr_left fun r _ => by rw [hH r]; rfl
  obtain ⟨bytes, hser, hdec⟩ := hround ((UInt64.range start («end» + 1)).map H).sum
  refine ⟨bytes, ?_, hdec⟩
  have hlength : bytes.toList.length = 48 := Vector.length_toList
  unfold RuntimePulse.message addOne
  rw [if_neg hgoes]
  simp only [Option.bind_eq_bind, Option.bind_some, hpoints, hser, dif_pos hlength]
  exact congrArg some (Vector.toList_inj.mp rfl)

/-- The check of the pulse is the equation for the half-open range. -/
theorem authenticate_iff (hE : E.Computes e) (hround : E.RoundTrips)
    (hH : ∀ r, computeRoundOnG1 E r = .ok (H r)) :
    RuntimePulse.authenticate E overflowChecks ⟨sig, start, «end»⟩ pk = some true ↔
      ¬ (overflowChecks ∧ «end» = UInt64.maxValue) ∧
        Signs E e pk sig ((UInt64.range start («end» + 1)).map H).sum := by
  by_cases hpanic : overflowChecks ∧ «end» = UInt64.maxValue
  · have hnone : RuntimePulse.authenticate E overflowChecks ⟨sig, start, «end»⟩ pk = none := by
      unfold RuntimePulse.authenticate RuntimePulse.message addOne
      rw [if_pos hpanic]
      rfl
    rw [hnone]
    exact ⟨nofun, fun h => absurd hpanic h.1⟩
  · obtain ⟨bytes, hmsg, hdec⟩ := message_eq hround hH sig start hpanic
    unfold RuntimePulse.authenticate
    rw [hmsg, ← verify_iff_signs hE hdec]
    cases hverify : QuicknetVerifier.verify E pk.toList sig.toList bytes.toList with
    | ok u => simp [hverify, Except.isOk, Except.toBool, hpanic]
    | error err => simp [hverify, Except.isOk, Except.toBool]

/-! ## Where the checks differ -/

/-- The signature pairs with the generator to nothing: the identity does, and
in groups of prime order nothing else. -/
def Degenerate (E : Engine G₁ G₂ Gt) (e : G₁ →+ G₂ →+ Gt) (pk : OpaquePublicKey)
    (sig : OpaqueSignature) : Prop :=
  Signs E e pk sig 0

/-- The inputs on which the two checks differ: an empty range with a
degenerate signature; and a range that ends at `u64::MAX`, unless the
signature is degenerate exactly if it signs the range, or if the build checks
for overflow, does not sign it. -/
def Diverges (E : Engine G₁ G₂ Gt) (e : G₁ →+ G₂ →+ Gt) (H : RoundNumber → G₁)
    (overflowChecks : Bool) (pk : OpaquePublicKey) (sig : OpaqueSignature)
    (start «end» : RoundNumber) : Prop :=
  («end» < start ∧ Degenerate E e pk sig) ∨
    («end» = UInt64.maxValue ∧ ¬ ((¬ overflowChecks ∧ Degenerate E e pk sig) ↔
      Signs E e pk sig ((UInt64.rangeInclusive start «end»).map H).sum))

/-- THE TWO CHECKS agree exactly where they do not diverge, in particular on
every range that is not empty and does not end at `u64::MAX`. -/
theorem authenticate_agrees_iff (hE : E.Computes e) (hround : E.RoundTrips)
    (hH : ∀ r, computeRoundOnG1 E r = .ok (H r)) (overflowChecks : Bool) (Signature : Type)
    (verify : Signature → Bytes → AccountId32 → Bool)
    (pk : OpaquePublicKey) (sig : OpaqueSignature) (start «end» : RoundNumber) :
    ((RuntimePulse.authenticate E overflowChecks ⟨sig, start, «end»⟩ pk = some true ↔
        start ≤ «end» ∧
          verifyBeaconSignature (Runtime.beacon E Signature verify) pk sig start «end» = .ok ()) ↔
      ¬ Diverges E e H overflowChecks pk sig start «end») ∧
    (start ≤ «end» → «end» ≠ UInt64.maxValue →
      ¬ Diverges E e H overflowChecks pk sig start «end») := by
  rw [authenticate_iff hE hround hH, verifyBeaconSignature_iff hE hround fun r _ => hH r]
  unfold Diverges
  constructor
  · by_cases hmax : «end» = UInt64.maxValue
    · -- the half-open range has wrapped, so its message is the identity
      subst hmax
      have hle : start ≤ UInt64.maxValue := UInt64.le_maxValue start
      rw [UInt64.range_succ_maxValue]
      simp only [and_true, List.map_nil, List.sum_nil, hle, true_and, UInt64.not_lt.mpr hle,
        false_and, false_or, not_not]
      rfl
    · simp only [hmax, and_false, not_false_eq_true, true_and, false_and, or_false]
      rw [UInt64.range_succ_eq hmax]
      by_cases hlt : «end» < start
      · -- both ranges are empty, and only the chain looks at their ends
        rw [UInt64.rangeInclusive_eq_nil hlt]
        simp only [List.map_nil, List.sum_nil, UInt64.not_le.mpr hlt, false_and, iff_false, hlt,
          true_and]
        rfl
      · simp only [UInt64.not_lt.mp hlt, true_and, hlt, false_and, not_false_eq_true]
  · rintro hle hmax (⟨hlt, _⟩ | ⟨heq, _⟩)
    · exact UInt64.not_le.mpr hlt hle
    · exact hmax heq

section Sample

/-- The beacon on the small curve, with a hash of every round. -/
abbrev smallBeacon : Config (ZMod 7) (ZMod 7) (ZMod 7) :=
  Runtime.beacon (smallEngine byteSum) Unit fun _ _ _ => true

theorem authenticate_agrees_fiveToSix :
    RuntimePulse.authenticate (smallEngine byteSum) false ⟨pointBytes 48 5, 5, 6⟩
        (pointBytes 96 3) = some true ∧
      verifyBeaconSignature smallBeacon (pointBytes 96 3) (pointBytes 48 5) 5 6 = .ok () := by
  have hauth : RuntimePulse.authenticate (smallEngine byteSum) false ⟨pointBytes 48 5, 5, 6⟩
      (pointBytes 96 3) = some true := by decide +kernel
  obtain ⟨hagree, hsafe⟩ := authenticate_agrees_iff smallEngine_computes smallEngine_roundTrips
    computeRoundOnG1_small false Unit (fun _ _ _ => true) (pointBytes 96 3) (pointBytes 48 5) 5 6
  exact ⟨hauth, ((hagree.mpr (hsafe (by decide) (by decide))).mp hauth).2⟩

/-- The identity authenticates the empty range from 1 to 0, in either build;
and the last round of all, which the chain rejects, where the overflow wraps. -/
theorem authenticate_diverges_emptyRange :
    (∀ overflowChecks, RuntimePulse.authenticate (smallEngine byteSum) overflowChecks
        ⟨pointBytes 48 0, 1, 0⟩ (pointBytes 96 3) = some true) ∧
      ¬ (1 : RoundNumber) ≤ 0 ∧
      RuntimePulse.authenticate (smallEngine byteSum) false
        ⟨pointBytes 48 0, UInt64.maxValue, UInt64.maxValue⟩ (pointBytes 96 3) = some true ∧
      verifyBeaconSignature smallBeacon (pointBytes 96 3) (pointBytes 48 0) UInt64.maxValue
        UInt64.maxValue = .error (.module .verificationFailed) :=
  ⟨by decide +kernel, by decide, by decide +kernel, by decide +kernel⟩

end Sample

/-! ## One signature for a range -/

section PrimeOrder

variable {p : ℕ} [Fact p.Prime]

/-- A SUBMITTER HAS NO CHOICE. Under the key of a secret `sk`, the sum of the
signed points of the rounds is accepted, and what is accepted for the rounds
is one string of bytes, unless the points of the rounds cancel. -/
theorem signature_unique (Signature : Type) (verify : Signature → Bytes → AccountId32 → Bool)
    (sk : ℕ) (pk : OpaquePublicKey) (start «end» : RoundNumber)
    (hE : E.Computes e) (hround : E.RoundTrips) (hunique : E.DecodesUniquely)
    (hG₁ : Nat.card G₁ = p) (hG₂ : Nat.card G₂ = p) (he : e ≠ 0) (hgen : E.generator ≠ 0)
    (hsk : ¬ p ∣ sk)
    (hpk : E.deserializeG2 pk.toList = some (sk • E.generator))
    (hH : ∀ r ∈ UInt64.rangeInclusive start «end», computeRoundOnG1 E r = .ok (H r))
    (hM : ((UInt64.rangeInclusive start «end»).map H).sum ≠ 0) :
    (∃ asig : OpaqueSignature,
      E.serializeCompressed ((UInt64.rangeInclusive start «end»).map fun r => sk • H r).sum =
          some asig.toList ∧
        verifyBeaconSignature (Runtime.beacon E Signature verify) pk asig start «end» = .ok ()) ∧
      ∀ asig asig' : OpaqueSignature,
        verifyBeaconSignature (Runtime.beacon E Signature verify) pk asig start «end» = .ok () →
        verifyBeaconSignature (Runtime.beacon E Signature verify) pk asig' start «end» = .ok () →
        asig = asig' := by
  constructor
  · obtain ⟨asig, hser, hdec⟩ :=
      hround ((UInt64.rangeInclusive start «end»).map fun r => sk • H r).sum
    refine ⟨asig, hser, (verifyBeaconSignature_iff hE hround hH).mpr ⟨_, _, hpk, hdec, ?_⟩⟩
    exact Pairing.pair_sum_nsmul e _ H sk E.generator
  · intro asig asig' h h'
    obtain ⟨Q, P, hQ, hP, heq⟩ := (verifyBeaconSignature_iff hE hround hH).mp h
    obtain ⟨Q', P', hQ', hP', heq'⟩ := (verifyBeaconSignature_iff hE hround hH).mp h'
    cases hpk.symm.trans hQ
    cases hpk.symm.trans hQ'
    have hsame : P = P' :=
      Pairing.pair_left_injective hG₁ hG₂ he hgen (heq.trans heq'.symm)
    have hP₀ : P ≠ 0 := by
      intro hzero
      rw [hzero, map_zero, AddMonoidHom.zero_apply] at heq
      rcases Pairing.eq_zero_or_eq_zero hG₁ hG₂ he heq.symm with hsum | hkey
      · exact hM hsum
      · exact Pairing.nsmul_ne_zero_of_card hG₂ hgen hsk hkey
    exact hunique hP₀ hP (hsame ▸ hP')

end PrimeOrder

section Sample

theorem signature_unique_fiveToSix :
    verifyBeaconSignature smallBeacon (pointBytes 96 3) (pointBytes 48 5) 5 6 = .ok () ∧
      ∀ asig, verifyBeaconSignature smallBeacon (pointBytes 96 3) asig 5 6 = .ok () →
        asig = pointBytes 48 5 := by
  have haccepted : verifyBeaconSignature smallBeacon (pointBytes 96 3) (pointBytes 48 5) 5 6 =
      .ok () := by decide +kernel
  have hmul : (AddMonoidHom.mul : ZMod 7 →+ ZMod 7 →+ ZMod 7) ≠ 0 := by
    intro h
    have hone : (1 : ZMod 7) * 1 = 0 := DFunLike.congr_fun (DFunLike.congr_fun h 1) 1
    exact absurd hone (by decide)
  have hgen : (smallEngine byteSum).generator ≠ 0 := by decide
  have hpk : (smallEngine byteSum).deserializeG2 (pointBytes 96 3).toList =
      some (3 • (smallEngine byteSum).generator) := by decide +kernel
  have hM : ((UInt64.rangeInclusive 5 6).map roundPoint).sum ≠ 0 := by decide +kernel
  have : Fact (Nat.Prime 7) := ⟨by decide⟩
  obtain ⟨_, hunique⟩ := signature_unique Unit (fun _ _ _ => true) 3 (pointBytes 96 3) 5 6
    smallEngine_computes smallEngine_roundTrips smallEngine_decodesUniquely (Nat.card_zmod 7)
    (Nat.card_zmod 7) hmul hgen (by decide) hpk (fun r _ => computeRoundOnG1_small r) hM
  exact ⟨haccepted, fun asig h => hunique asig (pointBytes 48 5) h haccepted⟩

end Sample

end IdealNetwork
