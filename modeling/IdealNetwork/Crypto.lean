import Mathlib.Algebra.Ring.Hom.Defs
import Mathlib.Data.ZMod.Basic
import IdealNetwork.Lib.Action
import IdealNetwork.Lib.Arith
import IdealNetwork.Lib.Pairing
import IdealNetwork.Lib.Scale

/-!
# The beacon's cryptography

What `sp-idn-crypto` computes on top of the curve: the point a round number
hashes to, the decoding of points, and the verifier of aggregated
signatures. The curve itself is not of this repository. An `Engine` collects
the operations the crate takes from it, and `Engine.Computes` and
`Engine.RoundTrips` say what they are documented to do.
-/

set_option autoImplicit false

namespace IdealNetwork.Crypto

open Scale Storage

inductive CryptoError where
  | deserializeG1Failure
  | deserializeG2Failure
  | hashToCurveFailure
  | serializeG1Failure
  | serializeG2Failure
  | invalidSignature
  | invalidBuffer
deriving DecidableEq, Repr

/-- The operations of the curve and of the hash. An operation that returns a
`Result` there returns an `Option` here: its error is always replaced. -/
structure Engine (G₁ G₂ Gt : Type) where
  /-- The output of a Miller loop. -/
  Looped : Type
  generator : G₂
  serializeCompressed : G₁ → Option Bytes
  deserializeG1 : Bytes → Option G₁
  deserializeG2 : Bytes → Option G₂
  sha256 : Bytes → Bytes
  /-- `MapToCurveBasedHasher::new`, which gives the `hash` of a hasher. -/
  mapToCurveBasedHasher : Bytes → Option (Bytes → Option G₁)
  multiMillerLoop : List G₁ → List G₂ → Looped
  finalExponentiation : Looped → Option Gt

/-- `QUICKNET_CTX`. -/
def quicknetCtx : Bytes :=
  "BLS_SIG_BLS12381G1_XMD:SHA-256_SSWU_RO_NUL_".toList.map fun c => UInt8.ofNat c.toNat

/-- `Result::ok_or` and `map_err`, on an engine's answer. -/
def orError {α : Type} (answer : Option α) (e : CryptoError) : Except CryptoError α :=
  match answer with
  | some a => .ok a
  | none => .error e

theorem orError_ok {α : Type} {answer : Option α} {e : CryptoError} {a : α} :
    orError answer e = .ok a ↔ answer = some a := by
  cases answer with
  | none => simp only [orError, reduceCtorEq]
  | some b => simp only [orError, Except.ok.injEq, Option.some.injEq]

variable {G₁ G₂ Gt : Type}

section Points

variable (E : Engine G₁ G₂ Gt)

def decodeG1 (bytes : Bytes) : Except CryptoError G₁ :=
  orError (E.deserializeG1 bytes) .deserializeG1Failure

def decodeG2 (bytes : Bytes) : Except CryptoError G₂ :=
  orError (E.deserializeG2 bytes) .deserializeG2Failure

/-- The message the beacon signs in a round. -/
def message (currentRound : UInt64) (prevSig : Bytes) : Bytes :=
  E.sha256 (prevSig ++ (littleEndian 8 currentRound.toNat).reverse)

/-- The point on G1 of a round number. -/
def computeRoundOnG1 (round : UInt64) : Except CryptoError G₁ := do
  let message := message E round []
  let hash ← orError (E.mapToCurveBasedHasher quicknetCtx) .hashToCurveFailure
  let messageHash ← orError (hash message) .invalidBuffer
  let bytes ← orError (E.serializeCompressed messageHash) .deserializeG1Failure
  decodeG1 E bytes

/-- Compressed points of G1 are 48 bytes and decode to what was encoded. -/
def Engine.RoundTrips : Prop :=
  ∀ P : G₁, ∃ bytes : Vector UInt8 48,
    E.serializeCompressed P = some bytes.toList ∧ E.deserializeG1 bytes.toList = some P

/-- Every point but the identity has one encoding of 48 bytes. -/
def Engine.DecodesUniquely [Zero G₁] : Prop :=
  ∀ {P : G₁} {bytes bytes' : Vector UInt8 48}, P ≠ 0 →
    E.deserializeG1 bytes.toList = some P → E.deserializeG1 bytes'.toList = some P →
    bytes = bytes'

/-- The engine computes the pairing `e`. -/
def Engine.Computes [AddCommGroup G₁] [AddCommGroup G₂] [AddCommGroup Gt]
    (e : G₁ →+ G₂ →+ Gt) : Prop :=
  ∀ a b q s, E.finalExponentiation (E.multiMillerLoop [a, b] [q, s]) = some (e a q + e b s)

end Points

section Verification

variable [AddCommGroup G₁] [AddCommGroup Gt] [DecidableEq Gt] (E : Engine G₁ G₂ Gt)

def zeroOnG1 : G₁ := 0

/-- One Miller loop and one final exponentiation in place of two pairings. -/
def fastPairingOpt (signature : G₁) (q : G₂) (r : G₁) (s : G₂) : Bool :=
  match E.finalExponentiation (E.multiMillerLoop [-signature, r] [q, s]) with
  | some exp => exp = 0
  | none => false

/-- `QuicknetVerifier::verify`. -/
def QuicknetVerifier.verify (beaconPkBytes serializedSigBytes serializedMessagesBytes : Bytes) :
    Except CryptoError Unit := do
  let beaconPk ← decodeG2 E beaconPkBytes
  let asig ← decodeG1 E serializedSigBytes
  let amsg ← decodeG1 E serializedMessagesBytes
  if fastPairingOpt E asig E.generator amsg beaconPk then
    .ok ()
  else
    .error .invalidSignature

variable [AddCommGroup G₂] {E} {e : G₁ →+ G₂ →+ Gt}

theorem fastPairingOpt_iff (hE : E.Computes e) {signature r : G₁} {q s : G₂} :
    fastPairingOpt E signature q r s = true ↔ e signature q = e r s := by
  unfold fastPairingOpt
  rw [hE]
  simp only [decide_eq_true_eq]
  exact Pairing.sub_pair_eq_zero e

/-- The verifier accepts when everything decodes and the signature pairs with
the generator as the message does with the key. -/
theorem QuicknetVerifier.verify_ok (hE : E.Computes e) {pk sig msg : Bytes} :
    verify E pk sig msg = .ok () ↔
      ∃ Q P M, E.deserializeG2 pk = some Q ∧ E.deserializeG1 sig = some P ∧
        E.deserializeG1 msg = some M ∧ e P E.generator = e M Q := by
  simp only [verify, decodeG2, decodeG1, except_bind_ok, orError_ok, ← fastPairingOpt_iff hE,
    ite_eq_left_iff, reduceCtorEq, imp_false, not_not, exists_and_left]

end Verification

/-! ## A small curve

The integers modulo 7 with multiplication as the pairing, points encoded as
numbers, and a hash left to choose: the least engine that does what the
curve is assumed to do. -/

section Small

def encodePoint (width : ℕ) (P : ZMod 7) : Bytes := littleEndian width P.val

/-- The encoding, as an array. -/
def pointBytes (width : ℕ) (P : ZMod 7) : Vector UInt8 width :=
  ⟨(encodePoint width P).toArray, length_littleEndian width P.val⟩

def decodePoint (width : ℕ) (bytes : Bytes) : Option (ZMod 7) :=
  [0, 1, 2, 3, 4, 5, 6].find? fun P => encodePoint width P = bytes

def smallEngine (hash : Bytes → Option (ZMod 7)) : Engine (ZMod 7) (ZMod 7) (ZMod 7) where
  Looped := ZMod 7
  generator := 1
  serializeCompressed P := some (encodePoint 48 P)
  deserializeG1 := decodePoint 48
  deserializeG2 := decodePoint 96
  sha256 := id
  mapToCurveBasedHasher _ := some hash
  multiMillerLoop ps qs := (List.zipWith (· * ·) ps qs).sum
  finalExponentiation := some

/-- The sum of the bytes. -/
def byteSum (bytes : Bytes) : Option (ZMod 7) := some ((bytes.map UInt8.toNat).sum : ℕ)

variable {hash : Bytes → Option (ZMod 7)}

theorem smallEngine_computes : (smallEngine hash).Computes AddMonoidHom.mul := by
  intro a b q s
  show some (a * q + (b * s + 0)) = some (a * q + b * s)
  rw [add_zero]

theorem decodePoint_encodePoint : ∀ P, decodePoint 48 (encodePoint 48 P) = some P := by
  decide +kernel

theorem encodePoint_of_decodePoint {width : ℕ} {bytes : Bytes} {P : ZMod 7}
    (h : decodePoint width bytes = some P) : encodePoint width P = bytes := by
  unfold decodePoint at h
  have hfound := List.find?_some h
  exact of_decide_eq_true hfound

theorem smallEngine_roundTrips : (smallEngine hash).RoundTrips := by
  intro P
  exact ⟨pointBytes 48 P, rfl, decodePoint_encodePoint P⟩

theorem smallEngine_decodesUniquely : (smallEngine hash).DecodesUniquely := by
  intro P bytes bytes' _ h h'
  exact Vector.toList_inj.mp
    ((encodePoint_of_decodePoint h).symm.trans (encodePoint_of_decodePoint h'))

/-- The point of a round, when the hash adds up bytes. -/
def roundPoint (round : UInt64) : ZMod 7 :=
  (((littleEndian 8 round.toNat).reverse.map UInt8.toNat).sum : ℕ)

theorem computeRoundOnG1_small (round : UInt64) :
    computeRoundOnG1 (smallEngine byteSum) round = .ok (roundPoint round) := by
  simp only [computeRoundOnG1, decodeG1, except_bind_ok, orError_ok]
  exact ⟨byteSum, rfl, roundPoint round, rfl, encodePoint 48 (roundPoint round), rfl,
    decodePoint_encodePoint (roundPoint round)⟩

end Small

end IdealNetwork.Crypto
