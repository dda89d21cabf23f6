import IdealNetwork.Beacon.Ingestion
import IdealNetwork.Runtime

/-!
# The work of a submission

Verifying a submission takes one hash to the curve for each of its rounds, and
the weight of the call is computed for `MaxSigsPerBlock` of them. What the call
bounds is the difference of the ends of the range, and the loop runs over both
of them: at the bound it runs once more (`verification_work_iff`).

`checks` is the part of the call before the loop. That the call is its checks,
the verification and the writes is `trySubmitAsig_eq`.
-/

set_option autoImplicit false

namespace IdealNetwork.Beacon

open Scale Storage Crypto

variable {G₁ G₂ Gt D : Type} [AddCommGroup G₁]

section

variable (T : Config G₁ G₂ Gt) (env : Env D) (origin : Origin) (asig : OpaqueSignature)
variable (start «end» : RoundNumber) (signature : T.Signature)

/-- The body of the loop. -/
def addRound (amsg : G₁) (r : RoundNumber) : Except CryptoError G₁ := do
  let msg ← computeRoundOnG1 T.engine r
  pure (amsg + msg)

theorem aggregateMessage_eq_foldlM (rounds : List RoundNumber) :
    aggregateMessage T rounds = rounds.foldlM (addRound T) zeroOnG1 := rfl

/-- What `try_submit_asig` checks before it verifies. -/
def checks : PalletM D OpaquePublicKey := do
  .ensure (origin = .none) .badOrigin
  verifySignature T env (encode (α := Bytes) asig.toList ++ encode start ++ encode «end») signature
  let s ← .get
  .ensure (s.didUpdate = none) (.module .signatureAlreadyVerified)
  let pk ← .okOr s.beaconConfig (.module .beaconConfigNotSet)
  .when («end».saturatingSub start = 0)
    (.ensure (start = «end») (.module .zeroHeightProvided))
  .ensure («end».saturatingSub start ≤ T.maxSigsPerBlock.toUInt64)
    (.module .excessiveHeightProvided)
  .when (0 < s.nextRound) (.ensure (s.nextRound ≤ start) (.module .startExpired))
  pure pk

/-- What it writes when it accepts. -/
def accept (acc : Accumulation) : PalletM D Unit := do
  .modify fun s =>
    { s with
      nextRound := acc.end.saturatingAdd 1
      sparseAccumulation := some acc
      didUpdate := some true
      dispatcher := env.dispatch acc.toPulse s.dispatcher }
  depositEvent .signatureVerificationSuccess

theorem trySubmitAsig_eq :
    trySubmitAsig T env origin asig start «end» signature = (do
      let pk ← checks T env origin asig start «end» signature
      .ofExcept (verifyBeaconSignature T pk asig start «end»)
      accept env ⟨asig, start, «end»⟩) := by
  simp only [trySubmitAsig, checks, accept, bind_assoc, pure_bind]

/-- How often the loop of `verify_beacon_signature` runs in a call. -/
def loopIterations (s : State D) : ℕ :=
  match (checks T env origin asig start «end» signature s).1 with
  | .ok _ => iterations (addRound T) zeroOnG1 (UInt64.rangeInclusive start «end»)
  | .error _ => 0

/-- The checks that have nothing to do with the size of the range. -/
structure Admitted (s : State D) : Prop where
  unsigned : origin = .none
  author : ∃ authorId, env.findAuthor = some authorId ∧ T.verify signature
    (encode (α := Bytes) asig.toList ++ encode start ++ encode «end») authorId = true
  first : s.didUpdate = none
  configured : s.beaconConfig.isSome
  fresh : 0 < s.nextRound → s.nextRound ≤ start

end

variable {T : Config G₁ G₂ Gt} {env : Env D} {origin : Origin} {asig : OpaqueSignature}
variable {start «end» : RoundNumber} {signature : T.Signature} {s t : State D}

omit [AddCommGroup G₁] in
/-- A range passes if it is not empty and not too high. -/
theorem height_checks_iff :
    («end».saturatingSub start = 0 → start = «end») ∧
        «end».saturatingSub start ≤ T.maxSigsPerBlock.toUInt64 ↔
      start ≤ «end» ∧ «end».toNat ≤ start.toNat + T.maxSigsPerBlock.toNat := by
  have hheight : («end».saturatingSub start).toNat = «end».toNat - start.toNat :=
    UInt64.toNat_saturatingSub «end» start
  rw [UInt64.le_iff_toNat_le, UInt8.toNat_toUInt64, hheight]
  constructor
  · rintro ⟨hzero, hmax⟩
    exact ⟨start_le_end hzero, by omega⟩
  · rintro ⟨hle, hmax⟩
    refine ⟨fun hzero => UInt64.le_antisymm hle (UInt64.le_iff_toNat_le.mpr ?_), by omega⟩
    rw [hzero] at hheight
    exact Nat.le_of_sub_eq_zero hheight.symm

omit [AddCommGroup G₁] in
/-- The checks pass for a call that is admitted, on a range that is not empty
and not too high. -/
theorem checks_ok {pk : OpaquePublicKey} :
    checks T env origin asig start «end» signature s = (.ok pk, t) ↔
      (Admitted T env origin asig start «end» signature s ∧ s.beaconConfig = some pk ∧ s = t) ∧
        start ≤ «end» ∧ «end».toNat ≤ start.toNat + T.maxSigsPerBlock.toNat := by
  simp only [checks, verifySignature_bind_ok, Action.ensure_bind_ok, Action.when_ensure_bind_ok,
    Action.okOr_bind_ok, Action.get_bind_ok, Action.pure_ok]
  rw [← height_checks_iff]
  constructor
  · rintro ⟨hunsigned, hauthor, hfirst, _, hpk, hzero, hmax, hfresh, rfl, rfl⟩
    exact ⟨⟨⟨hunsigned, hauthor, hfirst, Option.isSome_of_eq_some hpk, hfresh⟩, hpk, rfl⟩,
      hzero, hmax⟩
  · rintro ⟨⟨⟨hunsigned, hauthor, hfirst, _, hfresh⟩, hpk, rfl⟩, hzero, hmax⟩
    exact ⟨hunsigned, hauthor, hfirst, pk, hpk, hzero, hmax, hfresh, rfl, rfl⟩

/-- The loop gets as far as the last round if the rounds before it hash. -/
theorem iterations_eq_iff (h : start ≤ «end») :
    iterations (addRound T) zeroOnG1 (UInt64.rangeInclusive start «end») =
        «end».toNat - start.toNat + 1 ↔
      ∀ r, start ≤ r → r < «end» → ∃ P, computeRoundOnG1 T.engine r = .ok P := by
  rw [UInt64.rangeInclusive_eq_concat h, ← UInt64.length_range, iterations_concat,
    ← aggregateMessage_eq_foldlM]
  constructor
  · rintro ⟨amsg, hloop⟩ r hstart hend
    exact aggregateMessage_ok hloop r (UInt64.mem_range.mpr ⟨hstart, hend⟩)
  · intro hhash
    have hpoints : ∀ r ∈ UInt64.range start «end», ∃ P, computeRoundOnG1 T.engine r = .ok P := by
      intro r hr
      obtain ⟨hstart, hend⟩ := UInt64.mem_range.mp hr
      exact hhash r hstart hend
    choose! H hH using hpoints
    exact ⟨_, aggregateMessage_eq hH⟩

/-- When the loop runs more often than declared. -/
theorem lt_loopIterations_iff :
    T.maxSigsPerBlock.toNat < loopIterations T env origin asig start «end» signature s ↔
      Admitted T env origin asig start «end» signature s ∧
        «end».toNat = start.toNat + T.maxSigsPerBlock.toNat ∧
        ∀ r, start ≤ r → r < «end» → ∃ P, computeRoundOnG1 T.engine r = .ok P := by
  unfold loopIterations
  split
  next pk hchecks =>
    obtain ⟨⟨hadmitted, _, _⟩, hle, hmax⟩ := checks_ok.mp (Prod.ext hchecks rfl)
    have hlength : iterations (addRound T) zeroOnG1 (UInt64.rangeInclusive start «end») ≤ _ :=
      iterations_le _ _
    have heq := iterations_eq_iff (T := T) hle
    rw [UInt64.length_rangeInclusive hle] at hlength
    have hordered := UInt64.le_iff_toNat_le.mp hle
    constructor
    · intro hlt
      exact ⟨hadmitted, by omega, heq.mp (by omega)⟩
    · rintro ⟨_, hend, hhash⟩
      have hall := heq.mpr hhash
      omega
  next e hchecks =>
    refine iff_of_false (Nat.not_lt_zero _) ?_
    rintro ⟨hadmitted, hend, _⟩
    obtain ⟨pk, hpk⟩ := Option.isSome_iff_exists.mp hadmitted.configured
    have hle : start ≤ «end» := UInt64.le_iff_toNat_le.mpr (by omega)
    have hok := checks_ok.mpr ⟨⟨hadmitted, hpk, rfl⟩, hle, hend.le⟩
    rw [hok] at hchecks
    cases hchecks

/-- A submission is accepted only if it is admitted and its rounds hash. -/
theorem trySubmitAsig_accepts {u : Unit}
    (h : trySubmitAsig T env origin asig start «end» signature s = (.ok u, t)) :
    Admitted T env origin asig start «end» signature s ∧ start ≤ «end» ∧
      «end».toNat ≤ start.toNat + T.maxSigsPerBlock.toNat ∧
      ∀ r, start ≤ r → r ≤ «end» → ∃ P, computeRoundOnG1 T.engine r = .ok P := by
  rw [trySubmitAsig_eq] at h
  simp only [Action.bind_ok, Action.ofExcept_ok, checks_ok] at h
  obtain ⟨pk, _, ⟨⟨hadmitted, _, _⟩, hle, hmax⟩, _, _, ⟨hvalid, _⟩, _⟩ := h
  obtain ⟨amsg, _, hloop, _⟩ := verifyBeaconSignature_ok.mp hvalid
  refine ⟨hadmitted, hle, hmax, fun r hstart hend => ?_⟩
  exact aggregateMessage_ok hloop r (UInt64.mem_rangeInclusive.mpr ⟨hstart, hend⟩)

/-- THE WORK IS NOT BOUNDED AS DECLARED. A call runs the loop at most
`MaxSigsPerBlock` times, and covers that many rounds at most if it is accepted,
unless it is admitted, its range is as high as the bound, and every round but
the last hashes: then it runs the loop once more. -/
theorem verification_work_iff (T : Config G₁ G₂ Gt) (env : Env D) (origin : Origin)
    (asig : OpaqueSignature) (start «end» : RoundNumber) (signature : T.Signature) (s : State D) :
    (loopIterations T env origin asig start «end» signature s ≤ T.maxSigsPerBlock.toNat ∧
      ((trySubmitAsig T env origin asig start «end» signature s).1 = .ok () →
        0 < («end».toNat : ℤ) - start.toNat + 1 ∧
          («end».toNat : ℤ) - start.toNat + 1 ≤ T.maxSigsPerBlock.toNat)) ↔
      ¬ (Admitted T env origin asig start «end» signature s ∧
        «end».toNat = start.toNat + T.maxSigsPerBlock.toNat ∧
        ∀ r, start ≤ r → r < «end» → ∃ P, computeRoundOnG1 T.engine r = .ok P) := by
  rw [← lt_loopIterations_iff, Nat.not_lt]
  refine and_iff_left_of_imp fun hwork hok => ?_
  obtain ⟨hadmitted, hle, hmax, hhash⟩ := trySubmitAsig_accepts (Prod.ext hok rfl)
  have hheight : «end».toNat ≠ start.toNat + T.maxSigsPerBlock.toNat := fun hend =>
    Nat.not_lt.mpr hwork (lt_loopIterations_iff.mpr
      ⟨hadmitted, hend, fun r hr hlt => hhash r hr (UInt64.le_of_lt hlt)⟩)
  rw [UInt64.le_iff_toNat_le] at hle
  omega

section Sample

open IdealNetwork.Runtime

/-- A block whose dispatcher drops every pulse. -/
def sampleBlock : Env Unit := ⟨some alice, fun _ d => d⟩

/-- A chain that knows the key of the beacon and has ingested nothing. -/
def sampleChain : State Unit := ⟨some (pointBytes 96 (3 : ℕ)), 0, none, none, [], ()⟩

/-- Six rounds are declared, and seven are verified and accepted. -/
theorem verification_work_seven :
    sampleBeacon.maxSigsPerBlock.toNat = 6 ∧
      loopIterations sampleBeacon sampleBlock .none (pointBytes 48 0) 1 7 () sampleChain = 7 ∧
      (trySubmitAsig sampleBeacon sampleBlock .none (pointBytes 48 0) 1 7 () sampleChain).1 =
        .ok () :=
  ⟨rfl, by decide +kernel, by decide +kernel⟩

end Sample

end IdealNetwork.Beacon
