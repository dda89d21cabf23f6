import IdealNetwork.Beacon.Authentication
import IdealNetwork.Beacon.Pool

/-!
# Randomness on the chain

The pallet is the chain's source of randomness. It hashes the last signature it
has accepted with a subject (`random`), and until it has accepted one it passes
the request to another source. Contracts reach it through a chain extension,
which makes the subject of who calls, which contract asks, and what for.

Under one key of the beacon, what a run of the chain gives out is decided by the
rounds of the last range it accepted: nobody chooses a signature. Who submits
can still choose where the range starts, and no more (`randomness_determined`).
Contracts share a value exactly where they share the pulse and all of the
subject, or where the hash collides (`extension_separated`).
-/

set_option autoImplicit false

namespace IdealNetwork.Beacon

open Scale Storage Crypto

variable {G₁ G₂ Gt D : Type}

/-! ## What the chain keeps -/

section

variable [AddCommGroup G₁] {T : Config G₁ G₂ Gt} {s : State D}

/-- Whatever the keys, a run leaves the last accumulation it has accepted. -/
theorem sparseAccumulation_run (hinit : Initial s) (blocks : List (Block T D)) :
    (run blocks s).sparseAccumulation = (accepted blocks s).getLast? := by
  refine Runs.run_invariant_outputs Block.apply (Q := fun log u =>
    u.sparseAccumulation = log.getLast?) [] hinit.sparseAccumulation fun b _ log u hu => ?_
  refine extrinsics_invariant (P := fun log u => u.sparseAccumulation = log.getLast?) log hu ?_
    fun _ hv => hv
  intro log u more v heffect hv
  cases heffect with
  | submitted first config ordered height fresh valid => exact (List.getLast?_concat ..).symm
  | configured pk => exact (List.append_nil log).symm ▸ hv
  | refused => exact (List.append_nil log).symm ▸ hv

end

/-! ## The source of randomness -/

/-- What the pallet takes its randomness from, beside its storage. -/
structure RandomnessConfig where
  /-- `blake2_256`. -/
  blake2 : Bytes → Vector UInt8 32
  /-- `T::FallbackRandomness::random`. -/
  fallbackRandomness : Bytes → Vector UInt8 32 × BlockNumber

section

variable (R : RandomnessConfig)

/-- `Hashable::hash`. -/
def hash {α : Type} [Encode α] (a : α) (salt : Bytes) : Vector UInt8 32 :=
  R.blake2 (encode (a, salt))

/-- `Randomness::random`, in a block of the given number. -/
def random (blockNumber : BlockNumber) (s : State D) (subject : Bytes) :
    Vector UInt8 32 × BlockNumber :=
  match s.sparseAccumulation with
  | some accumulation => (hash R accumulation.signature subject, blockNumber)
  | none => R.fallbackRandomness subject

end

section PrimeOrder

variable [AddCommGroup G₁] [AddCommGroup G₂] [AddCommGroup Gt] [DecidableEq Gt]
variable {E : Engine G₁ G₂ Gt} {e : G₁ →+ G₂ →+ Gt} {H : RoundNumber → G₁} {sk : ℕ}
variable {pk : OpaquePublicKey} {p : ℕ} [Fact p.Prime]
variable {Signature : Type} {verify : Signature → Bytes → AccountId32 → Bool}

/-- The signature of a range of rounds, in the form it is submitted in. -/
def rangeSignature (E : Engine G₁ G₂ Gt) (H : RoundNumber → G₁) (sk : ℕ)
    (start «end» : RoundNumber) : Option Bytes :=
  E.serializeCompressed ((UInt64.rangeInclusive start «end»).map fun r => sk • H r).sum

/-- The values there are for a subject when the last range ends in a round: one
for each round it can start in. -/
def candidates (R : RandomnessConfig) (E : Engine G₁ G₂ Gt) (H : RoundNumber → G₁) (sk : ℕ)
    (maxSigs : UInt8) («end» : RoundNumber) (subject : Bytes) : List (Vector UInt8 32) :=
  (List.range (maxSigs.toNat + 1)).filterMap fun height =>
    (rangeSignature E H sk (UInt64.ofNat («end».toNat - height)) «end»).map fun bytes =>
      R.blake2 (bytes ++ encode subject)

omit [DecidableEq Gt] in
/-- What signs the sum of the points of some rounds is the sum of their signed
points, to the byte, unless the points cancel. -/
theorem rangeSignature_of_signs {sig : OpaqueSignature} {start «end» : RoundNumber}
    (hround : E.RoundTrips) (hunique : E.DecodesUniquely) (hG₁ : Nat.card G₁ = p)
    (hG₂ : Nat.card G₂ = p) (he : e ≠ 0) (hgen : E.generator ≠ 0) (hsk : ¬ p ∣ sk)
    (hpk : E.deserializeG2 pk.toList = some (sk • E.generator))
    (hM : ((UInt64.rangeInclusive start «end»).map H).sum ≠ 0)
    (h : Signs E e pk sig ((UInt64.rangeInclusive start «end»).map H).sum) :
    rangeSignature E H sk start «end» = some sig.toList := by
  obtain ⟨Q, P, hQ, hP, heq⟩ := h
  cases hpk.symm.trans hQ
  have hpoint : P = ((UInt64.rangeInclusive start «end»).map fun r => sk • H r).sum :=
    Pairing.pair_left_injective hG₁ hG₂ he hgen
      (heq.trans (Pairing.pair_sum_nsmul e _ H sk E.generator).symm)
  have hne : P ≠ 0 := by
    intro hzero
    rw [hzero, map_zero, AddMonoidHom.zero_apply] at heq
    rcases Pairing.eq_zero_or_eq_zero hG₁ hG₂ he heq.symm with hsum | hkey
    · exact hM hsum
    · exact Pairing.nsmul_ne_zero_of_card hG₂ hgen hsk hkey
  obtain ⟨bytes, hser, hdec⟩ := hround P
  rw [rangeSignature, ← hpoint, hser, hunique hne hdec hP]

omit [AddCommGroup G₂] [AddCommGroup Gt] [DecidableEq Gt] in
/-- The value of a range that is not too high is among the candidates. -/
theorem mem_candidates {R : RandomnessConfig} {maxSigs : UInt8} {start «end» : RoundNumber}
    {bytes subject : Bytes} (hle : start ≤ «end»)
    (hheight : «end».toNat - start.toNat ≤ maxSigs.toNat)
    (h : rangeSignature E H sk start «end» = some bytes) :
    R.blake2 (bytes ++ encode subject) ∈ candidates R E H sk maxSigs «end» subject := by
  have hstart : UInt64.ofNat («end».toNat - («end».toNat - start.toNat)) = start := by
    rw [Nat.sub_sub_self (UInt64.le_iff_toNat_le.mp hle), UInt64.ofNat_toNat]
  refine List.mem_filterMap.mpr
    ⟨«end».toNat - start.toNat, List.mem_range.mpr (Nat.lt_succ_of_le hheight), ?_⟩
  rw [hstart, h, Option.map_some]

/-- What has been verified under a key is the signature of its range. -/
theorem Checked.rangeSignature {acc : Accumulation} (hE : E.Computes e) (hround : E.RoundTrips)
    (hunique : E.DecodesUniquely) (hG₁ : Nat.card G₁ = p) (hG₂ : Nat.card G₂ = p) (he : e ≠ 0)
    (hgen : E.generator ≠ 0) (hsk : ¬ p ∣ sk)
    (hpk : E.deserializeG2 pk.toList = some (sk • E.generator))
    (hH : ∀ r P, computeRoundOnG1 E r = .ok P → P = H r)
    (hM : ((UInt64.rangeInclusive acc.start acc.end).map H).sum ≠ 0)
    (h : Checked (Runtime.beacon E Signature verify) pk acc) :
    rangeSignature E H sk acc.start acc.end = some acc.signature.toList := by
  have hpoints : ∀ r ∈ UInt64.rangeInclusive acc.start acc.end,
      computeRoundOnG1 E r = .ok (H r) := by
    obtain ⟨amsg, _, hloop, _⟩ := verifyBeaconSignature_ok.mp h.valid
    intro r hr
    obtain ⟨P, hP⟩ := aggregateMessage_ok hloop r hr
    exact hH r P hP ▸ hP
  exact rangeSignature_of_signs hround hunique hG₁ hG₂ he hgen hsk hpk hM
    ((verifyBeaconSignature_iff hE hround hpoints).mp h.valid)

/-- THE ROUNDS DECIDE. On a chain that keeps the key of a secret `sk`, whatever
its blocks are and whoever makes them, randomness is the hash of the signature of
the last range it has accepted, which the rounds of the range determine, and
the other source's until it has accepted one. What can be made of one last round
are `MaxSigsPerBlock + 1` values at most. -/
theorem randomness_determined (R : RandomnessConfig) (sk : ℕ) (hE : E.Computes e)
    (hround : E.RoundTrips) (hunique : E.DecodesUniquely) (hG₁ : Nat.card G₁ = p)
    (hG₂ : Nat.card G₂ = p) (he : e ≠ 0) (hgen : E.generator ≠ 0) (hsk : ¬ p ∣ sk)
    (hpk : E.deserializeG2 pk.toList = some (sk • E.generator))
    (hH : ∀ r P, computeRoundOnG1 E r = .ok P → P = H r) {s : State D} (hinit : Initial s)
    (hkey : s.beaconConfig = some pk)
    (blocks : List (Block (Runtime.beacon E Signature verify) D))
    (hkeeps : ∀ b ∈ blocks, b.Keeps pk)
    (hM : ∀ acc, (accepted blocks s).getLast? = some acc →
      ((UInt64.rangeInclusive acc.start acc.end).map H).sum ≠ 0)
    (now : BlockNumber) (subject : Bytes) :
    ((accepted blocks s).getLast? = none ∧
        random R now (run blocks s) subject = R.fallbackRandomness subject ∨
      ∃ acc bytes, (accepted blocks s).getLast? = some acc ∧
        rangeSignature E H sk acc.start acc.end = some bytes ∧
        random R now (run blocks s) subject = (R.blake2 (bytes ++ encode subject), now) ∧
        R.blake2 (bytes ++ encode subject) ∈
          candidates R E H sk (Runtime.beacon E Signature verify).maxSigsPerBlock acc.end
            subject) ∧
      ∀ last, (candidates R E H sk (Runtime.beacon E Signature verify).maxSigsPerBlock last
        subject).length ≤ (Runtime.beacon E Signature verify).maxSigsPerBlock.toNat + 1 := by
  have hkeyed := Keyed.run hkeeps hkey
  refine ⟨?_, fun last => ?_⟩
  · unfold random
    rw [sparseAccumulation_run hinit blocks]
    cases hlast : (accepted blocks s).getLast? with
    | none => exact Or.inl ⟨rfl, rfl⟩
    | some acc =>
      have hchecked := hkeyed.checked acc (List.mem_of_getLast? hlast)
      have hsig := hchecked.rangeSignature hE hround hunique hG₁ hG₂ he hgen hsk hpk hH
        (hM acc hlast)
      exact Or.inr ⟨acc, _, rfl, hsig, rfl, mem_candidates hchecked.ordered hchecked.height hsig⟩
  · refine (List.length_filterMap_le _ _).trans ?_
    rw [List.length_range]

end PrimeOrder

section Sample

open IdealNetwork.Runtime

/-- A source that hashes by its first bytes. -/
def sampleRandomness : RandomnessConfig where
  blake2 bytes := Vector.ofFn fun i => bytes.getD i 0
  fallbackRandomness _ := (Vector.replicate 32 0, 0)

/-- A block with the signature of rounds 5 and 6. -/
def fiveToSix : Block smallBeacon Unit :=
  ⟨sampleBlock, [.call .none (.trySubmitAsig (pointBytes 48 (5 : ℕ)) 5 6 ())], id⟩

theorem randomness_determined_fiveToSix :
    accepted [fiveToSix] sampleChain = [⟨pointBytes 48 (5 : ℕ), 5, 6⟩] ∧
      (random sampleRandomness 1 (run [fiveToSix] sampleChain) [7]).1 ∈
        candidates sampleRandomness (smallEngine byteSum) roundPoint 3 6 6 [7] ∧
      (candidates sampleRandomness (smallEngine byteSum) roundPoint 3 6 6 [7]).length ≤ 7 := by
  have haccepted : accepted [fiveToSix] sampleChain = [⟨pointBytes 48 (5 : ℕ), 5, 6⟩] := by
    decide +kernel
  have hmul : (AddMonoidHom.mul : ZMod 7 →+ ZMod 7 →+ ZMod 7) ≠ 0 := by
    intro h
    have hone : (1 : ZMod 7) * 1 = 0 := DFunLike.congr_fun (DFunLike.congr_fun h 1) 1
    exact absurd hone (by decide)
  have hkeeps : ∀ b ∈ [fiveToSix], b.Keeps (pointBytes 96 (3 : ℕ)) := by
    simp [fiveToSix, Block.Keeps, Extrinsic.Keeps]
  have hM : ∀ acc, (accepted [fiveToSix] sampleChain).getLast? = some acc →
      ((UInt64.rangeInclusive acc.start acc.end).map roundPoint).sum ≠ 0 := by
    rw [haccepted]
    rintro acc ⟨⟩
    decide +kernel
  have : Fact (Nat.Prime 7) := ⟨by decide⟩
  obtain ⟨hvalue, hlength⟩ := randomness_determined sampleRandomness 3 smallEngine_computes
    smallEngine_roundTrips smallEngine_decodesUniquely (Nat.card_zmod 7) (Nat.card_zmod 7) hmul
    (by decide) (by decide) (by decide +kernel)
    (fun r P hP => Except.ok.inj (hP.symm.trans (computeRoundOnG1_small r)))
    (s := sampleChain) ⟨rfl, rfl, rfl⟩ rfl [fiveToSix] hkeeps hM 1 [7]
  rw [haccepted] at hvalue
  obtain ⟨hnone, _⟩ | ⟨acc, bytes, hacc, _, hrandom, hmem⟩ := hvalue
  · cases hnone
  · cases hacc
    rw [hrandom]
    exact ⟨haccepted, hmem, hlength 6⟩

end Sample

/-! ## Randomness for contracts -/

/-- The caller of a contract. -/
inductive ContractOrigin where
  | root
  | signed (who : AccountId32)
deriving DecidableEq

instance : Encode ContractOrigin where
  encode
    | .root => [0]
    | .signed who => 1 :: encode who

/-- What the chain extension finds when a contract calls it, `ε` being the
errors of the contracts pallet. -/
structure Environment (ε : Type) where
  funcId : UInt16
  caller : ContractOrigin
  address : AccountId32
  /-- `read_as`, from the contract's memory. -/
  readAs : Except (DispatchError ε) (Vector UInt8 32)
  /-- `write`, to the contract's memory. -/
  write : Bytes → Except (DispatchError ε) Unit

section

variable {ε : Type}

/-- The subject of a contract's request. -/
def Environment.seed (env : Environment ε) (arg : Vector UInt8 32) : Bytes :=
  encode env.caller ++ encode env.address ++ encode arg

/-- `RandExtension::call`, with what it has written. -/
def RandExtension.call (R : RandomnessConfig) (blockNumber : BlockNumber) (s : State D)
    (env : Environment ε) : Except (DispatchError ε) (Vector UInt8 32) :=
  if env.funcId = 1101 then do
    let arg ← env.readAs
    let (randHash, _) := random R blockNumber s (env.seed arg)
    (env.write (encode randHash)).mapError fun _ => .other "Failed to write output randomness"
    pure randHash
  else .error (.other "Unimplemented func_id")

theorem RandExtension.call_ok {R : RandomnessConfig} {blockNumber : BlockNumber} {s : State D}
    {env : Environment ε} {out : Vector UInt8 32} (h : call R blockNumber s env = .ok out) :
    ∃ arg, env.readAs = .ok arg ∧ out = (random R blockNumber s (env.seed arg)).1 := by
  unfold call at h
  split at h
  next =>
    obtain ⟨arg, harg, hrest⟩ := except_bind_ok.mp h
    obtain ⟨_, _, hout⟩ := except_bind_ok.mp hrest
    exact ⟨arg, harg, (Except.ok.inj hout).symm⟩
  next => cases h

/-- A subject says who calls, which contract asks, and what for. -/
theorem Environment.seed_inj {env env' : Environment ε} {arg arg' : Vector UInt8 32}
    (h : env.seed arg = env'.seed arg') :
    env.caller = env'.caller ∧ env.address = env'.address ∧ arg = arg' := by
  unfold seed at h
  cases hcaller : env.caller with
  | root =>
    cases hcaller' : env'.caller with
    | root =>
      rw [hcaller, hcaller'] at h
      have hfields := (readBack (env.address, arg)).encode_inj (readBack (env'.address, arg'))
        (List.cons.inj h).2
      exact ⟨rfl, Prod.mk.inj hfields⟩
    | signed who =>
      rw [hcaller, hcaller'] at h
      exact absurd (List.cons.inj h).1 (by decide)
  | signed who =>
    cases hcaller' : env'.caller with
    | root =>
      rw [hcaller, hcaller'] at h
      exact absurd (List.cons.inj h).1 (by decide)
    | signed who' =>
      rw [hcaller, hcaller'] at h
      have hfields := (readBack ((who, env.address), arg)).encode_inj
        (readBack ((who', env'.address), arg')) (List.cons.inj h).2
      obtain ⟨hpair, harg⟩ := Prod.mk.inj hfields
      obtain ⟨hwho, haddress⟩ := Prod.mk.inj hpair
      exact ⟨congrArg ContractOrigin.signed hwho, haddress, harg⟩

theorem Environment.length_seed_lt (env : Environment ε) (arg : Vector UInt8 32) :
    (env.seed arg).length < 2 ^ 32 := by
  have hcaller : (encode env.caller).length ≤ 33 := by
    cases env.caller with
    | root => decide
    | signed who =>
      show (1 :: who.toList).length ≤ 33
      rw [List.length_cons, Vector.length_toList]
  have haddress : (encode env.address).length = 32 := Vector.length_toList
  have harg : (encode arg).length = 32 := Vector.length_toList
  rw [seed, List.length_append, List.length_append]
  omega

variable [AddCommGroup G₁] {T : Config G₁ G₂ Gt}

/-- CONTRACTS ARE KEPT APART. What two contracts are given, on whatever chains
that have accepted a pulse, is the hash of the same bytes exactly if the last
signature, the caller, the contract and its argument are the same. -/
theorem extension_separated (R : RandomnessConfig) {blocks blocks' : List (Block T D)}
    {s s' : State D} (hinit : Initial s) (hinit' : Initial s') {acc acc' : Accumulation}
    (hlast : (accepted blocks s).getLast? = some acc)
    (hlast' : (accepted blocks' s').getLast? = some acc') {now now' : BlockNumber}
    {env env' : Environment ε} {out out' : Vector UInt8 32}
    (hcall : RandExtension.call R now (run blocks s) env = .ok out)
    (hcall' : RandExtension.call R now' (run blocks' s') env' = .ok out') :
    ∃ arg arg' preimage preimage', env.readAs = .ok arg ∧ env'.readAs = .ok arg' ∧
      out = R.blake2 preimage ∧ out' = R.blake2 preimage' ∧
      (preimage = preimage' ↔ acc.signature = acc'.signature ∧ env.caller = env'.caller ∧
        env.address = env'.address ∧ arg = arg') := by
  obtain ⟨arg, harg, rfl⟩ := RandExtension.call_ok hcall
  obtain ⟨arg', harg', rfl⟩ := RandExtension.call_ok hcall'
  refine ⟨arg, arg', encode (acc.signature, env.seed arg), encode (acc'.signature, env'.seed arg'),
    harg, harg', ?_, ?_, ?_, ?_⟩
  · rw [random, sparseAccumulation_run hinit blocks, hlast]
    rfl
  · rw [random, sparseAccumulation_run hinit' blocks', hlast']
    rfl
  · intro heq
    have hread := (readBack acc.signature).pair (readBack_bytes (env.length_seed_lt arg))
    have hread' := (readBack acc'.signature).pair (readBack_bytes (env'.length_seed_lt arg'))
    obtain ⟨hsignature, hseed⟩ := Prod.mk.inj (hread.encode_inj hread' heq)
    exact ⟨hsignature, Environment.seed_inj hseed⟩
  · rintro ⟨hsignature, hcaller, haddress, rfl⟩
    unfold Environment.seed
    rw [hsignature, hcaller, haddress]

end

section Sample

/-- A contract that asks for randomness, called by whoever. -/
def asking (caller : ContractOrigin) : Environment Unit where
  funcId := 1101
  caller := caller
  address := Vector.replicate 32 2
  readAs := .ok (Vector.replicate 32 3)
  write _ := .ok ()

/-- The contract is given different hashes when it is called by the root. -/
theorem extension_separated_callers :
    ∃ preimage preimage', preimage ≠ preimage' ∧
      RandExtension.call sampleRandomness 1 (run [fiveToSix] sampleChain) (asking .root) =
        .ok (sampleRandomness.blake2 preimage) ∧
      RandExtension.call sampleRandomness 1 (run [fiveToSix] sampleChain)
        (asking (.signed Runtime.alice)) = .ok (sampleRandomness.blake2 preimage') := by
  have hlast : (accepted [fiveToSix] sampleChain).getLast? =
      some ⟨pointBytes 48 (5 : ℕ), 5, 6⟩ := by decide +kernel
  have hcall : ∀ caller, RandExtension.call sampleRandomness 1 (run [fiveToSix] sampleChain)
      (asking caller) = .ok (random sampleRandomness 1 (run [fiveToSix] sampleChain)
        ((asking caller).seed (Vector.replicate 32 3))).1 := fun _ => rfl
  obtain ⟨arg, arg', preimage, preimage', _, _, hout, hout', hsame⟩ :=
    extension_separated sampleRandomness ⟨rfl, rfl, rfl⟩ ⟨rfl, rfl, rfl⟩ hlast hlast
      (hcall .root) (hcall (.signed Runtime.alice))
  refine ⟨preimage, preimage', fun heq => ?_, ?_, ?_⟩
  · cases (hsame.mp heq).2.1
  · rw [hcall, hout]
  · rw [hcall, hout']

end Sample

end IdealNetwork.Beacon
