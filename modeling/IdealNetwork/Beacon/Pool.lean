import IdealNetwork.Beacon.Work
import IdealNetwork.Lib.ScaleDecode

/-!
# Submissions before they are executed

Submissions are unsigned, so the transaction pool asks the pallet whether to
hold one (`validate_unsigned`), and so does a block, of each of its unsigned
calls before it executes them. The pallet answers for submissions of this node
only, and turns one down early if its first round has passed.

That is early and not more than that. A submission that is turned down would
fail, and it stays that way, since the next round never goes back
(`invalid_for_good`). An author who leaves out what is turned down builds blocks
that others import, and that do what the blocks with everything in them would
have done (`validation_transparent`).
-/

set_option autoImplicit false

namespace IdealNetwork.Beacon

open Scale Storage Crypto

variable {G₁ G₂ Gt D : Type} [AddCommGroup G₁]

/-! ## Validation -/

/-- Where a transaction comes from. -/
inductive TransactionSource where
  | inBlock
  | «local»
  | external
deriving DecidableEq, Repr

/-- Of the reasons there are, the one the pallet gives. -/
inductive InvalidTransaction where
  | call
deriving DecidableEq, Repr

/-- What the pool is told about a transaction it may hold. -/
structure ValidTransaction where
  priority : UInt64
  provides : List Bytes
  longevity : UInt64
  propagate : Bool
deriving DecidableEq

/-- The tag of a submission, in front of it the name that the builder was given.
The tag is in a vector of its own. -/
def providesTag (asig : OpaqueSignature) (start «end» : RoundNumber) : Bytes :=
  encode (α := Bytes) "RandomnessBeacon".toUTF8.toList ++
    (compact 1 ++ encode (α := Bytes)
      ("beacon_pulse".toUTF8.toList ++ encode (asig, start, «end»)))

section

variable (T : Config G₁ G₂ Gt)

/-- `validate_unsigned`. -/
def validateUnsigned (source : TransactionSource) (call : Call T.Signature) (s : State D) :
    Except InvalidTransaction ValidTransaction :=
  if source = .external then .error .call
  else
    match call with
    | .trySubmitAsig asig start «end» _ =>
      if start < s.nextRound then .error .call
      else .ok {
        priority := UInt64.maxValue
        provides := [providesTag asig start «end»]
        longevity := 5
        propagate := false }
    | .setBeaconConfig _ => .error .call

end

variable {T : Config G₁ G₂ Gt} {env : Env D} {s t : State D} {source : TransactionSource}
variable {asig : OpaqueSignature} {start «end» : RoundNumber} {signature : T.Signature}

omit [AddCommGroup G₁] in
/-- What is turned down is a submission whose first round has passed, or not a
submission. -/
theorem validateUnsigned_error (hsource : source ≠ .external) {call : Call T.Signature}
    {e : InvalidTransaction} :
    validateUnsigned T source call s = .error e ↔
      ∀ asig start «end» signature, call = .trySubmitAsig asig start «end» signature →
        start < s.nextRound := by
  unfold validateUnsigned
  rw [if_neg hsource]
  cases call with
  | setBeaconConfig pk => exact iff_of_true rfl nofun
  | trySubmitAsig asig start «end» signature =>
    simp only [Call.trySubmitAsig.injEq]
    split
    next hlt =>
      refine iff_of_true rfl ?_
      rintro _ _ _ _ ⟨rfl, rfl, rfl, rfl⟩
      exact hlt
    next hlt =>
      refine iff_of_false nofun fun h => hlt ?_
      exact h _ _ _ _ ⟨rfl, rfl, rfl, rfl⟩

/-- Two submissions share a tag if they are for the same signature and rounds. -/
theorem providesTag_inj {asig' : OpaqueSignature} {start' end' : RoundNumber}
    (h : providesTag asig start «end» = providesTag asig' start' end') :
    asig = asig' ∧ start = start' ∧ «end» = end' := by
  have hsize : ∀ (asig : OpaqueSignature) (start «end» : RoundNumber),
      ("beacon_pulse".toUTF8.toList ++ encode (asig, start, «end»)).length < 2 ^ 32 := by
    intro asig start «end»
    have hfields : (encode (asig, start, «end»)).length = 64 := by
      show (asig.toList ++ (littleEndian 8 start.toNat ++ littleEndian 8 «end».toNat)).length = 64
      simp [littleEndian]
    rw [List.length_append, hfields]
    decide +kernel
  have htag := List.append_cancel_left (List.append_cancel_left h)
  have hbody := (readBack_bytes (hsize asig start «end»)).encode_inj
    (readBack_bytes (hsize asig' start' end')) htag
  have hfields := (readBack (asig, start, «end»)).encode_inj (readBack (asig', start', end'))
    (List.append_cancel_left hbody)
  simpa using hfields

/-! ## What is turned down would fail -/

/-- A submission of rounds that have passed fails, whoever makes it. -/
theorem dispatch_of_passed (origin : Origin) (h : start < s.nextRound) :
    ∃ e, dispatch T env origin (.trySubmitAsig asig start «end» signature) s = (.error e, s) := by
  rcases Action.transactional_cases (perform T env origin
    (.trySubmitAsig asig start «end» signature)) s with ⟨_, u, hperform, _⟩ | ⟨e, hdispatch⟩
  · have heffect : CallEffect T env s [⟨asig, start, «end»⟩] u := trySubmitAsig_ok hperform
    cases heffect with
    | submitted first config ordered height fresh valid =>
      exact absurd fresh (UInt64.not_le.mpr h)
  · exact ⟨e, hdispatch⟩

/-- Without an origin the key cannot be set. -/
theorem dispatch_setBeaconConfig_none (pk : OpaquePublicKey) :
    dispatch T env .none (.setBeaconConfig pk) s = (.error .badOrigin, s) := rfl

/-- An unsigned call that is turned down fails. -/
theorem dispatch_of_invalid (env : Env D) (hsource : source ≠ .external)
    {call : Call T.Signature} {e : InvalidTransaction}
    (h : validateUnsigned T source call s = .error e) :
    ∃ err, dispatch T env .none call s = (.error err, s) := by
  cases call with
  | trySubmitAsig asig start «end» signature =>
    exact dispatch_of_passed .none ((validateUnsigned_error hsource).mp h _ _ _ _ rfl)
  | setBeaconConfig pk => exact ⟨_, dispatch_setBeaconConfig_none pk⟩

/-! ## And stays that way -/

theorem CallEffect.nextRound_le {more : List Accumulation} (h : CallEffect T env s more t) :
    s.nextRound ≤ t.nextRound := by
  cases h with
  | @submitted acc pk first config ordered height fresh valid =>
    show s.nextRound ≤ acc.end.saturatingAdd 1
    rw [UInt64.le_iff_toNat_le] at ordered fresh ⊢
    rw [UInt64.toNat_saturatingAdd]
    have hmax := acc.end.toNat_lt
    show s.nextRound.toNat ≤ min (acc.end.toNat + 1) (2 ^ 64 - 1)
    omega
  | configured pk => exact UInt64.le_refl _
  | refused => exact UInt64.le_refl _

/-- In a block the next round never goes back. -/
theorem extrinsics_nextRound_le (extrinsics : List (Extrinsic T D)) :
    s.nextRound ≤ (Runs.run (Extrinsic.apply env) extrinsics s).nextRound :=
  extrinsics_invariant (P := fun _ u => s.nextRound ≤ u.nextRound) [] (UInt64.le_refl _)
    (fun heffect hu => UInt64.le_trans hu heffect.nextRound_le) fun _ hu => hu

/-- Nor does it from block to block. -/
theorem run_nextRound_le (blocks : List (Block T D)) :
    s.nextRound ≤ (run blocks s).nextRound := by
  refine Runs.run_invariant (P := fun u => s.nextRound ≤ u.nextRound) Block.apply
    (UInt64.le_refl _) ?_
  intro b _ u hu
  exact UInt64.le_trans hu (extrinsics_nextRound_le b.extrinsics)

/-- INVALID FOR GOOD. An unsigned call that the pallet turns down, for this node
or in a block, is turned down at every later point of the chain, between blocks
or in one, and fails there if it is executed all the same. -/
theorem invalid_for_good (source : TransactionSource) (hsource : source ≠ .external)
    (call : Call T.Signature) {e : InvalidTransaction}
    (h : validateUnsigned T source call s = .error e)
    (blocks : List (Block T D)) (env : Env D) (extrinsics : List (Extrinsic T D)) :
    ∃ err u, u = Runs.run (Extrinsic.apply env) extrinsics (run blocks s) ∧
      validateUnsigned T source call u = .error .call ∧
      dispatch T env .none call u = (.error err, u) := by
  have hlater : s.nextRound ≤
      (Runs.run (Extrinsic.apply env) extrinsics (run blocks s)).nextRound :=
    UInt64.le_trans (run_nextRound_le blocks) (extrinsics_nextRound_le extrinsics)
  have hinvalid : validateUnsigned T source call
      (Runs.run (Extrinsic.apply env) extrinsics (run blocks s)) = .error .call := by
    rw [validateUnsigned_error hsource] at h ⊢
    intro asig start «end» signature hcall
    exact UInt64.lt_of_lt_of_le (h asig start «end» signature hcall) hlater
  obtain ⟨err, hfails⟩ := dispatch_of_invalid env hsource hinvalid
  exact ⟨err, _, rfl, hinvalid, hfails⟩

section Sample

open IdealNetwork.Runtime

/-- A submission for one round, signed for by its block's author. -/
def lone (P : ℕ) (round : RoundNumber) : Call sampleBeacon.Signature :=
  .trySubmitAsig (pointBytes 48 P) round round ()

/-- A block with one submission. -/
def loneBlock (P : ℕ) (round : RoundNumber) : Block sampleBeacon Unit :=
  ⟨sampleBlock, [.call .none (lone P round)], id⟩

/-- Round 5 is turned down once round 6 is in, and cannot follow round 8 either. -/
theorem invalid_for_good_five :
    (run [loneBlock 4 6] sampleChain).nextRound = 7 ∧
      (run [loneBlock 3 8] (run [loneBlock 4 6] sampleChain)).nextRound = 9 ∧
      ∃ err u, u = run [loneBlock 3 8] (run [loneBlock 4 6] sampleChain) ∧
        dispatch sampleBeacon sampleBlock .none (lone 1 5) u = (.error err, u) := by
  refine ⟨by decide +kernel, by decide +kernel, ?_⟩
  obtain ⟨err, u, hu, _, hfails⟩ := invalid_for_good .local (by decide) (lone 1 5) (e := .call)
    (s := run [loneBlock 4 6] sampleChain) (by decide +kernel) [loneBlock 3 8]
    sampleBlock []
  exact ⟨err, u, hu.trans List.foldl_nil, hfails⟩

end Sample

/-! ## Building blocks -/

/-- The check before an extrinsic is executed: of the pallet's calls, the
unsigned ones are validated. -/
def Extrinsic.validates : Extrinsic T D → State D → Bool
  | .call .none c, s => (validateUnsigned T .inBlock c s).isOk
  | _, _ => true

/-- A block of which every extrinsic passes. A node imports no other. -/
def Block.Importable (b : Block T D) (s : State D) : Prop :=
  Runs.Along (Extrinsic.apply b.env) (fun x u => x.validates u = true) b.extrinsics s

/-- The block of an author who leaves out what does not pass. -/
def Block.validated (b : Block T D) (s : State D) : Block T D :=
  { b with extrinsics := Runs.admitted (Extrinsic.apply b.env) Extrinsic.validates b.extrinsics s }

/-- Blocks built one on the other. -/
def validated : List (Block T D) → State D → List (Block T D)
  | [], _ => []
  | b :: rest, s => b.validated s :: validated rest ((b.validated s).apply s)

/-- An extrinsic that does not pass is an unsigned call that fails. -/
theorem Extrinsic.fails_of_not_validates (env : Env D) {x : Extrinsic T D}
    (h : x.validates s = false) :
    ∃ c err, x = .call .none c ∧ dispatch T env .none c s = (.error err, s) := by
  unfold Extrinsic.validates at h
  split at h
  next c =>
    cases hvalid : validateUnsigned T .inBlock c s with
    | ok valid =>
      rw [hvalid] at h
      cases h
    | error e =>
      obtain ⟨err, hfails⟩ := dispatch_of_invalid env (by decide) hvalid
      exact ⟨c, err, rfl, hfails⟩
  next => cases h

theorem Extrinsic.apply_of_not_validates {x : Extrinsic T D} (h : x.validates s = false) :
    x.apply env s = s := by
  obtain ⟨c, err, rfl, hfails⟩ := Extrinsic.fails_of_not_validates env h
  exact congrArg Prod.snd hfails

theorem Extrinsic.accepted_of_not_validates {x : Extrinsic T D} (h : x.validates s = false) :
    x.accepted env s = [] := by
  obtain ⟨c, err, rfl, hfails⟩ := Extrinsic.fails_of_not_validates env h
  cases c with
  | trySubmitAsig asig start «end» signature =>
    rw [Extrinsic.accepted, hfails]
  | setBeaconConfig pk => rfl

theorem Block.apply_validated (b : Block T D) (s : State D) :
    (b.validated s).apply s = b.apply s := by
  have hrun : Runs.run (Extrinsic.apply b.env) (b.validated s).extrinsics s =
      Runs.run (Extrinsic.apply b.env) b.extrinsics s :=
    Runs.run_admitted (Extrinsic.apply b.env) fun _ _ => Extrinsic.apply_of_not_validates
  exact congrArg (fun t : State D => onFinalize { t with dispatcher := b.hooks t.dispatcher }) hrun

theorem Block.accepted_validated (b : Block T D) (s : State D) :
    (b.validated s).accepted s = b.accepted s :=
  Runs.outputs_admitted (Extrinsic.apply b.env) (fun _ _ => Extrinsic.apply_of_not_validates)
    fun _ _ => Extrinsic.accepted_of_not_validates

/-- VALIDATION IS TRANSPARENT. An author who leaves out what the pallet turns
down builds blocks that every node imports. The chain of these blocks accepts
the pulses that the chain of all the extrinsics accepts, and ends in its state. -/
theorem validation_transparent (blocks : List (Block T D)) (s : State D) :
    Runs.Along Block.apply Block.Importable (validated blocks s) s ∧
      accepted (validated blocks s) s = accepted blocks s ∧
      run (validated blocks s) s = run blocks s := by
  induction blocks generalizing s with
  | nil => exact ⟨trivial, rfl, rfl⟩
  | cons b rest ih =>
    obtain ⟨himport, haccepted, hrun⟩ := ih ((b.validated s).apply s)
    refine ⟨⟨Runs.along_admitted (Extrinsic.apply b.env), himport⟩, ?_, ?_⟩
    · show (b.validated s).accepted s ++ accepted _ _ = b.accepted s ++ accepted rest _
      rw [haccepted, b.accepted_validated, b.apply_validated]
    · show run _ ((b.validated s).apply s) = run rest (b.apply s)
      rw [hrun, b.apply_validated]

/-! ## Under one key -/

variable {pk : OpaquePublicKey} {log : List Accumulation}

/-- The extrinsic sets no key but this one. -/
def Extrinsic.Keeps (pk : OpaquePublicKey) : Extrinsic T D → Prop
  | .call _ (.setBeaconConfig pk') => pk' = pk
  | _ => True

def Block.Keeps (pk : OpaquePublicKey) (b : Block T D) : Prop :=
  ∀ x ∈ b.extrinsics, x.Keeps pk

/-- What an accumulation has passed before it was accepted under a key. -/
structure Checked (T : Config G₁ G₂ Gt) (pk : OpaquePublicKey) (acc : Accumulation) : Prop where
  ordered : acc.start ≤ acc.end
  height : acc.end.toNat - acc.start.toNat ≤ T.maxSigsPerBlock.toNat
  valid : verifyBeaconSignature T pk acc.signature acc.start acc.end = .ok ()

/-- A chain that has kept a key, and what it has accepted under it. -/
structure Keyed (T : Config G₁ G₂ Gt) (pk : OpaquePublicKey) (log : List Accumulation)
    (s : State D) : Prop where
  key : s.beaconConfig = some pk
  checked : ∀ acc ∈ log, Checked T pk acc

theorem Keyed.submission {origin : Origin} {asig : OpaqueSignature} {start «end» : RoundNumber}
    {signature : T.Signature} (h : Keyed T pk log s) :
    Keyed T pk
      (log ++ Extrinsic.accepted env (.call origin (.trySubmitAsig asig start «end» signature)) s)
      (Extrinsic.apply env (.call origin (.trySubmitAsig asig start «end» signature)) s) := by
  rcases Action.transactional_cases
    (perform T env origin (.trySubmitAsig asig start «end» signature)) s with
    ⟨_, t, hperform, hdispatch⟩ | ⟨e, hdispatch⟩
  · simp only [Extrinsic.accepted, Extrinsic.apply, dispatch, hdispatch]
    have heffect : CallEffect T env s [⟨asig, start, «end»⟩] t := trySubmitAsig_ok hperform
    cases heffect with
    | @submitted _ pk' first config ordered height fresh valid =>
      cases config.symm.trans h.key
      refine ⟨h.key, ?_⟩
      rw [List.forall_mem_append, List.forall_mem_singleton]
      exact ⟨h.checked, ordered, height, valid⟩
  · simp only [Extrinsic.accepted, Extrinsic.apply, dispatch, hdispatch, List.append_nil]
    exact h

theorem Keyed.extrinsic {x : Extrinsic T D} (hkeeps : x.Keeps pk) (h : Keyed T pk log s) :
    Keyed T pk (log ++ x.accepted env s) (x.apply env s) := by
  cases x with
  | elsewhere effect =>
    have hnone : Extrinsic.accepted env (.elsewhere effect : Extrinsic T D) s = [] := rfl
    rw [hnone, List.append_nil]
    exact ⟨h.key, h.checked⟩
  | call origin c =>
    cases c with
    | trySubmitAsig asig start «end» signature => exact h.submission
    | setBeaconConfig pk' =>
      obtain rfl : pk' = pk := hkeeps
      have hnone : Extrinsic.accepted (T := T) env (.call origin (.setBeaconConfig pk')) s = [] :=
        rfl
      rw [hnone, List.append_nil]
      rcases Action.transactional_cases (perform T env origin (.setBeaconConfig pk')) s with
        ⟨_, t, hperform, hdispatch⟩ | ⟨e, hdispatch⟩
      · simp only [Extrinsic.apply, dispatch, hdispatch]
        simp only [perform, setBeaconConfig, depositEvent, Action.ensure_bind_ok,
          Action.modify_bind_ok, Action.modify_ok] at hperform
        obtain ⟨_, rfl⟩ := hperform
        exact ⟨rfl, h.checked⟩
      · simp only [Extrinsic.apply, dispatch, hdispatch]
        exact h

theorem Keyed.extrinsics (env : Env D) {extrinsics : List (Extrinsic T D)}
    (hkeeps : ∀ x ∈ extrinsics, x.Keeps pk) (h : Keyed T pk log s) :
    Keyed T pk (log ++ Runs.outputs (Extrinsic.apply env) (Extrinsic.accepted env) extrinsics s)
      (Runs.run (Extrinsic.apply env) extrinsics s) :=
  Runs.run_invariant_outputs (Extrinsic.apply env) log h
    fun x hx _ _ hu => hu.extrinsic (hkeeps x hx)

theorem Keyed.block {b : Block T D} (hkeeps : b.Keeps pk) (h : Keyed T pk log s) :
    Keyed T pk (log ++ b.accepted s) (b.apply s) := by
  obtain ⟨hkey, hchecked⟩ := h.extrinsics b.env hkeeps
  exact ⟨hkey, hchecked⟩

/-- What a run accepts while the key is kept is checked under it. -/
theorem Keyed.run {blocks : List (Block T D)} (hkeeps : ∀ b ∈ blocks, b.Keeps pk)
    (hkey : s.beaconConfig = some pk) : Keyed T pk (accepted blocks s) (run blocks s) :=
  Runs.run_invariant_outputs Block.apply [] ⟨hkey, nofun⟩
    fun b hb _ _ hu => hu.block (hkeeps b hb)

/-! ## Submissions that are good for a block -/

/-- A submission for rounds that have not passed, by the author of the block, with
the signature of the rounds. -/
structure Submittable (T : Config G₁ G₂ Gt) (pk : OpaquePublicKey) (author : AccountId32)
    (s : State D) (asig : OpaqueSignature) (start «end» : RoundNumber)
    (signature : T.Signature) : Prop where
  signed : T.verify signature (encode (α := Bytes) asig.toList ++ encode start ++ encode «end»)
    author = true
  fresh : s.nextRound ≤ start
  checked : Checked T pk ⟨asig, start, «end»⟩

variable {author : AccountId32}

/-- As the first of its block it is accepted. -/
theorem Submittable.accepted (h : Submittable T pk author s asig start «end» signature)
    (hauthor : env.findAuthor = some author) (hflag : s.didUpdate = none)
    (hkey : s.beaconConfig = some pk) :
    Extrinsic.accepted env (.call .none (.trySubmitAsig asig start «end» signature)) s =
      [⟨asig, start, «end»⟩] := by
  have hadmitted : Admitted T env .none asig start «end» signature s :=
    ⟨rfl, ⟨author, hauthor, h.signed⟩, hflag, Option.isSome_of_eq_some hkey, fun _ => h.fresh⟩
  have hheight : «end».toNat - start.toNat ≤ T.maxSigsPerBlock.toNat := h.checked.height
  have hchecks := checks_ok.mpr ⟨⟨hadmitted, hkey, rfl⟩, h.checked.ordered, by omega⟩
  have hvalid : verifyBeaconSignature T pk asig start «end» = .ok () := h.checked.valid
  have htry : (trySubmitAsig T env .none asig start «end» signature s).1 = .ok () := by
    rw [trySubmitAsig_eq, Action.bind_of_ok hchecks, hvalid]
    rfl
  have hdispatch : dispatch T env .none (.trySubmitAsig asig start «end» signature) s =
      (.ok (), _) :=
    Action.transactional_ok.mpr (Prod.ext htry rfl)
  rw [Extrinsic.accepted, hdispatch]

/-- While a block accepts nothing, a submission stays good. -/
theorem Submittable.extrinsics {extrinsics : List (Extrinsic T D)}
    (h : Submittable T pk author s asig start «end» signature) (hflag : s.didUpdate = none)
    (hnone : Runs.outputs (Extrinsic.apply env) (Extrinsic.accepted env) extrinsics s = []) :
    Submittable T pk author (Runs.run (Extrinsic.apply env) extrinsics s) asig start «end»
        signature ∧
      (Runs.run (Extrinsic.apply env) extrinsics s).didUpdate = none := by
  have hkept : _ → (Runs.run (Extrinsic.apply env) extrinsics s).nextRound = s.nextRound ∧
      (Runs.run (Extrinsic.apply env) extrinsics s).didUpdate = none :=
    extrinsics_invariant (P := fun log u => log = [] → u.nextRound = s.nextRound ∧
      u.didUpdate = none) [] (fun _ => ⟨rfl, hflag⟩) ?_ fun _ hu => hu
  · obtain ⟨hnext, hclear⟩ := hkept hnone
    exact ⟨⟨h.signed, hnext ▸ h.fresh, h.checked⟩, hclear⟩
  · intro log u more v heffect hu hnil
    obtain ⟨hlog, hmore⟩ := List.append_eq_nil_iff.mp hnil
    cases heffect with
    | submitted first config ordered height fresh valid => cases hmore
    | configured pk => exact hu hlog
    | refused => exact hu hlog

end IdealNetwork.Beacon
