import IdealNetwork.Manager.Deposits

/-!
# What a subscription costs

The deposit of a record follows its encoded size, and of a new record only
the target, the call and the metadata vary in size. So two records cost the
same exactly if these are as long, unless the price per byte is zero or the
arithmetic has run into its bounds (`calculateStorageDeposit_eq_iff`).

That decides whether what a subscriber was told is what is taken: a quote
prices a dummy record, a creation the record it stores, and an update
compares the record it writes with itself, so it never takes or returns a
deposit (`update_reprices_iff`). Had it compared it with the record before, it
would take deposits and still return none (`diff_deposit_moves_iff`).
-/

set_option autoImplicit false

namespace IdealNetwork.Manager

open Scale Storage Holds

variable {T : Config} {s t : State T} {env : Env} {origin : Origin}
variable {sub sub' : SubscriptionOf} {who : AccountId32} {id : SubscriptionId}

/-! ## The price of a record -/

/-- The price of a record of this size does not grow any more: the size does
not fit a `u64`, or the price a `u128`. -/
def Clamped (T : Config) (size : ℕ) : Prop :=
  2 ^ 64 - 1 ≤ size ∨ 2 ^ 128 - 1 ≤ T.sdMultiplier * size

/-- A larger record costs the same only if bytes are free or the price is
clamped. -/
theorem calculateStorageDeposit_eq_iff_of_le (hle : encodedSize sub ≤ encodedSize sub') :
    calculateStorageDeposit T sub = calculateStorageDeposit T sub' ↔
      T.sdMultiplier = 0 ∨ encodedSize sub = encodedSize sub' ∨ Clamped T (encodedSize sub) := by
  unfold calculateStorageDeposit Clamped
  rw [saturatingMul128_eq_iff (min_le_min_right _ hle)]
  by_cases hbig : 2 ^ 64 - 1 ≤ encodedSize sub
  · have hmin : min (encodedSize sub) (2 ^ 64 - 1) = min (encodedSize sub') (2 ^ 64 - 1) := by omega
    simp only [hmin, hbig, true_or, or_true]
  · have hsame : min (encodedSize sub) (2 ^ 64 - 1) = min (encodedSize sub') (2 ^ 64 - 1) ↔
        encodedSize sub = encodedSize sub' := by omega
    rw [hsame, min_eq_left (Nat.le_of_not_le hbig)]
    simp only [hbig, false_or]

/-- Two records cost the same if they are as long, if bytes are free, or if
the price is clamped. -/
theorem calculateStorageDeposit_eq_iff :
    calculateStorageDeposit T sub = calculateStorageDeposit T sub' ↔
      T.sdMultiplier = 0 ∨ encodedSize sub = encodedSize sub' ∨
        Clamped T (min (encodedSize sub) (encodedSize sub')) := by
  rcases Nat.le_total (encodedSize sub) (encodedSize sub') with hle | hle
  · rw [min_eq_left hle]
    exact calculateStorageDeposit_eq_iff_of_le hle
  · rw [min_eq_right hle, eq_comm, calculateStorageDeposit_eq_iff_of_le hle,
      eq_comm (a := encodedSize sub)]

theorem length_encode_originKind (kind : OriginKind) : (encode kind).length = 1 := by
  cases kind <;> rfl

/-- Of a new record, only the target, the call and the metadata vary in size. -/
theorem encodedSize_newSubscription (env : Env) (who : AccountId32) (id : SubscriptionId)
    (params : CreateSubParamsOf) :
    encodedSize (newSubscription env who id params) =
      95 + (encode params.target).length + (encode params.call).length +
        (encode params.metadata).length := by
  have hwho : (encode who).length = 32 := Vector.length_toList
  have hdetails : (encode (newSubscription env who id params).details).length =
      33 + (encode params.target).length + (encode params.call).length := by
    show (encode who ++ encode params.target ++ encode params.call ++
      encode params.originKind).length = _
    simp only [List.length_append, hwho, length_encode_originKind]
    omega
  rw [encodedSize_subscription, hdetails]
  show 61 + _ + (encode params.metadata).length + (encode (none : Option BlockNumber)).length = _
  rw [length_encode_none]
  omega

/-! ## Quotes and creations -/

/-- A quote names the price of the credits of its lifetime, and that of a
record made up from its parameters. -/
theorem quoteSubscription_quotes {params : QuoteSubParamsOf} {u : Unit}
    (h : dispatch T env origin (.quoteSubscription params) s = (.ok u, t)) :
    ∃ requester target acc quote, ensureRequester T origin = .ok (requester, target, acc) ∧
      t.events = s.events ++ [.subQuoted requester quote] ∧
      quote.fees = calculateSubscriptionFees T.baseFee
        (calculateCredits params.quoteRequest.createSubParams.frequency
          params.quoteRequest.lifetimePulses) ∧
      quote.deposit = calculateStorageDepositFromCreateParams T env acc
        params.quoteRequest.createSubParams := by
  obtain ⟨requester, target, acc, _, hrequester, _, rfl⟩ := quoteSubscription_answers h
  exact ⟨requester, target, acc, quoteFor T env acc params, hrequester, rfl, by rw [quoteFor],
    by rw [quoteFor]⟩

/-- A creation puts the price of its credits and that of its record on hold. -/
theorem createSubscription_holds (law : T.currency.Lawful) {params : CreateSubParamsOf} {u : Unit}
    (h : dispatch T env origin (.createSubscription params) s = (.ok u, t)) :
    ∃ who id, ensureSignedOrValidXcmOrigin T origin = .ok who ∧
      onHold t .fees who =
        onHold s .fees who + calculateSubscriptionFees T.baseFee params.credits ∧
      onHold t .storageDeposit who = onHold s .storageDeposit who +
        calculateStorageDeposit T (newSubscription env who id params) := by
  cases dispatch_ok h with
  | @created _ who L₁ L₂ caller bought room fresh fees deposit =>
    obtain ⟨hfees, hdeposit⟩ := created_balanced law
      (newSubscription env who (newSubId T env who params) params) fees deposit who
    rw [if_pos rfl] at hfees hdeposit
    exact ⟨who, newSubId T env who params, caller, hfees, hdeposit⟩

/-! ## Updates -/

/-- An update changes the size of a record by its metadata only. -/
theorem encodedSize_applyUpdate (env : Env) (params : UpdateSubParamsOf) (sub : SubscriptionOf) :
    encodedSize (applyUpdate env params sub) =
      encodedSize { sub with metadata := params.metadata.getD sub.metadata } := by
  rw [encodedSize_subscription, encodedSize_subscription]
  rfl

/-- UPDATES DO NOT RE-PRICE. An update that succeeds leaves the owner's deposit
hold as it is. So the hold changes by the difference of the record's prices
exactly if there is none: the requested metadata are as long as the stored
ones, or bytes are free, or the price is clamped. -/
theorem update_reprices_iff (law : T.currency.Lawful) {params : UpdateSubParamsOf}
    (hstored : s.subscriptions.lookup params.subId = some sub)
    (h : dispatch T env origin (.updateSubscription params) s = (.ok (), t)) :
    ∃ sub', t.subscriptions.lookup params.subId = some sub' ∧
      (onHold t .storageDeposit sub.details.subscriber + calculateStorageDeposit T sub =
          onHold s .storageDeposit sub.details.subscriber + calculateStorageDeposit T sub' ↔
        T.sdMultiplier = 0 ∨
          (encode (params.metadata.getD sub.metadata)).length = (encode sub.metadata).length ∨
          Clamped T (min (encodedSize sub)
            (encodedSize { sub with metadata := params.metadata.getD sub.metadata }))) := by
  cases dispatch_ok h with
  | @updated _ who sub₀ L caller stored owner live fees =>
    cases hstored.symm.trans stored
    refine ⟨applyUpdate env params sub, Finmap.lookup_insert _, ?_⟩
    have hheld : onHold (rewritten params.subId (applyUpdate env params sub) L
        (.subscriptionUpdated params.subId) s) .storageDeposit sub.details.subscriber =
          onHold s .storageDeposit sub.details.subscriber :=
      fees.storageDeposit law sub.details.subscriber
    have hsize : encodedSize sub =
        encodedSize { sub with metadata := params.metadata.getD sub.metadata } ↔
          (encode (params.metadata.getD sub.metadata)).length = (encode sub.metadata).length := by
      rw [encodedSize_subscription, encodedSize_subscription]
      show 61 + (encode sub.details).length + _ + (encode sub.lastDelivered).length =
        61 + (encode sub.details).length + (encode (params.metadata.getD sub.metadata)).length +
          (encode sub.lastDelivered).length ↔ _
      omega
    rw [hheld, Nat.add_left_cancel_iff, calculateStorageDeposit_eq_iff, encodedSize_applyUpdate,
      hsize]

section Sample

open IdealNetwork.Runtime

/-- Alice's subscription, without metadata. -/
def boughtPlain : State standalone :=
  (dispatch standalone (online 1) (.signed alice) (.createSubscription (sampleParams 3)) funded).2

/-- Alice asks for every second block. -/
def slowDownSample : UpdateSubParamsOf := ⟨sampleId, none, some 2, none⟩

def slowedDown : State standalone :=
  (dispatch standalone (online 2) (.signed alice) (.updateSubscription slowDownSample)
    boughtPlain).2

theorem update_reprices_slowedDown :
    ∃ sub sub', boughtPlain.subscriptions.lookup sampleId = some sub ∧
      slowedDown.subscriptions.lookup sampleId = some sub' ∧
      onHold slowedDown .storageDeposit sub.details.subscriber +
          calculateStorageDeposit standalone sub =
        onHold boughtPlain .storageDeposit sub.details.subscriber +
          calculateStorageDeposit standalone sub' := by
  obtain ⟨sub, hstored⟩ : ∃ sub, boughtPlain.subscriptions.lookup sampleId = some sub :=
    Option.isSome_iff_exists.mp (by decide +kernel)
  have hupdate : dispatch standalone (online 2) (.signed alice)
      (.updateSubscription slowDownSample) boughtPlain = (.ok (), slowedDown) :=
    Prod.ext (by decide +kernel) (by rw [slowedDown])
  obtain ⟨sub', hstored', hiff⟩ := update_reprices_iff (plain_lawful _) hstored hupdate
  exact ⟨sub, sub', hstored, hstored', hiff.mpr (Or.inr (Or.inl rfl))⟩

/-- Alice adds eight bytes of metadata. -/
def annotateSample : UpdateSubParamsOf :=
  ⟨sampleId, none, none, some (some ⟨List.replicate 8 65, by decide⟩)⟩

def annotated : State standalone :=
  (dispatch standalone (online 2) (.signed alice) (.updateSubscription annotateSample)
    boughtPlain).2

/-- The record has become nine bytes longer, and no deposit was taken for them. -/
theorem update_underprices_annotated :
    (dispatch standalone (online 2) (.signed alice) (.updateSubscription annotateSample)
        boughtPlain).1 = .ok () ∧
      (boughtPlain.subscriptions.lookup sampleId).map (calculateStorageDeposit standalone) =
        some 10400 ∧
      (annotated.subscriptions.lookup sampleId).map (calculateStorageDeposit standalone) =
        some 11300 ∧
      onHold boughtPlain .storageDeposit alice = 10400 ∧
      onHold annotated .storageDeposit alice = 10400 :=
  ⟨by decide +kernel, by decide +kernel, by decide +kernel, by decide +kernel, by decide +kernel⟩

end Sample

/-! ## Differences -/

/-- A record does not cost more than another exactly if it is no longer, or if
length does not matter. -/
theorem calculateStorageDeposit_le_iff :
    calculateStorageDeposit T sub ≤ calculateStorageDeposit T sub' ↔
      encodedSize sub ≤ encodedSize sub' ∨ T.sdMultiplier = 0 ∨ Clamped T (encodedSize sub') := by
  rcases Nat.le_total (encodedSize sub) (encodedSize sub') with hle | hle
  · exact iff_of_true (saturatingMul128_mono (min_le_min_right _ hle)) (Or.inl hle)
  · have hge : calculateStorageDeposit T sub' ≤ calculateStorageDeposit T sub :=
      saturatingMul128_mono (min_le_min_right _ hle)
    rw [hge.ge_iff_eq, calculateStorageDeposit_eq_iff_of_le hle, ← hle.ge_iff_eq, or_left_comm]

/-- A difference that grows puts its amount on hold, if the account has it. -/
theorem manageDiffDeposit_collect (law : T.currency.Lawful) {L : T.currency.Ledger}
    (hlt : calculateStorageDeposit T sub < calculateStorageDeposit T sub')
    (hhold : T.currency.hold .storageDeposit who
      (calculateStorageDeposit T sub' - calculateStorageDeposit T sub) s.ledger = .ok L) :
    manageDiffDeposit T who (calculateDiffDeposit T sub sub') s =
        (.ok (), { s with ledger := L }) ∧
      onHold { s with ledger := L } .storageDeposit who + calculateStorageDeposit T sub =
        onHold s .storageDeposit who + calculateStorageDeposit T sub' := by
  refine ⟨?_, ?_⟩
  · simp only [manageDiffDeposit, calculateDiffDeposit, if_pos hlt]
    exact holdFor_ok.mpr ⟨L, hhold, rfl⟩
  · have hheld := law.hold_onHold hhold .storageDeposit who
    rw [if_pos ⟨rfl, rfl⟩] at hheld
    show T.currency.balanceOnHold L .storageDeposit who + _ =
      T.currency.balanceOnHold s.ledger .storageDeposit who + _
    omega

/-- Any other difference succeeds and leaves the hold as it is: the amount of a
release is a difference the wrong way round, and so zero. -/
theorem manageDiffDeposit_of_le (law : T.currency.Lawful) (who : AccountId32) (s : State T)
    (hle : calculateStorageDeposit T sub' ≤ calculateStorageDeposit T sub) :
    ∃ t, manageDiffDeposit T who (calculateDiffDeposit T sub sub') s = (.ok (), t) ∧
      onHold t .storageDeposit who = onHold s .storageDeposit who := by
  simp only [manageDiffDeposit, calculateDiffDeposit, if_neg (Nat.not_lt.mpr hle),
    Nat.sub_eq_zero_of_le hle]
  by_cases hlt : calculateStorageDeposit T sub' < calculateStorageDeposit T sub
  · obtain ⟨L, hrelease⟩ := law.release_bestEffort .storageDeposit who 0 s.ledger
    have hheld := law.release_onHold hrelease .storageDeposit who
    rw [if_pos ⟨rfl, rfl⟩, Nat.zero_min, Nat.add_zero] at hheld
    refine ⟨{ s with ledger := L }, ?_, hheld.symm⟩
    simp only [if_pos hlt, releaseDeposit]
    exact Action.bind_of_ok (onLedger_ok.mpr ⟨L, hrelease, rfl⟩)
  · refine ⟨s, ?_, rfl⟩
    simp only [if_neg hlt]
    rfl

/-- DIFFERENCES ARE COLLECTED AND NOT RELEASED. To apply the difference of two
records' deposits succeeds, for an account that can afford an increase. It moves
the hold from the old price to the new one exactly if the record has not become
shorter, or bytes are free, or the price is clamped. -/
theorem diff_deposit_moves_iff (law : T.currency.Lawful) (old new : SubscriptionOf)
    (who : AccountId32) (s : State T)
    (hafford : calculateStorageDeposit T old < calculateStorageDeposit T new →
      ∃ L, T.currency.hold .storageDeposit who
        (calculateStorageDeposit T new - calculateStorageDeposit T old) s.ledger = .ok L) :
    ∃ t, manageDiffDeposit T who (calculateDiffDeposit T old new) s = (.ok (), t) ∧
      (onHold t .storageDeposit who + calculateStorageDeposit T old =
          onHold s .storageDeposit who + calculateStorageDeposit T new ↔
        encodedSize old ≤ encodedSize new ∨ T.sdMultiplier = 0 ∨ Clamped T (encodedSize new)) := by
  rcases Nat.lt_or_ge (calculateStorageDeposit T old) (calculateStorageDeposit T new)
    with hlt | hge
  · obtain ⟨L, hhold⟩ := hafford hlt
    obtain ⟨hdone, hmoved⟩ := manageDiffDeposit_collect law hlt hhold
    exact ⟨_, hdone, iff_of_true hmoved (calculateStorageDeposit_le_iff.mp hlt.le)⟩
  · obtain ⟨t, hdone, hheld⟩ := manageDiffDeposit_of_le law who s hge
    refine ⟨t, hdone, ?_⟩
    rw [← calculateStorageDeposit_le_iff, hheld]
    omega

section DifferenceSample

open IdealNetwork.Runtime

/-- The record as it was stored, and as it is with the metadata. -/
def plainRecord : SubscriptionOf := newSubscription (online 1) alice sampleId (sampleParams 3)

def annotatedRecord : SubscriptionOf := applyUpdate (online 2) annotateSample plainRecord

/-- Alice's holds when the difference has been applied. -/
def grown : State standalone :=
  (manageDiffDeposit standalone alice
    (calculateDiffDeposit standalone plainRecord annotatedRecord) boughtPlain).2

theorem diff_deposit_moves_grown :
    ∃ t, manageDiffDeposit standalone alice
        (calculateDiffDeposit standalone plainRecord annotatedRecord) boughtPlain = (.ok (), t) ∧
      onHold t .storageDeposit alice + calculateStorageDeposit standalone plainRecord =
        onHold boughtPlain .storageDeposit alice +
          calculateStorageDeposit standalone annotatedRecord := by
  have hfunds : calculateStorageDeposit standalone annotatedRecord -
      calculateStorageDeposit standalone plainRecord ≤
        balances.balance boughtPlain.ledger alice := by
    decide +kernel
  have hafford : ∀ (n : ℕ) (L : balances.Ledger), n ≤ balances.balance L alice →
      ∃ L', balances.hold .storageDeposit alice n L = .ok L' := fun n L h => ⟨_, if_pos h⟩
  obtain ⟨t, hdone, hiff⟩ := diff_deposit_moves_iff (plain_lawful _) plainRecord annotatedRecord
    alice boughtPlain fun _ => hafford _ _ hfunds
  exact ⟨t, hdone, hiff.mpr (Or.inl (by decide +kernel))⟩

/-- The way back: the record costs less again, the difference says so, and the
hold stays at the higher price. -/
theorem diff_deposit_keeps_grown :
    calculateStorageDeposit standalone plainRecord = 10400 ∧
      calculateStorageDeposit standalone annotatedRecord = 11300 ∧
      calculateDiffDeposit standalone annotatedRecord plainRecord = ⟨0, .release⟩ ∧
      onHold grown .storageDeposit alice = 11300 ∧
      (manageDiffDeposit standalone alice
        (calculateDiffDeposit standalone annotatedRecord plainRecord) grown).1 = .ok () ∧
      onHold (manageDiffDeposit standalone alice
        (calculateDiffDeposit standalone annotatedRecord plainRecord) grown).2
        .storageDeposit alice = 11300 :=
  ⟨by decide +kernel, by decide +kernel, by decide +kernel, by decide +kernel, by decide +kernel,
    by decide +kernel⟩

end DifferenceSample

end IdealNetwork.Manager
