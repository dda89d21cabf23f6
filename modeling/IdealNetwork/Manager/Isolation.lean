import IdealNetwork.Manager.FeeBacking

/-!
# Owners are isolated

A call acts for one account, the one its origin resolves to. It can write
that account's subscriptions and move that account's holds, and nothing else:
the ids a caller may choose, the ones a caller may name and the refunds of a
termination all stay within the account.
-/

set_option autoImplicit false

namespace IdealNetwork.Manager

open Storage Holds

variable {T : Config} {s t : State T} {env : Env} {origin : Origin} {who : AccountId32}
variable {subId : SubscriptionId} {sub : SubscriptionOf}

/-- The account an origin stands for: the signer, or what the location of an
accepted XCM origin converts to. -/
def Resolves (T : Config) (origin : Origin) (who : AccountId32) : Prop :=
  ensureSignedOrValidXcmOrigin T origin = .ok who ∨
    ∃ requester target, ensureRequester T origin = .ok (requester, target, who)

/-- Who may ask for a quote may subscribe, and as the same account. -/
theorem ensureRequester_ok {requester target : Location}
    (h : ensureRequester T origin = .ok (requester, target, who)) :
    ensureSignedOrValidXcmOrigin T origin = .ok who := by
  obtain ⟨location, hfilter, h⟩ := except_bind_ok.mp h
  obtain ⟨parachain, _, h⟩ := except_bind_ok.mp h
  obtain ⟨acc, hacc, h⟩ := except_bind_ok.mp h
  cases h
  unfold ensureSignedOrValidXcmOrigin
  cases hlocation : xcmOriginFilter origin with
  | none =>
    rw [hlocation] at hfilter
    cases hfilter
  | some found =>
    rw [hlocation] at hfilter
    cases hfilter
    cases hconvert : T.xcmLocationToAccountId requester with
    | none =>
      rw [hconvert] at hacc
      cases hacc
    | some found =>
      rw [hconvert] at hacc
      cases hacc
      simp only [hconvert]

theorem Resolves.caller (h : Resolves T origin who) :
    ensureSignedOrValidXcmOrigin T origin = .ok who := by
  rcases h with h | ⟨requester, target, h⟩
  · exact h
  · exact ensureRequester_ok h

/-- From `s` to `t`, every subscription of another account is where and what it
was, none has come to be, and no hold of another account has moved. -/
structure Isolated (who : AccountId32) (s t : State T) : Prop where
  kept : ∀ id sub, s.subscriptions.lookup id = some sub → sub.details.subscriber ≠ who →
    t.subscriptions.lookup id = some sub
  added : ∀ id sub, t.subscriptions.lookup id = some sub → sub.details.subscriber ≠ who →
    s.subscriptions.lookup id = some sub
  holds : ∀ other reason, other ≠ who → onHold t reason other = onHold s reason other

theorem Isolated.refl (who : AccountId32) (s : State T) : Isolated who s s :=
  ⟨fun _ _ h _ => h, fun _ _ h _ => h, fun _ _ _ => rfl⟩

/-- Writing a record of one's own where none of another account stood. -/
theorem Isolated.of_insert {record : SubscriptionOf}
    (ht : t.subscriptions = s.subscriptions.insert subId record)
    (hown : record.details.subscriber = who)
    (hbefore : ∀ sub, s.subscriptions.lookup subId = some sub → sub.details.subscriber = who)
    (hholds : ∀ other reason, other ≠ who → onHold t reason other = onHold s reason other) :
    Isolated who s t := by
  refine ⟨fun id sub hsub hother => ?_, fun id sub hsub hother => ?_, hholds⟩
  · have hne : id ≠ subId := by
      rintro rfl
      exact hother (hbefore sub hsub)
    rw [ht, Finmap.lookup_insert_of_ne _ hne]
    exact hsub
  · rw [ht] at hsub
    by_cases hid : id = subId
    · rw [hid, Finmap.lookup_insert] at hsub
      cases hsub
      exact absurd hown hother
    · rwa [Finmap.lookup_insert_of_ne _ hid] at hsub

/-- Removing a record of one's own. -/
theorem Isolated.of_erase (ht : t.subscriptions = s.subscriptions.erase subId)
    (hstored : s.subscriptions.lookup subId = some sub) (hown : sub.details.subscriber = who)
    (hholds : ∀ other reason, other ≠ who → onHold t reason other = onHold s reason other) :
    Isolated who s t := by
  refine ⟨fun id sub' hsub' hother => ?_, fun id sub' hsub' _ => ?_, hholds⟩
  · have hne : id ≠ subId := by
      rintro rfl
      cases hstored.symm.trans hsub'
      exact hother hown
    rw [ht, Finmap.lookup_erase_ne hne]
    exact hsub'
  · rw [ht] at hsub'
    by_cases hid : id = subId
    · rw [hid, Finmap.lookup_erase] at hsub'
      cases hsub'
    · rwa [Finmap.lookup_erase_ne hid] at hsub'

/-- The two holds of an account that a call did not act for. -/
theorem holds_of_ne (h : ∀ w, w ≠ who →
    onHold t .fees w = onHold s .fees w ∧ onHold t .storageDeposit w = onHold s .storageDeposit w)
    (other : AccountId32) (reason : HoldReason) (hne : other ≠ who) :
    onHold t reason other = onHold s reason other := by
  cases reason with
  | fees => exact (h other hne).1
  | storageDeposit => exact (h other hne).2

theorem CallEffect.isolated (law : T.currency.Lawful) {call : Call}
    (hcaller : ensureSignedOrValidXcmOrigin T origin = .ok who)
    (h : CallEffect T env origin s call t) : Isolated who s t := by
  cases h with
  | @created params _ L₁ L₂ caller bought room fresh fees deposit =>
    cases hcaller.symm.trans caller
    refine .of_insert rfl rfl (fun sub hsub => ?_) (holds_of_ne fun w hw => ?_)
    · exact absurd (Finmap.mem_of_lookup_eq_some hsub) fresh
    · have hbalanced := created_balanced law
        (newSubscription env who (newSubId T env who params) params) fees deposit w
      simpa only [hw, if_false, Nat.add_zero] using hbalanced
  | paused caller stored owner active =>
    cases hcaller.symm.trans caller
    refine .of_insert rfl owner (fun sub hsub => ?_) fun _ _ _ => rfl
    cases stored.symm.trans hsub
    exact owner
  | reactivated caller stored owner paused =>
    cases hcaller.symm.trans caller
    refine .of_insert rfl owner (fun sub hsub => ?_) fun _ _ _ => rfl
    cases stored.symm.trans hsub
    exact owner
  | @killed subId _ sub L₁ m L₂ caller stored owner fees deposit =>
    cases hcaller.symm.trans caller
    refine .of_erase rfl stored owner (holds_of_ne fun w hw => ?_)
    have hbalanced := removed_balanced law subId fees deposit w
    rw [owner] at hbalanced
    simp only [hw, if_false, Nat.add_zero] at hbalanced
    exact ⟨hbalanced.1, hbalanced.2.symm⟩
  | updated caller stored owner live fees =>
    cases hcaller.symm.trans caller
    refine .of_insert rfl owner (fun sub hsub => ?_) (holds_of_ne fun w hw => ?_)
    · cases stored.symm.trans hsub
      exact owner
    · rw [updateFeesDiff_eq] at fees
      have hbalanced := fees.balanced law w
      simp only [hw, if_false, Nat.add_zero] at hbalanced
      exact hbalanced
  | quoted => exact ⟨fun _ _ h _ => h, fun _ _ h _ => h, fun _ _ _ => rfl⟩
  | informed => exact ⟨fun _ _ h _ => h, fun _ _ h _ => h, fun _ _ _ => rfl⟩

/-- OWNERS ARE ISOLATED. A call by an origin that stands for an account leaves
every subscription of another account as it is, creates none for another
account, and moves no fees and no deposit of another account, whether it
succeeds or fails and whatever its parameters are. -/
theorem owners_isolated (law : T.currency.Lawful) (hcaller : Resolves T origin who) (env : Env)
    (call : Call) (s : State T) :
    (∀ id sub, s.subscriptions.lookup id = some sub → sub.details.subscriber ≠ who →
      (dispatch T env origin call s).2.subscriptions.lookup id = some sub) ∧
      (∀ id sub, (dispatch T env origin call s).2.subscriptions.lookup id = some sub →
        sub.details.subscriber ≠ who → s.subscriptions.lookup id = some sub) ∧
      ∀ other reason, other ≠ who →
        onHold (dispatch T env origin call s).2 reason other = onHold s reason other := by
  have h : Isolated who s (dispatch T env origin call s).2 :=
    dispatch_invariant call (Isolated.refl who s) fun heffect =>
      heffect.isolated law hcaller.caller
  exact ⟨h.kept, h.added, h.holds⟩

/-! ## Ids that are taken -/

/-- An origin that is not accepted is not a clash of ids. -/
theorem ensureSignedOrValidXcmOrigin_error {e : Err}
    (h : ensureSignedOrValidXcmOrigin T origin = .error e) :
    e = .badOrigin ∨ e = .module .invalidSubscriber := by
  unfold ensureSignedOrValidXcmOrigin at h
  split at h
  next =>
    split at h
    next => cases h
    next =>
      cases h
      exact Or.inr rfl
  next =>
    unfold ensureSigned at h
    split at h
    next => cases h
    next =>
      cases h
      exact Or.inl rfl

/-- A creation is turned away for its id only if the id is stored, where the
currency does not use the pallet's errors. -/
theorem createSubscription_exists {params : CreateSubParamsOf}
    (hown : ∀ reason who amount L,
      T.currency.hold reason who amount L ≠ .error (.module .subscriptionAlreadyExists))
    (h : dispatch T env origin (.createSubscription params) s =
      (.error (.module .subscriptionAlreadyExists), t)) :
    ∃ who, ensureSignedOrValidXcmOrigin T origin = .ok who ∧
      newSubId T env who params ∈ s.subscriptions := by
  obtain ⟨⟨u, hcall⟩, _⟩ := Action.transactional_error.mp h
  change createSubscription T env origin params s = _ at hcall
  unfold createSubscription at hcall
  simp only [Action.bind_error, Action.ofExcept_error, Action.ofExcept_ok, Action.ensure_error,
    Action.ensure_ok, Action.get_error, Action.get_ok, holdFees, holdDeposit, holdFor_error, hown,
    insertSubscription, depositEvent, Action.modify_error, DispatchError.module.injEq,
    reduceCtorEq, and_false, false_and, exists_false, false_or, or_false, not_not,
    and_true] at hcall
  rcases hcall with ⟨hbad, _⟩ | ⟨who, _, ⟨hwho, rfl⟩, _, _, ⟨_, rfl⟩, _, _, ⟨rfl, rfl⟩, _, _,
    ⟨_, rfl⟩, hstored, _⟩
  · rcases ensureSignedOrValidXcmOrigin_error hbad with heq | heq
    · cases heq
    · cases heq
  · exact ⟨who, hwho, hstored⟩

section Sample

open IdealNetwork.Runtime

def bob : AccountId32 := Vector.replicate 32 2

/-- Bob tries to kill Alice's subscription. -/
theorem owners_isolated_bob :
    ∃ sub, tenBought.subscriptions.lookup sampleId = some sub ∧
      sub.details.subscriber = alice ∧
      (dispatch standalone (online 2) (.signed bob) (.killSubscription sampleId)
        tenBought).2.subscriptions.lookup sampleId = some sub := by
  obtain ⟨sub, hsub, howner⟩ : ∃ sub,
      tenBought.subscriptions.lookup sampleId = some sub ∧ sub.details.subscriber = alice :=
    Option.map_eq_some_iff.mp (by decide +kernel)
  have hother : sub.details.subscriber ≠ bob := by
    rw [howner]
    decide
  refine ⟨sub, hsub, howner, ?_⟩
  exact (owners_isolated (T := standalone) (plain_lawful _) (Or.inl rfl : Resolves _ _ bob)
    (online 2) (.killSubscription sampleId) tenBought).1 sampleId sub hsub hother

end Sample

end IdealNetwork.Manager
