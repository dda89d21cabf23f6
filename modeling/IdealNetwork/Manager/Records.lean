import IdealNetwork.Manager.Charging

/-!
# One record in a step

What a whole step of the pallet does to the record stored under one id. A
call, a distribution or a finalization may touch many records, but each of
them in one of the ways of `RecordStep`, and `step_record` says so once, with
the pulses that the subscription is served. Whatever is claimed of one
subscription's history is then a case analysis over eleven small changes.
-/

set_option autoImplicit false

namespace IdealNetwork.Manager

open Storage Holds

/-! ## Counting deliveries -/

section Deliveries

variable {T : Config} {s t : State T} {env : Env} {origin : Origin} {pulse : RuntimePulse}
variable {subId id : SubscriptionId} {sub : SubscriptionOf}

/-- The pulses a subscription has been served. -/
def served (id : SubscriptionId) (s : State T) : ℕ :=
  s.events.count (.randomnessDistributed id)

/-- Events of other kinds do not count. -/
theorem count_other {events : List Event} {event : Event}
    (h : event ≠ .randomnessDistributed id) :
    (events ++ [event]).count (.randomnessDistributed id) =
      events.count (.randomnessDistributed id) := by
  have hzero : [event].count (.randomnessDistributed id) = 0 :=
    List.count_eq_zero_of_not_mem fun hmem => h (List.mem_singleton.mp hmem).symm
  rw [List.count_append, hzero, Nat.add_zero]

theorem count_own {events : List Event} :
    (events ++ [Event.randomnessDistributed id]).count (.randomnessDistributed id) =
      events.count (.randomnessDistributed id) + 1 := by
  rw [List.count_append, List.count_singleton_self]

theorem CallEffect.served {call : Call} (h : CallEffect T env origin s call t) :
    served id t = Manager.served id s := by
  cases h with
  | created caller bought room fresh fees deposit => exact count_other nofun
  | paused caller stored owner active => exact count_other nofun
  | reactivated caller stored owner paused => exact count_other nofun
  | killed caller stored owner fees deposit => exact count_other nofun
  | updated caller stored owner live fees => exact count_other nofun
  | quoted => exact count_other nofun
  | informed => exact count_other nofun

theorem Termination.served (h : Termination T subId sub s t) :
    served id t = Manager.served id s := by
  cases h with
  | completed fees deposit => exact count_other nofun
  | failed failed => rfl

theorem Collection.served {r : Except Err Unit × State T} (h : Collection T sub s r)
    (id : SubscriptionId) :
    served id r.2 = Manager.served id s := by
  cases h with
  | refused paid => rfl
  | short paid lt => rfl
  | collected paid le => exact count_other nofun

theorem served_pauseSubscriptionOnError (subId id : SubscriptionId) (sub : SubscriptionOf)
    (u : State T) :
    served id (pauseSubscriptionOnError T subId sub u) = served id u :=
  count_other nofun

/-- An iteration serves its own subscription once, if a pulse was due and its
message taken, and no other subscription. -/
theorem Iteration.served (h : Iteration T env pulse subId sub s t) (id : SubscriptionId) :
    Manager.served id t = Manager.served id s ∨
      (id = subId ∧ Manager.served id t = Manager.served id s + 1 ∧ Eligible env sub ∧
        CanSend T env pulse subId sub) := by
  cases h with
  | unpaid due charge =>
    exact Or.inl ((served_pauseSubscriptionOnError _ _ _ _).trans (charge.served id))
  | unsent due charge lost =>
    exact Or.inl ((served_pauseSubscriptionOnError _ _ _ _).trans (charge.served id))
  | idle notDue charge => exact Or.inl (charge.served id)
  | @delivered u message due charge made taken =>
    by_cases hid : id = subId
    · subst hid
      refine Or.inr ⟨rfl, ?_, due, message, made, taken⟩
      rw [← charge.served id]
      exact count_own
    · left
      rw [← charge.served id]
      exact count_other fun heq => hid (Event.randomnessDistributed.inj heq).symm

/-- To be served is to be sent the pulse: an iteration counts its subscription
as served exactly if the sender took the message made of the pulse, and sends
nothing else. -/
theorem Iteration.sent (h : Iteration T env pulse subId sub s t) :
    (Manager.served subId t = Manager.served subId s ∧ t.sent = s.sent) ∨
      (Manager.served subId t = Manager.served subId s + 1 ∧
        ∃ message, pulseMessage T pulse subId sub = some message ∧
          t.sent = s.sent ++ [message]) := by
  cases h with
  | unpaid due charge =>
    exact Or.inl ⟨(served_pauseSubscriptionOnError _ _ _ _).trans (charge.served subId),
      charge.sent⟩
  | unsent due charge lost =>
    exact Or.inl ⟨(served_pauseSubscriptionOnError _ _ _ _).trans (charge.served subId),
      charge.sent⟩
  | @delivered u message due charge made taken =>
    refine Or.inr ⟨?_, message, made, congrArg (· ++ [message]) charge.sent⟩
    rw [← charge.served subId]
    exact count_own
  | idle notDue charge => exact Or.inl ⟨charge.served subId, charge.sent⟩

/-- An iteration at another subscription does not serve this one. -/
theorem served_distributeOne_of_ne {j : SubscriptionId} (v : SubscriptionOf) (u : State T)
    (hne : j ≠ id) : served id (distributeOne T env pulse j v u) = served id u := by
  rcases (distributeOne_cases env pulse j v u).served id with hsame | ⟨heq, _⟩
  · exact hsame
  · exact absurd heq.symm hne

end Deliveries

/-! ## The ways of a record -/

/-- What a step does to the record under an id, and the pulses it serves it. -/
inductive RecordStep (T : Config) (input : Input) (s : State T) (id : SubscriptionId) :
    Option SubscriptionOf → Option SubscriptionOf → ℕ → Prop
  | untouched {record} : RecordStep T input s id record record 0
  | created {origin params who}
      (op : input.2 = .call origin (.createSubscription params))
      (caller : ensureSignedOrValidXcmOrigin T origin = .ok who)
      (named : newSubId T input.1 who params = id) :
      RecordStep T input s id none (some (newSubscription input.1 who id params)) 0
  | paused {origin sub}
      (op : input.2 = .call origin (.pauseSubscription id))
      (owner : ensureSignedOrValidXcmOrigin T origin = .ok sub.details.subscriber)
      (active : sub.state = .active) :
      RecordStep T input s id (some sub) (some { sub with state := .paused }) 0
  | reactivated {origin sub}
      (op : input.2 = .call origin (.reactivateSubscription id))
      (owner : ensureSignedOrValidXcmOrigin T origin = .ok sub.details.subscriber)
      (paused : sub.state = .paused) :
      RecordStep T input s id (some sub) (some { sub with state := .active }) 0
  | updated {origin params sub}
      (op : input.2 = .call origin (.updateSubscription params)) (named : params.subId = id)
      (owner : ensureSignedOrValidXcmOrigin T origin = .ok sub.details.subscriber)
      (live : sub.state = .active ∨ sub.state = .paused) :
      RecordStep T input s id (some sub) (some (applyUpdate input.1 params sub)) 0
  | killed {origin sub}
      (op : input.2 = .call origin (.killSubscription id))
      (owner : ensureSignedOrValidXcmOrigin T origin = .ok sub.details.subscriber) :
      RecordStep T input s id (some sub) none 0
  | unpaid {pulse sub e} (op : input.2 = .distribute pulse) (due : Eligible input.1 sub)
      (failed : (collectFees T sub 1 (reached T input.1 pulse id s)).1 = .error e) :
      RecordStep T input s id (some sub) (some { sub with state := .paused }) 0
  | unsent {pulse sub} (op : input.2 = .distribute pulse) (due : Eligible input.1 sub)
      (lost : ¬ CanSend T input.1 pulse id sub) :
      RecordStep T input s id (some sub)
        (some { recordDelivery input.1 sub with state := .paused }) 0
  | delivered {pulse sub} (op : input.2 = .distribute pulse) (due : Eligible input.1 sub)
      (taken : CanSend T input.1 pulse id sub) :
      RecordStep T input s id (some sub)
        (some (finalizeIfExhausted (recordDelivery input.1 sub))) 1
  | idle {pulse sub} (op : input.2 = .distribute pulse) (notDue : ¬ Eligible input.1 sub) :
      RecordStep T input s id (some sub) (some (finalizeIfExhausted (recordIdle sub))) 0
  | terminated {sub} (op : input.2 = .onFinalize) (final : sub.state = .finalized) :
      RecordStep T input s id (some sub) none 0

/-- From `s` to `t`, the record under an id changes as a step may change it. -/
def Steps (T : Config) (input : Input) (s : State T) (id : SubscriptionId) (t : State T) : Prop :=
  ∃ pulses, RecordStep T input s id (s.subscriptions.lookup id) (t.subscriptions.lookup id) pulses ∧
    served id t = served id s + pulses

variable {T : Config} {s t : State T} {env : Env} {pulse : RuntimePulse} {input : Input}
variable {subId id : SubscriptionId} {sub sub' : SubscriptionOf}

theorem Steps.of_untouched (hlookup : t.subscriptions.lookup id = s.subscriptions.lookup id)
    (hserved : served id t = served id s) : Steps T input s id t :=
  ⟨0, hlookup ▸ .untouched, hserved⟩

/-- A record that is rewritten changes at its own id only. -/
theorem Steps.of_insert {record : SubscriptionOf}
    (ht : t.subscriptions = s.subscriptions.insert subId record)
    (hserved : served id t = served id s)
    (hown : id = subId → RecordStep T input s id (s.subscriptions.lookup id) (some record) 0) :
    Steps T input s id t := by
  by_cases hid : id = subId
  · refine ⟨0, ?_, hserved⟩
    rw [ht, ← hid, Finmap.lookup_insert]
    exact hown hid
  · exact .of_untouched (by rw [ht, Finmap.lookup_insert_of_ne _ hid]) hserved

theorem Steps.of_call {origin : Origin} {call : Call} (hop : input.2 = .call origin call)
    (h : CallEffect T input.1 origin s call t) : Steps T input s id t := by
  have hserved : served id t = served id s := h.served
  cases h with
  | created caller bought room fresh fees deposit =>
    refine .of_insert rfl hserved fun hid => ?_
    have hname : id = newSubId T input.1 _ _ := hid
    rw [← hname] at fresh ⊢
    rw [Finmap.lookup_eq_none.mpr fresh]
    exact .created hop caller hname.symm
  | paused caller stored owner active =>
    refine .of_insert rfl hserved fun hid => ?_
    subst hid
    rw [stored]
    exact .paused hop (owner ▸ caller) active
  | reactivated caller stored owner paused =>
    refine .of_insert rfl hserved fun hid => ?_
    subst hid
    rw [stored]
    exact .reactivated hop (owner ▸ caller) paused
  | @killed subId who sub L₁ m L₂ caller stored owner fees deposit =>
    by_cases hid : id = subId
    · subst hid
      refine ⟨0, ?_, hserved⟩
      rw [stored, removed, Finmap.lookup_erase]
      exact .killed hop (owner ▸ caller)
    · exact .of_untouched (Finmap.lookup_erase_ne hid) hserved
  | updated caller stored owner live fees =>
    refine .of_insert rfl hserved fun hid => ?_
    subst hid
    rw [stored]
    exact .updated hop rfl (owner ▸ caller) live
  | quoted => exact .of_untouched rfl hserved
  | informed => exact .of_untouched rfl hserved

/-- The record under an id and the pulses it has been served. -/
def recordAndPulses (id : SubscriptionId) (s : State T) : Option SubscriptionOf × ℕ :=
  (s.subscriptions.lookup id, served id s)

/-- The record and the count of its pulses are what no other iteration touches. -/
theorem recordAndPulses_distributeOne_of_ne {j : SubscriptionId} (v : SubscriptionOf) (u : State T)
    (hne : j ≠ id) :
    recordAndPulses id (distributeOne T env pulse j v u) = recordAndPulses id u :=
  Prod.ext (distributeOne_own T env pulse j v u id hne.symm) (served_distributeOne_of_ne v u hne)

/-- A distribution does to a record what the record's own iteration does. -/
theorem distribute_iteration (env : Env) (pulse : RuntimePulse)
    (hstored : s.subscriptions.lookup id = some sub) :
    ∃ t, Iteration T env pulse id sub (reached T env pulse id s) t ∧
      (distribute T env pulse s).subscriptions.lookup id = t.subscriptions.lookup id ∧
      served id (distribute T env pulse s) = served id t ∧
      served id (reached T env pulse id s) = served id s := by
  obtain ⟨hreach, hfinal⟩ := distribute_observe_some env pulse
    (fun _ v u hne => recordAndPulses_distributeOne_of_ne v u hne) hstored
  obtain ⟨hlookup, hserved⟩ := Prod.mk.inj hfinal
  exact ⟨left T env pulse id sub s, distributeOne_cases env pulse id sub _, hlookup, hserved,
    (Prod.mk.inj hreach).2⟩

/-- In a distribution a record changes as its own iteration changes it. -/
theorem Steps.of_distribute (hop : input.2 = .distribute pulse) :
    Steps T input s id (distribute T input.1 pulse s) := by
  cases hstored : s.subscriptions.lookup id with
  | none =>
    have hsame := distribute_observe_none input.1 pulse
      (fun _ v u hne => recordAndPulses_distributeOne_of_ne v u hne) hstored
    exact .of_untouched (congrArg Prod.fst hsame) (congrArg Prod.snd hsame)
  | some sub =>
    obtain ⟨t, hiter, hlookup, hserved, hbefore⟩ := distribute_iteration input.1 pulse hstored
    rw [Steps, hlookup, hserved, hstored, ← hbefore]
    have hcollect := collectFees_cases sub (reached T input.1 pulse id s)
    cases hiter with
    | unpaid due charge =>
      refine ⟨0, ?_, (served_pauseSubscriptionOnError _ _ _ _).trans (charge.served id)⟩
      rw [pauseSubscriptionOnError, Finmap.lookup_insert]
      exact .unpaid hop due (congrArg Prod.fst (hcollect.unique charge))
    | unsent due charge lost =>
      refine ⟨0, ?_, (served_pauseSubscriptionOnError _ _ _ _).trans (charge.served id)⟩
      rw [pauseSubscriptionOnError, Finmap.lookup_insert]
      exact .unsent hop due lost
    | @delivered u message due charge made taken =>
      refine ⟨1, ?_, count_own.trans (congrArg (· + 1) (charge.served id))⟩
      rw [finishIteration, Finmap.lookup_insert]
      exact .delivered hop due ⟨message, made, taken⟩
    | idle notDue charge =>
      refine ⟨0, ?_, charge.served id⟩
      rw [finishIteration, Finmap.lookup_insert]
      exact .idle hop notDue

theorem Steps.of_onFinalize (hop : input.2 = .onFinalize) :
    Steps T input s id (onFinalize T s) := by
  have hrule : served id (onFinalize T s) = served id s ∧
      ((onFinalize T s).subscriptions.lookup id = s.subscriptions.lookup id ∨
        (onFinalize T s).subscriptions.lookup id = none ∧
          ∃ sub, s.subscriptions.lookup id = some sub ∧ sub.state = .finalized) := by
    refine onFinalize_invariant (P := fun u => served id u = served id s ∧
      (u.subscriptions.lookup id = s.subscriptions.lookup id ∨ u.subscriptions.lookup id = none ∧
        ∃ sub, s.subscriptions.lookup id = some sub ∧ sub.state = .finalized))
      ⟨rfl, Or.inl rfl⟩ ?_
    intro subId sub u v hstored hfinal hterm hu
    refine ⟨hterm.served.trans hu.1, ?_⟩
    by_cases hid : id = subId
    · subst hid
      rcases hu.2 with hsame | ⟨hnone, _⟩
      · cases hterm with
        | completed fees deposit =>
          exact Or.inr ⟨Finmap.lookup_erase _ _, sub, hsame ▸ hstored, hfinal⟩
        | failed failed => exact Or.inl hsame
      · cases hnone.symm.trans hstored
    · rw [hterm.lookup_of_ne hid]
      exact hu.2
  obtain ⟨hserved, hsame | ⟨hnone, sub, hstored, hfinal⟩⟩ := hrule
  · exact .of_untouched hsame hserved
  · refine ⟨0, ?_, hserved⟩
    rw [hnone, hstored]
    exact .terminated hop hfinal

/-- THE RECORD RULE: a step changes the record under an id in one of the ways
of `RecordStep`, and serves it the pulses that go with it. -/
theorem step_record (T : Config) (input : Input) (s : State T) (id : SubscriptionId) :
    Steps T input s id (step T input s) := by
  obtain ⟨env, op⟩ := input
  cases op with
  | call origin call =>
    exact dispatch_invariant call (.of_untouched rfl rfl) fun heffect => .of_call rfl heffect
  | distribute pulse => exact .of_distribute rfl
  | onFinalize => exact .of_onFinalize rfl

/-- A subscription is created with credits. -/
theorem bought_of_created {origin : Origin} {params : CreateSubParamsOf}
    (hop : input.2 = .call origin (.createSubscription params))
    (hnone : s.subscriptions.lookup id = none)
    (hsome : (step T input s).subscriptions.lookup id = some sub) : params.credits ≠ 0 := by
  unfold step at hsome
  rw [hop] at hsome
  revert hsome
  refine dispatch_invariant (P := fun t => t.subscriptions.lookup id = some sub →
    params.credits ≠ 0) _ ?_ ?_
  · intro hsome
    cases hnone.symm.trans hsome
  · intro t heffect _
    cases heffect with
    | created caller bought room fresh fees deposit => exact bought

/-- A record that is stored after a step was created by it, or is what the step
made of the one before. -/
theorem stored_of_step (hsub' : (step T input s).subscriptions.lookup id = some sub') :
    (∃ origin params who, input.2 = .call origin (.createSubscription params) ∧
      params.credits ≠ 0 ∧ sub' = newSubscription input.1 who id params) ∨
      ∃ sub pulses, s.subscriptions.lookup id = some sub ∧
        RecordStep T input s id (some sub) (some sub') pulses := by
  obtain ⟨pulses, hrecord, _⟩ := step_record T input s id
  rw [hsub'] at hrecord
  cases hstored : s.subscriptions.lookup id with
  | none =>
    rw [hstored] at hrecord
    cases hrecord with
    | created op caller named =>
      exact Or.inl ⟨_, _, _, op, bought_of_created op hstored hsub', rfl⟩
  | some sub =>
    rw [hstored] at hrecord
    exact Or.inr ⟨sub, pulses, rfl, hrecord⟩

/-! ## Pulses of a step -/

theorem RecordStep.pulses_le {before after : Option SubscriptionOf} {pulses : ℕ}
    (h : RecordStep T input s id before after pulses) : pulses ≤ 1 := by
  cases h <;> decide

/-- Only a subscription that is due a pulse is served one. -/
theorem RecordStep.due_of_pulses {before after : Option SubscriptionOf} {pulses : ℕ}
    (h : RecordStep T input s id before after pulses) (hpulses : pulses ≠ 0) :
    ∃ sub, before = some sub ∧ Eligible input.1 sub ∧
      after = some (finalizeIfExhausted (recordDelivery input.1 sub)) := by
  cases h with
  | delivered op due taken => exact ⟨_, rfl, due, rfl⟩
  | _ => exact absurd rfl hpulses

/-- A distribution serves a subscription once at most. -/
theorem served_distribute (env : Env) (pulse : RuntimePulse) (id : SubscriptionId) (s : State T) :
    served id (distribute T env pulse s) = served id s ∨
      served id (distribute T env pulse s) = served id s + 1 := by
  obtain ⟨pulses, hrecord, hserved⟩ := step_record T (env, .distribute pulse) s id
  have hafter : served id (distribute T env pulse s) = served id s + pulses := hserved
  have hle := hrecord.pulses_le
  omega

/-- It serves only stored subscriptions that are due a pulse, and writes that
down. -/
theorem served_of_distribute (h : served id s < served id (distribute T env pulse s)) :
    ∃ sub, s.subscriptions.lookup id = some sub ∧ Eligible env sub ∧
      (distribute T env pulse s).subscriptions.lookup id =
        some (finalizeIfExhausted (recordDelivery env sub)) := by
  obtain ⟨pulses, hrecord, hserved⟩ := step_record T (env, .distribute pulse) s id
  have hafter : served id (distribute T env pulse s) = served id s + pulses := hserved
  exact hrecord.due_of_pulses (by omega)

/-! ## What a record keeps -/

/-- The operation is no update of a subscription's metadata. -/
def Op.KeepsMetadata (id : SubscriptionId) : Op → Prop
  | .call _ (.updateSubscription params) => params.subId = id → params.metadata = none
  | _ => True

/-- A record that stays keeps its details, and its metadata unless that is
updated. -/
theorem step_keeps (hsub : s.subscriptions.lookup id = some sub)
    (hsub' : (step T input s).subscriptions.lookup id = some sub') :
    sub'.details = sub.details ∧ (input.2.KeepsMetadata id → sub'.metadata = sub.metadata) := by
  obtain ⟨pulses, hrecord, _⟩ := step_record T input s id
  rw [hsub, hsub'] at hrecord
  cases hrecord with
  | untouched => exact ⟨rfl, fun _ => rfl⟩
  | paused op owner active => exact ⟨rfl, fun _ => rfl⟩
  | reactivated op owner paused => exact ⟨rfl, fun _ => rfl⟩
  | @updated origin params _ op named owner live =>
    refine ⟨rfl, fun hkeeps => ?_⟩
    rw [op] at hkeeps
    show params.metadata.getD sub.metadata = sub.metadata
    rw [hkeeps named, Option.getD_none]
  | unpaid op due failed => exact ⟨rfl, fun _ => rfl⟩
  | unsent op due lost => exact ⟨rfl, fun _ => rfl⟩
  | delivered op due taken =>
    exact ⟨finalizeIfExhausted_details _, fun _ => finalizeIfExhausted_metadata _⟩
  | idle op notDue =>
    exact ⟨finalizeIfExhausted_details _, fun _ => finalizeIfExhausted_metadata _⟩

/-- As long as a subscription is stored, its record keeps what every step
keeps of it. -/
theorem run_keeps {α : Type} (f : SubscriptionOf → α) {inputs : List Input}
    (keeps : ∀ input ∈ inputs, ∀ (u : State T) now next,
      u.subscriptions.lookup id = some now →
        (step T input u).subscriptions.lookup id = some next → f next = f now)
    (hsub : s.subscriptions.lookup id = some sub)
    (hkept : Runs.Along (step T) (fun _ u => id ∈ u.subscriptions) inputs s)
    (hsub' : (run T inputs s).subscriptions.lookup id = some sub') : f sub' = f sub := by
  refine Runs.run_invariant_along (step T) (P := fun u => ∀ now,
    u.subscriptions.lookup id = some now → f now = f sub) ?_ hkept ?_ sub' hsub'
  · intro now hnow
    cases hsub.symm.trans hnow
    rfl
  · intro input hinput u hid hu next hnext
    obtain ⟨now, hnow⟩ := Finmap.mem_iff.mp hid
    exact (keeps input hinput u now next hnow hnext).trans (hu now hnow)

theorem run_keeps_details {inputs : List Input} (hsub : s.subscriptions.lookup id = some sub)
    (hkept : Runs.Along (step T) (fun _ u => id ∈ u.subscriptions) inputs s)
    (hsub' : (run T inputs s).subscriptions.lookup id = some sub') : sub'.details = sub.details :=
  run_keeps (·.details) (fun _ _ _ _ _ hnow hnext => (step_keeps hnow hnext).1) hsub hkept hsub'

theorem run_keeps_metadata {inputs : List Input} (hsub : s.subscriptions.lookup id = some sub)
    (hkept : Runs.Along (step T) (fun _ u => id ∈ u.subscriptions) inputs s)
    (hkeeps : ∀ input ∈ inputs, input.2.KeepsMetadata id)
    (hsub' : (run T inputs s).subscriptions.lookup id = some sub') :
    sub'.metadata = sub.metadata :=
  run_keeps (·.metadata)
    (fun input hinput _ _ _ hnow hnext => (step_keeps hnow hnext).2 (hkeeps input hinput))
    hsub hkept hsub'

end IdealNetwork.Manager
