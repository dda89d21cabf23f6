import IdealNetwork.Lib.Runs
import IdealNetwork.Manager.Effects

/-!
# Runs of the manager pallet

A run is any sequence of calls, by any origin, of distributions and of
finalizations, each step in its own environment.
-/

set_option autoImplicit false

namespace IdealNetwork.Manager

open Storage

/-- What can happen to the pallet. -/
inductive Op where
  | call (origin : Origin) (call : Call)
  | distribute (pulse : RuntimePulse)
  | onFinalize

/-- The operation is an `update_subscription`. -/
def Op.isUpdate : Op → Bool
  | .call _ (.updateSubscription _) => true
  | _ => false

/-- A step of a run: an operation and the environment it runs in. -/
abbrev Input := Env × Op

/-- The block a step runs in. -/
def blockOf (input : Input) : BlockNumber := input.1.blockNumber

variable (T : Config)

def step (input : Input) (s : State T) : State T :=
  match input.2 with
  | .call origin call => (dispatch T input.1 origin call s).2
  | .distribute pulse => distribute T input.1 pulse s
  | .onFinalize => onFinalize T s

/-- The state after a run. -/
def run (inputs : List Input) (s : State T) : State T := Runs.run (step T) inputs s

/-- Storage before the first subscription: nothing stored and nothing held
for the pallet. Free balances are arbitrary. -/
structure Initial (s : State T) : Prop where
  subscriptions : s.subscriptions = ∅
  subCounter : s.subCounter = 0
  held : ∀ reason who, T.currency.balanceOnHold s.ledger reason who = 0

variable {T} {s t : State T} {env : Env} {origin : Origin}

/-- THE STEP RULE: what the effects of calls, the iterations of a distribution
and the terminations of a finalization keep, a step keeps. -/
theorem step_invariant {P : State T → Prop} (input : Input) (h : P s)
    (calls : ∀ {origin call t}, input.2 = .call origin call →
      CallEffect T input.1 origin s call t → P t)
    (iterations : ∀ {pulse subId sub u v}, input.2 = .distribute pulse →
      s.subscriptions.lookup subId = some sub → u.subscriptions.lookup subId = some sub →
      Iteration T input.1 pulse subId sub u v → P u → P v)
    (terminations : ∀ {subId sub u v}, u.subscriptions.lookup subId = some sub →
      sub.state = .finalized → Termination T subId sub u v → P u → P v) :
    P (step T input s) := by
  obtain ⟨env, op⟩ := input
  cases op with
  | call origin call => exact dispatch_invariant call h fun heffect => calls rfl heffect
  | distribute pulse =>
    exact distribute_invariant h fun hstart hnow hiter => iterations rfl hstart hnow hiter
  | onFinalize =>
    exact onFinalize_invariant h fun hnow hfinal hterm => terminations hnow hfinal hterm

end IdealNetwork.Manager
