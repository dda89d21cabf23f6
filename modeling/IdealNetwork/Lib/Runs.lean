import Mathlib.Data.List.Induction
import Mathlib.Data.List.Infix

/-!
# Runs

A system that takes one input after another. A property of every state a run
reaches is proved from what one step keeps, in three forms: every step keeps
it (`run_invariant`), every step that meets a condition on its input and the
state it starts from keeps it (`run_invariant_along`), or every step that
ends in a given set of states keeps it (`run_invariant_within`). Where a step
keeps it exactly under the condition, so does a run (`within_iff_along`). A
property of a state and of all the steps to it have put out goes the same way
(`run_invariant_outputs`), and so does one of a state and the inputs that led to
it (`run_invariant_history`), or one that speaks of the time, when the inputs
carry one that never goes back (`run_invariant_timed`). A measure that falls with
some inputs bounds how many of them there are (`run_potential`). Inputs that do
nothing can be left out (`run_admitted`).

A system that follows another one step by step follows its runs (`map_run`).
-/

set_option autoImplicit false

namespace Runs

variable {ι σ : Type} (step : ι → σ → σ)

/-- Take the inputs in order. -/
def run (inputs : List ι) (s : σ) : σ := inputs.foldl (fun s i => step i s) s

/-- Every step of a run meets a condition on its input and the state before. -/
def Along (cond : ι → σ → Prop) : List ι → σ → Prop
  | [], _ => True
  | i :: rest, s => cond i s ∧ Along cond rest (step i s)

instance instDecidableAlong {cond : ι → σ → Prop} [∀ i s, Decidable (cond i s)] :
    ∀ inputs s, Decidable (Along step cond inputs s)
  | [], _ => .isTrue trivial
  | i :: rest, s => @instDecidableAnd _ _ _ (instDecidableAlong rest (step i s))

/-- Every state of a run, the first and the last included, has a property. -/
def Within (P : σ → Prop) (inputs : List ι) (s : σ) : Prop :=
  ∀ part, part <+: inputs → P (run step part s)

/-- What the steps of a run put out, in order. -/
def outputs {ω : Type} (out : ι → σ → List ω) : List ι → σ → List ω
  | [], _ => []
  | i :: rest, s => out i s ++ outputs out rest (step i s)

/-- How many steps of a run meet a condition on their input and the state
before. -/
def count (c : ι → σ → Bool) : List ι → σ → ℕ
  | [], _ => 0
  | i :: rest, s => (c i s).toNat + count c rest (step i s)

variable {P : σ → Prop} {s : σ} {inputs : List ι}

theorem run_concat (i : ι) : run step (inputs ++ [i]) s = step i (run step inputs s) :=
  List.foldl_concat _ _ _ _

theorem run_append {more : List ι} :
    run step (inputs ++ more) s = run step more (run step inputs s) :=
  List.foldl_append

/-- A run keeps what every step keeps. -/
theorem run_invariant (h : P s) (keeps : ∀ i ∈ inputs, ∀ u, P u → P (step i u)) :
    P (run step inputs s) := by
  induction inputs generalizing s with
  | nil => exact h
  | cons i rest ih =>
    exact ih (keeps i List.mem_cons_self s h) fun j hj => keeps j (List.mem_cons_of_mem i hj)

/-- A run whose steps all meet a condition keeps what such a step keeps. -/
theorem run_invariant_along {cond : ι → σ → Prop} (h : P s) (hcond : Along step cond inputs s)
    (keeps : ∀ i ∈ inputs, ∀ u, cond i u → P u → P (step i u)) : P (run step inputs s) := by
  induction inputs generalizing s with
  | nil => exact h
  | cons i rest ih =>
    exact ih (keeps i List.mem_cons_self s hcond.1 h) hcond.2
      fun j hj => keeps j (List.mem_cons_of_mem i hj)

/-- The condition on a run is a condition on its parts. -/
theorem along_append {cond : ι → σ → Prop} {more : List ι} :
    Along step cond (inputs ++ more) s ↔
      Along step cond inputs s ∧ Along step cond more (run step inputs s) := by
  induction inputs generalizing s with
  | nil => exact ⟨fun h => ⟨trivial, h⟩, fun h => h.2⟩
  | cons i rest ih =>
    show cond i s ∧ Along step cond (rest ++ more) (step i s) ↔ _
    rw [ih, ← and_assoc]
    rfl

/-- A condition that always holds holds along every run. -/
theorem along_of_forall {cond : ι → σ → Prop} (h : ∀ i u, cond i u) :
    Along step cond inputs s := by
  induction inputs generalizing s with
  | nil => trivial
  | cons i rest ih => exact ⟨h i s, ih⟩

/-- A condition that follows from another does so along a run. -/
theorem along_mono {cond cond' : ι → σ → Prop} (h : ∀ i u, cond i u → cond' i u)
    (hcond : Along step cond inputs s) : Along step cond' inputs s := by
  induction inputs generalizing s with
  | nil => trivial
  | cons i rest ih => exact ⟨h i s hcond.1, ih hcond.2⟩

theorem along_congr {cond cond' : ι → σ → Prop} (h : ∀ i u, cond i u ↔ cond' i u) :
    Along step cond inputs s ↔ Along step cond' inputs s :=
  ⟨along_mono step fun i u => (h i u).mp, along_mono step fun i u => (h i u).mpr⟩

theorem along_and {cond cond' : ι → σ → Prop} (h : Along step cond inputs s)
    (h' : Along step cond' inputs s) : Along step (fun i u => cond i u ∧ cond' i u) inputs s := by
  induction inputs generalizing s with
  | nil => trivial
  | cons i rest ih => exact ⟨⟨h.1, h'.1⟩, ih h.2 h'.2⟩

/-- A run keeps, of the inputs taken and the state they lead to, what every step
that meets the condition keeps. -/
theorem run_invariant_history {cond : ι → σ → Prop} {Q : List ι → σ → Prop} (h : Q [] s)
    (hcond : Along step cond inputs s)
    (keeps : ∀ past i, past ++ [i] <+: inputs → cond i (run step past s) →
      Q past (run step past s) → Q (past ++ [i]) (step i (run step past s))) :
    Q inputs (run step inputs s) := by
  induction inputs using List.reverseRecOn with
  | nil => exact h
  | append_singleton past i ih =>
    obtain ⟨hpast, hlast⟩ := (along_append step).mp hcond
    have hbefore := ih hpast fun past' j hpart =>
      keeps past' j (hpart.trans (List.prefix_append past [i]))
    rw [run_concat]
    exact keeps past i List.prefix_rfl hlast.1 hbefore

/-- A measure that some inputs make smaller and some steps may make larger, and
that is zero for good once it is zero: a run in which it is not zero in the end
has had no more of the former than the measure at its start and the latter
allow. -/
theorem run_potential {cond : ι → σ → Prop} {rank : σ → ℕ} {p : ι → Bool} {q : ι → σ → Bool}
    (hcond : Along step cond inputs s)
    (spent : ∀ i u, cond i u → rank u = 0 → rank (step i u) = 0)
    (falls : ∀ i u, cond i u → rank u ≠ 0 →
      rank (step i u) + (p i).toNat ≤ rank u + (q i u).toNat)
    (hrank : rank (run step inputs s) ≠ 0) :
    rank (run step inputs s) + inputs.countP p ≤ rank s + count step q inputs s := by
  induction inputs generalizing s with
  | nil => exact le_rfl
  | cons i rest ih =>
    have hnow : rank s ≠ 0 := fun hzero => hrank <|
      run_invariant_along step (P := fun u => rank u = 0) hzero hcond
        fun j _ u hj => spent j u hj
    have hfirst := falls i s hcond.1 hnow
    have hrest := ih hcond.2 hrank
    have hcount : (i :: rest).countP p = rest.countP p + (p i).toNat := by
      rw [List.countP_cons]
      cases p i <;> rfl
    show rank (run step rest (step i s)) + _ ≤ rank s + ((q i s).toNat + count step q rest _)
    rw [hcount]
    omega

/-- A run that stays within `W` keeps what every step into `W` keeps. -/
theorem run_invariant_within {W : σ → Prop} (h : P s) (hw : Within step W inputs s)
    (keeps : ∀ i ∈ inputs, ∀ u, W (step i u) → P u → P (step i u)) : P (run step inputs s) := by
  induction inputs generalizing s with
  | nil => exact h
  | cons i rest ih =>
    have hnext : W (step i s) := hw [i] (List.prefix_append [i] rest)
    refine ih (keeps i List.mem_cons_self s hnext h) (fun part hpart => ?_)
      fun j hj => keeps j (List.mem_cons_of_mem i hj)
    exact hw (i :: part) (List.cons_prefix_cons.mpr ⟨rfl, hpart⟩)

theorem within_cons {i : ι} {rest : List ι} :
    Within step P (i :: rest) s ↔ P s ∧ Within step P rest (step i s) := by
  constructor
  · intro h
    exact ⟨h [] List.nil_prefix, fun part hpart =>
      h (i :: part) (List.cons_prefix_cons.mpr ⟨rfl, hpart⟩)⟩
  · rintro ⟨hs, hrest⟩ part hpart
    cases part with
    | nil => exact hs
    | cons j part =>
      obtain ⟨rfl, htail⟩ := List.cons_prefix_cons.mp hpart
      exact hrest part htail

/-- If a condition is what a step needs to keep a property, then it is what a
run needs to stay within it. -/
theorem within_iff_along {cond : ι → σ → Prop} (h : P s)
    (keeps : ∀ i u, P u → (P (step i u) ↔ cond i u)) :
    Within step P inputs s ↔ Along step cond inputs s := by
  induction inputs generalizing s with
  | nil =>
    refine iff_of_true (fun part hpart => ?_) trivial
    rw [List.prefix_nil.mp hpart]
    exact h
  | cons i rest ih =>
    rw [within_cons, and_iff_right h]
    constructor
    · intro hrest
      have hnext : P (step i s) := hrest [] List.nil_prefix
      exact ⟨(keeps i s h).mp hnext, (ih hnext).mp hrest⟩
    · rintro ⟨hcond, hrest⟩
      exact (ih ((keeps i s h).mpr hcond)).mpr hrest

section Outputs

variable {ω : Type} {out : ι → σ → List ω}

/-- A run keeps, of its state and of all it has put out, what every step
keeps. -/
theorem run_invariant_outputs {Q : List ω → σ → Prop} (log : List ω) (h : Q log s)
    (keeps : ∀ i ∈ inputs, ∀ log u, Q log u → Q (log ++ out i u) (step i u)) :
    Q (log ++ outputs step out inputs s) (run step inputs s) := by
  induction inputs generalizing s log with
  | nil => exact (List.append_nil log).symm ▸ h
  | cons i rest ih =>
    have hrest := ih _ (keeps i List.mem_cons_self log s h)
      fun j hj => keeps j (List.mem_cons_of_mem i hj)
    rw [List.append_assoc] at hrest
    exact hrest

theorem outputs_concat (i : ι) :
    outputs step out (inputs ++ [i]) s =
      outputs step out inputs s ++ out i (run step inputs s) := by
  induction inputs generalizing s with
  | nil => exact List.append_nil (out i s)
  | cons j rest ih =>
    show out j s ++ outputs step out (rest ++ [i]) (step j s) = _
    rw [ih, ← List.append_assoc]
    rfl

variable {ω₁ ω₂ : Type} {out₁ : ι → σ → List ω₁} {out₂ : ι → σ → List ω₂}

/-- Two records of a run agree in what every step puts out alike. -/
theorem map_outputs {f : ω₁ → ω} {g : ω₂ → ω}
    (h : ∀ i u, (out₁ i u).map f = (out₂ i u).map g) :
    (outputs step out₁ inputs s).map f = (outputs step out₂ inputs s).map g := by
  induction inputs generalizing s with
  | nil => rfl
  | cons i rest ih => rw [outputs, outputs, List.map_append, List.map_append, h, ih]

/-- A step that puts out a part of another record makes a run do so. -/
theorem outputs_sublist {f : ω₁ → ω} (h : ∀ i u, (out i u).Sublist ((out₁ i u).map f)) :
    (outputs step out inputs s).Sublist ((outputs step out₁ inputs s).map f) := by
  induction inputs generalizing s with
  | nil => exact .slnil
  | cons i rest ih =>
    rw [outputs, outputs, List.map_append]
    exact (h i s).append ih

end Outputs

section Selection

variable (admits : ι → σ → Bool)

/-- The inputs that are admitted when their turn comes, if the others are left
out. -/
def admitted : List ι → σ → List ι
  | [], _ => []
  | i :: rest, s => if admits i s then i :: admitted rest (step i s) else admitted rest s

variable {admits}

/-- Each of them is admitted in its own run too. -/
theorem along_admitted :
    Along step (fun i u => admits i u = true) (admitted step admits inputs s) s := by
  induction inputs generalizing s with
  | nil => trivial
  | cons i rest ih =>
    unfold admitted
    split
    next hadmits => exact ⟨hadmits, ih⟩
    next => exact ih

/-- Leaving out inputs that do nothing changes nothing. -/
theorem run_admitted (idle : ∀ i u, admits i u = false → step i u = u) :
    run step (admitted step admits inputs s) s = run step inputs s := by
  induction inputs generalizing s with
  | nil => rfl
  | cons i rest ih =>
    unfold admitted
    split
    next hadmits => exact ih
    next hadmits =>
      rw [ih]
      show run step rest s = run step rest (step i s)
      rw [idle i s (Bool.eq_false_iff.mpr hadmits)]

theorem outputs_admitted {ω : Type} {out : ι → σ → List ω}
    (idle : ∀ i u, admits i u = false → step i u = u)
    (silent : ∀ i u, admits i u = false → out i u = []) :
    outputs step out (admitted step admits inputs s) s = outputs step out inputs s := by
  induction inputs generalizing s with
  | nil => rfl
  | cons i rest ih =>
    unfold admitted
    split
    next hadmits => exact congrArg (out i s ++ ·) ih
    next hadmits =>
      have hfalse := Bool.eq_false_iff.mpr hadmits
      rw [ih, outputs, silent i s hfalse, idle i s hfalse, List.nil_append]

end Selection

section Simulation

variable {ι' σ' ω' : Type} {step' : ι' → σ' → σ'} {f : σ → σ'} {g : ι → ι'}

/-- A map of states and inputs that commutes with a step commutes with a run. -/
theorem map_run (h : ∀ i u, f (step i u) = step' (g i) (f u)) :
    f (run step inputs s) = run step' (inputs.map g) (f s) := by
  induction inputs generalizing s with
  | nil => rfl
  | cons i rest ih =>
    show f (run step rest (step i s)) = run step' (rest.map g) (step' (g i) (f s))
    rw [ih, h]

theorem map_outputs_run {ω : Type} {out : ι → σ → List ω} {out' : ι' → σ' → List ω'} {k : ω → ω'}
    (h : ∀ i u, f (step i u) = step' (g i) (f u))
    (hout : ∀ i u, (out i u).map k = out' (g i) (f u)) :
    (outputs step out inputs s).map k = outputs step' out' (inputs.map g) (f s) := by
  induction inputs generalizing s with
  | nil => rfl
  | cons i rest ih => rw [List.map_cons, outputs, outputs, List.map_append, hout, ih, h]

end Simulation

section Time

variable {τ : Type} [LE τ] (time : ι → τ)

/-- The times of the inputs, from a start on, never go back. -/
def Chronological (start : τ) (inputs : List ι) : Prop :=
  (start :: inputs.map time).IsChain (· ≤ ·)

/-- The time of the last input, or the start if there is none. -/
def lastTime (start : τ) (inputs : List ι) : τ := (inputs.map time).getLastD start

variable {time}

/-- A run whose times never go back and whose steps all meet a condition keeps
what such a step keeps, each step at its own time. -/
theorem run_invariant_timed {cond : ι → σ → Prop} {R : τ → σ → Prop} {start : τ}
    (h : R start s) (hcond : Along step cond inputs s) (htime : Chronological time start inputs)
    (keeps : ∀ i ∈ inputs, ∀ now u, cond i u → now ≤ time i → R now u → R (time i) (step i u)) :
    R (lastTime time start inputs) (run step inputs s) := by
  induction inputs generalizing s start with
  | nil => exact h
  | cons i rest ih =>
    obtain ⟨hle, hrest⟩ := List.isChain_cons_cons.mp htime
    have hnext := keeps i List.mem_cons_self start s hcond.1 hle h
    have hrun := ih hnext hcond.2 hrest fun j hj => keeps j (List.mem_cons_of_mem i hj)
    rw [lastTime, List.map_cons, List.getLastD_cons]
    exact hrun

end Time

end Runs
