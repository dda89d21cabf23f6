import Mathlib.Tactic.TypeStar
import Mathlib.Logic.Basic

/-!
# Storage actions

Runtime code reads and writes storage and returns a result. A failing step
does not undo the writes made before it: that is the business of the storage
layer around a dispatched call (`Action.transactional`), and code that runs
outside one, such as a block hook, keeps what it wrote.

Every primitive carries its success inversion, an `_ok` lemma that says what
a successful run did, so that a do block is peeled one statement at a time
and never unfolded into its binds.
-/

set_option autoImplicit false

namespace Storage

/-! ## Results -/

theorem except_bind_ok {ε α β : Type} {x : Except ε α} {f : α → Except ε β} {b : β} :
    (x >>= f) = .ok b ↔ ∃ a, x = .ok a ∧ f a = .ok b := by
  cases x with
  | error e => exact ⟨nofun, nofun⟩
  | ok a => exact ⟨fun h => ⟨a, rfl, h⟩, fun ⟨_, ha, h⟩ => Except.ok.inj ha ▸ h⟩

theorem except_mapError_ok {ε ε' α : Type} {f : ε → ε'} {x : Except ε α} {a : α} :
    x.mapError f = .ok a ↔ x = .ok a := by
  cases x with
  | error e => exact ⟨nofun, nofun⟩
  | ok b => exact ⟨fun h => congrArg Except.ok (Except.ok.inj h), fun h => h ▸ rfl⟩

/-! ## Loops

A loop whose body can fail is a `foldlM`. It stops at the first failure, so how
often its body has run depends on the body. -/

/-- How often the body of a loop runs. -/
def iterations {ε α β : Type} (body : β → α → Except ε β) : β → List α → Nat
  | _, [] => 0
  | b, a :: items =>
    match body b a with
    | .ok b' => iterations body b' items + 1
    | .error _ => 1

section Loops

variable {ε α β : Type} {body : β → α → Except ε β}

theorem iterations_le (b : β) (items : List α) : iterations body b items ≤ items.length := by
  induction items generalizing b with
  | nil => exact Nat.le_refl 0
  | cons a items ih =>
    rw [iterations, List.length_cons]
    split
    next b' h => exact Nat.succ_le_succ (ih b')
    next e h => exact Nat.succ_le_succ (Nat.zero_le _)

/-- The body runs on the last item exactly if it has not failed before. -/
theorem iterations_concat (b : β) (items : List α) (last : α) :
    iterations body b (items ++ [last]) = items.length + 1 ↔
      ∃ b', items.foldlM body b = .ok b' := by
  induction items generalizing b with
  | nil =>
    have hone : iterations body b [last] = 1 := by
      rw [iterations]
      split <;> rfl
    exact iff_of_true hone ⟨b, rfl⟩
  | cons a items ih =>
    rw [List.cons_append, iterations, List.length_cons, List.foldlM_cons]
    cases h : body b a with
    | ok b' =>
      rw [Nat.add_right_cancel_iff]
      exact ih b'
    | error e =>
      refine iff_of_false ?_ nofun
      show ¬ 1 = items.length + 1 + 1
      omega

end Loops

/-! ## Actions -/

/-- Code over storage `σ` that returns an `α` or fails with an `ε`. -/
def Action (ε σ α : Type) : Type := σ → Except ε α × σ

namespace Action

variable {ε σ α β : Type}

protected def pure (a : α) : Action ε σ α := fun s => (.ok a, s)

protected def bind (x : Action ε σ α) (f : α → Action ε σ β) : Action ε σ β := fun s =>
  match x s with
  | (.ok a, t) => f a t
  | (.error e, t) => (.error e, t)

instance : Monad (Action ε σ) where
  pure := Action.pure
  bind := Action.bind

theorem map_id (x : Action ε σ α) : id <$> x = x := by
  funext s
  show Action.bind x (fun a => Action.pure a) s = x s
  unfold Action.bind
  split
  next a t h => exact h.symm
  next e t h => exact h.symm

instance : LawfulMonad (Action ε σ) :=
  .mk' _ map_id (fun _ _ => rfl) fun x f g => by
    funext s
    show Action.bind (Action.bind x f) g s = Action.bind x (fun a => Action.bind (f a) g) s
    unfold Action.bind
    cases x s with
    | mk r t => cases r <;> rfl

/-- Return an error. -/
def fail (e : ε) : Action ε σ α := fun s => (.error e, s)

/-- Read the storage. -/
def get : Action ε σ σ := fun s => (.ok s, s)

/-- Write the storage. -/
def modify (f : σ → σ) : Action ε σ Unit := fun s => (.ok (), f s)

/-- `ensure!(cond, e)`. -/
def ensure (cond : Prop) [Decidable cond] (e : ε) : Action ε σ Unit := fun s =>
  if cond then (.ok (), s) else (.error e, s)

/-- `if cond { x }`. -/
def when (cond : Prop) [Decidable cond] (x : Action ε σ Unit) : Action ε σ Unit := fun s =>
  if cond then x s else (.ok (), s)

/-- The `?` on a result that touches no storage. -/
def ofExcept (r : Except ε α) : Action ε σ α := fun s => (r, s)

/-- `ok_or(e)?`. -/
def okOr (o : Option α) (e : ε) : Action ε σ α := fun s =>
  match o with
  | some a => (.ok a, s)
  | none => (.error e, s)

/-- `map_err`. -/
def mapError {ε' : Type} (f : ε → ε') (x : Action ε σ α) : Action ε' σ α := fun s =>
  match x s with
  | (.ok a, t) => (.ok a, t)
  | (.error e, t) => (.error (f e), t)

/-- The storage layer around a dispatched call: a failing call leaves the
storage as it found it. -/
def transactional (x : Action ε σ α) : Action ε σ α := fun s =>
  match x s with
  | (.ok a, t) => (.ok a, t)
  | (.error e, _) => (.error e, s)

/-- A successful sequence is two successful steps. -/
theorem bind_ok {x : Action ε σ α} {f : α → Action ε σ β} {s t : σ} {b : β} :
    (x >>= f) s = (.ok b, t) ↔ ∃ a u, x s = (.ok a, u) ∧ f a u = (.ok b, t) := by
  show Action.bind x f s = (.ok b, t) ↔ _
  unfold Action.bind
  constructor
  · intro h
    split at h
    next a u hx => exact ⟨a, u, hx, h⟩
    next e u hx => cases h
  · rintro ⟨a, u, hx, hf⟩
    rw [hx]
    exact hf

/-- A failing sequence failed at its first step or went on to fail. -/
theorem bind_error {x : Action ε σ α} {f : α → Action ε σ β} {s t : σ} {e : ε} :
    (x >>= f) s = (.error e, t) ↔
      x s = (.error e, t) ∨ ∃ a u, x s = (.ok a, u) ∧ f a u = (.error e, t) := by
  show Action.bind x f s = (.error e, t) ↔ _
  unfold Action.bind
  cases hx : x s with
  | mk r u =>
    cases r with
    | ok a =>
      constructor
      · exact fun h => Or.inr ⟨a, u, rfl, h⟩
      · rintro (h | ⟨a', u', h, hf⟩)
        · cases h
        · cases h
          exact hf
    | error e' =>
      constructor
      · exact fun h => Or.inl (by cases h; rfl)
      · rintro (h | ⟨a', u', h, _⟩)
        · cases h
          rfl
        · cases h

/-- A sequence whose first step succeeds goes on from where that step ended. -/
theorem bind_of_ok {x : Action ε σ α} {f : α → Action ε σ β} {s t : σ} {a : α}
    (h : x s = (.ok a, t)) : (x >>= f) s = f a t := by
  show Action.bind x f s = f a t
  unfold Action.bind
  rw [h]

/-- A sequence whose first step fails stops there. -/
theorem bind_of_error {x : Action ε σ α} {f : α → Action ε σ β} {s t : σ} {e : ε}
    (h : x s = (.error e, t)) : (x >>= f) s = (.error e, t) := by
  show Action.bind x f s = (.error e, t)
  unfold Action.bind
  rw [h]

theorem pure_ok {a b : α} {s t : σ} :
    (pure a : Action ε σ α) s = (.ok b, t) ↔ a = b ∧ s = t := by
  show Action.pure a s = (.ok b, t) ↔ _
  simp only [Action.pure, Prod.mk.injEq, Except.ok.injEq]

theorem pure_error {a : α} {s t : σ} {e : ε} :
    (pure a : Action ε σ α) s = (.error e, t) ↔ False := by
  show Action.pure a s = (.error e, t) ↔ _
  simp only [Action.pure, Prod.mk.injEq, reduceCtorEq, false_and]

theorem get_ok {s t u : σ} : (get : Action ε σ σ) s = (.ok u, t) ↔ s = u ∧ s = t := by
  simp only [get, Prod.mk.injEq, Except.ok.injEq]

theorem get_error {s t : σ} {e : ε} : (get : Action ε σ σ) s = (.error e, t) ↔ False := by
  simp only [get, Prod.mk.injEq, reduceCtorEq, false_and]

theorem modify_ok {f : σ → σ} {s t : σ} {u : Unit} :
    (modify f : Action ε σ Unit) s = (.ok u, t) ↔ f s = t := by
  simp only [modify, Prod.mk.injEq, true_and]

theorem modify_error {f : σ → σ} {s t : σ} {e : ε} :
    (modify f : Action ε σ Unit) s = (.error e, t) ↔ False := by
  simp only [modify, Prod.mk.injEq, reduceCtorEq, false_and]

theorem ensure_ok {cond : Prop} [Decidable cond] {e : ε} {s t : σ} {u : Unit} :
    (ensure cond e : Action ε σ Unit) s = (.ok u, t) ↔ cond ∧ s = t := by
  unfold ensure
  split
  next h => simp only [Prod.mk.injEq, h, true_and]
  next h => simp only [Prod.mk.injEq, reduceCtorEq, h, false_and]

theorem ensure_error {cond : Prop} [Decidable cond] {e e' : ε} {s t : σ} :
    (ensure cond e : Action ε σ Unit) s = (.error e', t) ↔ (¬ cond ∧ e = e') ∧ s = t := by
  unfold ensure
  split
  next h => simp only [Prod.mk.injEq, reduceCtorEq, h, not_true_eq_false, false_and]
  next h => simp only [Prod.mk.injEq, Except.error.injEq, h, not_false_eq_true, true_and]

/-- A guarded check is an implication. -/
theorem when_ensure_ok {cond check : Prop} [Decidable cond] [Decidable check] {e : ε} {s t : σ}
    {u : Unit} :
    when cond (ensure check e : Action ε σ Unit) s = (.ok u, t) ↔ (cond → check) ∧ s = t := by
  unfold when
  split
  next h => simp only [ensure_ok, h, forall_const]
  next h => simp only [Prod.mk.injEq, h, false_imp_iff, true_and]

theorem ofExcept_ok {r : Except ε α} {s t : σ} {a : α} :
    (ofExcept r : Action ε σ α) s = (.ok a, t) ↔ r = .ok a ∧ s = t := by
  simp only [ofExcept, Prod.mk.injEq]

theorem ofExcept_error {r : Except ε α} {s t : σ} {e : ε} :
    (ofExcept r : Action ε σ α) s = (.error e, t) ↔ r = .error e ∧ s = t := by
  simp only [ofExcept, Prod.mk.injEq]

theorem okOr_ok {o : Option α} {e : ε} {s t : σ} {a : α} :
    (okOr o e : Action ε σ α) s = (.ok a, t) ↔ o = some a ∧ s = t := by
  unfold okOr
  cases o with
  | none => simp only [Prod.mk.injEq, reduceCtorEq, false_and]
  | some b => simp only [Prod.mk.injEq, Except.ok.injEq, Option.some.injEq]

theorem okOr_error {o : Option α} {e e' : ε} {s t : σ} :
    (okOr o e : Action ε σ α) s = (.error e', t) ↔ (o = none ∧ e = e') ∧ s = t := by
  unfold okOr
  cases o with
  | none => simp only [Prod.mk.injEq, Except.error.injEq, true_and]
  | some b => simp only [Prod.mk.injEq, reduceCtorEq, false_and]

/-! A step that only reads or checks leaves no state behind to name: a
sequence that begins with one continues where it began. -/

section Sequences

variable {s t : σ} {e : ε} {b : β}

theorem ensure_bind_ok {cond : Prop} [Decidable cond] {f : Unit → Action ε σ β} :
    (ensure cond e >>= f) s = (.ok b, t) ↔ cond ∧ f () s = (.ok b, t) := by
  simp only [bind_ok, ensure_ok]
  constructor
  · rintro ⟨_, _, ⟨hcond, rfl⟩, hf⟩
    exact ⟨hcond, hf⟩
  · rintro ⟨hcond, hf⟩
    exact ⟨(), s, ⟨hcond, rfl⟩, hf⟩

theorem when_ensure_bind_ok {cond check : Prop} [Decidable cond] [Decidable check]
    {f : Unit → Action ε σ β} :
    (when cond (ensure check e) >>= f) s = (.ok b, t) ↔ (cond → check) ∧ f () s = (.ok b, t) := by
  simp only [bind_ok, when_ensure_ok]
  constructor
  · rintro ⟨_, _, ⟨hcheck, rfl⟩, hf⟩
    exact ⟨hcheck, hf⟩
  · rintro ⟨hcheck, hf⟩
    exact ⟨(), s, ⟨hcheck, rfl⟩, hf⟩

theorem pure_bind_ok {a : α} {f : α → Action ε σ β} :
    (pure a >>= f) s = (.ok b, t) ↔ f a s = (.ok b, t) :=
  Iff.rfl

theorem get_bind_ok {f : σ → Action ε σ β} : (get >>= f) s = (.ok b, t) ↔ f s s = (.ok b, t) := by
  simp only [bind_ok, get_ok]
  constructor
  · rintro ⟨_, _, ⟨rfl, rfl⟩, hf⟩
    exact hf
  · intro hf
    exact ⟨s, s, ⟨rfl, rfl⟩, hf⟩

theorem ofExcept_bind_ok {r : Except ε α} {f : α → Action ε σ β} :
    (ofExcept r >>= f) s = (.ok b, t) ↔ ∃ a, r = .ok a ∧ f a s = (.ok b, t) := by
  simp only [bind_ok, ofExcept_ok]
  constructor
  · rintro ⟨a, _, ⟨hr, rfl⟩, hf⟩
    exact ⟨a, hr, hf⟩
  · rintro ⟨a, hr, hf⟩
    exact ⟨a, s, ⟨hr, rfl⟩, hf⟩

theorem okOr_bind_ok {o : Option α} {f : α → Action ε σ β} :
    (okOr o e >>= f) s = (.ok b, t) ↔ ∃ a, o = some a ∧ f a s = (.ok b, t) := by
  simp only [bind_ok, okOr_ok]
  constructor
  · rintro ⟨a, _, ⟨ho, rfl⟩, hf⟩
    exact ⟨a, ho, hf⟩
  · rintro ⟨a, ho, hf⟩
    exact ⟨a, s, ⟨ho, rfl⟩, hf⟩

theorem modify_bind_ok {g : σ → σ} {f : Unit → Action ε σ β} :
    (modify g >>= f) s = (.ok b, t) ↔ f () (g s) = (.ok b, t) := by
  simp only [bind_ok, modify_ok]
  constructor
  · rintro ⟨_, _, rfl, hf⟩
    exact hf
  · intro hf
    exact ⟨(), g s, rfl, hf⟩

end Sequences

theorem mapError_of_ok {ε' : Type} {f : ε → ε'} {x : Action ε σ α} {s t : σ} {a : α}
    (h : x s = (.ok a, t)) : mapError f x s = (.ok a, t) := by
  unfold mapError
  rw [h]

theorem mapError_of_error {ε' : Type} {f : ε → ε'} {x : Action ε σ α} {s t : σ} {e : ε}
    (h : x s = (.error e, t)) : mapError f x s = (.error (f e), t) := by
  unfold mapError
  rw [h]

theorem mapError_ok {ε' : Type} {f : ε → ε'} {x : Action ε σ α} {s t : σ} {a : α} :
    mapError f x s = (.ok a, t) ↔ x s = (.ok a, t) := by
  unfold mapError
  split
  next b u hx => simp only [hx, Prod.mk.injEq, Except.ok.injEq]
  next e u hx => simp only [hx, Prod.mk.injEq, reduceCtorEq, false_and]

/-! ## Checks before writes -/

/-- The action leaves the storage as it is, whatever it returns. -/
def ReadsOnly (x : Action ε σ α) : Prop := ∀ s, (x s).2 = s

/-- The action leaves the storage as it is if it fails. -/
def FailsClean (x : Action ε σ α) : Prop := ∀ s t e, x s = (.error e, t) → t = s

theorem readsOnly_get : ReadsOnly (get : Action ε σ σ) := fun _ => rfl

theorem readsOnly_ensure {cond : Prop} {_ : Decidable cond} {e : ε} :
    ReadsOnly (ensure cond e : Action ε σ Unit) := by
  intro s
  unfold ensure
  split <;> rfl

theorem readsOnly_ofExcept {r : Except ε α} : ReadsOnly (ofExcept r : Action ε σ α) :=
  fun _ => rfl

theorem readsOnly_okOr {o : Option α} {e : ε} : ReadsOnly (okOr o e : Action ε σ α) := by
  intro s
  cases o <;> rfl

theorem ReadsOnly.when {cond : Prop} {_ : Decidable cond} {x : Action ε σ Unit} (h : ReadsOnly x) :
    ReadsOnly (when cond x) := by
  intro s
  unfold Action.when
  split
  · exact h s
  · rfl

theorem ReadsOnly.bind {x : Action ε σ α} {f : α → Action ε σ β} (hx : ReadsOnly x)
    (hf : ∀ a, ReadsOnly (f a)) : ReadsOnly (x >>= f) := by
  intro s
  have hs : (x s).2 = s := hx s
  cases h : x s with
  | mk r t =>
    rw [h] at hs
    subst hs
    cases r with
    | ok a => rw [bind_of_ok h, hf a]
    | error e => rw [bind_of_error h]

theorem ReadsOnly.failsClean {x : Action ε σ α} (h : ReadsOnly x) : FailsClean x := by
  intro s t e hx
  rw [← h s, hx]

/-- A check in front of an action that fails clean. -/
theorem failsClean_bind {x : Action ε σ α} {f : α → Action ε σ β} (hx : ReadsOnly x)
    (hf : ∀ a, FailsClean (f a)) : FailsClean (x >>= f) := by
  intro s t e h
  rcases bind_error.mp h with hfail | ⟨a, u, hok, hrest⟩
  · exact hx.failsClean s t e hfail
  · rw [hf a u t e hrest, ← hx s, hok]

/-- What only writes does not fail. -/
theorem failsClean_modify_bind {f : σ → σ} {g : σ → σ} :
    FailsClean ((modify f : Action ε σ Unit) >>= fun _ => modify g) := by
  intro s t e h
  rcases bind_error.mp h with hfail | ⟨_, u, _, hfail⟩
  · exact (modify_error.mp hfail).elim
  · exact (modify_error.mp hfail).elim

/-- Inside a storage layer a call either succeeds with what it wrote or
changes nothing. -/
theorem transactional_cases (x : Action ε σ α) (s : σ) :
    (∃ a t, x s = (.ok a, t) ∧ transactional x s = (.ok a, t)) ∨
      ∃ e, transactional x s = (.error e, s) := by
  unfold transactional
  cases hx : x s with
  | mk r t =>
    cases r with
    | ok a => exact Or.inl ⟨a, t, rfl, rfl⟩
    | error e => exact Or.inr ⟨e, rfl⟩

theorem transactional_ok {x : Action ε σ α} {s t : σ} {a : α} :
    transactional x s = (.ok a, t) ↔ x s = (.ok a, t) := by
  unfold transactional
  split
  next b u hx => rw [hx]
  next e u hx => simp only [hx, Prod.mk.injEq, reduceCtorEq, false_and]

theorem transactional_error {x : Action ε σ α} {s t : σ} {e : ε} :
    transactional x s = (.error e, t) ↔ (∃ u, x s = (.error e, u)) ∧ s = t := by
  unfold transactional
  split
  next b u hx =>
    simp only [hx, Prod.mk.injEq, reduceCtorEq, false_and, exists_false]
  next e' u hx =>
    simp only [hx, Prod.mk.injEq, Except.error.injEq, exists_and_left, exists_eq', and_true]

end Action

end Storage
