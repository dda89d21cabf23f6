import Mathlib.Data.Finmap
import Mathlib.Data.List.Sort
import Mathlib.Algebra.BigOperators.Group.Finset.Basic
import Mathlib.Algebra.Order.BigOperators.Group.Finset

/-!
# Storage maps

A storage map is a finite map from keys to records, enumerated in the order
of its hashed keys. Two things are said about it here, and everything a
runtime proves about its records rests on them:

- ACCOUNTING: a sum over the stored records changes, under a write or a
  removal, by exactly the record that came and the record that went
  (`sum_insert`, `sum_erase`, balanced so that no subtraction appears);
- ITERATION: a loop over a snapshot of the map whose body writes only the
  key it is at meets every record as the snapshot has it, so what one
  iteration keeps the loop keeps (`forEach_invariant`), and what the loop
  writes and adds up does not depend on the order of the enumeration
  (`forEach_store_eq`, `forEach_sum_eq`).
-/

set_option autoImplicit false

namespace Storage

/-- A storage map, keyed by `κ`. -/
abbrev Map (κ ν : Type) := Finmap fun _ : κ => ν

/-- A key hasher, as the number its hashed keys spell. Hashers that append
the key to its hash are injective, which is all that is used. -/
structure Hasher (κ : Type) where
  key : κ → ℕ
  injective : Function.Injective key

section

variable {κ ν : Type}

/-! ## Enumeration -/

/-- The order in which a hasher enumerates two keys. -/
def Hasher.le (h : Hasher κ) (a b : κ) : Prop := h.key a ≤ h.key b

instance (h : Hasher κ) : DecidableRel h.le := fun a b =>
  inferInstanceAs (Decidable (h.key a ≤ h.key b))

instance (h : Hasher κ) : IsTrans κ h.le := ⟨fun _ _ _ hab hbc => Nat.le_trans hab hbc⟩

instance (h : Hasher κ) : Std.Total h.le := ⟨fun a b => Nat.le_total (h.key a) (h.key b)⟩

instance (h : Hasher κ) : Std.Antisymm h.le :=
  ⟨fun _ _ hab hba => h.injective (Nat.le_antisymm hab hba)⟩

/-- The keys of a set in hashed order. -/
def Hasher.sortKeys (h : Hasher κ) (keys : Finset κ) : List κ :=
  Quot.liftOn keys.val (List.insertionSort h.le) fun a b hab =>
    (((List.perm_insertionSort h.le a).trans hab).trans
      (List.perm_insertionSort h.le b).symm).eq_of_pairwise'
        (List.pairwise_insertionSort h.le a) (List.pairwise_insertionSort h.le b)

theorem Hasher.coe_sortKeys (h : Hasher κ) (keys : Finset κ) :
    (h.sortKeys keys : Multiset κ) = keys.val := by
  unfold Hasher.sortKeys
  induction keys.val using Quot.inductionOn with
  | h l => exact Quot.sound (List.perm_insertionSort h.le l)

theorem Hasher.mem_sortKeys (h : Hasher κ) {keys : Finset κ} {k : κ} :
    k ∈ h.sortKeys keys ↔ k ∈ keys := by
  rw [← Multiset.mem_coe, h.coe_sortKeys, Finset.mem_val]

theorem Hasher.nodup_sortKeys (h : Hasher κ) (keys : Finset κ) : (h.sortKeys keys).Nodup := by
  rw [← Multiset.coe_nodup, h.coe_sortKeys]
  exact keys.nodup

variable [DecidableEq κ]

/-- The entries of a map, in hashed order. -/
def iter (h : Hasher κ) (m : Map κ ν) : List (κ × ν) :=
  (h.sortKeys m.keys).filterMap fun k => (m.lookup k).map (k, ·)

/-- A duplicate-free list of entries a map holds. A full enumeration is one,
and so is any part of it. -/
structure Snapshot (m : Map κ ν) (entries : List (κ × ν)) : Prop where
  nodup : (entries.map Prod.fst).Nodup
  lookup : ∀ e ∈ entries, m.lookup e.1 = some e.2

theorem mem_iter {h : Hasher κ} {m : Map κ ν} {k : κ} {v : ν} :
    (k, v) ∈ iter h m ↔ m.lookup k = some v := by
  unfold iter
  rw [List.mem_filterMap]
  constructor
  · rintro ⟨k', _, hk⟩
    obtain ⟨v', hv, he⟩ := Option.map_eq_some_iff.mp hk
    cases he
    exact hv
  · intro hv
    have hmem : k ∈ m.keys := Finmap.mem_keys.mpr (Finmap.mem_of_lookup_eq_some hv)
    exact ⟨k, h.mem_sortKeys.mpr hmem, by rw [hv, Option.map_some]⟩

theorem snapshot_iter (h : Hasher κ) (m : Map κ ν) : Snapshot m (iter h m) where
  nodup := by
    have hsub : ((iter h m).map Prod.fst).Sublist (h.sortKeys m.keys) := by
      unfold iter
      induction h.sortKeys m.keys with
      | nil => exact List.Sublist.slnil
      | cons k keys ih =>
        cases hk : m.lookup k with
        | none =>
          rw [List.filterMap_cons_none (by rw [hk, Option.map_none])]
          exact ih.cons k
        | some v =>
          rw [List.filterMap_cons_some (b := (k, v)) (by rw [hk, Option.map_some]),
            List.map_cons]
          exact ih.cons_cons k
    exact hsub.nodup (h.nodup_sortKeys m.keys)
  lookup := by
    rintro ⟨k, v⟩ hmem
    exact mem_iter.mp hmem

/-- What is left of a snapshot after dropping entries is a snapshot. -/
theorem Snapshot.sublist {m : Map κ ν} {entries part : List (κ × ν)}
    (hs : Snapshot m entries) (hsub : part.Sublist entries) : Snapshot m part where
  nodup := (hsub.map Prod.fst).nodup hs.nodup
  lookup := fun e he => hs.lookup e (hsub.subset he)

/-- The keys of the records that satisfy a predicate. -/
def keysWhere (m : Map κ ν) (p : ν → Bool) : Finset κ := m.keys.filter fun k => (m.lookup k).any p

theorem mem_keysWhere {m : Map κ ν} {p : ν → Bool} {k : κ} :
    k ∈ keysWhere m p ↔ ∃ v, m.lookup k = some v ∧ p v = true := by
  rw [keysWhere, Finset.mem_filter, Finmap.mem_keys, Option.any_eq_true]
  refine and_iff_right_of_imp fun ⟨v, hv, _⟩ => Finmap.mem_of_lookup_eq_some hv

/-- An enumeration meets each of these records once. -/
theorem length_filter_iter (h : Hasher κ) (m : Map κ ν) (p : ν → Bool) :
    ((iter h m).filter fun e => p e.2).length = (keysWhere m p).card := by
  have hnodup : (((iter h m).filter fun e => p e.2).map Prod.fst).Nodup :=
    ((snapshot_iter h m).sublist List.filter_sublist).nodup
  rw [← List.length_map Prod.fst, ← List.toFinset_card_of_nodup hnodup]
  congr 1
  ext k
  rw [List.mem_toFinset, List.mem_map, mem_keysWhere]
  constructor
  · rintro ⟨⟨_, v⟩, he, rfl⟩
    obtain ⟨hmem, hp⟩ := List.mem_filter.mp he
    exact ⟨v, mem_iter.mp hmem, hp⟩
  · rintro ⟨v, hv, hp⟩
    exact ⟨(k, v), List.mem_filter.mpr ⟨mem_iter.mpr hv, hp⟩, rfl⟩

/-- A list of all the entries of a map, each once, in some order. -/
structure Enumeration (m : Map κ ν) (entries : List (κ × ν)) : Prop extends
    Snapshot m entries where
  complete : ∀ k v, m.lookup k = some v → (k, v) ∈ entries

theorem enumeration_iter (h : Hasher κ) (m : Map κ ν) : Enumeration m (iter h m) where
  toSnapshot := snapshot_iter h m
  complete := fun _ _ => mem_iter.mpr

/-- Two enumerations differ in their order only. -/
theorem Enumeration.perm {m : Map κ ν} {entries others : List (κ × ν)}
    (h : Enumeration m entries) (h' : Enumeration m others) : entries.Perm others := by
  refine (List.perm_ext_iff_of_nodup h.nodup.of_map h'.nodup.of_map).mpr fun e => ?_
  exact ⟨fun he => h'.complete _ _ (h.lookup e he), fun he => h.complete _ _ (h'.lookup e he)⟩

theorem Enumeration.of_perm {m : Map κ ν} {entries others : List (κ × ν)}
    (h : Enumeration m entries) (hperm : entries.Perm others) : Enumeration m others where
  nodup := (hperm.map Prod.fst).nodup_iff.mp h.nodup
  lookup := fun e he => h.lookup e (hperm.mem_iff.mpr he)
  complete := fun k v hstored => hperm.mem_iff.mp (h.complete k v hstored)

/-! ## Accounting -/

/-- The sum of a weight over the stored records. -/
def sum (m : Map κ ν) (weight : κ → ν → ℕ) : ℕ :=
  ∑ k ∈ m.keys, (m.lookup k).elim 0 (weight k)

@[simp] theorem sum_empty (weight : κ → ν → ℕ) : sum (∅ : Map κ ν) weight = 0 := rfl

/-- A sum over more keys than there are. -/
theorem sum_eq_of_subset {m : Map κ ν} (weight : κ → ν → ℕ) {keys : Finset κ}
    (h : m.keys ⊆ keys) : sum m weight = ∑ k ∈ keys, (m.lookup k).elim 0 (weight k) := by
  refine Finset.sum_subset h fun k _ hk => ?_
  rw [Finmap.lookup_eq_none.mpr fun hmem => hk (Finmap.mem_keys.mpr hmem), Option.elim_none]

/-- Maps that weigh the same at every key weigh the same. -/
theorem sum_congr {m m' : Map κ ν} {weight : κ → ν → ℕ}
    (h : ∀ k, (m.lookup k).elim 0 (weight k) = (m'.lookup k).elim 0 (weight k)) :
    sum m weight = sum m' weight := by
  have hleft : m.keys ⊆ m.keys ∪ m'.keys := Finset.subset_union_left
  have hright : m'.keys ⊆ m.keys ∪ m'.keys := Finset.subset_union_right
  rw [sum_eq_of_subset weight hleft, sum_eq_of_subset weight hright]
  exact Finset.sum_congr rfl fun k _ => h k

private theorem sum_eq_add_erase (m : Map κ ν) (weight : κ → ν → ℕ) (k : κ) :
    sum m weight = (m.lookup k).elim 0 (weight k) +
      ∑ j ∈ m.keys.erase k, (m.lookup j).elim 0 (weight j) := by
  unfold sum
  by_cases hk : k ∈ m.keys
  · exact (Finset.add_sum_erase _ (fun j => (m.lookup j).elim 0 (weight j)) hk).symm
  · have hnone : m.lookup k = none :=
      Finmap.lookup_eq_none.mpr fun h => hk (Finmap.mem_keys.mpr h)
    rw [Finset.erase_eq_of_notMem hk, hnone, Option.elim_none, Nat.zero_add]

theorem keys_insert (m : Map κ ν) (k : κ) (v : ν) : (m.insert k v).keys = insert k m.keys := by
  ext j
  simp only [Finset.mem_insert, Finmap.mem_keys, Finmap.mem_insert]

/-- A write adds the new record's weight and drops the replaced one's. -/
theorem sum_insert (m : Map κ ν) (weight : κ → ν → ℕ) (k : κ) (v : ν) :
    sum (m.insert k v) weight + (m.lookup k).elim 0 (weight k) = sum m weight + weight k v := by
  have hkeys : (m.insert k v).keys.erase k = m.keys.erase k := by
    rw [keys_insert, Finset.erase_insert_eq_erase]
  have hrest : ∑ j ∈ m.keys.erase k, ((m.insert k v).lookup j).elim 0 (weight j) =
      ∑ j ∈ m.keys.erase k, (m.lookup j).elim 0 (weight j) := by
    refine Finset.sum_congr rfl fun j hj => ?_
    rw [Finmap.lookup_insert_of_ne m (Finset.ne_of_mem_erase hj)]
  rw [sum_eq_add_erase (m.insert k v) weight k, sum_eq_add_erase m weight k, hkeys, hrest,
    Finmap.lookup_insert, Option.elim_some]
  omega

/-- A removal drops the removed record's weight. -/
theorem sum_erase (m : Map κ ν) (weight : κ → ν → ℕ) (k : κ) :
    sum (m.erase k) weight + (m.lookup k).elim 0 (weight k) = sum m weight := by
  have hrest : sum (m.erase k) weight =
      ∑ j ∈ m.keys.erase k, (m.lookup j).elim 0 (weight j) := by
    unfold sum
    rw [Finmap.keys_erase]
    refine Finset.sum_congr rfl fun j hj => ?_
    rw [Finmap.lookup_erase_ne (Finset.ne_of_mem_erase hj)]
  rw [hrest, sum_eq_add_erase m weight k, Nat.add_comm]

/-- One stored record weighs no more than all of them. -/
theorem le_sum {m : Map κ ν} {k : κ} {v : ν} (weight : κ → ν → ℕ) (h : m.lookup k = some v) :
    weight k v ≤ sum m weight := by
  rw [sum_eq_add_erase m weight k, h, Option.elim_some]
  exact Nat.le_add_right _ _

/-- A write to a free key adds an entry. -/
theorem card_keys_insert_of_notMem {m : Map κ ν} {k : κ} (v : ν) (h : k ∉ m) :
    (m.insert k v).keys.card = m.keys.card + 1 := by
  rw [keys_insert]
  exact Finset.card_insert_of_notMem fun hmem => h (Finmap.mem_keys.mp hmem)

/-- A write to a taken key replaces one. -/
theorem card_keys_insert_of_mem {m : Map κ ν} {k : κ} (v : ν) (h : k ∈ m) :
    (m.insert k v).keys.card = m.keys.card := by
  rw [keys_insert, Finset.insert_eq_of_mem (Finmap.mem_keys.mpr h)]

/-- A removal drops one. -/
theorem card_keys_erase {m : Map κ ν} {k : κ} (h : k ∈ m) :
    (m.erase k).keys.card + 1 = m.keys.card := by
  rw [Finmap.keys_erase]
  exact Finset.card_erase_add_one (Finmap.mem_keys.mpr h)

/-! ## Iteration -/

/-- A loop over entries, each iteration transforming the state. -/
def forEach {σ : Type} (body : κ → ν → σ → σ) (entries : List (κ × ν)) (s : σ) : σ :=
  entries.foldl (fun s e => body e.1 e.2 s) s

/-- A loop body that writes no key of the map but the one it is at. -/
def OwnKeyOnly {σ : Type} (store : σ → Map κ ν) (body : κ → ν → σ → σ) : Prop :=
  ∀ k v s j, j ≠ k → (store (body k v s)).lookup j = (store s).lookup j

section Loop

variable {σ : Type} {store : σ → Map κ ν} {body : κ → ν → σ → σ}

/-- The snapshot of the entries still to come survives an iteration. -/
theorem OwnKeyOnly.snapshot_tail (own : OwnKeyOnly store body) {k : κ} {v : ν}
    {entries : List (κ × ν)} {s : σ} (hs : Snapshot (store s) ((k, v) :: entries)) :
    Snapshot (store (body k v s)) entries where
  nodup := (List.nodup_cons.mp hs.nodup).2
  lookup := by
    intro e he
    have hne : e.1 ≠ k := by
      intro heq
      have hmem : e.1 ∈ entries.map Prod.fst := List.mem_map_of_mem he
      exact (List.nodup_cons.mp hs.nodup).1 (heq ▸ hmem)
    rw [own k v s e.1 hne]
    exact hs.lookup e (List.mem_cons_of_mem _ he)

/-- THE ITERATION RULE: what every iteration keeps, met at a record the map
still holds, the loop keeps. -/
theorem forEach_invariant (own : OwnKeyOnly store body) {P : σ → Prop}
    {entries : List (κ × ν)} {s : σ}
    (step : ∀ k v t, (k, v) ∈ entries → (store t).lookup k = some v → P t → P (body k v t))
    (hs : Snapshot (store s) entries) (h : P s) : P (forEach body entries s) := by
  induction entries generalizing s with
  | nil => exact h
  | cons e entries ih =>
    obtain ⟨k, v⟩ := e
    have hlookup : (store s).lookup k = some v := hs.lookup (k, v) List.mem_cons_self
    have hnext : P (body k v s) := step k v s List.mem_cons_self hlookup h
    exact ih (fun j w t hmem => step j w t (List.mem_cons_of_mem _ hmem))
      (own.snapshot_tail hs) hnext

omit [DecidableEq κ] in
/-- What only the iteration at one key can change, a loop that does not meet
the key leaves alone. -/
theorem forEach_observe_of_notMem {α : Type} {f : σ → α} {k : κ}
    (other : ∀ j v s, j ≠ k → f (body j v s) = f s) {entries : List (κ × ν)} {s : σ}
    (hk : k ∉ entries.map Prod.fst) : f (forEach body entries s) = f s := by
  induction entries generalizing s with
  | nil => rfl
  | cons e entries ih =>
    rw [List.map_cons, List.mem_cons, not_or] at hk
    exact (ih (s := body e.1 e.2 s) hk.2).trans (other e.1 e.2 s (Ne.symm hk.1))

/-- The state in which a loop reaches a key. -/
def reach (body : κ → ν → σ → σ) (entries : List (κ × ν)) (k : κ) (s : σ) : σ :=
  forEach body (entries.takeWhile fun e => e.1 ≠ k) s

/-- The entries of a snapshot, cut at one of them. -/
theorem Snapshot.split {m : Map κ ν} {entries : List (κ × ν)} (hs : Snapshot m entries) {k : κ}
    {v : ν} (hmem : (k, v) ∈ entries) :
    ∃ rest, entries = (entries.takeWhile fun e => e.1 ≠ k) ++ (k, v) :: rest ∧
      k ∉ (entries.takeWhile fun e => e.1 ≠ k).map Prod.fst ∧ k ∉ rest.map Prod.fst := by
  have hnodup := hs.nodup
  clear hs
  induction entries with
  | nil => cases hmem
  | cons e entries ih =>
    obtain ⟨hhead, htail⟩ := List.nodup_cons.mp hnodup
    rcases List.mem_cons.mp hmem with rfl | hmem
    · exact ⟨entries, by simp, by simp, hhead⟩
    · have hne : e.1 ≠ k := by
        intro heq
        exact hhead (heq ▸ List.mem_map_of_mem (f := Prod.fst) hmem)
      obtain ⟨rest, hsplit, hbefore, hafter⟩ := ih hmem htail
      have htake : (e :: entries).takeWhile (fun e => e.1 ≠ k) =
          e :: entries.takeWhile fun e => e.1 ≠ k :=
        List.takeWhile_cons_of_pos (decide_eq_true hne)
      rw [htake]
      refine ⟨rest, ?_, ?_, hafter⟩
      · rw [List.cons_append, ← hsplit]
      · rw [List.map_cons, List.mem_cons, not_or]
        exact ⟨hne.symm, hbefore⟩

/-- What only the iteration at one key can change, a loop that meets the key
changes there and nowhere else. -/
theorem forEach_observe_of_mem {α : Type} {f : σ → α} {k : κ}
    (other : ∀ j v s, j ≠ k → f (body j v s) = f s) {m : Map κ ν} {entries : List (κ × ν)}
    {s : σ} (hs : Snapshot m entries) {v : ν} (hmem : (k, v) ∈ entries) :
    f (reach body entries k s) = f s ∧
      f (forEach body entries s) = f (body k v (reach body entries k s)) := by
  obtain ⟨rest, hsplit, hbefore, hafter⟩ := hs.split hmem
  constructor
  · exact forEach_observe_of_notMem other hbefore
  · have hrun : forEach body entries s =
        forEach body rest (body k v (reach body entries k s)) := by
      conv_lhs => rw [hsplit]
      exact List.foldl_append
    rw [hrun, forEach_observe_of_notMem other hafter]

section Order

variable {P : σ → Prop} {entries others : List (κ × ν)} {s : σ}

/-- What a loop writes at a key that it meets. -/
theorem forEach_lookup (own : OwnKeyOnly store body) {out : κ → ν → ν}
    (step : ∀ k v t, (store t).lookup k = some v → P t →
      P (body k v t) ∧ (store (body k v t)).lookup k = some (out k v))
    (hs : Snapshot (store s) entries) (h : P s) {k : κ} {v : ν} (hmem : (k, v) ∈ entries) :
    (store (forEach body entries s)).lookup k = some (out k v) := by
  obtain ⟨hreach, hfinal⟩ := forEach_observe_of_mem (f := fun t => (store t).lookup k) (s := s)
    (fun j w t hne => own j w t k hne.symm) hs hmem
  have hprefix : Snapshot (store s) (entries.takeWhile fun e => e.1 ≠ k) :=
    hs.sublist (List.takeWhile_sublist _)
  have hP : P (reach body entries k s) :=
    forEach_invariant own (fun j w t _ hlookup ht => (step j w t hlookup ht).1) hprefix h
  exact hfinal.trans (step k v _ (hreach.trans (hs.lookup (k, v) hmem)) hP).2

/-- What the iterations of a loop add up to. -/
theorem forEach_sum {M : Type} [AddCommMonoid M] (own : OwnKeyOnly store body) {f : σ → M}
    {weight : κ → ν → M}
    (step : ∀ k v t, (store t).lookup k = some v → P t →
      P (body k v t) ∧ f (body k v t) = f t + weight k v)
    (hs : Snapshot (store s) entries) (h : P s) :
    f (forEach body entries s) = f s + (entries.map fun e => weight e.1 e.2).sum := by
  induction entries generalizing s with
  | nil => exact (add_zero _).symm
  | cons e entries ih =>
    obtain ⟨k, v⟩ := e
    obtain ⟨hnext, hadd⟩ := step k v s (hs.lookup (k, v) List.mem_cons_self) h
    have hrest := ih (own.snapshot_tail hs) hnext
    rw [List.map_cons, List.sum_cons, ← add_assoc, ← hadd]
    exact hrest

/-- A loop whose iterations write what the entry alone determines leaves the
same map in whatever order it meets the entries. -/
theorem forEach_store_eq (own : OwnKeyOnly store body) {out : κ → ν → ν}
    (step : ∀ k v t, (store t).lookup k = some v → P t →
      P (body k v t) ∧ (store (body k v t)).lookup k = some (out k v))
    (hs : Enumeration (store s) entries) (hs' : Enumeration (store s) others) (h : P s) :
    store (forEach body entries s) = store (forEach body others s) := by
  refine Finmap.ext_lookup fun k => ?_
  cases hstored : (store s).lookup k with
  | some v =>
    rw [forEach_lookup own step hs.toSnapshot h (hs.complete k v hstored),
      forEach_lookup own step hs'.toSnapshot h (hs'.complete k v hstored)]
  | none =>
    have hother : ∀ j w (t : σ), j ≠ k → (store (body j w t)).lookup k = (store t).lookup k :=
      fun j w t hne => own j w t k hne.symm
    have habsent : ∀ list : List (κ × ν), Snapshot (store s) list → k ∉ list.map Prod.fst := by
      intro list hlist hmem
      obtain ⟨⟨_, w⟩, hentry, rfl⟩ := List.mem_map.mp hmem
      cases hstored.symm.trans (hlist.lookup _ hentry)
    have hleft := forEach_observe_of_notMem (f := fun t => (store t).lookup k) (s := s) hother
      (habsent entries hs.toSnapshot)
    have hright := forEach_observe_of_notMem (f := fun t => (store t).lookup k) (s := s) hother
      (habsent others hs'.toSnapshot)
    exact hleft.trans hright.symm

/-- A loop whose iterations add what the entry alone determines adds up to the
same in whatever order it meets the entries. -/
theorem forEach_sum_eq {M : Type} [AddCommMonoid M] (own : OwnKeyOnly store body) {f : σ → M}
    {weight : κ → ν → M}
    (step : ∀ k v t, (store t).lookup k = some v → P t →
      P (body k v t) ∧ f (body k v t) = f t + weight k v)
    (hs : Enumeration (store s) entries) (hs' : Enumeration (store s) others) (h : P s) :
    f (forEach body entries s) = f (forEach body others s) := by
  rw [forEach_sum own step hs.toSnapshot h, forEach_sum own step hs'.toSnapshot h,
    ((hs.perm hs').map _).sum_eq]

end Order

end Loop

end

end Storage
