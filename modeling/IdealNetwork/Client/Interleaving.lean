import IdealNetwork.Client.Worker
import IdealNetwork.Lib.Runs
import IdealNetwork.Lib.Slot

/-!
# Concurrent submissions

Any number of calls of `submit_pulse` on one worker, in any order of their
steps. A call is cut where it lets go of the lock on the slot and where it
calls out of the worker: reading the key, the check of the slot, signing,
building the extrinsic, the pool, and emptying the slot after the pool
refused. Taken one after another without a step of another call between
them, the steps are `submitPulse` (`advance_submitPulse`).

While best block numbers do not go down, at most one extrinsic is accepted
for each of them if a call that empties the slot finds its own mark there, or
nothing. A slow call may find the mark of a later one: it then lets in a
second call at that later block.
-/

set_option autoImplicit false

namespace IdealNetwork.Client

open Scale Storage

/-! ## The steps of a call -/

/-- The arguments of a call. -/
structure Args where
  asig : Bytes
  start : RoundNumber
  «end» : RoundNumber

/-- How far a call is, with what it still needs. From the check of the slot on
it keeps the best block it read there. -/
inductive Stage (Hash : Type) where
  | started (args : Args)
  | keyed (args : Args) (authorityId : Vector UInt8 32)
  | marked (args : Args) (authorityId : Vector UInt8 32) (read : Info Hash)
  | signed (args : Args) (read : Info Hash) (signature : Bytes)
  | built (read : Info Hash) (extrinsic : Extrinsic)
  | refused (read : Info Hash)
  | returned (result : Except GadgetError Hash)

section

variable {Hash : Type} (node : Node Hash) (info : Info Hash)

/-- The next step of a call. -/
def Stage.advance : Stage Hash → PulseWorker → Stage Hash × PulseWorker
  | .started args, w =>
    match node.publicKeys.head? with
    | some authorityId => (.keyed args authorityId, w)
    | none => (.returned (.error .noAuthorityKeys), w)
  | .keyed args authorityId, w =>
    -- the slot is locked from here to the end of the step
    if w.lastSubmittedBlock = some info.bestNumber then
      (.returned (.ok info.bestHash), w)
    else
      (.marked args authorityId info, { w with lastSubmittedBlock := some info.bestNumber })
  | .marked args authorityId read, w =>
    match node.sign authorityId (payload args.asig args.start args.end) with
    | .ok signature => (.signed args read signature, w)
    | .error e => (.returned (.error e), w)
  | .signed args read signature, w =>
    match node.buildExtrinsic read.bestHash args.asig args.start args.end signature with
    | .ok extrinsic => (.built read extrinsic, w)
    | .error message => (.returned (.error (.runtimeApiError message)), w)
  | .built read extrinsic, w =>
    match node.submitOne read.bestHash extrinsic with
    | some _ => (.returned (.ok read.bestHash),
        { w with accepted := w.accepted ++ [⟨read.bestNumber, extrinsic⟩] })
    | none => (.refused read, w)
  | .refused _, w =>
    -- whatever is in the slot
    (.returned (.error .transactionSubmissionFailed), { w with lastSubmittedBlock := none })
  | .returned result, w => (.returned result, w)

/-- Several steps with none of another call between them. -/
def Stage.advanceBy : ℕ → Stage Hash → PulseWorker → Stage Hash × PulseWorker
  | 0, stage, w => (stage, w)
  | steps + 1, stage, w =>
    (stage.advance node info w).1.advanceBy steps (stage.advance node info w).2

variable {node info} {args : Args} {authorityId : Vector UInt8 32} {read : Info Hash}

/-- Two steps take a call past the check of the slot. -/
theorem Stage.advance_started (steps : ℕ) {w : PulseWorker}
    (keys : node.publicKeys.head? = some authorityId)
    (mark : w.lastSubmittedBlock ≠ some info.bestNumber) :
    (Stage.started args).advanceBy node info (steps + 2) w =
      (Stage.marked args authorityId info).advanceBy node info steps
        { w with lastSubmittedBlock := some info.bestNumber } := by
  simp only [advanceBy, advance, keys, if_neg mark]

/-- Signing and building take two steps. -/
theorem Stage.advance_constructed {extrinsic : Extrinsic} (steps : ℕ) (w : PulseWorker)
    (h : node.construct authorityId read.bestHash args.asig args.start args.end = .ok extrinsic) :
    (Stage.marked args authorityId read).advanceBy node info (steps + 2) w =
      (Stage.built read extrinsic).advanceBy node info steps w := by
  obtain ⟨signature, hsign, hbuild⟩ := except_bind_ok.mp h
  simp only [advanceBy, advance, hsign, except_mapError_ok.mp hbuild]

/-- A call that has returned stays so. -/
theorem Stage.advance_returned (result : Except GadgetError Hash) (steps : ℕ) (w : PulseWorker) :
    (Stage.returned result).advanceBy node info steps w = (.returned result, w) := by
  induction steps with
  | zero => rfl
  | succ steps ih => simp only [advanceBy, advance, ih]

theorem Stage.advance_unconstructed {e : GadgetError} (steps : ℕ) (w : PulseWorker)
    (h : node.construct authorityId read.bestHash args.asig args.start args.end = .error e) :
    (Stage.marked args authorityId read).advanceBy node info (steps + 2) w =
      (.returned (.error e), w) := by
  unfold Node.construct at h
  cases hsign : node.sign authorityId (payload args.asig args.start args.end) with
  | error e' =>
    rw [hsign] at h
    cases h
    simp only [advanceBy, advance, hsign, advance_returned]
  | ok signature =>
    rw [hsign] at h
    cases hbuild : node.buildExtrinsic read.bestHash args.asig args.start args.end signature with
    | ok extrinsic =>
      simp only [bind, Except.bind, hbuild] at h
      cases h
    | error message =>
      simp only [bind, Except.bind, hbuild] at h
      cases h
      simp only [advanceBy, advance, hsign, hbuild, advance_returned]

variable (node info)

/-- The steps of a call that runs alone are `submit_pulse`. -/
theorem advance_submitPulse (args : Args) (w : PulseWorker) :
    (Stage.started args).advanceBy node info 6 w =
      (.returned (submitPulse node info args.asig args.start args.end w).1,
        (submitPulse node info args.asig args.start args.end w).2) := by
  have houtcome := submitPulse_outcome node info args.asig args.start args.end w
  generalize submitPulse node info args.asig args.start args.end w = result at houtcome
  cases houtcome with
  | keyless keys => simp only [Stage.advanceBy, Stage.advance, keys]
  | skipped keys mark => simp only [Stage.advanceBy, Stage.advance, keys, if_pos mark]
  | unconstructed keys mark construct =>
    rw [Stage.advance_started 4 keys mark, Stage.advance_unconstructed 2 _ construct]
  | refused keys mark construct pool =>
    rw [Stage.advance_started 4 keys mark, Stage.advance_constructed 2 _ construct]
    simp only [Stage.advanceBy, Stage.advance, pool]
  | accepted keys mark construct pool =>
    rw [Stage.advance_started 4 keys mark, Stage.advance_constructed 2 _ construct]
    simp only [Stage.advanceBy, Stage.advance, pool]

end

/-! ## The system -/

/-- The best block of the chain, what the calls share, and the calls. Calls
are numbered; one that has no stage was not made yet. -/
structure System (Hash : Type) where
  info : Info Hash
  worker : PulseWorker
  calls : ℕ → Option (Stage Hash)

/-- A new worker, at some best block. -/
def System.new {Hash : Type} (info : Info Hash) : System Hash := ⟨info, PulseWorker.new, fun _ => none⟩

inductive Event (Hash : Type) where
  | newBest (info : Info Hash)
  | submit (call : ℕ) (args : Args)
  | advance (call : ℕ) (node : Node Hash)

variable {Hash : Type}

/-- One event. A step of a call that was not made, or making a call twice, is
no event. -/
def System.step (event : Event Hash) (s : System Hash) : System Hash :=
  match event with
  | .newBest info => { s with info }
  | .submit call args =>
    match s.calls call with
    | none => { s with calls := Function.update s.calls call (some (.started args)) }
    | some _ => s
  | .advance call node =>
    match s.calls call with
    | none => s
    | some stage =>
      { s with
        worker := (stage.advance node s.info s.worker).2
        calls := Function.update s.calls call (some (stage.advance node s.info s.worker).1) }

/-- Best block numbers do not go down. -/
def NonDecreasing : Event Hash → System Hash → Prop
  | .newBest info, s => s.info.bestNumber ≤ info.bestNumber
  | _, _ => True

/-- If the next step of a call empties the slot, then it finds nothing there or
the number of the block the call read itself. -/
def OwnMark (slot : Option BlockNumber) : Option (Stage Hash) → Prop
  | some (.refused read) => slot = none ∨ slot = some read.bestNumber
  | _ => True

/-- A call only takes its own mark out of the slot. -/
def ResetsOwnMark : Event Hash → System Hash → Prop
  | .advance call _, s => OwnMark s.worker.lastSubmittedBlock (s.calls call)
  | _, _ => True

/-! ## At most one extrinsic for each best block -/

/-- The number a call has put in the slot and has not come to an end with. -/
def Stage.block : Stage Hash → Option BlockNumber
  | .marked _ _ read => some read.bestNumber
  | .signed _ read _ => some read.bestNumber
  | .built read _ => some read.bestNumber
  | .refused read => some read.bestNumber
  | _ => none

/-- The calls as holders of best block numbers. -/
def System.view (s : System Hash) : Slot.State ℕ ℕ where
  now := s.info.bestNumber.toNat
  slot := s.worker.lastSubmittedBlock.map UInt32.toNat
  held call := ((s.calls call).bind Stage.block).map UInt32.toNat
  finished := s.worker.accepted.map fun submission => submission.block.toNat

theorem exclusive_new (info : Info Hash) : Slot.Exclusive (System.new info).view where
  once := List.nodup_nil
  alone := nofun
  unfinished := nofun
  shown := by
    rintro e (⟨i, hi⟩ | hmem)
    · cases hi
    · cases hmem

/-- What a step of a call does, to the number it holds and to the worker. -/
inductive Advanced (info : Info Hash) (stage : Stage Hash) (w : PulseWorker) :
    Stage Hash → PulseWorker → Prop
  | kept {next : Stage Hash} (same : next.block = stage.block) : Advanced info stage w next w
  | dropped {next : Stage Hash} (ended : next.block = none) : Advanced info stage w next w
  | marked {next : Stage Hash} (free : w.lastSubmittedBlock ≠ some info.bestNumber)
      (mark : next.block = some info.bestNumber) :
      Advanced info stage w next { w with lastSubmittedBlock := some info.bestNumber }
  | accepted {next : Stage Hash} {extrinsic : Extrinsic} {number : BlockNumber}
      (mark : stage.block = some number) (ended : next.block = none) :
      Advanced info stage w next { w with accepted := w.accepted ++ [⟨number, extrinsic⟩] }
  | reset {next : Stage Hash} {read : Info Hash} (refused : stage = .refused read)
      (ended : next.block = none) :
      Advanced info stage w next { w with lastSubmittedBlock := none }

theorem Stage.advanced (node : Node Hash) (info : Info Hash) (stage : Stage Hash)
    (w : PulseWorker) :
    Advanced info stage w (stage.advance node info w).1 (stage.advance node info w).2 := by
  cases stage with
  | started args =>
    simp only [advance]
    split
    next => exact .kept rfl
    next => exact .kept rfl
  | keyed args authorityId =>
    simp only [advance]
    split
    next => exact .kept rfl
    next free => exact .marked free rfl
  | marked args authorityId read =>
    simp only [advance]
    split
    next => exact .kept rfl
    next => exact .dropped rfl
  | signed args read signature =>
    simp only [advance]
    split
    next => exact .kept rfl
    next => exact .dropped rfl
  | built read extrinsic =>
    simp only [advance]
    split
    next => exact .accepted rfl rfl
    next => exact .kept rfl
  | refused read => exact .reset rfl rfl
  | returned result => exact .kept rfl

/-- The view when a call goes to its next stage. -/
theorem System.view_advance (s : System Hash) (call : ℕ) (next : Stage Hash) (w : PulseWorker) :
    (⟨s.info, w, Function.update s.calls call (some next)⟩ : System Hash).view =
      ⟨s.view.now, w.lastSubmittedBlock.map UInt32.toNat,
        Function.update s.view.held call (next.block.map UInt32.toNat),
        w.accepted.map fun submission => submission.block.toNat⟩ := by
  have hheld : (fun other => ((Function.update s.calls call (some next) other).bind
        Stage.block).map UInt32.toNat) =
      Function.update s.view.held call (next.block.map UInt32.toNat) := by
    funext other
    by_cases hother : other = call
    · subst hother
      rw [Function.update_self, Function.update_self, Option.bind_some]
    · rw [Function.update_of_ne hother, Function.update_of_ne hother]
      rfl
  simp only [view, hheld]

/-- The slot shows a number of the view only if it holds that number. -/
theorem lastSubmittedBlock_eq_some {slot : Option BlockNumber} {number : BlockNumber}
    (h : slot.map UInt32.toNat = some number.toNat) : slot = some number := by
  obtain ⟨shown, hshown, heq⟩ := Option.map_eq_some_iff.mp h
  rw [hshown, UInt32.toNat_inj.mp heq]

/-- The number a call holds in the view. -/
theorem System.held_eq {s : System Hash} {call : ℕ} {stage : Stage Hash}
    (h : s.calls call = some stage) : s.view.held call = stage.block.map UInt32.toNat := by
  show ((s.calls call).bind Stage.block).map UInt32.toNat = _
  rw [h, Option.bind_some]

/-- A call that goes to a stage with the same number changes nothing in the
view. -/
theorem System.view_advance_same {s : System Hash} {call : ℕ} {next : Stage Hash}
    (h : s.view.held call = next.block.map UInt32.toNat) :
    (⟨s.info, s.worker, Function.update s.calls call (some next)⟩ : System Hash).view = s.view := by
  rw [view_advance, ← h, Function.update_eq_self]
  rfl

theorem System.advance_view {s : System Hash} {call : ℕ} {stage next : Stage Hash} {w : PulseWorker}
    (hcall : s.calls call = some stage) (h : Advanced s.info stage s.worker next w)
    (hown : ∀ read, stage = .refused read → s.worker.lastSubmittedBlock = none ∨
      s.worker.lastSubmittedBlock = some read.bestNumber) :
    Slot.Step s.view (⟨s.info, w, Function.update s.calls call (some next)⟩ : System Hash).view := by
  have hheld := held_eq hcall
  cases h with
  | kept same =>
    rw [view_advance_same (by rw [hheld, same])]
    exact .stay
  | dropped ended =>
    rw [view_advance, ended]
    exact .drop call
  | marked free mark =>
    rw [view_advance, mark]
    exact .take call fun hslot => free (lastSubmittedBlock_eq_some hslot)
  | accepted mark ended =>
    rw [view_advance, ended, List.map_append]
    rw [mark] at hheld
    exact .finish call hheld
  | @reset read refused ended =>
    rw [view_advance, ended]
    rw [refused] at hheld
    refine .release call hheld ((hown read refused).imp ?_ ?_)
    · intro hnone
      exact Option.map_eq_none_iff.mpr hnone
    · intro hsome
      exact congrArg (Option.map UInt32.toNat) hsome

/-- Every event is a step of the holders. -/
theorem System.step_view (event : Event Hash) (s : System Hash) (hbest : NonDecreasing event s)
    (hown : ResetsOwnMark event s) : Slot.Step s.view (step event s).view := by
  cases event with
  | newBest info => exact .tick (UInt32.le_iff_toNat_le.mp hbest)
  | submit call args =>
    simp only [step]
    split
    next hcall =>
      have hnone : s.view.held call = (Stage.started args : Stage Hash).block.map UInt32.toNat := by
        show ((s.calls call).bind Stage.block).map UInt32.toNat = none
        rw [hcall]
        rfl
      rw [view_advance_same hnone]
      exact .stay
    next => exact .stay
  | advance call node =>
    cases hcall : s.calls call with
    | none =>
      simp only [step, hcall]
      exact .stay
    | some stage =>
      simp only [step, hcall]
      refine advance_view hcall (stage.advanced node s.info s.worker) ?_
      rintro read rfl
      have hmark : OwnMark s.worker.lastSubmittedBlock (s.calls call) := hown
      rw [hcall] at hmark
      exact hmark

/-- At most one extrinsic is accepted among the calls that read one best block
number, in every interleaving in which a call that empties the slot finds its
own mark there or nothing. -/
theorem one_submission_per_block (info : Info Hash) (events : List (Event Hash))
    (hbest : Runs.Along System.step NonDecreasing events (System.new info))
    (hown : Runs.Along System.step ResetsOwnMark events (System.new info)) :
    ((Runs.run System.step events (System.new info)).worker.accepted.map
      Submission.block).Nodup := by
  have hexclusive := Runs.run_invariant_along (P := fun s => Slot.Exclusive s.view) System.step
    (exclusive_new info) (Runs.along_and _ hbest hown)
    fun event _ s hcond hs => (System.step_view event s hcond.1 hcond.2).exclusive hs
  refine List.Nodup.of_map UInt32.toNat ?_
  rw [List.map_map]
  exact hexclusive.once

instance (event : Event Hash) (s : System Hash) : Decidable (NonDecreasing event s) :=
  match event with
  | .newBest info => inferInstanceAs (Decidable (s.info.bestNumber ≤ info.bestNumber))
  | .submit _ _ => .isTrue trivial
  | .advance _ _ => .isTrue trivial

instance (slot : Option BlockNumber) (stage : Option (Stage Hash)) :
    Decidable (OwnMark slot stage) :=
  match stage with
  | some (.refused _) => inferInstanceAs (Decidable (_ ∨ _))
  | some (.started _) => .isTrue trivial
  | some (.keyed _ _) => .isTrue trivial
  | some (.marked _ _ _) => .isTrue trivial
  | some (.signed _ _ _) => .isTrue trivial
  | some (.built _ _) => .isTrue trivial
  | some (.returned _) => .isTrue trivial
  | none => .isTrue trivial

instance (event : Event Hash) (s : System Hash) : Decidable (ResetsOwnMark event s) :=
  match event with
  | .newBest _ => .isTrue trivial
  | .submit _ _ => .isTrue trivial
  | .advance call _ => inferInstanceAs (Decidable (OwnMark _ (s.calls call)))

/-- Some steps of a call. -/
def steps (count call : ℕ) (accepts : Bool) : List (Event Unit) :=
  List.replicate count (.advance call (sampleNode accepts))

def sampleArgs : Args := ⟨List.replicate 48 0, 100, 100⟩

/-- A call that the pool refuses empties the slot, and another call goes
through at the same block. -/
def refusedThenAccepted : List (Event Unit) :=
  [.submit 0 sampleArgs, .submit 1 sampleArgs] ++ steps 6 0 false ++ steps 5 1 true

theorem one_submission_refusedThenAccepted :
    ((Runs.run System.step refusedThenAccepted (System.new ⟨7, ()⟩)).worker.accepted.map
      Submission.block).Nodup := by
  have hbest : Runs.Along System.step NonDecreasing refusedThenAccepted (System.new ⟨7, ()⟩) := by
    decide +kernel
  have hown : Runs.Along System.step ResetsOwnMark refusedThenAccepted (System.new ⟨7, ()⟩) := by
    decide +kernel
  exact one_submission_per_block ⟨7, ()⟩ refusedThenAccepted hbest hown

/-- Call 0 marks block 7 and is slow. Call 1 marks block 8 and is accepted.
The pool then refuses call 0, which empties the slot, and call 2 is accepted
at block 8 again. -/
def slowThenRefused : List (Event Unit) :=
  [.submit 0 sampleArgs, .submit 1 sampleArgs, .submit 2 sampleArgs] ++ steps 2 0 false ++
    [.newBest ⟨8, ()⟩] ++ steps 5 1 true ++ steps 4 0 false ++ steps 5 2 true

theorem two_submissions_slowThenRefused :
    Runs.Along System.step NonDecreasing slowThenRefused (System.new ⟨7, ()⟩) ∧
      ¬ ((Runs.run System.step slowThenRefused (System.new ⟨7, ()⟩)).worker.accepted.map
        Submission.block).Nodup := by
  decide +kernel

end IdealNetwork.Client
