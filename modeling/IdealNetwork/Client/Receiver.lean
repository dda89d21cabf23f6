import IdealNetwork.Lib.Fifo
import IdealNetwork.Client.Gadget

/-!
# The receiver's queue

`DrandReceiver` keeps its pulses behind a lock. Its task takes the lock to
append one that came in, and whoever has a clone of the receiver takes it to
consume some. Each holds it until the access is done, so however the tasks are
scheduled, the queue sees one access after another.

It is a bounded queue (`access_eq`), and every schedule has a history
(`receiver_fifo`).
-/

set_option autoImplicit false

namespace IdealNetwork.Client

open Fifo (Access arrivals number)

namespace DrandReceiver

/-- One access under the lock: the task's, with a pulse, or a consumer's. -/
def access (N : ℕ) : Access CanonicalPulse → List CanonicalPulse → List CanonicalPulse
  | .arrive pulse, pulses => push N pulses pulse
  | .take n, pulses => (consume n pulses).2

/-- The batch it returns. -/
def batch : Access CanonicalPulse → List CanonicalPulse → List CanonicalPulse
  | .arrive _, _ => []
  | .take n, pulses => (consume n pulses).1

theorem access_eq (N : ℕ) : access N = Fifo.step N := by
  funext request pulses
  cases request with
  | arrive pulse => rfl
  | take n => rw [access, consume_eq, Fifo.step]

theorem batch_eq : batch = Fifo.taken := by
  funext request pulses
  cases request with
  | arrive pulse => rfl
  | take n => rw [batch, consume_eq, Fifo.taken]

end DrandReceiver

/-- THE RECEIVER IS A BOUNDED QUEUE, under every schedule of arrivals and
consumers. It holds at most `N` pulses, the latest arrivals. What was consumed
came in that order. `consume` returns what there is of what it is asked for,
from the front.

With the arrivals numbered, what is gone comes before what is queued. Of what is
gone, numbers consumed only ever grow, so that nothing is consumed twice, and a
number that was not consumed had `N` arrivals after it. -/
theorem receiver_fifo (N : ℕ) (hN : 1 ≤ N) (accesses : List (Access CanonicalPulse)) :
    let pulses := Runs.run (DrandReceiver.access N) accesses []
    let consumed := Runs.outputs (DrandReceiver.access N) DrandReceiver.batch accesses []
    let numbered := Runs.run (Fifo.step N) (number 0 accesses) []
    let numberedConsumed := Runs.outputs (Fifo.step N) Fifo.taken (number 0 accesses) []
    pulses.length ≤ N ∧ pulses <:+ arrivals accesses ∧ consumed.Sublist (arrivals accesses) ∧
      (∀ n, DrandReceiver.consume n pulses = (pulses.take n, pulses.drop n) ∧
        (DrandReceiver.consume n pulses).1.length = min n pulses.length) ∧
      numbered.map Prod.fst = pulses ∧ numberedConsumed.map Prod.fst = consumed ∧
      (numberedConsumed.map Prod.snd).Pairwise (· < ·) ∧
      ∃ gone, (arrivals accesses).zipIdx = gone ++ numbered ∧ numberedConsumed.Sublist gone ∧
        ∀ entry ∈ gone, entry ∉ numberedConsumed → entry.2 + N < (arrivals accesses).length := by
  rw [DrandReceiver.access_eq, DrandReceiver.batch_eq]
  intro pulses consumed numbered numberedConsumed
  obtain ⟨gone, h⟩ := Fifo.history hN accesses
  obtain ⟨goneNumbered, hnumbered⟩ := Fifo.history hN (number 0 accesses)
  rw [Fifo.arrivals_number] at hnumbered
  refine ⟨h.bound, ?_, h.taken_sublist, ?_, Fifo.run_number N accesses,
    Fifo.outputs_number N accesses, hnumbered.pairwise_number, goneNumbered, hnumbered.order,
    hnumbered.sublist, ?_⟩
  · rw [h.order]
    exact List.suffix_append _ _
  · intro n
    rw [DrandReceiver.consume_eq]
    exact ⟨rfl, List.length_take⟩
  · intro entry hgone hconsumed
    exact hnumbered.overrun_number hgone hconsumed

/-- Two pulses at a receiver for one, which is then asked for five. -/
def overrunSample : List (Access CanonicalPulse) :=
  [.arrive ⟨1, Vector.replicate 48 0⟩, .arrive ⟨2, Vector.replicate 48 0⟩, .take 5]

/-- It returns the second. The first is gone, and had one after it. -/
theorem receiver_fifo_overrun :
    Runs.outputs (DrandReceiver.access 1) DrandReceiver.batch overrunSample [] =
        [⟨2, Vector.replicate 48 0⟩] ∧
      (Runs.run (DrandReceiver.access 1) overrunSample []).length ≤ 1 :=
  ⟨by decide, (receiver_fifo 1 le_rfl overrunSample).1⟩

end IdealNetwork.Client
