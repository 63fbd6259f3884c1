import Mathlib.Algebra.Order.Group.Multiset
import Voip.Client.JitterBuffer

namespace voip_client.pipeline

open voip_client.moq machine queue

namespace AudioPipeline

/-- All datagrams that were accepted in a run. -/
def accepted (self : AudioPipeline) (calls : List Call) : Multiset MoqDatagram :=
  ((moments step self calls).map fun moment => (moment.1.accepts moment.2 : Multiset MoqDatagram)).sum

/-- No call loses a datagram or plays one that is not buffered. -/
theorem step_balance (self : AudioPipeline) (call : Call) :
    (self.accepts call : Multiset MoqDatagram) + (self.jitter_buffer : Multiset MoqDatagram) =
      ((self.step call).1.played : Multiset MoqDatagram) +
        ((self.step call).2.jitter_buffer : Multiset MoqDatagram) := by
  simp only [Multiset.coe_add]
  obtain ⟨datagram, rfl, hnew, hplayed, hbuffer⟩ | ⟨hnone, hbuffer⟩ := step_cases self call
  · rw [hplayed, hbuffer, accepts_of_new hnew]
    exact Multiset.coe_eq_coe.mpr (insert_perm ..).symm
  · rw [hbuffer, hnone, List.nil_append]

/-- No call puts the buffer out of order. -/
theorem step_ascending {self : AudioPipeline} {call : Call} (horder : Ascending number self.jitter_buffer) :
    Ascending number (self.step call).2.jitter_buffer := by
  obtain ⟨datagram, rfl, hnew, -, hbuffer⟩ | ⟨-, hbuffer⟩ := step_cases self call
  · rw [hbuffer]
    exact horder.insert hnew
  · rw [← hbuffer] at horder
    exact (List.pairwise_append.mp horder).2.1

end AudioPipeline

open AudioPipeline

theorem coe_played (past : List (Call × Answer)) :
    (played past : Multiset MoqDatagram) =
      (past.map fun entry => (entry.2.played : Multiset MoqDatagram)).sum := by
  induction past with
  | nil => rfl
  | cons entry past ih => rw [List.map_cons, List.sum_cons, ← ih, Multiset.coe_add]; rfl

/-- What is accepted in a run is played or stays in the buffer. -/
theorem accepted_add_jitter_buffer (self : AudioPipeline) (calls : List Call) :
    self.accepted calls + (self.jitter_buffer : Multiset MoqDatagram) =
      (played (history AudioPipeline.step self calls) : Multiset MoqDatagram) +
        ((final AudioPipeline.step self calls).jitter_buffer : Multiset MoqDatagram) := by
  rw [coe_played]
  exact balance (fun (pipeline : AudioPipeline) call => (pipeline.accepts call : Multiset MoqDatagram))
    (fun answer : Answer => (answer.played : Multiset MoqDatagram))
    (fun pipeline => (pipeline.jitter_buffer : Multiset MoqDatagram)) step_balance self calls

/-- In every run the buffer is in the order of the sequence numbers, a drain takes its front away,
and what was accepted is what has been played and what is still buffered. -/
theorem jitter_buffer_conserved (frame_size : Nat) (local_alias : UInt32) (calls : List Call) :
    Ascending number (final AudioPipeline.step (.new frame_size local_alias) calls).jitter_buffer ∧
      (final AudioPipeline.step (.new frame_size local_alias) calls).drain_buffer.1 ++
          (final AudioPipeline.step (.new frame_size local_alias) calls).drain_buffer.2.jitter_buffer =
        (final AudioPipeline.step (.new frame_size local_alias) calls).jitter_buffer ∧
      (AudioPipeline.new frame_size local_alias).accepted calls =
        (played (history AudioPipeline.step (.new frame_size local_alias) calls) : Multiset MoqDatagram) +
          ((final AudioPipeline.step (.new frame_size local_alias) calls).jitter_buffer : Multiset MoqDatagram) := by
  refine ⟨?_, drain_buffer_append _, ?_⟩
  · have hinit : Ascending number (AudioPipeline.new frame_size local_alias).jitter_buffer := List.Pairwise.nil
    exact invariant (I := fun _ (pipeline : AudioPipeline) => Ascending number pipeline.jitter_buffer)
      (fun past pipeline call => step_ascending) hinit calls
  · rw [← accepted_add_jitter_buffer]
    exact (add_zero _).symm

end voip_client.pipeline
