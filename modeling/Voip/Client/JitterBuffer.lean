import Voip.Client.Pipeline

namespace voip_client.pipeline

open voip_client.moq machine queue

/-- Datagrams are ordered by their sequence numbers. -/
def number (datagram : MoqDatagram) : Nat := datagram.sequence.toNat

@[simp] theorem played_nil : played [] = [] := rfl

@[simp] theorem played_append (past : List (Call × Answer)) (call : Call) (answer : Answer) :
    played (past ++ [(call, answer)]) = played past ++ answer.played := by
  simp [played]

namespace AudioPipeline

variable {self : AudioPipeline} {datagram : MoqDatagram}

theorem buffer_incoming_of_mem (hmem : ∃ d ∈ self.jitter_buffer, number d = number datagram) :
    self.buffer_incoming datagram = self := by
  obtain ⟨d, hd, hnumber⟩ := hmem
  refine if_pos (List.any_eq_true.mpr ⟨d, hd, ?_⟩)
  exact decide_eq_true (UInt64.toNat_inj.mp hnumber)

/-- A datagram that is no duplicate is buffered in the order of the sequence numbers. -/
theorem buffer_incoming_of_new (hnew : ∀ d ∈ self.jitter_buffer, number d ≠ number datagram) :
    self.buffer_incoming datagram =
      { self with jitter_buffer := queue.insert number datagram self.jitter_buffer } := by
  have hnone : ¬self.jitter_buffer.any (fun d => d.sequence = datagram.sequence) = true := by
    rw [List.any_eq_true]
    rintro ⟨d, hd, hsame⟩
    exact hnew d hd (congrArg UInt64.toNat (of_decide_eq_true hsame))
  exact if_neg hnone

/-- The loop takes the front of the buffer away. -/
theorem drain_loop_append (now_ts jitter_target_samples : UInt64) (last_playback_ts : Option UInt64)
    (buffer : List MoqDatagram) :
    (drain_loop now_ts jitter_target_samples last_playback_ts buffer).1 ++
      (drain_loop now_ts jitter_target_samples last_playback_ts buffer).2 = buffer := by
  induction buffer with
  | nil => rfl
  | cons front buffer ih =>
    rw [drain_loop]
    split
    · exact congrArg (front :: ·) ih
    · rfl

theorem drain_buffer_append (self : AudioPipeline) :
    self.drain_buffer.1 ++ self.drain_buffer.2.jitter_buffer = self.jitter_buffer :=
  drain_loop_append ..

theorem encode_frame_jitter_buffer (encode_vec : List Int16 → Except AudioError wire.Bytes) (pcm : List Int16)
    (self : AudioPipeline) : (self.encode_frame encode_vec pcm).2.jitter_buffer = self.jitter_buffer := by
  unfold encode_frame
  dsimp only
  split
  · rfl
  · split <;> rfl

/-- The datagram that a call adds to the buffer: one whose number is not there yet. -/
def accepts (self : AudioPipeline) : Call → List MoqDatagram
  | .buffer_incoming datagram =>
    if ∃ d ∈ self.jitter_buffer, d.sequence = datagram.sequence then [] else [datagram]
  | _ => []

theorem accepts_of_mem (hmem : ∃ d ∈ self.jitter_buffer, number d = number datagram) :
    self.accepts (.buffer_incoming datagram) = [] := by
  obtain ⟨d, hd, hnumber⟩ := hmem
  exact if_pos ⟨d, hd, UInt64.toNat_inj.mp hnumber⟩

theorem accepts_of_new (hnew : ∀ d ∈ self.jitter_buffer, number d ≠ number datagram) :
    self.accepts (.buffer_incoming datagram) = [datagram] := by
  refine if_neg ?_
  rintro ⟨d, hd, hsame⟩
  exact hnew d hd (congrArg UInt64.toNat hsame)

/-- A call puts a new datagram in its place, or it plays the front of the buffer and accepts nothing. -/
theorem step_cases (self : AudioPipeline) (call : Call) :
    (∃ datagram, call = .buffer_incoming datagram ∧
        (∀ d ∈ self.jitter_buffer, number d ≠ number datagram) ∧ (self.step call).1.played = [] ∧
        (self.step call).2.jitter_buffer = queue.insert number datagram self.jitter_buffer) ∨
      self.accepts call = [] ∧
        (self.step call).1.played ++ (self.step call).2.jitter_buffer = self.jitter_buffer := by
  cases call with
  | encode_frame encode_vec pcm => exact .inr ⟨rfl, encode_frame_jitter_buffer encode_vec pcm self⟩
  | buffer_incoming datagram =>
    by_cases hmem : ∃ d ∈ self.jitter_buffer, number d = number datagram
    · exact .inr ⟨accepts_of_mem hmem, congrArg jitter_buffer (buffer_incoming_of_mem hmem)⟩
    · have hnew : ∀ d ∈ self.jitter_buffer, number d ≠ number datagram :=
        fun d hd hsame => hmem ⟨d, hd, hsame⟩
      exact .inl ⟨datagram, rfl, hnew, rfl, congrArg jitter_buffer (buffer_incoming_of_new hnew)⟩
  | drain_buffer => exact .inr ⟨rfl, drain_buffer_append self⟩

end AudioPipeline

open AudioPipeline

/-- What has been played and what is buffered, in this order, is in the order of the sequence
numbers. -/
def InOrder (past : List (Call × Answer)) (pipeline : AudioPipeline) : Prop :=
  Ascending number (played past ++ pipeline.jitter_buffer)

/-- A datagram that comes in is later than all that have been played. -/
def InTime (past : List (Call × Answer)) (_ : AudioPipeline) : Call → Prop
  | .buffer_incoming datagram => ∀ earlier ∈ played past, number earlier < number datagram
  | _ => True

instance (past : List (Call × Answer)) (pipeline : AudioPipeline) :
    (call : Call) → Decidable (InTime past pipeline call)
  | .buffer_incoming datagram =>
    inferInstanceAs (Decidable (∀ earlier ∈ played past, number earlier < number datagram))
  | .encode_frame _ _ => isTrue trivial
  | .drain_buffer => isTrue trivial

theorem InOrder.step {past : List (Call × Answer)} {pipeline : AudioPipeline} {call : Call}
    (horder : InOrder past pipeline) (htime : InTime past pipeline call) :
    InOrder (past ++ [(call, (pipeline.step call).1)]) (pipeline.step call).2 := by
  unfold InOrder at horder ⊢
  rw [played_append]
  obtain ⟨datagram, rfl, hnew, hplayed, hbuffer⟩ | ⟨-, hbuffer⟩ := step_cases pipeline call
  · rw [hplayed, hbuffer, List.append_nil]
    exact horder.append_insert hnew htime
  · rwa [List.append_assoc, hbuffer]

/-- In every run in which no datagram comes in after a later one has been played, all that is
played is in the order of the sequence numbers. -/
theorem plays_forward_of_in_time (frame_size : Nat) (local_alias : UInt32) (calls : List Call)
    (htime : Along AudioPipeline.step InTime [] (.new frame_size local_alias) calls) :
    Ascending number (played (history AudioPipeline.step (.new frame_size local_alias) calls)) := by
  have hinit : InOrder [] (.new frame_size local_alias) := List.Pairwise.nil
  have horder : InOrder ([] ++ history AudioPipeline.step (.new frame_size local_alias) calls)
      (final AudioPipeline.step (.new frame_size local_alias) calls) :=
    htime.invariant (fun past pipeline call => InOrder.step) hinit
  exact (List.pairwise_append.mp horder).1

/-- The datagrams of four frames, of which the first two come in the wrong order. -/
def plays_forward_calls : List Call :=
  [.buffer_incoming (.new 1 1 960 []), .buffer_incoming (.new 1 0 0 []), .buffer_incoming (.new 1 2 1920 []),
    .buffer_incoming (.new 1 3 2880 []), .drain_buffer]

theorem plays_forward_three_frames :
    played (history AudioPipeline.step (.new 960 1) plays_forward_calls) =
        [.new 1 0 0 [], .new 1 1 960 [], .new 1 2 1920 []] ∧
      Ascending number (played (history AudioPipeline.step (.new 960 1) plays_forward_calls)) :=
  ⟨by decide, plays_forward_of_in_time 960 1 plays_forward_calls (by decide)⟩

/-- The first frame is overtaken by the next two, and played after the second. -/
theorem plays_late_frame :
    (played (history AudioPipeline.step (.new 960 1) [.buffer_incoming (.new 1 1 960 []),
        .buffer_incoming (.new 1 2 1920 []), .drain_buffer, .buffer_incoming (.new 1 0 0 []),
        .drain_buffer])).map number = [1, 0] ∧
      ¬Ascending number (played (history AudioPipeline.step (.new 960 1)
        [.buffer_incoming (.new 1 1 960 []), .buffer_incoming (.new 1 2 1920 []), .drain_buffer,
          .buffer_incoming (.new 1 0 0 []), .drain_buffer])) := by
  decide

end voip_client.pipeline
