import Mathlib.Data.List.TakeWhile
import Voip.Client.JitterConservation

namespace voip_client.pipeline

open voip_client.moq machine queue

/-- No datagram is by the jitter target, 960 samples, newer than the front one. -/
def Recent : List MoqDatagram → Prop
  | [] => True
  | front :: later => ∀ d ∈ later, d.timestamp.toNat < front.timestamp.toNat + 960

instance : DecidablePred Recent
  | [] => isTrue trivial
  | front :: later =>
    inferInstanceAs (Decidable (∀ d ∈ later, d.timestamp.toNat < front.timestamp.toNat + 960))

/-- The time of a datagram has passed by the last one played, or by the clock of the encoder. -/
def Passed (last_ts now_ts : UInt64) (datagram : MoqDatagram) : Prop :=
  datagram.timestamp.toNat + 960 ≤ last_ts.toNat ∨ datagram.timestamp.toNat + 1920 ≤ now_ts.toNat

instance (last_ts now_ts : UInt64) : DecidablePred (Passed last_ts now_ts) :=
  fun _ => inferInstanceAs (Decidable (_ ∨ _))

/-- Once playback has begun, a datagram that is followed by one newer by the jitter target, and that
comes after no datagram whose time is still to come, has passed itself. -/
def KeepsUp (self : AudioPipeline) : Prop :=
  ∀ last_ts, self.last_playback_ts = some last_ts →
    ∀ early front later, self.jitter_buffer = early ++ front :: later →
      (∀ d ∈ early, Passed last_ts self.timestamp d) →
      (∃ d ∈ later, front.timestamp.toNat + 960 ≤ d.timestamp.toNat) → Passed last_ts self.timestamp front

theorem Recent.length_le {buffer : List MoqDatagram} (hrecent : Recent buffer)
    (hascending : Ascending (fun d => d.timestamp.toNat) buffer) : buffer.length ≤ 960 := by
  cases buffer with
  | nil => exact Nat.zero_le 960
  | cons front later =>
    obtain ⟨hless, -⟩ := List.pairwise_cons.mp hascending
    refine hascending.length_le (List.forall_mem_cons.mpr ⟨⟨Nat.le_refl _, by omega⟩, fun d hd => ?_⟩)
    exact ⟨(hless d hd).le, hrecent d hd⟩

theorem recent_dropWhile_iff (p : MoqDatagram → Bool) (buffer : List MoqDatagram) :
    Recent (buffer.dropWhile p) ↔ ∀ early front later, buffer = early ++ front :: later →
      (∀ d ∈ early, p d = true) → (∃ d ∈ later, front.timestamp.toNat + 960 ≤ d.timestamp.toNat) →
      p front = true := by
  constructor
  · rintro hrecent early front later rfl hearly ⟨d, hd, hnewer⟩
    by_contra hfront
    rw [List.dropWhile_append_of_pos hearly, List.dropWhile_cons_of_neg hfront] at hrecent
    exact absurd (hrecent d hd) (Nat.not_lt.mpr hnewer)
  · intro hpassed
    cases hleft : buffer.dropWhile p with
    | nil => trivial
    | cons front later =>
      have hsplit : buffer = buffer.takeWhile p ++ front :: later := by
        rw [← hleft, List.takeWhile_append_dropWhile]
      have hfront : ¬p front = true := by
        have hhead := List.head_dropWhile_not p (l := buffer) (by simp [hleft])
        simpa [hleft] using hhead
      intro d hd
      refine Nat.not_le.mp fun hnewer => hfront ?_
      exact hpassed _ front later hsplit (fun e he => List.mem_takeWhile_imp he) ⟨d, hd, hnewer⟩

namespace AudioPipeline

theorem should_drain_iff (now_ts last_ts : UInt64) (front : MoqDatagram) (buffered : Nat) :
    should_drain now_ts 960 (some last_ts) front buffered = true ↔ Passed last_ts now_ts front := by
  have hone : (960 : UInt64).toNat = 960 := rfl
  have htwo : (960 * 2 : UInt64).toNat = 1920 := rfl
  simp only [should_drain, Passed, Bool.or_eq_true, decide_eq_true_eq]
  omega

/-- Once playback has begun, the loop drains exactly what has passed at the front. -/
theorem drain_loop_started (now_ts last_ts : UInt64) (buffer : List MoqDatagram) :
    (drain_loop now_ts 960 (some last_ts) buffer).2 = buffer.dropWhile (Passed last_ts now_ts ·) := by
  induction buffer with
  | nil => rfl
  | cons front buffer ih =>
    by_cases hfront : Passed last_ts now_ts front
    · rw [drain_loop, if_pos ((should_drain_iff ..).mpr hfront), List.dropWhile_cons_of_pos (by simpa)]
      exact ih
    · rw [drain_loop, if_neg (mt (should_drain_iff ..).mp hfront), List.dropWhile_cons_of_neg (by simpa)]

/-- Before playback the loop leaves at most one datagram. -/
theorem drain_loop_fresh (now_ts jitter_target_samples : UInt64) (buffer : List MoqDatagram) :
    (drain_loop now_ts jitter_target_samples none buffer).2.length ≤ 1 := by
  induction buffer with
  | nil => exact Nat.zero_le 1
  | cons front buffer ih =>
    rw [drain_loop]
    split
    · exact ih
    next hfew =>
      have hfew : ¬2 ≤ buffer.length + 1 := by simpa [should_drain] using hfew
      rw [List.length_cons]
      omega

theorem step_jitter_target_ms (self : AudioPipeline) (call : Call) :
    (self.step call).2.jitter_target_ms = self.jitter_target_ms := by
  cases call with
  | encode_frame encode_vec pcm =>
    simp only [step, encode_frame]
    split
    · rfl
    · split <;> rfl
  | buffer_incoming datagram =>
    simp only [step, buffer_incoming]
    split <;> rfl
  | drain_buffer => rfl

theorem final_jitter_target_ms (frame_size : Nat) (local_alias : UInt32) (calls : List Call) :
    (final step (.new frame_size local_alias) calls).jitter_target_ms = 20 :=
  invariant (I := fun _ (pipeline : AudioPipeline) => pipeline.jitter_target_ms = 20)
    (fun _ pipeline call htarget => (step_jitter_target_ms pipeline call).trans htarget)
    (rfl : (AudioPipeline.new frame_size local_alias).jitter_target_ms = 20) calls

variable {self : AudioPipeline}

theorem drain_buffer_jitter_buffer (htarget : self.jitter_target_ms = 20) :
    self.drain_buffer.2.jitter_buffer =
      (drain_loop self.timestamp 960 self.last_playback_ts self.jitter_buffer).2 := by
  simp only [drain_buffer, htarget]
  rfl

/-- Once playback has begun, a drain plays only what has passed. -/
theorem passed_of_mem_drain_buffer (htarget : self.jitter_target_ms = 20) {last_ts : UInt64}
    (hstarted : self.last_playback_ts = some last_ts) {datagram : MoqDatagram}
    (hmem : datagram ∈ self.drain_buffer.1) : Passed last_ts self.timestamp datagram := by
  have happend := drain_buffer_append self
  rw [drain_buffer_jitter_buffer htarget, hstarted, drain_loop_started] at happend
  nth_rewrite 2 [← List.takeWhile_append_dropWhile (p := (Passed last_ts self.timestamp ·)) (l := self.jitter_buffer)]
    at happend
  rw [List.append_cancel_right happend] at hmem
  have hpassed := List.mem_takeWhile_imp hmem
  exact of_decide_eq_true hpassed

theorem recent_drain_buffer_iff (htarget : self.jitter_target_ms = 20) :
    Recent self.drain_buffer.2.jitter_buffer ↔ KeepsUp self := by
  rw [drain_buffer_jitter_buffer htarget]
  cases hlast : self.last_playback_ts with
  | none =>
    refine iff_of_true ?_ ?_
    · have hfew := drain_loop_fresh self.timestamp 960 self.jitter_buffer
      cases hleft : (drain_loop self.timestamp 960 none self.jitter_buffer).2 with
      | nil => trivial
      | cons front later =>
        rw [hleft, List.length_cons] at hfew
        have hnone : later = [] := List.eq_nil_of_length_eq_zero (by omega)
        simp [Recent, hnone]
    · intro last_ts hsome
      rw [hlast] at hsome
      cases hsome
  | some last_ts =>
    rw [drain_loop_started, recent_dropWhile_iff]
    simp [KeepsUp, hlast]

end AudioPipeline

open AudioPipeline

/-- In every reachable state a drain leaves a recent front exactly if the state keeps up. What is
left is then bounded, if the timestamps increase with the numbers. -/
theorem recent_front_iff_keeps_up (frame_size : Nat) (local_alias : UInt32) (calls : List Call) :
    (Recent (final AudioPipeline.step (.new frame_size local_alias) calls).drain_buffer.2.jitter_buffer ↔
        KeepsUp (final AudioPipeline.step (.new frame_size local_alias) calls)) ∧
      (KeepsUp (final AudioPipeline.step (.new frame_size local_alias) calls) →
        Ascending (fun d => d.timestamp.toNat)
          (final AudioPipeline.step (.new frame_size local_alias) calls).jitter_buffer →
        (final AudioPipeline.step (.new frame_size local_alias) calls).drain_buffer.2.jitter_buffer.length
          ≤ 960) := by
  have hiff := recent_drain_buffer_iff (final_jitter_target_ms frame_size local_alias calls)
  refine ⟨hiff, fun hkeeps hascending => ?_⟩
  rw [← drain_buffer_append] at hascending
  exact (hiff.mpr hkeeps).length_le (List.pairwise_append.mp hascending).2.1

/-- Four frames come in while nothing is encoded. -/
def receive_only_calls : List Call :=
  [.buffer_incoming (.new 1 0 0 []), .buffer_incoming (.new 1 1 960 []), .drain_buffer,
    .buffer_incoming (.new 1 2 1920 []), .drain_buffer, .buffer_incoming (.new 1 3 2880 [])]

/-- All but the first of them are left, with the oldest 1920 samples behind the newest. -/
theorem receive_only_front_not_recent :
    (final AudioPipeline.step (.new 960 1) receive_only_calls).drain_buffer.2.jitter_buffer =
        [.new 1 1 960 [], .new 1 2 1920 [], .new 1 3 2880 []] ∧
      ¬Recent (final AudioPipeline.step (.new 960 1) receive_only_calls).drain_buffer.2.jitter_buffer := by
  decide

/-- Playback has begun, and nothing has passed since that had not passed by `last_ts`. -/
structure Stalled (last_ts now_ts : UInt64) (self : AudioPipeline) : Prop where
  target : self.jitter_target_ms = 20
  clock : self.timestamp = now_ts
  started : ∃ last, self.last_playback_ts = some last ∧ ∀ d, Passed last now_ts d → Passed last_ts now_ts d

/-- What has passed by a datagram that has itself passed has passed. -/
theorem Passed.trans {last_ts now_ts : UInt64} {d e : MoqDatagram} (hd : Passed last_ts now_ts d)
    (he : Passed d.timestamp now_ts e) : Passed last_ts now_ts e := by
  simp only [Passed] at hd he ⊢
  omega

/-- A side that encodes nothing plays only what has passed, and by that nothing else comes to pass. -/
theorem Stalled.step {last_ts now_ts : UInt64} {self : AudioPipeline} {call : Call}
    (hstalled : Stalled last_ts now_ts self) (hcall : ∀ encode_vec pcm, call ≠ .encode_frame encode_vec pcm) :
    (∀ d ∈ (self.step call).1.played, Passed last_ts now_ts d) ∧ Stalled last_ts now_ts (self.step call).2 := by
  obtain ⟨htarget, hclock, last, hlast, hpassed⟩ := hstalled
  cases call with
  | encode_frame encode_vec pcm => exact absurd rfl (hcall encode_vec pcm)
  | buffer_incoming datagram =>
    refine ⟨nofun, ?_⟩
    change Stalled last_ts now_ts (self.buffer_incoming datagram)
    rw [buffer_incoming]
    split
    next => exact ⟨htarget, hclock, last, hlast, hpassed⟩
    next => exact ⟨htarget, hclock, last, hlast, hpassed⟩
  | drain_buffer =>
    have hplayed (d : MoqDatagram) (hd : d ∈ self.drain_buffer.1) : Passed last now_ts d :=
      hclock ▸ passed_of_mem_drain_buffer htarget hlast hd
    refine ⟨fun d hd => hpassed d (hplayed d hd), htarget, hclock, ?_⟩
    change ∃ last', (self.drain_buffer.1.getLast?.map fun d => d.timestamp).or self.last_playback_ts = some last' ∧ _
    cases hready : self.drain_buffer.1.getLast? with
    | none => exact ⟨last, hlast, hpassed⟩
    | some d => exact ⟨d.timestamp, rfl, fun e he => hpassed e ((hplayed d (List.mem_of_getLast? hready)).trans he)⟩

theorem Stalled.passed_of_played {last_ts now_ts : UInt64} {self : AudioPipeline} {calls : List Call}
    (hstalled : Stalled last_ts now_ts self)
    (hcalls : ∀ call ∈ calls, ∀ encode_vec pcm, call ≠ .encode_frame encode_vec pcm) :
    ∀ d ∈ played (history AudioPipeline.step self calls), Passed last_ts now_ts d := by
  induction calls generalizing self with
  | nil => nofun
  | cons call calls ih =>
    obtain ⟨hcall, hcalls⟩ := List.forall_mem_cons.mp hcalls
    obtain ⟨hplayed, hnext⟩ := hstalled.step hcall
    intro d hd
    replace hd : d ∈ (self.step call).1.played ++ played (history AudioPipeline.step (self.step call).2 calls) := hd
    rcases List.mem_append.mp hd with hd | hd
    · exact hplayed d hd
    · exact ih hnext hcalls d hd

/-- Once playback has begun, a side that encodes nothing keeps all that it accepts and that has not
passed, however often it drains the buffer. -/
theorem receive_only_keeps (self : AudioPipeline) (last_ts : UInt64) (htarget : self.jitter_target_ms = 20)
    (hstarted : self.last_playback_ts = some last_ts) (calls : List Call)
    (hcalls : ∀ call ∈ calls, ∀ encode_vec pcm, call ≠ .encode_frame encode_vec pcm) :
    (self.accepted calls + (self.jitter_buffer : Multiset MoqDatagram)).filter (¬Passed last_ts self.timestamp ·) =
      ((final AudioPipeline.step self calls).jitter_buffer : Multiset MoqDatagram).filter
        (¬Passed last_ts self.timestamp ·) := by
  have hstalled : Stalled last_ts self.timestamp self := ⟨htarget, rfl, last_ts, hstarted, fun _ hpassed => hpassed⟩
  have hplayed := hstalled.passed_of_played hcalls
  rw [accepted_add_jitter_buffer, Multiset.filter_add, Multiset.filter_eq_nil.mpr, zero_add]
  intro d hd
  exact not_not_intro (hplayed d (Multiset.mem_coe.mp hd))

/-- Playback begins with the first of two frames. -/
def playback_begun : AudioPipeline :=
  final AudioPipeline.step (.new 960 1)
    [.buffer_incoming (.new 1 10 9600 []), .buffer_incoming (.new 1 11 10560 []), .drain_buffer]

/-- A frame that comes too late is played, the others are left. -/
theorem receive_only_keeps_two_frames :
    (playback_begun.accepted [.buffer_incoming (.new 1 9 8640 []), .drain_buffer,
        .buffer_incoming (.new 1 12 11520 []), .drain_buffer] +
      (playback_begun.jitter_buffer : Multiset MoqDatagram)).filter (¬Passed 9600 0 ·) =
        ([.new 1 11 10560 [], .new 1 12 11520 []] : List MoqDatagram) := by
  refine (receive_only_keeps playback_begun 9600 rfl rfl _ fun call hcall => ?_).trans (by decide)
  simp only [List.mem_cons, List.not_mem_nil, or_false] at hcall
  rcases hcall with rfl | rfl | rfl | rfl <;> nofun

end voip_client.pipeline
