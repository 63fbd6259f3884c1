import Voip.Client.MoqDatagram
import Voip.Machine.History
import Voip.Queue.Ascending

namespace voip_client.pipeline

open voip_client.moq wire machine

inductive AudioError where
  | EncoderError (reason : String)
  | DecoderError (reason : String)
  | InvalidFrameSize (got : Nat)
  | BufferTooSmall (need have_ : Nat)
  deriving DecidableEq, Repr

inductive PipelineError where
  | EncoderError (error : AudioError)
  | InvalidFrameSize (expected got : Nat)
  deriving DecidableEq, Repr

/-- The part of the pipeline that numbers outgoing frames and buffers incoming ones. -/
structure AudioPipeline where
  frame_size : Nat
  local_track_alias : UInt32
  sequence : UInt64
  timestamp : UInt64
  jitter_buffer : List MoqDatagram
  jitter_target_ms : UInt64
  last_playback_ts : Option UInt64

namespace AudioPipeline

def new (frame_size : Nat) (local_alias : UInt32) : AudioPipeline where
  frame_size
  local_track_alias := local_alias
  sequence := 0
  timestamp := 0
  jitter_buffer := []
  jitter_target_ms := 20
  last_playback_ts := none

/-- What the encoder makes of the samples is left open. -/
def encode_frame (encode_vec : List Int16 → Except AudioError Bytes) (pcm : List Int16) (self : AudioPipeline) :
    Except PipelineError MoqDatagram × AudioPipeline :=
  let expected_samples := self.frame_size
  if pcm.length < expected_samples then (.error (.InvalidFrameSize expected_samples pcm.length), self)
  else
    match encode_vec (pcm.take expected_samples) with
    | .error error => (.error (.EncoderError error), self)
    | .ok opus_data =>
      (.ok (.audio self.local_track_alias self.sequence self.timestamp opus_data),
        { self with
          sequence := self.sequence + 1
          timestamp := self.timestamp + .ofNat self.frame_size })

/-- `findIdx` gives the position of the first later datagram, or the end. -/
def buffer_incoming (datagram : MoqDatagram) (self : AudioPipeline) : AudioPipeline :=
  if self.jitter_buffer.any (fun d => d.sequence = datagram.sequence) then self
  else
    let insert_pos := self.jitter_buffer.findIdx fun d => d.sequence > datagram.sequence
    { self with jitter_buffer := self.jitter_buffer.insertIdx insert_pos datagram }

/-- Whether the front of the buffer is ready. -/
def should_drain (now_ts jitter_target_samples : UInt64) (last_playback_ts : Option UInt64)
    (front : MoqDatagram) (buffered : Nat) : Bool :=
  match last_playback_ts with
  | some last_ts =>
    last_ts.toNat - front.timestamp.toNat ≥ jitter_target_samples.toNat ||
      now_ts.toNat - front.timestamp.toNat ≥ (jitter_target_samples * 2).toNat
  | none => buffered ≥ 2

/-- The loop of `drain_buffer`: the datagrams that are ready and those that stay. -/
def drain_loop (now_ts jitter_target_samples : UInt64) (last_playback_ts : Option UInt64) :
    List MoqDatagram → List MoqDatagram × List MoqDatagram
  | [] => ([], [])
  | front :: buffer =>
    if should_drain now_ts jitter_target_samples last_playback_ts front (buffer.length + 1) then
      let (ready, buffer) := drain_loop now_ts jitter_target_samples last_playback_ts buffer
      (front :: ready, buffer)
    else ([], front :: buffer)

def drain_buffer (self : AudioPipeline) : List MoqDatagram × AudioPipeline :=
  let jitter_target_samples := 48000 * self.jitter_target_ms / 1000
  let (ready, jitter_buffer) :=
    drain_loop self.timestamp jitter_target_samples self.last_playback_ts self.jitter_buffer
  let last_playback_ts := (ready.getLast?.map (fun last => last.timestamp)).or self.last_playback_ts
  (ready, { self with jitter_buffer, last_playback_ts })

end AudioPipeline

/-- A call of the pipeline. -/
inductive Call where
  | encode_frame (encode_vec : List Int16 → Except AudioError Bytes) (pcm : List Int16)
  | buffer_incoming (datagram : MoqDatagram)
  | drain_buffer

/-- What a call returns. -/
inductive Answer where
  | encoded (result : Except PipelineError MoqDatagram)
  | buffered
  | drained (ready : List MoqDatagram)

def Answer.played : Answer → List MoqDatagram
  | .drained ready => ready
  | _ => []

/-- The concatenation of all lists that have been drained. -/
def played (past : List (Call × Answer)) : List MoqDatagram := past.flatMap fun entry => entry.2.played

namespace AudioPipeline

def step (self : AudioPipeline) : Call → Answer × AudioPipeline
  | .encode_frame encode_vec pcm =>
    let (result, self) := self.encode_frame encode_vec pcm
    (.encoded result, self)
  | .buffer_incoming datagram => (.buffered, self.buffer_incoming datagram)
  | .drain_buffer =>
    let (ready, self) := self.drain_buffer
    (.drained ready, self)

end AudioPipeline

end voip_client.pipeline
