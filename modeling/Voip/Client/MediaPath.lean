import Voip.Client.JitterConservation

namespace voip_client.moq

open wire

/-- The errors of the two datagram calls: those that other calls have too, and one for each of
the two. -/
inductive DatagramError where
  | session (error : MoqError)
  | DatagramSendFailed (text : String)
  | DatagramRecvFailed (text : String)
  deriving DecidableEq, Repr

/-- The bytes handed to the connection. Whether the connection takes them is left open. -/
def send_datagram (state : SessionState) (taken : Except String Unit) (datagram : MoqDatagram) :
    Except DatagramError Bytes :=
  if state ≠ .Active then .error (.session (.InvalidState "Active" state.debug))
  else
    match taken with
    | .error text => .error (.DatagramSendFailed text)
    | .ok () => .ok datagram.encode

/-- What the connection reads is left open. -/
def recv_datagram (state : SessionState) (data : Except String Bytes) : Except DatagramError MoqDatagram :=
  if state ≠ .Active then .error (.session (.InvalidState "Active" state.debug))
  else
    match data with
    | .error text => .error (.DatagramRecvFailed text)
    | .ok data => (MoqDatagram.decode data).mapError .session

theorem send_datagram_eq_ok {state : SessionState} {taken : Except String Unit} {datagram : MoqDatagram}
    {data : Bytes} (hsend : send_datagram state taken datagram = .ok data) : data = datagram.encode := by
  unfold send_datagram at hsend
  split at hsend
  · contradiction
  · split at hsend
    · contradiction
    · exact (Except.ok.inj hsend).symm

theorem recv_datagram_eq_ok {state : SessionState} {data : Except String Bytes} {datagram : MoqDatagram}
    (hrecv : recv_datagram state data = .ok datagram) :
    ∃ bytes, data = .ok bytes ∧ MoqDatagram.decode bytes = .ok datagram := by
  unfold recv_datagram at hrecv
  split at hrecv
  · contradiction
  · split at hrecv
    · contradiction
    next bytes =>
      refine ⟨bytes, rfl, ?_⟩
      cases hdecode : MoqDatagram.decode bytes with
      | error error => simp [hdecode, Except.mapError] at hrecv
      | ok read => simpa [hdecode, Except.mapError] using hrecv

end voip_client.moq

namespace voip_client.pipeline

open voip_client.moq wire machine queue

/-- The pipelines of two peers, with the frames that the one has encoded and the datagrams that
its connection has taken. The connection is unreliable: it may deliver each of them never, once or
several times, at any later time. `heard` is the history of the other pipeline. -/
structure MediaPath where
  sender : AudioPipeline
  encoded : List MoqDatagram
  connection : List Bytes
  receiver : AudioPipeline
  heard : List (Call × Answer)

inductive MediaEvent where
  | capture (encode_vec : List Int16 → Except AudioError Bytes) (pcm : List Int16) (state : SessionState)
      (taken : Except String Unit)
  | arrive (index : Nat) (state : SessionState)
  | talk (encode_vec : List Int16 → Except AudioError Bytes) (pcm : List Int16)
  | play

namespace MediaPath

def new (frame_size : Nat) (sender_alias receiver_alias : UInt32) : MediaPath where
  sender := .new frame_size sender_alias
  encoded := []
  connection := []
  receiver := .new frame_size receiver_alias
  heard := []

/-- A call of the receiving pipeline. -/
def receiver_call (self : MediaPath) (call : Call) : MediaPath :=
  { self with
    receiver := (self.receiver.step call).2
    heard := self.heard ++ [(call, (self.receiver.step call).1)] }

def step (self : MediaPath) : MediaEvent → MediaPath
  | .capture encode_vec pcm state taken =>
    let (result, sender) := self.sender.encode_frame encode_vec pcm
    match result with
    | .error _ => { self with sender }
    | .ok datagram =>
      let encoded := self.encoded ++ [datagram]
      match send_datagram state taken datagram with
      | .error _ => { self with sender, encoded }
      | .ok data => { self with sender, encoded, connection := self.connection ++ [data] }
  | .arrive index state =>
    match self.connection[index]? with
    | none => self
    | some data =>
      match recv_datagram state (.ok data) with
      | .error _ => self
      | .ok datagram => self.receiver_call (.buffer_incoming datagram)
  | .talk encode_vec pcm => self.receiver_call (.encode_frame encode_vec pcm)
  | .play => self.receiver_call .drain_buffer

def run (self : MediaPath) (events : List MediaEvent) : MediaPath := events.foldl step self

/-- The frames given out for playback. -/
def played (self : MediaPath) : List MoqDatagram := pipeline.played self.heard

end MediaPath

/-- The positions of the datagrams that arrive, in the order in which they do. -/
def arrivals (events : List MediaEvent) : List Nat :=
  events.filterMap fun
    | .arrive index _ => some index
    | _ => none

/-- The frame of a position in the stream of a sender. -/
def FrameAt (frame_size : Nat) (track_alias : UInt32) (index : Nat) (datagram : MoqDatagram) : Prop :=
  ∃ payload, datagram = .audio track_alias (.ofNat index) (.ofNat (index * frame_size)) payload

/-- Neither the sequence numbers nor the clock of so many frames outgrow a varint. -/
def VarintsFit (frame_size frames : Nat) : Prop := frames ≤ 2 ^ 62 ∧ frames * frame_size < 2 ^ 62

variable {frame_size index : Nat} {track_alias : UInt32} {datagram : MoqDatagram}

theorem VarintsFit.mono {frames fewer : Nat} (hfit : VarintsFit frame_size frames) (hle : fewer ≤ frames) :
    VarintsFit frame_size fewer :=
  ⟨hle.trans hfit.1, (Nat.mul_le_mul_right _ hle).trans_lt hfit.2⟩

/-- The numbers of a frame are not reduced before they outgrow a varint. -/
theorem FrameAt.numbers (hframe : FrameAt frame_size track_alias index datagram) {frames : Nat}
    (hfit : VarintsFit frame_size frames) (hindex : index < frames) :
    number datagram = index ∧ datagram.timestamp.toNat = index * frame_size := by
  obtain ⟨payload, rfl⟩ := hframe
  obtain ⟨hcount, hclock⟩ := hfit.mono hindex.le
  have hwide : (2 : Nat) ^ 62 < UInt64.size := by decide
  constructor
  · exact UInt64.toNat_ofNat_of_lt' (hcount.trans_lt hwide)
  · exact UInt64.toNat_ofNat_of_lt' (hclock.trans hwide)

theorem FrameAt.decode_encode (hframe : FrameAt frame_size track_alias index datagram) {frames : Nat}
    (hfit : VarintsFit frame_size frames) (hindex : index < frames) :
    MoqDatagram.decode datagram.encode = .ok datagram := by
  obtain ⟨hnumber, htimestamp⟩ := hframe.numbers hfit hindex
  have htype : datagram.datagram_type = DATAGRAM_TYPE_MEDIA := by
    obtain ⟨payload, rfl⟩ := hframe
    rfl
  refine MoqDatagram.decode_encode htype ?_ ?_
  · exact (hnumber.trans_lt hindex).trans_le hfit.1
  · rw [htimestamp]
    exact (hfit.mono hindex.le).2

/-- A frame is encoded under the numbers that are next, or nothing changes. -/
theorem AudioPipeline.encode_frame_cases (encode_vec : List Int16 → Except AudioError Bytes) (pcm : List Int16)
    (self : AudioPipeline) :
    (∃ error, self.encode_frame encode_vec pcm = (.error error, self)) ∨
      ∃ payload, self.encode_frame encode_vec pcm =
        (.ok (.audio self.local_track_alias self.sequence self.timestamp payload),
          { self with
            sequence := self.sequence + 1
            timestamp := self.timestamp + .ofNat self.frame_size }) := by
  unfold AudioPipeline.encode_frame
  dsimp only
  split
  · exact .inl ⟨_, rfl⟩
  · split
    · exact .inl ⟨_, rfl⟩
    next payload _ => exact .inr ⟨payload, rfl⟩

/-- The sending side of a path: what its pipeline has encoded so far are the first frames of the
stream, and the connection holds some of them in their order. -/
structure Sends (frame_size : Nat) (track_alias : UInt32) (path : MediaPath) (sent : List MoqDatagram) : Prop where
  frame_size_eq : path.sender.frame_size = frame_size
  alias_eq : path.sender.local_track_alias = track_alias
  sequence_eq : path.sender.sequence = .ofNat path.encoded.length
  timestamp_eq : path.sender.timestamp = .ofNat (path.encoded.length * frame_size)
  frames : ∀ index datagram, path.encoded[index]? = some datagram → FrameAt frame_size track_alias index datagram
  sent_sublist : List.Sublist sent path.encoded
  connection_eq : path.connection = sent.map MoqDatagram.encode

/-- The receiving side: all that is played or buffered has arrived. -/
structure Receives (arrived : List Nat) (path : MediaPath) (sent : List MoqDatagram) : Prop where
  arrived_of_mem : ∀ datagram ∈ path.played ++ path.receiver.jitter_buffer,
    ∃ index ∈ arrived, sent[index]? = some datagram
  nodup : arrived.Nodup → (path.played ++ path.receiver.jitter_buffer).Nodup
  in_order : arrived.Pairwise (· < ·) → InOrder path.heard path.receiver

variable {path : MediaPath} {sent : List MoqDatagram}

theorem Sends.ascending (hsends : Sends frame_size track_alias path sent)
    (hfit : VarintsFit frame_size path.encoded.length) : Ascending number path.encoded := by
  rw [Ascending, List.pairwise_iff_getElem]
  intro i j hi hj hlt
  have hnumber (k : Nat) (hk : k < path.encoded.length) : number path.encoded[k] = k :=
    ((hsends.frames k _ (List.getElem?_eq_getElem hk)).numbers hfit hk).1
  rw [hnumber i hi, hnumber j hj]
  exact hlt

theorem Sends.decode_sent (hsends : Sends frame_size track_alias path sent)
    (hfit : VarintsFit frame_size path.encoded.length) (hmem : datagram ∈ sent) :
    MoqDatagram.decode datagram.encode = .ok datagram := by
  obtain ⟨index, hindex⟩ := List.mem_iff_getElem?.mp (hsends.sent_sublist.subset hmem)
  exact (hsends.frames index datagram hindex).decode_encode hfit (List.getElem?_eq_some_iff.mp hindex).1

/-- One more frame is encoded, and the connection takes it or not. -/
theorem Sends.encode (hsends : Sends frame_size track_alias path sent) {next : MediaPath} {payload : Bytes}
    (hsender : next.sender = { path.sender with
      sequence := path.sender.sequence + 1
      timestamp := path.sender.timestamp + .ofNat path.sender.frame_size })
    (hencoded : next.encoded = path.encoded ++
      [.audio path.sender.local_track_alias path.sender.sequence path.sender.timestamp payload])
    {later : List MoqDatagram}
    (hlater : List.Sublist later
      [.audio path.sender.local_track_alias path.sender.sequence path.sender.timestamp payload])
    (hconnection : next.connection = path.connection ++ later.map MoqDatagram.encode) :
    Sends frame_size track_alias next (sent ++ later) where
  frame_size_eq := by rw [hsender, ← hsends.frame_size_eq]
  alias_eq := by rw [hsender, ← hsends.alias_eq]
  sequence_eq := by
    rw [hsender, hencoded, List.length_append, List.length_singleton, UInt64.ofNat_add, ← hsends.sequence_eq]
    rfl
  timestamp_eq := by
    rw [hsender, hencoded, List.length_append, List.length_singleton, Nat.succ_mul, UInt64.ofNat_add,
      ← hsends.timestamp_eq, ← hsends.frame_size_eq]
  frames index datagram hindex := by
    rw [hencoded, List.getElem?_append] at hindex
    split at hindex
    next => exact hsends.frames index datagram hindex
    next hend =>
      obtain ⟨hlast, rfl⟩ := List.getElem?_eq_some_iff.mp hindex
      obtain rfl : index = path.encoded.length := by
        rw [List.length_singleton] at hlast
        omega
      refine ⟨payload, ?_⟩
      simp only [List.getElem_singleton]
      rw [hsends.alias_eq, ← hsends.sequence_eq, ← hsends.timestamp_eq]
  sent_sublist := by
    rw [hencoded]
    exact hsends.sent_sublist.append hlater
  connection_eq := by rw [hconnection, hsends.connection_eq, List.map_append]

theorem Sends.capture (hsends : Sends frame_size track_alias path sent)
    (encode_vec : List Int16 → Except AudioError Bytes) (pcm : List Int16) (state : SessionState)
    (taken : Except String Unit) :
    ∃ later, Sends frame_size track_alias (path.step (.capture encode_vec pcm state taken)) (sent ++ later) := by
  obtain ⟨error, hencode⟩ | ⟨payload, hencode⟩ := path.sender.encode_frame_cases encode_vec pcm
  · refine ⟨[], ?_⟩
    simpa only [MediaPath.step, hencode, List.append_nil] using hsends
  · cases hsend : send_datagram state taken
        (.audio path.sender.local_track_alias path.sender.sequence path.sender.timestamp payload) with
    | error error =>
      refine ⟨[], ?_⟩
      simp only [MediaPath.step, hencode, hsend]
      exact hsends.encode rfl rfl (List.nil_sublist _) (List.append_nil _).symm
    | ok data =>
      refine ⟨[.audio path.sender.local_track_alias path.sender.sequence path.sender.timestamp payload], ?_⟩
      simp only [MediaPath.step, hencode, hsend]
      rw [send_datagram_eq_ok hsend]
      exact hsends.encode rfl rfl (List.Sublist.refl _) rfl

variable {arrived : List Nat}

theorem Receives.mono (hreceives : Receives arrived path sent) {next : MediaPath}
    (hreceiver : next.receiver = path.receiver) (hheard : next.heard = path.heard) (later : List MoqDatagram) :
    Receives arrived next (sent ++ later) where
  arrived_of_mem datagram hmem := by
    rw [MediaPath.played, hheard, hreceiver] at hmem
    obtain ⟨index, hindex, hsome⟩ := hreceives.arrived_of_mem datagram hmem
    exact ⟨index, hindex, List.getElem?_append_left (List.getElem?_eq_some_iff.mp hsome).1 ▸ hsome⟩
  nodup := by
    rw [MediaPath.played, hheard, hreceiver]
    exact hreceives.nodup
  in_order := by
    rw [hheard, hreceiver]
    exact hreceives.in_order

theorem Receives.append (hreceives : Receives arrived path sent) (later : List Nat) :
    Receives (arrived ++ later) path sent where
  arrived_of_mem datagram hmem := by
    obtain ⟨index, hindex, hsome⟩ := hreceives.arrived_of_mem datagram hmem
    exact ⟨index, List.mem_append_left _ hindex, hsome⟩
  nodup hnodup := hreceives.nodup (List.nodup_append.mp hnodup).1
  in_order hless := hreceives.in_order (List.pairwise_append.mp hless).1

/-- A call that adds nothing to the buffer. -/
theorem Receives.call (hreceives : Receives arrived path sent) {call : Call}
    (hbuffer : (path.receiver.step call).1.played ++ (path.receiver.step call).2.jitter_buffer =
      path.receiver.jitter_buffer) : Receives arrived (path.receiver_call call) sent := by
  have hheld : (path.receiver_call call).played ++ (path.receiver_call call).receiver.jitter_buffer =
      path.played ++ path.receiver.jitter_buffer := by
    simp only [MediaPath.played, MediaPath.receiver_call, played_append, List.append_assoc, hbuffer]
  refine ⟨?_, ?_, ?_⟩
  · rw [hheld]
    exact hreceives.arrived_of_mem
  · rw [hheld]
    exact hreceives.nodup
  · unfold InOrder
    rw [← MediaPath.played, hheld]
    exact hreceives.in_order

/-- A datagram arrives whose number is not in the buffer. -/
theorem Receives.buffer (hreceives : Receives arrived path sent) (hascending : Ascending number sent)
    (hindex : sent[index]? = some datagram)
    (hnew : ∀ other ∈ path.receiver.jitter_buffer, number other ≠ number datagram) :
    Receives (arrived ++ [index]) (path.receiver_call (.buffer_incoming datagram)) sent := by
  have hbuffer : (path.receiver_call (.buffer_incoming datagram)).receiver.jitter_buffer =
      queue.insert number datagram path.receiver.jitter_buffer :=
    congrArg AudioPipeline.jitter_buffer (AudioPipeline.buffer_incoming_of_new hnew)
  have hplayed : (path.receiver_call (.buffer_incoming datagram)).played = path.played := by
    simp only [MediaPath.played, MediaPath.receiver_call, played_append]
    exact List.append_nil _
  have hperm : ((path.receiver_call (.buffer_incoming datagram)).played ++
      (path.receiver_call (.buffer_incoming datagram)).receiver.jitter_buffer).Perm
        (datagram :: (path.played ++ path.receiver.jitter_buffer)) := by
    rw [hplayed, hbuffer]
    exact ((insert_perm datagram _).append_left _).trans List.perm_middle
  have hearlier (other : MoqDatagram) (hother : other ∈ path.played ++ path.receiver.jitter_buffer) :
      ∃ position ∈ arrived, sent[position]? = some other := hreceives.arrived_of_mem other hother
  refine ⟨fun other hother => ?_, fun hnodup => ?_, fun hless => ?_⟩
  · rcases List.mem_cons.mp (hperm.mem_iff.mp hother) with rfl | hother
    · exact ⟨index, by simp, hindex⟩
    · obtain ⟨position, hposition, hsome⟩ := hearlier other hother
      exact ⟨position, List.mem_append_left _ hposition, hsome⟩
  · obtain ⟨hbefore, -, hapart⟩ := List.nodup_append.mp hnodup
    rw [hperm.nodup_iff]
    refine List.nodup_cons.mpr ⟨fun hmem => ?_, hreceives.nodup hbefore⟩
    obtain ⟨position, hposition, hsome⟩ := hearlier datagram hmem
    refine hapart position hposition index (List.mem_singleton_self _) ?_
    have hnodup : sent.Nodup := hascending.imp fun hlt heq => hlt.ne (congrArg number heq)
    exact (List.getElem?_inj (List.getElem?_eq_some_iff.mp hsome).1 hnodup).mp (hsome.trans hindex.symm)
  · obtain ⟨hbefore, -, hlast⟩ := List.pairwise_append.mp hless
    refine (hreceives.in_order hbefore).step fun earlier hplayed => ?_
    obtain ⟨position, hposition, hsome⟩ := hearlier earlier (List.mem_append_left _ hplayed)
    have hlt : position < index := hlast position hposition index (List.mem_singleton_self _)
    obtain ⟨hfirst, rfl⟩ := List.getElem?_eq_some_iff.mp hsome
    obtain ⟨hsecond, rfl⟩ := List.getElem?_eq_some_iff.mp hindex
    exact List.pairwise_iff_getElem.mp hascending position index hfirst hsecond hlt

theorem Sends.receiver_call (hsends : Sends frame_size track_alias path sent) (call : Call) :
    Sends frame_size track_alias (path.receiver_call call) sent :=
  ⟨hsends.frame_size_eq, hsends.alias_eq, hsends.sequence_eq, hsends.timestamp_eq, hsends.frames,
    hsends.sent_sublist, hsends.connection_eq⟩

/-- A captured frame does not concern the receiver. -/
theorem step_capture (path : MediaPath) (encode_vec : List Int16 → Except AudioError Bytes) (pcm : List Int16)
    (state : SessionState) (taken : Except String Unit) :
    path.encoded.length ≤ (path.step (.capture encode_vec pcm state taken)).encoded.length ∧
      (path.step (.capture encode_vec pcm state taken)).receiver = path.receiver ∧
      (path.step (.capture encode_vec pcm state taken)).heard = path.heard := by
  simp only [MediaPath.step]
  split
  · exact ⟨Nat.le_refl _, rfl, rfl⟩
  · split
    · exact ⟨by simp, rfl, rfl⟩
    · exact ⟨by simp, rfl, rfl⟩

/-- Both sides of a path. -/
def Tracks (frame_size : Nat) (track_alias : UInt32) (arrived : List Nat) (path : MediaPath) : Prop :=
  ∃ sent, Sends frame_size track_alias path sent ∧
    (VarintsFit frame_size path.encoded.length → Receives arrived path sent)

theorem Tracks.arrive (htracks : Tracks frame_size track_alias arrived path) (index : Nat) (state : SessionState) :
    Tracks frame_size track_alias (arrived ++ [index]) (path.step (.arrive index state)) := by
  obtain ⟨sent, hsends, hreceives⟩ := htracks
  simp only [MediaPath.step]
  split
  next => exact ⟨sent, hsends, fun hfit => (hreceives hfit).append _⟩
  next data hdata =>
    split
    next => exact ⟨sent, hsends, fun hfit => (hreceives hfit).append _⟩
    next datagram hrecv =>
      refine ⟨sent, hsends.receiver_call _, fun hfit => ?_⟩
      obtain ⟨bytes, hbytes, hdecode⟩ := recv_datagram_eq_ok hrecv
      cases hbytes
      rw [hsends.connection_eq, List.getElem?_map] at hdata
      obtain ⟨original, hindex, rfl⟩ := Option.map_eq_some_iff.mp hdata
      rw [hsends.decode_sent hfit (List.mem_of_getElem? hindex)] at hdecode
      cases hdecode
      obtain ⟨other, hcall, hnew, -, -⟩ | ⟨-, hbuffer⟩ :=
        path.receiver.step_cases (.buffer_incoming datagram)
      · cases hcall
        exact (hreceives hfit).buffer ((hsends.ascending hfit).sublist hsends.sent_sublist) hindex hnew
      · exact ((hreceives hfit).append [index]).call hbuffer

theorem Tracks.step (htracks : Tracks frame_size track_alias arrived path) (event : MediaEvent) :
    Tracks frame_size track_alias (arrived ++ arrivals [event]) (path.step event) := by
  have ⟨sent, hsends, hreceives⟩ := htracks
  cases event with
  | capture encode_vec pcm state taken =>
    obtain ⟨hlength, hreceiver, hheard⟩ := step_capture path encode_vec pcm state taken
    obtain ⟨later, hsends⟩ := hsends.capture encode_vec pcm state taken
    exact ⟨sent ++ later, hsends, fun hfit =>
      ((hreceives (hfit.mono hlength)).append _).mono hreceiver hheard later⟩
  | arrive index state => exact htracks.arrive index state
  | talk encode_vec pcm =>
    exact ⟨sent, hsends.receiver_call _, fun hfit => ((hreceives hfit).append _).call
      (AudioPipeline.encode_frame_jitter_buffer encode_vec pcm path.receiver)⟩
  | play =>
    exact ⟨sent, hsends.receiver_call _, fun hfit => ((hreceives hfit).append _).call
      (AudioPipeline.drain_buffer_append path.receiver)⟩

theorem Tracks.run (frame_size : Nat) (sender_alias receiver_alias : UInt32) (events : List MediaEvent) :
    Tracks frame_size sender_alias (arrivals events)
      ((MediaPath.new frame_size sender_alias receiver_alias).run events) := by
  induction events using List.reverseRecOn with
  | nil =>
    refine ⟨[], ⟨rfl, rfl, rfl, ?_, ?_, List.Sublist.refl _, rfl⟩,
      fun _ => ⟨?_, fun _ => List.nodup_nil, fun _ => .nil⟩⟩
    · simp [MediaPath.run, MediaPath.new, AudioPipeline.new]
    · simp [MediaPath.run, MediaPath.new]
    · simp [MediaPath.run, MediaPath.new, MediaPath.played, AudioPipeline.new]
  | append_singleton events event ih =>
    rw [arrivals, List.filterMap_append, MediaPath.run, List.foldl_concat]
    exact ih.step event

/-- Whatever an unreliable connection does between two pipelines, each frame played is one that the
sender encoded, under its own position in the stream. A connection that repeats nothing has no frame
played twice, and one that moreover keeps the order has the frames played in the order of the stream. -/
theorem played_frames_encoded (frame_size : Nat) (sender_alias receiver_alias : UInt32)
    (events : List MediaEvent) (path : MediaPath)
    (hrun : (MediaPath.new frame_size sender_alias receiver_alias).run events = path)
    (hfit : VarintsFit frame_size path.encoded.length) :
    (∀ index datagram, path.encoded[index]? = some datagram →
        datagram.track_alias = sender_alias ∧ datagram.sequence.toNat = index ∧
          datagram.timestamp.toNat = index * frame_size) ∧
      (∀ datagram ∈ path.played, datagram ∈ path.encoded) ∧
      ((arrivals events).Nodup → path.played.Nodup) ∧
      ((arrivals events).Pairwise (· < ·) → List.Sublist path.played path.encoded) := by
  obtain ⟨sent, hsends, hreceives⟩ := hrun ▸ Tracks.run frame_size sender_alias receiver_alias events
  have hreceives := hreceives hfit
  have hencoded (datagram : MoqDatagram) (hplayed : datagram ∈ path.played) : datagram ∈ path.encoded := by
    obtain ⟨index, -, hsome⟩ := hreceives.arrived_of_mem datagram (List.mem_append_left _ hplayed)
    exact hsends.sent_sublist.subset (List.mem_of_getElem? hsome)
  refine ⟨fun index datagram hindex => ?_, hencoded, fun hnodup => ?_, fun hless => ?_⟩
  · have hframe := hsends.frames index datagram hindex
    obtain ⟨hnumber, htimestamp⟩ := hframe.numbers hfit (List.getElem?_eq_some_iff.mp hindex).1
    obtain ⟨payload, rfl⟩ := hframe
    exact ⟨rfl, hnumber, htimestamp⟩
  · exact (List.nodup_append.mp (hreceives.nodup hnodup)).1
  · have horder : Ascending number path.played := (List.pairwise_append.mp (hreceives.in_order hless)).1
    exact horder.sublist_of_subset (hsends.ascending hfit) hencoded

/-- Four frames of two samples each are sent, and the second is lost. -/
def second_frame_lost : List MediaEvent :=
  let encode_vec : List Int16 → Except AudioError Bytes := fun pcm => .ok [.ofNat pcm.length]
  [.capture encode_vec [1, 2] .Active (.ok ()), .capture encode_vec [3, 4] .Active (.ok ()),
    .capture encode_vec [5, 6, 7] .Active (.ok ()), .capture encode_vec [8, 9] .Active (.ok ()),
    .arrive 0 .Active, .arrive 2 .Active, .arrive 3 .Active, .play]

theorem other_frames_played :
    ((MediaPath.new 2 7 9).run second_frame_lost).played = [.audio 7 0 0 [2], .audio 7 2 4 [2]] ∧
      List.Sublist ((MediaPath.new 2 7 9).run second_frame_lost).played
        ((MediaPath.new 2 7 9).run second_frame_lost).encoded := by
  have hless : (arrivals second_frame_lost).Pairwise (· < ·) := by decide
  exact ⟨by decide, (played_frames_encoded 2 7 9 second_frame_lost _ rfl ⟨by decide, by decide⟩).2.2.2 hless⟩

end voip_client.pipeline
