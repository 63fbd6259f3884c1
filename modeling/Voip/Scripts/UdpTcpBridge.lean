import Mathlib.Data.List.Basic
import Voip.Wire.Stream

namespace udp_tcp_bridge

open wire

/-- Why a read loop goes no further: the stream has ended, more of it has to come, a frame is too
large, or it was not followed any longer. -/
inductive Stop where
  | ConnectionError
  | Waits
  | FrameTooLarge
  | Unfinished
  deriving DecidableEq, Repr

/-- The loop of `read_exact`; each turn takes at least one byte, so that `n` turns are enough. -/
def read_more (n : Nat) : Nat → Bytes → Reader → Except Stop (Bytes × Reader)
  | 0, data, reader => .ok (data, reader)
  | turns + 1, data, reader =>
    if data.length < n then
      match reader.read (n - data.length) with
      | none => .error .Waits
      | some ([], _) => .error .ConnectionError
      | some (chunk, reader) => read_more n turns (data ++ chunk) reader
    else .ok (data, reader)

def read_exact (reader : Reader) (n : Nat) : Except Stop (Bytes × Reader) := read_more n n [] reader

/-- A frame is the length of a datagram in four bytes and the datagram. -/
def frame (data : Bytes) : Bytes := be 4 data.length ++ data

/-- Addresses are only passed on. -/
abbrev Addr := String × Nat

structure UDPClientProtocol where
  peer_addr : Option Addr
  queue : List Bytes

namespace UDPClientProtocol

def new : UDPClientProtocol := ⟨none, []⟩

def datagram_received (self : UDPClientProtocol) (datagram : Bytes × Addr) : UDPClientProtocol where
  peer_addr := some datagram.2
  queue := self.queue ++ [datagram.1]

/-- The protocol object once these datagrams have come. -/
def received (datagrams : List (Bytes × Addr)) : UDPClientProtocol :=
  datagrams.foldl datagram_received new

end UDPClientProtocol

/-- What the pump writes for the datagrams it takes from the queue. -/
def udp_to_tcp (queue : List Bytes) : Bytes := queue.flatMap frame

/-- What the client writes: the first datagram, for which it has waited, and what the pump writes. -/
def client_stream (queue : List Bytes) : Bytes :=
  match queue with
  | [] => []
  | first_data :: queue => frame first_data ++ udp_to_tcp queue

structure SendTo where
  payload : Bytes
  addr : Option Addr
  deriving DecidableEq

/-- The read loop that both modes share. `sendto` says what is done with the payload of each frame;
the loop is followed for so many frames. -/
def tcp_to_udp (sendto : Nat → Bytes → List SendTo) : Nat → Nat → Reader → List SendTo × Stop
  | 0, _, _ => ([], .Unfinished)
  | fuel + 1, index, reader =>
    match read_exact reader 4 with
    | .error stop => ([], stop)
    | .ok (len_bytes, reader) =>
      let frame_len := ofBe len_bytes
      if frame_len > 65535 then ([], .FrameTooLarge)
      else
        match read_exact reader frame_len with
        | .error stop => ([], stop)
        | .ok (payload, reader) =>
          let (calls, stop) := tcp_to_udp sendto fuel (index + 1) reader
          (sendto index payload ++ calls, stop)

/-- The server's socket has one peer. -/
def server_sendto (_index : Nat) (payload : Bytes) : List SendTo := [⟨payload, none⟩]

/-- The client sends to the address it has heard from last. `local_peer` are the datagrams that have
come from the local peer by the time of each frame. -/
def client_sendto (local_peer : Nat → List (Bytes × Addr)) (index : Nat) (payload : Bytes) : List SendTo :=
  match (UDPClientProtocol.received (local_peer index)).peer_addr with
  | some addr => [⟨payload, some addr⟩]
  | none => []

/-- The loop of the server. Every frame has four bytes at least, so that the length of the stream is
enough. -/
def server_mode (reader : Reader) : List SendTo × Stop :=
  tcp_to_udp server_sendto (reader.stream.length + 1) 0 reader

def client_mode (local_peer : Nat → List (Bytes × Addr)) (reader : Reader) : List SendTo × Stop :=
  tcp_to_udp (client_sendto local_peer) (reader.stream.length + 1) 0 reader

/-- How the loop ends that has come to the end of the stream. -/
def ending (reader : Reader) : Stop := if reader.closed then .ConnectionError else .Waits

section reading

variable {reader : Reader} {n : Nat} {data : Bytes}

/-- A turn of the loop moves some of the missing bytes, however the stream is cut. -/
theorem read_more_step (turns : Nat) (hmore : data.length < n) (hstream : reader.stream ≠ []) :
    ∃ size reader', 0 < size ∧ size ≤ n - data.length ∧ size ≤ reader.stream.length ∧
      reader.Advanced reader' size ∧
      read_more n (turns + 1) data reader = read_more n turns (data ++ reader.stream.take size) reader' := by
  obtain ⟨size, reader', hpositive, hsize, hlength, hadvanced, hread⟩ :=
    Reader.read_of_ne_nil hstream (Nat.sub_pos_of_lt hmore)
  refine ⟨size, reader', hpositive, hsize, hlength, hadvanced, ?_⟩
  obtain ⟨byte, chunk, hchunk⟩ : ∃ byte chunk, reader.stream.take size = byte :: chunk := by
    apply List.exists_cons_of_ne_nil
    rw [← List.length_pos_iff, List.length_take]
    omega
  rw [read_more, if_pos hmore, hread, hchunk]

theorem length_append_take {size : Nat} (hsize : size ≤ reader.stream.length) :
    (data ++ reader.stream.take size).length = data.length + size := by
  rw [List.length_append, List.length_take, Nat.min_eq_left hsize]

/-- The loop collects the bytes that are missing. -/
theorem read_more_of_le (turns : Nat) (hdata : data.length ≤ n) (hturns : n ≤ data.length + turns)
    (hstream : n - data.length ≤ reader.stream.length) :
    ∃ reader', reader.Advanced reader' (n - data.length) ∧
      read_more n turns data reader = .ok (data ++ reader.stream.take (n - data.length), reader') := by
  induction turns generalizing data reader with
  | zero =>
    have hfull : n - data.length = 0 := by omega
    rw [hfull]
    exact ⟨reader, .refl reader, by simp [read_more]⟩
  | succ turns ih =>
    by_cases hmore : data.length < n
    · have hsome : reader.stream ≠ [] := by
        rw [← List.length_pos_iff]
        omega
      obtain ⟨size, reader', hpositive, hsize, hlength, hadvanced, hstep⟩ :=
        read_more_step turns hmore hsome
      have hgrown : (data ++ reader.stream.take size).length = data.length + size :=
        length_append_take hlength
      have hleft : n - (data ++ reader.stream.take size).length = n - data.length - size := by omega
      have hdropped : reader'.stream.length = reader.stream.length - size := by
        rw [hadvanced.stream, List.length_drop]
      obtain ⟨reader'', hadvanced', hloop⟩ :=
        @ih reader' (data ++ reader.stream.take size) (by omega) (by omega) (by omega)
      rw [hleft] at hadvanced' hloop
      refine ⟨reader'', ?_, ?_⟩
      · have htotal := hadvanced.trans hadvanced'
        rwa [Nat.add_sub_cancel' hsize] at htotal
      · have htake : reader.stream.take size ++ reader'.stream.take (n - data.length - size) =
            reader.stream.take (n - data.length) := by
          rw [hadvanced.stream, ← List.take_add, Nat.add_sub_cancel' hsize]
        rw [hstep, hloop, List.append_assoc, htake]
    · have hdone : n - data.length = 0 := by omega
      rw [hdone]
      exact ⟨reader, .refl reader, by simp [read_more, hmore]⟩

/-- The loop comes to the end of a stream that is too short. -/
theorem read_more_of_lt (turns : Nat) (hturns : n ≤ data.length + turns)
    (hstream : reader.stream.length < n - data.length) :
    read_more n turns data reader = .error (ending reader) := by
  induction turns generalizing data reader with
  | zero => omega
  | succ turns ih =>
    have hmore : data.length < n := by omega
    by_cases hsome : reader.stream = []
    · rw [read_more, if_pos hmore]
      cases hclosed : reader.closed with
      | true =>
        obtain ⟨reader', hread⟩ := Reader.read_of_closed (n - data.length) hsome hclosed
        rw [hread, ending, hclosed]
        rfl
      | false =>
        rw [Reader.read_of_open hsome hclosed, ending, hclosed]
        rfl
    · obtain ⟨size, reader', hpositive, hsize, hlength, hadvanced, hstep⟩ :=
        read_more_step turns hmore hsome
      have hgrown : (data ++ reader.stream.take size).length = data.length + size :=
        length_append_take hlength
      have hdropped : reader'.stream.length = reader.stream.length - size := by
        rw [hadvanced.stream, List.length_drop]
      rw [hstep, ih (by omega) (by omega), ending, hadvanced.closed]
      rfl

theorem read_exact_of_le (hstream : n ≤ reader.stream.length) :
    ∃ reader', reader.Advanced reader' n ∧ read_exact reader n = .ok (reader.stream.take n, reader') := by
  have hnone : n - ([] : Bytes).length ≤ reader.stream.length := hstream
  exact read_more_of_le n (Nat.zero_le n) (Nat.le_add_left n 0) hnone

theorem read_exact_of_lt (hstream : reader.stream.length < n) :
    read_exact reader n = .error (ending reader) := by
  have hnone : reader.stream.length < n - ([] : Bytes).length := hstream
  exact read_more_of_lt n (Nat.le_add_left n 0) hnone

end reading

section forwarding

variable {sendto : Nat → Bytes → List SendTo} {reader : Reader}

theorem ofBe_length {payload : Bytes} (hpayload : payload.length ≤ 65535) :
    ofBe (be 4 payload.length) = payload.length := by
  rw [ofBe_be]
  exact Nat.mod_eq_of_lt (by omega)

/-- A whole frame at the front of the stream is one datagram. -/
theorem tcp_to_udp_of_frame (fuel index : Nat) {payload rest : Bytes} (hpayload : payload.length ≤ 65535)
    (hstream : reader.stream = frame payload ++ rest) :
    ∃ reader', reader'.stream = rest ∧ reader'.closed = reader.closed ∧
      tcp_to_udp sendto (fuel + 1) index reader =
        (sendto index payload ++ (tcp_to_udp sendto fuel (index + 1) reader').1,
          (tcp_to_udp sendto fuel (index + 1) reader').2) := by
  have hheader : (be 4 payload.length).length = 4 := length_be ..
  rw [frame, List.append_assoc] at hstream
  obtain ⟨reader', hadvanced, hlen_bytes⟩ :
      ∃ reader', reader.Advanced reader' 4 ∧ read_exact reader 4 = .ok (reader.stream.take 4, reader') :=
    read_exact_of_le (by rw [hstream, List.length_append, hheader]; omega)
  have hafter : reader'.stream = payload ++ rest := by
    rw [hadvanced.stream, hstream, List.drop_left' hheader]
  obtain ⟨reader'', hadvanced', hpayload_read⟩ :
      ∃ reader'', reader'.Advanced reader'' payload.length ∧
        read_exact reader' payload.length = .ok (reader'.stream.take payload.length, reader'') :=
    read_exact_of_le (by rw [hafter, List.length_append]; omega)
  refine ⟨reader'', ?_, hadvanced'.closed.trans hadvanced.closed, ?_⟩
  · rw [hadvanced'.stream, hafter, List.drop_left]
  · rw [hstream, List.take_left' hheader] at hlen_bytes
    rw [hafter, List.take_left] at hpayload_read
    rw [tcp_to_udp, hlen_bytes]
    simp only [ofBe_length hpayload, Nat.not_lt.2 hpayload, if_false, hpayload_read]

/-- A stream that ends inside a frame gives nothing for it. -/
theorem tcp_to_udp_of_cut (fuel index : Nat) {payload : Bytes} (hpayload : payload.length ≤ 65535)
    (hstream : reader.stream <+: frame payload) (hcut : reader.stream ≠ frame payload) :
    tcp_to_udp sendto (fuel + 1) index reader = ([], ending reader) := by
  have hheader : (be 4 payload.length).length = 4 := length_be ..
  have hshort : reader.stream.length < 4 + payload.length := by
    have hlt := lt_of_le_of_ne hstream.length_le fun hlength => hcut (hstream.eq_of_length hlength)
    rwa [frame, List.length_append, hheader] at hlt
  by_cases hinside : reader.stream.length < 4
  · rw [tcp_to_udp, read_exact_of_lt hinside]
  · obtain ⟨reader', hadvanced, hlen_bytes⟩ :
        ∃ reader', reader.Advanced reader' 4 ∧ read_exact reader 4 = .ok (reader.stream.take 4, reader') :=
      read_exact_of_le (Nat.not_lt.1 hinside)
    have htake : reader.stream.take 4 = be 4 payload.length := by
      obtain ⟨missing, hmissing⟩ := hstream
      have hfront : (reader.stream ++ missing).take 4 = reader.stream.take 4 :=
        List.take_append_of_le_length (Nat.not_lt.1 hinside)
      rw [← hfront, hmissing, frame, List.take_left' hheader]
    have hrest : reader'.stream.length < payload.length := by
      rw [hadvanced.stream, List.length_drop]
      omega
    have hending : ending reader' = ending reader := by rw [ending, ending, hadvanced.closed]
    rw [tcp_to_udp, hlen_bytes, htake]
    simp only [ofBe_length hpayload, Nat.not_lt.2 hpayload, if_false, read_exact_of_lt hrest, hending]

/-- The loop takes the frames one by one and stops behind the last whole one. -/
theorem tcp_to_udp_of_frames (fuel index : Nat) {datagrams : List Bytes} {next rest : Bytes}
    (hsize : ∀ datagram ∈ datagrams, datagram.length ≤ 65535) (hnext : next.length ≤ 65535)
    (hrest : rest <+: frame next) (hcut : rest ≠ frame next) (hfuel : datagrams.length < fuel)
    (hstream : reader.stream = udp_to_tcp datagrams ++ rest) :
    tcp_to_udp sendto fuel index reader =
      ((datagrams.zipIdx index).flatMap fun entry => sendto entry.2 entry.1, ending reader) := by
  induction datagrams generalizing fuel index reader with
  | nil =>
    obtain ⟨fuel, rfl⟩ := Nat.exists_eq_add_one.2 hfuel
    subst hstream
    exact tcp_to_udp_of_cut fuel index hnext hrest hcut
  | cons datagram datagrams ih =>
    obtain ⟨fuel, rfl⟩ := Nat.exists_eq_add_one.2 (Nat.zero_lt_of_lt hfuel)
    rw [List.forall_mem_cons] at hsize
    have hfirst : reader.stream = frame datagram ++ (udp_to_tcp datagrams ++ rest) := by
      rw [hstream, udp_to_tcp, List.flatMap_cons, List.append_assoc]
      rfl
    obtain ⟨reader', hafter, hclosed, hstep⟩ := tcp_to_udp_of_frame fuel index hsize.1 hfirst
    have hending : ending reader' = ending reader := by rw [ending, ending, hclosed]
    rw [hstep, ih fuel (index + 1) hsize.2 (Nat.lt_of_succ_lt_succ hfuel) hafter, hending]
    rfl

end forwarding

section modes

theorem client_stream_eq (queue : List Bytes) : client_stream queue = udp_to_tcp queue := by
  cases queue <;> rfl

theorem queue_foldl (self : UDPClientProtocol) (datagrams : List (Bytes × Addr)) :
    (datagrams.foldl UDPClientProtocol.datagram_received self).queue =
      self.queue ++ datagrams.map Prod.fst := by
  induction datagrams generalizing self with
  | nil => simp
  | cons datagram datagrams ih =>
    rw [List.foldl_cons, ih, List.map_cons]
    simp [UDPClientProtocol.datagram_received]

/-- Once a datagram has come, the peer's address is known and stays so. -/
theorem peer_addr_received {datagrams : List (Bytes × Addr)} (hsome : datagrams ≠ []) :
    ∃ addr, (UDPClientProtocol.received datagrams).peer_addr = some addr := by
  obtain ⟨earlier, last, rfl⟩ := (List.eq_nil_or_concat datagrams).resolve_left hsome
  refine ⟨last.2, ?_⟩
  rw [UDPClientProtocol.received, List.concat_eq_append, List.foldl_append]
  rfl

theorem length_lt_of_frames (datagrams : List Bytes) (rest : Bytes) :
    datagrams.length < (udp_to_tcp datagrams ++ rest).length + 1 := by
  induction datagrams with
  | nil => simp
  | cons datagram datagrams ih =>
    rw [List.length_append] at ih ⊢
    rw [udp_to_tcp, List.flatMap_cons, List.length_append, ← udp_to_tcp, frame, List.length_append,
      length_be, List.length_cons]
    omega

/-- Sends that pass on each payload, whatever else they say, pass on the datagrams. -/
theorem payloads_flatMap {sendto : Nat → Bytes → List SendTo}
    (hsendto : ∀ index payload, (sendto index payload).map SendTo.payload = [payload])
    (datagrams : List Bytes) (index : Nat) :
    ((datagrams.zipIdx index).flatMap fun entry => sendto entry.2 entry.1).map SendTo.payload = datagrams := by
  induction datagrams generalizing index with
  | nil => rfl
  | cons datagram datagrams ih =>
    rw [List.zipIdx_cons, List.flatMap_cons, List.map_append, hsendto, ih]
    rfl

/-- Datagrams that are read on one side are sent on by the other, all of them and in order, however
TCP cuts the stream of their frames; a frame that is cut off at the end is not. -/
theorem bridge_preserves_datagrams (datagrams : List (Bytes × Addr))
    (hsize : ∀ datagram ∈ datagrams, datagram.1.length ≤ 65535)
    (next rest : Bytes) (hnext : next.length ≤ 65535) (hrest : rest <+: frame next)
    (hcut : rest ≠ frame next) (closed : Bool) (cut : Nat → Nat)
    (local_peer : Nat → List (Bytes × Addr)) (hlocal : ∀ index, local_peer index ≠ []) :
    let queue := (UDPClientProtocol.received datagrams).queue
    let stop := if closed then Stop.ConnectionError else Stop.Waits
    let to_server := server_mode ⟨client_stream queue ++ rest, closed, cut, 0⟩
    let to_client := client_mode local_peer ⟨udp_to_tcp queue ++ rest, closed, cut, 0⟩
    to_server.1.map SendTo.payload = datagrams.map Prod.fst ∧ to_server.2 = stop ∧
      to_client.1.map SendTo.payload = datagrams.map Prod.fst ∧ to_client.2 = stop := by
  intro queue stop to_server to_client
  have hqueue : queue = datagrams.map Prod.fst := queue_foldl .new datagrams
  have hfits : ∀ datagram ∈ queue, datagram.length ≤ 65535 := by
    rw [hqueue]
    intro datagram hmem
    obtain ⟨source, hsource, rfl⟩ := List.mem_map.1 hmem
    exact hsize source hsource
  have hfuel := length_lt_of_frames queue rest
  have hserver : to_server = ((queue.zipIdx 0).flatMap fun entry => server_sendto entry.2 entry.1, stop) := by
    refine tcp_to_udp_of_frames _ 0 hfits hnext hrest hcut ?_ ?_
    · rw [client_stream_eq]
      exact hfuel
    · rw [client_stream_eq]
  have hclient : to_client =
      ((queue.zipIdx 0).flatMap fun entry => client_sendto local_peer entry.2 entry.1, stop) :=
    tcp_to_udp_of_frames _ 0 hfits hnext hrest hcut hfuel rfl
  rw [hserver, hclient, ← hqueue]
  refine ⟨payloads_flatMap (fun _ _ => rfl) queue 0, rfl, payloads_flatMap ?_ queue 0, rfl⟩
  intro index payload
  obtain ⟨addr, haddr⟩ := peer_addr_received (hlocal index)
  rw [client_sendto, haddr]
  rfl

def local_addr : Addr := ("127.0.0.1", 4433)

/-- A datagram of two bytes and an empty one, read byte by byte on both sides. -/
theorem bridge_preserves_two_datagrams :
    let to_server := server_mode ⟨client_stream [[1, 2], []] ++ [0], true, fun _ => 0, 0⟩
    let to_client := client_mode (fun _ => [([], local_addr)])
      ⟨udp_to_tcp [[1, 2], []] ++ [0], true, fun _ => 0, 0⟩
    to_server.1.map SendTo.payload = [[1, 2], []] ∧ to_server.2 = .ConnectionError ∧
      to_client.1.map SendTo.payload = [[1, 2], []] ∧ to_client.2 = .ConnectionError :=
  bridge_preserves_datagrams [([1, 2], local_addr), ([], local_addr)] (by decide) [] [0]
    (by decide) (by decide) (by decide) true (fun _ => 0) (fun _ => [([], local_addr)]) (by simp)

end modes

end udp_tcp_bridge
