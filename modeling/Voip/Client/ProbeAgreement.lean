import Voip.Client.NatProbe
import Voip.Signaling.QuicProbe

namespace voip_client.nat_probe

open wire

/-- A position that fits is not changed by wrapping. -/
theorem advance_of_lt {pos count : Nat} (hfits : pos + count < 2 ^ 64) : advance pos count = pos + count :=
  Nat.mod_eq_of_lt hfits

section

variable {replace : Bytes → String} {data : Bytes}

/-- The loop ends with the given result after at most `fuel` iterations. -/
def Finishes (replace : Bytes → String) (data : Bytes) (fuel : Nat) (parser result : Parser) : Prop :=
  ∀ more, fuel ≤ more → parse_loop replace data more parser = .ok result

theorem finishes_done {parser : Parser} (hpos : data.length ≤ parser.pos) :
    Finishes replace data 1 parser parser := by
  intro more hmore
  obtain ⟨fuel, rfl⟩ := Nat.exists_eq_add_of_le' hmore
  rw [parse_loop, if_neg (by omega)]

theorem Finishes.mono {fuel more : Nat} {parser result : Parser}
    (hfinishes : Finishes replace data fuel parser result) (hmore : fuel ≤ more) :
    Finishes replace data more parser result :=
  fun most hmost => hfinishes most (hmore.trans hmost)

theorem Finishes.step {fuel : Nat} {parser next result : Parser} (hpos : parser.pos < data.length)
    (hfield : parser.field replace data = .ok (some next))
    (hnext : Finishes replace data fuel next result) : Finishes replace data (fuel + 1) parser result := by
  intro more hmore
  obtain ⟨rest, rfl⟩ := Nat.exists_eq_add_of_le' hmore
  rw [← Nat.add_assoc, parse_loop, if_pos hpos, hfield]
  exact hnext _ (by omega)

/-- One piece of the encoding, which is omitted or read in one iteration. -/
theorem Finishes.piece {fuel : Nat} {parser next result : Parser} {piece rest : Bytes}
    (hdrop : data.drop parser.pos = piece ++ rest) (hempty : piece = [] → next = parser)
    (hfield : piece ≠ [] → parser.field replace data = .ok (some next))
    (hnext : Finishes replace data fuel next result) : Finishes replace data (fuel + 1) parser result := by
  by_cases hpiece : piece = []
  · rw [hempty hpiece] at hnext
    exact hnext.mono (Nat.le_succ fuel)
  · have hpos : parser.pos < data.length := by
      by_contra hover
      rw [List.drop_eq_nil_of_le (Nat.not_lt.mp hover)] at hdrop
      exact hpiece (List.append_eq_nil_iff.mp hdrop.symm).1
    exact Finishes.step hpos (hfield hpiece) hnext

/-- A vector holds at most `isize::MAX` bytes. -/
def FitsMemory (data : Bytes) : Prop := data.length < 2 ^ 63

instance (data : Bytes) : Decidable (FitsMemory data) := inferInstanceAs (Decidable (_ < _))

/-- A varint inside the data is read, and the position after it does not wrap. -/
theorem read_varint (hdata : FitsMemory data) {pos number : Nat} {rest : Bytes} (hpos : pos ≤ data.length)
    (hnumber : number < 2 ^ 64) (hdrop : data.drop pos = leb128 number ++ rest) :
    decode_varint (data.drop pos) = (UInt64.ofNat number, (leb128 number).length) ∧
      advance pos (leb128 number).length = pos + (leb128 number).length ∧
      pos + (leb128 number).length ≤ data.length ∧ data.drop (pos + (leb128 number).length) = rest := by
  have hbound := add_le_of_drop hpos hdrop
  refine ⟨?_, advance_of_lt ?_, hbound, drop_add hdrop⟩
  · rw [hdrop, decode_varint_leb128 hnumber]
  · unfold FitsMemory at hdata
    omega

theorem skip_varint_eq (hdata : FitsMemory data) {pos number : Nat} {rest : Bytes} (hpos : pos ≤ data.length)
    (hnumber : number < 2 ^ 64) (hdrop : data.drop pos = leb128 number ++ rest) :
    skip_varint data pos = pos + (leb128 number).length := by
  obtain ⟨hread, hadvance, -, -⟩ := read_varint hdata hpos hnumber hdrop
  rw [skip_varint, hread]
  exact hadvance

/-- The length of a value inside the data is a number that the reader can hold. -/
theorem toNat_length (hdata : FitsMemory data) {pos : Nat} {front value rest : Bytes}
    (hdrop : data.drop pos = front ++ (value ++ rest)) : (UInt64.ofNat value.length).toNat = value.length := by
  have hlength := congrArg List.length hdrop
  simp only [List.length_drop, List.length_append] at hlength
  unfold FitsMemory at hdata
  rw [UInt64.toNat_ofNat', Nat.mod_eq_of_lt]
  omega

theorem skip_delimited_eq (hdata : FitsMemory data) {pos : Nat} {value rest : Bytes}
    (hpos : pos ≤ data.length) (hdrop : data.drop pos = leb128 value.length ++ (value ++ rest)) :
    skip_delimited data pos = pos + ((leb128 value.length).length + value.length) := by
  have hvalue := toNat_length hdata hdrop
  have hnumber : value.length < 2 ^ 64 := by
    rw [← hvalue]
    exact UInt64.toNat_lt _
  obtain ⟨hread, -, hbound, hrest⟩ := read_varint hdata hpos hnumber hdrop
  have hstop := add_le_of_drop hbound hrest
  unfold FitsMemory at hdata
  rw [skip_delimited, hread]
  dsimp only
  have hinner : advance (leb128 value.length).length value.length =
      (leb128 value.length).length + value.length := advance_of_lt (by omega)
  rw [hvalue, hinner, advance_of_lt (by omega)]

theorem length_key {field wireType : Nat} (hsmall : field * 8 + wireType < 128) :
    (proto.key field wireType).length = 1 := by
  simp [proto.key, leb128_of_lt hsmall]

/-- The first step of the body: the key of the field. -/
theorem read_key (hdata : FitsMemory data) {pos field wireType : Nat} {rest : Bytes} (hpos : pos ≤ data.length)
    (hsmall : field * 8 + wireType < 128) (hdrop : data.drop pos = proto.key field wireType ++ rest) :
    decode_varint (data.drop pos) = (UInt64.ofNat (field * 8 + wireType), 1) ∧
      advance pos 1 = pos + 1 ∧ pos + 1 ≤ data.length ∧ data.drop (pos + 1) = rest := by
  have hread := read_varint hdata hpos (by omega) hdrop
  rwa [show (leb128 (field * 8 + wireType)).length = 1 from length_key hsmall] at hread

theorem length_delimited {field : Nat} (value : Bytes) (hsmall : field * 8 + 2 < 128) :
    (proto.delimited field value).length = 1 + ((leb128 value.length).length + value.length) := by
  simp only [proto.delimited, length_key hsmall, List.length_append]
  omega

/-- The server's address is skipped. -/
theorem field_server_ip (hdata : FitsMemory data) {parser : Parser} {value rest : Bytes}
    (hpos : parser.pos ≤ data.length)
    (hdrop : data.drop parser.pos = proto.delimited 1 value ++ rest) :
    parser.field replace data =
      .ok (some { parser with pos := parser.pos + (proto.delimited 1 value).length }) := by
  rw [proto.delimited, List.append_assoc, List.append_assoc] at hdrop
  obtain ⟨hkey, hadvance, hbound, hrest⟩ := read_key hdata hpos (by omega) hdrop
  rw [Parser.field, hkey]
  dsimp only
  rw [hadvance, skip_delimited_eq hdata hbound hrest, length_delimited value (by omega),
    if_pos (by decide), Nat.add_assoc]

/-- The observed address is read as the text that was written. -/
theorem field_observed_ip (hdata : FitsMemory data) {parser : Parser} {text : String} {rest : Bytes}
    (hpos : parser.pos ≤ data.length)
    (hdrop : data.drop parser.pos = proto.delimited 2 (utf8 text) ++ rest) :
    parser.field replace data =
      .ok (some { parser with
        pos := parser.pos + (proto.delimited 2 (utf8 text)).length
        observed_ip := text }) := by
  rw [proto.delimited, List.append_assoc, List.append_assoc] at hdrop
  obtain ⟨hkey, hadvance, hbound, hrest⟩ := read_key hdata hpos (by omega) hdrop
  have hvalue := toNat_length hdata hrest
  have hnumber : (utf8 text).length < 2 ^ 64 := by
    rw [← hvalue]
    exact UInt64.toNat_lt _
  obtain ⟨hread, hadvance', hbound', hrest'⟩ := read_varint hdata hbound hnumber hrest
  have hstop := add_le_of_drop hbound' hrest'
  have hadvance'' : advance (parser.pos + 1 + (leb128 (utf8 text).length).length) (utf8 text).length =
      parser.pos + 1 + (leb128 (utf8 text).length).length + (utf8 text).length := by
    unfold FitsMemory at hdata
    exact advance_of_lt (by omega)
  rw [Parser.field, hkey]
  dsimp only
  rw [if_neg (by decide), if_pos (by decide), hadvance, hread]
  dsimp only
  rw [hadvance', hvalue, hadvance'', if_pos hstop, if_pos (Nat.le_add_right _ _), hrest',
    Nat.add_sub_cancel_left, List.take_left, from_utf8_lossy, fromUTF8?_utf8,
    length_delimited _ (by omega)]
  simp only [Option.getD_some, Nat.add_assoc]

/-- The observed port is read as the number that was written. -/
theorem field_observed_port (hdata : FitsMemory data) {parser : Parser} {number : Nat} {rest : Bytes}
    (hpos : parser.pos ≤ data.length) (hnumber : number < 2 ^ 64)
    (hdrop : data.drop parser.pos = proto.key 3 0 ++ leb128 number ++ rest) :
    parser.field replace data =
      .ok (some { parser with
        pos := parser.pos + (proto.key 3 0 ++ leb128 number).length
        observed_port := (UInt64.ofNat number).toUInt32 }) := by
  rw [List.append_assoc] at hdrop
  obtain ⟨hkey, hadvance, hbound, hrest⟩ := read_key hdata hpos (by omega) hdrop
  obtain ⟨hread, hadvance', -, -⟩ := read_varint hdata hbound hnumber hrest
  rw [Parser.field, hkey]
  dsimp only
  rw [if_neg (by decide), if_neg (by decide), if_pos (by decide), hadvance, hread]
  dsimp only
  rw [hadvance', Nat.add_assoc, List.length_append, length_key (by omega)]

/-- The timestamp is skipped. -/
theorem field_timestamp_ms (hdata : FitsMemory data) {parser : Parser} {number : Nat} {rest : Bytes}
    (hpos : parser.pos ≤ data.length) (hnumber : number < 2 ^ 64)
    (hdrop : data.drop parser.pos = proto.key 4 0 ++ leb128 number ++ rest) :
    parser.field replace data =
      .ok (some { parser with pos := parser.pos + (proto.key 4 0 ++ leb128 number).length }) := by
  rw [List.append_assoc] at hdrop
  obtain ⟨hkey, hadvance, hbound, hrest⟩ := read_key hdata hpos (by omega) hdrop
  rw [Parser.field, hkey]
  dsimp only
  rw [if_neg (by decide), if_neg (by decide), if_neg (by decide), if_pos (by decide), hadvance,
    skip_varint_eq hdata hbound hnumber hrest, Nat.add_assoc, List.length_append, length_key (by omega)]

variable {fuel : Nat} {parser result : Parser} {rest : Bytes}

theorem finishes_server_ip (hdata : FitsMemory data) (hpos : parser.pos ≤ data.length) {text : String}
    (hdrop : data.drop parser.pos = proto.string 1 text ++ rest)
    (hnext : Finishes replace data fuel
      { parser with pos := parser.pos + (proto.string 1 text).length } result) :
    Finishes replace data (fuel + 1) parser result := by
  refine Finishes.piece hdrop ?_ ?_ hnext
  · intro hpiece
    simp [hpiece]
  · intro hpiece
    have hstring := proto.string_of_ne_nil hpiece
    rw [hstring] at hdrop ⊢
    exact field_server_ip hdata hpos hdrop

theorem finishes_observed_ip (hdata : FitsMemory data) (hpos : parser.pos ≤ data.length) {text : String}
    (hip : parser.observed_ip = "") (hdrop : data.drop parser.pos = proto.string 2 text ++ rest)
    (hnext : Finishes replace data fuel
      { parser with pos := parser.pos + (proto.string 2 text).length, observed_ip := text } result) :
    Finishes replace data (fuel + 1) parser result := by
  refine Finishes.piece hdrop ?_ ?_ hnext
  · intro hpiece
    have htext : text = parser.observed_ip := (proto.eq_empty_of_string hpiece).trans hip.symm
    rw [hpiece, htext]
    rfl
  · intro hpiece
    have hstring := proto.string_of_ne_nil hpiece
    rw [hstring] at hdrop ⊢
    exact field_observed_ip hdata hpos hdrop

theorem finishes_observed_port (hdata : FitsMemory data) (hpos : parser.pos ≤ data.length) {port : UInt32}
    (hport : parser.observed_port = 0) (hdrop : data.drop parser.pos = proto.uint 3 port.toNat ++ rest)
    (hnext : Finishes replace data fuel
      { parser with pos := parser.pos + (proto.uint 3 port.toNat).length, observed_port := port } result) :
    Finishes replace data (fuel + 1) parser result := by
  refine Finishes.piece hdrop ?_ ?_ hnext
  · intro hpiece
    have hzero : port = parser.observed_port := by
      rw [hport, ← UInt32.toNat_inj]
      exact proto.eq_zero_of_uint hpiece
    rw [hpiece, hzero]
    rfl
  · intro hpiece
    have huint := proto.uint_of_ne_nil hpiece
    have hnumber : port.toNat < 2 ^ 64 := port.toNat_lt.trans (by decide)
    rw [huint] at hdrop ⊢
    rw [field_observed_port hdata hpos hnumber hdrop]
    simp

theorem finishes_timestamp_ms (hdata : FitsMemory data) (hpos : parser.pos ≤ data.length)
    {timestamp : UInt64} (hdrop : data.drop parser.pos = proto.uint 4 timestamp.toNat ++ rest)
    (hnext : Finishes replace data fuel
      { parser with pos := parser.pos + (proto.uint 4 timestamp.toNat).length } result) :
    Finishes replace data (fuel + 1) parser result := by
  refine Finishes.piece hdrop ?_ ?_ hnext
  · intro hpiece
    simp [hpiece]
  · intro hpiece
    have huint := proto.uint_of_ne_nil hpiece
    rw [huint] at hdrop ⊢
    exact field_timestamp_ms hdata hpos timestamp.toNat_lt hdrop

end

open voip_signaling.quic_probe voip_core.proto.signaling

/-- The loop reads the four fields one after the other. -/
theorem parse_loop_encode_to_vec (replace : Bytes → String) (response : PathProbeResponse)
    (hdata : FitsMemory response.encode_to_vec) :
    ∃ stop, Finishes replace response.encode_to_vec 5 ⟨0, "", 0⟩
      ⟨stop, response.observed_ip, response.observed_port⟩ := by
  generalize hencode : response.encode_to_vec = data at hdata
  have hserver : data.drop 0 = proto.string 1 response.server_ip ++
      (proto.string 2 response.observed_ip ++ (proto.uint 3 response.observed_port.toNat ++
        (proto.uint 4 response.timestamp_ms.toNat ++ []))) := by
    simp [← hencode, PathProbeResponse.encode_to_vec]
  have hip := drop_add hserver
  have hip_pos := add_le_of_drop (Nat.zero_le _) hserver
  have hport := drop_add hip
  have hport_pos := add_le_of_drop hip_pos hip
  have htimestamp := drop_add hport
  have htimestamp_pos := add_le_of_drop hport_pos hport
  have hend := drop_add htimestamp
  exact ⟨_, finishes_server_ip hdata (Nat.zero_le _) hserver <|
    finishes_observed_ip hdata hip_pos rfl hip <|
    finishes_observed_port hdata hport_pos rfl hport <|
    finishes_timestamp_ms hdata htimestamp_pos htimestamp <|
    finishes_done (List.drop_eq_nil_iff.mp hend)⟩

/-- The client reads, from the payload that the server builds, the address and the port that
the server has observed. -/
theorem parse_build_path_probe_response (replace : Bytes → String) (server_ip observed_ip : String)
    {observed_port : UInt32} (hport : observed_port.toNat ≤ 65535) (timestamp_ms : UInt64)
    (hmemory : FitsMemory
      (build_path_probe_response server_ip observed_ip observed_port timestamp_ms).payload)
    {fuel : Nat} (hfuel : 5 ≤ fuel) :
    ∃ parsed, parse_path_probe_response replace fuel
        (build_path_probe_response server_ip observed_ip observed_port timestamp_ms).payload = .ok parsed ∧
      parsed.observed_ip = observed_ip ∧ parsed.observed_port.toNat = observed_port.toNat := by
  obtain ⟨stop, hfinishes⟩ := parse_loop_encode_to_vec replace
    (PathProbeResponse.mk server_ip observed_ip observed_port timestamp_ms) hmemory
  refine ⟨⟨observed_ip, observed_port.toUInt16⟩, ?_, rfl, ?_⟩
  · rw [parse_path_probe_response]
    have hloop := hfinishes fuel hfuel
    dsimp only [build_path_probe_response] at hloop ⊢
    rw [hloop]
    rfl
  · rw [UInt32.toNat_toUInt16]
    omega

/-- A response for an IPv6 client, and one in which every field has its default. -/
theorem parse_build_path_probe_response_examples :
    (∃ parsed, parse_path_probe_response (fun _ => "") 5
        (build_path_probe_response "192.0.2.1" "2001:db8::7" 54321 1700000000000).payload = .ok parsed ∧
      parsed.observed_ip = "2001:db8::7" ∧ parsed.observed_port.toNat = 54321) ∧
    ∃ parsed, parse_path_probe_response (fun _ => "") 5
        (build_path_probe_response "" "" 0 0).payload = .ok parsed ∧
      parsed.observed_ip = "" ∧ parsed.observed_port.toNat = 0 :=
  ⟨parse_build_path_probe_response _ _ _ (by decide) _ (by decide +kernel) (Nat.le_refl 5),
    parse_build_path_probe_response _ _ _ (by decide) _ (by decide +kernel) (Nat.le_refl 5)⟩

end voip_client.nat_probe
