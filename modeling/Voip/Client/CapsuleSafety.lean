import Voip.Client.CapsuleCodec
import Voip.Machine.Checked

namespace voip_client.masque

open wire checked result

/-- `decode_datagram_capsule` with the faults of its slices and of its arithmetic. Reading a varint
has none: it looks at the length of the data before it takes any bytes. -/
def decode_datagram_capsule_checked (data : Bytes) : Except Fault (Except MasqueError Bytes) := do
  let (capsule_type, ct_len) := decode_h2_varint (← sliceFrom data 0)
  let pos ← add 64 0 ct_len
  if capsule_type ≠ 0 then
    return .error (.Http2Error ("expected DATAGRAM capsule type 0, got " ++ toString capsule_type))
  else
    let (capsule_len, cl_len) := decode_h2_varint (← sliceFrom data pos)
    let pos ← add 64 pos cl_len
    let (_quarter_stream_id, qs_len) := decode_h2_varint (← sliceFrom data pos)
    let pos ← add 64 pos qs_len
    let finish ← sub (← add 64 pos capsule_len) qs_len
    if finish > data.length then
      let expected ← sub finish pos
      let have_ ← sub data.length pos
      return .error (.Http2Error ("capsule payload truncated: expected " ++ toString expected ++
        " bytes, have " ++ toString have_))
    else
      return .ok (← slice data pos finish)

/-- An outcome of the decoder as its faults have it. -/
def Outcome.checked {α : Type} : Outcome α → Except Fault (Except MasqueError α)
  | .Ok value => .ok (.ok value)
  | .Err error => .ok (.error error)
  | .panic => .error .slice

/-- The length that a capsule declares. -/
def capsule_len (data : Bytes) : Nat :=
  let (_, ct_len) := decode_h2_varint data
  (decode_h2_varint (data.drop ct_len)).1

/-- The bytes that the quarter stream id of a capsule takes. -/
def quarter_stream_id_len (data : Bytes) : Nat :=
  let (_, ct_len) := decode_h2_varint data
  let (_, cl_len) := decode_h2_varint (data.drop ct_len)
  (decode_h2_varint (data.drop (ct_len + cl_len))).2

theorem decode_h2_varint_le (data : Bytes) : (decode_h2_varint data).2 ≤ data.length := by
  obtain hnone | ⟨value, bytes, rest, -, rfl, hread⟩ := decode_h2_varint_cases data
  · simp [hnone]
  · simp [hread]

theorem decode_h2_varint_lt (data : Bytes) : (decode_h2_varint data).1 < 2 ^ 62 := by
  obtain hnone | ⟨value, bytes, rest, hvarint, rfl, hread⟩ := decode_h2_varint_cases data
  · simp [hnone]
  · rw [hread]
    exact hvarint.lt

/-- Nothing can go wrong but the last slice. -/
theorem decode_datagram_capsule_checked_eq {data : Bytes} (hlength : data.length < 2 ^ 63) :
    decode_datagram_capsule_checked data = (decode_datagram_capsule data).checked := by
  obtain ⟨capsule_type, ct_len, htype⟩ : ∃ value size, decode_h2_varint data = (value, size) := ⟨_, _, rfl⟩
  have hct := decode_h2_varint_le data
  rw [htype] at hct
  obtain ⟨capsule_len, cl_len, hlen⟩ : ∃ value size, decode_h2_varint (data.drop ct_len) = (value, size) :=
    ⟨_, _, rfl⟩
  have hcl := decode_h2_varint_le (data.drop ct_len)
  have hbound := decode_h2_varint_lt (data.drop ct_len)
  rw [hlen, List.length_drop] at hcl
  rw [hlen] at hbound
  obtain ⟨quarter, qs_len, hstream⟩ :
      ∃ value size, decode_h2_varint (data.drop (ct_len + cl_len)) = (value, size) := ⟨_, _, rfl⟩
  have hqs := decode_h2_varint_le (data.drop (ct_len + cl_len))
  rw [hstream, List.length_drop] at hqs
  have hpos : ct_len + cl_len + qs_len ≤ data.length := by omega
  have hfirst : sliceFrom data 0 = .ok data := sliceFrom_of_le (Nat.zero_le _)
  have hstart : add 64 0 ct_len = .ok ct_len := (add_of_lt (by omega)).trans (by rw [Nat.zero_add])
  simp only [decode_datagram_capsule_checked, decode_datagram_capsule, hfirst, hstart, ok_bind, htype,
    sliceFrom_of_le hct, hlen]
  by_cases hzero : capsule_type ≠ 0
  · rw [if_pos hzero, if_pos hzero]
    rfl
  rw [if_neg hzero, if_neg hzero, add_of_lt (by omega), ok_bind, sliceFrom_of_le (by omega), ok_bind]
  simp only [hstream]
  rw [add_of_lt (by omega), ok_bind, add_of_lt (by omega), ok_bind, sub_of_le (by omega), ok_bind]
  by_cases hlong : ct_len + cl_len + qs_len + capsule_len - qs_len > data.length
  · rw [if_pos hlong, if_pos hlong, sub_of_le (by omega), ok_bind, sub_of_le hpos, ok_bind]
    rfl
  rw [if_neg hlong, if_neg hlong]
  by_cases hbefore : ct_len + cl_len + qs_len + capsule_len - qs_len < ct_len + cl_len + qs_len
  · rw [if_pos hbefore, slice_of_lt hbefore]
    rfl
  · rw [if_neg hbefore, slice_of_le (by omega) (by omega)]
    rfl

/-- A capsule whose declared length is too small for its quarter stream id. -/
def TooShort (data : Bytes) : Prop :=
  ∃ capsule_type length quarter_stream_id rest len id, IsQuicVarint 0 capsule_type ∧ IsQuicVarint len length ∧
    IsQuicVarint id quarter_stream_id ∧ data = capsule_type ++ (length ++ (quarter_stream_id ++ rest)) ∧
    len < quarter_stream_id.length

/-- The decoder returns, and the packet is a part of the input of the length that is declared. -/
def DecodesSafely (data : Bytes) : Prop :=
  ∃ result, decode_datagram_capsule_checked data = .ok result ∧
    ∀ p, result = .ok p → p <:+: data ∧ p.length + quarter_stream_id_len data = capsule_len data

/-- Where a varint is cut off, nothing is read and the cursor stays, so that all that follow are
cut off too. -/
theorem tooShort_iff (data : Bytes) :
    TooShort data ↔ (decode_h2_varint data).1 = 0 ∧ capsule_len data < quarter_stream_id_len data := by
  constructor
  · rintro ⟨capsule_type, length, id_bytes, rest, len, id, htype, hlength, hid, rfl, hshort⟩
    simp only [capsule_len, quarter_stream_id_len, decode_h2_varint_append htype, List.drop_left,
      decode_h2_varint_append hlength, ← List.drop_drop, decode_h2_varint_append hid]
    exact ⟨trivial, hshort⟩
  · rintro ⟨hzero, hshort⟩
    obtain hnone | ⟨value, capsule_type, rest, htype, rfl, hread⟩ := decode_h2_varint_cases data
    · simp [capsule_len, quarter_stream_id_len, hnone] at hshort
    simp only [hread] at hzero
    simp only [capsule_len, quarter_stream_id_len, hread, List.drop_left, ← List.drop_drop] at hshort
    obtain hnone | ⟨len, length, rest, hlength, rfl, hread⟩ := decode_h2_varint_cases rest
    · simp [hnone] at hshort
    simp only [hread, List.drop_left] at hshort
    obtain hnone | ⟨id, id_bytes, rest, hid, rfl, hread⟩ := decode_h2_varint_cases rest
    · simp [hnone] at hshort
    rw [hread] at hshort
    exact ⟨_, _, _, rest, len, id, hzero ▸ htype, hlength, hid, rfl, hshort⟩

theorem decode_datagram_capsule_eq_panic (data : Bytes) :
    decode_datagram_capsule data = .panic ↔
      (decode_h2_varint data).1 = 0 ∧ capsule_len data < quarter_stream_id_len data := by
  have hct := decode_h2_varint_le data
  have hcl := decode_h2_varint_le (data.drop (decode_h2_varint data).2)
  have hqs := decode_h2_varint_le
    (data.drop ((decode_h2_varint data).2 + (decode_h2_varint (data.drop (decode_h2_varint data).2)).2))
  simp only [List.length_drop] at hcl hqs
  simp only [decode_datagram_capsule, capsule_len, quarter_stream_id_len]
  split
  next hzero => simp_all
  next hzero =>
    rw [ne_eq, not_not] at hzero
    split
    next hlong =>
      simp only [reduceCtorEq, false_iff, not_and]
      omega
    next hfits =>
      split
      next hbefore => exact iff_of_true rfl ⟨hzero, by omega⟩
      next hafter =>
        simp only [reduceCtorEq, false_iff, not_and]
        omega

theorem infix_of_decode_datagram_capsule {data p : Bytes} (hok : decode_datagram_capsule data = .Ok p) :
    p <:+: data ∧ p.length + quarter_stream_id_len data = capsule_len data := by
  have hzero : (decode_h2_varint data).1 = 0 := by
    by_contra hne
    simp [decode_datagram_capsule, hne] at hok
  have htype : decode_h2_varint data = (0, (decode_h2_varint data).2) := Prod.ext hzero rfl
  obtain ⟨hle, hfits, rfl⟩ := (decode_datagram_capsule_eq_ok htype Prod.mk.eta.symm Prod.mk.eta.symm).mp hok
  refine ⟨(List.take_prefix ..).isInfix.trans (List.drop_suffix ..).isInfix, ?_⟩
  rw [List.length_take, List.length_drop]
  simp only [capsule_len, quarter_stream_id_len]
  omega

/-- The decoder is safe on exactly the data that is not a capsule too short for its own quarter
stream id. The bound is that of the memory that a slice can span. -/
theorem decodes_safely_iff (data : Bytes) (hlength : data.length < 2 ^ 63) :
    DecodesSafely data ↔ ¬TooShort data := by
  rw [tooShort_iff, ← decode_datagram_capsule_eq_panic]
  unfold DecodesSafely
  rw [decode_datagram_capsule_checked_eq hlength]
  cases houtcome : decode_datagram_capsule data with
  | Ok p =>
    refine iff_of_true ⟨.ok p, rfl, ?_⟩ nofun
    intro packet hpacket
    cases hpacket
    exact infix_of_decode_datagram_capsule houtcome
  | Err error => exact iff_of_true ⟨.error error, rfl, nofun⟩ nofun
  | panic =>
    refine iff_of_false ?_ (fun hnot => hnot rfl)
    rintro ⟨result, hresult, -⟩
    cases hresult

/-- A capsule of length zero ends before its quarter stream id. -/
theorem not_decodes_safely_of_length_zero :
    decode_datagram_capsule_checked [0, 0, 0] = .error .slice ∧ ¬DecodesSafely [0, 0, 0] := by
  have hfault : decode_datagram_capsule_checked [0, 0, 0] = .error .slice := by decide
  refine ⟨hfault, ?_⟩
  rintro ⟨result, hresult, -⟩
  rw [hfault] at hresult
  cases hresult

/-- A capsule that holds one byte. -/
theorem decodes_safely_of_one_byte : DecodesSafely [0, 2, 0, 7] := by
  refine (decodes_safely_iff [0, 2, 0, 7] (by decide)).mpr ?_
  rw [tooShort_iff]
  decide

end voip_client.masque
