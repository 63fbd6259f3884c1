import Voip.Signaling.Message
import Voip.Wire.Fields

namespace voip_core.proto.signaling

open wire

/-- The decoder that a client generates for the message. -/
def PushRetry.decode (payload : Bytes) : Option PushRetry := do
  let fields ← proto.fields payload
  return {
    call_id := ← proto.getLast proto.Value.string "" 1 fields
    caller_id := ← proto.getLast proto.Value.string "" 2 fields
    callee_id := ← proto.getLast proto.Value.string "" 3 fields
    reason := ← proto.getLast proto.Value.int 0 4 fields
    retry_attempt := (← proto.getLast proto.Value.uint 0 5 fields) % 2 ^ 32
    retry_after_ms := (← proto.getLast proto.Value.uint 0 6 fields) % 2 ^ 64 }

/-- The fields of an encoded message, if they can be read. -/
theorem PushRetry.fields_encode_to_vec {retry : PushRetry} {fields : List (Nat × proto.Value)}
    (hread : proto.fields retry.encode_to_vec = some fields) :
    fields = proto.written 1 (utf8 retry.call_id = []) (.delimited (utf8 retry.call_id)) ++
      (proto.written 2 (utf8 retry.caller_id = []) (.delimited (utf8 retry.caller_id)) ++
      (proto.written 3 (utf8 retry.callee_id = []) (.delimited (utf8 retry.callee_id)) ++
      (proto.written 4 ((retry.reason % 2 ^ 64).toNat = 0) (.varint (retry.reason % 2 ^ 64).toNat) ++
      (proto.written 5 (retry.retry_attempt = 0) (.varint retry.retry_attempt) ++
      proto.written 6 (retry.retry_after_ms = 0) (.varint retry.retry_after_ms))))) := by
  rw [proto.fields, encode_to_vec] at hread
  simp only [List.append_assoc, proto.string, proto.int] at hread
  obtain ⟨_, _, hcaller, rfl⟩ := proto.readFields_bytes hread
  obtain ⟨_, _, hcallee, rfl⟩ := proto.readFields_bytes hcaller
  obtain ⟨_, _, hreason, rfl⟩ := proto.readFields_bytes hcallee
  obtain ⟨_, _, hattempt, rfl⟩ := proto.readFields_uint hreason
  obtain ⟨_, _, hafter, rfl⟩ := proto.readFields_uint hattempt
  rw [← List.append_nil (proto.uint 6 _)] at hafter
  obtain ⟨_, _, hend, rfl⟩ := proto.readFields_uint hafter
  rw [proto.readFields] at hend
  cases hend
  simp

/-- An encoded message that can be decoded says which attempt of which call it asks for. -/
theorem PushRetry.decode_encode_to_vec {retry decoded : PushRetry}
    (hdecode : decode retry.encode_to_vec = some decoded) :
    decoded.call_id = retry.call_id ∧ decoded.retry_attempt = retry.retry_attempt % 2 ^ 32 ∧
      decoded.retry_after_ms = retry.retry_after_ms % 2 ^ 64 := by
  unfold decode at hdecode
  obtain ⟨fields, hfields, hdecode⟩ := Option.bind_eq_some_iff.mp hdecode
  obtain ⟨call_id, hcall, hdecode⟩ := Option.bind_eq_some_iff.mp hdecode
  obtain ⟨caller_id, hcaller, hdecode⟩ := Option.bind_eq_some_iff.mp hdecode
  obtain ⟨callee_id, hcallee, hdecode⟩ := Option.bind_eq_some_iff.mp hdecode
  obtain ⟨reason, hreason, hdecode⟩ := Option.bind_eq_some_iff.mp hdecode
  obtain ⟨attempt, hattempt, hdecode⟩ := Option.bind_eq_some_iff.mp hdecode
  obtain ⟨after_ms, hafter, hdecode⟩ := Option.bind_eq_some_iff.mp hdecode
  cases hdecode
  have hwritten := fields_encode_to_vec hfields
  have hid : fields.filter (fun entry => entry.1 = 1) =
      proto.written 1 (utf8 retry.call_id = []) (.delimited (utf8 retry.call_id)) := by
    simp [hwritten]
  have hcount : fields.filter (fun entry => entry.1 = 5) =
      proto.written 5 (retry.retry_attempt = 0) (.varint retry.retry_attempt) := by
    simp [hwritten]
  have hdelay : fields.filter (fun entry => entry.1 = 6) =
      proto.written 6 (retry.retry_after_ms = 0) (.varint retry.retry_after_ms) := by
    simp [hwritten]
  rw [proto.getLast_written hid] at hcall
  rw [proto.getLast_written hcount] at hattempt
  rw [proto.getLast_written hdelay] at hafter
  refine ⟨?_, congrArg (· % 2 ^ 32) ?_, congrArg (· % 2 ^ 64) ?_⟩
  · split at hcall
    next hempty =>
      cases hcall
      exact utf8_inj.mp hempty.symm
    next => simpa [proto.Value.string, fromUTF8?_utf8] using hcall.symm
  · split at hattempt
    next hzero => simpa [hzero] using hattempt.symm
    next => simpa [proto.Value.uint] using hattempt.symm
  · split at hafter
    next hzero => simpa [hzero] using hafter.symm
    next => simpa [proto.Value.uint] using hafter.symm

end voip_core.proto.signaling
