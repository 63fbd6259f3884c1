import Voip.Wire.Proto
import Mathlib.Data.Nat.Bitwise

namespace voip_client.nat_probe

open wire

/-- Why a call does not return. -/
inductive Crash where
  | panic
  | unfinished
  deriving DecidableEq, Repr

structure ParsedProbeResponse where
  observed_ip : String
  observed_port : UInt16
  deriving DecidableEq, Repr

/-- The loop of `decode_varint`: the value so far, the shift of the next group and the number
of bytes read. -/
def decode_varint_loop : Bytes → UInt64 → Nat → Nat → UInt64 × Nat
  | [], value, _, i => (value, i)
  | byte :: rest, value, shift, i =>
    let value := value ||| (byte &&& 0x7F).toUInt64 <<< UInt64.ofNat shift
    if byte &&& 0x80 = 0 then (value, i + 1)
    else if 64 ≤ shift + 7 then (value, i + 1)
    else decode_varint_loop rest value (shift + 7) (i + 1)

def decode_varint (data : Bytes) : UInt64 × Nat := decode_varint_loop data 0 0 0

/-- What `String::from_utf8_lossy` makes of bytes that are not UTF-8 is left open. -/
def from_utf8_lossy (replace : Bytes → String) (bytes : Bytes) : String :=
  (String.fromUTF8? ⟨bytes.toArray⟩).getD (replace bytes)

/-- Positions are of type `usize`; their addition wraps. -/
def advance (pos count : Nat) : Nat := (pos + count) % 2 ^ 64

/-- The variables of the loop of `parse_path_probe_response`. -/
structure Parser where
  pos : Nat
  observed_ip : String
  observed_port : UInt32
  deriving DecidableEq

def skip_varint (data : Bytes) (pos : Nat) : Nat :=
  let (_, val_len) := decode_varint (data.drop pos)
  advance pos val_len

def skip_delimited (data : Bytes) (pos : Nat) : Nat :=
  let (len, len_size) := decode_varint (data.drop pos)
  advance pos (advance len_size len.toNat)

/-- The body of the loop. It gives nothing when it breaks. -/
def Parser.field (replace : Bytes → String) (data : Bytes) (self : Parser) :
    Except Crash (Option Parser) :=
  let (key, key_len) := decode_varint (data.drop self.pos)
  let pos := advance self.pos key_len
  let field_number := (key >>> 3).toUInt32
  let wire_type := (key &&& 0x07).toUInt8
  if field_number = 1 ∧ wire_type = 2 then .ok (some { self with pos := skip_delimited data pos })
  else if field_number = 2 ∧ wire_type = 2 then
    let (len, len_size) := decode_varint (data.drop pos)
    let pos := advance pos len_size
    let stop := advance pos len.toNat
    if stop ≤ data.length then
      -- the slice `data[pos..end]` panics when the addition has wrapped
      if pos ≤ stop then
        .ok (some { self with
          pos := stop
          observed_ip := from_utf8_lossy replace ((data.drop pos).take (stop - pos)) })
      else .error .panic
    else .ok (some { self with pos := stop })
  else if field_number = 3 ∧ wire_type = 0 then
    let (val, val_len) := decode_varint (data.drop pos)
    .ok (some { self with pos := advance pos val_len, observed_port := val.toUInt32 })
  else if field_number = 4 ∧ wire_type = 0 then .ok (some { self with pos := skip_varint data pos })
  else if wire_type = 0 then .ok (some { self with pos := skip_varint data pos })
  else if wire_type = 2 then .ok (some { self with pos := skip_delimited data pos })
  else if wire_type = 1 then .ok (some { self with pos := advance pos 8 })
  else if wire_type = 5 then .ok (some { self with pos := advance pos 4 })
  else .ok none

/-- The loop, for at most `fuel` iterations. -/
def parse_loop (replace : Bytes → String) (data : Bytes) : Nat → Parser → Except Crash Parser
  | 0, _ => .error .unfinished
  | fuel + 1, parser =>
    if parser.pos < data.length then do
      match ← parser.field replace data with
      | some next => parse_loop replace data fuel next
      | none => return parser
    else .ok parser

def parse_path_probe_response (replace : Bytes → String) (fuel : Nat) (data : Bytes) :
    Except Crash ParsedProbeResponse := do
  let parser ← parse_loop replace data fuel ⟨0, "", 0⟩
  return ⟨parser.observed_ip, parser.observed_port.toUInt16⟩

/-- One group goes above the bits that are already there. -/
theorem toNat_or_group {value : UInt64} {shift group : Nat} (hshift : shift < 64)
    (hvalue : value.toNat < 2 ^ shift) (byte : UInt8) (hbyte : byte.toNat % 128 = group)
    (hfits : group * 2 ^ shift < 2 ^ 64) :
    (value ||| (byte &&& 0x7F).toUInt64 <<< UInt64.ofNat shift).toNat = group * 2 ^ shift + value.toNat := by
  have hlow : (byte &&& 0x7F).toNat = group := by
    rw [UInt8.toNat_and, ← hbyte]
    exact Nat.and_two_pow_sub_one_eq_mod byte.toNat 7
  have hcount : (UInt64.ofNat shift).toNat % 64 = shift := by
    rw [UInt64.toNat_ofNat']
    omega
  rw [UInt64.toNat_or, UInt64.toNat_shiftLeft, UInt8.toNat_toUInt64, hlow, hcount, Nat.shiftLeft_eq,
    Nat.mod_eq_of_lt hfits, Nat.or_comm, Nat.mul_comm group, ← Nat.two_pow_add_eq_or_of_lt hvalue]

theorem continuation_eq_zero_iff (byte : UInt8) : byte &&& 0x80 = 0 ↔ byte.toNat < 128 := by
  have hbit : (byte &&& 0x80).toNat = (byte.toNat.testBit 7).toNat * 2 ^ 7 := by
    rw [UInt8.toNat_and]
    exact Nat.and_two_pow byte.toNat 7
  have hbound := byte.toNat_lt
  rw [← UInt8.toNat_inj, hbit, Nat.testBit_eq_decide_div_mod_eq]
  by_cases hlow : byte.toNat < 128
  · simp [hlow, Nat.div_eq_of_lt hlow]
  · have hhigh : byte.toNat / 128 % 2 = 1 := by omega
    simp [hlow, hhigh]

/-- The hand-written reader undoes the standard varint, whatever follows it. -/
theorem decode_varint_loop_leb128 (rest : Bytes) {number shift : Nat} {value : UInt64} (i : Nat)
    (hshift : shift < 64) (hvalue : value.toNat < 2 ^ shift) (hfits : number * 2 ^ shift < 2 ^ 64) :
    decode_varint_loop (leb128 number ++ rest) value shift i =
      (UInt64.ofNat (number * 2 ^ shift + value.toNat), i + (leb128 number).length) := by
  induction number using Nat.strongRecOn generalizing shift value i with
  | ind number ih =>
    by_cases hsmall : number < 128
    · have hbyte : (UInt8.ofNat number).toNat = number := by
        rw [UInt8.toNat_ofNat']
        omega
      have hlast : UInt8.ofNat number &&& 0x80 = 0 := by
        rwa [continuation_eq_zero_iff, hbyte]
      rw [leb128_of_lt hsmall, List.singleton_append, decode_varint_loop, if_pos hlast,
        ← toNat_or_group hshift hvalue (UInt8.ofNat number) (by omega) hfits, UInt64.ofNat_toNat]
      rfl
    · have hlarge := Nat.not_lt.mp hsmall
      have hbyte : (UInt8.ofNat (number % 128 + 128)).toNat = number % 128 + 128 := by
        rw [UInt8.toNat_ofNat']
        omega
      have hmore : ¬UInt8.ofNat (number % 128 + 128) &&& 0x80 = 0 := by
        rw [continuation_eq_zero_iff, hbyte]
        omega
      -- the groups that are left need a shift that is still below 64
      have hpow : 2 ^ (shift + 7) = 128 * 2 ^ shift := by ring
      have hnext : shift + 7 < 64 := by
        have hbound : 2 ^ (shift + 7) < 2 ^ 64 := by
          rw [hpow]
          exact (Nat.mul_le_mul_right _ hlarge).trans_lt hfits
        exact (Nat.pow_lt_pow_iff_right (by omega)).mp hbound
      have hlow : number % 128 * 2 ^ shift < 2 ^ 64 :=
        (Nat.mul_le_mul_right _ (Nat.mod_le number 128)).trans_lt hfits
      have hgroup := toNat_or_group hshift hvalue (UInt8.ofNat (number % 128 + 128)) (by omega) hlow
      have hsplit : number / 128 * 2 ^ (shift + 7) + (number % 128 * 2 ^ shift + value.toNat) =
          number * 2 ^ shift + value.toNat := by
        conv_rhs => rw [← Nat.div_add_mod number 128]
        rw [hpow]
        ring
      have hsum : number % 128 * 2 ^ shift + value.toNat < 2 ^ (shift + 7) := by
        have hgroup_le : number % 128 * 2 ^ shift ≤ 127 * 2 ^ shift := Nat.mul_le_mul_right _ (by omega)
        omega
      have hrest : number / 128 * 2 ^ (shift + 7) < 2 ^ 64 := by
        have hle : number / 128 * 128 ≤ number := Nat.div_mul_le_self number 128
        have hscaled := Nat.mul_le_mul_right (2 ^ shift) hle
        rw [hpow, ← Nat.mul_assoc]
        omega
      rw [leb128_of_ge hlarge, List.cons_append, decode_varint_loop, if_neg hmore, if_neg (by omega),
        ih (number / 128) (by omega) (i + 1) hnext (by omega) hrest, hgroup, hsplit, List.length_cons]
      congr 1
      omega

theorem decode_varint_leb128 {number : Nat} (hnumber : number < 2 ^ 64) (rest : Bytes) :
    decode_varint (leb128 number ++ rest) = (UInt64.ofNat number, (leb128 number).length) := by
  have hread : decode_varint_loop (leb128 number ++ rest) 0 0 0 =
      (UInt64.ofNat (number * 2 ^ 0 + (0 : UInt64).toNat), 0 + (leb128 number).length) :=
    decode_varint_loop_leb128 rest 0 (by omega) (by simp) (by simpa using hnumber)
  simpa [decode_varint] using hread

end voip_client.nat_probe
