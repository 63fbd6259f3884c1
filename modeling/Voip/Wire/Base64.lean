import Voip.Wire.Bytes
import Mathlib.Data.List.TakeWhile
import Mathlib.Tactic.IntervalCases

namespace wire.base64

/-- The four six-bit digits of three bytes. -/
def digit0 (b0 : UInt8) : UInt32 := b0.toUInt32 >>> 2 &&& 0x3F
def digit1 (b0 b1 : UInt8) : UInt32 := (b0.toUInt32 &&& 0x03) <<< 4 ||| (b1.toUInt32 >>> 4 &&& 0x0F)
def digit2 (b1 b2 : UInt8) : UInt32 := (b1.toUInt32 &&& 0x0F) <<< 2 ||| (b2.toUInt32 >>> 6 &&& 0x03)
def digit3 (b2 : UInt8) : UInt32 := b2.toUInt32 &&& 0x3F

/-- The six-bit digits of bytes. A last group of one or two bytes is filled with zero bits
and has two or three digits. -/
def sextets : Bytes → List UInt32
  | [] => []
  | [b0] => [digit0 b0, digit1 b0 0]
  | [b0, b1] => [digit0 b0, digit1 b0 b1, digit2 b1 0]
  | b0 :: b1 :: b2 :: rest =>
    digit0 b0 :: digit1 b0 b1 :: digit2 b1 b2 :: digit3 b2 :: sextets rest

/-- Three bytes in one number. -/
def triple (b0 b1 b2 : UInt8) : UInt32 := b0.toUInt32 <<< 16 ||| b1.toUInt32 <<< 8 ||| b2.toUInt32

private theorem toNat_and_mask (value mask : UInt32) (bits : Nat) (hmask : mask.toNat = 2 ^ bits - 1) :
    (value &&& mask).toNat = value.toNat % 2 ^ bits := by
  rw [UInt32.toNat_and, hmask, Nat.and_two_pow_sub_one_eq_mod]

private theorem toNat_shiftRight (value shift : UInt32) (hshift : shift.toNat < 32) :
    (value >>> shift).toNat = value.toNat / 2 ^ shift.toNat := by
  rw [UInt32.toNat_shiftRight, Nat.mod_eq_of_lt hshift, Nat.shiftRight_eq_div_pow]

/-- Bits above a number that leaves room for them. -/
private theorem toNat_shiftLeft_or {high low shift : UInt32} (hshift : shift.toNat < 32)
    (hhigh : high.toNat * 2 ^ shift.toNat < 2 ^ 32) (hlow : low.toNat < 2 ^ shift.toNat) :
    (high <<< shift ||| low).toNat = high.toNat * 2 ^ shift.toNat + low.toNat := by
  rw [UInt32.toNat_or, UInt32.toNat_shiftLeft, Nat.mod_eq_of_lt hshift, Nat.shiftLeft_eq,
    Nat.mod_eq_of_lt hhigh, Nat.mul_comm, ← Nat.two_pow_add_eq_or_of_lt hlow]

/-- Low bits of one number above bits of another. -/
private theorem toNat_masked_or {high low highMask lowMask shift : UInt32} (highBits lowBits : Nat)
    (hshift : shift.toNat = lowBits) (hwidth : highBits + lowBits < 32)
    (hhigh : highMask.toNat = 2 ^ highBits - 1) (hlow : lowMask.toNat = 2 ^ lowBits - 1) :
    ((high &&& highMask) <<< shift ||| (low &&& lowMask)).toNat =
      high.toNat % 2 ^ highBits * 2 ^ lowBits + low.toNat % 2 ^ lowBits := by
  have hlt : high.toNat % 2 ^ highBits * 2 ^ lowBits < 2 ^ 32 := by
    have hmod := Nat.mod_lt high.toNat (Nat.two_pow_pos highBits)
    have hmul := Nat.mul_lt_mul_of_pos_right hmod (Nat.two_pow_pos lowBits)
    rw [← Nat.pow_add] at hmul
    exact hmul.trans (Nat.pow_lt_pow_right (by omega) hwidth)
  rw [toNat_shiftLeft_or (by omega), toNat_and_mask _ _ _ hhigh, toNat_and_mask _ _ _ hlow, hshift]
  · rwa [toNat_and_mask _ _ _ hhigh, hshift]
  · rw [toNat_and_mask _ _ _ hlow, hshift]
    exact Nat.mod_lt _ (Nat.two_pow_pos lowBits)

section triple

variable (b0 b1 b2 : UInt8)

theorem toNat_triple : (triple b0 b1 b2).toNat = b0.toNat * 65536 + b1.toNat * 256 + b2.toNat := by
  have h0 := b0.toNat_lt
  have h1 := b1.toNat_lt
  have h2 := b2.toNat_lt
  have hlow : (b1.toUInt32 <<< 8 ||| b2.toUInt32).toNat = b1.toNat * 256 + b2.toNat := by
    rw [toNat_shiftLeft_or (by decide)]
    · rfl
    · simp only [UInt8.toNat_toUInt32, UInt32.reduceToNat]
      omega
    · exact h2
  rw [triple, UInt32.or_assoc, toNat_shiftLeft_or (by decide), hlow]
  · simp only [UInt8.toNat_toUInt32, UInt32.reduceToNat]
    omega
  · simp only [UInt8.toNat_toUInt32, UInt32.reduceToNat]
    omega
  · rw [hlow]
    simp only [UInt32.reduceToNat]
    omega

/-- The digits of three bytes are cut out of their number. -/
theorem triple_digit0 : triple b0 b1 b2 >>> 18 &&& 0x3F = digit0 b0 := by
  have h1 := b1.toNat_lt
  have h2 := b2.toNat_lt
  apply UInt32.toNat_inj.mp
  rw [digit0, toNat_and_mask _ _ 6 rfl, toNat_and_mask _ _ 6 rfl, toNat_shiftRight _ _ (by decide),
    toNat_shiftRight _ _ (by decide), toNat_triple]
  simp only [UInt8.toNat_toUInt32, UInt32.reduceToNat]
  omega

theorem triple_digit1 : triple b0 b1 b2 >>> 12 &&& 0x3F = digit1 b0 b1 := by
  have h1 := b1.toNat_lt
  have h2 := b2.toNat_lt
  apply UInt32.toNat_inj.mp
  rw [digit1, toNat_and_mask _ _ 6 rfl, toNat_masked_or 2 4 rfl (by decide) rfl rfl,
    toNat_shiftRight _ _ (by decide), toNat_shiftRight _ _ (by decide), toNat_triple]
  simp only [UInt8.toNat_toUInt32, UInt32.reduceToNat]
  omega

theorem triple_digit2 : triple b0 b1 b2 >>> 6 &&& 0x3F = digit2 b1 b2 := by
  have h2 := b2.toNat_lt
  apply UInt32.toNat_inj.mp
  rw [digit2, toNat_and_mask _ _ 6 rfl, toNat_masked_or 4 2 rfl (by decide) rfl rfl,
    toNat_shiftRight _ _ (by decide), toNat_shiftRight _ _ (by decide), toNat_triple]
  simp only [UInt8.toNat_toUInt32, UInt32.reduceToNat]
  omega

theorem triple_digit3 : triple b0 b1 b2 &&& 0x3F = digit3 b2 := by
  apply UInt32.toNat_inj.mp
  rw [digit3, toNat_and_mask _ _ 6 rfl, toNat_and_mask _ _ 6 rfl, toNat_triple]
  simp only [UInt8.toNat_toUInt32]
  omega

end triple

/-- Six bits at a time into a buffer, of which `bits` bits are still to be output; bits
already output stay in the buffer and are shifted out at its end. -/
def collect : List UInt32 → UInt32 → UInt32 → Bytes
  | [], _, _ => []
  | digit :: digits, buffer, bits =>
    let buffer := buffer <<< 6 ||| digit
    let bits := bits + 6
    if 8 ≤ bits then (buffer >>> (bits - 8)).toUInt8 :: collect digits buffer (bits - 8)
    else collect digits buffer bits

section group

variable (digits : List UInt32) (buffer digit : UInt32) (b0 b1 b2 : UInt8)

/-- The four positions of a digit in its group. -/
theorem collect_at_0 : collect (digit :: digits) buffer 0 = collect digits (buffer <<< 6 ||| digit) 6 :=
  rfl

theorem collect_at_6 : collect (digit :: digits) buffer 6 =
    ((buffer <<< 6 ||| digit) >>> 4).toUInt8 :: collect digits (buffer <<< 6 ||| digit) 4 := rfl

theorem collect_at_4 : collect (digit :: digits) buffer 4 =
    ((buffer <<< 6 ||| digit) >>> 2).toUInt8 :: collect digits (buffer <<< 6 ||| digit) 2 := rfl

theorem collect_at_2 : collect (digit :: digits) buffer 2 =
    ((buffer <<< 6 ||| digit) >>> 0).toUInt8 :: collect digits (buffer <<< 6 ||| digit) 0 := rfl

/-- Each byte of a group comes out of the buffer, whatever is above it. -/
theorem byte0 : (((buffer <<< 6 ||| digit0 b0) <<< 6 ||| digit1 b0 b1) >>> 4).toUInt8 = b0 := by
  apply UInt8.eq_of_toBitVec_eq
  simp only [digit0, digit1, UInt32.toBitVec_toUInt8, UInt32.toBitVec_shiftRight, UInt32.toBitVec_or,
    UInt32.toBitVec_shiftLeft, UInt32.toBitVec_and, UInt8.toBitVec_toUInt32]
  ext i hi
  interval_cases i <;> simp

theorem byte1 : (((buffer <<< 6 ||| digit1 b0 b1) <<< 6 ||| digit2 b1 b2) >>> 2).toUInt8 = b1 := by
  apply UInt8.eq_of_toBitVec_eq
  simp only [digit1, digit2, UInt32.toBitVec_toUInt8, UInt32.toBitVec_shiftRight, UInt32.toBitVec_or,
    UInt32.toBitVec_shiftLeft, UInt32.toBitVec_and, UInt8.toBitVec_toUInt32]
  ext i hi
  interval_cases i <;> simp

theorem byte2 : (((buffer <<< 6 ||| digit2 b1 b2) <<< 6 ||| digit3 b2) >>> 0).toUInt8 = b2 := by
  apply UInt8.eq_of_toBitVec_eq
  simp only [digit2, digit3, UInt32.toBitVec_toUInt8, UInt32.toBitVec_shiftRight, UInt32.toBitVec_or,
    UInt32.toBitVec_shiftLeft, UInt32.toBitVec_and, UInt8.toBitVec_toUInt32]
  ext i hi
  interval_cases i <;> simp

end group

@[simp] theorem collect_nil (buffer bits : UInt32) : collect [] buffer bits = [] := rfl

/-- Collecting the digits of bytes gives the bytes back. -/
theorem collect_sextets (bytes : Bytes) (buffer : UInt32) : collect (sextets bytes) buffer 0 = bytes := by
  induction bytes using sextets.induct generalizing buffer with
  | case1 => rfl
  | case2 b0 => simp only [sextets, collect_at_0, collect_at_6, byte0, collect_nil]
  | case3 b0 b1 =>
    simp only [sextets, collect_at_0, collect_at_6, collect_at_4, byte0, byte1, collect_nil]
  | case4 b0 b1 b2 rest ih =>
    simp only [sextets, collect_at_0, collect_at_6, collect_at_4, collect_at_2, byte0, byte1, byte2, ih]

theorem digit0_lt (b0 : UInt8) : digit0 b0 < 64 := by
  rw [UInt32.lt_iff_toNat_lt, digit0, toNat_and_mask _ _ 6 rfl]
  exact Nat.mod_lt _ (by decide)

theorem digit1_lt (b0 b1 : UInt8) : digit1 b0 b1 < 64 := by
  rw [UInt32.lt_iff_toNat_lt, digit1, toNat_masked_or 2 4 rfl (by decide) rfl rfl]
  change _ < 64
  omega

theorem digit2_lt (b1 b2 : UInt8) : digit2 b1 b2 < 64 := by
  rw [UInt32.lt_iff_toNat_lt, digit2, toNat_masked_or 4 2 rfl (by decide) rfl rfl]
  change _ < 64
  omega

theorem digit3_lt (b2 : UInt8) : digit3 b2 < 64 := by
  rw [UInt32.lt_iff_toNat_lt, digit3, toNat_and_mask _ _ 6 rfl]
  exact Nat.mod_lt _ (by decide)

theorem sextets_lt (bytes : Bytes) : ∀ digit ∈ sextets bytes, digit < 64 := by
  induction bytes using sextets.induct with
  | case1 => simp [sextets]
  | case2 b0 =>
    simp only [sextets, List.forall_mem_cons]
    exact ⟨digit0_lt b0, digit1_lt b0 0, by simp⟩
  | case3 b0 b1 =>
    simp only [sextets, List.forall_mem_cons]
    exact ⟨digit0_lt b0, digit1_lt b0 b1, digit2_lt b1 0, by simp⟩
  | case4 b0 b1 b2 rest ih =>
    simp only [sextets, List.forall_mem_cons]
    exact ⟨digit0_lt b0, digit1_lt b0 b1, digit2_lt b1 b2, digit3_lt b2, ih⟩

/-- Trimming the padding of a text leaves its digits. -/
theorem trim_padding {padding : Char} {text : List Char} (htext : ∀ digit ∈ text, digit ≠ padding)
    (count : Nat) :
    ((text ++ List.replicate count padding).reverse.dropWhile (· == padding)).reverse = text := by
  have hpadding : ∀ digit ∈ List.replicate count padding, (digit == padding) = true := by
    intro digit hdigit
    simpa using List.eq_of_mem_replicate hdigit
  rw [List.reverse_append, List.reverse_replicate, List.dropWhile_append_of_pos hpadding,
    List.dropWhile_eq_self_iff.mpr, List.reverse_reverse]
  intro hlength
  simpa using htext _ (List.mem_reverse.mp (List.getElem_mem hlength))

end wire.base64
