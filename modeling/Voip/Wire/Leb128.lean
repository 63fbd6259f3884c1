import Voip.Wire.Bytes

namespace wire

/-- At most `fuel` seven-bit groups of a number, the least significant first, each
but the last with its continuation bit. -/
def leb128Groups : Nat → Nat → Bytes
  | 0, _ => []
  | fuel + 1, value =>
    if value < 128 then [UInt8.ofNat value]
    else UInt8.ofNat (value % 128 + 128) :: leb128Groups fuel (value / 128)

/-- The base-128 varint of a number, as protocol buffers encode it. -/
def leb128 (value : Nat) : Bytes := leb128Groups (value + 1) value

private theorem leb128Groups_fuel (fuel fuel' value : Nat) (hfuel : value < fuel)
    (hfuel' : value < fuel') : leb128Groups fuel value = leb128Groups fuel' value := by
  induction fuel generalizing fuel' value with
  | zero => omega
  | succ fuel ih =>
    cases fuel' with
    | zero => omega
    | succ fuel' =>
      simp only [leb128Groups]
      split
      · rfl
      · rw [ih fuel' (value / 128) (by omega) (by omega)]

theorem leb128_of_lt {value : Nat} (hvalue : value < 128) : leb128 value = [UInt8.ofNat value] := by
  simp [leb128, leb128Groups, hvalue]

theorem leb128_of_ge {value : Nat} (hvalue : 128 ≤ value) :
    leb128 value = UInt8.ofNat (value % 128 + 128) :: leb128 (value / 128) := by
  rw [leb128, leb128Groups, if_neg (by omega), leb128,
    leb128Groups_fuel value (value / 128 + 1) (value / 128) (by omega) (by omega)]

theorem leb128_ne_nil (value : Nat) : leb128 value ≠ [] := by
  rw [leb128, leb128Groups]
  split <;> simp

theorem length_leb128_le {groups value : Nat} (hhigh : value < 128 ^ (groups + 1)) :
    (leb128 value).length ≤ groups + 1 := by
  induction groups generalizing value with
  | zero => simp [leb128_of_lt (by simpa using hhigh : value < 128)]
  | succ groups ih =>
    by_cases hsmall : value < 128
    · simp [leb128_of_lt hsmall]
    · rw [leb128_of_ge (by omega), List.length_cons]
      have hdiv : value / 128 < 128 ^ (groups + 1) := by
        rw [Nat.div_lt_iff_lt_mul (by omega)]
        rwa [pow_succ] at hhigh
      have hrest := ih hdiv
      omega

theorem le_of_length_leb128 {groups value : Nat} (hlength : groups + 2 ≤ (leb128 value).length) :
    128 ^ (groups + 1) ≤ value := by
  by_contra hlow
  have hle := length_leb128_le (Nat.not_le.mp hlow)
  omega

/-- A group of a number, with its continuation bit. -/
def leb128Group (value i : Nat) : Nat :=
  value / 128 ^ i % 128 + if 128 ^ (i + 1) ≤ value then 128 else 0

theorem leb128Group_lt (value i : Nat) : leb128Group value i < 256 := by
  unfold leb128Group
  split <;> omega

/-- The bytes of a varint and the zero byte after it are the groups of the number. -/
theorem getElem?_leb128_append (rest : Bytes) {value i : Nat} (hi : i ≤ (leb128 value).length) :
    (leb128 value ++ 0 :: rest)[i]? = some (UInt8.ofNat (leb128Group value i)) := by
  induction i generalizing value with
  | zero =>
    by_cases hsmall : value < 128
    · simp [leb128_of_lt hsmall, leb128Group, Nat.mod_eq_of_lt hsmall, Nat.not_le.mpr hsmall]
    · simp [leb128_of_ge (Nat.not_lt.mp hsmall), leb128Group, Nat.not_lt.mp hsmall]
  | succ i ih =>
    by_cases hsmall : value < 128
    · rw [leb128_of_lt hsmall] at hi ⊢
      obtain rfl : i = 0 := by simpa using hi
      simp [leb128Group, Nat.div_eq_of_lt hsmall, show ¬ 16384 ≤ value by omega]
    · rw [leb128_of_ge (Nat.not_lt.mp hsmall)] at hi ⊢
      have hrest : i ≤ (leb128 (value / 128)).length := by simpa using hi
      rw [List.cons_append, List.getElem?_cons_succ, ih hrest]
      simp only [leb128Group, Nat.div_div_eq_div_mul, pow_succ, Nat.le_div_iff_mul_le (show 0 < 128 by omega)]
      rw [Nat.mul_comm 128 (128 ^ i)]

/-- The bits of a group: seven of the number, and the continuation. -/
theorem testBit_leb128Group (value i : Nat) {j : Nat} (hj : j < 8) :
    (leb128Group value i).testBit j =
      if j < 7 then value.testBit (7 * i + j) else decide (128 ^ (i + 1) ≤ value) := by
  have hlow : (value / 128 ^ i % 128).testBit j = (decide (j < 7) && value.testBit (7 * i + j)) := by
    rw [show (128 : Nat) = 2 ^ 7 from rfl, Nat.testBit_mod_two_pow, ← pow_mul, Nat.testBit_div_two_pow,
      Nat.add_comm]
  unfold leb128Group
  by_cases hmore : 128 ^ (i + 1) ≤ value
  · rw [if_pos hmore, Nat.add_comm]
    by_cases hj : j < 7
    · rw [show (128 : Nat) = 2 ^ 7 from rfl] at hlow ⊢
      rw [Nat.testBit_two_pow_add_gt hj, hlow]
      simp [hj]
    · obtain rfl : j = 7 := by omega
      rw [show (128 : Nat) = 2 ^ 7 from rfl] at hlow hmore ⊢
      rw [Nat.testBit_two_pow_add_eq, hlow]
      simpa using hmore
  · rw [if_neg hmore, Nat.add_zero, hlow]
    by_cases hj : j < 7
    · simp [hj]
    · simp [hj, hmore]

end wire
