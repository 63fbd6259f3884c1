import Voip.Client.CapsuleCodec

namespace voip_client.masque

open wire

variable {p : Bytes} {n : Nat}

/-- The bit of the encoded number that the decoder takes for the bit at a position. -/
def taken_from (width position : Nat) : Nat := 7 * (width - 1 - position / 8) + position % 8

/-- When the decoder reads a number from its own base-128 bytes, each bit of it is another
of its bits, or tells that a group follows. -/
theorem testBit_of_reads_self {width : Nat} (hwidth : width ≤ (leb128 n).length)
    (hreads : ofBe ((leb128 n ++ 0 :: p).take width) % 2 ^ (8 * width - 2) = n) {position : Nat}
    (hposition : position < 8 * width - 2) :
    n.testBit position = if position % 8 < 7 then n.testBit (taken_from width position)
      else decide (128 ^ (width - position / 8) ≤ n) := by
  have hlength : ((leb128 n ++ 0 :: p).take width).length = width := by
    simp
    omega
  obtain ⟨byte, hbyte, htest⟩ := testBit_ofBe ((leb128 n ++ 0 :: p).take width)
    (by omega : position < _)
  rw [hlength, List.getElem?_take_of_lt (by omega), getElem?_leb128_append p (by omega)] at hbyte
  cases hbyte
  rw [UInt8.toNat_ofNat', Nat.mod_eq_of_lt (leb128Group_lt ..), testBit_leb128Group _ _ (Nat.mod_lt _ (by omega))]
    at htest
  calc n.testBit position
      = (ofBe ((leb128 n ++ 0 :: p).take width)).testBit position := by
        rw [← hreads, Nat.testBit_mod_two_pow]
        simp [hposition, hreads]
    _ = _ := by
        rw [htest, taken_from, show width - 1 - position / 8 + 1 = width - position / 8 by omega]

/-- Whether the bit at a position is in the end taken from a continuation bit, not below
the given position. -/
def ends_in_continuation (width least : Nat) : Nat → Nat → Bool
  | 0, _ => false
  | fuel + 1, position =>
    if position % 8 < 7 then ends_in_continuation width least fuel (taken_from width position)
    else least ≤ position

theorem testBit_of_ends {width least : Nat} (hpositive : 1 < width)
    (hself : ∀ position < 8 * width - 2, n.testBit position =
      if position % 8 < 7 then n.testBit (taken_from width position)
      else decide (128 ^ (width - position / 8) ≤ n))
    (hleast : ∀ position, least ≤ position → 128 ^ (width - position / 8) ≤ n) {fuel position : Nat}
    (hposition : position < 8 * width - 2)
    (hends : ends_in_continuation width least fuel position = true) : n.testBit position = true := by
  induction fuel generalizing position with
  | zero => contradiction
  | succ fuel ih =>
    unfold ends_in_continuation at hends
    rw [hself position hposition]
    split at hends
    next hlow =>
      have hfrom : taken_from width position < 8 * width - 2 := by
        unfold taken_from
        omega
      rw [if_pos hlow]
      exact ih hfrom hends
    next hhigh =>
      rw [if_neg hhigh]
      exact decide_eq_true (hleast position (of_decide_eq_true hends))

private theorem continues_of_le {width : Nat} (hn : 128 ^ (width - 1) ≤ n) (position : Nat)
    (hposition : 8 ≤ position) : 128 ^ (width - position / 8) ≤ n :=
  Nat.le_trans (Nat.pow_le_pow_right (by omega) (by omega)) hn

/-- In four bytes no number is read from its own base-128 bytes. -/
theorem not_reads_self_four (hlength : 4 ≤ (leb128 n).length) (hlow : n % 128 < 64) :
    ofBe ((leb128 n ++ 0 :: p).take 4) % 2 ^ 30 ≠ n := by
  intro hreads
  have hn : 128 ^ 3 ≤ n := le_of_length_leb128 hlength
  have hends : ends_in_continuation 4 8 10 6 = true := by decide
  have hset : n.testBit 6 = true := testBit_of_ends (by omega)
    (fun _ => testBit_of_reads_self hlength hreads) (continues_of_le hn) (by omega) hends
  rw [Nat.testBit_eq_decide_div_mod_eq, decide_eq_true_eq] at hset
  omega

/-- In eight bytes one number is: the largest that eight bytes can hold. -/
theorem reads_self_eight (hlength : 8 ≤ (leb128 n).length)
    (hreads : ofBe ((leb128 n ++ 0 :: p).take 8) % 2 ^ 62 = n) : n = 2 ^ 62 - 1 := by
  have hn : 128 ^ 7 ≤ n := le_of_length_leb128 hlength
  have hself : ∀ position < 8 * 8 - 2, _ := fun position => testBit_of_reads_self hlength hreads
  by_cases hmore : 128 ^ 8 ≤ n
  · have hall : ∀ position < 62, ends_in_continuation 8 0 62 position = true := by decide
    apply Nat.eq_of_testBit_eq
    intro position
    rw [Nat.testBit_two_pow_sub_one]
    by_cases hposition : position < 62
    · have hcontinues : ∀ position, 0 ≤ position → 128 ^ (8 - position / 8) ≤ n := fun _ _ =>
        Nat.le_trans (Nat.pow_le_pow_right (by omega) (by omega)) hmore
      rw [testBit_of_ends (by omega) hself hcontinues hposition (hall position hposition)]
      simpa using hposition
    · have hsmall : n < 2 ^ position := by
        rw [← hreads]
        exact Nat.lt_of_lt_of_le (Nat.mod_lt _ (by omega)) (Nat.pow_le_pow_right (by omega) (by omega))
      rw [Nat.testBit_lt_two_pow hsmall]
      simpa using hposition
  · have hends : ends_in_continuation 8 8 13 57 = true := by decide
    have hset := testBit_of_ends (by omega) hself (continues_of_le hn) (by omega) hends
    have hsmall : n < 2 ^ 57 := by omega
    rw [Nat.testBit_lt_two_pow hsmall] at hset
    contradiction

end voip_client.masque
