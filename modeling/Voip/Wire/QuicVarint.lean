import Voip.Wire.Bytes

namespace wire

/-- The largest number of bits that a QUIC varint of `2 ^ log` bytes carries. -/
def quicBits (log : Nat) : Nat := 8 * 2 ^ log - 2

/-- The QUIC varint of a number in `2 ^ log` bytes: big-endian, with `log` in the two
highest bits. -/
def quicVarint (log value : Nat) : Bytes := be (2 ^ log) (value + log * 2 ^ quicBits log)

@[simp] theorem length_quicVarint (log value : Nat) : (quicVarint log value).length = 2 ^ log :=
  length_be ..

private theorem quicBits_eq {log width : Nat} (hwidth : 2 ^ log = width + 1) :
    2 ^ quicBits log = 64 * 256 ^ width := by
  have hbits : quicBits log = 6 + 8 * width := by
    unfold quicBits
    omega
  rw [hbits, pow_add, pow_mul]
  norm_num

variable {log value : Nat}

/-- The two highest bits tell the width. -/
theorem quicVarint_eq_cons (hlog : log < 4) (hvalue : value < 2 ^ quicBits log) :
    ∃ first rest, quicVarint log value = first :: rest ∧ first.toNat / 64 = log := by
  obtain ⟨width, hwidth⟩ := Nat.exists_eq_succ_of_ne_zero (Nat.two_pow_pos log).ne'
  refine ⟨_, _, by rw [quicVarint, hwidth, be], ?_⟩
  rw [quicBits_eq hwidth] at hvalue ⊢
  have hpos : 0 < 256 ^ width := Nat.pow_pos (by omega)
  have hsplit : (value + log * (64 * 256 ^ width)) / 256 ^ width = value / 256 ^ width + log * 64 := by
    rw [← Nat.mul_assoc, Nat.add_mul_div_right _ _ hpos]
  have hsmall : value / 256 ^ width < 64 := by
    rwa [Nat.div_lt_iff_lt_mul hpos]
  rw [hsplit, UInt8.toNat_ofNat', Nat.mod_eq_of_lt (by omega), Nat.add_mul_div_right _ _ (by omega),
    Nat.div_eq_of_lt hsmall, Nat.zero_add]

/-- The other bits are the number. -/
theorem ofBe_quicVarint (hlog : log < 4) (hvalue : value < 2 ^ quicBits log) :
    ofBe (quicVarint log value) % 2 ^ quicBits log = value := by
  obtain ⟨width, hwidth⟩ := Nat.exists_eq_succ_of_ne_zero (Nat.two_pow_pos log).ne'
  rw [quicVarint, ofBe_be, hwidth, Nat.pow_succ]
  rw [quicBits_eq hwidth] at hvalue ⊢
  have hlow : value + log * (64 * 256 ^ width) < 256 ^ width * 256 := by
    have htop : log * (64 * 256 ^ width) ≤ 3 * (64 * 256 ^ width) := Nat.mul_le_mul_right _ (by omega)
    omega
  rw [Nat.mod_eq_of_lt hlow, Nat.add_mul_mod_self_right, Nat.mod_eq_of_lt hvalue]

/-- Bytes whose two highest bits tell their width are the varint of the other bits. -/
theorem quicVarint_ofBe {log : Nat} {first : UInt8} {rest : Bytes} (hfirst : first.toNat / 64 = log)
    (hlength : (first :: rest).length = 2 ^ log) :
    quicVarint log (ofBe (first :: rest) % 2 ^ quicBits log) = first :: rest := by
  have hwidth : 2 ^ log = rest.length + 1 := hlength.symm
  have hrest := ofBe_lt rest
  have hdiv : ofBe (first :: rest) / 2 ^ quicBits log = log := by
    have hpos : 0 < 256 ^ rest.length := Nat.pow_pos (by omega)
    rw [quicBits_eq hwidth, Nat.mul_comm, ← Nat.div_div_eq_div_mul, ofBe_cons, Nat.add_comm,
      Nat.add_mul_div_right _ _ hpos, Nat.div_eq_of_lt hrest, Nat.zero_add, hfirst]
  have hsplit : ofBe (first :: rest) % 2 ^ quicBits log + log * 2 ^ quicBits log = ofBe (first :: rest) := by
    conv_rhs => rw [← Nat.mod_add_div (ofBe (first :: rest)) (2 ^ quicBits log), hdiv, Nat.mul_comm]
  rw [quicVarint, hsplit, ← hlength, be_ofBe]

/-- The bytes are a QUIC varint of the number, in one of its widths. -/
def IsQuicVarint (value : Nat) (bytes : Bytes) : Prop :=
  ∃ log < 4, value < 2 ^ quicBits log ∧ bytes = quicVarint log value

theorem IsQuicVarint.ne_nil {bytes : Bytes} (hvarint : IsQuicVarint value bytes) : bytes ≠ [] := by
  obtain ⟨log, -, -, rfl⟩ := hvarint
  have hlength := length_quicVarint log value
  have hpos := Nat.two_pow_pos log
  rintro hempty
  rw [hempty, List.length_nil] at hlength
  omega

theorem IsQuicVarint.lt {bytes : Bytes} (hvarint : IsQuicVarint value bytes) : value < 2 ^ 62 := by
  obtain ⟨log, hlog, hvalue, -⟩ := hvarint
  have hwidest : 2 ^ quicBits log ≤ 2 ^ quicBits 3 := by
    apply Nat.pow_le_pow_right (by omega)
    exact Nat.sub_le_sub_right (Nat.mul_le_mul_left 8 (Nat.pow_le_pow_right (by omega) (by omega))) 2
  exact hvalue.trans_le hwidest

theorem isQuicVarint_take {first : UInt8} {rest : Bytes} (hlength : 2 ^ (first.toNat / 64) ≤ (first :: rest).length) :
    IsQuicVarint
      (ofBe ((first :: rest).take (2 ^ (first.toNat / 64))) % 2 ^ quicBits (first.toNat / 64))
      ((first :: rest).take (2 ^ (first.toNat / 64))) := by
  obtain ⟨width, hwidth⟩ := Nat.exists_eq_succ_of_ne_zero (Nat.two_pow_pos (first.toNat / 64)).ne'
  have hlog : first.toNat / 64 < 4 := by
    have := first.toNat_lt
    omega
  refine ⟨first.toNat / 64, hlog, Nat.mod_lt _ (Nat.two_pow_pos _), ?_⟩
  have htake : ((first :: rest).take (2 ^ (first.toNat / 64))).length = 2 ^ (first.toNat / 64) :=
    List.length_take_of_le hlength
  rw [hwidth, List.take_succ_cons] at htake ⊢
  rw [← hwidth] at htake
  exact (quicVarint_ofBe rfl htake).symm

/-- The bytes that a varint at the start of the data takes, as its first byte says. -/
def quicSize : Bytes → Nat
  | [] => 1
  | first :: _ => 2 ^ (first.toNat / 64)

theorem IsQuicVarint.quicSize_append {bytes : Bytes} (hvarint : IsQuicVarint value bytes) (rest : Bytes) :
    quicSize (bytes ++ rest) = bytes.length := by
  obtain ⟨log, hlog, hvalue, rfl⟩ := hvarint
  obtain ⟨first, tail, hcons, hfirst⟩ := quicVarint_eq_cons hlog hvalue
  rw [length_quicVarint, hcons, List.cons_append, quicSize, hfirst]

theorem IsQuicVarint.quicSize_le {bytes : Bytes} (hvarint : IsQuicVarint value bytes) (rest : Bytes) :
    quicSize (bytes ++ rest) ≤ (bytes ++ rest).length := by
  rw [hvarint.quicSize_append, List.length_append]
  omega

/-- Data that is long enough for the varint it starts with does start with one. -/
theorem isQuicVarint_take_quicSize {data : Bytes} (hcomplete : quicSize data ≤ data.length) :
    ∃ value, IsQuicVarint value (data.take (quicSize data)) := by
  cases data with
  | nil => simp [quicSize] at hcomplete
  | cons first rest => exact ⟨_, isQuicVarint_take hcomplete⟩

end wire
