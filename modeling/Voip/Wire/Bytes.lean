import Mathlib.Data.List.Induction
import Mathlib.Tactic.Ring
import Mathlib.Algebra.Order.Ring.Nat

namespace wire

abbrev Bytes := List UInt8

/-- The UTF-8 bytes of a string. -/
def utf8 (text : String) : Bytes := text.toUTF8.data.toList

theorem utf8_inj {first second : String} : utf8 first = utf8 second ↔ first = second := by
  simp [utf8, ← ByteArray.ext_iff, String.toByteArray_inj]

theorem utf8_append (first second : String) : utf8 (first ++ second) = utf8 first ++ utf8 second := by
  simp [utf8]

theorem utf8_ofList (text : List Char) : utf8 (String.ofList text) = text.flatMap String.utf8EncodeChar := by
  simp [utf8, List.utf8Encode]

/-- A string read from UTF-8 bytes has these bytes. -/
theorem utf8_of_fromUTF8? {bytes : Bytes} {text : String}
    (htext : String.fromUTF8? ⟨bytes.toArray⟩ = some text) : utf8 text = bytes := by
  unfold String.fromUTF8? at htext
  split at htext
  · injection htext with htext
    rw [← htext]
    rfl
  · contradiction

/-- The UTF-8 bytes of a string are read back as that string. -/
theorem fromUTF8?_utf8 (text : String) : String.fromUTF8? ⟨(utf8 text).toArray⟩ = some text := by
  have hvalid : (⟨(utf8 text).toArray⟩ : ByteArray).IsValidUTF8 := text.isValidUTF8
  rw [String.fromUTF8?, dif_pos hvalid]
  rfl

/-- A piece of the data that is found at a position is followed by the rest. -/
theorem drop_add {data piece rest : Bytes} {pos : Nat} (hdrop : data.drop pos = piece ++ rest) :
    data.drop (pos + piece.length) = rest := by
  rw [← List.drop_drop, hdrop, List.drop_left]

/-- Where the bytes after a position are a piece and more, the position after the piece is
inside the data too. -/
theorem add_le_of_drop {data piece rest : Bytes} {pos : Nat} (hpos : pos ≤ data.length)
    (hdrop : data.drop pos = piece ++ rest) : pos + piece.length ≤ data.length := by
  have hlength := congrArg List.length hdrop
  rw [List.length_drop, List.length_append] at hlength
  omega

/-- Big-endian bytes of the low `width` bytes of a number. -/
def be : Nat → Nat → Bytes
  | 0, _ => []
  | width + 1, value => UInt8.ofNat (value / 256 ^ width) :: be width value

/-- The number that big-endian bytes stand for. -/
def ofBe (bytes : Bytes) : Nat := bytes.foldl (fun value byte => value * 256 + byte.toNat) 0

@[simp] theorem length_be (width value : Nat) : (be width value).length = width := by
  induction width with
  | zero => rfl
  | succ width ih => simp [be, ih]

private theorem foldl_be (width value start : Nat) :
    (be width value).foldl (fun value byte => value * 256 + byte.toNat) start =
      start * 256 ^ width + value % 256 ^ width := by
  induction width generalizing start with
  | zero => simp [be, Nat.mod_one]
  | succ width ih =>
    have hsplit : value % 256 ^ (width + 1) =
        value / 256 ^ width % 256 * 256 ^ width + value % 256 ^ width := by
      rw [pow_succ, Nat.mod_mul, Nat.add_comm, Nat.mul_comm]
    rw [be, List.foldl_cons, ih, hsplit, UInt8.toNat_ofNat']
    norm_num
    ring

/-- Reading back big-endian bytes gives the number truncated to their width. -/
theorem ofBe_be (width value : Nat) : ofBe (be width value) = value % 256 ^ width := by
  rw [ofBe, foldl_be, Nat.zero_mul, Nat.zero_add]

theorem be_inj {width value value' : Nat} (hvalue : value < 256 ^ width) (hvalue' : value' < 256 ^ width) :
    be width value = be width value' ↔ value = value' := by
  constructor
  · intro heq
    have hread := congrArg ofBe heq
    rwa [ofBe_be, ofBe_be, Nat.mod_eq_of_lt hvalue, Nat.mod_eq_of_lt hvalue'] at hread
  · rintro rfl
    rfl

/-- Text behind its own length can be told from what follows it. -/
theorem prefixed_append_inj {width : Nat} {bytes bytes' rest rest' : Bytes} (hfits : bytes.length < 256 ^ width)
    (hfits' : bytes'.length < 256 ^ width) :
    be width bytes.length ++ bytes ++ rest = be width bytes'.length ++ bytes' ++ rest' ↔
      bytes = bytes' ∧ rest = rest' := by
  constructor
  · intro heq
    rw [List.append_assoc, List.append_assoc] at heq
    obtain ⟨hlength, hrest⟩ := List.append_inj heq (by simp)
    exact List.append_inj hrest ((be_inj hfits hfits').mp hlength)
  · rintro ⟨rfl, rfl⟩
    rfl

theorem ofBe_append_singleton (bytes : Bytes) (byte : UInt8) :
    ofBe (bytes ++ [byte]) = ofBe bytes * 256 + byte.toNat := by
  simp [ofBe]

theorem ofBe_cons (first : UInt8) (rest : Bytes) :
    ofBe (first :: rest) = first.toNat * 256 ^ rest.length + ofBe rest := by
  induction rest using List.reverseRecOn with
  | nil => simp [ofBe]
  | append_singleton rest last ih =>
    rw [← List.cons_append, ofBe_append_singleton, ofBe_append_singleton, ih, List.length_append,
      List.length_singleton, pow_succ]
    ring

theorem ofBe_lt (bytes : Bytes) : ofBe bytes < 256 ^ bytes.length := by
  induction bytes with
  | nil => simp [ofBe]
  | cons first rest ih =>
    have hfirst : first.toNat * 256 ^ rest.length ≤ 255 * 256 ^ rest.length :=
      Nat.mul_le_mul_right _ (Nat.le_of_lt_succ first.toNat_lt)
    rw [ofBe_cons, List.length_cons, pow_succ]
    omega

/-- What stands above the width is not written. -/
theorem be_add_mul (width high value : Nat) : be width (high * 256 ^ width + value) = be width value := by
  induction width generalizing high with
  | zero => rfl
  | succ width ih =>
    have hdiv : (high * 256 ^ (width + 1) + value) / 256 ^ width = value / 256 ^ width + 256 * high := by
      rw [show high * 256 ^ (width + 1) + value = value + 256 ^ width * (256 * high) by ring,
        Nat.add_mul_div_left _ _ (Nat.pow_pos (by omega))]
    have hbyte : UInt8.ofNat (value / 256 ^ width + 256 * high) = UInt8.ofNat (value / 256 ^ width) := by
      rw [← UInt8.toNat_inj, UInt8.toNat_ofNat', UInt8.toNat_ofNat']
      omega
    have htail := ih (high * 256)
    rw [show high * 256 * 256 ^ width = high * 256 ^ (width + 1) by ring] at htail
    rw [be, be, hdiv, hbyte, htail]

/-- The number that bytes stand for is written as these bytes. -/
theorem be_ofBe (bytes : Bytes) : be bytes.length (ofBe bytes) = bytes := by
  induction bytes with
  | nil => rfl
  | cons first rest ih =>
    have hdiv : (first.toNat * 256 ^ rest.length + ofBe rest) / 256 ^ rest.length = first.toNat := by
      rw [Nat.add_comm, Nat.add_mul_div_right _ _ (Nat.pow_pos (by omega)),
        Nat.div_eq_of_lt (ofBe_lt rest), Nat.zero_add]
    rw [ofBe_cons, List.length_cons, be, hdiv, be_add_mul, ih, UInt8.ofNat_toNat]

/-- The bits of a big-endian number, byte by byte. -/
theorem testBit_ofBe (bytes : Bytes) {position : Nat} (hposition : position < 8 * bytes.length) :
    ∃ byte, bytes[bytes.length - 1 - position / 8]? = some byte ∧
      (ofBe bytes).testBit position = byte.toNat.testBit (position % 8) := by
  induction bytes using List.reverseRecOn generalizing position with
  | nil => simp at hposition
  | append_singleton bytes last ih =>
    have hbits : (ofBe (bytes ++ [last])).testBit position =
        if position < 8 then last.toNat.testBit position else (ofBe bytes).testBit (position - 8) := by
      rw [ofBe_append_singleton, Nat.mul_comm, show (256 : Nat) = 2 ^ 8 from rfl,
        Nat.testBit_two_pow_mul_add _ last.toNat_lt]
    rw [hbits]
    simp only [List.length_append, List.length_singleton] at hposition ⊢
    split
    next hsmall =>
      refine ⟨last, ?_, by rw [Nat.mod_eq_of_lt hsmall]⟩
      rw [List.getElem?_append_right (by omega)]
      simp
    next hlarge =>
      have hrest : position - 8 < 8 * bytes.length := by omega
      obtain ⟨byte, hbyte, htest⟩ := ih hrest
      refine ⟨byte, ?_, ?_⟩
      · rw [List.getElem?_append_left (by omega), ← hbyte]
        congr 1
        omega
      · rw [htest]
        congr 1
        omega

end wire
