import Voip.Signaling.Jwt
import Voip.Result.Except
import Voip.Wire.Base64

namespace voip_signaling.jwt

open wire wire.base64 result

theorem base64url_encode_eq (bytes : Bytes) :
    base64url_encode bytes = (sextets bytes).map base64url_digit := by
  induction bytes using sextets.induct with
  | case1 => rfl
  | case2 b0 => simp [base64url_encode, sextets, digit0, digit1]
  | case3 b0 b1 => simp [base64url_encode, sextets, digit0, digit1, digit2]
  | case4 b0 b1 b2 rest ih =>
    rw [base64url_encode, ih]
    rfl

/-- The byte of a digit. -/
def digit_byte (digit : UInt32) : UInt8 := UInt8.ofNat (base64url_digit digit).toNat

/-- A digit is one byte of UTF-8, which the table reads back. It is neither padding nor a
separator. -/
theorem base64url_digit_spec {digit : UInt32} (hdigit : digit < 64) :
    String.utf8EncodeChar (base64url_digit digit) = [digit_byte digit] ∧
      decode_table (digit_byte digit) = some digit ∧
      base64url_digit digit ≠ '=' ∧ base64url_digit digit ≠ '.' := by
  have hall : ∀ value : Fin 64,
      String.utf8EncodeChar (base64url_digit (.ofNat value.val)) = [digit_byte (.ofNat value.val)] ∧
      decode_table (digit_byte (.ofNat value.val)) = some (.ofNat value.val) ∧
      base64url_digit (.ofNat value.val) ≠ '=' ∧ base64url_digit (.ofNat value.val) ≠ '.' := by
    decide +kernel
  simpa using hall ⟨digit.toNat, UInt32.lt_iff_toNat_lt.mp hdigit⟩

theorem base64url_decode_loop_digits (serde : Serde) {digits : List UInt32}
    (hdigits : ∀ digit ∈ digits, digit < 64) (buffer bits : UInt32) :
    base64url_decode_loop serde (digits.map digit_byte) buffer bits = .ok (collect digits buffer bits) := by
  induction digits generalizing buffer bits with
  | nil => rfl
  | cons digit digits ih =>
    obtain ⟨hdigit, hrest⟩ := List.forall_mem_cons.mp hdigits
    rw [List.map_cons, base64url_decode_loop, (base64url_digit_spec hdigit).2.1, collect]
    dsimp only
    split
    · simp [ih hrest]
    · exact ih hrest _ _

/-- An encoded text contains no padding and no separator. -/
theorem mem_base64url_encode {bytes : Bytes} {c : Char} (hc : c ∈ base64url_encode bytes) :
    c ≠ '=' ∧ c ≠ '.' := by
  rw [base64url_encode_eq] at hc
  obtain ⟨digit, hdigit, rfl⟩ := List.mem_map.mp hc
  exact (base64url_digit_spec (sextets_lt bytes digit hdigit)).2.2

/-- Decoding undoes encoding. -/
theorem base64url_decode_encode (serde : Serde) (bytes : Bytes) :
    base64url_decode serde (base64url_encode bytes) = .ok bytes := by
  have htrim : ((base64url_encode bytes).reverse.dropWhile (· == '=')).reverse =
      base64url_encode bytes := by
    have hdigits : ∀ c ∈ base64url_encode bytes, c ≠ '=' := fun c hc => (mem_base64url_encode hc).1
    simpa using trim_padding hdigits 0
  have hbytes : utf8 (String.ofList (base64url_encode bytes)) = (sextets bytes).map digit_byte := by
    rw [utf8_ofList, base64url_encode_eq, List.flatMap_map, List.map_eq_flatMap]
    apply List.flatMap_congr
    intro digit hdigit
    exact (base64url_digit_spec (sextets_lt bytes digit hdigit)).1
  rw [base64url_decode, htrim, hbytes, base64url_decode_loop_digits serde (sextets_lt bytes),
    collect_sextets]

end voip_signaling.jwt
