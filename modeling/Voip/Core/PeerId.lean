import Voip.Core.Crypto

namespace voip_core.crypto

open wire error

def HEX_CHARS : List Char := "0123456789abcdef".toList

def hex_char (nibble : UInt8) : Char := HEX_CHARS.getD nibble.toNat '0'

def hex_encode (bytes : Bytes) : String :=
  String.ofList (bytes.flatMap fun (b : UInt8) => [hex_char (b >>> 4), hex_char (b &&& 0x0f)])

def peer_id_from_public_key (pk : Bytes) : String := hex_encode pk

/-- The bytes of a text are none of the letters from `A` to `F`. -/
def Lowercase (text : Bytes) : Prop := ∀ byte ∈ text, ¬ (65 ≤ byte ∧ byte ≤ 70)

/-- The byte of the digit that stands for a nibble. -/
def hex_byte (nibble : UInt8) : UInt8 := if nibble < 10 then nibble + 48 else nibble + 87

/-- The bytes of the text that stands for some bytes. -/
def hex_text (bytes : Bytes) : Bytes := bytes.flatMap fun (b : UInt8) => [hex_byte (b >>> 4), hex_byte (b &&& 0x0f)]

section byte

theorem forall_byte {P : UInt8 → Prop} (hbyte : ∀ k < 256, P (UInt8.ofNat k)) (byte : UInt8) : P byte := by
  simpa using hbyte byte.toNat byte.toNat_lt

theorem forall_nibble {P : UInt8 → Prop} (hnibble : ∀ k < 16, P (UInt8.ofNat k)) (nibble : UInt8)
    (hlt : nibble < 16) : P nibble := by
  simpa using hnibble nibble.toNat hlt

theorem utf8EncodeChar_hex_char (nibble : UInt8) :
    nibble < 16 → String.utf8EncodeChar (hex_char nibble) = [hex_byte nibble] := by
  revert nibble
  exact forall_nibble (by decide +kernel)

theorem char_from_hex_hex_byte (nibble : UInt8) : nibble < 16 → char_from_hex (hex_byte nibble) = .ok nibble := by
  revert nibble
  exact forall_nibble (by decide)

theorem lowercase_hex_byte (nibble : UInt8) :
    nibble < 16 → ¬ (65 ≤ hex_byte nibble ∧ hex_byte nibble ≤ 70) := by
  revert nibble
  exact forall_nibble (by decide)

/-- A digit is read as a nibble, and is the digit that is written for it unless it is one of
the letters from `A` to `F`. -/
theorem char_from_hex_eq_ok {c nibble : UInt8} (hread : char_from_hex c = .ok nibble) :
    nibble < 16 ∧ (¬ (65 ≤ c ∧ c ≤ 70) → hex_byte nibble = c) := by
  have hall : ∀ c, (char_from_hex c).toOption.all (fun nibble =>
      decide (nibble < 16 ∧ (¬ (65 ≤ c ∧ c ≤ 70) → hex_byte nibble = c))) = true := forall_byte (by decide +kernel)
  have hdigit := hall c
  rw [hread] at hdigit
  exact of_decide_eq_true hdigit

theorem nibbles_lt (byte : UInt8) : byte >>> 4 < 16 ∧ byte &&& 0x0f < 16 := by
  have hlt := byte.toNat_lt
  constructor
  · rw [UInt8.lt_iff_toNat_lt, UInt8.toNat_shiftRight]
    simp [Nat.shiftRight_eq_div_pow]
    omega
  · rw [UInt8.lt_iff_toNat_lt, UInt8.toNat_and]
    exact Nat.and_lt_two_pow _ (by decide : (0x0f : UInt8).toNat < 2 ^ 4)

theorem join_nibbles (byte : UInt8) : (byte >>> 4) <<< 4 ||| byte &&& 0x0f = byte := by
  revert byte
  exact forall_byte (by decide +kernel)

theorem split_nibbles {high low : UInt8} (hhigh : high < 16) (hlow : low < 16) :
    (high <<< 4 ||| low) >>> 4 = high ∧ (high <<< 4 ||| low) &&& 0x0f = low := by
  have hall : ∀ high < 16, ∀ low < 16,
      (UInt8.ofNat high <<< 4 ||| UInt8.ofNat low) >>> 4 = UInt8.ofNat high ∧
        (UInt8.ofNat high <<< 4 ||| UInt8.ofNat low) &&& 0x0f = UInt8.ofNat low := by decide +kernel
  simpa using hall high.toNat hhigh low.toNat hlow

end byte

section text

variable {text bytes : Bytes}

theorem hex_text_cons (byte : UInt8) (bytes : Bytes) :
    hex_text (byte :: bytes) = hex_byte (byte >>> 4) :: hex_byte (byte &&& 0x0f) :: hex_text bytes := rfl

theorem utf8_hex_encode (bytes : Bytes) : utf8 (hex_encode bytes) = hex_text bytes := by
  rw [hex_encode, utf8_ofList]
  induction bytes with
  | nil => rfl
  | cons byte bytes ih =>
    obtain ⟨hhigh, hlow⟩ := nibbles_lt byte
    rw [hex_text_cons, ← ih]
    simp [utf8EncodeChar_hex_char _ hhigh, utf8EncodeChar_hex_char _ hlow]

theorem lowercase_hex_text (bytes : Bytes) : Lowercase (hex_text bytes) := by
  intro digit hdigit
  obtain ⟨byte, -, hbyte⟩ := List.mem_flatMap.mp hdigit
  obtain ⟨hhigh, hlow⟩ := nibbles_lt byte
  simp only [List.mem_cons, List.not_mem_nil, or_false] at hbyte
  obtain rfl | rfl := hbyte
  · exact lowercase_hex_byte _ hhigh
  · exact lowercase_hex_byte _ hlow

theorem hex_decode_chunks_hex_text (bytes : Bytes) : hex_decode_chunks (hex_text bytes) = .ok bytes := by
  induction bytes with
  | nil => rfl
  | cons byte bytes ih =>
    obtain ⟨hhigh, hlow⟩ := nibbles_lt byte
    rw [hex_text_cons, hex_decode_chunks, char_from_hex_hex_byte _ hhigh, char_from_hex_hex_byte _ hlow, ih]
    exact congrArg (fun head => Except.ok (head :: bytes)) (join_nibbles byte)

theorem length_hex_text (bytes : Bytes) : (hex_text bytes).length = 2 * bytes.length := by
  induction bytes with
  | nil => rfl
  | cons byte bytes ih =>
    rw [hex_text_cons, List.length_cons, List.length_cons, ih, List.length_cons]
    omega

theorem hex_decode_hex_encode (bytes : Bytes) : hex_decode (utf8 (hex_encode bytes)) = .ok bytes := by
  rw [utf8_hex_encode, hex_decode, length_hex_text, if_neg (by omega), hex_decode_chunks_hex_text]

/-- Digits without the letters from `A` to `F` are those that are written for what they are read
as. -/
theorem eq_hex_text_of_lowercase (heven : text.length % 2 = 0) (hlower : Lowercase text)
    (hread : hex_decode_chunks text = .ok bytes) : text = hex_text bytes := by
  induction text using hex_decode_chunks.induct generalizing bytes with
  | case1 high low rest ih =>
    rw [hex_decode_chunks] at hread
    cases hhigh : char_from_hex high with
    | error e =>
      rw [hhigh] at hread
      cases hread
    | ok high_nibble =>
      cases hlow : char_from_hex low with
      | error e =>
        rw [hhigh, hlow] at hread
        cases hread
      | ok low_nibble =>
        cases hrest : hex_decode_chunks rest with
        | error e =>
          rw [hhigh, hlow, hrest] at hread
          cases hread
        | ok rest_bytes =>
          rw [hhigh, hlow, hrest] at hread
          cases hread
          obtain ⟨hhigh_lt, hhigh_eq⟩ := char_from_hex_eq_ok hhigh
          obtain ⟨hlow_lt, hlow_eq⟩ := char_from_hex_eq_ok hlow
          obtain ⟨hsplit_high, hsplit_low⟩ := split_nibbles hhigh_lt hlow_lt
          have htail := ih (by simp only [List.length_cons] at heven; omega)
            (fun byte hbyte => hlower byte (by simp [hbyte])) hrest
          rw [hex_text_cons, hsplit_high, hsplit_low, hhigh_eq (hlower high (by simp)),
            hlow_eq (hlower low (by simp)), ← htail]
  | case2 text hshort =>
    cases text with
    | nil =>
      cases hread
      rfl
    | cons digit rest =>
      cases rest with
      | nil => simp at heven
      | cons low rest => exact absurd rfl (hshort digit low rest)

end text

section peer_id

variable {ed25519 : Ed25519} {peer_id : String} {key : Bytes}

theorem parse_peer_id_eq_ok : parse_peer_id ed25519 peer_id = .ok key ↔
    hex_decode (utf8 peer_id) = .ok key ∧ key.length = 32 ∧ ed25519.valid_point key = true := by
  unfold parse_peer_id
  cases hex_decode (utf8 peer_id) with
  | error e => simp [bind, Except.bind]
  | ok bytes =>
    by_cases hkey : bytes.length = 32 ∧ ed25519.valid_point bytes = true
    · simp only [bind, Except.bind, hkey.1, hkey.2, ne_eq, not_true_eq_false, if_false, Bool.not_true,
        Bool.false_eq_true, pure, Except.pure, Except.ok.injEq]
      constructor
      · rintro rfl
        exact ⟨rfl, hkey⟩
      · exact And.left
    · refine iff_of_false (fun hparse => hkey ?_) ?_
      · by_cases hlength : bytes.length = 32
        · refine ⟨hlength, ?_⟩
          by_contra hvalid
          rw [Bool.not_eq_true] at hvalid
          simp [bind, Except.bind, hlength, hvalid] at hparse
        · simp [bind, Except.bind, hlength] at hparse
      · rintro ⟨heq, hlength, hvalid⟩
        cases heq
        exact hkey ⟨hlength, hvalid⟩

theorem parse_peer_id_from_public_key (hlength : key.length = 32) (hvalid : ed25519.valid_point key = true) :
    parse_peer_id ed25519 (peer_id_from_public_key key) = .ok key :=
  parse_peer_id_eq_ok.mpr ⟨hex_decode_hex_encode key, hlength, hvalid⟩

/-- A text that is read as a key is the one that is written for the key, unless it has a letter
from `A` to `F`. -/
theorem eq_peer_id_iff (hparse : parse_peer_id ed25519 peer_id = .ok key) :
    peer_id = peer_id_from_public_key key ↔ Lowercase (utf8 peer_id) := by
  constructor
  · rintro rfl
    rw [peer_id_from_public_key, utf8_hex_encode]
    exact lowercase_hex_text key
  · intro hlower
    obtain ⟨hread, -, -⟩ := parse_peer_id_eq_ok.mp hparse
    unfold hex_decode at hread
    split at hread
    next => contradiction
    next heven =>
      rw [← utf8_inj, peer_id_from_public_key, utf8_hex_encode]
      exact eq_hex_text_of_lowercase (by simpa using heven) hlower hread

end peer_id

end voip_core.crypto
