import Voip.Wire.Canonical

namespace wire

/-- The bytes are valid UTF-8. -/
def IsText (bytes : Bytes) : Prop := ∃ text : String, utf8 text = bytes

@[simp] theorem isText_utf8 (text : String) : IsText (utf8 text) := ⟨text, rfl⟩

theorem isText_nil : IsText [] := ⟨"", rfl⟩

theorem isText_utf8EncodeChar (c : Char) : IsText (String.utf8EncodeChar c) :=
  ⟨String.ofList [c], by rw [utf8_ofList, List.flatMap_singleton]⟩

theorem IsText.append {first second : Bytes} (hfirst : IsText first) (hsecond : IsText second) :
    IsText (first ++ second) := by
  obtain ⟨first, rfl⟩ := hfirst
  obtain ⟨second, rfl⟩ := hsecond
  exact ⟨first ++ second, utf8_append first second⟩

/-- A character takes one ASCII byte or several bytes that are none. -/
theorem utf8EncodeChar_ascii (c : Char) {byte : UInt8} (hmem : byte ∈ String.utf8EncodeChar c)
    (hascii : byte < 128) : String.utf8EncodeChar c = [byte] := by
  have hhigh {value low : Nat} (hlow : 128 ≤ low) (hfits : value + low < 256) :
      ¬UInt8.ofNat (value + low) < 128 := by
    rw [UInt8.lt_iff_toNat_lt, UInt8.toNat_ofNat', Nat.mod_eq_of_lt hfits]
    simp only [UInt8.toNat_ofNat]
    omega
  unfold String.utf8EncodeChar at hmem ⊢
  dsimp only at hmem ⊢
  split
  next hsmall =>
    rw [if_pos hsmall, List.mem_singleton] at hmem
    rw [hmem]
  next hlarge =>
    -- Every byte of a longer character has its high bit set.
    rw [if_neg hlarge] at hmem
    exfalso
    split at hmem
    · simp only [List.mem_cons, List.not_mem_nil, or_false] at hmem
      obtain rfl | rfl := hmem <;> exact hhigh (by omega) (by omega) hascii
    · split at hmem
      · simp only [List.mem_cons, List.not_mem_nil, or_false] at hmem
        obtain rfl | rfl | rfl := hmem <;> exact hhigh (by omega) (by omega) hascii
      · simp only [List.mem_cons, List.not_mem_nil, or_false] at hmem
        obtain rfl | rfl | rfl | rfl := hmem <;> exact hhigh (by omega) (by omega) hascii

theorem isText_singleton {byte : UInt8} (hascii : byte < 128) : IsText [byte] := by
  have hlow : byte.toNat < 128 := by simpa [UInt8.lt_iff_toNat_lt] using hascii
  have hchar : (Char.ofNat byte.toNat).val.toNat = byte.toNat := by
    have hvalid : byte.toNat.isValidChar := .inl (by omega)
    have heq : Char.ofNat byte.toNat = Char.ofNatAux byte.toNat hvalid := dif_pos hvalid
    rw [heq]
    rfl
  have hencoded := isText_utf8EncodeChar (Char.ofNat byte.toNat)
  unfold String.utf8EncodeChar at hencoded
  dsimp only at hencoded
  rwa [hchar, if_pos (by omega), UInt8.ofNat_toNat] at hencoded

private theorem isText_of_append_cons {chars : List Char} {front back : Bytes} {byte : UInt8}
    (hascii : byte < 128) (heq : chars.flatMap String.utf8EncodeChar = front ++ byte :: back) :
    IsText front ∧ IsText back := by
  induction chars generalizing front with
  | nil => simp at heq
  | cons c chars ih =>
    rw [List.flatMap_cons, List.append_eq_append_iff] at heq
    obtain ⟨rest, rfl, hrest⟩ | ⟨rest, hencoded, hrest⟩ := heq
    · obtain ⟨hfront, hback⟩ := ih hrest
      exact ⟨(isText_utf8EncodeChar c).append hfront, hback⟩
    · cases rest with
      | nil =>
        rw [List.append_nil] at hencoded
        have hchars : chars.flatMap String.utf8EncodeChar = [] ++ byte :: back := hrest.symm
        obtain ⟨-, hback⟩ := ih hchars
        exact ⟨hencoded ▸ isText_utf8EncodeChar c, hback⟩
      | cons first rest =>
        -- The byte belongs to this character, so it is all of it.
        rw [List.cons_append, List.cons.injEq] at hrest
        obtain ⟨rfl, rfl⟩ := hrest
        have hsingle := utf8EncodeChar_ascii c (by simp [hencoded]) hascii
        have hlength := congrArg List.length (hencoded.symm.trans hsingle)
        simp only [List.length_append, List.length_cons, List.length_nil] at hlength
        have hfront : front = [] := List.eq_nil_of_length_eq_zero (by omega)
        have hrest : rest = [] := List.eq_nil_of_length_eq_zero (by omega)
        rw [hfront, hrest, List.nil_append]
        exact ⟨isText_nil, String.ofList chars, utf8_ofList chars⟩

/-- Around an ASCII byte a text falls into two texts. -/
theorem isText_append_cons {front back : Bytes} {byte : UInt8} (hascii : byte < 128) :
    IsText (front ++ byte :: back) ↔ IsText front ∧ IsText back := by
  constructor
  · rintro ⟨text, htext⟩
    rw [← text.ofList_toList, utf8_ofList] at htext
    exact isText_of_append_cons hascii htext
  · rintro ⟨hfront, hback⟩
    exact hfront.append ((isText_singleton hascii).append hback)

theorem isText_cons {byte : UInt8} (hascii : byte < 128) {rest : Bytes} :
    IsText (byte :: rest) ↔ IsText rest := by
  rw [← List.nil_append (byte :: rest), isText_append_cons hascii, and_iff_right isText_nil]

/-- A character that takes one byte, which is not zero. -/
structure Separator where
  char : Char
  byte : UInt8
  ascii : byte < 128
  ne_zero : byte ≠ 0
  encoded : String.utf8EncodeChar char = [byte]

namespace Separator

variable (separator : Separator)

/-- The separator occurs in a text where its byte does. -/
theorem mem_utf8 {text : String} : separator.byte ∈ utf8 text ↔ separator.char ∈ text.toList := by
  rw [← text.ofList_toList, utf8_ofList, List.mem_flatMap, String.toList_ofList]
  constructor
  · rintro ⟨other, hother, hmem⟩
    have hsame := utf8EncodeChar_ascii other hmem separator.ascii
    have htexts : String.ofList [other] = String.ofList [separator.char] := by
      rw [← utf8_inj, utf8_ofList, utf8_ofList, List.flatMap_singleton, List.flatMap_singleton, hsame,
        separator.encoded]
    rw [String.ofList_inj, List.cons.injEq] at htexts
    exact htexts.1 ▸ hother
  · intro hmem
    exact ⟨separator.char, hmem, by simp [separator.encoded]⟩

theorem utf8_singleton : utf8 (String.singleton separator.char) = [separator.byte] := by
  rw [String.singleton_eq_ofList, utf8_ofList, List.flatMap_singleton, separator.encoded]

/-- The texts with a separator are those that are joined from two texts. -/
theorem exists_joined {bytes : Bytes} : IsText bytes ∧ separator.byte ∈ bytes ↔
    ∃ first second : String, utf8 (first ++ String.singleton separator.char ++ second) = bytes := by
  constructor
  · rintro ⟨htext, hmem⟩
    obtain ⟨front, back, rfl⟩ := List.append_of_mem hmem
    obtain ⟨⟨first, rfl⟩, second, rfl⟩ := (isText_append_cons separator.ascii).mp htext
    refine ⟨first, second, ?_⟩
    rw [utf8_append, utf8_append, utf8_singleton, List.append_assoc, List.singleton_append]
  · rintro ⟨first, second, rfl⟩
    refine ⟨isText_utf8 _, ?_⟩
    rw [utf8_append, utf8_append, utf8_singleton]
    simp

end Separator

/-- A varint ends with its only ASCII byte. -/
theorem leb128_eq_append (value : Nat) : ∃ front last, last < 128 ∧ leb128 value = front ++ [last] := by
  induction value using Nat.strongRecOn with
  | ind value ih =>
    by_cases hsmall : value < 128
    · refine ⟨[], UInt8.ofNat value, ?_, leb128_of_lt hsmall⟩
      rw [UInt8.lt_iff_toNat_lt, UInt8.toNat_ofNat']
      exact (Nat.mod_le _ _).trans_lt hsmall
    · obtain ⟨front, last, hlast, heq⟩ := ih (value / 128) (by omega)
      refine ⟨UInt8.ofNat (value % 128 + 128) :: front, last, hlast, ?_⟩
      rw [leb128_of_ge (Nat.not_lt.mp hsmall), heq, List.cons_append]

theorem isText_leb128_append (value : Nat) (rest : Bytes) :
    IsText (leb128 value ++ rest) ↔ IsText (leb128 value) ∧ IsText rest := by
  obtain ⟨front, last, hlast, heq⟩ := leb128_eq_append value
  rw [heq, List.append_assoc, List.singleton_append, isText_append_cons hlast, isText_append_cons hlast]
  simp [isText_nil]

/-- What starts with an ASCII byte, if with any, is cut off from a text as a text. -/
theorem isText_append_of_starts {front rest : Bytes} (hstarts : proto.Starts (· < 128) rest) :
    IsText (front ++ rest) ↔ IsText front ∧ IsText rest := by
  cases rest with
  | nil => simp [isText_nil]
  | cons byte rest =>
    have hascii : byte < 128 := hstarts byte rfl
    rw [isText_append_cons hascii, isText_cons hascii]

end wire
