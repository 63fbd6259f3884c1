import Voip.Wire.Leb128

namespace wire.proto

/-- The key that introduces a field: its number and the wire type of its value. -/
def key (field wireType : Nat) : Bytes := leb128 (field * 8 + wireType)

/-- An unsigned integer field. A proto3 encoder omits a field with its default value. -/
def uint (field value : Nat) : Bytes := if value = 0 then [] else key field 0 ++ leb128 value

/-- A signed integer or enumeration field; negative values are sign-extended to 64 bits. -/
def int (field : Nat) (value : Int) : Bytes := uint field (value % 2 ^ 64).toNat

/-- A length-delimited value, written whatever its length. -/
def delimited (field : Nat) (value : Bytes) : Bytes := key field 2 ++ leb128 value.length ++ value

/-- A byte field, omitted when empty. -/
def bytes (field : Nat) (value : Bytes) : Bytes := if value = [] then [] else delimited field value

/-- A string field, omitted when empty. -/
def string (field : Nat) (value : String) : Bytes := bytes field (utf8 value)

/-- An embedded message, omitted when absent and written even when all its own fields
have their defaults. -/
def message (field : Nat) (value : Option Bytes) : Bytes := value.elim [] (delimited field)

/-- A repeated length-delimited field: every element is written, also an empty one. -/
def repeated (field : Nat) (values : List Bytes) : Bytes := values.flatMap (delimited field)

theorem string_of_ne_nil {field : Nat} {text : String} (hpiece : string field text ≠ []) :
    string field text = delimited field (utf8 text) := by
  unfold string bytes at hpiece ⊢
  split at hpiece
  next => contradiction
  next hvalue => rw [if_neg hvalue]

theorem eq_empty_of_string {field : Nat} {text : String} (hpiece : string field text = []) :
    text = "" := by
  unfold string bytes at hpiece
  split at hpiece
  next hvalue => exact utf8_inj.mp hvalue
  next => simp [delimited, key, leb128_ne_nil] at hpiece

theorem uint_of_ne_nil {field number : Nat} (hpiece : uint field number ≠ []) :
    uint field number = key field 0 ++ leb128 number := by
  unfold uint at hpiece ⊢
  split at hpiece
  next => contradiction
  next hnumber => rw [if_neg hnumber]

theorem eq_zero_of_uint {field number : Nat} (hpiece : uint field number = []) : number = 0 := by
  unfold uint at hpiece
  split at hpiece
  next hnumber => exact hnumber
  next => simp [leb128_ne_nil] at hpiece

/-- The first byte, if there is one, is as given. -/
def Starts (P : UInt8 → Prop) (encoded : Bytes) : Prop := ∀ byte, encoded.head? = some byte → P byte

theorem Starts.append {P : UInt8 → Prop} {first second : Bytes} (hfirst : Starts P first)
    (hsecond : Starts P second) : Starts P (first ++ second) := by
  cases first with
  | nil => exact hsecond
  | cons byte rest => exact hfirst

private theorem head?_key_append {field wireType : Nat} (hsmall : field * 8 + wireType < 128) (rest : Bytes) :
    (key field wireType ++ rest).head? = some (UInt8.ofNat (field * 8 + wireType)) := by
  rw [key, leb128_of_lt hsmall]
  rfl

/-- An integer field starts with its key. -/
theorem starts_uint {P : UInt8 → Prop} {field : Nat} (value : Nat) (hsmall : field * 8 < 128)
    (hkey : P (UInt8.ofNat (field * 8))) : Starts P (uint field value) := by
  intro byte hbyte
  unfold uint at hbyte
  split at hbyte
  · contradiction
  · rw [head?_key_append (by omega), Option.some.injEq] at hbyte
    exact hbyte ▸ hkey

/-- A byte field starts with its key. -/
theorem starts_bytes {P : UInt8 → Prop} {field : Nat} (value : Bytes) (hsmall : field * 8 + 2 < 128)
    (hkey : P (UInt8.ofNat (field * 8 + 2))) : Starts P (bytes field value) := by
  intro byte hbyte
  unfold bytes delimited at hbyte
  split at hbyte
  · contradiction
  · rw [List.append_assoc, head?_key_append hsmall, Option.some.injEq] at hbyte
    exact hbyte ▸ hkey

end wire.proto
