import Voip.Wire.Fields
import Mathlib.Data.List.Basic

namespace wire

/-- A varint says where it ends: two encodings that start with one agree on it and on the rest. -/
theorem leb128_append_inj {first second : Nat} {rest rest' : Bytes}
    (heq : leb128 first ++ rest = leb128 second ++ rest') : first = second ∧ rest = rest' := by
  induction first using Nat.strongRecOn generalizing second with
  | ind first ih =>
    have hlow (value : Nat) (hvalue : value < 128) : (UInt8.ofNat value).toNat = value := by
      rw [UInt8.toNat_ofNat', Nat.mod_eq_of_lt (by omega)]
    have hhigh (value : Nat) : (UInt8.ofNat (value % 128 + 128)).toNat = value % 128 + 128 := by
      rw [UInt8.toNat_ofNat', Nat.mod_eq_of_lt (by omega)]
    by_cases hfirst : first < 128 <;> by_cases hsecond : second < 128
    · rw [leb128_of_lt hfirst, leb128_of_lt hsecond, List.singleton_append, List.singleton_append,
        List.cons.injEq] at heq
      have hbyte := congrArg UInt8.toNat heq.1
      rw [hlow _ hfirst, hlow _ hsecond] at hbyte
      exact ⟨hbyte, heq.2⟩
    · rw [leb128_of_lt hfirst, leb128_of_ge (by omega), List.singleton_append, List.cons_append,
        List.cons.injEq] at heq
      have hbyte := congrArg UInt8.toNat heq.1
      rw [hlow _ hfirst, hhigh] at hbyte
      omega
    · rw [leb128_of_ge (by omega), leb128_of_lt hsecond, List.singleton_append, List.cons_append,
        List.cons.injEq] at heq
      have hbyte := congrArg UInt8.toNat heq.1
      rw [hlow _ hsecond, hhigh] at hbyte
      omega
    · rw [leb128_of_ge (Nat.not_lt.mp hfirst), leb128_of_ge (Nat.not_lt.mp hsecond), List.cons_append,
        List.cons_append, List.cons.injEq] at heq
      have hbyte := congrArg UInt8.toNat heq.1
      rw [hhigh, hhigh] at hbyte
      obtain ⟨hdiv, hrest⟩ := ih (first / 128) (by omega) heq.2
      exact ⟨by omega, hrest⟩

end wire

namespace wire.proto

/-- The bytes of a field with its key. -/
def encodeField : Nat × Value → Bytes
  | (field, .varint value) => key field 0 ++ leb128 value
  | (field, .fixed64 value) => key field 1 ++ value
  | (field, .delimited value) => delimited field value
  | (field, .fixed32 value) => key field 5 ++ value

def encodeFields (fields : List (Nat × Value)) : Bytes := fields.flatMap encodeField

/-- A value of fixed size has that size. -/
def Value.Sized : Value → Prop
  | .fixed64 value => value.length = 8
  | .fixed32 value => value.length = 4
  | _ => True

def Sized (fields : List (Nat × Value)) : Prop := ∀ entry ∈ fields, entry.2.Sized

theorem key_append_inj {field field' wireType wireType' : Nat} (hwire : wireType < 8)
    (hwire' : wireType' < 8) {rest rest' : Bytes}
    (heq : key field wireType ++ rest = key field' wireType' ++ rest') :
    field = field' ∧ wireType = wireType' ∧ rest = rest' := by
  obtain ⟨hkey, hrest⟩ := leb128_append_inj heq
  exact ⟨by omega, by omega, hrest⟩

/-- A field says where it ends. -/
theorem encodeField_append_inj {entry entry' : Nat × Value} (hsized : entry.2.Sized)
    (hsized' : entry'.2.Sized) {rest rest' : Bytes}
    (heq : encodeField entry ++ rest = encodeField entry' ++ rest') : entry = entry' ∧ rest = rest' := by
  obtain ⟨field, value⟩ := entry
  obtain ⟨field', value'⟩ := entry'
  cases value <;> cases value' <;> simp only [encodeField, delimited, List.append_assoc] at heq <;>
    obtain ⟨hfield, hwire, heq⟩ := key_append_inj (by decide) (by decide) heq
  case varint.varint value value' =>
    obtain ⟨rfl, hrest⟩ := leb128_append_inj heq
    exact ⟨by rw [hfield], hrest⟩
  case fixed64.fixed64 value value' =>
    obtain ⟨rfl, hrest⟩ := List.append_inj heq (hsized.trans hsized'.symm)
    exact ⟨by rw [hfield], hrest⟩
  case delimited.delimited value value' =>
    obtain ⟨hlength, heq⟩ := leb128_append_inj heq
    obtain ⟨rfl, hrest⟩ := List.append_inj heq hlength
    exact ⟨by rw [hfield], hrest⟩
  case fixed32.fixed32 value value' =>
    obtain ⟨rfl, hrest⟩ := List.append_inj heq (hsized.trans hsized'.symm)
    exact ⟨by rw [hfield], hrest⟩
  all_goals contradiction

theorem encodeField_ne_nil (entry : Nat × Value) : encodeField entry ≠ [] := by
  obtain ⟨field, value⟩ := entry
  cases value <;> simp [encodeField, delimited, key, leb128_ne_nil]

/-- The encoding of a message determines its fields. -/
theorem encodeFields_inj {fields fields' : List (Nat × Value)} (hsized : Sized fields)
    (hsized' : Sized fields') (heq : encodeFields fields = encodeFields fields') :
    fields = fields' := by
  induction fields generalizing fields' with
  | nil =>
    cases fields' with
    | nil => rfl
    | cons entry fields' =>
      have hnil : encodeField entry = [] := by
        simp only [encodeFields, List.flatMap_cons, List.flatMap_nil, List.nil_eq_append_iff] at heq
        exact heq.1
      exact absurd hnil (encodeField_ne_nil entry)
  | cons entry fields ih =>
    cases fields' with
    | nil =>
      have hnil : encodeField entry = [] := by
        simp only [encodeFields, List.flatMap_cons, List.flatMap_nil, List.append_eq_nil_iff] at heq
        exact heq.1
      exact absurd hnil (encodeField_ne_nil entry)
    | cons entry' fields' =>
      rw [Sized, List.forall_mem_cons] at hsized hsized'
      obtain ⟨rfl, hrest⟩ := encodeField_append_inj hsized.1 hsized'.1 heq
      rw [ih hsized.2 hsized'.2 hrest]

/-- What the writer of each kind of field writes. -/
def uintField (field value : Nat) : List (Nat × Value) := written field (value = 0) (.varint value)

def intField (field : Nat) (value : Int) : List (Nat × Value) := uintField field (value % 2 ^ 64).toNat

def bytesField (field : Nat) (value : Bytes) : List (Nat × Value) :=
  written field (value = []) (.delimited value)

def stringField (field : Nat) (value : String) : List (Nat × Value) := bytesField field (utf8 value)

def messageField (field : Nat) (value : Option Bytes) : List (Nat × Value) :=
  value.elim [] fun message => [(field, .delimited message)]

def repeatedField (field : Nat) (values : List Bytes) : List (Nat × Value) :=
  values.map fun value => (field, .delimited value)

section Pieces

variable (field field' value : Nat) (number : Int) (content : Bytes) (text : String)
  (embedded : Option Bytes) (contents : List Bytes)

@[simp] theorem encodeFields_append (fields fields' : List (Nat × Value)) :
    encodeFields (fields ++ fields') = encodeFields fields ++ encodeFields fields' :=
  List.flatMap_append

@[simp] theorem encodeFields_uintField : encodeFields (uintField field value) = uint field value := by
  unfold uintField written uint
  split <;> simp [encodeFields, encodeField]

@[simp] theorem encodeFields_intField : encodeFields (intField field number) = int field number :=
  encodeFields_uintField ..

@[simp] theorem encodeFields_bytesField : encodeFields (bytesField field content) = bytes field content := by
  unfold bytesField written bytes
  split <;> simp [encodeFields, encodeField]

@[simp] theorem encodeFields_stringField : encodeFields (stringField field text) = string field text :=
  encodeFields_bytesField ..

@[simp] theorem encodeFields_messageField :
    encodeFields (messageField field embedded) = message field embedded := by
  cases embedded <;> simp [messageField, encodeFields, encodeField, message]

@[simp] theorem encodeFields_repeatedField :
    encodeFields (repeatedField field contents) = repeated field contents := by
  simp [repeatedField, encodeFields, encodeField, repeated, List.flatMap_map]

@[simp] theorem filter_uintField : (uintField field value).filter (fun entry => entry.1 = field') =
    if field = field' then uintField field value else [] := filter_written ..

@[simp] theorem filter_intField : (intField field number).filter (fun entry => entry.1 = field') =
    if field = field' then intField field number else [] := filter_written ..

@[simp] theorem filter_bytesField : (bytesField field content).filter (fun entry => entry.1 = field') =
    if field = field' then bytesField field content else [] := filter_written ..

@[simp] theorem filter_stringField : (stringField field text).filter (fun entry => entry.1 = field') =
    if field = field' then stringField field text else [] := filter_written ..

@[simp] theorem filter_messageField :
    (messageField field embedded).filter (fun entry => entry.1 = field') =
      if field = field' then messageField field embedded else [] := by
  cases embedded <;> by_cases hfield : field = field' <;> simp [messageField, hfield]

@[simp] theorem filter_repeatedField :
    (repeatedField field contents).filter (fun entry => entry.1 = field') =
      if field = field' then repeatedField field contents else [] := by
  by_cases hfield : field = field'
  · rw [if_pos hfield, List.filter_eq_self]
    simp [repeatedField, hfield]
  · simp [repeatedField, hfield]

@[simp] theorem sized_append (fields fields' : List (Nat × Value)) :
    Sized (fields ++ fields') ↔ Sized fields ∧ Sized fields' := List.forall_mem_append

@[simp] theorem sized_uintField : Sized (uintField field value) := by
  unfold uintField written
  split <;> simp [Sized, Value.Sized]

@[simp] theorem sized_intField : Sized (intField field number) := sized_uintField _ _

@[simp] theorem sized_bytesField : Sized (bytesField field content) := by
  unfold bytesField written
  split <;> simp [Sized, Value.Sized]

@[simp] theorem sized_stringField : Sized (stringField field text) :=
  sized_bytesField _ _

@[simp] theorem sized_messageField : Sized (messageField field embedded) := by
  cases embedded <;> simp [messageField, Sized, Value.Sized]

@[simp] theorem sized_repeatedField : Sized (repeatedField field contents) := by
  simp [repeatedField, Sized, Value.Sized]

end Pieces

section Values

variable {field : Nat}

theorem uintField_inj {value value' : Nat} :
    uintField field value = uintField field value' ↔ value = value' := by
  unfold uintField written
  by_cases hvalue : value = 0 <;> by_cases hvalue' : value' = 0 <;> simp [hvalue, hvalue', eq_comm]

theorem bytesField_inj {value value' : Bytes} :
    bytesField field value = bytesField field value' ↔ value = value' := by
  unfold bytesField written
  by_cases hvalue : value = [] <;> by_cases hvalue' : value' = [] <;> simp [hvalue, hvalue', eq_comm]

theorem stringField_inj {value value' : String} :
    stringField field value = stringField field value' ↔ value = value' := by
  rw [stringField, stringField, bytesField_inj, utf8_inj]

theorem intField_inj {value value' : Int32} :
    intField field value.toInt = intField field value'.toInt ↔ value = value' := by
  rw [intField, intField, uintField_inj, ← Int32.toInt_inj]
  have hlow := value.le_toInt
  have hhigh := value.toInt_lt
  have hlow' := value'.le_toInt
  have hhigh' := value'.toInt_lt
  omega

theorem messageField_inj {value value' : Option Bytes} :
    messageField field value = messageField field value' ↔ value = value' := by
  cases value <;> cases value' <;> simp [messageField]

theorem repeatedField_inj {values values' : List Bytes} :
    repeatedField field values = repeatedField field values' ↔ values = values' := by
  have hinj : Function.Injective fun value : Bytes => (field, Value.delimited value) := by
    intro first second heq
    simpa using heq
  exact (List.map_injective_iff.mpr hinj).eq_iff

end Values

end wire.proto
