import Voip.Wire.Text

namespace wire

/-- The numbers and texts from which bytes are built, as far as it matters for reading them as
a text with separators. -/
structure Spells (separator : Separator) (bytes : Bytes) (numbers : List Nat) (texts : List String) :
    Prop where
  isText : IsText bytes ↔ ∀ number ∈ numbers, IsText (leb128 number)
  mem : separator.byte ∈ bytes ↔ (∃ number ∈ numbers, separator.byte ∈ leb128 number) ∨
    ∃ text ∈ texts, separator.char ∈ text.toList

/-- Every number is written as a text by itself, and the separator stands in a number or in a
text. -/
def Separable (separator : Separator) (numbers : List Nat) (texts : List String) : Prop :=
  (∀ number ∈ numbers, IsText (leb128 number)) ∧
    ((∃ number ∈ numbers, separator.byte ∈ leb128 number) ∨
      ∃ text ∈ texts, separator.char ∈ text.toList)

/-- Which bytes are joined from two texts. -/
theorem Spells.exists_joined {separator : Separator} {bytes : Bytes} {numbers : List Nat}
    {texts : List String} (hspells : Spells separator bytes numbers texts) :
    (∃ first second : String, utf8 (first ++ String.singleton separator.char ++ second) = bytes) ↔
      Separable separator numbers texts := by
  rw [← separator.exists_joined, hspells.isText, hspells.mem, Separable]

end wire

namespace wire.proto

def Value.wireType : Value → Nat
  | .varint _ => 0
  | .fixed64 _ => 1
  | .delimited _ => 2
  | .fixed32 _ => 5

/-- What stands after the key of a field. -/
def Value.body : Value → Bytes
  | .varint value => leb128 value
  | .fixed64 value => value
  | .delimited value => leb128 value.length ++ value
  | .fixed32 value => value

theorem encodeField_eq (field : Nat) (value : Value) :
    encodeField (field, value) = key field value.wireType ++ value.body := by
  cases value <;> simp [encodeField, delimited, Value.wireType, Value.body]

/-- A key of one byte, which is not the separator. -/
structure Plain (separator : Separator) (field wireType : Nat) : Prop where
  ascii : field * 8 + wireType < 128
  notMem : separator.byte ∉ key field wireType

/-- A list of fields under plain keys, with the numbers and texts that it writes. -/
structure Spelled (separator : Separator) (fields : List (Nat × Value)) (numbers : List Nat)
    (texts : List String) : Prop where
  plain : ∀ entry ∈ fields, Plain separator entry.1 entry.2.wireType
  isText : (∀ entry ∈ fields, IsText entry.2.body) ↔ ∀ number ∈ numbers, IsText (leb128 number)
  mem : (∃ entry ∈ fields, separator.byte ∈ entry.2.body) ↔
    (∃ number ∈ numbers, separator.byte ∈ leb128 number) ∨
      ∃ text ∈ texts, separator.char ∈ text.toList

/-- An empty byte field is not written. -/
theorem bytesField_nil (field : Nat) : bytesField field [] = [] := rfl

section Encoding

variable {separator : Separator} {fields : List (Nat × Value)}

private theorem ascii_key {field wireType : Nat} (hplain : Plain separator field wireType) :
    UInt8.ofNat (field * 8 + wireType) < 128 := by
  rw [UInt8.lt_iff_toNat_lt, UInt8.toNat_ofNat']
  exact (Nat.mod_le _ _).trans_lt hplain.ascii

private theorem encodeFields_cons {entry : Nat × Value}
    (hplain : Plain separator entry.1 entry.2.wireType) : encodeFields (entry :: fields) =
      UInt8.ofNat (entry.1 * 8 + entry.2.wireType) :: (entry.2.body ++ encodeFields fields) := by
  rw [encodeFields, List.flatMap_cons, encodeField_eq, key, leb128_of_lt hplain.ascii]
  rfl

private theorem starts_encodeFields (hplain : ∀ entry ∈ fields, Plain separator entry.1 entry.2.wireType) :
    Starts (· < 128) (encodeFields fields) := by
  cases fields with
  | nil => simp [encodeFields, Starts]
  | cons entry fields =>
    intro byte hbyte
    have hentry := hplain entry List.mem_cons_self
    rw [encodeFields_cons hentry, List.head?_cons, Option.some.injEq] at hbyte
    exact hbyte ▸ ascii_key hentry

/-- Under plain keys a message is a text when each of its fields is. -/
theorem isText_encodeFields (hplain : ∀ entry ∈ fields, Plain separator entry.1 entry.2.wireType) :
    IsText (encodeFields fields) ↔ ∀ entry ∈ fields, IsText entry.2.body := by
  induction fields with
  | nil => simp [encodeFields, isText_nil]
  | cons entry fields ih =>
    obtain ⟨hentry, hrest⟩ := List.forall_mem_cons.mp hplain
    rw [encodeFields_cons hentry, isText_cons (ascii_key hentry),
      isText_append_of_starts (starts_encodeFields hrest), ih hrest, List.forall_mem_cons]

/-- Under plain keys the separator occurs in a message where it occurs in a field. -/
theorem mem_encodeFields (hplain : ∀ entry ∈ fields, Plain separator entry.1 entry.2.wireType) :
    separator.byte ∈ encodeFields fields ↔ ∃ entry ∈ fields, separator.byte ∈ entry.2.body := by
  rw [encodeFields, List.mem_flatMap]
  refine exists_congr fun entry => and_congr_right fun hentry => ?_
  rw [encodeField_eq, List.mem_append]
  exact or_iff_right (hplain entry hentry).notMem

theorem Spelled.spells {numbers : List Nat} {texts : List String}
    (hspelled : Spelled separator fields numbers texts) :
    Spells separator (encodeFields fields) numbers texts where
  isText := (isText_encodeFields hspelled.plain).trans hspelled.isText
  mem := (mem_encodeFields hspelled.plain).trans hspelled.mem

end Encoding

section Comparison

/-- A number is not written under the same key as bytes. -/
theorem uintField_eq_of_delimited {field value : Nat} {fields : List (Nat × Value)}
    (hfields : ∀ entry ∈ fields, entry.2.wireType = 2) :
    uintField field value = fields ↔ value = 0 ∧ fields = [] := by
  unfold uintField written
  constructor
  · rintro rfl
    split at hfields
    next hzero => simp [hzero]
    next => simp [Value.wireType] at hfields
  · rintro ⟨rfl, rfl⟩
    rfl

theorem uintField_eq_stringField {field value : Nat} {text : String} :
    uintField field value = stringField field text ↔ value = 0 ∧ text = "" := by
  have hwire : ∀ entry ∈ stringField field text, entry.2.wireType = 2 := by
    unfold stringField bytesField written
    split <;> simp [Value.wireType]
  have hnil : stringField field text = stringField field "" ↔ text = "" := stringField_inj
  rw [uintField_eq_of_delimited hwire, ← hnil]
  rfl

theorem repeatedField_eq_uintField {field value : Nat} {contents : List Bytes} :
    repeatedField field contents = uintField field value ↔ value = 0 ∧ contents = [] := by
  have hwire : ∀ entry ∈ repeatedField field contents, entry.2.wireType = 2 := by
    simp [repeatedField, Value.wireType]
  rw [eq_comm, uintField_eq_of_delimited hwire, repeatedField, List.map_eq_nil_iff]

theorem messageField_eq_uintField {field value : Nat} {embedded : Option Bytes} :
    messageField field embedded = uintField field value ↔ value = 0 ∧ embedded = none := by
  have hwire : ∀ entry ∈ messageField field embedded, entry.2.wireType = 2 := by
    cases embedded <;> simp [messageField, Value.wireType]
  have hnil : messageField field embedded = messageField field none ↔ embedded = none := messageField_inj
  rw [eq_comm, uintField_eq_of_delimited hwire, ← hnil]
  rfl

theorem uintField_eq_nil {field value : Nat} : uintField field value = [] ↔ value = 0 := by
  have hzero : uintField field value = uintField field 0 ↔ value = 0 := uintField_inj
  exact hzero

/-- A repeated text that is written once looks like a plain one. -/
theorem repeatedField_eq_stringField {field : Nat} {texts : List String} {text : String} :
    repeatedField field (texts.map utf8) = stringField field text ↔
      texts = if text = "" then [] else [text] := by
  by_cases htext : text = ""
  · simp [htext, repeatedField, stringField, bytesField, written, utf8]
  · have hne : utf8 text ≠ [] := fun hnil => htext (utf8_inj.mp hnil)
    cases texts with
    | nil => simp [htext, hne, repeatedField, stringField, bytesField, written]
    | cons first rest => simp [htext, hne, repeatedField, stringField, bytesField, written, utf8_inj]

end Comparison

namespace Spelled

variable {separator : Separator} {field : Nat}

theorem append {fields fields' : List (Nat × Value)} {numbers numbers' : List Nat} {texts texts' : List String}
    (hfirst : Spelled separator fields numbers texts) (hsecond : Spelled separator fields' numbers' texts') :
    Spelled separator (fields ++ fields') (numbers ++ numbers') (texts ++ texts') where
  plain := List.forall_mem_append.mpr ⟨hfirst.plain, hsecond.plain⟩
  isText := by
    rw [List.forall_mem_append, List.forall_mem_append, hfirst.isText, hsecond.isText]
  mem := by
    have hmem := or_congr hfirst.mem hsecond.mem
    simp only [List.mem_append, or_and_right, exists_or]
    rw [hmem, or_or_or_comm]

protected theorem nil : Spelled separator [] [] [] where
  plain := by simp
  isText := by simp
  mem := by simp

/-- A number that is not written would be written as the zero byte, a text without separator. -/
theorem uint (hplain : Plain separator field 0) (value : Nat) :
    Spelled separator (uintField field value) [value] [] := by
  unfold uintField written
  split
  next hzero =>
    have hnul : IsText [0] := isText_singleton (by decide)
    constructor
    · simp
    · simpa [hzero, leb128_of_lt] using hnul
    · simp [hzero, leb128_of_lt, separator.ne_zero]
  next =>
    constructor
    · simpa [Value.wireType] using hplain
    · simp [Value.body]
    · simp [Value.body]

theorem int (hplain : Plain separator field 0) (value : Int) :
    Spelled separator (intField field value) [(value % 2 ^ 64).toNat] [] :=
  uint hplain _

/-- A delimited value, from what its content is built of. -/
theorem delimited (hplain : Plain separator field 2) {content : Bytes} {numbers : List Nat}
    {texts : List String} (hcontent : Spells separator content numbers texts) :
    Spelled separator [(field, .delimited content)] (content.length :: numbers) texts where
  plain := by simpa [Value.wireType] using hplain
  isText := by
    simp [Value.body, isText_leb128_append, hcontent.isText]
  mem := by
    simp [Value.body, hcontent.mem, or_assoc]

theorem spells_utf8 (text : String) : Spells separator (utf8 text) [] [text] where
  isText := by simp
  mem := by simp [separator.mem_utf8]

theorem string (hplain : Plain separator field 2) (text : String) :
    Spelled separator (stringField field text) [(utf8 text).length] [text] := by
  unfold stringField bytesField written
  split
  next hempty =>
    have hnul : IsText [0] := isText_singleton (by decide)
    have hmem : separator.byte ∈ utf8 text ↔ separator.char ∈ text.toList := separator.mem_utf8
    constructor
    · simp
    · simpa [hempty, leb128_of_lt] using hnul
    · simpa [hempty, leb128_of_lt, separator.ne_zero] using hmem
  next => exact delimited hplain (spells_utf8 text)

/-- An embedded message, if there is one. -/
theorem message {α : Type} (hplain : Plain separator field 2) {encode : α → Bytes} {numbers : α → List Nat}
    {texts : α → List String} (hencode : ∀ value, Spells separator (encode value) (numbers value) (texts value))
    (value : Option α) : Spelled separator (messageField field (value.map encode))
      (value.elim [] fun value => (encode value).length :: numbers value) (value.elim [] texts) := by
  cases value with
  | none => exact Spelled.nil
  | some value => exact delimited hplain (hencode value)

/-- The elements of a repeated field. -/
theorem repeated {α : Type} (hplain : Plain separator field 2) {encode : α → Bytes} {numbers : α → List Nat}
    {texts : α → List String} (hencode : ∀ value, Spells separator (encode value) (numbers value) (texts value))
    (values : List α) : Spelled separator (repeatedField field (values.map encode))
      (values.flatMap fun value => (encode value).length :: numbers value) (values.flatMap texts) := by
  induction values with
  | nil => exact Spelled.nil
  | cons value values ih => exact (delimited hplain (hencode value)).append ih

end Spelled

end wire.proto
