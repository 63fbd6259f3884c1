import Voip.Wire.Bytes

namespace wire.proto

/-- The value of a field on the wire. Groups are not supported. -/
inductive Value where
  | varint (value : Nat)
  | fixed64 (value : Bytes)
  | delimited (value : Bytes)
  | fixed32 (value : Bytes)
  deriving DecidableEq, Repr

/-- A varint of at most `fuel` bytes, and the bytes after it. -/
def readVarint : Nat → Bytes → Option (Nat × Bytes)
  | 0, _ => none
  | _, [] => none
  | fuel + 1, byte :: rest =>
    if byte < 128 then some (byte.toNat, rest)
    else (readVarint fuel rest).map fun (high, rest) => (byte.toNat - 128 + 128 * high, rest)

/-- The given number of bytes, and the bytes after them. -/
def readBytes (count : Nat) (bytes : Bytes) : Option (Bytes × Bytes) :=
  if count ≤ bytes.length then some (bytes.take count, bytes.drop count) else none

def readValue (wireType : Nat) (bytes : Bytes) : Option (Value × Bytes) :=
  match wireType with
  | 0 => (readVarint 10 bytes).map fun (value, rest) => (.varint value, rest)
  | 1 => (readBytes 8 bytes).map fun (value, rest) => (.fixed64 value, rest)
  | 2 => (readVarint 10 bytes).bind fun (count, rest) =>
      (readBytes count rest).map fun (value, rest) => (.delimited value, rest)
  | 5 => (readBytes 4 bytes).map fun (value, rest) => (.fixed32 value, rest)
  | _ => none

/-- The fields of a message in their order, at most `fuel` of them. -/
def readFields : Nat → Bytes → Option (List (Nat × Value))
  | _, [] => some []
  | 0, _ => none
  | fuel + 1, bytes =>
    (readVarint 10 bytes).bind fun (key, rest) =>
      (readValue (key % 8) rest).bind fun (value, rest) =>
        (readFields fuel rest).map fun fields => (key / 8, value) :: fields

def fields (bytes : Bytes) : Option (List (Nat × Value)) := readFields bytes.length bytes

/-- The occurrences of a field, each read by `read`. -/
def occurrences {α : Type} (read : Value → Option α) (field : Nat) (fields : List (Nat × Value)) :
    Option (List α) :=
  (fields.filter fun entry => entry.1 = field).mapM fun entry => read entry.2

/-- The last occurrence of a field decides; a field that does not occur has its default. -/
def getLast {α : Type} (read : Value → Option α) (default : α) (field : Nat)
    (fields : List (Nat × Value)) : Option α :=
  (occurrences read field fields).map fun values => values.getLast?.getD default

/-- An embedded message. Several occurrences are merged, which is what decoding them one
after the other does. -/
def embedded {α : Type} (decode : Bytes → Option α) (field : Nat) (fields : List (Nat × Value)) :
    Option (Option α) :=
  (occurrences (fun | .delimited value => some value | _ => none) field fields).bind fun values =>
    if values = [] then some none else (decode values.flatten).map some

def Value.uint : Value → Option Nat
  | .varint value => some value
  | _ => none

/-- A signed 32-bit value, of which a reader keeps the low 32 bits. -/
def Value.int : Value → Option Int
  | .varint value => some (BitVec.ofNat 32 value).toInt
  | _ => none

def Value.bytes : Value → Option Bytes
  | .delimited value => some value
  | _ => none

def Value.string : Value → Option String
  | .delimited value => String.fromUTF8? ⟨value.toArray⟩
  | _ => none

end wire.proto
