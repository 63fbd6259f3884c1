import Mathlib.Algebra.Group.Int.Defs
import Mathlib.Data.List.Basic

namespace wire

/-- A JSON document. The fields of an object keep their order and may repeat. -/
inductive Json where
  | null
  | bool (value : Bool)
  | number (value : Int)
  | string (value : String)
  | array (items : List Json)
  | object (fields : List (String × Json))

namespace Json

/-- A sequence of strings, as it is serialized. -/
def strings (values : List String) : Json := .array (values.map .string)

def toString? : Json → Option String
  | .string value => some value
  | _ => none

/-- An unsigned number of the given width. -/
def toUnsigned? (bits : Nat) : Json → Option Nat
  | .number value => if 0 ≤ value ∧ value < 2 ^ bits then some value.toNat else none
  | _ => none

/-- A sequence is read from an array only. -/
def toList? {α : Type} (element : Json → Option α) : Json → Option (List α)
  | .array items => items.mapM element
  | _ => none

/-- What a derived reader of a structure takes for one of its fields: in an object the value
under the name, which must not repeat, in an array the item at its place. A field without a
default has to be there. Unknown fields of an object are ignored. -/
def field? {α : Type} (document : Json) (name : String) (place : Nat) (element : Json → Option α)
    (default : Option α) : Option α :=
  match document with
  | .object fields =>
    match fields.filter fun entry => entry.1 = name with
    | [] => default
    | [(_, value)] => element value
    | _ => none
  | .array items =>
    match items[place]? with
    | none => default
    | some value => element value
  | _ => none

/-- An array that stands for a structure has no items beyond its fields. -/
def fits (document : Json) (count : Nat) : Bool :=
  match document with
  | .array items => items.length ≤ count
  | _ => true

end Json

end wire
