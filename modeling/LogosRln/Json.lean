import Mathlib.Data.List.Basic

/-!
# JSON values

The values that cross the module boundary.  Reading and printing their text is
third-party code and stays a parameter; the accessors are those of a parsed
value, which answer nothing on a value of another kind.
-/

namespace LogosRln.Json

/-- `number` is a number that is not an unsigned 64-bit integer. -/
inductive Value where
  | null
  | bool (value : Bool)
  | uint (value : UInt64)
  | number (text : String)
  | str (value : String)
  | array (items : List Value)
  | object (fields : List (String × Value))

def Value.get (key : String) : Value → Option Value
  | .object fields => (fields.find? (·.1 == key)).map Prod.snd
  | _ => none

def Value.asBool : Value → Option Bool
  | .bool value => some value
  | _ => none

def Value.asU64 : Value → Option UInt64
  | .uint value => some value
  | _ => none

def Value.asStr : Value → Option String
  | .str value => some value
  | _ => none

def Value.asArray : Value → Option (List Value)
  | .array items => some items
  | _ => none

/-- Insertion into an object's fields, which stay in key order. -/
def setField (key : String) (value : Value) : List (String × Value) → List (String × Value)
  | [] => [(key, value)]
  | field :: fields =>
      if key = field.1 then (key, value) :: fields
      else if key < field.1 then (key, value) :: field :: fields
      else field :: setField key value fields

/-- `value[key] = …` on an object. -/
def Value.set : Value → String → Value → Value
  | .object fields, key, value => .object (setField key value fields)
  | other, _, _ => other

theorem find?_setField (key other : String) (value : Value) (fields : List (String × Value)) :
    ((setField key value fields).find? (·.1 == other)).map Prod.snd =
      if other = key then some value else (fields.find? (·.1 == other)).map Prod.snd := by
  induction fields with
  | nil => by_cases hother : other = key <;> simp [setField, hother, Ne.symm]
  | cons field fields ih =>
      unfold setField
      split_ifs with hkey hlt hother hother <;> grind

theorem get_set (key other : String) (value : Value) (fields : List (String × Value)) :
    ((Value.object fields).set key value).get other =
      if other = key then some value else (Value.object fields).get other := by
  simp only [Value.set, Value.get, find?_setField]

/-- `serde_json`'s text coding. -/
structure Serde where
  fromStr : String → Except String Value
  toString : Value → String

/-- A printed value is read back as it was. -/
def Serde.RoundTrips (serde : Serde) : Prop :=
  ∀ value, serde.fromStr (serde.toString value) = .ok value

end LogosRln.Json
