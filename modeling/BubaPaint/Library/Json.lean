import Mathlib.Data.List.Basic
import Mathlib.Data.Rat.Defs

/-!
# JSON documents

Parsed documents with the accessors of a typical library. A number is kept apart by whether it was
written as an integer.

Main results:

- Definition `Json.Value`: documents
- Definition `Json.Value.get?`: the fields of an object
-/

namespace Json

/-- A number, kept apart by whether it was written as an integer. -/
inductive Number where
  | integer (value : ℤ)
  | float (value : ℚ)
  deriving DecidableEq

def Number.toRat : Number → ℚ
  | .integer value => value
  | .float value => value

/-- A parsed document. -/
inductive Value where
  | null
  | bool (value : Bool)
  | number (value : Number)
  | string (text : String)
  | array (items : List Value)
  | object (fields : List (String × Value))

namespace Value

/-- The field of an object. Of several fields under one key the last counts; a value that is no
object has no fields. -/
def get? (key : String) : Value → Option Value
  | .object fields => fields.reverse.lookup key
  | _ => none

def asArray : Value → Option (List Value)
  | .array items => some items
  | _ => none

def asStr : Value → Option String
  | .string text => some text
  | _ => none

def asRat : Value → Option ℚ
  | .number value => some value.toRat
  | _ => none

def asBool : Value → Option Bool
  | .bool value => some value
  | _ => none

end Value

/-- The lower-case digit of a number below 16. -/
def hexDigit (n : ℕ) : Char :=
  if n < 10 then Char.ofNat (n + '0'.toNat) else Char.ofNat (n - 10 + 'a'.toNat)

end Json
