import Mathlib.Init

/-!
# JSON values

The values of the JSON library, which keeps three kinds of numbers: integers
that are not negative, negative ones, and numbers with a fraction or an
exponent, whose type is a parameter.  A zero with a sign, which the library
reads as a signed integer, equals the one without and is not kept apart.
-/

namespace KafkaToNexus

inductive JsonValue (Real : Type) where
  | null
  | boolean (value : Bool)
  | integer (value : Int64)
  | unsigned (value : UInt64)
  | real (value : Real)
  | string (value : String)
  | array (items : List (JsonValue Real))
  | object (members : List (String × JsonValue Real))

namespace JsonValue

variable {Real : Type}

def isArray : JsonValue Real → Bool
  | array _ => true
  | _ => false

def isObject : JsonValue Real → Bool
  | object _ => true
  | _ => false

/-- The values that a loop goes through. -/
def items : JsonValue Real → List (JsonValue Real)
  | array items => items
  | _ => []

/-- The member of an object with a key; `at` throws if there is none. -/
def memberAt (key : String) : JsonValue Real → Option (JsonValue Real)
  | object members => members.lookup key
  | _ => none

/-- A number as `size_t`, with the cast of numbers that have a fraction. -/
def toSize (truncate : Real → UInt64) : JsonValue Real → Option UInt64
  | unsigned value => some value
  | integer value => some value.toUInt64
  | real value => some (truncate value)
  | _ => none

def toText : JsonValue Real → Option String
  | string value => some value
  | _ => none

end JsonValue

end KafkaToNexus
