import KafkaToNexus.Foundations.OrderedMap
import KafkaToNexus.JsonValue
import Mathlib.Data.String.Basic

/-!
# The JSON library

The functions of the JSON library that the service uses.  Those that throw
return the exception or, where nothing depends on which one it is, nothing.
-/

namespace KafkaToNexus

open Foundations

/-- The exceptions of the JSON library. -/
inductive JsonException where
  | parseError
  | invalidIterator
  | typeError
  | outOfRange
  | otherError
deriving DecidableEq, Repr

structure JsonLibrary (Json : Type) where
  parse : String → Except JsonException Json
  object : Json
  /-- Overwrite the members of an object by those of another one. -/
  update : Json → Json → Option Json
  /-- Assign a string to a member. -/
  setString : Json → String → String → Option Json
  dump : Json → Option String

/-! ## JSON values -/

variable {Real : Type}

namespace JsonValue

/-- The members of an object, overwritten by those of another one. -/
def overwrite (members others : List (String × JsonValue Real)) :
    List (String × JsonValue Real) :=
  others.foldl
    (fun members other => OrderedMap.assign members other.1 other.2) members

/-- Only an object can be updated, by another one; `null` becomes one. -/
def update : JsonValue Real → JsonValue Real → Option (JsonValue Real)
  | object members, object others => some (object (overwrite members others))
  | null, object others => some (object (overwrite [] others))
  | _, _ => none

/-- Only an object has members; `null` becomes one. -/
def setString :
    JsonValue Real → String → String → Option (JsonValue Real)
  | object members, key, text =>
      some (object (OrderedMap.assign members key (string text)))
  | null, key, text => some (object (OrderedMap.assign [] key (string text)))
  | _, _, _ => none

section Compact

variable (real : Real → String)

mutual

/-- The compact text of a value without characters that need an escape. -/
def compactText : JsonValue Real → String
  | null => "null"
  | boolean value => toString value
  | integer value => toString value.toInt
  | unsigned value => toString value.toNat
  | JsonValue.real value => real value
  | string text => "\"" ++ text ++ "\""
  | array items => "[" ++ compactItems items ++ "]"
  | object members => "\x7b" ++ compactMembers members ++ "\x7d"

def compactItems : List (JsonValue Real) → String
  | [] => ""
  | [item] => compactText item
  | item :: items => compactText item ++ "," ++ compactItems items

def compactMembers : List (String × JsonValue Real) → String
  | [] => ""
  | [(key, value)] => "\"" ++ key ++ "\":" ++ compactText value
  | (key, value) :: members =>
      "\"" ++ key ++ "\":" ++ compactText value ++ "," ++
        compactMembers members

end

end Compact

end JsonValue

/-- JSON values as text. -/
structure JsonText (Real : Type) where
  dump : JsonValue Real → Except JsonException String
  parse : String → Except JsonException (JsonValue Real)

/-- The library with its own values. -/
def JsonText.toLibrary (text : JsonText Real) :
    JsonLibrary (JsonValue Real) where
  parse := text.parse
  object := .object []
  update := JsonValue.update
  setString := JsonValue.setString
  dump := fun value => (text.dump value).toOption

end KafkaToNexus
