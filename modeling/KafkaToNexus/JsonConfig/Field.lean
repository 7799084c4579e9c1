import KafkaToNexus.JsonLibrary

/-!
# The fields of a configuration

A configuration is read into fields.  A field has a type and one or more keys;
it starts with a default value, unless it is required, and it may be obsolete,
in which case a value is not stored at all.  A value reaches its field as text.
A field that keeps strings takes what is no JSON string as the text that it
got; any other field leaves the decision to the JSON library.
-/

namespace KafkaToNexus.JsonConfig

variable {Real : Type}

/-- The type of the values of a field, and how they are read from JSON. -/
inductive FieldType (Real : Type) : Type 1 where
  | string
  | other (Value : Type) (initial : Value)
      (get : JsonValue Real → Except JsonException Value)

namespace FieldType

abbrev Value : FieldType Real → Type
  | string => String
  | other Value _ _ => Value

/-- The value that a type starts with. -/
def initial : (type : FieldType Real) → type.Value
  | string => ""
  | other _ initial _ => initial

/-- The conversion of the JSON library. -/
def get :
    (type : FieldType Real) → JsonValue Real →
      Except JsonException type.Value
  | string, .string text => .ok text
  | string, _ => .error .typeError
  | other _ _ get, value => get value

end FieldType

/-- A field as it is declared. -/
inductive FieldBase (Real : Type) : Type 1 where
  | field (type : FieldType Real) (keys : List String)
      (defaultValue : type.Value)
  | requiredField (type : FieldType Real) (keys : List String)
  | obsoleteField (type : FieldType Real) (keys : List String)

namespace FieldBase

def type : FieldBase Real → FieldType Real
  | field type _ _ => type
  | requiredField type _ => type
  | obsoleteField type _ => type

def getKeys : FieldBase Real → List String
  | field _ keys _ => keys
  | requiredField _ keys => keys
  | obsoleteField _ keys => keys

def isRequired : FieldBase Real → Bool
  | requiredField _ _ => true
  | _ => false

def isObsolete : FieldBase Real → Bool
  | obsoleteField _ _ => true
  | _ => false

/-- The value before any is given; an obsolete field never returns it. -/
def defaultValue : (field : FieldBase Real) → field.type.Value
  | field _ _ defaultValue => defaultValue
  | requiredField type _ => type.initial
  | obsoleteField type _ => type.initial

end FieldBase

/-- What changes in a field. -/
structure FieldState (Value : Type) where
  gotDefault : Bool := true
  usedKey : String := ""
  fieldValue : Value

def setValueInternal {Value : Type} (key : String) (newValue : Value) :
    FieldState Value :=
  { gotDefault := false, usedKey := key, fieldValue := newValue }

section Values

variable (library : JsonText Real)

/-- Parse a text and convert what it says. -/
def parseValue (type : FieldType Real) (valueString : String) :
    Except JsonException type.Value := do
  let jsonData ← library.parse valueString
  type.get jsonData

def setValueImpl (key valueString : String) :
    (type : FieldType Real) → Except JsonException (FieldState type.Value)
  | .string =>
      match parseValue library .string valueString with
      | .ok newValue => .ok (setValueInternal key newValue)
      | .error _ => .ok (setValueInternal key valueString)
  | .other Value initial get =>
      (parseValue library (.other Value initial get) valueString).map
        (setValueInternal key)

def setValue (key valueString : String) :
    (field : FieldBase Real) → FieldState field.type.Value →
      Except JsonException (FieldState field.type.Value)
  | .field type _ _, _ => setValueImpl library key valueString type
  | .requiredField type _, _ => setValueImpl library key valueString type
  | .obsoleteField _ _, state => .ok state

/-! ## What a field makes of a value -/

/-- The value of a type that a JSON value stands for. -/
def converted :
    (type : FieldType Real) → JsonValue Real → Option type.Value
  | .string, .string text => some text
  | .string, value => (library.dump value).toOption
  | .other _ _ get, value => (get value).toOption

/-- The value that a field takes over. -/
def accepted (field : FieldBase Real) (value : JsonValue Real) :
    Option field.type.Value :=
  if field.isObsolete then none else converted library field.type value

variable {library} {field : FieldBase Real} {value : JsonValue Real}
  {key text : String} {newValue : field.type.Value}

/-- Text that stands for a value gives a field the value it makes of it. -/
theorem setValue_of_accepted
    (dumped : library.dump value = .ok text)
    (parsed : library.parse text = .ok value)
    (taken : accepted library field value = some newValue)
    (state : FieldState field.type.Value) :
    setValue library key text field state =
      .ok (setValueInternal key newValue) := by
  have impl (type : FieldType Real) {newValue : type.Value}
      (taken : converted library type value = some newValue) :
      setValueImpl library key text type =
        .ok (setValueInternal key newValue) := by
    cases type with
    | string =>
        rw [setValueImpl, parseValue, parsed]
        cases value with
        | string decoded =>
            cases taken
            rfl
        | _ =>
            have same : (library.dump _).toOption = some newValue := taken
            rw [dumped] at same
            cases same
            rfl
    | other Value initial get =>
        rw [setValueImpl, parseValue, parsed]
        rw [converted] at taken
        cases got : get value with
        | error failure =>
            rw [got] at taken
            cases taken
        | ok found =>
            rw [got] at taken
            cases taken
            show Except.map _ (get value) = _
            rw [got]
            rfl
  cases field with
  | field type keys defaultValue => exact impl type taken
  | requiredField type keys => exact impl type taken
  | obsoleteField type keys => cases taken

/-- Any other value is left to a handler of type errors, or is ignored. -/
theorem setValue_of_not_accepted
    (dumped : library.dump value = .ok text)
    (parsed : library.parse text = .ok value)
    (typeErrors :
      ∀ failure, field.type.get value = .error failure →
        failure = .typeError)
    (refused : accepted library field value = none)
    (state : FieldState field.type.Value) :
    setValue library key text field state = .ok state ∨
      setValue library key text field state = .error .typeError := by
  have impl (type : FieldType Real)
      (typeErrors :
        ∀ failure, type.get value = .error failure → failure = .typeError)
      (refused : converted library type value = none) :
      setValueImpl library key text type = .error .typeError := by
    cases type with
    | string =>
        cases value with
        | string decoded => cases refused
        | _ =>
            have same : (library.dump _).toOption = none := refused
            rw [dumped] at same
            cases same
    | other Value initial get =>
        rw [setValueImpl, parseValue, parsed]
        show Except.map _ (get value) = _
        rw [converted] at refused
        cases got : get value with
        | error failure =>
            rw [typeErrors failure got]
            rfl
        | ok found =>
            rw [got] at refused
            cases refused
  cases field with
  | field type keys defaultValue =>
      exact .inr (impl type typeErrors refused)
  | requiredField type keys => exact .inr (impl type typeErrors refused)
  | obsoleteField type keys => exact .inl rfl

end Values

end KafkaToNexus.JsonConfig
