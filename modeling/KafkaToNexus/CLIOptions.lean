import KafkaToNexus.TimeUtility
import Mathlib.Init

/-!
# Durations on the command line

The text of a duration is a number and a unit.  It is matched against a regular
expression, and the number is read, multiplied and rounded as a floating-point
number, which is a parameter.
-/

namespace KafkaToNexus.CLIOptions

/-- The alternatives of the expression, in the order in which they are tried. -/
def units : List String :=
  ["ms", "min", "m", "h", "sec", "s"]

/--
The unit that the group `(ms|min|m|h|sec|s)*` has matched last when it matches
the whole text, within a number of repetitions.
-/
def lastUnit : Nat → List Char → Option String
  | _, [] => some ""
  | 0, _ :: _ => none
  | repetitions + 1, text =>
      units.findSome? fun unit =>
        if unit.toList.isPrefixOf text then
          (lastUnit repetitions (text.drop unit.length)).map fun last =>
            if last = "" then unit else last
        else
          none

/-- The text without one optional character. -/
def dropOptional (accepts : Char → Bool) : List Char → List Char
  | [] => []
  | first :: rest => if accepts first then rest else first :: rest

/-- The characters that the class `\s` accepts. -/
def isSpace (character : Char) : Bool :=
  character ∈ [' ', '\t', '\n', '\x0b', '\x0c', '\r']

/-- The number and the unit of a text that matches the expression. -/
def matchTime (text : String) : Option (String × String) :=
  let text := text.toList
  let whole := text.takeWhile Char.isDigit
  let fraction :=
    dropOptional (fun first => first = '.') (text.dropWhile Char.isDigit)
  let unit := dropOptional isSpace (fraction.dropWhile Char.isDigit)
  let number :=
    text.take (text.length - (fraction.dropWhile Char.isDigit).length)
  if whole = [] then
    none
  else
    (lastUnit unit.length unit).map fun found =>
      (String.ofList number, found)

/-- The number of milliseconds of a unit. -/
def unitFactor (foundUnit : String) : Option Nat :=
  if foundUnit = "s" ∨ foundUnit = "sec" ∨ foundUnit = "" then
    some 1000
  else if foundUnit = "ms" then
    some 1
  else if foundUnit = "m" ∨ foundUnit = "min" then
    some (1000 * 60)
  else if foundUnit = "h" then
    some (1000 * 60 * 60)
  else
    none

/--
The duration of an option, if its text is accepted.  `total` is
`int(std::round(std::stod(number) * factor))`, unless reading the number throws.
-/
def addDurationOption
    (total : String → Nat → Option Int32) (text : String) :
    Option Duration :=
  (matchTime text).bind fun (number, foundUnit) =>
    (unitFactor foundUnit).bind fun factor =>
      (total number factor).map fun totalMilliseconds =>
        totalMilliseconds.toInt * 1000000

/-- An interval of an option is a number of milliseconds. -/
theorem exists_milliseconds {total : String → Nat → Option Int32}
    {text : String} {duration : Duration}
    (admitted : addDurationOption total text = some duration) :
    ∃ milliseconds : Int32, duration = milliseconds.toInt * 1000000 := by
  rcases Option.bind_eq_some_iff.mp admitted with
    ⟨⟨number, foundUnit⟩, _, admitted⟩
  rcases Option.bind_eq_some_iff.mp admitted with ⟨factor, _, admitted⟩
  rcases Option.map_eq_some_iff.mp admitted with ⟨milliseconds, _, equal⟩
  exact ⟨milliseconds, equal.symm⟩

example : matchTime "10s" = some ("10", "s") := by decide +kernel

example : matchTime "1.5 min" = some ("1.5", "min") := by decide +kernel

example : matchTime "s" = none := by decide +kernel

end KafkaToNexus.CLIOptions
