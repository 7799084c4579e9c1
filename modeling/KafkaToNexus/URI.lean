import KafkaToNexus.CLIOptions
import KafkaToNexus.Foundations.Regex

/-!
# URIs

The address of a broker with a topic on it.  A text is matched against a regular
expression whose groups are the parts of the URI; the members are then assigned
one after the other.
-/

namespace KafkaToNexus.Uri

open Foundations
open Foundations.Regex
open CLIOptions (isSpace)

structure URI where
  hostPort : String := ""
  host : String := ""
  port : UInt32 := 0
  topic : String := ""
deriving DecidableEq, Repr

/-- The constructor that replaces the topic of a URI. -/
def URI.withTopic (template : URI) (newTopic : String) : URI :=
  { template with topic := newTopic }

/-- The text `<host>:<port>/<topic>`. -/
def URI.getURIString (uri : URI) : String :=
  uri.hostPort ++ "/" ++ uri.topic

/-! ## The regular expression -/

/-- The class `[^/?#:]`, which is also the class of the scheme. -/
def isHostLetter (letter : Char) : Bool :=
  letter ∉ ['/', '?', '#', ':']

/-- The class `[a-zA-Z0-9._-]`. -/
def isTopicLetter (letter : Char) : Bool :=
  letter.isAlphanum || letter ∈ ['.', '_', '-']

/-- `(([^:/?#]+)://)|(//)|()`. -/
def schemeRegex : Regex Char :=
  choice
    (group 2
      (sequence (group 3 (plus (letter isHostLetter))) (word "://".toList)))
    (choice (group 4 (word "//".toList)) (group 5 empty))

/-- `(:(\d+))?`. -/
def portRegex : Regex Char :=
  optional
    (group 9 (sequence (letter fun read => read = ':')
      (group 10 (plus (letter Char.isDigit)))))

/-- `(([^/?#:]+)+)(:(\d+))?`. -/
def hostPortRegex : Regex Char :=
  sequence (group 7 (plus (group 8 (plus (letter isHostLetter))))) portRegex

/--
`\s*((([^:/?#]+)://)|(//)|())((([^/?#:]+)+)(:(\d+))?)/?([a-zA-Z0-9._-]+)?\s*`.
-/
def regex : Regex Char :=
  all
    [star (letter isSpace), group 1 schemeRegex, group 6 hostPortRegex,
      optional (letter fun read => read = '/'),
      optional (group 11 (plus (letter isTopicLetter))),
      star (letter isSpace)]

/-! ## Parsing -/

/-- The exceptions of `URI::parse`. -/
inductive ParseException where
  | runtimeError (what : String)
  /-- From `std::stoi`, which is no `std::runtime_error`. -/
  | outOfRange
deriving DecidableEq, Repr

/-- The number that a text of digits stands for. -/
def numberOf (digits : List Char) : Nat :=
  digits.foldl (fun value digit => 10 * value + (digit.toNat - '0'.toNat)) 0

/-- `std::stoi` for a text of digits; the number has to be an `int`. -/
def stoi (digits : List Char) : Option Nat :=
  if numberOf digits < 2 ^ 31 then some (numberOf digits) else none

/-- What `URI::parse` leaves, and the exception that it throws. -/
structure Parsed where
  uri : URI
  thrown : Option ParseException := none
deriving DecidableEq, Repr

/-- The last assignment. -/
def URI.assignTopic (uri : URI) : Option (List Char) → URI
  | none => uri
  | some topic => { uri with topic := String.ofList topic }

/-- No group is matched where the expression does not match. -/
def URI.parse (uri : URI) (uriString : String) : Parsed :=
  if uriString.isEmpty then
    { uri }
  else
    let groups : Groups Char :=
      (fullMatch regex uriString.toList).getD fun _ => none
    match groups 6 with
    | none =>
        { uri
          thrown :=
            some (.runtimeError
              ("Unable to extract host from the URI: \"" ++ uriString ++
                "\".")) }
    | some hostPort =>
        let uri :=
          { uri with
            hostPort := String.ofList hostPort
            host := String.ofList ((groups 7).getD []) }
        match groups 10 with
        | none => { uri := uri.assignTopic (groups 11) }
        | some digits =>
            match stoi digits with
            | none => { uri, thrown := some .outOfRange }
            | some port =>
                { uri :=
                    { uri with port := UInt32.ofNat port }.assignTopic
                      (groups 11) }

/-- The callback of an option whose value is a URI. -/
def addUriOption (uriArg : URI) (result : String) :
    URI × Except ParseException Bool :=
  match uriArg.parse result with
  | ⟨uri, none⟩ => (uri, .ok true)
  | ⟨uri, some (.runtimeError _)⟩ => (uri, .ok false)
  | ⟨uri, some .outOfRange⟩ => (uri, .error .outOfRange)

end KafkaToNexus.Uri
