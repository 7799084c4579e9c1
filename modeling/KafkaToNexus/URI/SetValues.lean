import KafkaToNexus.URI.FirstMatch
import KafkaToNexus.URI.Padding

/-!
# New values for a URI

`URI::parse` is documented to set new values if a value was parsed.  Host and
port are assigned before the port is read, so a port that is too large leaves
some of the new values behind, with an exception that the command line does not
catch.  The member with host and port takes the text of the match: a port from
before is not in it, and a port of zero or with leading zeros is.
-/

namespace KafkaToNexus.Uri

open CLIOptions (isSpace)

/-- The port of the text, or the one from before. -/
def Found.portOr (found : Found) (before : UInt32) : Nat :=
  match found.port with
  | none => before.toNat
  | some digits => numberOf digits

/-- The topic of the text, or the one from before. -/
def Found.topicOr (found : Found) (before : String) : String :=
  if found.topic.isEmpty then before else String.ofList found.topic

/-- The port of the text, if it has one, is an `int`. -/
def Found.PortFits (found : Found) : Prop :=
  ∀ digits, found.port = some digits → numberOf digits < 2 ^ 31

/-- The members are those of the text, or those from before. -/
structure SetTo (before after : URI) (parts : Parts) : Prop where
  host : after.host = String.ofList parts.host
  port : after.port.toNat = parts.portOr before.port
  hostPort :
    after.hostPort =
      if after.port ≠ 0 then
        after.host ++ ":" ++ toString after.port
      else
        after.host
  topic : after.topic = parts.topicOr before.topic

/-- New values are set only if the text was parsed. -/
structure SetsParsedValues (uri : URI) (text : String) : Prop where
  /-- An exception is reported as a bad option and nothing has changed. -/
  thrown :
    ∀ exception, (uri.parse text).thrown = some exception →
      (uri.parse text).uri = uri ∧
        (∃ what, exception = .runtimeError what) ∧
        addUriOption uri text = (uri, .ok false)
  returned :
    (uri.parse text).thrown = none → text ≠ "" →
      ∃ parts, Reads (trim text.toList) parts ∧
        SetTo uri (uri.parse text).uri parts

/-- The port is printed as it is written, or there is no port at all. -/
def Parts.PortPrinted (parts : Parts) (before : UInt32) : Prop :=
  match parts.port with
  | none => before = 0
  | some digits =>
      numberOf digits ≠ 0 ∧ numberOf digits < 2 ^ 31 ∧
        toString (numberOf digits) = String.ofList digits

/-- When the values are those of the text. -/
def Settable (uri : URI) (text : String) : Prop :=
  text = "" ∨ (∀ parts, ¬ ReadsPadded text.toList parts) ∨
    ∃ parts, Reads (trim text.toList) parts ∧
      (parts.afterHost = [] → trailing text.toList = []) ∧
      parts.PortPrinted uri.port

section Settable

variable {uri : URI} {text : String} {parts : Parts} {found : Found}

theorem scan_eq_none_iff :
    scan text.toList = none ↔ ∀ parts, ¬ ReadsPadded text.toList parts := by
  constructor
  · intro failed parts reads
    rcases scan_of_readsPadded reads with ⟨found, chosen, _⟩
    cases failed.symm.trans chosen
  · intro unread
    by_contra chosen
    rcases Option.ne_none_iff_exists'.mp chosen with ⟨found, chosen⟩
    rcases scan_reads chosen with ⟨parts, reads, _⟩
    exact unread parts reads

theorem stoi_of_fits {digits : List Char} (fits : numberOf digits < 2 ^ 31) :
    stoi digits = some (numberOf digits) :=
  if_pos fits

theorem assignTopic_matchedTopic (uri : URI) (topic : List Char) :
    uri.assignTopic (matchedTopic topic none) =
      { uri with
        topic :=
          if topic.isEmpty then uri.topic else String.ofList topic } := by
  rw [matchedTopic]
  split <;> rfl

/-- A port that does not fit ends the assignments. -/
theorem assign_of_large (uri : URI) {digits : List Char}
    (port : found.port = some digits) (large : ¬ numberOf digits < 2 ^ 31) :
    (uri.assign found).thrown = some .outOfRange := by
  rw [URI.assign, port]
  dsimp only
  rw [stoi, if_neg large]

/-- The members after a text that was parsed. -/
structure Assigned (before : URI) (found : Found) (after : Parsed) : Prop where
  thrown : after.thrown = none
  host : after.uri.host = String.ofList found.host
  hostPort :
    after.uri.hostPort = String.ofList (found.host ++ portText found.port)
  port : after.uri.port.toNat = found.portOr before.port
  topic : after.uri.topic = found.topicOr before.topic

theorem assigned_of_fits (uri : URI) (fits : found.PortFits) :
    Assigned uri found (uri.assign found) := by
  rcases found with ⟨host, _ | digits, topic⟩
  · rw [URI.assign]
    dsimp only
    rw [assignTopic_matchedTopic]
    exact ⟨rfl, rfl, rfl, rfl, rfl⟩
  · have small := fits digits rfl
    rw [URI.assign]
    dsimp only
    rw [stoi_of_fits small]
    dsimp only
    rw [assignTopic_matchedTopic]
    refine ⟨rfl, rfl, rfl, ?_, rfl⟩
    exact UInt32.toNat_ofNat_of_lt (Nat.lt_of_lt_of_le small (by decide))

/-- When the text of host and port is that of the two members. -/
theorem hostPort_eq_iff
    (host : List Char) (port : Option (List Char)) (number : UInt32) :
    String.ofList (host ++ portText port) =
        (if number ≠ 0 then
          String.ofList host ++ ":" ++ toString number
        else
          String.ofList host) ↔
      match port with
      | none => number = 0
      | some digits =>
          number ≠ 0 ∧ toString number = String.ofList digits := by
  rw [← String.toList_inj, String.toList_ofList]
  by_cases zero : number = 0
  · rw [if_neg (not_not.mpr zero), String.toList_ofList,
      List.append_right_eq_self]
    cases port with
    | none => exact iff_of_true rfl zero
    | some digits =>
        apply iff_of_false
        · intro contrary
          cases contrary
        · rintro ⟨nonzero, _⟩
          exact nonzero zero
  · have colon : ":".toList = [':'] := rfl
    rw [if_pos zero, String.append_assoc, String.toList_append,
      String.toList_ofList, List.append_cancel_left_eq, String.toList_append,
      colon, List.singleton_append]
    cases port with
    | none =>
        apply iff_of_false
        · intro contrary
          cases contrary
        · exact zero
    | some digits =>
        dsimp only
        rw [portText, List.cons.injEq, and_iff_right rfl,
          and_iff_right zero, ← String.toList_inj, String.toList_ofList]
        exact eq_comm

end Settable

/-! ## The exact condition -/

section Exact

variable {uri : URI} {text : String} {parts : Parts} {found : Found}

theorem setsParsedValues_empty (uri : URI) : SetsParsedValues uri "" := by
  constructor
  · intro exception thrown
    rw [parse_empty] at thrown
    cases thrown
  · intro _ contrary
    exact (contrary rfl).elim

/-- Nothing is changed where the text does not match. -/
theorem setsParsedValues_of_none
    (something : text ≠ "") (failed : scan text.toList = none) :
    SetsParsedValues uri text := by
  have parsed := parse_of_none uri something failed
  constructor
  · intro exception thrown
    rw [parsed] at thrown ⊢
    refine ⟨rfl, ⟨_, (Option.some.inj thrown).symm⟩, ?_⟩
    rw [addUriOption, parsed]
  · intro thrown
    rw [parsed] at thrown
    cases thrown

/-- The parts of a text that is not padded on the wrong side are kept. -/
theorem toFound_padded {padding : List Char}
    (bare : parts.afterHost = [] → padding = []) :
    (parts.padded padding).toFound = parts.toFound := by
  rw [Parts.padded]
  split
  · rename_i empty
    rw [bare empty, List.append_nil]
  · rfl

theorem portFits_of_printed
    (printed : parts.PortPrinted uri.port) : parts.toFound.PortFits := by
  intro digits port
  rw [Parts.PortPrinted, port] at printed
  exact printed.2.1

theorem setsParsedValues_of_reads
    (reads : Reads (trim text.toList) parts)
    (bare : parts.afterHost = [] → trailing text.toList = [])
    (printed : parts.PortPrinted uri.port) (something : text ≠ "") :
    SetsParsedValues uri text := by
  have chosen := scan_of_trim reads
  rw [toFound_padded bare] at chosen
  have assigned := assigned_of_fits uri (portFits_of_printed printed)
  have parsed := parse_of_found uri something chosen
  rw [← parsed] at assigned
  constructor
  · intro exception thrown
    cases assigned.thrown.symm.trans thrown
  · intro _ _
    refine ⟨parts, reads, assigned.host, assigned.port, ?_, assigned.topic⟩
    rw [assigned.hostPort, assigned.host, hostPort_eq_iff]
    have port := assigned.port
    rw [Parts.PortPrinted] at printed
    rw [Found.portOr] at port
    cases given : parts.port with
    | none =>
        rw [given] at printed port
        dsimp only at printed port ⊢
        rw [printed] at port
        exact UInt32.toNat_inj.mp port
    | some digits =>
        rw [given] at printed port
        dsimp only at printed port ⊢
        rcases printed with ⟨nonzero, _, same⟩
        constructor
        · intro zero
          rw [zero] at port
          exact nonzero port.symm
        · rw [← same, ← port]
          rfl

/-- What was parsed into the right values is of the exact form. -/
theorem settable_of_found
    (sets : SetsParsedValues uri text) (something : text ≠ "")
    (chosen : scan text.toList = some found) :
    Settable uri text := by
  have parsed := parse_of_found uri something chosen
  have fits : found.PortFits := by
    intro digits port
    by_contra large
    have thrown := assign_of_large uri port large
    rw [← parsed] at thrown
    rcases (sets.thrown _ thrown).2.1 with ⟨what, contrary⟩
    cases contrary
  have assigned := assigned_of_fits uri fits
  rw [← parsed] at assigned
  rcases sets.returned assigned.thrown something with
    ⟨parts, reads, host, port, hostPort, topic⟩
  have padded := (scan_of_trim reads).symm.trans chosen
  have bare : parts.afterHost = [] → trailing text.toList = [] := by
    intro empty
    have longer : found.host = parts.host ++ trailing text.toList := by
      rw [← Option.some.inj padded, Parts.padded, if_pos empty]
    have same := assigned.host.symm.trans host
    rw [longer, String.ofList_inj, List.append_right_eq_self] at same
    exact same
  rw [toFound_padded bare] at padded
  cases padded
  refine .inr (.inr ⟨parts, reads, bare, ?_⟩)
  rw [assigned.hostPort, host, hostPort_eq_iff] at hostPort
  rw [Parts.PortPrinted]
  rw [Found.portOr] at port
  cases given : parts.port with
  | none =>
      rw [given] at hostPort port
      dsimp only at hostPort port ⊢
      rw [hostPort] at port
      exact (UInt32.toNat_inj.mp port).symm
  | some digits =>
      rw [given] at hostPort port
      dsimp only at hostPort port ⊢
      refine ⟨?_, fits digits given, ?_⟩
      · intro zero
        exact hostPort.1 (UInt32.toNat_inj.mp (port.trans zero))
      · rw [← port]
        exact hostPort.2

/--
New values are set as documented exactly for the empty text, for texts that do
not match, and for texts whose parts are printed as they are written.
-/
theorem setsParsedValues_iff (uri : URI) (text : String) :
    SetsParsedValues uri text ↔ Settable uri text := by
  by_cases something : text = ""
  · apply iff_of_true
    · rw [something]
      exact setsParsedValues_empty uri
    · exact .inl something
  · cases chosen : scan text.toList with
    | none =>
        apply iff_of_true
        · exact setsParsedValues_of_none something chosen
        · exact .inr (.inl (scan_eq_none_iff.mp chosen))
    | some found =>
        constructor
        · intro sets
          exact settable_of_found sets something chosen
        · rintro (empty | unread | ⟨parts, reads, bare, printed⟩)
          · exact absurd empty something
          · cases (scan_eq_none_iff.mpr unread).symm.trans chosen
          · exact setsParsedValues_of_reads reads bare printed something

end Exact

/-- The URI of the command topic before the options are read. -/
def commandBrokerURI : URI where
  hostPort := "localhost:9092"
  host := "localhost"
  port := 9092
  topic := "kafka-to-nexus.command"

/-- A port that is no `int` is not reported as a bad option. -/
theorem large_port_not_setsParsedValues :
    ¬ SetsParsedValues commandBrokerURI "broker:2147483648/commands" := by
  intro sets
  have thrown :
      (commandBrokerURI.parse "broker:2147483648/commands").thrown =
        some .outOfRange := by
    decide +kernel
  rcases (sets.thrown _ thrown).2.1 with ⟨what, contrary⟩
  cases contrary

end KafkaToNexus.Uri
