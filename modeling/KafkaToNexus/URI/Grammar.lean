import KafkaToNexus.URI.Scan

/-!
# The grammar of URIs

A URI is a scheme with `://`, or `//`, or neither of them, then a host, then a
port with its colon, a slash and a topic, each of which may be missing.  A text
can be cut into these parts in more than one way, since the letters of a topic
are letters of a host; the way that counts is the one in which each part takes
as much as it can before the next part begins.

What the scan finds are the parts in this sense.  White space behind a text is
a part of the host if nothing but the host precedes it.  White space in front
is given back to the host, or to the scheme, where no other letter is there.
-/

namespace KafkaToNexus.Uri

open CLIOptions (isSpace)

/-! ## Parts -/

/-- What a URI begins with. -/
inductive Lead where
  | scheme (name : List Char)
  | slashes
  | nothing
deriving DecidableEq, Repr

def Lead.text : Lead → List Char
  | .scheme name => name ++ "://".toList
  | .slashes => "//".toList
  | .nothing => []

/-- The parts into which a text is cut. -/
structure Parts extends Found where
  lead : Lead
  slash : Bool
deriving DecidableEq, Repr

/-- What follows the port. -/
def Parts.ending (parts : Parts) : List Char :=
  slashText parts.slash ++ parts.topic

/-- What follows the host. -/
def Parts.afterHost (parts : Parts) : List Char :=
  portText parts.port ++ parts.ending

def Parts.text (parts : Parts) : List Char :=
  parts.lead.text ++ (parts.host ++ parts.afterHost)

/-- The name of the scheme is not empty. -/
def Lead.WellFormed : Lead → Prop
  | .scheme name => name ≠ [] ∧ Within isHostLetter name
  | .slashes => True
  | .nothing => True

/-- The parts have the letters of the grammar. -/
structure Parts.WellFormed (parts : Parts) : Prop where
  lead : parts.lead.WellFormed
  host : parts.host ≠ []
  hostLetters : Within isHostLetter parts.host
  digits :
    ∀ digits, parts.port = some digits →
      digits ≠ [] ∧ Within Char.isDigit digits
  topicLetters : Within isTopicLetter parts.topic

/-- The text follows the grammar. -/
def FollowsGrammar (text : List Char) : Prop :=
  ∃ parts : Parts, parts.WellFormed ∧ text = parts.text

/-- In front of the padding, each part has taken what it can take. -/
structure Parts.Longest (parts : Parts) (padding : List Char) : Prop where
  host : StopsBefore isHostLetter (parts.afterHost ++ padding)
  port : PortEnds parts.port (parts.ending ++ padding)

/-- The text consists of these parts. -/
structure Reads (text : List Char) (parts : Parts) : Prop where
  wellFormed : parts.WellFormed
  longest : parts.Longest []
  text_eq : text = parts.text

/-! ## The scan finds the parts -/

section Scan

variable {text rest padding : List Char} {found : Found} {parts : Parts}

theorem dropScheme_of_lead {lead : Lead}
    (wellFormed : lead.WellFormed) (scanned : scanHost rest = some found) :
    dropScheme (lead.text ++ rest) = rest := by
  cases lead with
  | scheme name =>
      rcases wellFormed with ⟨something, letters⟩
      have stops : StopsBefore isHostLetter ("://".toList ++ rest) :=
        stopsBefore_cons rfl
      have split_ :
          Lead.text (.scheme name) ++ rest = name ++ ("://".toList ++ rest) :=
        List.append_assoc _ _ _
      rw [split_, dropScheme, takeWhile_run letters stops,
        dropWhile_run letters stops, if_pos]
      · rfl
      · rw [Bool.and_eq_true, Bool.not_eq_true', ← Bool.not_eq_true,
          List.isEmpty_iff]
        exact ⟨something, rfl⟩
  | slashes => rfl
  | nothing =>
      have whole : Lead.text .nothing ++ rest = rest := rfl
      rw [whole, dropScheme, if_neg, if_neg]
      · intro slashes
        cases (scanHost_of_slashes slashes).symm.trans scanned
      · intro scheme
        have behind := (Bool.and_eq_true _ _ ▸ scheme).2
        cases (scanHost_of_scheme behind).symm.trans scanned

theorem lead_of_dropScheme (text : List Char) :
    ∃ lead : Lead, lead.WellFormed ∧
      text = lead.text ++ dropScheme text := by
  rw [dropScheme]
  split
  · rename_i scheme
    rw [Bool.and_eq_true, Bool.not_eq_true', ← Bool.not_eq_true,
      List.isEmpty_iff] at scheme
    rcases List.isPrefixOf_iff_prefix.mp scheme.2 with ⟨rest, behind⟩
    refine
      ⟨.scheme (text.takeWhile isHostLetter), ⟨scheme.1, within_takeWhile⟩,
        ?_⟩
    rw [Lead.text, List.append_assoc, ← behind]
    have dropped : ("://".toList ++ rest).drop 3 = rest := rfl
    rw [dropped, behind, List.takeWhile_append_dropWhile]
  · split
    · rename_i slashes
      rcases List.isPrefixOf_iff_prefix.mp slashes with ⟨rest, rfl⟩
      exact ⟨.slashes, trivial, rfl⟩
    · exact ⟨.nothing, trivial, rfl⟩

/-- What the scan finds are the longest parts in front of the padding. -/
theorem scanBody_iff :
    scanBody text = some found ↔
      ∃ (parts : Parts) (padding : List Char),
        parts.toFound = found ∧ parts.WellFormed ∧ parts.Longest padding ∧
          Within isSpace padding ∧ text = parts.text ++ padding := by
  constructor
  · intro scanned
    rcases lead_of_dropScheme text with ⟨lead, leads, whole⟩
    rcases scanHost_iff.mp scanned with
      ⟨rest, hosted, something, hostLetters, stops, ported⟩
    rcases scanPort_iff.mp ported with
      ⟨slash, padding, rfl, ends, letters, space⟩
    refine ⟨⟨found, lead, slash⟩, padding, rfl, ?_, ?_, space, ?_⟩
    · refine ⟨leads, something, hostLetters, ?_, letters⟩
      intro digits isPort
      have ends' :
          PortEnds (some digits)
            (slashText slash ++ (found.topic ++ padding)) :=
        isPort ▸ ends
      exact ⟨ends'.1, ends'.2.1⟩
    · constructor
      · simpa [Parts.afterHost, Parts.ending] using stops
      · simpa [Parts.ending] using ends
    · rw [whole, hosted]
      simp [Parts.text, Parts.afterHost, Parts.ending]
  · rintro ⟨parts, padding, rfl, wellFormed, longest, space, rfl⟩
    have scanned :
        scanHost (parts.host ++ (parts.afterHost ++ padding)) =
          some parts.toFound := by
      refine scanHost_iff.mpr
        ⟨_, rfl, wellFormed.host, wellFormed.hostLetters, longest.host, ?_⟩
      refine scanPort_iff.mpr
        ⟨parts.slash, padding, ?_, ?_, wellFormed.topicLetters, space⟩
      · simp [Parts.afterHost, Parts.ending]
      · simpa [Parts.ending] using longest.port
    have whole :
        parts.text ++ padding =
          parts.lead.text ++ (parts.host ++ (parts.afterHost ++ padding)) := by
      simp [Parts.text]
    rw [whole, scanBody, dropScheme_of_lead wellFormed.lead scanned, scanned]

/-! ### White space behind the parts -/

theorem StopsBefore.of_append {accepts : Char → Bool}
    (stops : StopsBefore accepts (text ++ rest)) :
    StopsBefore accepts text := by
  intro first member
  cases text with
  | nil => cases member
  | cons other text => exact stops first member

theorem StopsBefore.append {accepts : Char → Bool}
    (stops : StopsBefore accepts text) (something : text ≠ []) :
    StopsBefore accepts (text ++ rest) := by
  cases text with
  | nil => exact absurd rfl something
  | cons first text => exact stops

theorem Parts.Longest.nil (longest : parts.Longest padding) :
    parts.Longest [] := by
  rcases longest with ⟨host, port⟩
  constructor
  · rw [List.append_nil]
    exact host.of_append
  · rw [List.append_nil]
    revert port
    cases parts.port with
    | none => exact StopsBefore.of_append
    | some digits =>
        rintro ⟨something, within, stops⟩
        exact ⟨something, within, stops.of_append⟩

theorem not_isDigit_of_isSpace {letter : Char}
    (space : isSpace letter = true) : letter.isDigit = false := by
  by_contra digit
  have topic := isTopicLetter_of_isDigit (eq_true_of_ne_false digit)
  rw [isTopicLetter_of_isSpace space] at topic
  cases topic

/-- White space behind anything but a host changes nothing. -/
theorem Parts.Longest.padded (longest : parts.Longest [])
    (something : parts.afterHost ≠ []) (space : Within isSpace padding) :
    parts.Longest padding := by
  rcases longest with ⟨host, port⟩
  rw [List.append_nil] at host port
  constructor
  · exact host.append something
  · rw [Parts.afterHost] at something
    revert port something
    cases parts.port with
    | none => exact fun something stops => stops.append something
    | some digits =>
        rintro _ ⟨digits_, within, stops⟩
        refine ⟨digits_, within, ?_⟩
        cases ending : parts.ending with
        | nil =>
            intro first member
            exact not_isDigit_of_isSpace
              (space first (List.mem_of_mem_head? member))
        | cons first others =>
            rw [ending] at stops
            exact stops

/-- The parts with white space behind them. -/
def Parts.padded (parts : Parts) (padding : List Char) : Parts :=
  if parts.afterHost = [] then
    { parts with host := parts.host ++ padding }
  else
    parts

theorem scanBody_of_reads (reads : Reads text parts)
    (space : Within isSpace padding) :
    scanBody (text ++ padding) = some (parts.padded padding).toFound := by
  rcases reads with ⟨wellFormed, longest, rfl⟩
  rw [Parts.padded]
  split
  · rename_i bare
    refine scanBody_iff.mpr
      ⟨{ parts with host := parts.host ++ padding }, [], rfl, ?_,
        ⟨longest.host, longest.port⟩, within_nil, ?_⟩
    · refine ⟨wellFormed.lead, ?_, ?_, wellFormed.digits,
        wellFormed.topicLetters⟩
      · intro nothing
        exact wellFormed.host (List.append_eq_nil_iff.mp nothing).1
      · intro letter member
        rcases List.mem_append.mp member with inHost | inPadding
        · exact wellFormed.hostLetters letter inHost
        · exact isHostLetter_of_isSpace (space letter inPadding)
    · have bare' :
          Parts.afterHost { parts with host := parts.host ++ padding } = [] :=
        bare
      simp [Parts.text, bare, bare']
  · rename_i something
    exact scanBody_iff.mpr
      ⟨parts, padding, rfl, wellFormed, longest.padded something space, space,
        rfl⟩

/-- A text is read in one way. -/
theorem Reads.unique {other : Parts}
    (reads : Reads text parts) (again : Reads text other) :
    parts.toFound = other.toFound := by
  have plain (parts : Parts) : parts.padded [] = parts := by
    rw [Parts.padded, List.append_nil]
    split <;> rfl
  have scanned := scanBody_of_reads reads within_nil
  rw [scanBody_of_reads again within_nil, plain, plain] at scanned
  exact (Option.some.inj scanned).symm

theorem scanBody_sound (scanned : scanBody text = some found) :
    ∃ core parts padding, text = core ++ padding ∧ Within isSpace padding ∧
      Reads core parts ∧ parts.toFound = found := by
  rcases scanBody_iff.mp scanned with
    ⟨parts, padding, same, wellFormed, longest, space, whole⟩
  exact
    ⟨parts.text, parts, padding, whole, space,
      ⟨wellFormed, longest.nil, rfl⟩, same⟩

/-! ### The longest parts of a text -/

/-- A slash ends the host and the port. -/
theorem Parts.WellFormed.longest (wellFormed : parts.WellFormed)
    (slash : parts.slash = true) : parts.Longest [] := by
  constructor
  · rw [Parts.afterHost, Parts.ending, slash]
    cases parts.port with
    | none => exact stopsBefore_cons rfl
    | some digits => exact stopsBefore_cons rfl
  · rw [Parts.ending, slash]
    cases port : parts.port with
    | none => exact stopsBefore_cons rfl
    | some digits =>
        rcases wellFormed.digits digits port with ⟨something, within⟩
        exact ⟨something, within, stopsBefore_cons rfl⟩

/-- What could be a topic directly behind the host belongs to the host. -/
theorem Parts.WellFormed.reads_of_host (wellFormed : parts.WellFormed)
    (port : parts.port = none) (slash : parts.slash = false) :
    Reads parts.text
      { parts with host := parts.host ++ parts.topic, topic := [] } := by
  have nothing :
      Parts.afterHost
        { parts with host := parts.host ++ parts.topic, topic := [] } = [] := by
    simp [Parts.afterHost, Parts.ending, port, slash, portText, slashText]
  refine ⟨?_, ?_, ?_⟩
  · refine ⟨wellFormed.lead, ?_, ?_, wellFormed.digits, within_nil⟩
    · intro empty
      exact wellFormed.host (List.append_eq_nil_iff.mp empty).1
    · intro letter member
      rcases List.mem_append.mp member with inHost | inTopic
      · exact wellFormed.hostLetters letter inHost
      · exact isHostLetter_of_isTopicLetter
          (wellFormed.topicLetters letter inTopic)
  · constructor
    · rw [nothing]
      exact stopsBefore_nil
    · have noEnding := (List.append_eq_nil_iff.mp nothing).2
      rw [noEnding]
      dsimp only
      rw [port]
      exact stopsBefore_nil
  · rw [Parts.text, Parts.text, nothing]
    simp [Parts.afterHost, Parts.ending, port, slash, portText, slashText]

/-- The digits of a topic directly behind the port belong to the port. -/
theorem Parts.WellFormed.reads_of_port (wellFormed : parts.WellFormed)
    {digits : List Char} (port : parts.port = some digits)
    (slash : parts.slash = false) :
    Reads parts.text
      { parts with
        port := some (digits ++ parts.topic.takeWhile Char.isDigit)
        topic := parts.topic.dropWhile Char.isDigit } := by
  rcases wellFormed.digits digits port with ⟨something, within⟩
  have withinAll :
      Within Char.isDigit (digits ++ parts.topic.takeWhile Char.isDigit) := by
    intro letter member
    rcases List.mem_append.mp member with inDigits | inTopic
    · exact within letter inDigits
    · exact within_takeWhile letter inTopic
  have somethingAll :
      digits ++ parts.topic.takeWhile Char.isDigit ≠ [] := by
    intro empty
    exact something (List.append_eq_nil_iff.mp empty).1
  refine ⟨?_, ?_, ?_⟩
  · refine
      ⟨wellFormed.lead, wellFormed.host, wellFormed.hostLetters, ?_, ?_⟩
    · intro others same
      cases same
      exact ⟨somethingAll, withinAll⟩
    · intro letter member
      exact wellFormed.topicLetters letter (List.dropWhile_subset _ member)
  · constructor
    · exact stopsBefore_cons rfl
    · refine ⟨somethingAll, withinAll, ?_⟩
      rw [Parts.ending, slash, List.append_nil]
      exact stopsBefore_dropWhile
  · simp [Parts.text, Parts.afterHost, Parts.ending, slash, slashText, port,
      portText]

/-- A text that follows the grammar consists of parts that are longest. -/
theorem FollowsGrammar.reads (follows : FollowsGrammar text) :
    ∃ parts, Reads text parts := by
  rcases follows with ⟨parts, wellFormed, rfl⟩
  cases slash : parts.slash with
  | true => exact ⟨parts, wellFormed, wellFormed.longest slash, rfl⟩
  | false =>
      cases port : parts.port with
      | none => exact ⟨_, wellFormed.reads_of_host port slash⟩
      | some digits => exact ⟨_, wellFormed.reads_of_port port slash⟩

end Scan

end KafkaToNexus.Uri
