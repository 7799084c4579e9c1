import KafkaToNexus.URI.SetValues

/-!
# Round trips of URIs

The text of a URI that was accepted is the host with its port, a slash and the
topic.  It is read back as the same URI unless its host begins with white space,
which is skipped the second time; one letter of white space alone is given back.

A text is accepted where white space at its ends can be left in place so that
the rest follows the grammar.  This is more than what the grammar says, since
white space may become the host of a URI that has none, and it is less for
ports that are too large for an `int`.
-/

namespace KafkaToNexus.Uri

open CLIOptions (isSpace)

/-! ## Accepted texts -/

/--
A fresh URI object takes the text.  The empty text is not looked at and counts
as not accepted.
-/
def Accepted (text : String) : Prop :=
  text ≠ "" ∧ (({} : URI).parse text).thrown = none

/-- What a fresh URI object holds after the text. -/
def read (text : String) : URI :=
  (({} : URI).parse text).uri

/-- What is to hold for a text. -/
structure RoundTrips (text : String) : Prop where
  roundTrip :
    Accepted text →
      Accepted (read text).getURIString ∧
        read (read text).getURIString = read text
  accepted : Accepted text ↔ FollowsGrammar (trim text.toList)

/-- The host does not begin with white space, or it is one letter of it. -/
def HostStays (host : List Char) : Prop :=
  StopsBefore isSpace host ∨ host.length = 1

/-- When both hold for a text. -/
def Regular (text : String) : Prop :=
  (∃ parts, Reads (trim text.toList) parts ∧ parts.toFound.PortFits ∧
      HostStays parts.host) ∨
    (¬ FollowsGrammar (trim text.toList) ∧
      ∀ parts, ReadsPadded text.toList parts → ¬ parts.toFound.PortFits)

section Accepted

variable {text : String} {found : Found}

theorem ne_empty_of_scan (chosen : scan text.toList = some found) :
    text ≠ "" := by
  rintro rfl
  cases chosen

/-- What a fresh URI object holds after an accepted text. -/
theorem assigned_read
    (chosen : scan text.toList = some found) (fits : found.PortFits) :
    Assigned {} found (({} : URI).parse text) := by
  rw [parse_of_found _ (ne_empty_of_scan chosen) chosen]
  exact assigned_of_fits {} fits

theorem accepted_iff_of_scan (chosen : scan text.toList = some found) :
    Accepted text ↔ found.PortFits := by
  constructor
  · rintro ⟨something, returned⟩ digits port
    by_contra large
    rw [parse_of_found _ something chosen, assign_of_large _ port large]
      at returned
    cases returned
  · intro fits
    exact ⟨ne_empty_of_scan chosen, (assigned_read chosen fits).thrown⟩

theorem accepted_iff :
    Accepted text ↔
      ∃ parts, ReadsPadded text.toList parts ∧ parts.toFound.PortFits := by
  constructor
  · rintro ⟨something, returned⟩
    cases chosen : scan text.toList with
    | none =>
        rw [parse_of_none _ something chosen] at returned
        cases returned
    | some found =>
        rcases scan_reads chosen with ⟨parts, reads, same⟩
        refine ⟨parts, reads, ?_⟩
        rw [same]
        exact (accepted_iff_of_scan chosen).mp ⟨something, returned⟩
  · rintro ⟨parts, reads, fits⟩
    rcases scan_of_readsPadded reads with ⟨found, chosen, port⟩
    refine (accepted_iff_of_scan chosen).mpr ?_
    intro digits given
    exact fits digits (port ▸ given)

end Accepted

/-! ## The text of a URI -/

/-- The parts of the text of a URI. -/
def Found.printed (found : Found) : Parts where
  toFound := found
  lead := .nothing
  slash := true

section Printed

variable {text : String} {found : Found}

theorem reads_printed {parts : Parts}
    (wellFormed : parts.WellFormed) :
    Reads parts.toFound.printed.text parts.toFound.printed := by
  have printed : parts.toFound.printed.WellFormed :=
    ⟨trivial, wellFormed.host, wellFormed.hostLetters, wellFormed.digits,
      wellFormed.topicLetters⟩
  exact ⟨printed, printed.longest rfl, rfl⟩

theorem getURIString_toList
    (assigned : Assigned {} found (({} : URI).parse text)) :
    (read text).getURIString.toList = found.printed.text := by
  have topic : (read text).topic = String.ofList found.topic := by
    refine assigned.topic.trans ?_
    rw [Found.topicOr]
    split
    · rename_i empty
      rw [List.isEmpty_iff.mp empty]
    · rfl
  have hostPort :
      (read text).hostPort =
        String.ofList (found.host ++ portText found.port) :=
    assigned.hostPort
  rw [URI.getURIString, topic, hostPort]
  simp [Found.printed, Parts.text, Parts.afterHost, Parts.ending, Lead.text,
    slashText]

/-- The letters behind the host in the text of a URI. -/
def Found.behindHost (found : Found) : List Char :=
  portText found.port ++ '/' :: found.topic

theorem printed_text (found : Found) :
    found.printed.text = found.host ++ found.behindHost := by
  simp [Found.printed, Parts.text, Parts.afterHost, Parts.ending, Lead.text,
    slashText, Found.behindHost]

theorem scanBody_printed {parts : Parts} (wellFormed : parts.WellFormed) :
    scanBody parts.toFound.printed.text = some parts.toFound := by
  have scanned := scanBody_of_reads (reads_printed wellFormed) within_nil
  rw [List.append_nil] at scanned
  rw [scanned, toFound_padded]
  · rfl
  · intro _
    rfl

/-- The first letter behind the host is no letter of a host. -/
theorem stopsBefore_behindHost :
    StopsBefore isHostLetter found.behindHost := by
  rw [Found.behindHost]
  cases found.port with
  | none => exact stopsBefore_cons rfl
  | some digits => exact stopsBefore_cons rfl

/-- A host that stays is found again. -/
theorem scan_printed_of_stays {parts : Parts}
    (wellFormed : parts.WellFormed) (stays : HostStays parts.host) :
    scan parts.toFound.printed.text = some parts.toFound := by
  have scanned := scanBody_printed wellFormed
  rw [printed_text] at scanned ⊢
  rcases stays with stops | single
  · have chosen := scan_skips within_nil (stops.append wellFormed.host) scanned
    exact chosen
  · rcases List.length_eq_one_iff.mp single with ⟨letter, host⟩
    have isHost : isHostLetter letter = true := by
      apply wellFormed.hostLetters
      rw [host]
      exact List.mem_cons_self
    rw [host, List.singleton_append] at scanned ⊢
    rw [scan]
    split
    · have noBody := scanBody_of_stops isHost stopsBefore_behindHost scanned
      have stops : StopsBefore isSpace parts.toFound.behindHost := by
        intro first member
        have notHost := stopsBefore_behindHost first member
        by_contra space
        rw [isHostLetter_of_isSpace (eq_true_of_ne_false space)] at notHost
        cases notHost
      have noScan : scan parts.toFound.behindHost = none := by
        cases behind : parts.toFound.behindHost with
        | nil =>
            rw [behind] at noBody
            exact noBody
        | cons first rest =>
            rw [behind] at noBody stops
            rw [scan, if_neg, noBody]
            rw [stops first rfl]
            exact Bool.false_ne_true
      rw [noScan, scanned]
      rfl
    · exact scanned

/-- A host that does not stay is found again without its first letter. -/
theorem stays_of_scan_printed {parts : Parts}
    (wellFormed : parts.WellFormed)
    (again : scan parts.toFound.printed.text = some found)
    (same : found.host = parts.host) : HostStays parts.host := by
  by_contra moves
  cases host : parts.host with
  | nil => exact wellFormed.host host
  | cons first shorter =>
      rw [host] at moves
      have space : isSpace first = true := by
        by_contra other
        exact moves (.inl (stopsBefore_cons (Bool.eq_false_iff.mpr other)))
      have something : shorter ≠ [] := by
        rintro rfl
        exact moves (.inr rfl)
      have shorterFormed :
          Parts.WellFormed { parts with host := shorter } := by
        refine ⟨wellFormed.lead, something, ?_, wellFormed.digits,
          wellFormed.topicLetters⟩
        intro letter member
        apply wellFormed.hostLetters
        rw [host]
        exact List.mem_cons_of_mem _ member
      rcases scan_of_scanBody within_nil (scanBody_printed shorterFormed) with
        ⟨best, chosen, agrees⟩
      rw [List.nil_append, printed_text] at chosen
      have behind :
          Found.behindHost ⟨shorter, parts.port, parts.topic⟩ =
            parts.toFound.behindHost :=
        rfl
      rw [printed_text, host, List.cons_append, scan, if_pos space] at again
      dsimp only at chosen
      rw [behind] at chosen
      rw [chosen] at again
      cases again
      have bound := agrees.host.length_le
      rw [same, host] at bound
      exact Nat.not_succ_le_self _ bound

/-- The URI is read back exactly if its host stays. -/
theorem roundTrip_iff {parts : Parts}
    (wellFormed : parts.WellFormed)
    (chosen : scan text.toList = some parts.toFound)
    (fits : parts.toFound.PortFits) :
    (Accepted (read text).getURIString ∧
        read (read text).getURIString = read text) ↔
      HostStays parts.host := by
  have assigned := assigned_read chosen fits
  have printed := getURIString_toList assigned
  constructor
  · rintro ⟨accepted, same⟩
    cases again : scan (read text).getURIString.toList with
    | none =>
        have thrown := accepted.2
        rw [parse_of_none _ accepted.1 again] at thrown
        cases thrown
    | some found =>
        have assignedAgain :=
          assigned_read again ((accepted_iff_of_scan again).mp accepted)
        have sameHost : String.ofList found.host = String.ofList parts.host :=
          assignedAgain.host.symm.trans
            ((congrArg URI.host same).trans assigned.host)
        rw [printed] at again
        exact stays_of_scan_printed wellFormed again
          (String.ofList_inj.mp sameHost)
  · intro stays
    have again := scan_printed_of_stays wellFormed stays
    rw [← printed] at again
    refine ⟨(accepted_iff_of_scan again).mpr fits, ?_⟩
    rw [read, parse_of_found _ (ne_empty_of_scan again) again, read,
      parse_of_found _ (ne_empty_of_scan chosen) chosen]

end Printed

/-! ## The exact condition -/

section Exact

variable {text : String} {parts : Parts}

/-- A trimmed text does not end with white space. -/
theorem not_space_of_trim {letters front : List Char} {last : Char}
    (ends : trim letters = front ++ [last]) : isSpace last = false := by
  have kept : (front ++ [last]).rdropWhile isSpace = front ++ [last] := by
    rw [← ends]
    exact List.rdropWhile_idempotent _ _
  have stopped := List.rdropWhile_eq_self_iff.mp kept
    (List.append_ne_nil_of_right_ne_nil _ (List.cons_ne_nil _ _))
  rw [List.getLast_append_singleton] at stopped
  exact Bool.eq_false_iff.mpr stopped

/-- White space behind the host does not matter for its front. -/
theorem hostStays_padded (reads : Reads (trim text.toList) parts) :
    HostStays (parts.padded (trailing text.toList)).host ↔
      HostStays parts.host := by
  rw [Parts.padded]
  split
  · rename_i bare
    dsimp only
    have something := reads.wellFormed.host
    constructor
    · rintro (stops | single)
      · exact .inl stops.of_append
      · right
        rw [List.length_append] at single
        rw [← List.length_pos_iff] at something
        omega
    · rintro (stops | single)
      · exact .inl (stops.append something)
      · rcases List.length_eq_one_iff.mp single with ⟨letter, host⟩
        have ends : trim text.toList = parts.lead.text ++ [letter] := by
          rw [reads.text_eq, Parts.text, bare, host]
          rfl
        rw [host]
        exact .inl (stopsBefore_cons (not_space_of_trim ends))
  · exact Iff.rfl

/-- What holds for a text whose trimmed text consists of these parts. -/
theorem roundTrips_iff_of_reads (reads : Reads (trim text.toList) parts) :
    RoundTrips text ↔ parts.toFound.PortFits ∧ HostStays parts.host := by
  have follows : FollowsGrammar (trim text.toList) :=
    ⟨parts, reads.wellFormed, reads.text_eq⟩
  have chosen := scan_of_trim reads
  have samePort :
      (parts.padded (trailing text.toList)).port = parts.port := by
    rw [Parts.padded]
    split <;> rfl
  have fits :
      (parts.padded (trailing text.toList)).toFound.PortFits ↔
        parts.toFound.PortFits := by
    rw [Found.PortFits, Found.PortFits, samePort]
  have acceptedIff : Accepted text ↔ parts.toFound.PortFits :=
    (accepted_iff_of_scan chosen).trans fits
  rcases scan_reads chosen with ⟨whole, ⟨_, _, _, _, _, _, wholeReads⟩, same⟩
  have sameHost :
      whole.host = (parts.padded (trailing text.toList)).host :=
    congrArg Found.host same
  rw [← same] at chosen fits
  have staysIff : HostStays whole.host ↔ HostStays parts.host := by
    rw [sameHost]
    exact hostStays_padded reads
  constructor
  · intro trips
    have accepted := trips.accepted.mpr follows
    have small := acceptedIff.mp accepted
    refine ⟨small, staysIff.mp ?_⟩
    exact (roundTrip_iff wholeReads.wellFormed chosen (fits.mpr small)).mp
      (trips.roundTrip accepted)
  · rintro ⟨small, stays⟩
    constructor
    · intro _
      exact (roundTrip_iff wholeReads.wellFormed chosen (fits.mpr small)).mpr
        (staysIff.mpr stays)
    · exact iff_of_true (acceptedIff.mpr small) follows

/-- Both hold exactly for the regular texts. -/
theorem roundTrips_iff (text : String) : RoundTrips text ↔ Regular text := by
  by_cases follows : FollowsGrammar (trim text.toList)
  · constructor
    · intro trips
      rcases follows.reads with ⟨parts, reads⟩
      exact .inl ⟨parts, reads, (roundTrips_iff_of_reads reads).mp trips⟩
    · rintro (⟨parts, reads, regular⟩ | ⟨contrary, _⟩)
      · exact (roundTrips_iff_of_reads reads).mpr regular
      · exact absurd follows contrary
  · constructor
    · intro trips
      refine .inr ⟨follows, ?_⟩
      intro parts reads fits
      exact follows
        (trips.accepted.mp (accepted_iff.mpr ⟨parts, reads, fits⟩))
    · rintro (⟨parts, reads, _⟩ | ⟨_, unread⟩)
      · exact absurd ⟨parts, reads.wellFormed, reads.text_eq⟩ follows
      · have rejected : ¬ Accepted text := by
          intro accepted
          rcases accepted_iff.mp accepted with ⟨parts, reads, fits⟩
          exact unread parts reads fits
        constructor
        · intro accepted
          exact absurd accepted rejected
        · exact iff_of_false rejected follows

end Exact

/-- White space takes the place of the host that is missing. -/
theorem port_alone_not_roundTrips : ¬ RoundTrips " :9092" := by
  intro trips
  have accepted : Accepted " :9092" := ⟨by decide, by decide +kernel⟩
  rcases (trips.accepted.mp accepted).reads with ⟨parts, reads⟩
  have scanned := scanBody_of_reads reads within_nil
  have nothing : scanBody (trim " :9092".toList ++ []) = none := by
    decide +kernel
  cases nothing.symm.trans scanned

end KafkaToNexus.Uri
