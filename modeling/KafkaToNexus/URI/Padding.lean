import KafkaToNexus.URI.Grammar

/-!
# White space around a URI

As much white space as possible is skipped at the front.  The rest of it is
given back only if the text does not match otherwise, and then as little of it
as possible: the match has the same port and the same topic however much is
given back, and its host is the end of every other host.
-/

namespace KafkaToNexus.Uri

open CLIOptions (isSpace)

/-! ## White space in front -/

/-- The same parts, apart from letters at the front of the host. -/
structure Found.Agrees (found other : Found) : Prop where
  host : found.host <:+ other.host
  port : found.port = other.port
  topic : found.topic = other.topic

theorem Found.Agrees.refl (found : Found) : found.Agrees found :=
  ⟨List.suffix_refl _, rfl, rfl⟩

theorem Found.Agrees.trans {found other third : Found}
    (first : found.Agrees other) (second : other.Agrees third) :
    found.Agrees third :=
  ⟨first.host.trans second.host, first.port.trans second.port,
    first.topic.trans second.topic⟩

section Front

variable {text rest leading : List Char} {first : Char}
  {found other : Found}

/-- A text that begins with a letter of a host begins with one run of them. -/
theorem scanBody_of_host (host : isHostLetter first = true) :
    scanBody (first :: rest) =
      if "://".toList.isPrefixOf (rest.dropWhile isHostLetter) then
        scanHost ((rest.dropWhile isHostLetter).drop 3)
      else
        (scanPort (rest.dropWhile isHostLetter)).map fun (port, topic) =>
          ⟨first :: rest.takeWhile isHostLetter, port, topic⟩ := by
  have noSlashes : ¬ "//".toList.isPrefixOf (first :: rest) = true := by
    intro slashes
    rcases List.isPrefixOf_iff_prefix.mp slashes with ⟨_, same⟩
    cases same
    exact absurd host (by decide)
  rw [scanBody, dropScheme, List.takeWhile_cons_of_pos host,
    List.dropWhile_cons_of_pos host, if_neg noSlashes]
  rw [List.isEmpty_cons, Bool.not_false, Bool.true_and]
  split
  · rfl
  · rw [scanHost, List.takeWhile_cons_of_pos host,
      List.dropWhile_cons_of_pos host]
    rfl

/-- One letter of the host less is found as well. -/
theorem scanBody_of_cons_host {second : Char}
    (host : isHostLetter first = true) (next : isHostLetter second = true)
    (scanned : scanBody (first :: second :: rest) = some other) :
    ∃ found, scanBody (second :: rest) = some found ∧
      found.Agrees other := by
  rw [scanBody_of_host host, List.dropWhile_cons_of_pos next,
    List.takeWhile_cons_of_pos next] at scanned
  rw [scanBody_of_host next]
  split at scanned
  · rename_i scheme
    rw [if_pos scheme]
    exact ⟨other, scanned, .refl other⟩
  · rename_i noScheme
    rw [if_neg noScheme]
    rcases Option.map_eq_some_iff.mp scanned with ⟨⟨port, topic⟩, ported, rfl⟩
    exact
      ⟨_, Option.map_eq_some_iff.mpr ⟨_, ported, rfl⟩,
        List.suffix_cons _ _, rfl, rfl⟩

/-- Without its only letter of a host the text does not match. -/
theorem scanBody_of_stops
    (host : isHostLetter first = true) (stops : StopsBefore isHostLetter rest)
    (scanned : scanBody (first :: rest) = some other) :
    scanBody rest = none := by
  rw [scanBody_of_host host, stops.dropWhile_eq] at scanned
  have noHost : scanHost rest = none := by
    rw [scanHost, stops.takeWhile_eq]
    rfl
  rw [scanBody, dropScheme, stops.takeWhile_eq]
  rw [List.isEmpty_nil, Bool.not_true, Bool.false_and,
    if_neg Bool.false_ne_true]
  split
  · rename_i slashes
    rcases List.isPrefixOf_iff_prefix.mp slashes with ⟨behind, rfl⟩
    cases scanned
  · exact noHost

/-- What the scan finds agrees with what is found with one letter more. -/
theorem agrees_of_cons
    (space : isSpace first = true)
    (scanned : scanBody (first :: text) = some other)
    (chosen : scan text = some found) : found.Agrees other := by
  induction text generalizing first other with
  | nil =>
      cases (scanBody_of_stops (isHostLetter_of_isSpace space)
        stopsBefore_nil scanned).symm.trans chosen
  | cons second rest induction =>
      have host := isHostLetter_of_isSpace space
      cases next : isHostLetter second with
      | false =>
          have noSpace : ¬ isSpace second = true := by
            intro space
            rw [isHostLetter_of_isSpace space] at next
            cases next
          rw [scan, if_neg noSpace] at chosen
          cases (scanBody_of_stops host (stopsBefore_cons next)
            scanned).symm.trans chosen
      | true =>
          rcases scanBody_of_cons_host host next scanned with
            ⟨shorter, again, agrees⟩
          rw [scan] at chosen
          split at chosen
          · rename_i nextSpace
            cases later : scan rest with
            | none =>
                rw [later, again] at chosen
                cases chosen
                exact agrees
            | some best =>
                rw [later] at chosen
                cases chosen
                exact (induction nextSpace again later).trans agrees
          · cases again.symm.trans chosen
            exact agrees

/-- Where a text matches, it matches behind white space too. -/
theorem scan_of_scanBody
    (space : Within isSpace leading) (scanned : scanBody text = some other) :
    ∃ found, scan (leading ++ text) = some found ∧ found.Agrees other := by
  induction leading with
  | nil =>
      rw [List.nil_append]
      cases text with
      | nil => exact ⟨other, scanned, .refl other⟩
      | cons first rest =>
          rw [scan]
          split
          · rename_i isSpace_
            cases later : scan rest with
            | none => exact ⟨other, scanned, .refl other⟩
            | some best =>
                exact ⟨best, rfl, agrees_of_cons isSpace_ scanned later⟩
          · exact ⟨other, scanned, .refl other⟩
  | cons first leading induction =>
      rcases induction fun letter member =>
          space letter (List.mem_cons_of_mem _ member) with
        ⟨found, chosen, agrees⟩
      refine ⟨found, ?_, agrees⟩
      rw [List.cons_append, scan, if_pos (space first List.mem_cons_self),
        chosen]
      rfl

/-- White space in front is skipped where the rest matches. -/
theorem scan_skips
    (space : Within isSpace leading) (stops : StopsBefore isSpace text)
    (scanned : scanBody text = some found) :
    scan (leading ++ text) = some found := by
  induction leading with
  | nil =>
      cases text with
      | nil => exact scanned
      | cons first rest =>
          rw [List.nil_append, scan, if_neg, scanned]
          rw [stops first rfl]
          exact Bool.false_ne_true
  | cons first leading induction =>
      rw [List.cons_append, scan, if_pos (space first List.mem_cons_self),
        induction fun letter member =>
          space letter (List.mem_cons_of_mem _ member)]
      rfl

theorem scan_sound (chosen : scan text = some found) :
    ∃ leading body, text = leading ++ body ∧ Within isSpace leading ∧
      scanBody body = some found := by
  induction text with
  | nil => exact ⟨[], [], rfl, within_nil, chosen⟩
  | cons first rest induction =>
      rw [scan] at chosen
      split at chosen
      · rename_i space
        cases later : scan rest with
        | none =>
            rw [later] at chosen
            exact ⟨[], first :: rest, rfl, within_nil, chosen⟩
        | some best =>
            rw [later] at chosen
            cases chosen
            rcases induction later with ⟨leading, body, rfl, within, scanned⟩
            refine ⟨first :: leading, body, rfl, ?_, scanned⟩
            intro letter member
            rcases List.mem_cons.mp member with rfl | inLeading
            · exact space
            · exact within letter inLeading
      · exact ⟨[], first :: rest, rfl, within_nil, chosen⟩

end Front

/-! ## White space around a text -/

/-- The text without white space at its ends. -/
def trim (text : List Char) : List Char :=
  (text.dropWhile isSpace).rdropWhile isSpace

/-- The white space behind the text. -/
def trailing (text : List Char) : List Char :=
  (text.dropWhile isSpace).rtakeWhile isSpace

/-- The text consists of these parts and of white space around them. -/
def ReadsPadded (text : List Char) (parts : Parts) : Prop :=
  ∃ leading core padding, text = leading ++ (core ++ padding) ∧
    Within isSpace leading ∧ Within isSpace padding ∧ Reads core parts

section Trim

variable {text : List Char} {found : Found} {parts : Parts}

theorem trim_append_trailing (text : List Char) :
    trim text ++ trailing text = text.dropWhile isSpace :=
  List.rdropWhile_append_rtakeWhile

theorem within_trailing : Within isSpace (trailing text) := by
  intro letter member
  exact List.mem_rtakeWhile_imp member

/-- The parts of the trimmed text are found, with the white space behind. -/
theorem scan_of_trim (reads : Reads (trim text) parts) :
    scan text = some (parts.padded (trailing text)).toFound := by
  have behind : Within isSpace (trailing text) := within_trailing
  have scanned := scanBody_of_reads reads behind
  rw [trim_append_trailing] at scanned
  have front : Within isSpace (text.takeWhile isSpace) := within_takeWhile
  have chosen := scan_skips front stopsBefore_dropWhile scanned
  rw [List.takeWhile_append_dropWhile] at chosen
  exact chosen

/-- What the scan finds are parts with white space around them. -/
theorem scan_reads (chosen : scan text = some found) :
    ∃ parts, ReadsPadded text parts ∧ parts.toFound = found := by
  rcases scan_sound chosen with ⟨leading, body, rfl, space, scanned⟩
  rcases scanBody_sound scanned with
    ⟨core, parts, padding, rfl, behind, reads, same⟩
  exact ⟨parts, ⟨leading, core, padding, rfl, space, behind, reads⟩, same⟩

/-- Parts with white space around them are found with their port. -/
theorem scan_of_readsPadded (reads : ReadsPadded text parts) :
    ∃ found, scan text = some found ∧ found.port = parts.port := by
  rcases reads with ⟨leading, core, padding, rfl, space, behind, reads⟩
  rcases scan_of_scanBody space (scanBody_of_reads reads behind) with
    ⟨found, chosen, agrees⟩
  refine ⟨found, chosen, agrees.port.trans ?_⟩
  rw [Parts.padded]
  split <;> rfl

end Trim

end KafkaToNexus.Uri
