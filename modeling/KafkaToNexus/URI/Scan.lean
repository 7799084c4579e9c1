import KafkaToNexus.URI

/-!
# The first match of a URI

The regular expression of a URI is matched with backtracking.  Its first match
is described here by a scan that goes over the text once: only the white space
at the front is given back when the rest does not match.  For every other part
the longest run is the one that counts.  The scan goes through the parts in
their order, and the lemmas go through the expression from its end, since what
follows a part decides which runs it may take.
-/

namespace KafkaToNexus.Uri

open Foundations
open Foundations.Regex
open CLIOptions (isSpace)

/-! ## The scan -/

/-- The topic, if only white space follows it. -/
def scanTopic (text : List Char) : Option (List Char) :=
  if (text.dropWhile isTopicLetter).all isSpace then
    some (text.takeWhile isTopicLetter)
  else
    none

/-- The text without a slash in front of it. -/
def dropSlash : List Char → List Char
  | [] => []
  | first :: rest => if first = '/' then rest else first :: rest

/-- What follows the host and the port. -/
def scanEnding (text : List Char) : Option (List Char) :=
  scanTopic (dropSlash text)

/-- The digits of the port, if there is one, and what follows them. -/
def splitPort : List Char → Option (Option (List Char) × List Char)
  | [] => some (none, [])
  | first :: rest =>
      if first = ':' then
        if (rest.takeWhile Char.isDigit).isEmpty then
          none
        else
          some (some (rest.takeWhile Char.isDigit),
            rest.dropWhile Char.isDigit)
      else
        some (none, first :: rest)

/-- The port and the topic behind the host. -/
def scanPort (text : List Char) :
    Option (Option (List Char) × List Char) :=
  (splitPort text).bind fun (port, rest) =>
    (scanEnding rest).map fun topic => (port, topic)

/-- The parts of a URI that are kept. -/
structure Found where
  host : List Char
  port : Option (List Char)
  topic : List Char
deriving DecidableEq, Repr

/-- The host and what follows it. -/
def scanHost (text : List Char) : Option Found :=
  if (text.takeWhile isHostLetter).isEmpty then
    none
  else
    (scanPort (text.dropWhile isHostLetter)).map fun (port, topic) =>
      ⟨text.takeWhile isHostLetter, port, topic⟩

/-- The text without a scheme, or without the slashes in its place. -/
def dropScheme (text : List Char) : List Char :=
  if !(text.takeWhile isHostLetter).isEmpty &&
      "://".toList.isPrefixOf (text.dropWhile isHostLetter) then
    (text.dropWhile isHostLetter).drop 3
  else if "//".toList.isPrefixOf text then
    text.drop 2
  else
    text

/-- A URI without white space in front of it. -/
def scanBody (text : List Char) : Option Found :=
  scanHost (dropScheme text)

/-- A URI behind as much white space as possible. -/
def scan : List Char → Option Found
  | [] => scanBody []
  | first :: rest =>
      if isSpace first then
        (scan rest).or (scanBody (first :: rest))
      else
        scanBody (first :: rest)

/-! ## The classes of letters -/

theorem isTopicLetter_of_isDigit {letter : Char}
    (digit : letter.isDigit = true) : isTopicLetter letter = true := by
  rw [isTopicLetter, Char.isAlphanum, digit, Bool.or_true, Bool.true_or]

theorem isSpace_cases {letter : Char} (space : isSpace letter = true) :
    letter = ' ' ∨ letter = '\t' ∨ letter = '\n' ∨ letter = '\x0b' ∨
      letter = '\x0c' ∨ letter = '\r' := by
  simpa [isSpace] using space

theorem isTopicLetter_of_isSpace {letter : Char}
    (space : isSpace letter = true) : isTopicLetter letter = false := by
  rcases isSpace_cases space with rfl | rfl | rfl | rfl | rfl | rfl <;> decide

theorem isHostLetter_of_isSpace {letter : Char}
    (space : isSpace letter = true) : isHostLetter letter = true := by
  rcases isSpace_cases space with rfl | rfl | rfl | rfl | rfl | rfl <;> decide

theorem isHostLetter_iff {letter : Char} :
    isHostLetter letter = true ↔
      letter ≠ '/' ∧ letter ≠ '?' ∧ letter ≠ '#' ∧ letter ≠ ':' := by
  simp [isHostLetter]

theorem isHostLetter_of_isTopicLetter {letter : Char}
    (topic : isTopicLetter letter = true) : isHostLetter letter = true := by
  rw [isHostLetter_iff]
  refine ⟨?_, ?_, ?_, ?_⟩
  · rintro rfl
    exact absurd topic (by decide)
  · rintro rfl
    exact absurd topic (by decide)
  · rintro rfl
    exact absurd topic (by decide)
  · rintro rfl
    exact absurd topic (by decide)

/-! ## The end of a URI -/

/-- Every letter of the text is in the class. -/
def Within (accepts : Char → Bool) (text : List Char) : Prop :=
  ∀ letter ∈ text, accepts letter = true

/-- The text does not go on with a letter of the class. -/
def StopsBefore (accepts : Char → Bool) (text : List Char) : Prop :=
  ∀ first ∈ text.head?, accepts first = false

section Runs

variable {accepts : Char → Bool} {run rest text : List Char}

theorem within_nil : Within accepts [] := by
  intro letter member
  cases member

theorem stopsBefore_nil : StopsBefore accepts [] := by
  intro first member
  cases member

theorem StopsBefore.dropWhile_eq (stops : StopsBefore accepts rest) :
    rest.dropWhile accepts = rest := by
  cases rest with
  | nil => rfl
  | cons first rest =>
      rw [List.dropWhile_cons_of_neg]
      rw [stops first rfl]
      exact Bool.false_ne_true

theorem StopsBefore.takeWhile_eq (stops : StopsBefore accepts rest) :
    rest.takeWhile accepts = [] := by
  cases rest with
  | nil => rfl
  | cons first rest =>
      rw [List.takeWhile_cons_of_neg]
      rw [stops first rfl]
      exact Bool.false_ne_true

/-- A run ends where the text does not go on with its letters. -/
theorem takeWhile_run
    (within : Within accepts run) (stops : StopsBefore accepts rest) :
    (run ++ rest).takeWhile accepts = run := by
  rw [List.takeWhile_append_of_pos within, stops.takeWhile_eq,
    List.append_nil]

theorem dropWhile_run
    (within : Within accepts run) (stops : StopsBefore accepts rest) :
    (run ++ rest).dropWhile accepts = rest := by
  rw [List.dropWhile_append_of_pos within, stops.dropWhile_eq]

theorem within_takeWhile : Within accepts (text.takeWhile accepts) := by
  intro letter member
  exact List.mem_takeWhile_imp member

theorem stopsBefore_dropWhile :
    StopsBefore accepts (text.dropWhile accepts) := by
  intro first member
  have stopped := List.head?_dropWhile_not accepts text
  rw [Option.mem_def.mp member] at stopped
  exact Bool.eq_false_iff.mpr (by simpa using stopped)

theorem stopsBefore_cons {first : Char} (stops : accepts first = false) :
    StopsBefore accepts (first :: rest) := by
  intro other member
  cases member
  exact stops

end Runs

/-- White space stops a topic. -/
theorem stopsBefore_of_space {padding : List Char}
    (space : Within isSpace padding) : StopsBefore isTopicLetter padding := by
  intro first member
  exact isTopicLetter_of_isSpace (space first (List.mem_of_mem_head? member))

section Ending

variable {text topic padding : List Char}

theorem scanTopic_append
    (letters : Within isTopicLetter topic) (space : Within isSpace padding) :
    scanTopic (topic ++ padding) = some topic := by
  have stops := stopsBefore_of_space space
  rw [scanTopic, dropWhile_run letters stops, takeWhile_run letters stops,
    if_pos (List.all_eq_true.mpr space)]

theorem scanTopic_sound (found : scanTopic text = some topic) :
    ∃ padding, text = topic ++ padding ∧ Within isTopicLetter topic ∧
      Within isSpace padding := by
  rw [scanTopic] at found
  split at found
  · rename_i space
    cases found
    exact
      ⟨text.dropWhile isTopicLetter, List.takeWhile_append_dropWhile.symm,
        within_takeWhile, List.all_eq_true.mp space⟩
  · cases found

/-- The slash, if there is one. -/
def slashText (slash : Bool) : List Char :=
  if slash then ['/'] else []

/-- A topic and the white space behind it are letters of a host. -/
theorem within_host_of_plain
    (letters : Within isTopicLetter topic) (space : Within isSpace padding) :
    Within isHostLetter (topic ++ padding) := by
  intro letter member
  rcases List.mem_append.mp member with inTopic | inPadding
  · exact isHostLetter_of_isTopicLetter (letters letter inTopic)
  · exact isHostLetter_of_isSpace (space letter inPadding)

theorem dropSlash_of_host {first : Char} {rest : List Char}
    (host : isHostLetter first = true) :
    dropSlash (first :: rest) = first :: rest :=
  if_neg (isHostLetter_iff.mp host).1

theorem dropSlash_of_within (host : Within isHostLetter text) :
    dropSlash text = text := by
  cases text with
  | nil => rfl
  | cons first rest =>
      exact dropSlash_of_host (host first List.mem_cons_self)

theorem scanEnding_iff :
    scanEnding text = some topic ↔
      ∃ slash padding, text = slashText slash ++ (topic ++ padding) ∧
        Within isTopicLetter topic ∧ Within isSpace padding := by
  constructor
  · intro found
    rcases scanTopic_sound found with ⟨padding, same, letters, space⟩
    cases text with
    | nil => exact ⟨false, padding, same, letters, space⟩
    | cons first rest =>
        rw [dropSlash] at same
        split at same
        · rename_i isSlash
          refine ⟨true, padding, ?_, letters, space⟩
          rw [isSlash, same]
          rfl
        · exact ⟨false, padding, same, letters, space⟩
  · rintro ⟨slash, padding, rfl, letters, space⟩
    have plain := scanTopic_append letters space
    cases slash with
    | true => exact plain
    | false =>
        have same :=
          dropSlash_of_within (within_host_of_plain letters space)
        rw [scanEnding]
        exact (congrArg scanTopic same).trans plain

/-- A letter more in front of what could be a topic. -/
theorem scanEnding_cons_of_none {first : Char}
    (letter : isTopicLetter first = true) (failed : scanEnding text = none) :
    scanEnding (first :: text) = none := by
  by_contra found
  rcases Option.ne_none_iff_exists'.mp found with ⟨topic, found⟩
  rcases scanEnding_iff.mp found with
    ⟨slash, padding, same, letters, space⟩
  have host := isHostLetter_of_isTopicLetter letter
  cases slash with
  | true =>
      cases same
      exact absurd letter (by decide)
  | false =>
      cases topic with
      | nil =>
          cases padding with
          | nil => cases same
          | cons other padding =>
              cases same
              have isSpace_ := space first List.mem_cons_self
              rw [isTopicLetter_of_isSpace isSpace_] at letter
              cases letter
      | cons other topic =>
          cases same
          have again : scanEnding (topic ++ padding) = some topic :=
            scanEnding_iff.mpr
              ⟨false, padding, rfl,
                fun letter member =>
                  letters letter (List.mem_cons_of_mem _ member), space⟩
          cases failed.symm.trans again

end Ending

/-! ## The port -/

section Port

variable {text rest : List Char} {port : Option (List Char)}

/-- The port with its colon, if there is one. -/
def portText : Option (List Char) → List Char
  | none => []
  | some digits => ':' :: digits

/-- A port that does not go on in the rest. -/
def PortEnds : Option (List Char) → List Char → Prop
  | none, rest => StopsBefore (fun first => first = ':') rest
  | some digits, rest =>
      digits ≠ [] ∧ Within Char.isDigit digits ∧
        StopsBefore Char.isDigit rest

theorem splitPort_iff :
    splitPort text = some (port, rest) ↔
      text = portText port ++ rest ∧ PortEnds port rest := by
  constructor
  · intro found
    cases text with
    | nil =>
        cases found
        exact ⟨rfl, stopsBefore_nil⟩
    | cons first others =>
        rw [splitPort] at found
        split at found
        · rename_i colon
          split at found
          · cases found
          · rename_i something
            cases found
            refine ⟨?_, ?_, within_takeWhile, stopsBefore_dropWhile⟩
            · rw [colon, portText, List.cons_append,
                List.takeWhile_append_dropWhile]
            · intro nothing
              exact something (List.isEmpty_iff.mpr nothing)
        · rename_i other
          cases found
          exact ⟨rfl, stopsBefore_cons (decide_eq_false other)⟩
  · rintro ⟨rfl, ends⟩
    cases port with
    | none =>
        cases rest with
        | nil => rfl
        | cons first rest =>
            exact if_neg (of_decide_eq_false (ends first rfl))
    | some digits =>
        rcases ends with ⟨something, within, stops⟩
        rw [portText, List.cons_append, splitPort, if_pos rfl,
          takeWhile_run within stops, dropWhile_run within stops, if_neg]
        rw [List.isEmpty_iff]
        exact something

theorem scanPort_iff {topic : List Char} :
    scanPort text = some (port, topic) ↔
      ∃ slash padding,
        text = portText port ++ (slashText slash ++ (topic ++ padding)) ∧
          PortEnds port (slashText slash ++ (topic ++ padding)) ∧
          Within isTopicLetter topic ∧ Within isSpace padding := by
  rw [scanPort, Option.bind_eq_some_iff]
  constructor
  · rintro ⟨⟨found, rest⟩, split_, ended⟩
    rcases Option.map_eq_some_iff.mp ended with ⟨other, ended, same⟩
    cases same
    rcases splitPort_iff.mp split_ with ⟨same, ends⟩
    rcases scanEnding_iff.mp ended with
      ⟨slash, padding, rfl, letters, space⟩
    exact ⟨slash, padding, same, ends, letters, space⟩
  · rintro ⟨slash, padding, same, ends, letters, space⟩
    refine ⟨(port, _), splitPort_iff.mpr ⟨same, ends⟩, ?_⟩
    exact Option.map_eq_some_iff.mpr
      ⟨topic, scanEnding_iff.mpr ⟨slash, padding, rfl, letters, space⟩, rfl⟩

theorem scanPort_of_plain {topic padding : List Char}
    (letters : Within isTopicLetter topic) (space : Within isSpace padding) :
    scanPort (topic ++ padding) = some (none, topic) := by
  refine scanPort_iff.mpr ⟨false, padding, rfl, ?_, letters, space⟩
  intro first member
  have host :=
    within_host_of_plain letters space first (List.mem_of_mem_head? member)
  exact decide_eq_false (isHostLetter_iff.mp host).2.2.2

/-- A letter of the host more in front of what could follow the host. -/
theorem scanPort_cons_of_none {first : Char}
    (host : isHostLetter first = true) (failed : scanPort rest = none) :
    scanPort (first :: rest) = none := by
  by_contra found
  rcases Option.ne_none_iff_exists'.mp found with ⟨⟨port, topic⟩, found⟩
  rcases scanPort_iff.mp found with
    ⟨slash, padding, same, _, letters, space⟩
  have plain : port = none ∧ slash = false := by
    rcases port with _ | digits
    · cases slash with
      | false => exact ⟨rfl, rfl⟩
      | true =>
          cases same
          exact absurd host (by decide)
    · cases same
      exact absurd host (by decide)
  rcases plain with ⟨rfl, rfl⟩
  have same : first :: rest = topic ++ padding := same
  cases topic with
  | nil =>
      have shorter : Within isSpace rest := by
        intro letter member
        apply space
        rw [List.nil_append] at same
        rw [← same]
        exact List.mem_cons_of_mem _ member
      have again : scanPort ([] ++ rest) = some (none, []) :=
        scanPort_of_plain within_nil shorter
      cases failed.symm.trans again
  | cons other topic =>
      cases same
      have shorter : Within isTopicLetter topic := fun letter member =>
        letters letter (List.mem_cons_of_mem _ member)
      cases failed.symm.trans (scanPort_of_plain shorter space)

end Port

/-! ## The host -/

section Host

variable {text : List Char} {found : Found}

theorem scanHost_iff :
    scanHost text = some found ↔
      ∃ rest, text = found.host ++ rest ∧ found.host ≠ [] ∧
        Within isHostLetter found.host ∧ StopsBefore isHostLetter rest ∧
        scanPort rest = some (found.port, found.topic) := by
  constructor
  · intro scanned
    rw [scanHost] at scanned
    split at scanned
    · cases scanned
    · rename_i something
      rcases Option.map_eq_some_iff.mp scanned with
        ⟨⟨port, topic⟩, rest, rfl⟩
      refine
        ⟨_, List.takeWhile_append_dropWhile.symm, ?_, within_takeWhile,
          stopsBefore_dropWhile, rest⟩
      intro nothing
      exact something (List.isEmpty_iff.mpr nothing)
  · rintro ⟨rest, rfl, something, within, stops, scanned⟩
    rw [scanHost, takeWhile_run within stops, dropWhile_run within stops,
      if_neg (fun nothing => something (List.isEmpty_iff.mp nothing)),
      scanned]
    rfl

/-- What is behind a colon and two slashes is no port. -/
theorem scanHost_of_scheme
    (scheme :
      "://".toList.isPrefixOf (text.dropWhile isHostLetter) = true) :
    scanHost text = none := by
  rcases List.isPrefixOf_iff_prefix.mp scheme with ⟨rest, same⟩
  rw [scanHost, ← same]
  split <;> rfl

theorem scanHost_of_slashes (slashes : "//".toList.isPrefixOf text = true) :
    scanHost text = none := by
  rcases List.isPrefixOf_iff_prefix.mp slashes with ⟨rest, rfl⟩
  rfl

end Host

end KafkaToNexus.Uri
