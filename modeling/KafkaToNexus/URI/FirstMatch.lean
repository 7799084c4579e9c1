import KafkaToNexus.URI.Scan

/-!
# The scan finds the first match

The groups of the first match of the regular expression are the parts that the
scan finds.  The proof goes through the expression from its end.  For each part
it is shown what a match from there on gives, and that a longer run never
does worse than a shorter one.
-/

namespace KafkaToNexus.Uri

open Foundations
open Foundations.Regex
open CLIOptions (isSpace)

/-- The groups that are looked at after the match. -/
structure Matched where
  hostPort : Option (List Char)
  host : Option (List Char)
  port : Option (List Char)
  topic : Option (List Char)
deriving DecidableEq, Repr

def matchedOf (groups : Groups Char) : Matched :=
  ⟨groups 6, groups 7, groups 10, groups 11⟩

/-- The topic of a match; the group of an empty topic is not matched. -/
def matchedTopic (topic : List Char) (before : Option (List Char)) :
    Option (List Char) :=
  if topic.isEmpty then before else some topic

/-- The groups of a match from a position on. -/
def Found.matched (found : Found) (groups : Groups Char) : Matched where
  hostPort := some (found.host ++ portText found.port)
  host := some found.host
  port := found.port.or (groups 10)
  topic := matchedTopic found.topic (groups 11)

/-- What is kept at the end of the text. -/
def finish (position : Position Char) : Option Matched :=
  (atEnd position).map matchedOf

/-! ## From the end to the host -/

/-- `\s*` at the end. -/
def paddingRegex : Regex Char :=
  all [star (letter isSpace)]

/-- `([a-zA-Z0-9._-]+)?\s*`. -/
def topicRegex : Regex Char :=
  all [optional (group 11 (plus (letter isTopicLetter))),
    star (letter isSpace)]

/-- `/?([a-zA-Z0-9._-]+)?\s*`. -/
def endingRegex : Regex Char :=
  all [optional (letter fun read => read = '/'),
    optional (group 11 (plus (letter isTopicLetter))),
    star (letter isSpace)]

section Ending

variable {rest : List Char} {groups : Groups Char}

theorem run_paddingRegex :
    run paddingRegex ⟨rest, groups⟩ finish =
      if rest.all isSpace then some (matchedOf groups) else none := by
  have prefers : PrefersLongRuns isSpace finish := by
    intro first rest groups _ _
    rfl
  have ran :
      run paddingRegex ⟨rest, groups⟩ finish =
        finish ⟨rest.dropWhile isSpace, groups⟩ :=
    run_star_letter prefers
  rw [ran, finish, atEnd]
  by_cases space : rest.all isSpace = true
  · have nothing : rest.dropWhile isSpace = [] :=
      List.dropWhile_eq_nil_iff.mpr (List.all_eq_true.mp space)
    rw [if_pos space, nothing]
    rfl
  · have something : ¬ (rest.dropWhile isSpace).isEmpty = true := by
      rw [List.isEmpty_iff, List.dropWhile_eq_nil_iff]
      intro within
      exact space (List.all_eq_true.mpr within)
    rw [if_neg space, if_neg something]
    rfl

theorem run_topicRegex :
    run topicRegex ⟨rest, groups⟩ finish =
      (scanTopic rest).map fun topic =>
        ⟨groups 6, groups 7, groups 10, matchedTopic topic (groups 11)⟩ := by
  let next : Position Char → Option Matched := fun after =>
    run paddingRegex (after.close 11 ⟨rest, groups⟩) finish
  have prefers : PrefersLongRuns isTopicLetter next := by
    intro first others others' letter _
    dsimp only [next, Position.close]
    rw [run_paddingRegex, if_neg]
    intro space
    have isSpace_ :=
      List.all_eq_true.mp space first List.mem_cons_self
    rw [isTopicLetter_of_isSpace isSpace_] at letter
    cases letter
  have ran :
      run topicRegex ⟨rest, groups⟩ finish =
        (run (plus (letter isTopicLetter)) ⟨rest, groups⟩ next).or
          (run paddingRegex ⟨rest, groups⟩ finish) :=
    rfl
  rw [ran, run_plus_letter prefers]
  dsimp only [next]
  rw [Position.close_dropWhile, run_paddingRegex, run_paddingRegex, scanTopic]
  by_cases ended : (rest.dropWhile isTopicLetter).all isSpace = true
  · rw [if_pos ended, if_pos ended]
    split
    · rename_i nothing
      have whole := List.takeWhile_append_dropWhile (p := isTopicLetter)
        (l := rest)
      rw [List.isEmpty_iff.mp nothing, List.nil_append] at whole
      rw [whole] at ended
      rw [if_pos ended, List.isEmpty_iff.mp nothing]
      rfl
    · rename_i something
      rw [Option.map_some, matchedTopic, if_neg something]
      rfl
  · have notSpace : ¬ rest.all isSpace = true := by
      intro space
      have same :=
        (stopsBefore_of_space (List.all_eq_true.mp space)).dropWhile_eq
      rw [same] at ended
      exact ended space
    rw [if_neg ended, if_neg ended, if_neg notSpace]
    split <;> rfl

theorem run_endingRegex :
    run endingRegex ⟨rest, groups⟩ finish =
      (scanEnding rest).map fun topic =>
        ⟨groups 6, groups 7, groups 10, matchedTopic topic (groups 11)⟩ := by
  have ran :
      run endingRegex ⟨rest, groups⟩ finish =
        (run (letter fun read => read = '/') ⟨rest, groups⟩ fun after =>
          run topicRegex after finish).or
            (run topicRegex ⟨rest, groups⟩ finish) :=
    rfl
  rw [ran, scanEnding]
  cases rest with
  | nil =>
      rw [run_letter_nil, run_topicRegex]
      rfl
  | cons first rest =>
      rw [run_letter_cons, run_topicRegex, run_topicRegex, dropSlash]
      by_cases slash : first = '/'
      · have stuck : scanTopic (first :: rest) = none := by
          rw [slash]
          rfl
        rw [stuck, if_pos (decide_eq_true slash), if_pos slash]
        exact Option.or_none
      · rw [if_neg (by rw [decide_eq_false slash]; decide), if_neg slash]
        rfl

end Ending

/-! ## The port -/

section Port

variable {text : List Char} {groups : Groups Char}
  {next : Position Char → Option Matched}

/-- The groups behind a port. -/
def portGroups (groups : Groups Char) : Option (List Char) → Groups Char
  | none => groups
  | some digits =>
      Function.update (Function.update groups 10 (some digits)) 9
        (some (':' :: digits))

/-- All digits are taken, and a colon needs digits behind it. -/
theorem run_portRegex
    (prefers :
      ∀ first rest groups others, first.isDigit = true →
        next ⟨rest, groups⟩ = none → next ⟨first :: rest, others⟩ = none)
    (colon : ∀ rest groups, next ⟨':' :: rest, groups⟩ = none) :
    run portRegex ⟨text, groups⟩ next =
      (splitPort text).bind fun (port, rest) =>
        next ⟨rest, portGroups groups port⟩ := by
  rw [portRegex, run_optional, run_group, run_sequence]
  cases text with
  | nil => rfl
  | cons first rest =>
      rw [run_letter_cons, splitPort]
      by_cases isColon : first = ':'
      · rw [if_pos (decide_eq_true isColon), if_pos isColon, isColon, colon,
          Option.or_none, run_group, run_plus_letter]
        · split
          · rfl
          · have between :
                ':' :: rest =
                  (':' :: rest.takeWhile Char.isDigit) ++
                    rest.dropWhile Char.isDigit := by
              rw [List.cons_append, List.takeWhile_append_dropWhile]
            dsimp only
            rw [Position.close_dropWhile, Position.close_of_append 9 between]
            rfl
        · intro digit others groups' isDigit failed
          exact prefers digit others _ _ isDigit failed
      · rw [if_neg (by rw [decide_eq_false isColon]; decide),
          if_neg isColon]
        rfl

end Port

/-! ## The host -/

section Host

variable {opened : Position Char} {rest text : List Char}
  {groups : Groups Char}

/-- What follows the port, behind which the group of host and port ends. -/
def afterPort (opened position : Position Char) : Option Matched :=
  run endingRegex (position.close 6 opened) finish

/-- What follows the host, behind which its group ends. -/
def afterHost (opened position : Position Char) : Option Matched :=
  run portRegex (position.close 7 opened) (afterPort opened)

theorem afterPort_eq :
    afterPort opened ⟨rest, groups⟩ =
      (scanEnding rest).map fun topic =>
        ⟨some (opened.rest.take (opened.rest.length - rest.length)),
          groups 7, groups 10, matchedTopic topic (groups 11)⟩ :=
  run_endingRegex

theorem run_portRegex_afterPort :
    run portRegex ⟨rest, groups⟩ (afterPort opened) =
      (splitPort rest).bind fun (port, rest') =>
        afterPort opened ⟨rest', portGroups groups port⟩ := by
  apply run_portRegex
  · intro digit rest groups others isDigit failed
    rw [afterPort_eq, Option.map_eq_none_iff] at failed ⊢
    exact scanEnding_cons_of_none (isTopicLetter_of_isDigit isDigit) failed
  · intro rest groups
    rw [afterPort_eq]
    rfl

theorem afterHost_eq_none_iff :
    afterHost opened ⟨rest, groups⟩ = none ↔ scanPort rest = none := by
  rw [afterHost, Position.close, run_portRegex_afterPort, scanPort]
  rcases splitPort rest with _ | ⟨port, rest'⟩
  · exact iff_of_true rfl rfl
  · dsimp only [Option.bind_some]
    rw [afterPort_eq, Option.map_eq_none_iff, Option.map_eq_none_iff]

theorem afterHost_prefers :
    PrefersLongRuns isHostLetter (afterHost opened) := by
  intro first rest groups host failed
  rw [afterHost_eq_none_iff] at failed ⊢
  exact scanPort_cons_of_none host failed

theorem afterHost_ignores : Ignores 8 (afterHost opened) := by
  intro rest groups run_
  rw [afterHost, afterHost, Position.close, Position.close,
    run_portRegex_afterPort, run_portRegex_afterPort]
  congr 1
  funext split_
  rcases split_ with ⟨_ | digits, rest'⟩
  · dsimp only
    rw [afterPort_eq, afterPort_eq]
    rfl
  · dsimp only
    rw [afterPort_eq, afterPort_eq]
    rfl

/-- The host takes every letter that it can take. -/
theorem run_hostPortRegex :
    run (group 6 hostPortRegex) ⟨text, groups⟩
        (fun after => run endingRegex after finish) =
      (scanHost text).map fun found => found.matched groups := by
  have ran :
      run (group 6 hostPortRegex) ⟨text, groups⟩
          (fun after => run endingRegex after finish) =
        run (plus (group 8 (plus (letter isHostLetter)))) ⟨text, groups⟩
          (afterHost ⟨text, groups⟩) :=
    rfl
  rw [ran, run_plus_runs afterHost_prefers afterHost_ignores, scanHost]
  dsimp only
  split
  · rfl
  · rw [afterHost, Position.close_dropWhile, run_portRegex_afterPort,
      scanPort]
    cases ported : splitPort (text.dropWhile isHostLetter) with
    | none => rfl
    | some split_ =>
        rcases split_ with ⟨port, rest⟩
        dsimp only [Option.bind_some]
        have between :
            text =
              (text.takeWhile isHostLetter ++ portText port) ++ rest := by
          rw [List.append_assoc, ← (splitPort_iff.mp ported).1,
            List.takeWhile_append_dropWhile]
        rw [afterPort, Position.close_of_append 6 between, run_endingRegex]
        cases scanEnding rest with
        | none => rfl
        | some topic =>
            cases port with
            | none => rfl
            | some digits => rfl

end Host

/-! ## The scheme and the white space in front -/

section Front

variable {text : List Char} {groups : Groups Char}

/-- The expression without the white space in front of it. -/
def bodyRegex : Regex Char :=
  all
    [group 1 schemeRegex, group 6 hostPortRegex,
      optional (letter fun read => read = '/'),
      optional (group 11 (plus (letter isTopicLetter))),
      star (letter isSpace)]

/-- What follows the scheme. -/
def afterScheme (position : Position Char) : Option Matched :=
  run (group 6 hostPortRegex) position fun after =>
    run endingRegex after finish

theorem afterScheme_eq :
    afterScheme ⟨text, groups⟩ =
      (scanHost text).map fun found => found.matched groups :=
  run_hostPortRegex

theorem not_slashes_of_host
    (host : ¬ (text.takeWhile isHostLetter).isEmpty = true) :
    ¬ "//".toList.isPrefixOf text = true := by
  intro slashes
  rcases List.isPrefixOf_iff_prefix.mp slashes with ⟨rest, rfl⟩
  exact host rfl

/-- A scheme with its colon and its slashes. -/
theorem run_scheme :
    run (group 2
          (sequence (group 3 (plus (letter isHostLetter)))
            (word "://".toList))) ⟨text, groups⟩
        (fun after => afterScheme (after.close 1 ⟨text, groups⟩)) =
      if !(text.takeWhile isHostLetter).isEmpty &&
          "://".toList.isPrefixOf (text.dropWhile isHostLetter) then
        (scanHost ((text.dropWhile isHostLetter).drop 3)).map fun found =>
          found.matched groups
      else
        none := by
  rw [run_group, run_sequence, run_group, run_plus_letter]
  · cases nothing : (text.takeWhile isHostLetter).isEmpty with
    | true => rfl
    | false =>
        dsimp only
        rw [if_neg Bool.false_ne_true, Position.close_dropWhile, run_word,
          Bool.not_false, Bool.true_and]
        split
        · dsimp only [Position.close]
          rw [afterScheme_eq]
          rfl
        · rfl
  · intro first rest others host _
    dsimp only [Position.close]
    rw [run_word, if_neg]
    intro isPrefix_
    rcases List.isPrefixOf_iff_prefix.mp isPrefix_ with ⟨_, same⟩
    cases same
    exact absurd host (by decide)

theorem run_bodyRegex :
    run bodyRegex ⟨text, groups⟩ finish =
      (scanBody text).map fun found => found.matched groups := by
  have ran :
      run bodyRegex ⟨text, groups⟩ finish =
        (run (group 2
              (sequence (group 3 (plus (letter isHostLetter)))
                (word "://".toList))) ⟨text, groups⟩
            (fun after => afterScheme (after.close 1 ⟨text, groups⟩))).or
          ((run (group 4 (word "//".toList)) ⟨text, groups⟩
            (fun after => afterScheme (after.close 1 ⟨text, groups⟩))).or
              (run (group 5 empty) ⟨text, groups⟩
                (fun after =>
                  afterScheme (after.close 1 ⟨text, groups⟩)))) :=
    rfl
  have slashes :
      run (group 4 (word "//".toList)) ⟨text, groups⟩
          (fun after => afterScheme (after.close 1 ⟨text, groups⟩)) =
        if "//".toList.isPrefixOf text then
          (scanHost (text.drop 2)).map fun found => found.matched groups
        else
          none := by
    rw [run_group, run_word]
    dsimp only [Position.close]
    rw [afterScheme_eq]
    rfl
  have neither :
      run (group 5 empty) ⟨text, groups⟩
          (fun after => afterScheme (after.close 1 ⟨text, groups⟩)) =
        (scanHost text).map fun found => found.matched groups :=
    afterScheme_eq
  rw [ran, run_scheme, slashes, neither, scanBody, dropScheme]
  by_cases scheme :
      (!(text.takeWhile isHostLetter).isEmpty &&
        "://".toList.isPrefixOf (text.dropWhile isHostLetter)) = true
  · rw [if_pos scheme, if_pos scheme]
    rw [Bool.and_eq_true, Bool.not_eq_true'] at scheme
    rw [if_neg (not_slashes_of_host (Bool.eq_false_iff.mp scheme.1)),
      scanHost_of_scheme scheme.2]
    exact Option.or_none
  · rw [if_neg scheme, if_neg scheme, Option.none_or]
    split
    · rename_i isSlashes
      rw [scanHost_of_slashes isSlashes]
      exact Option.or_none
    · rfl

/-- White space is given back letter by letter while the rest fails. -/
theorem run_leading :
    run (star (letter isSpace)) ⟨text, groups⟩
        (fun after => run bodyRegex after finish) =
      (scan text).map fun found => found.matched groups := by
  induction text with
  | nil => exact run_star_nil.trans run_bodyRegex
  | cons first rest induction =>
      rw [run_star_letter_cons, run_bodyRegex, induction, scan]
      split
      · rw [Option.map_or]
      · rfl

end Front

/-- The groups of the first match are the parts that the scan finds. -/
theorem map_fullMatch (text : List Char) :
    (fullMatch regex text).map matchedOf =
      (scan text).map fun found => found.matched fun _ => none := by
  rw [← run_leading, fullMatch, ← run_map]
  rfl

/-! ## What is parsed -/

section Parse

variable {text : String} {found : Found}

/-- The assignments with the parts that were found. -/
def URI.assign (uri : URI) (found : Found) : Parsed :=
  let uri :=
    { uri with
      hostPort := String.ofList (found.host ++ portText found.port)
      host := String.ofList found.host }
  match found.port with
  | none => { uri := uri.assignTopic (matchedTopic found.topic none) }
  | some digits =>
      match stoi digits with
      | none => { uri, thrown := some .outOfRange }
      | some port =>
          { uri :=
              { uri with port := UInt32.ofNat port }.assignTopic
                (matchedTopic found.topic none) }

theorem parse_empty (uri : URI) : uri.parse "" = { uri } :=
  rfl

theorem parse_of_none
    (uri : URI) (something : text ≠ "") (failed : scan text.toList = none) :
    uri.parse text =
      { uri
        thrown :=
          some (.runtimeError
            ("Unable to extract host from the URI: \"" ++ text ++
              "\".")) } := by
  have unmatched : fullMatch regex text.toList = none := by
    have mapped := map_fullMatch text.toList
    rw [failed] at mapped
    exact Option.map_eq_none_iff.mp mapped
  rw [URI.parse, if_neg, unmatched]
  · rfl
  · rw [String.isEmpty_iff]
    exact something

theorem parse_of_found
    (uri : URI) (something : text ≠ "") (chosen : scan text.toList = some found) :
    uri.parse text = uri.assign found := by
  have mapped := map_fullMatch text.toList
  rw [chosen] at mapped
  rcases Option.map_eq_some_iff.mp mapped with ⟨groups, matched, same⟩
  have hostPort : groups 6 = some (found.host ++ portText found.port) :=
    congrArg Matched.hostPort same
  have host : groups 7 = some found.host := congrArg Matched.host same
  have port : groups 10 = found.port :=
    (congrArg Matched.port same).trans Option.or_none
  have topic : groups 11 = matchedTopic found.topic none :=
    congrArg Matched.topic same
  rw [URI.parse, if_neg, matched]
  · dsimp only [Option.getD_some]
    rw [hostPort, host, port, topic]
    rfl
  · rw [String.isEmpty_iff]
    exact something

end Parse

end KafkaToNexus.Uri
