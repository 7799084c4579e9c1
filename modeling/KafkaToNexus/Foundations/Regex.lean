import Mathlib.Data.List.DropRight
import Mathlib.Logic.Function.Basic

/-!
# Regular expressions with backtracking

An expression is matched against the front of a text, and what follows the
match decides whether it is kept.  The alternatives are tried in a fixed order:
the first branch of a choice before the second one, one more iteration of a
repetition before its end.  What is returned is what the first way to match
gives, so the texts of the groups depend on the order and not only on the
language of the expression.

A repetition of single letters tries every shorter run after the longest one.
Where what follows never succeeds after a shorter run only, the longest run is
the one that counts; this is the one argument about the order that the rules
below need.
-/

namespace KafkaToNexus.Foundations

/-- Regular expressions whose groups have numbers. -/
inductive Regex (Letter : Type*) where
  /-- The expression of the empty text. -/
  | empty
  /-- One letter out of a class. -/
  | letter (accepts : Letter → Bool)
  | sequence (first second : Regex Letter)
  /-- The first branch, or else the second one. -/
  | choice (first second : Regex Letter)
  /-- As many iterations as possible. -/
  | star (body : Regex Letter)
  | group (index : Nat) (body : Regex Letter)

namespace Regex

variable {Letter Result Final : Type*}

/-- At least one iteration. -/
def plus (body : Regex Letter) : Regex Letter :=
  sequence body (star body)

/-- The expression, or else nothing. -/
def optional (body : Regex Letter) : Regex Letter :=
  choice body empty

/-- One expression after the other. -/
def all : List (Regex Letter) → Regex Letter
  | [] => empty
  | first :: rest => sequence first (all rest)

/-- A fixed text. -/
def word [DecidableEq Letter] : List Letter → Regex Letter
  | [] => empty
  | first :: rest => sequence (letter fun read => read = first) (word rest)

/-- The texts that the groups have matched last. -/
abbrev Groups (Letter : Type*) := Nat → Option (List Letter)

/-- How far a match has come. -/
structure Position (Letter : Type*) where
  rest : List Letter
  groups : Groups Letter

/-- The position at the end of a group that was opened at another one. -/
def Position.close
    (position : Position Letter) (index : Nat) (opened : Position Letter) :
    Position Letter :=
  { position with
    groups :=
      Function.update position.groups index
        (some (opened.rest.take
          (opened.rest.length - position.rest.length))) }

/-- The text of a group is what lies between its two positions. -/
theorem Position.close_of_append
    {position opened : Position Letter} (index : Nat) {text : List Letter}
    (between : opened.rest = text ++ position.rest) :
    position.close index opened =
      ⟨position.rest,
        Function.update position.groups index (some text)⟩ := by
  have taken :
      opened.rest.take (opened.rest.length - position.rest.length) =
        text := by
    rw [between, List.length_append, Nat.add_sub_cancel, List.take_left]
  rw [Position.close, taken]

/-- The text of a group that is a run of letters. -/
theorem Position.close_dropWhile
    (accepts : Letter → Bool) (index : Nat) (text : List Letter)
    (groups opened : Groups Letter) :
    Position.close ⟨text.dropWhile accepts, groups⟩ index ⟨text, opened⟩ =
      ⟨text.dropWhile accepts,
        Function.update groups index (some (text.takeWhile accepts))⟩ :=
  Position.close_of_append index List.takeWhile_append_dropWhile.symm

/--
The iterations of a repetition, at most as many as there is fuel.  An iteration
that has matched nothing is not kept.
-/
def iterate
    (body :
      Position Letter → (Position Letter → Option Result) → Option Result) :
    Nat → Position Letter → (Position Letter → Option Result) → Option Result
  | 0, position, next => next position
  | fuel + 1, position, next =>
      (body position fun after =>
        if after.rest.length < position.rest.length then
          iterate body fuel after next
        else
          none).or (next position)

/-- Match the expression and go on with what is next. -/
def run :
    Regex Letter → Position Letter → (Position Letter → Option Result) →
      Option Result
  | .empty, position, next => next position
  | .letter accepts, position, next =>
      match position.rest with
      | [] => none
      | first :: rest =>
          if accepts first then next { position with rest } else none
  | .sequence first second, position, next =>
      run first position fun after => run second after next
  | .choice first second, position, next =>
      (run first position next).or (run second position next)
  | .star body, position, next =>
      iterate (run body) position.rest.length position next
  | .group index body, position, next =>
      run body position fun after => next (after.close index position)

/-- Whether the whole text has been matched. -/
def atEnd (position : Position Letter) : Option (Groups Letter) :=
  if position.rest.isEmpty then some position.groups else none

/-- The groups of the first way to match the whole text. -/
def fullMatch (regex : Regex Letter) (text : List Letter) :
    Option (Groups Letter) :=
  run regex ⟨text, fun _ => none⟩ atEnd

/-! ## What follows a match -/

/-- What is done with the result has no influence on the match. -/
theorem run_map
    (regex : Regex Letter) (change : Result → Final)
    (position : Position Letter) (next : Position Letter → Option Result) :
    run regex position (fun after => (next after).map change) =
      (run regex position next).map change := by
  induction regex generalizing position next with
  | empty => rfl
  | letter accepts =>
      rcases position with ⟨_ | ⟨first, rest⟩, groups⟩
      · rfl
      · dsimp only [run]
        split
        · rfl
        · rfl
  | sequence first second inFirst inSecond =>
      dsimp only [run]
      rw [← inFirst]
      congr 1
      funext after
      exact inSecond after next
  | choice first second inFirst inSecond =>
      dsimp only [run]
      rw [inFirst, inSecond, Option.map_or]
  | star body inBody =>
      dsimp only [run]
      generalize position.rest.length = fuel
      induction fuel generalizing position with
      | zero => rfl
      | succ fuel induction =>
          rw [iterate, iterate, Option.map_or, ← inBody]
          congr 2
          funext after
          split
          · exact induction after
          · rfl
  | group index body inBody =>
      dsimp only [run]
      exact inBody position fun after => next (after.close index position)

/-- Nothing matches where what follows never succeeds. -/
theorem run_none (regex : Regex Letter) (position : Position Letter) :
    run regex position (fun _ => (none : Option Result)) = none := by
  have same :
      run regex position (fun _ => (none : Option Result)) =
        (run regex position fun _ => (none : Option Empty)).map Empty.elim :=
    run_map regex Empty.elim position fun _ => none
  rw [same]
  cases run regex position fun _ => (none : Option Empty) with
  | none => rfl
  | some impossible => exact impossible.elim

section Rules

variable {accepts : Letter → Bool} {position : Position Letter}
  {next : Position Letter → Option Result}

theorem run_sequence {first second : Regex Letter} :
    run (sequence first second) position next =
      run first position fun after => run second after next :=
  rfl

theorem run_group {index : Nat} {body : Regex Letter} :
    run (group index body) position next =
      run body position fun after => next (after.close index position) :=
  rfl

theorem run_optional {body : Regex Letter} :
    run (optional body) position next =
      (run body position next).or (next position) :=
  rfl

theorem run_letter_nil {groups : Groups Letter} :
    run (letter accepts) ⟨[], groups⟩ next = none :=
  rfl

theorem run_letter_cons
    {first : Letter} {rest : List Letter} {groups : Groups Letter} :
    run (letter accepts) ⟨first :: rest, groups⟩ next =
      if accepts first then next ⟨rest, groups⟩ else none :=
  rfl

theorem run_word
    [DecidableEq Letter] {word_ text : List Letter} {groups : Groups Letter} :
    run (word word_) ⟨text, groups⟩ next =
      if word_.isPrefixOf text then
        next ⟨text.drop word_.length, groups⟩
      else
        none := by
  induction word_ generalizing text with
  | nil => rfl
  | cons first word_ induction =>
      cases text with
      | nil => rfl
      | cons other text =>
          rw [word, run_sequence, run_letter_cons, List.isPrefixOf]
          by_cases same : other = first
          · rw [if_pos (decide_eq_true same), induction, same, beq_self_eq_true,
              Bool.true_and]
            rfl
          · have different : (first == other) = false :=
              beq_eq_false_iff_ne.mpr (Ne.symm same)
            rw [if_neg (by rw [decide_eq_false same]; exact Bool.false_ne_true),
              different, Bool.false_and]
            rfl

theorem run_star_nil {body : Regex Letter} {groups : Groups Letter} :
    run (star body) ⟨[], groups⟩ next = next ⟨[], groups⟩ :=
  rfl

theorem iterate_of_end
    {body : Regex Letter} (fuel : Nat) (ended : position.rest.length = 0) :
    iterate (run body) fuel position next = next position := by
  cases fuel with
  | zero => rfl
  | succ fuel =>
      have never :
          (fun after : Position Letter =>
            if after.rest.length < position.rest.length then
              iterate (run body) fuel after next
            else
              none) = fun _ => none := by
        funext after
        rw [ended]
        exact if_neg (Nat.not_lt_zero _)
      rw [iterate, never, run_none]
      rfl

/-- Fuel for every letter of the text is enough fuel. -/
theorem iterate_of_le
    {body : Regex Letter} {fuel other : Nat}
    (enough : position.rest.length ≤ fuel)
    (alsoEnough : position.rest.length ≤ other) :
    iterate (run body) fuel position next =
      iterate (run body) other position next := by
  induction fuel generalizing position other with
  | zero =>
      have ended := Nat.le_zero.mp enough
      rw [iterate_of_end _ ended, iterate_of_end _ ended]
  | succ fuel induction =>
      cases other with
      | zero =>
          have ended := Nat.le_zero.mp alsoEnough
          rw [iterate_of_end _ ended, iterate_of_end _ ended]
      | succ other =>
          rw [iterate, iterate]
          congr 2
          funext after
          split
          · rename_i shorter
            apply induction
            · exact Nat.le_of_lt_succ (Nat.lt_of_lt_of_le shorter enough)
            · exact Nat.le_of_lt_succ (Nat.lt_of_lt_of_le shorter alsoEnough)
          · rfl

/-- One more iteration is tried before the repetition is ended. -/
theorem run_star {body : Regex Letter} :
    run (star body) position next =
      (run body position fun after =>
        if after.rest.length < position.rest.length then
          run (star body) after next
        else
          none).or (next position) := by
  have fueled :
      run (star body) position next =
        iterate (run body) (position.rest.length + 1) position next :=
    iterate_of_le (Nat.le_refl _) (Nat.le_succ _)
  rw [fueled, iterate]
  congr 2
  funext after
  split
  · rename_i shorter
    exact iterate_of_le (Nat.le_of_lt shorter) (Nat.le_refl _)
  · rfl

/-! ## Runs of letters -/

theorem run_star_letter_cons
    {first : Letter} {rest : List Letter} {groups : Groups Letter} :
    run (star (letter accepts)) ⟨first :: rest, groups⟩ next =
      if accepts first then
        (run (star (letter accepts)) ⟨rest, groups⟩ next).or
          (next ⟨first :: rest, groups⟩)
      else
        next ⟨first :: rest, groups⟩ := by
  rw [run_star, run_letter_cons]
  split
  · congr 1
    exact if_pos (Nat.lt_succ_self rest.length)
  · rfl

/--
What succeeds after a run of letters succeeds after a run that is longer by one
letter.
-/
def PrefersLongRuns
    (accepts : Letter → Bool) (next : Position Letter → Option Result) :
    Prop :=
  ∀ first rest groups, accepts first = true →
    next ⟨rest, groups⟩ = none → next ⟨first :: rest, groups⟩ = none

/-- Where a whole run is of no use, neither is what is left of the run. -/
theorem PrefersLongRuns.none_of_dropWhile
    (prefers : PrefersLongRuns accepts next)
    {text : List Letter} {groups : Groups Letter}
    (failed : next ⟨text.dropWhile accepts, groups⟩ = none) :
    next ⟨text, groups⟩ = none := by
  induction text with
  | nil => exact failed
  | cons first rest induction =>
      rw [List.dropWhile_cons] at failed
      split at failed
      · rename_i accepted
        exact prefers first rest groups accepted (induction failed)
      · exact failed

/-- A repetition takes the whole run if what follows prefers long runs. -/
theorem run_star_letter (prefers : PrefersLongRuns accepts next) :
    run (star (letter accepts)) position next =
      next ⟨position.rest.dropWhile accepts, position.groups⟩ := by
  rcases position with ⟨text, groups⟩
  induction text with
  | nil => exact run_star_nil
  | cons first rest induction =>
      rw [run_star_letter_cons]
      dsimp only at induction ⊢
      rw [List.dropWhile_cons]
      split
      · rename_i accepted
        rw [induction]
        cases after : next ⟨rest.dropWhile accepts, groups⟩ with
        | none =>
            exact prefers first rest groups accepted
              (prefers.none_of_dropWhile after)
        | some result => rfl
      · rfl

/-- A run has to have a letter. -/
theorem run_plus_letter (prefers : PrefersLongRuns accepts next) :
    run (plus (letter accepts)) position next =
      if (position.rest.takeWhile accepts).isEmpty then
        none
      else
        next ⟨position.rest.dropWhile accepts, position.groups⟩ := by
  rcases position with ⟨_ | ⟨first, rest⟩, groups⟩
  · rfl
  · rw [plus, run_sequence, run_letter_cons, List.takeWhile_cons,
      List.dropWhile_cons]
    split
    · rw [run_star_letter prefers]
      rfl
    · rfl

/-! ## Runs of runs -/

/-- The text of a group is not looked at by what follows. -/
def Ignores (index : Nat) (next : Position Letter → Option Result) : Prop :=
  ∀ rest groups text,
    next ⟨rest, Function.update groups index text⟩ = next ⟨rest, groups⟩

/--
A repetition of runs takes one run, if what follows prefers long runs and does
not look at the last run.
-/
theorem run_star_runs
    {index : Nat} (prefers : PrefersLongRuns accepts next)
    (ignores : Ignores index next) :
    run (star (group index (plus (letter accepts)))) position next =
      next ⟨position.rest.dropWhile accepts, position.groups⟩ := by
  induction size : position.rest.length using Nat.strongRecOn
    generalizing position with
  | _ size induction =>
      let onward : Position Letter → Option Result := fun after =>
        if after.rest.length < position.rest.length then
          next ⟨after.rest.dropWhile accepts, after.groups⟩
        else
          none
      have shortened :
          run (star (group index (plus (letter accepts)))) position next =
            (run (plus (letter accepts)) position onward).or
              (next position) := by
        rw [run_star, run_group]
        congr 2
        funext after
        dsimp only [onward]
        by_cases shorter : after.rest.length < position.rest.length
        · have closed : (after.close index position).rest = after.rest := rfl
          rw [if_pos shorter, if_pos (closed ▸ shorter),
            induction after.rest.length (size ▸ shorter)
              (congrArg List.length closed)]
          exact ignores _ _ _
        · rw [if_neg shorter]
          exact if_neg shorter
      have onwardPrefers : PrefersLongRuns accepts onward := by
        intro first rest groups accepted failed
        dsimp only [onward] at failed ⊢
        split
        · rename_i shorter
          rw [if_pos (Nat.lt_of_succ_lt shorter)] at failed
          rw [List.dropWhile_cons_of_pos accepted]
          exact failed
        · rfl
      rw [shortened, run_plus_letter onwardPrefers]
      split
      · rename_i nothing
        have kept := List.takeWhile_append_dropWhile (p := accepts)
          (l := position.rest)
        rw [List.isEmpty_iff.mp nothing, List.nil_append] at kept
        rw [kept]
        rfl
      · rename_i something
        have shorter :
            (position.rest.dropWhile accepts).length <
              position.rest.length := by
          have sum := congrArg List.length
            (List.takeWhile_append_dropWhile (p := accepts)
              (l := position.rest))
          rw [List.length_append] at sum
          rw [List.isEmpty_iff, ← List.length_eq_zero_iff] at something
          omega
        dsimp only [onward]
        rw [if_pos shorter, List.dropWhile_idempotent]
        cases after :
            next ⟨position.rest.dropWhile accepts, position.groups⟩ with
        | none => exact prefers.none_of_dropWhile after
        | some result => rfl

/-- One run at least has to be there. -/
theorem run_plus_runs
    {index : Nat} (prefers : PrefersLongRuns accepts next)
    (ignores : Ignores index next) :
    run (plus (group index (plus (letter accepts)))) position next =
      if (position.rest.takeWhile accepts).isEmpty then
        none
      else
        next ⟨position.rest.dropWhile accepts, position.groups⟩ := by
  have later :
      run (plus (group index (plus (letter accepts)))) position next =
        run (plus (letter accepts)) position fun after =>
          next ⟨after.rest.dropWhile accepts, after.groups⟩ := by
    rw [plus, run_sequence, run_group]
    congr 1
    funext after
    rw [run_star_runs prefers ignores]
    exact ignores _ _ _
  have laterPrefers :
      PrefersLongRuns accepts fun after =>
        next ⟨after.rest.dropWhile accepts, after.groups⟩ := by
    intro first rest groups accepted failed
    dsimp only
    rw [List.dropWhile_cons_of_pos accepted]
    exact failed
  rw [later, run_plus_letter laterPrefers, List.dropWhile_idempotent]

end Rules

end Regex

end KafkaToNexus.Foundations
