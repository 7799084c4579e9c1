import Mathlib.Tactic.TypeStar

/-!
# Code that returns a value or throws

What is known of the pieces of code that was put together from pieces that may
throw, once it has returned.
-/

namespace KafkaToNexus.Foundations.Fallible

universe u v

variable {Failure : Type u} {Value Result : Type v}
  {first : Except Failure Value} {result : Result}

/-- Code in sequence returns when each part does. -/
theorem bind_eq_ok {next : Value → Except Failure Result} :
    (first >>= next) = .ok result ↔
      ∃ value, first = .ok value ∧ next value = .ok result := by
  cases first with
  | error failure =>
      constructor
      · exact fun returned => nomatch returned
      · rintro ⟨_, ⟨⟩, _⟩
  | ok value =>
      constructor
      · exact fun returned => ⟨value, rfl, returned⟩
      · rintro ⟨_, ⟨⟩, returned⟩
        exact returned

theorem map_eq_ok {change : Value → Result} :
    first.map change = .ok result ↔
      ∃ value, first = .ok value ∧ change value = result := by
  cases first with
  | error failure =>
      constructor
      · exact fun returned => nomatch returned
      · rintro ⟨_, ⟨⟩, _⟩
  | ok value =>
      constructor
      · exact fun returned => ⟨value, rfl, Except.ok.inj returned⟩
      · rintro ⟨_, ⟨⟩, returned⟩
        exact congrArg Except.ok returned

/--
What holds of every returned value exactly under a condition holds exactly when
the code throws or the condition is met.
-/
theorem forall_ok_iff {Value : Type v} {outcome : Except Failure Value}
    {property : Value → Prop} {condition : Prop}
    (exactly : ∀ {value}, outcome = .ok value → (property value ↔ condition)) :
    (∀ value, outcome = .ok value → property value) ↔
      (∃ failure, outcome = .error failure) ∨ condition := by
  cases outcome with
  | error failure =>
      constructor
      · exact fun _ => .inl ⟨failure, rfl⟩
      · rintro _ value ⟨⟩
  | ok value =>
      constructor
      · intro holds
        exact .inr ((exactly rfl).mp (holds value rfl))
      · rintro (⟨failure, ⟨⟩⟩ | met) _ ⟨⟩
        exact (exactly rfl).mpr met

end KafkaToNexus.Foundations.Fallible
