/-!
# Results of steps that can fail

A chain of steps succeeds exactly if each of its steps does.
-/

namespace OperatorConsole

variable {ε α β : Type}

theorem exists_eq_ok {result : Except ε α}
    (succeeds : result.toOption.isSome = true) :
    ∃ value, result = .ok value := by
  cases result with
  | error fault => cases succeeds
  | ok value => exact ⟨value, rfl⟩

instance decidableEqOk (result : Except ε α) :
    Decidable (∃ value, result = .ok value) :=
  match result with
  | .error _ => .isFalse fun ⟨_, failed⟩ => by cases failed
  | .ok value => .isTrue ⟨value, rfl⟩

theorem exists_eq_error {result : Except ε α}
    (fails : ¬∃ value, result = .ok value) :
    ∃ fault, result = .error fault := by
  cases result with
  | error fault => exact ⟨fault, rfl⟩
  | ok value => exact absurd ⟨value, rfl⟩ fails

theorem toOption_eq_some_iff {result : Except ε α} {value : α} :
    result.toOption = some value ↔ result = .ok value := by
  cases result with
  | error fault =>
      constructor
      · intro failed
        cases failed
      · intro failed
        cases failed
  | ok other =>
      constructor
      · exact fun same => congrArg Except.ok (Option.some.inj same)
      · exact fun same => congrArg some (Except.ok.inj same)

theorem bind_eq_ok {first : Except ε α} {next : α → Except ε β} {result : β} :
    (first >>= next) = .ok result ↔
      ∃ value, first = .ok value ∧ next value = .ok result := by
  cases first with
  | error fault =>
      constructor
      · intro failed
        cases failed
      · rintro ⟨_, failed, _⟩
        cases failed
  | ok value =>
      constructor
      · exact fun succeeds => ⟨value, rfl, succeeds⟩
      · rintro ⟨_, same, succeeds⟩
        cases same
        exact succeeds

theorem bind_eq_error {first : Except ε α} {next : α → Except ε β}
    {fault : ε} :
    (first >>= next) = .error fault ↔
      first = .error fault ∨
        ∃ value, first = .ok value ∧ next value = .error fault := by
  cases first with
  | error other =>
      constructor
      · intro failed
        exact .inl (congrArg Except.error (Except.error.inj failed))
      · rintro (failed | ⟨_, succeeds, _⟩)
        · cases failed
          rfl
        · cases succeeds
  | ok value =>
      constructor
      · exact fun failed => .inr ⟨value, rfl, failed⟩
      · rintro (failed | ⟨_, same, failed⟩)
        · cases failed
        · cases same
          exact failed

theorem map_eq_ok {first : Except ε α} {f : α → β} {result : β} :
    first.map f = .ok result ↔ ∃ value, first = .ok value ∧ f value = result := by
  cases first with
  | error fault =>
      constructor
      · intro failed
        cases failed
      · rintro ⟨_, failed, _⟩
        cases failed
  | ok value =>
      constructor
      · exact fun same => ⟨value, rfl, Except.ok.inj same⟩
      · rintro ⟨_, same, rfl⟩
        cases same
        rfl

theorem mapError_eq_ok {δ : Type} {first : Except ε α} {f : ε → δ}
    {result : α} : first.mapError f = .ok result ↔ first = .ok result := by
  cases first with
  | error fault =>
      constructor
      · intro failed
        cases failed
      · intro failed
        cases failed
  | ok value =>
      constructor
      · exact fun same => congrArg Except.ok (Except.ok.inj same)
      · exact fun same => congrArg Except.ok (Except.ok.inj same)

theorem mapError_eq_error {δ : Type} {first : Except ε α} {f : ε → δ}
    {result : δ} :
    first.mapError f = .error result ↔
      ∃ fault, first = .error fault ∧ f fault = result := by
  cases first with
  | error fault =>
      constructor
      · exact fun same => ⟨fault, rfl, Except.error.inj same⟩
      · rintro ⟨_, same, rfl⟩
        cases same
        rfl
  | ok value =>
      constructor
      · intro failed
        cases failed
      · rintro ⟨_, failed, _⟩
        cases failed

end OperatorConsole
