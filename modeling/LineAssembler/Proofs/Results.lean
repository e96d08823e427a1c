/-!
# Results of computations

A computation has a value or fails. When a computation in one or two steps has a given
result, in terms of the results of its steps.
-/

namespace LineAssembler

/-- Mapping the result of a computation keeps its success. -/
theorem exceptMap_eq_ok_iff {ε α β : Type} (result : Except ε α) (f : α → β) (value : β) :
    result.map f = .ok value ↔ ∃ inner, result = .ok inner ∧ f inner = value := by
  cases result <;> simp [Except.map]

/-- Mapping the result of a computation keeps its failure. -/
theorem exceptMap_eq_error_iff {ε α β : Type} (result : Except ε α) (f : α → β) (failure : ε) :
    result.map f = .error failure ↔ result = .error failure := by
  cases result <;> simp [Except.map]

/-- The value and the failure of a computation are mapped apart from each other. -/
theorem exceptMapError_map {ε δ α β : Type} (result : Except ε α) (f : α → β) (g : ε → δ) :
    (result.map f).mapError g = (result.mapError g).map f := by
  cases result <;> rfl

/-- The failure of a computation in two steps is that of one of the steps. -/
theorem exceptMapError_bind {ε δ α β : Type} (result : Except ε α) (f : α → Except ε β)
    (g : ε → δ) :
    (result.bind f).mapError g = (result.mapError g).bind fun inner => (f inner).mapError g := by
  cases result <;> rfl

/-- A computation in two steps succeeds exactly when both steps do. -/
theorem exceptBind_eq_ok_iff {ε α β : Type} (result : Except ε α) (f : α → Except ε β) (value : β) :
    result.bind f = .ok value ↔ ∃ inner, result = .ok inner ∧ f inner = .ok value := by
  cases result <;> simp [Except.bind]

/-- A computation in two steps fails exactly when its first step fails, or when
the second step fails after it. -/
theorem exceptBind_eq_error_iff {ε α β : Type} (result : Except ε α) (f : α → Except ε β)
    (failure : ε) :
    result.bind f = .error failure ↔
      result = .error failure ∨ ∃ inner, result = .ok inner ∧ f inner = .error failure := by
  cases result <;> simp [Except.bind]

/-- Computations with the same values have the same value, if any. Their
failures may differ, also in type. -/
theorem toOption_congr {ε δ α : Type} {left : Except ε α} {right : Except δ α}
    (same : ∀ value, left = .ok value ↔ right = .ok value) : left.toOption = right.toOption := by
  cases left with
  | ok value => rw [(same value).mp rfl]; rfl
  | error failure =>
    cases right with
    | ok value => exact absurd ((same value).mpr rfl) (by simp)
    | error => rfl

/-- A computation that is known to succeed or to fail in one of some ways fails
in exactly those ways. -/
theorem exceptEq_error_iff {ε α : Type} {result : Except ε α} {means : α → Prop}
    {fails : ε → Prop} (ok : ∀ value, means value → result = .ok value)
    (error : ∀ failure, fails failure → result = .error failure)
    (complete : (∃ value, means value) ∨ ∃ failure, fails failure) (failure : ε) :
    result = .error failure ↔ fails failure := by
  constructor
  · intro failed
    rcases complete with ⟨value, meant⟩ | ⟨other, found⟩
    · rw [ok value meant] at failed
      contradiction
    · obtain rfl := Except.error.inj (failed.symm.trans (error other found))
      exact found
  · exact error failure

end LineAssembler
