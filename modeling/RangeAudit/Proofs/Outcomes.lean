namespace RangeAudit

/-!
# Results that may be errors

* `Except.isOk_iff_exists_eq_ok`, `Except.toOption_eq_some` — when a result is a value, and which one;
* `Except.bind_eq_ok_iff`, `Except.mapM_eq_ok_iff` — when one step after another succeeds.
-/

/-- A result that is no error is a value. -/
theorem Except.isOk_iff_exists_eq_ok {result : Except ε α} :
    result.isOk = true ↔ ∃ x, result = .ok x := by
  cases result <;> simp [Except.isOk, Except.toBool]

/-- A result is a value if and only if the value is all that is kept of it. -/
theorem Except.toOption_eq_some {result : Except ε α} {x : α} :
    result.toOption = some x ↔ result = .ok x := by
  cases result <;> simp [Except.toOption]

/-- Two steps succeed if the first one does, and the second one with what it has brought. -/
theorem Except.bind_eq_ok_iff {first : Except ε α} {next : α → Except ε β} {y : β} :
    first >>= next = .ok y ↔ ∃ x, first = .ok x ∧ next x = .ok y := by
  cases first <;> simp [bind, Except.bind]

/-- Steps for the elements of a list succeed together if and only if each of them does. -/
theorem Except.mapM_eq_ok_iff {f : α → Except ε β} {xs : List α} {ys : List β} :
    xs.mapM f = .ok ys ↔ xs.map f = ys.map .ok := by
  induction xs generalizing ys with
  | nil => cases ys <;> simp [pure, Except.pure]
  | cons x xs ih =>
    rw [List.mapM_cons, List.map_cons]
    cases hx : f x with
    | error e => cases ys <;> simp [bind, Except.bind]
    | ok y =>
      cases ys with
      | nil => cases xs.mapM f <;> simp [bind, Except.bind, pure, Except.pure]
      | cons other rest =>
        rw [List.map_cons, List.cons_eq_cons, ← ih]
        cases xs.mapM f <;> simp [bind, Except.bind, pure, Except.pure]

end RangeAudit
