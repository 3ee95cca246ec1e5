import GrammarRules.Rule.Error

/-!
# Computations that may fail

What the parts of a computation in `Except` have done when the whole succeeds, and which check of a
series makes it fail.
-/

namespace GrammarRules

theorem exists_of_bind_eq_ok {ε α β : Type} {x : Except ε α} {f : α → Except ε β} {b : β}
    (h : x >>= f = .ok b) : ∃ a, x = .ok a ∧ f a = .ok b := by
  cases x with
  | ok a => exact ⟨a, rfl, h⟩
  | error e => cases h

/-- A series of checks fails at the first item that does not pass. -/
theorem forM_eq_find? {ε α : Type} {check : α → Except ε Unit} {passes : α → Bool} {fault : α → ε}
    (xs : List α) (h : ∀ x ∈ xs, check x = if passes x then .ok () else .error (fault x)) :
    xs.forM check =
      match xs.find? fun x => !passes x with
      | none => .ok ()
      | some x => .error (fault x) := by
  induction xs with
  | nil => rfl
  | cons x xs ih =>
    have hrest := ih fun y hy => h y (List.mem_cons_of_mem _ hy)
    show (check x >>= fun _ => xs.forM check) = _
    rw [h x List.mem_cons_self, List.find?_cons]
    cases passes x with
    | true => exact hrest
    | false => rfl

end GrammarRules
