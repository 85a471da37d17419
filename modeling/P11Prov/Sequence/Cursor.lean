import Mathlib.Data.List.Basic

/-!
# Cursors

A cursor goes along a list and stops after every element that fits. `nextFit p l`
is the element it finds on the part `l` of the list that is left, and the number
of elements it passes up to and including it.

* `filter_take_nextFit`: what it passes holds the element found and no other that fits;
* `nextFit_pos`: it passes an element if there is one, so it gets to the end.
-/

variable {α : Type} (p : α → Bool)

/-- The first element that fits, and the number of elements passed. -/
def nextFit : List α → Option α × Nat
  | [] => (none, 0)
  | a :: l => if p a then (some a, 1) else ((nextFit l).1, (nextFit l).2 + 1)

variable {p} {l : List α}

theorem filter_take_nextFit : (l.take (nextFit p l).2).filter p = (nextFit p l).1.toList := by
  induction l with
  | nil => rfl
  | cons a l ih =>
    rw [nextFit]
    by_cases h : p a = true
    · rw [if_pos h]
      simp [h]
    · rw [if_neg h, List.take_succ_cons, List.filter_cons, if_neg h, ih]

theorem nextFit_pos (h : l ≠ []) : 0 < (nextFit p l).2 := by
  cases l with
  | nil => exact absurd rfl h
  | cons a l =>
    rw [nextFit]
    split
    · exact Nat.one_pos
    · exact Nat.succ_pos _

theorem nextFit_le : (nextFit p l).2 ≤ l.length := by
  induction l with
  | nil => exact Nat.le_refl _
  | cons a l ih =>
    rw [nextFit]
    split
    · exact Nat.succ_le_succ (Nat.zero_le _)
    · exact Nat.succ_le_succ ih
