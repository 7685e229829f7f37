import Mathlib

/-!
# Stores into a buffer

A store behind the end of a buffer is no store: the program has no defined meaning from there on.

* `storeAt`, `storeAll`: one store, and several at consecutive places.
* `storeAll_append`: stores behind what is written extend it, and use up what is left.
* `storeAt_append`: the next place.
-/

namespace AsynCS

variable {α : Type*}

/-- A store inside the buffer. -/
def storeAt (out : List α) (j : ℕ) (x : α) : Option (List α) :=
  if j < out.length then some (out.set j x) else none

/-- Stores at consecutive places. -/
def storeAll : List α → ℕ → List α → Option (List α)
  | out, _, [] => some out
  | out, j, x :: xs => (storeAt out j x).bind fun out => storeAll out (j + 1) xs

/-- A store at a place of the buffer. -/
theorem storeAt_append (written : List α) (y x : α) (old : List α) :
    storeAt (written ++ y :: old) written.length x = some (written ++ x :: old) := by
  rw [storeAt, if_pos (by simp), List.set_append_right _ _ le_rfl, Nat.sub_self, List.set_cons_zero]

/-- **Stores** behind what is written. -/
theorem storeAll_append (written xs old : List α) (h : xs.length ≤ old.length) :
    storeAll (written ++ old) written.length xs =
      some (written ++ xs ++ old.drop xs.length) := by
  induction xs generalizing written old with
  | nil => rw [storeAll, List.append_nil, List.length_nil, List.drop_zero]
  | cons x xs ih =>
    cases old with
    | nil => exact absurd h (by simp)
    | cons y old =>
      have hrest := ih (written ++ [x]) old (by simpa using h)
      rw [List.length_append, List.length_singleton, List.append_assoc] at hrest
      rw [storeAll, storeAt_append, Option.bind_some]
      simpa only [List.append_assoc, List.singleton_append, List.cons_append, List.nil_append,
        List.length_cons, List.drop_succ_cons] using hrest

end AsynCS
