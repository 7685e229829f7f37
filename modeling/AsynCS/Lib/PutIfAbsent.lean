import Mathlib

/-!
# Maps that are written once

`putIfAbsent` writes to a key of a map that holds nothing yet, and says whether it did.

* `putIfAbsent_of_some`, `putIfAbsent_of_none`: the two cases.
* `putIfAbsent_apply`: the map after a put, key by key.
* `putIfAbsent_keeps`: a put changes nothing that is there.
-/

namespace AsynCS

variable {κ α : Type*} [DecidableEq κ]

/-- Write `a` for `k` unless there is something already; the flag says whether it was written. -/
def putIfAbsent (m : κ → Option α) (k : κ) (a : α) : (κ → Option α) × Bool :=
  match m k with
  | some _ => (m, false)
  | none => (Function.update m k (some a), true)

variable {m : κ → Option α} {k : κ}

theorem putIfAbsent_of_some {a old : α} (h : m k = some old) : putIfAbsent m k a = (m, false) := by
  rw [putIfAbsent, h]

theorem putIfAbsent_of_none {a : α} (h : m k = none) :
    putIfAbsent m k a = (Function.update m k (some a), true) := by
  rw [putIfAbsent, h]

/-- What a put returns says whether the key was free. -/
theorem putIfAbsent_snd (m : κ → Option α) (k : κ) (a : α) :
    (putIfAbsent m k a).2 = (m k).isNone := by
  cases h : m k with
  | none =>
    rw [putIfAbsent_of_none h]
    rfl
  | some old =>
    rw [putIfAbsent_of_some h]
    rfl

/-- **The map after a put**: what was there stays, and the key that was free is filled. -/
theorem putIfAbsent_apply (m : κ → Option α) (k : κ) (a : α) (k' : κ) :
    (putIfAbsent m k a).1 k' = (m k').or (if k' = k then some a else none) := by
  cases h : m k with
  | some old =>
    have hput : (putIfAbsent m k a).1 k' = m k' := by rw [putIfAbsent_of_some h]
    rw [hput]
    by_cases hk : k' = k
    · rw [hk, h, Option.some_or]
    · rw [if_neg hk, Option.or_none]
  | none =>
    have hput : (putIfAbsent m k a).1 k' = Function.update m k (some a) k' := by
      rw [putIfAbsent_of_none h]
    rw [hput]
    by_cases hk : k' = k
    · subst hk
      rw [Function.update_self, h, if_pos rfl, Option.none_or]
    · rw [Function.update_of_ne hk, if_neg hk, Option.or_none]

/-- **First writer wins**: a put changes nothing that is there. -/
theorem putIfAbsent_keeps {a old : α} {k' : κ} (h : m k' = some old) :
    (putIfAbsent m k a).1 k' = some old := by
  rw [putIfAbsent_apply, h, Option.some_or]

end AsynCS
