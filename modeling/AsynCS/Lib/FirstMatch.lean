import Mathlib

/-!
# Tables searched from the front

A table is a list of entries with a key; a search returns the first entry whose key matches,
and a write through the pointer it returned changes that entry in place.  Keys may repeat,
and then only the first entry of a key is ever seen.

* `lookup`: the first entry with a key, with `key_of_lookup`.
* `updateFirst`: write to that entry.  `lookup_updateFirst_self` and
  `lookup_updateFirst_of_ne` say what later searches see.
* `lookup_concat`: what a search sees after an entry was appended.
-/

namespace AsynCS
namespace FirstMatch

variable {κ ε : Type*} [DecidableEq κ] {key : ε → κ}

/-- The first entry with key `k`. -/
def lookup (key : ε → κ) (k : κ) (t : List ε) : Option ε :=
  t.find? fun e => decide (key e = k)

/-- Write to the first entry with key `k`. -/
def updateFirst (key : ε → κ) (k : κ) (f : ε → ε) : List ε → List ε
  | [] => []
  | e :: t => if key e = k then f e :: t else e :: updateFirst key k f t

@[simp] theorem lookup_nil (k : κ) : lookup key k [] = none := rfl

theorem lookup_cons (k : κ) (e : ε) (t : List ε) :
    lookup key k (e :: t) = if key e = k then some e else lookup key k t := by
  by_cases h : key e = k
  · simp [lookup, h]
  · simp [lookup, h]

theorem key_of_lookup (key : ε → κ) {k : κ} {t : List ε} {e : ε} (h : lookup key k t = some e) :
    key e = k := by
  simpa using List.find?_some h

/-- Appending an entry changes a search only when the key was missing. -/
theorem lookup_concat (key : ε → κ) (k : κ) (t : List ε) (e : ε) :
    lookup key k (t ++ [e]) =
      (lookup key k t).or (if key e = k then some e else none) := by
  induction t with
  | nil => rw [List.nil_append, lookup_cons, lookup_nil, Option.none_or]
  | cons x t ih =>
    rw [List.cons_append, lookup_cons, lookup_cons, ih]
    split <;> rfl

@[simp] theorem length_updateFirst (k : κ) (f : ε → ε) (t : List ε) :
    (updateFirst key k f t).length = t.length := by
  induction t with
  | nil => rfl
  | cons e t ih =>
    unfold updateFirst
    split
    · rfl
    · rw [List.length_cons, List.length_cons, ih]

/-- A later search for the key sees the written entry. -/
theorem lookup_updateFirst_self (key : ε → κ) {f : ε → ε} (hf : ∀ e, key (f e) = key e) (k : κ)
    (t : List ε) : lookup key k (updateFirst key k f t) = (lookup key k t).map f := by
  induction t with
  | nil => rfl
  | cons e t ih =>
    unfold updateFirst
    by_cases h : key e = k
    · rw [if_pos h, lookup_cons, lookup_cons, if_pos h, if_pos ((hf e).trans h), Option.map_some]
    · rw [if_neg h, lookup_cons, lookup_cons, if_neg h, if_neg h, ih]

/-- A later search for another key sees what it saw before. -/
theorem lookup_updateFirst_of_ne (key : ε → κ) {f : ε → ε} (hf : ∀ e, key (f e) = key e)
    {k k' : κ} (hk : k' ≠ k) (t : List ε) :
    lookup key k' (updateFirst key k f t) = lookup key k' t := by
  induction t with
  | nil => rfl
  | cons e t ih =>
    unfold updateFirst
    by_cases h : key e = k
    · rw [if_pos h, lookup_cons, lookup_cons, hf, if_neg (fun he => hk (he.symm.trans h)),
        if_neg (fun he => hk (he.symm.trans h))]
    · rw [if_neg h, lookup_cons, lookup_cons, ih]

end FirstMatch
end AsynCS
