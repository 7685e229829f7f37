import Mathlib

/-!
# Prefix-free codes

A code writes each letter of an alphabet as a word, and a message is a word with anything behind
it.

* `PrefixFreeOn f F`: no code word of `F` begins another.
* `append_injOn_iff`: exactly then a message determines its letter and what is behind the word.
* `prefixFreeOn_of_length`: words of one length.
-/

namespace AsynCS

variable {α β : Type*}

/-- No code word begins the code word of another letter. -/
def PrefixFreeOn (f : α → List β) (F : Set α) : Prop :=
  ∀ a ∈ F, ∀ b ∈ F, f a <+: f b → a = b

variable {f : α → List β} {F : Set α}

/-- Messages over a prefix-free code are read in one way. -/
theorem PrefixFreeOn.append_inj (hF : PrefixFreeOn f F) {a b : α} (ha : a ∈ F) (hb : b ∈ F)
    {x y : List β} (h : f a ++ x = f b ++ y) : a = b ∧ x = y := by
  have hab : a = b := by
    have hpre : f a <+: f b ++ y := ⟨x, h⟩
    rcases List.prefix_or_prefix_of_prefix hpre (List.prefix_append (f b) y) with hle | hle
    · exact hF a ha b hb hle
    · exact (hF b hb a ha hle).symm
  subst hab
  exact ⟨rfl, List.append_cancel_left h⟩

/-- **A code is prefix-free** exactly when a message determines its letter and the rest. -/
theorem append_injOn_iff :
    (∀ a ∈ F, ∀ b ∈ F, ∀ x y, f a ++ x = f b ++ y → a = b ∧ x = y) ↔ PrefixFreeOn f F := by
  constructor
  · rintro h a ha b hb ⟨w, hw⟩
    exact (h a ha b hb w [] (by rw [hw, List.append_nil])).1
  · intro hF a ha b hb x y h
    exact hF.append_inj ha hb h

/-- Different words of one length are prefix-free. -/
theorem prefixFreeOn_of_length {n : ℕ} (hlen : ∀ a ∈ F, (f a).length = n)
    (hinj : Set.InjOn f F) : PrefixFreeOn f F := by
  intro a ha b hb hpre
  exact hinj ha hb (hpre.eq_of_length (by rw [hlen a ha, hlen b hb]))

end AsynCS
