import Mathlib.Data.List.Basic

/-!
# What a log has before what

A log is kept newest entry first.  `Precedes p q l`: in the log `l`, every entry with `q` comes
after an entry with `p`.

* `Precedes.exists_of_mem`: a log with a `q` has a `p`.
* `Precedes.append_iff_of_not`: entries without `q` change nothing.
* `Precedes.append_of_mem`: once there is a `p`, nothing that is added matters.
-/

namespace AsynCS

variable {α : Type*} {p q : α → Prop} {l l' : List α}

/-- Every entry with `q` has an older entry with `p`. -/
def Precedes (p q : α → Prop) : List α → Prop
  | [] => True
  | c :: older => (q c → ∃ d ∈ older, p d) ∧ Precedes p q older

namespace Precedes

@[simp] theorem nil : Precedes p q [] := trivial

@[simp] theorem cons_iff {c : α} :
    Precedes p q (c :: l) ↔ (q c → ∃ d ∈ l, p d) ∧ Precedes p q l := Iff.rfl

/-- An entry with `q` in the log. -/
theorem exists_of_mem (h : Precedes p q l) {c : α} (hmem : c ∈ l) (hq : q c) :
    ∃ d ∈ l, p d := by
  induction l with
  | nil => cases hmem
  | cons c' l ih =>
    rcases List.mem_cons.mp hmem with rfl | hmem
    · obtain ⟨d, hd, hp⟩ := h.1 hq
      exact ⟨d, List.mem_cons_of_mem _ hd, hp⟩
    · obtain ⟨d, hd, hp⟩ := ih h.2 hmem
      exact ⟨d, List.mem_cons_of_mem _ hd, hp⟩

/-- A log without `q`. -/
theorem of_not (h : ∀ c ∈ l, ¬ q c) : Precedes p q l := by
  induction l with
  | nil => trivial
  | cons c l ih =>
    exact ⟨fun hq => absurd hq (h c List.mem_cons_self),
      ih fun d hd => h d (List.mem_cons_of_mem _ hd)⟩

/-- New entries without `q`. -/
theorem append_iff_of_not (h : ∀ c ∈ l', ¬ q c) :
    Precedes p q (l' ++ l) ↔ Precedes p q l := by
  induction l' with
  | nil => rfl
  | cons c l' ih =>
    rw [List.cons_append, cons_iff, ih fun d hd => h d (List.mem_cons_of_mem _ hd)]
    exact and_iff_right fun hq => absurd hq (h c List.mem_cons_self)

/-- New entries, when the log has a `p`. -/
theorem append_of_mem (h : Precedes p q l) {d : α} (hd : d ∈ l) (hp : p d) :
    Precedes p q (l' ++ l) := by
  induction l' with
  | nil => exact h
  | cons c l' ih => exact ⟨fun _ => ⟨d, List.mem_append_right _ hd, hp⟩, ih⟩

end Precedes

end AsynCS
