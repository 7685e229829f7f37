import Mathlib

/-!
# Searching a text with quoted parts

A text is made of quoted parts with something between them that holds no quote.  A search for a
quoted word finds the first quoted part that is the word, unless the word with a quote behind it
stands between two parts.

* `behindFirst`: what is behind the first place where a word stands.
* `behindFirst_gap`, `behindFirst_quoted`, `behindFirst_word`: the parts that a search for a quoted
  word passes, and the one where it ends.
-/

namespace AsynCS

variable {α : Type*}

/-- Two parts without a quote in front of a quote are the same. -/
theorem eq_of_prefix_quote {q : α} {word content t : List α} (hcontent : q ∉ content) (hword : q ∉ word)
    (h : word ++ [q] <+: content ++ q :: t) : content = word := by
  obtain ⟨rest, hrest⟩ := h
  rw [List.append_assoc, List.singleton_append] at hrest
  induction word generalizing content with
  | nil =>
    cases content with
    | nil => rfl
    | cons c content =>
      have hc : q = c := (List.cons.inj hrest).1
      exact absurd (hc ▸ List.mem_cons_self) hcontent
  | cons x word ih =>
    cases content with
    | nil =>
      have hx : x = q := (List.cons.inj hrest).1
      exact absurd (hx ▸ List.mem_cons_self) hword
    | cons c content =>
      obtain ⟨hx, htail⟩ := List.cons.inj hrest
      rw [hx, ih (fun hmem => hcontent (List.mem_cons_of_mem c hmem))
        (fun hmem => hword (List.mem_cons_of_mem x hmem)) htail]

variable [DecidableEq α]

/-- What is behind the first place where a word stands. -/
def behindFirst (word : List α) : List α → Option (List α)
  | [] => if word = [] then some [] else none
  | x :: t =>
    if word <+: x :: t then some ((x :: t).drop word.length) else behindFirst word t

/-- A word in quotes. -/
def quoted (q : α) (word : List α) : List α := q :: (word ++ [q])

variable {q : α} {word : List α}

theorem behindFirst_of_startsWith {t : List α} (h : word <+: t) :
    behindFirst word t = some (t.drop word.length) := by
  cases t with
  | nil =>
    obtain rfl := List.prefix_nil.mp h
    rfl
  | cons x t => rw [behindFirst, if_pos h]

theorem behindFirst_of_not_prefix {x : α} {t : List α} (h : ¬ word <+: x :: t) :
    behindFirst word (x :: t) = behindFirst word t := by
  rw [behindFirst, if_neg h]

/-- The search ends at the word. -/
theorem behindFirst_word (word t : List α) : behindFirst word (word ++ t) = some t := by
  rw [behindFirst_of_startsWith (List.prefix_append word t), List.drop_left]

/-- A search for a quoted word passes what holds no quote. -/
theorem behindFirst_gap {gap : List α} (h : q ∉ gap) (t : List α) :
    behindFirst (quoted q word) (gap ++ t) = behindFirst (quoted q word) t := by
  induction gap with
  | nil => rfl
  | cons x gap ih =>
    rw [List.mem_cons, not_or] at h
    have hx : ¬ quoted q word <+: x :: (gap ++ t) := by
      intro hprefix
      exact h.1 (List.cons_prefix_cons.mp hprefix).1
    rw [List.cons_append, behindFirst_of_not_prefix hx, ih h.2]

/-- A search for a quoted word passes another quoted part, unless the word is behind it. -/
theorem behindFirst_quoted {content t : List α} (hcontent : q ∉ content) (hword : q ∉ word)
    (hne : content ≠ word) (ht : ¬ word ++ [q] <+: t) :
    behindFirst (quoted q word) (quoted q content ++ t) = behindFirst (quoted q word) t := by
  have hopen : ¬ quoted q word <+: q :: (content ++ q :: t) := by
    intro hprefix
    exact hne (eq_of_prefix_quote hcontent hword (List.cons_prefix_cons.mp hprefix).2)
  have hclose : ¬ quoted q word <+: q :: t := fun hprefix =>
    ht (List.cons_prefix_cons.mp hprefix).2
  have htext : quoted q content ++ t = q :: (content ++ q :: t) := by
    rw [quoted, List.cons_append, List.append_assoc, List.singleton_append]
  rw [htext, behindFirst_of_not_prefix hopen, behindFirst_gap hcontent,
    behindFirst_of_not_prefix hclose]

end AsynCS
