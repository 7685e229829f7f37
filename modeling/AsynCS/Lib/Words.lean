import Mathlib

/-!
# Words and lines of a text

A text is a list, and a test says which of its letters separate.  `words sep l` are the maximal
runs of other letters, and `fields c l` the pieces between two occurrences of the letter `c`.

* `words_append_cons`: a separator splits the words of what is before it from those behind.
* `not_sep_of_mem_words`: no word holds a separator, and none is empty.
* `forall_mem_splitOnP`: what both sides of a separator inherit, the pieces have.
* `words_intercalate`: joining words with a separator is undone by splitting;
  `hom_intercalate` carries a joined text through an encoding.
* `lines_of_ends`: a text in which every line is closed has those lines.
-/

namespace AsynCS

variable {α : Type*}

/-- The maximal runs of letters that do not separate. -/
def words (sep : α → Bool) (l : List α) : List (List α) :=
  (l.splitOnP sep).filter fun w => !w.isEmpty

variable {sep : α → Bool}

@[simp] theorem words_nil : words sep ([] : List α) = [] := rfl

/-- A separator splits the words before it from those behind. -/
theorem words_append_cons (xs as : List α) {s : α} (hs : sep s = true) :
    words sep (xs ++ s :: as) = words sep xs ++ words sep as := by
  unfold words
  rw [List.splitOnP_append_cons xs as hs, List.filter_append]

/-- A text without separators is one word. -/
theorem words_of_no_sep {xs : List α} (h : ∀ b ∈ xs, sep b = false) (hne : xs ≠ []) :
    words sep xs = [xs] := by
  unfold words
  rw [List.splitOnP_eq_singleton h]
  cases xs with
  | nil => exact absurd rfl hne
  | cons b xs => rfl

/-- No piece of a split text holds a separator. -/
theorem not_sep_of_mem_splitOnP {l : List α} :
    ∀ {w : List α}, w ∈ l.splitOnP sep → ∀ b ∈ w, sep b = false := by
  induction l with
  | nil =>
    intro w hw b hb
    rw [List.splitOnP_nil, List.mem_singleton] at hw
    rw [hw] at hb
    exact absurd hb List.not_mem_nil
  | cons a l ih =>
    intro w hw b hb
    rw [List.splitOnP_cons_eq_if_modifyHead] at hw
    split at hw
    · rcases List.mem_cons.mp hw with rfl | hw
      · exact absurd hb List.not_mem_nil
      · exact ih hw b hb
    · rename_i ha
      -- the first piece of the tail grows by `a`, and the other pieces stay
      cases hl : l.splitOnP sep with
      | nil => exact absurd hl (List.splitOnP_ne_nil sep l)
      | cons v vs =>
        rw [hl, List.modifyHead_cons] at hw
        rcases List.mem_cons.mp hw with rfl | hw
        · rcases List.mem_cons.mp hb with rfl | hb
          · exact Bool.eq_false_iff.mpr ha
          · exact ih (hl ▸ List.mem_cons_self) b hb
        · exact ih (hl ▸ List.mem_cons_of_mem v hw) b hb

/-- A property of texts that their two sides of a separator have is one of their pieces. -/
theorem forall_mem_splitOnP {P : List α → Prop}
    (hP : ∀ a s b, sep s = true → P (a ++ s :: b) → P a ∧ P b) {l : List α} (hl : P l) :
    ∀ w ∈ l.splitOnP sep, P w := by
  -- `p` is what stands before `l` in the piece that is open
  have hgrow : ∀ p : List α, (∀ x ∈ p, sep x = false) → P (p ++ l) →
      ∀ w ∈ (p ++ l).splitOnP sep, P w := by
    clear hl
    induction l with
    | nil =>
      intro p hp hPl w hw
      rw [List.append_nil] at hPl hw
      rw [List.splitOnP_eq_singleton hp, List.mem_singleton] at hw
      rwa [hw]
    | cons x l ih =>
      intro p hp hPl w hw
      cases hx : sep x with
      | true =>
        obtain ⟨hbefore, hbehind⟩ := hP p x l hx hPl
        rw [List.splitOnP_append_cons_of_forall_mem hp x hx] at hw
        rcases List.mem_cons.mp hw with rfl | hw
        · exact hbefore
        · exact ih [] (fun y hy => absurd hy List.not_mem_nil) hbehind w hw
      | false =>
        rw [← List.singleton_append, ← List.append_assoc] at hPl hw
        refine ih (p ++ [x]) (fun y hy => ?_) hPl w hw
        rcases List.mem_append.mp hy with hy | hy
        · exact hp y hy
        · rwa [List.mem_singleton.mp hy]
  exact hgrow [] (fun y hy => absurd hy List.not_mem_nil) hl

/-- No word holds a separator. -/
theorem not_sep_of_mem_words {l w : List α} (hw : w ∈ words sep l) {b : α} (hb : b ∈ w) :
    sep b = false :=
  not_sep_of_mem_splitOnP (List.mem_filter.mp hw).1 b hb

theorem intercalate_cons_cons (s w v : List α) (vs : List (List α)) :
    List.intercalate s (w :: v :: vs) = w ++ (s ++ List.intercalate s (v :: vs)) := by
  simp only [List.intercalate, List.intersperse_cons_cons, List.flatten_cons]

/-- A map that respects concatenation respects joining. -/
theorem hom_intercalate {β : Type*} {f : List α → List β} (hnil : f [] = [])
    (happend : ∀ a b, f (a ++ b) = f a ++ f b) (s : List α) (ws : List (List α)) :
    f (List.intercalate s ws) = List.intercalate (f s) (ws.map f) := by
  induction ws with
  | nil => exact hnil
  | cons w ws ih =>
    cases ws with
    | nil => simp [List.intercalate]
    | cons v vs =>
      rw [intercalate_cons_cons, happend, happend, ih]
      simp only [List.map_cons, intercalate_cons_cons]

/-- Joining words with a separator is undone by splitting. -/
theorem words_intercalate {s : α} (hs : sep s = true) {ws : List (List α)}
    (hws : ∀ w ∈ ws, w ≠ [] ∧ ∀ b ∈ w, sep b = false) :
    words sep (List.intercalate [s] ws) = ws := by
  induction ws with
  | nil => rfl
  | cons w ws ih =>
    have hw := hws w List.mem_cons_self
    have hone : words sep w = [w] := words_of_no_sep hw.2 hw.1
    have htail := ih fun v hv => hws v (List.mem_cons_of_mem w hv)
    cases ws with
    | nil => simpa [List.intercalate] using hone
    | cons v vs =>
      rw [intercalate_cons_cons, List.singleton_append, words_append_cons w _ hs, hone, htail]
      rfl

/-- A letter of a joined text is the separator or a letter of a word. -/
theorem mem_intercalate {s b : α} {ws : List (List α)} (hb : b ∈ List.intercalate [s] ws) :
    b = s ∨ ∃ w ∈ ws, b ∈ w := by
  rw [List.intercalate, List.mem_flatten] at hb
  obtain ⟨v, hv, hb⟩ := hb
  induction ws with
  | nil => exact absurd hv List.not_mem_nil
  | cons w ws ih =>
    cases ws with
    | nil =>
      rw [List.intersperse_singleton, List.mem_singleton] at hv
      exact Or.inr ⟨w, List.mem_singleton.mpr rfl, hv ▸ hb⟩
    | cons u us =>
      rw [List.intersperse_cons_cons, List.mem_cons, List.mem_cons] at hv
      rcases hv with rfl | rfl | hv
      · exact Or.inr ⟨v, List.mem_cons_self, hb⟩
      · exact Or.inl (List.mem_singleton.mp hb)
      · refine (ih hv).imp id ?_
        rintro ⟨w', hw', hb'⟩
        exact ⟨w', List.mem_cons_of_mem w hw', hb'⟩

/-! ## Lines -/

variable [DecidableEq α]

/-- The lines of a text: the pieces before each line end, and what stands behind the last
one when that is not empty. -/
def lines (eol : α) (l : List α) : List (List α) :=
  let pieces := l.splitOn eol
  if pieces.getLast? = some [] then pieces.dropLast else pieces

/-- A closed line is the first line of the text it begins. -/
theorem lines_cons {eol : α} {line : List α} (h : eol ∉ line) (rest : List α) :
    lines eol (line ++ eol :: rest) = line :: lines eol rest := by
  have hsplit : (line ++ eol :: rest).splitOn eol = line :: rest.splitOn eol := by
    rw [List.splitOn, List.splitOnP_append_cons_of_forall_mem (by
      intro x hx
      exact beq_eq_false_iff_ne.mpr fun e => h (e ▸ hx)) eol (by simp)]
    rfl
  have hne : rest.splitOn eol ≠ [] := List.splitOnP_ne_nil _ rest
  have hlast : (line :: rest.splitOn eol).getLast? = (rest.splitOn eol).getLast? := by
    rw [List.getLast?_cons_of_ne_nil hne]
  simp only [lines, hsplit, hlast]
  split
  · rw [List.dropLast_cons_of_ne_nil hne]
  · rfl

@[simp] theorem lines_nil (eol : α) : lines eol [] = [] := rfl

theorem forall_mem_lines {eol : α} {P : List α → Prop}
    (hP : ∀ a b, P (a ++ eol :: b) → P a ∧ P b) {l : List α} (hl : P l) :
    ∀ w ∈ lines eol l, P w := by
  have hpieces : ∀ w ∈ l.splitOn eol, P w := forall_mem_splitOnP (fun a s b hs h =>
    hP a b (by rwa [beq_iff_eq.mp hs] at h)) hl
  intro w hw
  simp only [lines] at hw
  split at hw
  · exact hpieces w (List.dropLast_subset _ hw)
  · exact hpieces w hw

/-- **A text of closed lines** has those lines. -/
theorem lines_of_ends {eol : α} {ls : List (List α)} (h : ∀ l ∈ ls, eol ∉ l) :
    lines eol (ls.flatMap fun l => l ++ [eol]) = ls := by
  induction ls with
  | nil => rfl
  | cons l ls ih =>
    have hl := h l List.mem_cons_self
    have htail := ih fun l' hl' => h l' (List.mem_cons_of_mem l hl')
    rw [List.flatMap_cons, List.append_assoc, List.singleton_append, lines_cons hl, htail]

end AsynCS
