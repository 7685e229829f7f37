import Mathlib

/-!
# The lines of a stream

A stream is read in lines, and what is written to it need not end with one.  `scan isEnd p t` are
the lines that a text `t` completes behind an open line `p`, and the line that it leaves open.

Some lines mean something to the reader.  A text is harmless, wherever in the stream it
stands, when none of its lines is one of these and no continuation makes one of its open line.

* `scan_append`, `scan_behind`: the lines of texts written one after the other, and behind an open
  line.
* `Dead`: an open line that becomes none of the lines with a meaning.
* `Harmless`, `Harmless.append`: harmless texts can be written one after the other.
* `Closed`: texts that leave no line open.
-/

namespace AsynCS

variable {α : Type*}

/-! ## Cutting into lines -/

/-- The lines that a text completes behind an open line, and the line that it leaves open. -/
def scan (isEnd : α → Bool) : List α → List α → List (List α) × List α
  | p, [] => ([], p)
  | p, x :: t =>
    if isEnd x then (p :: (scan isEnd [] t).1, (scan isEnd [] t).2) else scan isEnd (p ++ [x]) t

variable {isEnd : α → Bool}

@[simp] theorem scan_nil (p : List α) : scan isEnd p [] = ([], p) := rfl

theorem scan_cons_of_end {x : α} (hx : isEnd x = true) (p t : List α) :
    scan isEnd p (x :: t) = (p :: (scan isEnd [] t).1, (scan isEnd [] t).2) := by
  rw [scan, if_pos hx]

theorem scan_cons_of_not {x : α} (hx : isEnd x = false) (p t : List α) :
    scan isEnd p (x :: t) = scan isEnd (p ++ [x]) t := by
  rw [scan, if_neg (by rw [hx]; exact Bool.false_ne_true)]

/-- Texts that are written one after the other. -/
theorem scan_append (p a b : List α) :
    scan isEnd p (a ++ b) =
      ((scan isEnd p a).1 ++ (scan isEnd (scan isEnd p a).2 b).1,
        (scan isEnd (scan isEnd p a).2 b).2) := by
  induction a generalizing p with
  | nil => rfl
  | cons x a ih =>
    cases hx : isEnd x with
    | true => rw [List.cons_append, scan_cons_of_end hx, scan_cons_of_end hx, ih, List.cons_append]
    | false => rw [List.cons_append, scan_cons_of_not hx, scan_cons_of_not hx, ih]

/-- A text without line ends leaves its line open. -/
theorem scan_of_no_end {t : List α} (h : ∀ x ∈ t, isEnd x = false) (p : List α) :
    scan isEnd p t = ([], p ++ t) := by
  induction t generalizing p with
  | nil => rw [scan_nil, List.append_nil]
  | cons x t ih =>
    rw [scan_cons_of_not (h x List.mem_cons_self), ih fun y hy => h y (List.mem_cons_of_mem x hy),
      List.append_assoc, List.singleton_append]

/-- A line with its end. -/
theorem scan_line {l : List α} (h : ∀ x ∈ l, isEnd x = false) {e : α} (he : isEnd e = true)
    (p : List α) : scan isEnd p (l ++ [e]) = ([p ++ l], []) := by
  rw [scan_append, scan_of_no_end h, scan_cons_of_end he]
  rfl

/-- What a text completes and leaves open behind an open line: its first line grows. -/
theorem scan_behind (isEnd : α → Bool) (p t : List α) :
    ((scan isEnd [] t).1 = [] ∧ scan isEnd p t = ([], p ++ (scan isEnd [] t).2)) ∨
      ∃ l ls, (scan isEnd [] t).1 = l :: ls ∧
        scan isEnd p t = ((p ++ l) :: ls, (scan isEnd [] t).2) := by
  have hgrow : ∀ q, ((scan isEnd q t).1 = [] ∧ scan isEnd (p ++ q) t =
      ([], p ++ (scan isEnd q t).2)) ∨ ∃ l ls, (scan isEnd q t).1 = l :: ls ∧
        scan isEnd (p ++ q) t = ((p ++ l) :: ls, (scan isEnd q t).2) := by
    induction t with
    | nil => exact fun q => Or.inl ⟨rfl, rfl⟩
    | cons x t ih =>
      intro q
      cases hx : isEnd x with
      | true =>
        rw [scan_cons_of_end hx, scan_cons_of_end hx]
        exact Or.inr ⟨q, _, rfl, rfl⟩
      | false =>
        rw [scan_cons_of_not hx, scan_cons_of_not hx, List.append_assoc]
        exact ih (q ++ [x])
  have h := hgrow []
  rwa [List.append_nil] at h

/-- The ends of lines are in no line. -/
theorem not_isEnd_of_mem_scan {p t : List α} (hp : ∀ x ∈ p, isEnd x = false) :
    ∀ l ∈ (scan isEnd p t).1, ∀ x ∈ l, isEnd x = false := by
  induction t generalizing p with
  | nil => exact fun l hl => absurd hl List.not_mem_nil
  | cons y t ih =>
    intro l hl
    cases hy : isEnd y with
    | true =>
      rw [scan_cons_of_end hy] at hl
      rcases List.mem_cons.mp hl with rfl | hl
      · exact hp
      · exact ih (fun x hx => absurd hx List.not_mem_nil) l hl
    | false =>
      rw [scan_cons_of_not hy] at hl
      refine ih (fun x hx => ?_) l hl
      rcases List.mem_append.mp hx with hx | hx
      · exact hp x hx
      · rwa [List.mem_singleton.mp hx]

/-- What both sides of a line end inherit, the lines have, and so has the line that is left open. -/
theorem forall_mem_scan {P : List α → Prop}
    (hP : ∀ a e b, isEnd e = true → P (a ++ e :: b) → P a ∧ P b) {p t : List α} (h : P (p ++ t)) :
    (∀ l ∈ (scan isEnd p t).1, P l) ∧ P (scan isEnd p t).2 := by
  induction t generalizing p with
  | nil =>
    rw [List.append_nil] at h
    exact ⟨fun l hl => absurd hl List.not_mem_nil, h⟩
  | cons x t ih =>
    cases hx : isEnd x with
    | true =>
      obtain ⟨hbefore, hbehind⟩ := hP p x t hx h
      obtain ⟨hlines, hrest⟩ := ih (p := []) hbehind
      rw [scan_cons_of_end hx]
      refine ⟨fun l hl => ?_, hrest⟩
      rcases List.mem_cons.mp hl with rfl | hl
      · exact hbefore
      · exact hlines l hl
    | false =>
      rw [scan_cons_of_not hx]
      refine ih ?_
      rwa [List.append_assoc, List.singleton_append]

/-! ## Lines with a meaning -/

/-- No continuation of an open line has a meaning. -/
def Dead (R : List α → Prop) (p : List α) : Prop := ∀ z, ¬ R (p ++ z)

variable {R : List α → Prop}

theorem Dead.append {p : List α} (h : Dead R p) (z : List α) : Dead R (p ++ z) := by
  intro w
  rw [List.append_assoc]
  exact h (z ++ w)

theorem Dead.not {p : List α} (h : Dead R p) : ¬ R p := by
  have h' := h []
  rwa [List.append_nil] at h'

/-- No line of the text has a meaning, and its open line gets none. -/
structure Harmless (isEnd : α → Bool) (R : List α → Prop) (t : List α) : Prop where
  lines : ∀ l ∈ (scan isEnd [] t).1, ¬ R l
  rest : (scan isEnd [] t).2 = [] ∨ Dead R (scan isEnd [] t).2

theorem harmless_nil : Harmless isEnd R ([] : List α) :=
  ⟨fun _ hl => absurd hl List.not_mem_nil, Or.inl rfl⟩

/-- A line without a meaning, with its end. -/
theorem harmless_line {l : List α} (h : ∀ x ∈ l, isEnd x = false) {e : α} (he : isEnd e = true)
    (hl : ¬ R l) : Harmless isEnd R (l ++ [e]) := by
  have hscan : scan isEnd [] (l ++ [e]) = ([l], []) := scan_line h he []
  constructor
  · rw [hscan]
    intro l' hl'
    rwa [List.mem_singleton.mp hl']
  · rw [hscan]
    exact Or.inl rfl

/-- An open line that gets no meaning. -/
theorem harmless_of_dead {p : List α} (h : ∀ x ∈ p, isEnd x = false) (hp : Dead R p) :
    Harmless isEnd R p := by
  have hscan : scan isEnd [] p = ([], p) := scan_of_no_end h []
  constructor
  · rw [hscan]
    exact fun l hl => absurd hl List.not_mem_nil
  · rw [hscan]
    exact Or.inr hp

/-- **Behind an open line** that gets no meaning a harmless text stays so. -/
theorem Harmless.behind {p t : List α} (hp : p = [] ∨ Dead R p) (ht : Harmless isEnd R t) :
    (∀ l ∈ (scan isEnd p t).1, ¬ R l) ∧
      ((scan isEnd p t).2 = [] ∨ Dead R (scan isEnd p t).2) := by
  rcases hp with rfl | hp
  · exact ⟨ht.lines, ht.rest⟩
  · rcases scan_behind isEnd p t with ⟨-, h⟩ | ⟨l, ls, hls, h⟩
    · rw [h]
      exact ⟨fun l hl => absurd hl List.not_mem_nil, Or.inr (hp.append _)⟩
    · rw [h]
      refine ⟨fun l' hl' => ?_, ht.rest⟩
      rcases List.mem_cons.mp hl' with rfl | hl'
      · exact hp l
      · exact ht.lines l' (hls ▸ List.mem_cons_of_mem l hl')

/-- **Harmless texts** one after the other. -/
theorem Harmless.append {a b : List α} (ha : Harmless isEnd R a) (hb : Harmless isEnd R b) :
    Harmless isEnd R (a ++ b) := by
  obtain ⟨hlines, hrest⟩ := hb.behind ha.rest
  constructor
  · rw [scan_append]
    intro l hl
    rcases List.mem_append.mp hl with hl | hl
    · exact ha.lines l hl
    · exact hlines l hl
  · rw [scan_append]
    exact hrest

/-! ## Texts that leave no line open -/

/-- The text ends with a line end, or is empty. -/
def Closed (isEnd : α → Bool) (t : List α) : Prop := (scan isEnd [] t).2 = []

theorem closed_nil : Closed isEnd ([] : List α) := rfl

theorem closed_line {l : List α} (h : ∀ x ∈ l, isEnd x = false) {e : α} (he : isEnd e = true) :
    Closed isEnd (l ++ [e]) := congrArg Prod.snd (scan_line h he [])

theorem scan_append_of_closed {a : List α} (ha : Closed isEnd a) (b : List α) :
    scan isEnd [] (a ++ b) = ((scan isEnd [] a).1 ++ (scan isEnd [] b).1, (scan isEnd [] b).2) := by
  rw [scan_append, show (scan isEnd [] a).2 = [] from ha]

theorem Closed.append {a b : List α} (ha : Closed isEnd a) (hb : Closed isEnd b) :
    Closed isEnd (a ++ b) := by
  rw [Closed, scan_append_of_closed ha]
  exact hb

/-- A text that completes no line is its open line. -/
theorem scan_of_fst_nil {p t : List α} (h : (scan isEnd p t).1 = []) :
    (scan isEnd p t).2 = p ++ t := by
  induction t generalizing p with
  | nil => rw [scan_nil, List.append_nil]
  | cons x t ih =>
    cases hx : isEnd x with
    | true =>
      rw [scan_cons_of_end hx] at h
      exact absurd h (List.cons_ne_nil _ _)
    | false =>
      rw [scan_cons_of_not hx] at h ⊢
      rw [ih h, List.append_assoc, List.singleton_append]

/-- What ends with closed lines is closed, whatever it begins with. -/
theorem closed_append_of_ne_nil (a : List α) {b : List α} (hb : Closed isEnd b) (hne : b ≠ []) :
    Closed isEnd (a ++ b) := by
  rw [Closed, scan_append]
  rcases scan_behind isEnd (scan isEnd [] a).2 b with ⟨hnil, -⟩ | ⟨l, ls, -, h⟩
  · have hopen := scan_of_fst_nil hnil
    rw [show (scan isEnd [] b).2 = [] from hb] at hopen
    exact absurd hopen.symm hne
  · rw [h]
    exact hb

/-- Lines with their ends. -/
theorem scan_lines {ls : List (List α)} (h : ∀ l ∈ ls, ∀ x ∈ l, isEnd x = false) {e : α}
    (he : isEnd e = true) : scan isEnd [] (ls.flatMap fun l => l ++ [e]) = (ls, []) := by
  induction ls with
  | nil => rfl
  | cons l ls ih =>
    have hl := h l List.mem_cons_self
    rw [List.flatMap_cons, scan_append_of_closed (closed_line hl he), scan_line hl he,
      ih fun l' hl' => h l' (List.mem_cons_of_mem l hl')]
    rfl

end AsynCS
