import Mathlib

/-!
# Reading a file in pieces of a bounded size

`fgets` reads up to a bound and stops behind a line end, so a line that is longer than the bound
comes in several pieces.  What such a reader takes for lines are the pieces.

* `fgets`, `fgetsAll`: one call, and the calls up to the end of the file.
* `Piece`, `pieces`: the pieces with the mark of those that begin a line.
* `fgets_cases`: a piece ends a line, or is full, or is the last one.
* `exists_start_iff`: the pieces that begin a line are the beginnings of the lines.
-/

namespace AsynCS
namespace FileLines

variable {α : Type*} [DecidableEq α]

/-- Up to `n` items, the line end included, and what is left to read. -/
def fgets (nl : α) : ℕ → List α → List α × List α
  | 0, b => ([], b)
  | _ + 1, [] => ([], [])
  | n + 1, x :: b => if x = nl then ([x], b) else (x :: (fgets nl n b).1, (fgets nl n b).2)

/-- The calls up to the end of the file.  Each reads something, so that the length of the file is
enough fuel. -/
def fgetsAll (nl : α) (n : ℕ) : ℕ → List α → List (List α)
  | 0, _ => []
  | _ + 1, [] => []
  | fuel + 1, x :: b => (fgets nl n (x :: b)).1 :: fgetsAll nl n fuel (fgets nl n (x :: b)).2

/-- A piece, and whether it begins a line. -/
structure Piece (α : Type*) where
  start : Bool
  text : List α
  deriving DecidableEq

/-- A piece begins a line when the piece before it ended one. -/
def markStarts (nl : α) : Bool → List (List α) → List (Piece α)
  | _, [] => []
  | start, c :: cs => ⟨start, c⟩ :: markStarts nl (c.getLast? == some nl) cs

/-- The pieces of a file. -/
def pieces (nl : α) (n : ℕ) (b : List α) : List (Piece α) :=
  markStarts nl true (fgetsAll nl n b.length b)

@[simp] theorem markStarts_text (nl : α) (start : Bool) (cs : List (List α)) :
    (markStarts nl start cs).map Piece.text = cs := by
  induction cs generalizing start with
  | nil => rfl
  | cons c cs ih => rw [markStarts, List.map_cons, ih]

/-! ## One call -/

variable {nl : α} {n : ℕ} {b : List α}

/-- **What one call reads**: a line with its end, or a piece of a line that fills the buffer or ends
the file. -/
theorem fgets_cases (nl : α) (n : ℕ) (b : List α) :
    (∃ l, nl ∉ l ∧ l.length < n ∧ b = l ++ nl :: (fgets nl n b).2 ∧ (fgets nl n b).1 = l ++ [nl]) ∨
      (nl ∉ (fgets nl n b).1 ∧ b = (fgets nl n b).1 ++ (fgets nl n b).2 ∧
        ((fgets nl n b).1.length = n ∨ (fgets nl n b).2 = [])) := by
  induction n generalizing b with
  | zero => exact Or.inr ⟨List.not_mem_nil, rfl, Or.inl rfl⟩
  | succ n ih =>
    cases b with
    | nil => exact Or.inr ⟨List.not_mem_nil, rfl, Or.inr rfl⟩
    | cons x b =>
      rw [fgets]
      by_cases hx : x = nl
      · subst hx
        rw [if_pos rfl]
        exact Or.inl ⟨[], List.not_mem_nil, n.succ_pos, rfl, rfl⟩
      · rw [if_neg hx]
        rcases ih b with ⟨l, hl, hlen, hb, hread⟩ | ⟨hread, hb, hend⟩
        · refine Or.inl ⟨x :: l, ?_, ?_, ?_, ?_⟩
          · exact List.not_mem_cons_of_ne_of_not_mem (Ne.symm hx) hl
          · rw [List.length_cons]
            omega
          · rw [List.cons_append, ← hb]
          · rw [List.cons_append, ← hread]
        · refine Or.inr ⟨?_, ?_, ?_⟩
          · exact List.not_mem_cons_of_ne_of_not_mem (Ne.symm hx) hread
          · rw [List.cons_append, ← hb]
          · rcases hend with hfull | hlast
            · exact Or.inl (by rw [List.length_cons, hfull])
            · exact Or.inr hlast

theorem length_fgets_lt (hn : 0 < n) (x : α) (b : List α) :
    (fgets nl n (x :: b)).2.length < (x :: b).length := by
  rcases fgets_cases nl n (x :: b) with ⟨l, -, -, hb, -⟩ | ⟨-, hb, hfull | hlast⟩
  · have hlen := congrArg List.length hb
    rw [List.length_append, List.length_cons (a := nl)] at hlen
    omega
  · have hlen := congrArg List.length hb
    rw [List.length_append] at hlen
    omega
  · rw [hlast, List.length_cons]
    exact Nat.succ_pos _

/-! ## Lines -/

/-- A piece in front of a text lengthens its first line. -/
theorem splitOn_append_of_notMem {c : List α} (h : nl ∉ c) {b l : List α} {ls : List (List α)}
    (hb : b.splitOn nl = l :: ls) : (c ++ b).splitOn nl = (c ++ l) :: ls := by
  induction c with
  | nil => exact hb
  | cons x c ih =>
    rw [List.mem_cons, not_or] at h
    have hx : (x == nl) = false := beq_eq_false_iff_ne.mpr (Ne.symm h.1)
    rw [List.cons_append, List.splitOn_cons_eq_if_modifyHead, hx, ih h.2]
    rfl

/-- A piece tells as much of the first line as the line cut at the bound. -/
theorem piece_iff {P : List α → Prop} (hcut : ∀ l, P (l.take n) ↔ P l) {c rest l : List α}
    {ls : List (List α)} (hrest : rest.splitOn nl = l :: ls) (hend : c.length = n ∨ rest = []) :
    P c ↔ P (c ++ l) := by
  rcases hend with hfull | rfl
  · rw [← hcut (c ++ l), List.take_left' hfull]
  · have hl : [] = l := (List.cons.inj hrest).1
    rw [← hl, List.append_nil]

/-- The pieces that begin a line, from a place that begins one or does not. -/
theorem exists_markStarts_iff (hn : 0 < n) {P : List α → Prop} (hnil : ¬ P [])
    (hcut : ∀ l, P (l.take n) ↔ P l) (hend : ∀ l, P (l ++ [nl]) ↔ P l) {fuel : ℕ}
    (hfuel : b.length ≤ fuel) (start : Bool) :
    (∃ p ∈ markStarts nl start (fgetsAll nl n fuel b), p.start = true ∧ P p.text) ↔
      ∃ l ∈ (if start then b.splitOn nl else (b.splitOn nl).tail), P l := by
  have hempty : (∃ p ∈ ([] : List (Piece α)), p.start = true ∧ P p.text) ↔
      ∃ l ∈ (if start then ([] : List α).splitOn nl else (([] : List α).splitOn nl).tail), P l := by
    cases start <;> simp [hnil]
  induction fuel generalizing b start with
  | zero =>
    obtain rfl : b = [] := List.length_eq_zero_iff.mp (Nat.le_zero.mp hfuel)
    exact hempty
  | succ fuel ih =>
    cases b with
    | nil => exact hempty
    | cons x b =>
      obtain ⟨c, rest, hcall⟩ : ∃ c rest, fgets nl n (x :: b) = (c, rest) := ⟨_, _, rfl⟩
      have hcases := fgets_cases nl n (x :: b)
      have hlt : (fgets nl n (x :: b)).2.length < (x :: b).length := length_fgets_lt hn x b
      rw [hcall] at hcases hlt
      have hfuel' : rest.length ≤ fuel := by
        dsimp only at hlt
        omega
      have hlater : ∀ later, (∃ p ∈ markStarts nl later (fgetsAll nl n fuel rest),
          p.start = true ∧ P p.text) ↔
            ∃ l ∈ (if later then rest.splitOn nl else (rest.splitOn nl).tail), P l :=
        fun later => ih hfuel' later (by cases later <;> simp [hnil])
      rw [fgetsAll, hcall, markStarts]
      simp only [List.mem_cons, exists_eq_or_imp]
      rcases hcases with ⟨l, hl, -, hb, rfl⟩ | ⟨hc, hb, hbound⟩
      · -- the piece ends a line, so that the next one begins one
        have hsplit : (x :: b).splitOn nl = l :: rest.splitOn nl := by
          rw [hb, List.splitOn_append_cons_self_of_not_mem hl]
        rw [List.getLast?_concat, beq_self_eq_true, hlater true, hsplit, hend]
        cases start <;> simp
      · -- the next piece goes on with the line
        obtain ⟨l, ls, hrest⟩ := List.exists_cons_of_ne_nil (List.splitOn_ne_nil nl rest)
        have hsplit : (x :: b).splitOn nl = (c ++ l) :: ls := by
          rw [hb, splitOn_append_of_notMem hc hrest]
        have hopen : (c.getLast? == some nl) = false :=
          beq_eq_false_iff_ne.mpr fun h => hc (List.mem_of_getLast? h)
        rw [hopen, hlater false, hsplit, hrest, piece_iff hcut hrest hbound]
        cases start <;> simp

/-- **The pieces that begin a line** are the beginnings of the lines. -/
theorem exists_start_iff (hn : 0 < n) {P : List α → Prop} (hnil : ¬ P [])
    (hcut : ∀ l, P (l.take n) ↔ P l) (hend : ∀ l, P (l ++ [nl]) ↔ P l) (b : List α) :
    (∃ p ∈ pieces nl n b, p.start = true ∧ P p.text) ↔ ∃ l ∈ b.splitOn nl, P l :=
  exists_markStarts_iff hn hnil hcut hend le_rfl true

end FileLines
end AsynCS
