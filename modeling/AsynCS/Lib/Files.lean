import AsynCS.Lib.Bytes

/-!
# Named files

A directory gives a name to a file, and a program that has opened a file keeps it when the name
goes away or is given to another one.  A file is a number here, and its content a byte string.

* `FileStore`: the directory and the contents; no two names share a file.
* `openTrunc`, `write`, `remove`, `read`: `open(name, "wb")`, one write at the front of an open
  file, `os.remove`, and reading a file by its name.
* `SameExcept`: a call that names one file leaves the files of the other names;
  `opened_openTrunc` and `read_write` say what it does to its own.
-/

namespace AsynCS

/-- A directory, and the contents of the files that it names or once named. -/
structure FileStore (π : Type) where
  entry : π → Option ℕ
  content : ℕ → Bytes
  next : ℕ
  entry_lt : ∀ p i, entry p = some i → i < next
  entry_inj : ∀ p q i, entry p = some i → entry q = some i → p = q

namespace FileStore

variable {π : Type} [DecidableEq π]

/-- What a reader of the name gets. -/
def read (s : FileStore π) (p : π) : Option Bytes := (s.entry p).map s.content

section Update

variable {s : FileStore π} {p : π}

theorem update_some_lt (p : π) :
    ∀ q i, Function.update s.entry p (some s.next) q = some i → i < s.next + 1 := by
  intro q i h
  by_cases hq : q = p
  · subst hq
    rw [Function.update_self] at h
    have hi := Option.some.inj h
    omega
  · rw [Function.update_of_ne hq] at h
    exact Nat.lt_succ_of_lt (s.entry_lt q i h)

theorem update_some_inj (p : π) :
    ∀ q r i, Function.update s.entry p (some s.next) q = some i →
      Function.update s.entry p (some s.next) r = some i → q = r := by
  have hfresh : ∀ q i, q ≠ p → Function.update s.entry p (some s.next) q = some i →
      i < s.next := by
    intro q i hq h
    rw [Function.update_of_ne hq] at h
    exact s.entry_lt q i h
  intro q r i hq hr
  by_cases hqp : q = p
  · by_cases hrp : r = p
    · rw [hqp, hrp]
    · rw [hqp, Function.update_self] at hq
      have hi := Option.some.inj hq
      have hlt := hfresh r i hrp hr
      omega
  · by_cases hrp : r = p
    · rw [hrp, Function.update_self] at hr
      have hi := Option.some.inj hr
      have hlt := hfresh q i hqp hq
      omega
    · rw [Function.update_of_ne hqp] at hq
      rw [Function.update_of_ne hrp] at hr
      exact s.entry_inj q r i hq hr

theorem update_none_lt (p : π) :
    ∀ q i, Function.update s.entry p none q = some i → i < s.next := by
  intro q i h
  by_cases hq : q = p
  · rw [hq, Function.update_self] at h
    exact absurd h (by simp)
  · rw [Function.update_of_ne hq] at h
    exact s.entry_lt q i h

theorem update_none_inj (p : π) :
    ∀ q r i, Function.update s.entry p none q = some i →
      Function.update s.entry p none r = some i → q = r := by
  have hkeep : ∀ q i, Function.update s.entry p none q = some i → s.entry q = some i := by
    intro q i h
    by_cases hq : q = p
    · rw [hq, Function.update_self] at h
      exact absurd h (by simp)
    · rwa [Function.update_of_ne hq] at h
  intro q r i hq hr
  exact s.entry_inj q r i (hkeep q i hq) (hkeep r i hr)

end Update

/-- An empty directory. -/
def empty : FileStore π where
  entry _ := none
  content _ := []
  next := 0
  entry_lt _ i h := absurd h.symm (Option.some_ne_none i)
  entry_inj _ _ i h _ := absurd h.symm (Option.some_ne_none i)

/-- `open(name, "wb")`: the file of the name, emptied, or a new one. -/
def openTrunc (s : FileStore π) (p : π) : FileStore π × ℕ :=
  match s.entry p with
  | some i => ({ s with content := Function.update s.content i [] }, i)
  | none =>
    ({ entry := Function.update s.entry p (some s.next)
       content := Function.update s.content s.next []
       next := s.next + 1
       entry_lt := update_some_lt p
       entry_inj := update_some_inj p }, s.next)

/-- Write to the front of an open file. -/
def write (s : FileStore π) (i : ℕ) (data : Bytes) : FileStore π :=
  { s with content := Function.update s.content i (data ++ (s.content i).drop data.length) }

/-- `os.remove`; a name that is missing is no error to its callers. -/
def remove (s : FileStore π) (p : π) : FileStore π where
  entry := Function.update s.entry p none
  content := s.content
  next := s.next
  entry_lt := update_none_lt p
  entry_inj := update_none_inj p

variable {s : FileStore π} {p q : π} {i : ℕ} {data : Bytes}

omit [DecidableEq π] in
theorem read_of_entry (h : s.entry p = some i) : s.read p = some (s.content i) := by
  rw [read, h, Option.map_some]

/-! ## What a call changes -/

/-- The names other than `p` keep their files, and these their contents. -/
structure SameExcept (p : π) (s s' : FileStore π) : Prop where
  entry : ∀ q, q ≠ p → s'.entry q = s.entry q
  content : ∀ q i, q ≠ p → s.entry q = some i → s'.content i = s.content i

omit [DecidableEq π] in
theorem SameExcept.read {s' : FileStore π} (h : SameExcept p s s') (hq : q ≠ p) :
    s'.read q = s.read q := by
  unfold FileStore.read
  rw [h.entry q hq]
  cases he : s.entry q with
  | none => rfl
  | some i => rw [Option.map_some, Option.map_some, h.content q i hq he]

/-- Opening a name leaves the files of the others. -/
theorem sameExcept_openTrunc (s : FileStore π) (p : π) : SameExcept p s (s.openTrunc p).1 := by
  unfold openTrunc
  split
  · rename_i j hj
    refine ⟨fun _ _ => rfl, fun q i hq he => Function.update_of_ne ?_ _ _⟩
    rintro rfl
    exact hq (s.entry_inj q p _ he hj)
  · refine ⟨fun q hq => Function.update_of_ne hq _ _, fun q i hq he =>
      Function.update_of_ne ?_ _ _⟩
    have hlt := s.entry_lt q i he
    omega

/-- An opened name has its file, and the file is empty. -/
theorem opened_openTrunc (s : FileStore π) (p : π) :
    (s.openTrunc p).1.entry p = some (s.openTrunc p).2 ∧
      (s.openTrunc p).1.content (s.openTrunc p).2 = [] := by
  unfold openTrunc
  split
  · rename_i j hj
    exact ⟨hj, Function.update_self _ _ _⟩
  · exact ⟨Function.update_self p _ _, Function.update_self _ _ _⟩

omit [DecidableEq π] in
/-- A file that was just emptied holds what is written to it. -/
theorem read_write (h : s.entry p = some i) (hempty : s.content i = []) :
    (s.write i data).read p = some data := by
  rw [read_of_entry (s := s.write i data) h]
  simp only [write, Function.update_self, hempty, List.drop_nil, List.append_nil]

omit [DecidableEq π] in
/-- Writing to the file of a name leaves the files of the others. -/
theorem sameExcept_write (h : s.entry p = some i) : SameExcept p s (s.write i data) := by
  refine ⟨fun _ _ => rfl, fun q j hq he => Function.update_of_ne ?_ _ _⟩
  rintro rfl
  exact hq (s.entry_inj q p _ he h)

/-- Removing a name leaves the files of the others. -/
theorem sameExcept_remove (s : FileStore π) (p : π) : SameExcept p s (s.remove p) :=
  ⟨fun _ hq => Function.update_of_ne hq _ _, fun _ _ _ _ => rfl⟩

end FileStore

end AsynCS
