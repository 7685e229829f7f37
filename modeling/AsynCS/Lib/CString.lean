import AsynCS.Lib.Bytes

/-!
# C strings and the fixed fields that store them

A `const char*` argument is the bytes before its terminating NUL.  A program that keeps such
a string in a `char[n]` field keeps a cut of it, and what a later comparison sees depends on
where the cut falls and on how many bytes the comparison reads.

* `CStr`: a string with no NUL byte; `strlen`, `cut`, `cat`, `hex`.
* `Field n`: a stored string of at most `n` bytes.  `Field.store` is `strncpy(dst, src, n)`,
  whether the field has room for a terminator (`char[n + 1]`, `dst[n] = 0`) or not (`char[n]`).
* `strncmpEq n a b`: `strncmp(a, b, n) == 0`.

Comparing a cut with a full string is exact in one direction only: `cut_eq_iff` and
`strncmpEq_field_iff` say which strings a stored field is taken for.
-/

namespace AsynCS

/-- A C string: the bytes before the terminating NUL. -/
structure CStr where
  bytes : Bytes
  noNul : ∀ b ∈ bytes, b ≠ 0
  deriving DecidableEq

namespace CStr

@[ext] theorem ext {a b : CStr} (h : a.bytes = b.bytes) : a = b := by
  cases a
  cases b
  cases h
  rfl

/-- `strlen`. -/
def strlen (s : CStr) : ℕ := s.bytes.length

/-- The empty string. -/
def empty : CStr := ⟨[], by simp⟩

instance : Inhabited CStr := ⟨empty⟩

/-- What C reads of a buffer: the bytes before its first NUL. -/
def ofBuffer (b : Bytes) : CStr :=
  ⟨b.takeWhile (fun x => x != 0), fun x hx => by simpa using List.mem_takeWhile_imp hx⟩

/-- A string literal of the source. -/
def lit (s : String) : CStr := ofBuffer (ascii s)

/-- The string of `n` letters `a`. -/
def letters (n : ℕ) : CStr :=
  ⟨List.replicate n 97, fun x hx => by rw [List.eq_of_mem_replicate hx]; decide⟩

/-- Concatenation, as `snprintf(out, cap, "%s%s", a, b)` writes it when it fits. -/
def cat (a b : CStr) : CStr :=
  ⟨a.bytes ++ b.bytes, fun x hx =>
    (List.mem_append.mp hx).elim (a.noNul x) (b.noNul x)⟩

/-- The first `n` bytes: what is left of a string in a field that holds `n` of them. -/
def cut (n : ℕ) (s : CStr) : CStr :=
  ⟨s.bytes.take n, fun x hx => s.noNul x (List.mem_of_mem_take hx)⟩

/-- The lower-case hexadecimal text of a buffer. -/
def hex (b : Bytes) : CStr :=
  ⟨hexEncode b, fun _ hx => hexEncode_noNul hx⟩

@[simp] theorem strlen_hex (b : Bytes) : (hex b).strlen = 2 * b.length := length_hexEncode b

@[simp] theorem strlen_letters (n : ℕ) : (letters n).strlen = n := List.length_replicate

@[simp] theorem strlen_cat (a b : CStr) : (a.cat b).strlen = a.strlen + b.strlen :=
  List.length_append

@[simp] theorem strlen_cut (n : ℕ) (s : CStr) : (s.cut n).strlen = min n s.strlen :=
  List.length_take

theorem strlen_cut_le (n : ℕ) (s : CStr) : (s.cut n).strlen ≤ n := by
  rw [strlen_cut]
  exact Nat.min_le_left _ _

/-- A string that fits is stored whole. -/
theorem cut_of_le {n : ℕ} {s : CStr} (h : s.strlen ≤ n) : s.cut n = s :=
  CStr.ext (List.take_of_length_le h)

/-- A cut is the string itself exactly when the string fits. -/
theorem cut_eq_self_iff {n : ℕ} {s : CStr} : s.cut n = s ↔ s.strlen ≤ n := by
  constructor
  · intro h
    rw [← h]
    exact strlen_cut_le n s
  · exact cut_of_le

/-- Cutting twice is cutting at the smaller bound. -/
theorem cut_cut (m n : ℕ) (s : CStr) : (s.cut n).cut m = s.cut (min m n) :=
  CStr.ext (List.take_take ..)

/-- A string longer than the field is never what the field holds. -/
theorem ne_of_lt_strlen {n : ℕ} {a b : CStr} (ha : a.strlen ≤ n) (hb : n < b.strlen) : a ≠ b := by
  rintro rfl
  omega

/-- `strncmp(a, b, n) == 0`. -/
def strncmpEq (n : ℕ) (a b : CStr) : Bool := a.cut n == b.cut n

theorem strncmpEq_iff {n : ℕ} {a b : CStr} : strncmpEq n a b = true ↔ a.cut n = b.cut n :=
  beq_iff_eq

/-- A comparison that reads past the end of one string is exact. -/
theorem strncmpEq_iff_of_lt {n : ℕ} {a b : CStr} (ha : a.strlen < n) :
    strncmpEq n a b = true ↔ a = b := by
  rw [strncmpEq_iff, cut_of_le (le_of_lt ha)]
  constructor
  · intro h
    have hlen : (b.cut n).strlen < n := h ▸ ha
    rw [strlen_cut] at hlen
    rw [h]
    exact cut_of_le (by omega)
  · rintro rfl
    exact (cut_of_le (le_of_lt ha)).symm

end CStr

/-! ## Stored strings -/

/-- A string kept in a field with room for `n` bytes. -/
structure Field (n : ℕ) where
  str : CStr
  fits : str.strlen ≤ n
  deriving DecidableEq

namespace Field

variable {n : ℕ}

@[ext] theorem ext {a b : Field n} (h : a.str = b.str) : a = b := by
  cases a
  cases b
  cases h
  rfl

/-- `strncpy(dst, src, n)`. -/
def store (n : ℕ) (s : CStr) : Field n := ⟨s.cut n, s.strlen_cut_le n⟩

/-- A field of zero bytes. -/
def zero (n : ℕ) : Field n := ⟨CStr.empty, Nat.zero_le n⟩

@[simp] theorem store_str (s : CStr) : (store n s).str = s.cut n := rfl

theorem store_str_of_le {s : CStr} (h : s.strlen ≤ n) : (store n s).str = s := CStr.cut_of_le h

/-- Storing what a field already holds changes nothing. -/
theorem store_field (f : Field n) : store n f.str = f := Field.ext (CStr.cut_of_le f.fits)

/-- `strncmp` over at least the whole field compares the stored cut with the argument's cut. -/
theorem strncmpEq_iff {m : ℕ} (hm : n ≤ m) {f : Field n} {s : CStr} :
    CStr.strncmpEq m f.str s = true ↔ f.str = s.cut m := by
  rw [CStr.strncmpEq_iff, CStr.cut_of_le (le_trans f.fits hm)]

/-- Read past a terminator, `strncmp` compares the whole argument: a field with room for its
terminator is taken for the string it stores and for no other. -/
theorem strncmpEq_terminated_iff {f : Field n} {s : CStr} :
    CStr.strncmpEq (n + 1) f.str s = true ↔ f.str = s :=
  CStr.strncmpEq_iff_of_lt (Nat.lt_succ_of_le f.fits)

end Field

end AsynCS
