import Mathlib

/-!
# Bytes, fixed-size buffers, and bounded encoders

The byte-level vocabulary of a C program that builds and parses wire formats:
byte strings, `uint8_t[n]` buffers, big-endian 32-bit lengths, a bounded output
buffer, and a reader that consumes its input from the front.

* `Block n`: a buffer of exactly `n` bytes; `Block.ofBytes` is `memcpy` into a zeroed one.
* `u32be` / `readU32be`: a 32-bit length in network order, with `readU32be_u32be_append`.
* `appendBytes` / `writeParts`: appending to an output buffer of a fixed capacity.  The
  one fact about it is `writeParts_eq_some_iff`: a sequence of appends succeeds exactly
  when the parts fit together, and then it writes their concatenation.
* `takeBytes`: the next `n` bytes of the input; `takeBytes_append` reads back what was
  written and `takeBytes_eq_some_iff` inverts a successful read.
-/

namespace AsynCS

/-- A byte string. -/
abbrev Bytes := List UInt8

/-- A buffer of exactly `n` bytes, a `uint8_t[n]`. -/
abbrev Block (n : ℕ) := List.Vector UInt8 n

/-- The bytes of an ASCII literal. -/
def ascii (s : String) : Bytes := s.toList.map fun c => UInt8.ofNat c.toNat

namespace Block

/-- The buffer with every byte equal to `b`, as `memset` leaves it. -/
def fill (n : ℕ) (b : UInt8) : Block n := List.Vector.replicate n b

/-- `memcpy` of at most `n` bytes into a zeroed `uint8_t[n]`. -/
def ofBytes (n : ℕ) (b : Bytes) : Block n :=
  ⟨(b ++ List.replicate n 0).take n, by
    rw [List.length_take, List.length_append, List.length_replicate]
    omega⟩

/-- The first `m` bytes of a buffer of at least `m`. -/
def first {n : ℕ} (m : ℕ) (b : Block n) : Block m := ofBytes m b.toList

/-- The buffer read from the last byte to the first. -/
def reverse {n : ℕ} (b : Block n) : Block n :=
  ⟨b.toList.reverse, by rw [List.length_reverse, List.Vector.toList_length]⟩

/-- `memcpy(b + offset, data, data.length)`, inside the buffer. -/
def write {n : ℕ} (b : Block n) (offset : ℕ) (data : Bytes) (h : offset + data.length ≤ n) :
    Block n :=
  ⟨b.toList.take offset ++ data ++ b.toList.drop (offset + data.length), by
    rw [List.length_append, List.length_append, List.length_take, List.length_drop,
      List.Vector.toList_length]
    omega⟩

/-- Copying keeps the first bytes of the source, as many as there are. -/
theorem take_toList_ofBytes {m n : ℕ} {b : Bytes} (hb : b.length = m) (h : m ≤ n) :
    (ofBytes n b).toList.take m = b := by
  show ((b ++ List.replicate n 0).take n).take m = b
  rw [List.take_take, Nat.min_eq_left h, ← hb, List.take_left]

/-- Copying exactly `n` bytes keeps all of them. -/
theorem toList_ofBytes {n : ℕ} {b : Bytes} (h : b.length = n) : (ofBytes n b).toList = b := by
  have hlen : (ofBytes n b).toList.length ≤ n := le_of_eq (ofBytes n b).toList_length
  exact (List.take_of_length_le hlen).symm.trans (take_toList_ofBytes h le_rfl)

/-- Copying a buffer's own bytes gives the buffer back. -/
theorem ofBytes_toList {n : ℕ} (b : Block n) : ofBytes n b.toList = b :=
  List.Vector.eq _ _ (toList_ofBytes b.toList_length)

end Block

/-! ## Big-endian lengths -/

/-- The four bytes of a 32-bit value, most significant first. -/
def u32be (n : ℕ) : Bytes :=
  [UInt8.ofNat (n / 16777216), UInt8.ofNat (n / 65536), UInt8.ofNat (n / 256), UInt8.ofNat n]

@[simp] theorem length_u32be (n : ℕ) : (u32be n).length = 4 := rfl

/-- Read a 32-bit value, most significant byte first, and the bytes after it. -/
def readU32be : Bytes → Option (ℕ × Bytes)
  | a :: b :: c :: d :: rest =>
    some (a.toNat * 16777216 + b.toNat * 65536 + c.toNat * 256 + d.toNat, rest)
  | _ => none

/-- A 32-bit value that was written is read back. -/
theorem readU32be_u32be_append {n : ℕ} (h : n < 2 ^ 32) (rest : Bytes) :
    readU32be (u32be n ++ rest) = some (n, rest) := by
  simp only [u32be, readU32be, List.cons_append, List.nil_append, UInt8.toNat_ofNat',
    Option.some.injEq, Prod.mk.injEq, and_true]
  omega

/-! ## Appending to a bounded buffer -/

/-- Append `data` to the `out.length` bytes already written to a buffer of `capacity` bytes,
or fail when the rest of the buffer is too small. -/
def appendBytes (capacity : ℕ) (out data : Bytes) : Option Bytes :=
  if capacity < out.length ∨ capacity - out.length < data.length then none
  else some (out ++ data)

/-- Append the parts in order; the first that does not fit ends the write. -/
def writeParts (capacity : ℕ) (parts : List Bytes) (out : Bytes) : Option Bytes :=
  parts.foldlM (appendBytes capacity) out

theorem appendBytes_eq_some_iff {capacity : ℕ} {out data r : Bytes} :
    appendBytes capacity out data = some r ↔
      out.length + data.length ≤ capacity ∧ r = out ++ data := by
  unfold appendBytes
  split
  · rename_i h
    constructor
    · intro hn
      exact absurd hn (by simp)
    · rintro ⟨hle, -⟩
      omega
  · rename_i h
    constructor
    · intro hs
      exact ⟨by omega, (Option.some.inj hs).symm⟩
    · rintro ⟨-, rfl⟩
      rfl

/-- **A sequence of appends** succeeds exactly when everything fits together, and then the
buffer holds the concatenation. -/
theorem writeParts_eq_some_iff {capacity : ℕ} {parts : List Bytes} {out r : Bytes}
    (hout : out.length ≤ capacity) :
    writeParts capacity parts out = some r ↔
      (out ++ parts.flatten).length ≤ capacity ∧ r = out ++ parts.flatten := by
  induction parts generalizing out with
  | nil =>
    simp only [writeParts, List.foldlM_nil, List.flatten_nil, List.append_nil]
    constructor
    · intro h
      exact ⟨hout, (Option.some.inj h).symm⟩
    · rintro ⟨-, rfl⟩
      rfl
  | cons p parts ih =>
    simp only [writeParts, List.foldlM_cons, Option.bind_eq_bind, Option.bind_eq_some_iff,
      appendBytes_eq_some_iff] at ih ⊢
    constructor
    · rintro ⟨mid, ⟨hfit, rfl⟩, hrest⟩
      have h := (ih (by rw [List.length_append]; exact hfit)).mp hrest
      simpa only [List.flatten_cons, List.append_assoc] using h
    · rintro ⟨hfit, rfl⟩
      rw [List.flatten_cons, ← List.append_assoc] at hfit
      have hmid : out.length + p.length ≤ capacity := by
        rw [List.length_append, List.length_append] at hfit
        omega
      refine ⟨out ++ p, ⟨hmid, rfl⟩, ?_⟩
      refine (ih (by rw [List.length_append]; exact hmid)).mpr ⟨hfit, ?_⟩
      rw [List.flatten_cons, List.append_assoc]

/-- Writing to an empty buffer. -/
theorem writeParts_nil_eq_some_iff {capacity : ℕ} {parts : List Bytes} {r : Bytes} :
    writeParts capacity parts [] = some r ↔ r.length ≤ capacity ∧ r = parts.flatten := by
  rw [writeParts_eq_some_iff (Nat.zero_le capacity), List.nil_append]
  constructor
  · rintro ⟨hfit, rfl⟩
    exact ⟨hfit, rfl⟩
  · rintro ⟨hfit, rfl⟩
    exact ⟨hfit, rfl⟩

/-- A sequence of appends that does not fit fails. -/
theorem writeParts_eq_none {capacity : ℕ} {parts : List Bytes}
    (h : capacity < parts.flatten.length) : writeParts capacity parts [] = none := by
  cases hw : writeParts capacity parts [] with
  | none => rfl
  | some r =>
    obtain ⟨hfit, rfl⟩ := writeParts_nil_eq_some_iff.mp hw
    omega

/-! ## Reading from the front -/

/-- Take the next `n` bytes, or fail when fewer remain. -/
def takeBytes (n : ℕ) (input : Bytes) : Option (Bytes × Bytes) :=
  if input.length < n then none else some (input.take n, input.drop n)

/-- Reading back a field of known length. -/
theorem takeBytes_append {n : ℕ} {a : Bytes} (h : a.length = n) (rest : Bytes) :
    takeBytes n (a ++ rest) = some (a, rest) := by
  subst h
  rw [takeBytes, if_neg (by rw [List.length_append]; omega), List.take_left, List.drop_left]

/-- A successful read splits the input at `n`. -/
theorem takeBytes_eq_some_iff {n : ℕ} {input a rest : Bytes} :
    takeBytes n input = some (a, rest) ↔ input = a ++ rest ∧ a.length = n := by
  constructor
  · intro h
    unfold takeBytes at h
    split at h
    · exact absurd h (by simp)
    · rename_i hlen
      obtain ⟨rfl, rfl⟩ := Prod.mk.inj (Option.some.inj h)
      exact ⟨(List.take_append_drop n input).symm, by rw [List.length_take]; omega⟩
  · rintro ⟨rfl, h⟩
    exact takeBytes_append h rest

/-- One step of a reader that gets what it asks for. -/
theorem read_then {α β : Type} {x : Option α} {f : α → Option β} {a : α} {b : β}
    (hx : x = some a) (hf : f a = some b) : (x >>= f) = some b :=
  Option.bind_eq_some_iff.mpr ⟨a, hx, hf⟩

/-! ## Hexadecimal text -/

/-- The lower-case hexadecimal digit of a value below sixteen. -/
def hexDigit (n : ℕ) : UInt8 :=
  if n < 10 then UInt8.ofNat (48 + n) else UInt8.ofNat (87 + n)

/-- Two lower-case digits a byte, high half first. -/
def hexEncode (b : Bytes) : Bytes :=
  b.flatMap fun x => [hexDigit (x.toNat / 16), hexDigit (x.toNat % 16)]

theorem hexDigit_ne_zero {n : ℕ} (h : n < 16) : hexDigit n ≠ 0 := by
  revert n
  decide

/-- Hexadecimal text has no NUL byte. -/
theorem hexEncode_noNul {b : Bytes} {x : UInt8} (h : x ∈ hexEncode b) : x ≠ 0 := by
  obtain ⟨y, -, hx⟩ := List.mem_flatMap.mp h
  have hy : y.toNat < 256 := y.toNat_lt
  rcases List.mem_pair.mp hx with rfl | rfl
  · exact hexDigit_ne_zero (by omega)
  · exact hexDigit_ne_zero (by omega)

@[simp] theorem length_hexEncode (b : Bytes) : (hexEncode b).length = 2 * b.length := by
  induction b with
  | nil => rfl
  | cons x b ih =>
    simp only [hexEncode, List.flatMap_cons, List.length_append, List.length_cons,
      List.length_nil] at ih ⊢
    omega

end AsynCS
