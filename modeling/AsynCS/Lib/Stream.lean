import AsynCS.Lib.Bytes

/-!
# Reads from a stream, and words in memory order

A stream hands over its bytes in pieces that the reader does not choose.  `readUpTo` fills a
buffer from it.

* `leBytes`, `ofLeBytes` with `ofLeBytes_leBytes`: an unsigned word as a little-endian machine
  stores it.
* `Carries`: the reads that bring some bytes, cut in any way and interrupted any number of times.
* `readUpTo_of_carries`: a reader with room for them gets exactly these bytes and goes on.
* `readUpTo_of_delivers`, `readUpTo_of_breaks`: the stream ends, or a read fails.
-/

namespace AsynCS

/-! ## Words in memory order -/

/-- The low `k` bytes of a number, the least significant first. -/
def leBytes : ℕ → ℕ → Bytes
  | 0, _ => []
  | k + 1, n => UInt8.ofNat n :: leBytes k (n / 256)

/-- The number stored in some bytes, the least significant first. -/
def ofLeBytes : Bytes → ℕ
  | [] => 0
  | x :: b => x.toNat + 256 * ofLeBytes b

@[simp] theorem length_leBytes (k n : ℕ) : (leBytes k n).length = k := by
  induction k generalizing n with
  | zero => rfl
  | succ k ih => rw [leBytes, List.length_cons, ih]

/-- A stored word is read back. -/
theorem ofLeBytes_leBytes {k n : ℕ} (h : n < 256 ^ k) : ofLeBytes (leBytes k n) = n := by
  induction k generalizing n with
  | zero =>
    rw [pow_zero] at h
    rw [leBytes, ofLeBytes]
    omega
  | succ k ih =>
    rw [pow_succ] at h
    rw [leBytes, ofLeBytes, ih (by omega), UInt8.toNat_ofNat']
    omega

/-! ## Reads -/

/-- What one `read` gives: some bytes, `EINTR`, or another error.  No bytes are the end of the
stream. -/
inductive ReadEvent where
  | chunk (b : Bytes)
  | interrupted
  | failed
  deriving DecidableEq

/-- Read until `capacity` bytes are there or the stream ends.  A read asks for what is missing,
so of a longer chunk only the beginning is taken. -/
def readUpTo (capacity : ℕ) : List ReadEvent → Bytes → Option Bytes
  | [], got => some got
  | event :: events, got =>
    if capacity ≤ got.length then some got
    else
      match event with
      | .interrupted => readUpTo capacity events got
      | .failed => none
      | .chunk b =>
        if b = [] then some got
        else readUpTo capacity events (got ++ b.take (capacity - got.length))

/-- The reads bring the bytes `b`, and then come the reads `rest`. -/
inductive Carries (rest : List ReadEvent) : List ReadEvent → Bytes → Prop
  | done : Carries rest rest []
  | interrupted {events : List ReadEvent} {b : Bytes} :
    Carries rest events b → Carries rest (.interrupted :: events) b
  | chunk {events : List ReadEvent} {b : Bytes} {c : Bytes} :
    c ≠ [] → Carries rest events b → Carries rest (.chunk c :: events) (c ++ b)

/-- The reads bring the bytes `b`, and then the stream ends. -/
def Delivers (events : List ReadEvent) (b : Bytes) : Prop := Carries [] events b

/-- All bytes in one piece. -/
theorem delivers_chunk {b : Bytes} (h : b ≠ []) : Delivers [.chunk b] b := by
  have hone : Carries [] [.chunk b] (b ++ []) := Carries.chunk h Carries.done
  rwa [List.append_nil] at hone

/-- The reads bring the bytes `b`, and then one fails. -/
def Breaks (events : List ReadEvent) (b : Bytes) : Prop :=
  ∃ rest, Carries (.failed :: rest) events b

theorem readUpTo_of_full {capacity : ℕ} {events : List ReadEvent} {got : Bytes}
    (h : capacity ≤ got.length) : readUpTo capacity events got = some got := by
  cases events with
  | nil => rfl
  | cons event events =>
    show (if capacity ≤ got.length then some got else _) = some got
    exact if_pos h

/-- **However the stream is cut**, a reader with room gets the bytes in order. -/
theorem readUpTo_of_carries {capacity : ℕ} {rest events : List ReadEvent} {b : Bytes}
    (h : Carries rest events b) {got : Bytes} (hroom : got.length + b.length ≤ capacity) :
    readUpTo capacity events got = readUpTo capacity rest (got ++ b) := by
  induction h generalizing got with
  | done => rw [List.append_nil]
  | @interrupted events b h ih =>
    rw [readUpTo]
    split
    · rename_i hfull
      have hb : b = [] := List.length_eq_zero_iff.mp (by omega)
      rw [hb, List.append_nil, readUpTo_of_full hfull]
    · exact ih hroom
  | @chunk events b c hne h ih =>
    have hpos : 0 < c.length := List.length_pos_iff.mpr hne
    rw [List.length_append] at hroom
    rw [readUpTo, if_neg (by omega)]
    show (if c = [] then some got
      else readUpTo capacity events (got ++ c.take (capacity - got.length))) = _
    rw [if_neg hne, List.take_of_length_le (by omega), ih (by rw [List.length_append]; omega),
      List.append_assoc]

/-- A stream that ends is read to its end. -/
theorem readUpTo_of_delivers {capacity : ℕ} {events : List ReadEvent} {b : Bytes}
    (h : Delivers events b) (hroom : b.length ≤ capacity) :
    readUpTo capacity events [] = some b :=
  readUpTo_of_carries h (by rw [List.length_nil, Nat.zero_add]; exact hroom)

/-- A read that fails before the buffer is full fails them all. -/
theorem readUpTo_of_breaks {capacity : ℕ} {events : List ReadEvent} {b : Bytes}
    (h : Breaks events b) (hroom : b.length < capacity) : readUpTo capacity events [] = none := by
  obtain ⟨rest, h⟩ := h
  rw [readUpTo_of_carries h (by rw [List.length_nil]; omega), List.nil_append, readUpTo,
    if_neg (by omega)]

end AsynCS
