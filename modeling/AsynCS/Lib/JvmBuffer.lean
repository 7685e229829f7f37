import AsynCS.Lib.ByteBuffer
import AsynCS.Lib.Json

/-!
# Byte strings and buffers that raise

* `ByteString`: bytes that fit an array, whose length is an `int`; `length_eq_add_iff`: a sum of
  lengths that wraps is the length of no byte string.
* `Raises`, `BufferReader`: computations that give a value or throw; `getByte_drop`,
  `getBytes_drop`: a read inside the buffer does not throw.
* `filled`: a buffer after some writes.
* `Either`: computations that answer `Right` or `Left`, or throw.
-/

namespace AsynCS

/-! ## Lengths -/

/-- The bytes of an array. -/
abbrev ByteString := {b : Bytes // b.length < 2 ^ 31}

namespace ByteString

/-- `length` -/
def length (b : ByteString) : Int32 := Int32.ofNat b.1.length

theorem toInt_length (b : ByteString) : b.length.toInt = b.1.length :=
  Int32.toInt_ofNat_of_lt b.2

theorem length_eq_ofNat_iff (b : ByteString) {n : ℕ} (h : n < 2 ^ 31) :
    b.length = Int32.ofNat n ↔ b.1.length = n := by
  rw [← Int32.toInt_inj, b.toInt_length, Int32.toInt_ofNat_of_lt h, Nat.cast_inj]

theorem length_lt_ofNat_iff (b : ByteString) {n : ℕ} (h : n < 2 ^ 31) :
    b.length < Int32.ofNat n ↔ b.1.length < n := by
  rw [Int32.lt_iff_toInt_lt, b.toInt_length, Int32.toInt_ofNat_of_lt h, Nat.cast_lt]

end ByteString

/-- A sum of `int`s that fits. -/
theorem toInt_add_of_lt {m n : Int32} (hm : 0 ≤ m.toInt) (hn : 0 ≤ n.toInt)
    (h : m.toInt + n.toInt < 2 ^ 31) : (m + n).toInt = m.toInt + n.toInt := by
  rw [Int32.toInt_add, Int.bmod_def, Int.emod_eq_of_lt (by omega) (by omega), if_pos (by omega)]

/-- A sum of `int`s that does not fit is negative. -/
theorem toInt_add_neg {m n : Int32} (h : 2 ^ 31 ≤ m.toInt + n.toInt) :
    (m + n).toInt < 0 := by
  have hm := m.toInt_lt
  have hn := n.toInt_lt
  rw [Int32.toInt_add, Int.bmod_def, Int.emod_eq_of_lt (by omega) (by omega), if_neg (by omega)]
  omega

/-- **The wrapped sum** of two lengths is the length of a byte string only when nothing was
lost. -/
theorem length_eq_add_iff (b : ByteString) {m n : Int32} (hm : 0 ≤ m.toInt) (hn : 0 ≤ n.toInt) :
    b.length = m + n ↔ (b.1.length : Int) = m.toInt + n.toInt := by
  have hb := b.2
  rw [← Int32.toInt_inj, b.toInt_length]
  constructor
  · intro h
    by_cases hfit : m.toInt + n.toInt < 2 ^ 31
    · rw [h, toInt_add_of_lt hm hn hfit]
    · have hneg := toInt_add_neg (not_lt.mp hfit)
      omega
  · intro h
    rw [toInt_add_of_lt hm hn (by omega)]
    exact h

/-! ## Reading -/

/-- What a computation throws. -/
inductive Throwable where
  | bufferUnderflow
  | bufferOverflow
  | noSuchElement
  | illegalArgument (message : Text)

/-- A computation that gives a value or throws. -/
abbrev Raises := Except Throwable

/-- `require` of a constructor. -/
def requireThat (condition : Prop) [Decidable condition] (message : Text) : Raises Unit :=
  check condition (.illegalArgument message)

/-- Reading from a buffer.  The state is what remains. -/
abbrev BufferReader := StateT Bytes Raises

namespace BufferReader

/-- `get()` -/
def getByte : BufferReader UInt8
  | [] => .error .bufferUnderflow
  | x :: rest => .ok (x, rest)

/-- `get(array)` of an array of `n` bytes. -/
def getBytes (n : ℕ) : BufferReader Bytes := fun rest =>
  if n ≤ rest.length then .ok (rest.take n, rest.drop n) else .error .bufferUnderflow

/-- `getLong()` -/
def getLong : BufferReader Int64 := do
  let bytes ← getBytes 8
  pure (AsynCS.getLong bytes)

/-- `getInt()` -/
def getInt : BufferReader Int32 := do
  let bytes ← getBytes 4
  pure (AsynCS.getInt bytes)

variable {b : Bytes} {offset n : ℕ} {α : Type}

theorem getByte_drop (h : offset < b.length) (f : UInt8 → BufferReader α) :
    (getByte >>= f).run (b.drop offset) = (f (b.getD offset 0)).run (b.drop (offset + 1)) := by
  rw [List.drop_eq_getElem_cons h, List.getD_eq_getElem _ _ h]
  rfl

theorem getBytes_drop (h : offset + n ≤ b.length) (f : Bytes → BufferReader α) :
    (getBytes n >>= f).run (b.drop offset) = (f (slice offset n b)).run (b.drop (offset + n)) := by
  have hlen : n ≤ (b.drop offset).length := by
    rw [List.length_drop]
    omega
  show ((if n ≤ (b.drop offset).length then _ else _ : Raises (Bytes × Bytes)) >>= _) = _
  rw [if_pos hlen, List.drop_drop]
  rfl

theorem getLong_drop (h : offset + 8 ≤ b.length) (f : Int64 → BufferReader α) :
    (getLong >>= f).run (b.drop offset) =
      (f (AsynCS.getLong (slice offset 8 b))).run (b.drop (offset + 8)) := by
  unfold getLong
  rw [bind_assoc, getBytes_drop h]
  rfl

theorem getInt_drop (h : offset + 4 ≤ b.length) (f : Int32 → BufferReader α) :
    (getInt >>= f).run (b.drop offset) =
      (f (AsynCS.getInt (slice offset 4 b))).run (b.drop (offset + 4)) := by
  unfold getInt
  rw [bind_assoc, getBytes_drop h]
  rfl

end BufferReader

/-! ## Writing -/

/-- The array of a buffer of `size` bytes after writes, one behind the other. -/
def filled (size : ℕ) (written : Bytes) : Raises Bytes :=
  if written.length ≤ size then .ok (written ++ List.replicate (size - written.length) 0)
  else .error .bufferOverflow

/-- Writes that fill the buffer are its array. -/
theorem filled_of_length {size : ℕ} {written : Bytes} (h : written.length = size) :
    filled size written = .ok written := by
  rw [filled, if_pos h.le, h, Nat.sub_self, List.replicate_zero, List.append_nil]

/-! ## Right, left or thrown -/

/-- A computation that answers right or left, or throws. -/
abbrev Either := ExceptT Text Raises

namespace Either

variable {α β γ : Type}

/-- `Either.cond` -/
def cond (condition : Prop) [Decidable condition] (message : Text) : Either Unit :=
  .mk (.ok (check condition message))

/-- An answer that is there. -/
def ofAnswer (answer : Except Text α) : Either α := .mk (.ok answer)

/-- A part that may throw. -/
def ofRaises (x : Raises α) : Either α := .lift x

/-- A condition that agrees with a check. -/
theorem cond_bind_run {p q : Prop} [Decidable p] [Decidable q] {message : Text} {f : Unit → Either α}
    {g : Unit → Except Text β} {r : β → α} (hpq : p ↔ q)
    (h : p → (f ()).run = .ok ((g ()).map r)) :
    (cond p message >>= f).run = .ok ((check q message >>= g).map r) := by
  unfold cond check
  by_cases hp : p
  · rw [if_pos hp, if_pos (hpq.mp hp)]
    exact h hp
  · rw [if_neg hp, if_neg fun hq => hp (hpq.mpr hq)]
    rfl

/-- An answer that both sides go on with. -/
theorem ofAnswer_bind_run {answer : Except Text γ} {f : γ → Either α} {g : γ → Except Text β}
    {r : β → α} (h : ∀ a, answer = .ok a → (f a).run = .ok ((g a).map r)) :
    (ofAnswer answer >>= f).run = .ok ((answer >>= g).map r) := by
  cases hanswer : answer with
  | error message => rfl
  | ok a => exact h a hanswer

/-- A part that does not throw. -/
theorem ofRaises_ok_bind {x : Raises γ} {a : γ} (h : x = .ok a) (f : γ → Either α) :
    (ofRaises x >>= f).run = (f a).run := by
  rw [h]
  rfl

end Either
end AsynCS
