import AsynCS.Lib.Stream

/-!
# Fields of a big-endian buffer

* `bigEndian`, `ofBigEndian`: words with the most significant byte first.
* `putInt`, `getInt`, `putLong`, `getLong`: signed words, read back both ways.
* `slice`: what stands at an offset, with `slice_append_slice` and `slice_append_of_le`.
-/

namespace AsynCS

/-! ## Words -/

/-- The bytes of a word determine them. -/
theorem leBytes_ofLeBytes (b : Bytes) : leBytes b.length (ofLeBytes b) = b := by
  induction b with
  | nil => rfl
  | cons x b ih =>
    have hx := x.toNat_lt
    have hlow : UInt8.ofNat (x.toNat + 256 * ofLeBytes b) = x := by
      refine UInt8.toNat_inj.mp ?_
      rw [UInt8.toNat_ofNat']
      omega
    have hhigh : (x.toNat + 256 * ofLeBytes b) / 256 = ofLeBytes b := by omega
    rw [List.length_cons, ofLeBytes, leBytes, hlow, hhigh, ih]

/-- A word of `k` bytes is below `256 ^ k`. -/
theorem ofLeBytes_lt (b : Bytes) : ofLeBytes b < 256 ^ b.length := by
  induction b with
  | nil => exact Nat.one_pos
  | cons x b ih =>
    have hx := x.toNat_lt
    rw [List.length_cons, pow_succ, ofLeBytes]
    omega

/-- The low `k` bytes of a number, the most significant first. -/
def bigEndian (k n : ℕ) : Bytes := (leBytes k n).reverse

/-- The number stored in some bytes, the most significant first. -/
def ofBigEndian (b : Bytes) : ℕ := ofLeBytes b.reverse

@[simp] theorem length_bigEndian (k n : ℕ) : (bigEndian k n).length = k := by
  rw [bigEndian, List.length_reverse, length_leBytes]

theorem ofBigEndian_bigEndian {k n : ℕ} (h : n < 256 ^ k) : ofBigEndian (bigEndian k n) = n := by
  rw [ofBigEndian, bigEndian, List.reverse_reverse, ofLeBytes_leBytes h]

theorem bigEndian_ofBigEndian {k : ℕ} {b : Bytes} (h : b.length = k) :
    bigEndian k (ofBigEndian b) = b := by
  have hb := leBytes_ofLeBytes b.reverse
  rw [List.length_reverse, h] at hb
  rw [bigEndian, ofBigEndian, hb, List.reverse_reverse]

theorem ofBigEndian_lt {k : ℕ} {b : Bytes} (h : b.length = k) : ofBigEndian b < 256 ^ k := by
  have hb := ofLeBytes_lt b.reverse
  rwa [List.length_reverse, h] at hb

/-! ## Signed words -/

/-- `putInt` -/
def putInt (v : Int32) : Bytes := bigEndian 4 v.toUInt32.toNat

/-- `getInt` -/
def getInt (b : Bytes) : Int32 := (UInt32.ofNat (ofBigEndian b)).toInt32

/-- `putLong` -/
def putLong (v : Int64) : Bytes := bigEndian 8 v.toUInt64.toNat

/-- `getLong` -/
def getLong (b : Bytes) : Int64 := (UInt64.ofNat (ofBigEndian b)).toInt64

@[simp] theorem length_putInt (v : Int32) : (putInt v).length = 4 := length_bigEndian 4 _

@[simp] theorem length_putLong (v : Int64) : (putLong v).length = 8 := length_bigEndian 8 _

theorem getInt_putInt (v : Int32) : getInt (putInt v) = v := by
  have hlt : v.toUInt32.toNat < 256 ^ 4 := v.toUInt32.toNat_lt
  rw [getInt, putInt, ofBigEndian_bigEndian hlt, UInt32.ofNat_toNat]
  rfl

theorem getLong_putLong (v : Int64) : getLong (putLong v) = v := by
  have hlt : v.toUInt64.toNat < 256 ^ 8 := v.toUInt64.toNat_lt
  rw [getLong, putLong, ofBigEndian_bigEndian hlt, UInt64.ofNat_toNat]
  rfl

theorem putInt_getInt {b : Bytes} (h : b.length = 4) : putInt (getInt b) = b := by
  have hlt : ofBigEndian b < 2 ^ 32 := ofBigEndian_lt h
  show bigEndian 4 (UInt32.ofNat (ofBigEndian b)).toNat = b
  rw [UInt32.toNat_ofNat_of_lt' hlt, bigEndian_ofBigEndian h]

theorem putLong_getLong {b : Bytes} (h : b.length = 8) : putLong (getLong b) = b := by
  have hlt : ofBigEndian b < 2 ^ 64 := ofBigEndian_lt h
  show bigEndian 8 (UInt64.ofNat (ofBigEndian b)).toNat = b
  rw [UInt64.toNat_ofNat_of_lt' hlt, bigEndian_ofBigEndian h]

/-! ## Fields -/

/-- The `n` bytes at an offset. -/
def slice (offset n : ℕ) (b : Bytes) : Bytes := (b.drop offset).take n

theorem length_slice {offset n : ℕ} {b : Bytes} (h : offset + n ≤ b.length) :
    (slice offset n b).length = n := by
  rw [slice, List.length_take, List.length_drop]
  omega

/-- Neighbouring fields are one field. -/
theorem slice_append_slice {offset m next : ℕ} (h : offset + m = next) (n : ℕ) (b : Bytes) :
    slice offset m b ++ slice next n b = slice offset (m + n) b := by
  rw [← h, slice, slice, slice, ← List.drop_drop, List.take_add]

theorem slice_zero_length (b : Bytes) : slice 0 b.length b = b := by
  rw [slice, List.drop_zero, List.take_length]

/-- The first field. -/
theorem slice_append_left {a : Bytes} {n : ℕ} (h : a.length = n) (rest : Bytes) :
    slice 0 n (a ++ rest) = a := by
  rw [slice, List.drop_zero, List.take_left' h]

/-- A field behind another one. -/
theorem slice_append_of_le {a : Bytes} {offset : ℕ} (h : a.length ≤ offset) (n : ℕ)
    (rest : Bytes) : slice offset n (a ++ rest) = slice (offset - a.length) n rest := by
  rw [slice, slice, List.drop_append, List.drop_eq_nil_of_le h, List.nil_append]

end AsynCS
