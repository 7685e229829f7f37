import AsynCS.Lib.PyStr

/-!
# 64-bit numbers in decimal, as the Java library reads and writes them

* `longText`: `Long.toString`.
* `parseLong`: `Long.parseLong`, with `parseLong_longText`.
-/

namespace AsynCS

/-- `Character.digit(c, 10)`.  A character outside the basic plane is two `char`s, and no
digit. -/
def characterDigit10 (c : Char) : Option ℕ :=
  if 0x10000 ≤ c.toNat then none else decimalValue c

/-- The value of decimal digits, at least one of them. -/
def digits10 (t : Text) : Option ℕ :=
  if t = [] then none
  else t.foldlM (fun value c => (characterDigit10 c).map (10 * value + ·)) 0

/-- A number with or without a sign. -/
def signed10 (t : Text) : Option Int :=
  if t.head? = some '-' then (digits10 t.tail).map fun value : ℕ => -(value : Int)
  else if t.head? = some '+' then (digits10 t.tail).map fun value : ℕ => (value : Int)
  else (digits10 t).map fun value : ℕ => (value : Int)

/-- A number that fits 64 bits. -/
def toLong (value : Int) : Option Int64 :=
  if -2 ^ 63 ≤ value ∧ value < 2 ^ 63 then some (Int64.ofInt value) else none

/-- `Long.parseLong`: `none` for the `NumberFormatException`. -/
def parseLong (t : Text) : Option Int64 := signed10 t >>= toLong

/-- `Long.toString` -/
def longText (n : Int64) : Text :=
  if n.toInt < 0 then '-' :: Nat.toDigits 10 n.toInt.natAbs else Nat.toDigits 10 n.toInt.natAbs

/-! ## Reading back -/

theorem toLong_toInt (n : Int64) : toLong n.toInt = some n := by
  unfold toLong
  rw [if_pos ⟨n.le_toInt, n.toInt_lt⟩, Int64.ofInt_toInt]

/-- An ASCII digit is what it looks like. -/
theorem characterDigit10_of_isDigit {c : Char} (h : 48 ≤ c.toNat ∧ c.toNat ≤ 57) :
    characterDigit10 c = some (c.toNat - 48) := by
  have hfirst : decimalZeros.find?
      (fun first => first ≤ c.toNat && c.toNat < first + 10) = some 48 := by
    unfold decimalZeros
    rw [List.find?_cons_of_pos]
    rw [Bool.and_eq_true, decide_eq_true_eq, decide_eq_true_eq]
    omega
  unfold characterDigit10 decimalValue
  rw [if_neg (by omega), hfirst]
  rfl

theorem digit_of_mem_toDigits {n : ℕ} {c : Char} (h : c ∈ Nat.toDigits 10 n) :
    48 ≤ c.toNat ∧ c.toNat ≤ 57 := by
  have hd := Nat.isDigit_of_mem_toDigits (by decide) le_rfl h
  simp only [Char.isDigit, Bool.and_eq_true, decide_eq_true_eq, ge_iff_le,
    UInt32.le_iff_toNat_le] at hd
  exact hd

/-- The fold over ASCII digits is the value that the digits have. -/
theorem foldlM_digits {t : Text} (h : ∀ c ∈ t, 48 ≤ c.toNat ∧ c.toNat ≤ 57) (value : ℕ) :
    t.foldlM (fun value c => (characterDigit10 c).map (10 * value + ·)) value =
      some (Nat.ofDigitChars 10 t value) := by
  induction t generalizing value with
  | nil => rfl
  | cons c t ih =>
    rw [List.foldlM_cons, characterDigit10_of_isDigit (h c List.mem_cons_self),
      Nat.ofDigitChars_cons]
    exact ih (fun d hd => h d (List.mem_cons_of_mem c hd)) _

theorem digits10_toDigits (n : ℕ) : digits10 (Nat.toDigits 10 n) = some n := by
  unfold digits10
  rw [if_neg Nat.toDigits_ne_nil, foldlM_digits fun c hc => digit_of_mem_toDigits hc,
    Nat.ofDigitChars_ten_toDigits]

/-- Digits are not taken for a sign. -/
theorem signed10_toDigits (n : ℕ) : signed10 (Nat.toDigits 10 n) = some (n : Int) := by
  have hhead : ∀ c : Char, ¬ (48 ≤ c.toNat ∧ c.toNat ≤ 57) →
      (Nat.toDigits 10 n).head? ≠ some c := by
    intro c hc h
    exact hc (digit_of_mem_toDigits (List.mem_of_mem_head? h))
  unfold signed10
  rw [if_neg (hhead '-' (by decide)), if_neg (hhead '+' (by decide)), digits10_toDigits]
  rfl

theorem signed10_longText (n : Int64) : signed10 (longText n) = some n.toInt := by
  unfold longText
  split
  · have hneg : -((n.toInt.natAbs : ℕ) : Int) = n.toInt := by omega
    show (digits10 (Nat.toDigits 10 n.toInt.natAbs)).map (fun value : ℕ => -(value : Int)) = _
    rw [digits10_toDigits, Option.map_some, hneg]
  · have hpos : ((n.toInt.natAbs : ℕ) : Int) = n.toInt := by omega
    rw [signed10_toDigits, hpos]

/-- **A number in decimal** is read back. -/
theorem parseLong_longText (n : Int64) : parseLong (longText n) = some n := by
  unfold parseLong
  rw [signed10_longText]
  exact toLong_toInt n

example : parseLong "9223372036854775808".toList = none := by decide

end AsynCS
