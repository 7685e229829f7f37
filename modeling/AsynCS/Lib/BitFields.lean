import Mathlib

/-!
# Fields of a word

A word that is put together from fields with shifts and `|`, and taken apart with shifts and masks,
read as a number.

* `toNat_or_of_dvd`: fields that do not overlap add up.
* `toNat_shiftLeft_of_lt`: a field that fits is multiplied.
* `toNat_pack3`, `toNat_pack4`: three bytes, and four sextets.
* `toNat_sextet`: a sextet of a word.
-/

namespace AsynCS

/-- Fields that do not overlap. -/
theorem toNat_or_of_dvd {a b : UInt32} {k : ℕ} (ha : 2 ^ k ∣ a.toNat) (hb : b.toNat < 2 ^ k) :
    (a ||| b).toNat = a.toNat + b.toNat := by
  obtain ⟨q, hq⟩ := ha
  rw [UInt32.toNat_or, hq, Nat.two_pow_add_eq_or_of_lt hb]

/-- A field that fits in front of `k` bits. -/
theorem toNat_shiftLeft_of_lt {a k : UInt32} (hk : k.toNat < 32)
    (ha : a.toNat * 2 ^ k.toNat < 2 ^ 32) : (a <<< k).toNat = a.toNat * 2 ^ k.toNat := by
  rw [UInt32.toNat_shiftLeft, Nat.mod_eq_of_lt hk, Nat.shiftLeft_eq, Nat.mod_eq_of_lt ha]

/-- A word of three bytes. -/
theorem toNat_pack3 {a b c : UInt32} (ha : a.toNat < 256) (hb : b.toNat < 256)
    (hc : c.toNat < 256) :
    ((a <<< 16) ||| (b <<< 8) ||| c).toNat = a.toNat * 65536 + b.toNat * 256 + c.toNat := by
  have h16 : (a <<< 16).toNat = a.toNat * 65536 :=
    toNat_shiftLeft_of_lt (by decide) (by simp; omega)
  have h8 : (b <<< 8).toNat = b.toNat * 256 := toNat_shiftLeft_of_lt (by decide) (by simp; omega)
  have hab : (a <<< 16 ||| b <<< 8).toNat = a.toNat * 65536 + b.toNat * 256 := by
    rw [toNat_or_of_dvd (k := 16) (by omega) (by omega), h16, h8]
  rw [toNat_or_of_dvd (k := 8) (by omega) (by omega), hab]

/-- A word of four sextets. -/
theorem toNat_pack4 {a b c d : UInt32} (ha : a.toNat < 64) (hb : b.toNat < 64) (hc : c.toNat < 64)
    (hd : d.toNat < 64) :
    ((a <<< 18) ||| (b <<< 12) ||| (c <<< 6) ||| d).toNat =
      a.toNat * 262144 + b.toNat * 4096 + c.toNat * 64 + d.toNat := by
  have h18 : (a <<< 18).toNat = a.toNat * 262144 :=
    toNat_shiftLeft_of_lt (by decide) (by simp; omega)
  have h12 : (b <<< 12).toNat = b.toNat * 4096 :=
    toNat_shiftLeft_of_lt (by decide) (by simp; omega)
  have h6 : (c <<< 6).toNat = c.toNat * 64 := toNat_shiftLeft_of_lt (by decide) (by simp; omega)
  have hab : (a <<< 18 ||| b <<< 12).toNat = a.toNat * 262144 + b.toNat * 4096 := by
    rw [toNat_or_of_dvd (k := 18) (by omega) (by omega), h18, h12]
  have habc : (a <<< 18 ||| b <<< 12 ||| c <<< 6).toNat =
      a.toNat * 262144 + b.toNat * 4096 + c.toNat * 64 := by
    rw [toNat_or_of_dvd (k := 12) (by omega) (by omega), hab, h6]
  rw [toNat_or_of_dvd (k := 6) (by omega) (by omega), habc]

/-- The sextet behind `k` bits. -/
theorem toNat_sextet {w k : UInt32} (hk : k.toNat < 32) :
    ((w >>> k) &&& 0x3f).toNat = w.toNat / 2 ^ k.toNat % 64 := by
  rw [UInt32.toNat_and, UInt32.toNat_shiftRight, Nat.mod_eq_of_lt hk, Nat.shiftRight_eq_div_pow]
  exact Nat.and_two_pow_sub_one_eq_mod _ 6

/-- The byte behind `k` bits. -/
theorem toUInt8_shiftRight {w k : UInt32} (hk : k.toNat < 32) :
    (w >>> k).toUInt8 = UInt8.ofNat (w.toNat / 2 ^ k.toNat) := by
  apply UInt8.toNat_inj.mp
  rw [UInt32.toNat_toUInt8, UInt32.toNat_shiftRight, Nat.mod_eq_of_lt hk,
    Nat.shiftRight_eq_div_pow, UInt8.toNat_ofNat']

end AsynCS
