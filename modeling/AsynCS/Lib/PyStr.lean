import AsynCS.Lib.Text

/-!
# Stripping and digits of Python strings

What a program does with a Python string that may hold digits.

* `PyStr.strip`: `s.strip()`, on the whitespace of Unicode.  `strip_eq_self_iff`: it leaves
  exactly the strings that neither start nor end with whitespace.
* `PyStr.fromHex`: `bytes.fromhex(s)`, which skips ASCII whitespace between two bytes and takes
  letters of both cases.  `length_of_fromHex` counts what it skips.
* `PyStr.hex`: `b.hex()`, with `fromHex_hex`.
* `pyInt`: `int(t)` of a text.
-/

namespace AsynCS

/-! ## Whitespace -/

/-- The characters of `str.isspace`. -/
def isUnicodeSpace (c : Char) : Bool :=
  let n := c.toNat
  (9 ≤ n && n ≤ 13) || (28 ≤ n && n ≤ 32) || n == 0x85 || n == 0xA0 || n == 0x1680 ||
    (0x2000 ≤ n && n ≤ 0x200A) || n == 0x2028 || n == 0x2029 || n == 0x202F || n == 0x205F ||
    n == 0x3000

/-- The characters of C's `isspace`. -/
def isAsciiSpace (c : Char) : Bool := c == ' ' || (9 ≤ c.toNat && c.toNat ≤ 13)

/-- The value of a hexadecimal digit. -/
def hexValue (c : Char) : Option ℕ :=
  let n := c.toNat
  if 48 ≤ n ∧ n ≤ 57 then some (n - 48)
  else if 97 ≤ n ∧ n ≤ 102 then some (n - 87)
  else if 65 ≤ n ∧ n ≤ 70 then some (n - 55)
  else none

theorem isAsciiSpace_iff {c : Char} :
    isAsciiSpace c = true ↔ c.toNat = 32 ∨ 9 ≤ c.toNat ∧ c.toNat ≤ 13 := by
  have hspace : c = ' ' ↔ c.toNat = 32 := by
    constructor
    · rintro rfl
      rfl
    · intro h
      exact Char.toNat_inj.mp h
  simp only [isAsciiSpace, Bool.or_eq_true, beq_iff_eq, Bool.and_eq_true, decide_eq_true_eq,
    hspace]

/-- What a hexadecimal digit is, and what its value can be. -/
theorem hexValue_eq_some {c : Char} {v : ℕ} (h : hexValue c = some v) :
    v < 16 ∧ (48 ≤ c.toNat ∧ c.toNat ≤ 57 ∨ 97 ≤ c.toNat ∧ c.toNat ≤ 102 ∨
      65 ≤ c.toNat ∧ c.toNat ≤ 70) := by
  unfold hexValue at h
  simp only at h
  split at h
  · rw [Option.some.injEq] at h
    omega
  · split at h
    · rw [Option.some.injEq] at h
      omega
    · split at h
      · rw [Option.some.injEq] at h
        omega
      · exact absurd h (by simp)

/-- A hexadecimal digit is no whitespace. -/
theorem isUnicodeSpace_of_hexValue {c : Char} {v : ℕ} (h : hexValue c = some v) :
    isUnicodeSpace c = false := by
  obtain ⟨-, hc⟩ := hexValue_eq_some h
  simp only [isUnicodeSpace, Bool.or_eq_false_iff, Bool.and_eq_false_iff, decide_eq_false_iff_not,
    beq_eq_false_iff_ne, ne_eq]
  omega

theorem isAsciiSpace_of_hexValue {c : Char} {v : ℕ} (h : hexValue c = some v) :
    isAsciiSpace c = false := by
  obtain ⟨-, hc⟩ := hexValue_eq_some h
  rw [Bool.eq_false_iff, Ne, isAsciiSpace_iff]
  omega

/-! ## Stripping -/

/-- A list without the elements of a kind at its two ends. -/
def stripWhile {α : Type*} (p : α → Bool) (l : List α) : List α := (l.dropWhile p).rdropWhile p

section Strip

variable {α : Type*} {p : α → Bool}

/-- What is stripped stands before and behind what is left. -/
theorem exists_eq_stripWhile (p : α → Bool) (l : List α) :
    ∃ before behind, l = before ++ stripWhile p l ++ behind ∧ ∀ a ∈ before, p a = true := by
  obtain ⟨behind, hbehind⟩ := List.rdropWhile_prefix p (l := l.dropWhile p)
  refine ⟨l.takeWhile p, behind, ?_, fun a ha => List.mem_takeWhile_imp ha⟩
  rw [List.append_assoc, stripWhile, hbehind, List.takeWhile_append_dropWhile]

theorem length_stripWhile_le (l : List α) : (stripWhile p l).length ≤ l.length := by
  obtain ⟨before, behind, h, -⟩ := exists_eq_stripWhile p l
  have hlen := congrArg List.length h
  rw [List.length_append, List.length_append] at hlen
  omega

/-- Nothing is stripped from a list whose ends are of another kind. -/
theorem stripWhile_eq_self (l : List α) (hhead : ∀ a ∈ l.head?, p a = false)
    (hlast : ∀ a ∈ l.getLast?, p a = false) : stripWhile p l = l := by
  have hdrop : l.dropWhile p = l := by
    cases l with
    | nil => rfl
    | cons a l => exact List.dropWhile_cons_of_neg (by rw [hhead a rfl]; exact Bool.false_ne_true)
  rw [stripWhile, hdrop]
  refine List.rdropWhile_eq_self_iff.mpr fun hl => ?_
  rw [hlast _ (List.getLast?_eq_some_getLast hl)]
  exact Bool.false_ne_true

/-- What is left does not start with what is stripped. -/
theorem head?_stripWhile (l : List α) : ∀ a ∈ (stripWhile p l).head?, p a = false := by
  intro a ha
  obtain ⟨behind, hbehind⟩ := List.rdropWhile_prefix p (l := l.dropWhile p)
  have hmem : a ∈ (l.dropWhile p).head? := by
    rw [← hbehind]
    exact List.mem_head?_append_of_mem_head? ha
  have hnot := List.head?_dropWhile_not p l
  rw [Option.mem_def.mp hmem] at hnot
  simpa using hnot

/-- What is left does not end with what is stripped. -/
theorem getLast?_stripWhile (l : List α) : ∀ a ∈ (stripWhile p l).getLast?, p a = false := by
  intro a ha
  obtain ⟨hne, rfl⟩ := List.mem_getLast?_eq_getLast ha
  exact Bool.eq_false_iff.mpr (List.rdropWhile_last_not p (l.dropWhile p) hne)

/-- Stripping the image of a list. -/
theorem stripWhile_map {β : Type*} (f : β → α) (l : List β) :
    stripWhile p (l.map f) = (stripWhile (p ∘ f) l).map f := by
  unfold stripWhile List.rdropWhile
  rw [List.dropWhile_map, ← List.map_reverse, List.dropWhile_map, ← List.map_reverse]

end Strip

namespace PyStr

/-- Whether a code point is whitespace; no surrogate is. -/
def isSpace : CodePoint → Bool
  | .scalar c => isUnicodeSpace c
  | .surrogate _ => false

/-- `s.strip()` -/
def strip (s : PyStr) : PyStr := stripWhile isSpace s

theorem strip_ofText (t : Text) : (ofText t).strip = ofText (stripWhile isUnicodeSpace t) :=
  stripWhile_map CodePoint.scalar t

/-! ## Hexadecimal digits -/

/-- The value of a code point that is a hexadecimal digit. -/
def digit : CodePoint → Option ℕ
  | .scalar c => hexValue c
  | .surrogate _ => none

/-- Whether `bytes.fromhex` skips a code point. -/
def skipped : CodePoint → Bool
  | .scalar c => isAsciiSpace c
  | .surrogate _ => false

/-- `bytes.fromhex(s)`, or `none` where it raises `ValueError`. -/
def fromHex : PyStr → Option Bytes
  | [] => some []
  | [a] => if skipped a then some [] else none
  | a :: b :: rest =>
    if skipped a then fromHex (b :: rest)
    else do
      let hi ← digit a
      let lo ← digit b
      let decoded ← fromHex rest
      some (UInt8.ofNat (hi * 16 + lo) :: decoded)

/-- `b.hex()` -/
def hex (b : Bytes) : PyStr := ofText ((hexEncode b).map fun x => Char.ofNat x.toNat)

/-- The digits of a byte, and those of the bytes behind it. -/
theorem hex_cons (x : UInt8) (b : Bytes) :
    hex (x :: b) = .scalar (Char.ofNat (hexDigit (x.toNat / 16)).toNat) ::
      .scalar (Char.ofNat (hexDigit (x.toNat % 16)).toNat) :: hex b := rfl

theorem digit_hexDigit {n : ℕ} (h : n < 16) :
    digit (.scalar (Char.ofNat (hexDigit n).toNat)) = some n := by
  revert n
  decide

theorem skipped_of_digit {a : CodePoint} {v : ℕ} (h : digit a = some v) : skipped a = false := by
  cases a with
  | scalar c => exact isAsciiSpace_of_hexValue h
  | surrogate n => rfl

theorem isSpace_of_digit {a : CodePoint} {v : ℕ} (h : digit a = some v) : isSpace a = false := by
  cases a with
  | scalar c => exact isUnicodeSpace_of_hexValue h
  | surrogate n => rfl

/-- Two digits are read as a byte. -/
theorem fromHex_digits {a b : CodePoint} {hi lo : ℕ} (ha : digit a = some hi)
    (hb : digit b = some lo) (rest : PyStr) :
    fromHex (a :: b :: rest) = (fromHex rest).map (UInt8.ofNat (hi * 16 + lo) :: ·) := by
  rw [fromHex, if_neg (by rw [skipped_of_digit ha]; exact Bool.false_ne_true), ha, hb]
  cases fromHex rest with
  | none => rfl
  | some decoded => rfl

/-- **Hexadecimal text** is read back. -/
theorem fromHex_hex (b : Bytes) : fromHex (hex b) = some b := by
  induction b with
  | nil => rfl
  | cons x b ih =>
    have hx : x.toNat < 256 := x.toNat_lt
    have hsplit : x.toNat / 16 * 16 + x.toNat % 16 = x.toNat := by omega
    rw [hex_cons, fromHex_digits (digit_hexDigit (by omega)) (digit_hexDigit (by omega)), ih,
      hsplit, UInt8.ofNat_toNat, Option.map_some]

/-- Hexadecimal text determines the digest. -/
theorem hex_toList_injective {n : ℕ} {d e : Block n} (h : hex d.toList = hex e.toList) :
    d = e := by
  have hbytes : some d.toList = some e.toList := by
    rw [← fromHex_hex d.toList, h, fromHex_hex]
  exact List.Vector.eq d e (Option.some.inj hbytes)

@[simp] theorem length_hex (b : Bytes) : (hex b).length = 2 * b.length := by
  rw [hex, ofText, List.length_map, List.length_map, length_hexEncode]

theorem digit_of_mem_hex {b : Bytes} {a : CodePoint} (h : a ∈ hex b) : (digit a).isSome := by
  induction b with
  | nil => exact absurd h List.not_mem_nil
  | cons x b ih =>
    have hx : x.toNat < 256 := x.toNat_lt
    rw [hex_cons, List.mem_cons, List.mem_cons] at h
    rcases h with rfl | rfl | h
    · rw [digit_hexDigit (by omega)]
      rfl
    · rw [digit_hexDigit (by omega)]
      rfl
    · exact ih h

/-- Reading a string that starts with whitespace. -/
theorem fromHex_of_skipped {a : CodePoint} (ha : skipped a = true) (rest : PyStr) :
    fromHex (a :: rest) = fromHex rest := by
  cases rest with
  | nil => exact if_pos ha
  | cons b rest => rw [fromHex, if_pos ha]

/-- What is read starts with two digits unless it starts with whitespace. -/
theorem fromHex_cons_eq_some {a : CodePoint} (ha : skipped a = false) {s : PyStr} {b : Bytes}
    (h : fromHex (a :: s) = some b) :
    ∃ c rest hi lo decoded, s = c :: rest ∧ digit a = some hi ∧ digit c = some lo ∧
      fromHex rest = some decoded ∧ b = UInt8.ofNat (hi * 16 + lo) :: decoded := by
  cases s with
  | nil =>
    rw [fromHex, if_neg (by rw [ha]; exact Bool.false_ne_true)] at h
    exact absurd h (by simp)
  | cons c rest =>
    rw [fromHex, if_neg (by rw [ha]; exact Bool.false_ne_true)] at h
    obtain ⟨hi, hhi, h⟩ := Option.bind_eq_some_iff.mp h
    obtain ⟨lo, hlo, h⟩ := Option.bind_eq_some_iff.mp h
    obtain ⟨decoded, hdecoded, h⟩ := Option.bind_eq_some_iff.mp h
    exact ⟨c, rest, hi, lo, decoded, rfl, hhi, hlo, hdecoded, (Option.some.inj h).symm⟩

/-- **What is read** has a byte for every two digits; the other code points are skipped. -/
theorem length_of_fromHex {s : PyStr} {b : Bytes} (h : fromHex s = some b) :
    2 * b.length + s.countP skipped = s.length := by
  induction s using fromHex.induct generalizing b with
  | case1 =>
    rw [← Option.some.inj h]
    rfl
  | case2 a ha =>
    rw [fromHex, if_pos ha] at h
    rw [← Option.some.inj h, List.countP_singleton, if_pos ha]
    rfl
  | case3 a ha =>
    rw [fromHex, if_neg ha] at h
    exact absurd h (by simp)
  | case4 a c rest ha ih =>
    rw [fromHex_of_skipped ha] at h
    have hrest := ih h
    rw [List.countP_cons_of_pos ha, List.length_cons]
    omega
  | case5 a c rest ha ih =>
    obtain ⟨c', rest', hi, lo, decoded, hs, hhi, hlo, hdecoded, rfl⟩ :=
      fromHex_cons_eq_some (Bool.eq_false_iff.mpr ha) h
    obtain ⟨rfl, rfl⟩ := List.cons.inj hs
    have hrest := ih hdecoded
    rw [List.countP_cons_of_neg ha,
      List.countP_cons_of_neg (by rw [skipped_of_digit hlo]; exact Bool.false_ne_true),
      List.length_cons, List.length_cons, List.length_cons]
    omega

/-- Pairs of digits are read. -/
theorem exists_fromHex_of_digits {s : PyStr} (h : ∀ a ∈ s, (digit a).isSome)
    (heven : s.length % 2 = 0) : ∃ b, fromHex s = some b := by
  induction s using fromHex.induct with
  | case1 => exact ⟨[], rfl⟩
  | case2 a ha => exact absurd heven (by simp)
  | case3 a ha => exact absurd heven (by simp)
  | case4 a c rest ha ih =>
    obtain ⟨v, hv⟩ := Option.isSome_iff_exists.mp (h a List.mem_cons_self)
    rw [skipped_of_digit hv] at ha
    exact absurd ha Bool.false_ne_true
  | case5 a c rest ha ih =>
    obtain ⟨hi, hhi⟩ := Option.isSome_iff_exists.mp (h a List.mem_cons_self)
    obtain ⟨lo, hlo⟩ :=
      Option.isSome_iff_exists.mp (h c (List.mem_cons_of_mem a List.mem_cons_self))
    have hrest : ∀ d ∈ rest, (digit d).isSome := fun d hd =>
      h d (List.mem_cons_of_mem a (List.mem_cons_of_mem c hd))
    obtain ⟨b, hb⟩ := ih hrest (by rw [List.length_cons, List.length_cons] at heven; omega)
    exact ⟨_, by rw [fromHex_digits hhi hlo, hb]; rfl⟩

/-- A string of digits is not stripped. -/
theorem strip_of_digits {s : PyStr} (h : ∀ a ∈ s, (digit a).isSome) : s.strip = s := by
  have hspace : ∀ a ∈ s, isSpace a = false := by
    intro a ha
    obtain ⟨v, hv⟩ := Option.isSome_iff_exists.mp (h a ha)
    exact isSpace_of_digit hv
  refine stripWhile_eq_self s (fun a ha => hspace a (List.mem_of_mem_head? ha)) fun a ha => ?_
  exact hspace a (List.mem_of_mem_getLast? ha)

end PyStr

/-! ## Numbers -/

/-- The zeros of the decimal digits of Unicode, each with nine digits behind it. -/
def decimalZeros : List ℕ :=
  [0x30, 0x660, 0x6F0, 0x7C0, 0x966, 0x9E6, 0xA66, 0xAE6, 0xB66, 0xBE6, 0xC66, 0xCE6, 0xD66, 0xDE6,
    0xE50, 0xED0, 0xF20, 0x1040, 0x1090, 0x17E0, 0x1810, 0x1946, 0x19D0, 0x1A80, 0x1A90, 0x1B50,
    0x1BB0, 0x1C40, 0x1C50, 0xA620, 0xA8D0, 0xA900, 0xA9D0, 0xA9F0, 0xAA50, 0xABF0, 0xFF10, 0x104A0,
    0x10D30, 0x11066, 0x110F0, 0x11136, 0x111D0, 0x112F0, 0x11450, 0x114D0, 0x11650, 0x116C0,
    0x11730, 0x118E0, 0x11950, 0x11C50, 0x11D50, 0x11DA0, 0x11F50, 0x16A60, 0x16AC0, 0x16B50,
    0x1D7CE, 0x1D7D8, 0x1D7E2, 0x1D7EC, 0x1D7F6, 0x1E140, 0x1E2F0, 0x1E4F0, 0x1E950, 0x1FBF0]

/-- The value of a decimal digit. -/
def decimalValue (c : Char) : Option ℕ :=
  (decimalZeros.find? fun first => first ≤ c.toNat && c.toNat < first + 10).map (c.toNat - ·)

/-- The value of digits with single underscores between them, behind a digit or not. -/
def digitsFrom (behindDigit : Bool) (value : ℕ) : Text → Option ℕ
  | [] => if behindDigit then some value else none
  | c :: t =>
    if c = '_' then if behindDigit then digitsFrom false value t else none
    else do
      let d ← decimalValue c
      digitsFrom true (10 * value + d) t

/-- `int(t)` on at most `sys.int_info.default_max_str_digits` digits, or `none` where it raises
`ValueError`. -/
def pyInt (t : Text) : Option Int :=
  let number := stripWhile isUnicodeSpace t
  if 4300 < number.countP (fun c => (decimalValue c).isSome) then none
  else if number.head? = some '-' then
    (digitsFrom false 0 number.tail).map fun n => -(n : Int)
  else if number.head? = some '+' then (digitsFrom false 0 number.tail).map fun n => (n : Int)
  else (digitsFrom false 0 number).map fun n => (n : Int)

example : pyInt [' ', '-', '1', '_', '2'] = some (-12) := by decide

end AsynCS
