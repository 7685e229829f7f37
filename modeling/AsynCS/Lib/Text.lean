import AsynCS.Lib.Bytes

/-!
# Texts and their UTF-8 encoding

A text is a list of Unicode characters.  A Python string may also hold surrogates, which a JSON
escape can spell and which no encoding takes.

* `utf8`, `utf8Decode`: the encoding and its strict decoder, with `utf8Decode_eq_some_iff`: the
  decoder accepts the encodings and nothing else.
* `mem_utf8_iff_of_lt`: an ASCII byte of an encoding is the character itself.
* `ValidUtf8`: the bytes that are encodings, with `ValidUtf8.split` at an ASCII byte.
* `CodePoint`, `PyStr`, `PyStr.encode`: Python strings, and `str.encode()`.
-/

namespace AsynCS

/-- A text. -/
abbrev Text := List Char

/-- The UTF-8 encoding of a text. -/
def utf8 (t : Text) : Bytes := t.flatMap String.utf8EncodeChar

/-- Strict UTF-8 decoding. -/
def utf8Decode (b : Bytes) : Option Text := (b.toByteArray.utf8Decode?).map Array.toList

@[simp] theorem utf8_nil : utf8 [] = [] := rfl

theorem utf8_cons (c : Char) (t : Text) : utf8 (c :: t) = String.utf8EncodeChar c ++ utf8 t :=
  List.flatMap_cons

theorem utf8_append (s t : Text) : utf8 (s ++ t) = utf8 s ++ utf8 t := List.flatMap_append

/-- **The decoder** accepts the encodings and nothing else. -/
theorem utf8Decode_eq_some_iff {b : Bytes} {t : Text} : utf8Decode b = some t ↔ utf8 t = b := by
  have hrun : utf8Decode (utf8 t) = some t := by
    show ((t.utf8Encode).utf8Decode?).map Array.toList = some t
    rw [List.utf8Decode?_utf8Encode, Option.map_some]
  constructor
  · intro h
    obtain ⟨a, ha, rfl⟩ := Option.map_eq_some_iff.mp h
    have hsome : (b.toByteArray.utf8Decode?).isSome = true := by rw [ha, Option.isSome_some]
    have hget : (b.toByteArray.utf8Decode?).get hsome = a := Option.get_of_mem hsome ha
    have henc := ByteArray.utf8Encode_get_utf8Decode? (b := b.toByteArray) (h := hsome)
    rw [hget] at henc
    exact List.toByteArray_inj.mp henc
  · rintro rfl
    exact hrun

theorem utf8_injective : Function.Injective utf8 := by
  intro s t h
  have hs : utf8Decode (utf8 s) = some s := utf8Decode_eq_some_iff.mpr rfl
  rw [h, utf8Decode_eq_some_iff.mpr rfl] at hs
  exact (Option.some.inj hs).symm

/-- An ASCII character is encoded as itself. -/
theorem utf8EncodeChar_of_lt {c : Char} (h : c.toNat < 128) :
    String.utf8EncodeChar c = [UInt8.ofNat c.toNat] := by
  unfold String.utf8EncodeChar
  exact if_pos (Nat.le_of_lt_succ h)

/-- The encoding of an ASCII text. -/
theorem utf8_of_ascii {t : Text} (h : ∀ c ∈ t, c.toNat < 128) :
    utf8 t = t.map fun c => UInt8.ofNat c.toNat := by
  induction t with
  | nil => rfl
  | cons c t ih =>
    rw [utf8_cons, utf8EncodeChar_of_lt (h c List.mem_cons_self),
      ih fun d hd => h d (List.mem_cons_of_mem c hd), List.map_cons]
    rfl

/-- Only an ASCII character has an ASCII byte in its encoding. -/
theorem lt_of_mem_utf8EncodeChar {c : Char} {b : UInt8} (hb : b ∈ String.utf8EncodeChar c)
    (h : b.toNat < 128) : c.toNat < 128 := by
  by_contra hc
  have hv : ¬ c.val.toNat ≤ 0x7f := fun hle => hc (Nat.lt_succ_of_le hle)
  unfold String.utf8EncodeChar at hb
  simp only [if_neg hv] at hb
  split at hb
  · simp only [List.mem_cons, List.not_mem_nil, or_false] at hb
    rcases hb with rfl | rfl <;> simp only [UInt8.toNat_ofNat'] at h <;> omega
  · split at hb
    · simp only [List.mem_cons, List.not_mem_nil, or_false] at hb
      rcases hb with rfl | rfl | rfl <;> simp only [UInt8.toNat_ofNat'] at h <;> omega
    · simp only [List.mem_cons, List.not_mem_nil, or_false] at hb
      rcases hb with rfl | rfl | rfl | rfl <;> simp only [UInt8.toNat_ofNat'] at h <;> omega

/-- **An ASCII byte** of an encoding is a character of the text. -/
theorem mem_utf8_iff_of_lt {t : Text} {b : UInt8} (h : b.toNat < 128) :
    b ∈ utf8 t ↔ ∃ c ∈ t, c.toNat = b.toNat := by
  rw [utf8, List.mem_flatMap]
  constructor
  · rintro ⟨c, hc, hb⟩
    have hlt := lt_of_mem_utf8EncodeChar hb h
    rw [utf8EncodeChar_of_lt hlt, List.mem_singleton] at hb
    refine ⟨c, hc, ?_⟩
    rw [hb, UInt8.toNat_ofNat']
    omega
  · rintro ⟨c, hc, hcb⟩
    refine ⟨c, hc, ?_⟩
    rw [utf8EncodeChar_of_lt (hcb ▸ h), List.mem_singleton, hcb, UInt8.ofNat_toNat]

/-- The first character of an encoding is read off it. -/
theorem utf8EncodeChar_append_inj {c d : Char} {x y : Bytes}
    (h : String.utf8EncodeChar c ++ x = String.utf8EncodeChar d ++ y) : c = d := by
  have hc := ByteArray.utf8DecodeChar?_utf8EncodeChar_append (b := x.toByteArray) (c := c)
  have hd := ByteArray.utf8DecodeChar?_utf8EncodeChar_append (b := y.toByteArray) (c := d)
  rw [← List.toByteArray_append] at hc hd
  rw [h, hd] at hc
  exact (Option.some.inj hc).symm

/-- A text begins with another when its encoding does. -/
theorem prefix_of_utf8 {s t : Text} (h : utf8 s <+: utf8 t) : s <+: t := by
  induction s generalizing t with
  | nil => exact List.nil_prefix
  | cons c s ih =>
    obtain ⟨z, hz⟩ := h
    rw [utf8_cons, List.append_assoc] at hz
    cases t with
    | nil => exact absurd (List.append_eq_nil_iff.mp hz).1 String.utf8EncodeChar_ne_nil
    | cons d t =>
      rw [utf8_cons] at hz
      obtain rfl := utf8EncodeChar_append_inj hz
      exact List.cons_prefix_cons.mpr ⟨rfl, ih ⟨z, List.append_cancel_left hz⟩⟩

/-- An encoding has a byte for every character. -/
theorem length_le_utf8 (t : Text) : t.length ≤ (utf8 t).length := by
  induction t with
  | nil => exact le_rfl
  | cons c t ih =>
    have hpos : 0 < (String.utf8EncodeChar c).length :=
      List.length_pos_iff.mpr String.utf8EncodeChar_ne_nil
    rw [utf8_cons, List.length_append, List.length_cons]
    omega

theorem utf8_ne_nil {t : Text} (h : t ≠ []) : utf8 t ≠ [] := by
  cases t with
  | nil => exact absurd rfl h
  | cons c t =>
    rw [utf8_cons]
    exact List.append_ne_nil_of_left_ne_nil String.utf8EncodeChar_ne_nil _

/-! ## Valid bytes -/

/-- The bytes are the encoding of a text. -/
def ValidUtf8 (b : Bytes) : Prop := ∃ t, utf8 t = b

theorem validUtf8_nil : ValidUtf8 [] := ⟨[], rfl⟩

theorem ValidUtf8.append {a b : Bytes} (ha : ValidUtf8 a) (hb : ValidUtf8 b) :
    ValidUtf8 (a ++ b) := by
  obtain ⟨s, rfl⟩ := ha
  obtain ⟨t, rfl⟩ := hb
  exact ⟨s ++ t, utf8_append s t⟩

theorem ValidUtf8.utf8Decode {b : Bytes} (h : ValidUtf8 b) :
    ∃ t, utf8Decode b = some t ∧ utf8 t = b := by
  obtain ⟨t, ht⟩ := h
  exact ⟨t, utf8Decode_eq_some_iff.mpr ht, ht⟩

/-- The text of ASCII bytes. -/
theorem utf8_map_ofNat {b : Bytes} (h : ∀ x ∈ b, x.toNat < 128) :
    utf8 (b.map fun x => Char.ofNat x.toNat) = b := by
  have hall : ∀ n < 128, (Char.ofNat n).toNat = n := by decide
  have hcode : ∀ x ∈ b, (Char.ofNat x.toNat).toNat = x.toNat := fun x hx => hall x.toNat (h x hx)
  rw [utf8_of_ascii, List.map_map]
  · refine (List.map_congr_left fun x hx => ?_).trans (List.map_id b)
    show UInt8.ofNat (Char.ofNat x.toNat).toNat = x
    rw [hcode x hx, UInt8.ofNat_toNat]
  · intro c hc
    obtain ⟨x, hx, rfl⟩ := List.mem_map.mp hc
    rw [hcode x hx]
    exact h x hx

/-- ASCII bytes are valid. -/
theorem validUtf8_of_ascii {b : Bytes} (h : ∀ x ∈ b, x.toNat < 128) : ValidUtf8 b :=
  ⟨_, utf8_map_ofNat h⟩

/-- **An ASCII byte** stands between two encodings. -/
theorem ValidUtf8.split {a b : Bytes} {x : UInt8} (hx : x.toNat < 128)
    (h : ValidUtf8 (a ++ x :: b)) : ValidUtf8 a ∧ ValidUtf8 b := by
  obtain ⟨t, ht⟩ := h
  induction t generalizing a with
  | nil => exact absurd ht.symm (by simp)
  | cons c t ih =>
    rw [utf8_cons] at ht
    rcases List.append_eq_append_iff.mp ht with ⟨a', rfl, ht'⟩ | ⟨c', hc, ht'⟩
    · obtain ⟨⟨s, hs⟩, hb⟩ := ih ht'
      refine ⟨⟨c :: s, ?_⟩, hb⟩
      rw [utf8_cons, hs]
    · cases c' with
      | nil =>
        obtain ⟨-, hb⟩ := ih (a := []) ht'.symm
        refine ⟨⟨[c], ?_⟩, hb⟩
        rw [utf8_cons, utf8_nil, List.append_nil, hc, List.append_nil]
      | cons y c' =>
        -- the byte is in the encoding of `c`, which is then a single byte
        obtain ⟨rfl, hb⟩ := List.cons.inj ht'
        have hmem : x ∈ String.utf8EncodeChar c := by
          rw [hc]
          exact List.mem_append_right a List.mem_cons_self
        rw [utf8EncodeChar_of_lt (lt_of_mem_utf8EncodeChar hmem hx)] at hc
        cases a with
        | nil =>
          obtain ⟨-, hnil⟩ := List.cons.inj hc
          rw [← hnil] at hb
          exact ⟨validUtf8_nil, t, hb.symm⟩
        | cons z a => exact absurd (List.cons.inj hc).2.symm (by simp)

/-! ## Python strings -/

/-- One element of a Python string. -/
inductive CodePoint where
  | scalar (c : Char)
  /-- U+D800 and the 2047 behind it -/
  | surrogate (n : Fin 2048)
  deriving DecidableEq

/-- The character of a code point that is one. -/
def CodePoint.char : CodePoint → Option Char
  | .scalar c => some c
  | .surrogate _ => none

theorem CodePoint.char_eq_some_iff {p : CodePoint} {c : Char} :
    p.char = some c ↔ p = .scalar c := by
  cases p <;> simp [CodePoint.char]

/-- A Python string. -/
abbrev PyStr := List CodePoint

namespace PyStr

/-- The string of a text. -/
def ofText (t : Text) : PyStr := t.map CodePoint.scalar

/-- The text of a string without surrogates. -/
def toText (s : PyStr) : Option Text := s.mapM CodePoint.char

/-- `s.encode()`: it fails on a surrogate. -/
def encode (s : PyStr) : Option Bytes := s.toText.map utf8

theorem toText_eq_some_iff {s : PyStr} {t : Text} : s.toText = some t ↔ s = ofText t := by
  unfold toText ofText
  induction s generalizing t with
  | nil =>
    rw [List.mapM_nil]
    constructor
    · intro h
      rw [← Option.some.inj h, List.map_nil]
    · intro h
      rw [List.map_eq_nil_iff.mp h.symm]
      rfl
  | cons p s ih =>
    rw [List.mapM_cons, Option.bind_eq_bind, Option.bind_eq_some_iff]
    constructor
    · rintro ⟨c, hc, h⟩
      obtain ⟨t', ht', h⟩ := Option.bind_eq_some_iff.mp h
      rw [← Option.some.inj h, CodePoint.char_eq_some_iff.mp hc, ih.mp ht', List.map_cons]
    · intro h
      cases t with
      | nil => exact absurd h (List.cons_ne_nil p s)
      | cons c t =>
        obtain ⟨hp, hs⟩ := List.cons.inj h
        exact ⟨c, CodePoint.char_eq_some_iff.mpr hp,
          Option.bind_eq_some_iff.mpr ⟨t, ih.mpr hs, rfl⟩⟩

theorem encode_eq_some_iff {s : PyStr} {b : Bytes} :
    s.encode = some b ↔ ∃ t, s = ofText t ∧ utf8 t = b := by
  rw [encode, Option.map_eq_some_iff]
  simp only [toText_eq_some_iff]

@[simp] theorem encode_ofText (t : Text) : (ofText t).encode = some (utf8 t) :=
  encode_eq_some_iff.mpr ⟨t, rfl, rfl⟩

end PyStr

end AsynCS
