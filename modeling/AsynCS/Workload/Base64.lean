import AsynCS.Lib.Json
import AsynCS.Worker.Base64Words

/-!
# Base64 in the workloads

`c3_deterministic_io` and `c5_representative_warm` have the same `decode_digit`, `decode_base64` and
`encode_base64`.  A string is its bytes.

* `decodeBase64`, `encodeBase64`.
* `encodeBase64_eq`: a workload and the enclave write the same text.
* `decodeBase64_base64Chars`: it is read back.
* `isOk_decodeBase64_iff`: the texts that are read at all.
* `input_survives`: the argument of a module.
-/

namespace AsynCS
namespace Workload

open Worker (base64Char base64Chars base64Quad base64Table base64EncodeWords length_base64Chars)

/-! ## The functions -/

/-- `decode_digit` -/
def decodeDigit (value : UInt8) : Except String UInt8 :=
  if 65 ≤ value ∧ value ≤ 90 then .ok (value - 65)
  else if 97 ≤ value ∧ value ≤ 122 then .ok (value - 97 + 26)
  else if 48 ≤ value ∧ value ≤ 57 then .ok (value - 48 + 52)
  else if value = 43 then .ok 62
  else if value = 47 then .ok 63
  else .error "invalid base64 digit"

/-- The padding of a chunk, from its last two bytes. -/
def padOf (third fourth : UInt8) : Except String ℕ :=
  if third = 61 ∧ fourth = 61 then .ok 2
  else if fourth = 61 then .ok 1
  else if third = 61 then .error "invalid base64 padding"
  else .ok 0

/-- `if absent { 0 } else { decode_digit(value)? }` -/
def digitUnless (absent : Prop) [Decidable absent] (value : UInt8) : Except String UInt8 :=
  if absent then .ok 0 else decodeDigit value

/-- The bytes that are pushed for the digits of a chunk. -/
def chunkBytes (pad : ℕ) (a b c d : UInt8) : Bytes :=
  let word := (a.toUInt32 <<< 18) ||| (b.toUInt32 <<< 12) ||| (c.toUInt32 <<< 6) ||| d.toUInt32
  [(word >>> 16).toUInt8] ++ (if pad < 2 then [(word >>> 8).toUInt8] else []) ++
    if pad = 0 then [word.toUInt8] else []

/-- The body of the loop of `decode_base64`. -/
def decodeChunk (finalChunk : Bool) (c₀ c₁ c₂ c₃ : UInt8) : Except String Bytes := do
  let pad ← padOf c₂ c₃
  check (¬ (0 < pad ∧ finalChunk = false)) "base64 padding before final chunk"
  let a ← decodeDigit c₀
  let b ← decodeDigit c₁
  let c ← digitUnless (pad = 2) c₂
  let d ← digitUnless (0 < pad) c₃
  .ok (chunkBytes pad a b c d)

/-- The loop over the chunks of four bytes. -/
def decodeChunks (chunks : ℕ) : ℕ → Bytes → Bytes → Except String Bytes
  | index, output, c₀ :: c₁ :: c₂ :: c₃ :: rest => do
    let chunk ← decodeChunk (index + 1 == chunks) c₀ c₁ c₂ c₃
    decodeChunks chunks (index + 1) (output ++ chunk) rest
  | _, output, _ => .ok output

/-- `decode_base64` -/
def decodeBase64 (value : Bytes) : Except String Bytes := do
  check (value.length % 4 = 0) "base64 length is not a multiple of four"
  decodeChunks (value.length / 4) 0 [] value

/-- `BASE64[(word & 0x3f) as usize]` -/
def digitOf (word : UInt32) : UInt8 := base64Table.getD (word &&& 0x3f).toNat 0

/-- The body of the loop of `encode_base64`. -/
def encodeChunk (chunk : Bytes) : Bytes :=
  let word := ((chunk.getD 0 0).toUInt32 <<< 16) ||| ((chunk.getD 1 0).toUInt32 <<< 8) |||
    (chunk.getD 2 0).toUInt32
  [digitOf (word >>> 18), digitOf (word >>> 12),
    if 1 < chunk.length then digitOf (word >>> 6) else 61,
    if 2 < chunk.length then digitOf word else 61]

/-- `encode_base64`: chunks of three bytes, the last of which may be shorter. -/
def encodeBase64 : Bytes → Bytes
  | [] => []
  | [a] => encodeChunk [a]
  | [a, b] => encodeChunk [a, b]
  | a :: b :: c :: rest => encodeChunk [a, b, c] ++ encodeBase64 rest

/-! ## Encoding -/

theorem digitOf_eq (word : UInt32) : digitOf word = base64Char word.toNat := by
  rw [digitOf, UInt32.toNat_and, base64Char]
  congr 1
  exact Nat.and_two_pow_sub_one_eq_mod _ 6

/-- The digits of three bytes. -/
theorem digitOf_pack (a b c : UInt8) :
    [digitOf (((a.toUInt32 <<< 16) ||| (b.toUInt32 <<< 8) ||| c.toUInt32) >>> 18),
      digitOf (((a.toUInt32 <<< 16) ||| (b.toUInt32 <<< 8) ||| c.toUInt32) >>> 12),
      digitOf (((a.toUInt32 <<< 16) ||| (b.toUInt32 <<< 8) ||| c.toUInt32) >>> 6),
      digitOf ((a.toUInt32 <<< 16) ||| (b.toUInt32 <<< 8) ||| c.toUInt32)] = base64Quad a b c := by
  have hword := toNat_pack3 (a := a.toUInt32) (b := b.toUInt32) (c := c.toUInt32)
    (by simpa using a.toNat_lt) (by simpa using b.toNat_lt) (by simpa using c.toNat_lt)
  simp only [UInt8.toNat_toUInt32] at hword
  simp only [digitOf_eq, UInt32.toNat_shiftRight, Nat.shiftRight_eq_div_pow, hword]
  rfl

theorem encodeChunk_three (a b c : UInt8) : encodeChunk [a, b, c] = base64Quad a b c :=
  digitOf_pack a b c

theorem encodeChunk_two (a b : UInt8) :
    encodeChunk [a, b] = (base64Quad a b 0).take 3 ++ ascii "=" := by
  rw [← digitOf_pack a b 0]
  rfl

theorem encodeChunk_one (a : UInt8) :
    encodeChunk [a] = (base64Quad a 0 0).take 2 ++ ascii "==" := by
  rw [← digitOf_pack a 0 0]
  rfl

/-- **One text**: a workload writes what the enclave writes. -/
theorem encodeBase64_eq (data : Bytes) : encodeBase64 data = base64Chars data := by
  induction data using Worker.base64Chars.induct with
  | case1 => rfl
  | case2 a => rw [encodeBase64, encodeChunk_one, base64Chars]
  | case3 a b => rw [encodeBase64, encodeChunk_two, base64Chars]
  | case4 a b c rest ih => rw [encodeBase64, encodeChunk_three, base64Chars, ih]

/-! ## Reading back -/

/-- A digit of the table is read, and it is no padding. -/
theorem decodeDigit_base64Char (n : ℕ) :
    decodeDigit (base64Char n) = .ok (UInt8.ofNat (n % 64)) ∧ base64Char n ≠ 61 := by
  have hall : ∀ m < 64, decodeDigit (base64Char m) = .ok (UInt8.ofNat m) ∧ base64Char m ≠ 61 := by
    decide +kernel
  have hmod : base64Char n = base64Char (n % 64) := by
    rw [base64Char, base64Char, Nat.mod_mod]
  rw [hmod]
  exact hall _ (Nat.mod_lt n (by decide))

/-- The word of the four digits of a number. -/
theorem toNat_digits {n : ℕ} (hn : n < 2 ^ 24) :
    (((UInt8.ofNat (n / 262144 % 64)).toUInt32 <<< 18) |||
      ((UInt8.ofNat (n / 4096 % 64)).toUInt32 <<< 12) |||
      ((UInt8.ofNat (n / 64 % 64)).toUInt32 <<< 6) |||
      (UInt8.ofNat (n % 64)).toUInt32).toNat = n := by
  have hdigit : ∀ m, (UInt8.ofNat (m % 64)).toUInt32.toNat = m % 64 := by
    intro m
    rw [UInt8.toNat_toUInt32, UInt8.toNat_ofNat']
    exact Nat.mod_eq_of_lt (by omega)
  rw [toNat_pack4 (by rw [hdigit]; omega) (by rw [hdigit]; omega) (by rw [hdigit]; omega)
    (by rw [hdigit]; omega)]
  simp only [hdigit]
  omega

/-- The bytes of a word. -/
theorem toUInt8_word {word : UInt32} {a b c : UInt8}
    (h : word.toNat = a.toNat * 65536 + b.toNat * 256 + c.toNat) :
    (word >>> 16).toUInt8 = a ∧ (word >>> 8).toUInt8 = b ∧ word.toUInt8 = c := by
  have ha := a.toNat_lt
  have hb := b.toNat_lt
  have hc := c.toNat_lt
  refine ⟨?_, ?_, ?_⟩ <;> apply UInt8.toNat_inj.mp
  · rw [toUInt8_shiftRight (by decide), UInt8.toNat_ofNat', h]
    simp
    omega
  · rw [toUInt8_shiftRight (by decide), UInt8.toNat_ofNat', h]
    simp
    omega
  · rw [UInt32.toNat_toUInt8, h]
    omega

theorem decodeChunk_eq_ok_iff {finalChunk : Bool} {c₀ c₁ c₂ c₃ : UInt8} {bytes : Bytes} :
    decodeChunk finalChunk c₀ c₁ c₂ c₃ = .ok bytes ↔
      ∃ pad a b c d, padOf c₂ c₃ = .ok pad ∧ ¬ (0 < pad ∧ finalChunk = false) ∧
        decodeDigit c₀ = .ok a ∧ decodeDigit c₁ = .ok b ∧
        digitUnless (pad = 2) c₂ = .ok c ∧ digitUnless (0 < pad) c₃ = .ok d ∧
        chunkBytes pad a b c d = bytes := by
  unfold decodeChunk
  simp only [bind_eq_ok_iff, check_eq_ok_iff, Except.ok.injEq]
  constructor
  · rintro ⟨pad, hpad, -, hfinal, a, ha, b, hb, c, hc, d, hd, hbytes⟩
    exact ⟨pad, a, b, c, d, hpad, hfinal, ha, hb, hc, hd, hbytes⟩
  · rintro ⟨pad, a, b, c, d, hpad, hfinal, ha, hb, hc, hd, hbytes⟩
    exact ⟨pad, hpad, (), hfinal, a, ha, b, hb, c, hc, d, hd, hbytes⟩

/-- A group is read back, wherever it stands. -/
theorem decodeChunk_three (finalChunk : Bool) (a b c : UInt8) :
    decodeChunk finalChunk
        (base64Char ((a.toNat * 65536 + b.toNat * 256 + c.toNat) / 262144))
        (base64Char ((a.toNat * 65536 + b.toNat * 256 + c.toNat) / 4096))
        (base64Char ((a.toNat * 65536 + b.toNat * 256 + c.toNat) / 64))
        (base64Char (a.toNat * 65536 + b.toNat * 256 + c.toNat)) = .ok [a, b, c] := by
  have ha := a.toNat_lt
  have hb := b.toNat_lt
  have hc := c.toNat_lt
  generalize hn : a.toNat * 65536 + b.toNat * 256 + c.toNat = n
  obtain ⟨h16, h8, h0⟩ := toUInt8_word ((toNat_digits (n := n) (by omega)).trans hn.symm)
  refine decodeChunk_eq_ok_iff.mpr ⟨0, _, _, _, _, ?_, by simp, (decodeDigit_base64Char _).1,
    (decodeDigit_base64Char _).1, (decodeDigit_base64Char _).1, (decodeDigit_base64Char _).1, ?_⟩
  · simp [padOf, (decodeDigit_base64Char _).2]
  · simp only [chunkBytes, h16, h8, h0]
    rfl

/-- A group of two bytes is read back at the end. -/
theorem decodeChunk_two (a b : UInt8) :
    decodeChunk true
        (base64Char ((a.toNat * 65536 + b.toNat * 256 + (0 : UInt8).toNat) / 262144))
        (base64Char ((a.toNat * 65536 + b.toNat * 256 + (0 : UInt8).toNat) / 4096))
        (base64Char ((a.toNat * 65536 + b.toNat * 256 + (0 : UInt8).toNat) / 64)) 61 =
      .ok [a, b] := by
  have ha := a.toNat_lt
  have hb := b.toNat_lt
  generalize hn : a.toNat * 65536 + b.toNat * 256 + (0 : UInt8).toNat = n
  rw [show (0 : UInt8).toNat = 0 from rfl] at hn
  have hlast : UInt8.ofNat (n % 64) = 0 := by rw [show n % 64 = 0 by omega]; rfl
  have hword := toNat_digits (n := n) (by omega)
  rw [hlast] at hword
  obtain ⟨h16, h8, -⟩ := toUInt8_word (c := 0) (hword.trans hn.symm)
  refine decodeChunk_eq_ok_iff.mpr ⟨1, _, _, _, 0, ?_, by simp, (decodeDigit_base64Char _).1,
    (decodeDigit_base64Char _).1, (decodeDigit_base64Char _).1, rfl, ?_⟩
  · simp [padOf, (decodeDigit_base64Char _).2]
  · simp only [chunkBytes, h16, h8]
    rfl

/-- A single byte is read back at the end. -/
theorem decodeChunk_one (a : UInt8) :
    decodeChunk true
        (base64Char ((a.toNat * 65536 + (0 : UInt8).toNat * 256 + (0 : UInt8).toNat) / 262144))
        (base64Char ((a.toNat * 65536 + (0 : UInt8).toNat * 256 + (0 : UInt8).toNat) / 4096))
        61 61 = .ok [a] := by
  have ha := a.toNat_lt
  generalize hn : a.toNat * 65536 + (0 : UInt8).toNat * 256 + (0 : UInt8).toNat = n
  rw [show (0 : UInt8).toNat = 0 from rfl] at hn
  have hthird : UInt8.ofNat (n / 64 % 64) = 0 := by rw [show n / 64 % 64 = 0 by omega]; rfl
  have hlast : UInt8.ofNat (n % 64) = 0 := by rw [show n % 64 = 0 by omega]; rfl
  have hword := toNat_digits (n := n) (by omega)
  rw [hthird, hlast] at hword
  obtain ⟨h16, -, -⟩ := toUInt8_word (b := 0) (c := 0) (hword.trans hn.symm)
  refine decodeChunk_eq_ok_iff.mpr ⟨2, _, _, 0, 0, rfl, by simp, (decodeDigit_base64Char _).1,
    (decodeDigit_base64Char _).1, rfl, rfl, ?_⟩
  simp only [chunkBytes, h16]
  rfl

/-- The chunks of a text give its bytes. -/
theorem decodeChunks_base64Chars (data : Bytes) {chunks index : ℕ} {output : Bytes}
    (h : chunks = index + (base64Chars data).length / 4) :
    decodeChunks chunks index output (base64Chars data) = .ok (output ++ data) := by
  induction data using Worker.base64Chars.induct generalizing index output with
  | case1 => simp [base64Chars, decodeChunks]
  | case2 a =>
    have hfinal : (index + 1 == chunks) = true := by
      rw [length_base64Chars] at h
      simp [h]
    show (decodeChunk (index + 1 == chunks) _ _ 61 61 >>= fun chunk => _) = _
    rw [hfinal, decodeChunk_one, ok_bind]
    rfl
  | case3 a b =>
    have hfinal : (index + 1 == chunks) = true := by
      rw [length_base64Chars] at h
      simp [h]
    show (decodeChunk (index + 1 == chunks) _ _ _ 61 >>= fun chunk => _) = _
    rw [hfinal, decodeChunk_two, ok_bind]
    rfl
  | case4 a b c rest ih =>
    show (decodeChunk (index + 1 == chunks) _ _ _ _ >>= fun chunk => _) = _
    rw [decodeChunk_three, ok_bind]
    have hchunks : chunks = index + 1 + (base64Chars rest).length / 4 := by
      rw [h, base64Chars, List.length_append, Worker.length_base64Quad]
      omega
    have hrest := @ih (index + 1) (output ++ [a, b, c]) hchunks
    rw [List.append_assoc] at hrest
    exact hrest

/-- **Round trip.** -/
theorem decodeBase64_base64Chars (data : Bytes) : decodeBase64 (base64Chars data) = .ok data := by
  have hlen := length_base64Chars data
  rw [decodeBase64, check, if_pos (by omega), ok_bind,
    decodeChunks_base64Chars data (Nat.zero_add _).symm, List.nil_append]

/-! ## What is read at all -/

/-- **A base64 text**: whole groups, of the alphabet, with at most two pads at the very end. -/
def WellFormed (value : Bytes) : Prop :=
  value.length % 4 = 0 ∧ ∃ body pads, value = body ++ List.replicate pads 61 ∧ pads ≤ 2 ∧
    ∀ c ∈ body, c ∈ base64Table

/-- The digits are the alphabet. -/
theorem exists_decodeDigit_iff (c : UInt8) : (∃ v, decodeDigit c = .ok v) ↔ c ∈ base64Table := by
  have hall : ∀ n < 256,
      (decodeDigit (UInt8.ofNat n)).isOk = decide (UInt8.ofNat n ∈ base64Table) := by
    decide +kernel
  have hc := hall c.toNat c.toNat_lt
  rw [UInt8.ofNat_toNat] at hc
  cases hd : decodeDigit c with
  | ok v => simpa [hd, Except.isOk, Except.toBool] using hc
  | error e => simpa [hd, Except.isOk, Except.toBool] using hc

/-- The paddings of a chunk. -/
theorem padOf_cases (c₂ c₃ : UInt8) :
    c₂ = 61 ∧ c₃ = 61 ∧ padOf c₂ c₃ = .ok 2 ∨ c₂ ≠ 61 ∧ c₃ = 61 ∧ padOf c₂ c₃ = .ok 1 ∨
      c₂ ≠ 61 ∧ c₃ ≠ 61 ∧ padOf c₂ c₃ = .ok 0 ∨
        c₂ = 61 ∧ c₃ ≠ 61 ∧ padOf c₂ c₃ = .error "invalid base64 padding" := by
  unfold padOf
  by_cases h2 : c₂ = 61 <;> by_cases h3 : c₃ = 61 <;> simp [h2, h3]

/-- The chunks that are read. -/
theorem exists_decodeChunk_iff {finalChunk : Bool} {c₀ c₁ c₂ c₃ : UInt8} :
    (∃ bytes, decodeChunk finalChunk c₀ c₁ c₂ c₃ = .ok bytes) ↔
      c₀ ∈ base64Table ∧ c₁ ∈ base64Table ∧
        (c₂ ∈ base64Table ∧ c₃ ∈ base64Table ∨
          finalChunk = true ∧ c₃ = 61 ∧ (c₂ = 61 ∨ c₂ ∈ base64Table)) := by
  have hpad : (61 : UInt8) ∉ base64Table := by decide
  have hiff : (∃ bytes, decodeChunk finalChunk c₀ c₁ c₂ c₃ = .ok bytes) ↔
      ∃ pad, padOf c₂ c₃ = .ok pad ∧ ¬ (0 < pad ∧ finalChunk = false) ∧ c₀ ∈ base64Table ∧
        c₁ ∈ base64Table ∧ (pad = 2 ∨ c₂ ∈ base64Table) ∧ (0 < pad ∨ c₃ ∈ base64Table) := by
    have hunless : ∀ (absent : Prop) [Decidable absent] (value : UInt8),
        (∃ v, digitUnless absent value = .ok v) ↔ absent ∨ value ∈ base64Table := by
      intro absent _ value
      by_cases h : absent <;> simp [digitUnless, h, exists_decodeDigit_iff]
    simp only [decodeChunk_eq_ok_iff, ← exists_decodeDigit_iff c₀, ← exists_decodeDigit_iff c₁,
      ← hunless]
    constructor
    · rintro ⟨_, pad, a, b, c, d, hpadOf, hfinal, ha, hb, hc, hd, -⟩
      exact ⟨pad, hpadOf, hfinal, ⟨a, ha⟩, ⟨b, hb⟩, ⟨c, hc⟩, d, hd⟩
    · rintro ⟨pad, hpadOf, hfinal, ⟨a, ha⟩, ⟨b, hb⟩, ⟨c, hc⟩, d, hd⟩
      exact ⟨_, pad, a, b, c, d, hpadOf, hfinal, ha, hb, hc, hd, rfl⟩
  rw [hiff]
  rcases padOf_cases c₂ c₃ with ⟨h2, h3, h⟩ | ⟨h2, h3, h⟩ | ⟨h2, h3, h⟩ | ⟨h2, h3, h⟩ <;>
    simp only [h, Except.ok.injEq, exists_eq_left', reduceCtorEq, false_and, exists_false] <;>
    cases finalChunk <;> simp [h2, h3, hpad]

theorem wellFormed_last {c₀ c₁ c₂ c₃ : UInt8} :
    WellFormed [c₀, c₁, c₂, c₃] ↔ c₀ ∈ base64Table ∧ c₁ ∈ base64Table ∧
      (c₂ ∈ base64Table ∧ c₃ ∈ base64Table ∨ c₃ = 61 ∧ (c₂ = 61 ∨ c₂ ∈ base64Table)) := by
  constructor
  · rintro ⟨-, body, pads, hvalue, hpads, hbody⟩
    have hlen := congrArg List.length hvalue
    simp only [List.length_cons, List.length_nil, List.length_append, List.length_replicate]
      at hlen
    interval_cases pads
    · rw [List.replicate_zero, List.append_nil] at hvalue
      rw [← hvalue] at hbody
      simp only [List.forall_mem_cons] at hbody
      exact ⟨hbody.1, hbody.2.1, .inl ⟨hbody.2.2.1, hbody.2.2.2.1⟩⟩
    · obtain ⟨x, y, z, rfl⟩ := List.length_eq_three.mp (show body.length = 3 by omega)
      simp only [List.replicate_one, List.cons_append, List.nil_append, List.cons.injEq] at hvalue
      obtain ⟨rfl, rfl, rfl, rfl, -⟩ := hvalue
      simp only [List.forall_mem_cons] at hbody
      exact ⟨hbody.1, hbody.2.1, .inr ⟨rfl, .inr hbody.2.2.1⟩⟩
    · obtain ⟨x, y, rfl⟩ := List.length_eq_two.mp (show body.length = 2 by omega)
      simp only [List.replicate_succ, List.replicate_zero, List.cons_append, List.nil_append,
        List.cons.injEq] at hvalue
      obtain ⟨rfl, rfl, rfl, rfl, -⟩ := hvalue
      simp only [List.forall_mem_cons] at hbody
      exact ⟨hbody.1, hbody.2.1, .inr ⟨rfl, .inl rfl⟩⟩
  · rintro ⟨h0, h1, ⟨h2, h3⟩ | ⟨rfl, rfl | h2⟩⟩
    · exact ⟨by simp, [c₀, c₁, c₂, c₃], 0, rfl, by omega, by simp [h0, h1, h2, h3]⟩
    · exact ⟨by simp, [c₀, c₁], 2, rfl, by omega, by simp [h0, h1]⟩
    · exact ⟨by simp, [c₀, c₁, c₂], 1, rfl, by omega, by simp [h0, h1, h2]⟩

theorem wellFormed_cons {c₀ c₁ c₂ c₃ : UInt8} {rest : Bytes} (hne : rest ≠ []) :
    WellFormed (c₀ :: c₁ :: c₂ :: c₃ :: rest) ↔ (c₀ ∈ base64Table ∧ c₁ ∈ base64Table ∧
      c₂ ∈ base64Table ∧ c₃ ∈ base64Table) ∧ WellFormed rest := by
  have hpos := List.length_pos_iff.mpr hne
  constructor
  · rintro ⟨hlen, body, pads, hvalue, hpads, hbody⟩
    have hsize := congrArg List.length hvalue
    simp only [List.length_cons, List.length_append, List.length_replicate] at hlen hsize
    obtain ⟨x, body, rfl⟩ := List.exists_cons_of_length_pos (show 0 < body.length by omega)
    simp only [List.length_cons] at hsize
    obtain ⟨y, body, rfl⟩ := List.exists_cons_of_length_pos (show 0 < body.length by omega)
    simp only [List.length_cons] at hsize
    obtain ⟨z, body, rfl⟩ := List.exists_cons_of_length_pos (show 0 < body.length by omega)
    simp only [List.length_cons] at hsize
    obtain ⟨w, body, rfl⟩ := List.exists_cons_of_length_pos (show 0 < body.length by omega)
    simp only [List.cons_append, List.cons.injEq] at hvalue
    obtain ⟨rfl, rfl, rfl, rfl, hrest⟩ := hvalue
    simp only [List.forall_mem_cons] at hbody
    exact ⟨⟨hbody.1, hbody.2.1, hbody.2.2.1, hbody.2.2.2.1⟩, by omega, body, pads, hrest, hpads,
      hbody.2.2.2.2⟩
  · rintro ⟨⟨h0, h1, h2, h3⟩, hlen, body, pads, rfl, hpads, hbody⟩
    refine ⟨?_, c₀ :: c₁ :: c₂ :: c₃ :: body, pads, rfl, hpads, ?_⟩
    · simp only [List.length_cons]
      omega
    · simp only [List.forall_mem_cons]
      exact ⟨h0, h1, h2, h3, hbody⟩

/-- The loop reads a base64 text, and no other. -/
theorem exists_decodeChunks_iff {chunks : ℕ} : ∀ {value : Bytes} {index : ℕ} {output : Bytes},
    value.length % 4 = 0 → chunks = index + value.length / 4 →
      ((∃ bytes, decodeChunks chunks index output value = .ok bytes) ↔ WellFormed value)
  | [], _, output, _, _ => by
    refine iff_of_true ⟨output, by rw [decodeChunks]; simp⟩ ?_
    exact ⟨rfl, [], 0, rfl, by omega, List.forall_mem_nil _⟩
  | [_], _, _, h, _ => absurd h (by simp)
  | [_, _], _, _, h, _ => absurd h (by simp)
  | [_, _, _], _, _, h, _ => absurd h (by simp)
  | c₀ :: c₁ :: c₂ :: c₃ :: rest, index, output, h, hchunks => by
    simp only [List.length_cons] at h hchunks
    have hchunk := @exists_decodeChunk_iff (index + 1 == chunks) c₀ c₁ c₂ c₃
    have hrest : ∀ output, (∃ bytes, decodeChunks chunks (index + 1) output rest = .ok bytes) ↔
        WellFormed rest :=
      fun output => exists_decodeChunks_iff (by omega) (by omega)
    have hbind : (∃ bytes, decodeChunks chunks index output (c₀ :: c₁ :: c₂ :: c₃ :: rest) =
          .ok bytes) ↔
        (∃ chunk, decodeChunk (index + 1 == chunks) c₀ c₁ c₂ c₃ = .ok chunk) ∧
          WellFormed rest := by
      rw [decodeChunks]
      simp only [bind_eq_ok_iff]
      constructor
      · rintro ⟨bytes, chunk, hchunk, hbytes⟩
        exact ⟨⟨chunk, hchunk⟩, (hrest _).mp ⟨bytes, hbytes⟩⟩
      · rintro ⟨⟨chunk, hchunk⟩, hwell⟩
        obtain ⟨bytes, hbytes⟩ := (hrest (output ++ chunk)).mpr hwell
        exact ⟨bytes, chunk, hchunk, hbytes⟩
    rw [hbind, hchunk]
    by_cases hnil : rest = []
    · subst hnil
      have hfinal : (index + 1 == chunks) = true := by
        rw [beq_iff_eq, hchunks]
        simp
      have hempty : WellFormed [] := ⟨rfl, [], 0, rfl, by omega, List.forall_mem_nil _⟩
      rw [hfinal, wellFormed_last]
      simp only [true_and, hempty, and_true]
    · have hfinal : (index + 1 == chunks) = false := by
        have hpos := List.length_pos_iff.mpr hnil
        rw [beq_eq_false_iff_ne]
        omega
      rw [hfinal, wellFormed_cons hnil]
      simp only [Bool.false_eq_true, false_and, or_false]

/-- **What is read**: base64 texts; every other string is an error. -/
theorem exists_decodeBase64_iff {value : Bytes} :
    (∃ bytes, decodeBase64 value = .ok bytes) ↔ WellFormed value := by
  by_cases h : value.length % 4 = 0
  · rw [decodeBase64, check, if_pos h, ok_bind]
    exact exists_decodeChunks_iff h (Nat.zero_add _).symm
  · refine iff_of_false ?_ fun hwell => h hwell.1
    rw [decodeBase64, check, if_neg h, error_bind]
    simp

/-! ## The argument of a module -/

/-- **Input survives.**  The enclave writes a text of whole groups and its terminator, inside the
memory it asked for; a workload reads the input back from it, and from its own encoding; and it
reads base64 texts only. -/
theorem input_survives :
    (∀ (malloc : UInt32 → Option Bytes) (x fresh : Bytes), x ≠ [] →
      4 * ((x.length + 2) / 3) + 1 < 2 ^ 32 →
      malloc (UInt32.ofNat (4 * ((x.length + 2) / 3) + 1)) = some fresh →
      fresh.length = 4 * ((x.length + 2) / 3) + 1 →
        ∃ text, base64EncodeWords malloc x = some (some (text ++ [0])) ∧
          text.length = 4 * ((x.length + 2) / 3) ∧ 0 ∉ text ∧ decodeBase64 text = .ok x) ∧
    (∀ x, decodeBase64 (encodeBase64 x) = .ok x) ∧
    ∀ value, (∃ bytes, decodeBase64 value = .ok bytes) ↔ WellFormed value := by
  refine ⟨?_, ?_, fun value => exists_decodeBase64_iff⟩
  · intro malloc x fresh hne hsize hmalloc hfresh
    have hread := decodeBase64_base64Chars x
    refine ⟨base64Chars x, Worker.base64EncodeWords_eq hne hsize hmalloc hfresh,
      length_base64Chars x, fun hnul => ?_, hread⟩
    -- a text that is read has no NUL
    obtain ⟨-, body, pads, hvalue, -, hbody⟩ := exists_decodeBase64_iff.mp ⟨x, hread⟩
    rw [hvalue] at hnul
    rcases List.mem_append.mp hnul with hnul | hnul
    · exact absurd (hbody 0 hnul) (by decide)
    · exact absurd (List.eq_of_mem_replicate hnul) (by decide)
  · intro x
    rw [encodeBase64_eq]
    exact decodeBase64_base64Chars x

/-- Five bytes, with memory that is not zeroed. -/
theorem hello_survives :
    ∃ text, base64EncodeWords (fun n => some (List.replicate n.toNat 0xcc)) (ascii "hello") =
        some (some (text ++ [0])) ∧
      text.length = 8 ∧ 0 ∉ text ∧ decodeBase64 text = .ok (ascii "hello") :=
  input_survives.1 _ (ascii "hello") (List.replicate 9 0xcc) (by decide) (by decide) rfl rfl

end Workload
end AsynCS
