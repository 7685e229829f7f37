import AsynCS.Lib.BitFields
import AsynCS.Lib.Stores
import AsynCS.Worker.Encoding

/-!
# The base64 encoder of the enclave in machine words

`base64_encode` counts with `uint32_t` and writes through a pointer into an allocation; the padding
is written over what the loop has put there.

* `base64EncodeWords`: the function, with every read and every store checked.
* `encodeLoop_eq`: the loop writes the characters of the groups behind what is written.
* `padding_eq`: the last characters become padding.
* `base64EncodeWords_eq`: it writes the characters and the terminator, and nothing outside.
-/

namespace AsynCS
namespace Worker

/-! ## The function -/

/-- `i < len ? data[i++] : 0` -/
def nextByte (data : Bytes) (len i : UInt32) : Option (UInt32 × UInt32) :=
  if i < len then (data[i.toNat]?).map fun x => (x.toUInt32, i + 1) else some (0, i)

/-- `out[j] = base64_table[x & 0x3F]` -/
def storeSextet (out : Bytes) (j x : UInt32) : Option Bytes :=
  storeAt out j.toNat (base64Table.getD (x &&& 0x3f).toNat 0)

/-- The four stores of a group. -/
def storeGroup (out : Bytes) (j triple : UInt32) : Option Bytes := do
  let out ← storeSextet out j (triple >>> 18)
  let out ← storeSextet out (j + 1) (triple >>> 12)
  let out ← storeSextet out (j + 2) (triple >>> 6)
  storeSextet out (j + 3) triple

/-- `i`, `j` and the buffer. -/
structure EncoderState where
  i : UInt32
  j : UInt32
  out : Bytes

/-- The body of the loop. -/
def encodeGroup (data : Bytes) (len : UInt32) (s : EncoderState) : Option EncoderState := do
  let a ← nextByte data len s.i
  let b ← nextByte data len a.2
  let c ← nextByte data len b.2
  let out ← storeGroup s.out s.j ((a.1 <<< 16) ||| (b.1 <<< 8) ||| c.1)
  some ⟨c.2, s.j + 4, out⟩

/-- The loop, with fuel. -/
def encodeLoop (data : Bytes) (len : UInt32) : ℕ → EncoderState → Option Bytes
  | 0, s => if s.i < len then none else some s.out
  | fuel + 1, s =>
    if s.i < len then (encodeGroup data len s).bind (encodeLoop data len fuel) else some s.out

/-- The padding. -/
def padding (out : Bytes) (len outLen : UInt32) : Option Bytes :=
  let mod := len % 3
  if mod = 1 then
    (storeAt out (outLen - 2).toNat 61).bind fun out => storeAt out (outLen - 1).toNat 61
  else if mod = 2 then storeAt out (outLen - 1).toNat 61
  else some out

/-- `base64_encode`.  `none` is a read or a store outside, `some none` is NULL.  The memory that
`malloc` returns is as it was. -/
def base64EncodeWords (malloc : UInt32 → Option Bytes) (data : Bytes) : Option (Option Bytes) :=
  let len := UInt32.ofNat data.length
  if len = 0 then some none
  else
    let outLen := ((len + 2) / 3) * 4
    match malloc (outLen + 1) with
    | none => some none
    | some out => do
      let out ← encodeLoop data len data.length ⟨0, 0, out⟩
      let out ← padding out len outLen
      let out ← storeAt out outLen.toNat 0
      some (some out)

/-! ## The loop -/

/-- What the loop writes: missing bytes count as zero. -/
def rawChars : Bytes → Bytes
  | [] => []
  | [a] => base64Quad a 0 0
  | [a, b] => base64Quad a b 0
  | a :: b :: c :: rest => base64Quad a b c ++ rawChars rest

@[simp] theorem length_base64Quad (a b c : UInt8) : (base64Quad a b c).length = 4 := rfl

theorem length_rawChars (b : Bytes) : (rawChars b).length = 4 * ((b.length + 2) / 3) := by
  induction b using rawChars.induct with
  | case1 => rfl
  | case2 a => simp [rawChars]
  | case3 a b => simp [rawChars]
  | case4 a b c rest ih =>
    rw [rawChars, List.length_append, length_base64Quad, ih]
    simp only [List.length_cons]
    omega

theorem length_base64Chars (b : Bytes) : (base64Chars b).length = 4 * ((b.length + 2) / 3) := by
  induction b using base64Chars.induct with
  | case1 => rfl
  | case2 a => simp [base64Chars, ascii]
  | case3 a b => simp [base64Chars, ascii]
  | case4 a b c rest ih =>
    rw [base64Chars, List.length_append, length_base64Quad, ih]
    simp only [List.length_cons]
    omega

section Loop

variable {data : Bytes} {len : UInt32}

theorem nextByte_cons {pre rest : Bytes} {x : UInt8} {i : UInt32} (hdata : data = pre ++ x :: rest)
    (hlen : len.toNat = data.length) (hi : i.toNat = pre.length) :
    nextByte data len i = some (x.toUInt32, i + 1) := by
  have hlt : i < len := by
    rw [UInt32.lt_iff_toNat_lt, hlen, hi, hdata, List.length_append, List.length_cons]
    omega
  rw [nextByte, if_pos hlt, hi, hdata, List.getElem?_append_right le_rfl, Nat.sub_self]
  rfl

theorem nextByte_end {i : UInt32} (hlen : len.toNat = data.length) (hi : i.toNat = data.length) :
    nextByte data len i = some ((0 : UInt8).toUInt32, i) := by
  have hlt : ¬ i < len := by
    rw [UInt32.lt_iff_toNat_lt, hlen, hi]
    exact lt_irrefl _
  rw [nextByte, if_neg hlt]
  rfl

/-- Behind a byte that is read. -/
theorem next_eq {pre rest : Bytes} {x : UInt8} {i : UInt32} (hdata : data = pre ++ x :: rest)
    (hlen : len.toNat = data.length) (hi : i.toNat = pre.length) :
    data = (pre ++ [x]) ++ rest ∧ (i + 1).toNat = (pre ++ [x]).length := by
  have hlt := len.toNat_lt
  rw [hlen, hdata, List.length_append, List.length_cons] at hlt
  refine ⟨by rw [hdata, List.append_assoc, List.singleton_append], ?_⟩
  rw [UInt32.toNat_add, hi, List.length_append, List.length_singleton]
  exact Nat.mod_eq_of_lt (by simp; omega)

/-- The place of the `n`-th character of a group. -/
theorem toNat_add_of_lt {j n : UInt32} {written : Bytes} (hj : j.toNat = written.length)
    (hn : written.length + n.toNat < 2 ^ 32) : (j + n).toNat = written.length + n.toNat := by
  rw [UInt32.toNat_add, hj, Nat.mod_eq_of_lt hn]

theorem storeSextet_eq (out : Bytes) (j x : UInt32) :
    storeSextet out j x = storeAt out j.toNat (base64Char x.toNat) := by
  rw [storeSextet, UInt32.toNat_and, base64Char]
  congr 2
  exact Nat.and_two_pow_sub_one_eq_mod _ 6

/-- The four stores of three bytes. -/
theorem storeGroup_eq (a b c : UInt8) {written old : Bytes} {j : UInt32}
    (hj : j.toNat = written.length) (hroom : 4 ≤ old.length)
    (hbound : written.length + 4 < 2 ^ 32) :
    storeGroup (written ++ old) j ((a.toUInt32 <<< 16) ||| (b.toUInt32 <<< 8) ||| c.toUInt32) =
      some (written ++ base64Quad a b c ++ old.drop 4) := by
  have hword := toNat_pack3 (a := a.toUInt32) (b := b.toUInt32) (c := c.toUInt32)
    (by simpa using a.toNat_lt) (by simpa using b.toNat_lt) (by simpa using c.toNat_lt)
  simp only [UInt8.toNat_toUInt32] at hword
  generalize (a.toUInt32 <<< 16) ||| (b.toUInt32 <<< 8) ||| c.toUInt32 = triple at hword ⊢
  have hj1 : (j + 1).toNat = written.length + 1 := toNat_add_of_lt hj (by simp; omega)
  have hj2 : (j + 2).toNat = written.length + 1 + 1 := toNat_add_of_lt hj (by simp; omega)
  have hj3 : (j + 3).toNat = written.length + 1 + 1 + 1 := toNat_add_of_lt hj (by simp; omega)
  have hshift : ∀ k : UInt32, k.toNat < 32 → (triple >>> k).toNat = triple.toNat / 2 ^ k.toNat := by
    intro k hk
    rw [UInt32.toNat_shiftRight, Nat.mod_eq_of_lt hk, Nat.shiftRight_eq_div_pow]
  have h18 : (triple >>> 18).toNat = triple.toNat / 262144 := hshift 18 (by decide)
  have h12 : (triple >>> 12).toNat = triple.toNat / 4096 := hshift 12 (by decide)
  have h6 : (triple >>> 6).toNat = triple.toNat / 64 := hshift 6 (by decide)
  have hall := storeAll_append written (base64Quad a b c) old (by simpa using hroom)
  rw [length_base64Quad] at hall
  rw [← hall]
  simp only [storeGroup, storeSextet_eq, hj, hj1, hj2, hj3, h18, h12, h6, hword, base64Quad,
    storeAll, Option.bind_eq_bind, Option.bind_fun_some]

/-- What a group comes to, from its three bytes and where reading them ends. -/
theorem encodeGroup_of_bytes {a b c : UInt8} {i ia ib ic j : UInt32} {written old : Bytes}
    (ha : nextByte data len i = some (a.toUInt32, ia))
    (hb : nextByte data len ia = some (b.toUInt32, ib))
    (hc : nextByte data len ib = some (c.toUInt32, ic)) (hj : j.toNat = written.length)
    (hroom : 4 ≤ old.length) (hbound : written.length + 4 < 2 ^ 32) :
    encodeGroup data len ⟨i, j, written ++ old⟩ =
      some ⟨ic, j + 4, written ++ base64Quad a b c ++ old.drop 4⟩ := by
  simp only [encodeGroup, ha, hb, hc, Option.bind_eq_bind, Option.bind_some,
    storeGroup_eq a b c hj hroom hbound]

/-- The loop ends behind the data. -/
theorem encodeLoop_end {fuel : ℕ} {s : EncoderState} (hlen : len.toNat = data.length)
    (hi : s.i.toNat = data.length) : encodeLoop data len fuel s = some s.out := by
  have hlt : ¬ s.i < len := by
    rw [UInt32.lt_iff_toNat_lt, hlen, hi]
    exact lt_irrefl _
  cases fuel <;> rw [encodeLoop, if_neg hlt]

theorem encodeLoop_succ {fuel : ℕ} {s : EncoderState} (hlen : len.toNat = data.length)
    (hi : s.i.toNat < data.length) :
    encodeLoop data len (fuel + 1) s =
      (encodeGroup data len s).bind (encodeLoop data len fuel) := by
  have hlt : s.i < len := by rwa [UInt32.lt_iff_toNat_lt, hlen]
  rw [encodeLoop, if_pos hlt]

/-- **The loop** writes the characters of the groups, one group after the other. -/
theorem encodeLoop_eq (rest : Bytes) {pre written old : Bytes} {i j : UInt32} {fuel : ℕ}
    (hdata : data = pre ++ rest) (hlen : len.toNat = data.length) (hi : i.toNat = pre.length)
    (hj : j.toNat = written.length) (hroom : (rawChars rest).length ≤ old.length)
    (hbound : written.length + old.length < 2 ^ 32) (hfuel : rest.length ≤ fuel) :
    encodeLoop data len fuel ⟨i, j, written ++ old⟩ =
      some (written ++ rawChars rest ++ old.drop (rawChars rest).length) := by
  induction rest using rawChars.induct generalizing pre written old i j fuel with
  | case1 =>
    rw [List.append_nil] at hdata
    rw [encodeLoop_end hlen (hi.trans (by rw [hdata]))]
    simp [rawChars]
  | case2 a =>
    simp only [rawChars, length_base64Quad, List.length_singleton] at hroom hfuel ⊢
    obtain ⟨fuel, rfl⟩ := Nat.exists_eq_succ_of_ne_zero (show fuel ≠ 0 by omega)
    obtain ⟨hda, hia⟩ := next_eq hdata hlen hi
    have hend : (i + 1).toNat = data.length := by rw [hia, hda, List.append_nil]
    rw [encodeLoop_succ hlen (by rw [hdata, List.length_append, hi]; simp),
      encodeGroup_of_bytes (nextByte_cons hdata hlen hi) (nextByte_end hlen hend)
        (nextByte_end hlen hend) hj hroom (by omega), Option.bind_some, encodeLoop_end hlen hend]
  | case3 a b =>
    simp only [rawChars, length_base64Quad, List.length_cons, List.length_nil] at hroom hfuel ⊢
    obtain ⟨fuel, rfl⟩ := Nat.exists_eq_succ_of_ne_zero (show fuel ≠ 0 by omega)
    obtain ⟨hda, hia⟩ := next_eq hdata hlen hi
    obtain ⟨hdb, hib⟩ := next_eq hda hlen hia
    have hend : (i + 1 + 1).toNat = data.length := by rw [hib, hdb, List.append_nil]
    rw [encodeLoop_succ hlen (by rw [hdata, List.length_append, hi]; simp),
      encodeGroup_of_bytes (nextByte_cons hdata hlen hi) (nextByte_cons hda hlen hia)
        (nextByte_end hlen hend) hj hroom (by omega), Option.bind_some, encodeLoop_end hlen hend]
  | case4 a b c rest ih =>
    simp only [rawChars, List.length_append, length_base64Quad, List.length_cons] at hroom hfuel ⊢
    obtain ⟨fuel, rfl⟩ := Nat.exists_eq_succ_of_ne_zero (show fuel ≠ 0 by omega)
    obtain ⟨hda, hia⟩ := next_eq hdata hlen hi
    obtain ⟨hdb, hib⟩ := next_eq hda hlen hia
    obtain ⟨hdc, hic⟩ := next_eq hdb hlen hib
    have hj4 : (j + 4).toNat = (written ++ base64Quad a b c).length := by
      rw [toNat_add_of_lt hj (by simp; omega), List.length_append, length_base64Quad]
      rfl
    rw [encodeLoop_succ hlen (by rw [hdata, List.length_append, hi]; simp),
      encodeGroup_of_bytes (nextByte_cons hdata hlen hi) (nextByte_cons hda hlen hia)
        (nextByte_cons hdb hlen hib) hj (by omega) (by omega), Option.bind_some,
      ih hdc hic hj4 (by rw [List.length_drop]; omega)
        (by rw [List.length_drop, List.length_append, length_base64Quad]; omega) (by omega),
      List.drop_drop, List.append_assoc written]

end Loop

/-! ## The padding -/

/-- The characters of the loop and those of the text differ in what the last group lacks. -/
theorem rawChars_cases (data : Bytes) :
    ∃ body spill, rawChars data = body ++ spill ∧
      base64Chars data = body ++ List.replicate spill.length 61 ∧
        spill.length = (3 - data.length % 3) % 3 := by
  induction data using rawChars.induct with
  | case1 => exact ⟨[], [], rfl, rfl, rfl⟩
  | case2 a =>
    refine ⟨(base64Quad a 0 0).take 2, (base64Quad a 0 0).drop 2, ?_, ?_, ?_⟩
    · rw [rawChars, List.take_append_drop]
    · rw [base64Chars]
      rfl
    · rfl
  | case3 a b =>
    refine ⟨(base64Quad a b 0).take 3, (base64Quad a b 0).drop 3, ?_, ?_, ?_⟩
    · rw [rawChars, List.take_append_drop]
    · rw [base64Chars]
      rfl
    · rfl
  | case4 a b c rest ih =>
    obtain ⟨body, spill, hraw, hchars, hlen⟩ := ih
    refine ⟨base64Quad a b c ++ body, spill, ?_, ?_, ?_⟩
    · rw [rawChars, hraw, List.append_assoc]
    · rw [base64Chars, hchars, List.append_assoc]
    · rw [hlen, List.length_cons, List.length_cons, List.length_cons]
      omega

/-- **The padding** makes the characters of the loop the ones of the text. -/
theorem padding_eq (data : Bytes) (last : UInt8) {len outLen : UInt32}
    (hlen : len.toNat = data.length) (hout : outLen.toNat = 4 * ((data.length + 2) / 3)) :
    padding (rawChars data ++ [last]) len outLen = some (base64Chars data ++ [last]) := by
  obtain ⟨body, spill, hraw, hchars, hspill⟩ := rawChars_cases data
  have hsize := length_rawChars data
  rw [hraw, List.length_append, ← hout] at hsize
  have hmod : (len % 3).toNat = data.length % 3 := by
    rw [UInt32.toNat_mod, hlen]
    rfl
  have hsub : ∀ k : UInt32, k.toNat ≤ outLen.toNat → (outLen - k).toNat = outLen.toNat - k.toNat :=
    fun k hk => UInt32.toNat_sub_of_le _ _ (UInt32.le_iff_toNat_le.mpr hk)
  rw [hraw, hchars]
  unfold padding
  have hcases : data.length % 3 = 0 ∨ data.length % 3 = 1 ∨ data.length % 3 = 2 := by omega
  rcases hcases with h0 | h1 | h2
  · have hspill0 : spill = [] := List.length_eq_zero_iff.mp (by omega)
    rw [if_neg (by rw [← UInt32.toNat_inj, hmod, h0]; decide),
      if_neg (by rw [← UInt32.toNat_inj, hmod, h0]; decide), hspill0]
    rfl
  · obtain ⟨x, y, rfl⟩ := List.length_eq_two.mp (show spill.length = 2 by omega)
    have hx : (outLen - 2).toNat = body.length := by
      rw [hsub 2 (by simp at hsize ⊢; omega)]
      simp at hsize ⊢
      omega
    have hy : (outLen - 1).toNat = (body ++ [61]).length := by
      rw [hsub 1 (by simp at hsize ⊢; omega)]
      simp at hsize ⊢
      omega
    rw [if_pos (by rw [← UInt32.toNat_inj, hmod, h1]; rfl), hx, hy, List.append_assoc,
      List.cons_append, storeAt_append, Option.bind_some]
    have hstore := storeAt_append (body ++ [61]) y 61 [last]
    simp only [List.append_assoc, List.singleton_append] at hstore
    simp only [List.singleton_append]
    rw [hstore]
    simp
  · obtain ⟨x, rfl⟩ := List.length_eq_one_iff.mp (show spill.length = 1 by omega)
    have hx : (outLen - 1).toNat = body.length := by
      rw [hsub 1 (by simp at hsize ⊢; omega)]
      simp at hsize ⊢
      omega
    rw [if_neg (by rw [← UInt32.toNat_inj, hmod, h2]; decide),
      if_pos (by rw [← UInt32.toNat_inj, hmod, h2]; rfl), hx, List.append_assoc,
      List.singleton_append, storeAt_append, List.append_assoc]
    rfl

/-- **The encoder of the enclave** writes the characters and the terminator into memory of the size
it asked for. -/
theorem base64EncodeWords_eq {malloc : UInt32 → Option Bytes} {data fresh : Bytes}
    (hne : data ≠ []) (hsize : 4 * ((data.length + 2) / 3) + 1 < 2 ^ 32)
    (hmalloc : malloc (UInt32.ofNat (4 * ((data.length + 2) / 3) + 1)) = some fresh)
    (hfresh : fresh.length = 4 * ((data.length + 2) / 3) + 1) :
    base64EncodeWords malloc data = some (some (base64Chars data ++ [0])) := by
  have hpos : 0 < data.length := List.length_pos_iff.mpr hne
  have hlen : (UInt32.ofNat data.length).toNat = data.length :=
    UInt32.toNat_ofNat_of_lt' (by simp [UInt32.size]; omega)
  have hout : ((UInt32.ofNat data.length + 2) / 3 * 4).toNat = 4 * ((data.length + 2) / 3) := by
    rw [UInt32.toNat_mul, UInt32.toNat_div, UInt32.toNat_add, hlen]
    show (data.length + 2) % 2 ^ 32 / 3 * 4 % 2 ^ 32 = _
    rw [Nat.mod_eq_of_lt (show data.length + 2 < 2 ^ 32 by omega), Nat.mod_eq_of_lt (by omega)]
    omega
  have hask : (UInt32.ofNat data.length + 2) / 3 * 4 + 1 =
      UInt32.ofNat (4 * ((data.length + 2) / 3) + 1) := by
    apply UInt32.toNat_inj.mp
    rw [UInt32.toNat_add, hout, UInt32.toNat_ofNat_of_lt' (by simp [UInt32.size]; omega)]
    exact Nat.mod_eq_of_lt hsize
  have hloop := @encodeLoop_eq data (UInt32.ofNat data.length) data [] [] fresh 0 0 data.length
    rfl hlen rfl rfl (by rw [length_rawChars]; omega)
    (by rw [List.length_nil, hfresh]; omega) le_rfl
  -- what the loop leaves of the buffer is the place of the terminator
  obtain ⟨last, hlast⟩ := List.length_eq_one_iff.mp
    (show (fresh.drop (rawChars data).length).length = 1 by
      rw [List.length_drop, hfresh, length_rawChars]; omega)
  simp only [List.nil_append, hlast] at hloop
  have hend := storeAt_append (base64Chars data) last 0 []
  rw [length_base64Chars, ← hout] at hend
  unfold base64EncodeWords
  simp only [hask, hmalloc, hloop, padding_eq data last hlen hout, hend, Option.bind_eq_bind,
    Option.bind_some]
  rw [if_neg]
  intro h0
  rw [h0] at hlen
  exact absurd hlen (by simp; omega)

end Worker
end AsynCS
