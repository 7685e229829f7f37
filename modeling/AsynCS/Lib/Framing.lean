import AsynCS.Lib.Bytes

/-!
# Frames of length-prefixed parts

A frame is a header, the 32-bit lengths of its parts, and the parts.  The header holds a magic and
a version; the number of parts is fixed by the format.

* `encodeFrame`: the one encoding of a list of parts.
* `readLengths`, `takeParts`, `decodeFrame`: a reader that consumes its input from the front, with
  `decodeFrame_eq_some_iff`: it accepts the encodings and nothing else.
* `slices`: a reader that checks the total length first and then cuts; `takeParts_eq_some_nil_iff`
  says that the two read alike.
* `bind_readLengths_succ`, `bind_takeParts_cons`, `bind_decodeFrame`: a parser that does this one
  read at a time is `decodeFrame`.
-/

namespace AsynCS

/-! ## Lengths -/

/-- The 32-bit value of four bytes is below `2 ^ 32`, and they are its encoding. -/
theorem readU32be_eq_some_iff {b rest : Bytes} {n : ℕ} :
    readU32be b = some (n, rest) ↔ n < 2 ^ 32 ∧ b = u32be n ++ rest := by
  constructor
  · intro h
    match b, h with
    | x :: y :: z :: w :: tail, h =>
      obtain ⟨hn, rfl⟩ := Prod.mk.inj (Option.some.inj h)
      have hx := x.toNat_lt
      have hy := y.toNat_lt
      have hz := z.toNat_lt
      have hw := w.toNat_lt
      have hbyte : ∀ (v : UInt8) (m : ℕ), m % 256 = v.toNat → UInt8.ofNat m = v := by
        intro v m hm
        refine UInt8.toNat_inj.mp ?_
        rw [UInt8.toNat_ofNat']
        exact hm
      refine ⟨by omega, ?_⟩
      rw [u32be, hbyte x (n / 16777216) (by omega), hbyte y (n / 65536) (by omega),
        hbyte z (n / 256) (by omega), hbyte w n (by omega)]
      rfl
  · rintro ⟨hn, rfl⟩
    exact readU32be_u32be_append hn rest

/-- Read the next `n` lengths. -/
def readLengths : ℕ → Bytes → Option (List ℕ × Bytes)
  | 0, b => some ([], b)
  | n + 1, b => do
    let (len, r) ← readU32be b
    let (lens, r) ← readLengths n r
    some (len :: lens, r)

/-- **Lengths** are read back exactly. -/
theorem readLengths_eq_some_iff {n : ℕ} {b rest : Bytes} {lens : List ℕ} :
    readLengths n b = some (lens, rest) ↔
      lens.length = n ∧ (∀ len ∈ lens, len < 2 ^ 32) ∧ b = lens.flatMap u32be ++ rest := by
  induction n generalizing b lens rest with
  | zero =>
    rw [readLengths, Option.some.injEq, Prod.mk.injEq]
    constructor
    · rintro ⟨rfl, rfl⟩
      exact ⟨rfl, by simp, rfl⟩
    · rintro ⟨hlen, -, rfl⟩
      rw [List.length_eq_zero_iff.mp hlen]
      exact ⟨rfl, rfl⟩
  | succ n ih =>
    simp only [readLengths, Option.bind_eq_bind, Option.bind_eq_some_iff, Prod.exists,
      Option.some.injEq, Prod.mk.injEq, readU32be_eq_some_iff, ih]
    constructor
    · rintro ⟨len, r, ⟨hlt, rfl⟩, lens', r', ⟨hlen, hall, rfl⟩, rfl, rfl⟩
      refine ⟨by rw [List.length_cons, hlen], ?_, ?_⟩
      · intro m hm
        rcases List.mem_cons.mp hm with rfl | hm
        · exact hlt
        · exact hall m hm
      · rw [List.flatMap_cons, List.append_assoc]
    · rintro ⟨hlen, hall, rfl⟩
      cases lens with
      | nil => exact absurd hlen (by simp)
      | cons len lens =>
        refine ⟨len, lens.flatMap u32be ++ rest, ⟨hall len List.mem_cons_self, ?_⟩, lens, rest,
          ⟨Nat.succ.inj hlen, fun m hm => hall m (List.mem_cons_of_mem len hm), rfl⟩, rfl, rfl⟩
        rw [List.flatMap_cons, List.append_assoc]

/-- Lengths are read alike whatever stands behind them. -/
theorem readLengths_append {n : ℕ} {b rest : Bytes} {lens : List ℕ}
    (h : readLengths n b = some (lens, rest)) (c : Bytes) :
    readLengths n (b ++ c) = some (lens, rest ++ c) := by
  obtain ⟨hlen, hall, rfl⟩ := readLengths_eq_some_iff.mp h
  exact readLengths_eq_some_iff.mpr ⟨hlen, hall, List.append_assoc _ _ _⟩

/-! ## Parts -/

/-- Take the parts of the given lengths. -/
def takeParts : List ℕ → Bytes → Option (List Bytes × Bytes)
  | [], b => some ([], b)
  | len :: lens, b => do
    let (part, r) ← takeBytes len b
    let (parts, r) ← takeParts lens r
    some (part :: parts, r)

/-- **Parts** are read back exactly. -/
theorem takeParts_eq_some_iff {lens : List ℕ} {b rest : Bytes} {parts : List Bytes} :
    takeParts lens b = some (parts, rest) ↔
      parts.map List.length = lens ∧ b = parts.flatten ++ rest := by
  induction lens generalizing b parts rest with
  | nil =>
    rw [takeParts, Option.some.injEq, Prod.mk.injEq, List.map_eq_nil_iff]
    constructor
    · rintro ⟨rfl, rfl⟩
      exact ⟨rfl, rfl⟩
    · rintro ⟨rfl, rfl⟩
      exact ⟨rfl, rfl⟩
  | cons len lens ih =>
    simp only [takeParts, Option.bind_eq_bind, Option.bind_eq_some_iff, Prod.exists,
      Option.some.injEq, Prod.mk.injEq, takeBytes_eq_some_iff, ih]
    constructor
    · rintro ⟨part, r, ⟨rfl, rfl⟩, parts', r', ⟨rfl, rfl⟩, rfl, rfl⟩
      refine ⟨rfl, ?_⟩
      rw [List.flatten_cons, List.append_assoc]
    · rintro ⟨hlens, rfl⟩
      cases parts with
      | nil => exact absurd hlens (by simp)
      | cons part parts =>
        obtain ⟨hlen, hlens⟩ := List.cons.inj hlens
        refine ⟨part, parts.flatten ++ rest, ⟨?_, hlen⟩, parts, rest, ⟨hlens, rfl⟩, rfl, rfl⟩
        rw [List.flatten_cons, List.append_assoc]

/-- The slices of the given lengths, one behind the other. -/
def slices : List ℕ → Bytes → List Bytes
  | [], _ => []
  | len :: lens, b => b.take len :: slices lens (b.drop len)

/-- **Two ways to cut**: parts that use up the input are the slices of an input of the right
length. -/
theorem takeParts_eq_some_nil_iff {lens : List ℕ} {b : Bytes} {parts : List Bytes} :
    takeParts lens b = some (parts, []) ↔ b.length = lens.sum ∧ slices lens b = parts := by
  induction lens generalizing b parts with
  | nil =>
    rw [takeParts, Option.some.injEq, Prod.mk.injEq, List.sum_nil, List.length_eq_zero_iff, slices]
    exact and_comm
  | cons len lens ih =>
    simp only [takeParts, Option.bind_eq_bind, Option.bind_eq_some_iff, Prod.exists,
      Option.some.injEq, Prod.mk.injEq, takeBytes_eq_some_iff, slices, List.sum_cons]
    constructor
    · rintro ⟨part, r, ⟨rfl, rfl⟩, parts', r', hparts, rfl, rfl⟩
      obtain ⟨hlen, rfl⟩ := ih.mp hparts
      refine ⟨by rw [List.length_append, hlen], ?_⟩
      rw [List.take_left, List.drop_left]
    · rintro ⟨hlen, rfl⟩
      refine ⟨b.take len, b.drop len, ⟨(List.take_append_drop len b).symm, ?_⟩,
        slices lens (b.drop len), [], ih.mpr ⟨?_, rfl⟩, rfl, rfl⟩
      · rw [List.length_take]
        omega
      · rw [List.length_drop]
        omega

/-! ## Frames -/

/-- The frame of a list of parts. -/
def encodeFrame (header : Bytes) (parts : List Bytes) : Bytes :=
  header ++ parts.flatMap (fun part => u32be part.length) ++ parts.flatten

/-- Read a frame of `n` parts that uses up the input. -/
def decodeFrame (header : Bytes) (n : ℕ) (b : Bytes) : Option (List Bytes) :=
  if header <+: b then do
    let (lens, body) ← readLengths n (b.drop header.length)
    let (parts, rest) ← takeParts lens body
    if rest = [] then some parts else none
  else none

/-- **A frame is read back, and nothing else is accepted.** -/
theorem decodeFrame_eq_some_iff {header b : Bytes} {n : ℕ} {parts : List Bytes} :
    decodeFrame header n b = some parts ↔
      parts.length = n ∧ (∀ part ∈ parts, part.length < 2 ^ 32) ∧
        b = encodeFrame header parts := by
  have hlengths : parts.flatMap (fun part => u32be part.length) =
      (parts.map List.length).flatMap u32be := by
    rw [List.flatMap_map]
  unfold decodeFrame
  constructor
  · intro h
    split at h
    · rename_i hheader
      obtain ⟨body, rfl⟩ := hheader
      rw [List.drop_left] at h
      obtain ⟨⟨lens, r⟩, hlens, htail⟩ := Option.bind_eq_some_iff.mp h
      obtain ⟨⟨parts', rest⟩, hparts, hend⟩ := Option.bind_eq_some_iff.mp htail
      obtain ⟨hlen, hall, rfl⟩ := readLengths_eq_some_iff.mp hlens
      obtain ⟨rfl, rfl⟩ := takeParts_eq_some_iff.mp hparts
      by_cases hrest : rest = []
      · obtain rfl : parts' = parts := Option.some.inj ((if_pos hrest).symm.trans hend)
        refine ⟨by rw [← hlen, List.length_map], ?_, ?_⟩
        · intro part hpart
          exact hall part.length (List.mem_map_of_mem hpart)
        · rw [encodeFrame, hlengths, hrest, List.append_nil, List.append_assoc]
      · exact absurd ((if_neg hrest).symm.trans hend) (by simp)
    · exact absurd h (by simp)
  · rintro ⟨hlen, hall, rfl⟩
    have hbody : encodeFrame header parts =
        header ++ ((parts.map List.length).flatMap u32be ++ parts.flatten) := by
      rw [encodeFrame, hlengths, List.append_assoc]
    have hlens : readLengths n ((parts.map List.length).flatMap u32be ++ parts.flatten) =
        some (parts.map List.length, parts.flatten) := by
      refine readLengths_eq_some_iff.mpr ⟨by rw [List.length_map, hlen], ?_, rfl⟩
      intro len hmem
      obtain ⟨part, hpart, rfl⟩ := List.mem_map.mp hmem
      exact hall part hpart
    have hparts : takeParts (parts.map List.length) parts.flatten = some (parts, []) :=
      takeParts_eq_some_iff.mpr ⟨rfl, (List.append_nil _).symm⟩
    rw [hbody, if_pos (List.prefix_append header _), List.drop_left, hlens]
    show ((takeParts (parts.map List.length) parts.flatten).bind fun q =>
      if q.2 = [] then some q.1 else none) = some parts
    rw [hparts, Option.bind_some, if_pos rfl]

/-! ## Parsers in steps -/

section Steps

variable {β : Type}

theorem bind_readLengths_succ (f : List ℕ × Bytes → Option β) (n : ℕ) (b : Bytes) :
    (readLengths (n + 1) b).bind f =
      (readU32be b).bind fun q => (readLengths n q.2).bind fun p => f (q.1 :: p.1, p.2) := by
  show ((readU32be b).bind fun q => (readLengths n q.2).bind fun p =>
    some (q.1 :: p.1, p.2)).bind f = _
  rw [Option.bind_assoc]
  refine Option.bind_congr fun q _ => ?_
  rw [Option.bind_assoc]
  rfl

theorem bind_takeParts_cons (f : List Bytes × Bytes → Option β) (len : ℕ) (lens : List ℕ)
    (b : Bytes) :
    (takeParts (len :: lens) b).bind f =
      (takeBytes len b).bind fun q => (takeParts lens q.2).bind fun p => f (q.1 :: p.1, p.2) := by
  show ((takeBytes len b).bind fun q => (takeParts lens q.2).bind fun p =>
    some (q.1 :: p.1, p.2)).bind f = _
  rw [Option.bind_assoc]
  refine Option.bind_congr fun q _ => ?_
  rw [Option.bind_assoc]
  rfl

/-- A parser that reads lengths, then parts, and then checks the end and the parts. -/
theorem bind_decodeFrame {header b : Bytes} (h : header <+: b) (n : ℕ)
    (f : List Bytes → Option β) :
    (decodeFrame header n b).bind f =
      (readLengths n (b.drop header.length)).bind fun q => (takeParts q.1 q.2).bind fun p =>
        if p.2 = [] then f p.1 else none := by
  show (if header <+: b then ((readLengths n (b.drop header.length)).bind fun q =>
    (takeParts q.1 q.2).bind fun p => if p.2 = [] then some p.1 else none) else none).bind f = _
  rw [if_pos h, Option.bind_assoc]
  refine Option.bind_congr fun q _ => ?_
  rw [Option.bind_assoc]
  refine Option.bind_congr fun p _ => ?_
  split
  · rfl
  · rfl

/-- A parser that reads the lengths, compares their sum with the size of the input, and cuts. -/
theorem bind_decodeFrame_slices {header b : Bytes} (h : header <+: b) (n : ℕ)
    (f : List Bytes → Option β) :
    (decodeFrame header n b).bind f =
      (readLengths n (b.drop header.length)).bind fun q =>
        if q.2.length = q.1.sum then f (slices q.1 q.2) else none := by
  rw [bind_decodeFrame h]
  refine Option.bind_congr fun q _ => ?_
  split
  · rename_i hlen
    rw [takeParts_eq_some_nil_iff.mpr ⟨hlen, rfl⟩, Option.bind_some, if_pos rfl]
  · rename_i hlen
    rw [Option.bind_eq_none_iff]
    rintro ⟨parts, rest⟩ hparts
    refine if_neg ?_
    rintro rfl
    exact hlen (takeParts_eq_some_nil_iff.mp hparts).1

end Steps

/-- A test of a magic and of a version byte behind it looks for the header. -/
theorem isHeader_iff {magic b : Bytes} {version : UInt8} :
    (decide (magic.length + 1 ≤ b.length) && (b.take magic.length == magic) &&
        (b.drop magic.length).take 1 == [version]) = true ↔ magic ++ [version] <+: b := by
  simp only [Bool.and_eq_true, decide_eq_true_eq, beq_iff_eq]
  constructor
  · rintro ⟨⟨-, hmagic⟩, hversion⟩
    refine ⟨b.drop (magic.length + 1), ?_⟩
    rw [← hversion, ← hmagic, List.length_take, ← List.drop_drop]
    have hle : magic.length ≤ b.length := by
      have hlen := congrArg List.length hmagic
      rw [List.length_take] at hlen
      omega
    rw [Nat.min_eq_left hle, List.append_assoc, List.take_append_drop, List.take_append_drop]
  · rintro ⟨rest, rfl⟩
    rw [List.append_assoc, List.take_left, List.drop_left]
    refine ⟨⟨?_, rfl⟩, rfl⟩
    simp only [List.length_append, List.length_cons, List.length_nil]
    omega

/-- The same test on an input that is long enough. -/
theorem header_prefix_iff {magic b : Bytes} {version : UInt8} (hlen : magic.length + 1 ≤ b.length) :
    magic ++ [version] <+: b ↔
      b.take magic.length = magic ∧ (b.drop magic.length).take 1 = [version] := by
  rw [← isHeader_iff, Bool.and_eq_true, Bool.and_eq_true, decide_eq_true_eq, beq_iff_eq,
    beq_iff_eq]
  constructor
  · rintro ⟨⟨-, hmagic⟩, hversion⟩
    exact ⟨hmagic, hversion⟩
  · rintro ⟨hmagic, hversion⟩
    exact ⟨⟨hlen, hmagic⟩, hversion⟩

/-- A length takes four bytes. -/
theorem length_of_readLengths {n : ℕ} {b body : Bytes} {lens : List ℕ}
    (h : readLengths n b = some (lens, body)) : b.length = 4 * n + body.length := by
  obtain ⟨hcount, -, rfl⟩ := readLengths_eq_some_iff.mp h
  have hflat : (lens.flatMap u32be).length = 4 * n := by
    rw [List.length_flatMap, List.map_congr_left fun m _ => length_u32be m, List.map_const',
      List.sum_replicate, hcount, smul_eq_mul, Nat.mul_comm]
  rw [List.length_append, hflat]

end AsynCS
