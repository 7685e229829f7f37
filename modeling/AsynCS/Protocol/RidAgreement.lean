import AsynCS.OpenWhisk.Invoker
import AsynCS.Worker.Encoding

/-!
# One RID for all components

The client, the receipt handler, the invoker, the smoke-test tool and the worker each encode an
FID with code of their own.  Here their RIDs and associated data are compared, over every FID.

* `Fid`: an FID string without NUL, as Python and as C hold it.
* `fromHex_of_decodeHex`, `decodeHex_of_fromHex`: the worker reads the digits that
  `bytes.fromhex` reads without skipping anything.
* `Agree`: all RIDs and associated data for an FID and a request are the same.
* `Canonical`: the FIDs for which they are, `agree_iff_canonical`.
-/

namespace AsynCS
namespace Protocol

open Client OpenWhisk Worker

/-! ## FIDs in both languages -/

/-- An FID string: any text without NUL. -/
structure Fid where
  text : Text
  noNul : ∀ c ∈ text, c.toNat ≠ 0

namespace Fid

/-- The FID as a Python string. -/
def str (fid : Fid) : PyStr := PyStr.ofText fid.text

theorem utf8_noNul (fid : Fid) : ∀ b ∈ utf8 fid.text, b ≠ 0 := by
  rintro b hb rfl
  obtain ⟨c, hc, hzero⟩ := (mem_utf8_iff_of_lt (by decide)).mp hb
  exact fid.noNul c hc hzero

/-- The FID as a C string: its UTF-8 bytes. -/
def cstr (fid : Fid) : CStr := ⟨utf8 fid.text, fid.utf8_noNul⟩

end Fid

/-! ## Reading digits -/

/-- The worker reads the digit that an ASCII character is. -/
theorem hexNibble_ofNat {c : Char} (h : c.toNat < 128) :
    hexNibble (UInt8.ofNat c.toNat) = hexValue c := by
  have hval : (UInt8.ofNat c.toNat).toNat = c.toNat := by
    rw [UInt8.toNat_ofNat']
    omega
  unfold hexNibble hexValue
  simp only [UInt8.le_iff_toNat_le, hval, UInt8.reduceToNat]
  split
  · rfl
  · split
    · congr 1
      omega
    · split
      · congr 1
        omega
      · rfl

/-- No byte of another character is a digit. -/
theorem ascii_of_hexNibble {c : Char} {x : UInt8} {v : ℕ} (hx : x ∈ String.utf8EncodeChar c)
    (hv : hexNibble x = some v) : c.toNat < 128 := by
  refine lt_of_mem_utf8EncodeChar hx ?_
  by_contra hlt
  simp only [hexNibble, UInt8.le_iff_toNat_le, UInt8.reduceToNat] at hv
  split at hv
  · omega
  · split at hv
    · omega
    · split at hv
      · omega
      · exact absurd hv (by simp)

/-- A text whose first byte is a digit starts with that digit. -/
theorem exists_digit_of_utf8 {t : Text} {x : UInt8} {rest : Bytes} {v : ℕ}
    (h : utf8 t = x :: rest) (hv : hexNibble x = some v) :
    ∃ c t', t = c :: t' ∧ hexValue c = some v ∧ utf8 t' = rest := by
  cases t with
  | nil => exact absurd h (by simp)
  | cons c t =>
    have hmem : x ∈ String.utf8EncodeChar c := by
      rw [utf8_cons] at h
      obtain ⟨y, ys, hy⟩ := List.exists_cons_of_ne_nil (String.utf8EncodeChar_ne_nil (c := c))
      rw [hy, List.cons_append] at h
      rw [hy, (List.cons.inj h).1]
      exact List.mem_cons_self
    have hascii := ascii_of_hexNibble hmem hv
    rw [utf8_cons, utf8EncodeChar_of_lt hascii, List.singleton_append] at h
    obtain ⟨rfl, hrest⟩ := List.cons.inj h
    exact ⟨c, t, rfl, by rw [← hexNibble_ofNat hascii, hv], hrest⟩

/-- The bytes that start with a pair of digits. -/
theorem decodeHex_cons_eq_some {l : Bytes} {y : UInt8} {b : Bytes}
    (h : decodeHex l = some (y :: b)) :
    ∃ x₁ x₂ rest hi lo, l = x₁ :: x₂ :: rest ∧ hexNibble x₁ = some hi ∧
      hexNibble x₂ = some lo ∧ decodeHex rest = some b ∧ y = UInt8.ofNat (hi * 16 + lo) := by
  match l, h with
  | [], h => exact absurd h (by simp [decodeHex])
  | [_], h => exact absurd h (by simp [decodeHex])
  | x₁ :: x₂ :: rest, h =>
    rw [decodeHex] at h
    obtain ⟨hi, hhi, h⟩ := Option.bind_eq_some_iff.mp h
    obtain ⟨lo, hlo, h⟩ := Option.bind_eq_some_iff.mp h
    obtain ⟨decoded, hdecoded, h⟩ := Option.bind_eq_some_iff.mp h
    obtain ⟨hy, rfl⟩ := List.cons.inj (Option.some.inj h)
    exact ⟨x₁, x₂, rest, hi, lo, rfl, hhi, hlo, hdecoded, hy.symm⟩

theorem decodeHex_eq_some_nil_iff {l : Bytes} : decodeHex l = some [] ↔ l = [] := by
  constructor
  · intro h
    match l, h with
    | [], _ => rfl
    | [_], h => exact absurd h (by simp [decodeHex])
    | x₁ :: x₂ :: rest, h =>
      rw [decodeHex] at h
      obtain ⟨hi, -, h⟩ := Option.bind_eq_some_iff.mp h
      obtain ⟨lo, -, h⟩ := Option.bind_eq_some_iff.mp h
      obtain ⟨decoded, -, h⟩ := Option.bind_eq_some_iff.mp h
      exact absurd (Option.some.inj h) (by simp)
  · rintro rfl
    rfl

/-- A text that the worker reads as digits is read by `bytes.fromhex` too, and all its
characters are digits. -/
theorem fromHex_of_decodeHex {b : Bytes} {t : Text} (h : decodeHex (utf8 t) = some b) :
    (PyStr.ofText t).fromHex = some b ∧ ∀ c ∈ t, (hexValue c).isSome := by
  induction b generalizing t with
  | nil =>
    have ht : t = [] := by
      by_contra hne
      exact utf8_ne_nil hne (decodeHex_eq_some_nil_iff.mp h)
    subst ht
    exact ⟨rfl, fun c hc => absurd hc List.not_mem_nil⟩
  | cons y b ih =>
    obtain ⟨x₁, x₂, rest, hi, lo, hl, hhi, hlo, hrest, rfl⟩ := decodeHex_cons_eq_some h
    obtain ⟨c, t', rfl, hc, ht'⟩ := exists_digit_of_utf8 hl hhi
    obtain ⟨d, t'', rfl, hd, rfl⟩ := exists_digit_of_utf8 ht' hlo
    obtain ⟨hfrom, hall⟩ := ih hrest
    constructor
    · have hpair := PyStr.fromHex_digits (a := .scalar c) (b := .scalar d) hc hd (PyStr.ofText t'')
      rw [hfrom] at hpair
      exact hpair
    · intro e he
      rcases List.mem_cons.mp he with rfl | he
      · rw [hc]
        rfl
      · rcases List.mem_cons.mp he with rfl | he
        · rw [hd]
          rfl
        · exact hall e he

/-- A text that `bytes.fromhex` reads without skipping is read by the worker. -/
theorem decodeHex_of_fromHex {b : Bytes} {t : Text} (h : (PyStr.ofText t).fromHex = some b)
    (hspace : ∀ c ∈ t, isAsciiSpace c = false) : decodeHex (utf8 t) = some b := by
  induction b generalizing t with
  | nil =>
    have hlen := PyStr.length_of_fromHex h
    have hcount : (PyStr.ofText t).countP PyStr.skipped = 0 := by
      rw [List.countP_eq_zero]
      intro a ha
      obtain ⟨c, hc, rfl⟩ := List.mem_map.mp ha
      rw [show PyStr.skipped (.scalar c) = isAsciiSpace c from rfl, hspace c hc]
      exact Bool.false_ne_true
    rw [hcount, PyStr.ofText, List.length_map] at hlen
    rw [List.length_eq_zero_iff.mp hlen.symm]
    rfl
  | cons y b ih =>
    cases t with
    | nil => exact absurd h (by simp [PyStr.ofText, PyStr.fromHex])
    | cons c t =>
      obtain ⟨a, rest, hi, lo, decoded, hs, hhi, hlo, hdecoded, hb⟩ :=
        PyStr.fromHex_cons_eq_some (a := .scalar c) (hspace c List.mem_cons_self) h
      obtain ⟨rfl, rfl⟩ := List.cons.inj hb
      cases t with
      | nil => exact absurd hs (by simp)
      | cons d t =>
        obtain ⟨rfl, rfl⟩ := List.cons.inj hs
        have hrest := ih hdecoded fun e he =>
          hspace e (List.mem_cons_of_mem c (List.mem_cons_of_mem d he))
        have hc : c.toNat < 128 := by
          obtain ⟨-, hrange⟩ := hexValue_eq_some hhi
          omega
        have hd : d.toNat < 128 := by
          obtain ⟨-, hrange⟩ := hexValue_eq_some hlo
          omega
        have hhi' : hexNibble (UInt8.ofNat c.toNat) = some hi := (hexNibble_ofNat hc).trans hhi
        have hlo' : hexNibble (UInt8.ofNat d.toNat) = some lo := (hexNibble_ofNat hd).trans hlo
        rw [utf8_cons, utf8_cons, utf8EncodeChar_of_lt hc, utf8EncodeChar_of_lt hd,
          List.singleton_append, List.singleton_append, decodeHex, hhi', hlo', hrest]
        rfl

/-! ## The FIDs that all components encode alike -/

/-- The text of an FID without the whitespace at its ends. -/
def Fid.stripped (fid : Fid) : Text := stripWhile isUnicodeSpace fid.text

/-- Whether an FID is 64 characters that `bytes.fromhex` reads. -/
def Fid.IsDigest (fid : Fid) : Prop :=
  fid.stripped.length = 64 ∧ (PyStr.ofText fid.stripped).fromHex ≠ none

/-- The FIDs whose encodings agree.  They do not start with whitespace; they do not end with it
either and fit in 128 bytes, or what stands before it at the end is 128 bytes long; and no
whitespace stands between the digits of a digest. -/
structure Fid.Canonical (fid : Fid) : Prop where
  start : ∀ c ∈ fid.text.head?, isUnicodeSpace c = false
  fits : (∀ c ∈ fid.text.getLast?, isUnicodeSpace c = false) ∧ (utf8 fid.text).length ≤ 128 ∨
    (utf8 fid.stripped).length = 128
  digest : fid.IsDigest → ∀ c ∈ fid.stripped, isAsciiSpace c = false

theorem canonicalFid_of_isDigest {fid : Fid} (h : fid.IsDigest) :
    canonicalFid fid.str = (PyStr.ofText fid.stripped).fromHex := by
  obtain ⟨hlen, hread⟩ := h
  obtain ⟨b, hb⟩ := Option.ne_none_iff_exists'.mp hread
  rw [hb]
  have hstrip : fid.str.strip = PyStr.ofText fid.stripped := PyStr.strip_ofText fid.text
  refine canonicalFid_of_fromHex ?_ (by rw [hstrip, hb])
  rw [hstrip, PyStr.ofText, List.length_map, hlen]

theorem canonicalFid_of_not_isDigest {fid : Fid} (h : ¬ fid.IsDigest) :
    canonicalFid fid.str = some (utf8 fid.stripped) := by
  have hstrip : fid.str.strip = PyStr.ofText fid.stripped := PyStr.strip_ofText fid.text
  rw [canonicalFid_of_text, hstrip, PyStr.encode_ofText]
  intro hlen
  rw [hstrip] at hlen ⊢
  by_contra hread
  exact h ⟨by rw [← hlen, PyStr.ofText, List.length_map], hread⟩

/-- A text of digits is as long as its encoding. -/
theorem length_utf8_of_digits {t : Text} (h : ∀ c ∈ t, (hexValue c).isSome) :
    (utf8 t).length = t.length := by
  have hascii : ∀ c ∈ t, c.toNat < 128 := by
    intro c hc
    obtain ⟨v, hv⟩ := Option.isSome_iff_exists.mp (h c hc)
    obtain ⟨-, hrange⟩ := hexValue_eq_some hv
    omega
  rw [utf8_of_ascii hascii, List.length_map]

/-- What the worker reads of an FID: 64 digits, or the first 128 bytes. -/
theorem fidToBytesOrStr_cases (fid : Fid) :
    (∃ b, decodeHex (utf8 fid.text) = some b ∧ fid.text.length = 64 ∧
        fidToBytesOrStr fid.cstr = b) ∨
      ((fid.text.length = 64 → decodeHex (utf8 fid.text) = none) ∧
        fidToBytesOrStr fid.cstr = (utf8 fid.text).take 128) := by
  have hdef : fidToBytesOrStr fid.cstr =
      if ((utf8 fid.text).take 128).length = 64 then
        (decodeHex ((utf8 fid.text).take 128)).getD ((utf8 fid.text).take 128)
      else (utf8 fid.text).take 128 := rfl
  rw [List.length_take] at hdef
  by_cases hlen : (utf8 fid.text).length = 64
  · rw [if_pos (by omega), List.take_of_length_le (by omega)] at hdef
    cases hread : decodeHex (utf8 fid.text) with
    | some b =>
      rw [hread, Option.getD_some] at hdef
      have hdigits := (fromHex_of_decodeHex hread).2
      exact .inl ⟨b, rfl, by rw [← length_utf8_of_digits hdigits, hlen], hdef⟩
    | none =>
      rw [hread, Option.getD_none] at hdef
      exact .inr ⟨fun _ => rfl, by rw [hdef, List.take_of_length_le (by omega)]⟩
  · rw [if_neg (by omega)] at hdef
    refine .inr ⟨fun htext => ?_, hdef⟩
    by_contra hread
    obtain ⟨b, hb⟩ := Option.ne_none_iff_exists'.mp hread
    exact hlen (by rw [length_utf8_of_digits (fromHex_of_decodeHex hb).2, htext])

/-- An FID of digits is canonical, and a digest if it has 64. -/
theorem Fid.stripped_of_digits {fid : Fid} (h : ∀ c ∈ fid.text, (hexValue c).isSome) :
    fid.stripped = fid.text := by
  have hspace : ∀ c ∈ fid.text, isUnicodeSpace c = false := by
    intro c hc
    obtain ⟨v, hv⟩ := Option.isSome_iff_exists.mp (h c hc)
    exact isUnicodeSpace_of_hexValue hv
  exact stripWhile_eq_self _ (fun c hc => hspace c (List.mem_of_mem_head? hc)) fun c hc =>
    hspace c (List.mem_of_mem_getLast? hc)

theorem Fid.canonical_of_digits {fid : Fid} (hlen : fid.text.length ≤ 128)
    (h : ∀ c ∈ fid.text, (hexValue c).isSome) : fid.Canonical := by
  have hvalue : ∀ c ∈ fid.text, ∃ v, hexValue c = some v := fun c hc =>
    Option.isSome_iff_exists.mp (h c hc)
  refine ⟨fun c hc => ?_, .inl ⟨fun c hc => ?_, ?_⟩, fun _ c hc => ?_⟩
  · obtain ⟨v, hv⟩ := hvalue c (List.mem_of_mem_head? hc)
    exact isUnicodeSpace_of_hexValue hv
  · obtain ⟨v, hv⟩ := hvalue c (List.mem_of_mem_getLast? hc)
    exact isUnicodeSpace_of_hexValue hv
  · rw [length_utf8_of_digits h]
    exact hlen
  · rw [Fid.stripped_of_digits h] at hc
    obtain ⟨v, hv⟩ := hvalue c hc
    exact isAsciiSpace_of_hexValue hv

/-- An FID that starts with no whitespace is its stripped text and what was stripped behind
it. -/
theorem Fid.exists_eq_stripped {fid : Fid}
    (hstart : ∀ c ∈ fid.text.head?, isUnicodeSpace c = false) :
    ∃ behind, fid.text = fid.stripped ++ behind := by
  obtain ⟨before, behind, htext, hbefore⟩ := exists_eq_stripWhile isUnicodeSpace fid.text
  cases before with
  | nil => exact ⟨behind, htext⟩
  | cons c before =>
    have hc : isUnicodeSpace c = false := hstart c (by rw [htext]; rfl)
    rw [hbefore c List.mem_cons_self] at hc
    exact absurd hc.symm Bool.false_ne_true

/-- Python strips the whitespace before an FID and the worker does not. -/
theorem Fid.start_of_take_eq {fid : Fid} (h : (utf8 fid.text).take 128 = utf8 fid.stripped) :
    ∀ c ∈ fid.text.head?, isUnicodeSpace c = false := by
  intro c hc
  obtain ⟨t, ht⟩ := List.head?_eq_some_iff.mp hc
  have hshort : (String.utf8EncodeChar c).length ≤ 128 := by
    rw [String.length_utf8EncodeChar]
    exact le_trans c.utf8Size_le_four (by decide)
  rw [ht, utf8_cons, List.take_append, List.take_of_length_le hshort] at h
  cases hs : fid.stripped with
  | nil =>
    rw [hs, utf8_nil, List.append_eq_nil_iff] at h
    exact absurd h.1 String.utf8EncodeChar_ne_nil
  | cons d s =>
    rw [hs, utf8_cons] at h
    rw [utf8EncodeChar_append_inj h]
    exact head?_stripWhile fid.text d (by rw [← Fid.stripped, hs]; rfl)

/-- The FID bytes of Python and of the worker. -/
theorem canonicalFid_eq_iff (fid : Fid) :
    canonicalFid fid.str = some (fidToBytesOrStr fid.cstr) ↔ fid.Canonical := by
  constructor
  · intro h
    rcases fidToBytesOrStr_cases fid with ⟨b, hread, hlen, -⟩ | ⟨hnot, hworker⟩
    · exact Fid.canonical_of_digits (by omega) (fromHex_of_decodeHex hread).2
    · rw [hworker] at h
      have hdigest : ¬ fid.IsDigest := by
        -- at most 32 bytes are read from a digest, and the worker has kept 64 or more
        intro hd
        rw [canonicalFid_of_isDigest hd] at h
        have hcount := PyStr.length_of_fromHex h
        have hlong := length_le_utf8 fid.text
        have hstrip : fid.stripped.length ≤ fid.text.length := length_stripWhile_le fid.text
        rw [PyStr.ofText, List.length_map, hd.1, List.length_take] at hcount
        rw [hd.1] at hstrip
        omega
      rw [canonicalFid_of_not_isDigest hdigest, Option.some.injEq] at h
      have hstart := Fid.start_of_take_eq h.symm
      refine ⟨hstart, ?_, fun hd => absurd hd hdigest⟩
      obtain ⟨behind, htext⟩ := Fid.exists_eq_stripped hstart
      by_cases hbehind : behind = []
      · rw [hbehind, List.append_nil] at htext
        refine .inl ⟨?_, ?_⟩
        · rw [htext]
          exact getLast?_stripWhile fid.text
        · rw [← htext] at h
          have hlen := congrArg List.length h
          rw [List.length_take] at hlen
          omega
      · have hlen := congrArg List.length h
        have hpos := List.length_pos_iff.mpr (utf8_ne_nil hbehind)
        rw [htext, utf8_append, List.length_take, List.length_append] at hlen
        exact .inr (by omega)
  · intro hc
    have hfits : (utf8 fid.text).take 128 = utf8 fid.stripped := by
      rcases hc.fits with ⟨hlast, hlen⟩ | hlen
      · rw [List.take_of_length_le hlen, Fid.stripped, stripWhile_eq_self _ hc.start hlast]
      · obtain ⟨behind, htext⟩ := Fid.exists_eq_stripped hc.start
        have hutf8 := congrArg utf8 htext
        rw [utf8_append] at hutf8
        rw [hutf8, ← hlen, List.take_left]
    rcases fidToBytesOrStr_cases fid with ⟨b, hread, hlen, hworker⟩ | ⟨hnot, hworker⟩
    · obtain ⟨hfrom, hdigits⟩ := fromHex_of_decodeHex hread
      have hstrip := Fid.stripped_of_digits hdigits
      have hdigest : fid.IsDigest := by
        refine ⟨by rw [hstrip, hlen], ?_⟩
        rw [hstrip, hfrom]
        exact Option.some_ne_none b
      rw [canonicalFid_of_isDigest hdigest, hstrip, hfrom, hworker]
    · have hdigest : ¬ fid.IsDigest := by
        intro hd
        obtain ⟨b, hb⟩ := Option.ne_none_iff_exists'.mp hd.2
        have hread := decodeHex_of_fromHex hb (hc.digest hd)
        have hlen : (utf8 fid.stripped).length = 64 := by
          rw [length_utf8_of_digits (fromHex_of_decodeHex hread).2, hd.1]
        have hwhole : utf8 fid.text = utf8 fid.stripped := by
          have hcut := congrArg List.length hfits
          rw [List.length_take] at hcut
          rw [← hfits, List.take_of_length_le (by omega)]
        have htext := utf8_injective hwhole
        rw [← hwhole, hnot (by rw [htext, hd.1])] at hread
        exact absurd hread (by simp)
      rw [canonicalFid_of_not_isDigest hdigest, hworker, hfits]

/-! ## Agreement -/

/-- The RID that the worker computes, as hexadecimal text. -/
def workerRid (S : Sgx) (fid : Fid) (cReq : Bytes) : Option PyStr :=
  (computeRidFromFidAndCReq S true true fid.cstr cReq).map fun rid => PyStr.hex rid.toList

/-- What the SDK and the worker have in common. -/
structure SdkAgrees (S : Sgx) (fid : Fid) (cReq : Bytes) : Prop where
  rid : ClientSDK.computeRid S fid.str cReq = workerRid S fid cReq
  pkg : ClientSDK.buildAadPkg fid.str = some (aadPkg fid.cstr)
  req : ∀ (nonce : Block 16) (pkU : Block 65),
    ClientSDK.buildAadReq S fid.str (PyStr.hex nonce.toList) pkU.toList =
      some (aadReq S fid.cstr nonce pkU)
  out : ∀ (rid : Block 32) (pkU : Block 65),
    ClientSDK.buildAadOut S fid.str (PyStr.hex rid.toList) pkU.toList =
      some (aadOut S fid.cstr rid pkU)

/-- **All components agree** on the RID and the associated data of an FID and a request. -/
structure Agree (S : Sgx) (fid : Fid) (cReq : Bytes) : Prop where
  receipt : ClientReceiptHandler.computeRid S fid.str cReq = workerRid S fid cReq
  invoker : ConfidentialActionsInvoker.computeRid S fid.str cReq = workerRid S fid cReq
  smoke : WorkerSmokeArtifacts.computeRid S fid.str cReq = workerRid S fid cReq
  fidBytes : WorkerSmokeArtifacts.fidBytes fid.str = some (fidToBytesOrStr fid.cstr)
  pkg : WorkerSmokeArtifacts.buildAadPkg fid.str = some (aadPkg fid.cstr)
  req : ∀ (nonce : Block 16) (pkU : Block 65),
    WorkerSmokeArtifacts.buildAadReq S fid.str nonce.toList pkU.toList =
      some (aadReq S fid.cstr nonce pkU)
  sdk : fid.text.length = 64 → (∀ c ∈ fid.text, (hexValue c).isSome) → SdkAgrees S fid cReq

/-- The worker's RID hashes the worker's FID bytes. -/
theorem workerRid_eq (S : Sgx) (fid : Fid) (cReq : Bytes) :
    workerRid S fid cReq =
      some (PyStr.hex (S.sha256 (fidToBytesOrStr fid.cstr ++ cReq)).toList) := rfl

/-- Equal FID bytes give equal RIDs. -/
theorem canonicalRid_of_canonicalFid {S : Sgx} {fid : Fid}
    (h : canonicalFid fid.str = some (fidToBytesOrStr fid.cstr)) (cReq : Bytes) :
    canonicalRid S fid.str cReq = workerRid S fid cReq := by
  rw [canonicalRid, h, workerRid_eq, Option.map_some]

/-- The SDK reads 64 digits as the worker does. -/
theorem sdkAgrees_of_digits {S : Sgx} {fid : Fid} (hlen : fid.text.length = 64)
    (h : ∀ c ∈ fid.text, (hexValue c).isSome) (cReq : Bytes) : SdkAgrees S fid cReq := by
  have hfid := (canonicalFid_eq_iff fid).mpr (Fid.canonical_of_digits (by omega) h)
  have hdigits : ∀ a ∈ fid.str, (PyStr.digit a).isSome := by
    intro a ha
    obtain ⟨c, hc, rfl⟩ := List.mem_map.mp ha
    exact h c hc
  obtain ⟨decoded, hread, hcanonical⟩ :=
    canonicalFid_of_digits (by rw [Fid.str, PyStr.ofText, List.length_map, hlen]) hdigits
  rw [hcanonical] at hfid
  rw [hfid] at hread
  constructor
  · rw [ClientSDK.computeRid, hread, workerRid_eq]
    rfl
  · rw [ClientSDK.buildAadPkg, hread]
    rfl
  · intro nonce pkU
    rw [ClientSDK.buildAadReq, hread, PyStr.fromHex_hex]
    rfl
  · intro rid pkU
    rw [ClientSDK.buildAadOut, hread, PyStr.fromHex_hex]
    rfl

/-- **Which FIDs all components encode alike**: RIDs and associated data agree for the canonical
FIDs and for no other, whatever the request. -/
theorem agree_iff_canonical (S : Sgx) (fid : Fid) (cReq : Bytes) :
    Agree S fid cReq ↔ fid.Canonical := by
  constructor
  · intro h
    exact (canonicalFid_eq_iff fid).mp h.fidBytes
  · intro hc
    have hfid := (canonicalFid_eq_iff fid).mpr hc
    have hrid := canonicalRid_of_canonicalFid (S := S) hfid cReq
    refine ⟨hrid, hrid, hrid, hfid, ?_, ?_, fun hlen h => sdkAgrees_of_digits hlen h cReq⟩
    · rw [WorkerSmokeArtifacts.buildAadPkg, WorkerSmokeArtifacts.fidBytes, hfid]
      rfl
    · intro nonce pkU
      rw [WorkerSmokeArtifacts.buildAadReq, WorkerSmokeArtifacts.fidBytes, hfid,
        if_neg (by rw [nonce.toList_length]; exact not_not_intro rfl)]
      rfl

theorem letters_noNul (n : ℕ) : ∀ c ∈ List.replicate n 'a', c.toNat ≠ 0 := by
  intro c hc
  rw [List.eq_of_mem_replicate hc]
  decide

/-- An FID of 129 letters. -/
def longFid : Fid := ⟨List.replicate 129 'a', letters_noNul 129⟩

/-- Python hashes all 129 letters, and the worker the first 128 of them. -/
theorem not_forall_agree :
    ¬ ∀ (S : Sgx) (fid : Fid) (cReq : Bytes), 28 ≤ cReq.length → Agree S fid cReq := by
  intro h
  have hagree := h Sgx.sample longFid (List.replicate 28 0) (by decide)
  have hlen := congrArg (Option.map List.length) hagree.fidBytes
  exact absurd hlen (by decide +kernel)

end Protocol
end AsynCS
