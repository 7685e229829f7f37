import AsynCS.Protocol.RidAgreement

/-!
# What the associated data bind

A package, a request and an output are authenticated together with a literal, the FID and, for
the last two, a nonce or an RID and a key hash, written one behind the other with no separator.

* `AadInput`, `AadFields`: what the three builders are given, and what their results determine.
  Of the FID that is `fidToBytesOrStr`, so digits of either case, the text that reads like the
  bytes of a digest, and what stands behind 128 bytes are not told apart.
* `encode_eq_iff`: two results are equal exactly when these fields are.
* `fidToBytesOrStr_hex`: the FID of a digest is read as the digest.
* `SdkBuildersAgree`, `sdkBuildersAgree_iff`: when the SDK builds what the worker builds.
-/

namespace AsynCS
namespace Protocol

open Client Worker

/-! ## What is bound -/

/-- The arguments of `build_aad_pkg`, `build_aad_req` and `build_aad_out`. -/
inductive AadInput where
  | pkg (fid : CStr)
  | req (fid : CStr) (nonce : Block 16) (pkU : Block 65)
  | out (fid : CStr) (rid : Block 32) (pkU : Block 65)

/-- A literal and the fields behind it. -/
inductive AadFields where
  | pkg (fidBytes : Bytes)
  | req (fidBytes : Bytes) (nonce : Block 16) (keyHash : Block 32)
  | out (fidBytes : Bytes) (rid : Block 32) (keyHash : Block 32)

namespace AadInput

/-- The builder of a kind. -/
def build (S : Sgx) (hash malloc : Bool) : AadInput → Option Bytes
  | pkg fid => buildAadPkg malloc fid
  | req fid nonce pkU => buildAadReq S hash malloc fid nonce pkU
  | out fid rid pkU => buildAadOut S hash malloc fid rid pkU

/-- What it builds. -/
def encode (S : Sgx) : AadInput → Bytes
  | pkg fid => aadPkg fid
  | req fid nonce pkU => aadReq S fid nonce pkU
  | out fid rid pkU => aadOut S fid rid pkU

/-- The fields of an input. -/
def fields (S : Sgx) : AadInput → AadFields
  | pkg fid => .pkg (fidToBytesOrStr fid)
  | req fid nonce pkU => .req (fidToBytesOrStr fid) nonce (S.sha256 pkU.toList)
  | out fid rid pkU => .out (fidToBytesOrStr fid) rid (S.sha256 pkU.toList)

end AadInput

namespace AadFields

/-- The bytes of the fields. -/
def encode : AadFields → Bytes
  | pkg fidBytes => ascii "PKG" ++ fidBytes
  | req fidBytes nonce keyHash => ascii "REQ" ++ fidBytes ++ nonce.toList ++ keyHash.toList
  | out fidBytes rid keyHash => ascii "OUT" ++ fidBytes ++ rid.toList ++ keyHash.toList

/-- The literal of a kind. -/
def literal : AadFields → Bytes
  | pkg _ => ascii "PKG"
  | req _ _ _ => ascii "REQ"
  | out _ _ _ => ascii "OUT"

/-- The literal is read off the first three bytes. -/
theorem take_encode (x : AadFields) : x.encode.take 3 = x.literal := by
  cases x with
  | pkg fidBytes => exact List.take_left' rfl
  | req fidBytes nonce keyHash =>
    rw [encode, List.append_assoc, List.append_assoc]
    exact List.take_left' rfl
  | out fidBytes rid keyHash =>
    rw [encode, List.append_assoc, List.append_assoc]
    exact List.take_left' rfl

/-- Two fields of fixed length at the end are read off from behind. -/
theorem append_blocks_inj {m n : ℕ} {x y : Bytes} {a b : Block m} {c d : Block n}
    (h : x ++ a.toList ++ c.toList = y ++ b.toList ++ d.toList) : x = y ∧ a = b ∧ c = d := by
  have hlast : c.toList.length = d.toList.length := by
    rw [List.Vector.toList_length, List.Vector.toList_length]
  have hmid : a.toList.length = b.toList.length := by
    rw [List.Vector.toList_length, List.Vector.toList_length]
  obtain ⟨hxy, hcd⟩ := List.append_inj' h hlast
  obtain ⟨hx, hab⟩ := List.append_inj' hxy hmid
  exact ⟨hx, List.Vector.eq a b hab, List.Vector.eq c d hcd⟩

theorem pkg_ne_req : ascii "PKG" ≠ ascii "REQ" := by decide

theorem pkg_ne_out : ascii "PKG" ≠ ascii "OUT" := by decide

theorem req_ne_out : ascii "REQ" ≠ ascii "OUT" := by decide

theorem encode_injective : Function.Injective encode := by
  intro x y h
  have hkind := congrArg (List.take 3) h
  rw [take_encode, take_encode] at hkind
  cases x with
  | pkg fidBytes =>
    cases y with
    | pkg fidBytes' => rw [List.append_cancel_left h]
    | req => exact absurd hkind pkg_ne_req
    | out => exact absurd hkind pkg_ne_out
  | req fidBytes nonce keyHash =>
    cases y with
    | pkg => exact absurd hkind.symm pkg_ne_req
    | req fidBytes' nonce' keyHash' =>
      obtain ⟨hfid, rfl, rfl⟩ := append_blocks_inj h
      rw [List.append_cancel_left hfid]
    | out => exact absurd hkind req_ne_out
  | out fidBytes rid keyHash =>
    cases y with
    | pkg => exact absurd hkind.symm pkg_ne_out
    | req => exact absurd hkind.symm req_ne_out
    | out fidBytes' rid' keyHash' =>
      obtain ⟨hfid, rfl, rfl⟩ := append_blocks_inj h
      rw [List.append_cancel_left hfid]

end AadFields

/-- What a builder returns are the bytes of the fields. -/
theorem encode_fields (S : Sgx) (a : AadInput) : (a.fields S).encode = a.encode S := by
  cases a with
  | pkg fid => rfl
  | req fid nonce pkU => rfl
  | out fid rid pkU => rfl

/-- **Equal associated data** have equal fields. -/
theorem encode_eq_iff {S : Sgx} {a b : AadInput} :
    a.encode S = b.encode S ↔ a.fields S = b.fields S := by
  rw [← encode_fields, ← encode_fields]
  exact AadFields.encode_injective.eq_iff

/-- A builder that does not fail returns the encoding. -/
theorem encode_of_build {S : Sgx} {hash malloc : Bool} {a : AadInput} {aad : Bytes}
    (h : a.build S hash malloc = some aad) : aad = a.encode S := by
  cases a with
  | pkg fid => exact (buildAadPkg_eq_some_iff.mp h).2
  | req fid nonce pkU => exact (buildAadReq_eq_some_iff.mp h).2
  | out fid rid pkU => exact (buildAadOut_eq_some_iff.mp h).2

/-- A ciphertext that is accepted with these associated data and with no others. -/
def AuthenticatedFor (S : Sgx) (key : Block 16) (iv : Block 12) (aad c : Bytes)
    (tag : Block 16) : Prop :=
  ∀ other, S.gcmDecrypt key iv other c tag ≠ none → other = aad

/-! ## The FID of a digest -/

theorem hexNibble_hexDigit {n : ℕ} (h : n < 16) : hexNibble (hexDigit n) = some n := by
  revert n
  decide

theorem decodeHex_hexEncode (b : Bytes) : decodeHex (hexEncode b) = some b := by
  induction b with
  | nil => rfl
  | cons x b ih =>
    have hx : x.toNat < 256 := x.toNat_lt
    have hsplit : x.toNat / 16 * 16 + x.toNat % 16 = x.toNat := by omega
    have hcons : hexEncode (x :: b) =
        hexDigit (x.toNat / 16) :: hexDigit (x.toNat % 16) :: hexEncode b := rfl
    rw [hcons, decodeHex, hexNibble_hexDigit (by omega), hexNibble_hexDigit (by omega), ih]
    simp only [Option.bind_eq_bind, Option.bind_some, hsplit, UInt8.ofNat_toNat]

/-- **The FID of a digest**, as `compute_fid` writes it, stands for the digest. -/
theorem fidToBytesOrStr_hex (d : Block 32) : fidToBytesOrStr (CStr.hex d.toList) = d.toList := by
  have hlen : (CStr.hex d.toList).bytes.length = 64 := by
    rw [← CStr.strlen, CStr.strlen_hex, List.Vector.toList_length]
  have hcut : (CStr.hex d.toList).cut 128 = CStr.hex d.toList :=
    CStr.cut_of_le (by rw [CStr.strlen]; omega)
  have hdecode : decodeHex (CStr.hex d.toList).bytes = some d.toList := decodeHex_hexEncode _
  rw [fidToBytesOrStr, hcut, if_pos hlen, hdecode, Option.getD_some]

/-! ## The builders of the SDK -/

/-- **The SDK and the worker build the same** for an FID, with every nonce, RID and key. -/
structure SdkBuildersAgree (S : Sgx) (fid : Fid) : Prop where
  pkg : ClientSDK.buildAadPkg fid.str = some (aadPkg fid.cstr)
  req : ∀ (nonce : PyStr) (nonce16 : Block 16) (pkU : Block 65),
    nonce.fromHex = some nonce16.toList →
      ClientSDK.buildAadReq S fid.str nonce pkU.toList = some (aadReq S fid.cstr nonce16 pkU)
  out : ∀ (rid : PyStr) (rid32 : Block 32) (pkU : Block 65),
    rid.fromHex = some rid32.toList →
      ClientSDK.buildAadOut S fid.str rid pkU.toList = some (aadOut S fid.cstr rid32 pkU)

/-- They do when `bytes.fromhex` reads what the worker reads. -/
theorem sdkBuildersAgree_iff {S : Sgx} {fid : Fid} :
    SdkBuildersAgree S fid ↔ fid.str.fromHex = some (fidToBytesOrStr fid.cstr) := by
  constructor
  · intro h
    obtain ⟨fidBytes, hread, hpkg⟩ := Option.bind_eq_some_iff.mp h.pkg
    rw [hread, List.append_cancel_left (Option.some.inj hpkg)]
  · intro h
    refine ⟨?_, fun nonce nonce16 pkU hnonce => ?_, fun rid rid32 pkU hrid => ?_⟩
    · rw [ClientSDK.buildAadPkg, h]
      rfl
    · rw [ClientSDK.buildAadReq, h, hnonce]
      rfl
    · rw [ClientSDK.buildAadOut, h, hrid]
      rfl

/-- What `bytes.fromhex` accepts are digits and the whitespace that it skips. -/
theorem digit_or_skipped_of_fromHex {s : PyStr} {b : Bytes} (h : s.fromHex = some b) :
    ∀ a ∈ s, (PyStr.digit a).isSome ∨ PyStr.skipped a = true := by
  induction s using PyStr.fromHex.induct generalizing b with
  | case1 => exact fun a ha => absurd ha List.not_mem_nil
  | case2 a ha =>
    intro c hc
    rw [List.mem_singleton.mp hc]
    exact .inr ha
  | case3 a ha =>
    rw [PyStr.fromHex, if_neg ha] at h
    exact absurd h (by simp)
  | case4 a c rest ha ih =>
    rw [PyStr.fromHex_of_skipped ha] at h
    intro d hd
    rcases List.mem_cons.mp hd with rfl | hd
    · exact .inr ha
    · exact ih h d hd
  | case5 a c rest ha ih =>
    obtain ⟨c', rest', hi, lo, decoded, hs, hhi, hlo, hdecoded, rfl⟩ :=
      PyStr.fromHex_cons_eq_some (Bool.eq_false_iff.mpr ha) h
    obtain ⟨rfl, rfl⟩ := List.cons.inj hs
    intro d hd
    rcases List.mem_cons.mp hd with rfl | hd
    · exact .inl (by rw [hhi]; rfl)
    · rcases List.mem_cons.mp hd with rfl | hd
      · exact .inl (by rw [hlo]; rfl)
      · exact ih hdecoded d hd

/-- An FID that `bytes.fromhex` accepts is as long as its encoding. -/
theorem length_utf8_of_fromHex {t : Text} {b : Bytes} (h : (PyStr.ofText t).fromHex = some b) :
    (utf8 t).length = t.length := by
  have hascii : ∀ c ∈ t, c.toNat < 128 := by
    intro c hc
    rcases digit_or_skipped_of_fromHex h (.scalar c) (List.mem_map_of_mem hc) with hd | hs
    · obtain ⟨v, hv⟩ := Option.isSome_iff_exists.mp hd
      obtain ⟨-, hrange⟩ := hexValue_eq_some hv
      omega
    · have hrange := isAsciiSpace_iff.mp hs
      omega
  rw [utf8_of_ascii hascii, List.length_map]

/-- **Which FIDs of the SDK the worker reads alike**: of those that fit in the worker's field,
the empty one and the digests. -/
theorem sdkBuildersAgree_iff_of_le {S : Sgx} {fid : Fid} (hlen : fid.text.length ≤ 128)
    (hread : fid.str.fromHex ≠ none) :
    SdkBuildersAgree S fid ↔
      fid.text = [] ∨ fid.text.length = 64 ∧ ∀ c ∈ fid.text, (hexValue c).isSome := by
  obtain ⟨b, hb⟩ := Option.ne_none_iff_exists'.mp hread
  have hcount := PyStr.length_of_fromHex hb
  rw [Fid.str, PyStr.ofText, List.length_map] at hcount
  rw [sdkBuildersAgree_iff, hb, Option.some.injEq]
  rcases fidToBytesOrStr_cases fid with ⟨d, hd, h64, hworker⟩ | ⟨hnot, hworker⟩
  · obtain ⟨hfrom, hdigits⟩ := fromHex_of_decodeHex hd
    rw [← Fid.str, hb] at hfrom
    rw [hworker]
    constructor
    · exact fun _ => .inr ⟨h64, hdigits⟩
    · exact fun _ => Option.some.inj hfrom
  · rw [hworker]
    constructor
    · intro heq
      -- two characters a byte on one side, one on the other
      have hlength := congrArg List.length heq
      rw [List.length_take, length_utf8_of_fromHex hb] at hlength
      refine .inl (List.length_eq_zero_iff.mp ?_)
      omega
    · rintro (hnil | ⟨h64, hdigits⟩)
      · have hzero : b.length = 0 := by
          rw [hnil, List.length_nil] at hcount
          omega
        rw [hnil, List.length_eq_zero_iff.mp hzero]
        rfl
      · have hspace : ∀ c ∈ fid.text, isAsciiSpace c = false := by
          intro c hc
          obtain ⟨v, hv⟩ := Option.isSome_iff_exists.mp (hdigits c hc)
          exact isAsciiSpace_of_hexValue hv
        exact absurd (decodeHex_of_fromHex hb hspace) (by rw [hnot h64]; simp)

/-! ## The binding -/

/-- **What associated data bind**: the kind, the FID bytes, the nonce or RID and the key hash,
and with them the FID itself when it is a digest; a ciphertext that is authenticated for one
choice of them is accepted for no other; and which FIDs the SDK encodes as the worker does. -/
theorem aad_binds (S : Sgx) :
    (∀ {hash malloc hash' malloc' : Bool} {a b : AadInput} {x y : Bytes},
      a.build S hash malloc = some x → b.build S hash' malloc' = some y →
        (x = y ↔ a.fields S = b.fields S)) ∧
    (∀ d d' : Block 32,
      fidToBytesOrStr (CStr.hex d.toList) = fidToBytesOrStr (CStr.hex d'.toList) →
        CStr.hex d.toList = CStr.hex d'.toList) ∧
    (∀ {a b : AadInput} {key : Block 16} {iv : Block 12} {c : Bytes} {tag : Block 16},
      AuthenticatedFor S key iv (a.encode S) c tag →
        S.gcmDecrypt key iv (b.encode S) c tag ≠ none → a.fields S = b.fields S) ∧
    (∀ fid : Fid, SdkBuildersAgree S fid ↔ fid.str.fromHex = some (fidToBytesOrStr fid.cstr)) ∧
    ∀ fid : Fid, fid.text.length ≤ 128 → fid.str.fromHex ≠ none →
      (SdkBuildersAgree S fid ↔
        fid.text = [] ∨ fid.text.length = 64 ∧ ∀ c ∈ fid.text, (hexValue c).isSome) := by
  refine ⟨?_, ?_, ?_, fun fid => sdkBuildersAgree_iff, fun fid => sdkBuildersAgree_iff_of_le⟩
  · intro hash malloc hash' malloc' a b x y hx hy
    rw [encode_of_build hx, encode_of_build hy]
    exact encode_eq_iff
  · intro d d' h
    rw [fidToBytesOrStr_hex, fidToBytesOrStr_hex] at h
    rw [h]
  · intro a b key iv c tag hauth haccepted
    exact encode_eq_iff.mp (hauth _ haccepted).symm

/-- The digest of 32 bytes `0xaa`, in upper-case letters. -/
def upperCaseFid : CStr :=
  CStr.lit "AAAAAAAAAAAAAAAAAAAAAAAAAAAAAAAAAAAAAAAAAAAAAAAAAAAAAAAAAAAAAAAA"

/-- An FID of two digits. -/
def shortFid : Fid := ⟨List.replicate 2 'a', letters_noNul 2⟩

/-- Digits of either case give the same associated data; and two digits are one byte for the
SDK and two for the worker. -/
theorem not_aad_injective :
    ¬ (∀ fid fid' : CStr, aadPkg fid = aadPkg fid' → fid = fid') ∧
      ¬ ∀ (S : Sgx) (fid : Fid), fid.str.fromHex ≠ none → SdkBuildersAgree S fid := by
  constructor
  · intro h
    have hfid := h upperCaseFid (CStr.letters 64) (by decide +kernel)
    exact absurd (congrArg CStr.bytes hfid) (by decide +kernel)
  · intro h
    have hagree := h Sgx.sample shortFid (by decide)
    exact absurd (sdkBuildersAgree_iff.mp hagree) (by decide +kernel)

end Protocol
end AsynCS
