import AsynCS.Lib.PyStr
import AsynCS.Platform.Sgx

/-!
# What the Python components hash and authenticate

The FID bytes, the associated data and the RID as the client, the controller's receipt handler
and the smoke-test tool compute them.  A function that raises returns `none`.

* `canonicalFid`: the encoding of an FID that three of them share, each with a copy of its own;
  `canonicalFid_ofText` computes it on a text.
* `ClientSDK`: the SDK itself reads an FID as hexadecimal digits and nothing else.
-/

namespace AsynCS
namespace Client

/-- The canonical encoding of an FID: 64 characters that `bytes.fromhex` reads stand for what
it reads, and any other stripped string for its UTF-8 text. -/
def canonicalFid (fid : PyStr) : Option Bytes :=
  let stripped := fid.strip
  if stripped.length = 64 then
    match stripped.fromHex with
    | some decoded => some decoded
    | none => stripped.encode
  else stripped.encode

/-- The RID over a canonical FID. -/
def canonicalRid (S : Sgx) (fid : PyStr) (cReq : Bytes) : Option PyStr :=
  (canonicalFid fid).map fun fidBytes => PyStr.hex (S.sha256 (fidBytes ++ cReq)).toList

/-! ## The receipt handler -/

/-- `ClientReceiptHandler.compute_rid`. -/
def ClientReceiptHandler.computeRid (S : Sgx) (fid : PyStr) (cReq : Bytes) : Option PyStr :=
  canonicalRid S fid cReq

/-! ## The smoke-test tool -/

namespace WorkerSmokeArtifacts

/-- `fid_bytes`. -/
def fidBytes (fid : PyStr) : Option Bytes := canonicalFid fid

/-- `build_aad_pkg`. -/
def buildAadPkg (fid : PyStr) : Option Bytes := (fidBytes fid).map (ascii "PKG" ++ ·)

/-- `build_aad_req`. -/
def buildAadReq (S : Sgx) (fid : PyStr) (nonce pkU : Bytes) : Option Bytes :=
  if nonce.length ≠ 16 then none
  else (fidBytes fid).map (ascii "REQ" ++ · ++ nonce ++ (S.sha256 pkU).toList)

/-- `compute_rid`. -/
def computeRid (S : Sgx) (fid : PyStr) (cReq : Bytes) : Option PyStr := canonicalRid S fid cReq

end WorkerSmokeArtifacts

/-! ## The SDK -/

namespace ClientSDK

/-- `_build_aad_pkg`. -/
def buildAadPkg (fid : PyStr) : Option Bytes := do
  let fidBytes ← fid.fromHex
  some (ascii "PKG" ++ fidBytes)

/-- `_build_aad_req`. -/
def buildAadReq (S : Sgx) (fid nonce : PyStr) (pkU : Bytes) : Option Bytes := do
  let fidBytes ← fid.fromHex
  let nonceBytes ← nonce.fromHex
  some (ascii "REQ" ++ fidBytes ++ nonceBytes ++ (S.sha256 pkU).toList)

/-- `_compute_rid`. -/
def computeRid (S : Sgx) (fid : PyStr) (cReq : Bytes) : Option PyStr := do
  let fidBytes ← fid.fromHex
  some (PyStr.hex (S.sha256 (fidBytes ++ cReq)).toList)

/-- `_build_aad_out`. -/
def buildAadOut (S : Sgx) (fid rid : PyStr) (pkU : Bytes) : Option Bytes := do
  let fidBytes ← fid.fromHex
  let ridBytes ← rid.fromHex
  some (ascii "OUT" ++ fidBytes ++ ridBytes ++ (S.sha256 pkU).toList)

end ClientSDK

/-! ## The encoding of a text -/

/-- The digits of 64 that `bytes.fromhex` reads. -/
theorem canonicalFid_of_fromHex {fid : PyStr} {decoded : Bytes} (hlen : fid.strip.length = 64)
    (h : fid.strip.fromHex = some decoded) : canonicalFid fid = some decoded := by
  simp only [canonicalFid, if_pos hlen, h]

/-- Any other string stands for its text. -/
theorem canonicalFid_of_text {fid : PyStr}
    (h : fid.strip.length = 64 → fid.strip.fromHex = none) :
    canonicalFid fid = fid.strip.encode := by
  by_cases hlen : fid.strip.length = 64
  · simp only [canonicalFid, if_pos hlen, h hlen]
  · simp only [canonicalFid, if_neg hlen]

/-- **An FID of 64 digits** stands for the 32 bytes that the SDK reads too. -/
theorem canonicalFid_of_digits {fid : PyStr} (hlen : fid.length = 64)
    (hdigit : ∀ a ∈ fid, (PyStr.digit a).isSome) :
    ∃ decoded, fid.fromHex = some decoded ∧ canonicalFid fid = some decoded := by
  have hstrip := PyStr.strip_of_digits hdigit
  obtain ⟨decoded, hdecoded⟩ := PyStr.exists_fromHex_of_digits hdigit (by rw [hlen])
  exact ⟨decoded, hdecoded,
    canonicalFid_of_fromHex (by rw [hstrip, hlen]) (by rw [hstrip, hdecoded])⟩

end Client
end AsynCS
