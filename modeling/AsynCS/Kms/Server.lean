import AsynCS.Kms.Machine
import AsynCS.Protocol.ServerReply

/-!
# The KMS server

`handle_client` reads one key request from a connection, verifies the quote, asks the enclave for
the keys of the requested profile, and answers.

* `KeyRequest`, `readKeyRequest`: the request, and the reader with its errors.
* `sendKeys`, `handleClient`: the answer.
* `handleClient_sendable`: a release that is sent is an `ASBFREL1` envelope of at most 4096 bytes.

The enclave is called three times at most, and each call can fail before it reaches the enclave.
-/

namespace AsynCS
namespace Kms

/-! ## Reading the request -/

/-- A key request of the worker. -/
structure KeyRequest where
  quote : Bytes
  fid : CStr
  label : CStr
  publicKey : Block 64
  cryptoProfile : CStr
  deriving DecidableEq

/-- `read_exact`, on the bytes that arrive before the connection ends. -/
def readExact (n : ℕ) (b : Bytes) : Except (Option ServerError) (Bytes × Bytes) :=
  match takeBytes n b with
  | none => .error none
  | some r => .ok r

/-- `read_u32`: a length in the memory order of the machine. -/
def readU32 (b : Bytes) : Except (Option ServerError) (ℕ × Bytes) := do
  let (word, b) ← readExact 4 b
  return (ofLeBytes word, b)

/-- A length between 1 and a bound, and as many bytes. -/
def readSized (bound : ℕ) (error : ServerError) (b : Bytes) :
    Except (Option ServerError) (Bytes × Bytes) := do
  let (len, b) ← readU32 b
  if len = 0 ∨ bound < len then throw (some error)
  readExact len b

/-- The request that `handle_client` reads; an error without a text closes the connection. -/
def readKeyRequest (b : Bytes) : Except (Option ServerError) KeyRequest := do
  let (quote, b) ← readSized (64 * 1024) .invalidQuoteSize b
  let (fid, b) ← readSized 4096 .invalidFidLen b
  let (label, b) ← readSized 128 .invalidLabelLen b
  let (publicKey, b) ← readExact 64 b
  let (cryptoProfile, _) ← readSized 64 .invalidCryptoProfile b
  return ⟨quote, CStr.ofBuffer fid, CStr.ofBuffer label, Block.ofBytes 64 publicKey,
    CStr.ofBuffer cryptoProfile⟩

/-! ## The answer -/

/-- The build, the platform and the clock of the server while it handles a request. -/
structure ServeEnv where
  /-- `SGX_MODE_SIM` -/
  simulation : Bool
  /-- `verify_quote_dcap` with the MRENCLAVE it reads. -/
  verifyQuoteDcap : Bytes → Option (Block 32)
  /-- `check_mrenclave_policy` -/
  checkMrenclavePolicy : Block 32 → Bool
  verifyCall : Bool
  releaseCall : Bool
  keyEnv : KeyEnv
  labelKeyEnv : KeyEnv
  releaseEnv : ReleaseEnv
  timing : KmsTimingTrailer

/-- The keys of a profile: `send_bfibe_release_with_timing`, or the two keys of eccibe. -/
def sendKeys (S : Sgx) (B : Bfibe) (env : ServeEnv) (k : Globals) (r : KeyRequest) :
    ServerReply :=
  if r.cryptoProfile = CStr.lit "bfibe-mcl-bls12381" then
    if !env.releaseCall then .error .bfibeKeyReleaseError
    else
      match ecallGetBfibeKeyRelease S B env.releaseEnv k
        ⟨some r.fid, some r.label, some r.publicKey, some 4096, true⟩ with
      | none => .error .bfibeKeyReleaseError
      | some release =>
        if release.length = 0 then .error .bfibeKeyReleaseError
        else .release release env.timing
  else if r.cryptoProfile ≠ CStr.lit "eccibe" then .error .unsupportedCryptoProfile
  else if !env.releaseCall then .error .keyGenError
  else
    let batch := ecallDeriveKeysBatch S env.keyEnv env.labelKeyEnv k r.fid r.label r.publicKey
    match batch.dkf, batch.dklabel with
    | some dkf, some dklabel => .keys dkf.blob dklabel.blob env.timing
    | _, _ => .error .keyGenError

/-- `handle_client`.  A simulation build verifies the quote in the enclave and goes on whatever
comes of it. -/
def handleClient (S : Sgx) (B : Bfibe) (env : ServeEnv) (k : Globals) (request : Bytes) :
    Globals × ServerReply :=
  match readKeyRequest request with
  | .error none => (k, .closed)
  | .error (some e) => (k, .error e)
  | .ok r =>
    let verified := if env.verifyCall then k.ecallVerifyQuoteForFid (some r.fid) (some r.quote)
      else (k, -1)
    if env.simulation then (verified.1, sendKeys S B env verified.1 r)
    else
      match env.verifyQuoteDcap r.quote with
      | none => (k, .error .dcapVerifyFailed)
      | some mrenclave =>
        if !env.checkMrenclavePolicy mrenclave then (k, .error .policyDenied)
        else if verified.2 ≠ 0 then (verified.1, .error .enclaveVerifyFailed)
        else (verified.1, sendKeys S B env verified.1 r)

/-! ## What is sent -/

/-- A release that is sent is an envelope that fits the buffer of the server. -/
def Sendable (reply : ServerReply) : Prop :=
  ∀ release timing, reply = .release release timing →
    release.length ≤ 4096 ∧ ∃ p : ReleaseParts, release = encodeKeyRelease p

variable {S : Sgx} {B : Bfibe}

/-- What `build_bfibe_key_release` writes is an envelope that fits its buffer. -/
theorem exists_parts_of_buildBfibeKeyRelease {fid workerIdentity : CStr}
    {wrapPublicKey nonce ciphertext : Bytes} {capacity : ℕ} {release : Bytes}
    (h : buildBfibeKeyRelease fid workerIdentity wrapPublicKey nonce ciphertext capacity =
      some release) :
    release.length ≤ capacity ∧ ∃ p : ReleaseParts, release = encodeKeyRelease p := by
  obtain ⟨hfit, hrelease⟩ := buildBfibeKeyRelease_eq_some_iff.mp h
  exact ⟨hfit, _, hrelease⟩

/-- A release of the enclave is an envelope that fits the buffer. -/
theorem exists_parts_of_bfibeKeyRelease {env : ReleaseEnv} {k : Globals} {fid label : CStr}
    {publicKey : Block 64} {capacity : ℕ} {release : Bytes}
    (h : bfibeKeyRelease S B env k fid label publicKey capacity = some release) :
    release.length ≤ capacity ∧ ∃ p : ReleaseParts, release = encodeKeyRelease p := by
  simp only [bfibeKeyRelease, Option.ite_none_left_eq_some, Option.bind_eq_bind,
    Option.bind_eq_some_iff] at h
  obtain ⟨-, -, -, bfMsk, -, requestIdentity, -, functionIdentity, -, workerIdentity, -,
    requestSk, -, functionSk, -, -, keySet, -, -, pair, -, secret, -, nonce, -, aad, -, -,
    hbuild⟩ := h
  exact exists_parts_of_buildBfibeKeyRelease hbuild

theorem sendKeys_sendable (env : ServeEnv) (k : Globals) (r : KeyRequest) :
    Sendable (sendKeys S B env k r) := by
  intro release timing h
  unfold sendKeys at h
  split at h
  · split at h
    · exact absurd h (by simp)
    · split at h
      · exact absurd h (by simp)
      · rename_i sent hsent
        split at h
        · exact absurd h (by simp)
        · obtain ⟨rfl, -⟩ := ServerReply.release.inj h
          exact exists_parts_of_bfibeKeyRelease hsent
  · split at h
    · exact absurd h (by simp)
    · split at h
      · exact absurd h (by simp)
      · dsimp only at h
        split at h
        · exact absurd h (by simp)
        · exact absurd h (by simp)

/-- **What the server sends**: of an answer that is a release, the payload is an envelope of at
most 4096 bytes. -/
theorem handleClient_sendable (env : ServeEnv) (k : Globals) (request : Bytes) :
    Sendable (handleClient S B env k request).2 := by
  have hnone : ∀ reply : ServerReply, (∀ release timing, reply ≠ .release release timing) →
      Sendable reply := fun reply h release timing heq => absurd heq (h release timing)
  unfold handleClient
  split
  · exact hnone _ (by simp)
  · exact hnone _ (by simp)
  · rename_i r hr
    extract_lets verified
    split
    · exact sendKeys_sendable env _ r
    · split
      · exact hnone _ (by simp)
      · split
        · exact hnone _ (by simp)
        · split
          · exact hnone _ (by simp)
          · exact sendKeys_sendable env _ r

end Kms
end AsynCS
