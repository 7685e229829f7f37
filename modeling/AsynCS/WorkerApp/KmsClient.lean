import AsynCS.Lib.Framing
import AsynCS.Protocol.ServerReply

/-!
# The key exchange of the worker host

`connect_to_kms` sends a key request, reads the answer to the end of the stream, tells its formats
apart, and hands key material to the enclave.

* `readKmsResponse`: the reads, into a buffer for the largest release and the durations.
* `isBfibeKeyReleaseResponse`, `bfibeKeyReleasePayloadLen`: where a release ends.
* `Handed`, `KmsExchange`, `demultiplex`: the formats.
* `connectToKms`: the exchange.

The `ecall_has_key` after two keys and the printed lines decide nothing and are left out.
-/

namespace AsynCS
namespace WorkerApp

/-- `KMS_KEYS_LEN` -/
def kmsKeysLen : ℕ := 248

/-- `BFIBE_MAX_RELEASE_LEN` -/
def bfibeMaxReleaseLen : ℕ := 4096

/-- `KMS_TIMING_TRAILER_LEN` -/
def kmsTimingTrailerLen : ℕ := 24

/-- `KMS_RESPONSE_MAX_LEN` -/
def kmsResponseMaxLen : ℕ := bfibeMaxReleaseLen + kmsTimingTrailerLen

/-- `read_kms_response`, into the buffer of `connect_to_kms`. -/
def readKmsResponse (events : List ReadEvent) : Option Bytes := readUpTo kmsResponseMaxLen events []

/-- `is_bfibe_key_release_response`: magic and version. -/
def isBfibeKeyReleaseResponse (b : Bytes) : Bool :=
  decide (8 + 1 ≤ b.length) && (b.take 8 == bfibeKeyReleaseMagic) && (b.drop 8).take 1 == [1]

/-- `bfibe_key_release_payload_len`: the length that the six lengths of a release announce, and -1
when the response or the largest release is shorter. -/
def bfibeKeyReleasePayloadLen (b : Bytes) : Int :=
  if !isBfibeKeyReleaseResponse b then -1
  else
    let release : Option ℕ := do
      let (profileLen, r) ← readU32be (b.drop 9)
      let (fidLen, r) ← readU32be r
      let (workerIdentityLen, r) ← readU32be r
      let (wrapPublicKeyLen, r) ← readU32be r
      let (nonceLen, r) ← readU32be r
      let (ciphertextLen, _) ← readU32be r
      some (33 + profileLen + fidLen + workerIdentityLen + wrapPublicKeyLen + nonceLen +
        ciphertextLen)
    match release with
    | none => -1
    | some releaseLen =>
      if b.length < releaseLen ∨ bfibeMaxReleaseLen < releaseLen then -1 else releaseLen

/-! ## The formats -/

/-- What is handed to the enclave: a release to `ecall_load_bfibe_key_release`, two keys to
`ecall_decrypt_keys_batch`, or one key to `ecall_decrypt_key`. -/
inductive Handed where
  | bfibeKeyRelease (release : Bytes)
  | keysBatch (encryptedDkf encryptedDklabel : KeyBlob)
  | key (encryptedKey : KeyBlob)
  deriving DecidableEq

/-- What an exchange hands over, and the durations of the KMS that it leaves in
`g_kms_verify_dur_ns`, `g_kms_key_release_dur_ns` and `g_kms_total_dur_ns`. -/
structure KmsExchange where
  handed : Option Handed
  timing : KmsTimingTrailer
  deriving DecidableEq

/-- An exchange that hands nothing over. -/
def KmsExchange.nothing : KmsExchange := ⟨none, KmsTimingTrailer.zero⟩

/-- The durations behind `len` bytes, when the response has them. -/
def timingBehind (len : ℕ) (b : Bytes) : KmsTimingTrailer :=
  if len + kmsTimingTrailerLen ≤ b.length then
    KmsTimingTrailer.ofBytes ((b.drop len).take kmsTimingTrailerLen)
  else KmsTimingTrailer.zero

/-- The branches of `connect_to_kms` on a response that is not empty. -/
def demultiplex (b : Bytes) : KmsExchange :=
  if isBfibeKeyReleaseResponse b then
    let releaseLen := bfibeKeyReleasePayloadLen b
    if releaseLen ≤ 0 then KmsExchange.nothing
    else ⟨some (.bfibeKeyRelease (b.take releaseLen.toNat)), timingBehind releaseLen.toNat b⟩
  else if kmsKeysLen ≤ b.length then
    ⟨some (.keysBatch (KeyBlob.ofBytes b) (KeyBlob.ofBytes (b.drop 124))),
      timingBehind kmsKeysLen b⟩
  else if b.length = 124 then
    -- the legacy format: one key, without durations
    ⟨some (.key (KeyBlob.ofBytes b)), KmsTimingTrailer.zero⟩
  else KmsExchange.nothing

/-! ## The exchange -/

/-- The network during an exchange.  A name resolves to addresses, every attempt tries them in
turn, and `response` are the reads after the request is sent. -/
structure KmsNet where
  resolves : Bool
  /-- For every attempt that is made, which of its connections succeed. -/
  attempts : List (List Bool)
  sends : Bool
  response : List ReadEvent

/-- The request reaches the server. -/
def KmsNet.reaches (net : KmsNet) : Bool :=
  net.resolves && net.attempts.any (fun addresses => addresses.any id) && net.sends

/-- `connect_to_kms`. -/
def connectToKms (net : KmsNet) : KmsExchange :=
  if !net.reaches then KmsExchange.nothing
  else
    match readKmsResponse net.response with
    | none => KmsExchange.nothing
    | some [] => KmsExchange.nothing
    | some (x :: b) => demultiplex (x :: b)

end WorkerApp
end AsynCS
