import AsynCS.Lib.Stream
import AsynCS.Protocol.KeyRelease

/-!
# The reply of the KMS server

The server answers a key request over its socket and closes it.  The reply has no outer length:
it is a payload, followed by three durations when the payload carries key material.

* `KeyBlob.bytes`, `KeyBlob.ofBytes`: the 124 bytes of a wrapped key.
* `KmsTimingTrailer`: the durations; both programs copy the structure as it lies in memory.
* `ServerError`, `ServerReply`: what can be sent, with `payload`, `trailer` and `bytes`.
-/

namespace AsynCS

namespace KeyBlob

/-- The blob as it is sent. -/
def bytes (blob : KeyBlob) : Bytes :=
  blob.kmsPub.toList ++ (blob.iv.toList ++ (blob.tag.toList ++ blob.ciphertext.toList))

/-- The blob at the front of a buffer. -/
def ofBytes (b : Bytes) : KeyBlob where
  kmsPub := Block.ofBytes 64 (b.take 64)
  iv := Block.ofBytes 12 ((b.drop 64).take 12)
  tag := Block.ofBytes 16 ((b.drop 76).take 16)
  ciphertext := Block.ofBytes 32 ((b.drop 92).take 32)

@[simp] theorem length_bytes (blob : KeyBlob) : blob.bytes.length = 124 := by
  simp only [bytes, List.length_append, List.Vector.toList_length]

/-- A blob is read back from the front of a buffer. -/
theorem ofBytes_append (blob : KeyBlob) (rest : Bytes) : ofBytes (blob.bytes ++ rest) = blob := by
  have hbytes : blob.bytes ++ rest = blob.kmsPub.toList ++
      (blob.iv.toList ++ (blob.tag.toList ++ (blob.ciphertext.toList ++ rest))) := by
    simp only [bytes, List.append_assoc]
  have hdrop64 : (blob.bytes ++ rest).drop 64 =
      blob.iv.toList ++ (blob.tag.toList ++ (blob.ciphertext.toList ++ rest)) := by
    rw [hbytes, List.drop_left' blob.kmsPub.toList_length]
  have hdrop76 : (blob.bytes ++ rest).drop 76 =
      blob.tag.toList ++ (blob.ciphertext.toList ++ rest) := by
    rw [show 76 = 64 + 12 from rfl, ← List.drop_drop, hdrop64,
      List.drop_left' blob.iv.toList_length]
  have hdrop92 : (blob.bytes ++ rest).drop 92 = blob.ciphertext.toList ++ rest := by
    rw [show 92 = 76 + 16 from rfl, ← List.drop_drop, hdrop76,
      List.drop_left' blob.tag.toList_length]
  have htake : (blob.bytes ++ rest).take 64 = blob.kmsPub.toList := by
    rw [hbytes, List.take_left' blob.kmsPub.toList_length]
  have htakeIv : ((blob.bytes ++ rest).drop 64).take 12 = blob.iv.toList := by
    rw [hdrop64, List.take_left' blob.iv.toList_length]
  have htakeTag : ((blob.bytes ++ rest).drop 76).take 16 = blob.tag.toList := by
    rw [hdrop76, List.take_left' blob.tag.toList_length]
  have htakeCt : ((blob.bytes ++ rest).drop 92).take 32 = blob.ciphertext.toList := by
    rw [hdrop92, List.take_left' blob.ciphertext.toList_length]
  rw [ofBytes, htake, htakeIv, htakeTag, htakeCt]
  simp only [Block.ofBytes_toList]

theorem ofBytes_bytes (blob : KeyBlob) : ofBytes blob.bytes = blob := by
  have h := ofBytes_append blob []
  rwa [List.append_nil] at h

end KeyBlob

/-! ## The durations -/

/-- `KmsTimingTrailer`, in nanoseconds. -/
structure KmsTimingTrailer where
  verifyDurNs : UInt64
  keyReleaseDurNs : UInt64
  totalDurNs : UInt64
  deriving DecidableEq

namespace KmsTimingTrailer

/-- `{0, 0, 0}` -/
def zero : KmsTimingTrailer := ⟨0, 0, 0⟩

/-- The structure in memory. -/
def bytes (t : KmsTimingTrailer) : Bytes :=
  leBytes 8 t.verifyDurNs.toNat ++ (leBytes 8 t.keyReleaseDurNs.toNat ++
    leBytes 8 t.totalDurNs.toNat)

/-- `memcpy(&timing, b, sizeof(timing))` -/
def ofBytes (b : Bytes) : KmsTimingTrailer where
  verifyDurNs := UInt64.ofNat (ofLeBytes (b.take 8))
  keyReleaseDurNs := UInt64.ofNat (ofLeBytes ((b.drop 8).take 8))
  totalDurNs := UInt64.ofNat (ofLeBytes ((b.drop 16).take 8))

@[simp] theorem length_bytes (t : KmsTimingTrailer) : t.bytes.length = 24 := by
  simp only [bytes, List.length_append, length_leBytes]

/-- A stored word of 64 bits is read back. -/
theorem ofNat_ofLeBytes (v : UInt64) : UInt64.ofNat (ofLeBytes (leBytes 8 v.toNat)) = v := by
  have hlt : v.toNat < 256 ^ 8 := v.toNat_lt
  rw [ofLeBytes_leBytes hlt, UInt64.ofNat_toNat]

/-- The durations are read back. -/
theorem ofBytes_bytes (t : KmsTimingTrailer) : ofBytes t.bytes = t := by
  have hfirst : t.bytes.take 8 = leBytes 8 t.verifyDurNs.toNat :=
    List.take_left' (length_leBytes 8 _)
  have hdrop : t.bytes.drop 8 =
      leBytes 8 t.keyReleaseDurNs.toNat ++ leBytes 8 t.totalDurNs.toNat :=
    List.drop_left' (length_leBytes 8 _)
  have hlast : t.bytes.drop 16 = leBytes 8 t.totalDurNs.toNat := by
    rw [show 16 = 8 + 8 from rfl, ← List.drop_drop, hdrop]
    exact List.drop_left' (length_leBytes 8 _)
  rw [ofBytes, hfirst, hdrop, hlast, List.take_left' (length_leBytes 8 _),
    List.take_of_length_le (by rw [length_leBytes])]
  simp only [ofNat_ofLeBytes]

end KmsTimingTrailer

/-! ## What is sent -/

/-- The errors of the server. -/
inductive ServerError where
  | invalidQuoteSize
  | invalidFidLen
  | invalidLabelLen
  | invalidCryptoProfile
  | dcapVerifyFailed
  | policyDenied
  | enclaveVerifyFailed
  | unsupportedCryptoProfile
  | keyGenError
  | bfibeKeyReleaseError
  deriving DecidableEq

/-- The text of an error. -/
def ServerError.text : ServerError → Bytes
  | invalidQuoteSize => ascii "INVALID_QUOTE_SIZE"
  | invalidFidLen => ascii "INVALID_FID_LEN"
  | invalidLabelLen => ascii "INVALID_LABEL_LEN"
  | invalidCryptoProfile => ascii "INVALID_CRYPTO_PROFILE"
  | dcapVerifyFailed => ascii "DCAP_VERIFY_FAILED"
  | policyDenied => ascii "POLICY_DENIED"
  | enclaveVerifyFailed => ascii "ENCLAVE_VERIFY_FAILED"
  | unsupportedCryptoProfile => ascii "UNSUPPORTED_CRYPTO_PROFILE"
  | keyGenError => ascii "KEY_GEN_ERROR"
  | bfibeKeyReleaseError => ascii "BFIBE_KEY_RELEASE_ERROR"

/-- The answer to one request.  A connection that breaks while the request is read is closed
without one. -/
inductive ServerReply where
  | closed
  | error (e : ServerError)
  | keys (dkf dklabel : KeyBlob) (timing : KmsTimingTrailer)
  | release (release : Bytes) (timing : KmsTimingTrailer)
  deriving DecidableEq

namespace ServerReply

/-- The key material, or the text. -/
def payload : ServerReply → Bytes
  | closed => []
  | error e => e.text
  | keys dkf dklabel _ => dkf.bytes ++ dklabel.bytes
  | release r _ => r

/-- The durations behind it. -/
def trailer : ServerReply → Bytes
  | closed => []
  | error _ => []
  | keys _ _ timing => timing.bytes
  | release _ timing => timing.bytes

/-- The bytes on the socket. -/
def bytes (reply : ServerReply) : Bytes := reply.payload ++ reply.trailer

/-- The durations that the server wrote. -/
def timing : ServerReply → KmsTimingTrailer
  | closed => KmsTimingTrailer.zero
  | error _ => KmsTimingTrailer.zero
  | keys _ _ timing => timing
  | release _ timing => timing

end ServerReply

end AsynCS
