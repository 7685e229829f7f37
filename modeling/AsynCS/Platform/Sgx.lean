import AsynCS.Lib.CString

/-!
# What the enclaves use of the SGX SDK and of the BF-IBE library

Hashing, the P-256 key agreement, AES-128-GCM and the Boneh--Franklin operations come from
outside the two enclave programs, so they are parameters here: `Sgx` and `Bfibe` hold one
function for each call, of the arguments that decide its result.  A call can also fail for a
reason of the platform (no memory, no context); the callers take such failures from the
environment of each ECALL.

* `Sgx.sha256Msg`: `sgx_sha256_msg`, which refuses a NULL source.
* `Sgx.GcmLaws`, `Sgx.EcdhCommutes`: what the documentation of the SDK promises.
* `Sgx.sample`, `Bfibe.sample`: a small lawful instance on which concrete runs are computed.
-/

namespace AsynCS

/-- The cryptographic calls of the SGX SDK. -/
structure Sgx where
  sha256 : Bytes → Block 32
  /-- `sgx_ecc256_calculate_pub_from_priv` -/
  calculatePubFromPriv : Block 32 → Option (Block 64)
  /-- `sgx_ecc256_compute_shared_dhkey`: private key, public key -/
  computeSharedDhkey : Block 32 → Block 64 → Option (Block 32)
  /-- `sgx_rijndael128GCM_encrypt`: key, IV, AAD, plaintext to ciphertext and tag -/
  gcmEncrypt : Block 16 → Block 12 → Bytes → Bytes → Bytes × Block 16
  /-- `sgx_rijndael128GCM_decrypt`: key, IV, AAD, ciphertext, tag -/
  gcmDecrypt : Block 16 → Block 12 → Bytes → Bytes → Block 16 → Option Bytes

/-- The calls of the trusted BF-IBE wrapper. -/
structure Bfibe where
  /-- `bfibe_mcl_derive_master_secret` -/
  deriveMasterSecret : Bytes → Option Bytes
  /-- `bfibe_mcl_public_from_msk` -/
  publicFromMsk : Bytes → Option Bytes
  /-- `bfibe_mcl_extract`: master secret, identity -/
  extract : Bytes → Bytes → Option Bytes
  /-- `bfibe_mcl_decrypt_key_envelope`: identity key, c1, nonce, ciphertext, AAD -/
  decryptKeyEnvelope : Bytes → Bytes → Bytes → Bytes → Bytes → Option (Block 32)

namespace Sgx

/-- `sgx_sha256_msg`: it refuses a NULL source, and otherwise hashes unless the platform
fails. -/
def sha256Msg (S : Sgx) (ok : Bool) : Option Bytes → Option (Block 32)
  | some src => if ok then some (S.sha256 src) else none
  | none => none

theorem sha256Msg_eq_some_iff {S : Sgx} {ok : Bool} {src : Bytes} {d : Block 32} :
    S.sha256Msg ok (some src) = some d ↔ ok = true ∧ S.sha256 src = d := by
  cases ok <;> simp [sha256Msg]

/-- AES-GCM keeps lengths, and decryption under the same key, IV and AAD inverts
encryption. -/
structure GcmLaws (S : Sgx) : Prop where
  length_encrypt : ∀ key iv aad p, (S.gcmEncrypt key iv aad p).1.length = p.length
  decrypt_encrypt : ∀ key iv aad p,
    S.gcmDecrypt key iv aad (S.gcmEncrypt key iv aad p).1 (S.gcmEncrypt key iv aad p).2 = some p

/-- AES-GCM decryption keeps lengths. -/
def GcmKeepsLength (S : Sgx) : Prop :=
  ∀ {key iv aad c tag p}, S.gcmDecrypt key iv aad c tag = some p → p.length = c.length

/-- The two ends of a key agreement compute the same secret. -/
def EcdhCommutes (S : Sgx) : Prop :=
  ∀ a b A B, S.calculatePubFromPriv a = some A → S.calculatePubFromPriv b = some B →
    S.computeSharedDhkey a B = S.computeSharedDhkey b A

/-- The checksum that stands for the authentication tag of `sample`. -/
def checksum (b : Bytes) : Block 16 := Block.fill 16 b.sum

/-- A small lawful instance: the hash reads its input from the end, a public key is its
private key padded, a shared secret is the bytewise sum, and the cipher leaves the text as it
is and checksums it with its key, IV and AAD. -/
def sample : Sgx where
  sha256 b := Block.ofBytes 32 b.reverse
  calculatePubFromPriv sk := some (Block.ofBytes 64 sk.toList)
  computeSharedDhkey sk pk := some ⟨List.zipWith (· + ·) sk.toList (pk.toList.take 32), by
    rw [List.length_zipWith, List.length_take, List.Vector.toList_length,
      List.Vector.toList_length]
    rfl⟩
  gcmEncrypt key iv aad p := (p, checksum (key.toList ++ iv.toList ++ aad ++ p))
  gcmDecrypt key iv aad c tag :=
    if tag = checksum (key.toList ++ iv.toList ++ aad ++ c) then some c else none

theorem sample_gcmLaws : sample.GcmLaws where
  length_encrypt _ _ _ _ := rfl
  decrypt_encrypt _ _ _ _ := if_pos rfl

theorem sample_gcmKeepsLength : sample.GcmKeepsLength := by
  intro key iv aad c tag p h
  simp only [sample, Option.ite_none_right_eq_some, Option.some.injEq] at h
  rw [h.2]

theorem sample_ecdhCommutes : sample.EcdhCommutes := by
  intro a b A B hA hB
  obtain rfl := Option.some.inj hA
  obtain rfl := Option.some.inj hB
  refine congrArg some (List.Vector.eq _ _ ?_)
  show List.zipWith (· + ·) a.toList ((Block.ofBytes 64 b.toList).toList.take 32) =
    List.zipWith (· + ·) b.toList ((Block.ofBytes 64 a.toList).toList.take 32)
  rw [Block.take_toList_ofBytes a.toList_length (by decide),
    Block.take_toList_ofBytes b.toList_length (by decide)]
  exact List.zipWith_comm_of_comm fun x y => UInt8.add_comm x y

end Sgx

namespace Bfibe

/-- `bfibe_mcl_derive_master_secret` into a buffer of `capacity` bytes: serialization fails
when the result does not fit. -/
def deriveMasterSecretInto (B : Bfibe) (ok : Bool) (capacity : ℕ) (seed : Bytes) :
    Option Bytes :=
  if ok then (B.deriveMasterSecret seed).filter fun msk => msk.length ≤ capacity else none

/-- `bfibe_mcl_extract` into a buffer of `capacity` bytes. -/
def extractInto (B : Bfibe) (ok : Bool) (capacity : ℕ) (msk identity : Bytes) : Option Bytes :=
  if ok then (B.extract msk identity).filter fun sk => sk.length ≤ capacity else none

end Bfibe

/-- A small instance: the master secret is its seed, and the key of an identity is the
identity followed by the master secret. -/
def Bfibe.sample : Bfibe where
  deriveMasterSecret seed := some (seed.take 32)
  publicFromMsk msk := some msk
  extract msk identity := some ((identity ++ msk).take 256)
  decryptKeyEnvelope sk _ _ ciphertext _ := some (Block.ofBytes 32 (sk ++ ciphertext))

end AsynCS
