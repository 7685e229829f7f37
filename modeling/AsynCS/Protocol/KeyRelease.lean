import AsynCS.Lib.Bytes

/-!
# What the KMS sends to a worker

Two kinds of key material cross from the KMS enclave to the worker enclave.

* `KeyBlob`: the 124 bytes of the eccibe profile, an ephemeral public key, an IV, a tag, and
  an encrypted 32-byte scalar.
* `ReleaseParts`: the fields of an `ASBFREL1` release envelope of the BF-IBE profile, whose
  ciphertext carries an `ASBFSKS1` set of `KeyRecord`s.

The two programs build and parse the envelopes in their own code.  This file says once what
the bytes are: `encodeKeyRelease`, `encodeKeySet`, and the associated data `keyReleaseAad`
that authenticates an envelope.
-/

namespace AsynCS

/-- The 124-byte blob of the eccibe profile: `MyPub(64) || IV(12) || Tag(16) || Ciphertext(32)`. -/
structure KeyBlob where
  kmsPub : Block 64
  iv : Block 12
  tag : Block 16
  ciphertext : Block 32
  deriving DecidableEq

/-- `BFIBE_PROFILE_ID` -/
def bfibeProfileId : Bytes := ascii "bfibe-mcl-bls12381"

/-- `BFIBE_KEY_RELEASE_MAGIC` -/
def bfibeKeyReleaseMagic : Bytes := ascii "ASBFREL1"

/-- `BFIBE_PRIVATE_KEY_SET_MAGIC` -/
def bfibePrivateKeySetMagic : Bytes := ascii "ASBFSKS1"

/-- `BFIBE_AAD_MAGIC` -/
def bfibeAadMagic : Bytes := ascii "ASYNCS/BFIBE/KEYRELEASE/AAD/v1"

/-- The purpose of the key that opens `C_key`. -/
def requestPurpose : Bytes := ascii "request-key"

/-- The purpose of the key that opens `C_k_func`. -/
def functionPurpose : Bytes := ascii "function-key"

@[simp] theorem length_bfibeProfileId : bfibeProfileId.length = 18 := rfl
@[simp] theorem length_bfibeKeyReleaseMagic : bfibeKeyReleaseMagic.length = 8 := rfl
@[simp] theorem length_bfibePrivateKeySetMagic : bfibePrivateKeySetMagic.length = 8 := rfl
@[simp] theorem length_bfibeAadMagic : bfibeAadMagic.length = 30 := rfl
@[simp] theorem length_requestPurpose : requestPurpose.length = 11 := rfl
@[simp] theorem length_functionPurpose : functionPurpose.length = 12 := rfl

theorem functionPurpose_ne_requestPurpose : functionPurpose ≠ requestPurpose := by decide

/-- The fields of an `ASBFREL1` envelope. -/
structure ReleaseParts where
  profile : Bytes
  fid : Bytes
  workerIdentity : Bytes
  wrapPublicKey : Bytes
  nonce : Bytes
  ciphertext : Bytes
  deriving DecidableEq

/-- An `ASBFREL1` envelope: magic, version 1, the six lengths, the six fields. -/
def encodeKeyRelease (p : ReleaseParts) : Bytes :=
  bfibeKeyReleaseMagic ++ [1] ++ u32be p.profile.length ++ u32be p.fid.length ++
    u32be p.workerIdentity.length ++ u32be p.wrapPublicKey.length ++ u32be p.nonce.length ++
    u32be p.ciphertext.length ++ p.profile ++ p.fid ++ p.workerIdentity ++ p.wrapPublicKey ++
    p.nonce ++ p.ciphertext

/-- A length and the bytes it counts. -/
def aadPart (b : Bytes) : Bytes := u32be b.length ++ b

@[simp] theorem length_aadPart (b : Bytes) : (aadPart b).length = 4 + b.length := by
  rw [aadPart, List.length_append, length_u32be]

/-- The associated data of a release envelope. -/
def keyReleaseAad (profile fid workerIdentity wrapPublicKey : Bytes) : Bytes :=
  bfibeAadMagic ++ aadPart profile ++ aadPart fid ++ aadPart workerIdentity ++
    aadPart wrapPublicKey

/-- **The size of the associated data**: 68 bytes besides the FID and the worker identity for
a 64-byte wrap key and the 18-byte profile, hence 128 with both of those counted. -/
theorem length_keyReleaseAad {fid workerIdentity wrapPublicKey : Bytes}
    (hwrap : wrapPublicKey.length = 64) :
    (keyReleaseAad bfibeProfileId fid workerIdentity wrapPublicKey).length =
      128 + fid.length + workerIdentity.length := by
  simp only [keyReleaseAad, List.length_append, length_aadPart, length_bfibeAadMagic,
    length_bfibeProfileId, hwrap]
  omega

/-- One private key of an `ASBFSKS1` set. -/
structure KeyRecord where
  purpose : Bytes
  identity : Bytes
  privateKey : Bytes
  deriving DecidableEq

/-- The record of the key for requests to an FID. -/
def requestRecord (fid privateKey : Bytes) : KeyRecord :=
  ⟨requestPurpose, ascii "fid:" ++ fid, privateKey⟩

/-- The record of the key for functions with a label. -/
def functionRecord (label privateKey : Bytes) : KeyRecord :=
  ⟨functionPurpose, ascii "label:" ++ label, privateKey⟩

/-- A record: the three lengths, the three fields. -/
def encodeKeyRecord (r : KeyRecord) : Bytes :=
  u32be r.purpose.length ++ u32be r.identity.length ++ u32be r.privateKey.length ++ r.purpose ++
    r.identity ++ r.privateKey

/-- An `ASBFSKS1` set: magic, version 1, the length of the profile, the number of records, the
profile, the records. -/
def encodeKeySet (profile : Bytes) (records : List KeyRecord) : Bytes :=
  bfibePrivateKeySetMagic ++ [1] ++ u32be profile.length ++ u32be records.length ++ profile ++
    records.flatMap encodeKeyRecord

@[simp] theorem length_encodeKeyRecord (r : KeyRecord) :
    (encodeKeyRecord r).length =
      12 + r.purpose.length + r.identity.length + r.privateKey.length := by
  simp only [encodeKeyRecord, List.length_append, length_u32be]

theorem length_encodeKeySet (records : List KeyRecord) :
    (encodeKeySet bfibeProfileId records).length =
      35 + (records.flatMap encodeKeyRecord).length := by
  simp only [encodeKeySet, List.length_append, length_u32be, length_bfibePrivateKeySetMagic,
    length_bfibeProfileId, List.length_cons, List.length_nil]

end AsynCS
