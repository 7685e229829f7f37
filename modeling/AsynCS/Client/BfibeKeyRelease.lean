import AsynCS.Client.BfibeEnvelope

/-!
# `ASBFREL1` releases and `ASBFSKS1` key sets in Python

`crypto_lib.bfibe_key_release`: the release envelope, and the writer of the private-key set in it.
As for the key envelopes, an object carries the checks of its constructor, and a function that
raises returns `none`.
-/

namespace AsynCS
namespace Client

/-- `BfIbeKeyRelease`, with what `__post_init__` checks. -/
@[ext] structure BfIbeKeyRelease where
  fid : PyStr
  workerIdentity : PyStr
  wrapPublicKey : Bytes
  nonce : Bytes
  ciphertext : Bytes
  profile : PyStr
  profile_eq : profile = profileId
  fid_encodes : (encodeText fid).isSome
  workerIdentity_encodes : (encodeText workerIdentity).isSome
  wrapPublicKey_ne : wrapPublicKey ≠ []
  nonce_length : nonce.length = 12
  ciphertext_ne : ciphertext ≠ []

instance : DecidableEq BfIbeKeyRelease := fun _ _ => decidable_of_iff' _ BfIbeKeyRelease.ext_iff

namespace BfIbeKeyRelease

/-- The constructor, with the checks of `__post_init__`. -/
def build (fid workerIdentity : PyStr) (wrapPublicKey nonce ciphertext : Bytes)
    (profile : PyStr) : Option BfIbeKeyRelease :=
  if h : profile = profileId ∧ (encodeText fid).isSome ∧ (encodeText workerIdentity).isSome ∧
      wrapPublicKey ≠ [] ∧ nonce.length = 12 ∧ ciphertext ≠ [] then
    some ⟨fid, workerIdentity, wrapPublicKey, nonce, ciphertext, profile, h.1, h.2.1, h.2.2.1,
      h.2.2.2.1, h.2.2.2.2.1, h.2.2.2.2.2⟩
  else none

/-- The fields of a release pass their own checks. -/
theorem build_self (r : BfIbeKeyRelease) :
    build r.fid r.workerIdentity r.wrapPublicKey r.nonce r.ciphertext r.profile = some r :=
  dif_pos ⟨r.profile_eq, r.fid_encodes, r.workerIdentity_encodes, r.wrapPublicKey_ne,
    r.nonce_length, r.ciphertext_ne⟩

end BfIbeKeyRelease

/-- `encode_bfibe_key_release`. -/
def encodeBfibeKeyRelease (release : BfIbeKeyRelease) : Option Bytes := do
  let profile ← encodeText release.profile
  let fid ← encodeText release.fid
  let workerIdentity ← encodeText release.workerIdentity
  let lengths ← packU32
    [profile.length, fid.length, workerIdentity.length, release.wrapPublicKey.length,
      release.nonce.length, release.ciphertext.length]
  some (bfibeKeyReleaseMagic ++ [1] ++ lengths ++ profile ++ fid ++ workerIdentity ++
    release.wrapPublicKey ++ release.nonce ++ release.ciphertext)

/-- `decode_bfibe_key_release`. -/
def decodeBfibeKeyRelease (data : Bytes) : Option BfIbeKeyRelease :=
  if data.length < 33 then none
  else if data.take 8 ≠ bfibeKeyReleaseMagic then none
  else if (data.drop 8).take 1 ≠ [1] then none
  else do
    let (lengths, body) ← readLengths 6 (data.drop 9)
    if data.length ≠ 33 + lengths.sum then none
    else
      match slices lengths body with
      | [profile, fid, workerIdentity, wrapPublicKey, nonce, ciphertext] => do
        let profile ← decodeText profile
        let fid ← decodeText fid
        let workerIdentity ← decodeText workerIdentity
        BfIbeKeyRelease.build fid workerIdentity wrapPublicKey nonce ciphertext profile
      | _ => none

/-- `key_release_associated_data`. -/
def keyReleaseAssociatedData (release : BfIbeKeyRelease) : Option Bytes := do
  let profile ← packPart (← encodeText release.profile)
  let fid ← packPart (← encodeText release.fid)
  let workerIdentity ← packPart (← encodeText release.workerIdentity)
  let wrapPublicKey ← packPart release.wrapPublicKey
  some (bfibeAadMagic ++ profile ++ fid ++ workerIdentity ++ wrapPublicKey)

/-! ## Private-key sets -/

/-- `BfIbePrivateKeyRecord`, with what `__post_init__` checks. -/
structure BfIbePrivateKeyRecord where
  purpose : PyStr
  identity : PyStr
  privateKey : Bytes
  purpose_mem : purpose ∈ allowedPurposes
  identity_encodes : (encodeText identity).isSome
  privateKey_ne : privateKey ≠ []

/-- `BfIbePrivateKeySet`, with what `__post_init__` checks. -/
structure BfIbePrivateKeySet where
  records : List BfIbePrivateKeyRecord
  profile : PyStr
  profile_eq : profile = profileId
  records_ne : records ≠ []

/-- The round of `encode_bfibe_private_key_set` for a record. -/
def encodePrivateKeyRecord (record : BfIbePrivateKeyRecord) : Option Bytes := do
  let purpose ← encodeText record.purpose
  let identity ← encodeText record.identity
  let lengths ← packU32 [purpose.length, identity.length, record.privateKey.length]
  some (lengths ++ purpose ++ identity ++ record.privateKey)

/-- `encode_bfibe_private_key_set`. -/
def encodeBfibePrivateKeySet (keySet : BfIbePrivateKeySet) : Option Bytes := do
  let profile ← encodeText keySet.profile
  let encodedRecords ← keySet.records.mapM encodePrivateKeyRecord
  let lengths ← packU32 [profile.length, encodedRecords.length]
  some (bfibePrivateKeySetMagic ++ [1] ++ lengths ++ profile ++ encodedRecords.flatten)

end Client
end AsynCS
