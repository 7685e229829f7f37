import AsynCS.Client.Sdk

/-!
# `ECCIBE`

The default scheme of the SDK derives the private scalar of an identity as the KMS does, from the
master secret and the text of the identity, and encrypts to the public key of the scalar.  Keys
travel in the DER encodings of the `cryptography` package, the parameter `DerKeys`.

* `extract`, `extractPublic`: the two keys of an identity.
* `encrypt`, `decrypt`: the cipher of the scheme, for messages of any length.
* `decrypt_encrypt`: the key of an identity opens what was encrypted to the identity.
* `ClientSDK.encryptFunctionKey`: the second step of a deployment.
-/

namespace AsynCS
namespace Client

/-- The DER encodings of keys, `load_der_private_key` and `load_der_public_key`. -/
structure DerKeys where
  privateBytes : Block 32 → Bytes
  loadPrivate : Bytes → Option (Block 32)
  publicBytes : Point → Bytes
  loadPublic : Bytes → Option Point

/-- The encodings of a key pair are read back. -/
structure DerKeys.Loads (D : DerKeys) (P : P256) : Prop where
  loadPrivate : ∀ {sk p}, P.publicPoint sk = some p → D.loadPrivate (D.privateBytes sk) = some sk
  loadPublic : ∀ {sk p}, P.publicPoint sk = some p → D.loadPublic (D.publicBytes p) = some p

namespace ECCIBE

variable (S : Sgx) (P : P256) (D : DerKeys)

/-- The bytes that `extract` hashes out for an identity: a scalar with its least significant byte
first. -/
def skBytes (msk : Bytes) (identity : PyStr) : Option (Block 32) := do
  let identityBytes ← identity.encode
  some (S.sha256 (msk ++ identityBytes))

/-- `ECCIBE.extract`.  `derive_private_key` raises for a scalar out of range. -/
def extract (msk : Bytes) (identity : PyStr) : Option Bytes := do
  let sk ← skBytes S msk identity
  let _ ← P.publicPoint sk.reverse
  some (D.privateBytes sk.reverse)

/-- `ECCIBE.extract_public`. -/
def extractPublic (msk : Bytes) (identity : PyStr) : Option Bytes := do
  let der ← extract S P D msk identity
  let privateKey ← D.loadPrivate der
  let publicKey ← P.publicPoint privateKey
  some (D.publicBytes publicKey)

/-- `ECCIBE.encrypt`, with the ephemeral scalar and the nonce that it draws. -/
def encrypt (draw : KeyDraw) (params : Bytes) (_identity : PyStr) (message : Bytes) :
    Option Bytes := do
  let publicKey ← D.loadPublic params
  let ephemeralPk ← P.publicPoint draw.ephemeralSk
  let shared ← P.exchange draw.ephemeralSk publicKey
  -- the shared secret is reversed into the order of SGX
  let aesKey := keyCiphertextKey S shared.reverse
  let ctAndTag := aesgcmEncrypt S aesKey draw.iv message []
  some (ephemeralPk.encode ++ draw.iv.toList ++ ctAndTag.rtake 16 ++ ctAndTag.rdrop 16)

/-- `ECCIBE.decrypt`. -/
def decrypt (sk ciphertext : Bytes) : Option Bytes := do
  let privateKey ← D.loadPrivate sk
  if ciphertext.length < 65 + 12 + 16 then none
  else if ciphertext.take 1 ≠ [4] then none
  else
    let shared ← P.exchange privateKey (Point.ofEncoded (ciphertext.take 65))
    let aesKey := keyCiphertextKey S shared.reverse
    aesgcmDecrypt S aesKey (Block.ofBytes 12 ((ciphertext.drop 65).take 12))
      (ciphertext.drop 93 ++ (ciphertext.drop 77).take 16) []

variable {S P D}

/-- The scalar of an identity. -/
theorem exists_of_extract {msk sk : Bytes} {identity : PyStr}
    (h : extract S P D msk identity = some sk) :
    ∃ scalar p, skBytes S msk identity = some scalar ∧ P.publicPoint scalar.reverse = some p ∧
      sk = D.privateBytes scalar.reverse := by
  obtain ⟨scalar, hscalar, h⟩ := Option.bind_eq_some_iff.mp h
  obtain ⟨p, hp, h⟩ := Option.bind_eq_some_iff.mp h
  exact ⟨scalar, p, hscalar, hp, (Option.some.inj h).symm⟩

/-- The public key of an identity is the one of its scalar. -/
theorem exists_of_extractPublic (hD : D.Loads P) {msk pk : Bytes} {identity : PyStr}
    (h : extractPublic S P D msk identity = some pk) :
    ∃ scalar p, skBytes S msk identity = some scalar ∧ P.publicPoint scalar.reverse = some p ∧
      pk = D.publicBytes p := by
  obtain ⟨der, hder, h⟩ := Option.bind_eq_some_iff.mp h
  obtain ⟨scalar, p, hscalar, hp, rfl⟩ := exists_of_extract hder
  rw [hD.loadPrivate hp, Option.bind_eq_bind, Option.bind_some, hp] at h
  exact ⟨scalar, p, hscalar, hp, (Option.some.inj h).symm⟩

/-- The parts of a ciphertext. -/
theorem encrypt_eq_some_iff {draw : KeyDraw} {params : Bytes} {p : Point}
    (hp : D.loadPublic params = some p) {identity : PyStr} {message c : Bytes} :
    encrypt S P D draw params identity message = some c ↔
      ∃ shared e, P.exchange draw.ephemeralSk p = some shared ∧
        P.publicPoint draw.ephemeralSk = some e ∧
        c = keyCiphertextOf e draw.iv
          (S.gcmEncrypt (keyCiphertextKey S shared.reverse) draw.iv [] message).2
          (S.gcmEncrypt (keyCiphertextKey S shared.reverse) draw.iv [] message).1 := by
  unfold encrypt
  rw [hp]
  simp only [Option.bind_eq_bind, Option.bind_some, aesgcmEncrypt, rtake_append_block,
    rdrop_append_block]
  constructor
  · intro h
    obtain ⟨e, he, h⟩ := Option.bind_eq_some_iff.mp h
    obtain ⟨shared, hshared, h⟩ := Option.bind_eq_some_iff.mp h
    exact ⟨shared, e, hshared, he, (Option.some.inj h).symm⟩
  · rintro ⟨shared, e, hshared, he, rfl⟩
    rw [he, Option.bind_some, hshared, Option.bind_some]
    rfl

/-- What `decrypt` reads of the parts of a ciphertext. -/
theorem decrypt_keyCiphertextOf {sk : Bytes} {scalar : Block 32}
    (hsk : D.loadPrivate sk = some scalar) (e : Point) (iv : Block 12) (tag : Block 16)
    (ct : Bytes) :
    decrypt S P D sk (keyCiphertextOf e iv tag ct) =
      (P.exchange scalar e).bind fun shared =>
        S.gcmDecrypt (keyCiphertextKey S shared.reverse) iv [] ct tag := by
  have hlen := length_keyCiphertextOf e iv tag ct
  have htag : (((keyCiphertextOf e iv tag ct).drop 77).take 16) = tag.toList := by
    have hblock := congrArg List.Vector.toList (tag_keyCiphertextOf e iv tag ct)
    rwa [Block.toList_ofBytes (by rw [List.length_take, List.length_drop, hlen]; omega)] at hblock
  unfold decrypt
  rw [hsk, Option.bind_eq_bind, Option.bind_some, if_neg (by omega),
    if_neg (not_not_intro (take_one_keyCiphertextOf e iv tag ct)), take_keyCiphertextOf,
    iv_keyCiphertextOf, htag, drop_keyCiphertextOf, Point.ofEncoded_encode]
  simp only [aesgcmDecrypt_append]

/-- **The key of an identity opens** what was encrypted to the public key of the identity. -/
theorem decrypt_encrypt (hS : S.GcmLaws) (hP : P.Commutes) (hD : D.Loads P) {msk sk pk : Bytes}
    {identity : PyStr} (hsk : extract S P D msk identity = some sk)
    (hpk : extractPublic S P D msk identity = some pk) {draw : KeyDraw} {message c : Bytes}
    (h : encrypt S P D draw pk identity message = some c) :
    decrypt S P D sk c = some message := by
  obtain ⟨scalar, p, hscalar, hp, rfl⟩ := exists_of_extract hsk
  obtain ⟨scalar', p', hscalar', hp', rfl⟩ := exists_of_extractPublic hD hpk
  obtain rfl := Option.some.inj (hscalar.symm.trans hscalar')
  obtain rfl := Option.some.inj (hp.symm.trans hp')
  obtain ⟨shared, e, hshared, he, rfl⟩ := (encrypt_eq_some_iff (hD.loadPublic hp)).mp h
  obtain ⟨common, hcommon, hcommon'⟩ := hP _ _ _ _ he hp
  obtain rfl := Option.some.inj (hcommon.symm.trans hshared)
  rw [decrypt_keyCiphertextOf (hD.loadPrivate hp), hcommon', Option.bind_some]
  exact hS.decrypt_encrypt _ _ _ _

end ECCIBE

/-- `ClientSDK.encrypt_function_key`; `ibeEncrypt` is `self.ibe.encrypt`. -/
def ClientSDK.encryptFunctionKey (ibeEncrypt : Bytes → PyStr → Bytes → Option Bytes)
    (kFunc pkL : Bytes) (lHex : PyStr) : Option Bytes := ibeEncrypt pkL lHex kFunc

end Client
end AsynCS
