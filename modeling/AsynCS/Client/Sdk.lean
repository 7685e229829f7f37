import AsynCS.Client.Encoding

/-!
# The client SDK

Deployment and invocation as the Python client does them in the eccibe profile, over the calls of
the `cryptography` package.  AES-GCM and SHA-256 are the ones of `Sgx`, and P-256 is a parameter.
What a function draws at random is an argument, and a function that raises returns `none`.

* `P256`, `Point`: keys and ECDH, every number with its most significant byte first.
* `aesgcmEncrypt`, `aesgcmDecrypt`: the class `AESGCM`, which keeps the tag behind the ciphertext.
* `AESGCMImpl`, `P256HKDFKEM`: the primitives of `crypto_lib`.
* `keyCiphertextOf`, `encryptKeyCiphertextV1`: the key ciphertexts that the worker opens.
* `ClientSDK.computeFid`, `encryptFunctionCode`, `prepareInvocation`, `decryptResult`.
-/

namespace AsynCS
namespace Client

/-! ## The `cryptography` package -/

/-- The coordinates of a point. -/
structure Point where
  x : Block 32
  y : Block 32
  deriving DecidableEq

/-- The P-256 calls of the package. -/
structure P256 where
  /-- the public key of a private scalar, `none` for a scalar out of range -/
  publicPoint : Block 32 → Option Point
  /-- `exchange(ECDH(), public_key)`, `none` for a point off the curve -/
  exchange : Block 32 → Point → Option (Block 32)

/-- Both ends of a key agreement compute the same secret. -/
def P256.Commutes (P : P256) : Prop :=
  ∀ a b A B, P.publicPoint a = some A → P.publicPoint b = some B →
    ∃ shared, P.exchange a B = some shared ∧ P.exchange b A = some shared

namespace Point

/-- `public_bytes(X962, UncompressedPoint)` -/
def encode (p : Point) : Bytes := 4 :: (p.x.toList ++ p.y.toList)

/-- `from_encoded_point` on 65 bytes that start with 4. -/
def ofEncoded (b : Bytes) : Point :=
  ⟨Block.ofBytes 32 ((b.drop 1).take 32), Block.ofBytes 32 ((b.drop 33).take 32)⟩

@[simp] theorem length_encode (p : Point) : p.encode.length = 65 := by
  rw [encode, List.length_cons, List.length_append, List.Vector.toList_length,
    List.Vector.toList_length]

/-- The first coordinate of an encoded point. -/
theorem take_drop_encode (p : Point) : (p.encode.drop 1).take 32 = p.x.toList := by
  rw [encode, List.drop_succ_cons, List.drop_zero]
  exact List.take_left' p.x.toList_length

/-- The second coordinate of an encoded point. -/
theorem drop_encode (p : Point) : p.encode.drop 33 = p.y.toList := by
  rw [encode, List.drop_succ_cons]
  exact List.drop_left' p.x.toList_length

/-- **Encoding** a point loses nothing. -/
theorem ofEncoded_encode (p : Point) : ofEncoded p.encode = p := by
  have hy : p.y.toList.take 32 = p.y.toList := List.take_of_length_le p.y.toList_length.le
  rw [ofEncoded, take_drop_encode, drop_encode, hy, Block.ofBytes_toList, Block.ofBytes_toList]

end Point

/-- `AESGCM(key).encrypt(nonce, data, aad)` -/
def aesgcmEncrypt (S : Sgx) (key : Block 16) (nonce : Block 12) (data aad : Bytes) : Bytes :=
  let (ciphertext, tag) := S.gcmEncrypt key nonce aad data
  ciphertext ++ tag.toList

/-- `AESGCM(key).decrypt(nonce, data, aad)` -/
def aesgcmDecrypt (S : Sgx) (key : Block 16) (nonce : Block 12) (data aad : Bytes) :
    Option Bytes :=
  if data.length < 16 then none
  else S.gcmDecrypt key nonce aad (data.rdrop 16) (Block.ofBytes 16 (data.rtake 16))

theorem rdrop_append_block {n : ℕ} (c : Bytes) (b : Block n) : (c ++ b.toList).rdrop n = c := by
  rw [List.rdrop, List.length_append, b.toList_length, Nat.add_sub_cancel]
  exact List.take_left

theorem rtake_append_block {n : ℕ} (c : Bytes) (b : Block n) :
    (c ++ b.toList).rtake n = b.toList := by
  rw [List.rtake, List.length_append, b.toList_length, Nat.add_sub_cancel]
  exact List.drop_left

/-- The package splits off the tag that was put behind the ciphertext. -/
theorem aesgcmDecrypt_append (S : Sgx) (key : Block 16) (nonce : Block 12) (c : Bytes)
    (tag : Block 16) (aad : Bytes) :
    aesgcmDecrypt S key nonce (c ++ tag.toList) aad = S.gcmDecrypt key nonce aad c tag := by
  have hlen : ¬ (c ++ tag.toList).length < 16 := by
    rw [List.length_append, tag.toList_length]
    omega
  rw [aesgcmDecrypt, if_neg hlen, rdrop_append_block, rtake_append_block, Block.ofBytes_toList]

/-! ## `crypto_lib` -/

namespace AESGCMImpl

/-- `AESGCMImpl.encrypt`: nonce, tag, ciphertext. -/
def encrypt (S : Sgx) (nonce : Block 12) (key : Block 16) (plaintext aad : Bytes) : Bytes :=
  let ctAndTag := aesgcmEncrypt S key nonce plaintext aad
  nonce.toList ++ ctAndTag.rtake 16 ++ ctAndTag.rdrop 16

/-- `AESGCMImpl.decrypt`. -/
def decrypt (S : Sgx) (key : Block 16) (ciphertext aad : Bytes) : Option Bytes :=
  if ciphertext.length < 28 then none
  else aesgcmDecrypt S key (Block.ofBytes 12 (ciphertext.take 12))
    (ciphertext.drop 28 ++ (ciphertext.drop 12).take 16) aad

/-- The parts of a ciphertext. -/
theorem encrypt_eq (S : Sgx) (nonce : Block 12) (key : Block 16) (plaintext aad : Bytes) :
    encrypt S nonce key plaintext aad =
      nonce.toList ++ (S.gcmEncrypt key nonce aad plaintext).2.toList ++
        (S.gcmEncrypt key nonce aad plaintext).1 := by
  rw [encrypt, aesgcmEncrypt]
  dsimp only
  rw [rdrop_append_block, rtake_append_block]

/-- Decryption of the parts. -/
theorem decrypt_parts (S : Sgx) (key : Block 16) (nonce : Block 12) (tag : Block 16)
    (c aad : Bytes) :
    decrypt S key (nonce.toList ++ tag.toList ++ c) aad = S.gcmDecrypt key nonce aad c tag := by
  have hlen : ¬ (nonce.toList ++ tag.toList ++ c).length < 28 := by
    rw [List.length_append, List.length_append, nonce.toList_length, tag.toList_length]
    omega
  have hhead : (nonce.toList ++ tag.toList).length = 28 := by
    rw [List.length_append, nonce.toList_length, tag.toList_length]
  have hnonce : (nonce.toList ++ tag.toList ++ c).take 12 = nonce.toList := by
    rw [List.append_assoc]
    exact List.take_left' nonce.toList_length
  have htag : ((nonce.toList ++ tag.toList ++ c).drop 12).take 16 = tag.toList := by
    rw [List.append_assoc, List.drop_left' nonce.toList_length]
    exact List.take_left' tag.toList_length
  rw [decrypt, if_neg hlen, hnonce, htag, List.drop_left' hhead, aesgcmDecrypt_append,
    Block.ofBytes_toList]

end AESGCMImpl

namespace P256HKDFKEM

/-- `P256HKDFKEM.keygen`, with the private scalar that was drawn: public and private key. -/
def keygen (P : P256) (sk : Block 32) : Option (Bytes × Bytes) :=
  (P.publicPoint sk).map fun point => (point.encode, sk.toList)

/-- `P256HKDFKEM.decap`. -/
def decap (S : Sgx) (P : P256) (sk ct : Bytes) : Option (Block 32) :=
  if sk.length ≠ 32 then none
  else if ct.length ≠ 65 ∨ ct.take 1 ≠ [4] then none
  else do
    let shared ← P.exchange (Block.ofBytes 32 sk) (Point.ofEncoded ct)
    some (S.sha256 shared.reverse.toList)

/-- Decapsulation of an encoded point. -/
theorem decap_encode (S : Sgx) (P : P256) (sk : Block 32) (p : Point) :
    decap S P sk.toList p.encode =
      (P.exchange sk p).map fun shared => S.sha256 shared.reverse.toList := by
  have hct : ¬ (p.encode.length ≠ 65 ∨ p.encode.take 1 ≠ [4]) := by
    rw [Point.length_encode]
    simp [Point.encode]
  rw [decap, if_neg (not_not_intro sk.toList_length), if_neg hct, Block.ofBytes_toList,
    Point.ofEncoded_encode]
  cases P.exchange sk p with
  | none => rfl
  | some shared => rfl

end P256HKDFKEM

/-! ## Key ciphertexts -/

/-- `sgx_le_public_key_to_x962_be`. -/
def sgxLePublicKeyToX962Be (publicKeySgxLe : Bytes) : Option Bytes :=
  if publicKeySgxLe.length ≠ 65 ∨ publicKeySgxLe.take 1 ≠ [4] then none
  else some (4 :: (((publicKeySgxLe.drop 1).take 32).reverse ++
    ((publicKeySgxLe.drop 33).take 32).reverse))

/-- The AES key of a shared secret, which is in the order of SGX. -/
def keyCiphertextKey (S : Sgx) (sharedSecret : Block 32) : Block 16 :=
  (S.sha256 (sharedSecret.toList ++ ascii "ECC-IBE-ENC")).first 16

/-- The parts of a key ciphertext, `EphemeralPK(65) || iv(12) || tag(16) || ct`. -/
def keyCiphertextOf (p : Point) (iv : Block 12) (tag : Block 16) (ct : Bytes) : Bytes :=
  p.encode ++ iv.toList ++ tag.toList ++ ct

section Parts

variable (p : Point) (iv : Block 12) (tag : Block 16) (ct : Bytes)

theorem length_keyCiphertextOf : (keyCiphertextOf p iv tag ct).length = 93 + ct.length := by
  simp only [keyCiphertextOf, List.length_append, Point.length_encode, List.Vector.toList_length]

theorem take_one_keyCiphertextOf : (keyCiphertextOf p iv tag ct).take 1 = [4] := rfl

theorem take_keyCiphertextOf : (keyCiphertextOf p iv tag ct).take 65 = p.encode := by
  rw [keyCiphertextOf, List.append_assoc, List.append_assoc]
  exact List.take_left' p.length_encode

theorem iv_keyCiphertextOf :
    Block.ofBytes 12 (((keyCiphertextOf p iv tag ct).drop 65).take 12) = iv := by
  rw [keyCiphertextOf, List.append_assoc, List.append_assoc, List.drop_left' p.length_encode,
    List.take_left' iv.toList_length, Block.ofBytes_toList]

theorem tag_keyCiphertextOf :
    Block.ofBytes 16 (((keyCiphertextOf p iv tag ct).drop 77).take 16) = tag := by
  have hlen : (p.encode ++ iv.toList).length = 77 := by
    rw [List.length_append, Point.length_encode, List.Vector.toList_length]
  rw [keyCiphertextOf, List.append_assoc, List.drop_left' hlen,
    List.take_left' tag.toList_length, Block.ofBytes_toList]

theorem drop_keyCiphertextOf : (keyCiphertextOf p iv tag ct).drop 93 = ct := by
  have hlen : (p.encode ++ iv.toList ++ tag.toList).length = 93 := by
    simp only [List.length_append, Point.length_encode, List.Vector.toList_length]
  rw [keyCiphertextOf, List.drop_left' hlen]

end Parts

/-- What `encrypt_key_ciphertext_v1` draws: an ephemeral private scalar, and an IV. -/
structure KeyDraw where
  ephemeralSk : Block 32
  iv : Block 12
  deriving DecidableEq

/-- `encrypt_key_ciphertext_v1`. -/
def encryptKeyCiphertextV1 (S : Sgx) (P : P256) (draw : KeyDraw)
    (publicKeySgxLe plaintext : Bytes) : Option Bytes :=
  if ¬ (plaintext.length = 16 ∨ plaintext.length = 32) then none
  else do
    let publicKey ← sgxLePublicKeyToX962Be publicKeySgxLe
    let shared ← P.exchange draw.ephemeralSk (Point.ofEncoded publicKey)
    let key := (S.sha256 (shared.reverse.toList ++ ascii "ECC-IBE-ENC")).first 16
    let ctAndTag := aesgcmEncrypt S key draw.iv plaintext []
    let ephemeralPk ← P.publicPoint draw.ephemeralSk
    some (ephemeralPk.encode ++ draw.iv.toList ++ ctAndTag.rtake 16 ++ ctAndTag.rdrop 16)

/-! ## The SDK -/

/-- What `encrypt_function_code` returns. -/
structure FunctionPackage where
  fid : PyStr
  cFunc : Bytes
  l : PyStr
  kFunc : Block 16
  funcMeasurement : PyStr
  deriving DecidableEq

/-- What `prepare_invocation` returns. -/
structure Invocation where
  fid : PyStr
  cReq : Bytes
  cKey : Bytes
  pkU : Bytes
  skU : Bytes
  nonce : PyStr
  rid : PyStr
  deriving DecidableEq

/-- What `encrypt_function_code` draws: `k_func`, and the nonce of the package. -/
structure FunctionDraw where
  kFunc : Block 16
  iv : Block 12
  deriving DecidableEq

/-- What `prepare_invocation` draws: `k_req`, the private key of the user, the nonce of the
request, and the nonce of the cipher. -/
structure InvocationDraw where
  kReq : Block 16
  skU : Block 32
  nonce : Block 16
  iv : Block 12
  deriving DecidableEq

namespace ClientSDK

/-- `compute_fid`. -/
def computeFid (S : Sgx) (tenantId actionName version : PyStr) (codeWasm : Bytes) :
    Option PyStr := do
  let funcMeasurement := S.sha256 codeWasm
  let tenantBytes ← tenantId.encode
  let actionBytes ← actionName.encode
  let versionBytes ← version.encode
  let rawData := tenantBytes ++ actionBytes ++ versionBytes ++ funcMeasurement.toList
  some (PyStr.hex (S.sha256 rawData).toList)

/-- `encrypt_function_code`. -/
def encryptFunctionCode (S : Sgx) (draw : FunctionDraw) (tenantId actionName version : PyStr)
    (codeWasm : Bytes) : Option FunctionPackage := do
  let fid ← computeFid S tenantId actionName version codeWasm
  let aadPkg ← buildAadPkg fid
  let cFunc := AESGCMImpl.encrypt S draw.iv draw.kFunc codeWasm aadPkg
  some
    { fid := fid
      cFunc := cFunc
      l := PyStr.hex (S.sha256 cFunc).toList
      kFunc := draw.kFunc
      funcMeasurement := PyStr.hex (S.sha256 codeWasm).toList }

/-- `prepare_invocation`; `ibeEncrypt` is `self.ibe.encrypt`, given the public key, the identity
and the message. -/
def prepareInvocation (S : Sgx) (P : P256) (ibeEncrypt : Bytes → PyStr → Bytes → Option Bytes)
    (draw : InvocationDraw) (fid : PyStr) (inputData pkFid : Bytes) : Option Invocation := do
  let (pkU, skU) ← P256HKDFKEM.keygen P draw.skU
  let nonce := PyStr.hex draw.nonce.toList
  let aadReq ← buildAadReq S fid nonce pkU
  let cReq := AESGCMImpl.encrypt S draw.iv draw.kReq inputData aadReq
  let cKey ← ibeEncrypt pkFid fid draw.kReq.toList
  let rid ← computeRid S fid cReq
  some
    { fid := fid
      cReq := cReq
      cKey := cKey
      pkU := pkU
      skU := skU
      nonce := nonce
      rid := rid }

/-- `decrypt_result`. -/
def decryptResult (S : Sgx) (P : P256) (ct cOut skU : Bytes) (fid rid : PyStr) (pkU : Bytes) :
    Option Bytes := do
  let kU ← P256HKDFKEM.decap S P skU ct
  let aadOut ← buildAadOut S fid rid pkU
  AESGCMImpl.decrypt S (kU.first 16) cOut aadOut

end ClientSDK
end Client
end AsynCS
