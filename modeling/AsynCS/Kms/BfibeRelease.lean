import AsynCS.Kms.Enclave

/-!
# The BF-IBE key release of the KMS enclave

`ecall_get_bfibe_key_release` extracts two identity keys (`fid:<fid>` for requests,
`label:<label>` for functions), packs them into an `ASBFSKS1` set, encrypts the set to the
worker's attested public key, and packs the result into an `ASBFREL1` envelope.

* `makePrefixedIdentity`, `buildWorkerIdentity`, `buildBfibePrivateKeySet`,
  `buildBfibeKeyReleaseAad`, `buildBfibeKeyRelease`: the builders, each with the capacity of
  the buffer it writes to, and a lemma that says when it succeeds and what it writes.
* `bfibeKeyRelease`, `ecallGetBfibeKeyRelease`: the release.
* `bfibeKeyRelease_gate`: what a release has checked.
* `bfibeKeyRelease_eq`: what a release computes when the platform and the BF-IBE library
  succeed.  Of the fixed buffers only the 256 bytes of the associated data can be too small:
  the release exists exactly when the FID has at most 54 bytes.

A release that fails after the checks leaves 0 in `actual_release_size`; what a failing
builder has already written to `release_out` is not modelled.
-/

namespace AsynCS
namespace Kms

/-- `BFIBE_MSK_DOMAIN` -/
def bfibeMskDomain : Bytes := ascii "ASYNCS/BFIBE/MSK/v1"

/-- The platform during a BF-IBE release. -/
structure ReleaseEnv where
  bindingHash : Bool
  deriveMsk : Bool
  extractRequest : Bool
  extractFunction : Bool
  openContext : Bool
  keyPair : Option (Block 32 × Block 64)
  nonce : Option (Block 12)
  encrypt : Bool
  deriving DecidableEq

/-! ## Builders -/

/-- `derive_bfibe_msk`, into the 64 bytes of its callers. -/
def deriveBfibeMsk (B : Bfibe) (ok : Bool) (k : Globals) : Option Bytes :=
  if !k.mskInitialized then none
  else B.deriveMasterSecretInto ok 64 (bfibeMskDomain ++ k.msk.toList)

/-- `make_prefixed_identity`: `snprintf(out, out_capacity, "%s%s", prefix, value)`, refused
when nothing was written or the text was cut. -/
def makePrefixedIdentity (pre value : CStr) (capacity : ℕ) : Option CStr :=
  let written := (pre.cat value).strlen
  if written = 0 ∨ capacity ≤ written then none else some (pre.cat value)

/-- `build_worker_identity`: the verified MRENCLAVE in hexadecimal. -/
def buildWorkerIdentity (k : Globals) (capacity : ℕ) : Option CStr :=
  makePrefixedIdentity (CStr.lit "mrenclave:") (CStr.hex k.verifiedMrenclave.toList) capacity

/-- `build_bfibe_private_key_set`. -/
def buildBfibePrivateKeySet (requestIdentity : CStr) (requestSk : Bytes)
    (functionIdentity : CStr) (functionSk : Bytes) (capacity : ℕ) : Option Bytes :=
  writeParts capacity
    [bfibePrivateKeySetMagic, [1], u32be bfibeProfileId.length, u32be 2, bfibeProfileId,
      u32be requestPurpose.length, u32be requestIdentity.strlen, u32be requestSk.length,
      requestPurpose, requestIdentity.bytes, requestSk,
      u32be functionPurpose.length, u32be functionIdentity.strlen, u32be functionSk.length,
      functionPurpose, functionIdentity.bytes, functionSk] []

/-- `build_bfibe_key_release_aad`. -/
def buildBfibeKeyReleaseAad (fid workerIdentity : CStr) (wrapPublicKey : Bytes)
    (capacity : ℕ) : Option Bytes :=
  writeParts capacity
    [bfibeAadMagic, u32be bfibeProfileId.length, bfibeProfileId, u32be fid.strlen, fid.bytes,
      u32be workerIdentity.strlen, workerIdentity.bytes, u32be wrapPublicKey.length,
      wrapPublicKey] []

/-- `build_bfibe_key_release`. -/
def buildBfibeKeyRelease (fid workerIdentity : CStr) (wrapPublicKey nonce ciphertext : Bytes)
    (capacity : ℕ) : Option Bytes :=
  writeParts capacity
    [bfibeKeyReleaseMagic, [1], u32be bfibeProfileId.length, u32be fid.strlen,
      u32be workerIdentity.strlen, u32be wrapPublicKey.length, u32be nonce.length,
      u32be ciphertext.length, bfibeProfileId, fid.bytes, workerIdentity.bytes, wrapPublicKey,
      nonce, ciphertext] []

/-! ## The release -/

/-- `ecall_get_bfibe_key_release` after its test of the pointers, with a `release_out` of
`capacity` bytes.  The two extractions are both made before either result is looked at. -/
def bfibeKeyRelease (S : Sgx) (B : Bfibe) (env : ReleaseEnv) (k : Globals) (fid label : CStr)
    (publicKey : Block 64) (capacity : ℕ) : Option Bytes :=
  if !k.verifyRaForFid fid then none
  else if !verifyReportDataBinding S env.bindingHash k publicKey then none
  else if !k.registry.isLabelBoundToFid fid label then none
  else do
    let bfMsk ← deriveBfibeMsk B env.deriveMsk k
    let requestIdentity ← makePrefixedIdentity (CStr.lit "fid:") fid (128 + 5)
    let functionIdentity ← makePrefixedIdentity (CStr.lit "label:") label (65 + 7)
    let workerIdentity ← buildWorkerIdentity k 80
    let requestSk ← B.extractInto env.extractRequest 256 bfMsk requestIdentity.bytes
    let functionSk ← B.extractInto env.extractFunction 256 bfMsk functionIdentity.bytes
    if requestSk.length = 0 ∨ functionSk.length = 0 then none
    else
      let privateKeySet ←
        buildBfibePrivateKeySet requestIdentity requestSk functionIdentity functionSk 2048
      if !env.openContext then none
      else
        let (kmsPriv, kmsPub) ← env.keyPair
        let sharedSecret ← S.computeSharedDhkey kmsPriv publicKey
        let nonce ← env.nonce
        let aad ← buildBfibeKeyReleaseAad fid workerIdentity kmsPub.toList 256
        if !env.encrypt then none
        else
          let (ciphertext, tag) := S.gcmEncrypt (sharedSecret.first 16) nonce aad privateKeySet
          buildBfibeKeyRelease fid workerIdentity kmsPub.toList nonce.toList
            (ciphertext ++ tag.toList) capacity

/-- The arguments of `ecall_get_bfibe_key_release`; `none` is a NULL pointer, and the output
buffer is known by its capacity. -/
structure ReleaseArgs where
  fid : Option CStr
  label : Option CStr
  publicKey : Option (Block 64)
  releaseOut : Option ℕ
  actualReleaseSize : Bool
  deriving DecidableEq

/-- `ecall_get_bfibe_key_release`. -/
def ecallGetBfibeKeyRelease (S : Sgx) (B : Bfibe) (env : ReleaseEnv) (k : Globals)
    (args : ReleaseArgs) : Option Bytes :=
  match args.fid, args.label, args.publicKey, args.releaseOut, args.actualReleaseSize with
  | some fid, some label, some publicKey, some capacity, true =>
    bfibeKeyRelease S B env k fid label publicKey capacity
  | _, _, _, _, _ => none

/-- `ecall_get_bfibe_public_params`, into `mpk_capacity` bytes. -/
def ecallGetBfibePublicParams (B : Bfibe) (ok : Bool) (k : Globals) (capacity : ℕ) :
    Option Bytes :=
  if capacity = 0 then none
  else do
    let bfMsk ← deriveBfibeMsk B ok k
    (B.publicFromMsk bfMsk).filter fun mpk => mpk.length ≤ capacity

/-- `ecall_bfibe_extract_test`: whether the two fixed identities get two different keys. -/
def ecallBfibeExtractTest (B : Bfibe) (ok : Bool) (k : Globals) : Bool :=
  match deriveBfibeMsk B ok k with
  | none => false
  | some bfMsk =>
    match B.extractInto ok 256 bfMsk (ascii "request-key:fid:test"),
      B.extractInto ok 256 bfMsk (ascii "function-key:label:test") with
    | some requestSk, some functionSk =>
      !(requestSk.length == 0 || functionSk.length == 0 || requestSk == functionSk)
    | _, _ => false

/-! ## What a release has checked -/

/-- **A BF-IBE release** has passed the policy check, the report-data check and the label
check for its FID. -/
theorem bfibeKeyRelease_gate {S : Sgx} {B : Bfibe} {env : ReleaseEnv} {k : Globals}
    {fid label : CStr} {publicKey : Block 64} {capacity : ℕ} {release : Bytes}
    (h : bfibeKeyRelease S B env k fid label publicKey capacity = some release) :
    k.verifyRaForFid fid = true ∧
      verifyReportDataBinding S env.bindingHash k publicKey = true ∧
      k.registry.isLabelBoundToFid fid label = true := by
  unfold bfibeKeyRelease at h
  split at h
  · exact absurd h (by simp)
  · rename_i hra
    split at h
    · exact absurd h (by simp)
    · rename_i hrd
      split at h
      · exact absurd h (by simp)
      · rename_i hb
        exact ⟨by simpa using hra, by simpa using hrd, by simpa using hb⟩

theorem ecallGetBfibeKeyRelease_some {S : Sgx} {B : Bfibe} {env : ReleaseEnv} {k : Globals}
    {args : ReleaseArgs} {release : Bytes}
    (h : ecallGetBfibeKeyRelease S B env k args = some release) :
    ∃ fid label publicKey capacity, args.fid = some fid ∧ args.label = some label ∧
      args.publicKey = some publicKey ∧
      bfibeKeyRelease S B env k fid label publicKey capacity = some release := by
  unfold ecallGetBfibeKeyRelease at h
  split at h
  · rename_i fid label publicKey capacity hf hl hp ho ha
    exact ⟨fid, label, publicKey, capacity, hf, hl, hp, h⟩
  · exact absurd h (by simp)

/-! ## What a release computes -/

theorem makePrefixedIdentity_eq {pre value : CStr} {capacity : ℕ} (hpre : 0 < pre.strlen)
    (h : pre.strlen + value.strlen < capacity) :
    makePrefixedIdentity pre value capacity = some (pre.cat value) := by
  have hlen := CStr.strlen_cat pre value
  rw [makePrefixedIdentity, if_neg (by omega)]

/-- The identity under which a worker's key is extracted. -/
def requestIdentityOf (fid : CStr) : CStr := (CStr.lit "fid:").cat fid

/-- The identity under which a function's key is extracted. -/
def functionIdentityOf (label : CStr) : CStr := (CStr.lit "label:").cat label

/-- The worker identity of a verified MRENCLAVE. -/
def workerIdentityOf (mrenclave : Block 32) : CStr :=
  (CStr.lit "mrenclave:").cat (CStr.hex mrenclave.toList)

@[simp] theorem strlen_requestIdentityOf (fid : CStr) :
    (requestIdentityOf fid).strlen = 4 + fid.strlen :=
  CStr.strlen_cat _ _

@[simp] theorem strlen_functionIdentityOf (label : CStr) :
    (functionIdentityOf label).strlen = 6 + label.strlen :=
  CStr.strlen_cat _ _

@[simp] theorem strlen_workerIdentityOf (m : Block 32) : (workerIdentityOf m).strlen = 74 := by
  rw [workerIdentityOf, CStr.strlen_cat, CStr.strlen_hex, List.Vector.toList_length]
  rfl

theorem buildWorkerIdentity_eq (k : Globals) :
    buildWorkerIdentity k 80 = some (workerIdentityOf k.verifiedMrenclave) := by
  refine makePrefixedIdentity_eq (by decide) ?_
  rw [CStr.strlen_hex, List.Vector.toList_length]
  decide

/-- The two records of a private-key set. -/
def releaseRecords (requestIdentity : CStr) (requestSk : Bytes) (functionIdentity : CStr)
    (functionSk : Bytes) : List KeyRecord :=
  [⟨requestPurpose, requestIdentity.bytes, requestSk⟩,
    ⟨functionPurpose, functionIdentity.bytes, functionSk⟩]

theorem buildBfibePrivateKeySet_eq_some_iff {requestIdentity functionIdentity : CStr}
    {requestSk functionSk : Bytes} {capacity : ℕ} {r : Bytes} :
    buildBfibePrivateKeySet requestIdentity requestSk functionIdentity functionSk capacity =
        some r ↔
      r.length ≤ capacity ∧
        r = encodeKeySet bfibeProfileId
          (releaseRecords requestIdentity requestSk functionIdentity functionSk) := by
  rw [buildBfibePrivateKeySet, writeParts_nil_eq_some_iff]
  simp only [encodeKeySet, releaseRecords, encodeKeyRecord, List.flatMap_cons,
    List.flatMap_nil, List.flatten_cons, List.flatten_nil, List.append_assoc,
    List.append_nil, List.length_cons, List.length_nil, CStr.strlen]

theorem buildBfibeKeyReleaseAad_eq_some_iff {fid workerIdentity : CStr} {wrapPublicKey : Bytes}
    {capacity : ℕ} {r : Bytes} :
    buildBfibeKeyReleaseAad fid workerIdentity wrapPublicKey capacity = some r ↔
      r.length ≤ capacity ∧
        r = keyReleaseAad bfibeProfileId fid.bytes workerIdentity.bytes wrapPublicKey := by
  rw [buildBfibeKeyReleaseAad, writeParts_nil_eq_some_iff]
  simp only [keyReleaseAad, aadPart, List.flatten_cons, List.flatten_nil, List.append_assoc,
    List.append_nil, CStr.strlen]

theorem buildBfibeKeyRelease_eq_some_iff {fid workerIdentity : CStr}
    {wrapPublicKey nonce ciphertext : Bytes} {capacity : ℕ} {r : Bytes} :
    buildBfibeKeyRelease fid workerIdentity wrapPublicKey nonce ciphertext capacity = some r ↔
      r.length ≤ capacity ∧
        r = encodeKeyRelease ⟨bfibeProfileId, fid.bytes, workerIdentity.bytes, wrapPublicKey,
          nonce, ciphertext⟩ := by
  rw [buildBfibeKeyRelease, writeParts_nil_eq_some_iff]
  simp only [encodeKeyRelease, List.flatten_cons, List.flatten_nil, List.append_assoc,
    List.append_nil, CStr.strlen]

/-! ## When the primitives succeed -/

/-- What the platform and the BF-IBE library return during a release. -/
structure ReleaseMaterial where
  bfMsk : Bytes
  requestSk : Bytes
  functionSk : Bytes
  kmsPriv : Block 32
  kmsPub : Block 64
  sharedSecret : Block 32
  nonce : Block 12

/-- The primitives succeed during a release, with the given results: serialized keys of 1 to
256 bytes, and an ephemeral key pair that is one. -/
structure ReleaseSucceeds (S : Sgx) (B : Bfibe) (env : ReleaseEnv) (k : Globals)
    (fid label : CStr) (publicKey : Block 64) (m : ReleaseMaterial) : Prop where
  deriveMsk : env.deriveMsk = true
  extractRequest : env.extractRequest = true
  extractFunction : env.extractFunction = true
  openContext : env.openContext = true
  encrypt : env.encrypt = true
  keyPair : env.keyPair = some (m.kmsPriv, m.kmsPub)
  keyPairValid : S.calculatePubFromPriv m.kmsPriv = some m.kmsPub
  sharedSecret : S.computeSharedDhkey m.kmsPriv publicKey = some m.sharedSecret
  nonce : env.nonce = some m.nonce
  master : B.deriveMasterSecret (bfibeMskDomain ++ k.msk.toList) = some m.bfMsk
  masterFits : m.bfMsk.length ≤ 64
  request : B.extract m.bfMsk (requestIdentityOf fid).bytes = some m.requestSk
  requestLength : 1 ≤ m.requestSk.length ∧ m.requestSk.length ≤ 256
  function : B.extract m.bfMsk (functionIdentityOf label).bytes = some m.functionSk
  functionLength : 1 ≤ m.functionSk.length ∧ m.functionSk.length ≤ 256

/-- The private-key set of a release. -/
def releasedKeySet (fid label : CStr) (m : ReleaseMaterial) : Bytes :=
  encodeKeySet bfibeProfileId
    (releaseRecords (requestIdentityOf fid) m.requestSk (functionIdentityOf label) m.functionSk)

theorem releasedKeySet_eq (fid label : CStr) (m : ReleaseMaterial) :
    releasedKeySet fid label m = encodeKeySet bfibeProfileId
      [requestRecord fid.bytes m.requestSk, functionRecord label.bytes m.functionSk] := rfl

/-- The associated data of a release. -/
def releasedAad (k : Globals) (fid : CStr) (m : ReleaseMaterial) : Bytes :=
  keyReleaseAad bfibeProfileId fid.bytes (workerIdentityOf k.verifiedMrenclave).bytes
    m.kmsPub.toList

/-- The fields of the envelope that a release sends. -/
def releasedParts (S : Sgx) (k : Globals) (fid label : CStr) (m : ReleaseMaterial) :
    ReleaseParts :=
  let sealed := S.gcmEncrypt (m.sharedSecret.first 16) m.nonce (releasedAad k fid m)
    (releasedKeySet fid label m)
  ⟨bfibeProfileId, fid.bytes, (workerIdentityOf k.verifiedMrenclave).bytes, m.kmsPub.toList,
    m.nonce.toList, sealed.1 ++ sealed.2.toList⟩

theorem length_releasedKeySet (fid label : CStr) (m : ReleaseMaterial) :
    (releasedKeySet fid label m).length =
      92 + fid.strlen + label.strlen + m.requestSk.length + m.functionSk.length := by
  rw [releasedKeySet, length_encodeKeySet]
  simp only [releaseRecords, List.flatMap_cons, List.flatMap_nil, List.append_nil,
    List.length_append, length_encodeKeyRecord, length_requestPurpose, length_functionPurpose]
  have hf := strlen_requestIdentityOf fid
  have hl := strlen_functionIdentityOf label
  unfold CStr.strlen at *
  omega

theorem length_releasedAad (k : Globals) (fid : CStr) (m : ReleaseMaterial) :
    (releasedAad k fid m).length = 202 + fid.strlen := by
  have hw := strlen_workerIdentityOf k.verifiedMrenclave
  rw [releasedAad, length_keyReleaseAad m.kmsPub.toList_length]
  unfold CStr.strlen at *
  omega

theorem length_releasedParts {S : Sgx} (hgcm : S.GcmLaws) (k : Globals) (fid label : CStr)
    (m : ReleaseMaterial) :
    (encodeKeyRelease (releasedParts S k fid label m)).length =
      309 + 2 * fid.strlen + label.strlen + m.requestSk.length + m.functionSk.length := by
  have hw := strlen_workerIdentityOf k.verifiedMrenclave
  have hset := length_releasedKeySet fid label m
  simp only [encodeKeyRelease, releasedParts, List.length_append, length_u32be,
    length_bfibeKeyReleaseMagic, length_bfibeProfileId, hgcm.length_encrypt,
    List.Vector.toList_length, List.length_cons, List.length_nil]
  unfold CStr.strlen at *
  omega

/-- An enclave without a master key releases nothing. -/
theorem bfibeKeyRelease_uninitialized {S : Sgx} {B : Bfibe} {env : ReleaseEnv} {k : Globals}
    (h : k.mskInitialized = false) (fid label : CStr) (publicKey : Block 64) (capacity : ℕ) :
    bfibeKeyRelease S B env k fid label publicKey capacity = none := by
  have hmsk : deriveBfibeMsk B env.deriveMsk k = none := by simp [deriveBfibeMsk, h]
  unfold bfibeKeyRelease
  rw [hmsk]
  simp

/-- **What a release computes** when its checks hold and its primitives succeed: into 4096
bytes every part fits except the associated data, which takes 202 bytes besides the FID and
has 256. -/
theorem bfibeKeyRelease_eq {S : Sgx} (hgcm : S.GcmLaws) {B : Bfibe} {env : ReleaseEnv}
    {k : Globals} {fid label : CStr} {publicKey : Block 64} {m : ReleaseMaterial}
    (hra : k.verifyRaForFid fid = true)
    (hrd : verifyReportDataBinding S env.bindingHash k publicKey = true)
    (hb : k.registry.isLabelBoundToFid fid label = true) (hmsk : k.mskInitialized = true)
    (hfid : fid.strlen ≤ 127) (hlabel : label.strlen ≤ 64)
    (hs : ReleaseSucceeds S B env k fid label publicKey m) :
    bfibeKeyRelease S B env k fid label publicKey 4096 =
      if fid.strlen ≤ 54 then some (encodeKeyRelease (releasedParts S k fid label m))
      else none := by
  have hmaster : deriveBfibeMsk B env.deriveMsk k = some m.bfMsk := by
    simp [deriveBfibeMsk, hmsk, Bfibe.deriveMasterSecretInto, hs.deriveMsk, hs.master,
      Option.filter_some, hs.masterFits]
  have hrequestId : makePrefixedIdentity (CStr.lit "fid:") fid (128 + 5) =
      some (requestIdentityOf fid) :=
    makePrefixedIdentity_eq (by decide) (by
      rw [show (CStr.lit "fid:").strlen = 4 from rfl]
      omega)
  have hfunctionId : makePrefixedIdentity (CStr.lit "label:") label (65 + 7) =
      some (functionIdentityOf label) :=
    makePrefixedIdentity_eq (by decide) (by
      rw [show (CStr.lit "label:").strlen = 6 from rfl]
      omega)
  have hrequest : B.extractInto env.extractRequest 256 m.bfMsk (requestIdentityOf fid).bytes =
      some m.requestSk := by
    simp [Bfibe.extractInto, hs.extractRequest, hs.request, Option.filter_some,
      hs.requestLength.2]
  have hfunction : B.extractInto env.extractFunction 256 m.bfMsk
      (functionIdentityOf label).bytes = some m.functionSk := by
    simp [Bfibe.extractInto, hs.extractFunction, hs.function, Option.filter_some,
      hs.functionLength.2]
  have hnonempty : ¬ (m.requestSk.length = 0 ∨ m.functionSk.length = 0) := by
    have := hs.requestLength
    have := hs.functionLength
    omega
  have hset : buildBfibePrivateKeySet (requestIdentityOf fid) m.requestSk
      (functionIdentityOf label) m.functionSk 2048 = some (releasedKeySet fid label m) := by
    refine buildBfibePrivateKeySet_eq_some_iff.mpr ⟨?_, rfl⟩
    have hlen := length_releasedKeySet fid label m
    have := hs.requestLength
    have := hs.functionLength
    omega
  have haad : buildBfibeKeyReleaseAad fid (workerIdentityOf k.verifiedMrenclave)
      m.kmsPub.toList 256 = if fid.strlen ≤ 54 then some (releasedAad k fid m) else none := by
    have hlen := length_releasedAad k fid m
    split
    · rename_i hshort
      exact buildBfibeKeyReleaseAad_eq_some_iff.mpr ⟨by omega, rfl⟩
    · rename_i hlong
      refine Option.eq_none_iff_forall_ne_some.mpr fun r hr => ?_
      obtain ⟨hfit, rfl⟩ := buildBfibeKeyReleaseAad_eq_some_iff.mp hr
      change (releasedAad k fid m).length ≤ 256 at hfit
      omega
  unfold bfibeKeyRelease
  simp only [hra, hrd, hb, hmaster, hrequestId, hfunctionId, buildWorkerIdentity_eq, hrequest,
    hfunction, hnonempty, hset, hs.openContext, hs.keyPair, hs.sharedSecret, hs.nonce, haad,
    hs.encrypt, Bool.not_true, Bool.false_eq_true, if_false, Option.bind_eq_bind,
    Option.bind_some]
  split
  · rename_i hshort
    rw [Option.bind_some]
    refine buildBfibeKeyRelease_eq_some_iff.mpr ⟨?_, rfl⟩
    have hlen := length_releasedParts hgcm k fid label m
    have := hs.requestLength
    have := hs.functionLength
    change (encodeKeyRelease (releasedParts S k fid label m)).length ≤ 4096
    omega
  · rfl

end Kms
end AsynCS
