import AsynCS.Kms.Machine
import AsynCS.Worker.BfibeLoad

/-!
# A BF-IBE key release, from the KMS to the worker

The KMS enclave writes a release, the host carries its bytes, and the worker enclave loads
them with the private key that matches the public key of the release.

* `openRelease_released`: the worker opens what the KMS wrote.
* `release_reaches_worker_iff`: with every check of the KMS holding and every primitive
  succeeding, the keys arrive exactly when the master key is there and the FID has at most
  54 bytes.  A worker identity of 74 bytes leaves no more of the 256 bytes that both enclaves
  give the associated data, so an FID of 64 hexadecimal digits is always refused.
-/

namespace AsynCS

open Kms Worker

variable {S : Sgx} {B : Bfibe}

/-- The worker's associated data is the KMS's. -/
theorem worker_aad_released {k : Kms.Globals} {fid label : CStr} {m : ReleaseMaterial}
    (hshort : fid.strlen ≤ 54) :
    Worker.buildBfibeKeyReleaseAad (releasedParts S k fid label m) 256 =
      some (releasedAad k fid m) := by
  have hlen := length_releasedAad k fid m
  refine writeParts_nil_eq_some_iff.mpr ⟨by omega, ?_⟩
  simp only [releasedAad, keyReleaseAad, aadPart, releasedParts, List.flatten_cons,
    List.flatten_nil, List.append_assoc, List.append_nil]

/-- The fields of a release are accepted by the worker's parser. -/
theorem acceptedParts_released (hgcm : S.GcmLaws) (k : Kms.Globals) (fid label : CStr)
    (m : ReleaseMaterial) : AcceptedParts (releasedParts S k fid label m) where
  profile := rfl
  wrapPublicKey := m.kmsPub.toList_length
  nonce := m.nonce.toList_length
  ciphertext := by
    have hset := length_releasedKeySet fid label m
    simp only [releasedParts, List.length_append, hgcm.length_encrypt, List.Vector.toList_length]
    omega

/-- **The worker opens what the KMS wrote**: it finds the key set of the release. -/
theorem openRelease_released (hgcm : S.GcmLaws) (hecdh : S.EcdhCommutes) {env : ReleaseEnv}
    {k : Kms.Globals} {g : Worker.Globals} {fid label : CStr} {publicKey : Block 64}
    {m : ReleaseMaterial} (hshort : fid.strlen ≤ 54) (hlabel : label.strlen ≤ 64)
    (hready : g.keypairReady = true)
    (hkey : S.calculatePubFromPriv g.privateKey = some publicKey)
    (hs : ReleaseSucceeds S B env k fid label publicKey m) :
    openRelease S ⟨true, true, true⟩ g (encodeKeyRelease (releasedParts S k fid label m))
      (some fid) = .ok (fid, releasedKeySet fid label m) := by
  have hsecret : S.computeSharedDhkey g.privateKey m.kmsPub = some m.sharedSecret := by
    rw [← hecdh m.kmsPriv g.privateKey m.kmsPub publicKey hs.keyPairValid hkey]
    exact hs.sharedSecret
  have hset := length_releasedKeySet fid label m
  have hreq := hs.requestLength
  have hfun := hs.functionLength
  have hct : (releasedParts S k fid label m).ciphertext.length =
      (releasedKeySet fid label m).length + 16 := by
    simp only [releasedParts, List.length_append, hgcm.length_encrypt, List.Vector.toList_length]
  have hparse : parseBfibeKeyRelease (encodeKeyRelease (releasedParts S k fid label m)) =
      some (releasedParts S k fid label m) := by
    refine parseBfibeKeyRelease_encode (acceptedParts_released hgcm k fid label m) ?_ ?_ ?_
    · show fid.strlen < 2 ^ 32
      omega
    · have hw := strlen_workerIdentityOf k.verifiedMrenclave
      show (workerIdentityOf k.verifiedMrenclave).strlen < 2 ^ 32
      omega
    · omega
  have htake : (releasedParts S k fid label m).ciphertext.take
      ((releasedParts S k fid label m).ciphertext.length - 16) =
      (S.gcmEncrypt (m.sharedSecret.first 16) m.nonce (releasedAad k fid m)
        (releasedKeySet fid label m)).1 := by
    rw [hct, Nat.add_sub_cancel, ← hgcm.length_encrypt (m.sharedSecret.first 16) m.nonce
      (releasedAad k fid m)]
    exact List.take_left
  have hdrop : (releasedParts S k fid label m).ciphertext.drop
      ((releasedParts S k fid label m).ciphertext.length - 16) =
      (S.gcmEncrypt (m.sharedSecret.first 16) m.nonce (releasedAad k fid m)
        (releasedKeySet fid label m)).2.toList := by
    rw [hct, Nat.add_sub_cancel, ← hgcm.length_encrypt (m.sharedSecret.first 16) m.nonce
      (releasedAad k fid m)]
    exact List.drop_left
  have hpub : Block.ofBytes 64 (releasedParts S k fid label m).wrapPublicKey = m.kmsPub :=
    Block.ofBytes_toList m.kmsPub
  have hnonce : Block.ofBytes 12 (releasedParts S k fid label m).nonce = m.nonce :=
    Block.ofBytes_toList m.nonce
  have hfidEq : (releasedParts S k fid label m).fid = fid.bytes := rfl
  simp only [openRelease, hready, hparse, hfidEq, worker_aad_released hshort, hpub, hsecret,
    htake, hdrop, hnonce, Block.ofBytes_toList, hgcm.decrypt_encrypt, ne_eq, not_true_eq_false,
    Bool.not_true, Bool.false_eq_true, if_false, if_true]

/-- **Exactly when a release arrives.**  Let the policy check, the report-data check and the
label check hold, let the worker have the private key of the public key, and let every
primitive succeed.  Then the KMS returns 0 into 4096 bytes, the worker returns 0 on those
bytes, and its slots hold the keys extracted for `fid:<fid>` and `label:<label>`, if and only
if the KMS has its master key and the FID has at most 54 bytes. -/
theorem release_reaches_worker_iff (hgcm : S.GcmLaws) (hecdh : S.EcdhCommutes)
    {env : ReleaseEnv} {k : Kms.Globals} {g : Worker.Globals} {fid label : CStr}
    {publicKey : Block 64} {m : ReleaseMaterial} (hfid : 1 ≤ fid.strlen ∧ fid.strlen ≤ 127)
    (hlabel : 1 ≤ label.strlen ∧ label.strlen ≤ 64) (hready : g.keypairReady = true)
    (hkey : S.calculatePubFromPriv g.privateKey = some publicKey)
    (hra : k.verifyRaForFid fid = true)
    (hrd : verifyReportDataBinding S env.bindingHash k publicKey = true)
    (hb : k.registry.isLabelBoundToFid fid label = true)
    (hs : ReleaseSucceeds S B env k fid label publicKey m) :
    (∃ release,
      ecallGetBfibeKeyRelease S B env k ⟨some fid, some label, some publicKey, some 4096, true⟩ =
        some release ∧
      (ecallLoadBfibeKeyRelease S ⟨true, true, true⟩ release (some fid) g).value = some () ∧
      (ecallLoadBfibeKeyRelease S ⟨true, true, true⟩ release (some fid) g).state.bfibe.keys =
        importedKeys m.requestSk m.functionSk hs.requestLength.2 hs.functionLength.2) ↔
      k.mskInitialized = true ∧ fid.strlen ≤ 54 := by
  constructor
  · rintro ⟨release, hrelease, -⟩
    change bfibeKeyRelease S B env k fid label publicKey 4096 = some release at hrelease
    cases hmsk : k.mskInitialized with
    | false =>
      rw [bfibeKeyRelease_uninitialized hmsk] at hrelease
      exact absurd hrelease (by simp)
    | true =>
      rw [bfibeKeyRelease_eq hgcm hra hrd hb hmsk hfid.2 hlabel.2 hs] at hrelease
      by_contra hlong
      rw [if_neg (by simpa using hlong)] at hrelease
      exact absurd hrelease (by simp)
  · rintro ⟨hmsk, hshort⟩
    have hopen := openRelease_released hgcm hecdh hshort hlabel.2 hready hkey hs
    have himport : parseBfibePrivateKeySet (releasedKeySet fid label m) fid g.bfibe.keys =
        (importedKeys m.requestSk m.functionSk hs.requestLength.2 hs.functionLength.2, true) := by
      rw [releasedKeySet_eq]
      exact parseBfibePrivateKeySet_encode hfid.2 (lt_of_le_of_lt hlabel.2 (by decide))
        hs.requestLength hs.functionLength _
    obtain ⟨hvalue, hstate⟩ := ecallLoadBfibeKeyRelease_of_import hopen himport
    refine ⟨encodeKeyRelease (releasedParts S k fid label m), ?_, hvalue, ?_⟩
    · show bfibeKeyRelease S B env k fid label publicKey 4096 = _
      rw [bfibeKeyRelease_eq hgcm hra hrd hb hmsk hfid.2 hlabel.2 hs, if_pos hshort]
    · rw [hstate, Worker.Globals.storeBfibeFid_bfibe, Worker.Globals.setBfibeKeys_bfibe]

/-- A worker with its key pair. -/
def sampleWorker : Worker.Globals :=
  { Worker.Globals.initial with privateKey := Block.fill 32 5, keypairReady := true }

/-- The public key of `sampleWorker`. -/
def samplePublicKey : Block 64 := Block.ofBytes 64 (Block.fill 32 5).toList

/-- The KMS with the label `"L"` bound to the FID and a quote of `sampleWorker` verified
for it. -/
def attestedKms (fid : CStr) : Kms.Globals :=
  (runOn (kmsStep Sgx.sample Bfibe.sample) [] Kms.Globals.initial
    [.initKms none (Block.fill 32 1), .bindLabelToFid fid (CStr.lit "L"),
      .verifyQuoteForFid (some fid) (some (List.replicate 432 0))]).2

/-- Nothing fails, and the ephemeral private key of the KMS is 32 bytes of 7. -/
def sampleReleaseEnv : ReleaseEnv where
  bindingHash := true
  deriveMsk := true
  extractRequest := true
  extractFunction := true
  openContext := true
  keyPair := some (Block.fill 32 7, Block.ofBytes 64 (Block.fill 32 7).toList)
  nonce := some (Block.fill 12 9)
  encrypt := true

/-- What the sample primitives return for an FID and the label `"L"`. -/
def sampleMaterial (fid : CStr) : ReleaseMaterial where
  bfMsk := (bfibeMskDomain ++ (Block.fill 32 1).toList).take 32
  requestSk := ((requestIdentityOf fid).bytes ++
    (bfibeMskDomain ++ (Block.fill 32 1).toList).take 32).take 256
  functionSk := ascii "label:L" ++ (bfibeMskDomain ++ (Block.fill 32 1).toList).take 32
  kmsPriv := Block.fill 32 7
  kmsPub := Block.ofBytes 64 (Block.fill 32 7).toList
  sharedSecret := Block.fill 32 12
  nonce := Block.fill 12 9

theorem sampleMaterial_succeeds {k : Kms.Globals} (hmsk : k.msk = Block.fill 32 1) (fid : CStr) :
    ReleaseSucceeds Sgx.sample Bfibe.sample sampleReleaseEnv k fid (CStr.lit "L")
      samplePublicKey (sampleMaterial fid) where
  deriveMsk := rfl
  extractRequest := rfl
  extractFunction := rfl
  openContext := rfl
  encrypt := rfl
  keyPair := rfl
  keyPairValid := rfl
  sharedSecret := rfl
  nonce := rfl
  master := by
    rw [hmsk]
    rfl
  masterFits := by
    show ((bfibeMskDomain ++ (Block.fill 32 1).toList).take 32).length ≤ 64
    decide
  request := rfl
  requestLength := by
    have hid := strlen_requestIdentityOf fid
    have hmaster : (bfibeMskDomain ++ (Block.fill 32 1).toList).take 32 ≠ [] := by decide
    have hpos := List.length_pos_iff.mpr hmaster
    simp only [sampleMaterial, List.length_take, List.length_append] at hpos ⊢
    omega
  function := rfl
  functionLength := by
    show 1 ≤ (ascii "label:L" ++ _).length ∧ (ascii "label:L" ++ _).length ≤ 256
    decide

/-- The release for the FID `"f"` arrives. -/
theorem short_fid_release_reaches_worker :
    ∃ release,
      ecallGetBfibeKeyRelease Sgx.sample Bfibe.sample sampleReleaseEnv
        (attestedKms (CStr.lit "f"))
        ⟨some (CStr.lit "f"), some (CStr.lit "L"), some samplePublicKey, some 4096, true⟩ =
        some release ∧
      (ecallLoadBfibeKeyRelease Sgx.sample ⟨true, true, true⟩ release (some (CStr.lit "f"))
        sampleWorker).value = some () ∧
      (ecallLoadBfibeKeyRelease Sgx.sample ⟨true, true, true⟩ release (some (CStr.lit "f"))
        sampleWorker).state.bfibe.keys =
        importedKeys (sampleMaterial (CStr.lit "f")).requestSk
          (sampleMaterial (CStr.lit "f")).functionSk (by decide +kernel) (by decide) := by
  have hs := sampleMaterial_succeeds (k := attestedKms (CStr.lit "f")) (by decide +kernel)
    (CStr.lit "f")
  refine (release_reaches_worker_iff Sgx.sample_gcmLaws Sgx.sample_ecdhCommutes ?_ ?_ ?_ ?_
    ?_ ?_ ?_ hs).mpr ?_
  all_goals decide +kernel

/-- An FID of 64 hexadecimal digits. -/
def hexFid : CStr := CStr.letters 64

/-- **A release for an FID of 64 digits is refused** by the KMS, with every check holding and
every primitive succeeding. -/
theorem hex_fid_release_refused :
    (attestedKms hexFid).verifyRaForFid hexFid = true ∧
      verifyReportDataBinding Sgx.sample true (attestedKms hexFid) samplePublicKey = true ∧
      (attestedKms hexFid).registry.isLabelBoundToFid hexFid (CStr.lit "L") = true ∧
      Sgx.sample.calculatePubFromPriv sampleWorker.privateKey = some samplePublicKey ∧
      ReleaseSucceeds Sgx.sample Bfibe.sample sampleReleaseEnv (attestedKms hexFid) hexFid
        (CStr.lit "L") samplePublicKey (sampleMaterial hexFid) ∧
      ecallGetBfibeKeyRelease Sgx.sample Bfibe.sample sampleReleaseEnv (attestedKms hexFid)
        ⟨some hexFid, some (CStr.lit "L"), some samplePublicKey, some 4096, true⟩ = none := by
  refine ⟨by decide +kernel, by decide +kernel, by decide +kernel, rfl,
    sampleMaterial_succeeds (by decide +kernel) hexFid, by decide +kernel⟩

end AsynCS
