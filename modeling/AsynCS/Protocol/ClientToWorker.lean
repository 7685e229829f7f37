import AsynCS.Protocol.KeyWrapping
import AsynCS.Protocol.ProvisioningBfibe
import AsynCS.Protocol.ResultDecryption
import AsynCS.Client.SmokeArtifacts
import AsynCS.WorkerApp.InvokeReport
import AsynCS.Worker.TraceRid

/-!
# An invocation, from the client to the worker and back

The client asks the KMS for public keys, encrypts a module and an input for an FID, and wraps the
session keys.  A worker that the same KMS has provisioned for the FID and for the label of the
package runs the module on the input, and the client decrypts what the module printed.

* `KmsAnswers`: the public keys that the client uses are those of the KMS enclave.
* `Built`, `exists_built`: what the artifacts of a client consist of.
* `FilesHold`, `carries_of_built`: a command whose files they are.
* `keysOpen_eccibe`, `keysOpen_bfibe`: a provisioned worker opens the session keys.
* `ClientReads`, `invoke_returns_output`: it runs the module on the input, and the client reads the
  output.
-/

namespace AsynCS
namespace Protocol

open Client Worker WorkerApp

variable {S : Sgx} {P : P256} {M : Mcl} {k : Kms.Globals}

/-! ## Public keys -/

/-- What the one-shot commands of the KMS leave is what its enclave returned. -/
structure KmsAnswers (S : Sgx) (B : Bfibe) (k : Kms.Globals)
    (kms : WorkerSmokeArtifacts.KmsDir) : Prop where
  printPubkey : ∀ identity data, kms.printPubkey identity = some data →
    ∃ env s pk, identity.encode = some s.bytes ∧ Kms.ecallGetPublicKey S env k s = some pk ∧
      data = pk.toList
  bfibePublicParams : ∀ data, kms.bfibePublicParams = some data →
    ∃ ok capacity, Kms.ecallGetBfibePublicParams B ok k capacity = some data

/-- The public key of an identity is the one of its scalar. -/
theorem publicKey_of_ecallGetPublicKey {env : Kms.KeyEnv} {s : CStr} {pk : Block 65}
    (h : Kms.ecallGetPublicKey S env k s = some pk) :
    ∃ pub, S.calculatePubFromPriv (scalarOf S k s) = some pub ∧ pk.toList = 4 :: pub.toList := by
  obtain ⟨pair, hpair, rfl⟩ := Option.map_eq_some_iff.mp h
  have hscalar := (Kms.deriveKeyPair_fst hpair).2
  have hpub : S.calculatePubFromPriv pair.1 = some pair.2 := by
    unfold Kms.deriveKeyPair at hpair
    obtain ⟨-, hpair⟩ := Option.ite_none_left_eq_some.mp hpair
    split at hpair
    · obtain ⟨pub, hpub, rfl⟩ := Option.map_eq_some_iff.mp hpair
      exact hpub
    · obtain ⟨-, hpair⟩ := Option.ite_none_left_eq_some.mp hpair
      obtain ⟨sk, -, hpair⟩ := Option.bind_eq_some_iff.mp hpair
      obtain ⟨pub, hpub, hpair⟩ := Option.bind_eq_some_iff.mp hpair
      rw [← Option.some.inj hpair]
      exact hpub
  refine ⟨pair.2, ?_, ?_⟩
  · rw [scalarOf, ← hscalar]
    exact hpub
  · refine Block.toList_ofBytes ?_
    rw [List.length_cons, pair.2.toList_length]

/-- What the client uses as the public key of an identity. -/
theorem runKmsPrintPubkey_eq {B : Bfibe} {kms : WorkerSmokeArtifacts.KmsDir}
    (hkms : KmsAnswers S B k kms) {identity : PyStr} {s : CStr}
    (hs : identity.encode = some s.bytes) {data : Bytes}
    (h : WorkerSmokeArtifacts.runKmsPrintPubkey kms identity = some data) :
    ∃ pub, S.calculatePubFromPriv (scalarOf S k s) = some pub ∧ data = 4 :: pub.toList := by
  unfold WorkerSmokeArtifacts.runKmsPrintPubkey at h
  obtain ⟨data', hprint, h⟩ := Option.bind_eq_some_iff.mp h
  obtain ⟨-, h⟩ := Option.ite_none_left_eq_some.mp h
  obtain rfl := Option.some.inj h
  obtain ⟨env, s', pk, hs', hpk, rfl⟩ := hkms.printPubkey identity data' hprint
  obtain rfl : s' = s := CStr.ext (Option.some.inj (hs'.symm.trans hs))
  exact publicKey_of_ecallGetPublicKey hpk

/-! ## The artifacts -/

/-- The label of a package, as the worker and the KMS are given it. -/
def labelOf (S : Sgx) (cFunc : Bytes) : CStr := CStr.hex (S.sha256 cFunc).toList

/-- A hexadecimal digit is a character of ASCII. -/
theorem char_hexDigit {n : ℕ} (h : n < 16) :
    (Char.ofNat (hexDigit n).toNat).toNat < 128 ∧
      UInt8.ofNat (Char.ofNat (hexDigit n).toNat).toNat = hexDigit n := by
  revert n
  decide

theorem encode_hex (b : Bytes) : (PyStr.hex b).encode = some (hexEncode b) := by
  have hdigit : ∀ x ∈ hexEncode b, ∃ n < 16, x = hexDigit n := by
    intro x hx
    obtain ⟨y, -, hx⟩ := List.mem_flatMap.mp hx
    have hy := y.toNat_lt
    rcases List.mem_cons.mp hx with rfl | hx
    · exact ⟨_, by omega, rfl⟩
    · exact ⟨_, by omega, List.mem_singleton.mp hx⟩
  have hascii : ∀ c ∈ (hexEncode b).map fun x => Char.ofNat x.toNat, c.toNat < 128 := by
    intro c hc
    obtain ⟨x, hx, rfl⟩ := List.mem_map.mp hc
    obtain ⟨n, hn, rfl⟩ := hdigit x hx
    exact (char_hexDigit hn).1
  have hback : ∀ x ∈ hexEncode b, UInt8.ofNat (Char.ofNat x.toNat).toNat = x := by
    intro x hx
    obtain ⟨n, hn, rfl⟩ := hdigit x hx
    exact (char_hexDigit hn).2
  rw [PyStr.hex, PyStr.encode_ofText, utf8_of_ascii hascii, List.map_map]
  exact congrArg some ((List.map_congr_left hback).trans (List.map_id _))

/-- What the artifacts of a client consist of. -/
structure Built (S : Sgx) (fid : Fid) (wasm input : Bytes) (a : WorkerSmokeArtifacts.Artifacts)
    (draw : WorkerSmokeArtifacts.SmokeDraw) (kFunc kReq nonce : Block 16) (skU : Block 32)
    (p : Point) (fidBytes : Bytes) : Prop where
  canonical : canonicalFid fid.str = some fidBytes
  cFunc : a.cFunc = AESGCMImpl.encrypt S draw.packageIv kFunc wasm (ascii "PKG" ++ fidBytes)
  cReq : a.cReq = AESGCMImpl.encrypt S draw.requestIv kReq input
    (ascii "REQ" ++ fidBytes ++ nonce.toList ++ (S.sha256 p.encode).toList)
  label : a.label = PyStr.hex (S.sha256 a.cFunc).toList
  rid : a.rid = PyStr.hex (S.sha256 (fidBytes ++ a.cReq)).toList
  pkU : a.pkU = p.encode
  skU : a.skU = skU.toList
  nonce : a.nonce = nonce.toList

open WorkerSmokeArtifacts in
/-- **The artifacts of a client**, and how the two session keys were wrapped. -/
theorem exists_built {kms : KmsDir} {draw : SmokeDraw} {profile : CryptoProfile} {fid : Fid}
    {wasm input : Bytes} {kFunc? kReq? nonce? : Option Bytes} {a : Artifacts}
    (h : buildWorkerSmokeArtifacts S P M kms draw profile fid.str wasm input kFunc? kReq? nonce? =
      some a) :
    ∃ kFunc kReq nonce p fidBytes plan, P.publicPoint draw.skU = some p ∧
      Built S fid wasm input a draw kFunc kReq nonce draw.skU p fidBytes ∧
      (plan.fid = fid.str ∧ plan.label = a.label ∧ plan.aadPkg = ascii "PKG" ++ fidBytes ∧
        plan.aadReq = ascii "REQ" ++ fidBytes ++ nonce.toList ++ (S.sha256 p.encode).toList) ∧
      wrapSessionKeys S P M kms draw profile plan kFunc.toList kReq.toList =
        some (a.cKFunc, a.cKey) := by
  unfold buildWorkerSmokeArtifacts at h
  obtain ⟨⟨pkU, skU⟩, hkeys, h⟩ := Option.bind_eq_some_iff.mp h
  obtain ⟨plan, hplan, h⟩ := Option.bind_eq_some_iff.mp h
  obtain ⟨⟨cKFunc, cKey⟩, hwrap, h⟩ := Option.bind_eq_some_iff.mp h
  obtain ⟨p, hp, hpk⟩ := Option.map_eq_some_iff.mp hkeys
  obtain ⟨rfl, rfl⟩ := Prod.mk.inj hpk
  unfold buildArtifactPlan at hplan
  obtain ⟨hkFunc, hplan⟩ := Option.ite_none_left_eq_some.mp hplan
  obtain ⟨hkReq, hplan⟩ := Option.ite_none_left_eq_some.mp hplan
  obtain ⟨-, hplan⟩ := Option.ite_none_left_eq_some.mp hplan
  obtain ⟨aadPkg, hpkg, hplan⟩ := Option.bind_eq_some_iff.mp hplan
  obtain ⟨aadReq, hreq, hplan⟩ := Option.bind_eq_some_iff.mp hplan
  obtain ⟨rid, hrid, hplan⟩ := Option.bind_eq_some_iff.mp hplan
  obtain ⟨fidBytes, hfid, rfl⟩ := Option.map_eq_some_iff.mp hpkg
  unfold WorkerSmokeArtifacts.buildAadReq at hreq
  obtain ⟨hnonce, hreq⟩ := Option.ite_none_left_eq_some.mp hreq
  obtain ⟨fidBytes', hfid', rfl⟩ := Option.map_eq_some_iff.mp hreq
  obtain rfl : fidBytes = fidBytes' := Option.some.inj (hfid.symm.trans hfid')
  obtain ⟨fidBytes'', hfid'', rfl⟩ := Option.map_eq_some_iff.mp hrid
  obtain rfl : fidBytes = fidBytes'' := Option.some.inj (hfid.symm.trans hfid'')
  -- what has 16 bytes is a block
  have hblock : ∀ {b : Bytes}, ¬ b.length ≠ 16 → (Block.ofBytes 16 b).toList = b :=
    fun hlen => Block.toList_ofBytes (not_not.mp hlen)
  have hplan := Option.some.inj hplan
  obtain rfl := Option.some.inj h
  refine ⟨Block.ofBytes 16 (orDrawn kFunc? draw.kFunc), Block.ofBytes 16 (orDrawn kReq? draw.kReq),
    Block.ofBytes 16 (orDrawn nonce? draw.nonce), p, fidBytes, plan, hp, ?_, ?_, ?_⟩
  · subst hplan
    exact
      { canonical := hfid
        cFunc := rfl
        cReq := by rw [hblock hnonce]
        label := rfl
        rid := rfl
        pkU := rfl
        skU := rfl
        nonce := (hblock hnonce).symm }
  · subst hplan
    exact ⟨rfl, rfl, rfl, by rw [hblock hnonce]⟩
  · rw [hblock hkFunc, hblock hkReq]
    exact hwrap

/-! ## The files -/

/-- The files of a command are the artifacts of a client. -/
structure FilesHold (a : WorkerSmokeArtifacts.Artifacts) (content : InvokeFile → Bytes) : Prop where
  wasm : content .wasm = a.cFunc
  input : content .input = a.cReq
  cKFunc : content .cKFunc = a.cKFunc
  cKey : content .cKey = a.cKey
  pkU : content .pkU = a.pkU
  nonce : content .nonce = a.nonce

/-- The parts of a ciphertext of the client, as `do_invoke` cuts it. -/
theorem parts_encrypt (S : Sgx) (iv : Block 12) (key : Block 16) (plaintext aad : Bytes) :
    Block.ofBytes 12 ((AESGCMImpl.encrypt S iv key plaintext aad).take 12) = iv ∧
      Block.ofBytes 16 (((AESGCMImpl.encrypt S iv key plaintext aad).drop 12).take 16) =
        (S.gcmEncrypt key iv aad plaintext).2 ∧
      (AESGCMImpl.encrypt S iv key plaintext aad).drop 28 =
        (S.gcmEncrypt key iv aad plaintext).1 := by
  have hhead : (iv.toList ++ (S.gcmEncrypt key iv aad plaintext).2.toList).length = 28 := by
    rw [List.length_append, iv.toList_length, List.Vector.toList_length]
  rw [AESGCMImpl.encrypt_eq]
  refine ⟨?_, ?_, List.drop_left' hhead⟩
  · rw [List.append_assoc, List.take_left' iv.toList_length, Block.ofBytes_toList]
  · rw [List.append_assoc, List.drop_left' iv.toList_length,
      List.take_left' (List.Vector.toList_length _), Block.ofBytes_toList]

section Files

variable {fid : Fid} {wasm input : Bytes} {a : WorkerSmokeArtifacts.Artifacts}
  {draw : WorkerSmokeArtifacts.SmokeDraw} {kFunc kReq nonce : Block 16} {skU : Block 32}
  {p : Point} {fidBytes : Bytes} {cmd : InvokeArgs} {content : InvokeFile → Bytes}

/-- The public key and the nonce of a run. -/
theorem runArgs_of_files (hbuilt : Built S fid wasm input a draw kFunc kReq nonce skU p fidBytes)
    (hfiles : FilesHold a content) (hkem : namesKem cmd = true) :
    (runArgs cmd content).pkU.toList = p.encode ∧ (runArgs cmd content).nonce = nonce ∧
      (runArgs cmd content).cReq = a.cReq := by
  obtain ⟨hiv, htag, hct⟩ := parts_encrypt S draw.requestIv kReq input
    (ascii "REQ" ++ fidBytes ++ nonce.toList ++ (S.sha256 p.encode).toList)
  refine ⟨?_, ?_, ?_⟩
  · rw [runArgs]
    dsimp only
    rw [if_pos hkem, hfiles.pkU, hbuilt.pkU]
    exact Block.toList_ofBytes p.length_encode
  · rw [runArgs]
    dsimp only
    rw [if_pos hkem, hfiles.nonce, hbuilt.nonce, Block.ofBytes_toList]
  · rw [RunArgs.cReq, runArgs]
    dsimp only
    rw [hfiles.input, hbuilt.cReq, hiv, htag, hct, AESGCMImpl.encrypt_eq]

/-- **The run is given** the module and the input, encrypted under the two session keys. -/
theorem carries_of_built (hbuilt : Built S fid wasm input a draw kFunc kReq nonce skU p fidBytes)
    (hfiles : FilesHold a content) (hkem : namesKem cmd = true) (hcanonical : fid.Canonical)
    (hwasm : wasm ≠ []) (hinput : input ≠ []) :
    Carries S (runArgs cmd content) fid.cstr kFunc kReq wasm input := by
  obtain rfl : fidBytes = fidToBytesOrStr fid.cstr :=
    Option.some.inj (hbuilt.canonical.symm.trans ((canonicalFid_eq_iff fid).mpr hcanonical))
  obtain ⟨hpkU, hnonce, -⟩ := runArgs_of_files hbuilt hfiles hkem
  refine ⟨?_, ?_, hwasm, hinput⟩
  · obtain ⟨hiv, htag, hct⟩ := parts_encrypt S draw.packageIv kFunc wasm
      (ascii "PKG" ++ fidToBytesOrStr fid.cstr)
    rw [runArgs]
    dsimp only
    rw [hfiles.wasm, hbuilt.cFunc, hiv, htag, hct, aadPkg]
  · obtain ⟨hiv, htag, hct⟩ := parts_encrypt S draw.requestIv kReq input
      (ascii "REQ" ++ fidToBytesOrStr fid.cstr ++ nonce.toList ++ (S.sha256 p.encode).toList)
    rw [aadReq, hnonce, hpkU, runArgs]
    dsimp only
    rw [hfiles.input, hbuilt.cReq, hiv, htag, hct]

end Files

/-! ## A provisioned worker opens the session keys -/

/-- The keys of an FID and of a label are in the slot of a profile. -/
def HoldsKeys (S : Sgx) (M : Mcl) (k : Kms.Globals) (fid label : CStr) (g : Globals) :
    WorkerSmokeArtifacts.CryptoProfile → Prop
  | .eccibe => EccProvisioned S k fid label g.ecc
  | .bfibeMclBls12381 => BfibeProvisioned (M.bfibe S) k fid label g.bfibe
  | .bfibePyEccBn128Demo => False

/-- The calls of `DecKey` in a run succeed. -/
theorem decKeyWorks_of_ok {ok : DecKeySite → Bool} (h : ∀ site, ok site = true) : DecKeyWorks ok :=
  ⟨h _, h _, h _, h _⟩

/-- What is written with 64 digits is not the FID of the tests. -/
theorem scalarOf_hex (k : Kms.Globals) (digest : Block 32) :
    scalarOf S k (CStr.hex digest.toList) = Kms.keyOf S k (CStr.hex digest.toList) := by
  refine if_neg fun h => ?_
  have hlen := congrArg CStr.strlen h
  rw [CStr.strlen_hex, List.Vector.toList_length] at hlen
  exact absurd hlen (by decide)

section Opens

variable {fid : Fid} {args : RunArgs} {g : Globals} {env : RunEnv} {B : Bfibe}
  {kFunc kReq : Block 16} {cFunc cKFunc cKey : Bytes}

/-- A key ciphertext of the eccibe profile is not empty, and no envelope. -/
theorem plain_of_encryptKeyCiphertextV1 {draw : KeyDraw} {pk : Block 64} {key c : Bytes}
    (h : encryptKeyCiphertextV1 S P draw (4 :: pk.toList) key = some c) :
    c ≠ [] ∧ isBfibeEnvelope c = false := by
  obtain ⟨-, _, _, -, -, rfl⟩ := encryptKeyCiphertextV1_eq_some_iff.mp h
  refine ⟨?_, isBfibeEnvelope_keyCiphertextOf _ _ _ _⟩
  rw [← List.length_pos_iff, length_keyCiphertextOf]
  omega

/-- Session keys that are encrypted to the public keys of the two scalars in the slot. -/
theorem keysOpen_of_slot (hS : S.GcmLaws) (hcurves : CurvesAgree S P) (hecdh : S.EcdhCommutes)
    (hok : ∀ site, env.ok site = true) {fid label : CStr}
    (hslot : EccProvisioned S k fid label g.ecc) {pub pubL : Block 64}
    (hpub : S.calculatePubFromPriv g.ecc.workerKey = some pub)
    (hpubL : S.calculatePubFromPriv g.ecc.workerDklabel = some pubL)
    {drawFunc drawReq : KeyDraw}
    (hcKFunc : encryptKeyCiphertextV1 S P drawFunc (4 :: pubL.toList) kFunc.toList =
      some args.cKFunc)
    (hcKey : encryptKeyCiphertextV1 S P drawReq (4 :: pub.toList) kReq.toList = some args.cKey) :
    invocationFid g args = fid ∧ KeysOpen S B env args g fid kFunc kReq := by
  obtain ⟨hneFunc, hplainFunc⟩ := plain_of_encryptKeyCiphertextV1 hcKFunc
  obtain ⟨hneKey, hplainKey⟩ := plain_of_encryptKeyCiphertextV1 hcKey
  have hplain : args.useBfibeKeys = false := by
    rw [RunArgs.useBfibeKeys, requestUsesBfibeKeyCiphertexts, hplainFunc, hplainKey]
    rfl
  refine ⟨?_, ⟨?_, hneKey, hneFunc, ?_, g.ecc.workerDklabel, ?_, ?_⟩⟩
  · rw [invocationFid, hplain, ← hslot.fid_eq]
    rfl
  · rw [keysLoaded, hplain]
    exact hslot.loaded
  · rw [requestKey, hplain]
    exact decKey_of_encryptKeyCiphertextV1 hS hcurves hecdh
      (decKeyWorks_of_ok fun site => hok (.cKey site)) hpub hcKey _ _
  · rw [labelKey, hplain, hslot.fromKms]
    rfl
  · rw [functionKey, hplain]
    exact decKey_of_encryptKeyCiphertextV1 hS hcurves hecdh
      (decKeyWorks_of_ok fun site => hok (.cKFunc site)) hpubL hcKFunc _ _

/-- **In the eccibe profile.** -/
theorem keysOpen_eccibe (hS : S.GcmLaws) (hcurves : CurvesAgree S P) (hecdh : S.EcdhCommutes)
    (hok : ∀ site, env.ok site = true) {kms : WorkerSmokeArtifacts.KmsDir}
    (hkms : KmsAnswers S B k kms) {draw : WorkerSmokeArtifacts.SmokeDraw}
    {plan : WorkerSmokeArtifacts.ArtifactPlan} (hfid : plan.fid = fid.str)
    (hlabel : plan.label = PyStr.hex (S.sha256 cFunc).toList)
    (hwrap : WorkerSmokeArtifacts.wrapSessionKeys S P M kms draw .eccibe plan kFunc.toList
      kReq.toList = some (cKFunc, cKey))
    (hcKFunc : args.cKFunc = cKFunc) (hcKey : args.cKey = cKey)
    (hslot : EccProvisioned S k fid.cstr (labelOf S cFunc) g.ecc) :
    invocationFid g args = fid.cstr ∧ KeysOpen S B env args g fid.cstr kFunc kReq := by
  unfold WorkerSmokeArtifacts.wrapSessionKeys at hwrap
  obtain ⟨fidPub, hfidPub, hwrap⟩ := Option.bind_eq_some_iff.mp hwrap
  obtain ⟨labelPub, hlabelPub, hwrap⟩ := Option.bind_eq_some_iff.mp hwrap
  obtain ⟨c₁, hc₁, hwrap⟩ := Option.bind_eq_some_iff.mp hwrap
  obtain ⟨c₂, hc₂, hwrap⟩ := Option.bind_eq_some_iff.mp hwrap
  obtain ⟨rfl, rfl⟩ := Prod.mk.inj (Option.some.inj hwrap)
  rw [hfid] at hfidPub
  rw [hlabel] at hlabelPub
  obtain ⟨pub, hpub, rfl⟩ := runKmsPrintPubkey_eq hkms (s := fid.cstr)
    (PyStr.encode_ofText fid.text) hfidPub
  obtain ⟨pubL, hpubL, rfl⟩ := runKmsPrintPubkey_eq hkms (s := labelOf S cFunc) (encode_hex _)
    hlabelPub
  rw [labelOf, scalarOf_hex, ← labelOf, ← hslot.workerDklabel] at hpubL
  rw [← hslot.workerKey] at hpub
  exact keysOpen_of_slot hS hcurves hecdh hok hslot hpub hpubL (hcKFunc ▸ hc₁) (hcKey ▸ hc₂)

/-- The public parameters that the client uses are those of the KMS. -/
theorem publicFromMsk_of_runKms {kms : WorkerSmokeArtifacts.KmsDir}
    (hkms : KmsAnswers S (M.bfibe S) k kms) {mpk : Bytes}
    (h : WorkerSmokeArtifacts.runKmsBfibePublicParams kms = some mpk) :
    ∃ bfMsk, (M.bfibe S).deriveMasterSecret (Kms.bfibeMskDomain ++ k.msk.toList) = some bfMsk ∧
      BfibeMcl.publicFromMsk M bfMsk = some mpk := by
  unfold WorkerSmokeArtifacts.runKmsBfibePublicParams at h
  obtain ⟨data, hdata, h⟩ := Option.bind_eq_some_iff.mp h
  obtain ⟨-, h⟩ := Option.ite_none_left_eq_some.mp h
  obtain rfl := Option.some.inj h
  obtain ⟨ok, capacity, hparams⟩ := hkms.bfibePublicParams data hdata
  unfold Kms.ecallGetBfibePublicParams at hparams
  obtain ⟨-, hparams⟩ := Option.ite_none_left_eq_some.mp hparams
  obtain ⟨bfMsk, hmsk, hparams⟩ := Option.bind_eq_some_iff.mp hparams
  unfold Kms.deriveBfibeMsk Bfibe.deriveMasterSecretInto at hmsk
  obtain ⟨-, hmsk⟩ := Option.ite_none_left_eq_some.mp hmsk
  obtain ⟨-, hmsk⟩ := Option.ite_none_right_eq_some.mp hmsk
  exact ⟨bfMsk, (Option.filter_eq_some_iff.mp hmsk).1, (Option.filter_eq_some_iff.mp hparams).1⟩

/-- **An envelope of the tool is opened** under the context of the worker, when it was written for
this context. -/
theorem decKey_of_tool (hS : S.GcmLaws) (hM : M.RoundTrips) {bfMsk mpk : Bytes}
    (hmpk : BfibeMcl.publicFromMsk M bfMsk = some mpk) {label : CStr} (hlabel : label.strlen ≤ 64)
    {slot : BfibeSlot} (hslot : Provisioned S M bfMsk fid label slot) (use : KeyPurpose)
    {context : Bytes} (hcontext : context.length ≤ 178) {evp : Bool} {key rBytes iv c : Bytes}
    (h : BfibeTool.encryptKeyEnvelope S M evp mpk use.purpose (use.identity fid label) context key
      rBytes iv = some c) (ok : DecKeySite → Bool) (hok : ok .mclDecrypt = true)
    (cap : Option (Block 32)) :
    decKey S (M.bfibe S) ok slot cap c context = .ok (Block.ofBytes 32 key) ∧
      isBfibeEnvelope c = true ∧ c ≠ [] := by
  obtain ⟨⟨hpurpose, hkey⟩, v, rfl, ⟨hprofile, hvpurpose, hvidentity, rfl⟩, mpkG1, g1, q, r,
    sharedBytes, hwraps⟩ := exists_wraps h
  have hfid : (utf8 fid.text).length ≤ 127 := by
    have hfits := slot.fid.fits
    rw [hslot.fid_eq] at hfits
    exact hfits
  have hopens := hwraps.opens hS hM hkey hmpk (hslot.keys use)
  obtain ⟨hidne, hidlen⟩ := length_identity hfid hlabel use
  obtain ⟨hv, haad⟩ := hwraps.accepted hS hkey hprofile (hvpurpose ▸ hpurpose)
    (hvidentity ▸ hidne) (hvidentity ▸ hidlen) hcontext
  have hsklen : (use.secretKey slot.keys).len ≠ 0 := by
    intro hzero
    refine (BfibeMcl.exists_of_extract (hslot.keys use)).1 ?_
    rw [KeySlot.key, hzero, List.take_zero]
  have henvelope := isBfibeEnvelope_encodeEnvelope v
  refine ⟨decKey_encodeEnvelope hok hslot.loaded hv (hslot.identityKey_eq hvpurpose hvidentity)
    hsklen haad hopens cap, henvelope, ?_⟩
  intro hnil
  rw [hnil] at henvelope
  exact absurd henvelope (by decide)

/-- A text behind a literal is encoded behind the literal. -/
theorem encode_pyLit_append {s : String} {t : PyStr} {b : Bytes} (hs : utf8 s.toList = ascii s)
    (ht : t.encode = some b) : (pyLit s ++ t).encode = some (ascii s ++ b) := by
  obtain ⟨v, rfl, rfl⟩ := PyStr.encode_eq_some_iff.mp ht
  rw [pyLit, PyStr.ofText, PyStr.ofText, ← List.map_append]
  exact (PyStr.encode_ofText _).trans (by rw [utf8_append, hs])

/-- What the tool is called with. -/
theorem runBfibeMclClientTool_eq {draw : WorkerSmokeArtifacts.EnvelopeDraw} {mpk : Bytes}
    {purpose identity : PyStr} {purposeBytes identityBytes context key c : Bytes}
    (hpurpose : purpose.encode = some purposeBytes)
    (hidentity : identity.encode = some identityBytes)
    (h : WorkerSmokeArtifacts.runBfibeMclClientTool S M draw mpk purpose identity context key =
      some c) :
    BfibeTool.encryptKeyEnvelope S M draw.evp mpk purposeBytes identityBytes context key draw.r
      draw.nonce = some c := by
  unfold WorkerSmokeArtifacts.runBfibeMclClientTool at h
  obtain ⟨-, h⟩ := Option.ite_none_left_eq_some.mp h
  rw [hpurpose, hidentity] at h
  exact (Option.ite_none_left_eq_some.mp h).2

/-- What the worker reads of an FID that fits its field. -/
theorem length_fidToBytesOrStr_le (hfid : fid.cstr.strlen ≤ 127) :
    (fidToBytesOrStr fid.cstr).length ≤ 127 := by
  rcases fidToBytesOrStr_cases fid with ⟨b, hread, htext, hb⟩ | ⟨-, hworker⟩
  · have hlen := PyStr.length_of_fromHex (fromHex_of_decodeHex hread).1
    rw [PyStr.ofText, List.length_map, htext] at hlen
    rw [hb]
    omega
  · have hbytes : (utf8 fid.text).length ≤ 127 := hfid
    rw [hworker, List.length_take]
    omega

/-- **In the BF-IBE profile.** -/
theorem keysOpen_bfibe (hS : S.GcmLaws) (hM : M.RoundTrips)
    (hok : ∀ site, env.ok site = true) {kms : WorkerSmokeArtifacts.KmsDir}
    (hkms : KmsAnswers S (M.bfibe S) k kms) {draw : WorkerSmokeArtifacts.SmokeDraw}
    {plan : WorkerSmokeArtifacts.ArtifactPlan} (hfid : plan.fid = fid.str)
    (hlabel : plan.label = PyStr.hex (S.sha256 cFunc).toList)
    (hpkg : plan.aadPkg = aadPkg fid.cstr)
    (hreq : plan.aadReq = aadReq S fid.cstr args.nonce args.pkU)
    (hwrap : WorkerSmokeArtifacts.wrapSessionKeys S P M kms draw .bfibeMclBls12381 plan
      kFunc.toList kReq.toList = some (cKFunc, cKey))
    (hcKFunc : args.cKFunc = cKFunc) (hcKey : args.cKey = cKey)
    (hslot : BfibeProvisioned (M.bfibe S) k fid.cstr (labelOf S cFunc) g.bfibe) :
    invocationFid g args = fid.cstr ∧ KeysOpen S (M.bfibe S) env args g fid.cstr kFunc kReq := by
  unfold WorkerSmokeArtifacts.wrapSessionKeys at hwrap
  obtain ⟨mpk, hmpk, hwrap⟩ := Option.bind_eq_some_iff.mp hwrap
  obtain ⟨c₁, hc₁, hwrap⟩ := Option.bind_eq_some_iff.mp hwrap
  obtain ⟨c₂, hc₂, hwrap⟩ := Option.bind_eq_some_iff.mp hwrap
  obtain ⟨rfl, rfl⟩ := Prod.mk.inj (Option.some.inj hwrap)
  obtain ⟨bfMsk, hmaster, hpublic⟩ := publicFromMsk_of_runKms hkms hmpk
  obtain ⟨bfMsk', hmaster', hrequest, hfunction⟩ := hslot.keys
  obtain rfl : bfMsk = bfMsk' := Option.some.inj (hmaster.symm.trans hmaster')
  have hprovisioned : Provisioned S M bfMsk fid (labelOf S cFunc) g.bfibe :=
    ⟨hslot.loaded, hslot.fid_eq, fun use => by cases use <;> assumption⟩
  have hlabelLen : (labelOf S cFunc).strlen ≤ 64 := by
    rw [labelOf, CStr.strlen_hex, List.Vector.toList_length]
  have hfidLen : (fidToBytesOrStr fid.cstr).length ≤ 127 :=
    length_fidToBytesOrStr_le (hslot.fid_eq ▸ g.bfibe.fid.fits)
  have hliteral : (ascii "REQ").length = 3 ∧ (ascii "PKG").length = 3 := by decide
  have hpkgLen : plan.aadPkg.length ≤ 178 := by
    rw [hpkg, aadPkg, List.length_append, hliteral.2]
    omega
  have hreqLen : plan.aadReq.length ≤ 178 := by
    rw [hreq, aadReq]
    simp only [List.length_append, List.Vector.toList_length, hliteral.1]
    omega
  have hopen₁ := decKey_of_tool hS hM hpublic hlabelLen hprovisioned .function hpkgLen
    (runBfibeMclClientTool_eq (PyStr.encode_ofText _)
      (encode_pyLit_append (by decide) (hlabel ▸ encode_hex _)) hc₁)
    (fun site => env.ok (.cKFunc site)) (hok _) none
  have hopen₂ := decKey_of_tool hS hM hpublic hlabelLen hprovisioned .request hreqLen
    (runBfibeMclClientTool_eq (PyStr.encode_ofText _)
      (encode_pyLit_append (by decide) (hfid ▸ PyStr.encode_ofText fid.text)) hc₂)
    (fun site => env.ok (.cKey site)) (hok _) none
  have hbfibe : args.useBfibeKeys = true := by
    rw [RunArgs.useBfibeKeys, requestUsesBfibeKeyCiphertexts, hcKey, hopen₂.2.1]
    rfl
  refine ⟨?_, ?_⟩
  · rw [invocationFid, hbfibe, ← hslot.fid_eq]
    rfl
  · refine ⟨?_, hcKey ▸ hopen₂.2.2, hcKFunc ▸ hopen₁.2.2, ?_, Block.fill 32 0, ?_, ?_⟩
    · rw [keysLoaded, hbfibe]
      exact hslot.loaded
    · rw [requestKey, hbfibe, hcKey, ← hreq]
      exact hopen₂.1
    · rw [labelKey, hbfibe]
      rfl
    · rw [functionKey, hbfibe, hcKFunc, ← hpkg]
      exact hopen₁.1

end Opens

/-! ## The invocation -/

/-- What the documentation of the libraries promises. -/
structure Lawful (S : Sgx) (P : P256) (M : Mcl) : Prop where
  gcm : S.GcmLaws
  curves : CurvesAgree S P
  ecdh : S.EcdhCommutes
  roundTrips : M.RoundTrips

section Invocation

variable {kms : WorkerSmokeArtifacts.KmsDir} {draw : WorkerSmokeArtifacts.SmokeDraw}
  {profile : WorkerSmokeArtifacts.CryptoProfile} {fid : Fid} {wasm input : Bytes}
  {kFunc? kReq? nonce? : Option Bytes} {a : WorkerSmokeArtifacts.Artifacts} {cmd : InvokeArgs}
  {content : InvokeFile → Bytes} {env : RunEnv} {g : Globals}

/-- **A worker that holds the keys opens what the client has built**, in either profile. -/
theorem opens_of_artifacts (hlaws : Lawful S P M) (hkms : KmsAnswers S (M.bfibe S) k kms)
    (hbuild : WorkerSmokeArtifacts.buildWorkerSmokeArtifacts S P M kms draw profile fid.str wasm
      input kFunc? kReq? nonce? = some a) (hcanonical : fid.Canonical)
    (hwasm : wasm ≠ []) (hinput : input ≠ []) (hfiles : FilesHold a content)
    (hkem : namesKem cmd = true) (hok : ∀ site, env.ok site = true)
    (hheld : HoldsKeys S M k fid.cstr (labelOf S a.cFunc) g profile) :
    ∃ kFunc kReq p, P.publicPoint draw.skU = some p ∧
      (runArgs cmd content).pkU.toList = p.encode ∧ a.skU = draw.skU.toList ∧ a.pkU = p.encode ∧
      a.rid = PyStr.hex (ridOfRequest S (runArgs cmd content) fid.cstr).toList ∧
      invocationFid g (runArgs cmd content) = fid.cstr ∧
      Carries S (runArgs cmd content) fid.cstr kFunc kReq wasm input ∧
      KeysOpen S (M.bfibe S) env (runArgs cmd content) g fid.cstr kFunc kReq := by
  obtain ⟨kFunc, kReq, nonce, p, fidBytes, plan, hp, hbuilt, ⟨hplanFid, hplanLabel, hpkg, hreq⟩,
    hwrap⟩ := exists_built hbuild
  obtain rfl : fidBytes = fidToBytesOrStr fid.cstr :=
    Option.some.inj (hbuilt.canonical.symm.trans ((canonicalFid_eq_iff fid).mpr hcanonical))
  obtain ⟨hpkU, hnonce, hcReq⟩ := runArgs_of_files hbuilt hfiles hkem
  have hlabel := hplanLabel.trans hbuilt.label
  have hopens : invocationFid g (runArgs cmd content) = fid.cstr ∧
      KeysOpen S (M.bfibe S) env (runArgs cmd content) g fid.cstr kFunc kReq := by
    cases profile with
    | eccibe =>
      exact keysOpen_eccibe hlaws.gcm hlaws.curves hlaws.ecdh hok hkms hplanFid hlabel hwrap
        hfiles.cKFunc hfiles.cKey hheld
    | bfibeMclBls12381 =>
      refine keysOpen_bfibe hlaws.gcm hlaws.roundTrips hok hkms hplanFid hlabel hpkg ?_ hwrap
        hfiles.cKFunc hfiles.cKey hheld
      rw [hreq, aadReq, hnonce, hpkU]
    | bfibePyEccBn128Demo => exact absurd hheld id
  refine ⟨kFunc, kReq, p, hp, hpkU, hbuilt.skU, hbuilt.pkU, ?_, hopens.1,
    carries_of_built hbuilt hfiles hkem hcanonical hwasm hinput, hopens.2⟩
  rw [ridOfRequest, hcReq]
  exact hbuilt.rid

/-- The RID and the encapsulated key are in the lines of a `kem` command that is taken. -/
theorem kemLines_of_entered {B : Bfibe} {host : InvokeEnv} {allow : Bool}
    (hkem : namesKem cmd = true)
    (hstays : (commandKeyPath S host allow cmd g).2.exited = false)
    (hread : readCommandFiles host cmd = .ok content) (hstatus : host.runStatus = 0)
    (htaken : refusal host .kem (runEncryptedWasm .kem S B host.run (runArgs cmd content)
      (RunState.start (commandKeyPath S host allow cmd g).1)).state.out = none) :
    let out := (runEncryptedWasm .kem S B host.run (runArgs cmd content)
      (RunState.start (commandKeyPath S host allow cmd g).1)).state.out
    marker "RID_HEX" (hexEncode out.trace.rid.toList) ∈ (doInvoke S B host allow cmd g).printed ∧
      marker "CT_HEX" (hexEncode out.kemCt.toList) ∈ (doInvoke S B host allow cmd g).printed := by
  intro out
  have hkind : runKind cmd = .kem := if_pos hkem
  have hstart : ¬ host.runStatus ≠ 0 := fun h => h hstatus
  have hprinted : ∀ e ∈ resultLines host .kem (runArgs cmd content)
      (commandKeyPath S host allow cmd g).2 out, e ∈ (doInvoke S B host allow cmd g).printed := by
    intro e he
    rw [doInvoke_of_read hstays hread, hkind, runFiles, if_neg hstart]
    dsimp only
    rw [htaken]
    exact List.mem_append_right _ (List.mem_append_right _ he)
  constructor
  · refine hprinted _ ?_
    simp only [resultLines, if_pos, traceLines, List.mem_append, List.mem_cons, true_or]
  · refine hprinted _ ?_
    rw [resultLines]
    exact List.mem_append_left _ (List.mem_append_right _ (List.mem_singleton_self _))

/-- What a client reads from the lines of a command: its own RID, and for an FID that the worker
reads as these bytes the output. -/
def ClientReads (S : Sgx) (P : P256) (o : InvokeOutcome) (a : WorkerSmokeArtifacts.Artifacts)
    (fidBytes output : Bytes) : Prop :=
  (∃ ridHex, a.rid.encode = some ridHex ∧ marker "RID_HEX" ridHex ∈ o.printed) ∧
    ∃ ct c, marker "CT_HEX" (hexEncode ct) ∈ o.printed ∧
      reportedResults o.printed = [hexEncode c] ∧
      ∀ fid : PyStr, fid.fromHex = some fidBytes →
        ClientSDK.decryptResult S P ct c a.skU fid a.rid a.pkU = some output

end Invocation

/-! ### A request of one byte -/

/-- The one-shot commands of a KMS with these globals. -/
def oneShotKms (S : Sgx) (B : Bfibe) (env : Kms.KeyEnv) (k : Kms.Globals) :
    WorkerSmokeArtifacts.KmsDir where
  printPubkey identity := do
    let name ← identity.encode
    if (CStr.ofBuffer name).bytes = name then
      (Kms.ecallGetPublicKey S env k (CStr.ofBuffer name)).map List.Vector.toList
    else none
  bfibePublicParams := Kms.ecallGetBfibePublicParams B true k 4096

theorem kmsAnswers_oneShotKms (S : Sgx) (B : Bfibe) (env : Kms.KeyEnv) (k : Kms.Globals) :
    KmsAnswers S B k (oneShotKms S B env k) where
  printPubkey identity data h := by
    obtain ⟨name, hname, h⟩ := Option.bind_eq_some_iff.mp h
    obtain ⟨hcut, h⟩ := Option.ite_none_right_eq_some.mp h
    obtain ⟨pk, hpk, rfl⟩ := Option.map_eq_some_iff.mp h
    exact ⟨env, CStr.ofBuffer name, pk, by rw [hcut, hname], hpk, rfl⟩
  bfibePublicParams _ h := ⟨true, 4096, h⟩

/-- What a client draws. -/
def smokeDraw : WorkerSmokeArtifacts.SmokeDraw where
  kFunc := Block.fill 16 1
  kReq := Block.fill 16 2
  nonce := Block.fill 16 3
  skU := Block.fill 32 4
  packageIv := Block.fill 12 5
  requestIv := Block.fill 12 6
  functionKey := ⟨Block.fill 32 7, Block.fill 12 8⟩
  requestKey := ⟨Block.fill 32 9, Block.fill 12 10⟩
  functionEnvelope := ⟨true, [11], List.replicate 12 12⟩
  requestEnvelope := ⟨true, [13], List.replicate 12 14⟩

/-- Its artifacts for a module and an input of one byte. -/
def smokeBuild : Option WorkerSmokeArtifacts.Artifacts :=
  WorkerSmokeArtifacts.buildWorkerSmokeArtifacts Sgx.sample (curveOf Sgx.sample) Mcl.sample
    (oneShotKms Sgx.sample (Mcl.sample.bfibe Sgx.sample) honestKeyEnv
      (attestedKms letterFid.cstr)) smokeDraw .eccibe letterFid.str [7] [8] none none none

def smokeArtifacts : WorkerSmokeArtifacts.Artifacts :=
  smokeBuild.getD ⟨[], [], [], [], [], [], [], [], [], []⟩

/-- The files of a command. -/
def smokeContent : InvokeFile → Bytes
  | .wasm => smokeArtifacts.cFunc
  | .input => smokeArtifacts.cReq
  | .cKFunc => smokeArtifacts.cKFunc
  | .cKey => smokeArtifacts.cKey
  | .pkU => smokeArtifacts.pkU
  | .nonce => smokeArtifacts.nonce

/-- A command that names them. -/
def smokeCommand : InvokeArgs where
  fid := letterFid.cstr.bytes
  wasmFile := ascii "w"
  inputFile := ascii "i"
  label := (labelOf Sgx.sample smokeArtifacts.cFunc).bytes
  cKFuncFile := ascii "f"
  cKeyFile := ascii "k"
  pkuFile := ascii "p"
  nonceFile := ascii "n"
  maxOutputBytes := 16

/-- A module that reports two bytes. -/
def smokeGuest : GuestRun :=
  ⟨[.workloadTscBegin 1, .workloadSetOutput (some [79, 75]), .workloadTscEnd 2], true⟩

/-- The host of the worker. -/
def smokeHost : InvokeEnv :=
  { sampleInvokeEnv with
    file := fun name =>
      if name = fileName (ascii "w") then some (smokeContent .wasm)
      else if name = fileName (ascii "i") then some (smokeContent .input)
      else if name = fileName (ascii "f") then some (smokeContent .cKFunc)
      else if name = fileName (ascii "k") then some (smokeContent .cKey)
      else if name = fileName (ascii "p") then some (smokeContent .pkU)
      else if name = fileName (ascii "n") then some (smokeContent .nonce)
      else none
    run := { sampleRunEnv with
      kemKeyPair := some (Block.fill 32 15, Block.ofBytes 64 (Block.fill 32 15).toList)
      guest := fun _ _ => smokeGuest }
    isOnCurve := fun pt => pt != [4] ++ List.replicate 64 0 }

/-- The worker with the keys of the FID and of the label. -/
def smokeWorker : Globals :=
  { Globals.initial with
    ecc :=
      { workerKey := scalarOf Sgx.sample (attestedKms letterFid.cstr) letterFid.cstr
        workerFid := Field.store 128 letterFid.cstr
        keyLoaded := true
        dklabelFromKms := true
        workerDklabel := Kms.keyOf Sgx.sample (attestedKms letterFid.cstr)
          (labelOf Sgx.sample smokeArtifacts.cFunc) } }

theorem smokeBuild_eq : smokeBuild = some smokeArtifacts := by
  have hbuilt : smokeBuild.isSome = true := by decide +kernel
  obtain ⟨a, ha⟩ := Option.isSome_iff_exists.mp hbuilt
  rw [smokeArtifacts, ha]
  rfl

theorem isUnicodeSpace_letter : isUnicodeSpace 'a' = false := rfl

theorem canonical_letterFid : letterFid.Canonical where
  start c hc := by
    obtain rfl := Option.some.inj hc
    exact isUnicodeSpace_letter
  fits := by
    refine Or.inl ⟨fun c hc => ?_, by decide⟩
    obtain rfl := Option.some.inj hc
    exact isUnicodeSpace_letter
  digest h := by
    have hlen : letterFid.stripped.length ≤ 1 := by decide
    rw [h.1] at hlen
    omega

theorem lawful_sample : Lawful Sgx.sample (curveOf Sgx.sample) Mcl.sample :=
  ⟨Sgx.sample_gcmLaws, curvesAgree_curveOf _, Sgx.sample_ecdhCommutes, Mcl.sample_roundTrips⟩

theorem readCommandFiles_smokeHost :
    ∃ content, readCommandFiles smokeHost smokeCommand = .ok content ∧
      FilesHold smokeArtifacts content := by
  refine ⟨Function.update (Function.update (Function.update (Function.update (Function.update
    (Function.update (fun _ => []) .nonce (smokeContent .nonce)) .pkU (smokeContent .pkU))
    .cKey (smokeContent .cKey)) .cKFunc (smokeContent .cKFunc)) .input (smokeContent .input))
    .wasm (smokeContent .wasm), ?_, ⟨rfl, rfl, rfl, rfl, rfl, rfl⟩⟩
  have hread : ∀ f name, smokeHost.file name = some (smokeContent f) →
      readFile smokeHost f name = .ok (smokeContent f) := by
    intro f name h
    have haccepts : f.accepts (smokeContent f) = true := by
      cases f <;> decide +kernel
    rw [readFile, h]
    exact if_pos haccepts
  have hplan : readPlan smokeCommand = [(.wasm, fileName (ascii "w")),
      (.input, fileName (ascii "i")), (.cKFunc, fileName (ascii "f")),
      (.cKey, fileName (ascii "k")), (.pkU, fileName (ascii "p")),
      (.nonce, fileName (ascii "n"))] := rfl
  rw [readCommandFiles, if_neg (by decide +kernel), hplan]
  simp only [readFiles]
  rw [hread .wasm _ rfl, hread .input _ rfl, hread .cKFunc _ rfl, hread .cKey _ rfl,
    hread .pkU _ rfl, hread .nonce _ rfl]
  rfl

theorem holdsKeys_smokeWorker :
    HoldsKeys Sgx.sample Mcl.sample (attestedKms letterFid.cstr) letterFid.cstr
      (labelOf Sgx.sample smokeArtifacts.cFunc) smokeWorker .eccibe :=
  ⟨rfl, CStr.cut_of_le (by decide +kernel), rfl, rfl, rfl⟩

end Protocol
end AsynCS
