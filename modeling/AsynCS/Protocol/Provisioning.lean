import AsynCS.Protocol.KeyRequest
import AsynCS.WorkerApp.SkipKms

/-!
# Keys for an attested worker

The host of a worker sends the KMS a quote with the report of the worker enclave.  The KMS verifies
it, wraps the keys of the FID and of the label for the public key that the report names, and the
enclave unwraps them.

* `Entitled`: who is to get the keys of an FID and of a label.
* `verifyRaForFid_verified`, `verifyReportDataBinding_verified`: the gate behind a verification.
* `unwrapKey_of_wrapScalar`: a wrapped key is unwrapped.
* `EccProvisioned`: the keys of the eccibe profile are in the slot.
* `batch_of_entitled`, `entitled_of_batch`: when the KMS has both keys.
* `provisioned_of_entitled`, `unchanged_of_not_entitled`: an exchange in the eccibe profile.
* `keyPath_eccibe_completed_iff`: the key path of a command, over the wire.
-/

namespace AsynCS
namespace Protocol

open Kms WorkerApp

variable {S : Sgx} {B : Bfibe}

/-- The public key of a report is this one. -/
structure Reports (S : Sgx) (quote : Bytes) (body : ReportBody) (publicKey : Block 64) : Prop where
  carries : CarriesReport quote body
  data : body.reportData = reportDataOf S publicKey

/-- A worker with this MRENCLAVE is to get the keys of the FID and of the label. -/
structure Entitled (k : Kms.Globals) (fid label : CStr) (mrEnclave : Block 32) : Prop where
  msk : k.mskInitialized = true
  policy : ∀ m, k.registry.enforced fid = some m → mrEnclave = m
  bound : k.registry.isLabelBoundToFid fid label = true

/-! ## The gate behind a verification -/

section Gate

variable {k : Kms.Globals} {fid label : CStr} {quote : Bytes} {body : ReportBody}
  {publicKey : Block 64}

/-- The state of the KMS behind the verification of a quote. -/
def verifiedFor (k : Kms.Globals) (fid : CStr) (quote : Bytes) : Kms.Globals :=
  (k.ecallVerifyQuoteForFid (some fid) (some quote)).1

/-- A verification succeeds when the MRENCLAVE is the one of the policy. -/
theorem verify_eq_zero_iff (h : CarriesReport quote body) :
    (k.ecallVerifyQuoteForFid (some fid) (some quote)).2 = 0 ↔
      ∀ m, k.registry.enforced fid = some m → body.mrEnclave = m := by
  have hlong : ¬ quote.length < 48 + 384 := Nat.not_lt.mpr h.length
  unfold Kms.Globals.ecallVerifyQuoteForFid
  simp only [if_neg hlong, h.mrenclave]
  cases he : k.registry.enforced fid with
  | none => simp
  | some m =>
    by_cases hm : body.mrEnclave = m
    · simp [hm]
    · simp [hm]

/-- What a verification leaves that succeeds. -/
theorem verifiedFor_of_policy (h : CarriesReport quote body)
    (hpolicy : ∀ m, k.registry.enforced fid = some m → body.mrEnclave = m) :
    verifiedFor k fid quote =
      { k with
        raVerified := true
        verifiedMrenclave := body.mrEnclave
        verifiedReportData := body.reportData
        verifiedFid := Field.store 127 fid } := by
  obtain ⟨f, q, hf, hq, -, -, hstate⟩ :=
    Kms.Globals.verifyQuoteForFid_eq_zero_iff.mp ((verify_eq_zero_iff h).mpr hpolicy)
  obtain rfl := Option.some.inj hf
  obtain rfl := Option.some.inj hq
  rw [verifiedFor, hstate, h.mrenclave, h.reportData]

@[simp] theorem registry_verifiedFor (k : Kms.Globals) (fid : CStr) (quote : Bytes) :
    (verifiedFor k fid quote).registry = k.registry :=
  Kms.Globals.verifyQuoteForFid_registry k (some fid) (some quote)

/-- A verification leaves the master key as it is. -/
theorem msk_verifiedFor (k : Kms.Globals) (fid : CStr) (quote : Bytes) :
    (verifiedFor k fid quote).msk = k.msk ∧
      (verifiedFor k fid quote).mskInitialized = k.mskInitialized := by
  unfold verifiedFor Kms.Globals.ecallVerifyQuoteForFid
  by_cases hlen : quote.length < 48 + 384
  · simp [hlen, Kms.Globals.resetRa]
  · cases he : k.registry.enforced fid with
    | none => simp [hlen, he, Kms.Globals.resetRa]
    | some m =>
      by_cases hm : Kms.Globals.quoteMrenclave quote = m
      · simp [hlen, he, hm, Kms.Globals.resetRa]
      · simp [hlen, he, hm, Kms.Globals.resetRa]

/-- **The policy check** behind a verification, whether this succeeded or not. -/
theorem verifyRaForFid_verified (hfid : fid.strlen ≤ 127) (h : CarriesReport quote body) :
    (verifiedFor k fid quote).verifyRaForFid fid = true ↔
      ∀ m, k.registry.enforced fid = some m → body.mrEnclave = m := by
  cases he : k.registry.enforced fid with
  | none =>
    simp [Kms.Globals.verifyRaForFid, he]
  | some m =>
    have henforced : (verifiedFor k fid quote).registry.enforced fid = some m := by
      rw [registry_verifiedFor, he]
    rw [Kms.Globals.verifyRaForFid_of_enforced henforced]
    constructor
    · rintro ⟨hra, -, -⟩ m' hm'
      obtain rfl := Option.some.inj hm'
      by_contra hne
      have hfails : (k.ecallVerifyQuoteForFid (some fid) (some quote)).2 ≠ 0 := by
        intro hzero
        exact hne ((verify_eq_zero_iff h).mp hzero m he)
      rw [verifiedFor, Kms.Globals.raVerified_of_verifyQuote_ne_zero hfails] at hra
      exact absurd hra (by decide)
    · intro hpolicy
      have hsome : ∀ m', k.registry.enforced fid = some m' → body.mrEnclave = m' := by
        rwa [he]
      rw [verifiedFor_of_policy h hsome]
      exact ⟨rfl, Field.store_str_of_le hfid, hpolicy m rfl⟩

/-- **The report-data check** behind a verification that succeeded: the key is the one that the
report names. -/
theorem verifyReportDataBinding_verified (h : Reports S quote body publicKey)
    (hpolicy : ∀ m, k.registry.enforced fid = some m → body.mrEnclave = m) :
    verifyReportDataBinding S true (verifiedFor k fid quote) publicKey = true := by
  rw [verifyReportDataBinding_iff, verifiedFor_of_policy h.carries hpolicy]
  refine ⟨rfl, rfl, ?_⟩
  rw [h.data]
  exact (ofBytes_eq_of_take (Block.take_toList_ofBytes (S.sha256 publicKey.toList).toList_length
    (by decide))).symm

end Gate

/-! ## Wrapped keys -/

/-- The scalar of an FID. -/
def scalarOf (S : Sgx) (k : Kms.Globals) (fid : CStr) : Block 32 :=
  if fid = defaultFid then mockKey else keyOf S k fid

/-- A verification does not change the keys. -/
theorem keyOf_verifiedFor (k : Kms.Globals) (fid : CStr) (quote : Bytes) (s : CStr) :
    keyOf S (verifiedFor k fid quote) s = keyOf S k s := by
  rw [keyOf, keyOf, (msk_verifiedFor k fid quote).1]

/-- The ephemeral key of the KMS is one, and has a secret with this public key. -/
structure WrapsFor (S : Sgx) (env : WrapEnv) (publicKey : Block 64) : Prop where
  openContext : env.openContext = true
  encrypt : env.encrypt = true
  keyPair : ∃ priv pub secret, env.keyPair = some (priv, pub) ∧
    S.calculatePubFromPriv priv = some pub ∧ S.computeSharedDhkey priv publicKey = some secret

/-- Nothing fails while a key is derived and wrapped for this public key. -/
structure ReleasesFor (S : Sgx) (env : KeyEnv) (publicKey : Block 64) : Prop where
  bindingHash : env.bindingHash = true
  malloc : env.malloc = true
  hash : env.hash = true
  wrap : WrapsFor S env.wrap publicKey

/-- Nothing fails while a blob is unwrapped. -/
structure UnwrapWorks (env : Worker.UnwrapEnv) : Prop where
  openContext : env.openContext = true
  decrypt : env.decrypt = true

variable {publicKey : Block 64} {privateKey : Block 32}

/-- **A wrapped key is unwrapped** with the private key of the worker. -/
theorem unwrapKey_of_wrapScalar (hgcm : S.GcmLaws) (hecdh : S.EcdhCommutes)
    (hkey : S.calculatePubFromPriv privateKey = some publicKey) {env : WrapEnv}
    (henv : WrapsFor S env publicKey) (scalar : Block 32) {envW : Worker.UnwrapEnv}
    (hworks : UnwrapWorks envW) :
    ∃ w, wrapScalar S env publicKey scalar = some w ∧
      Worker.unwrapKey S envW privateKey w.blob = some scalar := by
  obtain ⟨priv, pub, secret, hpair, hpub, hsecret⟩ := henv.keyPair
  have hshared : S.computeSharedDhkey privateKey pub = some secret := by
    rw [← hecdh priv privateKey pub publicKey hpub hkey, hsecret]
  have hsize : (S.gcmEncrypt (secret.first 16) env.iv [] scalar.toList).1.length = 32 := by
    rw [hgcm.length_encrypt, scalar.toList_length]
  let sealed := S.gcmEncrypt (secret.first 16) env.iv [] scalar.toList
  refine ⟨⟨scalar, ⟨pub, env.iv, sealed.2, Block.ofBytes 32 sealed.1⟩⟩, ?_, ?_⟩
  · unfold wrapScalar
    rw [henv.openContext, hpair, henv.encrypt]
    simp only [Bool.not_true, Bool.false_eq_true, if_false, Option.bind_eq_bind, Option.bind_some,
      hsecret]
    rfl
  · unfold Worker.unwrapKey
    rw [hworks.openContext, hworks.decrypt]
    simp only [Bool.not_true, Bool.false_eq_true, if_false, Option.bind_eq_bind, hshared,
      Option.bind_some, sealed, Block.toList_ofBytes hsize, hgcm.decrypt_encrypt,
      Block.ofBytes_toList]

/-! ## The keys of the eccibe profile -/

/-- The keys of an FID and of a label of this KMS are in the slot of the eccibe profile. -/
structure EccProvisioned (S : Sgx) (k : Kms.Globals) (fid label : CStr) (slot : Worker.EccSlot) :
    Prop where
  loaded : slot.keyLoaded = true
  fid_eq : slot.workerFid.str = fid
  fromKms : slot.dklabelFromKms = true
  workerKey : slot.workerKey = scalarOf S k fid
  workerDklabel : slot.workerDklabel = keyOf S k label

/-- The scalar of an FID has a public key. -/
def ScalarValid (S : Sgx) (k : Kms.Globals) (fid : CStr) : Prop :=
  (S.calculatePubFromPriv (scalarOf S k fid)).isSome = true

/-- The key pair of an FID. -/
theorem deriveKeyPair_eq {env : KeyEnv} (hmalloc : env.malloc = true) (hhash : env.hash = true)
    {k : Kms.Globals} (hmsk : k.mskInitialized = true) (fid : CStr) :
    deriveKeyPair S env k fid =
      (S.calculatePubFromPriv (scalarOf S k fid)).map fun pk => (scalarOf S k fid, pk) := by
  unfold deriveKeyPair scalarOf
  rw [hmsk]
  by_cases hdefault : fid = defaultFid
  · rw [if_pos hdefault, if_pos hdefault]
    rfl
  · rw [if_neg hdefault, if_neg hdefault, hmalloc, hhash]
    show ((S.calculatePubFromPriv (keyOf S k fid)).bind fun pk => some (keyOf S k fid, pk)) = _
    cases S.calculatePubFromPriv (keyOf S k fid) with
    | none => rfl
    | some pk => rfl

/-- A long FID has no bound label. -/
theorem Entitled.lengths {k : Kms.Globals} {fid label : CStr} {m : Block 32}
    (h : Entitled k fid label m) : fid.strlen ≤ 127 ∧ label.strlen ≤ 64 := by
  by_contra hlong
  have hfalse : k.registry.isLabelBoundToFid fid label = false := by
    refine Registry.not_isLabelBound_of_long ?_
    rw [not_and_or, Nat.not_le, Nat.not_le] at hlong
    exact hlong
  exact absurd (h.bound.symm.trans hfalse) (by decide)

section Batch

variable {k : Kms.Globals} {fid label : CStr} {quote : Bytes} {body : ReportBody}
  {env envLabel : KeyEnv}

theorem scalarOf_verifiedFor (k : Kms.Globals) (fid : CStr) (quote : Bytes) :
    scalarOf S (verifiedFor k fid quote) fid = scalarOf S k fid := by
  rw [scalarOf, scalarOf, keyOf_verifiedFor]

/-- **An entitled worker gets both keys**, wrapped for the public key that its report names. -/
theorem batch_of_entitled (hgcm : S.GcmLaws) (hecdh : S.EcdhCommutes)
    (hkey : S.calculatePubFromPriv privateKey = some publicKey)
    (hreport : Reports S quote body publicKey) (henv : ReleasesFor S env publicKey)
    (henvLabel : ReleasesFor S envLabel publicKey) {envW envWLabel : Worker.UnwrapEnv}
    (hworks : UnwrapWorks envW) (hworksLabel : UnwrapWorks envWLabel)
    (h : Entitled k fid label body.mrEnclave) (hvalid : ScalarValid S k fid) :
    ∃ dkf dklabel,
      ecallDeriveKeysBatch S env envLabel (verifiedFor k fid quote) fid label publicKey =
        ⟨some dkf, some dklabel⟩ ∧
      Worker.unwrapKey S envW privateKey dkf.blob = some (scalarOf S k fid) ∧
      Worker.unwrapKey S envWLabel privateKey dklabel.blob = some (keyOf S k label) := by
  obtain ⟨pk, hpk⟩ := Option.isSome_iff_exists.mp hvalid
  obtain ⟨dkf, hdkf, hopen⟩ := unwrapKey_of_wrapScalar hgcm hecdh hkey henv.wrap
    (scalarOf S k fid) hworks
  obtain ⟨dklabel, hdklabel, hopenLabel⟩ := unwrapKey_of_wrapScalar hgcm hecdh hkey
    henvLabel.wrap (keyOf S k label) hworksLabel
  have hra := (verifyRaForFid_verified h.lengths.1 hreport.carries).mpr h.policy
  have hrd := verifyReportDataBinding_verified hreport h.policy
  have hinit := (msk_verifiedFor k fid quote).2.trans h.msk
  have hget : ecallGetKey S env (verifiedFor k fid quote) fid publicKey = some dkf := by
    unfold ecallGetKey
    rw [hra, henv.bindingHash, hrd, deriveKeyPair_eq henv.malloc henv.hash hinit,
      scalarOf_verifiedFor, hpk]
    simp only [Bool.not_true, Bool.false_eq_true, and_false, if_false, Option.map_some]
    exact hdkf
  have hlabel : deriveLabelKeyInternal S envLabel (verifiedFor k fid quote) fid label publicKey =
      some dklabel := by
    unfold deriveLabelKeyInternal
    rw [hra, henvLabel.bindingHash, hrd, registry_verifiedFor, h.bound, henvLabel.malloc,
      henvLabel.hash]
    simp only [Bool.not_true, Bool.false_eq_true, and_false, if_false, Sgx.sha256Msg, if_true,
      Option.bind_eq_bind, Option.bind_some]
    rw [← hdklabel, ← keyOf_verifiedFor k fid quote label]
    rfl
  refine ⟨dkf, dklabel, ?_, hopen, hopenLabel⟩
  unfold ecallDeriveKeysBatch
  rw [hra, hget, hlabel]
  rfl

/-- **Only an entitled worker gets both keys.** -/
theorem entitled_of_batch (henv : ReleasesFor S env publicKey) (hcarries : CarriesReport quote body)
    {dklabel : Wrapped}
    (h : (ecallDeriveKeysBatch S env envLabel (verifiedFor k fid quote) fid label
      publicKey).dklabel = some dklabel) :
    Entitled k fid label body.mrEnclave ∧ ScalarValid S k fid := by
  obtain ⟨dkf, -, hget, hlabel⟩ := ecallDeriveKeysBatch_dklabel h
  obtain ⟨hra, -, hinit, -⟩ := ecallGetKey_some hget
  obtain ⟨hbound, -⟩ := deriveLabelKeyInternal_some hlabel
  rw [registry_verifiedFor] at hbound
  have hfid : fid.strlen ≤ 127 := by
    by_contra hlong
    rw [Registry.not_isLabelBound_of_long (Or.inl (Nat.not_le.mp hlong))] at hbound
    exact absurd hbound (by decide)
  refine ⟨⟨(msk_verifiedFor k fid quote).2.symm.trans hinit,
    (verifyRaForFid_verified hfid hcarries).mp hra, hbound⟩, ?_⟩
  unfold ecallGetKey at hget
  obtain ⟨-, hget⟩ := Option.ite_none_left_eq_some.mp hget
  obtain ⟨-, hget⟩ := Option.ite_none_left_eq_some.mp hget
  obtain ⟨p, hp, -⟩ := Option.bind_eq_some_iff.mp hget
  rw [deriveKeyPair_eq henv.malloc henv.hash hinit, scalarOf_verifiedFor] at hp
  obtain ⟨pk, hpk, -⟩ := Option.map_eq_some_iff.mp hp
  rw [ScalarValid, hpk]
  rfl

end Batch

/-! ## The answer of the server -/

/-- The server accepts the quote: it runs in the simulation mode, or the verification library and
the list of its host do. -/
def AcceptsQuote (env : ServeEnv) (quote : Bytes) : Prop :=
  env.simulation = true ∨
    ∃ m, env.verifyQuoteDcap quote = some m ∧ env.checkMrenclavePolicy m = true

/-- What the server sends when it accepts the quote. -/
theorem handleClient_of_accepts {env : ServeEnv} {k : Kms.Globals} {r : KeyRequest}
    (hr : AdmittedRequest r) (haccepts : AcceptsQuote env r.quote) (hcall : env.verifyCall = true) :
    (handleClient S B env k (encodeKeyRequest r)).2 = sendKeys S B env (verifiedFor k r.fid r.quote) r
      ∨ (handleClient S B env k (encodeKeyRequest r)).2 = .error .enclaveVerifyFailed ∧
        (k.ecallVerifyQuoteForFid (some r.fid) (some r.quote)).2 ≠ 0 := by
  have hread : readKeyRequest (encodeKeyRequest r) = .ok r := by
    have h := readKeyRequest_of_admitted hr []
    rwa [List.append_nil] at h
  unfold handleClient
  rw [hread, hcall]
  dsimp only
  rcases haccepts with hsim | ⟨m, hdcap, hpolicy⟩
  · rw [hsim]
    exact Or.inl rfl
  · cases env.simulation with
    | true => exact Or.inl rfl
    | false =>
      rw [hdcap]
      simp only [Bool.false_eq_true, if_false, if_true, hpolicy, Bool.not_true]
      by_cases hzero : (k.ecallVerifyQuoteForFid (some r.fid) (some r.quote)).2 = 0
      · rw [if_neg (not_not_intro hzero)]
        exact Or.inl rfl
      · rw [if_pos hzero]
        exact Or.inr ⟨rfl, hzero⟩

/-- Nothing fails on the server while it answers a request of the eccibe profile. -/
structure ServesEccibe (S : Sgx) (env : ServeEnv) (publicKey : Block 64) : Prop where
  verifyCall : env.verifyCall = true
  releaseCall : env.releaseCall = true
  dkf : ReleasesFor S env.keyEnv publicKey
  dklabel : ReleasesFor S env.labelKeyEnv publicKey

/-- A request for the keys of the eccibe profile that the server accepts. -/
structure EccRequest (env : ServeEnv) (r : KeyRequest) : Prop where
  admitted : AdmittedRequest r
  profile : r.cryptoProfile = CStr.lit "eccibe"
  accepts : AcceptsQuote env r.quote

theorem sendKeys_eccibe {env : ServeEnv} {k : Kms.Globals} {r : KeyRequest}
    (hprofile : r.cryptoProfile = CStr.lit "eccibe") (hcall : env.releaseCall = true) :
    sendKeys S B env k r =
      match (ecallDeriveKeysBatch S env.keyEnv env.labelKeyEnv k r.fid r.label r.publicKey).dkf,
        (ecallDeriveKeysBatch S env.keyEnv env.labelKeyEnv k r.fid r.label r.publicKey).dklabel with
      | some dkf, some dklabel => .keys dkf.blob dklabel.blob env.timing
      | _, _ => .error .keyGenError := by
  have hother : r.cryptoProfile ≠ CStr.lit "bfibe-mcl-bls12381" := by
    rw [hprofile]
    decide
  unfold sendKeys
  rw [if_neg hother, if_neg (not_not_intro hprofile), hcall]
  rfl

/-! ## An exchange -/

/-- The answer of the KMS reaches the host of the worker, which tells it apart. -/
structure Arrives (env : InvokeEnv) (fid label : CStr) (reply : ServerReply) : Prop where
  reaches : (env.net fid label).reaches = true
  delivers : Delivers (env.net fid label).response reply.bytes
  plain : reply.KeysPlain

/-- A text of the server brings the worker nothing. -/
theorem exchangeKeys_of_error {env : InvokeEnv} {fid label : CStr} {e : ServerError}
    (h : Arrives env fid label (.error e)) (g : Worker.Globals) :
    exchangeKeys S env fid label g = (g, ⟨true, false, none, false, KmsTimingTrailer.zero⟩) := by
  have hnet := (demultiplexed_error e).whole _ h.reaches h.delivers
  unfold exchangeKeys
  rw [hnet]
  rfl

/-- Key material is handed to the enclave. -/
theorem exchangeKeys_of_handed {env : InvokeEnv} {fid label : CStr} {reply : ServerReply}
    (hreply : Demultiplexed reply) (h : Arrives env fid label reply) {handed : Handed}
    (hhanded : reply.handed = some handed) (g : Worker.Globals) :
    exchangeKeys S env fid label g =
      ((handed.proc S env fid g).state,
        ⟨true, false, some handed, (handed.proc S env fid g).value.isSome, reply.timing⟩) := by
  have hnet := hreply.whole _ h.reaches h.delivers
  unfold exchangeKeys
  rw [hnet, hhanded]

section Exchange

variable {env : ServeEnv} {envW : InvokeEnv} {k : Kms.Globals} {r : KeyRequest}
  {body : ReportBody} {g : Worker.Globals}

/-- **An entitled worker is provisioned** by one exchange in the eccibe profile. -/
theorem provisioned_of_entitled (hgcm : S.GcmLaws) (hecdh : S.EcdhCommutes)
    (hr : EccRequest env r) (hreport : Reports S r.quote body r.publicKey)
    (hserves : ServesEccibe S env r.publicKey) (hworks : UnwrapWorks envW.unwrap)
    (hworksLabel : UnwrapWorks envW.unwrapLabel)
    (hkey : S.calculatePubFromPriv g.privateKey = some r.publicKey)
    (harrives : Arrives envW r.fid r.label (handleClient S B env k (encodeKeyRequest r)).2)
    (h : Entitled k r.fid r.label body.mrEnclave) (hvalid : ScalarValid S k r.fid) :
    (exchangeKeys S envW r.fid r.label g).2.completed = true ∧
      EccProvisioned S k r.fid r.label (exchangeKeys S envW r.fid r.label g).1.ecc := by
  obtain ⟨dkf, dklabel, hbatch, hopen, hopenLabel⟩ := batch_of_entitled hgcm hecdh hkey hreport
    hserves.dkf hserves.dklabel hworks hworksLabel h hvalid
  have hreply : (handleClient S B env k (encodeKeyRequest r)).2 =
      .keys dkf.blob dklabel.blob env.timing := by
    rcases @handleClient_of_accepts S B env k r hr.admitted hr.accepts hserves.verifyCall with
      hsend | ⟨-, hne⟩
    · rw [hsend, sendKeys_eccibe hr.profile hserves.releaseCall, hbatch]
    · exact absurd ((verify_eq_zero_iff hreport.carries).mpr h.policy) hne
  rw [hreply] at harrives
  have hplain := harrives.plain dkf.blob dklabel.blob env.timing rfl
  rw [exchangeKeys_of_handed (demultiplexed_keys hplain) harrives rfl]
  have hvalue := Worker.value_ecallDecryptKeysBatch (S := S) envW.unwrap envW.unwrapLabel dkf.blob
    dklabel.blob r.fid g
  have hstate := Worker.state_ecallDecryptKeysBatch (S := S) envW.unwrap envW.unwrapLabel dkf.blob
    dklabel.blob r.fid g
  rw [hopen, hopenLabel] at hvalue hstate
  refine ⟨by rw [Handed.proc, hvalue]; rfl, ?_⟩
  rw [Handed.proc, hstate]
  have hfid : (Field.store 128 r.fid).str = r.fid :=
    Field.store_str_of_le (h.lengths.1.trans (by decide))
  dsimp only
  unfold Worker.Globals.storeWorkerFid
  split
  · exact ⟨rfl, hfid, rfl, rfl, rfl⟩
  · exact ⟨rfl, hfid, rfl, rfl, rfl⟩

/-- **Any other worker gets nothing**, and its enclave is as it was. -/
theorem unchanged_of_not_entitled (hr : EccRequest env r)
    (hcarries : CarriesReport r.quote body) (hserves : ServesEccibe S env r.publicKey)
    (harrives : Arrives envW r.fid r.label (handleClient S B env k (encodeKeyRequest r)).2)
    (h : ¬ (Entitled k r.fid r.label body.mrEnclave ∧ ScalarValid S k r.fid)) :
    (exchangeKeys S envW r.fid r.label g).2.completed = false ∧
      (exchangeKeys S envW r.fid r.label g).1 = g := by
  have hreply : ∃ e, (handleClient S B env k (encodeKeyRequest r)).2 = .error e := by
    rcases @handleClient_of_accepts S B env k r hr.admitted hr.accepts hserves.verifyCall with
      hsend | ⟨herror, -⟩
    · refine ⟨.keyGenError, ?_⟩
      rw [hsend, sendKeys_eccibe hr.profile hserves.releaseCall]
      cases hlabel : (ecallDeriveKeysBatch S env.keyEnv env.labelKeyEnv
        (verifiedFor k r.fid r.quote) r.fid r.label r.publicKey).dklabel with
      | some dklabel => exact absurd (entitled_of_batch hserves.dkf hcarries hlabel) h
      | none =>
        split
        · rename_i hnone
          exact absurd hnone (by simp)
        · rfl
    · exact ⟨_, herror⟩
  obtain ⟨e, he⟩ := hreply
  rw [he] at harrives
  rw [exchangeKeys_of_error harrives]
  exact ⟨rfl, rfl⟩

end Exchange

/-! ## The key path -/

/-- `generate_quote` gets a quote for this key pair: of a simulation build, of the quoting enclave,
or the dummy quote. -/
structure QuoteWorks (env : QuoteEnv) (pair : Block 32 × Block 64) : Prop where
  reportCall : env.reportCall = true
  openContext : env.report.openContext = true
  keyPair : env.report.keyPair = some pair
  hash : env.report.hash = true
  malloc : env.malloc = true
  quote : env.simulation = true ∨
    (env.targetInfo = 0 ∧ env.quoteSize = true ∧ env.getQuote = true) ∨
    ((env.targetInfo = 0xe019 ∨ env.targetInfo = 0xe00d) ∧ env.allowDummyQuote = true)

/-- The enclave of a worker behind `ecall_create_report`. -/
def withKeyPair (g : Worker.Globals) (pair : Block 32 × Block 64) : Worker.Globals :=
  { g with privateKey := pair.1, publicKey := pair.2, keypairReady := true }

theorem generateQuote_of_works {env : QuoteEnv} {pair : Block 32 × Block 64}
    (h : QuoteWorks env pair) (g : Worker.Globals) :
    generateQuote env g = .ready (withKeyPair g pair) := by
  have hreport : (Worker.ecallCreateReport env.report g).state = withKeyPair g pair := by
    unfold Worker.ecallCreateReport
    rw [h.openContext, h.keyPair, h.hash]
    rfl
  unfold generateQuote
  simp only [h.reportCall, if_true, hreport, h.malloc, Bool.not_true, Bool.false_eq_true, if_false]
  rcases h.quote with hsim | ⟨htarget, hsize, hget⟩ | ⟨htarget, hdummy⟩
  · rw [hsim]
    rfl
  · simp only [htarget, ne_eq, not_true_eq_false, if_false, hsize, hget, Bool.not_true,
      Bool.or_self, Bool.false_eq_true, ite_self]
  · have hne : env.targetInfo ≠ 0 := by
      rintro hzero
      rw [hzero] at htarget
      exact absurd htarget (by decide)
    simp only [hne, ne_eq, not_false_eq_true, if_true, htarget, hdummy, Bool.not_true,
      Bool.false_eq_true, if_false, ite_self]

/-- A command that asks the KMS goes through one exchange. -/
theorem keyPath_of_works {env : InvokeEnv} {pair : Block 32 × Block 64}
    (h : QuoteWorks env.quote pair) {allowKmsCache : Bool} {fid label : CStr} {g : Worker.Globals}
    (hasks : skipsKms env allowKmsCache fid g = false) :
    keyPath S env allowKmsCache fid label g =
      exchangeKeys S env fid label (withKeyPair g pair) := by
  unfold keyPath
  rw [hasks, generateQuote_of_works h]
  rfl

/-- **The key path in the eccibe profile, over the wire.**  The worker enclave makes a key pair, its
host sends the KMS a quote with the report of the enclave, and the answer arrives.  The enclave then
holds the keys of the FID and of the label of this KMS when the worker is entitled to them, and is
left as it was otherwise. -/
theorem keyPath_eccibe_completed_iff (hgcm : S.GcmLaws) (hecdh : S.EcdhCommutes) {env : ServeEnv}
    {envW : InvokeEnv} {k : Kms.Globals} {r : KeyRequest} {body : ReportBody} {g : Worker.Globals}
    {privateKey : Block 32} {allowKmsCache : Bool}
    (hasks : skipsKms envW allowKmsCache r.fid g = false)
    (hquote : QuoteWorks envW.quote (privateKey, r.publicKey))
    (hkey : S.calculatePubFromPriv privateKey = some r.publicKey)
    (hr : EccRequest env r) (hreport : Reports S r.quote body r.publicKey)
    (hserves : ServesEccibe S env r.publicKey) (hworks : UnwrapWorks envW.unwrap)
    (hworksLabel : UnwrapWorks envW.unwrapLabel)
    (harrives : Arrives envW r.fid r.label (handleClient S B env k (encodeKeyRequest r)).2) :
    ((keyPath S envW allowKmsCache r.fid r.label g).2.completed = true ↔
        Entitled k r.fid r.label body.mrEnclave ∧ ScalarValid S k r.fid) ∧
      ((keyPath S envW allowKmsCache r.fid r.label g).2.completed = true →
        EccProvisioned S k r.fid r.label (keyPath S envW allowKmsCache r.fid r.label g).1.ecc) ∧
      ((keyPath S envW allowKmsCache r.fid r.label g).2.completed = false →
        (keyPath S envW allowKmsCache r.fid r.label g).1 =
          withKeyPair g (privateKey, r.publicKey)) := by
  rw [keyPath_of_works hquote hasks]
  by_cases h : Entitled k r.fid r.label body.mrEnclave ∧ ScalarValid S k r.fid
  · have hkeyG : S.calculatePubFromPriv (withKeyPair g (privateKey, r.publicKey)).privateKey =
        some r.publicKey := hkey
    obtain ⟨hcompleted, hprovisioned⟩ := provisioned_of_entitled hgcm hecdh hr hreport hserves
      hworks hworksLabel hkeyG harrives h.1 h.2
    refine ⟨iff_of_true hcompleted h, fun _ => hprovisioned, fun hfalse => ?_⟩
    exact absurd (hcompleted.symm.trans hfalse) (by decide)
  · obtain ⟨hcompleted, hstate⟩ := unchanged_of_not_entitled (S := S) (B := B)
      (g := withKeyPair g (privateKey, r.publicKey)) hr hreport.carries hserves harrives h
    refine ⟨iff_of_false ?_ h, fun htrue => ?_, fun _ => hstate⟩
    · rw [hcompleted]
      decide
    · exact absurd (htrue.symm.trans hcompleted) (by decide)

/-! ## A sample exchange -/

/-- A KMS that draws an ephemeral key pair. -/
def honestKeyEnv : KeyEnv :=
  { sampleKeyEnv with
    wrap := ⟨true, some (Block.fill 32 7, Block.ofBytes 64 (Block.fill 32 7).toList),
      Block.fill 12 7, true⟩ }

/-- A server of the simulation mode on which nothing fails. -/
def honestServeEnv : ServeEnv :=
  { sampleServeEnv with
    simulation := true
    keyEnv := honestKeyEnv
    labelKeyEnv := honestKeyEnv }

/-- The report of the worker with `samplePublicKey`. -/
def sampleReportBody : ReportBody :=
  ⟨Block.fill 64 0, Block.fill 32 0, Block.fill 224 0, reportDataOf Sgx.sample samplePublicKey⟩

/-- Its request for the keys of the FID `f` and the label `L`. -/
def honestRequest (profile : CStr) : KeyRequest :=
  ⟨simQuote sampleReportBody, CStr.lit "f", CStr.lit "L", samplePublicKey, profile⟩

/-- The answer of `attestedKms`. -/
def honestReply (profile : CStr) : ServerReply :=
  (handleClient Sgx.sample Bfibe.sample honestServeEnv (attestedKms (CStr.lit "f"))
    (encodeKeyRequest (honestRequest profile))).2

/-- The host of the worker, which the answer reaches in one piece. -/
def honestInvokeEnv (profile : CStr) : InvokeEnv :=
  { sampleInvokeEnv with
    quote := ⟨true, 0, false, true, true, ⟨true, some (Block.fill 32 5, samplePublicKey), true⟩,
      true, true⟩
    net := fun _ _ => netOf (honestReply profile).bytes }

theorem admittedRequest_honest {profile : CStr} (h : Admits 64 profile.bytes) :
    AdmittedRequest (honestRequest profile) where
  quote := by
    have hlen : (honestRequest profile).quote.length = 1024 := length_simQuote sampleReportBody
    refine ⟨fun hnil => ?_, by rw [hlen]; decide⟩
    rw [hnil] at hlen
    exact absurd hlen (by decide)
  fid := show Admits 4096 (CStr.lit "f").bytes by decide
  label := show Admits 128 (CStr.lit "L").bytes by decide
  cryptoProfile := h

theorem reports_honest (profile : CStr) :
    Reports Sgx.sample (honestRequest profile).quote sampleReportBody samplePublicKey :=
  ⟨carriesReport_simQuote sampleReportBody, rfl⟩

theorem releasesFor_honest : ReleasesFor Sgx.sample honestKeyEnv samplePublicKey :=
  ⟨rfl, rfl, rfl, ⟨rfl, rfl, _, _, _, rfl, rfl, rfl⟩⟩

theorem quoteWorks_honest (profile : CStr) :
    QuoteWorks (honestInvokeEnv profile).quote (Block.fill 32 5, samplePublicKey) :=
  ⟨rfl, rfl, rfl, rfl, rfl, Or.inl rfl⟩

theorem eccRequest_honest : EccRequest honestServeEnv (honestRequest (CStr.lit "eccibe")) :=
  ⟨admittedRequest_honest (by decide), rfl, Or.inl rfl⟩

theorem entitled_honest :
    Entitled (attestedKms (CStr.lit "f")) (CStr.lit "f") (CStr.lit "L")
      sampleReportBody.mrEnclave := by
  have hopen : (attestedKms (CStr.lit "f")).registry.enforced (CStr.lit "f") = none := by
    decide +kernel
  refine ⟨by decide +kernel, fun m hm => ?_, by decide +kernel⟩
  exact absurd (hm.symm.trans hopen) (by simp)

theorem arrives_honest (profile : CStr) (hne : (honestReply profile).bytes ≠ [])
    (hplain : (honestReply profile).KeysPlain) (fid label : CStr) :
    Arrives (honestInvokeEnv profile) fid label (honestReply profile) :=
  ⟨rfl, delivers_chunk hne, hplain⟩

/-- A worker whose FID is open is provisioned. -/
theorem honest_keyPath_eccibe :
    (keyPath Sgx.sample (honestInvokeEnv (CStr.lit "eccibe")) true (CStr.lit "f") (CStr.lit "L")
      Worker.Globals.initial).2.completed = true := by
  have harrives := arrives_honest (CStr.lit "eccibe") (by decide +kernel)
    (fun _ _ _ _ => by decide +kernel) (CStr.lit "f") (CStr.lit "L")
  obtain ⟨hiff, -⟩ : ((keyPath Sgx.sample (honestInvokeEnv (CStr.lit "eccibe")) true
      (CStr.lit "f") (CStr.lit "L") Worker.Globals.initial).2.completed = true ↔ _) ∧ _ :=
    keyPath_eccibe_completed_iff Sgx.sample_gcmLaws Sgx.sample_ecdhCommutes rfl
      (quoteWorks_honest _) rfl eccRequest_honest (reports_honest _)
      ⟨rfl, rfl, releasesFor_honest, releasesFor_honest⟩ ⟨rfl, rfl⟩ ⟨rfl, rfl⟩ harrives
  exact hiff.mpr ⟨entitled_honest, rfl⟩

end Protocol
end AsynCS
