import AsynCS.Protocol.Provisioning

/-!
# BF-IBE keys for an attested worker

The same exchange in the BF-IBE profile: the KMS extracts the keys of the identities `fid:<fid>` and
`label:<label>`, and the enclave of the worker opens the release.  An FID of more than 54 bytes
leaves no room in the associated data, so its worker gets nothing.

* `BfibeProvisioned`: the extracted keys are in the slot.
* `reply_bfibe_of_entitled`, `reply_bfibe_of_not_entitled`: the answers of the server.
* `keyPath_bfibe_completed_iff`: the key path of a command, over the wire.
-/

namespace AsynCS
namespace Protocol

open Kms WorkerApp

variable {S : Sgx} {B : Bfibe} {env : ServeEnv} {envW : InvokeEnv} {k : Kms.Globals}
  {r : KeyRequest} {body : ReportBody} {g : Worker.Globals}

/-- The keys that this KMS extracts for an FID and a label are in the slot of the BF-IBE profile. -/
structure BfibeProvisioned (B : Bfibe) (k : Kms.Globals) (fid label : CStr)
    (slot : Worker.BfibeSlot) : Prop where
  loaded : slot.keyLoaded = true
  fid_eq : slot.fid.str = fid
  keys : ∃ bfMsk, B.deriveMasterSecret (bfibeMskDomain ++ k.msk.toList) = some bfMsk ∧
    B.extract bfMsk (requestIdentityOf fid).bytes = some slot.keys.requestSk.key ∧
    B.extract bfMsk (functionIdentityOf label).bytes = some slot.keys.functionSk.key

/-- A request for the keys of the BF-IBE profile that the server accepts. -/
structure BfibeRequest (env : ServeEnv) (r : KeyRequest) : Prop where
  admitted : AdmittedRequest r
  profile : r.cryptoProfile = CStr.lit "bfibe-mcl-bls12381"
  accepts : AcceptsQuote env r.quote

/-- Nothing fails on the server while it answers a request of the BF-IBE profile. -/
structure ServesBfibe (S : Sgx) (B : Bfibe) (env : ServeEnv) (k : Kms.Globals) (r : KeyRequest)
    (m : ReleaseMaterial) : Prop where
  verifyCall : env.verifyCall = true
  releaseCall : env.releaseCall = true
  bindingHash : env.releaseEnv.bindingHash = true
  succeeds : ReleaseSucceeds S B env.releaseEnv (verifiedFor k r.fid r.quote) r.fid r.label
    r.publicKey m

/-- What is sent in the BF-IBE profile. -/
theorem sendKeys_bfibe (hprofile : r.cryptoProfile = CStr.lit "bfibe-mcl-bls12381")
    (hcall : env.releaseCall = true) :
    sendKeys S B env k r =
      match bfibeKeyRelease S B env.releaseEnv k r.fid r.label r.publicKey 4096 with
      | none => .error .bfibeKeyReleaseError
      | some release =>
        if release.length = 0 then .error .bfibeKeyReleaseError
        else .release release env.timing := by
  unfold sendKeys
  rw [if_pos hprofile, hcall]
  rfl

/-- **The answer to an entitled worker** is its release, when the FID is short. -/
theorem reply_bfibe_of_entitled (hgcm : S.GcmLaws) (hr : BfibeRequest env r)
    (hreport : Reports S r.quote body r.publicKey) {m : ReleaseMaterial}
    (hserves : ServesBfibe S B env k r m) (h : Entitled k r.fid r.label body.mrEnclave) :
    (handleClient S B env k (encodeKeyRequest r)).2 =
      if r.fid.strlen ≤ 54 then
        .release (encodeKeyRelease (releasedParts S (verifiedFor k r.fid r.quote) r.fid r.label m))
          env.timing
      else .error .bfibeKeyReleaseError := by
  have hra := (verifyRaForFid_verified h.lengths.1 hreport.carries).mpr h.policy
  have hrd := verifyReportDataBinding_verified hreport h.policy
  have hrd' : verifyReportDataBinding S env.releaseEnv.bindingHash (verifiedFor k r.fid r.quote)
      r.publicKey = true := by
    rw [hserves.bindingHash]
    exact hrd
  have hbound : (verifiedFor k r.fid r.quote).registry.isLabelBoundToFid r.fid r.label = true := by
    rw [registry_verifiedFor]
    exact h.bound
  have hmsk := (msk_verifiedFor k r.fid r.quote).2.trans h.msk
  have hrelease := bfibeKeyRelease_eq hgcm hra hrd' hbound hmsk h.lengths.1 h.lengths.2
    hserves.succeeds
  rcases @handleClient_of_accepts S B env k r hr.admitted hr.accepts hserves.verifyCall with
    hsend | ⟨-, hne⟩
  · rw [hsend, sendKeys_bfibe hr.profile hserves.releaseCall, hrelease]
    by_cases hshort : r.fid.strlen ≤ 54
    · have hlen := length_encodeKeyRelease
        (releasedParts S (verifiedFor k r.fid r.quote) r.fid r.label m)
      rw [if_pos hshort, if_pos hshort]
      exact if_neg (by omega)
    · rw [if_neg hshort, if_neg hshort]
  · exact absurd ((verify_eq_zero_iff hreport.carries).mpr h.policy) hne

/-- **The answer to any other worker** is an error. -/
theorem reply_bfibe_of_not_entitled (hr : BfibeRequest env r)
    (hcarries : CarriesReport r.quote body) (hverify : env.verifyCall = true)
    (hrelease : env.releaseCall = true) (h : ¬ Entitled k r.fid r.label body.mrEnclave) :
    ∃ e, (handleClient S B env k (encodeKeyRequest r)).2 = .error e := by
  rcases @handleClient_of_accepts S B env k r hr.admitted hr.accepts hverify with
    hsend | ⟨herror, -⟩
  · refine ⟨.bfibeKeyReleaseError, ?_⟩
    rw [hsend, sendKeys_bfibe hr.profile hrelease]
    cases hkeys : bfibeKeyRelease S B env.releaseEnv (verifiedFor k r.fid r.quote) r.fid r.label
      r.publicKey 4096 with
    | none => rfl
    | some release =>
      exfalso
      obtain ⟨hra, -, hbound⟩ := bfibeKeyRelease_gate hkeys
      rw [registry_verifiedFor] at hbound
      have hfid : r.fid.strlen ≤ 127 := by
        by_contra hlong
        rw [Registry.not_isLabelBound_of_long (Or.inl (Nat.not_le.mp hlong))] at hbound
        exact absurd hbound (by decide)
      refine h ⟨?_, (verifyRaForFid_verified hfid hcarries).mp hra, hbound⟩
      cases hmsk : k.mskInitialized with
      | true => rfl
      | false =>
        have hinit := (msk_verifiedFor k r.fid r.quote).2.trans hmsk
        rw [bfibeKeyRelease_uninitialized hinit] at hkeys
        exact absurd hkeys (by simp)
  · exact ⟨_, herror⟩

/-- **A release that arrives** is loaded: the extracted keys are in the slot. -/
theorem provisioned_of_release (hgcm : S.GcmLaws) (hecdh : S.EcdhCommutes)
    (hready : g.keypairReady = true)
    (hkey : S.calculatePubFromPriv g.privateKey = some r.publicKey)
    (hload : envW.load = ⟨true, true, true⟩) {m : ReleaseMaterial}
    (hs : ReleaseSucceeds S B env.releaseEnv (verifiedFor k r.fid r.quote) r.fid r.label
      r.publicKey m) (hlengths : r.fid.strlen ≤ 127 ∧ r.label.strlen ≤ 64)
    (hshort : r.fid.strlen ≤ 54)
    (harrives : Arrives envW r.fid r.label (.release
      (encodeKeyRelease (releasedParts S (verifiedFor k r.fid r.quote) r.fid r.label m))
      env.timing)) :
    (exchangeKeys S envW r.fid r.label g).2.completed = true ∧
      BfibeProvisioned B k r.fid r.label (exchangeKeys S envW r.fid r.label g).1.bfibe := by
  have hfit : (encodeKeyRelease (releasedParts S (verifiedFor k r.fid r.quote) r.fid r.label
      m)).length ≤ 4096 := by
    have hlen := length_releasedParts hgcm (verifiedFor k r.fid r.quote) r.fid r.label m
    have hrequest := hs.requestLength
    have hfunction := hs.functionLength
    omega
  rw [exchangeKeys_of_handed (demultiplexed_release hfit env.timing) harrives rfl]
  have hopen := openRelease_released hgcm hecdh hshort hlengths.2 hready hkey hs
  have himport : Worker.parseBfibePrivateKeySet (releasedKeySet r.fid r.label m) r.fid
      g.bfibe.keys = (Worker.importedKeys m.requestSk m.functionSk hs.requestLength.2
        hs.functionLength.2, true) := by
    rw [releasedKeySet_eq]
    exact Worker.parseBfibePrivateKeySet_encode hlengths.1
      (lt_of_le_of_lt hlengths.2 (by decide)) hs.requestLength hs.functionLength _
  obtain ⟨hvalue, hstate⟩ := Worker.ecallLoadBfibeKeyRelease_of_import hopen himport
  rw [Handed.proc, hload, hvalue, hstate]
  refine ⟨rfl, ?_⟩
  dsimp only
  rw [Worker.Globals.storeBfibeFid_bfibe, Worker.Globals.setBfibeKeys_bfibe]
  have hmaster := hs.master
  rw [(msk_verifiedFor k r.fid r.quote).1] at hmaster
  refine ⟨rfl, Field.store_str_of_le hlengths.1, m.bfMsk, hmaster, ?_, ?_⟩
  · rw [hs.request, Worker.importedKeys, Worker.KeySlot.key_write]
  · rw [hs.function, Worker.importedKeys, Worker.KeySlot.key_write]

/-- **The key path in the BF-IBE profile, over the wire.**  An entitled worker with an FID of at most
54 bytes gets the keys that the KMS extracts for its FID and its label; every other worker gets
nothing, and its enclave is left as it was. -/
theorem keyPath_bfibe_completed_iff (hgcm : S.GcmLaws) (hecdh : S.EcdhCommutes)
    {privateKey : Block 32} {allowKmsCache : Bool}
    (hasks : skipsKms envW allowKmsCache r.fid g = false)
    (hquote : QuoteWorks envW.quote (privateKey, r.publicKey))
    (hkey : S.calculatePubFromPriv privateKey = some r.publicKey)
    (hr : BfibeRequest env r) (hreport : Reports S r.quote body r.publicKey) {m : ReleaseMaterial}
    (hserves : ServesBfibe S B env k r m) (hload : envW.load = ⟨true, true, true⟩)
    (harrives : Arrives envW r.fid r.label (handleClient S B env k (encodeKeyRequest r)).2) :
    ((keyPath S envW allowKmsCache r.fid r.label g).2.completed = true ↔
        Entitled k r.fid r.label body.mrEnclave ∧ r.fid.strlen ≤ 54) ∧
      ((keyPath S envW allowKmsCache r.fid r.label g).2.completed = true →
        BfibeProvisioned B k r.fid r.label
          (keyPath S envW allowKmsCache r.fid r.label g).1.bfibe) ∧
      ((keyPath S envW allowKmsCache r.fid r.label g).2.completed = false →
        (keyPath S envW allowKmsCache r.fid r.label g).1 =
          withKeyPair g (privateKey, r.publicKey)) := by
  rw [keyPath_of_works hquote hasks]
  by_cases h : Entitled k r.fid r.label body.mrEnclave ∧ r.fid.strlen ≤ 54
  · have hkeyG : S.calculatePubFromPriv (withKeyPair g (privateKey, r.publicKey)).privateKey =
        some r.publicKey := hkey
    rw [reply_bfibe_of_entitled hgcm hr hreport hserves h.1, if_pos h.2] at harrives
    obtain ⟨hcompleted, hprovisioned⟩ := provisioned_of_release
      (g := withKeyPair g (privateKey, r.publicKey)) hgcm hecdh rfl hkeyG hload hserves.succeeds
      h.1.lengths h.2 harrives
    refine ⟨iff_of_true hcompleted h, fun _ => hprovisioned, fun hfalse => ?_⟩
    exact absurd (hcompleted.symm.trans hfalse) (by decide)
  · have herror : ∃ e, (handleClient S B env k (encodeKeyRequest r)).2 = .error e := by
      by_cases hentitled : Entitled k r.fid r.label body.mrEnclave
      · rw [reply_bfibe_of_entitled hgcm hr hreport hserves hentitled,
          if_neg fun hshort => h ⟨hentitled, hshort⟩]
        exact ⟨_, rfl⟩
      · exact reply_bfibe_of_not_entitled hr hreport.carries hserves.verifyCall
          hserves.releaseCall hentitled
    obtain ⟨e, he⟩ := herror
    rw [he] at harrives
    rw [exchangeKeys_of_error harrives]
    exact ⟨iff_of_false Bool.false_ne_true h, fun htrue => absurd htrue Bool.false_ne_true,
      fun _ => rfl⟩

/-- An answer of another length holds no two keys. -/
theorem keysPlain_of_length {reply : ServerReply} (h : reply.payload.length ≠ 248) :
    reply.KeysPlain := by
  rintro dkf dklabel timing rfl
  refine absurd ?_ h
  show (dkf.bytes ++ dklabel.bytes).length = 248
  rw [List.length_append, dkf.length_bytes, dklabel.length_bytes]

/-- A worker with a short FID is provisioned. -/
theorem honest_keyPath_bfibe :
    (keyPath Sgx.sample (honestInvokeEnv (CStr.lit "bfibe-mcl-bls12381")) true (CStr.lit "f")
      (CStr.lit "L") Worker.Globals.initial).2.completed = true := by
  have harrives := arrives_honest (CStr.lit "bfibe-mcl-bls12381") (by decide +kernel)
    (keysPlain_of_length (by decide +kernel)) (CStr.lit "f") (CStr.lit "L")
  obtain ⟨hiff, -⟩ : ((keyPath Sgx.sample (honestInvokeEnv (CStr.lit "bfibe-mcl-bls12381")) true
      (CStr.lit "f") (CStr.lit "L") Worker.Globals.initial).2.completed = true ↔ _) ∧ _ :=
    keyPath_bfibe_completed_iff (r := honestRequest (CStr.lit "bfibe-mcl-bls12381"))
      Sgx.sample_gcmLaws Sgx.sample_ecdhCommutes rfl (quoteWorks_honest _) rfl
      ⟨admittedRequest_honest (by decide), rfl, Or.inl rfl⟩ (reports_honest _)
      ⟨rfl, rfl, rfl, sampleMaterial_succeeds (by decide +kernel) (CStr.lit "f")⟩ rfl harrives
  exact hiff.mpr ⟨entitled_honest, by decide⟩

end Protocol
end AsynCS
