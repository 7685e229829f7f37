import AsynCS.Client.BfibeTool
import AsynCS.Kms.BfibeRelease
import AsynCS.Protocol.EnvelopeCodecs
import AsynCS.Protocol.RidAgreement

/-!
# A session key from the client tool to DecKey

The client tool wraps a session key under the public parameters of the KMS, the KMS extracts the
keys of the identities, and the worker opens the envelope with them.

* `generator_eq`: the tool and the trusted wrapper use one generator.
* `opens_of_encryptKeyEnvelope`: what the tool wraps, the key of the identity opens.
* `KeyPurpose`: the two uses of an envelope, with the identities and the associated data of both
  ends; `Provisioned`: a key slot that holds the keys of an FID and of a label.
* `decKey_envelope_iff`: `DecKey` returns the session key when it is given the context of the
  envelope, and the context that the worker builds is this one for the canonical FIDs.
-/

namespace AsynCS
namespace Protocol

open Client Worker

variable {S : Sgx} {M : Mcl}

/-! ## The library at both ends -/

/-- The two copies of the generator are one. -/
theorem generator_eq : BfibeTool.getGenerator M = BfibeMcl.getBfibeG1Generator M := rfl

/-- An envelope with the ciphertext of a session key under a shared secret. -/
structure Wraps (S : Sgx) (M : Mcl) (mpk identity key : Bytes) (v : BfibeKeyEnvelopeView)
    (mpkG1 g1 : M.G1) (q : M.G2) (r : M.Fr) (sharedBytes : Bytes) : Prop where
  mpk : M.deserializeG1 mpk = some mpkG1
  generator : BfibeMcl.getBfibeG1Generator M = some g1
  hash : M.hashAndMapToG2 identity = some q
  c1 : Mcl.sized 96 (M.serializeG1 (r • g1)) = some v.c1
  shared : Mcl.sized 576 (M.serializeGT (r • M.pair mpkG1 q)) = some sharedBytes
  nonce : v.nonce.length = 12
  ciphertext : v.ciphertext =
    (S.gcmEncrypt ((S.sha256 sharedBytes).first 16) (Block.ofBytes 12 v.nonce) (envelopeAad v)
      key).1 ++
    (S.gcmEncrypt ((S.sha256 sharedBytes).first 16) (Block.ofBytes 12 v.nonce) (envelopeAad v)
      key).2.toList

/-- **What the tool writes** is the canonical encoding of an envelope for the purpose, the
identity and the context that it was given. -/
theorem exists_wraps {evp : Bool} {mpk purpose identity aadContext key rBytes nonce b : Bytes}
    (h : BfibeTool.encryptKeyEnvelope S M evp mpk purpose identity aadContext key rBytes nonce =
      some b) :
    ((purpose = requestPurpose ∨ purpose = functionPurpose) ∧
      (key.length = 16 ∨ key.length = 32)) ∧
    ∃ v : BfibeKeyEnvelopeView, b = encodeEnvelope v ∧
      (v.profile = bfibeProfileId ∧ v.purpose = purpose ∧ v.identity = identity ∧
        v.aadContext = aadContext) ∧
      ∃ mpkG1 g1 q r sharedBytes, Wraps S M mpk identity key v mpkG1 g1 q r sharedBytes := by
  unfold BfibeTool.encryptKeyEnvelope at h
  obtain ⟨hpurpose, h⟩ := Option.ite_none_left_eq_some.mp h
  obtain ⟨hkey, h⟩ := Option.ite_none_left_eq_some.mp h
  obtain ⟨mpkG1, hmpk, h⟩ := Option.bind_eq_some_iff.mp h
  obtain ⟨-, h⟩ := Option.ite_none_left_eq_some.mp h
  obtain ⟨g1, hg1, h⟩ := Option.bind_eq_some_iff.mp h
  obtain ⟨-, h⟩ := Option.ite_none_left_eq_some.mp h
  obtain ⟨q, hq, h⟩ := Option.bind_eq_some_iff.mp h
  obtain ⟨sharedBytes, hshared, h⟩ := Option.bind_eq_some_iff.mp h
  obtain ⟨c1, hc1, h⟩ := Option.bind_eq_some_iff.mp h
  obtain ⟨ciphertext, hct, h⟩ := Option.bind_eq_some_iff.mp h
  unfold BfibeTool.aesGcmEncrypt at hct
  obtain ⟨hnonce, hct⟩ := Option.ite_none_left_eq_some.mp hct
  obtain ⟨-, hct⟩ := Option.ite_none_left_eq_some.mp hct
  refine ⟨⟨not_not.mp hpurpose, not_not.mp hkey⟩, _,
    (Option.some.inj h).symm.trans (BfibeTool.encodeEnvelope_eq _), ⟨rfl, rfl, rfl, rfl⟩,
    mpkG1, g1, q, M.setLittleEndianMod rBytes, sharedBytes, ?_⟩
  exact
    { mpk := hmpk
      generator := hg1
      hash := hq
      c1 := hc1
      shared := hshared
      nonce := not_not.mp hnonce
      ciphertext := (Option.some.inj hct).symm }

/-- **What the tool wraps, the key of the identity opens.** -/
theorem Wraps.opens (hS : S.GcmLaws) (hM : M.RoundTrips) {msk mpk identity sk key : Bytes}
    {v : BfibeKeyEnvelopeView} {mpkG1 g1 : M.G1} {q : M.G2} {r : M.Fr} {sharedBytes : Bytes}
    (h : Wraps S M mpk identity key v mpkG1 g1 q r sharedBytes)
    (hkey : key.length = 16 ∨ key.length = 32)
    (hmpk : BfibeMcl.publicFromMsk M msk = some mpk)
    (hsk : BfibeMcl.extract M msk identity = some sk) :
    BfibeMcl.decryptKeyEnvelope S M sk v.c1 v.nonce v.ciphertext (envelopeAad v) =
      some (Block.ofBytes 32 key) := by
  obtain ⟨s, g1', hs, hg1, rfl⟩ := BfibeMcl.exists_of_publicFromMsk hmpk
  obtain ⟨-, s', hs', rfl⟩ := BfibeMcl.exists_of_extract hsk
  obtain rfl := Option.some.inj (hs.symm.trans hs')
  obtain rfl := Option.some.inj (hg1.symm.trans h.generator)
  obtain rfl := Option.some.inj ((hM.g1 _).symm.trans h.mpk)
  -- both ends pair to one element of the target group
  have hpairing : M.pair (r • g1') (s • q) = r • M.pair (s • g1') q :=
    BonehFranklin.recoveredSecret_identityKey M.pairing g1' q s r
  have hshared := h.shared
  rw [← hpairing] at hshared
  have hc1 : M.deserializeG1 v.c1 = some (r • g1') := by
    rw [(Mcl.sized_eq_some_iff.mp h.c1).1]
    exact hM.g1 _
  have hsk : M.deserializeG2 (M.serializeG2
      (s • (M.hashAndMapToG2 identity).getD M.uninitializedG2)) = some (s • q) := by
    rw [h.hash, Option.getD_some]
    exact hM.g2 _
  rw [h.ciphertext, BfibeMcl.decryptKeyEnvelope_append h.nonce (by rwa [hS.length_encrypt]) hsk
    hc1 hshared, hS.decrypt_encrypt, Option.map_some]

/-- The sizes of the parts that the tool has computed. -/
theorem Wraps.lengths (hS : S.GcmLaws) {mpk identity key : Bytes} {v : BfibeKeyEnvelopeView}
    {mpkG1 g1 : M.G1} {q : M.G2} {r : M.Fr} {sharedBytes : Bytes}
    (h : Wraps S M mpk identity key v mpkG1 g1 q r sharedBytes) :
    v.c1 ≠ [] ∧ v.c1.length ≤ 96 ∧ v.ciphertext.length = key.length + 16 := by
  obtain ⟨hc1, hne, hlen⟩ := Mcl.sized_eq_some_iff.mp h.c1
  rw [← hc1] at hne hlen
  refine ⟨hne, hlen, ?_⟩
  rw [h.ciphertext, List.length_append, hS.length_encrypt, List.Vector.toList_length]

/-- What the tool writes for a short identity and a short context passes the worker's parser. -/
theorem Wraps.accepted (hS : S.GcmLaws) {mpk identity key : Bytes} {v : BfibeKeyEnvelopeView}
    {mpkG1 g1 : M.G1} {q : M.G2} {r : M.Fr} {sharedBytes : Bytes}
    (h : Wraps S M mpk identity key v mpkG1 g1 q r sharedBytes)
    (hkey : key.length = 16 ∨ key.length = 32) (hprofile : v.profile = bfibeProfileId)
    (hpurpose : v.purpose = requestPurpose ∨ v.purpose = functionPurpose)
    (hne : v.identity ≠ []) (hidentity : v.identity.length ≤ 131)
    (hcontext : v.aadContext.length ≤ 178) :
    v.Accepted ∧ (envelopeAad v).length ≤ 512 := by
  obtain ⟨hc1ne, hc1, hct⟩ := h.lengths hS
  have hnonce := h.nonce
  have hp18 : v.profile.length = 18 := by
    rw [hprofile]
    rfl
  have hu12 : v.purpose.length ≤ 12 := by
    rcases hpurpose with hu | hu
    · rw [hu]
      exact Nat.le_succ 11
    · rw [hu]
      exact le_refl 12
  have hmagic : bfibeKeyEnvelopeAadMagic.length = 19 := rfl
  refine ⟨⟨?_, hprofile, hpurpose, hne, hc1ne, h.nonce, by omega⟩, ?_⟩
  · unfold BfibeKeyEnvelopeView.Fits BfibeKeyEnvelopeView.parts
    simp only [List.forall_mem_cons]
    refine ⟨?_, ?_, ?_, ?_, ?_, ?_, ?_, List.forall_mem_nil _⟩
    all_goals omega
  · unfold envelopeAad
    simp only [List.length_append, length_aadPart]
    omega

/-! ## DecKey -/

theorem isBfibeEnvelope_encodeEnvelope (v : BfibeKeyEnvelopeView) :
    isBfibeEnvelope (encodeEnvelope v) = true := by
  rw [isBfibeEnvelope_iff, encodeEnvelope, encodeFrame, List.append_assoc]
  exact List.prefix_append _ _

/-- DecKey opens a canonical envelope under the context of the envelope. -/
theorem decKey_encodeEnvelope {B : Bfibe} {ok : DecKeySite → Bool} {slot : BfibeSlot}
    {v : BfibeKeyEnvelopeView} {sk : KeySlot} {key : Block 32} (hok : ok .mclDecrypt = true)
    (hloaded : slot.keyLoaded = true) (hv : v.Accepted) (hsk : identityKey slot v = .ok sk)
    (hlen : sk.len ≠ 0) (haad : (envelopeAad v).length ≤ 512)
    (hopens : B.decryptKeyEnvelope sk.key v.c1 v.nonce v.ciphertext (envelopeAad v) = some key)
    (cap : Option (Block 32)) :
    decKey S B ok slot cap (encodeEnvelope v) v.aadContext = .ok key := by
  have hparse := parseBfibeEnvelope_eq_some_iff.mpr ⟨hv, rfl⟩
  have hbuild := buildBfibeEnvelopeAad_eq_some_iff.mpr ⟨haad, rfl⟩
  rw [decKey_of_isBfibeEnvelope (isBfibeEnvelope_encodeEnvelope v), decKeyBfibe, hloaded, hparse]
  simp only [Bool.not_true, Bool.false_eq_true, if_false, ne_eq, not_true_eq_false, hsk, hok,
    if_true, hbuild]
  show (if sk.len = 0 then _ else _) = _
  rw [if_neg hlen]
  simp only [hopens]

/-- DecKey rejects an envelope under any other context. -/
theorem decKey_encodeEnvelope_ne {B : Bfibe} {slot : BfibeSlot} {v : BfibeKeyEnvelopeView}
    {domain : Bytes} (hloaded : slot.keyLoaded = true) (hv : v.Accepted)
    (hne : v.aadContext ≠ domain) (ok : DecKeySite → Bool) (cap : Option (Block 32)) :
    decKey S B ok slot cap (encodeEnvelope v) domain =
      .error ["Error: BF-IBE key envelope AAD context mismatch.\n"] := by
  have hparse := parseBfibeEnvelope_eq_some_iff.mpr ⟨hv, rfl⟩
  rw [decKey_of_isBfibeEnvelope (isBfibeEnvelope_encodeEnvelope v), decKeyBfibe, hloaded, hparse]
  simp only [Bool.not_true, Bool.false_eq_true, if_false]
  rw [if_pos hne]

/-! ## The two uses of an envelope -/

/-- What a session key is for. -/
inductive KeyPurpose where
  | request
  | function
  deriving DecidableEq

namespace KeyPurpose

/-- The purpose of an envelope. -/
def purpose : KeyPurpose → Bytes
  | request => requestPurpose
  | function => functionPurpose

/-- The identity that an envelope is encrypted to, `fid:<fid>` or `label:<label>`. -/
def identity (fid : Fid) (label : CStr) : KeyPurpose → Bytes
  | request => ascii "fid:" ++ fid.cstr.bytes
  | function => ascii "label:" ++ label.bytes

/-- The context that the smoke-test tool puts into an envelope, `aad_req` or `aad_pkg`. -/
def toolContext (S : Sgx) (fid : Fid) (nonce : Block 16) (pkU : Block 65) :
    KeyPurpose → Option Bytes
  | request => WorkerSmokeArtifacts.buildAadReq S fid.str nonce.toList pkU.toList
  | function => WorkerSmokeArtifacts.buildAadPkg fid.str

/-- The context that a run of the worker gives to `DecKey`. -/
def workerContext (S : Sgx) (fid : Fid) (nonce : Block 16) (pkU : Block 65) : KeyPurpose → Bytes
  | request => aadReq S fid.cstr nonce pkU
  | function => aadPkg fid.cstr

/-- The private key that is meant for it. -/
def secretKey (keys : KeyPairSlots) : KeyPurpose → KeySlot
  | request => keys.requestSk
  | function => keys.functionSk

end KeyPurpose

/-- A BF-IBE key slot with the keys that the KMS extracts for an FID and a label. -/
structure Provisioned (S : Sgx) (M : Mcl) (msk : Bytes) (fid : Fid) (label : CStr)
    (slot : BfibeSlot) : Prop where
  loaded : slot.keyLoaded = true
  fid_eq : slot.fid.str = fid.cstr
  keys : ∀ p : KeyPurpose,
    (M.bfibe S).extract msk (p.identity fid label) = some (p.secretKey slot.keys).key

/-- The smoke-test tool always finds a context. -/
theorem exists_canonicalFid (fid : Fid) :
    ∃ b, canonicalFid fid.str = some b ∧ b.length ≤ max 32 (utf8 fid.text).length := by
  by_cases h : fid.IsDigest
  · obtain ⟨b, hb⟩ := Option.ne_none_iff_exists'.mp h.2
    have hlen := PyStr.length_of_fromHex hb
    rw [PyStr.ofText, List.length_map, h.1] at hlen
    exact ⟨b, (canonicalFid_of_isDigest h).trans hb, le_max_of_le_left (by omega)⟩
  · refine ⟨_, canonicalFid_of_not_isDigest h, le_max_of_le_right ?_⟩
    obtain ⟨before, behind, htext, -⟩ := exists_eq_stripWhile isUnicodeSpace fid.text
    have hlen := congrArg (List.length ∘ utf8) htext
    simp only [Function.comp_apply, utf8_append, List.length_append] at hlen
    rw [Fid.stripped]
    omega

/-- The contexts of both ends are equal exactly when they read the same FID bytes. -/
theorem toolContext_eq_some_workerContext_iff (S : Sgx) (fid : Fid) (nonce : Block 16)
    (pkU : Block 65) (p : KeyPurpose) :
    p.toolContext S fid nonce pkU = some (p.workerContext S fid nonce pkU) ↔ fid.Canonical := by
  rw [← canonicalFid_eq_iff]
  obtain ⟨b, hb, -⟩ := exists_canonicalFid fid
  have hnonce : ¬ nonce.toList.length ≠ 16 := not_not_intro nonce.toList_length
  cases p with
  | request =>
    rw [KeyPurpose.toolContext, KeyPurpose.workerContext, WorkerSmokeArtifacts.buildAadReq,
      if_neg hnonce, WorkerSmokeArtifacts.fidBytes, hb, aadReq, Option.map_some]
    simp only [Option.some.injEq, List.append_cancel_right_eq, List.append_cancel_left_eq]
  | function =>
    rw [KeyPurpose.toolContext, KeyPurpose.workerContext, WorkerSmokeArtifacts.buildAadPkg,
      WorkerSmokeArtifacts.fidBytes, hb, aadPkg, Option.map_some]
    simp only [Option.some.injEq, List.append_cancel_left_eq]

/-- A context of the tool is short. -/
theorem length_of_toolContext {fid : Fid} {nonce : Block 16} {pkU : Block 65} {p : KeyPurpose}
    {context : Bytes} (hlen : (utf8 fid.text).length ≤ 127)
    (h : p.toolContext S fid nonce pkU = some context) : context.length ≤ 178 := by
  obtain ⟨b, hb, hshort⟩ := exists_canonicalFid fid
  have hb127 : b.length ≤ 127 := by omega
  have hliteral : (ascii "REQ").length = 3 ∧ (ascii "PKG").length = 3 := by decide
  cases p with
  | request =>
    rw [KeyPurpose.toolContext, WorkerSmokeArtifacts.buildAadReq,
      if_neg (not_not_intro nonce.toList_length), WorkerSmokeArtifacts.fidBytes, hb,
      Option.map_some] at h
    rw [← Option.some.inj h]
    simp only [List.length_append, List.Vector.toList_length, hliteral]
    omega
  | function =>
    rw [KeyPurpose.toolContext, WorkerSmokeArtifacts.buildAadPkg, WorkerSmokeArtifacts.fidBytes,
      hb, Option.map_some] at h
    rw [← Option.some.inj h]
    simp only [List.length_append, hliteral]
    omega

/-- An identity is short, and not empty. -/
theorem length_identity {fid : Fid} {label : CStr} (hfid : (utf8 fid.text).length ≤ 127)
    (hlabel : label.strlen ≤ 64) (p : KeyPurpose) :
    p.identity fid label ≠ [] ∧ (p.identity fid label).length ≤ 131 := by
  have hliteral : (ascii "fid:").length = 4 ∧ (ascii "label:").length = 6 := by decide
  rw [CStr.strlen] at hlabel
  have hbytes : fid.cstr.bytes.length ≤ 127 := hfid
  rw [← List.length_pos_iff]
  cases p with
  | request =>
    rw [KeyPurpose.identity, List.length_append, hliteral.1]
    omega
  | function =>
    rw [KeyPurpose.identity, List.length_append, hliteral.2]
    omega

/-- The slot has the key that an envelope asks for. -/
theorem Provisioned.identityKey_eq {msk : Bytes} {fid : Fid} {label : CStr} {slot : BfibeSlot}
    (h : Provisioned S M msk fid label slot) {v : BfibeKeyEnvelopeView} {p : KeyPurpose}
    (hpurpose : v.purpose = p.purpose) (hidentity : v.identity = p.identity fid label) :
    identityKey slot v = .ok (p.secretKey slot.keys) := by
  have hne : functionPurpose ≠ requestPurpose := by decide
  unfold identityKey
  cases p with
  | request =>
    have hrequest : v.purpose = requestPurpose := hpurpose
    have hlen : (ascii "fid:" ++ slot.fid.str.bytes).length < 160 := by
      have hfits := slot.fid.fits
      rw [CStr.strlen] at hfits
      rw [List.length_append, show (ascii "fid:").length = 4 by decide]
      omega
    have hid : v.identity = ascii "fid:" ++ slot.fid.str.bytes := by rw [hidentity, h.fid_eq]; rfl
    rw [if_pos hrequest]
    simp only
    rw [if_neg (by omega), if_neg (not_not_intro hid)]
    rfl
  | function =>
    have hfunction : v.purpose = functionPurpose := hpurpose
    have htake : v.identity.take 6 = ascii "label:" := by
      rw [hidentity]
      exact List.take_left' rfl
    rw [if_neg (by rw [hfunction]; exact hne), if_pos hfunction, if_neg (not_not_intro htake)]
    rfl

/-! ## The round trip -/

/-- The public parameters are those of the master secret from which keys are extracted. -/
theorem publicFromMsk_of_params {k : Kms.Globals} {ok okParams : Bool} {msk mpk : Bytes}
    {capacity : ℕ} (hmsk : Kms.deriveBfibeMsk (M.bfibe S) ok k = some msk)
    (hmpk : Kms.ecallGetBfibePublicParams (M.bfibe S) okParams k capacity = some mpk) :
    BfibeMcl.publicFromMsk M msk = some mpk := by
  unfold Kms.ecallGetBfibePublicParams at hmpk
  obtain ⟨-, hmpk⟩ := Option.ite_none_left_eq_some.mp hmpk
  obtain ⟨msk', hmsk', hmpk⟩ := Option.bind_eq_some_iff.mp hmpk
  unfold Kms.deriveBfibeMsk Bfibe.deriveMasterSecretInto at hmsk hmsk'
  obtain ⟨-, hmsk⟩ := Option.ite_none_left_eq_some.mp hmsk
  obtain ⟨-, hmsk⟩ := Option.ite_none_right_eq_some.mp hmsk
  obtain ⟨-, hmsk'⟩ := Option.ite_none_left_eq_some.mp hmsk'
  obtain ⟨-, hmsk'⟩ := Option.ite_none_right_eq_some.mp hmsk'
  obtain rfl := Option.some.inj (hmsk.symm.trans hmsk')
  exact (Option.filter_eq_some_iff.mp hmpk).1

/-- **A wrapped session key comes out of `DecKey`** under the context of its envelope.  The
context that the worker builds is this one for the canonical FIDs and for no other, so that a run
of the worker opens the envelopes of these. -/
theorem decKey_envelope_iff (hS : S.GcmLaws) (hM : M.RoundTrips) {k : Kms.Globals}
    {okMsk okParams : Bool} {msk mpk : Bytes} {capacity : ℕ}
    (hmsk : Kms.deriveBfibeMsk (M.bfibe S) okMsk k = some msk)
    (hmpk : Kms.ecallGetBfibePublicParams (M.bfibe S) okParams k capacity = some mpk)
    {fid : Fid} {label : CStr} (hlabel : label.strlen ≤ 64) {slot : BfibeSlot}
    (hslot : Provisioned S M msk fid label slot) {nonce : Block 16} {pkU : Block 65}
    {p : KeyPurpose} {context : Bytes} (hcontext : p.toolContext S fid nonce pkU = some context)
    {evp : Bool} {key rBytes iv envelope : Bytes}
    (henvelope : BfibeTool.encryptKeyEnvelope S M evp mpk p.purpose (p.identity fid label) context
      key rBytes iv = some envelope)
    {ok : DecKeySite → Bool} (hok : ok .mclDecrypt = true) (cap : Option (Block 32)) :
    decKey S (M.bfibe S) ok slot cap envelope context = .ok (Block.ofBytes 32 key) ∧
      (decKey S (M.bfibe S) ok slot cap envelope (p.workerContext S fid nonce pkU) =
        .ok (Block.ofBytes 32 key) ↔ fid.Canonical) := by
  obtain ⟨⟨hpurpose, hkey⟩, v, rfl, ⟨hprofile, hvpurpose, hvidentity, hvcontext⟩, mpkG1, g1, q, r,
    sharedBytes, hwraps⟩ := exists_wraps henvelope
  have hfid : (utf8 fid.text).length ≤ 127 := by
    have hfits := slot.fid.fits
    rw [hslot.fid_eq] at hfits
    exact hfits
  have hopens := hwraps.opens hS hM hkey (publicFromMsk_of_params hmsk hmpk) (hslot.keys p)
  obtain ⟨hidne, hidlen⟩ := length_identity hfid hlabel p
  obtain ⟨hv, haad⟩ := hwraps.accepted hS hkey hprofile (hvpurpose ▸ hpurpose)
    (hvidentity ▸ hidne) (hvidentity ▸ hidlen) (hvcontext ▸ length_of_toolContext hfid hcontext)
  have hsklen : (p.secretKey slot.keys).len ≠ 0 := by
    intro hzero
    refine (BfibeMcl.exists_of_extract (hslot.keys p)).1 ?_
    rw [KeySlot.key, hzero, List.take_zero]
  have hown : decKey S (M.bfibe S) ok slot cap (encodeEnvelope v) context =
      .ok (Block.ofBytes 32 key) := by
    rw [← hvcontext]
    exact decKey_encodeEnvelope hok hslot.loaded hv (hslot.identityKey_eq hvpurpose hvidentity)
      hsklen haad hopens cap
  refine ⟨hown, ?_⟩
  rw [← toolContext_eq_some_workerContext_iff S fid nonce pkU p, hcontext, Option.some.injEq]
  constructor
  · intro h
    by_contra hne
    rw [decKey_encodeEnvelope_ne hslot.loaded hv (hvcontext ▸ hne) ok cap] at h
    exact absurd h (by simp)
  · intro h
    rw [← h]
    exact hown

/-! ## Two FIDs -/

/-- A KMS with a master key. -/
def keyedKms : Kms.Globals :=
  { Kms.Globals.initial with msk := Block.fill 32 1, mskInitialized := true }

/-- A private key of one byte. -/
def byteKey (x : UInt8) : KeySlot := KeySlot.zero.write [x] (Nat.le_add_left 1 255)

/-- A key slot for an FID. -/
def byteKeySlot (fid : Fid) (requestSk functionSk : UInt8) : BfibeSlot :=
  ⟨⟨byteKey requestSk, byteKey functionSk⟩, Field.store 127 fid.cstr, true⟩

/-- The FID of one letter. -/
def letterFid : Fid := ⟨List.replicate 1 'a', letters_noNul 1⟩

theorem letterThenSpace_noNul : ∀ c ∈ ['a', ' '], c.toNat ≠ 0 := by
  simp only [List.forall_mem_cons]
  exact ⟨by decide, by decide, List.forall_mem_nil _⟩

/-- The FID of one letter and a blank. -/
def blankFid : Fid := ⟨['a', ' '], letterThenSpace_noNul⟩

theorem letterFid_provisioned :
    Provisioned Sgx.sample Mcl.sample [204] letterFid (CStr.letters 1)
      (byteKeySlot letterFid 60 198) where
  loaded := rfl
  fid_eq := CStr.cut_of_le (by decide +kernel)
  keys p := by
    cases p with
    | request => decide +kernel
    | function => decide +kernel

theorem blankFid_provisioned :
    Provisioned Sgx.sample Mcl.sample [204] blankFid (CStr.letters 1)
      (byteKeySlot blankFid 62 198) where
  loaded := rfl
  fid_eq := CStr.cut_of_le (by decide +kernel)
  keys p := by
    cases p with
    | request => decide +kernel
    | function => decide +kernel

/-- The envelope that the tool writes under the parameters of `keyedKms` for a key of sixteen
bytes and one letter as the label. -/
def toolEnvelope (fid : Fid) (p : KeyPurpose) (context : Bytes) : Option Bytes :=
  BfibeTool.encryptKeyEnvelope Sgx.sample Mcl.sample true [199] p.purpose
    (p.identity fid (CStr.letters 1)) context (List.replicate 16 5) [7] (List.replicate 12 0)

/-- The request key for the FID of one letter comes out of `DecKey`. -/
theorem letterFid_decKey :
    ∃ context envelope,
      KeyPurpose.request.toolContext Sgx.sample letterFid (Block.fill 16 0) (Block.fill 65 0) =
        some context ∧
      toolEnvelope letterFid .request context = some envelope ∧
      decKey Sgx.sample (Mcl.sample.bfibe Sgx.sample) (fun _ => true)
        (byteKeySlot letterFid 60 198) none envelope context =
          .ok (Block.ofBytes 32 (List.replicate 16 5)) := by
  have hcontext : (KeyPurpose.request.toolContext Sgx.sample letterFid (Block.fill 16 0)
      (Block.fill 65 0)).isSome = true := by decide +kernel
  obtain ⟨context, hcontext⟩ := Option.isSome_iff_exists.mp hcontext
  have henvelope : (toolEnvelope letterFid .request (aadReq Sgx.sample letterFid.cstr
      (Block.fill 16 0) (Block.fill 65 0))).isSome = true := by decide +kernel
  have hsame : KeyPurpose.request.toolContext Sgx.sample letterFid (Block.fill 16 0)
      (Block.fill 65 0) =
      some (aadReq Sgx.sample letterFid.cstr (Block.fill 16 0) (Block.fill 65 0)) := by
    decide +kernel
  obtain rfl := Option.some.inj (hcontext.symm.trans hsame)
  obtain ⟨envelope, henvelope⟩ := Option.isSome_iff_exists.mp henvelope
  refine ⟨_, envelope, hcontext, henvelope, ?_⟩
  have hmsk : Kms.deriveBfibeMsk (Mcl.sample.bfibe Sgx.sample) true keyedKms = some [204] := by
    decide +kernel
  have hmpk : Kms.ecallGetBfibePublicParams (Mcl.sample.bfibe Sgx.sample) true keyedKms 512 =
      some [199] := by decide +kernel
  exact (decKey_envelope_iff Sgx.sample_gcmLaws Mcl.sample_roundTrips hmsk hmpk (by decide)
    letterFid_provisioned hcontext henvelope rfl none).1

/-- The worker builds another context than the tool when a blank ends the FID. -/
theorem not_forall_decKey :
    ¬ ∀ (S : Sgx) (M : Mcl), S.GcmLaws → M.RoundTrips →
      ∀ (k : Kms.Globals) (msk mpk : Bytes),
        Kms.deriveBfibeMsk (M.bfibe S) true k = some msk →
        Kms.ecallGetBfibePublicParams (M.bfibe S) true k 512 = some mpk →
        ∀ (fid : Fid) (label : CStr) (slot : BfibeSlot) (nonce : Block 16) (pkU : Block 65)
          (p : KeyPurpose) (context key rBytes iv envelope : Bytes),
          label.strlen ≤ 64 → Provisioned S M msk fid label slot →
          p.toolContext S fid nonce pkU = some context →
          BfibeTool.encryptKeyEnvelope S M true mpk p.purpose (p.identity fid label) context key
            rBytes iv = some envelope →
          decKey S (M.bfibe S) (fun _ => true) slot none envelope
            (p.workerContext S fid nonce pkU) = .ok (Block.ofBytes 32 key) := by
  intro h
  have henvelope : (toolEnvelope blankFid .function (ascii "PKGa")).isSome = true := by
    decide +kernel
  obtain ⟨envelope, henvelope⟩ := Option.isSome_iff_exists.mp henvelope
  have hok := h Sgx.sample Mcl.sample Sgx.sample_gcmLaws Mcl.sample_roundTrips keyedKms [204]
    [199] (by decide +kernel) (by decide +kernel) blankFid (CStr.letters 1)
    (byteKeySlot blankFid 62 198) (Block.fill 16 0) (Block.fill 65 0) .function (ascii "PKGa")
    (List.replicate 16 5) [7] (List.replicate 12 0) envelope (by decide) blankFid_provisioned
    (by decide +kernel) henvelope
  have hnone : ((toolEnvelope blankFid .function (ascii "PKGa")).bind fun envelope =>
      (decKey Sgx.sample (Mcl.sample.bfibe Sgx.sample) (fun _ => true)
        (byteKeySlot blankFid 62 198) none envelope
        (KeyPurpose.function.workerContext Sgx.sample blankFid (Block.fill 16 0)
          (Block.fill 65 0))).toOption) = none := by decide +kernel
  rw [henvelope, Option.bind_some, hok] at hnone
  exact absurd hnone (by simp [Except.toOption])

end Protocol
end AsynCS
