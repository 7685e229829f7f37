import AsynCS.Kms.Registry
import AsynCS.Platform.Sgx
import AsynCS.Protocol.KeyRelease

/-!
# The KMS enclave: attestation state and the keys of the eccibe profile

The globals of the enclave (`g_msk`, the policy registry, and the result of the last quote
verification), the two checks of the release gate, and the release of FID and label keys.

* `resetRa`, `ecallVerifyQuoteForFid`, `ecallSetRaResult`: the writers of the attestation
  state.  `verifyQuoteForFid_eq_zero_iff` says when a verification returns 0 and what it
  leaves.
* `verifyRaForFid`, `verifyReportDataBinding`: the gate.
* `deriveKeyPair`, `wrapScalar`, `ecallGetKey`, `deriveLabelKeyInternal`,
  `ecallDeriveKeysBatch`: which scalar is encrypted for the worker, and under which checks.

A release returns `some` where the source returns 0 and `none` where it returns -1.  Of a
wrapped key the model keeps the scalar that was given to the cipher next to the 124 bytes
that leave the enclave.  A failure of the platform (a hash, an allocation, the ECC context)
is a field of the environment of the call.  Pointers that the source uses without a NULL test
are not NULL here: such a call faults the enclave and returns nothing.
-/

namespace AsynCS
namespace Kms

/-- The globals of the KMS enclave. -/
structure Globals where
  msk : Block 32
  mskInitialized : Bool
  registry : Registry
  raVerified : Bool
  verifiedMrenclave : Block 32
  verifiedFid : Field 127
  verifiedReportData : Block 64

namespace Globals

/-- The globals of a new enclave. -/
def initial : Globals where
  msk := Block.fill 32 0
  mskInitialized := false
  registry := Registry.empty
  raVerified := false
  verifiedMrenclave := Block.fill 32 0
  verifiedFid := Field.zero 127
  verifiedReportData := Block.fill 64 0

/-! ## Attestation state -/

/-- The MRENCLAVE of a quote: 32 bytes at offset 64 of the report body, which starts at 48. -/
def quoteMrenclave (quote : Bytes) : Block 32 := Block.ofBytes 32 (quote.drop (48 + 64))

/-- The report data of a quote: 64 bytes at offset 320 of the report body. -/
def quoteReportData (quote : Bytes) : Block 64 := Block.ofBytes 64 (quote.drop (48 + 320))

/-- "Reset verification state". -/
def resetRa (k : Globals) : Globals :=
  { k with
    raVerified := false
    verifiedMrenclave := Block.fill 32 0
    verifiedFid := Field.zero 127
    verifiedReportData := Block.fill 64 0 }

/-- `ecall_verify_quote_for_fid`. -/
def ecallVerifyQuoteForFid (k : Globals) : Option CStr → Option Bytes → Globals × Int
  | some fid, some quote =>
    if quote.length < 48 + 384 then (k.resetRa, -1)
    else
      let cached : Globals :=
        { k.resetRa with
          verifiedMrenclave := quoteMrenclave quote
          verifiedReportData := quoteReportData quote
          verifiedFid := Field.store 127 fid }
      match k.registry.enforced fid with
      | some policyMrenclave =>
        if cached.verifiedMrenclave ≠ policyMrenclave then (cached.resetRa, -1)
        else ({ cached with raVerified := true }, 0)
      | none => ({ cached with raVerified := true }, 0)
  | _, _ => (k.resetRa, -1)

/-- `ecall_set_ra_result`: the host cannot set the verified state, only clear it. -/
def ecallSetRaResult (k : Globals) : Globals × Int :=
  ({ k with
    raVerified := false
    verifiedMrenclave := Block.fill 32 0
    verifiedFid := Field.zero 127 }, -1)

/-- **When a verification succeeds**, and the state it leaves. -/
theorem verifyQuoteForFid_eq_zero_iff {k : Globals} {fid : Option CStr} {quote : Option Bytes} :
    (k.ecallVerifyQuoteForFid fid quote).2 = 0 ↔
      ∃ f q, fid = some f ∧ quote = some q ∧ 432 ≤ q.length ∧
        (∀ m, k.registry.enforced f = some m → quoteMrenclave q = m) ∧
        (k.ecallVerifyQuoteForFid fid quote).1 =
          { k with
            raVerified := true
            verifiedMrenclave := quoteMrenclave q
            verifiedReportData := quoteReportData q
            verifiedFid := Field.store 127 f } := by
  match fid, quote with
  | none, _ => simp [ecallVerifyQuoteForFid]
  | some f, none => simp [ecallVerifyQuoteForFid]
  | some f, some q =>
    unfold ecallVerifyQuoteForFid
    by_cases hlen : q.length < 48 + 384
    · simp only [hlen, if_true]
      constructor
      · intro h
        exact absurd h (by simp)
      · rintro ⟨_, q', -, hq, hle, -⟩
        obtain rfl := Option.some.inj hq
        omega
    · have hle : 432 ≤ q.length := by omega
      cases he : k.registry.enforced f with
      | none => simp [hlen, he, hle, resetRa]
      | some m =>
        by_cases hm : quoteMrenclave q = m
        · simp [hlen, he, hle, hm, resetRa]
        · simp [hlen, he, hm, resetRa]

/-- A verification that does not return 0 leaves the verified flag down. -/
theorem raVerified_of_verifyQuote_ne_zero {k : Globals} {fid : Option CStr} {quote : Option Bytes}
    (h : (k.ecallVerifyQuoteForFid fid quote).2 ≠ 0) :
    (k.ecallVerifyQuoteForFid fid quote).1.raVerified = false := by
  match fid, quote with
  | none, _ => rfl
  | some _, none => rfl
  | some f, some q =>
    unfold ecallVerifyQuoteForFid at h ⊢
    by_cases hlen : q.length < 48 + 384
    · simp [hlen, resetRa]
    · cases he : k.registry.enforced f with
      | none => simp [hlen, he] at h
      | some m =>
        by_cases hm : quoteMrenclave q = m
        · simp [hlen, he, hm] at h
        · simp [hlen, he, hm, resetRa]

@[simp] theorem verifyQuoteForFid_registry (k : Globals) (fid : Option CStr) (quote : Option Bytes) :
    (k.ecallVerifyQuoteForFid fid quote).1.registry = k.registry := by
  match fid, quote with
  | none, _ => rfl
  | some _, none => rfl
  | some f, some q =>
    unfold ecallVerifyQuoteForFid
    by_cases hlen : q.length < 48 + 384
    · simp [hlen, resetRa]
    · cases he : k.registry.enforced f with
      | none => simp [hlen, he, resetRa]
      | some m =>
        by_cases hm : quoteMrenclave q = m <;> simp [hlen, he, hm, resetRa]

/-! ## The release gate -/

/-- `verify_ra_for_fid`: an FID without a policy is open; otherwise the last verification must
have succeeded, for this FID, with the MRENCLAVE of the policy. -/
def verifyRaForFid (k : Globals) (fid : CStr) : Bool :=
  match k.registry.enforced fid with
  | none => true
  | some policyMrenclave =>
    if !k.raVerified then false
    else if !CStr.strncmpEq 128 k.verifiedFid.str fid then false
    else k.verifiedMrenclave == policyMrenclave

/-- What the policy check guarantees of an FID with a policy. -/
theorem verifyRaForFid_of_enforced {k : Globals} {fid : CStr} {m : Block 32}
    (h : k.registry.enforced fid = some m) :
    k.verifyRaForFid fid = true ↔
      k.raVerified = true ∧ k.verifiedFid.str = fid ∧ k.verifiedMrenclave = m := by
  rw [verifyRaForFid, h, ← Field.strncmpEq_terminated_iff]
  cases k.raVerified
  · simp
  · cases CStr.strncmpEq (127 + 1) k.verifiedFid.str fid <;> simp

end Globals

/-- `verify_report_data_binding`: the hash of the worker's public key is the first half of the
verified report data. -/
def verifyReportDataBinding (S : Sgx) (hashOk : Bool) (k : Globals) (publicKey : Block 64) : Bool :=
  if !k.raVerified then false
  else
    match S.sha256Msg hashOk (some publicKey.toList) with
    | none => false
    | some hPk => hPk == k.verifiedReportData.first 32

/-- What the report-data check guarantees. -/
theorem verifyReportDataBinding_iff {S : Sgx} {hashOk : Bool} {k : Globals} {publicKey : Block 64} :
    verifyReportDataBinding S hashOk k publicKey = true ↔
      k.raVerified = true ∧ hashOk = true ∧
        S.sha256 publicKey.toList = k.verifiedReportData.first 32 := by
  unfold verifyReportDataBinding
  cases k.raVerified
  · simp
  · cases hashOk <;> simp [Sgx.sha256Msg]

/-! ## Keys of the eccibe profile -/

/-- The FID of the tests, `"default_fid"`. -/
def defaultFid : CStr := CStr.lit "default_fid"

/-- The platform during the encryption of one key: the ECC context, the ephemeral key pair,
the IV that was drawn, and whether the cipher call succeeds. -/
structure WrapEnv where
  openContext : Bool
  keyPair : Option (Block 32 × Block 64)
  iv : Block 12
  encrypt : Bool
  deriving DecidableEq

/-- The platform during the derivation and encryption of one key. -/
structure KeyEnv where
  bindingHash : Bool
  malloc : Bool
  hash : Bool
  wrap : WrapEnv
  deriving DecidableEq

/-- A key encrypted for a worker: the scalar given to the cipher, and the blob sent. -/
structure Wrapped where
  scalar : Block 32
  blob : KeyBlob
  deriving DecidableEq

/-- The fixed key of `"default_fid"`, `memset(sk, 0xBB, 32)`. -/
def mockKey : Block 32 := Block.fill 32 0xBB

/-- `SHA256(MSK || s)`, the key of a string. -/
def keyOf (S : Sgx) (k : Globals) (s : CStr) : Block 32 := S.sha256 (k.msk.toList ++ s.bytes)

/-- `derive_key_pair`. -/
def deriveKeyPair (S : Sgx) (env : KeyEnv) (k : Globals) (fid : CStr) :
    Option (Block 32 × Block 64) :=
  if !k.mskInitialized then none
  else if fid = defaultFid then
    (S.calculatePubFromPriv mockKey).map fun pk => (mockKey, pk)
  else if !env.malloc then none
  else do
    let sk ← S.sha256Msg env.hash (some (k.msk.toList ++ fid.bytes))
    let pk ← S.calculatePubFromPriv sk
    return (sk, pk)

/-- Steps 2 to 5 of `ecall_get_key` and of `derive_label_key_internal`, which have the same
text: an ephemeral key pair, the shared secret with the worker's key, and AES-GCM under its
first 16 bytes. -/
def wrapScalar (S : Sgx) (env : WrapEnv) (publicKey : Block 64) (scalar : Block 32) :
    Option Wrapped :=
  if !env.openContext then none
  else do
    let (myPriv, myPub) ← env.keyPair
    let sharedSecret ← S.computeSharedDhkey myPriv publicKey
    if !env.encrypt then none
    else
      let (ciphertext, tag) := S.gcmEncrypt (sharedSecret.first 16) env.iv [] scalar.toList
      some ⟨scalar, ⟨myPub, env.iv, tag, Block.ofBytes 32 ciphertext⟩⟩

/-- `ecall_get_key`. -/
def ecallGetKey (S : Sgx) (env : KeyEnv) (k : Globals) (fid : CStr) (publicKey : Block 64) :
    Option Wrapped :=
  if !k.verifyRaForFid fid then none
  else if fid ≠ defaultFid ∧ !verifyReportDataBinding S env.bindingHash k publicKey then none
  else do
    let (sk, _) ← deriveKeyPair S env k fid
    wrapScalar S env.wrap publicKey sk

/-- `derive_label_key_internal`. -/
def deriveLabelKeyInternal (S : Sgx) (env : KeyEnv) (k : Globals) (fid label : CStr)
    (publicKey : Block 64) : Option Wrapped :=
  if !k.verifyRaForFid fid then none
  else if fid ≠ defaultFid ∧ !verifyReportDataBinding S env.bindingHash k publicKey then none
  else if !k.registry.isLabelBoundToFid fid label then none
  else if !env.malloc then none
  else do
    let labelKey ← S.sha256Msg env.hash (some (k.msk.toList ++ label.bytes))
    wrapScalar S env.wrap publicKey labelKey

/-- What `ecall_derive_keys_batch` leaves: the return value is 0 when both keys were written,
and the first may be written although the call fails. -/
structure BatchReply where
  dkf : Option Wrapped
  dklabel : Option Wrapped

/-- `ecall_derive_keys_batch`. -/
def ecallDeriveKeysBatch (S : Sgx) (env envLabel : KeyEnv) (k : Globals) (fid label : CStr)
    (publicKey : Block 64) : BatchReply :=
  if !k.verifyRaForFid fid then ⟨none, none⟩
  else
    match ecallGetKey S env k fid publicKey with
    | none => ⟨none, none⟩
    | some dkf => ⟨some dkf, deriveLabelKeyInternal S envLabel k fid label publicKey⟩

/-- `ecall_get_public_key`: `04 || X || Y` of the key pair of an FID. -/
def ecallGetPublicKey (S : Sgx) (env : KeyEnv) (k : Globals) (fid : CStr) : Option (Block 65) :=
  (deriveKeyPair S env k fid).map fun p => Block.ofBytes 65 (4 :: p.2.toList)

/-! ## What a release has checked -/

theorem wrapScalar_scalar {S : Sgx} {env : WrapEnv} {publicKey : Block 64} {scalar : Block 32}
    {w : Wrapped} (h : wrapScalar S env publicKey scalar = some w) : w.scalar = scalar := by
  unfold wrapScalar at h
  split at h
  · exact absurd h (by simp)
  · simp only [Option.bind_eq_bind, Option.bind_eq_some_iff] at h
    obtain ⟨⟨myPriv, myPub⟩, -, shared, -, h⟩ := h
    split at h
    · exact absurd h (by simp)
    · rw [← Option.some.inj h]

/-- The scalar of an FID: the mock key for `"default_fid"`, and its hash otherwise. -/
theorem deriveKeyPair_fst {S : Sgx} {env : KeyEnv} {k : Globals} {fid : CStr}
    {p : Block 32 × Block 64} (h : deriveKeyPair S env k fid = some p) :
    k.mskInitialized = true ∧ p.1 = if fid = defaultFid then mockKey else keyOf S k fid := by
  unfold deriveKeyPair at h
  split at h
  · exact absurd h (by simp)
  · rename_i hmsk
    refine ⟨by simpa using hmsk, ?_⟩
    split at h
    · rename_i hd
      rw [if_pos hd]
      obtain ⟨pk, -, rfl⟩ := Option.map_eq_some_iff.mp h
      rfl
    · rename_i hd
      rw [if_neg hd]
      split at h
      · exact absurd h (by simp)
      · simp only [Option.bind_eq_bind, Option.bind_eq_some_iff, Sgx.sha256Msg_eq_some_iff] at h
        obtain ⟨sk, ⟨-, hsk⟩, pk, -, h⟩ := h
        rw [← Option.some.inj h, ← hsk]
        rfl

/-- **A released FID key** has passed the policy check, and for every FID but
`"default_fid"` the report-data check; its scalar is the key of the FID. -/
theorem ecallGetKey_some {S : Sgx} {env : KeyEnv} {k : Globals} {fid : CStr} {publicKey : Block 64}
    {w : Wrapped} (h : ecallGetKey S env k fid publicKey = some w) :
    k.verifyRaForFid fid = true ∧
      (fid ≠ defaultFid → verifyReportDataBinding S env.bindingHash k publicKey = true) ∧
      k.mskInitialized = true ∧ w.scalar = if fid = defaultFid then mockKey else keyOf S k fid := by
  unfold ecallGetKey at h
  split at h
  · exact absurd h (by simp)
  · rename_i hra
    split at h
    · exact absurd h (by simp)
    · rename_i hrd
      simp only [Option.bind_eq_bind, Option.bind_eq_some_iff] at h
      obtain ⟨p, hp, hw⟩ := h
      obtain ⟨hmsk, hsk⟩ := deriveKeyPair_fst hp
      refine ⟨by simpa using hra, fun hne => ?_, hmsk, ?_⟩
      · simpa [hne] using hrd
      · rw [wrapScalar_scalar hw, hsk]

/-- **A released label key** has passed the same checks for its FID, and its label is bound
there; its scalar is the key of the label. -/
theorem deriveLabelKeyInternal_some {S : Sgx} {env : KeyEnv} {k : Globals} {fid label : CStr}
    {publicKey : Block 64} {w : Wrapped}
    (h : deriveLabelKeyInternal S env k fid label publicKey = some w) :
    k.registry.isLabelBoundToFid fid label = true ∧ w.scalar = keyOf S k label := by
  unfold deriveLabelKeyInternal at h
  split at h
  · exact absurd h (by simp)
  · split at h
    · exact absurd h (by simp)
    · split at h
      · exact absurd h (by simp)
      · rename_i hb
        split at h
        · exact absurd h (by simp)
        · simp only [Option.bind_eq_bind, Option.bind_eq_some_iff,
            Sgx.sha256Msg_eq_some_iff] at h
          obtain ⟨key, ⟨-, hkey⟩, hw⟩ := h
          refine ⟨by simpa using hb, ?_⟩
          rw [wrapScalar_scalar hw, ← hkey]
          rfl

/-- A batch that wrote the label key wrote the FID key, and each passed its own checks. -/
theorem ecallDeriveKeysBatch_dklabel {S : Sgx} {env envLabel : KeyEnv} {k : Globals}
    {fid label : CStr} {publicKey : Block 64} {w : Wrapped}
    (h : (ecallDeriveKeysBatch S env envLabel k fid label publicKey).dklabel = some w) :
    ∃ v, (ecallDeriveKeysBatch S env envLabel k fid label publicKey).dkf = some v ∧
      ecallGetKey S env k fid publicKey = some v ∧
      deriveLabelKeyInternal S envLabel k fid label publicKey = some w := by
  unfold ecallDeriveKeysBatch at h ⊢
  cases hra : k.verifyRaForFid fid with
  | false => simp [hra] at h
  | true =>
    cases hg : ecallGetKey S env k fid publicKey with
    | none => simp [hg] at h
    | some v =>
      simp only [hra, hg, Bool.not_true, Bool.false_eq_true, if_false] at h ⊢
      exact ⟨v, rfl, rfl, h⟩

end Kms
end AsynCS
