import AsynCS.Kms.Machine

/-!
# Soundness of the release gate

The host may call the KMS enclave in any order: verify one quote, register a policy, clear the
result, verify another, ask for a key.  Whatever it does, a call that releases key material
for an FID other than `"default_fid"` is answered from the latest attestation: the last call
that wrote the cached result is a successful `ecall_verify_quote_for_fid`, its quote reports
the hash of the key that the material is encrypted to, and when the FID has a policy, the
quote was verified for this FID and carries the MRENCLAVE of the policy.

`released_gate` reads the two checks off one call, `raCacheOf_of_reach` says what they check,
and `release_gate_sound` puts the two together.
-/

namespace AsynCS
namespace Kms

variable {S : Sgx} {B : Bfibe}

/-- **One call.**  A call that returns 0 and releases key material for an FID other than
`"default_fid"` has passed both checks. -/
theorem released_gate {k : Globals} {c : KmsCall} {fid : CStr} {publicKey : Block 64}
    (hrel : c.released = some (fid, publicKey)) (hzero : (kmsStep S B k c).2.ret = 0)
    (hfid : fid ≠ defaultFid) :
    k.verifyRaForFid fid = true ∧
      ∃ hashOk, verifyReportDataBinding S hashOk k publicKey = true := by
  cases c with
  | getKey env f pk =>
    obtain ⟨rfl, rfl⟩ : f = fid ∧ pk = publicKey := by simpa [KmsCall.released] using hrel
    obtain ⟨w, hw, -⟩ := KmsReply.ofKey_ret_eq_zero hzero
    obtain ⟨hra, hrd, -⟩ := ecallGetKey_some hw
    exact ⟨hra, env.bindingHash, hrd hfid⟩
  | deriveKeysBatch env envLabel f label pk =>
    obtain ⟨rfl, rfl⟩ : f = fid ∧ pk = publicKey := by simpa [KmsCall.released] using hrel
    obtain ⟨w, hw⟩ := KmsReply.ofBatch_ret_eq_zero hzero
    obtain ⟨v, -, hkey, -⟩ := ecallDeriveKeysBatch_dklabel hw
    obtain ⟨hra, hrd, -⟩ := ecallGetKey_some hkey
    exact ⟨hra, env.bindingHash, hrd hfid⟩
  | getBfibeKeyRelease env args =>
    obtain ⟨release, hr⟩ := KmsReply.ofBytes_ret_eq_zero hzero
    obtain ⟨f, label, pk, capacity, hf, -, hp, hr⟩ := ecallGetBfibeKeyRelease_some hr
    obtain ⟨rfl, rfl⟩ : f = fid ∧ pk = publicKey := by
      simpa [KmsCall.released, hf, hp] using hrel
    obtain ⟨hra, hrd, -⟩ := bfibeKeyRelease_gate hr
    exact ⟨hra, env.bindingHash, hrd⟩
  | initKms | verifyQuote | verifyQuoteForFid | setRaResult | registerPolicyFid | bindLabelToFid
  | checkLabelBinding | getPublicKey | getBfibePublicParams
  | bfibeExtractTest => exact absurd hrel (by simp [KmsCall.released])

/-- **Soundness of the release gate.**  In every run, a call that returns 0 and releases key
material for `(fid, publicKey)` with `fid` other than `"default_fid"` comes after a successful
verification that is the latest write of the cached result, for this public key; and with a
policy on the FID, that verification was for the FID and met the policy. -/
theorem release_gate_sound {t : List KmsRecord} {r : KmsRecord} {k : Globals}
    (hr : Reach (kmsStep S B) Globals.initial (r :: t) k) {fid : CStr} {publicKey : Block 64}
    (hrel : r.input.released = some (fid, publicKey)) (hzero : r.output.ret = 0)
    (hfid : fid ≠ defaultFid) :
    ∃ v fid' quote, t.find? (fun r => r.input.writesRa) = some v ∧
      v.input = .verifyQuoteForFid (some fid') (some quote) ∧ v.output.ret = 0 ∧
      S.sha256 publicKey.toList = (Globals.quoteReportData quote).first 32 ∧
      ∀ entry, r.pre.registry.findPolicy fid = some entry → entry.policySet = true →
        fid'.cut 127 = fid ∧ Globals.quoteMrenclave quote = entry.policyMrenclave := by
  obtain ⟨hpre, hstep⟩ := Reach.cons_iff.mp hr
  have hret : (kmsStep S B r.pre r.input).2.ret = 0 := by
    rw [hstep]
    exact hzero
  obtain ⟨hra, hashOk, hrd⟩ := released_gate hrel hret hfid
  obtain ⟨hup, -, hhash⟩ := verifyReportDataBinding_iff.mp hrd
  obtain ⟨v, fid', quote, hfind, hin, hout, hvfid, hvm, hvd⟩ := raCacheOf_of_reach hpre hup
  refine ⟨v, fid', quote, hfind, hin, hout, ?_, ?_⟩
  · rw [hhash, hvd]
  · intro entry hentry hset
    have henf : r.pre.registry.enforced fid = some entry.policyMrenclave := by
      simp only [Registry.enforced, hentry, hset, if_true]
    obtain ⟨-, hf, hm⟩ := (Globals.verifyRaForFid_of_enforced henf).mp hra
    rw [hvfid] at hf
    exact ⟨hf, hvm.symm.trans hm⟩

/-- A policy, a quote that meets it, and a key for the worker that the quote reports. -/
def attestedCalls : List KmsCall :=
  [.initKms none (Block.fill 32 1), .registerPolicyFid (CStr.lit "f") (Block.fill 32 5),
    .verifyQuoteForFid (some (CStr.lit "f")) (some (List.replicate 432 5)),
    .getKey sampleKeyEnv (CStr.lit "f") (Block.fill 64 5)]

/-- The key of `attestedCalls` is released, after the verification that the gate asks for. -/
theorem attestedCalls_gate :
    ∃ r t, (runOn (kmsStep Sgx.sample Bfibe.sample) [] Globals.initial attestedCalls).1 = r :: t ∧
      ∃ v fid' quote, t.find? (fun r => r.input.writesRa) = some v ∧
        v.input = .verifyQuoteForFid (some fid') (some quote) ∧ v.output.ret = 0 ∧
        Sgx.sample.sha256 (Block.fill 64 5).toList = (Globals.quoteReportData quote).first 32 ∧
        ∀ entry, r.pre.registry.findPolicy (CStr.lit "f") = some entry →
          entry.policySet = true →
          fid'.cut 127 = CStr.lit "f" ∧ Globals.quoteMrenclave quote = entry.policyMrenclave :=
  ⟨_, _, rfl, release_gate_sound
    (reach_runOn (kmsStep Sgx.sample Bfibe.sample) attestedCalls Reach.start) rfl
    (by decide +kernel) (by decide)⟩

end Kms
end AsynCS
