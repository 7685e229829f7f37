import AsynCS.Kms.BfibeRelease

/-!
# The KMS enclave as a state machine

Every ECALL of the enclave, with arguments the host chooses and with what the platform
answers during the call.  The enclave handles one call at a time, so a run is a sequence of
calls.

* `KmsCall`, `KmsReply`, `kmsStep`: the calls, their answers, and one step.
* `KmsCall.released`: the FID and the public key of a call that can release key material.
* `writesRa`, `RaCacheOf`, `raCacheOf_of_reach`: the cached attestation result is that of the
  latest call that writes it.
* `reach_registry`: what the run does to the registry is a run of the registry.

`ecall_init_kms` may be called at any time and replaces the master key by the unsealed one or
by fresh random bytes; the sealed blob it hands back decides nothing later and is left out.
-/

namespace AsynCS
namespace Kms

/-- A call to the enclave.  `initKms` knows the 32 bytes that unsealing its argument gave,
when it gave any, and the random bytes drawn otherwise. -/
inductive KmsCall where
  | initKms (unsealed : Option (Block 32)) (random : Block 32)
  | verifyQuote (quote : Option Bytes)
  | verifyQuoteForFid (fid : Option CStr) (quote : Option Bytes)
  | setRaResult (verified : Int) (mrenclave : Block 32)
  | registerPolicyFid (fid : CStr) (mrenclave : Block 32)
  | bindLabelToFid (fid label : CStr)
  | checkLabelBinding (fid label : CStr)
  | getPublicKey (env : KeyEnv) (fid : CStr)
  | getKey (env : KeyEnv) (fid : CStr) (publicKey : Block 64)
  | deriveKeysBatch (env envLabel : KeyEnv) (fid label : CStr) (publicKey : Block 64)
  | getBfibePublicParams (ok : Bool) (capacity : ℕ)
  | getBfibeKeyRelease (env : ReleaseEnv) (args : ReleaseArgs)
  | bfibeExtractTest (ok : Bool)
  deriving DecidableEq

/-- The answer to a call: its return value, the keys it wrapped for the worker, and the bytes
it returned (a public key, public parameters, or a BF-IBE release). -/
structure KmsReply where
  ret : Int
  wrapped : List Wrapped
  bytes : Bytes

namespace KmsReply

/-- An answer that carries no key material. -/
def code (ret : Int) : KmsReply := ⟨ret, [], []⟩

/-- 0 with the bytes, or -1. -/
def ofBytes : Option Bytes → KmsReply
  | some bytes => ⟨0, [], bytes⟩
  | none => code (-1)

/-- 0 with the wrapped key, or -1. -/
def ofKey : Option Wrapped → KmsReply
  | some w => ⟨0, [w], []⟩
  | none => code (-1)

/-- 0 when both keys were wrapped; -1 otherwise, also when the first one was. -/
def ofBatch (r : BatchReply) : KmsReply where
  ret := if r.dklabel.isSome then 0 else -1
  wrapped := r.dkf.toList ++ r.dklabel.toList
  bytes := []

theorem ofKey_ret_eq_zero {o : Option Wrapped} (h : (ofKey o).ret = 0) :
    ∃ w, o = some w ∧ (ofKey o).wrapped = [w] := by
  cases o with
  | none => exact absurd h (by decide)
  | some w => exact ⟨w, rfl, rfl⟩

theorem ofBytes_ret_eq_zero {o : Option Bytes} (h : (ofBytes o).ret = 0) : ∃ b, o = some b := by
  cases o with
  | none => exact absurd h (by decide)
  | some b => exact ⟨b, rfl⟩

@[simp] theorem wrapped_code (ret : Int) : (code ret).wrapped = [] := rfl

@[simp] theorem wrapped_ofBytes (o : Option Bytes) : (ofBytes o).wrapped = [] := by
  cases o <;> rfl

theorem ofBatch_ret_eq_zero {r : BatchReply} (h : (ofBatch r).ret = 0) :
    ∃ w, r.dklabel = some w := by
  cases hd : r.dklabel with
  | none => simp [ofBatch, hd] at h
  | some w => exact ⟨w, rfl⟩

end KmsReply

/-- `ecall_init_kms` on the globals. -/
def ecallInitKms (k : Globals) (unsealed : Option (Block 32)) (random : Block 32) : Globals :=
  { k with msk := unsealed.getD random, mskInitialized := true }

/-- One call to the enclave. -/
def kmsStep (S : Sgx) (B : Bfibe) (k : Globals) : KmsCall → Globals × KmsReply
  | .initKms unsealed random => (ecallInitKms k unsealed random, KmsReply.code 0)
  | .verifyQuote _ => (k, KmsReply.code (-1))
  | .verifyQuoteForFid fid quote =>
    let (k', ret) := k.ecallVerifyQuoteForFid fid quote
    (k', KmsReply.code ret)
  | .setRaResult _ _ =>
    let (k', ret) := k.ecallSetRaResult
    (k', KmsReply.code ret)
  | .registerPolicyFid fid mrenclave =>
    let (registry, ret) := k.registry.registerPolicyFid fid mrenclave
    ({ k with registry := registry }, KmsReply.code ret)
  | .bindLabelToFid fid label =>
    let (registry, ret) := k.registry.bindLabelToFid fid label
    ({ k with registry := registry }, KmsReply.code ret)
  | .checkLabelBinding fid label =>
    (k, KmsReply.code (if k.registry.isLabelBoundToFid fid label then 1 else 0))
  | .getPublicKey env fid =>
    (k, KmsReply.ofBytes ((ecallGetPublicKey S env k fid).map List.Vector.toList))
  | .getKey env fid publicKey => (k, KmsReply.ofKey (ecallGetKey S env k fid publicKey))
  | .deriveKeysBatch env envLabel fid label publicKey =>
    (k, KmsReply.ofBatch (ecallDeriveKeysBatch S env envLabel k fid label publicKey))
  | .getBfibePublicParams ok capacity =>
    (k, KmsReply.ofBytes (ecallGetBfibePublicParams B ok k capacity))
  | .getBfibeKeyRelease env args =>
    (k, KmsReply.ofBytes (ecallGetBfibeKeyRelease S B env k args))
  | .bfibeExtractTest ok =>
    (k, KmsReply.code (if ecallBfibeExtractTest B ok k then 0 else -1))

/-- The platform of the sample runs: nothing fails, and every random byte is 7. -/
def sampleKeyEnv : KeyEnv where
  bindingHash := true
  malloc := true
  hash := true
  wrap := ⟨true, some (Block.fill 32 7, Block.fill 64 7), Block.fill 12 7, true⟩

/-- One recorded call to the enclave. -/
abbrev KmsRecord := Record Globals KmsCall KmsReply

namespace KmsCall

/-- The FID and the public key that a key-releasing call is made for. -/
def released : KmsCall → Option (CStr × Block 64)
  | getKey _ fid publicKey => some (fid, publicKey)
  | deriveKeysBatch _ _ fid _ publicKey => some (fid, publicKey)
  | getBfibeKeyRelease _ args => do return (← args.fid, ← args.publicKey)
  | _ => none

/-- The call writes the cached attestation result. -/
def writesRa : KmsCall → Bool
  | verifyQuoteForFid _ _ => true
  | setRaResult _ _ => true
  | _ => false

/-- The registry call that a call makes. -/
def toRegistry : KmsCall → Option RegistryCall
  | registerPolicyFid fid mrenclave => some (.register fid mrenclave)
  | bindLabelToFid fid label => some (.bind fid label)
  | _ => none

end KmsCall

/-! ## The cached attestation result -/

variable {S : Sgx} {B : Bfibe}

/-- The cached attestation result is as the latest of its writers left it: when the flag is
up, that writer was a verification that returned 0, and the cache holds its FID, its
MRENCLAVE and its report data. -/
def RaCacheOf (h : List KmsRecord) (k : Globals) : Prop :=
  k.raVerified = true →
    ∃ v fid quote, h.find? (fun r => r.input.writesRa) = some v ∧
      v.input = .verifyQuoteForFid (some fid) (some quote) ∧ v.output.ret = 0 ∧
      k.verifiedFid = Field.store 127 fid ∧ k.verifiedMrenclave = Globals.quoteMrenclave quote ∧
      k.verifiedReportData = Globals.quoteReportData quote

/-- The part of the state that holds the cached attestation result. -/
def Globals.raCache (k : Globals) : Bool × Block 32 × Field 127 × Block 64 :=
  (k.raVerified, k.verifiedMrenclave, k.verifiedFid, k.verifiedReportData)

/-- Every other call leaves the cached attestation result alone. -/
theorem raCache_kmsStep {k : Globals} {c : KmsCall} (h : c.writesRa = false) :
    (kmsStep S B k c).1.raCache = k.raCache := by
  cases c <;> first | rfl | exact absurd h (by simp [KmsCall.writesRa])

theorem RaCacheOf.congr {h : List KmsRecord} {k k' : Globals} {r : KmsRecord}
    (hk : k'.raCache = k.raCache) (hr : r.input.writesRa = false) (hc : RaCacheOf h k) :
    RaCacheOf (r :: h) k' := by
  obtain ⟨hv, hm, hf, hd⟩ : k'.raVerified = k.raVerified ∧
      k'.verifiedMrenclave = k.verifiedMrenclave ∧ k'.verifiedFid = k.verifiedFid ∧
      k'.verifiedReportData = k.verifiedReportData := by
    simpa [Globals.raCache] using hk
  intro hup
  rw [hv] at hup
  rw [hm, hf, hd, List.find?_cons_of_neg (by simp [hr])]
  exact hc hup

/-- **The cached attestation result** of every run. -/
theorem raCacheOf_of_reach {h : List KmsRecord} {k : Globals}
    (hr : Reach (kmsStep S B) Globals.initial h k) : RaCacheOf h k := by
  refine Reach.invariant RaCacheOf (fun hup => absurd hup (by decide)) ?_ hr
  intro h k c _ ih
  cases hw : c.writesRa with
  | false => exact ih.congr (raCache_kmsStep hw) hw
  | true =>
    intro hup
    cases c with
    | verifyQuoteForFid fid quote =>
      by_cases hz : (k.ecallVerifyQuoteForFid fid quote).2 = 0
      · obtain ⟨f, q, rfl, rfl, -, -, hpost⟩ := Globals.verifyQuoteForFid_eq_zero_iff.mp hz
        refine ⟨_, f, q, List.find?_cons_of_pos rfl, rfl, hz, ?_⟩
        show (Globals.ecallVerifyQuoteForFid k (some f) (some q)).1.verifiedFid = _ ∧ _
        rw [kmsStep, hpost]
        exact ⟨rfl, rfl, rfl⟩
      · have hdown := Globals.raVerified_of_verifyQuote_ne_zero hz
        rw [kmsStep, hdown] at hup
        exact absurd hup (by simp)
    | setRaResult verified mrenclave => exact absurd hup (by simp [kmsStep, Globals.ecallSetRaResult])
    | initKms | verifyQuote | registerPolicyFid | bindLabelToFid | checkLabelBinding
    | getPublicKey | getKey | deriveKeysBatch | getBfibePublicParams | getBfibeKeyRelease
    | bfibeExtractTest => exact absurd hw (by simp [KmsCall.writesRa])

/-! ## The registry within a run -/

/-- The registry calls of a run of the enclave, with their answers. -/
def registryHistory (h : List KmsRecord) : List RegistryRecord :=
  h.filterMap fun r => r.input.toRegistry.map fun c => ⟨r.pre.registry, c, r.output.ret⟩

/-- A call that is not a registry call leaves the registry alone. -/
theorem registry_kmsStep {k : Globals} {c : KmsCall} (h : c.toRegistry = none) :
    (kmsStep S B k c).1.registry = k.registry := by
  cases c with
  | verifyQuoteForFid fid quote => exact Globals.verifyQuoteForFid_registry k fid quote
  | registerPolicyFid | bindLabelToFid => exact absurd h (by simp [KmsCall.toRegistry])
  | initKms | verifyQuote | setRaResult | checkLabelBinding | getPublicKey | getKey
  | deriveKeysBatch | getBfibePublicParams | getBfibeKeyRelease | bfibeExtractTest => rfl

/-- **Within a run of the enclave** the registry goes through a run of its own. -/
theorem reach_registry {h : List KmsRecord} {k : Globals}
    (hr : Reach (kmsStep S B) Globals.initial h k) :
    Reach registryStep Registry.empty (registryHistory h) k.registry := by
  refine Reach.map Globals.registry KmsCall.toRegistry (fun _ o => o.ret)
    (fun k c hc => registry_kmsStep hc) ?_ hr
  intro k c c' hc
  cases c with
  | registerPolicyFid fid m =>
    obtain rfl := Option.some.inj hc
    rfl
  | bindLabelToFid fid label =>
    obtain rfl := Option.some.inj hc
    rfl
  | initKms | verifyQuote | verifyQuoteForFid | setRaResult | checkLabelBinding | getPublicKey
  | getKey | deriveKeysBatch | getBfibePublicParams | getBfibeKeyRelease
  | bfibeExtractTest => exact absurd hc (by simp [KmsCall.toRegistry])

end Kms
end AsynCS
