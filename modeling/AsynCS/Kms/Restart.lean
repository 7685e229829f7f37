import AsynCS.Kms.PolicyWriteOnce
import AsynCS.Kms.ReleaseGate

/-!
# The policies of the KMS across restarts

An enclave that is started again unseals its master key and begins with an empty registry.  A
run of the KMS is a sequence of calls with restarts in between.

* `KmsEvent`, `lifeStep`: a call, or a restart with the sealed blob of the first start.
* `currentLife`: the calls since the last restart, as a run of one enclave
  (`reach_currentLife`).
* `Accepted`: a registration that returned 0; `enforced_of_accepted`: within one life it is what
  a release is checked against.
* `PolicySurvives`: a release comes with the MRENCLAVE of every registration that was accepted
  before it, in this life or an earlier one.
* `PoliciesRestored`: what is asked of a release; `policySurvives_of_restored` is the run theorem.
-/

namespace AsynCS
namespace Kms

variable {S : Sgx} {B : Bfibe} {msk : Block 32}

/-! ## Runs with restarts -/

/-- A call to the enclave, or a restart of it. -/
inductive KmsEvent where
  | call (c : KmsCall)
  | restart

/-- The FID and the public key that an event releases key material for. -/
def KmsEvent.released : KmsEvent → Option (CStr × Block 64)
  | .call c => c.released
  | .restart => none

/-- The globals behind `ecall_init_kms` in a new enclave. -/
def started (unsealed : Option (Block 32)) (random : Block 32) : Globals :=
  ecallInitKms Globals.initial unsealed random

/-- One event.  A restart unseals the master key that the first start drew. -/
def lifeStep (S : Sgx) (B : Bfibe) (msk : Block 32) (k : Globals) : KmsEvent → Globals × KmsReply
  | .call c => kmsStep S B k c
  | .restart => (started (some msk) (Block.fill 32 0), KmsReply.code 0)

/-- One recorded event. -/
abbrev LifeRecord := Record Globals KmsEvent KmsReply

/-- The first call of every life. -/
def initRecord (unsealed : Option (Block 32)) (random : Block 32) : KmsRecord :=
  ⟨Globals.initial, .initKms unsealed random, KmsReply.code 0⟩

/-- The calls since the last restart, with the call that initialised the enclave. -/
def currentLife (msk : Block 32) : List LifeRecord → List KmsRecord
  | [] => [initRecord none msk]
  | r :: h =>
    match r.input with
    | .call c => ⟨r.pre, c, r.output⟩ :: currentLife msk h
    | .restart => [initRecord (some msk) (Block.fill 32 0)]

/-- **The current life** is a run of one enclave. -/
theorem reach_currentLife {h : List LifeRecord} {k : Globals}
    (hr : Reach (lifeStep S B msk) (started none msk) h k) :
    Reach (kmsStep S B) Globals.initial (currentLife msk h) k := by
  induction hr with
  | start => exact Reach.start.step (KmsCall.initKms none msk)
  | step prior e ih =>
    cases e with
    | call c => exact ih.step c
    | restart => exact Reach.start.step (KmsCall.initKms (some msk) (Block.fill 32 0))

/-! ## Accepted registrations -/

/-- The record is a registration that returned 0. -/
def Accepted (fid : CStr) (m : Block 32) (r : LifeRecord) : Prop :=
  r.input = .call (.registerPolicyFid fid m) ∧ r.output.ret = 0

/-- The events since the last restart. -/
def sinceRestart : List LifeRecord → List LifeRecord
  | [] => []
  | r :: h =>
    match r.input with
    | .call _ => r :: sinceRestart h
    | .restart => []

/-- The events before the last restart. -/
def beforeRestart : List LifeRecord → List LifeRecord
  | [] => []
  | r :: h =>
    match r.input with
    | .call _ => beforeRestart h
    | .restart => h

/-- The FIDs of the event fit `char fid[MAX_FID_LEN]`. -/
def FidFits (r : LifeRecord) : Prop :=
  match r.input with
  | .call (.registerPolicyFid fid _) => fid.strlen ≤ 127
  | _ => True

instance : DecidablePred FidFits
  | ⟨_, .call (.registerPolicyFid _ _), _⟩ => inferInstanceAs (Decidable (_ ≤ _))
  | ⟨_, .call (.initKms _ _), _⟩ | ⟨_, .call (.verifyQuote _), _⟩
  | ⟨_, .call (.verifyQuoteForFid _ _), _⟩ | ⟨_, .call (.setRaResult _ _), _⟩
  | ⟨_, .call (.bindLabelToFid _ _), _⟩ | ⟨_, .call (.checkLabelBinding _ _), _⟩
  | ⟨_, .call (.getPublicKey _ _), _⟩ | ⟨_, .call (.getKey _ _ _), _⟩
  | ⟨_, .call (.deriveKeysBatch _ _ _ _ _), _⟩ | ⟨_, .call (.getBfibePublicParams _ _), _⟩
  | ⟨_, .call (.getBfibeKeyRelease _ _), _⟩ | ⟨_, .call (.bfibeExtractTest _), _⟩
  | ⟨_, .restart, _⟩ => inferInstanceAs (Decidable True)

/-- An accepted registration of the current life is in the registry's history. -/
theorem mem_registryHistory {h : List LifeRecord} {r : LifeRecord} {fid : CStr} {m : Block 32}
    (hr : r ∈ sinceRestart h) (ha : Accepted fid m r) :
    ⟨r.pre.registry, .register fid m, 0⟩ ∈ registryHistory (currentLife msk h) := by
  induction h with
  | nil => exact absurd hr List.not_mem_nil
  | cons q h ih =>
    obtain ⟨pre, e, o⟩ := q
    cases e with
    | restart => exact absurd hr List.not_mem_nil
    | call c =>
      refine List.mem_filterMap.mpr ?_
      rcases List.mem_cons.mp hr with rfl | hr
      · obtain ⟨hin, hout⟩ := ha
        obtain rfl := KmsEvent.call.inj hin
        exact ⟨_, List.mem_cons_self, by rw [← hout]; rfl⟩
      · obtain ⟨q, hq, hreg⟩ := List.mem_filterMap.mp (ih hr)
        exact ⟨q, List.mem_cons_of_mem _ hq, hreg⟩

/-- The registrations of the current life are stored whole. -/
theorem registersWhole_currentLife {h : List LifeRecord} (hfit : ∀ r ∈ h, FidFits r) :
    ∀ q ∈ registryHistory (currentLife msk h), RegistersWhole q := by
  induction h with
  | nil => exact fun q hq => absurd hq List.not_mem_nil
  | cons r h ih =>
    obtain ⟨pre, e, o⟩ := r
    have hfit' : ∀ r ∈ h, FidFits r := fun r hr => hfit r (List.mem_cons_of_mem _ hr)
    cases e with
    | restart => exact fun q hq => absurd hq List.not_mem_nil
    | call c =>
      intro q hq
      obtain ⟨r, hr, hreg⟩ := List.mem_filterMap.mp hq
      rcases List.mem_cons.mp hr with rfl | hr
      · obtain ⟨c', hc', rfl⟩ := Option.map_eq_some_iff.mp hreg
        cases c with
        | registerPolicyFid fid m =>
          obtain rfl := Option.some.inj hc'
          exact .inl (hfit _ List.mem_cons_self)
        | bindLabelToFid fid label =>
          obtain rfl := Option.some.inj hc'
          exact trivial
        | initKms | verifyQuote | verifyQuoteForFid | setRaResult | checkLabelBinding
        | getPublicKey | getKey | deriveKeysBatch | getBfibePublicParams | getBfibeKeyRelease
        | bfibeExtractTest => exact absurd hc' (by simp [KmsCall.toRegistry])
      · exact ih hfit' q (List.mem_filterMap.mpr ⟨r, hr, hreg⟩)

/-- The first registration stays the first. -/
theorem firstRegistered_of_suffix {h t : List RegistryRecord} (hsub : t <:+ h) {fid : CStr}
    {m : Block 32} (ht : firstRegistered t fid = some m) : firstRegistered h fid = some m := by
  obtain ⟨l, rfl⟩ := hsub
  induction l with
  | nil => exact ht
  | cons r l ih => rw [List.cons_append, firstRegistered_cons, ih, Option.some_or]

/-- The first accepted registration is the only one. -/
theorem firstRegistered_of_mem {h : List RegistryRecord} {reg : Registry}
    (hr : Reach registryStep Registry.empty h reg) (hwhole : ∀ r ∈ h, RegistersWhole r)
    {r : RegistryRecord} (hm : r ∈ h) {fid : CStr} {m : Block 32}
    (hin : r.input = .register fid m) (hout : r.output = 0) : firstRegistered h fid = some m := by
  obtain ⟨t, hsub, hpre, -, hstep⟩ := hr.of_mem hm
  have hwhole' : ∀ q ∈ t, RegistersWhole q := fun q hq =>
    hwhole q (hsub.subset (List.mem_cons_of_mem r hq))
  refine firstRegistered_of_suffix hsub ?_
  have hnone : firstRegistered t fid = none := by
    rw [← enforced_eq_firstRegistered hpre hwhole']
    cases henf : r.pre.enforced fid with
    | none => rfl
    | some m₀ =>
      have hret : (0 : Int) = -1 := by
        rw [hin, registryStep, Registry.register_of_enforced henf m, hout] at hstep
        exact hstep
      exact absurd hret (by decide)
  rw [firstRegistered_cons, hnone, Option.none_or, registered, hin]
  exact if_pos ⟨rfl, hout⟩

/-- **Within one life** an accepted registration is what a release is checked against. -/
theorem enforced_of_accepted {h : List LifeRecord} {k : Globals}
    (hr : Reach (lifeStep S B msk) (started none msk) h k) (hfit : ∀ r ∈ h, FidFits r)
    {r : LifeRecord} (hm : r ∈ sinceRestart h) {fid : CStr} {m : Block 32}
    (ha : Accepted fid m r) : k.registry.enforced fid = some m := by
  have hreg := reach_registry (reach_currentLife hr)
  have hwhole : ∀ q ∈ registryHistory (currentLife msk h), RegistersWhole q :=
    registersWhole_currentLife hfit
  rw [enforced_eq_firstRegistered hreg hwhole]
  exact firstRegistered_of_mem hreg hwhole (mem_registryHistory hm ha) rfl rfl

/-! ## Releases -/

/-- A release has passed the policy check. -/
theorem verifyRa_of_released {k : Globals} {c : KmsCall} {fid : CStr} {publicKey : Block 64}
    (hrel : c.released = some (fid, publicKey)) (hzero : (kmsStep S B k c).2.ret = 0) :
    k.verifyRaForFid fid = true := by
  cases c with
  | getKey env f pk =>
    obtain ⟨rfl, rfl⟩ : f = fid ∧ pk = publicKey := by simpa [KmsCall.released] using hrel
    obtain ⟨w, hw, -⟩ := KmsReply.ofKey_ret_eq_zero hzero
    exact (ecallGetKey_some hw).1
  | deriveKeysBatch env envLabel f label pk =>
    obtain ⟨rfl, rfl⟩ : f = fid ∧ pk = publicKey := by simpa [KmsCall.released] using hrel
    obtain ⟨w, hw⟩ := KmsReply.ofBatch_ret_eq_zero hzero
    obtain ⟨v, -, hkey, -⟩ := ecallDeriveKeysBatch_dklabel hw
    exact (ecallGetKey_some hkey).1
  | getBfibeKeyRelease env args =>
    obtain ⟨release, hr⟩ := KmsReply.ofBytes_ret_eq_zero hzero
    obtain ⟨f, label, pk, capacity, hf, -, hp, hr⟩ := ecallGetBfibeKeyRelease_some hr
    obtain ⟨rfl, rfl⟩ : f = fid ∧ pk = publicKey := by
      simpa [KmsCall.released, hf, hp] using hrel
    exact (bfibeKeyRelease_gate hr).1
  | initKms | verifyQuote | verifyQuoteForFid | setRaResult | registerPolicyFid | bindLabelToFid
  | checkLabelBinding | getPublicKey | getBfibePublicParams
  | bfibeExtractTest => exact absurd hrel (by simp [KmsCall.released])

/-- **The policy survives**: the last event, if it released key material for an FID, was made
with the cached MRENCLAVE of every registration for this FID that was accepted before it, in
whichever life. -/
def PolicySurvives (h : List LifeRecord) : Prop :=
  ∀ r t fid publicKey, h = r :: t → r.input.released = some (fid, publicKey) →
    r.output.ret = 0 → ∀ q ∈ t, ∀ m, Accepted fid m q → r.pre.verifiedMrenclave = m

/-- **What is asked of a release** for an FID: every registration for it that was accepted before
the last restart has been accepted again since. -/
def PoliciesRestored (r : LifeRecord) (t : List LifeRecord) : Prop :=
  ∀ fid publicKey, r.input.released = some (fid, publicKey) →
    ∀ q ∈ beforeRestart t, ∀ m, Accepted fid m q → ∃ q' ∈ sinceRestart t, Accepted fid m q'

/-- An accepted registration is of this life or of an earlier one. -/
theorem mem_lives {h : List LifeRecord} {q : LifeRecord} {fid : CStr} {m : Block 32}
    (hq : q ∈ h) (ha : Accepted fid m q) : q ∈ sinceRestart h ∨ q ∈ beforeRestart h := by
  induction h with
  | nil => exact absurd hq List.not_mem_nil
  | cons r h ih =>
    obtain ⟨pre, e, o⟩ := r
    cases e with
    | restart =>
      rcases List.mem_cons.mp hq with rfl | hq
      · exact absurd ha.1 (by simp)
      · exact .inr hq
    | call c =>
      rcases List.mem_cons.mp hq with rfl | hq
      · exact .inl List.mem_cons_self
      · rcases ih hq with hq | hq
        · exact .inl (List.mem_cons_of_mem _ hq)
        · exact .inr hq

/-- **When the policy survives restarts**: in every run of the KMS whose registered FIDs fit
their field and in which every release finds the policies of earlier lives registered again. -/
theorem policySurvives_of_restored {h : List LifeRecord} (hfit : ∀ r ∈ h, FidFits r)
    (hrestored : ∀ r t, r :: t <:+ h → PoliciesRestored r t) :
    Throughout (lifeStep S B msk) (started none msk) (fun t _ => PolicySurvives t) h := by
  intro t' k hsub hreach r t fid publicKey ht hrel hzero q hq m ha
  subst ht
  obtain ⟨c, hin⟩ : ∃ c, r.input = .call c := by
    cases hin : r.input with
    | call c => exact ⟨c, rfl⟩
    | restart =>
      rw [hin] at hrel
      exact absurd hrel (by simp [KmsEvent.released])
  have hrel' : c.released = some (fid, publicKey) := by rwa [hin] at hrel
  obtain ⟨hpre, hstep⟩ := Reach.cons_iff.mp hreach
  have hfit' : ∀ r ∈ t, FidFits r := fun x hx =>
    hfit x (hsub.subset (List.mem_cons_of_mem r hx))
  have hret : (kmsStep S B r.pre c).2.ret = 0 := by
    rw [hin] at hstep
    have hout : (kmsStep S B r.pre c).2 = r.output := congrArg Prod.snd hstep
    rw [hout, hzero]
  obtain ⟨q', hq', ha'⟩ : ∃ q' ∈ sinceRestart t, Accepted fid m q' := by
    rcases mem_lives hq ha with hq | hq
    · exact ⟨q, hq, ha⟩
    · exact hrestored r t hsub fid publicKey hrel q hq m ha
  have henf := enforced_of_accepted hpre hfit' hq' ha'
  exact ((Globals.verifyRaForFid_of_enforced henf).mp (verifyRa_of_released hrel' hret)).2.2

/-- The run of a list of events, from the first start. -/
def lifeRun (events : List KmsEvent) : List LifeRecord :=
  (runOn (lifeStep Sgx.sample Bfibe.sample (Block.fill 32 1)) []
    (started none (Block.fill 32 1)) events).1

/-- A policy, a restart, the policy again, a quote that meets it, and a release. -/
def restoredEvents : List KmsEvent :=
  [.call (.registerPolicyFid (CStr.lit "f") (Block.fill 32 5)), .restart,
    .call (.registerPolicyFid (CStr.lit "f") (Block.fill 32 5)),
    .call (.verifyQuoteForFid (some (CStr.lit "f")) (some (List.replicate 432 5))),
    .call (.getKey sampleKeyEnv (CStr.lit "f") (Block.fill 64 5))]

/-- A run that ends with its only release. -/
theorem policiesRestored_of_single {r : LifeRecord} {t : List LifeRecord}
    (hr : PoliciesRestored r t) (ht : ∀ q ∈ t, q.input.released = none) :
    ∀ r' t', r' :: t' <:+ r :: t → PoliciesRestored r' t' := by
  intro r' t' hsub
  rcases List.suffix_cons_iff.mp hsub with heq | hsub
  · obtain ⟨rfl, rfl⟩ := List.cons.inj heq
    exact hr
  · intro fid publicKey hrel
    rw [ht r' (hsub.subset List.mem_cons_self)] at hrel
    exact absurd hrel (by simp)

theorem restoredEvents_survive :
    Throughout (lifeStep Sgx.sample Bfibe.sample (Block.fill 32 1))
      (started none (Block.fill 32 1)) (fun t _ => PolicySurvives t) (lifeRun restoredEvents) := by
  refine policySurvives_of_restored (by decide +kernel)
    (policiesRestored_of_single ?_ (by decide +kernel))
  intro fid publicKey hrel q hq m ha
  obtain ⟨rfl, -⟩ := Prod.mk.inj (Option.some.inj hrel)
  -- one registration before the restart, and the same one behind it
  obtain rfl := List.mem_singleton.mp hq
  obtain ⟨-, rfl⟩ := KmsCall.registerPolicyFid.inj (KmsEvent.call.inj ha.1)
  exact ⟨_, List.mem_cons_of_mem _ List.mem_cons_self, rfl, rfl⟩

/-- A policy, a restart, a quote of another enclave, and a release. -/
def lostEvents : List KmsEvent :=
  [.call (.registerPolicyFid (CStr.lit "f") (Block.fill 32 5)), .restart,
    .call (.verifyQuoteForFid (some (CStr.lit "f")) (some (List.replicate 432 9))),
    .call (.getKey sampleKeyEnv (CStr.lit "f") (Block.fill 64 9))]

/-- **A restart loses the policy**: the key is released to an enclave with another MRENCLAVE. -/
theorem lostEvents_not_survive :
    ¬ ∀ (S : Sgx) (B : Bfibe) (msk : Block 32) (h : List LifeRecord), (∀ r ∈ h, FidFits r) →
      Throughout (lifeStep S B msk) (started none msk) (fun t _ => PolicySurvives t) h := by
  intro hall
  have hend := hall Sgx.sample Bfibe.sample (Block.fill 32 1) (lifeRun lostEvents)
    (by decide +kernel) _ _
    (List.suffix_refl _) (reach_runOn _ lostEvents Reach.start)
  have hsame := hend _ _ _ _ rfl rfl (by decide +kernel) _
    (List.mem_cons_of_mem _ (List.mem_cons_of_mem _ List.mem_cons_self)) _ ⟨rfl, rfl⟩
  exact absurd hsame (by decide +kernel)

end Kms
end AsynCS
