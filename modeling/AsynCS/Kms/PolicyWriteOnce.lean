import AsynCS.Kms.Registry

/-!
# The policy of an FID is written once

Over a run of registrations and bindings from the empty registry, the MRENCLAVE that
`find_policy(fid)` makes a release require should be the argument of the first
`ecall_register_policy_fid(fid, .)` that returned 0, and nothing else should ever move it.

The abstract policy is `firstRegistered`: a function of the history alone, with no registry
in it.  `enforced_eq_firstRegistered` is the refinement: the registry enforces exactly that,
as long as every FID registered with room in the registry fits `char fid[MAX_FID_LEN]`.

A longer FID breaks it at once.  `register_policy_fid` stores its first 127 bytes and returns
0, `find_policy` compares the whole string, and so the FID just registered is open while the
cut FID, registered by nobody, has a policy.  `writeOnce_iff_registersWhole` is the exact
condition on a run, and `long_fid_not_writeOnce` a run of one call that fails it.
-/

namespace AsynCS
namespace Kms

open Registry

/-- What a recorded call registered for `fid`: the argument of a registration of exactly this
FID that returned 0. -/
def registered (fid : CStr) (r : RegistryRecord) : Option (Block 32) :=
  match r.input with
  | .register f m => if f = fid ∧ r.output = 0 then some m else none
  | .bind _ _ => none

/-- The policy of `fid` after a history: the argument of its first registration that
returned 0. -/
def firstRegistered (h : List RegistryRecord) (fid : CStr) : Option (Block 32) :=
  h.reverse.findSome? (registered fid)

@[simp] theorem firstRegistered_nil (fid : CStr) : firstRegistered [] fid = none := rfl

theorem firstRegistered_cons (r : RegistryRecord) (h : List RegistryRecord) (fid : CStr) :
    firstRegistered (r :: h) fid = (firstRegistered h fid).or (registered fid r) := by
  rw [firstRegistered, List.reverse_cons, List.findSome?_append, firstRegistered]
  congr 1
  rw [List.findSome?_cons]
  cases registered fid r <;> rfl

/-- **Write-once, at one point of a run**: the registry enforces the first accepted
registration of every admitted FID; the last call, if it registered an FID that already had a
policy, returned -1; and if it returned -1 it changed nothing. -/
structure WriteOnce (h : List RegistryRecord) (reg : Registry) : Prop where
  enforced : ∀ fid, AdmittedFid fid → reg.enforced fid = firstRegistered h fid
  later : ∀ r t fid m, h = r :: t → AdmittedFid fid → r.input = .register fid m →
    firstRegistered t fid ≠ none → r.output = -1
  refused : ∀ r t, h = r :: t → r.output = -1 → reg = r.pre

/-- The FID of a registration fits its field, or the registry has no room for a new entry. -/
def RegistersWhole (r : RegistryRecord) : Prop :=
  match r.input with
  | .register fid _ => fid.strlen ≤ 127 ∨ r.pre.full = true
  | .bind _ _ => True

instance : DecidablePred RegistersWhole
  | ⟨_, .register _ _, _⟩ => inferInstanceAs (Decidable (_ ∨ _))
  | ⟨_, .bind _ _, _⟩ => inferInstanceAs (Decidable True)

/-- A registration too long for its field finds no entry, so a full registry refuses it. -/
theorem register_long_of_full {reg : Registry} {fid : CStr} (hfid : 127 < fid.strlen)
    (hfull : reg.full = true) (m : Block 32) : reg.registerPolicyFid fid m = (reg, -1) := by
  rcases registerPolicyFid_cases reg fid m with ⟨e, hf, -, -⟩ | ⟨e, hf, -, -⟩ | ⟨-, -, hr⟩ |
    ⟨-, hroom, -⟩
  · rw [findPolicy_eq_none_of_long hfid] at hf
    exact absurd hf (by simp)
  · rw [findPolicy_eq_none_of_long hfid] at hf
    exact absurd hf (by simp)
  · exact hr
  · rw [hfull] at hroom
    exact absurd hroom (by simp)

/-- A registration too long for its field is accepted while there is room. -/
theorem register_long_of_room {reg : Registry} {fid : CStr} (hfid : 127 < fid.strlen)
    (hroom : reg.full = false) (m : Block 32) : (reg.registerPolicyFid fid m).2 = 0 := by
  rcases registerPolicyFid_cases reg fid m with ⟨e, hf, -, -⟩ | ⟨e, hf, -, -⟩ | ⟨-, hfull, -⟩ |
    ⟨-, -, hr⟩
  · rw [findPolicy_eq_none_of_long hfid] at hf
    exact absurd hf (by simp)
  · rw [findPolicy_eq_none_of_long hfid] at hf
    exact absurd hf (by simp)
  · rw [hroom] at hfull
    exact absurd hfull (by simp)
  · rw [hr]

/-- A registration that is stored whole or meets a full registry is accepted for exactly its
FID, or refused. -/
theorem register_whole_cases {reg : Registry} {fid : CStr}
    (h : fid.strlen ≤ 127 ∨ reg.full = true) (m : Block 32) :
    (reg.enforced fid = none ∧ (reg.registerPolicyFid fid m).2 = 0 ∧
      ∀ fid', (reg.registerPolicyFid fid m).1.enforced fid' =
        if fid' = fid then some m else reg.enforced fid') ∨
    reg.registerPolicyFid fid m = (reg, -1) := by
  by_cases hfit : fid.strlen ≤ 127
  · exact enforced_register hfit reg m
  · exact Or.inr (register_long_of_full (by omega) (h.resolve_left hfit) m)

/-- A call whose registration is stored whole or refused moves the enforced MRENCLAVE exactly
as it moves the abstract policy. -/
theorem enforced_step {h : List RegistryRecord} {reg : Registry}
    (hinv : ∀ fid, reg.enforced fid = firstRegistered h fid) (c : RegistryCall)
    (hc : RegistersWhole ⟨reg, c, (registryStep reg c).2⟩) (fid' : CStr) :
    (registryStep reg c).1.enforced fid' =
      firstRegistered (⟨reg, c, (registryStep reg c).2⟩ :: h) fid' := by
  rw [firstRegistered_cons]
  cases c with
  | bind fid label =>
    rw [show registered fid' ⟨reg, .bind fid label, _⟩ = none from rfl, Option.or_none]
    exact (enforced_bind reg fid label fid').trans (hinv fid')
  | register fid m =>
    rcases register_whole_cases hc m with ⟨hnone, hzero, hpost⟩ | hr
    · show (reg.registerPolicyFid fid m).1.enforced fid' = _
      rw [hpost fid']
      by_cases hne : fid' = fid
      · subst hne
        rw [if_pos rfl, ← hinv fid', hnone, Option.none_or]
        simp [registered, registryStep, hzero]
      · rw [if_neg hne, hinv fid']
        simp [registered, Ne.symm hne]
    · rw [← hinv fid']
      simp [registered, registryStep, hr]

/-- **The registry refines the abstract policy** over every run whose registrations are stored
whole or refused. -/
theorem enforced_eq_firstRegistered {h : List RegistryRecord} {reg : Registry}
    (hr : Reach registryStep Registry.empty h reg) (hc : ∀ r ∈ h, RegistersWhole r) (fid : CStr) :
    reg.enforced fid = firstRegistered h fid := by
  refine Reach.invariant
    (fun h reg => (∀ r ∈ h, RegistersWhole r) → ∀ fid, reg.enforced fid = firstRegistered h fid)
    (fun _ _ => rfl) ?_ hr hc fid
  intro h reg c _ ih hcs fid
  exact enforced_step (ih fun r hm => hcs r (List.mem_cons_of_mem _ hm)) c
    (hcs _ List.mem_cons_self) fid

/-- Runs whose registrations are stored whole or refused are write-once at their end. -/
theorem writeOnce_of_registersWhole {h : List RegistryRecord} {reg : Registry}
    (hr : Reach registryStep Registry.empty h reg) (hc : ∀ r ∈ h, RegistersWhole r) :
    WriteOnce h reg := by
  refine ⟨fun fid _ => enforced_eq_firstRegistered hr hc fid, ?_, ?_⟩
  · rintro r t fid m rfl - hin hfirst
    obtain ⟨hpre, hs⟩ := Reach.cons_iff.mp hr
    have henf := enforced_eq_firstRegistered hpre (fun x hx => hc x (List.mem_cons_of_mem _ hx)) fid
    obtain ⟨m₀, hm₀⟩ := Option.ne_none_iff_exists'.mp hfirst
    rw [hm₀] at henf
    rw [hin, registryStep, register_of_enforced henf m] at hs
    exact (congrArg Prod.snd hs).symm
  · rintro r t rfl hout
    obtain ⟨-, hs⟩ := Reach.cons_iff.mp hr
    have hret : (registryStep r.pre r.input).2 = -1 := by
      rw [hs]
      exact hout
    have hsame := registryStep_refused hret
    rw [hs] at hsame
    exact hsame

/-- **Exactly when the policy is write-once.**  A run of registrations and bindings of
admitted FIDs satisfies the property at each of its points if and only if each of its
registrations has an FID of at most 127 bytes or meets a full registry. -/
theorem writeOnce_iff_registersWhole {h : List RegistryRecord} {reg : Registry}
    (hr : Reach registryStep Registry.empty h reg) (hadm : ∀ r ∈ h, AdmittedFid r.input.fid) :
    Throughout registryStep Registry.empty WriteOnce h ↔ ∀ r ∈ h, RegistersWhole r := by
  constructor
  · intro hall r hm
    by_contra hlong
    obtain ⟨fid, m, hin⟩ : ∃ fid m, r.input = .register fid m := by
      cases hin : r.input with
      | register fid m => exact ⟨fid, m, rfl⟩
      | bind fid label =>
        rw [RegistersWhole, hin] at hlong
        exact absurd trivial hlong
    rw [RegistersWhole, hin, not_or, Nat.not_le, Bool.not_eq_true] at hlong
    obtain ⟨t, -, hpost, hout⟩ := hall.at_record hr hm
    have hzero : r.output = 0 := by
      rw [hout, hin]
      exact register_long_of_room hlong.1 hlong.2 m
    have hadmfid : AdmittedFid fid := by
      have h := hadm r hm
      rwa [hin] at h
    -- the FID just registered is not found, yet the history says what it should enforce
    have henf := hpost.enforced fid hadmfid
    rw [firstRegistered_cons, enforced, findPolicy_eq_none_of_long hlong.1] at henf
    have hreg : registered fid r = some m := by
      simp [registered, hin, hzero]
    rw [hreg] at henf
    cases hf : firstRegistered t fid <;> simp [hf] at henf
  · exact Throughout.of_records fun t s ht hc => writeOnce_of_registersWhole ht hc

/-- A policy, a label, and a second policy for the same FID. -/
def shortFidCalls : List RegistryCall :=
  [.register (CStr.lit "f") (Block.fill 32 1), .bind (CStr.lit "f") (CStr.lit "l"),
    .register (CStr.lit "f") (Block.fill 32 2)]

/-- The run of `shortFidCalls` is write-once. -/
theorem shortFidCalls_writeOnce :
    Throughout registryStep Registry.empty WriteOnce
      (runOn registryStep [] Registry.empty shortFidCalls).1 :=
  (writeOnce_iff_registersWhole (reach_runOn registryStep shortFidCalls Reach.start)
    (by decide)).mpr (by decide)

/-- One registration of an FID of 128 bytes. -/
def longFidCalls : List RegistryCall :=
  [.register (CStr.letters 128) (Block.fill 32 1)]

/-- **An FID of 128 bytes is admitted, its registration returns 0, and it has no policy.** -/
theorem long_fid_not_writeOnce :
    (∀ r ∈ (runOn registryStep [] Registry.empty longFidCalls).1, AdmittedFid r.input.fid) ∧
      ¬ Throughout registryStep Registry.empty WriteOnce
        (runOn registryStep [] Registry.empty longFidCalls).1 := by
  refine ⟨by decide +kernel, fun hall => ?_⟩
  have hend := hall _ _ (List.suffix_refl _) (reach_runOn registryStep longFidCalls Reach.start)
  have henf := hend.enforced (CStr.letters 128) (by decide +kernel)
  exact absurd henf (by decide +kernel)

end Kms
end AsynCS
