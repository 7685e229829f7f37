import AsynCS.Kms.Registry

/-!
# A label is bound to exactly the FID it was bound to

Over a run of registrations and bindings from the empty registry,
`is_label_bound_to_fid(fid, label)` should hold for exactly the pairs that an
`ecall_bind_label_to_fid(fid, label)` accepted.

The abstract relation is `Bound`, a predicate of the history alone.
`isLabelBound_iff_bound` is the refinement, for runs in which every accepted binding has an
FID of at most 127 bytes and a label of at most 64.  `cutBound_of_isLabelBound` is what
remains without that condition: a pair found bound is the stored cut of a pair that was.

`labelExact_iff_bindsWhole` is the exact condition on a run.  A longer string that is not
refused breaks the property on the spot: the call returns 0, the full pair is not bound, and
the cut pair, which nobody asked for, is.
-/

namespace AsynCS
namespace Kms

open Registry

/-- A recorded call bound `label` to `fid`: exactly these strings, and it returned 0. -/
def Binds (fid label : CStr) (r : RegistryRecord) : Prop :=
  r.input = .bind fid label ∧ r.output = 0

/-- Some call of the history bound `label` to `fid`. -/
def Bound (h : List RegistryRecord) (fid label : CStr) : Prop := ∃ r ∈ h, Binds fid label r

theorem bound_cons {r : RegistryRecord} {h : List RegistryRecord} {fid label : CStr} :
    Bound (r :: h) fid label ↔ Binds fid label r ∨ Bound h fid label := by
  simp only [Bound, List.mem_cons, exists_eq_or_imp]

/-- **Exact labels, at one point of a run**: of the admitted pairs, those found bound are those
an earlier call bound; a call that repeats a successful one returns 0 and changes nothing; and
a call for one pair makes no other pair bound. -/
structure LabelExact (h : List RegistryRecord) (reg : Registry) : Prop where
  exact : ∀ fid label, AdmittedFid fid → AdmittedLabel label →
    (reg.isLabelBoundToFid fid label = true ↔ Bound h fid label)
  repeated : ∀ r t fid label, h = r :: t → r.input = .bind fid label → Bound t fid label →
    r.output = 0 ∧ reg = r.pre
  others : ∀ r t fid label fid' label', h = r :: t → r.input = .bind fid label →
    (fid', label') ≠ (fid, label) → reg.isLabelBoundToFid fid' label' = true →
    r.pre.isLabelBoundToFid fid' label' = true

/-- Both strings of a binding fit their fields, or the registry refuses it: it has no room for
a new entry, or the entry of this FID has its four labels already. -/
def BindsWhole (r : RegistryRecord) : Prop :=
  match r.input with
  | .register _ _ => True
  | .bind fid label =>
    (fid.strlen ≤ 127 ∧ label.strlen ≤ 64) ∨
    match r.pre.findPolicy fid with
    | some e => 4 ≤ e.boundLabels.length
    | none => r.pre.full = true

/-- The strings of a call are of the lengths that `handle_client` admits. -/
def RegistryCall.Admitted : RegistryCall → Prop
  | .register fid _ => AdmittedFid fid
  | .bind fid label => AdmittedFid fid ∧ AdmittedLabel label

instance : DecidablePred BindsWhole
  | ⟨_, .register _ _, _⟩ => inferInstanceAs (Decidable True)
  | ⟨pre, .bind fid label, _⟩ =>
    match h : pre.findPolicy fid with
    | some e => decidable_of_iff
        ((fid.strlen ≤ 127 ∧ label.strlen ≤ 64) ∨ 4 ≤ e.boundLabels.length)
        (by simp only [BindsWhole, h])
    | none => decidable_of_iff
        ((fid.strlen ≤ 127 ∧ label.strlen ≤ 64) ∨ pre.full = true)
        (by simp only [BindsWhole, h])

instance : DecidablePred RegistryCall.Admitted
  | .register _ _ => inferInstanceAs (Decidable (AdmittedFid _))
  | .bind _ _ => inferInstanceAs (Decidable (_ ∧ _))

/-! ## One call -/

/-- A binding that does not fit and is not refused is accepted. -/
theorem bind_accepted_of_not_whole {reg : Registry} {fid label : CStr} {o : Int}
    (h : ¬ BindsWhole ⟨reg, .bind fid label, o⟩) :
    (127 < fid.strlen ∨ 64 < label.strlen) ∧ (reg.bindLabelToFid fid label).2 = 0 := by
  simp only [BindsWhole, not_or] at h
  obtain ⟨hlong, hroom⟩ := h
  refine ⟨by omega, ?_⟩
  rcases bindLabelToFid_cases reg fid label with ⟨e, -, -, hr⟩ | ⟨e, hf, -, h4, -⟩ |
    ⟨e, -, -, -, hr⟩ | ⟨hf, hfull, -⟩ | ⟨-, -, hr⟩
  · rw [hr]
  · rw [hf] at hroom
    exact absurd h4 hroom
  · rw [hr]
  · rw [hf] at hroom
    exact absurd hfull hroom
  · rw [hr]

/-- A binding that fits or is refused is accepted for exactly its pair, or answers -1 and
changes nothing. -/
theorem bind_whole_cases {reg : Registry} {fid label : CStr} {o : Int}
    (h : BindsWhole ⟨reg, .bind fid label, o⟩) :
    ((reg.bindLabelToFid fid label).2 = 0 ∧ ∀ fid' label',
      (reg.bindLabelToFid fid label).1.isLabelBoundToFid fid' label' =
        (reg.isLabelBoundToFid fid' label' || (fid == fid' && label == label'))) ∨
    reg.bindLabelToFid fid label = (reg, -1) := by
  by_cases hfit : fid.strlen ≤ 127 ∧ label.strlen ≤ 64
  · rcases bindLabelToFid_cases reg fid label with ⟨e, -, -, hr⟩ | ⟨e, -, -, -, hr⟩ |
      ⟨e, -, -, -, hr⟩ | ⟨-, -, hr⟩ | ⟨-, -, hr⟩
    · exact Or.inl ⟨by rw [hr], isLabelBound_bind hfit.1 hfit.2 (by rw [hr])⟩
    · exact Or.inr hr
    · exact Or.inl ⟨by rw [hr], isLabelBound_bind hfit.1 hfit.2 (by rw [hr])⟩
    · exact Or.inr hr
    · exact Or.inl ⟨by rw [hr], isLabelBound_bind hfit.1 hfit.2 (by rw [hr])⟩
  · have hrefuse := h.resolve_left hfit
    rcases bindLabelToFid_cases reg fid label with ⟨e, hf, hl, -⟩ | ⟨e, -, -, -, hr⟩ |
      ⟨e, hf, -, h4, -⟩ | ⟨-, -, hr⟩ | ⟨hf, hroom, -⟩
    · have hnot : reg.isLabelBoundToFid fid label = false :=
        not_isLabelBound_of_long (by omega)
      simp only [isLabelBoundToFid, hf] at hnot
      rw [hnot] at hl
      exact absurd hl (by simp)
    · exact Or.inr hr
    · simp only [hf] at hrefuse
      omega
    · exact Or.inr hr
    · simp only [hf, hroom] at hrefuse
      exact absurd hrefuse (by simp)

/-- A binding that is stored whole or refused, and was accepted, fits its fields. -/
theorem fits_of_bindsWhole {reg : Registry} {fid label : CStr} {o : Int}
    (h : BindsWhole ⟨reg, .bind fid label, o⟩) (hzero : (reg.bindLabelToFid fid label).2 = 0) :
    fid.strlen ≤ 127 ∧ label.strlen ≤ 64 := by
  rcases bind_whole_cases h with ⟨-, hpost⟩ | hr
  · by_contra hlong
    have hnot : (reg.bindLabelToFid fid label).1.isLabelBoundToFid fid label = false :=
      not_isLabelBound_of_long (by omega)
    simp [hpost] at hnot
  · rw [hr] at hzero
    exact absurd hzero (by simp)

/-- A call that stores its strings whole or is refused moves the bound pairs exactly as it
moves the abstract relation. -/
theorem isLabelBound_step {h : List RegistryRecord} {reg : Registry}
    (hinv : ∀ fid label, reg.isLabelBoundToFid fid label = true ↔ Bound h fid label)
    (c : RegistryCall) (hc : BindsWhole ⟨reg, c, (registryStep reg c).2⟩) (fid' label' : CStr) :
    (registryStep reg c).1.isLabelBoundToFid fid' label' = true ↔
      Bound (⟨reg, c, (registryStep reg c).2⟩ :: h) fid' label' := by
  rw [bound_cons, ← hinv]
  cases c with
  | register fid m =>
    show (reg.registerPolicyFid fid m).1.isLabelBoundToFid fid' label' = true ↔ _
    rw [isLabelBound_register]
    simp [Binds]
  | bind fid label =>
    rcases bind_whole_cases hc with ⟨hzero, hpost⟩ | hr
    · show (reg.bindLabelToFid fid label).1.isLabelBoundToFid fid' label' = true ↔ _
      rw [hpost, Bool.or_eq_true, Bool.and_eq_true, beq_iff_eq, beq_iff_eq]
      simp only [Binds, registryStep, hzero, RegistryCall.bind.injEq, and_true]
      exact or_comm
    · simp [Binds, registryStep, hr]

/-! ## Runs -/

/-- **The registry refines the abstract relation** over every run whose bindings are stored
whole or refused. -/
theorem isLabelBound_iff_bound {h : List RegistryRecord} {reg : Registry}
    (hr : Reach registryStep Registry.empty h reg) (hc : ∀ r ∈ h, BindsWhole r)
    (fid label : CStr) :
    reg.isLabelBoundToFid fid label = true ↔ Bound h fid label := by
  refine Reach.invariant
    (fun h reg => (∀ r ∈ h, BindsWhole r) →
      ∀ fid label, reg.isLabelBoundToFid fid label = true ↔ Bound h fid label)
    ?_ ?_ hr hc fid label
  · intro _ fid label
    simp [Bound, isLabelBoundToFid]
  · intro h reg c _ ih hcs fid label
    exact isLabelBound_step (ih fun r hm => hcs r (List.mem_cons_of_mem _ hm)) c
      (hcs _ List.mem_cons_self) fid label

/-- **In every run**, a pair found bound is the stored cut of a pair that a call bound. -/
theorem cutBound_of_isLabelBound {h : List RegistryRecord} {reg : Registry}
    (hr : Reach registryStep Registry.empty h reg) {fid label : CStr}
    (hb : reg.isLabelBoundToFid fid label = true) :
    ∃ fid' label', Bound h fid' label' ∧ fid'.cut 127 = fid ∧ label'.cut 64 = label := by
  refine Reach.invariant
    (fun h reg => ∀ fid label, reg.isLabelBoundToFid fid label = true →
      ∃ fid' label', Bound h fid' label' ∧ fid'.cut 127 = fid ∧ label'.cut 64 = label)
    ?_ ?_ hr fid label hb
  · intro fid label hb
    simp [isLabelBoundToFid] at hb
  · intro h reg c _ ih fid label hb
    have hold : reg.isLabelBoundToFid fid label = true →
        ∃ fid' label', Bound (⟨reg, c, (registryStep reg c).2⟩ :: h) fid' label' ∧
          fid'.cut 127 = fid ∧ label'.cut 64 = label := by
      intro hb
      obtain ⟨fid', label', hbound, hcut⟩ := ih fid label hb
      exact ⟨fid', label', bound_cons.mpr (Or.inr hbound), hcut⟩
    cases c with
    | register f m =>
      refine hold ?_
      rwa [← isLabelBound_register reg f m fid label]
    | bind f l =>
      rcases isLabelBound_bind_imp hb with hb | ⟨hzero, hf, hl⟩
      · exact hold hb
      · exact ⟨f, l, bound_cons.mpr (Or.inl ⟨rfl, hzero⟩), hf, hl⟩

/-- Runs whose bindings are stored whole or refused have exact labels at their end. -/
theorem labelExact_of_bindsWhole {h : List RegistryRecord} {reg : Registry}
    (hr : Reach registryStep Registry.empty h reg) (hc : ∀ r ∈ h, BindsWhole r) :
    LabelExact h reg := by
  refine ⟨fun fid label _ _ => isLabelBound_iff_bound hr hc fid label, ?_, ?_⟩
  · rintro r t fid label rfl hin hbound
    obtain ⟨hpre, hs⟩ := Reach.cons_iff.mp hr
    have hb := (isLabelBound_iff_bound hpre
      (fun x hx => hc x (List.mem_cons_of_mem _ hx)) fid label).mpr hbound
    rw [hin, registryStep, bind_of_isLabelBound hb] at hs
    exact ⟨(congrArg Prod.snd hs).symm, (congrArg Prod.fst hs).symm⟩
  · rintro r t fid label fid' label' rfl hin hne hb
    obtain ⟨hpre, hs⟩ := Reach.cons_iff.mp hr
    rw [isLabelBound_iff_bound hpre fun x hx => hc x (List.mem_cons_of_mem _ hx)]
    rw [isLabelBound_iff_bound hr hc, bound_cons] at hb
    refine hb.resolve_left ?_
    rintro ⟨hin', -⟩
    rw [hin] at hin'
    injection hin' with hf hl
    exact hne (by rw [hf, hl])

/-- **Exactly when labels are exact.**  A run of registrations and bindings with admitted
strings satisfies the property at each of its points if and only if each of its bindings has
an FID of at most 127 bytes and a label of at most 64, or is refused for want of room. -/
theorem labelExact_iff_bindsWhole {h : List RegistryRecord} {reg : Registry}
    (hr : Reach registryStep Registry.empty h reg) (hadm : ∀ r ∈ h, r.input.Admitted) :
    Throughout registryStep Registry.empty LabelExact h ↔ ∀ r ∈ h, BindsWhole r := by
  constructor
  · intro hall r hm
    by_contra hnot
    obtain ⟨t, -, hpost, hout⟩ := hall.at_record hr hm
    obtain ⟨pre, c, o⟩ := r
    cases c with
    | register fid m => exact hnot trivial
    | bind fid label =>
      obtain ⟨hlong, hzero⟩ := bind_accepted_of_not_whole hnot
      obtain ⟨hf, hl⟩ := hadm _ hm
      have hbound : Bound (⟨pre, .bind fid label, o⟩ :: t) fid label :=
        bound_cons.mpr (Or.inl ⟨rfl, hout.trans hzero⟩)
      -- the pair just accepted is not found
      have hb := (hpost.exact fid label hf hl).mpr hbound
      rw [not_isLabelBound_of_long hlong] at hb
      exact absurd hb (by simp)
  · exact Throughout.of_records fun t s ht hc => labelExact_of_bindsWhole ht hc

/-- A label bound twice, another label, and a policy. -/
def shortLabelCalls : List RegistryCall :=
  [.bind (CStr.lit "f") (CStr.lit "l"), .bind (CStr.lit "f") (CStr.lit "l"),
    .bind (CStr.lit "f") (CStr.lit "k"), .register (CStr.lit "g") (Block.fill 32 1)]

/-- The run of `shortLabelCalls` has exact labels. -/
theorem shortLabelCalls_labelExact :
    Throughout registryStep Registry.empty LabelExact
      (runOn registryStep [] Registry.empty shortLabelCalls).1 :=
  (labelExact_iff_bindsWhole (reach_runOn registryStep shortLabelCalls Reach.start)
    (by decide)).mpr (by decide)

/-- One binding of a label of 65 bytes. -/
def longLabelCalls : List RegistryCall := [.bind (CStr.lit "f") (CStr.letters 65)]

/-- **A label of 65 bytes is admitted, its binding returns 0, and it is not bound.** -/
theorem long_label_not_exact :
    (∀ r ∈ (runOn registryStep [] Registry.empty longLabelCalls).1, r.input.Admitted) ∧
      ¬ Throughout registryStep Registry.empty LabelExact
        (runOn registryStep [] Registry.empty longLabelCalls).1 := by
  refine ⟨by decide +kernel, fun hall => ?_⟩
  have hend := hall _ _ (List.suffix_refl _) (reach_runOn registryStep longLabelCalls Reach.start)
  have hb := (hend.exact (CStr.lit "f") (CStr.letters 65) (by decide) (by decide +kernel)).mpr
    ⟨_, List.mem_cons_self, rfl, rfl⟩
  exact absurd hb (by decide +kernel)

end Kms
end AsynCS
