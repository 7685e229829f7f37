import AsynCS.Kms.LabelBinding
import AsynCS.Kms.Machine

/-!
# Label keys and FID keys are the same keys

The key of a label `L` is `SHA256(MSK || L)`, and a worker should get it only through
`ecall_derive_keys_batch(fid, L)` after `ecall_bind_label_to_fid(fid, L)`.  The key of an FID
is `SHA256(MSK || fid)`: the same hash, with nothing that tells the two roles apart.  So
`ecall_get_key(L)`, which asks for an FID and looks at no label, hands out the key of the
label `L`.

* `LabelGuarded`: at one point of a run, the call just made did not hand out the key of `L`
  without a binding of `L` to the FID of the call.
* `RolesApart`: no string is used in both roles, and no binding is stored under a cut of its
  strings; a condition on the calls and the states before them.
* `labelGuarded_of_rolesApart`: over runs of such calls the property holds, with a hash that
  is injective on the strings it is given.
* `fid_as_label_not_guarded`: a run of three calls in which it does not.
-/

namespace AsynCS
namespace Kms

variable {S : Sgx} {B : Bfibe}

/-- Some call of the history bound `label` to `fid`. -/
def BoundLabel (h : List KmsRecord) (fid label : CStr) : Prop :=
  ∃ r ∈ h, r.input = .bindLabelToFid fid label ∧ r.output.ret = 0

/-- **A guarded label, at one point of a run**: when the latest call returned 0 and wrapped the
key of `L` for the worker, an earlier call had bound `L` to the FID of that call. -/
def LabelGuarded (S : Sgx) (L : CStr) : List KmsRecord → Globals → Prop
  | [], _ => True
  | r :: t, _ => r.output.ret = 0 → ∀ w ∈ r.output.wrapped, w.scalar = keyOf S r.pre L →
    ∃ p ∈ r.input.released, BoundLabel t p.1 L

instance (h : List KmsRecord) (fid label : CStr) : Decidable (BoundLabel h fid label) :=
  inferInstanceAs (Decidable (∃ r ∈ h, _ ∧ _))

instance (S : Sgx) (L : CStr) : (h : List KmsRecord) → (k : Globals) →
    Decidable (LabelGuarded S L h k)
  | [], _ => inferInstanceAs (Decidable True)
  | r :: _, _ => inferInstanceAs (Decidable (r.output.ret = 0 → ∀ w ∈ r.output.wrapped, _ →
    ∃ p ∈ r.input.released, _))

namespace KmsCall

/-- The strings whose keys a call derives. -/
def derives : KmsCall → List CStr
  | getPublicKey _ fid => [fid]
  | getKey _ fid _ => [fid]
  | deriveKeysBatch _ _ fid label _ => [fid, label]
  | _ => []

end KmsCall

/-- The inputs of the key derivation during a run, together with that of the key of `L` under
each master key of the run. -/
def derivationInputs (h : List KmsRecord) (L : CStr) : List Bytes :=
  h.flatMap fun r => (L :: r.input.derives).map fun s => r.pre.msk.toList ++ s.bytes

theorem mem_derivationInputs {h : List KmsRecord} {r : KmsRecord} (hm : r ∈ h) {L s : CStr}
    (hs : s ∈ L :: r.input.derives) : r.pre.msk.toList ++ s.bytes ∈ derivationInputs h L :=
  List.mem_flatMap.mpr ⟨r, hm, List.mem_map.mpr ⟨s, hs, rfl⟩⟩

/-- Injectivity on the inputs of a run, checked pair by pair. -/
theorem injOn_derivationInputs {h : List KmsRecord} {L : CStr}
    (hd : ∀ x ∈ derivationInputs h L, ∀ y ∈ derivationInputs h L,
      S.sha256 x = S.sha256 y → x = y) :
    Set.InjOn S.sha256 {x | x ∈ derivationInputs h L} :=
  fun x hx y hy => hd x hx y hy

/-- The checks that stand before the key of an FID. -/
def GateOpen (S : Sgx) (hashOk : Bool) (k : Globals) (fid : CStr) (publicKey : Block 64) : Prop :=
  k.mskInitialized = true ∧ k.verifyRaForFid fid = true ∧
    (fid ≠ defaultFid → verifyReportDataBinding S hashOk k publicKey = true)

/-- The key of this FID is no key of the label `L` that is still to be bound: when the FID is
`L` itself, `L` is bound to it, and the fixed key of `"default_fid"` is not the key of `L`. -/
def FidRole (S : Sgx) (L : CStr) (k : Globals) (fid : CStr) : Prop :=
  (fid = L → k.registry.isLabelBoundToFid fid L = true) ∧
    (fid = defaultFid → keyOf S k L ≠ mockKey)

/-- **The roles are apart, at one call.**  A call that gets through to the key of an FID does
not use the label `L` as that FID, unless `L` is bound to itself; and a binding that would be
stored with the label `L` fits its fields or is refused. -/
def RolesApart (S : Sgx) (L : CStr) (r : KmsRecord) : Prop :=
  match r.input with
  | .getKey env fid publicKey =>
    GateOpen S env.bindingHash r.pre fid publicKey → FidRole S L r.pre fid
  | .deriveKeysBatch env _ fid label publicKey =>
    GateOpen S env.bindingHash r.pre fid publicKey →
      r.pre.registry.isLabelBoundToFid fid label = true → FidRole S L r.pre fid
  | .bindLabelToFid fid label =>
    label.cut 64 = L → BindsWhole ⟨r.pre.registry, .bind fid label, r.output.ret⟩
  | _ => True

instance (S : Sgx) (hashOk : Bool) (k : Globals) (fid : CStr) (publicKey : Block 64) :
    Decidable (GateOpen S hashOk k fid publicKey) := inferInstanceAs (Decidable (_ ∧ _ ∧ _))

instance (S : Sgx) (L : CStr) (k : Globals) (fid : CStr) : Decidable (FidRole S L k fid) :=
  inferInstanceAs (Decidable (_ ∧ _))

instance (S : Sgx) (L : CStr) : DecidablePred (RolesApart S L)
  | ⟨_, .getKey .., _⟩ => inferInstanceAs (Decidable (GateOpen .. → FidRole ..))
  | ⟨_, .deriveKeysBatch .., _⟩ =>
    inferInstanceAs (Decidable (GateOpen .. → _ = true → FidRole ..))
  | ⟨_, .bindLabelToFid .., _⟩ => inferInstanceAs (Decidable (_ = L → BindsWhole _))
  | ⟨_, .initKms .., _⟩ | ⟨_, .verifyQuote .., _⟩ | ⟨_, .verifyQuoteForFid .., _⟩
  | ⟨_, .setRaResult .., _⟩ | ⟨_, .registerPolicyFid .., _⟩ | ⟨_, .checkLabelBinding .., _⟩
  | ⟨_, .getPublicKey .., _⟩ | ⟨_, .getBfibePublicParams .., _⟩
  | ⟨_, .getBfibeKeyRelease .., _⟩ | ⟨_, .bfibeExtractTest .., _⟩ =>
    inferInstanceAs (Decidable True)

/-! ## Bindings -/

/-- When the bindings stored with the label `L` are stored whole, a FID found bound to `L` was
bound to it by a call with exactly these strings. -/
theorem boundLabel_of_isLabelBound {h : List KmsRecord} {k : Globals}
    (hr : Reach (kmsStep S B) Globals.initial h k) {fid L : CStr}
    (hc : ∀ r ∈ h, RolesApart S L r) (hb : k.registry.isLabelBoundToFid fid L = true) :
    BoundLabel h fid L := by
  obtain ⟨fid', label', ⟨b, hmem, hin, hzero⟩, hfid, hlabel⟩ :=
    cutBound_of_isLabelBound (reach_registry hr) hb
  obtain ⟨r, hr_mem, hr_eq⟩ := List.mem_filterMap.mp hmem
  obtain ⟨c, hcall, rfl⟩ := Option.map_eq_some_iff.mp hr_eq
  obtain rfl : c = .bind fid' label' := hin
  have hinput : r.input = .bindLabelToFid fid' label' := by
    cases hri : r.input with
    | bindLabelToFid f l =>
      rw [hri] at hcall
      obtain ⟨rfl, rfl⟩ : f = fid' ∧ l = label' := by simpa [KmsCall.toRegistry] using hcall
      rfl
    | registerPolicyFid | initKms | verifyQuote | verifyQuoteForFid | setRaResult
    | checkLabelBinding | getPublicKey | getKey | deriveKeysBatch | getBfibePublicParams
    | getBfibeKeyRelease | bfibeExtractTest =>
      rw [hri] at hcall
      exact absurd hcall (by simp [KmsCall.toRegistry])
  have hwhole : BindsWhole ⟨r.pre.registry, .bind fid' label', r.output.ret⟩ := by
    have hra := hc r hr_mem
    rw [RolesApart, hinput] at hra
    exact hra hlabel
  have haccept : (r.pre.registry.bindLabelToFid fid' label').2 = 0 := by
    obtain ⟨-, -, -, -, hout⟩ := hr.of_mem hr_mem
    rw [hinput] at hout
    exact (congrArg KmsReply.ret hout).symm.trans hzero
  obtain ⟨hfits, hlfits⟩ := fits_of_bindsWhole hwhole haccept
  rw [CStr.cut_of_le hfits] at hfid
  rw [CStr.cut_of_le hlfits] at hlabel
  subst hfid hlabel
  exact ⟨r, hr_mem, hinput, hzero⟩

/-! ## Keys -/

/-- Among the derivation inputs of a run, two strings with one key are one string. -/
theorem eq_of_keyOf_eq {h : List KmsRecord} {L s : CStr}
    (hinj : Set.InjOn S.sha256 {x | x ∈ derivationInputs h L}) {r : KmsRecord} (hm : r ∈ h)
    (hs : s ∈ r.input.derives) (hkey : keyOf S r.pre s = keyOf S r.pre L) : s = L := by
  have heq := hinj (mem_derivationInputs hm (List.mem_cons_of_mem L hs))
    (mem_derivationInputs hm List.mem_cons_self) hkey
  exact CStr.ext (List.append_cancel_left heq)

/-- When a call wraps the key of its FID and that key is the key of `L`, the FID is `L`, and
`L` is bound to it. -/
theorem isLabelBound_of_fidKey {h : List KmsRecord} {L fid : CStr} {r : KmsRecord} {w : Wrapped}
    (hinj : Set.InjOn S.sha256 {x | x ∈ derivationInputs h L}) (hm : r ∈ h)
    (hd : fid ∈ r.input.derives) (hrole : FidRole S L r.pre fid)
    (hw : w.scalar = if fid = defaultFid then mockKey else keyOf S r.pre fid)
    (hkey : w.scalar = keyOf S r.pre L) :
    fid = L ∧ r.pre.registry.isLabelBoundToFid fid L = true := by
  by_cases hdef : fid = defaultFid
  · rw [if_pos hdef] at hw
    exact absurd (hkey.symm.trans hw) (hrole.2 hdef)
  · rw [if_neg hdef] at hw
    have hfid := eq_of_keyOf_eq hinj hm hd (hw.symm.trans hkey)
    exact ⟨hfid, hrole.1 hfid⟩

/-- **One call** of a run that keeps the roles apart. -/
theorem labelGuarded_step {t : List KmsRecord} {r : KmsRecord} {k : Globals}
    (hr : Reach (kmsStep S B) Globals.initial (r :: t) k) {L : CStr}
    (hinj : Set.InjOn S.sha256 {x | x ∈ derivationInputs (r :: t) L})
    (hc : ∀ x ∈ r :: t, RolesApart S L x) : LabelGuarded S L (r :: t) k := by
  intro hzero w hw hkey
  obtain ⟨hpre, hstep⟩ := Reach.cons_iff.mp hr
  have hbound : ∀ fid, r.pre.registry.isLabelBoundToFid fid L = true → BoundLabel t fid L :=
    fun fid hb => boundLabel_of_isLabelBound hpre (fun x hx => hc x (List.mem_cons_of_mem r hx)) hb
  have hrole := hc r List.mem_cons_self
  have hout : (kmsStep S B r.pre r.input).2 = r.output := congrArg Prod.snd hstep
  have hmem : r ∈ r :: t := List.mem_cons_self
  rw [← hout] at hzero hw
  cases hin : r.input with
  | getKey env fid publicKey =>
    rw [hin] at hzero hw
    rw [RolesApart, hin] at hrole
    obtain ⟨v, hv, hwrapped⟩ := KmsReply.ofKey_ret_eq_zero hzero
    obtain ⟨hra, hrd, hmsk, hscalar⟩ := ecallGetKey_some hv
    obtain rfl : w = v := List.mem_singleton.mp (hwrapped ▸ hw)
    obtain ⟨rfl, hb⟩ := isLabelBound_of_fidKey hinj hmem
      (by simp [hin, KmsCall.derives]) (hrole ⟨hmsk, hra, hrd⟩) hscalar hkey
    exact ⟨(fid, publicKey), rfl, hbound fid hb⟩
  | deriveKeysBatch env envLabel fid label publicKey =>
    rw [hin] at hzero hw
    rw [RolesApart, hin] at hrole
    obtain ⟨v, hv⟩ := KmsReply.ofBatch_ret_eq_zero hzero
    obtain ⟨u, hu, hkeyFid, hkeyLabel⟩ := ecallDeriveKeysBatch_dklabel hv
    obtain ⟨hra, hrd, hmsk, hscalar⟩ := ecallGetKey_some hkeyFid
    obtain ⟨hb, hscalarLabel⟩ := deriveLabelKeyInternal_some hkeyLabel
    have hcases : w = u ∨ w = v := by
      simpa [kmsStep, KmsReply.ofBatch, hu, hv] using hw
    rcases hcases with rfl | rfl
    · -- the key of the FID
      obtain ⟨rfl, hb'⟩ := isLabelBound_of_fidKey hinj hmem
        (by simp [hin, KmsCall.derives]) (hrole ⟨hmsk, hra, hrd⟩ hb) hscalar hkey
      exact ⟨(fid, publicKey), rfl, hbound fid hb'⟩
    · -- the key of the label
      have hL : label = L := eq_of_keyOf_eq hinj hmem (by simp [hin, KmsCall.derives])
        (hscalarLabel.symm.trans hkey)
      subst hL
      exact ⟨(fid, publicKey), rfl, hbound fid hb⟩
  | initKms | verifyQuote | verifyQuoteForFid | setRaResult | registerPolicyFid | bindLabelToFid
  | checkLabelBinding | getPublicKey | getBfibePublicParams | getBfibeKeyRelease
  | bfibeExtractTest =>
    rw [hin] at hw
    exact absurd hw (by simp [kmsStep])

/-- **Label keys are guarded where the roles are apart.**  In every run whose calls do not use
the label `L` as an FID unless it is bound to itself, and store the label `L` only whole, no
call at any point hands out the key of `L` without a binding of `L` to its FID. -/
theorem labelGuarded_of_rolesApart {h : List KmsRecord} {L : CStr}
    (hinj : Set.InjOn S.sha256 {x | x ∈ derivationInputs h L}) (hc : ∀ r ∈ h, RolesApart S L r) :
    Throughout (kmsStep S B) Globals.initial (LabelGuarded S L) h := by
  intro t s hsub ht
  cases t with
  | nil => exact trivial
  | cons r t =>
    refine labelGuarded_step ht (hinj.mono fun x hx => ?_) fun x hx => hc x (hsub.subset hx)
    obtain ⟨r', hm, hx⟩ := List.mem_flatMap.mp hx
    exact List.mem_flatMap.mpr ⟨r', hsub.subset hm, hx⟩

/-- A label, its binding, a quote, and the two keys of the FID and the label. -/
def guardedCalls : List KmsCall :=
  [.initKms none (Block.fill 32 1), .bindLabelToFid (CStr.lit "f") (CStr.lit "L"),
    .verifyQuoteForFid (some (CStr.lit "f")) (some (List.replicate 432 5)),
    .deriveKeysBatch sampleKeyEnv sampleKeyEnv (CStr.lit "f") (CStr.lit "L") (Block.fill 64 5)]

/-- In the run of `guardedCalls` the label is guarded. -/
theorem guardedCalls_labelGuarded :
    Throughout (kmsStep Sgx.sample Bfibe.sample) Globals.initial
      (LabelGuarded Sgx.sample (CStr.lit "L"))
      (runOn (kmsStep Sgx.sample Bfibe.sample) [] Globals.initial guardedCalls).1 :=
  labelGuarded_of_rolesApart (injOn_derivationInputs (by decide +kernel)) (by decide +kernel)

/-- A quote for the FID `"L"`, and the key of that FID.  No label is bound. -/
def fidAsLabelCalls : List KmsCall :=
  [.initKms none (Block.fill 32 1),
    .verifyQuoteForFid (some (CStr.lit "L")) (some (List.replicate 432 5)),
    .getKey sampleKeyEnv (CStr.lit "L") (Block.fill 64 5)]

/-- **`ecall_get_key(L)` hands out the key of the label `L`**, which nothing bound. -/
theorem fid_as_label_not_guarded :
    CStr.lit "L" ≠ defaultFid ∧
      Set.InjOn Sgx.sample.sha256 {x | x ∈ derivationInputs
        (runOn (kmsStep Sgx.sample Bfibe.sample) [] Globals.initial fidAsLabelCalls).1
        (CStr.lit "L")} ∧
      ¬ Throughout (kmsStep Sgx.sample Bfibe.sample) Globals.initial
        (LabelGuarded Sgx.sample (CStr.lit "L"))
        (runOn (kmsStep Sgx.sample Bfibe.sample) [] Globals.initial fidAsLabelCalls).1 := by
  refine ⟨by decide, injOn_derivationInputs (by decide +kernel), fun hall => ?_⟩
  have hend := hall _ _ (List.suffix_refl _)
    (reach_runOn (kmsStep Sgx.sample Bfibe.sample) fidAsLabelCalls Reach.start)
  exact absurd hend (by decide +kernel)

end Kms
end AsynCS
