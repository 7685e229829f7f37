import AsynCS.Lib.CString
import AsynCS.Lib.FirstMatch
import AsynCS.Lib.Runs

/-!
# The policy registry of the KMS enclave

`g_policy_registry` maps an FID to its required MRENCLAVE (`policyFID`, write-once) and to the
labels bound to it (`BindLabelToFID`).  An entry is created by whichever of
`register_policy_fid` and `bind_label_to_fid` comes first.  Both store the FID through
`strncpy(entry->fid, fid, MAX_FID_LEN - 1)` and the label through
`strncpy(.., label, LABEL_LEN - 1)`, and every search compares the whole argument with
`strcmp`.

* `findPolicy`, `registerPolicyFid`, `bindLabelToFid`, `isLabelBoundToFid`: the functions of
  the source.
* `enforced`: the MRENCLAVE that an entry with `policy_set` makes a release require.
* `enforced_register`, `enforced_bind`, `isLabelBound_register`, `isLabelBound_bind`: what
  each operation changes, for the strings that fit their fields.
* `findPolicy_eq_none_of_long`, `not_isLabelBound_of_long`: a string too long for its field is
  never found.

The diagnostics printed by `ocall_print` decide nothing and are left out.
-/

namespace AsynCS
namespace Kms

/-! ## Entries -/

/-- `PolicyEntry`: `char fid[MAX_FID_LEN]`, the required MRENCLAVE with its write-once flag,
and at most four labels of `LABEL_LEN - 1` bytes. -/
structure PolicyEntry where
  fid : Field 127
  policyMrenclave : Block 32
  policySet : Bool
  boundLabels : List (Field 64)
  labelsFit : boundLabels.length ≤ 4

namespace PolicyEntry

/-- What `strcmp(g_policy_registry[i].fid, fid)` reads of an entry. -/
def storedFid (e : PolicyEntry) : CStr := e.fid.str

/-- A new entry: no policy and no labels yet. -/
def fresh (fid : CStr) : PolicyEntry where
  fid := Field.store 127 fid
  policyMrenclave := Block.fill 32 0
  policySet := false
  boundLabels := []
  labelsFit := Nat.zero_le 4

/-- `memcpy(entry->policy_mrenclave, mrenclave, 32); entry->policy_set = true`. -/
def setPolicy (mrenclave : Block 32) (e : PolicyEntry) : PolicyEntry :=
  { e with policyMrenclave := mrenclave, policySet := true }

/-- The loop over `bound_labels`: some stored label equals the argument. -/
def hasLabel (e : PolicyEntry) (label : CStr) : Bool :=
  e.boundLabels.any fun l => l.str == label

/-- Store a label in the next of the four slots. -/
def addLabel (label : CStr) (e : PolicyEntry) : PolicyEntry :=
  if h : e.boundLabels.length < 4 then
    { e with
      boundLabels := e.boundLabels ++ [Field.store 64 label]
      labelsFit := by rw [List.length_append]; exact h }
  else e

@[simp] theorem setPolicy_fid (m : Block 32) (e : PolicyEntry) : (e.setPolicy m).fid = e.fid := rfl

@[simp] theorem hasLabel_setPolicy (m : Block 32) (e : PolicyEntry) (label : CStr) :
    (e.setPolicy m).hasLabel label = e.hasLabel label := rfl

@[simp] theorem hasLabel_fresh (fid label : CStr) : (fresh fid).hasLabel label = false := rfl

@[simp] theorem addLabel_fid (label : CStr) (e : PolicyEntry) : (e.addLabel label).fid = e.fid := by
  unfold addLabel
  split <;> rfl

@[simp] theorem addLabel_policySet (label : CStr) (e : PolicyEntry) :
    (e.addLabel label).policySet = e.policySet := by
  unfold addLabel
  split <;> rfl

@[simp] theorem addLabel_policyMrenclave (label : CStr) (e : PolicyEntry) :
    (e.addLabel label).policyMrenclave = e.policyMrenclave := by
  unfold addLabel
  split <;> rfl

/-- After a label was added, the entry has its stored cut besides what it had. -/
theorem hasLabel_addLabel {e : PolicyEntry} (h : e.boundLabels.length < 4) (label x : CStr) :
    (e.addLabel label).hasLabel x = (e.hasLabel x || label.cut 64 == x) := by
  rw [addLabel, dif_pos h, hasLabel, hasLabel, List.any_append]
  simp only [List.any_cons, List.any_nil, Bool.or_false, Field.store_str]

/-- A new entry given one label has its stored cut and no other. -/
theorem hasLabel_addLabel_fresh (fid label x : CStr) :
    ((fresh fid).addLabel label).hasLabel x = (label.cut 64 == x) := by
  rw [hasLabel_addLabel (e := fresh fid) (Nat.zero_lt_succ 3), hasLabel_fresh, Bool.false_or]

/-- A label too long for its slot is not found. -/
theorem hasLabel_of_long {e : PolicyEntry} {label : CStr} (h : 64 < label.strlen) :
    e.hasLabel label = false := by
  rw [hasLabel, List.any_eq_false]
  intro l _
  rw [beq_iff_eq]
  exact CStr.ne_of_lt_strlen l.fits h

end PolicyEntry

/-! ## The registry -/

/-- `g_policy_registry` with `g_num_policies`. -/
structure Registry where
  entries : List PolicyEntry
  fits : entries.length ≤ 128

namespace Registry

/-- The registry of a new enclave. -/
def empty : Registry := ⟨[], Nat.zero_le 128⟩

/-- `g_num_policies >= MAX_POLICY_ENTRIES`. -/
def full (reg : Registry) : Bool := decide (128 ≤ reg.entries.length)

/-- `find_policy`: the first entry whose stored FID equals the argument. -/
def findPolicy (reg : Registry) (fid : CStr) : Option PolicyEntry :=
  FirstMatch.lookup PolicyEntry.storedFid fid reg.entries

/-- `g_policy_registry[g_num_policies++] = e`, in a registry with room. -/
def push (reg : Registry) (e : PolicyEntry) : Registry :=
  if h : reg.entries.length < 128 then
    ⟨reg.entries ++ [e], by rw [List.length_append]; exact h⟩
  else reg

/-- A write through the pointer that `find_policy(fid)` returned. -/
def update (reg : Registry) (fid : CStr) (f : PolicyEntry → PolicyEntry) : Registry where
  entries := FirstMatch.updateFirst PolicyEntry.storedFid fid f reg.entries
  fits := by
    rw [FirstMatch.length_updateFirst]
    exact reg.fits

/-- `register_policy_fid`. -/
def registerPolicyFid (reg : Registry) (fid : CStr) (mrenclave : Block 32) : Registry × Int :=
  match reg.findPolicy fid with
  | some entry =>
    if entry.policySet then (reg, -1)
    else (reg.update fid (PolicyEntry.setPolicy mrenclave), 0)
  | none =>
    if reg.full then (reg, -1)
    else (reg.push ((PolicyEntry.fresh fid).setPolicy mrenclave), 0)

/-- `bind_label_to_fid`.  A new entry has no labels, so for it neither the already-bound test
nor the too-many test can fire. -/
def bindLabelToFid (reg : Registry) (fid label : CStr) : Registry × Int :=
  match reg.findPolicy fid with
  | some entry =>
    if entry.hasLabel label then (reg, 0)
    else if 4 ≤ entry.boundLabels.length then (reg, -1)
    else (reg.update fid (PolicyEntry.addLabel label), 0)
  | none =>
    if reg.full then (reg, -1)
    else (reg.push ((PolicyEntry.fresh fid).addLabel label), 0)

/-- `is_label_bound_to_fid`. -/
def isLabelBoundToFid (reg : Registry) (fid label : CStr) : Bool :=
  match reg.findPolicy fid with
  | some entry => entry.hasLabel label
  | none => false

/-- The MRENCLAVE that `find_policy(fid)` makes a release require: that of an entry whose
`policy_set` flag is up, and none when the FID is open. -/
def enforced (reg : Registry) (fid : CStr) : Option (Block 32) :=
  match reg.findPolicy fid with
  | some entry => if entry.policySet then some entry.policyMrenclave else none
  | none => none

/-! ## What a search sees -/

variable {reg : Registry}

@[simp] theorem findPolicy_empty (fid : CStr) : empty.findPolicy fid = none := rfl

theorem fid_of_findPolicy {fid : CStr} {e : PolicyEntry} (h : reg.findPolicy fid = some e) :
    e.fid.str = fid :=
  FirstMatch.key_of_lookup PolicyEntry.storedFid h

/-- A FID too long for its field is never found. -/
theorem findPolicy_eq_none_of_long {fid : CStr} (h : 127 < fid.strlen) :
    reg.findPolicy fid = none := by
  cases hf : reg.findPolicy fid with
  | none => rfl
  | some e => exact absurd (fid_of_findPolicy hf) (CStr.ne_of_lt_strlen e.fid.fits h)

theorem findPolicy_push (h : reg.full = false) (e : PolicyEntry) (fid : CStr) :
    (reg.push e).findPolicy fid =
      (reg.findPolicy fid).or (if e.fid.str = fid then some e else none) := by
  have hlt : reg.entries.length < 128 := by simpa [full] using h
  rw [push, dif_pos hlt]
  exact FirstMatch.lookup_concat PolicyEntry.storedFid fid reg.entries e

theorem findPolicy_update_self {f : PolicyEntry → PolicyEntry} (hf : ∀ e, (f e).fid = e.fid)
    (fid : CStr) : (reg.update fid f).findPolicy fid = (reg.findPolicy fid).map f :=
  FirstMatch.lookup_updateFirst_self PolicyEntry.storedFid
    (fun e => congrArg Field.str (hf e)) fid reg.entries

theorem findPolicy_update_of_ne {f : PolicyEntry → PolicyEntry} (hf : ∀ e, (f e).fid = e.fid)
    {fid fid' : CStr} (hne : fid' ≠ fid) :
    (reg.update fid f).findPolicy fid' = reg.findPolicy fid' :=
  FirstMatch.lookup_updateFirst_of_ne PolicyEntry.storedFid
    (fun e => congrArg Field.str (hf e)) hne reg.entries

/-- A search after a push finds what it found before, or else the new entry. -/
theorem findPolicy_push_cases (h : reg.full = false) (e : PolicyEntry) (fid : CStr) :
    (reg.push e).findPolicy fid = reg.findPolicy fid ∨
      (reg.findPolicy fid = none ∧ e.fid.str = fid ∧ (reg.push e).findPolicy fid = some e) := by
  rw [findPolicy_push h]
  cases hf : reg.findPolicy fid with
  | some x => exact Or.inl rfl
  | none =>
    rw [Option.none_or]
    by_cases hk : e.fid.str = fid
    · rw [if_pos hk]
      exact Or.inr ⟨rfl, hk, rfl⟩
    · rw [if_neg hk]
      exact Or.inl rfl

/-! ## What each operation can do -/

/-- The four outcomes of a registration. -/
theorem registerPolicyFid_cases (reg : Registry) (fid : CStr) (m : Block 32) :
    (∃ e, reg.findPolicy fid = some e ∧ e.policySet = true ∧
      reg.registerPolicyFid fid m = (reg, -1)) ∨
    (∃ e, reg.findPolicy fid = some e ∧ e.policySet = false ∧
      reg.registerPolicyFid fid m = (reg.update fid (PolicyEntry.setPolicy m), 0)) ∨
    (reg.findPolicy fid = none ∧ reg.full = true ∧ reg.registerPolicyFid fid m = (reg, -1)) ∨
    (reg.findPolicy fid = none ∧ reg.full = false ∧
      reg.registerPolicyFid fid m = (reg.push ((PolicyEntry.fresh fid).setPolicy m), 0)) := by
  unfold registerPolicyFid
  cases hf : reg.findPolicy fid with
  | some e =>
    cases hp : e.policySet with
    | true => exact Or.inl ⟨e, rfl, hp, by simp only [hp, if_true]⟩
    | false => exact Or.inr (Or.inl ⟨e, rfl, hp, by simp [hp]⟩)
  | none =>
    cases hfull : reg.full with
    | true => exact Or.inr (Or.inr (Or.inl ⟨rfl, rfl, by simp⟩))
    | false => exact Or.inr (Or.inr (Or.inr ⟨rfl, rfl, by simp⟩))

/-- The five outcomes of a binding. -/
theorem bindLabelToFid_cases (reg : Registry) (fid label : CStr) :
    (∃ e, reg.findPolicy fid = some e ∧ e.hasLabel label = true ∧
      reg.bindLabelToFid fid label = (reg, 0)) ∨
    (∃ e, reg.findPolicy fid = some e ∧ e.hasLabel label = false ∧ 4 ≤ e.boundLabels.length ∧
      reg.bindLabelToFid fid label = (reg, -1)) ∨
    (∃ e, reg.findPolicy fid = some e ∧ e.hasLabel label = false ∧ e.boundLabels.length < 4 ∧
      reg.bindLabelToFid fid label = (reg.update fid (PolicyEntry.addLabel label), 0)) ∨
    (reg.findPolicy fid = none ∧ reg.full = true ∧ reg.bindLabelToFid fid label = (reg, -1)) ∨
    (reg.findPolicy fid = none ∧ reg.full = false ∧
      reg.bindLabelToFid fid label = (reg.push ((PolicyEntry.fresh fid).addLabel label), 0)) := by
  unfold bindLabelToFid
  cases hf : reg.findPolicy fid with
  | some e =>
    cases hl : e.hasLabel label with
    | true => exact Or.inl ⟨e, rfl, hl, by simp [hl]⟩
    | false =>
      by_cases h4 : 4 ≤ e.boundLabels.length
      · exact Or.inr (Or.inl ⟨e, rfl, hl, h4, by simp [hl, h4]⟩)
      · exact Or.inr (Or.inr (Or.inl ⟨e, rfl, hl, by omega, by simp [hl, h4]⟩))
  | none =>
    cases hfull : reg.full with
    | true => exact Or.inr (Or.inr (Or.inr (Or.inl ⟨rfl, rfl, by simp⟩)))
    | false => exact Or.inr (Or.inr (Or.inr (Or.inr ⟨rfl, rfl, by simp⟩)))

/-! ## The two views of a registry -/

theorem enforced_of_findPolicy_eq {reg' : Registry} {fid : CStr}
    (h : reg'.findPolicy fid = reg.findPolicy fid) : reg'.enforced fid = reg.enforced fid := by
  unfold enforced
  rw [h]

theorem isLabelBound_of_findPolicy_eq {reg' : Registry} {fid : CStr}
    (h : reg'.findPolicy fid = reg.findPolicy fid) (label : CStr) :
    reg'.isLabelBoundToFid fid label = reg.isLabelBoundToFid fid label := by
  unfold isLabelBoundToFid
  rw [h]

/-- A pushed entry without a policy enforces nothing that was not enforced before. -/
theorem enforced_push_of_unset (h : reg.full = false) {e : PolicyEntry}
    (he : e.policySet = false) (fid : CStr) : (reg.push e).enforced fid = reg.enforced fid := by
  rcases findPolicy_push_cases h e fid with hp | ⟨hn, -, hp⟩
  · exact enforced_of_findPolicy_eq hp
  · simp only [enforced, hp, hn, he, Bool.false_eq_true, if_false]

/-- **A binding enforces no MRENCLAVE and lifts none**, whatever the strings. -/
theorem enforced_bind (reg : Registry) (fid label fid' : CStr) :
    (reg.bindLabelToFid fid label).1.enforced fid' = reg.enforced fid' := by
  rcases bindLabelToFid_cases reg fid label with ⟨e, -, -, hr⟩ | ⟨e, -, -, -, hr⟩ |
    ⟨e, hf, -, -, hr⟩ | ⟨-, -, hr⟩ | ⟨-, hfull, hr⟩
  · rw [hr]
  · rw [hr]
  · rw [hr]
    by_cases hne : fid' = fid
    · subst hne
      simp only [enforced, findPolicy_update_self (PolicyEntry.addLabel_fid label), hf,
        Option.map_some, PolicyEntry.addLabel_policySet, PolicyEntry.addLabel_policyMrenclave]
    · exact enforced_of_findPolicy_eq (findPolicy_update_of_ne (PolicyEntry.addLabel_fid label) hne)
  · rw [hr]
  · rw [hr]
    exact enforced_push_of_unset hfull
      ((PolicyEntry.addLabel_policySet label _).trans rfl) fid'

/-- **A registration binds no label and unbinds none**, whatever the FID. -/
theorem isLabelBound_register (reg : Registry) (fid : CStr) (m : Block 32) (fid' label : CStr) :
    (reg.registerPolicyFid fid m).1.isLabelBoundToFid fid' label =
      reg.isLabelBoundToFid fid' label := by
  rcases registerPolicyFid_cases reg fid m with ⟨e, -, -, hr⟩ | ⟨e, hf, -, hr⟩ | ⟨-, -, hr⟩ |
    ⟨-, hfull, hr⟩
  · rw [hr]
  · rw [hr]
    by_cases hne : fid' = fid
    · subst hne
      simp only [isLabelBoundToFid, findPolicy_update_self (PolicyEntry.setPolicy_fid m), hf,
        Option.map_some, PolicyEntry.hasLabel_setPolicy]
    · exact isLabelBound_of_findPolicy_eq
        (findPolicy_update_of_ne (PolicyEntry.setPolicy_fid m) hne) label
  · rw [hr]
  · rw [hr]
    rcases findPolicy_push_cases hfull ((PolicyEntry.fresh fid).setPolicy m) fid' with
      hp | ⟨hn, -, hp⟩
    · exact isLabelBound_of_findPolicy_eq hp label
    · simp only [isLabelBoundToFid, hp, hn, PolicyEntry.hasLabel_setPolicy,
        PolicyEntry.hasLabel_fresh]

/-- What a registration of a FID that fits makes the registry enforce. -/
theorem enforced_register {fid : CStr} (hfid : fid.strlen ≤ 127) (reg : Registry) (m : Block 32) :
    (reg.enforced fid = none ∧ (reg.registerPolicyFid fid m).2 = 0 ∧
      ∀ fid', (reg.registerPolicyFid fid m).1.enforced fid' =
        if fid' = fid then some m else reg.enforced fid') ∨
    reg.registerPolicyFid fid m = (reg, -1) := by
  rcases registerPolicyFid_cases reg fid m with ⟨e, -, -, hr⟩ | ⟨e, hf, hp, hr⟩ | ⟨-, -, hr⟩ |
    ⟨hf, hfull, hr⟩
  · exact Or.inr hr
  · refine Or.inl ⟨?_, by rw [hr], fun fid' => ?_⟩
    · simp only [enforced, hf, hp, Bool.false_eq_true, if_false]
    · rw [hr]
      by_cases hne : fid' = fid
      · subst hne
        rw [if_pos rfl]
        simp only [enforced, findPolicy_update_self (PolicyEntry.setPolicy_fid m), hf,
          Option.map_some, PolicyEntry.setPolicy, if_true]
      · rw [if_neg hne]
        exact enforced_of_findPolicy_eq (findPolicy_update_of_ne (PolicyEntry.setPolicy_fid m) hne)
  · exact Or.inr hr
  · have hkey : ((PolicyEntry.fresh fid).setPolicy m).fid.str = fid := Field.store_str_of_le hfid
    refine Or.inl ⟨by simp only [enforced, hf], by rw [hr], fun fid' => ?_⟩
    rw [hr]
    by_cases hne : fid' = fid
    · subst hne
      rw [if_pos rfl, enforced, findPolicy_push hfull, hf, Option.none_or, if_pos hkey]
      rfl
    · rw [if_neg hne]
      refine enforced_of_findPolicy_eq ?_
      rw [findPolicy_push hfull, hkey, if_neg (Ne.symm hne), Option.or_none]

/-- A registration already enforced is refused. -/
theorem register_of_enforced {fid : CStr} {m₀ : Block 32} (h : reg.enforced fid = some m₀)
    (m : Block 32) : reg.registerPolicyFid fid m = (reg, -1) := by
  rcases registerPolicyFid_cases reg fid m with ⟨e, -, -, hr⟩ | ⟨e, hf, hp, -⟩ | ⟨-, -, hr⟩ |
    ⟨hf, -, -⟩
  · exact hr
  · simp only [enforced, hf, hp, Bool.false_eq_true, if_false] at h
    exact absurd h (by simp)
  · exact hr
  · simp only [enforced, hf] at h
    exact absurd h (by simp)

/-- **A refused registration changes nothing.** -/
theorem register_refused {fid : CStr} {m : Block 32}
    (h : (reg.registerPolicyFid fid m).2 = -1) : (reg.registerPolicyFid fid m).1 = reg := by
  rcases registerPolicyFid_cases reg fid m with ⟨e, -, -, hr⟩ | ⟨e, -, -, hr⟩ | ⟨-, -, hr⟩ |
    ⟨-, -, hr⟩
  · rw [hr]
  · rw [hr] at h
    exact absurd h (by simp)
  · rw [hr]
  · rw [hr] at h
    exact absurd h (by simp)

/-- **A refused binding changes nothing.** -/
theorem bind_refused {fid label : CStr}
    (h : (reg.bindLabelToFid fid label).2 = -1) : (reg.bindLabelToFid fid label).1 = reg := by
  rcases bindLabelToFid_cases reg fid label with ⟨e, -, -, hr⟩ | ⟨e, -, -, -, hr⟩ |
    ⟨e, -, -, -, hr⟩ | ⟨-, -, hr⟩ | ⟨-, -, hr⟩
  · rw [hr]
  · rw [hr]
  · rw [hr] at h
    exact absurd h (by simp)
  · rw [hr]
  · rw [hr] at h
    exact absurd h (by simp)

/-! ## Labels -/

/-- A string too long for its slot is bound to nothing. -/
theorem not_isLabelBound_of_long {fid label : CStr}
    (h : 127 < fid.strlen ∨ 64 < label.strlen) : reg.isLabelBoundToFid fid label = false := by
  unfold isLabelBoundToFid
  rcases h with h | h
  · rw [findPolicy_eq_none_of_long h]
  · cases reg.findPolicy fid with
    | none => rfl
    | some e => exact PolicyEntry.hasLabel_of_long h

/-- A label already bound is accepted again and nothing changes. -/
theorem bind_of_isLabelBound {fid label : CStr} (h : reg.isLabelBoundToFid fid label = true) :
    reg.bindLabelToFid fid label = (reg, 0) := by
  unfold isLabelBoundToFid at h
  unfold bindLabelToFid
  cases hf : reg.findPolicy fid with
  | none =>
    rw [hf] at h
    exact absurd h (by simp)
  | some e =>
    rw [hf] at h
    simp only [show e.hasLabel label = true from h, if_true]

/-- What an accepted binding makes bound: the stored cuts of its two strings, and nothing
besides.  When an earlier entry already has the cut FID, not even that. -/
theorem isLabelBound_bind_imp {fid label fid' label' : CStr}
    (h : (reg.bindLabelToFid fid label).1.isLabelBoundToFid fid' label' = true) :
    reg.isLabelBoundToFid fid' label' = true ∨
      ((reg.bindLabelToFid fid label).2 = 0 ∧ fid.cut 127 = fid' ∧ label.cut 64 = label') := by
  rcases bindLabelToFid_cases reg fid label with ⟨e, -, -, hr⟩ | ⟨e, -, -, -, hr⟩ |
    ⟨e, hf, -, h4, hr⟩ | ⟨-, -, hr⟩ | ⟨-, hfull, hr⟩
  · rw [hr] at h
    exact Or.inl h
  · rw [hr] at h
    exact Or.inl h
  · rw [hr] at h ⊢
    by_cases hne : fid' = fid
    · subst hne
      have hfits : fid'.cut 127 = fid' := by
        rw [← fid_of_findPolicy hf]
        exact CStr.cut_of_le e.fid.fits
      simp only [isLabelBoundToFid, findPolicy_update_self (PolicyEntry.addLabel_fid label), hf,
        Option.map_some, PolicyEntry.hasLabel_addLabel h4, Bool.or_eq_true, beq_iff_eq] at h ⊢
      rcases h with h | h
      · exact Or.inl h
      · exact Or.inr ⟨trivial, hfits, h⟩
    · rw [isLabelBound_of_findPolicy_eq
        (findPolicy_update_of_ne (PolicyEntry.addLabel_fid label) hne)] at h
      exact Or.inl h
  · rw [hr] at h
    exact Or.inl h
  · rw [hr] at h ⊢
    rcases findPolicy_push_cases hfull ((PolicyEntry.fresh fid).addLabel label) fid' with
      hp | ⟨-, hk, hp⟩
    · rw [isLabelBound_of_findPolicy_eq hp] at h
      exact Or.inl h
    · rw [PolicyEntry.addLabel_fid] at hk
      simp only [isLabelBoundToFid, hp, PolicyEntry.hasLabel_addLabel_fresh, beq_iff_eq] at h
      exact Or.inr ⟨rfl, hk, h⟩

/-- **An accepted binding of strings that fit** makes exactly this pair bound besides what
was bound before. -/
theorem isLabelBound_bind {fid label : CStr} (hfid : fid.strlen ≤ 127) (hlabel : label.strlen ≤ 64)
    (h : (reg.bindLabelToFid fid label).2 = 0) (fid' label' : CStr) :
    (reg.bindLabelToFid fid label).1.isLabelBoundToFid fid' label' =
      (reg.isLabelBoundToFid fid' label' || (fid == fid' && label == label')) := by
  rw [Bool.eq_iff_iff, Bool.or_eq_true, Bool.and_eq_true, beq_iff_eq, beq_iff_eq]
  constructor
  · intro hb
    rcases isLabelBound_bind_imp hb with hb | ⟨-, hf, hl⟩
    · exact Or.inl hb
    · exact Or.inr ⟨(CStr.cut_of_le hfid).symm.trans hf, (CStr.cut_of_le hlabel).symm.trans hl⟩
  · intro hb
    rcases bindLabelToFid_cases reg fid label with ⟨e, hf, hl, hr⟩ | ⟨e, -, -, -, hr⟩ |
      ⟨e, hf, -, h4, hr⟩ | ⟨-, -, hr⟩ | ⟨hf, hfull, hr⟩
    · rw [hr]
      rcases hb with hb | ⟨rfl, rfl⟩
      · exact hb
      · simp only [isLabelBoundToFid, hf, hl]
    · rw [hr] at h
      exact absurd h (by simp)
    · rw [hr]
      by_cases hne : fid' = fid
      · subst hne
        simp only [isLabelBoundToFid, findPolicy_update_self (PolicyEntry.addLabel_fid label), hf,
          Option.map_some, PolicyEntry.hasLabel_addLabel h4, Bool.or_eq_true, beq_iff_eq,
          CStr.cut_of_le hlabel] at hb ⊢
        exact hb.imp_right And.right
      · rw [isLabelBound_of_findPolicy_eq
          (findPolicy_update_of_ne (PolicyEntry.addLabel_fid label) hne)]
        exact hb.resolve_right fun hh => hne hh.1.symm
    · rw [hr] at h
      exact absurd h (by simp)
    · have hkey : ((PolicyEntry.fresh fid).addLabel label).fid.str = fid := by
        rw [PolicyEntry.addLabel_fid]
        exact Field.store_str_of_le hfid
      rw [hr]
      by_cases hne : fid' = fid
      · subst hne
        have hnone : reg.isLabelBoundToFid fid' label' = false := by
          simp only [isLabelBoundToFid, hf]
        rcases hb with hb | ⟨-, rfl⟩
        · rw [hnone] at hb
          exact absurd hb (by decide)
        · simp only [isLabelBoundToFid, findPolicy_push hfull, hf, Option.none_or, hkey, if_true,
            PolicyEntry.hasLabel_addLabel_fresh, CStr.cut_of_le hlabel, beq_self_eq_true]
      · have hp : (reg.push ((PolicyEntry.fresh fid).addLabel label)).findPolicy fid' =
            reg.findPolicy fid' := by
          rw [findPolicy_push hfull, hkey, if_neg (Ne.symm hne), Option.or_none]
        rw [isLabelBound_of_findPolicy_eq hp]
        exact hb.resolve_right fun hh => hne hh.1.symm

end Registry

/-! ## Calls to the registry -/

/-- The two ECALLs that write the registry. -/
inductive RegistryCall where
  | register (fid : CStr) (mrenclave : Block 32)
  | bind (fid label : CStr)

namespace RegistryCall

/-- The FID a call is about. -/
def fid : RegistryCall → CStr
  | register fid _ => fid
  | bind fid _ => fid

end RegistryCall

/-- `ecall_register_policy_fid` and `ecall_bind_label_to_fid`. -/
def registryStep (reg : Registry) : RegistryCall → Registry × Int
  | .register fid mrenclave => reg.registerPolicyFid fid mrenclave
  | .bind fid label => reg.bindLabelToFid fid label

/-- One recorded call to the registry. -/
abbrev RegistryRecord := Record Registry RegistryCall Int

/-- The FIDs that `handle_client` admits: 1 to `KMS_MAX_FID_LEN` bytes. -/
def AdmittedFid (fid : CStr) : Prop := 1 ≤ fid.strlen ∧ fid.strlen ≤ 4096

instance : DecidablePred AdmittedFid := fun _ => inferInstanceAs (Decidable (_ ∧ _))

/-- The labels that `handle_client` admits: 1 to `KMS_MAX_LABEL_LEN` bytes. -/
def AdmittedLabel (label : CStr) : Prop := 1 ≤ label.strlen ∧ label.strlen ≤ 128

instance : DecidablePred AdmittedLabel := fun _ => inferInstanceAs (Decidable (_ ∧ _))

/-- A refused call changes nothing. -/
theorem registryStep_refused {reg : Registry} {c : RegistryCall}
    (h : (registryStep reg c).2 = -1) : (registryStep reg c).1 = reg := by
  cases c with
  | register fid m => exact Registry.register_refused h
  | bind fid label => exact Registry.bind_refused h

end Kms
end AsynCS
