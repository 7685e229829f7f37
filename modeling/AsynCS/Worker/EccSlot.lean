import AsynCS.Lib.Runs
import AsynCS.Worker.KeyLoad

/-!
# The key slot of the eccibe profile over runs of its loaders

`g_worker_key`, `g_worker_dklabel`, `g_worker_fid` and two flags are written by
`ecall_decrypt_key` and `ecall_decrypt_keys_batch`.  The slot is coherent when all five come
from the last load that returned 0 and a load that returned -1 left no mark.

* `EccCall`, `eccStep`: the machine of the two loaders; `eccStep_cases` is everything that a
  step can do.
* `EccCoherent`: coherence at one point of a run.
* `LoadsCoherently`: the condition on one step.  A load that completes has an FID that ends
  inside `g_worker_fid`; the single-key load does not complete over a label key from the KMS,
  which it would leave in place with its flag; and the batch does not fail at its second blob
  after its first has replaced the key.
* `eccCoherent_iff_loadsCoherently`: a run is coherent throughout exactly when all its steps
  meet the condition.
-/

namespace AsynCS
namespace Worker

/-! ## The machine -/

/-- A call of a loader. -/
inductive EccCall where
  | decryptKey (env : UnwrapEnv) (encryptedKey : KeyBlob) (fid : CStr)
  | decryptKeysBatch (env envLabel : UnwrapEnv) (encryptedDkf encryptedDklabel : KeyBlob)
      (fid : CStr)
  deriving DecidableEq

namespace EccCall

/-- The FID of a call. -/
def fid : EccCall → CStr
  | decryptKey _ _ fid => fid
  | decryptKeysBatch _ _ _ _ fid => fid

/-- What the first blob of a call unwraps to. -/
def unwrappedKey (S : Sgx) (privateKey : Block 32) : EccCall → Option (Block 32)
  | decryptKey env blob _ => unwrapKey S env privateKey blob
  | decryptKeysBatch env _ dkf _ _ => unwrapKey S env privateKey dkf

/-- What the second blob of a call unwraps to. -/
def unwrappedLabelKey (S : Sgx) (privateKey : Block 32) : EccCall → Option (Block 32)
  | decryptKey _ _ _ => none
  | decryptKeysBatch _ envLabel _ dklabel _ => unwrapKey S envLabel privateKey dklabel

end EccCall

/-- The call itself. -/
def EccCall.proc (S : Sgx) : EccCall → Proc Event Globals Unit
  | .decryptKey env blob fid => ecallDecryptKey S env blob fid
  | .decryptKeysBatch env envLabel dkf dklabel fid =>
    ecallDecryptKeysBatch S env envLabel dkf dklabel fid

/-- The return value of an ECALL: -1 when it stopped.  The two loaders return nothing in the
source; this is whether they ran to their end. -/
def returnCode (value : Option Unit) : Int := if value.isSome then 0 else -1

/-- The machine of the two loaders. -/
def eccStep (S : Sgx) (g : Globals) (c : EccCall) : Globals × Int :=
  let o := c.proc S g
  (o.state, returnCode o.value)

/-- A recorded load. -/
abbrev EccRecord := Record Globals EccCall Int

variable {S : Sgx}

@[simp] theorem storeWorkerFid_ecc (fid : CStr) (g : Globals) :
    (g.storeWorkerFid fid).ecc =
      { g.ecc with workerFid := Field.store 128 fid, keyLoaded := true } := by
  simp only [Globals.storeWorkerFid, Globals.functionCacheClear]
  split <;> rfl

/-- **What a load can do.**  It leaves the slot; or it is a batch that replaces the key and
fails at its second blob; or it completes, and then the label key and its flag are those of the
second blob of a batch, and what they were for the single-key load. -/
theorem eccStep_cases (g : Globals) (c : EccCall) :
    (c.unwrappedKey S g.privateKey = none ∧ eccStep S g c = (g, -1)) ∨
    (∃ env envLabel dkf dklabel fid key,
      c = .decryptKeysBatch env envLabel dkf dklabel fid ∧
      c.unwrappedKey S g.privateKey = some key ∧ c.unwrappedLabelKey S g.privateKey = none ∧
      eccStep S g c = (g.setWorkerKey key, -1)) ∨
    (∃ env blob fid key, c = .decryptKey env blob fid ∧
      c.unwrappedKey S g.privateKey = some key ∧
      eccStep S g c = ((g.setWorkerKey key).storeWorkerFid fid, 0)) ∨
    (∃ env envLabel dkf dklabel fid key label,
      c = .decryptKeysBatch env envLabel dkf dklabel fid ∧
      c.unwrappedKey S g.privateKey = some key ∧
      c.unwrappedLabelKey S g.privateKey = some label ∧
      eccStep S g c = (((g.setWorkerKey key).setDklabel label).storeWorkerFid fid, 0)) := by
  cases c with
  | decryptKey env blob fid =>
    simp only [eccStep, EccCall.proc, state_ecallDecryptKey, value_ecallDecryptKey, EccCall.unwrappedKey]
    cases hk : unwrapKey S env g.privateKey blob with
    | none => exact Or.inl ⟨rfl, rfl⟩
    | some key => exact Or.inr (Or.inr (Or.inl ⟨env, blob, fid, key, rfl, rfl, rfl⟩))
  | decryptKeysBatch env envLabel dkf dklabel fid =>
    simp only [eccStep, EccCall.proc, state_ecallDecryptKeysBatch, value_ecallDecryptKeysBatch,
      EccCall.unwrappedKey, EccCall.unwrappedLabelKey]
    cases hk : unwrapKey S env g.privateKey dkf with
    | none => exact Or.inl ⟨rfl, rfl⟩
    | some key =>
      cases hl : unwrapKey S envLabel g.privateKey dklabel with
      | none =>
        exact Or.inr (Or.inl ⟨env, envLabel, dkf, dklabel, fid, key, rfl, rfl, rfl, rfl⟩)
      | some label =>
        exact Or.inr (Or.inr (Or.inr
          ⟨env, envLabel, dkf, dklabel, fid, key, label, rfl, rfl, rfl, rfl⟩))

/-! ## Coherence -/

/-- The last load of a history that returned 0. -/
def lastCompleted (h : List EccRecord) : Option EccRecord := h.find? fun r => r.output == 0

/-- The slot holds what the load `r` unwrapped, under the FID of `r`. -/
structure LoadedBy (S : Sgx) (r : EccRecord) (slot : EccSlot) : Prop where
  key : r.input.unwrappedKey S r.pre.privateKey = some slot.workerKey
  fid : slot.workerFid.str = r.input.fid
  label : slot.dklabelFromKms = true →
    r.input.unwrappedLabelKey S r.pre.privateKey = some slot.workerDklabel

/-- **Coherence of the slot, at one point of a run.** -/
structure EccCoherent (S : Sgx) (h : List EccRecord) (g : Globals) : Prop where
  loaded : g.ecc.keyLoaded = true → ∃ r, lastCompleted h = some r ∧ LoadedBy S r g.ecc
  refused : ∀ r t, h = r :: t → r.output = -1 → g.ecc = r.pre.ecc
  hasKey : ∀ fid, eccHasKey g.ecc fid = true →
    ∃ r, lastCompleted h = some r ∧ r.input.fid = fid

/-- The condition on one load, in the state before it. -/
def LoadsCoherently (S : Sgx) (r : EccRecord) : Prop :=
  match r.input with
  | .decryptKey env blob fid =>
    unwrapKey S env r.pre.privateKey blob = none ∨
      (fid.strlen < 128 ∧ r.pre.ecc.dklabelFromKms = false)
  | .decryptKeysBatch env envLabel dkf dklabel fid =>
    unwrapKey S env r.pre.privateKey dkf = none ∨
      (if unwrapKey S envLabel r.pre.privateKey dklabel = none then
        unwrapKey S env r.pre.privateKey dkf = some r.pre.ecc.workerKey
      else fid.strlen < 128)

instance (S : Sgx) : DecidablePred (LoadsCoherently S)
  | ⟨_, .decryptKey _ _ _, _⟩ => inferInstanceAs (Decidable (_ ∨ _))
  | ⟨_, .decryptKeysBatch _ _ _ _ _, _⟩ => inferInstanceAs (Decidable (_ ∨ _))

/-! ## The condition is enough -/

theorem lastCompleted_cons_refused {r : EccRecord} {h : List EccRecord} (hr : r.output = -1) :
    lastCompleted (r :: h) = lastCompleted h := by
  rw [lastCompleted, List.find?_cons, hr]
  rfl

theorem lastCompleted_cons_completed {r : EccRecord} {h : List EccRecord} (hr : r.output = 0) :
    lastCompleted (r :: h) = some r := by
  rw [lastCompleted, List.find?_cons, hr]
  rfl

/-- A slot that was loaded for a short FID has a key for that FID only. -/
theorem eccHasKey_store {slot : EccSlot} {fid : CStr} (hfid : fid.strlen < 128)
    (hslot : slot.workerFid.str = fid) {f : CStr} (h : eccHasKey slot f = true) : fid = f := by
  rw [eccHasKey, Bool.and_eq_true, hslot] at h
  exact (CStr.strncmpEq_iff_of_lt hfid).mp h.2

/-- A load that completed with a short FID leaves a coherent slot. -/
theorem eccCoherent_of_loadedBy {r : EccRecord} {h : List EccRecord} {g : Globals}
    (hout : r.output = 0) (hfid : r.input.fid.strlen < 128) (hload : LoadedBy S r g.ecc) :
    EccCoherent S (r :: h) g where
  loaded _ := ⟨r, lastCompleted_cons_completed hout, hload⟩
  refused r' t heq hr' := by
    obtain ⟨rfl, -⟩ := List.cons.inj heq
    rw [hout] at hr'
    exact absurd hr' (by decide)
  hasKey f hf := ⟨r, lastCompleted_cons_completed hout, eccHasKey_store hfid hload.fid hf⟩

/-- A load that returned -1 and left the slot as it was leaves it coherent. -/
theorem EccCoherent.refuse {h : List EccRecord} {g g' : Globals} {c : EccCall}
    (hco : EccCoherent S h g) (hslot : g'.ecc = g.ecc) :
    EccCoherent S (⟨g, c, -1⟩ :: h) g' where
  loaded hl := by
    rw [hslot] at hl ⊢
    rw [lastCompleted_cons_refused rfl]
    exact hco.loaded hl
  refused r t heq _ := by
    obtain ⟨rfl, -⟩ := List.cons.inj heq
    exact hslot
  hasKey f hf := by
    rw [hslot] at hf
    rw [lastCompleted_cons_refused rfl]
    exact hco.hasKey f hf

/-- **Step.**  A load that meets the condition keeps the slot coherent. -/
theorem eccCoherent_step {h : List EccRecord} {g : Globals} {c : EccCall}
    (hco : EccCoherent S h g) (hc : LoadsCoherently S ⟨g, c, (eccStep S g c).2⟩) :
    EccCoherent S (⟨g, c, (eccStep S g c).2⟩ :: h) (eccStep S g c).1 := by
  rcases eccStep_cases (S := S) g c with ⟨-, hs⟩ | ⟨env, envLabel, dkf, dklabel, fid, key, rfl, hk,
    hl, hs⟩ | ⟨env, blob, fid, key, rfl, hk, hs⟩ |
    ⟨env, envLabel, dkf, dklabel, fid, key, label, rfl, hk, hl, hs⟩
  · rw [hs]
    exact hco.refuse rfl
  · rw [hs] at hc ⊢
    -- the key that the batch wrote was there already
    simp only [EccCall.unwrappedKey, EccCall.unwrappedLabelKey] at hk hl
    simp only [LoadsCoherently, hk, hl, if_true, reduceCtorEq, false_or, Option.some.injEq] at hc
    refine hco.refuse ?_
    rw [hc]
    rfl
  · rw [hs] at hc ⊢
    simp only [EccCall.unwrappedKey] at hk
    simp only [LoadsCoherently, hk, reduceCtorEq, false_or] at hc
    refine eccCoherent_of_loadedBy rfl hc.1 ⟨?_, ?_, ?_⟩
    · rw [storeWorkerFid_ecc]
      exact hk
    · rw [storeWorkerFid_ecc]
      exact CStr.cut_of_le (le_of_lt hc.1)
    · intro hflag
      rw [storeWorkerFid_ecc] at hflag
      exact absurd (hc.2.symm.trans hflag) (by decide)
  · rw [hs] at hc ⊢
    simp only [EccCall.unwrappedKey, EccCall.unwrappedLabelKey] at hk hl
    simp only [LoadsCoherently, hk, hl, reduceCtorEq, if_false, false_or] at hc
    refine eccCoherent_of_loadedBy rfl hc ⟨?_, ?_, fun _ => ?_⟩
    · rw [storeWorkerFid_ecc]
      exact hk
    · rw [storeWorkerFid_ecc]
      exact CStr.cut_of_le (le_of_lt hc)
    · rw [storeWorkerFid_ecc]
      exact hl

/-- **Run.**  When every load meets the condition, the slot is coherent. -/
theorem eccCoherent_of_loadsCoherently {g₀ g : Globals} (h₀ : g₀.ecc.keyLoaded = false)
    {h : List EccRecord} (hr : Reach (eccStep S) g₀ h g) (hc : ∀ r ∈ h, LoadsCoherently S r) :
    EccCoherent S h g := by
  refine Reach.invariant (fun h g => (∀ r ∈ h, LoadsCoherently S r) → EccCoherent S h g)
    (fun _ => ⟨fun hl => ?_, fun _ _ heq => ?_, fun fid hf => ?_⟩) ?_ hr hc
  · exact absurd (h₀.symm.trans hl) (by decide)
  · exact absurd heq (by simp)
  · rw [eccHasKey, h₀] at hf
    exact absurd hf (by simp)
  · intro h g c _ ih hall
    exact eccCoherent_step (ih fun r hr => hall r (List.mem_cons_of_mem _ hr))
      (hall _ List.mem_cons_self)

/-! ## The condition is necessary -/

/-- A slot that was loaded for a long FID has a key for another one too. -/
theorem eccHasKey_of_long {slot : EccSlot} {fid : CStr} (hlong : 128 ≤ fid.strlen)
    (hslot : slot.workerFid = Field.store 128 fid) (hl : slot.keyLoaded = true) :
    ∃ f, f ≠ fid ∧ eccHasKey slot f = true := by
  refine ⟨fid.cat (CStr.letters 1), fun heq => ?_, ?_⟩
  · have hlen := congrArg CStr.strlen heq
    rw [CStr.strlen_cat, CStr.strlen_letters] at hlen
    omega
  · rw [eccHasKey, hl, hslot, Field.store_str, Bool.true_and, CStr.strncmpEq_iff, CStr.cut_cut,
      Nat.min_self]
    refine CStr.ext ?_
    show fid.bytes.take 128 = (fid.bytes ++ (CStr.letters 1).bytes).take 128
    rw [List.take_append_of_le_length hlong]

/-- A load that breaks the condition leaves a slot that is not coherent. -/
theorem loadsCoherently_of_eccCoherent {h : List EccRecord} {g : Globals} {c : EccCall}
    (hco : EccCoherent S (⟨g, c, (eccStep S g c).2⟩ :: h) (eccStep S g c).1) :
    LoadsCoherently S ⟨g, c, (eccStep S g c).2⟩ := by
  have hshort : ∀ g', (eccStep S g c) = (g', 0) → g'.ecc.keyLoaded = true →
      g'.ecc.workerFid = Field.store 128 c.fid → c.fid.strlen < 128 := by
    intro g' hs hl hf
    rw [hs] at hco
    by_contra hlong
    obtain ⟨f, hne, hf⟩ := eccHasKey_of_long (Nat.le_of_not_lt hlong) hf hl
    obtain ⟨r, hlast, hr⟩ := hco.hasKey f hf
    rw [lastCompleted_cons_completed rfl] at hlast
    obtain rfl := Option.some.inj hlast
    exact hne hr.symm
  rcases eccStep_cases (S := S) g c with ⟨hk, hs⟩ | ⟨env, envLabel, dkf, dklabel, fid, key, rfl, hk,
    hl, hs⟩ | ⟨env, blob, fid, key, rfl, hk, hs⟩ |
    ⟨env, envLabel, dkf, dklabel, fid, key, label, rfl, hk, hl, hs⟩
  · cases c <;> exact Or.inl hk
  · simp only [EccCall.unwrappedKey, EccCall.unwrappedLabelKey] at hk hl
    have hslot := hco.refused _ _ rfl (by rw [hs])
    rw [hs] at hslot
    have hkey : key = g.ecc.workerKey := congrArg EccSlot.workerKey hslot
    simp [LoadsCoherently, hk, hl, hkey]
  · have hfid : fid.strlen < 128 := hshort _ hs (by simp) (by simp [EccCall.fid])
    refine Or.inr ⟨hfid, ?_⟩
    rw [hs] at hco
    obtain ⟨r, hlast, hload⟩ := hco.loaded (by simp)
    rw [lastCompleted_cons_completed rfl] at hlast
    obtain rfl := Option.some.inj hlast
    by_contra hflag
    -- the flag says that a label key was unwrapped, and this load unwraps none
    have hlabel := hload.label (by
      rw [storeWorkerFid_ecc]
      exact Bool.eq_true_of_not_eq_false hflag)
    exact absurd hlabel (by simp [EccCall.unwrappedLabelKey])
  · have hfid : fid.strlen < 128 := hshort _ hs (by simp) (by simp [EccCall.fid])
    simp only [EccCall.unwrappedKey, EccCall.unwrappedLabelKey] at hk hl
    simp [LoadsCoherently, hk, hl, hfid]

/-- **The slot is coherent throughout a run exactly when every load meets the condition.** -/
theorem eccCoherent_iff_loadsCoherently {g₀ g : Globals} (h₀ : g₀.ecc.keyLoaded = false)
    {h : List EccRecord} (hr : Reach (eccStep S) g₀ h g) :
    Throughout (eccStep S) g₀ (EccCoherent S) h ↔ ∀ r ∈ h, LoadsCoherently S r := by
  constructor
  · intro hall r hm
    obtain ⟨t, -, hpost, hout⟩ := hall.at_record hr hm
    obtain ⟨pre, c, o⟩ := r
    obtain rfl : o = (eccStep S pre c).2 := hout
    exact loadsCoherently_of_eccCoherent hpost
  · exact Throughout.of_records fun t s ht hc => eccCoherent_of_loadsCoherently h₀ ht hc

/-- A blob that unwraps to 32 equal bytes for a worker whose private key is zero. -/
def sampleKeyBlob (b : UInt8) : KeyBlob where
  kmsPub := Block.fill 64 0
  iv := Block.fill 12 0
  ciphertext := Block.fill 32 b
  tag := Sgx.checksum (List.replicate 32 b)

/-- Both loaders, for one FID after another; a blob that does not unwrap is refused. -/
def freshLoads : List EccCall :=
  [.decryptKey ⟨true, true⟩ (sampleKeyBlob 1) (CStr.lit "f"),
    .decryptKeysBatch ⟨true, true⟩ ⟨true, true⟩ (sampleKeyBlob 2) (sampleKeyBlob 3)
      (CStr.lit "g"),
    .decryptKey ⟨true, false⟩ (sampleKeyBlob 4) (CStr.lit "f")]

/-- The run of `freshLoads` is coherent, and ends with the keys of its second load. -/
theorem freshLoads_coherent :
    (runOn (eccStep Sgx.sample) [] Globals.initial freshLoads).2.ecc.workerKey =
        Block.fill 32 2 ∧
      Throughout (eccStep Sgx.sample) Globals.initial (EccCoherent Sgx.sample)
        (runOn (eccStep Sgx.sample) [] Globals.initial freshLoads).1 :=
  ⟨by decide +kernel, (eccCoherent_iff_loadsCoherently rfl (reach_runOn _ _ Reach.start)).mpr
    (by decide +kernel)⟩

/-- A load of two keys, and a second one whose label blob does not unwrap. -/
def halfLoads : List EccCall :=
  [.decryptKeysBatch ⟨true, true⟩ ⟨true, true⟩ (sampleKeyBlob 1) (sampleKeyBlob 2)
      (CStr.lit "f"),
    .decryptKeysBatch ⟨true, true⟩ ⟨true, false⟩ (sampleKeyBlob 3) (sampleKeyBlob 4)
      (CStr.lit "g")]

/-- The second load returns -1, and the slot is left with its first key under the FID and with
the label key of the first load. -/
theorem halfLoads_not_coherent :
    ¬ Throughout (eccStep Sgx.sample) Globals.initial (EccCoherent Sgx.sample)
      (runOn (eccStep Sgx.sample) [] Globals.initial halfLoads).1 := by
  intro hall
  have hend := hall _ _ List.suffix_rfl
    (reach_runOn (eccStep Sgx.sample) halfLoads Reach.start)
  have hslot := hend.refused _ _ rfl (by decide +kernel)
  exact absurd (congrArg EccSlot.workerKey hslot) (by decide +kernel)

end Worker
end AsynCS
