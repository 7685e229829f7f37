import AsynCS.Worker.Machine

/-!
# The key slot of the BF-IBE profile, and loads that fail

`ecall_load_bfibe_key_release` parses the key set of a release while it writes the two private
keys.  A load that returns -1 should change nothing, and a loaded slot should hold the two keys
of the last release that was imported, under its FID.

* `LoadResult`, `loadResult`: what a load makes of a release, in the code's own parsers: nothing
  is read, or a set is refused and leaves certain slots, or a set is imported.
* `FailedLoadChangesNothing`, `LoadLeavesSlots`: the claim on one load, and its condition: a set
  that is refused leaves what the slots already hold.
* `importRecords_keys`: a set that is imported brings two keys that are not empty.
* `BfibeCoherent`, `LoadsCleanly`: the claim at one point of a run, and its condition on a step,
  which also asks the FID of an imported release to fit `char g_bfibe_fid[128]`.
* `failedLoad_changes_nothing_iff`: both conditions are exact.
-/

namespace AsynCS
namespace Worker

open Proc

variable {S : Sgx} {B : Bfibe}

/-! ## What a load makes of a release -/

/-- What a load makes of a release. -/
inductive LoadResult where
  /-- the release does not open, or its plaintext has no key-set header -/
  | unread
  /-- the key set is refused after its header, and the slots are left so -/
  | refused (left : KeyPairSlots)
  /-- the key set is imported for the FID -/
  | imported (fid : CStr) (keys : KeyPairSlots)

/-- What a load makes of a release in a state. -/
def loadResult (S : Sgx) (env : LoadEnv) (g : Globals) (release : Bytes) (fid : Option CStr) :
    LoadResult :=
  match openRelease S env g release fid with
  | .error _ => .unread
  | .ok (f, plaintext) =>
    match readKeySetHeader plaintext with
    | none => .unread
    | some (recordCount, body) =>
      match importRecords f recordCount body ImportState.wiped with
      | none => .refused ImportState.wiped.keys
      | some (st, rest) =>
        if rest.isEmpty && st.foundRequestKey && st.foundFunctionKey then .imported f st.keys
        else .refused st.keys

/-- **A load**, by what it makes of its release. -/
theorem load_cases (env : LoadEnv) (g : Globals) (release : Bytes) (fid : Option CStr) :
    ((ecallLoadBfibeKeyRelease S env release fid g).value,
        (ecallLoadBfibeKeyRelease S env release fid g).state) =
      match loadResult S env g release fid with
      | .unread => (none, g)
      | .refused left => (none, g.setBfibeKeys left)
      | .imported f keys => (some (), (g.setBfibeKeys keys).storeBfibeFid f) := by
  rw [value_ecallLoadBfibeKeyRelease, state_ecallLoadBfibeKeyRelease]
  unfold loadResult
  cases openRelease S env g release fid with
  | error texts => rfl
  | ok opened =>
    obtain ⟨f, plaintext⟩ := opened
    rcases Option.eq_none_or_eq_some (readKeySetHeader plaintext) with hh | ⟨⟨count, body⟩, hh⟩
    · simp [parseBfibePrivateKeySet, hh, Globals.setBfibeKeys]
    · rcases Option.eq_none_or_eq_some (importRecords f count body ImportState.wiped) with
        hi | ⟨⟨st, rest⟩, hi⟩
      · simp [parseBfibePrivateKeySet, hh, hi]
      · simp only [parseBfibePrivateKeySet_of_import hh hi, hh, hi]
        cases rest.isEmpty && st.foundRequestKey && st.foundFunctionKey <;> rfl

/-! ## One load -/

/-- **A failed load changes nothing**, in one state. -/
def FailedLoadChangesNothing (S : Sgx) (env : LoadEnv) (g : Globals) (release : Bytes)
    (fid : Option CStr) : Prop :=
  (ecallLoadBfibeKeyRelease S env release fid g).value = none →
    (ecallLoadBfibeKeyRelease S env release fid g).state.bfibe = g.bfibe ∧
      (ecallLoadBfibeKeyRelease S env release fid g).state.cache = g.cache

/-- A key set that is refused after its header leaves what the slots already hold. -/
def LoadLeavesSlots (S : Sgx) (env : LoadEnv) (g : Globals) (release : Bytes)
    (fid : Option CStr) : Prop :=
  ∀ left, loadResult S env g release fid = .refused left → g.bfibe.keys = left

theorem failedLoadChangesNothing_iff (env : LoadEnv) (g : Globals) (release : Bytes)
    (fid : Option CStr) :
    FailedLoadChangesNothing S env g release fid ↔ LoadLeavesSlots S env g release fid := by
  unfold FailedLoadChangesNothing LoadLeavesSlots
  have hload := load_cases (S := S) env g release fid
  cases hr : loadResult S env g release fid with
  | unread =>
    rw [hr] at hload
    obtain ⟨-, hstate⟩ := Prod.mk.inj hload
    rw [hstate]
    exact ⟨fun _ _ h => absurd h (by simp), fun _ _ => ⟨rfl, rfl⟩⟩
  | refused left =>
    rw [hr] at hload
    obtain ⟨hvalue, hstate⟩ := Prod.mk.inj hload
    rw [hstate, hvalue]
    constructor
    · intro h left' heq
      obtain rfl := LoadResult.refused.inj heq
      exact (congrArg BfibeSlot.keys (h rfl).1).symm
    · intro h _
      have hkeys := h left rfl
      refine ⟨?_, rfl⟩
      rw [Globals.setBfibeKeys_bfibe, ← hkeys]
  | imported f keys =>
    rw [hr] at hload
    obtain ⟨hvalue, -⟩ := Prod.mk.inj hload
    rw [hvalue]
    exact ⟨fun _ _ h => absurd h (by simp), fun _ h => absurd h (by simp)⟩

/-! ## Imported keys -/

/-- A key that was found is not empty. -/
structure ImportState.FoundKeys (st : ImportState) : Prop where
  request : st.foundRequestKey = true → st.keys.requestSk.key ≠ []
  function : st.foundFunctionKey = true → st.keys.functionSk.key ≠ []

/-- A record that is imported has a key. -/
theorem importRecord_keys {record : KeyRecord} {fid : CStr} {st st' : ImportState}
    (hst : st.FoundKeys) (h : importBfibePrivateKeyRecord record fid st = some st') :
    st'.FoundKeys := by
  unfold importBfibePrivateKeyRecord at h
  split at h
  · dsimp only at h
    split at h
    · exact absurd h (by simp)
    · split at h
      · exact absurd h (by simp)
      · split at h
        · exact absurd h (by simp)
        · rename_i hlen
          obtain rfl := Option.some.inj h
          refine ⟨fun _ => ?_, hst.function⟩
          rw [KeySlot.key_write]
          intro hnil
          exact hlen (Or.inl (List.length_eq_zero_iff.mpr hnil))
  · split at h
    · split at h
      · exact absurd h (by simp)
      · rename_i hlen
        split at h
        · exact absurd h (by simp)
        · obtain rfl := Option.some.inj h
          refine ⟨hst.request, fun _ => ?_⟩
          rw [KeySlot.key_write]
          intro hnil
          exact hlen (Or.inl (List.length_eq_zero_iff.mpr hnil))
    · exact absurd h (by simp)

/-- **The keys of a set.**  However many records are read, a key that was found is not empty. -/
theorem importRecords_keys {fid : CStr} {count : ℕ} {input rest : Bytes} {st st' : ImportState}
    (hst : st.FoundKeys) (h : importRecords fid count input st = some (st', rest)) :
    st'.FoundKeys := by
  induction count generalizing input st with
  | zero =>
    rw [importRecords, Option.some.injEq, Prod.mk.injEq] at h
    rw [← h.1]
    exact hst
  | succ count ih =>
    simp only [importRecords, Option.bind_eq_bind, Option.bind_eq_some_iff] at h
    obtain ⟨⟨record, behind⟩, -, st₁, himport, hrest⟩ := h
    exact ih (importRecord_keys hst himport) hrest

/-- A load that imports has opened its release, and brings two keys that are not empty. -/
theorem keys_of_imported {env : LoadEnv} {g : Globals} {release : Bytes} {fid : Option CStr}
    {f : CStr} {keys : KeyPairSlots} (h : loadResult S env g release fid = .imported f keys) :
    keys.requestSk.key ≠ [] ∧ keys.functionSk.key ≠ [] := by
  unfold loadResult at h
  split at h
  · exact absurd h (by simp)
  · split at h
    · exact absurd h (by simp)
    · split at h
      · exact absurd h (by simp)
      · rename_i st rest himport
        split at h
        · rename_i hfound
          obtain ⟨-, rfl⟩ := LoadResult.imported.inj h
          have hkeys := importRecords_keys
            ⟨fun h => absurd h (by decide), fun h => absurd h (by decide)⟩ himport
          simp only [Bool.and_eq_true] at hfound
          exact ⟨hkeys.request hfound.1.2, hkeys.function hfound.2⟩
        · exact absurd h (by simp)

/-! ## Runs -/

/-- The recorded call is a BF-IBE load that returned 0. -/
def WorkerRecord.loadedBfibe (r : WorkerRecord) : Bool :=
  match r.input with
  | .loadBfibeKeyRelease _ _ _ => r.output.ret == 0
  | _ => false

/-- The last BF-IBE load of a history that returned 0. -/
def lastBfibeLoad (h : List WorkerRecord) : Option WorkerRecord :=
  h.find? WorkerRecord.loadedBfibe

/-- The slot holds the two keys of the release of `r`, under its FID. -/
def ReleasedBy (S : Sgx) (r : WorkerRecord) (slot : BfibeSlot) : Prop :=
  ∃ env release fid f, r.input = .loadBfibeKeyRelease env release fid ∧
    loadResult S env r.pre release fid = .imported f slot.keys ∧ slot.fid.str = f

/-- **Coherence of the slot, at one point of a run.** -/
structure BfibeCoherent (S : Sgx) (h : List WorkerRecord) (g : Globals) : Prop where
  refused : ∀ r t env release fid, h = r :: t → r.input = .loadBfibeKeyRelease env release fid →
    r.output.ret = -1 → g.bfibe = r.pre.bfibe ∧ g.cache = r.pre.cache
  loaded : g.bfibe.keyLoaded = true →
    g.bfibe.keys.requestSk.key ≠ [] ∧ g.bfibe.keys.functionSk.key ≠ [] ∧
      ∃ r, lastBfibeLoad h = some r ∧ ReleasedBy S r g.bfibe

/-- The condition on one call, in the state before it. -/
def LoadsCleanly (S : Sgx) (r : WorkerRecord) : Prop :=
  ∀ env release fid, r.input = .loadBfibeKeyRelease env release fid →
    LoadLeavesSlots S env r.pre release fid ∧
      ∀ f keys, loadResult S env r.pre release fid = .imported f keys → f.strlen ≤ 127

/-- The record of a load, by what it makes of its release. -/
theorem workerStep_load (g : Globals) (env : LoadEnv) (release : Bytes) (fid : Option CStr) :
    (workerStep S B g (.loadBfibeKeyRelease env release fid)).1 =
        (match loadResult S env g release fid with
        | .unread => g
        | .refused left => g.setBfibeKeys left
        | .imported f keys => (g.setBfibeKeys keys).storeBfibeFid f) ∧
      (workerStep S B g (.loadBfibeKeyRelease env release fid)).2.ret =
        (match loadResult S env g release fid with
        | .imported _ _ => 0
        | _ => -1) := by
  obtain ⟨hvalue, hstate⟩ := Prod.ext_iff.mp (load_cases (S := S) env g release fid)
  simp only [workerStep, WorkerReply.ofOutcome] at hvalue hstate ⊢
  rw [hvalue, hstate]
  cases loadResult S env g release fid <;> exact ⟨rfl, rfl⟩

theorem lastBfibeLoad_cons_of_ne {r : WorkerRecord} {h : List WorkerRecord}
    (hr : r.loadedBfibe = false) : lastBfibeLoad (r :: h) = lastBfibeLoad h := by
  rw [lastBfibeLoad, List.find?_cons, hr]
  rfl

theorem lastBfibeLoad_cons {r : WorkerRecord} {h : List WorkerRecord}
    (hr : r.loadedBfibe = true) : lastBfibeLoad (r :: h) = some r := by
  rw [lastBfibeLoad, List.find?_cons, hr]

/-- A call that loads nothing and leaves the slot keeps it coherent. -/
theorem BfibeCoherent.keep {h : List WorkerRecord} {g : Globals} {c : WorkerCall}
    (hco : BfibeCoherent S h g) (hslot : (workerStep S B g c).1.bfibe = g.bfibe)
    (hcache : ∀ env release fid, c = .loadBfibeKeyRelease env release fid →
      (workerStep S B g c).1.cache = g.cache)
    (hload : WorkerRecord.loadedBfibe ⟨g, c, (workerStep S B g c).2⟩ = false) :
    BfibeCoherent S (⟨g, c, (workerStep S B g c).2⟩ :: h) (workerStep S B g c).1 where
  refused r t env release fid heq hin _ := by
    obtain ⟨rfl, -⟩ := List.cons.inj heq
    exact ⟨hslot, hcache env release fid hin⟩
  loaded hl := by
    rw [hslot] at hl ⊢
    rw [lastBfibeLoad_cons_of_ne hload]
    exact hco.loaded hl

/-- **Step.**  A call that meets the condition keeps the slot coherent. -/
theorem bfibeCoherent_step {h : List WorkerRecord} {g : Globals} {c : WorkerCall}
    (hco : BfibeCoherent S h g) (hc : LoadsCleanly S ⟨g, c, (workerStep S B g c).2⟩) :
    BfibeCoherent S (⟨g, c, (workerStep S B g c).2⟩ :: h) (workerStep S B g c).1 := by
  by_cases hcall : ∃ env release fid, c = .loadBfibeKeyRelease env release fid
  · obtain ⟨env, release, fid, rfl⟩ := hcall
    obtain ⟨hstate, hret⟩ := workerStep_load (S := S) (B := B) g env release fid
    obtain ⟨hleaves, hfid⟩ := hc env release fid rfl
    cases hr : loadResult S env g release fid with
    | unread =>
      rw [hr] at hstate hret
      refine hco.keep (by rw [hstate]) (fun _ _ _ _ => by rw [hstate]) ?_
      simp only [WorkerRecord.loadedBfibe, hret]
      rfl
    | refused left =>
      rw [hr] at hstate hret
      have hkeys := hleaves left hr
      refine hco.keep ?_ (fun _ _ _ _ => by rw [hstate]; rfl) ?_
      · rw [hstate, Globals.setBfibeKeys_bfibe, ← hkeys]
      · simp only [WorkerRecord.loadedBfibe, hret]
        rfl
    | imported f keys =>
      rw [hr] at hstate hret
      have hslot : (workerStep S B g (.loadBfibeKeyRelease env release fid)).1.bfibe =
          ⟨keys, Field.store 127 f, true⟩ := by
        rw [hstate, Globals.storeBfibeFid_bfibe, Globals.setBfibeKeys_bfibe]
      have hload : WorkerRecord.loadedBfibe ⟨g, .loadBfibeKeyRelease env release fid,
          (workerStep S B g (.loadBfibeKeyRelease env release fid)).2⟩ = true := by
        simp only [WorkerRecord.loadedBfibe, hret]
        rfl
      refine ⟨fun r t _ _ _ heq _ hneg => ?_, fun _ => ?_⟩
      · obtain ⟨rfl, -⟩ := List.cons.inj heq
        rw [hret] at hneg
        exact absurd hneg (by simp)
      · rw [hslot, lastBfibeLoad_cons hload]
        obtain ⟨hreq, hfun⟩ := keys_of_imported hr
        exact ⟨hreq, hfun, _, rfl, env, release, fid, f, rfl, hr,
          CStr.cut_of_le (hfid f keys hr)⟩
  · have hne : ∀ env release fid, c ≠ .loadBfibeKeyRelease env release fid :=
      fun env release fid heq => hcall ⟨env, release, fid, heq⟩
    refine hco.keep (workerStep_bfibeSlot g c hne) (fun env release fid heq =>
      absurd heq (hne env release fid)) ?_
    cases c <;> first | rfl | exact absurd rfl (hne _ _ _)

/-- **Run.**  When every call meets the condition, the slot is coherent. -/
theorem bfibeCoherent_of_loadsCleanly {g₀ g : Globals} (h₀ : g₀.bfibe.keyLoaded = false)
    {h : List WorkerRecord} (hr : Reach (workerStep S B) g₀ h g)
    (hc : ∀ r ∈ h, LoadsCleanly S r) : BfibeCoherent S h g := by
  refine Reach.invariant (fun h g => (∀ r ∈ h, LoadsCleanly S r) → BfibeCoherent S h g)
    (fun _ => ⟨fun _ _ _ _ _ heq => absurd heq (by simp), fun hl => ?_⟩) ?_ hr hc
  · exact absurd (h₀.symm.trans hl) (by decide)
  · intro h g c _ ih hall
    exact bfibeCoherent_step (ih fun r hr => hall r (List.mem_cons_of_mem _ hr))
      (hall _ List.mem_cons_self)

/-- A call that breaks the condition leaves a slot that is not coherent. -/
theorem loadsCleanly_of_bfibeCoherent {h : List WorkerRecord} {g : Globals} {c : WorkerCall}
    (hco : BfibeCoherent S (⟨g, c, (workerStep S B g c).2⟩ :: h) (workerStep S B g c).1) :
    LoadsCleanly S ⟨g, c, (workerStep S B g c).2⟩ := by
  intro env release fid hcall
  obtain rfl : c = .loadBfibeKeyRelease env release fid := hcall
  obtain ⟨hstate, hret⟩ := workerStep_load (S := S) (B := B) g env release fid
  refine ⟨fun left hr => ?_, fun f keys hr => ?_⟩
  · have hr' : loadResult S env g release fid = .refused left := hr
    rw [hr'] at hstate hret
    have hslot := (hco.refused _ _ env release fid rfl rfl hret).1
    rw [hstate, Globals.setBfibeKeys_bfibe] at hslot
    exact (congrArg BfibeSlot.keys hslot).symm
  · have hr' : loadResult S env g release fid = .imported f keys := hr
    rw [hr'] at hstate hret
    have hslot : (workerStep S B g (.loadBfibeKeyRelease env release fid)).1.bfibe =
        ⟨keys, Field.store 127 f, true⟩ := by
      rw [hstate, Globals.storeBfibeFid_bfibe, Globals.setBfibeKeys_bfibe]
    have hload : WorkerRecord.loadedBfibe ⟨g, .loadBfibeKeyRelease env release fid,
        (workerStep S B g (.loadBfibeKeyRelease env release fid)).2⟩ = true := by
      simp only [WorkerRecord.loadedBfibe, hret]
      rfl
    obtain ⟨-, -, r, hlast, env', release', fid', f', hin, hr'', hfid⟩ :=
      hco.loaded (by rw [hslot])
    rw [lastBfibeLoad_cons hload] at hlast
    obtain rfl := Option.some.inj hlast
    obtain ⟨rfl, rfl, rfl⟩ := WorkerCall.loadBfibeKeyRelease.inj hin
    obtain ⟨rfl, -⟩ := LoadResult.imported.inj (hr'.symm.trans hr'')
    rw [hslot] at hfid
    exact CStr.cut_eq_self_iff.mp hfid

/-- **When a failed BF-IBE load changes nothing**, in every state; and when the slot is coherent
throughout a run. -/
theorem failedLoad_changes_nothing_iff :
    (∀ env g release fid,
      FailedLoadChangesNothing S env g release fid ↔ LoadLeavesSlots S env g release fid) ∧
    ∀ g₀ : Globals, g₀.bfibe.keyLoaded = false → ∀ h g, Reach (workerStep S B) g₀ h g →
      (Throughout (workerStep S B) g₀ (BfibeCoherent S) h ↔ ∀ r ∈ h, LoadsCleanly S r) := by
  refine ⟨failedLoadChangesNothing_iff, fun g₀ h₀ h g hr => ⟨fun hall r hm => ?_, ?_⟩⟩
  · obtain ⟨t, -, hpost, hout⟩ := hall.at_record hr hm
    obtain ⟨pre, c, o⟩ := r
    obtain rfl : o = (workerStep S B pre c).2 := hout
    exact loadsCleanly_of_bfibeCoherent hpost
  · exact Throughout.of_records fun t s ht hc => bfibeCoherent_of_loadsCleanly h₀ ht hc

/-! ## A release that is imported, and one that is refused -/

/-- A release of a key set for the FID `f`, to a worker whose private key is zero. -/
def sampleRelease (set : Bytes) : Bytes :=
  let aad := keyReleaseAad bfibeProfileId (ascii "f") [] (List.replicate 64 0)
  let (ciphertext, tag) := Sgx.sample.gcmEncrypt (Block.fill 16 0) (Block.fill 12 0) aad set
  encodeKeyRelease
    ⟨bfibeProfileId, ascii "f", [], List.replicate 64 0, List.replicate 12 0,
      ciphertext ++ tag.toList⟩

/-- A set with a key for the FID `f` and one for the label `L`. -/
def goodKeySet : Bytes :=
  encodeKeySet bfibeProfileId [requestRecord (ascii "f") [1], functionRecord (ascii "L") [2]]

/-- A set whose one record is for another FID. -/
def strangeKeySet : Bytes := encodeKeySet bfibeProfileId [requestRecord (ascii "g") [3]]

/-- A report for a key pair of zeros. -/
def sampleReport : WorkerCall :=
  .createReport ⟨true, some (Block.fill 32 0, Block.fill 64 0), true⟩

/-- The worker after `sampleReport`. -/
def reportedWorker : Globals :=
  (workerStep Sgx.sample Bfibe.sample Globals.initial sampleReport).1

/-- A report, and the load of the good set. -/
def goodLoad : List WorkerCall :=
  [sampleReport,
    .loadBfibeKeyRelease ⟨true, true, true⟩ (sampleRelease goodKeySet) (some (CStr.lit "f"))]

/-- The worker after `goodLoad`. -/
def goodKeysWorker : Globals :=
  (runOn (workerStep Sgx.sample Bfibe.sample) [] Globals.initial goodLoad).2

/-- The run of `goodLoad` is coherent, and ends with both keys. -/
theorem goodLoad_coherent :
    goodKeysWorker.bfibe.keys.requestSk.key = [1] ∧
      goodKeysWorker.bfibe.keys.functionSk.key = [2] ∧
      Throughout (workerStep Sgx.sample Bfibe.sample) Globals.initial (BfibeCoherent Sgx.sample)
        (runOn (workerStep Sgx.sample Bfibe.sample) [] Globals.initial goodLoad).1 := by
  refine ⟨by decide +kernel, by decide +kernel,
    (failedLoad_changes_nothing_iff.2 Globals.initial rfl _ _
      (reach_runOn _ _ Reach.start)).mpr ?_⟩
  intro r hm env release fid hcall
  rcases List.mem_cons.mp hm with rfl | hm
  · obtain ⟨rfl, rfl, rfl⟩ := WorkerCall.loadBfibeKeyRelease.inj hcall
    have hshort : (match loadResult Sgx.sample ⟨true, true, true⟩ reportedWorker
        (sampleRelease goodKeySet) (some (CStr.lit "f")) with
        | .imported f _ => decide (f.strlen ≤ 127)
        | _ => false) = true := by decide +kernel
    refine ⟨fun left hr => ?_, fun f keys hr => ?_⟩
    · rw [show loadResult _ _ reportedWorker _ _ = _ from hr] at hshort
      exact absurd hshort (by simp)
    · rw [show loadResult _ _ reportedWorker _ _ = _ from hr] at hshort
      exact of_decide_eq_true hshort
  · rcases List.mem_cons.mp hm with rfl | hm
    · exact absurd hcall (by simp [sampleReport])
    · exact absurd hm List.not_mem_nil

/-- A release of the strange set opens, and its import fails with both keys wiped, while the
slot still says that it is loaded. -/
theorem strangeKeySet_wipes :
    goodKeysWorker.bfibe.keyLoaded = true ∧
      ¬ FailedLoadChangesNothing Sgx.sample ⟨true, true, true⟩ goodKeysWorker
        (sampleRelease strangeKeySet) (some (CStr.lit "f")) := by
  refine ⟨by decide +kernel, fun hnothing => ?_⟩
  have hslot := (hnothing (by decide +kernel)).1
  exact absurd (congrArg (fun slot => slot.keys.requestSk.len) hslot) (by decide +kernel)

end Worker
end AsynCS
