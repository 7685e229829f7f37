import AsynCS.Worker.InputAuth
import AsynCS.Worker.Machine

/-!
# How long a label key lives in the worker

A cold run of the eccibe profile takes a label key into `g_dklabel_func`: a copy of
`g_worker_dklabel` when `g_dklabel_from_kms` is set, and one derived from the worker key
otherwise.  Every exit of the run wipes `g_dklabel_func`, and none wipes what it was copied
from.

* `EnclaveCall`, `enclaveStep`: all public ECALLs.
* `LabelKeyWiped`, `wiped_runEncryptedWasm`: `g_dklabel_func` is zero after every run.
* `labelKeyKept_enclaveStep`: the globals of the label key between two calls.
* `TakesLabelKey`: a run that takes a label key, with `takesLabelKey_of_startsModule`.
* `LabelKeysErased`, `labelKeysErased_iff`: no global holds the key any more throughout a run
  of the enclave exactly when the keys that its cold runs take are all derived.
-/

namespace AsynCS
namespace Worker

open Proc

variable {S : Sgx} {B : Bfibe}

/-! ## The ECALLs -/

/-- A call to a public ECALL.  The last five touch none of the globals. -/
inductive EnclaveCall where
  | call (call : WorkerCall)
  | zeroizeLabelKey
  | init
  | runWasm
  | kemEncap
  | mclIbeTest
  | cleanCtx

/-- One call to the enclave.  What the calls answer that touch none of the globals is left
out. -/
def enclaveStep (S : Sgx) (B : Bfibe) (g : Globals) : EnclaveCall → Globals × Option WorkerReply
  | .call call => ((workerStep S B g call).1, some (workerStep S B g call).2)
  | .zeroizeLabelKey => (g.zeroizeLabelKey, some ⟨0, [], none⟩)
  | .init => (g, none)
  | .runWasm => (g, none)
  | .kemEncap => (g, none)
  | .mclIbeTest => (g, none)
  | .cleanCtx => (g, none)

/-- A recorded call. -/
abbrev EnclaveRecord := Record Globals EnclaveCall (Option WorkerReply)

/-! ## The label key during a run -/

/-- `g_dklabel_func` is zero and not valid. -/
structure LabelKeyWiped (g : Globals) : Prop where
  zero : g.dklabelFunc = Block.fill 32 0
  invalid : g.dklabelFuncValid = false

/-- `g_dklabel_func` is zero when it is not valid, so the wipe is not skipped over a key. -/
def LabelKeyMarked (g : Globals) : Prop :=
  g.dklabelFuncValid = false → g.dklabelFunc = Block.fill 32 0

theorem LabelKeyWiped.marked {g : Globals} (h : LabelKeyWiped g) : LabelKeyMarked g :=
  fun _ => h.zero

/-- The wipe of a marked key. -/
theorem wiped_zeroizeLabelKey {g : Globals} (h : LabelKeyMarked g) :
    LabelKeyWiped g.zeroizeLabelKey := by
  unfold Globals.zeroizeLabelKey
  cases hv : g.dklabelFuncValid with
  | true => exact ⟨rfl, rfl⟩
  | false => exact ⟨h hv, hv⟩

instance allowsRun_labelKeyMarked : AllowsRun (Maintains LabelKeyMarked) where
  setDklabelFunc key g _ hv := absurd hv (by simp [Globals.setDklabelFunc])
  zeroizeLabelKey g h := (wiped_zeroizeLabelKey h).marked
  functionCacheStore g malloc fid cfuncHash wasm h := by
    rcases g.functionCacheStore_cases malloc fid cfuncHash wasm with ⟨_, -, heq⟩ | heq
    · rw [heq]
      exact h
    · rw [heq]
      exact h

/-- **Every exit of a run wipes `g_dklabel_func`.** -/
theorem wiped_runEncryptedWasm (kind : RunKind) (env : RunEnv) (args : RunArgs) {s : RunState}
    (h : LabelKeyWiped s.worker) :
    LabelKeyWiped (runEncryptedWasm kind S B env args s).state.worker := by
  have hrun : Frame (OnWorker (Maintains LabelKeyWiped)) Event.OpensNothingEmpty
      (runEncryptedWasm kind S B env args) := by
    refine onWorker_runEncryptedWasm fun fid => ?_
    have hbody := onWorker_runBody (S := S) (B := B) (R := Maintains LabelKeyMarked) kind env
      args fid
    -- the body only keeps the mark, and the cleanup behind it wipes a marked key
    exact ⟨fun s hs => wiped_zeroizeLabelKey (hbody.state s hs.marked), hbody.log⟩
  exact hrun.state s h

/-! ## The label key between two calls -/

/-- The globals of the label key between two calls: the copy is wiped, and there is no key from
the KMS when the flag is clear. -/
structure LabelKeyKept (g : Globals) : Prop where
  wiped : LabelKeyWiped g
  unset : g.ecc.dklabelFromKms = false → g.ecc.workerDklabel = Block.fill 32 0

theorem labelKeyKept_initial : LabelKeyKept Globals.initial := ⟨⟨rfl, rfl⟩, fun _ => rfl⟩

/-- What holds of the label key is a matter of four globals. -/
theorem LabelKeyKept.congr {g g' : Globals} (h : LabelKeyKept g)
    (hfunc : g'.dklabelFunc = g.dklabelFunc) (hvalid : g'.dklabelFuncValid = g.dklabelFuncValid)
    (hlabel : g'.ecc.workerDklabel = g.ecc.workerDklabel)
    (hflag : g'.ecc.dklabelFromKms = g.ecc.dklabelFromKms) : LabelKeyKept g' := by
  refine ⟨⟨hfunc.trans h.wiped.zero, hvalid.trans h.wiped.invalid⟩, fun hf => ?_⟩
  exact hlabel.trans (h.unset (hflag.symm.trans hf))

theorem labelKeyKept_createReport (env : ReportEnv) {g : Globals} (h : LabelKeyKept g) :
    LabelKeyKept (ecallCreateReport env g).state := by
  have hprint : ∀ text, Frame (Maintains LabelKeyKept) Event.IsPrint (enclavePrintLit text) :=
    fun text => (frame_enclavePrintLit text).mono (fun _ _ heq hs => heq ▸ hs) fun _ he => he
  have hframe : Frame (Maintains LabelKeyKept) Event.IsPrint (ecallCreateReport env) := by
    refine (Frame.require (hprint _)).bind fun _ => (Frame.orStop (hprint _)).bind fun pair => ?_
    obtain ⟨priv, pub⟩ := pair
    refine Frame.bind (Frame.modify fun g hg => ?_) fun _ => ?_
    · exact LabelKeyKept.congr hg rfl rfl rfl rfl
    · refine (Frame.require (hprint _)).bind fun _ => Frame.modify fun g hg => ?_
      exact LabelKeyKept.congr hg rfl rfl rfl rfl
  exact hframe.state g h

theorem LabelKeyKept.cleared {g : Globals} (h : LabelKeyKept g) (b : Bool) :
    LabelKeyKept (if b then g.functionCacheClear else g) := by
  cases b with
  | true => exact h.congr rfl rfl rfl rfl
  | false => exact h

/-- Both profiles store an FID over globals that they have cleared or not. -/
theorem LabelKeyKept.storeWorkerFid {g : Globals} (h : LabelKeyKept g) (fid : CStr) :
    LabelKeyKept (g.storeWorkerFid fid) :=
  (h.cleared _).congr rfl rfl rfl rfl

theorem LabelKeyKept.storeBfibeFid {g : Globals} (h : LabelKeyKept g) (fid : CStr) :
    LabelKeyKept (g.storeBfibeFid fid) :=
  (h.cleared _).congr rfl rfl rfl rfl

theorem labelKeyKept_eccCall (c : EccCall) {g : Globals} (h : LabelKeyKept g) :
    LabelKeyKept (c.proc S g).state := by
  have hs : (c.proc S g).state = (eccStep S g c).1 := rfl
  rw [hs]
  rcases eccStep_cases (S := S) g c with ⟨-, hs⟩ | ⟨_, _, _, _, _, key, -, -, -, hs⟩ |
    ⟨_, _, fid, key, -, -, hs⟩ | ⟨_, _, _, _, fid, key, label, -, -, -, hs⟩
  · rw [hs]
    exact h
  · rw [hs]
    exact h.congr rfl rfl rfl rfl
  · rw [hs]
    exact (h.congr rfl rfl rfl rfl : LabelKeyKept (g.setWorkerKey key)).storeWorkerFid fid
  · rw [hs]
    -- the batch sets the flag with the key
    have hset : LabelKeyKept ((g.setWorkerKey key).setDklabel label) :=
      ⟨⟨h.wiped.zero, h.wiped.invalid⟩, fun hf => absurd hf (by simp [Globals.setDklabel])⟩
    exact hset.storeWorkerFid fid

theorem labelKeyKept_loadBfibe (env : LoadEnv) (release : Bytes) (fid : Option CStr)
    {g : Globals} (h : LabelKeyKept g) :
    LabelKeyKept (ecallLoadBfibeKeyRelease S env release fid g).state := by
  rw [state_ecallLoadBfibeKeyRelease]
  cases openRelease S env g release fid with
  | error texts => exact h
  | ok p =>
    have hset : LabelKeyKept (g.setBfibeKeys (parseBfibePrivateKeySet p.2 p.1 g.bfibe.keys).1) :=
      h.congr rfl rfl rfl rfl
    simp only
    split
    · exact hset.storeBfibeFid p.1
    · exact hset

/-- **Step.**  Between two calls `g_dklabel_func` is wiped, whatever the calls are. -/
theorem labelKeyKept_enclaveStep (c : EnclaveCall) {g : Globals} (h : LabelKeyKept g) :
    LabelKeyKept (enclaveStep S B g c).1 := by
  cases c with
  | call call =>
    cases call with
    | createReport env => exact labelKeyKept_createReport env h
    | loadEcc call => exact labelKeyKept_eccCall call h
    | loadBfibeKeyRelease env release fid => exact labelKeyKept_loadBfibe env release fid h
    | hasKey fid => exact h
    | runEncryptedWasm kind env args =>
      have hecc := ecc_runEncryptedWasm (S := S) (B := B) kind env args (RunState.start g)
      refine ⟨wiped_runEncryptedWasm kind env args h.wiped, ?_⟩
      intro hflag
      show (runEncryptedWasm kind S B env args (RunState.start g)).state.worker.ecc.workerDklabel
        = _
      rw [hecc]
      exact h.unset ((congrArg EccSlot.dklabelFromKms hecc).symm.trans hflag)
  | zeroizeLabelKey =>
    have hsame : g.zeroizeLabelKey = g := by
      rw [Globals.zeroizeLabelKey, h.wiped.invalid]
      rfl
    show LabelKeyKept g.zeroizeLabelKey
    rw [hsame]
    exact h
  | init => exact h
  | runWasm => exact h
  | kemEncap => exact h
  | mclIbeTest => exact h
  | cleanCtx => exact h

/-- **Run.** -/
theorem labelKeyKept_of_reach {h : List EnclaveRecord} {g : Globals}
    (hr : Reach (enclaveStep S B) Globals.initial h g) : LabelKeyKept g := by
  induction hr with
  | start => exact labelKeyKept_initial
  | step prior i ih => exact labelKeyKept_enclaveStep i ih

/-! ## Runs that take a label key -/

/-- **A run that takes a label key**: it is of the eccibe profile, it comes past the check of its
key ciphertexts, its module is not cached, and it has a label key for its package. -/
structure TakesLabelKey (kind : RunKind) (S : Sgx) (env : RunEnv) (args : RunArgs) (g : Globals)
    (key : Block 32) : Prop where
  eccibe : args.useBfibeKeys = false
  ready : RunReady kind env args g
  key : ∃ c, runContext kind S env args (invocationFid g args) = some c ∧
    g.functionCacheLookup (invocationFid g args) c.label = none ∧ args.cKey ≠ [] ∧
    args.cKFunc ≠ [] ∧ labelKey S env args g.ecc c.label = some key

/-- A run that starts a module of the eccibe profile has it from the cache or takes a label
key. -/
theorem takesLabelKey_of_startsModule {kind : RunKind} {env : RunEnv} {args : RunArgs}
    {g : Globals} {c : RunContext} {m : Admitted} (h : StartsModule kind S B env args g c m)
    (heccibe : args.useBfibeKeys = false)
    (hmiss : g.functionCacheLookup (invocationFid g args) c.label = none) :
    ∃ key, TakesLabelKey kind S env args g key := by
  have hmodule := h.admits.module
  rw [moduleOf, hmiss] at hmodule
  simp only at hmodule
  split at hmodule
  · exact absurd hmodule (by simp)
  · rename_i hcold
    rw [packageModule, Option.bind_eq_bind, Option.bind_eq_some_iff] at hmodule
    obtain ⟨key, hkey, -⟩ := hmodule
    exact ⟨key, heccibe, h.ready, c, h.admits.context, hmiss, h.admits.hasKey, hcold, hkey⟩

/-- The key of a run is that of the KMS when the flag is set. -/
theorem TakesLabelKey.eq_workerDklabel {kind : RunKind} {env : RunEnv} {args : RunArgs}
    {g : Globals} {key : Block 32} (h : TakesLabelKey kind S env args g key)
    (hflag : g.ecc.dklabelFromKms = true) : key = g.ecc.workerDklabel := by
  obtain ⟨c, -, -, -, -, hkey⟩ := h.key
  rw [labelKey, if_neg (by simp [h.eccibe]), if_pos hflag] at hkey
  exact (Option.some.inj hkey).symm

/-- The recorded call is a run that takes this label key. -/
def EnclaveRecord.Takes (S : Sgx) (r : EnclaveRecord) (key : Block 32) : Prop :=
  ∃ kind env args, r.input = .call (.runEncryptedWasm kind env args) ∧
    TakesLabelKey kind S env args r.pre key

/-- The recorded call is a batch load that takes this label key from the KMS. -/
def EnclaveRecord.Releases (S : Sgx) (r : EnclaveRecord) (key : Block 32) : Prop :=
  ∃ c : EccCall, r.input = .call (.loadEcc c) ∧
    c.unwrappedKey S r.pre.privateKey ≠ none ∧ c.unwrappedLabelKey S r.pre.privateKey = some key

/-- A recorded run that executes a module while nothing is cached takes a label key. -/
theorem takes_of_executes (wasm : Bytes) (argument : Option Bytes) {r : EnclaveRecord}
    {kind : RunKind} {env : RunEnv} {args : RunArgs}
    (hinput : r.input = .call (.runEncryptedWasm kind env args))
    (hexec : Executes kind S B env args r.pre wasm argument)
    (heccibe : args.useBfibeKeys = false) (hcache : r.pre.cache = none) :
    ∃ key, EnclaveRecord.Takes S r key := by
  obtain ⟨c, m, hstarts, -⟩ := executes_iff_startsModule.mp hexec
  have hmiss : r.pre.functionCacheLookup (invocationFid r.pre args) c.label = none := by
    rw [Globals.functionCacheLookup, hcache]
  obtain ⟨key, htakes⟩ := takesLabelKey_of_startsModule hstarts heccibe hmiss
  exact ⟨key, kind, env, args, hinput, htakes⟩

/-! ## Erasure -/

/-- No global holds a label key. -/
structure NoLabelKey (g : Globals) : Prop where
  dklabelFunc : LabelKeyWiped g
  workerDklabel : g.ecc.workerDklabel = Block.fill 32 0
  fromKms : g.ecc.dklabelFromKms = false

/-- **Label keys do not outlive their load, at one point of a run**: after a run that took one no
global holds a label key, and a label key from the KMS serves one run only, so it was released
since the last run that took a key. -/
structure LabelKeysErased (S : Sgx) (h : List EnclaveRecord) (g : Globals) : Prop where
  erased : ∀ r t, h = r :: t → ∀ key, EnclaveRecord.Takes S r key → NoLabelKey g
  released : ∀ r t, h = r :: t → ∀ key, EnclaveRecord.Takes S r key →
    r.pre.ecc.dklabelFromKms = true →
    ∃ t₁ load t₂, t = t₁ ++ load :: t₂ ∧ EnclaveRecord.Releases S load key ∧
      ∀ q ∈ t₁, ∀ k, ¬ EnclaveRecord.Takes S q k

/-- **When label keys do not outlive their load**: exactly when no run takes the one that came
from the KMS, so that all are derived from the worker key. -/
theorem labelKeysErased_iff {h : List EnclaveRecord} {g : Globals}
    (hr : Reach (enclaveStep S B) Globals.initial h g) :
    Throughout (enclaveStep S B) Globals.initial (LabelKeysErased S) h ↔
      ∀ r ∈ h, ∀ key, EnclaveRecord.Takes S r key → r.pre.ecc.dklabelFromKms = false := by
  have hslot : ∀ (r : EnclaveRecord) key, EnclaveRecord.Takes S r key →
      (enclaveStep S B r.pre r.input).1.ecc = r.pre.ecc := by
    rintro r key ⟨kind, env, args, hinput, -⟩
    rw [hinput]
    exact ecc_runEncryptedWasm kind env args (RunState.start r.pre)
  constructor
  · intro hall r hm key htakes
    obtain ⟨t, -, hpost, -⟩ := hall.at_record hr hm
    have hflag := (hpost.erased r t rfl key htakes).fromKms
    rw [hslot r key htakes] at hflag
    exact hflag
  · refine Throughout.of_records fun t s ht hc => ⟨?_, ?_⟩
    · rintro r t rfl key htakes
      obtain ⟨-, hstep⟩ := Reach.cons_iff.mp ht
      have hecc : s.ecc = r.pre.ecc := by
        rw [← hslot r key htakes, hstep]
      have hflag : s.ecc.dklabelFromKms = false := by
        rw [hecc]
        exact hc r List.mem_cons_self key htakes
      have hkept := labelKeyKept_of_reach ht
      exact ⟨hkept.wiped, hkept.unset hflag, hflag⟩
    · rintro r t rfl key htakes hflag
      exact absurd hflag (by simp [hc r List.mem_cons_self key htakes])

/-! ## A derived key and one from the KMS -/

/-- A session key of ones, encrypted to a scalar. -/
def sampleKeyCiphertextFor (scalar : Block 32) : Bytes :=
  let secret := Sgx.sample.sha256 (scalar.toList ++ ascii "ECC-IBE-ENC")
  let (ciphertext, tag) :=
    Sgx.sample.gcmEncrypt (secret.first 16) (Block.fill 12 0) [] (List.replicate 32 1)
  [4] ++ List.replicate 64 0 ++ List.replicate 12 0 ++ tag.toList ++ ciphertext

/-- A request whose package key is encrypted to this label key. -/
def labelledRequest (labelKey : Block 32) : RunArgs :=
  { sampleRequest with cKFunc := sampleKeyCiphertextFor labelKey }

/-- The label key that the worker derives for the package of `sampleRequest`. -/
def derivedLabelKey : Block 32 :=
  (deriveDklabelfunc Sgx.sample sampleRunEnv (Block.fill 32 0) (Sgx.sample.sha256 [7])).getD
    (Block.fill 32 0)

/-- A load of the worker key alone, and a cold run. -/
def derivedKeyRun : List EnclaveCall :=
  [.call (.loadEcc (.decryptKey ⟨true, true⟩ (sampleKeyBlob 0) (CStr.lit "f"))),
    .call (.runEncryptedWasm .legacy sampleRunEnv (labelledRequest derivedLabelKey))]

/-- A load of both keys, and a cold run. -/
def releasedKeyRun : List EnclaveCall :=
  [.call (.loadEcc (.decryptKeysBatch ⟨true, true⟩ ⟨true, true⟩ (sampleKeyBlob 0)
      (sampleKeyBlob 3) (CStr.lit "f"))),
    .call (.runEncryptedWasm .legacy sampleRunEnv (labelledRequest (Block.fill 32 3)))]

/-- The run of `derivedKeyRun` executes its module with the key that it derived, and leaves no
label key. -/
theorem derivedKeyRun_erased :
    (∃ r ∈ (runOn (enclaveStep Sgx.sample Bfibe.sample) [] Globals.initial derivedKeyRun).1,
        ∃ key, EnclaveRecord.Takes Sgx.sample r key) ∧
      Throughout (enclaveStep Sgx.sample Bfibe.sample) Globals.initial
        (LabelKeysErased Sgx.sample)
        (runOn (enclaveStep Sgx.sample Bfibe.sample) [] Globals.initial derivedKeyRun).1 := by
  refine ⟨⟨_, List.mem_cons_self, ?_⟩,
    (labelKeysErased_iff (reach_runOn _ _ Reach.start)).mpr fun r hr _ _ => ?_⟩
  · refine takes_of_executes [7] (some (base64Chars [5])) (B := Bfibe.sample) rfl ?_
      (by decide +kernel) (by decide +kernel)
    show _ ∈ (runEncryptedWasm _ _ _ _ _ _).log
    decide +kernel
  · have hflags : ∀ r ∈ (runOn (enclaveStep Sgx.sample Bfibe.sample) [] Globals.initial
        derivedKeyRun).1, r.pre.ecc.dklabelFromKms = false := by
      decide +kernel
    exact hflags r hr

/-- The run of `releasedKeyRun` returns 0, and the label key from the KMS is still there. -/
theorem releasedKeyRun_not_erased :
    (runOn (enclaveStep Sgx.sample Bfibe.sample) [] Globals.initial
        releasedKeyRun).2.ecc.workerDklabel = Block.fill 32 3 ∧
      ¬ Throughout (enclaveStep Sgx.sample Bfibe.sample) Globals.initial
        (LabelKeysErased Sgx.sample)
        (runOn (enclaveStep Sgx.sample Bfibe.sample) [] Globals.initial releasedKeyRun).1 := by
  refine ⟨by decide +kernel, fun hall => ?_⟩
  have hend := hall _ _ List.suffix_rfl
    (reach_runOn (enclaveStep Sgx.sample Bfibe.sample) releasedKeyRun Reach.start)
  have htakes : ∃ key, EnclaveRecord.Takes Sgx.sample
      ((runOn (enclaveStep Sgx.sample Bfibe.sample) [] Globals.initial
        releasedKeyRun).1.head (List.cons_ne_nil _ _)) key := by
    refine takes_of_executes [7] (some (base64Chars [5])) (B := Bfibe.sample) rfl ?_
      (by decide +kernel) (by decide +kernel)
    show _ ∈ (runEncryptedWasm _ _ _ _ _ _).log
    decide +kernel
  obtain ⟨key, htakes⟩ := htakes
  exact absurd (hend.erased _ _ rfl key htakes).fromKms (by decide +kernel)

end Worker
end AsynCS
