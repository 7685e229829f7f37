import AsynCS.Worker.WarmStart

/-!
# Do the two run ECALLs admit the same requests?

`ecall_run_encrypted_wasm` and `ecall_run_encrypted_wasm_kem` are two copies of one protocol.
Given the same arguments in the same state, one should execute exactly when the other does, the
same module on the same argument, and leave the same function cache.

* `Site.allocates`, `Site.hashes`, `NeverFails`: no allocation fails, and hashing fails on a NULL
  source only.
* `cacheAfter`, `cache_of_startsModule`: what a run that executes leaves in the cache.
* `RunsAgree`, `runsAgree_iff`: the two agree exactly when the input is not empty or the legacy
  run does not get to a module.  Both hash the input after its decryption; the legacy run takes
  the hash of no data from a constant, and the `kem` run passes its NULL pointer on and stops.
-/

namespace AsynCS
namespace Worker

open Proc

variable {S : Sgx} {B : Bfibe} {kind : RunKind} {env : RunEnv} {args : RunArgs} {g : Globals}

/-! ## What cannot fail -/

/-- The call of `DecKey` allocates. -/
def DecKeySite.allocates : DecKeySite → Bool
  | .infoMalloc => true
  | _ => false

/-- The call of `DecKey` hashes. -/
def DecKeySite.hashes : DecKeySite → Bool
  | .infoHash => true
  | _ => false

/-- The call allocates memory. -/
def Site.allocates : Site → Bool
  | .cReqMalloc | .ridMalloc | .aadPkgMalloc | .aadReqMalloc | .aadOutMalloc | .dklabelMalloc
  | .dklabelDomainMalloc | .wasmMalloc | .cacheMalloc | .inputMalloc | .base64Malloc
  | .captureMalloc | .wasmCopyMalloc => true
  | .cKey site | .cKFunc site => site.allocates
  | _ => false

/-- The call is `sgx_sha256_msg`. -/
def Site.hashes : Site → Bool
  | .ridHash | .aadReqHash | .aadOutHash | .labelHash | .dklabelHash | .dklabelDomainHash
  | .payloadHash | .kemHash => true
  | .cKey site | .cKFunc site => site.hashes
  | _ => false

/-- No allocation fails, and no hash of a source that is not NULL. -/
def NeverFails (env : RunEnv) : Prop :=
  ∀ site : Site, site.allocates = true ∨ site.hashes = true → env.ok site = true

/-! ## The cache after a run -/

/-- The cache after a lookup and, on a miss, the store of a module. -/
def cacheStored (g : Globals) (malloc : Bool) (fid : CStr) (cfuncHash : Block 32)
    (hit : Option Bytes) (wasm : Bytes) : Option CachedFunctionCode :=
  match hit with
  | some _ => g.cache
  | none => (g.functionCacheStore malloc fid cfuncHash wasm).1.cache

/-- The cache that a run which executes `wasm` leaves: on a miss it holds the module. -/
def cacheAfter (S : Sgx) (env : RunEnv) (args : RunArgs) (g : Globals) (wasm : Bytes) :
    Option CachedFunctionCode :=
  let fid := invocationFid g args
  let cfuncHash := S.sha256 args.encryptedWasm
  cacheStored g (env.ok .cacheMalloc) fid cfuncHash (g.functionCacheLookup fid cfuncHash) wasm

/-- Storing depends on the cache only. -/
theorem cache_functionCacheStore_congr {g g' : Globals} (h : g'.cache = g.cache) (malloc : Bool)
    (fid : CStr) (cfuncHash : Block 32) (wasm : Bytes) :
    (g'.functionCacheStore malloc fid cfuncHash wasm).1.cache =
      (g.functionCacheStore malloc fid cfuncHash wasm).1.cache := by
  unfold Globals.functionCacheStore
  split
  · rfl
  · exact h

theorem cache_loadFunction (hne : args.encryptedWasm ≠ []) {fid : CStr} {label : Block 32}
    {aadPkg : Bytes} {hit : Option Bytes} {s s' : RunState} {wasm : Bytes}
    (h : Gives (loadFunction kind S B env args fid label aadPkg hit) s wasm s') :
    s'.worker.cache = cacheStored s.worker (env.ok .cacheMalloc) fid label hit wasm := by
  cases hit with
  | some cached =>
    obtain ⟨-, rfl⟩ := gives_pure.mp h
    rfl
  | none =>
    obtain ⟨kFunc, s₁, hkey, h⟩ := gives_bind.mp h
    obtain ⟨w, s₂, hopen, h⟩ := gives_bind.mp h
    obtain ⟨_, s₃, hstore, h⟩ := gives_bind.mp h
    obtain ⟨rfl, rfl⟩ := gives_pure.mp h
    have h₁ : s₁.worker.cache = s.worker.cache :=
      (keepsCache_decapFunctionKey kind env args aadPkg).of_gives hkey
    have h₂ : s₂.worker.cache = s₁.worker.cache :=
      (quiet_decryptFunction kind env hne aadPkg kFunc).keepsCache.of_gives hopen
    rw [gives_modify.mp hstore]
    exact cache_functionCacheStore_congr (h₂.trans h₁) _ _ _ _

theorem cache_openRequest (hne : args.encryptedWasm ≠ []) {fid : CStr} {aad : AadValues}
    {label : Block 32} {hit : Option Bytes} {s s' : RunState} {m : Admitted}
    (h : Gives (openRequest kind S B env args fid aad label hit) s m s') :
    s'.worker.cache = cacheStored s.worker (env.ok .cacheMalloc) fid label hit m.wasm := by
  obtain ⟨_, s₁, hlabel, h⟩ := gives_bind.mp h
  obtain ⟨kReq, s₂, hkey, h⟩ := gives_bind.mp h
  obtain ⟨wasm, s₃, hload, h⟩ := gives_bind.mp h
  obtain ⟨input, s₄, hinput, h⟩ := gives_bind.mp h
  obtain ⟨_, s₅, hrecord, h⟩ := gives_bind.mp h
  obtain ⟨rfl, hs'⟩ := gives_pure.mp h
  have h₁ : s₁.worker.cache = s.worker.cache :=
    (Frame.onlyIf (keepsCache_prepareLabelKey env args label)).of_gives hlabel
  have h₂ : s₂.worker.cache = s₁.worker.cache :=
    (quiet_decapRequestKey kind env args aad.req).keepsCache.of_gives hkey
  have h₃ := cache_loadFunction hne hload
  have h₄ : s₄.worker.cache = s₃.worker.cache :=
    (quiet_decryptInput kind env args aad.req kReq).keepsCache.of_gives hinput
  have h₅ : s₅.worker.cache = s₄.worker.cache :=
    (quiet_recordPayload kind env args input hit wasm).keepsCache.of_gives hrecord
  rw [hs', h₅, h₄, h₃]
  cases hit with
  | some cached => exact h₂.trans h₁
  | none => exact cache_functionCacheStore_congr (h₂.trans h₁) _ _ _ _

theorem cache_admitRequest {fid : CStr} {s s' : RunState} {m : Admitted}
    (h : Gives (admitRequest kind S B env args fid) s m s') :
    s'.worker.cache =
      cacheStored s.worker (env.ok .cacheMalloc) fid (S.sha256 args.encryptedWasm)
        (s.worker.functionCacheLookup fid (S.sha256 args.encryptedWasm)) m.wasm := by
  obtain ⟨rid, s₁, hrid, h⟩ := gives_bind.mp h
  obtain ⟨aad, s₂, haad, h⟩ := gives_bind.mp h
  obtain ⟨label, s₃, hlabel, h⟩ := gives_bind.mp h
  obtain ⟨s₄, s₅, hget, h⟩ := gives_bind.mp h
  obtain ⟨_, s₆, hkeys, h⟩ := gives_bind.mp h
  obtain ⟨hne, -, rfl⟩ := computeLabelFromCfunc_eq_some_iff.mp (gives_orStop.mp hlabel).1
  have hopen := cache_openRequest hne h
  have h₁ : s₁.worker = s.worker := (quiet_computeRid kind env args fid).of_gives hrid
  obtain ⟨hs₄, hs₅⟩ := gives_get.mp hget
  have h₃ : s₃.worker = s.worker := by
    rw [(gives_orStop.mp hlabel).2, (gives_orStop.mp haad).2, h₁]
  rw [(gives_require.mp hkeys).2, hs₅, hs₄, h₃] at hopen
  exact hopen

/-- **What a run that executes leaves in the cache.** -/
theorem cache_of_startsModule {c : RunContext} {m : Admitted}
    (h : StartsModule kind S B env args g c m) :
    (runEncryptedWasm kind S B env args (RunState.start g)).state.worker.cache =
      cacheAfter S env args g m.wasm := by
  obtain ⟨s, hs, -, hstate⟩ := runBody_of_ready (S := S) (B := B) h.ready
  have hgives : (admitRequest kind S B env args (invocationFid g args) s).value = some m :=
    value_admitRequest_eq_some_iff.mpr ⟨c, hs ▸ h.admits⟩
  have htail : Frame (Keeps RunState.worker) Event.OpensNothingEmpty
      (executeModule kind env args m.wasm m.input >>= sealRun kind S env args m) :=
    (frame_executeModule kind env args m.wasm m.input).bind fun final =>
      (quiet_sealRun kind env args m final).mono (fun _ _ h => h)
        fun _ he => he.opensNothingEmpty
  have hbody : (runBody kind S B env args (invocationFid g args) s).state.worker =
      (admitRequest kind S B env args (invocationFid g args) s).state.worker := by
    unfold runBody
    rw [bind_of_some hgives]
    exact htail.state _
  rw [hstate, Globals.cache_zeroizeLabelKey, hbody, cache_admitRequest ⟨hgives, rfl⟩, hs]
  rfl

/-! ## The two ECALLs -/

/-- **The two run ECALLs agree** on a request: they execute the same, and a run that executes
leaves the same cache. -/
structure RunsAgree (S : Sgx) (B : Bfibe) (env : RunEnv) (args : RunArgs) (g : Globals) :
    Prop where
  executes : ∀ wasm argument, Executes .legacy S B env args g wasm argument ↔
    Executes .kem S B env args g wasm argument
  cache : ∀ wasm argument, Executes .legacy S B env args g wasm argument →
    (ecallRunEncryptedWasm S B env args (RunState.start g)).state.worker.cache =
      (ecallRunEncryptedWasmKem S B env args (RunState.start g)).state.worker.cache

/-- Neither kind of run stops at its RID. -/
theorem runContext_of_neverFails (hnever : NeverFails env) (args : RunArgs) (fid : CStr) :
    runContext .kem S env args fid = runContext .legacy S env args fid := by
  have hmalloc : env.ok .ridMalloc = true := hnever _ (Or.inl rfl)
  have hhash : env.ok .ridHash = true := hnever _ (Or.inr rfl)
  have hrid : ridOf .kem S env args fid = ridOf .legacy S env args fid := by
    simp only [ridOf, computeRidFromFidAndCReq, hmalloc, hhash]
    rfl
  rw [runContext, runContext, hrid]

/-- **The checks of the two kinds**: the `kem` run also asks for an input. -/
theorem startsModule_kem_iff (hnever : NeverFails env) (htrace : args.invokeTrace = true)
    {c : RunContext} {m : Admitted} :
    StartsModule .kem S B env args g c m ↔
      StartsModule .legacy S B env args g c m ∧ args.encryptedInput ≠ [] := by
  have hcontext := runContext_of_neverFails (S := S) hnever args (invocationFid g args)
  have hpayload : env.ok .payloadHash = true := hnever _ (Or.inr rfl)
  constructor
  · rintro ⟨hready, hadm, hcap, hstarts⟩
    refine ⟨⟨⟨fun h => absurd h (by decide), hready.keysLoaded, hready.cReq⟩, ?_, hcap, hstarts⟩,
      fun hnil => ?_⟩
    · exact ⟨hcontext ▸ hadm.context, hadm.hasKey, hadm.requestKey, hadm.module, hadm.input, rfl,
        hadm.aadOut⟩
    · have hpay := hadm.payload
      rw [input_eq_none hadm hnil] at hpay
      exact absurd hpay (by simp [payloadRecorded])
  · rintro ⟨⟨hready, hadm, hcap, hstarts⟩, hne⟩
    refine ⟨⟨fun _ => htrace, hready.keysLoaded, hready.cReq⟩, ?_, hcap, hstarts⟩
    refine ⟨hcontext.symm ▸ hadm.context, hadm.hasKey, hadm.requestKey, hadm.module, hadm.input,
      ?_, hadm.aadOut⟩
    -- an input that is not empty has a plaintext to hash
    have hinput := hadm.input
    unfold requestInput at hinput
    rw [if_neg hne] at hinput
    split at hinput
    · obtain ⟨plaintext, -, hm⟩ := Option.map_eq_some_iff.mp hinput
      rw [← hm]
      simp [payloadRecorded, hpayload]
    · exact absurd hinput (by simp)

/-- **When the two ECALLs agree**: exactly when the input is not empty, or the legacy run does not
get to a module. -/
theorem runsAgree_iff (hnever : NeverFails env) (htrace : args.invokeTrace = true) :
    RunsAgree S B env args g ↔
      (args.encryptedInput = [] → ∀ c m, ¬ StartsModule .legacy S B env args g c m) := by
  constructor
  · intro hagree hnil c m hstarts
    have hlegacy := executes_iff_startsModule.mpr ⟨c, m, hstarts, rfl, rfl⟩
    obtain ⟨c', m', hkem, -, -⟩ :=
      executes_iff_startsModule.mp ((hagree.executes _ _).mp hlegacy)
    exact ((startsModule_kem_iff hnever htrace).mp hkem).2 hnil
  · intro hcond
    have hstarts : ∀ c m, StartsModule .legacy S B env args g c m ↔
        StartsModule .kem S B env args g c m := by
      intro c m
      rw [startsModule_kem_iff hnever htrace]
      exact ⟨fun h => ⟨h, fun hnil => hcond hnil c m h⟩, fun h => h.1⟩
    refine ⟨fun wasm argument => ?_, fun wasm argument hexec => ?_⟩
    · simp only [executes_iff_startsModule, hstarts]
    · obtain ⟨c, m, hlegacy, -, -⟩ := executes_iff_startsModule.mp hexec
      have hkem := (hstarts c m).mp hlegacy
      exact (cache_of_startsModule hlegacy).trans (cache_of_startsModule hkem).symm

/-! ## With and without an input -/

theorem sampleRunEnv_neverFails : NeverFails sampleRunEnv := fun _ _ => rfl

/-- On a request with an input the two agree. -/
theorem sampleRequest_runsAgree :
    RunsAgree Sgx.sample Bfibe.sample sampleRunEnv sampleRequest loadedWorker :=
  (runsAgree_iff sampleRunEnv_neverFails rfl).mpr fun hnil =>
    absurd hnil (by simp [sampleRequest, sampleRunArgs])

/-- On the same request without an input the legacy run executes, and the `kem` run stops at the
hash of its payload. -/
theorem emptyRequest_runs_differ :
    Executes .legacy Sgx.sample Bfibe.sample sampleRunEnv emptyRequest loadedWorker [7] none ∧
      ¬ RunsAgree Sgx.sample Bfibe.sample sampleRunEnv emptyRequest loadedWorker := by
  have hexec : Executes .legacy Sgx.sample Bfibe.sample sampleRunEnv emptyRequest loadedWorker
      [7] none := by
    show _ ∈ (runEncryptedWasm _ _ _ _ _ _).log
    decide +kernel
  refine ⟨hexec, fun hagree => ?_⟩
  have hkem := (hagree.executes _ _).mp hexec
  have hnone : ((runEncryptedWasm .kem Sgx.sample Bfibe.sample sampleRunEnv emptyRequest
      (RunState.start loadedWorker)).log.all fun e => !e.isExecution) = true := by decide +kernel
  exact absurd (List.all_eq_true.mp hnone _ hkem) (by simp [Event.isExecution])

end Worker
end AsynCS
