import AsynCS.Worker.BfibeSlot
import AsynCS.Worker.InputAuth

/-!
# Where executed code comes from

A run executes the module that it decrypts, or the one in the function cache.  The cache has one
entry for both profiles, two run ECALLs fill and read it, and three loaders clear it.  Whatever
is executed for an FID should have been decrypted for it, by this call or by an earlier one
since when every completed load was for the FID that its slot held.

* `StoresOpened`: one call leaves the cache as it was, or with a module that it decrypted.
* `Opened`, `LoadsOtherFid`, `OpenedSince`: the decryption in the past, with no load for another
  FID in between.
* `ExecutesOpened`: the claim at one point of a run; `CacheOpened` is the invariant behind it.
* `LoadsExactFid`: the condition on one step.  `strncmp(g_worker_fid, fid, 128)` takes a longer
  FID for the one whose first 128 bytes the slot holds, so such a load keeps the cache.
* `executesOpened_of_loadsExactFid`: the run theorem.
-/

namespace AsynCS
namespace Worker

open Proc

variable {S : Sgx} {B : Bfibe}

/-! ## The decryption of a package -/

/-- The event of a successful decryption of the package of a request. -/
def packageOpened (args : RunArgs) (fid : CStr) (key : Block 16) (wasm : Bytes) : Event :=
  .gcmDecrypt key args.wasmIv (aadPkg fid) args.encryptedWasm args.wasmMac (some wasm)

section Emission

variable {kind : RunKind} {env : RunEnv} {args : RunArgs} {fid : CStr} {s s' : RunState}

/-- A part that gives the plaintext of the package has opened it. -/
theorem emits_decryptFunction {kFunc : Block 32} {wasm : Bytes}
    (h : Gives (decryptFunction kind S env args (aadPkg fid) kFunc) s wasm s') :
    Emits (decryptFunction kind S env args (aadPkg fid) kFunc) s
      (packageOpened args fid (kFunc.first 16) wasm) := by
  unfold decryptFunction at h ⊢
  obtain ⟨_, s₁, hmalloc, h⟩ := gives_bind.mp h
  obtain ⟨_, s₂, hdebug, h⟩ := gives_bind.mp h
  obtain ⟨_, s₃, hbegin, h⟩ := gives_bind.mp h
  obtain ⟨plaintext, s₄, hopen, h⟩ := gives_bind.mp h
  obtain ⟨_, _, -, h⟩ := gives_bind.mp h
  obtain ⟨w, _, hw, h⟩ := gives_bind.mp h
  obtain ⟨_, _, -, h⟩ := gives_bind.mp h
  obtain ⟨_, _, -, h⟩ := gives_bind.mp h
  obtain ⟨rfl, -⟩ := gives_pure.mp h
  obtain ⟨rfl, -⟩ := gives_orStop.mp hw
  have hplaintext : (if env.ok .wasmDecrypt then
      S.gcmDecrypt (kFunc.first 16) args.wasmIv (aadPkg fid) args.encryptedWasm args.wasmMac
      else none) = some wasm := by
    have hv := hopen.1
    rw [value_gcmOpen] at hv
    exact Option.some.inj hv
  refine Emits.right hmalloc (Emits.right hdebug (Emits.right hbegin
    (Emits.left (Emits.left ?_))))
  rw [emits_emit, hplaintext]
  rfl

/-- On a miss, the module that is loaded was opened. -/
theorem emits_loadFunction {label : Block 32} {wasm : Bytes}
    (h : Gives (loadFunction kind S B env args fid label (aadPkg fid) none) s wasm s') :
    ∃ key, Emits (loadFunction kind S B env args fid label (aadPkg fid) none) s
      (packageOpened args fid key wasm) := by
  unfold loadFunction at h ⊢
  obtain ⟨kFunc, s₁, hkey, h⟩ := gives_bind.mp h
  obtain ⟨w, s₂, hopen, h⟩ := gives_bind.mp h
  obtain ⟨_, _, -, h⟩ := gives_bind.mp h
  obtain ⟨rfl, -⟩ := gives_pure.mp h
  exact ⟨kFunc.first 16, Emits.right hkey (Emits.left (emits_decryptFunction hopen))⟩

/-- On a miss, an opened request has its package opened. -/
theorem emits_openRequest_package {aad : AadValues} (haad : aad.pkg = aadPkg fid)
    {label : Block 32} {m : Admitted}
    (h : Gives (openRequest kind S B env args fid aad label none) s m s') :
    ∃ key, Emits (openRequest kind S B env args fid aad label none) s
      (packageOpened args fid key m.wasm) := by
  unfold openRequest at h ⊢
  rw [haad] at h ⊢
  obtain ⟨_, s₁, hlabel, h⟩ := gives_bind.mp h
  obtain ⟨kReq, s₂, hkey, h⟩ := gives_bind.mp h
  obtain ⟨wasm, s₃, hload, h⟩ := gives_bind.mp h
  obtain ⟨input, _, -, h⟩ := gives_bind.mp h
  obtain ⟨_, _, -, h⟩ := gives_bind.mp h
  obtain ⟨rfl, -⟩ := gives_pure.mp h
  obtain ⟨key, hopen⟩ := emits_loadFunction hload
  exact ⟨key, Emits.right hlabel (Emits.right hkey (Emits.left hopen))⟩

/-- On a miss, an admitted request has its package opened. -/
theorem emits_admitRequest_package {m : Admitted}
    (hmiss : s.worker.functionCacheLookup fid (S.sha256 args.encryptedWasm) = none)
    (h : Gives (admitRequest kind S B env args fid) s m s') :
    ∃ key, Emits (admitRequest kind S B env args fid) s
      (packageOpened args fid key m.wasm) := by
  unfold admitRequest at h ⊢
  obtain ⟨rid, s₁, hrid, h⟩ := gives_bind.mp h
  obtain ⟨aad, s₂, haad, h⟩ := gives_bind.mp h
  obtain ⟨label, s₃, hlabel, h⟩ := gives_bind.mp h
  obtain ⟨s₄, s₅, hget, h⟩ := gives_bind.mp h
  obtain ⟨_, s₆, hkeys, h⟩ := gives_bind.mp h
  have hpkg : aad.pkg = aadPkg fid := by
    have hv := (gives_orStop.mp haad).1
    simp only [aadValues, Option.bind_eq_bind, Option.bind_eq_some_iff, Option.some.injEq,
      buildAadPkg_eq_some_iff] at hv
    obtain ⟨_, ⟨-, rfl⟩, _, -, _, -, rfl⟩ := hv
    rfl
  have hhash : S.sha256 args.encryptedWasm = label :=
    (computeLabelFromCfunc_eq_some_iff.mp (gives_orStop.mp hlabel).1).2.2
  have hworker : s₃.worker = s.worker := by
    have h₁ := (quiet_computeRid kind env args fid).of_gives hrid
    obtain rfl := (gives_orStop.mp haad).2
    obtain rfl := (gives_orStop.mp hlabel).2
    exact h₁
  have hhit : s₄.worker.functionCacheLookup fid label = none := by
    rw [(gives_get.mp hget).1, hworker, ← hhash]
    exact hmiss
  dsimp only at h hkeys ⊢
  rw [hhit] at h
  obtain ⟨key, hopen⟩ := emits_openRequest_package hpkg h
  refine ⟨key, Emits.right hrid (Emits.right haad (Emits.right hlabel (Emits.right hget
    (Emits.right hkeys ?_))))⟩
  rw [hhit]
  exact hopen

end Emission

/-- **What a run executes** is in the cache for its FID and package, or was opened by it. -/
theorem executes_cached_or_opened {kind : RunKind} {env : RunEnv} {args : RunArgs} {g : Globals}
    {wasm : Bytes} {argument : Option Bytes} (h : Executes kind S B env args g wasm argument) :
    g.functionCacheLookup (invocationFid g args) (S.sha256 args.encryptedWasm) = some wasm ∨
      ∃ key, Emits (runEncryptedWasm kind S B env args) (RunState.start g)
        (packageOpened args (invocationFid g args) key wasm) := by
  obtain ⟨c, m, hstarts, rfl, -⟩ := executes_iff_startsModule.mp h
  have hlabel : c.label = S.sha256 args.encryptedWasm :=
    (runContext_some hstarts.admits.context).2.2.2.2
  have hmodule := hstarts.admits.module
  unfold moduleOf at hmodule
  rw [hlabel] at hmodule
  cases hhit : g.functionCacheLookup (invocationFid g args) (S.sha256 args.encryptedWasm) with
  | some wasm =>
    rw [hhit] at hmodule
    exact Or.inl hmodule
  | none =>
    obtain ⟨s, hs, hlogs, -⟩ := runBody_of_ready (S := S) (B := B) hstarts.ready
    have hgives : (admitRequest kind S B env args (invocationFid g args) s).value = some m :=
      value_admitRequest_eq_some_iff.mpr ⟨c, hs ▸ hstarts.admits⟩
    have hmiss : s.worker.functionCacheLookup (invocationFid g args)
        (S.sha256 args.encryptedWasm) = none := by
      rw [hs]
      exact hhit
    obtain ⟨key, hkey⟩ := emits_admitRequest_package hmiss ⟨hgives, rfl⟩
    exact Or.inr ⟨key, hlogs _ (Emits.left hkey)⟩

/-! ## What a run leaves in the cache -/

/-- The cache is as it was, or holds a module that was opened on the way. -/
def StoresOpened (S : Sgx) (args : RunArgs) (fid : CStr) (s : RunState) (log : List Event)
    (s' : RunState) : Prop :=
  s'.worker.cache = s.worker.cache ∨
    ∃ entry key, s'.worker.cache = some entry ∧ entry.fid = Field.store 128 fid ∧
      entry.cfuncHash = S.sha256 args.encryptedWasm ∧
      packageOpened args fid key entry.wasm ∈ log

theorem composes_storesOpened (S : Sgx) (args : RunArgs) (fid : CStr) :
    Composes (StoresOpened S args fid) where
  refl _ := Or.inl rfl
  trans h₁ h₂ := by
    rcases h₂ with h₂ | ⟨entry, key, hcache, hfid, hhash, hopen⟩
    · rcases h₁ with h₁ | ⟨entry, key, hcache, hfid, hhash, hopen⟩
      · exact Or.inl (h₂.trans h₁)
      · exact Or.inr ⟨entry, key, h₂.trans hcache, hfid, hhash, List.mem_append_left _ hopen⟩
    · exact Or.inr ⟨entry, key, hcache, hfid, hhash, List.mem_append_right _ hopen⟩

section Stores

variable {kind : RunKind} {env : RunEnv} {args : RunArgs} {fid : CStr}

/-- A part that keeps the cache. -/
theorem leaves_of_keepsCache {α : Type} {A : Event → Prop} {p : Proc Event RunState α}
    (hp : Frame (Keeps fun s : RunState => s.worker.cache) A p) :
    Leaves (StoresOpened S args fid) p :=
  Leaves.of_frame hp fun _ _ _ h => Or.inl h

theorem leaves_of_quiet {α : Type} {p : Proc Event RunState α} (hp : Quiet p) :
    Leaves (StoresOpened S args fid) p :=
  Leaves.of_frame hp fun _ _ _ h => Or.inl (congrArg Globals.cache h)

/-- **The store.**  What the cold path puts into the cache, it has opened. -/
theorem leaves_loadFunction (hne : args.encryptedWasm ≠ []) (hit : Option Bytes) :
    Leaves (StoresOpened S args fid)
      (loadFunction kind S B env args fid (S.sha256 args.encryptedWasm) (aadPkg fid) hit) := by
  cases hit with
  | some wasm => exact leaves_of_quiet (Frame.pure wasm)
  | none =>
    refine Leaves.bind (composes_storesOpened S args fid)
      (leaves_of_keepsCache (keepsCache_decapFunctionKey _ _ _ _)) fun _ kFunc _ s => ?_
    cases hopen : (decryptFunction kind S env args (aadPkg fid) kFunc s).value with
    | none =>
      rw [bind_of_none hopen]
      exact Or.inl (congrArg Globals.cache ((quiet_decryptFunction kind env hne _ _).worker s))
    | some wasm =>
      have hevent := emits_decryptFunction ⟨hopen, rfl⟩
      have hworker := (quiet_decryptFunction (S := S) kind env hne (aadPkg fid) kFunc).worker s
      rw [bind_of_some hopen]
      generalize (decryptFunction kind S env args (aadPkg fid) kFunc s).state = s₁ at hworker
      rcases s₁.worker.functionCacheStore_cases (env.ok .cacheMalloc) fid
        (S.sha256 args.encryptedWasm) wasm with ⟨hwasm, -, hstore⟩ | hstore
      · refine Or.inr ⟨⟨Field.store 128 fid, S.sha256 args.encryptedWasm, wasm, hwasm⟩,
          kFunc.first 16, ?_, rfl, rfl, List.mem_append_left _ hevent⟩
        show (s₁.worker.functionCacheStore _ fid _ wasm).1.cache = _
        rw [hstore]
      · refine Or.inl ?_
        show (s₁.worker.functionCacheStore _ fid _ wasm).1.cache = _
        rw [hstore, hworker]

theorem leaves_openRequest (hne : args.encryptedWasm ≠ []) {aad : AadValues}
    (haad : aad.pkg = aadPkg fid) (hit : Option Bytes) :
    Leaves (StoresOpened S args fid)
      (openRequest kind S B env args fid aad (S.sha256 args.encryptedWasm) hit) := by
  have hT := composes_storesOpened S args fid
  have hlabel : Leaves (StoresOpened S args fid)
      (onlyIf hit.isNone (prepareLabelKey S env args (S.sha256 args.encryptedWasm))) := by
    cases hit with
    | some wasm => exact leaves_of_quiet (Frame.pure ())
    | none => exact leaves_of_keepsCache (keepsCache_prepareLabelKey _ _ _)
  unfold openRequest
  rw [haad]
  refine hlabel.bind hT fun _ _ _ => ?_
  refine (leaves_of_quiet (quiet_decapRequestKey _ _ _ _)).bind hT fun _ _ _ => ?_
  refine (leaves_loadFunction hne hit).bind hT fun _ _ _ => ?_
  refine (leaves_of_quiet (quiet_decryptInput _ _ _ _ _)).bind hT fun _ _ _ => ?_
  exact (leaves_of_quiet (quiet_recordPayload _ _ _ _ _ _)).bind hT fun _ _ _ =>
    leaves_of_quiet (Frame.pure _)

theorem leaves_admitRequest :
    Leaves (StoresOpened S args fid) (admitRequest kind S B env args fid) := by
  have hT := composes_storesOpened S args fid
  unfold admitRequest
  refine (leaves_of_quiet (quiet_computeRid _ _ _ _)).bind hT fun _ rid _ => ?_
  refine (leaves_of_quiet (Frame.orStop (quiet_enclavePrintLit _))).bind hT fun s aad haad => ?_
  refine (leaves_of_quiet (Frame.orStop (quiet_enclavePrintLit _))).bind hT
    fun s label hlabel => ?_
  refine (leaves_of_quiet Frame.get).bind hT fun _ _ _ => ?_
  refine (leaves_of_quiet (Frame.require (quiet_enclavePrintLit _))).bind hT fun _ _ _ => ?_
  rw [value_orStop] at haad hlabel
  simp only [aadValues, Option.bind_eq_bind, Option.bind_eq_some_iff, Option.some.injEq,
    buildAadPkg_eq_some_iff] at haad
  obtain ⟨_, ⟨-, rfl⟩, _, -, _, -, rfl⟩ := haad
  obtain ⟨hne, -, rfl⟩ := computeLabelFromCfunc_eq_some_iff.mp hlabel
  exact leaves_openRequest hne rfl _

theorem leaves_runBody : Leaves (StoresOpened S args fid) (runBody kind S B env args fid) := by
  have hT := composes_storesOpened S args fid
  refine leaves_admitRequest.bind hT fun _ admitted _ => ?_
  have hmodule : Leaves (StoresOpened S args fid)
      (executeModule kind env args admitted.wasm admitted.input) :=
    Leaves.of_frame (frame_executeModule _ _ _ _ _) fun _ _ _ h =>
      Or.inl (congrArg Globals.cache h)
  exact hmodule.bind hT fun _ _ _ => leaves_of_quiet (quiet_sealRun _ _ _ _ _)

end Stores

/-- **What a run leaves in the cache**: what was there, or a module that it opened. -/
theorem storesOpened_runEncryptedWasm (kind : RunKind) (env : RunEnv) (args : RunArgs)
    (g : Globals) :
    StoresOpened S args (invocationFid g args) (RunState.start g)
      (runEncryptedWasm kind S B env args (RunState.start g)).log
      (runEncryptedWasm kind S B env args (RunState.start g)).state := by
  have hT := composes_storesOpened S args (invocationFid g args)
  have hquiet : ∀ {α : Type} {p : Proc Event RunState α} (hp : Quiet p) (s : RunState),
      StoresOpened S args (invocationFid g args) s (p s).log (p s).state :=
    fun hp s => leaves_of_quiet hp s
  unfold runEncryptedWasm
  refine Leaves.bind_at hT (hquiet (Frame.require (quiet_enclavePrintLit _)) _) fun _ _ => ?_
  refine Leaves.bind_at hT (hquiet (quiet_trace _ _) _) fun _ _ => ?_
  refine Leaves.bind_at hT (hquiet Frame.get _) fun s hs => ?_
  -- the prints and the trace so far have left the globals
  have hworker : s.worker = g := by
    rw [value_get, Option.some.injEq] at hs
    rw [← hs, worker_trace, worker_require]
    rfl
  refine Leaves.bind_at hT (hquiet (quiet_requireLoadedKeys _ _) _) fun _ _ => ?_
  refine Leaves.bind_at hT (hquiet (Frame.require (quiet_enclavePrintLit _)) _) fun _ _ => ?_
  rw [hworker]
  exact leaves_runBody.withCleanup hT
    (fun s => Or.inl (Globals.cache_zeroizeLabelKey s.worker)) _

/-! ## Histories -/

/-- The recorded call is a run that decrypted a package with this hash to the module, under the
associated data of the FID. -/
def Opened (S : Sgx) (r : WorkerRecord) (fid : CStr) (cfuncHash : Block 32) (wasm : Bytes) :
    Prop :=
  ∃ kind env args key, r.input = .runEncryptedWasm kind env args ∧
    S.sha256 args.encryptedWasm = cfuncHash ∧ packageOpened args fid key wasm ∈ r.output.log

/-- The recorded call is a load that completed for an FID that its slot did not hold. -/
def LoadsOtherFid (r : WorkerRecord) : Prop :=
  match r.input with
  | .loadEcc call =>
    r.output.ret = 0 ∧ ¬ (r.pre.ecc.keyLoaded = true ∧ r.pre.ecc.workerFid.str = call.fid)
  | .loadBfibeKeyRelease _ _ fid =>
    r.output.ret = 0 ∧ ¬ (r.pre.bfibe.keyLoaded = true ∧ fid = some r.pre.bfibe.fid.str)
  | _ => False

/-- A call of the history opened the module, and no load for another FID came since. -/
def OpenedSince (S : Sgx) (h : List WorkerRecord) (fid : CStr) (cfuncHash : Block 32)
    (wasm : Bytes) : Prop :=
  ∃ t₁ r t₂, h = t₁ ++ r :: t₂ ∧ Opened S r fid cfuncHash wasm ∧ ∀ q ∈ t₁, ¬ LoadsOtherFid q

/-- **Provenance, at one point of a run**: what the last call executed, it opened, or an earlier
call did since when no load for another FID completed. -/
def ExecutesOpened (S : Sgx) (h : List WorkerRecord) : Prop :=
  ∀ r t kind env args wasm argument, h = r :: t → r.input = .runEncryptedWasm kind env args →
    .executeMain wasm argument ∈ r.output.log →
    Opened S r (invocationFid r.pre args) (S.sha256 args.encryptedWasm) wasm ∨
      OpenedSince S t (invocationFid r.pre args) (S.sha256 args.encryptedWasm) wasm

/-- **The invariant**: what the cache holds was opened, and no load for another FID came
since. -/
def CacheOpened (S : Sgx) (h : List WorkerRecord) (g : Globals) : Prop :=
  ∀ entry, g.cache = some entry → OpenedSince S h entry.fid.str entry.cfuncHash entry.wasm

/-- A call completes both its unwrappings. -/
def EccCall.completes (S : Sgx) (privateKey : Block 32) : EccCall → Bool
  | .decryptKey env blob _ => (unwrapKey S env privateKey blob).isSome
  | .decryptKeysBatch env envLabel dkf dklabel _ =>
    (unwrapKey S env privateKey dkf).isSome && (unwrapKey S envLabel privateKey dklabel).isSome

/-- The condition on one call, in the state before it: no load completes for an FID of more than
128 bytes whose first 128 are the FID that the loaded slot holds. -/
def LoadsExactFid (S : Sgx) (r : WorkerRecord) : Prop :=
  ∀ call, r.input = .loadEcc call → call.completes S r.pre.privateKey = true →
    r.pre.ecc.keyLoaded = true → r.pre.ecc.workerFid.str = call.fid.cut 128 →
    call.fid.strlen ≤ 128

theorem OpenedSince.cons {h : List WorkerRecord} {fid : CStr} {cfuncHash : Block 32}
    {wasm : Bytes} (ho : OpenedSince S h fid cfuncHash wasm) {r : WorkerRecord}
    (hr : ¬ LoadsOtherFid r) : OpenedSince S (r :: h) fid cfuncHash wasm := by
  obtain ⟨t₁, q, t₂, rfl, hq, hno⟩ := ho
  refine ⟨r :: t₁, q, t₂, rfl, hq, fun p hp => ?_⟩
  rcases List.mem_cons.mp hp with rfl | hp
  · exact hr
  · exact hno p hp

/-- A step that leaves the cache and loads for no other FID keeps the invariant. -/
theorem CacheOpened.keep {h : List WorkerRecord} {g g' : Globals} {r : WorkerRecord}
    (hco : CacheOpened S h g) (hcache : g'.cache = g.cache) (hr : ¬ LoadsOtherFid r) :
    CacheOpened S (r :: h) g' :=
  fun entry hentry => (hco entry (hcache ▸ hentry)).cons hr

theorem CacheOpened.of_none {h : List WorkerRecord} {g : Globals} (hcache : g.cache = none) :
    CacheOpened S h g :=
  fun entry hentry => absurd (hcache.symm.trans hentry) (by simp)

/-! ## Loads -/

/-- The end of an ECC load clears the cache, or the slot was loaded for an FID with the same
first 128 bytes. -/
theorem cache_storeWorkerFid (fid : CStr) (g : Globals) :
    (g.storeWorkerFid fid).cache = none ∨
      ((g.storeWorkerFid fid).cache = g.cache ∧ g.ecc.keyLoaded = true ∧
        g.ecc.workerFid.str = fid.cut 128) := by
  unfold Globals.storeWorkerFid
  split
  · exact Or.inl rfl
  · rename_i hsame
    simp only [Bool.or_eq_true, Bool.not_eq_true', not_or, Bool.not_eq_false,
      Field.strncmpEq_iff le_rfl] at hsame
    exact Or.inr ⟨rfl, hsame.1, hsame.2⟩

/-- The end of a BF-IBE load clears the cache, or the slot was loaded for this FID: its field
has room for a terminator. -/
theorem cache_storeBfibeFid (fid : CStr) (g : Globals) :
    (g.storeBfibeFid fid).cache = none ∨
      ((g.storeBfibeFid fid).cache = g.cache ∧ g.bfibe.keyLoaded = true ∧
        g.bfibe.fid.str = fid) := by
  unfold Globals.storeBfibeFid
  split
  · exact Or.inl rfl
  · rename_i hsame
    simp only [Bool.or_eq_true, Bool.not_eq_true', not_or, Bool.not_eq_false,
      Field.strncmpEq_terminated_iff (n := 127)] at hsame
    exact Or.inr ⟨rfl, hsame.1, hsame.2⟩

/-- What an ECC load does to the cache. -/
theorem cache_eccCall (c : EccCall) (g : Globals) :
    (c.proc S g).state.cache = none ∨
      ((c.proc S g).state.cache = g.cache ∧ (returnCode (c.proc S g).value = 0 →
        c.completes S g.privateKey = true ∧ g.ecc.keyLoaded = true ∧
          g.ecc.workerFid.str = c.fid.cut 128)) := by
  have hstep : eccStep S g c = ((c.proc S g).state, returnCode (c.proc S g).value) := rfl
  rcases eccStep_cases (S := S) g c with ⟨-, h⟩ | ⟨_, _, _, _, _, key, -, -, -, h⟩ |
    ⟨env, blob, fid, key, rfl, hk, h⟩ | ⟨env, envLabel, dkf, dklabel, fid, key, label, rfl, hk, hl, h⟩
  · obtain ⟨hs, hv⟩ := Prod.mk.inj (hstep.symm.trans h)
    rw [hs, hv]
    exact Or.inr ⟨rfl, fun h => absurd h (by decide)⟩
  · obtain ⟨hs, hv⟩ := Prod.mk.inj (hstep.symm.trans h)
    rw [hs, hv]
    exact Or.inr ⟨rfl, fun h => absurd h (by decide)⟩
  · obtain ⟨hs, -⟩ := Prod.mk.inj (hstep.symm.trans h)
    rw [EccCall.unwrappedKey] at hk
    have hcomplete : EccCall.completes S g.privateKey (.decryptKey env blob fid) = true := by
      rw [EccCall.completes, hk]
      rfl
    rw [hs]
    rcases cache_storeWorkerFid fid (g.setWorkerKey key) with hnone | ⟨hcache, hl, hf⟩
    · exact Or.inl hnone
    · exact Or.inr ⟨hcache, fun _ => ⟨hcomplete, hl, hf⟩⟩
  · obtain ⟨hs, -⟩ := Prod.mk.inj (hstep.symm.trans h)
    rw [EccCall.unwrappedKey] at hk
    rw [EccCall.unwrappedLabelKey] at hl
    have hcomplete : EccCall.completes S g.privateKey
        (.decryptKeysBatch env envLabel dkf dklabel fid) = true := by
      rw [EccCall.completes, hk, hl]
      rfl
    rw [hs]
    rcases cache_storeWorkerFid fid ((g.setWorkerKey key).setDklabel label) with
      hnone | ⟨hcache, hloaded, hf⟩
    · exact Or.inl hnone
    · exact Or.inr ⟨hcache, fun _ => ⟨hcomplete, hloaded, hf⟩⟩

/-- A release opens for the FID of the call. -/
theorem fid_of_openRelease {env : LoadEnv} {g : Globals} {release plaintext : Bytes}
    {fid : Option CStr} {f : CStr} (h : openRelease S env g release fid = .ok (f, plaintext)) :
    fid = some f := by
  cases fid with
  | none => exact absurd h (by simp [openRelease])
  | some f' =>
    simp only [openRelease] at h
    -- every check but the last gives an error
    repeat' split at h
    all_goals cases h
    rfl

/-- A release that is imported is for the FID of the call. -/
theorem fid_of_imported {env : LoadEnv} {g : Globals} {release : Bytes} {fid : Option CStr}
    {f : CStr} {keys : KeyPairSlots} (h : loadResult S env g release fid = .imported f keys) :
    fid = some f := by
  unfold loadResult at h
  split at h
  · exact absurd h (by simp)
  · rename_i f' plaintext hopen
    split at h
    · exact absurd h (by simp)
    · split at h
      · exact absurd h (by simp)
      · split at h
        · rw [← (LoadResult.imported.inj h).1]
          exact fid_of_openRelease hopen
        · exact absurd h (by simp)

/-! ## Runs -/

/-- **Step.**  A call that meets the condition keeps the invariant. -/
theorem cacheOpened_step {h : List WorkerRecord} {g : Globals} {c : WorkerCall}
    (hco : CacheOpened S h g) (hc : LoadsExactFid S ⟨g, c, (workerStep S B g c).2⟩) :
    CacheOpened S (⟨g, c, (workerStep S B g c).2⟩ :: h) (workerStep S B g c).1 := by
  cases c with
  | createReport env =>
    have hkeeps := (frame_ecallCreateReport env).state g
    exact hco.keep (congrArg (fun p => p.2.2) hkeeps) id
  | loadEcc call =>
    rcases cache_eccCall (S := S) call g with hnone | ⟨hcache, hload⟩
    · exact CacheOpened.of_none hnone
    · refine hco.keep hcache fun hother => hother.2 ?_
      obtain ⟨hcomplete, hl, hf⟩ := hload hother.1
      have hshort := hc call rfl hcomplete hl hf
      exact ⟨hl, hf.trans (CStr.cut_of_le hshort)⟩
  | loadBfibeKeyRelease env release fid =>
    obtain ⟨hstate, hret⟩ := workerStep_load (S := S) (B := B) g env release fid
    cases hr : loadResult S env g release fid with
    | unread =>
      rw [hr] at hstate hret
      exact hco.keep (by rw [hstate]) fun hl => absurd (hret.symm.trans hl.1) (by simp)
    | refused left =>
      rw [hr] at hstate hret
      exact hco.keep (by rw [hstate]; rfl) fun hl => absurd (hret.symm.trans hl.1) (by simp)
    | imported f keys =>
      rw [hr] at hstate
      rcases cache_storeBfibeFid f (g.setBfibeKeys keys) with hnone | ⟨hcache, hl, hf⟩
      · exact CacheOpened.of_none (hstate ▸ hnone)
      · refine hco.keep (by rw [hstate, hcache]; rfl) fun hload => hload.2 ⟨hl, ?_⟩
        rw [fid_of_imported hr, ← hf]
        rfl
  | hasKey fid => exact hco.keep rfl id
  | runEncryptedWasm kind env args =>
    rcases storesOpened_runEncryptedWasm (S := S) (B := B) kind env args g with
      hcache | ⟨entry, key, hcache, hfid, hhash, hopen⟩
    · exact hco.keep hcache id
    · intro entry' hentry
      obtain rfl : entry = entry' := Option.some.inj (hcache.symm.trans hentry)
      refine ⟨[], _, h, rfl, ⟨kind, env, args, key, rfl, hhash.symm, ?_⟩,
        fun q hq => absurd hq List.not_mem_nil⟩
      rw [hfid, Field.store_str, packageOpened, aadPkg_cut]
      exact hopen

/-- The FID of an invocation is what a slot of 128 bytes holds. -/
theorem strlen_invocationFid_le (g : Globals) (args : RunArgs) :
    (invocationFid g args).strlen ≤ 128 := by
  unfold invocationFid
  split
  · exact le_trans g.bfibe.fid.fits (by decide)
  · exact g.ecc.workerFid.fits

/-- **What a call executes**, when the invariant holds before it. -/
theorem executesOpened_of_cacheOpened {h : List WorkerRecord} {g : Globals} {c : WorkerCall}
    (hco : CacheOpened S h g) : ExecutesOpened S (⟨g, c, (workerStep S B g c).2⟩ :: h) := by
  intro r t kind env args wasm argument heq hin hexec
  obtain ⟨rfl, rfl⟩ := List.cons.inj heq
  obtain rfl : c = .runEncryptedWasm kind env args := hin
  rcases executes_cached_or_opened (show Executes kind S B env args g wasm argument from hexec)
    with hhit | ⟨key, hopen⟩
  · obtain ⟨entry, hentry, hfid, hhash, hwasm⟩ :=
      (Globals.functionCacheLookup_eq_some_iff (strlen_invocationFid_le g args)).mp hhit
    have hsince := hco entry hentry
    rw [hfid, hhash, hwasm] at hsince
    exact Or.inr hsince
  · exact Or.inl ⟨kind, env, args, key, rfl, rfl, hopen⟩

/-- **Run.**  When every call meets the condition, whatever was executed had been opened for its
FID, by the same call or by an earlier one since when no load for another FID completed. -/
theorem executesOpened_of_loadsExactFid {g₀ : Globals} (h₀ : g₀.cache = none)
    {h : List WorkerRecord} (hc : ∀ r ∈ h, LoadsExactFid S r) :
    Throughout (workerStep S B) g₀ (fun t _ => ExecutesOpened S t) h := by
  have hcache : ∀ t s, Reach (workerStep S B) g₀ t s → (∀ r ∈ t, LoadsExactFid S r) →
      CacheOpened S t s := by
    intro t s ht
    refine Reach.invariant (fun t s => (∀ r ∈ t, LoadsExactFid S r) → CacheOpened S t s)
      (fun _ => CacheOpened.of_none h₀) (fun t s c _ ih hall => ?_) ht
    exact cacheOpened_step (ih fun r hr => hall r (List.mem_cons_of_mem _ hr))
      (hall _ List.mem_cons_self)
  refine Throughout.of_records (C := LoadsExactFid S) (fun t s ht hall => ?_) hc
  cases ht with
  | start => exact fun _ _ _ _ _ _ _ heq => absurd heq (by simp)
  | step prior c =>
    exact executesOpened_of_cacheOpened
      (hcache _ _ prior fun r hr => hall r (List.mem_cons_of_mem _ hr))

/-- A load of both keys of zeros for an FID. -/
def sampleLoad (fid : CStr) : WorkerCall :=
  .loadEcc (.decryptKeysBatch ⟨true, true⟩ ⟨true, true⟩ (sampleKeyBlob 0) (sampleKeyBlob 0) fid)

/-- A cold run, a load for the same FID, and a warm run. -/
def warmCalls : List WorkerCall :=
  [sampleLoad (CStr.lit "f"), .runEncryptedWasm .kem sampleRunEnv sampleRequest,
    sampleLoad (CStr.lit "f"), .runEncryptedWasm .kem sampleRunEnv sampleRequest]

/-- The warm run executes what the cold one opened. -/
theorem warmCalls_opened :
    Throughout (workerStep Sgx.sample Bfibe.sample) Globals.initial
      (fun t _ => ExecutesOpened Sgx.sample t)
      (runOn (workerStep Sgx.sample Bfibe.sample) [] Globals.initial warmCalls).1 := by
  refine executesOpened_of_loadsExactFid rfl fun r hm => ?_
  have hshort : (CStr.lit "f").strlen ≤ 128 := by decide +kernel
  intro call hin _ _ _
  -- the two loads are for the same short FID
  rcases List.mem_cons.mp hm with rfl | hm
  · exact absurd hin (by simp)
  · rcases List.mem_cons.mp hm with rfl | hm
    · obtain rfl := WorkerCall.loadEcc.inj hin
      exact hshort
    · rcases List.mem_cons.mp hm with rfl | hm
      · exact absurd hin (by simp)
      · rcases List.mem_cons.mp hm with rfl | hm
        · obtain rfl := WorkerCall.loadEcc.inj hin
          exact hshort
        · exact absurd hm List.not_mem_nil

/-- A request for the FID that a slot of 128 bytes keeps of a longer one. -/
def longFidRequest : RunArgs :=
  sampleRunArgs (CStr.letters 128) [5] (sampleInputMac (CStr.letters 128) [5])

/-- A cold run under an FID of 129 bytes, a load for one of 130, and a run under that. -/
def longFidCalls : List WorkerCall :=
  [sampleLoad (CStr.letters 129), .runEncryptedWasm .kem sampleRunEnv longFidRequest,
    sampleLoad (CStr.letters 130), .runEncryptedWasm .kem sampleRunEnv longFidRequest]

/-- The event opens the package of `longFidRequest`. -/
def opensPackage (e : Event) : Bool :=
  match e with
  | .gcmDecrypt _ _ _ ciphertext _ _ => ciphertext == [7]
  | _ => false

/-- A run of `longFidRequest` without such an event has not opened its package. -/
theorem not_opened_of_log {r : WorkerRecord} {kind : RunKind} {env : RunEnv}
    (hin : r.input = .runEncryptedWasm kind env longFidRequest)
    (hlog : (r.output.log.all fun e => !opensPackage e) = true) {fid : CStr}
    {cfuncHash : Block 32} {wasm : Bytes} : ¬ Opened Sgx.sample r fid cfuncHash wasm := by
  rintro ⟨kind', env', args, key, hin', -, hevent⟩
  obtain ⟨-, -, rfl⟩ := WorkerCall.runEncryptedWasm.inj (hin.symm.trans hin')
  have hopens : opensPackage (packageOpened longFidRequest fid key wasm) = true := rfl
  have hpackage := List.all_eq_true.mp hlog _ hevent
  rw [hopens] at hpackage
  exact absurd hpackage (by decide)

/-- The load for the longer FID keeps the cache, and the last run executes what was opened before
that load. -/
theorem longFidCalls_not_opened :
    ¬ Throughout (workerStep Sgx.sample Bfibe.sample) Globals.initial
      (fun t _ => ExecutesOpened Sgx.sample t)
      (runOn (workerStep Sgx.sample Bfibe.sample) [] Globals.initial longFidCalls).1 := by
  intro hall
  have hend := hall _ _ List.suffix_rfl
    (reach_runOn (workerStep Sgx.sample Bfibe.sample) longFidCalls Reach.start)
  rcases hend _ _ .kem sampleRunEnv longFidRequest [7] (some (base64Chars [5])) rfl rfl
    (by decide +kernel) with hopened | ⟨t₁, q, t₂, heq, hopened, hno⟩
  · exact not_opened_of_log rfl (by decide +kernel) hopened
  · cases t₁ with
    | nil =>
      obtain ⟨rfl, -⟩ := List.cons.inj heq
      obtain ⟨kind, env, args, key, hin, -⟩ := hopened
      exact absurd hin (by simp [sampleLoad])
    | cons p t₁ =>
      obtain ⟨rfl, -⟩ := List.cons.inj heq
      refine hno _ List.mem_cons_self ⟨by decide +kernel, fun hsame => ?_⟩
      exact absurd (congrArg CStr.strlen hsame.2) (by decide +kernel)

end Worker
end AsynCS
