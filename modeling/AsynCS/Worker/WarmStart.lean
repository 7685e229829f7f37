import AsynCS.Worker.Machine
import AsynCS.Worker.InputAuth

/-!
# Warm starts against cold starts

On a hit in the function cache a run does not look at `C_k_func`, at the IV and the tag of the
package, and at the label key.  The cold start of the same call is the call on the globals after
`function_cache_clear`.

* `RequestAdmits`: what both starts ask of the request and of the module.
* `packageOf`: the module of the package, as the cold start opens it.
* `executes_iff_requestAdmits`: a run executes the cached module, or that of its package, when
  the rest admits it.
* `warm_start_iff`: the two starts side by side; they agree whenever the package that comes with
  the call opens to the cached module.
* `bogusPackage_warm_only`: a call that executes on a hit and not without one.
-/

namespace AsynCS
namespace Worker

open Proc

variable {S : Sgx} {B : Bfibe} {kind : RunKind} {env : RunEnv} {args : RunArgs} {g : Globals}

/-- **What a run asks besides its module**: keys, context, session key, input, and a runtime that
starts the module. -/
structure RequestAdmits (kind : RunKind) (S : Sgx) (B : Bfibe) (env : RunEnv) (args : RunArgs)
    (g : Globals) (wasm : Bytes) (argument : Option Bytes) (c : RunContext) (kReq : Block 32)
    (input : Option Bytes) : Prop where
  ready : RunReady kind env args g
  context : runContext kind S env args (invocationFid g args) = some c
  hasKey : args.cKey ≠ []
  requestKey : requestKey S B env g args c.aad.req = .ok kReq
  opened : requestInput S env args c.aad.req kReq = some input
  payload : payloadRecorded kind env input = true
  capture : outputCapturePrepare (env.ok .captureMalloc) args.maxOutSize = true
  starts : ModuleStarts env wasm
  argument : argument = input.bind (base64Encode (env.ok .base64Malloc))

/-- The rest of a run admits this module with this argument. -/
def Admissible (kind : RunKind) (S : Sgx) (B : Bfibe) (env : RunEnv) (args : RunArgs)
    (g : Globals) (wasm : Bytes) (argument : Option Bytes) : Prop :=
  ∃ c kReq input, RequestAdmits kind S B env args g wasm argument c kReq input

/-- The module of the package, as a cold start opens it. -/
def packageOf (S : Sgx) (B : Bfibe) (env : RunEnv) (args : RunArgs) (g : Globals) :
    Option Bytes :=
  if args.cKFunc = [] then none
  else packageModule S B env args g (S.sha256 args.encryptedWasm) (aadPkg (invocationFid g args))

/-- **When a run executes a module**: it is the cached one, or that of the package, and the rest
admits it. -/
theorem executes_iff_requestAdmits {wasm : Bytes} {argument : Option Bytes} :
    Executes kind S B env args g wasm argument ↔
      (match g.functionCacheLookup (invocationFid g args) (S.sha256 args.encryptedWasm) with
        | some cached => some cached
        | none => packageOf S B env args g) = some wasm ∧
      Admissible kind S B env args g wasm argument := by
  have hmodule : ∀ c, runContext kind S env args (invocationFid g args) = some c →
      moduleOf S B env args g (invocationFid g args) c.label c.aad.pkg =
        match g.functionCacheLookup (invocationFid g args) (S.sha256 args.encryptedWasm) with
        | some cached => some cached
        | none => packageOf S B env args g := by
    intro c hc
    obtain ⟨hpkg, -, -, -, hlabel⟩ := runContext_some hc
    rw [moduleOf, hlabel, hpkg]
    rfl
  rw [executes_iff_startsModule]
  constructor
  · rintro ⟨c, m, hstarts, rfl, rfl⟩
    have hadm := hstarts.admits
    refine ⟨(hmodule c hadm.context).symm.trans hadm.module, c, m.kReq, m.input, ?_⟩
    exact ⟨hstarts.ready, hadm.context, hadm.hasKey, hadm.requestKey, hadm.input, hadm.payload,
      hstarts.capture, hstarts.starts, rfl⟩
  · rintro ⟨hwasm, c, kReq, input, h⟩
    refine ⟨c, ⟨c.aad.out, kReq, wasm, input⟩, ⟨h.ready, ?_, h.capture, h.starts⟩, rfl, h.argument⟩
    exact ⟨h.context, h.hasKey, h.requestKey, (hmodule c h.context).trans hwasm, h.opened,
      h.payload, rfl⟩

/-! ## The cleared cache -/

@[simp] theorem invocationFid_functionCacheClear :
    invocationFid g.functionCacheClear args = invocationFid g args := rfl

@[simp] theorem packageOf_functionCacheClear :
    packageOf S B env args g.functionCacheClear = packageOf S B env args g := rfl

/-- Clearing the cache changes nothing of what the rest of a run asks. -/
theorem admissible_functionCacheClear {wasm : Bytes} {argument : Option Bytes} :
    Admissible kind S B env args g.functionCacheClear wasm argument ↔
      Admissible kind S B env args g wasm argument := by
  constructor
  · rintro ⟨c, kReq, input, h⟩
    exact ⟨c, kReq, input, ⟨⟨h.ready.traced, h.ready.keysLoaded, h.ready.cReq⟩, h.context,
      h.hasKey, h.requestKey, h.opened, h.payload, h.capture, h.starts, h.argument⟩⟩
  · rintro ⟨c, kReq, input, h⟩
    exact ⟨c, kReq, input, ⟨⟨h.ready.traced, h.ready.keysLoaded, h.ready.cReq⟩, h.context,
      h.hasKey, h.requestKey, h.opened, h.payload, h.capture, h.starts, h.argument⟩⟩

/-- A cold start executes the module of the package. -/
theorem cold_start_iff {wasm : Bytes} {argument : Option Bytes} :
    Executes kind S B env args g.functionCacheClear wasm argument ↔
      packageOf S B env args g = some wasm ∧
        Admissible kind S B env args g wasm argument := by
  rw [executes_iff_requestAdmits, admissible_functionCacheClear]
  rfl

/-- **Warm and cold start of one call**, on a hit: the warm start executes the cached module and
the cold start that of the package, each when the rest of the call admits it.  When the package
opens to the cached module, one executes exactly when the other does, the same module on the same
argument. -/
theorem warm_start_iff {cached : Bytes}
    (hhit : g.functionCacheLookup (invocationFid g args) (S.sha256 args.encryptedWasm) =
      some cached) :
    (∀ wasm argument, Executes kind S B env args g wasm argument ↔
      wasm = cached ∧ Admissible kind S B env args g wasm argument) ∧
    (∀ wasm argument, Executes kind S B env args g.functionCacheClear wasm argument ↔
      packageOf S B env args g = some wasm ∧
        Admissible kind S B env args g wasm argument) ∧
    (packageOf S B env args g = some cached → ∀ wasm argument,
      Executes kind S B env args g wasm argument ↔
        Executes kind S B env args g.functionCacheClear wasm argument) := by
  have hwarm : ∀ wasm argument, Executes kind S B env args g wasm argument ↔
      wasm = cached ∧ Admissible kind S B env args g wasm argument := by
    intro wasm argument
    rw [executes_iff_requestAdmits, hhit]
    simp only [Option.some.injEq, eq_comm (a := cached)]
  refine ⟨hwarm, fun _ _ => cold_start_iff, fun hpkg wasm argument => ?_⟩
  rw [hwarm, cold_start_iff, hpkg]
  simp only [Option.some.injEq, eq_comm (a := cached)]

/-! ## A hit with the package's own keys, and with none -/

/-- The worker after a load and a cold run for the FID `f`. -/
def warmWorker : Globals :=
  (workerStep Sgx.sample Bfibe.sample loadedWorker
    (.runEncryptedWasm .kem sampleRunEnv sampleRequest)).1

/-- The request of the cold run again, with a `C_k_func` of one byte and another package tag. -/
def bogusRequest : RunArgs :=
  { sampleRequest with cKFunc := [1], wasmMac := Block.fill 16 0 }

/-- The same request again hits the cache, and both starts execute the module. -/
theorem sampleRequest_warm_and_cold :
    Executes .kem Sgx.sample Bfibe.sample sampleRunEnv sampleRequest warmWorker [7]
        (some (base64Chars [5])) ∧
      ∀ wasm argument,
        Executes .kem Sgx.sample Bfibe.sample sampleRunEnv sampleRequest warmWorker wasm
            argument ↔
          Executes .kem Sgx.sample Bfibe.sample sampleRunEnv sampleRequest
            warmWorker.functionCacheClear wasm argument := by
  refine ⟨?_, (warm_start_iff (show _ = some [7] by decide +kernel)).2.2 (by decide +kernel)⟩
  show _ ∈ (runEncryptedWasm _ _ _ _ _ _).log
  decide +kernel

/-- The event is an execution. -/
def Event.isExecution : Event → Bool
  | .executeMain _ _ => true
  | _ => false

/-- A request that brings nothing to open the package with executes on a hit and not on the
cleared cache. -/
theorem bogusPackage_warm_only :
    Executes .kem Sgx.sample Bfibe.sample sampleRunEnv bogusRequest warmWorker [7]
        (some (base64Chars [5])) ∧
      ∀ wasm argument, ¬ Executes .kem Sgx.sample Bfibe.sample sampleRunEnv bogusRequest
        warmWorker.functionCacheClear wasm argument := by
  constructor
  · show _ ∈ (runEncryptedWasm _ _ _ _ _ _).log
    decide +kernel
  · intro wasm argument hexec
    have hnone : ((runEncryptedWasm .kem Sgx.sample Bfibe.sample sampleRunEnv bogusRequest
        (RunState.start warmWorker.functionCacheClear)).log.all fun e => !e.isExecution) =
        true := by decide +kernel
    exact absurd (List.all_eq_true.mp hnone _ hexec) (by simp [Event.isExecution])

end Worker
end AsynCS
