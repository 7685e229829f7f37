import AsynCS.Worker.Capture
import AsynCS.Worker.DecKey

/-!
# An invocation: arguments, platform, trace and outputs

What the two run ECALLs are given and what they give back.

* `RunArgs`: the arguments of `ecall_run_encrypted_wasm` and `ecall_run_encrypted_wasm_kem`.
  An empty `[in]` buffer is a NULL pointer in the enclave.  The buffers of fixed size are
  there: with a NULL one the call faults, or fails to hash it, before anything executes.
* `Site`, `RunEnv`: what the platform, the runtime and the module do during a run.
* `InvokeTrace`: `c1_asyncs_invoke_trace_t`, the record of a `kem` run that is not encrypted.
* `RunOut`, `RunState`: the output parameters, and the state that a run works on.

The sum `28 + input_size` and the sizes of the copies are 32-bit in the source; the enclave's
heap is far below the sizes at which they would wrap.
-/

namespace AsynCS
namespace Worker

/-! ## Arguments -/

/-- The arguments of a run ECALL; `invokeTrace` says that the pointer is not NULL. -/
structure RunArgs where
  encryptedWasm : Bytes
  encryptedInput : Bytes
  cKFunc : Bytes
  cKey : Bytes
  nonce : Block 16
  pkU : Block 65
  maxOutSize : ℕ
  wasmIv : Block 12
  wasmMac : Block 16
  inputIv : Block 12
  inputMac : Block 16
  invokeTrace : Bool
  deriving DecidableEq

namespace RunArgs

/-- `C_req`, put together again from its parts. -/
def cReq (args : RunArgs) : Bytes :=
  args.inputIv.toList ++ args.inputMac.toList ++ args.encryptedInput

/-- The request comes with BF-IBE key ciphertexts. -/
def useBfibeKeys (args : RunArgs) : Bool :=
  requestUsesBfibeKeyCiphertexts args.cKFunc args.cKey

end RunArgs

/-! ## The trace -/

/-- The intervals that a trace times. -/
inductive TracePhase where
  | inputKeyDecap
  | inputAesGcm
  | workload
  | outputKem
  | outputAesGcm
  | functionKeyDecap
  | cfuncAesGcm
  | wasmLoad
  | wasmInstantiate
  deriving DecidableEq

/-- The flags of a trace; `cyclesValid` stands for the `*_CYCLES_VALID` flag of a phase. -/
inductive TraceFlag where
  | ridValid
  | payloadValid
  | functionCacheHit
  | cfuncDecryptExecuted
  | cyclesValid (phase : TracePhase)
  | functionCacheValid
  | success
  deriving DecidableEq

/-- The position of a flag in `flags`. -/
def TraceFlag.bit : TraceFlag → ℕ
  | .ridValid => 0
  | .payloadValid => 1
  | .functionCacheHit => 2
  | .cfuncDecryptExecuted => 3
  | .cyclesValid .workload => 4
  | .cyclesValid .outputKem => 5
  | .cyclesValid .outputAesGcm => 6
  | .functionCacheValid => 7
  | .success => 8
  | .cyclesValid .inputKeyDecap => 9
  | .cyclesValid .inputAesGcm => 10
  | .cyclesValid .functionKeyDecap => 11
  | .cyclesValid .cfuncAesGcm => 12
  | .cyclesValid .wasmLoad => 13
  | .cyclesValid .wasmInstantiate => 14

/-- The timestamps of one phase. -/
structure PhaseCycles where
  beginCycles : UInt64
  endCycles : UInt64
  cycles : UInt64
  deriving DecidableEq

/-- `c1_asyncs_invoke_trace_t`. -/
structure InvokeTrace where
  version : ℕ
  flags : Finset TraceFlag
  rid : Block 32
  payloadBytesConsumed : ℕ
  payloadSha256 : Block 32
  functionCacheBytes : ℕ
  phases : TracePhase → PhaseCycles

namespace InvokeTrace

/-- A zeroed trace. -/
def zero : InvokeTrace where
  version := 0
  flags := ∅
  rid := Block.fill 32 0
  payloadBytesConsumed := 0
  payloadSha256 := Block.fill 32 0
  functionCacheBytes := 0
  phases _ := ⟨0, 0, 0⟩

/-- The trace at the start of a run: zeroed, with `C1_ASYNCS_TRACE_VERSION`. -/
def start : InvokeTrace := { zero with version := 1 }

/-- `flags |= flag`. -/
def setFlag (flag : TraceFlag) (t : InvokeTrace) : InvokeTrace :=
  { t with flags := insert flag t.flags }

/-- Write the timestamps of one phase. -/
def setPhase (phase : TracePhase) (f : PhaseCycles → PhaseCycles) (t : InvokeTrace) :
    InvokeTrace :=
  { t with phases := Function.update t.phases phase (f (t.phases phase)) }

/-- The begin of a phase. -/
def beginPhase (phase : TracePhase) (tsc : UInt64) : InvokeTrace → InvokeTrace :=
  setPhase phase fun c => { c with beginCycles := tsc }

/-- The end of a phase. -/
def endPhase (phase : TracePhase) (tsc : UInt64) : InvokeTrace → InvokeTrace :=
  setPhase phase fun c => { c with endCycles := tsc }

/-- The difference of a phase, and its flag. -/
def closePhase (phase : TracePhase) (t : InvokeTrace) : InvokeTrace :=
  (t.setPhase phase fun c => { c with cycles := c.endCycles - c.beginCycles }).setFlag
    (.cyclesValid phase)

end InvokeTrace

/-! ## The platform -/

/-- The calls of a run that the platform can fail. -/
inductive Site where
  | cReqMalloc
  | ridMalloc
  | ridHash
  | aadPkgMalloc
  | aadReqHash
  | aadReqMalloc
  | aadOutHash
  | aadOutMalloc
  | labelHash
  | dklabelMalloc
  | dklabelHash
  | dklabelDomainMalloc
  | dklabelDomainHash
  | cKey (site : DecKeySite)
  | cKFunc (site : DecKeySite)
  | wasmMalloc
  | wasmDecrypt
  | cacheMalloc
  | inputMalloc
  | inputDecrypt
  | payloadHash
  | base64Malloc
  | captureMalloc
  | wasmCopyMalloc
  | execEnv
  | kemContext
  | kemHash
  | resultEncrypt
  deriving DecidableEq

/-- The platform, the WebAssembly runtime and the module during a run. -/
structure RunEnv where
  ok : Site → Bool
  /-- the timestamp readings around each phase, the workload apart -/
  tsc : TracePhase → UInt64 × UInt64
  /-- what an uninitialised `rid32` holds -/
  ridStack : Block 32
  /-- the bytes behind a package of fewer than four bytes -/
  behindPackage : Block 4
  /-- the status of a failed decryption of a package -/
  wasmDecryptStatus : ℕ
  /-- `sgx_read_rand` -/
  resultIv : Block 12
  kemKeyPair : Option (Block 32 × Block 64)
  /-- `wasm_runtime_load`, with the text of a failure -/
  load : Bytes → Except CStr Unit
  /-- the calls of the start function of a module, which runs inside the next -/
  start : Bytes → List GuestCall
  /-- `wasm_runtime_instantiate`, with the text of a failure -/
  instantiate : Bytes → Except CStr Unit
  /-- the execution of a module with an argument -/
  guest : Bytes → Option Bytes → GuestRun

/-! ## Outputs -/

/-- The output parameters of a run ECALL, zeroed before the call. -/
structure RunOut where
  encryptedResult : Bytes
  resultSize : ℕ
  resultTag : Block 16
  resultIv : Block 12
  kemCt : Block 65
  trace : InvokeTrace

/-- The output parameters before a run. -/
def RunOut.zero : RunOut where
  encryptedResult := []
  resultSize := 0
  resultTag := Block.fill 16 0
  resultIv := Block.fill 12 0
  kemCt := Block.fill 65 0
  trace := InvokeTrace.zero

/-- The state that a run works on. -/
structure RunState where
  worker : Globals
  out : RunOut

namespace RunState

/-- The state in which a run starts. -/
def start (g : Globals) : RunState := ⟨g, RunOut.zero⟩

/-- Change the globals. -/
def mapWorker (f : Globals → Globals) (s : RunState) : RunState := { s with worker := f s.worker }

/-- Change the outputs. -/
def mapOut (f : RunOut → RunOut) (s : RunState) : RunState := { s with out := f s.out }

/-- Change the trace. -/
def mapTrace (f : InvokeTrace → InvokeTrace) : RunState → RunState :=
  mapOut fun o => { o with trace := f o.trace }

@[simp] theorem worker_mapWorker (f : Globals → Globals) (s : RunState) :
    (s.mapWorker f).worker = f s.worker := rfl
@[simp] theorem worker_mapOut (f : RunOut → RunOut) (s : RunState) :
    (s.mapOut f).worker = s.worker := rfl
@[simp] theorem worker_mapTrace (f : InvokeTrace → InvokeTrace) (s : RunState) :
    (s.mapTrace f).worker = s.worker := rfl

end RunState

/-- The two run ECALLs. -/
inductive RunKind where
  /-- `ecall_run_encrypted_wasm` -/
  | legacy
  /-- `ecall_run_encrypted_wasm_kem` -/
  | kem
  deriving DecidableEq

end Worker
end AsynCS
