import AsynCS.Worker.Invocation

/-!
# The run ECALLs

`ecall_run_encrypted_wasm` and `ecall_run_encrypted_wasm_kem` take an encrypted package and an
encrypted request, execute the module of the package on the plaintext of the request, and
encrypt its output.  The two bodies are near-copies.  They differ in what they print, in the
trace of the second, in four places that decide something, and in the key that seals the
output; each difference is a case on `RunKind` here.

* `computeRid`: the legacy run goes on with an uninitialised RID when hashing fails, and the
  `kem` run stops.
* `prepareLabelKey`, `decapRequestKey`, `decapFunctionKey`, `loadFunction`: the cold path.  On
  a hit in the function cache the last two and the package are not looked at.
* `decryptInput`: nothing is decrypted when `input_size` is 0.
* `recordPayload`: the legacy run prints the hash of the payload, if there is one, and the
  `kem` run stops when there is none.
* `runWasmHelper`: the module.
* `sealResult`, `sealResultKem`: the end.
* `runEncryptedWasm`, with the two ECALLs as its members.

`withCleanup` is the label `cleanup:`, which every `goto` of the source and the end of the body
reach.  What it wipes besides `g_dklabel_func` is local.
-/

namespace AsynCS
namespace Worker

open Proc

/-! ## Prints and trace -/

/-- Do something in a `kem` run only. -/
def whenKem (kind : RunKind) (p : Proc Event RunState Unit) : Proc Event RunState Unit :=
  match kind with
  | .legacy => pure ()
  | .kem => p

/-- Do something in a legacy run only. -/
def whenLegacy (kind : RunKind) (p : Proc Event RunState Unit) : Proc Event RunState Unit :=
  match kind with
  | .legacy => p
  | .kem => pure ()

/-- Write to the trace of a `kem` run. -/
def trace (kind : RunKind) (f : InvokeTrace → InvokeTrace) : Proc Event RunState Unit :=
  whenKem kind (modify (RunState.mapTrace f))

/-- `print_hex_prefixed`. -/
def printHexPrefixed (text : String) (data : Bytes) : Proc Event RunState Unit := do
  enclavePrintLit text
  data.forM fun b => enclavePrint (hexEncode [b])
  enclavePrintLit "\n"

/-- A number in decimal. -/
def decimal (n : ℕ) : Bytes := ascii (toString n)

/-- A number in lower-case hexadecimal. -/
def hexadecimal (n : ℕ) : Bytes := ascii (String.ofList (Nat.toDigits 16 n))

/-- One line of the debug output: a name and four bytes. -/
def printDebugBytes (name : String) (data : Bytes) : Proc Event RunState Unit :=
  enclavePrint (ascii name ++ hexEncode (data.take 4) ++ ascii "...\n")

/-- The timestamps around one phase. -/
def RunEnv.beginAt (env : RunEnv) (phase : TracePhase) : InvokeTrace → InvokeTrace :=
  InvokeTrace.beginPhase phase (env.tsc phase).1

/-- The second timestamp of a phase. -/
def RunEnv.endAt (env : RunEnv) (phase : TracePhase) : InvokeTrace → InvokeTrace :=
  InvokeTrace.endPhase phase (env.tsc phase).2

/-- `sgx_rijndael128GCM_decrypt` with the first 16 bytes of a session key. -/
def gcmOpen (S : Sgx) (ok : Bool) (key : Block 32) (iv : Block 12) (aad ciphertext : Bytes)
    (tag : Block 16) : Proc Event RunState (Option Bytes) := do
  let plaintext := if ok then S.gcmDecrypt (key.first 16) iv aad ciphertext tag else none
  emit (.gcmDecrypt (key.first 16) iv aad ciphertext tag plaintext)
  pure plaintext

/-! ## FID, RID and associated data -/

/-- `invocation_fid`. -/
def invocationFid (g : Globals) (args : RunArgs) : CStr :=
  if args.useBfibeKeys then g.bfibe.fid.str else g.ecc.workerFid.str

/-- The keys of the request's profile are loaded. -/
def requireLoadedKeys (g : Globals) (args : RunArgs) : Proc Event RunState Unit := do
  require (args.useBfibeKeys || g.ecc.keyLoaded)
    (enclavePrintLit "Error: Key not loaded in Enclave.\n")
  require (!args.useBfibeKeys || g.bfibe.keyLoaded)
    (enclavePrintLit "Error: BF-IBE key not loaded in Enclave.\n")

/-- The RID, printed by the legacy run and traced by the `kem` run. -/
def computeRid (kind : RunKind) (S : Sgx) (env : RunEnv) (args : RunArgs) (fid : CStr) :
    Proc Event RunState (Block 32) :=
  match computeRidFromFidAndCReq S (env.ok .ridMalloc) (env.ok .ridHash) fid args.cReq with
  | some rid => do
    whenLegacy kind (printHexPrefixed "RID_HEX:" rid.toList)
    trace kind fun t => { t with rid := rid }.setFlag .ridValid
    pure rid
  | none => do
    enclavePrintLit "Error: RID computation failed.\n"
    match kind with
    | .legacy => pure env.ridStack
    | .kem => stop

/-- The associated data of the package, of the request and of the output. -/
structure AadValues where
  pkg : Bytes
  req : Bytes
  out : Bytes
  deriving DecidableEq

/-- The three values of a run. -/
def aadValues (S : Sgx) (env : RunEnv) (args : RunArgs) (fid : CStr) (rid : Block 32) :
    Option AadValues := do
  let pkg ← buildAadPkg (env.ok .aadPkgMalloc) fid
  let req ← buildAadReq S (env.ok .aadReqHash) (env.ok .aadReqMalloc) fid args.nonce args.pkU
  let out ← buildAadOut S (env.ok .aadOutHash) (env.ok .aadOutMalloc) fid rid args.pkU
  some ⟨pkg, req, out⟩

/-! ## Session keys -/

/-- `derive_dklabelfunc`. -/
def deriveDklabelfunc (S : Sgx) (env : RunEnv) (dkf label : Block 32) : Option (Block 32) := do
  let tmp ← sha256Concat S (env.ok .dklabelMalloc) (env.ok .dklabelHash) dkf.toList label.toList
  sha256Concat S (env.ok .dklabelDomainMalloc) (env.ok .dklabelDomainHash) tmp.toList
    (ascii "DKLABEL")

/-- `memcpy(g_dklabel_func, dklabelfunc32, 32); g_dklabel_func_valid = true`. -/
def Globals.setDklabelFunc (key : Block 32) (g : Globals) : Globals :=
  { g with dklabelFunc := key, dklabelFuncValid := true }

/-- The label key of the cold path. -/
def prepareLabelKey (S : Sgx) (env : RunEnv) (args : RunArgs) (label : Block 32) :
    Proc Event RunState Unit := do
  let s ← get
  let ecc := s.worker.ecc
  if args.useBfibeKeys then
    modify (RunState.mapWorker (Globals.setDklabelFunc (Block.fill 32 0)))
  else if ecc.dklabelFromKms then do
    enclavePrintLit "Using dklabel from KMS (BindLabelToFID enforced).\n"
    modify (RunState.mapWorker (Globals.setDklabelFunc ecc.workerDklabel))
  else do
    enclavePrintLit
      "WARNING: Using legacy local dklabel derivation (BindLabelToFID not enforced).\n"
    let dklabelfunc ← orStop (deriveDklabelfunc S env ecc.workerKey label)
      (enclavePrintLit "Error: Failed to derive dklabelfunc.\n")
    modify (RunState.mapWorker (Globals.setDklabelFunc dklabelfunc))

/-- `DecKey` on `C_key`. -/
def requestKey (S : Sgx) (B : Bfibe) (env : RunEnv) (g : Globals) (args : RunArgs)
    (aadReq : Bytes) : Except (List String) (Block 32) :=
  if args.useBfibeKeys then
    decKey S B (fun site => env.ok (.cKey site)) g.bfibe none args.cKey aadReq
  else
    decKey S B (fun site => env.ok (.cKey site)) g.bfibe (some g.ecc.workerKey) args.cKey
      (ascii "C_KEY")

/-- `DecKey` on `C_k_func`, with the label key in `g_dklabel_func`. -/
def functionKey (S : Sgx) (B : Bfibe) (env : RunEnv) (g : Globals) (args : RunArgs)
    (aadPkg : Bytes) : Except (List String) (Block 32) :=
  if args.useBfibeKeys then
    decKey S B (fun site => env.ok (.cKFunc site)) g.bfibe none args.cKFunc aadPkg
  else
    decKey S B (fun site => env.ok (.cKFunc site)) g.bfibe (some g.dklabelFunc) args.cKFunc
      (ascii "C_K_FUNC")

/-- The session key, or the texts of `DecKey` and of its caller. -/
def orDecKeyFailed (name : String) (key : Except (List String) (Block 32)) :
    Proc Event RunState (Block 32) :=
  orReport (key.mapError fun texts => texts ++ ["Error: DecKey(" ++ name ++ ") failed.\n"])

/-- `k_req`. -/
def decapRequestKey (kind : RunKind) (S : Sgx) (B : Bfibe) (env : RunEnv) (args : RunArgs)
    (aadReq : Bytes) : Proc Event RunState (Block 32) := do
  trace kind (env.beginAt .inputKeyDecap)
  let s ← get
  let kReq ← orDecKeyFailed "C_key" (requestKey S B env s.worker args aadReq)
  trace kind (env.endAt .inputKeyDecap)
  trace kind (InvokeTrace.closePhase .inputKeyDecap)
  pure kReq

/-- `k_func` on the cold path, after which the label key is wiped. -/
def decapFunctionKey (kind : RunKind) (S : Sgx) (B : Bfibe) (env : RunEnv) (args : RunArgs)
    (aadPkg : Bytes) : Proc Event RunState (Block 32) := do
  trace kind (env.beginAt .functionKeyDecap)
  let s ← get
  let kFunc ← orDecKeyFailed "C_k_func" (functionKey S B env s.worker args aadPkg)
  trace kind (env.endAt .functionKeyDecap)
  trace kind (InvokeTrace.closePhase .functionKeyDecap)
  modify (RunState.mapWorker Globals.zeroizeLabelKey)
  pure kFunc

/-! ## Function code -/

/-- The debug output of the legacy run before the decryption of a package. -/
def printDebugDecryption (env : RunEnv) (args : RunArgs) : Proc Event RunState Unit := do
  enclavePrintLit "Debugging Decryption:\n"
  let s ← get
  onlyIf (!args.useBfibeKeys) (printDebugBytes "Key: " s.worker.ecc.workerKey.toList)
  printDebugBytes "IV: " args.wasmIv.toList
  printDebugBytes "Tag: " args.wasmMac.toList
  printDebugBytes "CT: " (args.encryptedWasm ++ env.behindPackage.toList)

/-- The plaintext of the package. -/
def decryptFunction (kind : RunKind) (S : Sgx) (env : RunEnv) (args : RunArgs) (aadPkg : Bytes)
    (kFunc : Block 32) : Proc Event RunState Bytes := do
  require (env.ok .wasmMalloc) (enclavePrintLit "Malloc failed for decrypted wasm.\n")
  whenLegacy kind (printDebugDecryption env args)
  trace kind (env.beginAt .cfuncAesGcm)
  let plaintext ← gcmOpen S (env.ok .wasmDecrypt) kFunc args.wasmIv aadPkg args.encryptedWasm
    args.wasmMac
  trace kind (env.endAt .cfuncAesGcm)
  let wasm ← orStop plaintext (enclavePrint
    (ascii "WASM Decryption failed. Error: 0x" ++ hexadecimal env.wasmDecryptStatus ++
      ascii "\n"))
  trace kind (InvokeTrace.closePhase .cfuncAesGcm)
  whenLegacy kind (enclavePrintLit "Decryption succeeded. Running WASM...\n")
  pure wasm

/-- Keep the module in the function cache. -/
def storeFunction (env : RunEnv) (fid : CStr) (label : Block 32) (wasm : Bytes) :
    Proc Event RunState Unit :=
  modify (RunState.mapWorker fun g =>
    (g.functionCacheStore (env.ok .cacheMalloc) fid label wasm).1)

/-- The module that is to be executed: the cached one on a hit, and otherwise that of the
package, which goes into the cache when memory suffices. -/
def loadFunction (kind : RunKind) (S : Sgx) (B : Bfibe) (env : RunEnv) (args : RunArgs)
    (fid : CStr) (label : Block 32) (aadPkg : Bytes) (hit : Option Bytes) :
    Proc Event RunState Bytes :=
  match hit with
  | some wasm => pure wasm
  | none => do
    let kFunc ← decapFunctionKey kind S B env args aadPkg
    let wasm ← decryptFunction kind S env args aadPkg kFunc
    storeFunction env fid label wasm
    pure wasm

/-! ## Input -/

/-- The plaintext of the request; `none` is the NULL pointer of an empty input. -/
def decryptInput (kind : RunKind) (S : Sgx) (env : RunEnv) (args : RunArgs) (aadReq : Bytes)
    (kReq : Block 32) : Proc Event RunState (Option Bytes) :=
  if args.encryptedInput = [] then pure none
  else do
    require (env.ok .inputMalloc) (enclavePrintLit "Malloc failed for decrypted input.\n")
    trace kind (env.beginAt .inputAesGcm)
    let plaintext ← gcmOpen S (env.ok .inputDecrypt) kReq args.inputIv aadReq
      args.encryptedInput args.inputMac
    trace kind (env.endAt .inputAesGcm)
    let input ← orStop plaintext (enclavePrintLit "Input Decryption failed.\n")
    trace kind (InvokeTrace.closePhase .inputAesGcm)
    whenLegacy kind (enclavePrintLit "Input Decryption succeeded.\n")
    pure (some input)

/-- `sha256_hex`: the hash of an empty input is a constant. -/
def sha256Hex (S : Sgx) (ok : Bool) : Option Bytes → Option Bytes
  | none => some (ascii "e3b0c44298fc1c149afbf4c8996fb92427ae41e4649b934ca495991b7852b855")
  | some data => (S.sha256Msg ok (some data)).map fun hash => hexEncode hash.toList

/-- `trace_e3_payload_consumed` of the legacy run. -/
def traceE3PayloadConsumed (S : Sgx) (env : RunEnv) (args : RunArgs) (input : Option Bytes) :
    Proc Event RunState Unit :=
  match sha256Hex S (env.ok .payloadHash) input with
  | some text => enclavePrint
      (ascii "ACSC_TRACE_E3_PAYLOAD:payload_bytes_consumed=" ++
        decimal args.encryptedInput.length ++ ascii " payload_sha256=" ++ text ++ ascii "\n")
  | none =>
    enclavePrintLit "ACSC_TRACE_E3_PAYLOAD:payload_bytes_consumed= payload_sha256=\n"

/-- `capture_e3_payload_evidence` of the `kem` run. -/
def captureE3PayloadEvidence (S : Sgx) (env : RunEnv) (args : RunArgs) (input : Option Bytes) :
    Proc Event RunState Unit := do
  let hash ← orStop (S.sha256Msg (env.ok .payloadHash) input)
    (enclavePrintLit "Error: Failed to capture payload evidence.\n")
  trace .kem fun t =>
    { t with
      payloadBytesConsumed := args.encryptedInput.length
      payloadSha256 := hash }.setFlag .payloadValid

/-- The record of the payload and of the use of the function cache. -/
def recordPayload (kind : RunKind) (S : Sgx) (env : RunEnv) (args : RunArgs)
    (input hit : Option Bytes) (wasm : Bytes) : Proc Event RunState Unit :=
  match kind with
  | .legacy => do
    traceE3PayloadConsumed S env args input
    enclavePrint
      (ascii "ACSC_TRACE_FUNCTION_CACHE:function_cache_hit=" ++ decimal hit.isSome.toNat ++
        ascii " cfunc_decrypt_executed=" ++ decimal hit.isNone.toNat ++
        ascii " function_cache_bytes=" ++ decimal wasm.length ++ ascii "\n")
  | .kem => do
    captureE3PayloadEvidence S env args input
    trace .kem fun t => { t with functionCacheBytes := wasm.length }.setFlag .functionCacheValid
    if hit.isSome then trace .kem (InvokeTrace.setFlag .functionCacheHit)
    else trace .kem (InvokeTrace.setFlag .cfuncDecryptExecuted)

/-! ## The module -/

/-- Go on when the runtime succeeded, or leave after what is done with the text of its error. -/
def orRuntimeError (r : Except CStr Unit) (onFail : CStr → Proc Event RunState Unit) :
    Proc Event RunState Unit :=
  match r with
  | .ok () => pure ()
  | .error text => do
    onFail text
    stop

/-- `run_wasm_helper` up to `wasm_application_execute_main`. -/
def startModule (kind : RunKind) (env : RunEnv) (wasm : Bytes) : Proc Event RunState Unit := do
  require (wasm != []) (printAll ["Load module failed.\n", "empty wasm buffer"])
  require (env.ok .wasmCopyMalloc)
    (printAll ["Load module failed.\n", "malloc failed for wasm copy"])
  trace kind (env.beginAt .wasmLoad)
  orRuntimeError (env.load wasm) fun text => do
    enclavePrintLit "Load module failed.\n"
    enclavePrint text.bytes
  trace kind (env.endAt .wasmLoad)
  trace kind (InvokeTrace.closePhase .wasmLoad)
  trace kind (env.beginAt .wasmInstantiate)
  emitOcalls ((env.start wasm).flatMap GuestCall.startOcalls)
  orRuntimeError (env.instantiate wasm) fun text => do
    enclavePrintLit "Instantiate module failed. Error: "
    enclavePrint text.bytes
    enclavePrintLit "\n"
  trace kind (env.endAt .wasmInstantiate)
  trace kind (InvokeTrace.closePhase .wasmInstantiate)
  require (env.ok .execEnv) (enclavePrintLit "Create exec env failed.\n")

/-- The rest of `run_wasm_helper`, with the capture buffer prepared: it gives what the module
left there when it ran to its end and everything it printed fitted. -/
def executeMain (env : RunEnv) (wasm : Bytes) (argument : Option Bytes) (capacity : ℕ) :
    Proc Event RunState (ExecState capacity) := do
  emit (.executeMain wasm argument)
  let run := env.guest wasm argument
  emitOcalls (run.calls.flatMap GuestCall.ocalls)
  onlyIf (!run.ok) (enclavePrintLit "Execute main failed.\n")
  let final := ExecState.execute capacity run.calls
  require (!final.capture.overflow)
    (enclavePrintLit "WASM output exceeded enclave capture buffer.\n")
  require run.ok (pure ())
  pure final

/-- `run_wasm_helper`. -/
def runWasmHelper (kind : RunKind) (env : RunEnv) (wasm : Bytes) (argument : Option Bytes)
    (capacity : ℕ) : Proc Event RunState (ExecState capacity) := do
  startModule kind env wasm
  executeMain env wasm argument capacity

/-- Prepare the capture buffer and run the module on the base64 text of the input.  When the
text cannot be allocated the module runs without an argument. -/
def executeModule (kind : RunKind) (env : RunEnv) (args : RunArgs) (wasm : Bytes)
    (input : Option Bytes) : Proc Event RunState (ExecState args.maxOutSize) := do
  let argument := input.bind (base64Encode (env.ok .base64Malloc))
  require (outputCapturePrepare (env.ok .captureMalloc) args.maxOutSize)
    (enclavePrintLit "Invalid or unavailable output capacity.\n")
  runWasmHelper kind env wasm argument args.maxOutSize

/-! ## The result -/

/-- `sgx_rijndael128GCM_encrypt` of the captured output, and what it writes. -/
def sealOutput (S : Sgx) (env : RunEnv) (key : Block 32) (aadOut output : Bytes)
    (failed : String) : Proc Event RunState Unit := do
  modify (RunState.mapOut fun o => { o with resultIv := env.resultIv })
  emit (.gcmEncrypt (key.first 16) env.resultIv aadOut output)
  require (env.ok .resultEncrypt) (enclavePrintLit failed)
  let (ciphertext, tag) := S.gcmEncrypt (key.first 16) env.resultIv aadOut output
  modify (RunState.mapOut fun o => { o with encryptedResult := ciphertext, resultTag := tag })

/-- The end of the legacy run: the output is encrypted with `k_req`. -/
def sealResult (S : Sgx) (env : RunEnv) (args : RunArgs) (aadOut : Bytes) (kReq : Block 32)
    (final : ExecState args.maxOutSize) : Proc Event RunState Unit := do
  require (final.capture.pos ≤ args.maxOutSize) (enclavePrintLit "Output buffer too small.\n")
  sealOutput S env kReq aadOut final.capture.output "Result encryption failed.\n"
  modify (RunState.mapOut fun o => { o with resultSize := final.capture.pos })
  enclavePrintLit "Result encrypted successfully.\n"

/-- `ecall_kem_encap`: `k_U`, with the ephemeral public key in `kem_ct`. -/
def ecallKemEncap (S : Sgx) (env : RunEnv) (pkU : Block 65) : Proc Event RunState (Block 32) := do
  require (pkU.toList.take 1 == [4])
    (enclavePrintLit "KEM: Invalid pkU format (expected 0x04 prefix)\n")
  require (env.ok .kemContext) (enclavePrintLit "KEM: Failed to open ECC context\n")
  let (ephSk, ephPk) ← orStop env.kemKeyPair
    (enclavePrintLit "KEM: Failed to generate ephemeral key\n")
  let sharedSecret ← orStop (S.computeSharedDhkey ephSk (pointOfX962 pkU.toList))
    (enclavePrintLit "KEM: Failed to compute shared secret\n")
  let kemCt := Block.ofBytes 65
    ([4] ++ (ephPk.toList.take 32).reverse ++ (ephPk.toList.drop 32).reverse)
  modify (RunState.mapOut fun o => { o with kemCt := kemCt })
  orStop (S.sha256Msg (env.ok .kemHash) (some sharedSecret.toList))
    (enclavePrintLit "KEM: Failed to derive key\n")

/-- The timestamps of a workload that took both, in order. -/
def workloadCycles {capacity : ℕ} (final : ExecState capacity) : Option (UInt64 × UInt64) :=
  match final.workloadTscBegin, final.workloadTscEnd with
  | some first, some last => if last < first then none else some (first, last)
  | _, _ => none

/-- The end of the `kem` run: the workload must have been timed, and the output is encrypted
with a key that only the holder of the private key of `pkU` can compute. -/
def sealResultKem (S : Sgx) (env : RunEnv) (args : RunArgs) (aadOut : Bytes)
    (final : ExecState args.maxOutSize) : Proc Event RunState Unit := do
  let (first, last) ← orStop (workloadCycles final)
    (enclavePrintLit "Error: Workload did not provide valid enclave TSC boundaries.\n")
  trace .kem (InvokeTrace.beginPhase .workload first)
  trace .kem (InvokeTrace.endPhase .workload last)
  trace .kem (InvokeTrace.closePhase .workload)
  let encapsulated ← attempt (ecallKemEncap S env args.pkU)
  let kU ← orStop encapsulated (enclavePrintLit "KEM encapsulation failed.\n")
  trace .kem (env.beginAt .outputKem)
  trace .kem (env.endAt .outputKem)
  trace .kem (InvokeTrace.closePhase .outputKem)
  require (final.capture.pos ≤ args.maxOutSize) (enclavePrintLit "Output buffer too small.\n")
  sealOutput S env kU aadOut final.capture.output "Result encryption with KEM key failed.\n"
  trace .kem (env.beginAt .outputAesGcm)
  trace .kem (env.endAt .outputAesGcm)
  trace .kem (InvokeTrace.closePhase .outputAesGcm)
  modify (RunState.mapOut fun o => { o with resultSize := final.capture.pos })
  trace .kem (InvokeTrace.setFlag .success)

/-! ## The ECALLs -/

/-- What a run has when it comes to execute a module. -/
structure Admitted where
  aadOut : Bytes
  kReq : Block 32
  wasm : Bytes
  input : Option Bytes
  deriving DecidableEq

/-- Open the package, unless its module is cached, and the request. -/
def openRequest (kind : RunKind) (S : Sgx) (B : Bfibe) (env : RunEnv) (args : RunArgs)
    (fid : CStr) (aad : AadValues) (label : Block 32) (hit : Option Bytes) :
    Proc Event RunState Admitted := do
  onlyIf hit.isNone (prepareLabelKey S env args label)
  let kReq ← decapRequestKey kind S B env args aad.req
  let wasm ← loadFunction kind S B env args fid label aad.pkg hit
  let input ← decryptInput kind S env args aad.req kReq
  recordPayload kind S env args input hit wasm
  pure ⟨aad.out, kReq, wasm, input⟩

/-- The body of a run up to the execution of the module. -/
def admitRequest (kind : RunKind) (S : Sgx) (B : Bfibe) (env : RunEnv) (args : RunArgs)
    (fid : CStr) : Proc Event RunState Admitted := do
  let rid ← computeRid kind S env args fid
  let aad ← orStop (aadValues S env args fid rid)
    (enclavePrintLit "Error: Failed to build AAD values.\n")
  let label ← orStop (computeLabelFromCfunc S (env.ok .labelHash) args.encryptedWasm)
    (enclavePrintLit "Error: Failed to compute C_func label.\n")
  let s ← get
  let hit := s.worker.functionCacheLookup fid label
  require (args.cKey != [] && (hit.isSome || args.cKFunc != []))
    (enclavePrintLit "Error: Missing C_key or cold-path C_k_func buffer (G3).\n")
  openRequest kind S B env args fid aad label hit

/-- The end of a run. -/
def sealRun (kind : RunKind) (S : Sgx) (env : RunEnv) (args : RunArgs) (admitted : Admitted)
    (final : ExecState args.maxOutSize) : Proc Event RunState Unit :=
  match kind with
  | .legacy => sealResult S env args admitted.aadOut admitted.kReq final
  | .kem => sealResultKem S env args admitted.aadOut final

/-- The body of a run. -/
def runBody (kind : RunKind) (S : Sgx) (B : Bfibe) (env : RunEnv) (args : RunArgs) (fid : CStr) :
    Proc Event RunState Unit := do
  let admitted ← admitRequest kind S B env args fid
  let final ← executeModule kind env args admitted.wasm admitted.input
  sealRun kind S env args admitted final

/-- A run ECALL. -/
def runEncryptedWasm (kind : RunKind) (S : Sgx) (B : Bfibe) (env : RunEnv) (args : RunArgs) :
    Proc Event RunState Unit := do
  require (kind == .legacy || args.invokeTrace)
    (enclavePrintLit "Error: Missing bounded invocation trace output.\n")
  trace kind fun _ => InvokeTrace.start
  let s ← get
  requireLoadedKeys s.worker args
  require (env.ok .cReqMalloc)
    (enclavePrintLit "Error: malloc failed for C_req reconstruction.\n")
  withCleanup (runBody kind S B env args (invocationFid s.worker args))
    (RunState.mapWorker Globals.zeroizeLabelKey)

/-- `ecall_run_encrypted_wasm`. -/
def ecallRunEncryptedWasm : Sgx → Bfibe → RunEnv → RunArgs → Proc Event RunState Unit :=
  runEncryptedWasm .legacy

/-- `ecall_run_encrypted_wasm_kem`. -/
def ecallRunEncryptedWasmKem : Sgx → Bfibe → RunEnv → RunArgs → Proc Event RunState Unit :=
  runEncryptedWasm .kem

end Worker
end AsynCS
