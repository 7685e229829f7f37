import AsynCS.Worker.Machine
import AsynCS.WorkerApp.Invoke
import AsynCS.WorkerApp.KmsClient

/-!
# The `invoke` command

`do_invoke` gets the keys for an FID from the KMS, unless the enclave has keys for it, reads the
files of the command, calls a run ECALL, and prints the result.

* `generateQuote`, `exchangeKeys`, `keyPath`: the key path.
* `readFiles`, `readCommandFiles`: the files, with the line that reports a bad one.
* `HostEvent`, `HostEvent.stdout`: what is written to the two output streams, which are unbuffered
  and end in one pipe.
* `keyPathLines`, `resultLines`, `doInvoke`: the command.

What `generate_quote` and `connect_to_kms` print, their ECALLs included, is one text of the
environment.
-/

namespace AsynCS
namespace WorkerApp

open Worker Proc

/-! ## The platform -/

/-- The platform during `generate_quote`. -/
structure QuoteEnv where
  /-- `SGX_MODE_SIM` -/
  simulation : Bool
  /-- the status of `sgx_qe_get_target_info` -/
  targetInfo : ℕ
  allowDummyQuote : Bool
  malloc : Bool
  reportCall : Bool
  report : ReportEnv
  quoteSize : Bool
  getQuote : Bool

/-- The platform during one `do_invoke`. -/
structure InvokeEnv where
  hasKeyCall : Bool
  quote : QuoteEnv
  quoteText : Bytes
  /-- the network during an exchange for an FID and a label -/
  net : CStr → CStr → KmsNet
  unwrap : UnwrapEnv
  unwrapLabel : UnwrapEnv
  load : LoadEnv
  /-- `read_file_to_buffer` -/
  file : CStr → Option Bytes
  /-- the status of the run ECALL, 0 when it enters the enclave -/
  runStatus : ℕ
  run : RunEnv
  /-- `EC_POINT_oct2point` and `EC_POINT_is_on_curve` -/
  isOnCurve : Bytes → Bool
  /-- the clock readings and durations, by the names under which they are printed -/
  number : String → ℕ
  tscHz : UInt64
  calibrated : Bool

/-! ## The key path -/

/-- What `generate_quote` does before it connects. -/
inductive QuoteOutcome where
  /-- `exit(2)` -/
  | exits
  | fails (g : Globals)
  | ready (g : Globals)

/-- `generate_quote` up to `connect_to_kms`.  A dummy quote and a simulated one go on without a
look at the status of `ecall_create_report`. -/
def generateQuote (env : QuoteEnv) (g : Globals) : QuoteOutcome :=
  let reported := if env.reportCall then (ecallCreateReport env.report g).state else g
  if env.simulation then
    if env.malloc then .ready reported else .fails g
  else if env.targetInfo ≠ 0 then
    if env.targetInfo = 0xe019 ∨ env.targetInfo = 0xe00d then
      if !env.allowDummyQuote then .exits
      else if env.malloc then .ready reported
      else .fails g
    else .exits
  else if !env.reportCall then .fails g
  else if !env.quoteSize || !env.malloc || !env.getQuote then .fails reported
  else .ready reported

/-- The ECALL that takes what the KMS sent. -/
def Handed.proc (S : Sgx) (env : InvokeEnv) (fid : CStr) : Handed → Proc Event Globals Unit
  | .bfibeKeyRelease release => ecallLoadBfibeKeyRelease S env.load release (some fid)
  | .keysBatch dkf dklabel => ecallDecryptKeysBatch S env.unwrap env.unwrapLabel dkf dklabel fid
  | .key blob => ecallDecryptKey S env.unwrap blob fid

/-- What the key path of a command does: whether the KMS was asked, what it sent, whether the
enclave loaded it, and the durations. -/
structure KeyPath where
  contacted : Bool
  exited : Bool
  handed : Option Handed
  completed : Bool
  timing : KmsTimingTrailer
  deriving DecidableEq

/-- A key path without keys from the KMS. -/
def KeyPath.without (contacted exited : Bool) : KeyPath :=
  ⟨contacted, exited, none, false, KmsTimingTrailer.zero⟩

/-- `connect_to_kms` with the ECALL that takes the keys. -/
def exchangeKeys (S : Sgx) (env : InvokeEnv) (fid label : CStr) (g : Globals) :
    Globals × KeyPath :=
  let exchange := connectToKms (env.net fid label)
  match exchange.handed with
  | none => (g, ⟨true, false, none, false, exchange.timing⟩)
  | some handed =>
    let o := handed.proc S env fid g
    (o.state, ⟨true, false, some handed, o.value.isSome, exchange.timing⟩)

/-- The KMS is skipped: the caller allows it and `ecall_has_key` returned 1. -/
def skipsKms (env : InvokeEnv) (allowKmsCache : Bool) (fid : CStr) (g : Globals) : Bool :=
  allowKmsCache && env.hasKeyCall && ecallHasKey g fid == 1

/-- The key path of `do_invoke`. -/
def keyPath (S : Sgx) (env : InvokeEnv) (allowKmsCache : Bool) (fid label : CStr) (g : Globals) :
    Globals × KeyPath :=
  if skipsKms env allowKmsCache fid g then (g, KeyPath.without false false)
  else
    match generateQuote env.quote g with
    | .exits => (g, KeyPath.without true true)
    | .fails g' => (g', KeyPath.without true false)
    | .ready g' => exchangeKeys S env fid label g'

/-! ## The files -/

/-- The line about a file that cannot be read. -/
def InvokeFile.missing (name : CStr) : InvokeFile → Bytes
  | .wasm => ascii "Failed to read WASM file: " ++ name.bytes
  | .input => ascii "Failed to read Input file: " ++ name.bytes
  | .cKFunc =>
    ascii "Invalid C_k_func file: " ++ name.bytes ++ ascii " (expected epk65||iv12||tag16||ct)"
  | .cKey => ascii "Invalid C_key file: " ++ name.bytes ++ ascii " (expected epk65||iv12||tag16||ct)"
  | .pkU =>
    ascii "Invalid pkU file: " ++ name.bytes ++ ascii " (expected 65 bytes uncompressed P-256 key)"
  | .nonce => ascii "Invalid nonce file: " ++ name.bytes ++ ascii " (expected 16 bytes)"

/-- The line about a file of the wrong size. -/
def InvokeFile.refused (name : CStr) : InvokeFile → Bytes
  | .wasm => ascii "Invalid Encrypted WASM file size."
  | .input => ascii "Invalid Encrypted Input file size."
  | f => f.missing name

/-- Read one file. -/
def readFile (env : InvokeEnv) (f : InvokeFile) (name : CStr) : Except Bytes Bytes :=
  match env.file name with
  | none => .error (f.missing name)
  | some content => if f.accepts content then .ok content else .error (f.refused name)

/-- Read the files in order, up to a bad one. -/
def readFiles (env : InvokeEnv) : List (InvokeFile × CStr) → Except Bytes (InvokeFile → Bytes)
  | [] => .ok fun _ => []
  | (f, name) :: plan => do
    let content ← readFile env f name
    let rest ← readFiles env plan
    return Function.update rest f content

/-- The line about a command that names only one of the last two files. -/
def pairText : Bytes :=
  ascii "If providing pkU/nonce, both pkU_file and nonce_file must be provided."

/-- Read the files of a command.  Whether it names both of the last two, or neither, is looked at
when the others are read. -/
def readCommandFiles (env : InvokeEnv) (args : InvokeArgs) : Except Bytes (InvokeFile → Bytes) :=
  if namesOne args then do
    let _ ← readFiles env (basePlan args)
    .error pairText
  else readFiles env (readPlan args)

/-- The files of a command are read when all of them are good and it names both of the last two, or
neither. -/
theorem readCommandFiles_eq_ok_iff {env : InvokeEnv} {args : InvokeArgs}
    {content : InvokeFile → Bytes} :
    readCommandFiles env args = .ok content ↔
      namesOne args = false ∧ readFiles env (readPlan args) = .ok content := by
  unfold readCommandFiles
  split
  · rename_i hone
    constructor
    · intro h
      cases hread : readFiles env (basePlan args) <;> rw [hread] at h <;> cases h
    · rintro ⟨h, -⟩
      rw [h] at hone
      cases hone
  · rename_i hone
    exact ⟨fun h => ⟨Bool.eq_false_of_not_eq_true hone, h⟩, fun h => h.2⟩

/-! ## Output -/

/-- What is written to the output streams. -/
inductive HostEvent where
  /-- a line of the host -/
  | line (text : Bytes)
  /-- the text of a key exchange -/
  | exchange (text : Bytes)
  /-- an event of an ECALL -/
  | enclave (e : Event)
  deriving DecidableEq

/-- The bytes of an event; of the enclave's, `ocall_print` writes to `stderr`, and `ocall_writev`
to the descriptor that the program names. -/
def HostEvent.stdout : HostEvent → Bytes
  | line text => text ++ [10]
  | exchange text => text
  | enclave (.ocallPrint message) => message
  | enclave (.ocallWritev fd data) => if fd = 1 ∨ fd = 2 then data else []
  | enclave _ => []

/-- A marker line. -/
def marker (key : String) (value : Bytes) : HostEvent := .line (ascii key ++ ascii ":" ++ value)

/-- A marker line with a number. -/
def numberMarker (key : String) (n : ℕ) : HostEvent := marker key (decimal n)

/-- `name=value` pairs, with blanks between. -/
def pairs (l : List (String × ℕ)) : Bytes :=
  List.intercalate [32] (l.map fun p => ascii p.1 ++ ascii "=" ++ decimal p.2)

/-- The lines before the key exchange. -/
def cacheLines (contacted : Bool) : List HostEvent :=
  [numberMarker "ENCLAVE_KEY_CACHE_HIT" (!contacted).toNat,
    numberMarker "KMS_CONTACTED" contacted.toNat]

/-- The lines behind the key exchange. -/
def keyPathLines (env : InvokeEnv) (timing : KmsTimingTrailer) : List HostEvent :=
  ["T_KEYPATH_BEGIN_NS", "T_KEYPATH_END_NS", "WORKER_KEYPATH_DUR_NS",
      "WORKER_WAIT_KMS_DUR_NS"].map (fun key => numberMarker key (env.number key)) ++
    [numberMarker "KMS_VERIFY_DUR_NS" timing.verifyDurNs.toNat,
      numberMarker "KMS_KEY_RELEASE_DUR_NS" timing.keyReleaseDurNs.toNat,
      numberMarker "KMS_TOTAL_DUR_NS" timing.totalDurNs.toNat] ++
    ["QUOTE_GEN_DUR_NS", "T_KMS_SEND_MONO_NS", "T_KMS_RECV_MONO_NS"].map fun key =>
      numberMarker key (env.number key)

/-- The phases in the order of the timing line. -/
def tracePhases : List TracePhase :=
  [.inputKeyDecap, .inputAesGcm, .workload, .outputKem, .outputAesGcm, .functionKeyDecap,
    .cfuncAesGcm, .wasmLoad, .wasmInstantiate]

/-- The name of a phase in the timing line. -/
def phaseName : TracePhase → String
  | .inputKeyDecap => "input_key_decap"
  | .inputAesGcm => "input_aes_gcm"
  | .workload => "workload"
  | .outputKem => "output_kem"
  | .outputAesGcm => "output_aes_gcm"
  | .functionKeyDecap => "function_key_decap"
  | .cfuncAesGcm => "cfunc_aes_gcm"
  | .wasmLoad => "wasm_load"
  | .wasmInstantiate => "wasm_instantiate"

/-- The name of the length of a phase. -/
def phaseLength (p : TracePhase) : String :=
  if p = .workload then "workload_core" else phaseName p

/-- `c1_cycles_to_ns` -/
def c1CyclesToNs (cycles hz : UInt64) : ℕ :=
  if hz = 0 then 0 else cycles.toNat * 1000000000 / hz.toNat % 2 ^ 64

/-- `g_c1_tsc_frequency_method` -/
def tscFrequencyMethod (env : InvokeEnv) : String :=
  if env.tscHz = 0 then "unavailable"
  else if env.calibrated then "calibrated_monotonic_raw_20ms"
  else "cpuid_0x15_crystal"

/-- The line with the timestamps of a trace. -/
def internalTimingLine (env : InvokeEnv) (t : InvokeTrace) : HostEvent :=
  marker "ACSC_TRACE_INTERNAL_TIMING"
    (ascii "workload_timing_schema=enclave-rdtsc-v1 " ++
      pairs (tracePhases.flatMap fun p =>
          [(phaseName p ++ "_begin_cycles", (t.phases p).beginCycles.toNat),
            (phaseName p ++ "_end_cycles", (t.phases p).endCycles.toNat)]) ++ [32] ++
      pairs (tracePhases.map fun p => (phaseLength p ++ "_cycles", (t.phases p).cycles.toNat)) ++
      [32] ++ pairs [("tsc_hz", env.tscHz.toNat)] ++ ascii " tsc_frequency_method=" ++
      ascii (tscFrequencyMethod env) ++ [32] ++
      pairs (tracePhases.map fun p =>
        (phaseLength p ++ "_duration_ns", c1CyclesToNs (t.phases p).cycles env.tscHz)))

/-- The lines of a `kem` run about its trace. -/
def traceLines (env : InvokeEnv) (t : InvokeTrace) : List HostEvent :=
  [marker "RID_HEX" (hexEncode t.rid.toList),
    marker "ACSC_TRACE_E3_PAYLOAD" (pairs [("payload_bytes_consumed", t.payloadBytesConsumed)] ++
      ascii " payload_sha256=" ++ hexEncode t.payloadSha256.toList),
    marker "ACSC_TRACE_FUNCTION_CACHE" (pairs
      [("function_cache_hit", (decide (TraceFlag.functionCacheHit ∈ t.flags)).toNat),
        ("cfunc_decrypt_executed", (decide (TraceFlag.cfuncDecryptExecuted ∈ t.flags)).toNat),
        ("function_cache_bytes", t.functionCacheBytes)]),
    internalTimingLine env t]

/-- The line that sums up a command that ran. -/
def invokeLine (env : InvokeEnv) (args : RunArgs) (key : KeyPath) (resultSize : ℕ) : HostEvent :=
  marker "ACSC_TRACE_WORKER_INVOKE" (pairs
    [("key_cache_hit", (!key.contacted).toNat), ("kms_contacted", key.contacted.toNat),
      ("keypath_dur_ns", env.number "WORKER_KEYPATH_DUR_NS"),
      ("kms_wait_dur_ns", env.number "WORKER_WAIT_KMS_DUR_NS"),
      ("kms_verify_dur_ns", key.timing.verifyDurNs.toNat),
      ("kms_key_release_dur_ns", key.timing.keyReleaseDurNs.toNat),
      ("kms_total_dur_ns", key.timing.totalDurNs.toNat),
      ("quote_gen_dur_ns", env.number "QUOTE_GEN_DUR_NS"),
      ("exec_ecall_dur_ns", env.number "WORKER_EXEC_DUR_NS"),
      ("invoke_total_dur_ns", env.number "WORKER_INVOKE_DUR_NS"),
      ("wasm_bytes", args.encryptedWasm.length), ("input_bytes", args.encryptedInput.length),
      ("result_bytes", resultSize), ("output_capacity_bytes", args.maxOutSize), ("rc", 0)])

/-- The lines of a command that ran. -/
def resultLines (env : InvokeEnv) (kind : RunKind) (args : RunArgs) (key : KeyPath)
    (out : RunOut) : List HostEvent :=
  (if kind = .kem then traceLines env out.trace else []) ++
    ["T_EXEC_BEGIN_NS", "T_EXEC_END_NS", "T_EXEC_BEGIN_MONO_NS", "T_EXEC_END_MONO_NS",
      "WORKER_EXEC_DUR_NS", "WORKER_INVOKE_DUR_NS"].map
        (fun name => numberMarker name (env.number name)) ++
    [invokeLine env args key out.resultSize,
      .line (ascii "Encrypted Result Size: " ++ decimal out.resultSize)] ++
    (if kind = .kem then [marker "CT_HEX" (hexEncode out.kemCt.toList)] else []) ++
    [marker "RESULT_HEX" (hexEncode (out.resultIv.toList ++ out.resultTag.toList ++
        out.encryptedResult.take out.resultSize)),
      .line (ascii "Loop finished.")]

/-! ## The command -/

/-- `C1_TRACE_REQUIRED_FLAGS` -/
def c1TraceRequiredFlags : Finset TraceFlag :=
  {.ridValid, .payloadValid, .cyclesValid .workload, .cyclesValid .outputKem,
    .cyclesValid .outputAesGcm, .functionCacheValid, .success}

/-- The value of `flags`. -/
def flagsValue (flags : Finset TraceFlag) : ℕ := ∑ f ∈ flags, 2 ^ f.bit

/-- `is_valid_p256_point_be` -/
def isValidP256PointBe (env : InvokeEnv) (pt : Block 65) : Bool :=
  pt.toList.take 1 == [4] && (pt.toList.drop 1).any (· != 0) && env.isOnCurve pt.toList

/-- The reason to refuse what a run returned. -/
def refusal (env : InvokeEnv) (kind : RunKind) (out : RunOut) : Option HostEvent :=
  if kind = .legacy then none
  else if !isValidP256PointBe env out.kemCt then
    some (.line (ascii "Invalid kem_ct produced by enclave (rejecting)."))
  else if out.trace.version ≠ 1 ∨ ¬ c1TraceRequiredFlags ⊆ out.trace.flags then
    some (.line (ascii "Incomplete bounded invocation trace: version=" ++
      decimal out.trace.version ++ ascii " flags=0x" ++ hexadecimal (flagsValue out.trace.flags) ++
      ascii " required=0x" ++ hexadecimal (flagsValue c1TraceRequiredFlags)))
  else none

/-- The name of a run ECALL. -/
def ecallName : RunKind → String
  | .legacy => "ecall_run_encrypted_wasm"
  | .kem => "ecall_run_encrypted_wasm_kem"

/-- What a command leaves: the enclave, what happened on the key path, the run when it came to
one, the return value, and what was printed.  A key path that exits ends the process, and then
there is no return value. -/
structure InvokeOutcome where
  enclave : Globals
  key : KeyPath
  ran : Option (RunKind × RunArgs)
  rc : Option Int
  printed : List HostEvent

/-- The run ECALL of a command and the lines about it. -/
def runFiles (S : Sgx) (B : Bfibe) (env : InvokeEnv) (key : KeyPath) (kind : RunKind)
    (args : RunArgs) (g : Globals) : Globals × Int × List HostEvent :=
  if env.runStatus ≠ 0 then
    (g, -1, [.line (ascii (ecallName kind) ++ ascii " failed: 0x" ++ hexadecimal env.runStatus)])
  else
    let o := runEncryptedWasm kind S B env.run args (RunState.start g)
    match refusal env kind o.state.out with
    | some line => (o.state.worker, -1, o.log.map .enclave ++ [line])
    | none => (o.state.worker, 0, o.log.map .enclave ++ resultLines env kind args key o.state.out)

/-- `do_invoke`. -/
def doInvoke (S : Sgx) (B : Bfibe) (env : InvokeEnv) (allowKmsCache : Bool) (args : InvokeArgs)
    (g : Globals) : InvokeOutcome :=
  let path := keyPath S env allowKmsCache (CStr.ofBuffer args.fid) (CStr.ofBuffer args.label) g
  let key := path.2
  let asked := cacheLines key.contacted ++ if key.contacted then [.exchange env.quoteText] else []
  if key.exited then ⟨path.1, key, none, none, asked⟩
  else
    let before := asked ++ keyPathLines env key.timing
    match readCommandFiles env args with
    | .error line => ⟨path.1, key, none, some (-1), before ++ [.line line]⟩
    | .ok content =>
      let kind := runKind args
      let r := runFiles S B env key kind (runArgs args content) path.1
      ⟨r.1, key, some (kind, runArgs args content), some r.2.1, before ++ r.2.2⟩

end WorkerApp
end AsynCS
