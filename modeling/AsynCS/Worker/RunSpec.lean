import AsynCS.Worker.Run

/-!
# What a run needs to execute its module, and what it leaves

Both run ECALLs at once, as `Run` models them.

* `Quiet p`: a part of a run that leaves the globals as they are, executes nothing, and opens no
  empty ciphertext.  There is one `quiet_`, one `value_` and sometimes one `worker_` lemma for
  each part of `Run`.
* `ridOf`, `labelKey`, `packageModule`, `moduleOf`, `requestInput`, `payloadRecorded`: what the
  parts compute, without prints and trace.
* `Admits`: everything that a run asks of its request before it executes, as a structure with a
  field for each check; `value_admitRequest_eq_some_iff`.
* `AllowsRun R`: a relation between globals that every change of a run respects;
  `onWorker_runEncryptedWasm`, and `keepsSlots_runEncryptedWasm` for what a run keeps.
* `Executes`: the run executes this module on this argument.  `executes_iff` says when.
-/

namespace AsynCS
namespace Worker

open Proc

variable {S : Sgx} {B : Bfibe}

/-! ## Frames -/

/-- The event does not open an empty ciphertext. -/
def Event.OpensNothingEmpty (e : Event) : Prop :=
  ∀ key iv aad tag plaintext, e ≠ .gcmDecrypt key iv aad [] tag plaintext

/-- The event is no execution, and does not open an empty ciphertext. -/
structure Event.Routine (e : Event) : Prop where
  notExecute : ∀ wasm argument, e ≠ .executeMain wasm argument
  opensNothingEmpty : e.OpensNothingEmpty

/-- A part of a run that leaves the globals as they are, executes nothing, and opens no empty
ciphertext. -/
abbrev Quiet {α : Type} (p : Proc Event RunState α) : Prop :=
  Frame (Keeps RunState.worker) Event.Routine p

theorem Event.routine_ocallPrint (message : Bytes) : (Event.ocallPrint message).Routine :=
  ⟨fun _ _ => by simp, fun _ _ _ _ _ => by simp⟩

theorem quiet_of_prints {α : Type} {p : Proc Event RunState α} (hp : Frame Eq Event.IsPrint p) :
    Quiet p := by
  refine hp.mono (fun s s' h => h ▸ rfl) fun e he => ?_
  obtain ⟨message, rfl⟩ := he
  exact Event.routine_ocallPrint message

theorem quiet_enclavePrint (message : Bytes) : Quiet (enclavePrint message) :=
  quiet_of_prints (frame_enclavePrint message)

theorem quiet_enclavePrintLit (message : String) : Quiet (enclavePrintLit message) :=
  quiet_of_prints (frame_enclavePrintLit message)

theorem quiet_orReport {α : Type} (r : Except (List String) α) : Quiet (orReport r) :=
  quiet_of_prints (frame_orReport r)

theorem quiet_whenLegacy {kind : RunKind} {p : Proc Event RunState Unit} (hp : Quiet p) :
    Quiet (whenLegacy kind p) := by
  cases kind with
  | legacy => exact hp
  | kem => exact Frame.pure ()

theorem quiet_trace (kind : RunKind) (f : InvokeTrace → InvokeTrace) : Quiet (trace kind f) := by
  cases kind with
  | legacy => exact Frame.pure ()
  | kem => exact Frame.modify fun _ => rfl

theorem quiet_forM_print (data : Bytes) :
    Quiet (data.forM fun b => enclavePrint (hexEncode [b])) := by
  induction data with
  | nil => exact Frame.pure ()
  | cons b data ih => exact (quiet_enclavePrint _).bind fun _ => ih

theorem quiet_printHexPrefixed (text : String) (data : Bytes) :
    Quiet (printHexPrefixed text data) :=
  (quiet_enclavePrintLit text).bind fun _ =>
    (quiet_forM_print data).bind fun _ => quiet_enclavePrintLit _

theorem quiet_gcmOpen (ok : Bool) (key : Block 32) (iv : Block 12) (aad : Bytes)
    {ciphertext : Bytes} (hne : ciphertext ≠ []) (tag : Block 16) :
    Quiet (gcmOpen S ok key iv aad ciphertext tag) := by
  refine (Frame.emit ⟨fun _ _ => by simp, fun _ _ _ _ _ h => ?_⟩).bind fun _ => Frame.pure _
  rw [Event.gcmDecrypt.injEq] at h
  exact hne h.2.2.2.1

theorem quiet_requireLoadedKeys (g : Globals) (args : RunArgs) :
    Quiet (requireLoadedKeys g args) :=
  (Frame.require (quiet_enclavePrintLit _)).bind fun _ =>
    Frame.require (quiet_enclavePrintLit _)

theorem quiet_computeRid (kind : RunKind) (env : RunEnv) (args : RunArgs) (fid : CStr) :
    Quiet (computeRid kind S env args fid) := by
  unfold computeRid
  split
  · exact (quiet_whenLegacy (quiet_printHexPrefixed _ _)).bind fun _ =>
      (quiet_trace _ _).bind fun _ => Frame.pure _
  · refine (quiet_enclavePrintLit _).bind fun _ => ?_
    cases kind with
    | legacy => exact Frame.pure _
    | kem => exact Frame.stop

theorem quiet_orDecKeyFailed (name : String) (key : Except (List String) (Block 32)) :
    Quiet (orDecKeyFailed name key) :=
  quiet_orReport _

theorem quiet_decapRequestKey (kind : RunKind) (env : RunEnv) (args : RunArgs)
    (aadReq : Bytes) : Quiet (decapRequestKey kind S B env args aadReq) :=
  (quiet_trace _ _).bind fun _ => Frame.get.bind fun _ =>
    (quiet_orDecKeyFailed _ _).bind fun _ => (quiet_trace _ _).bind fun _ =>
      (quiet_trace _ _).bind fun _ => Frame.pure _

theorem quiet_printDebugDecryption (env : RunEnv) (args : RunArgs) :
    Quiet (printDebugDecryption env args) := by
  have hline : ∀ name data, Quiet (printDebugBytes name data) := fun _ _ => quiet_enclavePrint _
  exact (quiet_enclavePrintLit _).bind fun _ => Frame.get.bind fun _ =>
    (Frame.onlyIf (hline _ _)).bind fun _ => (hline _ _).bind fun _ =>
      (hline _ _).bind fun _ => hline _ _

theorem quiet_decryptFunction (kind : RunKind) (env : RunEnv) {args : RunArgs}
    (hne : args.encryptedWasm ≠ []) (aadPkg : Bytes) (kFunc : Block 32) :
    Quiet (decryptFunction kind S env args aadPkg kFunc) :=
  (Frame.require (quiet_enclavePrintLit _)).bind fun _ =>
    (quiet_whenLegacy (quiet_printDebugDecryption env args)).bind fun _ =>
      (quiet_trace _ _).bind fun _ => (quiet_gcmOpen _ _ _ _ hne _).bind fun _ =>
        (quiet_trace _ _).bind fun _ => (Frame.orStop (quiet_enclavePrint _)).bind fun _ =>
          (quiet_trace _ _).bind fun _ =>
            (quiet_whenLegacy (quiet_enclavePrintLit _)).bind fun _ => Frame.pure _

theorem quiet_decryptInput (kind : RunKind) (env : RunEnv) (args : RunArgs) (aadReq : Bytes)
    (kReq : Block 32) : Quiet (decryptInput kind S env args aadReq kReq) := by
  unfold decryptInput
  split
  · exact Frame.pure _
  · rename_i hne
    exact (Frame.require (quiet_enclavePrintLit _)).bind fun _ => (quiet_trace _ _).bind fun _ =>
      (quiet_gcmOpen _ _ _ _ hne _).bind fun _ => (quiet_trace _ _).bind fun _ =>
        (Frame.orStop (quiet_enclavePrintLit _)).bind fun _ => (quiet_trace _ _).bind fun _ =>
          (quiet_whenLegacy (quiet_enclavePrintLit _)).bind fun _ => Frame.pure _

theorem quiet_recordPayload (kind : RunKind) (env : RunEnv) (args : RunArgs)
    (input hit : Option Bytes) (wasm : Bytes) :
    Quiet (recordPayload kind S env args input hit wasm) := by
  cases kind with
  | legacy =>
    refine Frame.bind ?_ fun _ => quiet_enclavePrint _
    unfold traceE3PayloadConsumed
    split
    · exact quiet_enclavePrint _
    · exact quiet_enclavePrintLit _
  | kem =>
    refine ((Frame.orStop (quiet_enclavePrintLit _)).bind fun _ => quiet_trace _ _).bind
      fun _ => (quiet_trace _ _).bind fun _ => ?_
    exact Frame.ite (quiet_trace _ _) (quiet_trace _ _)

/-! ## Values -/

theorem Quiet.worker {α : Type} {p : Proc Event RunState α} (hp : Quiet p) (s : RunState) :
    (p s).state.worker = s.worker :=
  hp.state s

@[simp] theorem value_enclavePrint (message : Bytes) (s : RunState) :
    (enclavePrint message s).value = some () := rfl

@[simp] theorem value_enclavePrintLit (message : String) (s : RunState) :
    (enclavePrintLit message s).value = some () := rfl

@[simp] theorem value_trace (kind : RunKind) (f : InvokeTrace → InvokeTrace) (s : RunState) :
    (trace kind f s).value = some () := by
  cases kind <;> rfl

@[simp] theorem worker_trace (kind : RunKind) (f : InvokeTrace → InvokeTrace) (s : RunState) :
    (trace kind f s).state.worker = s.worker := by
  cases kind <;> rfl

theorem value_forM_print (data : Bytes) (s : RunState) :
    (data.forM (fun b => enclavePrint (hexEncode [b])) s : Outcome Event RunState _).value =
      some () := by
  induction data generalizing s with
  | nil => rfl
  | cons b data ih =>
    show ((enclavePrint (hexEncode [b]) >>= fun _ =>
      data.forM fun b => enclavePrint (hexEncode [b])) s : Outcome Event RunState _).value = _
    rw [value_bind]
    exact ih s

@[simp] theorem value_printHexPrefixed (text : String) (data : Bytes) (s : RunState) :
    (printHexPrefixed text data s).value = some () := by
  simp only [printHexPrefixed, value_bind, value_enclavePrintLit, value_forM_print,
    Option.bind_some]

theorem value_whenLegacy (kind : RunKind) {p : Proc Event RunState Unit} {s : RunState}
    (hp : (p s).value = some ()) : (whenLegacy kind p s).value = some () := by
  cases kind with
  | legacy => exact hp
  | kem => rfl

/-- The RID that a run goes on with. -/
def ridOf (kind : RunKind) (S : Sgx) (env : RunEnv) (args : RunArgs) (fid : CStr) :
    Option (Block 32) :=
  match computeRidFromFidAndCReq S (env.ok .ridMalloc) (env.ok .ridHash) fid args.cReq, kind with
  | some rid, _ => some rid
  | none, .legacy => some env.ridStack
  | none, .kem => none

@[simp] theorem value_computeRid (kind : RunKind) (env : RunEnv) (args : RunArgs) (fid : CStr)
    (s : RunState) : (computeRid kind S env args fid s).value = ridOf kind S env args fid := by
  unfold computeRid ridOf
  cases computeRidFromFidAndCReq S (env.ok .ridMalloc) (env.ok .ridHash) fid args.cReq with
  | some rid =>
    simp only [value_bind, value_whenLegacy kind (value_printHexPrefixed _ _ s), Option.bind_some,
      value_trace]
    rfl
  | none => cases kind <;> rfl

@[simp] theorem value_orDecKeyFailed (name : String) (key : Except (List String) (Block 32))
    (s : RunState) : (orDecKeyFailed name key s).value = key.toOption := by
  rw [orDecKeyFailed, value_orReport]
  cases key <;> rfl

@[simp] theorem value_decapRequestKey (kind : RunKind) (env : RunEnv) (args : RunArgs)
    (aadReq : Bytes) (s : RunState) :
    (decapRequestKey kind S B env args aadReq s).value =
      (requestKey S B env s.worker args aadReq).toOption := by
  simp only [decapRequestKey, value_bind, value_trace, Option.bind_some, value_get, state_get,
    worker_trace, value_orDecKeyFailed]
  cases requestKey S B env s.worker args aadReq <;> rfl

@[simp] theorem value_gcmOpen (ok : Bool) (key : Block 32) (iv : Block 12)
    (aad ciphertext : Bytes) (tag : Block 16) (s : RunState) :
    (gcmOpen S ok key iv aad ciphertext tag s).value =
      some (if ok then S.gcmDecrypt (key.first 16) iv aad ciphertext tag else none) := rfl

/-- The plaintext of a package under `k_func`. -/
def packagePlaintext (S : Sgx) (env : RunEnv) (args : RunArgs) (aadPkg : Bytes)
    (kFunc : Block 32) : Option Bytes :=
  if env.ok .wasmMalloc && env.ok .wasmDecrypt then
    S.gcmDecrypt (kFunc.first 16) args.wasmIv aadPkg args.encryptedWasm args.wasmMac
  else none

theorem value_printDebugDecryption (env : RunEnv) (args : RunArgs) (s : RunState) :
    (printDebugDecryption env args s).value = some () := by
  unfold printDebugDecryption
  cases args.useBfibeKeys <;> rfl

@[simp] theorem value_decryptFunction (kind : RunKind) (env : RunEnv) (args : RunArgs)
    (aadPkg : Bytes) (kFunc : Block 32) (s : RunState) :
    (decryptFunction kind S env args aadPkg kFunc s).value =
      packagePlaintext S env args aadPkg kFunc := by
  simp only [decryptFunction, value_bind, value_require, value_trace, value_gcmOpen,
    Option.bind_some, value_orStop, packagePlaintext,
    fun s => value_whenLegacy kind (value_printDebugDecryption env args s),
    fun s => value_whenLegacy kind (value_enclavePrintLit
      "Decryption succeeded. Running WASM...\n" s), value_pure]
  cases env.ok .wasmMalloc <;> cases env.ok .wasmDecrypt <;> simp

/-- The plaintext of a request under `k_req`; an empty request is not decrypted. -/
def requestInput (S : Sgx) (env : RunEnv) (args : RunArgs) (aadReq : Bytes) (kReq : Block 32) :
    Option (Option Bytes) :=
  if args.encryptedInput = [] then some none
  else if env.ok .inputMalloc && env.ok .inputDecrypt then
    (S.gcmDecrypt (kReq.first 16) args.inputIv aadReq args.encryptedInput args.inputMac).map some
  else none

@[simp] theorem value_decryptInput (kind : RunKind) (env : RunEnv) (args : RunArgs)
    (aadReq : Bytes) (kReq : Block 32) (s : RunState) :
    (decryptInput kind S env args aadReq kReq s).value =
      requestInput S env args aadReq kReq := by
  unfold decryptInput requestInput
  split
  · rfl
  · simp only [value_bind, value_require, value_trace, value_gcmOpen, Option.bind_some,
      value_orStop, fun s => value_whenLegacy kind (value_enclavePrintLit
        "Input Decryption succeeded.\n" s), value_pure]
    cases env.ok .inputMalloc <;> cases env.ok .inputDecrypt <;>
      simp [Option.map_eq_bind]

/-- A `kem` run records its payload only when there is one. -/
def payloadRecorded (kind : RunKind) (env : RunEnv) (input : Option Bytes) : Bool :=
  kind == .legacy || (input.isSome && env.ok .payloadHash)

@[simp] theorem value_recordPayload (kind : RunKind) (env : RunEnv) (args : RunArgs)
    (input hit : Option Bytes) (wasm : Bytes) (s : RunState) :
    (recordPayload kind S env args input hit wasm s).value =
      if payloadRecorded kind env input then some () else none := by
  cases kind with
  | legacy =>
    have hpayload : (traceE3PayloadConsumed S env args input s).value = some () := by
      unfold traceE3PayloadConsumed
      cases sha256Hex S (env.ok .payloadHash) input <;> rfl
    simp only [recordPayload, value_bind, hpayload, Option.bind_some, value_enclavePrint]
    rfl
  | kem =>
    simp only [recordPayload, captureE3PayloadEvidence, value_bind, value_orStop, value_trace]
    cases input with
    | none => rfl
    | some data =>
      cases hh : env.ok .payloadHash <;> cases hit <;>
        simp [Sgx.sha256Msg, payloadRecorded, hh]

/-- The label key of the cold path. -/
def labelKey (S : Sgx) (env : RunEnv) (args : RunArgs) (ecc : EccSlot) (label : Block 32) :
    Option (Block 32) :=
  if args.useBfibeKeys then some (Block.fill 32 0)
  else if ecc.dklabelFromKms then some ecc.workerDklabel
  else deriveDklabelfunc S env ecc.workerKey label

/-- What the preparation of the label key gives and leaves. -/
theorem gives_prepareLabelKey (env : RunEnv) (args : RunArgs) (label : Block 32) (s : RunState) :
    (prepareLabelKey S env args label s).value =
        (labelKey S env args s.worker.ecc label).map (fun _ => ()) ∧
      (prepareLabelKey S env args label s).state.worker =
        match labelKey S env args s.worker.ecc label with
        | some key => s.worker.setDklabelFunc key
        | none => s.worker := by
  simp only [prepareLabelKey, labelKey, value_bind, state_bind, value_get, state_get,
    Option.bind_some]
  cases args.useBfibeKeys with
  | true => exact ⟨rfl, rfl⟩
  | false =>
    cases s.worker.ecc.dklabelFromKms with
    | true => exact ⟨rfl, rfl⟩
    | false =>
      simp only [Bool.false_eq_true, if_false]
      cases deriveDklabelfunc S env s.worker.ecc.workerKey label <;> exact ⟨rfl, rfl⟩

/-! ## Admission -/

@[simp] theorem worker_computeRid (kind : RunKind) (env : RunEnv) (args : RunArgs) (fid : CStr)
    (s : RunState) : (computeRid kind S env args fid s).state.worker = s.worker :=
  (quiet_computeRid kind env args fid).worker s

@[simp] theorem worker_orStop {α : Type} (o : Option α) (message : String) (s : RunState) :
    (orStop o (enclavePrintLit message) s).state.worker = s.worker :=
  Quiet.worker (Frame.orStop (quiet_enclavePrintLit message)) s

@[simp] theorem worker_require (c : Bool) (message : String) (s : RunState) :
    (require c (enclavePrintLit message) s).state.worker = s.worker :=
  Quiet.worker (Frame.require (quiet_enclavePrintLit message)) s

@[simp] theorem worker_decapRequestKey (kind : RunKind) (env : RunEnv) (args : RunArgs)
    (aadReq : Bytes) (s : RunState) :
    (decapRequestKey kind S B env args aadReq s).state.worker = s.worker :=
  (quiet_decapRequestKey kind env args aadReq).worker s

/-- The request key does not depend on the label key. -/
@[simp] theorem requestKey_setDklabelFunc (env : RunEnv) (g : Globals) (key : Block 32)
    (args : RunArgs) (aadReq : Bytes) :
    requestKey S B env (g.setDklabelFunc key) args aadReq = requestKey S B env g args aadReq :=
  rfl

/-- The module of the cold path: that of the package, opened with the key in `C_k_func`. -/
def packageModule (S : Sgx) (B : Bfibe) (env : RunEnv) (args : RunArgs) (g : Globals)
    (label : Block 32) (aadPkg : Bytes) : Option Bytes := do
  let key ← labelKey S env args g.ecc label
  let kFunc ← (functionKey S B env (g.setDklabelFunc key) args aadPkg).toOption
  packagePlaintext S env args aadPkg kFunc

/-- The module that a run executes: the cached one, or that of the package. -/
def moduleOf (S : Sgx) (B : Bfibe) (env : RunEnv) (args : RunArgs) (g : Globals) (fid : CStr)
    (label : Block 32) (aadPkg : Bytes) : Option Bytes :=
  match g.functionCacheLookup fid label with
  | some wasm => some wasm
  | none => if args.cKFunc = [] then none else packageModule S B env args g label aadPkg

theorem value_loadFunction_none (kind : RunKind) (env : RunEnv) (args : RunArgs) (fid : CStr)
    (label : Block 32) (aadPkg : Bytes) (s : RunState) :
    (loadFunction kind S B env args fid label aadPkg none s).value =
      (functionKey S B env s.worker args aadPkg).toOption.bind
        (packagePlaintext S env args aadPkg) := by
  simp only [loadFunction, decapFunctionKey, value_bind, value_trace, Option.bind_some, value_get,
    state_get, worker_trace, value_orDecKeyFailed, value_modify, value_decryptFunction,
    storeFunction, value_pure]
  cases functionKey S B env s.worker args aadPkg with
  | error texts => rfl
  | ok kFunc => simp [Except.toOption]

/-- What opens a request: its key, the module and the input, on a hit. -/
theorem value_openRequest_hit {kind : RunKind} {env : RunEnv} {args : RunArgs} {fid : CStr}
    {aad : AadValues} {label : Block 32} {wasm : Bytes} {s : RunState} :
    (openRequest kind S B env args fid aad label (some wasm) s).value =
      (requestKey S B env s.worker args aad.req).toOption.bind fun kReq =>
        (requestInput S env args aad.req kReq).bind fun input =>
          if payloadRecorded kind env input then some ⟨aad.out, kReq, wasm, input⟩ else none := by
  refine (quiet_decapRequestKey kind env args aad.req).value_bind_eq
    (value_decapRequestKey kind env args aad.req s) fun kReq s₁ _ => ?_
  refine (quiet_decryptInput kind env args aad.req kReq).value_bind_eq
    (value_decryptInput kind env args aad.req kReq s₁) fun input s₂ _ => ?_
  rw [value_bind, value_recordPayload]
  cases payloadRecorded kind env input <;> rfl

/-- What opens a request on a miss: first the label key of the package. -/
theorem value_openRequest_miss {kind : RunKind} {env : RunEnv} {args : RunArgs} {fid : CStr}
    {aad : AadValues} {label : Block 32} {s : RunState} :
    (openRequest kind S B env args fid aad label none s).value =
      (labelKey S env args s.worker.ecc label).bind fun key =>
        (requestKey S B env s.worker args aad.req).toOption.bind fun kReq =>
          ((functionKey S B env (s.worker.setDklabelFunc key) args aad.pkg).toOption.bind
            (packagePlaintext S env args aad.pkg)).bind fun wasm =>
              (requestInput S env args aad.req kReq).bind fun input =>
                if payloadRecorded kind env input then some ⟨aad.out, kReq, wasm, input⟩
                else none := by
  obtain ⟨hvalue, hworker⟩ := gives_prepareLabelKey (S := S) env args label s
  unfold openRequest
  rw [Option.isNone_none, onlyIf_true, value_bind, hvalue]
  cases hkey : labelKey S env args s.worker.ecc label with
  | none => rfl
  | some key =>
    simp only [Option.map_some, Option.bind_some]
    rw [hkey] at hworker
    have hworker' : (prepareLabelKey S env args label s).state.worker =
        s.worker.setDklabelFunc key := hworker
    generalize (prepareLabelKey S env args label s).state = s₁ at hworker'
    have hreq : requestKey S B env s₁.worker args aad.req =
        requestKey S B env s.worker args aad.req := by
      rw [hworker', requestKey_setDklabelFunc]
    rw [← hreq, ← hworker']
    refine (quiet_decapRequestKey kind env args aad.req).value_bind_eq
      (value_decapRequestKey kind env args aad.req s₁) fun kReq s₂ h₂ => ?_
    rw [value_bind, value_loadFunction_none, show s₂.worker = s₁.worker from h₂]
    refine Option.bind_congr fun wasm _ => ?_
    refine (quiet_decryptInput kind env args aad.req kReq).value_bind_eq
      (value_decryptInput kind env args aad.req kReq _) fun input s₃ _ => ?_
    rw [value_bind, value_recordPayload]
    cases payloadRecorded kind env input <;> rfl

/-- What a run computes before it looks at a key ciphertext. -/
structure RunContext where
  rid : Block 32
  aad : AadValues
  label : Block 32

/-- The context of a run, when nothing fails. -/
def runContext (kind : RunKind) (S : Sgx) (env : RunEnv) (args : RunArgs) (fid : CStr) :
    Option RunContext := do
  let rid ← ridOf kind S env args fid
  let aad ← aadValues S env args fid rid
  let label ← computeLabelFromCfunc S (env.ok .labelHash) args.encryptedWasm
  some ⟨rid, aad, label⟩

/-- The associated data of a run are those of its FID, and its label is the hash of its
package. -/
theorem runContext_some {kind : RunKind} {env : RunEnv} {args : RunArgs} {fid : CStr}
    {c : RunContext} (h : runContext kind S env args fid = some c) :
    c.aad.pkg = aadPkg fid ∧ c.aad.req = aadReq S fid args.nonce args.pkU ∧
      c.aad.out = aadOut S fid c.rid args.pkU ∧ args.encryptedWasm ≠ [] ∧
      c.label = S.sha256 args.encryptedWasm := by
  simp only [runContext, aadValues, Option.bind_eq_bind, Option.bind_eq_some_iff,
    Option.some.injEq, buildAadPkg_eq_some_iff, buildAadReq_eq_some_iff, buildAadOut_eq_some_iff,
    computeLabelFromCfunc_eq_some_iff] at h
  obtain ⟨rid, -, aad, ⟨_, ⟨-, rfl⟩, _, ⟨-, rfl⟩, _, ⟨-, rfl⟩, rfl⟩, label, ⟨hne, -, rfl⟩, rfl⟩ := h
  exact ⟨rfl, rfl, rfl, hne, rfl⟩

/-- **An admitted request**: everything that a run asks for before it executes `m.wasm` on
`m.input`, in the globals that it starts from. -/
structure Admits (kind : RunKind) (S : Sgx) (B : Bfibe) (env : RunEnv) (args : RunArgs)
    (g : Globals) (fid : CStr) (c : RunContext) (m : Admitted) : Prop where
  context : runContext kind S env args fid = some c
  hasKey : args.cKey ≠ []
  requestKey : requestKey S B env g args c.aad.req = .ok m.kReq
  module : moduleOf S B env args g fid c.label c.aad.pkg = some m.wasm
  input : requestInput S env args c.aad.req m.kReq = some m.input
  payload : payloadRecorded kind env m.input = true
  aadOut : m.aadOut = c.aad.out

theorem toOption_eq_some_iff {ε α : Type} {r : Except ε α} {a : α} :
    r.toOption = some a ↔ r = .ok a := by
  cases r <;> simp [Except.toOption]

/-- What opens a request, behind the check of its key ciphertexts. -/
theorem value_openRequest_eq_some_iff {kind : RunKind} {env : RunEnv} {args : RunArgs}
    {fid : CStr} {aad : AadValues} {label : Block 32} {s : RunState} {m : Admitted} :
    ((args.cKey != [] && ((s.worker.functionCacheLookup fid label).isSome || args.cKFunc != [])) =
        true ∧
      (openRequest kind S B env args fid aad label (s.worker.functionCacheLookup fid label)
        s).value = some m) ↔
      args.cKey ≠ [] ∧ requestKey S B env s.worker args aad.req = .ok m.kReq ∧
        moduleOf S B env args s.worker fid label aad.pkg = some m.wasm ∧
        requestInput S env args aad.req m.kReq = some m.input ∧
        payloadRecorded kind env m.input = true ∧ m.aadOut = aad.out := by
  have hend : ∀ (kReq : Block 32) (wasm : Bytes) (input : Option Bytes),
      (if payloadRecorded kind env input then
        some (⟨aad.out, kReq, wasm, input⟩ : Admitted) else none) = some m ↔
      payloadRecorded kind env input = true ∧ m.aadOut = aad.out ∧ m.kReq = kReq ∧
        m.wasm = wasm ∧ m.input = input := by
    intro kReq wasm input
    obtain ⟨aadOut', kReq', wasm', input'⟩ := m
    cases payloadRecorded kind env input <;> simp [Admitted.mk.injEq, eq_comm]
  unfold moduleOf
  cases hhit : s.worker.functionCacheLookup fid label with
  | some wasm =>
    simp only [value_openRequest_hit, Option.bind_eq_some_iff, toOption_eq_some_iff, hend]
    constructor
    · rintro ⟨hkey, kReq, hkReq, input, hinput, hpay, hout, rfl, rfl, rfl⟩
      exact ⟨by simpa using hkey, hkReq, rfl, hinput, hpay, hout⟩
    · rintro ⟨hkey, hkReq, hwasm, hinput, hpay, hout⟩
      exact ⟨by simpa using hkey, m.kReq, hkReq, m.input, hinput, hpay, hout, rfl,
        (Option.some.inj hwasm).symm, rfl⟩
  | none =>
    simp only [value_openRequest_miss, Option.bind_eq_some_iff, toOption_eq_some_iff, hend,
      packageModule, Option.bind_eq_bind]
    constructor
    · rintro ⟨hkey, key, hk, kReq, hkReq, wasm, ⟨kFunc, hkFunc, hwasm⟩, input, hinput, hpay, hout,
        rfl, rfl, rfl⟩
      simp only [Option.isSome_none, Bool.false_or, Bool.and_eq_true, bne_iff_ne, ne_eq] at hkey
      refine ⟨hkey.1, hkReq, ?_, hinput, hpay, hout⟩
      rw [if_neg hkey.2]
      simp only [Option.bind_eq_some_iff, toOption_eq_some_iff]
      exact ⟨key, hk, kFunc, hkFunc, hwasm⟩
    · rintro ⟨hkey, hkReq, hmodule, hinput, hpay, hout⟩
      split at hmodule
      · exact absurd hmodule (by simp)
      · rename_i hcold
        simp only [Option.bind_eq_some_iff, toOption_eq_some_iff] at hmodule
        obtain ⟨key, hk, kFunc, hkFunc, hwasm⟩ := hmodule
        exact ⟨by simp [hkey, hcold], key, hk, m.kReq, hkReq, m.wasm, ⟨kFunc, hkFunc, hwasm⟩,
          m.input, hinput, hpay, hout, rfl, rfl, rfl⟩

/-- What opens a request depends on the globals only. -/
theorem value_openRequest_congr {kind : RunKind} {env : RunEnv} {args : RunArgs} {fid : CStr}
    {aad : AadValues} {label : Block 32} {hit : Option Bytes} {s s' : RunState}
    (h : s'.worker = s.worker) :
    (openRequest kind S B env args fid aad label hit s').value =
      (openRequest kind S B env args fid aad label hit s).value := by
  cases hit with
  | some wasm => rw [value_openRequest_hit, value_openRequest_hit, h]
  | none => rw [value_openRequest_miss, value_openRequest_miss, h]

theorem value_admitRequest (kind : RunKind) (env : RunEnv) (args : RunArgs) (fid : CStr)
    (s : RunState) :
    (admitRequest kind S B env args fid s).value =
      (runContext kind S env args fid).bind fun c =>
        if args.cKey != [] && ((s.worker.functionCacheLookup fid c.label).isSome ||
          args.cKFunc != []) then
          (openRequest kind S B env args fid c.aad c.label
            (s.worker.functionCacheLookup fid c.label) s).value
        else none := by
  simp only [runContext, Option.bind_eq_bind, Option.bind_assoc, Option.bind_some]
  refine (quiet_computeRid kind env args fid).value_bind_eq
    (value_computeRid kind env args fid s) fun rid s₁ h₁ => ?_
  refine (Frame.orStop (quiet_enclavePrintLit _)).value_bind_eq
    (value_orStop _ _ s₁) fun aad s₂ h₂ => ?_
  refine (Frame.orStop (quiet_enclavePrintLit _)).value_bind_eq
    (value_orStop _ _ s₂) fun label s₃ h₃ => ?_
  have hworker : s₃.worker = s.worker := h₃.trans (h₂.trans h₁)
  rw [value_bind, value_get, Option.bind_some, state_get, value_bind, value_require, hworker]
  split
  · refine value_openRequest_congr ?_
    rw [worker_require, hworker]
  · rfl

/-- **What admits a request**, and what it is admitted with. -/
theorem value_admitRequest_eq_some_iff {kind : RunKind} {env : RunEnv} {args : RunArgs}
    {fid : CStr} {s : RunState} {m : Admitted} :
    (admitRequest kind S B env args fid s).value = some m ↔
      ∃ c, Admits kind S B env args s.worker fid c m := by
  have hguard : ∀ {c : Bool} {o : Option Admitted}, (if c then o else none) = some m ↔
      c = true ∧ o = some m := by
    intro c o
    cases c <;> simp
  simp only [value_admitRequest, Option.bind_eq_some_iff, hguard, value_openRequest_eq_some_iff]
  constructor
  · rintro ⟨c, hc, hkey, hreq, hmodule, hinput, hpay, hout⟩
    exact ⟨c, hc, hkey, hreq, hmodule, hinput, hpay, hout⟩
  · rintro ⟨c, h⟩
    exact ⟨c, h.context, h.hasKey, h.requestKey, h.module, h.input, h.payload, h.aadOut⟩

/-! ## Execution -/

/-- The runtime gets a module as far as `wasm_application_execute_main`. -/
structure ModuleStarts (env : RunEnv) (wasm : Bytes) : Prop where
  nonempty : wasm ≠ []
  copied : env.ok .wasmCopyMalloc = true
  loaded : env.load wasm = .ok ()
  instantiated : env.instantiate wasm = .ok ()
  execEnv : env.ok .execEnv = true

theorem not_emits_of_quiet {α : Type} {p : Proc Event RunState α} (hp : Quiet p)
    {s : RunState} {wasm : Bytes} {argument : Option Bytes} :
    ¬ Emits p s (.executeMain wasm argument) :=
  hp.not_emits fun h => h.notExecute wasm argument rfl

theorem quiet_orRuntimeError {r : Except CStr Unit} {onFail : CStr → Proc Event RunState Unit}
    (h : ∀ text, Quiet (onFail text)) : Quiet (orRuntimeError r onFail) := by
  cases r with
  | ok u => exact Frame.pure ()
  | error text => exact (h text).bind fun _ => Frame.stop

@[simp] theorem value_orRuntimeError (r : Except CStr Unit)
    (onFail : CStr → Proc Event RunState Unit) (s : RunState) :
    (orRuntimeError r onFail s).value = r.toOption := by
  cases r with
  | ok u => rfl
  | error text =>
    show ((onFail text >>= fun _ => stop) s : Outcome Event RunState Unit).value = none
    rw [value_bind]
    cases (onFail text s).value <;> rfl

/-- OCALLs are no news to a run. -/
theorem quiet_emitOcalls {events : List Event} (h : ∀ e ∈ events, e.IsOcall) :
    Quiet (emitOcalls events) := by
  refine (frame_emitOcalls h).mono (fun s s' h => h ▸ rfl) fun e he => ?_
  rcases he with ⟨message, rfl⟩ | ⟨fd, data, rfl⟩
  · exact Event.routine_ocallPrint message
  · exact ⟨fun _ _ => by simp, fun _ _ _ _ _ => by simp⟩

@[simp] theorem value_emitOcalls (events : List Event) (s : RunState) :
    (emitOcalls events s).value = some () := by
  induction events with
  | nil => rfl
  | cons e events ih =>
    show ((emit e >>= fun _ => emitOcalls events) s : Outcome Event RunState Unit).value = _
    rw [value_bind, value_emit, state_emit, Option.bind_some, ih]

theorem quiet_startModule (kind : RunKind) (env : RunEnv) (wasm : Bytes) :
    Quiet (startModule kind env wasm) := by
  have hload : ∀ text : CStr, Quiet (do
      enclavePrintLit "Load module failed.\n"
      enclavePrint text.bytes) :=
    fun _ => (quiet_enclavePrintLit _).bind fun _ => quiet_enclavePrint _
  have hinstantiate : ∀ text : CStr, Quiet (do
      enclavePrintLit "Instantiate module failed. Error: "
      enclavePrint text.bytes
      enclavePrintLit "\n") :=
    fun _ => (quiet_enclavePrintLit _).bind fun _ => (quiet_enclavePrint _).bind
      fun _ => quiet_enclavePrintLit _
  have hprints : ∀ texts, Quiet (printAll texts) := fun _ => quiet_of_prints (frame_printAll _)
  exact (Frame.require (hprints _)).bind fun _ => (Frame.require (hprints _)).bind fun _ =>
    (quiet_trace _ _).bind fun _ => (quiet_orRuntimeError hload).bind fun _ =>
      (quiet_trace _ _).bind fun _ => (quiet_trace _ _).bind fun _ =>
        (quiet_trace _ _).bind fun _ =>
        (quiet_emitOcalls fun _ => GuestCall.isOcall_of_mem_startOcalls).bind fun _ =>
        (quiet_orRuntimeError hinstantiate).bind fun _ =>
          (quiet_trace _ _).bind fun _ => (quiet_trace _ _).bind fun _ =>
            Frame.require (quiet_enclavePrintLit _)

theorem value_startModule_eq_some_iff {kind : RunKind} {env : RunEnv} {wasm : Bytes}
    {s : RunState} {u : Unit} :
    (startModule kind env wasm s).value = some u ↔ ModuleStarts env wasm := by
  simp only [startModule, value_bind, value_require, value_trace, value_orRuntimeError,
    value_emitOcalls, Option.bind_some]
  simp only [Option.bind_eq_some_iff, toOption_eq_some_iff, ite_eq_left_iff, reduceCtorEq,
    imp_false, not_not]
  constructor
  · rintro ⟨_, hne, _, hcopy, _, hload, _, hinst, henv⟩
    exact ⟨by simpa using hne, hcopy, hload, hinst, henv⟩
  · rintro ⟨hne, hcopy, hload, hinst, henv⟩
    exact ⟨(), by simpa using hne, (), hcopy, (), hload, (), hinst, henv⟩

/-- The event executes only this module, on this argument, and opens no empty ciphertext. -/
structure Event.ExecutesOnly (wasm : Bytes) (argument : Option Bytes) (e : Event) : Prop where
  same : ∀ w a, e = .executeMain w a → w = wasm ∧ a = argument
  opensNothingEmpty : e.OpensNothingEmpty

theorem Event.Routine.executesOnly {e : Event} (he : e.Routine) (wasm : Bytes)
    (argument : Option Bytes) : e.ExecutesOnly wasm argument :=
  ⟨fun w a h => absurd h (he.notExecute w a), he.opensNothingEmpty⟩

/-- The part of the helper that executes the module executes nothing else, and leaves the
globals as they are. -/
theorem frame_executeMain (env : RunEnv) (wasm : Bytes) (argument : Option Bytes)
    (capacity : ℕ) :
    Frame (Keeps RunState.worker) (Event.ExecutesOnly wasm argument)
      (executeMain env wasm argument capacity) := by
  have hquiet : ∀ {α : Type} {p : Proc Event RunState α}, Quiet p →
      Frame (Keeps RunState.worker) (Event.ExecutesOnly wasm argument) p :=
    fun hp => hp.mono (fun _ _ h => h) fun e he => he.executesOnly wasm argument
  have hocalls : Quiet (emitOcalls ((env.guest wasm argument).calls.flatMap GuestCall.ocalls)) :=
    quiet_emitOcalls fun _ => GuestCall.isOcall_of_mem_ocalls
  refine (Frame.emit ⟨fun w a h => ?_, fun _ _ _ _ _ => by simp⟩).bind fun _ =>
    (hquiet hocalls).bind fun _ =>
      (hquiet (Frame.onlyIf (quiet_enclavePrintLit _))).bind fun _ =>
        (hquiet (Frame.require (quiet_enclavePrintLit _))).bind fun _ =>
          (hquiet (Frame.require (Frame.pure ()))).bind fun _ => hquiet (Frame.pure _)
  simp only [Event.executeMain.injEq] at h
  exact ⟨h.1.symm, h.2.symm⟩

theorem emits_executeMain {env : RunEnv} {wasm : Bytes} {argument : Option Bytes} {capacity : ℕ}
    {s : RunState} {w : Bytes} {a : Option Bytes} :
    Emits (executeMain env wasm argument capacity) s (.executeMain w a) ↔
      w = wasm ∧ a = argument := by
  constructor
  · exact fun h => ((frame_executeMain env wasm argument capacity).of_emits h).same w a rfl
  · rintro ⟨rfl, rfl⟩
    exact Emits.left (emits_emit.mpr rfl)

/-- **The module part** executes exactly the module it is given, on the base64 text of the
input, when the capture buffer is prepared and the runtime starts it. -/
theorem emits_executeModule {kind : RunKind} {env : RunEnv} {args : RunArgs} {wasm : Bytes}
    {input : Option Bytes} {s : RunState} {w : Bytes} {a : Option Bytes} :
    Emits (executeModule kind env args wasm input) s (.executeMain w a) ↔
      outputCapturePrepare (env.ok .captureMalloc) args.maxOutSize = true ∧
        ModuleStarts env wasm ∧ w = wasm ∧
        a = input.bind (base64Encode (env.ok .base64Malloc)) := by
  unfold executeModule runWasmHelper
  rw [emits_bind_of_not_emits (not_emits_of_quiet (Frame.require (quiet_enclavePrintLit _)))]
  simp only [emits_bind_of_not_emits (not_emits_of_quiet (quiet_startModule _ _ _)),
    value_require, value_startModule_eq_some_iff, emits_executeMain, ite_eq_left_iff,
    reduceCtorEq, imp_false, not_not, exists_and_left, exists_const]

/-! ## The end of a run -/

theorem quiet_modifyOut (f : RunOut → RunOut) : Quiet (modify (RunState.mapOut f)) :=
  Frame.modify fun _ => rfl

theorem quiet_sealOutput (env : RunEnv) (key : Block 32) (aadOut output : Bytes)
    (failed : String) : Quiet (sealOutput S env key aadOut output failed) :=
  (quiet_modifyOut _).bind fun _ =>
    (Frame.emit ⟨fun _ _ => by simp, fun _ _ _ _ _ => by simp⟩).bind fun _ =>
      (Frame.require (quiet_enclavePrintLit _)).bind fun _ => quiet_modifyOut _

theorem quiet_sealResult (env : RunEnv) (args : RunArgs) (aadOut : Bytes) (kReq : Block 32)
    (final : ExecState args.maxOutSize) : Quiet (sealResult S env args aadOut kReq final) :=
  (Frame.require (quiet_enclavePrintLit _)).bind fun _ =>
    (quiet_sealOutput _ _ _ _ _).bind fun _ => (quiet_modifyOut _).bind fun _ =>
      quiet_enclavePrintLit _

theorem quiet_ecallKemEncap (env : RunEnv) (pkU : Block 65) : Quiet (ecallKemEncap S env pkU) :=
  (Frame.require (quiet_enclavePrintLit _)).bind fun _ =>
    (Frame.require (quiet_enclavePrintLit _)).bind fun _ =>
      (Frame.orStop (quiet_enclavePrintLit _)).bind fun _ =>
        (Frame.orStop (quiet_enclavePrintLit _)).bind fun _ =>
          (quiet_modifyOut _).bind fun _ => Frame.orStop (quiet_enclavePrintLit _)

theorem quiet_sealResultKem (env : RunEnv) (args : RunArgs) (aadOut : Bytes)
    (final : ExecState args.maxOutSize) : Quiet (sealResultKem S env args aadOut final) :=
  (Frame.orStop (quiet_enclavePrintLit _)).bind fun _ => (quiet_trace _ _).bind fun _ =>
    (quiet_trace _ _).bind fun _ => (quiet_trace _ _).bind fun _ =>
      (quiet_ecallKemEncap _ _).attempt.bind fun _ =>
        (Frame.orStop (quiet_enclavePrintLit _)).bind fun _ => (quiet_trace _ _).bind fun _ =>
          (quiet_trace _ _).bind fun _ => (quiet_trace _ _).bind fun _ =>
            (Frame.require (quiet_enclavePrintLit _)).bind fun _ =>
              (quiet_sealOutput _ _ _ _ _).bind fun _ => (quiet_trace _ _).bind fun _ =>
                (quiet_trace _ _).bind fun _ => (quiet_trace _ _).bind fun _ =>
                  (quiet_modifyOut _).bind fun _ => quiet_trace _ _

/-! ## The globals after a run -/

/-- The globals without what a run writes: the label key and the function cache. -/
def Globals.forgetRun (g : Globals) : Globals :=
  { g with cache := none, dklabelFunc := Block.fill 32 0, dklabelFuncValid := false }

@[simp] theorem Globals.forgetRun_setDklabelFunc (key : Block 32) (g : Globals) :
    (g.setDklabelFunc key).forgetRun = g.forgetRun := rfl

@[simp] theorem Globals.forgetRun_zeroizeLabelKey (g : Globals) :
    g.zeroizeLabelKey.forgetRun = g.forgetRun := by
  unfold Globals.zeroizeLabelKey
  split <;> rfl

@[simp] theorem Globals.cache_zeroizeLabelKey (g : Globals) :
    g.zeroizeLabelKey.cache = g.cache := by
  unfold Globals.zeroizeLabelKey
  split <;> rfl

@[simp] theorem Globals.forgetRun_functionCacheStore (g : Globals) (malloc : Bool) (fid : CStr)
    (cfuncHash : Block 32) (wasm : Bytes) :
    (g.functionCacheStore malloc fid cfuncHash wasm).1.forgetRun = g.forgetRun := by
  rcases g.functionCacheStore_cases malloc fid cfuncHash wasm with ⟨h, -, heq⟩ | heq
  · rw [heq]
    rfl
  · rw [heq]

/-- What a run does to the globals, one change after another, stays within `R`. -/
class AllowsRun (R : Globals → Globals → Prop) : Prop extends Std.Refl R, IsTrans Globals R where
  setDklabelFunc : ∀ key g, R g (g.setDklabelFunc key)
  zeroizeLabelKey : ∀ g, R g g.zeroizeLabelKey
  functionCacheStore : ∀ g malloc fid cfuncHash wasm,
    R g (g.functionCacheStore malloc fid cfuncHash wasm).1

/-- The relation, seen from the state of a run. -/
def OnWorker (R : Globals → Globals → Prop) (s s' : RunState) : Prop := R s.worker s'.worker

instance (R : Globals → Globals → Prop) [Std.Refl R] : Std.Refl (OnWorker R) :=
  ⟨fun s => refl_of R s.worker⟩

instance (R : Globals → Globals → Prop) [IsTrans Globals R] : IsTrans RunState (OnWorker R) :=
  ⟨fun _ _ _ h h' => trans_of R h h'⟩

instance allowsRun_forgetRun : AllowsRun (Keeps Globals.forgetRun) where
  setDklabelFunc key g := Globals.forgetRun_setDklabelFunc key g
  zeroizeLabelKey g := Globals.forgetRun_zeroizeLabelKey g
  functionCacheStore := Globals.forgetRun_functionCacheStore

theorem onWorker_modify {R : Globals → Globals → Prop} {f : Globals → Globals}
    (hf : ∀ g, R g (f g)) : Frame (OnWorker R) Event.Routine (modify (RunState.mapWorker f)) :=
  Frame.modify fun s => hf s.worker

section AllowsRun

variable {R : Globals → Globals → Prop} [hR : AllowsRun R]

theorem Quiet.onWorker {α : Type} {p : Proc Event RunState α} (hp : Quiet p) :
    Frame (OnWorker R) Event.Routine p := by
  refine hp.mono (fun s s' h => ?_) fun _ h => h
  show R s.worker s'.worker
  rw [show s'.worker = s.worker from h]
  exact refl_of R s.worker

theorem onWorker_prepareLabelKey (env : RunEnv) (args : RunArgs) (label : Block 32) :
    Frame (OnWorker R) Event.Routine (prepareLabelKey S env args label) :=
  Frame.get.bind fun _ => Frame.ite (onWorker_modify (hR.setDklabelFunc _))
    (Frame.ite
      ((quiet_enclavePrintLit _).onWorker.bind fun _ => onWorker_modify (hR.setDklabelFunc _))
      ((quiet_enclavePrintLit _).onWorker.bind fun _ =>
        (Frame.orStop (quiet_enclavePrintLit _).onWorker).bind fun _ =>
          onWorker_modify (hR.setDklabelFunc _)))

theorem onWorker_decapFunctionKey (kind : RunKind) (env : RunEnv) (args : RunArgs)
    (aadPkg : Bytes) :
    Frame (OnWorker R) Event.Routine (decapFunctionKey kind S B env args aadPkg) :=
  (quiet_trace _ _).onWorker.bind fun _ => Frame.get.bind fun _ =>
    (quiet_orDecKeyFailed _ _).onWorker.bind fun _ =>
      (quiet_trace _ _).onWorker.bind fun _ => (quiet_trace _ _).onWorker.bind fun _ =>
        (onWorker_modify hR.zeroizeLabelKey).bind fun _ => Frame.pure _

theorem onWorker_loadFunction (kind : RunKind) (env : RunEnv) {args : RunArgs}
    (hne : args.encryptedWasm ≠ []) (fid : CStr) (label : Block 32) (aadPkg : Bytes)
    (hit : Option Bytes) :
    Frame (OnWorker R) Event.Routine (loadFunction kind S B env args fid label aadPkg hit) := by
  cases hit with
  | some wasm => exact Frame.pure wasm
  | none =>
    exact (onWorker_decapFunctionKey kind env args aadPkg).bind fun _ =>
      (quiet_decryptFunction _ _ hne _ _).onWorker.bind fun _ =>
        (onWorker_modify fun _ => hR.functionCacheStore ..).bind fun _ => Frame.pure _

theorem onWorker_openRequest (kind : RunKind) (env : RunEnv) {args : RunArgs}
    (hne : args.encryptedWasm ≠ []) (fid : CStr) (aad : AadValues) (label : Block 32)
    (hit : Option Bytes) :
    Frame (OnWorker R) Event.Routine (openRequest kind S B env args fid aad label hit) :=
  (Frame.onlyIf (onWorker_prepareLabelKey env args label)).bind fun _ =>
    (quiet_decapRequestKey _ _ _ _).onWorker.bind fun _ =>
      (onWorker_loadFunction _ _ hne _ _ _ _).bind fun _ =>
        (quiet_decryptInput _ _ _ _ _).onWorker.bind fun _ =>
          (quiet_recordPayload _ _ _ _ _ _).onWorker.bind fun _ => Frame.pure _

theorem onWorker_admitRequest (kind : RunKind) (env : RunEnv) (args : RunArgs) (fid : CStr) :
    Frame (OnWorker R) Event.Routine (admitRequest kind S B env args fid) := by
  refine (quiet_computeRid _ _ _ _).onWorker.bind fun _ =>
    (Frame.orStop (quiet_enclavePrintLit _).onWorker).bind fun _ =>
      (Frame.orStop (quiet_enclavePrintLit _).onWorker).bind_of_value fun s label hlabel =>
        Frame.get.bind fun _ => (Frame.require (quiet_enclavePrintLit _).onWorker).bind
          fun _ => onWorker_openRequest _ _ ?_ _ _ _ _
  -- only a package that is not empty has a label
  rw [value_orStop, computeLabelFromCfunc_eq_some_iff] at hlabel
  exact hlabel.1

end AllowsRun

/-- What the parts of a run that touch the label key keep. -/
abbrev KeepsCache {α : Type} (p : Proc Event RunState α) : Prop :=
  Frame (Keeps fun s : RunState => s.worker.cache) Event.Routine p

theorem Quiet.keepsCache {α : Type} {p : Proc Event RunState α} (hp : Quiet p) : KeepsCache p :=
  hp.mono (fun _ _ h => congrArg Globals.cache h) fun _ h => h

/-- The label key is not in the cache. -/
theorem keepsCache_prepareLabelKey (env : RunEnv) (args : RunArgs) (label : Block 32) :
    KeepsCache (prepareLabelKey S env args label) := by
  have hset : ∀ key, KeepsCache (modify (RunState.mapWorker (Globals.setDklabelFunc key))) :=
    fun _ => Frame.modify fun _ => rfl
  exact Frame.get.bind fun _ => Frame.ite (hset _)
    (Frame.ite ((quiet_enclavePrintLit _).keepsCache.bind fun _ => hset _)
      ((quiet_enclavePrintLit _).keepsCache.bind fun _ =>
        (Frame.orStop (quiet_enclavePrintLit _).keepsCache).bind fun _ => hset _))

theorem keepsCache_decapFunctionKey (kind : RunKind) (env : RunEnv) (args : RunArgs)
    (aadPkg : Bytes) : KeepsCache (decapFunctionKey kind S B env args aadPkg) := by
  have hwipe : KeepsCache (modify (RunState.mapWorker Globals.zeroizeLabelKey)) :=
    Frame.modify fun s => Globals.cache_zeroizeLabelKey s.worker
  exact (quiet_trace _ _).keepsCache.bind fun _ => Frame.get.bind fun _ =>
    (quiet_orDecKeyFailed _ _).keepsCache.bind fun _ =>
      (quiet_trace _ _).keepsCache.bind fun _ => (quiet_trace _ _).keepsCache.bind fun _ =>
        hwipe.bind fun _ => Frame.pure _

/-- The module part leaves the globals as they are. -/
theorem frame_executeModule (kind : RunKind) (env : RunEnv) (args : RunArgs) (wasm : Bytes)
    (input : Option Bytes) :
    Frame (Keeps RunState.worker) Event.OpensNothingEmpty
      (executeModule kind env args wasm input) := by
  have hquiet : ∀ {α : Type} {p : Proc Event RunState α}, Quiet p →
      Frame (Keeps RunState.worker) Event.OpensNothingEmpty p :=
    fun hp => hp.mono (fun _ _ h => h) fun _ he => he.opensNothingEmpty
  exact (hquiet (Frame.require (quiet_enclavePrintLit _))).bind fun _ =>
    (hquiet (quiet_startModule _ _ _)).bind fun _ =>
      (frame_executeMain _ _ _ _).mono (fun _ _ h => h) fun _ he => he.opensNothingEmpty

/-- The end of a run, of either kind. -/
theorem quiet_sealRun (kind : RunKind) (env : RunEnv) (args : RunArgs) (admitted : Admitted)
    (final : ExecState args.maxOutSize) : Quiet (sealRun kind S env args admitted final) := by
  cases kind with
  | legacy => exact quiet_sealResult _ _ _ _ _
  | kem => exact quiet_sealResultKem _ _ _ _

/-! ## A whole run -/

/-- The keys of the request's profile are loaded. -/
def keysLoaded (g : Globals) (args : RunArgs) : Bool :=
  if args.useBfibeKeys then g.bfibe.keyLoaded else g.ecc.keyLoaded

/-- What a run checks before it looks at its request. -/
structure RunReady (kind : RunKind) (env : RunEnv) (args : RunArgs) (g : Globals) : Prop where
  traced : kind = .kem → args.invokeTrace = true
  keysLoaded : keysLoaded g args = true
  cReq : env.ok .cReqMalloc = true

/-- The run executes the module with the argument. -/
def Executes (kind : RunKind) (S : Sgx) (B : Bfibe) (env : RunEnv) (args : RunArgs) (g : Globals)
    (wasm : Bytes) (argument : Option Bytes) : Prop :=
  Emits (runEncryptedWasm kind S B env args) (RunState.start g) (.executeMain wasm argument)

theorem emits_runBody {kind : RunKind} {env : RunEnv} {args : RunArgs} {fid : CStr}
    {s : RunState} {wasm : Bytes} {argument : Option Bytes} :
    Emits (runBody kind S B env args fid) s (.executeMain wasm argument) ↔
      ∃ m, (∃ c, Admits kind S B env args s.worker fid c m) ∧
        outputCapturePrepare (env.ok .captureMalloc) args.maxOutSize = true ∧
        ModuleStarts env m.wasm ∧ wasm = m.wasm ∧
        argument = m.input.bind (base64Encode (env.ok .base64Malloc)) := by
  have hadmitted : ¬ Emits (admitRequest kind S B env args fid) s (.executeMain wasm argument) :=
    (onWorker_admitRequest (R := Keeps Globals.forgetRun) kind env args fid).not_emits
      fun h => h.notExecute _ _ rfl
  have htail : ∀ (m : Admitted) (s : RunState),
      Emits (executeModule kind env args m.wasm m.input >>= sealRun kind S env args m) s
        (.executeMain wasm argument) ↔
      Emits (executeModule kind env args m.wasm m.input) s (.executeMain wasm argument) := by
    intro m s
    rw [emits_bind]
    constructor
    · rintro (h | ⟨final, s₁, -, h⟩)
      · exact h
      · exact absurd h (not_emits_of_quiet (quiet_sealRun kind env args m final))
    · exact Or.inl
  unfold runBody
  rw [emits_bind_of_not_emits hadmitted]
  simp only [value_admitRequest_eq_some_iff, htail, emits_executeModule]

@[simp] theorem value_requireLoadedKeys (g : Globals) (args : RunArgs) (s : RunState) :
    (requireLoadedKeys g args s).value = if keysLoaded g args then some () else none := by
  simp only [requireLoadedKeys, value_bind, value_require]
  cases hb : args.useBfibeKeys with
  | true => simp [keysLoaded, hb]
  | false => cases he : g.ecc.keyLoaded <;> simp [keysLoaded, hb, he]

@[simp] theorem worker_requireLoadedKeys (g : Globals) (args : RunArgs) (s : RunState) :
    (requireLoadedKeys g args s).state.worker = s.worker :=
  (quiet_requireLoadedKeys g args).worker s

/-- The body of a run does to the globals what a run does, and opens no empty ciphertext. -/
theorem onWorker_runBody {R : Globals → Globals → Prop} [AllowsRun R] (kind : RunKind)
    (env : RunEnv) (args : RunArgs) (fid : CStr) :
    Frame (OnWorker R) Event.OpensNothingEmpty (runBody kind S B env args fid) := by
  have hroutine : ∀ {α : Type} {p : Proc Event RunState α}, Frame (OnWorker R) Event.Routine p →
      Frame (OnWorker R) Event.OpensNothingEmpty p :=
    fun hp => hp.mono (fun _ _ h => h) fun _ he => he.opensNothingEmpty
  refine (hroutine (onWorker_admitRequest _ _ _ _)).bind fun _ =>
    ((frame_executeModule _ _ _ _ _).mono (fun s s' h => ?_) fun _ he => he).bind fun _ =>
      hroutine (quiet_sealRun _ _ _ _ _).onWorker
  show R s.worker s'.worker
  rw [show s'.worker = s.worker from h]
  exact refl_of R s.worker

/-- **A run**, when its body with the cleanup behind it stays within `R`. -/
theorem onWorker_runEncryptedWasm {R : Globals → Globals → Prop} [Std.Refl R]
    [IsTrans Globals R] {kind : RunKind} {env : RunEnv} {args : RunArgs}
    (hbody : ∀ fid, Frame (OnWorker R) Event.OpensNothingEmpty
      (withCleanup (runBody kind S B env args fid)
        (RunState.mapWorker Globals.zeroizeLabelKey))) :
    Frame (OnWorker R) Event.OpensNothingEmpty (runEncryptedWasm kind S B env args) := by
  have hquiet : ∀ {α : Type} {p : Proc Event RunState α}, Quiet p →
      Frame (OnWorker R) Event.OpensNothingEmpty p := by
    intro α p hp
    refine hp.mono (fun s s' h => ?_) fun _ he => he.opensNothingEmpty
    show R s.worker s'.worker
    rw [show s'.worker = s.worker from h]
    exact refl_of R s.worker
  exact (hquiet (Frame.require (quiet_enclavePrintLit _))).bind fun _ =>
    (hquiet (quiet_trace _ _)).bind fun _ => Frame.get.bind fun _ =>
      (hquiet (quiet_requireLoadedKeys _ _)).bind fun _ =>
        (hquiet (Frame.require (quiet_enclavePrintLit _))).bind fun _ => hbody _

/-- **A run keeps the key slots**, and opens no empty ciphertext. -/
theorem keepsSlots_runEncryptedWasm (kind : RunKind) (env : RunEnv) (args : RunArgs) :
    Frame (Keeps fun s : RunState => s.worker.forgetRun) Event.OpensNothingEmpty
      (runEncryptedWasm kind S B env args) := by
  have hrun : Frame (OnWorker (Keeps Globals.forgetRun)) Event.OpensNothingEmpty
      (runEncryptedWasm kind S B env args) :=
    onWorker_runEncryptedWasm fun fid => (onWorker_runBody kind env args fid).withCleanup
      fun s => Globals.forgetRun_zeroizeLabelKey s.worker
  exact hrun.mono (fun _ _ h => h) fun _ h => h

/-- **When a run executes**, exactly: its keys are loaded, its request is admitted, the capture
buffer is prepared and the runtime starts the module. -/
theorem executes_iff {kind : RunKind} {env : RunEnv} {args : RunArgs} {g : Globals}
    {wasm : Bytes} {argument : Option Bytes} :
    Executes kind S B env args g wasm argument ↔
      RunReady kind env args g ∧ ∃ m,
        (∃ c, Admits kind S B env args g (invocationFid g args) c m) ∧
        outputCapturePrepare (env.ok .captureMalloc) args.maxOutSize = true ∧
        ModuleStarts env m.wasm ∧ wasm = m.wasm ∧
        argument = m.input.bind (base64Encode (env.ok .base64Malloc)) := by
  have hready : RunReady kind env args g ↔
      (kind == .legacy || args.invokeTrace) = true ∧ keysLoaded g args = true ∧
        env.ok .cReqMalloc = true := by
    constructor
    · rintro ⟨htraced, hkeys, hreq⟩
      refine ⟨?_, hkeys, hreq⟩
      cases kind with
      | legacy => rfl
      | kem => exact htraced rfl
    · rintro ⟨htraced, hkeys, hreq⟩
      exact ⟨fun hk => by simpa [hk] using htraced, hkeys, hreq⟩
  unfold Executes runEncryptedWasm
  rw [emits_bind_of_not_emits (not_emits_of_quiet (Frame.require (quiet_enclavePrintLit _)))]
  simp only [emits_bind_of_not_emits (not_emits_of_quiet (quiet_trace _ _)),
    emits_bind_of_not_emits not_emits_get,
    emits_bind_of_not_emits (not_emits_of_quiet (quiet_requireLoadedKeys _ _)),
    emits_bind_of_not_emits (not_emits_of_quiet (Frame.require (quiet_enclavePrintLit _))),
    emits_withCleanup, emits_runBody, value_trace, value_get, state_get, Option.some.injEq,
    exists_eq_left', value_require, value_requireLoadedKeys, worker_require, worker_trace,
    worker_requireLoadedKeys]
  have htest : ∀ {c : Bool}, (if c then some () else none) = some () ↔ c = true := by
    intro c
    cases c <;> simp
  simp only [htest, exists_const, true_and, hready, and_assoc]
  rfl

end Worker
end AsynCS
