import AsynCS.Worker.InputAuth

/-!
# The routes of a module's output

A module has three ways to put bytes out: a print of the runtime, `c1_workload_set_output`, and
a WASI write.  The first two look at `capture_output` and the capture buffer, and the third at
neither.  The start function of a module runs while the module is instantiated, before the flag
is up.

* `CaptureGlobals`: the globals as the source has them, with the flag and the pointer, and the
  calls on them; `PreparedCapture` is what a run ECALL calls `run_wasm_helper` with.
* `represents_guestCalls`: the flag is up from the first call of `main` to its last, so the state
  of `Capture` and its OCALLs are those of the source; `executeMain_refines`.
* `ModuleRun`: the calls of a module, those of its start function apart; `ModuleRun.SameShape`:
  the same calls with the same lengths.
* `outputSealed_iff`: when the OCALLs do not depend on the bytes.
-/

namespace AsynCS
namespace Worker

open Proc

/-! ## The globals of the source -/

/-- `global_output_buffer` and its companions, `capture_output`, and the workload timestamps. -/
structure CaptureGlobals where
  /-- the allocation of `global_output_capacity + 1` bytes, or NULL -/
  globalOutputBuffer : Option Bytes
  globalOutputCapacity : ℕ
  globalOutputPos : ℕ
  captureOutput : Bool
  captureOutputOverflow : Bool
  workloadTscBegin : Option UInt64
  workloadTscEnd : Option UInt64

/-- `memcpy(b + offset, data, data.length)`. -/
def memcpyAt (b : Bytes) (offset : ℕ) (data : Bytes) : Bytes :=
  b.take offset ++ data ++ b.drop (offset + data.length)

/-- What is read is the state. -/
theorem get_bind {ε σ β : Type} (f : σ → Proc ε σ β) (s : σ) : (get >>= f) s = f s s := rfl

/-- There is a buffer, and the flag is down. -/
structure CaptureGlobals.Prepared (g : CaptureGlobals) : Prop where
  buffer : g.globalOutputBuffer.isSome
  capacity : g.globalOutputCapacity ≠ 0
  down : g.captureOutput = false

namespace CaptureGlobals

/-- `capture_output_overflow = true`. -/
def overflowed (g : CaptureGlobals) : CaptureGlobals := { g with captureOutputOverflow := true }

/-- Bytes were copied into the buffer. -/
def captured (buffer : Bytes) (pos : ℕ) (g : CaptureGlobals) : CaptureGlobals :=
  { g with globalOutputBuffer := some buffer, globalOutputPos := pos }

/-- `enclave_print`. -/
def enclavePrint (message : CStr) : Proc Event CaptureGlobals Unit := do
  let g ← get
  if g.captureOutput then
    match g.globalOutputBuffer with
    | some buffer =>
      if g.globalOutputPos + message.strlen ≤ g.globalOutputCapacity then
        modify (captured (memcpyAt buffer g.globalOutputPos message.bytes)
          (g.globalOutputPos + message.strlen))
      else modify overflowed
    | none => modify overflowed
  else emit (.ocallPrint message.bytes)

/-- `c1_workload_set_output`. -/
def c1WorkloadSetOutput (data : Option Bytes) : Proc Event CaptureGlobals Unit := do
  let g ← get
  match g.captureOutput, g.globalOutputBuffer, data with
  | true, some buffer, some data =>
    if data.length = 0 ∨ g.globalOutputCapacity < data.length then modify overflowed
    else modify (captured (memcpyAt (memcpyAt buffer 0 data) data.length [0]) data.length)
  | _, _, _ => modify overflowed

/-- `wasm_sgx_capture_write`, as the patch defines it. -/
def wasmSgxCaptureWrite (_fd : ℕ) (_data : Bytes) : Proc Event CaptureGlobals Unit := pure ()

/-- `writev_internal`. -/
def writevInternal (fd : ℕ) (data : Bytes) : Proc Event CaptureGlobals Unit := do
  onlyIf (fd == 1 || fd == 2) (wasmSgxCaptureWrite fd data)
  emit (.ocallWritev fd data)

/-- What the host does for one call of a module. -/
def guestCall : GuestCall → Proc Event CaptureGlobals Unit
  | .print message => enclavePrint message
  | .workloadSetOutput data => c1WorkloadSetOutput data
  | .workloadTscBegin tsc => modify fun g => { g with workloadTscBegin := some tsc }
  | .workloadTscEnd tsc => modify fun g => { g with workloadTscEnd := some tsc }
  | .wasiWrite fd data => writevInternal fd data

/-- The calls of a module. -/
def guestCalls : List GuestCall → Proc Event CaptureGlobals Unit
  | [] => pure ()
  | c :: calls => do
    guestCall c
    guestCalls calls

/-- What `run_wasm_helper` writes before `wasm_application_execute_main`. -/
def startCapture (g : CaptureGlobals) : CaptureGlobals where
  globalOutputBuffer := g.globalOutputBuffer.map fun _ =>
    List.replicate (g.globalOutputCapacity + 1) 0
  globalOutputCapacity := g.globalOutputCapacity
  globalOutputPos := 0
  captureOutput := true
  captureOutputOverflow := false
  workloadTscBegin := none
  workloadTscEnd := none

/-- While a module executes, the globals hold the state of `Capture`. -/
structure Represents {capacity : ℕ} (g : CaptureGlobals) (s : ExecState capacity) : Prop where
  buffer : g.globalOutputBuffer = some s.capture.buffer.toList
  capacity : g.globalOutputCapacity = capacity
  pos : g.globalOutputPos = s.capture.pos
  capturing : g.captureOutput = true
  overflow : g.captureOutputOverflow = s.capture.overflow
  tscBegin : g.workloadTscBegin = s.workloadTscBegin
  tscEnd : g.workloadTscEnd = s.workloadTscEnd

/-- A module starts with the cleared buffer. -/
theorem represents_startCapture {g : CaptureGlobals} (h : g.globalOutputBuffer.isSome) :
    Represents g.startCapture (ExecState.start g.globalOutputCapacity) := by
  obtain ⟨buffer, hbuffer⟩ := Option.isSome_iff_exists.mp h
  refine ⟨?_, rfl, rfl, rfl, rfl, rfl, rfl⟩
  rw [startCapture, hbuffer]
  rfl

variable {capacity : ℕ} {g : CaptureGlobals} {s : ExecState capacity}

/-- A raised flag. -/
theorem represents_overflowed (h : Represents g s) :
    Represents g.overflowed { s with capture := s.capture.overflowed } :=
  ⟨h.buffer, h.capacity, h.pos, h.capturing, rfl, h.tscBegin, h.tscEnd⟩

/-- A print of the runtime is captured. -/
theorem represents_enclavePrint (h : Represents g s) (message : CStr) :
    Represents (enclavePrint message g).state (s.call (.print message)) ∧
      (enclavePrint message g).log = [] := by
  have hrun : enclavePrint message g =
      (if g.globalOutputPos + message.strlen ≤ g.globalOutputCapacity then
        modify (captured (memcpyAt s.capture.buffer.toList s.capture.pos message.bytes)
          (s.capture.pos + message.strlen))
      else modify overflowed) g := by
    unfold enclavePrint
    rw [get_bind, h.capturing, if_pos rfl, h.buffer, h.pos]
  have hcapacity := h.capacity
  rw [hrun, h.pos, ExecState.call, OutputCapture.capturePrint]
  by_cases hfits : s.capture.pos + message.strlen ≤ capacity
  · rw [if_pos (by omega), dif_pos hfits]
    exact ⟨⟨rfl, h.capacity, rfl, h.capturing, h.overflow, h.tscBegin, h.tscEnd⟩, rfl⟩
  · rw [if_neg (by omega), dif_neg hfits]
    exact ⟨represents_overflowed h, rfl⟩

/-- So is the output that a module sets. -/
theorem represents_c1WorkloadSetOutput (h : Represents g s) (data : Option Bytes) :
    Represents (c1WorkloadSetOutput data g).state (s.call (.workloadSetOutput data)) ∧
      (c1WorkloadSetOutput data g).log = [] := by
  have hcapacity := h.capacity
  unfold c1WorkloadSetOutput
  rw [get_bind, h.capturing, h.buffer]
  cases data with
  | none => exact ⟨represents_overflowed h, rfl⟩
  | some data =>
    rw [ExecState.call, OutputCapture.captureSetOutput]
    by_cases hfits : 0 < data.length ∧ data.length ≤ capacity
    · simp only
      rw [if_neg (by omega), dif_pos hfits]
      exact ⟨⟨rfl, h.capacity, rfl, h.capturing, h.overflow, h.tscBegin, h.tscEnd⟩, rfl⟩
    · simp only
      rw [if_pos (by omega), dif_neg hfits]
      exact ⟨represents_overflowed h, rfl⟩

/-- A WASI write is an OCALL: the hook does nothing. -/
theorem writevInternal_apply (fd : ℕ) (data : Bytes) (g : CaptureGlobals) :
    writevInternal fd data g = emit (.ocallWritev fd data) g := by
  unfold writevInternal wasmSgxCaptureWrite
  cases (fd == 1 || fd == 2) <;> rfl

/-- **One call** keeps the representation and makes the OCALLs of `Capture`. -/
theorem represents_guestCall (h : Represents g s) (c : GuestCall) :
    Represents (guestCall c g).state (s.call c) ∧ (guestCall c g).log = c.ocalls := by
  cases c with
  | print message => exact represents_enclavePrint h message
  | workloadSetOutput data => exact represents_c1WorkloadSetOutput h data
  | workloadTscBegin tsc =>
    exact ⟨⟨h.buffer, h.capacity, h.pos, h.capturing, h.overflow, rfl, h.tscEnd⟩, rfl⟩
  | workloadTscEnd tsc =>
    exact ⟨⟨h.buffer, h.capacity, h.pos, h.capturing, h.overflow, h.tscBegin, rfl⟩, rfl⟩
  | wasiWrite fd data =>
    have hrun := writevInternal_apply fd data g
    show Represents (writevInternal fd data g).state s ∧
      (writevInternal fd data g).log = [.ocallWritev fd data]
    rw [hrun]
    exact ⟨h, rfl⟩

theorem value_guestCall (c : GuestCall) (g : CaptureGlobals) :
    (guestCall c g).value = some () := by
  cases c with
  | print message =>
    show (enclavePrint message g).value = some ()
    unfold enclavePrint
    rw [get_bind]
    cases g.captureOutput with
    | false => rfl
    | true =>
      cases g.globalOutputBuffer with
      | none => rfl
      | some buffer =>
        simp only [if_true]
        split
        · rfl
        · rfl
  | workloadSetOutput data =>
    show (c1WorkloadSetOutput data g).value = some ()
    unfold c1WorkloadSetOutput
    rw [get_bind]
    cases g.captureOutput with
    | false => rfl
    | true =>
      cases g.globalOutputBuffer with
      | none => rfl
      | some buffer =>
        cases data with
        | none => rfl
        | some data =>
          simp only
          split
          · rfl
          · rfl
  | workloadTscBegin tsc => rfl
  | workloadTscEnd tsc => rfl
  | wasiWrite fd data =>
    show (writevInternal fd data g).value = some ()
    rw [writevInternal_apply]
    rfl

/-- **The calls of a module.** -/
theorem represents_guestCalls (h : Represents g s) (calls : List GuestCall) :
    Represents (guestCalls calls g).state (calls.foldl ExecState.call s) ∧
      (guestCalls calls g).log = calls.flatMap GuestCall.ocalls := by
  induction calls generalizing g s with
  | nil => exact ⟨h, rfl⟩
  | cons c calls ih =>
    obtain ⟨hstate, hlog⟩ := represents_guestCall h c
    obtain ⟨hrest, hlogs⟩ := ih hstate
    rw [guestCalls, bind_of_some (value_guestCall c g), List.flatMap_cons, List.foldl_cons]
    exact ⟨hrest, by rw [hlog, hlogs]⟩

/-- The rest of `run_wasm_helper`. -/
def executeMain (run : GuestRun) : Proc Event CaptureGlobals Unit := do
  modify startCapture
  let g ← get
  if g.globalOutputBuffer.isNone || g.globalOutputCapacity == 0 then do
    modify fun g => { g with captureOutput := false }
    enclavePrint (CStr.lit "WASM output capture buffer is not prepared.\n")
    stop
  else do
    guestCalls run.calls
    modify fun g => { g with captureOutput := false }
    onlyIf (!run.ok) (enclavePrint (CStr.lit "Execute main failed.\n"))
    let g ← get
    require (!g.captureOutputOverflow)
      (enclavePrint (CStr.lit "WASM output exceeded enclave capture buffer.\n"))
    require run.ok (pure ())

/-- A print with the flag down is an OCALL. -/
theorem enclavePrint_of_not_capturing {g : CaptureGlobals} (h : g.captureOutput = false)
    (message : CStr) : enclavePrint message g = emit (.ocallPrint message.bytes) g := by
  unfold enclavePrint
  rw [get_bind, h]
  rfl

end CaptureGlobals

/-! ## What the helper leaves -/

/-- The calls of a module make their OCALLs. -/
theorem emitOcalls_apply {σ : Type} (events : List Event) (s : σ) :
    (emitOcalls events : Proc Event σ Unit) s = ⟨events, s, some ()⟩ := by
  induction events with
  | nil => rfl
  | cons e events ih =>
    rw [emitOcalls, bind_of_some (value_emit e s), state_emit, ih]
    rfl

/-- What the helper prints after an execution. -/
def reportEnd (ok overflow : Bool) : List Event :=
  (if ok then [] else [.ocallPrint (ascii "Execute main failed.\n")]) ++
    if overflow then [.ocallPrint (ascii "WASM output exceeded enclave capture buffer.\n")] else []

/-- **The helper**, behind the start of the module: the OCALLs of the module, and the report. -/
theorem executeMain_apply (env : RunEnv) (wasm : Bytes) (argument : Option Bytes)
    (capacity : ℕ) (s : RunState) :
    executeMain env wasm argument capacity s =
      ⟨.executeMain wasm argument ::
          ((env.guest wasm argument).calls.flatMap GuestCall.ocalls ++
            reportEnd (env.guest wasm argument).ok
              (ExecState.execute capacity (env.guest wasm argument).calls).capture.overflow),
        s,
        if (env.guest wasm argument).ok &&
            !(ExecState.execute capacity (env.guest wasm argument).calls).capture.overflow then
          some (ExecState.execute capacity (env.guest wasm argument).calls) else none⟩ := by
  unfold executeMain
  rw [bind_of_some (value_emit _ s), state_emit, bind_of_some (by rw [emitOcalls_apply]),
    emitOcalls_apply]
  generalize ExecState.execute capacity (env.guest wasm argument).calls = final
  cases (env.guest wasm argument).ok with
  | true =>
    cases hover : final.capture.overflow with
    | true =>
      simp only [hover]
      rfl
    | false =>
      simp only [hover]
      rfl
  | false =>
    cases hover : final.capture.overflow with
    | true =>
      simp only [hover]
      rfl
    | false =>
      simp only [hover]
      rfl

namespace CaptureGlobals

theorem value_guestCalls (calls : List GuestCall) (g : CaptureGlobals) :
    (guestCalls calls g).value = some () := by
  induction calls generalizing g with
  | nil => rfl
  | cons c calls ih =>
    rw [guestCalls, value_bind, value_guestCall, Option.bind_some, ih]

/-- The end of the helper, with the flag down again. -/
theorem reportEnd_apply {g : CaptureGlobals} (h : g.captureOutput = false) (ok : Bool) :
    ((do
      onlyIf (!ok) (enclavePrint (CStr.lit "Execute main failed.\n"))
      let g ← get
      require (!g.captureOutputOverflow)
        (enclavePrint (CStr.lit "WASM output exceeded enclave capture buffer.\n"))
      require ok (pure ())) : Proc Event CaptureGlobals Unit) g =
      ⟨reportEnd ok g.captureOutputOverflow, g,
        if ok && !g.captureOutputOverflow then some () else none⟩ := by
  have hprint : ∀ message, enclavePrint message g = emit (.ocallPrint message.bytes) g :=
    enclavePrint_of_not_capturing h
  have hstop : ∀ message, (require false (enclavePrint message) :
      Proc Event CaptureGlobals Unit) g = ⟨[.ocallPrint message.bytes], g, none⟩ := by
    intro message
    show (enclavePrint message >>= fun _ => (stop : Proc Event CaptureGlobals Unit)) g = _
    rw [bind_of_some (by rw [hprint]; rfl), hprint]
    rfl
  cases ok with
  | true =>
    rw [Bool.not_true, onlyIf_false, bind_of_some (value_pure () g), state_pure, get_bind]
    cases hover : g.captureOutputOverflow with
    | true =>
      rw [Bool.not_true, bind_of_none (by rw [hstop]), hstop]
      rfl
    | false => rfl
  | false =>
    rw [Bool.not_false, onlyIf_true, bind_of_some (by rw [hprint]; rfl), hprint, state_emit,
      get_bind]
    cases hover : g.captureOutputOverflow with
    | true =>
      rw [Bool.not_true, bind_of_none (by rw [hstop]), hstop]
      rfl
    | false => rfl

/-- **The execution of `main`** on prepared globals. -/
theorem executeMain_of_prepared {g : CaptureGlobals} (h : g.Prepared) (run : GuestRun) :
    let overflow := (ExecState.execute g.globalOutputCapacity run.calls).capture.overflow
    (executeMain run g).log = run.calls.flatMap GuestCall.ocalls ++ reportEnd run.ok overflow ∧
      (executeMain run g).value = if run.ok && !overflow then some () else none := by
  obtain ⟨hrep, hlog⟩ := represents_guestCalls (represents_startCapture h.buffer) run.calls
  have hready : (g.startCapture.globalOutputBuffer.isNone ||
      g.startCapture.globalOutputCapacity == 0) = false := by
    obtain ⟨buffer, hb⟩ := Option.isSome_iff_exists.mp h.buffer
    simp [startCapture, hb, h.capacity]
  unfold executeMain
  rw [bind_of_some (value_modify _ g), state_modify, get_bind, hready,
    if_neg Bool.false_ne_true, bind_of_some (value_guestCalls _ _),
    bind_of_some (value_modify _ _), state_modify, reportEnd_apply rfl, hlog]
  simp only [hrep.overflow]
  exact ⟨rfl, rfl⟩

/-- **The helper on the globals of the source** makes the OCALLs of `Worker.executeMain`, and
succeeds when it does. -/
theorem executeMain_refines {g : CaptureGlobals} (h : g.Prepared) (env : RunEnv) (wasm : Bytes)
    (argument : Option Bytes) (s : RunState) :
    (Worker.executeMain env wasm argument g.globalOutputCapacity s).log =
        .executeMain wasm argument :: (executeMain (env.guest wasm argument) g).log ∧
      (Worker.executeMain env wasm argument g.globalOutputCapacity s).value.isSome =
        (executeMain (env.guest wasm argument) g).value.isSome := by
  obtain ⟨hlog, hvalue⟩ := executeMain_of_prepared h (env.guest wasm argument)
  have hsome : ∀ (c : Bool) (final : ExecState g.globalOutputCapacity),
      (if c then some final else none).isSome = (if c then some () else none).isSome := by
    intro c final
    cases c <;> rfl
  rw [executeMain_apply, hlog, hvalue]
  exact ⟨rfl, hsome _ _⟩

end CaptureGlobals

/-! ## The helper -/

/-- What a module does: the calls of its start function, and the execution of its `main`. -/
structure ModuleRun where
  startCalls : List GuestCall
  main : GuestRun

namespace CaptureGlobals

/-- `run_wasm_helper` up to `wasm_runtime_load`. -/
def loadModule (env : RunEnv) (wasm : Bytes) : Proc Event CaptureGlobals Unit := do
  require (wasm != []) do
    enclavePrint (CStr.lit "Load module failed.\n")
    enclavePrint (CStr.lit "empty wasm buffer")
  require (env.ok .wasmCopyMalloc) do
    enclavePrint (CStr.lit "Load module failed.\n")
    enclavePrint (CStr.lit "malloc failed for wasm copy")
  match env.load wasm with
  | .ok () => pure ()
  | .error text => do
    enclavePrint (CStr.lit "Load module failed.\n")
    enclavePrint text
    stop

/-- The result of `wasm_runtime_instantiate`, and `wasm_runtime_create_exec_env`. -/
def finishInstance (env : RunEnv) (wasm : Bytes) : Proc Event CaptureGlobals Unit := do
  match env.instantiate wasm with
  | .ok () => pure ()
  | .error text => do
    enclavePrint (CStr.lit "Instantiate module failed. Error: ")
    enclavePrint text
    enclavePrint (CStr.lit "\n")
    stop
  require (env.ok .execEnv) (enclavePrint (CStr.lit "Create exec env failed.\n"))

/-- `run_wasm_helper`. -/
def runWasmHelper (env : RunEnv) (wasm : Bytes) (run : ModuleRun) :
    Proc Event CaptureGlobals Unit := do
  loadModule env wasm
  guestCalls run.startCalls
  finishInstance env wasm
  executeMain run.main

end CaptureGlobals

/-- The globals behind `output_capture_prepare`. -/
structure PreparedCapture where
  globals : CaptureGlobals
  prepared : globals.Prepared

/-- The runtime loads the module. -/
structure Loads (env : RunEnv) (wasm : Bytes) : Prop where
  nonempty : wasm ≠ []
  copied : env.ok .wasmCopyMalloc = true
  loaded : env.load wasm = .ok ()

/-- The runtime makes an instance of it, with an execution environment. -/
structure Instantiates (env : RunEnv) (wasm : Bytes) : Prop where
  instantiated : env.instantiate wasm = .ok ()
  execEnv : env.ok .execEnv = true

theorem moduleStarts_iff {env : RunEnv} {wasm : Bytes} :
    ModuleStarts env wasm ↔ Loads env wasm ∧ Instantiates env wasm := by
  constructor
  · exact fun h => ⟨⟨h.nonempty, h.copied, h.loaded⟩, ⟨h.instantiated, h.execEnv⟩⟩
  · exact fun h =>
      ⟨h.1.nonempty, h.1.copied, h.1.loaded, h.2.instantiated, h.2.execEnv⟩

/-! ## Two executions -/

/-- Two calls with the same lengths; what is written to another file descriptor than 1 and 2, and
a timestamp, are the same. -/
inductive GuestCall.SameShape : GuestCall → GuestCall → Prop
  | print {m m' : CStr} (h : m.strlen = m'.strlen) : SameShape (.print m) (.print m')
  | setOutput {d d' : Option Bytes} (h : d.map List.length = d'.map List.length) :
    SameShape (.workloadSetOutput d) (.workloadSetOutput d')
  | wasiWrite {fd : ℕ} {d d' : Bytes} (hfd : fd = 1 ∨ fd = 2) (h : d.length = d'.length) :
    SameShape (.wasiWrite fd d) (.wasiWrite fd d')
  | same (c : GuestCall) : SameShape c c

/-- **Two executions** that make the same sequence of calls with the same lengths. -/
structure ModuleRun.SameShape (r r' : ModuleRun) : Prop where
  startCalls : List.Forall₂ GuestCall.SameShape r.startCalls r'.startCalls
  calls : List.Forall₂ GuestCall.SameShape r.main.calls r'.main.calls
  ok : r.main.ok = r'.main.ok

/-- **The output of an execution is sealed**: the OCALLs of the helper are the same in every
execution of the same shape. -/
def OutputSealed (env : RunEnv) (wasm : Bytes) (c : PreparedCapture) (r : ModuleRun) : Prop :=
  ∀ r', r.SameShape r' →
    (CaptureGlobals.runWasmHelper env wasm r' c.globals).log =
      (CaptureGlobals.runWasmHelper env wasm r c.globals).log

/-! ### What lengths decide -/

section Lengths

variable {capacity : ℕ} (c : OutputCapture capacity)

theorem OutputCapture.pos_capturePrint (m : CStr) :
    (c.capturePrint m).pos = if c.pos + m.strlen ≤ capacity then c.pos + m.strlen else c.pos := by
  unfold OutputCapture.capturePrint
  split
  · rfl
  · rfl

theorem OutputCapture.overflow_capturePrint (m : CStr) :
    (c.capturePrint m).overflow =
      if c.pos + m.strlen ≤ capacity then c.overflow else true := by
  unfold OutputCapture.capturePrint
  split
  · rfl
  · rfl

/-- The lengths that `c1_workload_set_output` takes. -/
def settable (capacity : ℕ) : Option ℕ → Bool
  | none => false
  | some n => 0 < n && n ≤ capacity

theorem OutputCapture.pos_captureSetOutput (d : Option Bytes) :
    (c.captureSetOutput d).pos =
      if settable capacity (d.map List.length) then (d.map List.length).getD 0 else c.pos := by
  cases d with
  | none => rfl
  | some d =>
    by_cases h : 0 < d.length ∧ d.length ≤ capacity
    · rw [OutputCapture.captureSetOutput, dif_pos h, if_pos (by simpa [settable] using h)]
      rfl
    · rw [OutputCapture.captureSetOutput, dif_neg h, if_neg (by simpa [settable] using h)]
      rfl

theorem OutputCapture.overflow_captureSetOutput (d : Option Bytes) :
    (c.captureSetOutput d).overflow =
      if settable capacity (d.map List.length) then c.overflow else true := by
  cases d with
  | none => rfl
  | some d =>
    by_cases h : 0 < d.length ∧ d.length ≤ capacity
    · rw [OutputCapture.captureSetOutput, dif_pos h, if_pos (by simpa [settable] using h)]
    · rw [OutputCapture.captureSetOutput, dif_neg h, if_neg (by simpa [settable] using h)]
      rfl

end Lengths

/-- Where the output ends and what overflows, after one call. -/
theorem sameShape_call {capacity : ℕ} {c c' : GuestCall} (h : c.SameShape c')
    {s s' : ExecState capacity} (hpos : s.capture.pos = s'.capture.pos)
    (hover : s.capture.overflow = s'.capture.overflow) :
    (s.call c).capture.pos = (s'.call c').capture.pos ∧
      (s.call c).capture.overflow = (s'.call c').capture.overflow := by
  have hprint : ∀ {m m' : CStr}, m.strlen = m'.strlen →
      (s.call (.print m)).capture.pos = (s'.call (.print m')).capture.pos ∧
        (s.call (.print m)).capture.overflow = (s'.call (.print m')).capture.overflow := by
    intro m m' hlen
    simp only [ExecState.call, OutputCapture.pos_capturePrint,
      OutputCapture.overflow_capturePrint, hpos, hover, hlen, and_self]
  have hset : ∀ {d d' : Option Bytes}, d.map List.length = d'.map List.length →
      (s.call (.workloadSetOutput d)).capture.pos =
          (s'.call (.workloadSetOutput d')).capture.pos ∧
        (s.call (.workloadSetOutput d)).capture.overflow =
          (s'.call (.workloadSetOutput d')).capture.overflow := by
    intro d d' hlen
    simp only [ExecState.call, OutputCapture.pos_captureSetOutput,
      OutputCapture.overflow_captureSetOutput, hpos, hover, hlen, and_self]
  cases h with
  | print hlen => exact hprint hlen
  | setOutput hlen => exact hset hlen
  | wasiWrite hfd hlen => exact ⟨hpos, hover⟩
  | same =>
    cases c with
    | print m => exact hprint rfl
    | workloadSetOutput d => exact hset rfl
    | workloadTscBegin tsc => exact ⟨hpos, hover⟩
    | workloadTscEnd tsc => exact ⟨hpos, hover⟩
    | wasiWrite fd d => exact ⟨hpos, hover⟩

/-- **What overflows** is decided by the lengths. -/
theorem sameShape_execute {capacity : ℕ} {calls calls' : List GuestCall}
    (h : List.Forall₂ GuestCall.SameShape calls calls') {s s' : ExecState capacity}
    (hpos : s.capture.pos = s'.capture.pos) (hover : s.capture.overflow = s'.capture.overflow) :
    (calls.foldl ExecState.call s).capture.overflow =
      (calls'.foldl ExecState.call s').capture.overflow := by
  induction h generalizing s s' with
  | nil => exact hover
  | cons hc _ ih =>
    obtain ⟨hpos', hover'⟩ := sameShape_call hc hpos hover
    exact ih hpos' hover'

/-! ### What the host sees -/

/-! ### What the host sees -/

/-- The OCALLs of a call, with the flag up or down. -/
def GuestCall.observed (capturing : Bool) : GuestCall → List Event
  | .wasiWrite fd data => [.ocallWritev fd data]
  | .print message => if capturing then [] else [.ocallPrint message.bytes]
  | .workloadSetOutput _ | .workloadTscBegin _ | .workloadTscEnd _ => []

theorem GuestCall.observed_true (c : GuestCall) : c.observed true = c.ocalls := by
  cases c <;> rfl

/-- The call puts bytes out in the clear: to standard output or standard error, or in a print
with the flag down. -/
def GuestCall.LeavesOpen (capturing : Bool) : GuestCall → Prop
  | .wasiWrite fd data => (fd = 1 ∨ fd = 2) ∧ data ≠ []
  | .print message => capturing = false ∧ message.bytes ≠ []
  | .workloadSetOutput _ | .workloadTscBegin _ | .workloadTscEnd _ => False

variable {capturing : Bool}

/-- Calls of one shape that put nothing out in the clear make the same OCALLs. -/
theorem observed_eq_of_sameShape {c c' : GuestCall} (h : c.SameShape c')
    (hc : ¬ c.LeavesOpen capturing) : c'.observed capturing = c.observed capturing := by
  cases h with
  | print hlen =>
    rename_i m m'
    cases capturing with
    | true => rfl
    | false =>
      have hm : m.bytes = [] := by
        by_contra hne
        exact hc ⟨rfl, hne⟩
      have hm' : m'.bytes = [] := by
        rw [CStr.strlen, hm] at hlen
        exact List.length_eq_zero_iff.mp hlen.symm
      simp only [GuestCall.observed, hm, hm']
  | setOutput => rfl
  | wasiWrite hfd hlen =>
    rename_i fd d d'
    have hd : d = [] := by
      by_contra hne
      exact hc ⟨hfd, hne⟩
    subst hd
    rw [List.length_eq_zero_iff.mp hlen.symm]
  | same => rfl

/-- Another byte, and not NUL. -/
def alterByte (b : UInt8) : UInt8 := if b = 1 then 2 else 1

theorem alterByte_ne (b : UInt8) : alterByte b ≠ b := by
  unfold alterByte
  split
  · rename_i h
    rw [h]
    decide
  · exact fun h' => absurd h'.symm ‹_›

theorem alterByte_ne_zero (b : UInt8) : alterByte b ≠ 0 := by
  unfold alterByte
  split
  · decide
  · decide

theorem map_alterByte_ne {b : Bytes} (h : b ≠ []) : b.map alterByte ≠ b := by
  obtain ⟨x, rest, rfl⟩ := List.exists_cons_of_ne_nil h
  exact fun heq => alterByte_ne x (List.cons.inj heq).1

theorem alterByte_noNul (m : CStr) : ∀ b ∈ m.bytes.map alterByte, b ≠ 0 := by
  intro b hb
  obtain ⟨x, -, rfl⟩ := List.mem_map.mp hb
  exact alterByte_ne_zero x

/-- A text of the same length with other bytes. -/
def alterText (m : CStr) : CStr := ⟨m.bytes.map alterByte, alterByte_noNul m⟩

/-- The same call with other bytes in what it puts out. -/
def GuestCall.altered : GuestCall → GuestCall
  | .wasiWrite fd data => if fd = 1 ∨ fd = 2 then .wasiWrite fd (data.map alterByte)
    else .wasiWrite fd data
  | .print message => .print (alterText message)
  | c => c

theorem GuestCall.sameShape_altered (c : GuestCall) : c.SameShape c.altered := by
  cases c with
  | wasiWrite fd data =>
    by_cases hfd : fd = 1 ∨ fd = 2
    · rw [GuestCall.altered, if_pos hfd]
      exact .wasiWrite hfd (List.length_map _).symm
    · rw [GuestCall.altered, if_neg hfd]
      exact .same _
  | print message => exact .print (List.length_map _).symm
  | workloadSetOutput | workloadTscBegin | workloadTscEnd => exact .same _

/-- Other bytes are another OCALL. -/
theorem GuestCall.observed_altered_ne {c : GuestCall} (h : c.LeavesOpen capturing) :
    c.altered.observed capturing ≠ c.observed capturing := by
  cases c with
  | wasiWrite fd data =>
    obtain ⟨hfd, hne⟩ := h
    rw [GuestCall.altered, if_pos hfd]
    intro heq
    simp only [GuestCall.observed, List.cons.injEq, Event.ocallWritev.injEq] at heq
    exact map_alterByte_ne hne heq.1.2
  | print message =>
    obtain ⟨rfl, hne⟩ := h
    intro heq
    simp only [GuestCall.observed, GuestCall.altered, Bool.false_eq_true, if_false,
      List.cons.injEq, Event.ocallPrint.injEq] at heq
    exact map_alterByte_ne hne heq.1
  | workloadSetOutput | workloadTscBegin | workloadTscEnd => exact h.elim

/-- A call makes as many OCALLs after altering. -/
theorem GuestCall.length_observed_altered (c : GuestCall) :
    (c.altered.observed capturing).length = (c.observed capturing).length := by
  cases c with
  | wasiWrite fd data =>
    by_cases hfd : fd = 1 ∨ fd = 2
    · rw [GuestCall.altered, if_pos hfd]
      rfl
    · rw [GuestCall.altered, if_neg hfd]
  | print message => cases capturing <;> rfl
  | workloadSetOutput | workloadTscBegin | workloadTscEnd => rfl

/-- The OCALLs of a list of calls. -/
def observedAll (capturing : Bool) (calls : List GuestCall) : List Event :=
  calls.flatMap (GuestCall.observed capturing)

theorem observedAll_cons (c : GuestCall) (calls : List GuestCall) :
    observedAll capturing (c :: calls) = c.observed capturing ++ observedAll capturing calls :=
  List.flatMap_cons

theorem length_observedAll_altered (calls : List GuestCall) :
    (observedAll capturing (calls.map GuestCall.altered)).length =
      (observedAll capturing calls).length := by
  induction calls with
  | nil => rfl
  | cons c calls ih =>
    rw [List.map_cons, observedAll_cons, observedAll_cons, List.length_append,
      List.length_append, ih, c.length_observed_altered]

/-- A module that puts bytes out in the clear makes other OCALLs when the bytes are others. -/
theorem not_leavesOpen_of_altered {calls : List GuestCall}
    (h : observedAll capturing (calls.map GuestCall.altered) = observedAll capturing calls) :
    ∀ c ∈ calls, ¬ c.LeavesOpen capturing := by
  induction calls with
  | nil => exact fun c hc => absurd hc List.not_mem_nil
  | cons c calls ih =>
    rw [List.map_cons, observedAll_cons, observedAll_cons] at h
    obtain ⟨hc, hrest⟩ := List.append_inj h c.length_observed_altered
    intro d hd
    rcases List.mem_cons.mp hd with rfl | hd
    · exact fun hopen => GuestCall.observed_altered_ne hopen hc
    · exact ih hrest d hd

theorem observedAll_eq_of_sameShape {calls calls' : List GuestCall}
    (h : List.Forall₂ GuestCall.SameShape calls calls')
    (hclosed : ∀ c ∈ calls, ¬ c.LeavesOpen capturing) :
    observedAll capturing calls' = observedAll capturing calls := by
  induction h with
  | nil => rfl
  | cons hc _ ih =>
    rw [observedAll_cons, observedAll_cons,
      observed_eq_of_sameShape hc (hclosed _ List.mem_cons_self),
      ih fun d hd => hclosed d (List.mem_cons_of_mem _ hd)]

namespace CaptureGlobals

variable {g : CaptureGlobals}

/-- A call of the start function: the flag is down. -/
theorem prepared_guestCall (h : g.Prepared) (c : GuestCall) :
    (guestCall c g).state.Prepared ∧
      (guestCall c g).state.globalOutputCapacity = g.globalOutputCapacity ∧
      (guestCall c g).log = c.observed false := by
  cases c with
  | print message =>
    show (enclavePrint message g).state.Prepared ∧
      (enclavePrint message g).state.globalOutputCapacity = g.globalOutputCapacity ∧
      (enclavePrint message g).log = [.ocallPrint message.bytes]
    rw [enclavePrint_of_not_capturing h.down]
    exact ⟨h, rfl, rfl⟩
  | workloadSetOutput data =>
    have hrun : c1WorkloadSetOutput data g = modify overflowed g := by
      unfold c1WorkloadSetOutput
      rw [get_bind, h.down]
    show (c1WorkloadSetOutput data g).state.Prepared ∧
      (c1WorkloadSetOutput data g).state.globalOutputCapacity = g.globalOutputCapacity ∧
      (c1WorkloadSetOutput data g).log = []
    rw [hrun]
    exact ⟨⟨h.buffer, h.capacity, h.down⟩, rfl, rfl⟩
  | workloadTscBegin tsc => exact ⟨⟨h.buffer, h.capacity, h.down⟩, rfl, rfl⟩
  | workloadTscEnd tsc => exact ⟨⟨h.buffer, h.capacity, h.down⟩, rfl, rfl⟩
  | wasiWrite fd data =>
    show (writevInternal fd data g).state.Prepared ∧
      (writevInternal fd data g).state.globalOutputCapacity = g.globalOutputCapacity ∧
      (writevInternal fd data g).log = [.ocallWritev fd data]
    rw [writevInternal_apply]
    exact ⟨h, rfl, rfl⟩

/-- The start function of a module. -/
theorem prepared_guestCalls (h : g.Prepared) (calls : List GuestCall) :
    (guestCalls calls g).state.Prepared ∧
      (guestCalls calls g).state.globalOutputCapacity = g.globalOutputCapacity ∧
      (guestCalls calls g).log = observedAll false calls := by
  induction calls generalizing g with
  | nil => exact ⟨h, rfl, rfl⟩
  | cons c calls ih =>
    obtain ⟨hstate, hcapacity, hlog⟩ := prepared_guestCall h c
    obtain ⟨hrest, hcapacities, hlogs⟩ := ih hstate
    rw [guestCalls, bind_of_some (value_guestCall c g), observedAll_cons]
    exact ⟨hrest, hcapacities.trans hcapacity, by rw [hlog, hlogs]⟩

/-- Loading a module changes nothing, or ends the helper. -/
theorem loadModule_of_loads {env : RunEnv} {wasm : Bytes} (h : Loads env wasm) :
    loadModule env wasm g = ⟨[], g, some ()⟩ := by
  have hne : (wasm != []) = true := bne_iff_ne.mpr h.nonempty
  unfold loadModule
  rw [hne, h.copied, h.loaded]
  rfl

theorem value_loadModule_of_not {env : RunEnv} {wasm : Bytes} (h : ¬ Loads env wasm) :
    (loadModule env wasm g).value = none := by
  unfold loadModule
  rw [value_bind, value_require]
  by_cases hne : wasm = []
  · rw [hne]
    rfl
  · rw [bne_iff_ne.mpr hne, if_pos rfl, Option.bind_some, value_bind, value_require]
    cases hcopy : env.ok .wasmCopyMalloc with
    | false => rfl
    | true =>
      rw [if_pos rfl, Option.bind_some]
      cases hload : env.load wasm with
      | ok u => exact absurd ⟨hne, hcopy, hload⟩ h
      | error text =>
        refine Option.eq_none_iff_forall_ne_some.mpr fun u hu => ?_
        obtain ⟨_, _, -, hu⟩ := gives_bind.mp ⟨hu, rfl⟩
        obtain ⟨_, _, -, hu⟩ := gives_bind.mp hu
        exact not_gives_stop hu

/-- So does instantiating it. -/
theorem finishInstance_of_instantiates {env : RunEnv} {wasm : Bytes} (h : Instantiates env wasm) :
    finishInstance env wasm g = ⟨[], g, some ()⟩ := by
  unfold finishInstance
  rw [h.instantiated, h.execEnv]
  rfl

/-- With the flag down, the report of a failed instantiation is the same in all globals. -/
theorem finishInstance_of_not {env : RunEnv} {wasm : Bytes} (h : ¬ Instantiates env wasm) :
    ∃ report, ∀ g : CaptureGlobals, g.captureOutput = false →
      finishInstance env wasm g = ⟨report, g, none⟩ := by
  have hprint : ∀ {g : CaptureGlobals}, g.captureOutput = false → ∀ {β : Type} (message : CStr)
      (k : Proc Event CaptureGlobals β), (enclavePrint message >>= fun _ => k) g =
        ⟨.ocallPrint message.bytes :: (k g).log, (k g).state, (k g).value⟩ := by
    intro g hg β message k
    rw [bind_of_some (by rw [enclavePrint_of_not_capturing hg]; rfl),
      enclavePrint_of_not_capturing hg]
    rfl
  cases hinst : env.instantiate wasm with
  | error text =>
    refine ⟨[.ocallPrint (CStr.lit "Instantiate module failed. Error: ").bytes,
      .ocallPrint text.bytes, .ocallPrint (CStr.lit "\n").bytes], fun g hg => ?_⟩
    unfold finishInstance
    rw [hinst]
    refine (hprint hg _ _).trans ?_
    rw [hprint hg, hprint hg]
    rfl
  | ok u =>
    cases henv : env.ok .execEnv with
    | true => exact absurd ⟨hinst, henv⟩ h
    | false =>
      refine ⟨[.ocallPrint (CStr.lit "Create exec env failed.\n").bytes], fun g hg => ?_⟩
      unfold finishInstance
      rw [hinst, henv]
      exact hprint hg _ stop

end CaptureGlobals

/-- What `main` and the report behind it show. -/
def mainLog (c : PreparedCapture) (run : GuestRun) : List Event :=
  observedAll true run.calls ++
    reportEnd run.ok (ExecState.execute c.globals.globalOutputCapacity run.calls).capture.overflow

namespace CaptureGlobals

variable {env : RunEnv} {wasm : Bytes}

/-- The start function does not change what is prepared. -/
theorem executeMain_log {c : PreparedCapture} (calls : List GuestCall) (run : GuestRun) :
    (executeMain run (guestCalls calls c.globals).state).log = mainLog c run := by
  obtain ⟨hprepared, hcapacity, -⟩ := prepared_guestCalls c.prepared calls
  have hcalls : observedAll true run.calls = run.calls.flatMap GuestCall.ocalls :=
    List.flatMap_congr fun call _ => call.observed_true
  rw [(executeMain_of_prepared hprepared run).1, hcapacity, mainLog, hcalls]

/-- **What the host sees** of a module that is instantiated. -/
theorem log_of_instantiates (hloads : Loads env wasm) (hinst : Instantiates env wasm)
    (c : PreparedCapture) (r : ModuleRun) :
    (runWasmHelper env wasm r c.globals).log =
      observedAll false r.startCalls ++ mainLog c r.main := by
  obtain ⟨-, -, hlog⟩ := prepared_guestCalls c.prepared r.startCalls
  rw [runWasmHelper, bind_of_some (by rw [loadModule_of_loads hloads]),
    loadModule_of_loads hloads, bind_of_some (value_guestCalls _ _),
    bind_of_some (by rw [finishInstance_of_instantiates hinst]),
    finishInstance_of_instantiates hinst, hlog, executeMain_log]
  rfl

/-- What it sees of a module that is loaded and not instantiated. -/
theorem log_of_not_instantiates (hloads : Loads env wasm) (hinst : ¬ Instantiates env wasm)
    (c : PreparedCapture) :
    ∃ report, ∀ r : ModuleRun, (runWasmHelper env wasm r c.globals).log =
      observedAll false r.startCalls ++ report := by
  obtain ⟨report, hreport⟩ := finishInstance_of_not hinst
  refine ⟨report, fun r => ?_⟩
  obtain ⟨hprepared, -, hlog⟩ := prepared_guestCalls c.prepared r.startCalls
  have hend := hreport _ hprepared.down
  rw [runWasmHelper, bind_of_some (by rw [loadModule_of_loads hloads]),
    loadModule_of_loads hloads, bind_of_some (value_guestCalls _ _),
    bind_of_none (by rw [hend]), hend, hlog]
  rfl

end CaptureGlobals

/-- **When the output leaves the enclave sealed**: when the start function of the module neither
prints nor writes to standard output and standard error, and `main`, if it comes to it, does not
write there. -/
theorem outputSealed_iff {env : RunEnv} {wasm : Bytes} {c : PreparedCapture} {r : ModuleRun} :
    OutputSealed env wasm c r ↔
      (Loads env wasm → (∀ call ∈ r.startCalls, ¬ call.LeavesOpen false) ∧
        (Instantiates env wasm → ∀ call ∈ r.main.calls, ¬ call.LeavesOpen true)) := by
  have haltered : r.SameShape ⟨r.startCalls.map GuestCall.altered,
      ⟨r.main.calls.map GuestCall.altered, r.main.ok⟩⟩ := by
    refine ⟨?_, ?_, rfl⟩
    · exact List.forall₂_map_right_iff.mpr (List.forall₂_same.mpr fun c _ => c.sameShape_altered)
    · exact List.forall₂_map_right_iff.mpr (List.forall₂_same.mpr fun c _ => c.sameShape_altered)
  have hreport : ∀ r', r.SameShape r' → reportEnd r'.main.ok
      (ExecState.execute c.globals.globalOutputCapacity r'.main.calls).capture.overflow =
        reportEnd r.main.ok
          (ExecState.execute c.globals.globalOutputCapacity r.main.calls).capture.overflow := by
    intro r' h
    rw [← h.ok, ExecState.execute, ExecState.execute, sameShape_execute h.calls rfl rfl]
  by_cases hloads : Loads env wasm
  · by_cases hinst : Instantiates env wasm
    · constructor
      · intro h _
        have hsame := h _ haltered
        rw [CaptureGlobals.log_of_instantiates hloads hinst,
          CaptureGlobals.log_of_instantiates hloads hinst] at hsame
        obtain ⟨hstart, hmain⟩ := List.append_inj hsame (length_observedAll_altered _)
        refine ⟨not_leavesOpen_of_altered hstart, fun _ => not_leavesOpen_of_altered ?_⟩
        exact (List.append_inj hmain (length_observedAll_altered _)).1
      · intro h r' hshape
        obtain ⟨hstart, hmain⟩ := h hloads
        rw [CaptureGlobals.log_of_instantiates hloads hinst,
          CaptureGlobals.log_of_instantiates hloads hinst, mainLog, mainLog, hreport r' hshape,
          observedAll_eq_of_sameShape hshape.startCalls hstart,
          observedAll_eq_of_sameShape hshape.calls (hmain hinst)]
    · obtain ⟨report, hlog⟩ := CaptureGlobals.log_of_not_instantiates hloads hinst c
      constructor
      · intro h _
        have hsame := h _ haltered
        rw [hlog, hlog] at hsame
        obtain ⟨hstart, -⟩ := List.append_inj hsame (length_observedAll_altered _)
        exact ⟨not_leavesOpen_of_altered hstart, fun h => absurd h hinst⟩
      · intro h r' hshape
        rw [hlog, hlog, observedAll_eq_of_sameShape hshape.startCalls (h hloads).1]
  · constructor
    · exact fun _ h => absurd h hloads
    · intro _ r' _
      rw [CaptureGlobals.runWasmHelper, CaptureGlobals.runWasmHelper,
        bind_of_none (CaptureGlobals.value_loadModule_of_not hloads),
        bind_of_none (CaptureGlobals.value_loadModule_of_not hloads)]

/-- Prepared globals with a buffer for one byte. -/
def samplePrepared : PreparedCapture where
  globals := ⟨some [0, 0], 1, 0, false, false, none, none⟩
  prepared := ⟨rfl, Nat.one_ne_zero, rfl⟩

/-- A module whose `main` writes one byte to standard output. -/
def writingRun (b : UInt8) : ModuleRun := ⟨[], [.wasiWrite 1 [b]], true⟩

/-- The host sees the byte. -/
theorem not_forall_outputSealed :
    ¬ ∀ (env : RunEnv) (wasm : Bytes) (c : PreparedCapture) (r : ModuleRun),
      OutputSealed env wasm c r := by
  intro h
  have hshape : (writingRun 104).SameShape (writingRun 105) :=
    ⟨.nil, .cons (.wasiWrite (.inl rfl) rfl) .nil, rfl⟩
  have hsame := h sampleRunEnv [0] samplePrepared (writingRun 104) _ hshape
  exact absurd hsame (by decide +kernel)

end Worker
end AsynCS
