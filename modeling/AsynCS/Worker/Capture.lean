import AsynCS.Worker.State

/-!
# The output of a module

While a module executes, `enclave_print` and `c1_workload_set_output` write to a capture buffer
of the size that the host asked for, and the module can take two timestamps.  Whatever does not
fit raises a flag that makes the run fail.

* `OutputCapture`: the buffer, one byte longer than its capacity, with the position that never
  passes the capacity.
* `capturePrint`, `captureSetOutput`: what the two calls write.
* `GuestCall`, `GuestRun`, `ExecState`, `execute`: a module as the calls it makes, and what
  they leave.  A WASI write goes to an OCALL: the capture hook that the patched runtime calls
  is a weak function, and the worker defines no other.
-/

namespace AsynCS
namespace Worker

/-- `global_output_buffer` and its globals, for a capacity. -/
structure OutputCapture (capacity : ℕ) where
  buffer : Block (capacity + 1)
  pos : ℕ
  pos_le : pos ≤ capacity
  overflow : Bool

/-- `ASYNCS_MAX_OUTPUT_CAPACITY_BYTES` -/
def asyncsMaxOutputCapacityBytes : ℕ := 1024 * 1024

/-- `output_capture_prepare` succeeds. -/
def outputCapturePrepare (malloc : Bool) (capacity : ℕ) : Bool :=
  !(capacity == 0 || asyncsMaxOutputCapacityBytes < capacity) && malloc

namespace OutputCapture

variable {capacity : ℕ}

/-- The buffer as `run_wasm_helper` hands it to a module. -/
def cleared (capacity : ℕ) : OutputCapture capacity :=
  ⟨Block.fill (capacity + 1) 0, 0, Nat.zero_le capacity, false⟩

/-- The bytes that were captured. -/
def output (c : OutputCapture capacity) : Bytes := c.buffer.toList.take c.pos

/-- The flag is raised. -/
def overflowed (c : OutputCapture capacity) : OutputCapture capacity := { c with overflow := true }

/-- `enclave_print` while a module executes. -/
def capturePrint (c : OutputCapture capacity) (message : CStr) : OutputCapture capacity :=
  if h : c.pos + message.strlen ≤ capacity then
    { c with
      buffer := c.buffer.write c.pos message.bytes (le_trans h (Nat.le_succ capacity))
      pos := c.pos + message.strlen
      pos_le := h }
  else c.overflowed

theorem le_of_fits {data : Bytes} (h : 0 < data.length ∧ data.length ≤ capacity) :
    data.length ≤ capacity := h.2

theorem data_inside {data : Bytes} (h : 0 < data.length ∧ data.length ≤ capacity) :
    0 + data.length ≤ capacity + 1 := by
  have hle : data.length ≤ capacity := h.2
  omega

theorem terminator_inside {data : Bytes} (h : 0 < data.length ∧ data.length ≤ capacity) :
    data.length + [(0 : UInt8)].length ≤ capacity + 1 := Nat.succ_le_succ h.2

/-- `c1_workload_set_output`, with `none` for a NULL pointer. -/
def captureSetOutput (c : OutputCapture capacity) (data : Option Bytes) :
    OutputCapture capacity :=
  match data with
  | none => c.overflowed
  | some data =>
    if h : 0 < data.length ∧ data.length ≤ capacity then
      { c with
        buffer := (c.buffer.write 0 data (data_inside h)).write data.length [0]
          (terminator_inside h)
        pos := data.length
        pos_le := le_of_fits h }
    else c.overflowed

theorem length_output (c : OutputCapture capacity) : c.output.length = c.pos := by
  have h := c.pos_le
  rw [output, List.length_take, List.Vector.toList_length]
  omega

end OutputCapture

/-! ## Execution -/

/-- A call of a module to its host. -/
inductive GuestCall where
  /-- a print of the runtime -/
  | print (message : CStr)
  | workloadSetOutput (data : Option Bytes)
  | workloadTscBegin (tsc : UInt64)
  | workloadTscEnd (tsc : UInt64)
  /-- `fd_write` on a file descriptor -/
  | wasiWrite (fd : ℕ) (data : Bytes)
  deriving DecidableEq

/-- What the execution of a module does: its calls in order, and whether `main` succeeds. -/
structure GuestRun where
  calls : List GuestCall
  ok : Bool
  deriving DecidableEq

/-- The capture buffer and the workload timestamps during an execution. -/
structure ExecState (capacity : ℕ) where
  capture : OutputCapture capacity
  workloadTscBegin : Option UInt64
  workloadTscEnd : Option UInt64

namespace ExecState

variable {capacity : ℕ}

/-- The state in which a module starts. -/
def start (capacity : ℕ) : ExecState capacity := ⟨OutputCapture.cleared capacity, none, none⟩

/-- One call. -/
def call (s : ExecState capacity) : GuestCall → ExecState capacity
  | .print message => { s with capture := s.capture.capturePrint message }
  | .workloadSetOutput data => { s with capture := s.capture.captureSetOutput data }
  | .workloadTscBegin tsc => { s with workloadTscBegin := some tsc }
  | .workloadTscEnd tsc => { s with workloadTscEnd := some tsc }
  | .wasiWrite _ _ => s

/-- The state after the calls of a module. -/
def execute (capacity : ℕ) (calls : List GuestCall) : ExecState capacity :=
  calls.foldl call (start capacity)

end ExecState

/-- The OCALLs of one call. -/
def GuestCall.ocalls : GuestCall → List Event
  | .wasiWrite fd data => [.ocallWritev fd data]
  | .print _ | .workloadSetOutput _ | .workloadTscBegin _ | .workloadTscEnd _ => []

/-- The OCALLs of one call of a start function, which runs while nothing is captured. -/
def GuestCall.startOcalls : GuestCall → List Event
  | .print message => [.ocallPrint message.bytes]
  | .wasiWrite fd data => [.ocallWritev fd data]
  | .workloadSetOutput _ | .workloadTscBegin _ | .workloadTscEnd _ => []

/-- Make the OCALLs of a list of calls. -/
def emitOcalls {σ : Type} : List Event → Proc Event σ Unit
  | [] => pure ()
  | e :: es => do
    Proc.emit e
    emitOcalls es

/-- The event is an OCALL. -/
def Event.IsOcall (e : Event) : Prop :=
  (∃ message, e = .ocallPrint message) ∨ ∃ fd data, e = .ocallWritev fd data

theorem GuestCall.isOcall_of_mem_ocalls {calls : List GuestCall} {e : Event}
    (he : e ∈ calls.flatMap GuestCall.ocalls) : e.IsOcall := by
  obtain ⟨c, -, he⟩ := List.mem_flatMap.mp he
  cases c with
  | wasiWrite fd data => exact Or.inr ⟨fd, data, List.mem_singleton.mp he⟩
  | print | workloadSetOutput | workloadTscBegin | workloadTscEnd => exact absurd he List.not_mem_nil

theorem GuestCall.isOcall_of_mem_startOcalls {calls : List GuestCall} {e : Event}
    (he : e ∈ calls.flatMap GuestCall.startOcalls) : e.IsOcall := by
  obtain ⟨c, -, he⟩ := List.mem_flatMap.mp he
  cases c with
  | print message => exact Or.inl ⟨message.bytes, List.mem_singleton.mp he⟩
  | wasiWrite fd data => exact Or.inr ⟨fd, data, List.mem_singleton.mp he⟩
  | workloadSetOutput | workloadTscBegin | workloadTscEnd => exact absurd he List.not_mem_nil

/-- OCALLs change nothing. -/
theorem frame_emitOcalls {σ : Type} {events : List Event} (h : ∀ e ∈ events, e.IsOcall) :
    Proc.Frame Eq Event.IsOcall (emitOcalls events : Proc Event σ Unit) := by
  induction events with
  | nil => exact Proc.Frame.pure ()
  | cons e events ih =>
    have hfirst : Proc.Frame Eq Event.IsOcall (Proc.emit e : Proc Event σ Unit) :=
      Proc.Frame.emit (h e List.mem_cons_self)
    exact hfirst.bind fun _ => ih fun e' he' => h e' (List.mem_cons_of_mem e he')

@[simp] theorem gives_emitOcalls {σ : Type} {events : List Event} {s s' : σ} {u : Unit} :
    Proc.Gives (emitOcalls events) s u s' ↔ s' = s := by
  induction events with
  | nil => simp [emitOcalls]
  | cons e events ih => simp [emitOcalls, Proc.gives_bind, ih]

end Worker
end AsynCS
