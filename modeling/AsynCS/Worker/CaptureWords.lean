import AsynCS.Lib.ProcRefines
import AsynCS.Worker.OutputRoutes

/-!
# The capture buffer in machine words

`global_output_pos` and `global_output_capacity` are `uint32_t`, the length of a printed text is a
`size_t`, and the buffer is an allocation of `capacity + 1` bytes that is written through a
pointer.

* `CaptureWords`: the globals with these widths; `MemoryEvent.write`: the bytes of a write.
* `WordCall`: a call of a module, with lengths that the widths hold.
* `outputCaptureRelease`, `outputCapturePrepare`, `runWasmHelper`: the functions of the source.
* `erase`: the words as numbers; `refines_runWasmHelper`: the helper on words does what it does on
  numbers.
* `Inside`: the writes stay inside the allocation; `inside_runWasmHelper`.
-/

namespace AsynCS
namespace Worker

open Proc

/-- The globals of the capture, in machine words. -/
structure CaptureWords where
  globalOutputBuffer : Option Bytes
  globalOutputCapacity : UInt32
  globalOutputPos : UInt32
  captureOutput : Bool
  captureOutputOverflow : Bool
  workloadTscBegin : Option UInt64
  workloadTscEnd : Option UInt64

/-- An OCALL, or a write of bytes to the buffer of that many allocated bytes. -/
inductive MemoryEvent where
  | ocall (e : Event)
  | write (allocated offset length : ℕ)

/-- The OCALL of an event. -/
def MemoryEvent.ocall? : MemoryEvent → Option Event
  | ocall e => some e
  | write _ _ _ => none

/-- The event writes to a buffer of that capacity, at most up to the byte behind it. -/
def MemoryEvent.Inside (capacity : ℕ) : MemoryEvent → Prop
  | ocall _ => True
  | write allocated offset length => allocated = capacity + 1 ∧ offset + length ≤ capacity + 1

/-- The lengths of a call are those of the source: a text in memory is shorter than half the
address space, and an output has a `uint32_t` length. -/
def GuestCall.Sized : GuestCall → Prop
  | .print message => message.strlen < 2 ^ 63
  | .workloadSetOutput (some data) => data.length < 2 ^ 32
  | .workloadSetOutput none => True
  | .workloadTscBegin _ => True
  | .workloadTscEnd _ => True
  | .wasiWrite _ _ => True

/-- A call of a module. -/
abbrev WordCall := { c : GuestCall // c.Sized }

namespace CaptureWords

/-- `memcpy` of bytes to the buffer at an offset. -/
def memcpy (offset : ℕ) (data : Bytes) : Proc MemoryEvent CaptureWords Unit := do
  let g ← get
  match g.globalOutputBuffer with
  | some buffer => do
    emit (.write buffer.length offset data.length)
    modify fun g => { g with globalOutputBuffer := some (memcpyAt buffer offset data) }
  | none => pure ()

/-- `capture_output_overflow = true`. -/
def overflowed (g : CaptureWords) : CaptureWords := { g with captureOutputOverflow := true }

/-- `enclave_print`. -/
def enclavePrint (message : CStr) : Proc MemoryEvent CaptureWords Unit := do
  let g ← get
  if g.captureOutput then do
    let len := UInt64.ofNat message.strlen
    if g.globalOutputBuffer.isSome &&
        decide (g.globalOutputPos.toUInt64 + len ≤ g.globalOutputCapacity.toUInt64) then do
      memcpy g.globalOutputPos.toNat message.bytes
      modify fun g => { g with globalOutputPos := g.globalOutputPos + len.toUInt32 }
    else modify overflowed
  else emit (.ocall (.ocallPrint message.bytes))

/-- `c1_workload_set_output`. -/
def c1WorkloadSetOutput (data : Option Bytes) : Proc MemoryEvent CaptureWords Unit := do
  let g ← get
  match g.captureOutput, g.globalOutputBuffer, data with
  | true, some _, some data => do
    let len := UInt32.ofNat data.length
    if len = 0 ∨ g.globalOutputCapacity < len then modify overflowed
    else do
      memcpy 0 data
      memcpy len.toNat [0]
      modify fun g => { g with globalOutputPos := len }
  | _, _, _ => modify overflowed

/-- `writev_internal`. -/
def writevInternal (fd : ℕ) (data : Bytes) : Proc MemoryEvent CaptureWords Unit :=
  emit (.ocall (.ocallWritev fd data))

/-- What the host does for one call of a module. -/
def guestCall : GuestCall → Proc MemoryEvent CaptureWords Unit
  | .print message => enclavePrint message
  | .workloadSetOutput data => c1WorkloadSetOutput data
  | .workloadTscBegin tsc => modify fun g => { g with workloadTscBegin := some tsc }
  | .workloadTscEnd tsc => modify fun g => { g with workloadTscEnd := some tsc }
  | .wasiWrite fd data => writevInternal fd data

/-- The calls of a module. -/
def guestCalls : List WordCall → Proc MemoryEvent CaptureWords Unit
  | [] => pure ()
  | c :: calls => do
    guestCall c.1
    guestCalls calls

/-- `output_capture_release`: the bytes are zeroed one after the other, up to a bound that is
computed in 32 bits. -/
def outputCaptureRelease : Proc MemoryEvent CaptureWords Unit := do
  let g ← get
  memcpy 0 (List.replicate (g.globalOutputCapacity + 1).toNat 0)
  modify fun g => { g with
    globalOutputBuffer := none, globalOutputCapacity := 0, globalOutputPos := 0 }

/-- `output_capture_prepare`, with what `malloc` returns. -/
def outputCapturePrepare (malloc : (n : ℕ) → Option (Block n)) (capacity : UInt32) :
    Proc MemoryEvent CaptureWords Unit := do
  outputCaptureRelease
  require (!(capacity == 0 || decide (1048576 < capacity))) (pure ())
  let allocated ← orStop (malloc (capacity.toNat + 1)) (pure ())
  modify fun g => { g with
    globalOutputBuffer := some allocated.toList, globalOutputCapacity := capacity }
  memcpy 0 (List.replicate (capacity.toNat + 1) 0)

/-- `run_wasm_helper` up to `wasm_runtime_load`. -/
def loadModule (env : RunEnv) (wasm : Bytes) : Proc MemoryEvent CaptureWords Unit := do
  require (wasm != []) do
    enclavePrint (CStr.lit "Load module failed.\n")
    enclavePrint (CStr.lit "empty wasm buffer")
  require (env.ok .wasmCopyMalloc) do
    enclavePrint (CStr.lit "Load module failed.\n")
    enclavePrint (CStr.lit "malloc failed for wasm copy")
  match env.load wasm with
  | .ok () => pure ()
  | .error text => do
    enclavePrint (CStr.lit "Load module failed.\n")
    enclavePrint text
    stop

/-- The result of `wasm_runtime_instantiate`, and `wasm_runtime_create_exec_env`. -/
def finishInstance (env : RunEnv) (wasm : Bytes) : Proc MemoryEvent CaptureWords Unit := do
  match env.instantiate wasm with
  | .ok () => pure ()
  | .error text => do
    enclavePrint (CStr.lit "Instantiate module failed. Error: ")
    enclavePrint text
    enclavePrint (CStr.lit "\n")
    stop
  require (env.ok .execEnv) (enclavePrint (CStr.lit "Create exec env failed.\n"))

/-- `wasm_application_execute_main`, and the rest of `run_wasm_helper`. -/
def finishMain (calls : List WordCall) (ok : Bool) : Proc MemoryEvent CaptureWords Unit := do
  guestCalls calls
  modify fun g => { g with captureOutput := false }
  onlyIf (!ok) (enclavePrint (CStr.lit "Execute main failed.\n"))
  let g ← get
  require (!g.captureOutputOverflow)
    (enclavePrint (CStr.lit "WASM output exceeded enclave capture buffer.\n"))
  require ok (pure ())

/-- The part of `run_wasm_helper` that starts the capture and executes the module. -/
def executeMain (calls : List WordCall) (ok : Bool) : Proc MemoryEvent CaptureWords Unit := do
  modify fun g => { g with
    captureOutput := true, captureOutputOverflow := false, globalOutputPos := 0 }
  let g ← get
  if g.globalOutputBuffer.isNone || g.globalOutputCapacity == 0 then do
    modify fun g => { g with captureOutput := false }
    enclavePrint (CStr.lit "WASM output capture buffer is not prepared.\n")
    stop
  else do
    memcpy 0 (List.replicate (g.globalOutputCapacity.toNat + 1) 0)
    modify fun g => { g with workloadTscBegin := none, workloadTscEnd := none }
    finishMain calls ok

end CaptureWords

/-- What a module does, in calls that the widths hold. -/
structure WordRun where
  startCalls : List WordCall
  calls : List WordCall
  ok : Bool

/-- The calls of a module. -/
def WordRun.toModuleRun (r : WordRun) : ModuleRun :=
  ⟨r.startCalls.map Subtype.val, r.calls.map Subtype.val, r.ok⟩

namespace CaptureWords

/-- `run_wasm_helper`. -/
def runWasmHelper (env : RunEnv) (wasm : Bytes) (run : WordRun) :
    Proc MemoryEvent CaptureWords Unit := do
  loadModule env wasm
  guestCalls run.startCalls
  finishInstance env wasm
  executeMain run.calls run.ok

/-! ## Words and numbers -/

/-- The globals with numbers for the words. -/
def erase (g : CaptureWords) : CaptureGlobals where
  globalOutputBuffer := g.globalOutputBuffer
  globalOutputCapacity := g.globalOutputCapacity.toNat
  globalOutputPos := g.globalOutputPos.toNat
  captureOutput := g.captureOutput
  captureOutputOverflow := g.captureOutputOverflow
  workloadTscBegin := g.workloadTscBegin
  workloadTscEnd := g.workloadTscEnd

/-- On these globals, the procedure on words does what the one on numbers does. -/
abbrev Erases {α : Type} (p : Proc MemoryEvent CaptureWords α) (q : Proc Event CaptureGlobals α)
    (g : CaptureWords) : Prop := Refines erase MemoryEvent.ocall? p q g

theorem memcpy_apply {g : CaptureWords} {buffer : Bytes} (h : g.globalOutputBuffer = some buffer)
    (offset : ℕ) (data : Bytes) :
    memcpy offset data g = ⟨[.write buffer.length offset data.length],
      { g with globalOutputBuffer := some (memcpyAt buffer offset data) }, some ()⟩ := by
  unfold memcpy
  rw [get_bind, h]
  rfl

/-- The test of `enclave_print`, in 64 bits, is the test on numbers. -/
theorem print_fits_iff {pos capacity : UInt32} {n : ℕ} (h : n < 2 ^ 63) :
    pos.toUInt64 + UInt64.ofNat n ≤ capacity.toUInt64 ↔ pos.toNat + n ≤ capacity.toNat := by
  have hpos := pos.toNat_lt
  rw [UInt64.le_iff_toNat_le, UInt64.toNat_add, UInt32.toNat_toUInt64, UInt32.toNat_toUInt64,
    UInt64.toNat_ofNat_of_lt' (show n < 2 ^ 64 by omega), Nat.mod_eq_of_lt (by omega)]

/-- A position that fits does not wrap around. -/
theorem toNat_pos_add {pos capacity : UInt32} {n : ℕ} (h : pos.toNat + n ≤ capacity.toNat) :
    (pos + (UInt64.ofNat n).toUInt32).toNat = pos.toNat + n := by
  have hcapacity := capacity.toNat_lt
  rw [UInt32.toNat_add, UInt64.toNat_toUInt32,
    UInt64.toNat_ofNat_of_lt' (show n < 2 ^ 64 by omega), Nat.mod_eq_of_lt (show n < 2 ^ 32 by omega),
    Nat.mod_eq_of_lt (by omega)]

/-- With the flag down, a print is an OCALL. -/
theorem enclavePrint_down {g : CaptureWords} (h : g.captureOutput = false) (message : CStr) :
    enclavePrint message g = emit (.ocall (.ocallPrint message.bytes)) g := by
  unfold enclavePrint
  rw [get_bind, h]
  rfl

theorem erases_print_down {g : CaptureWords} (h : g.captureOutput = false) (message : CStr) :
    Erases (enclavePrint message) (CaptureGlobals.enclavePrint message) g := by
  have hnumbers : CaptureGlobals.enclavePrint message g.erase =
      emit (.ocallPrint message.bytes) g.erase := CaptureGlobals.enclavePrint_of_not_capturing h _
  refine ⟨?_, ?_, ?_⟩ <;> rw [enclavePrint_down h, hnumbers] <;> rfl

/-- With the flag down, what follows a print starts where the print did. -/
theorem erases_print_bind {α : Type} {g : CaptureWords} (h : g.captureOutput = false)
    {message : CStr} {p : Proc MemoryEvent CaptureWords α} {q : Proc Event CaptureGlobals α}
    (hrest : Erases p q g) :
    Erases (enclavePrint message >>= fun _ => p)
      (CaptureGlobals.enclavePrint message >>= fun _ => q) g := by
  refine (erases_print_down h message).bind fun _ _ => ?_
  rw [enclavePrint_down h, state_emit]
  exact hrest

/-- A print that fits is one write, at the position. -/
theorem enclavePrint_fits {g : CaptureWords} {message : CStr} {buffer : Bytes}
    (h : message.strlen < 2 ^ 63) (hflag : g.captureOutput = true)
    (hbuffer : g.globalOutputBuffer = some buffer)
    (hfits : g.globalOutputPos.toNat + message.strlen ≤ g.globalOutputCapacity.toNat) :
    enclavePrint message g =
      ⟨[.write buffer.length g.globalOutputPos.toNat message.strlen],
        { g with
          globalOutputBuffer := some (memcpyAt buffer g.globalOutputPos.toNat message.bytes)
          globalOutputPos := g.globalOutputPos + (UInt64.ofNat message.strlen).toUInt32 },
        some ()⟩ := by
  have htest : (g.globalOutputBuffer.isSome && decide (g.globalOutputPos.toUInt64 +
      UInt64.ofNat message.strlen ≤ g.globalOutputCapacity.toUInt64)) = true := by
    rw [hbuffer]
    exact decide_eq_true ((print_fits_iff h).mpr hfits)
  unfold enclavePrint
  rw [get_bind, if_pos hflag, if_pos htest, bind_of_some (by rw [memcpy_apply hbuffer]),
    memcpy_apply hbuffer]
  rfl

/-- Another print raises the flag. -/
theorem enclavePrint_overflows {g : CaptureWords} {message : CStr} (h : message.strlen < 2 ^ 63)
    (hflag : g.captureOutput = true) (hfits : g.globalOutputBuffer = none ∨
      g.globalOutputCapacity.toNat < g.globalOutputPos.toNat + message.strlen) :
    enclavePrint message g = modify overflowed g := by
  have htest : ¬ (g.globalOutputBuffer.isSome && decide (g.globalOutputPos.toUInt64 +
      UInt64.ofNat message.strlen ≤ g.globalOutputCapacity.toUInt64)) = true := by
    rw [Bool.and_eq_true, decide_eq_true_eq, print_fits_iff h]
    rintro ⟨hsome, hle⟩
    rcases hfits with hnone | hlt
    · rw [hnone] at hsome
      cases hsome
    · omega
  unfold enclavePrint
  rw [get_bind, if_pos hflag, if_neg htest]

/-- **A print** of a text that is in memory. -/
theorem erases_enclavePrint {message : CStr} (h : message.strlen < 2 ^ 63) (g : CaptureWords) :
    Erases (enclavePrint message) (CaptureGlobals.enclavePrint message) g := by
  cases hflag : g.captureOutput with
  | false => exact erases_print_down hflag message
  | true =>
    have hup : g.erase.captureOutput = true := hflag
    cases hbuffer : g.globalOutputBuffer with
    | none =>
      have hnone : g.erase.globalOutputBuffer = none := hbuffer
      have hnumbers : CaptureGlobals.enclavePrint message g.erase =
          modify CaptureGlobals.overflowed g.erase := by
        unfold CaptureGlobals.enclavePrint
        rw [get_bind, if_pos hup, hnone]
      refine ⟨?_, ?_, ?_⟩ <;>
        rw [enclavePrint_overflows h hflag (.inl hbuffer), hnumbers] <;> rfl
    | some buffer =>
      have hsome : g.erase.globalOutputBuffer = some buffer := hbuffer
      by_cases hfits : g.globalOutputPos.toNat + message.strlen ≤ g.globalOutputCapacity.toNat
      · have hnumbers : CaptureGlobals.enclavePrint message g.erase =
            modify (CaptureGlobals.captured
              (memcpyAt buffer g.globalOutputPos.toNat message.bytes)
              (g.globalOutputPos.toNat + message.strlen)) g.erase := by
          unfold CaptureGlobals.enclavePrint
          rw [get_bind, if_pos hup, hsome]
          exact congrFun (if_pos hfits) _
        refine ⟨?_, ?_, ?_⟩ <;> rw [enclavePrint_fits h hflag hbuffer hfits, hnumbers]
        · rfl
        · rw [state_modify, erase, toNat_pos_add hfits]
          rfl
        · rfl
      · have hnumbers : CaptureGlobals.enclavePrint message g.erase =
            modify CaptureGlobals.overflowed g.erase := by
          unfold CaptureGlobals.enclavePrint
          rw [get_bind, if_pos hup, hsome]
          exact congrFun (if_neg hfits) _
        refine ⟨?_, ?_, ?_⟩ <;>
          rw [enclavePrint_overflows h hflag (.inr (Nat.lt_of_not_le hfits)), hnumbers] <;> rfl

/-- An output that fits is written at the start, with a terminator behind it. -/
theorem c1WorkloadSetOutput_fits {g : CaptureWords} {data buffer : Bytes}
    (h : data.length < 2 ^ 32) (hflag : g.captureOutput = true)
    (hbuffer : g.globalOutputBuffer = some buffer)
    (hfits : 0 < data.length ∧ data.length ≤ g.globalOutputCapacity.toNat) :
    c1WorkloadSetOutput (some data) g =
      ⟨[.write buffer.length 0 data.length,
          .write (memcpyAt buffer 0 data).length data.length 1],
        { g with
          globalOutputBuffer := some (memcpyAt (memcpyAt buffer 0 data) data.length [0])
          globalOutputPos := UInt32.ofNat data.length },
        some ()⟩ := by
  have hlen : (UInt32.ofNat data.length).toNat = data.length := UInt32.toNat_ofNat_of_lt' h
  have htest : ¬ (UInt32.ofNat data.length = 0 ∨
      g.globalOutputCapacity < UInt32.ofNat data.length) := by
    rw [UInt32.lt_iff_toNat_lt, ← UInt32.toNat_inj, hlen]
    change ¬ (data.length = 0 ∨ g.globalOutputCapacity.toNat < data.length)
    omega
  obtain ⟨_, capacity, pos, _, overflow, first, last⟩ := g
  obtain rfl := hflag
  obtain rfl := hbuffer
  unfold c1WorkloadSetOutput
  rw [get_bind]
  dsimp only
  rw [if_neg htest, hlen, bind_of_some (by rw [memcpy_apply rfl]), memcpy_apply rfl,
    bind_of_some (by rw [memcpy_apply rfl]), memcpy_apply rfl]
  rfl

/-- Another output raises the flag. -/
theorem c1WorkloadSetOutput_overflows {g : CaptureWords} {data : Option Bytes}
    (h : (GuestCall.workloadSetOutput data).Sized)
    (hbad : g.captureOutput = false ∨ g.globalOutputBuffer = none ∨ ∀ d, data = some d →
      d.length = 0 ∨ g.globalOutputCapacity.toNat < d.length) :
    c1WorkloadSetOutput data g = modify overflowed g := by
  unfold c1WorkloadSetOutput
  rw [get_bind]
  cases hflag : g.captureOutput with
  | false => rfl
  | true =>
    cases hbuffer : g.globalOutputBuffer with
    | none => rfl
    | some buffer =>
      cases data with
      | none => rfl
      | some data =>
        have hlen : (UInt32.ofNat data.length).toNat = data.length := UInt32.toNat_ofNat_of_lt' h
        have htest : UInt32.ofNat data.length = 0 ∨
            g.globalOutputCapacity < UInt32.ofNat data.length := by
          rw [UInt32.lt_iff_toNat_lt, ← UInt32.toNat_inj, hlen]
          rcases hbad with hdown | hnone | hlength
          · rw [hflag] at hdown
            cases hdown
          · rw [hbuffer] at hnone
            cases hnone
          · exact hlength data rfl
        dsimp only
        rw [if_pos htest]

/-- **An output** whose length is a `uint32_t`. -/
theorem erases_c1WorkloadSetOutput {data : Option Bytes}
    (h : (GuestCall.workloadSetOutput data).Sized) (g : CaptureWords) :
    Erases (c1WorkloadSetOutput data) (CaptureGlobals.c1WorkloadSetOutput data) g := by
  have hrejected : c1WorkloadSetOutput data g = modify overflowed g →
      CaptureGlobals.c1WorkloadSetOutput data g.erase =
        modify CaptureGlobals.overflowed g.erase →
      Erases (c1WorkloadSetOutput data) (CaptureGlobals.c1WorkloadSetOutput data) g := by
    intro hwords hnumbers
    refine ⟨?_, ?_, ?_⟩ <;> rw [hwords, hnumbers] <;> rfl
  cases hflag : g.captureOutput with
  | false =>
    have hdown : g.erase.captureOutput = false := hflag
    refine hrejected (c1WorkloadSetOutput_overflows h (.inl hflag)) ?_
    unfold CaptureGlobals.c1WorkloadSetOutput
    rw [get_bind, hdown]
  | true =>
    have hup : g.erase.captureOutput = true := hflag
    cases hbuffer : g.globalOutputBuffer with
    | none =>
      have hnone : g.erase.globalOutputBuffer = none := hbuffer
      refine hrejected (c1WorkloadSetOutput_overflows h (.inr (.inl hbuffer))) ?_
      unfold CaptureGlobals.c1WorkloadSetOutput
      rw [get_bind, hup, hnone]
    | some buffer =>
      have hsome : g.erase.globalOutputBuffer = some buffer := hbuffer
      cases data with
      | none =>
        refine hrejected (c1WorkloadSetOutput_overflows h
          (.inr (.inr fun d hd => absurd hd (by simp)))) ?_
        unfold CaptureGlobals.c1WorkloadSetOutput
        rw [get_bind, hup, hsome]
      | some data =>
        by_cases hbad : data.length = 0 ∨ g.globalOutputCapacity.toNat < data.length
        · refine hrejected (c1WorkloadSetOutput_overflows h
            (.inr (.inr fun d hd => Option.some.inj hd ▸ hbad))) ?_
          unfold CaptureGlobals.c1WorkloadSetOutput
          rw [get_bind, hup, hsome]
          exact congrFun (if_pos hbad) _
        · have hfits : 0 < data.length ∧ data.length ≤ g.globalOutputCapacity.toNat := by omega
          have hnumbers : CaptureGlobals.c1WorkloadSetOutput (some data) g.erase =
              modify (CaptureGlobals.captured (memcpyAt (memcpyAt buffer 0 data) data.length [0])
                data.length) g.erase := by
            unfold CaptureGlobals.c1WorkloadSetOutput
            rw [get_bind, hup, hsome]
            exact congrFun (if_neg hbad) _
          refine ⟨?_, ?_, ?_⟩ <;> rw [c1WorkloadSetOutput_fits h hflag hbuffer hfits, hnumbers]
          · rfl
          · rw [state_modify, erase, UInt32.toNat_ofNat_of_lt' h]
            rfl
          · rfl

/-- **One call** on words is the call on numbers. -/
theorem erases_guestCall (c : WordCall) (g : CaptureWords) :
    Erases (guestCall c.1) (CaptureGlobals.guestCall c.1) g := by
  obtain ⟨c, hc⟩ := c
  cases c with
  | print message => exact erases_enclavePrint hc g
  | workloadSetOutput data => exact erases_c1WorkloadSetOutput hc g
  | workloadTscBegin tsc => exact Refines.modify rfl
  | workloadTscEnd tsc => exact Refines.modify rfl
  | wasiWrite fd data =>
    have hnumbers := CaptureGlobals.writevInternal_apply fd data g.erase
    refine ⟨?_, ?_, ?_⟩ <;> simp only [guestCall, CaptureGlobals.guestCall, hnumbers] <;> rfl

theorem erases_guestCalls (calls : List WordCall) (g : CaptureWords) :
    Erases (guestCalls calls) (CaptureGlobals.guestCalls (calls.map Subtype.val)) g := by
  induction calls generalizing g with
  | nil => exact Refines.pure ()
  | cons c calls ih => exact (erases_guestCall c g).bind fun _ _ => ih _

/-! ## Host prints -/

/-- With the flag down, nothing but OCALLs happens. -/
def Quiet (g : CaptureWords) (l : List MemoryEvent) (g' : CaptureWords) : Prop :=
  g.captureOutput = false → g' = g ∧ ∀ e ∈ l, ∃ o, e = .ocall o

theorem composes_quiet : Composes Quiet where
  refl g _ := ⟨rfl, fun e he => absurd he List.not_mem_nil⟩
  trans := by
    intro g₁ g₂ g₃ l₁ l₂ h₁ h₂ hdown
    obtain ⟨rfl, hl₁⟩ := h₁ hdown
    obtain ⟨rfl, hl₂⟩ := h₂ hdown
    exact ⟨rfl, fun e he => (List.mem_append.mp he).elim (hl₁ e) (hl₂ e)⟩

theorem quiet_print (message : CStr) : Leaves Quiet (enclavePrint message) := by
  intro g hdown
  rw [enclavePrint_down hdown]
  exact ⟨rfl, fun e he => ⟨_, List.mem_singleton.mp he⟩⟩

theorem quiet_stop {α : Type} : Leaves Quiet (stop : Proc MemoryEvent CaptureWords α) :=
  fun g => composes_quiet.refl g

theorem quiet_pure {α : Type} (a : α) : Leaves Quiet (pure a : Proc MemoryEvent CaptureWords α) :=
  fun g => composes_quiet.refl g

theorem quiet_bind {α β : Type} {p : Proc MemoryEvent CaptureWords α}
    {f : α → Proc MemoryEvent CaptureWords β} (hp : Leaves Quiet p) (hf : ∀ a, Leaves Quiet (f a)) :
    Leaves Quiet (p >>= f) := hp.bind composes_quiet fun _ a _ => hf a

theorem quiet_require {c : Bool} {p : Proc MemoryEvent CaptureWords Unit} (hp : Leaves Quiet p) :
    Leaves Quiet (require c p) := by
  cases c with
  | true => exact quiet_pure ()
  | false => exact quiet_bind hp fun _ => quiet_stop

theorem quiet_loadModule (env : RunEnv) (wasm : Bytes) : Leaves Quiet (loadModule env wasm) := by
  refine quiet_bind (quiet_require (quiet_bind (quiet_print _) fun _ => quiet_print _)) fun _ =>
    quiet_bind (quiet_require (quiet_bind (quiet_print _) fun _ => quiet_print _)) fun _ => ?_
  cases env.load wasm with
  | ok u => exact quiet_pure ()
  | error text =>
    exact quiet_bind (quiet_print _) fun _ => quiet_bind (quiet_print _) fun _ => quiet_stop

theorem quiet_finishInstance (env : RunEnv) (wasm : Bytes) :
    Leaves Quiet (finishInstance env wasm) := by
  unfold finishInstance
  cases env.instantiate wasm with
  | ok u => exact quiet_bind (quiet_pure ()) fun _ => quiet_require (quiet_print _)
  | error text =>
    exact quiet_bind (quiet_print _) fun _ => quiet_bind (quiet_print _) fun _ =>
      quiet_bind (quiet_print _) fun _ => quiet_bind quiet_stop fun _ =>
        quiet_require (quiet_print _)

variable {g : CaptureWords}

/-- With the flag down, what follows a quiet part starts where the part did. -/
theorem erases_quiet_bind {α β : Type} (hdown : g.captureOutput = false)
    {p : Proc MemoryEvent CaptureWords α} {q : Proc Event CaptureGlobals α} (hp : Leaves Quiet p)
    (h : Erases p q g) {f : α → Proc MemoryEvent CaptureWords β}
    {f' : α → Proc Event CaptureGlobals β} (hf : ∀ a, Erases (f a) (f' a) g) :
    Erases (p >>= f) (q >>= f') g := by
  refine h.bind fun a _ => ?_
  rw [(hp g hdown).1]
  exact hf a

theorem erases_loadModule (hdown : g.captureOutput = false) (env : RunEnv) (wasm : Bytes) :
    Erases (loadModule env wasm) (CaptureGlobals.loadModule env wasm) g := by
  have hreport : ∀ text : CStr, Erases
      (do enclavePrint (CStr.lit "Load module failed.\n"); enclavePrint text)
      (do CaptureGlobals.enclavePrint (CStr.lit "Load module failed.\n")
          CaptureGlobals.enclavePrint text) g := fun text =>
    erases_print_bind hdown (erases_print_down hdown text)
  have hquiet : ∀ (c : Bool) (text : CStr), Leaves Quiet (require c
      (do enclavePrint (CStr.lit "Load module failed.\n"); enclavePrint text)) := fun _ _ =>
    quiet_require (quiet_bind (quiet_print _) fun _ => quiet_print _)
  refine erases_quiet_bind hdown (hquiet _ _) (hreport _).require fun _ =>
    erases_quiet_bind hdown (hquiet _ _) (hreport _).require fun _ => ?_
  cases env.load wasm with
  | ok u => exact Refines.pure ()
  | error text =>
    exact erases_print_bind hdown (erases_print_bind hdown Refines.stop)

theorem erases_finishInstance (hdown : g.captureOutput = false) (env : RunEnv) (wasm : Bytes) :
    Erases (finishInstance env wasm) (CaptureGlobals.finishInstance env wasm) g := by
  have hend : Erases
      (require (env.ok .execEnv) (enclavePrint (CStr.lit "Create exec env failed.\n")))
      (require (env.ok .execEnv)
        (CaptureGlobals.enclavePrint (CStr.lit "Create exec env failed.\n"))) g :=
    (erases_print_down hdown _).require
  unfold finishInstance CaptureGlobals.finishInstance
  cases env.instantiate wasm with
  | ok u => exact erases_quiet_bind hdown (quiet_pure ()) (Refines.pure ()) fun _ => hend
  | error text =>
    exact erases_print_bind hdown (erases_print_bind hdown (erases_print_bind hdown
      (erases_quiet_bind hdown quiet_stop Refines.stop fun _ => hend)))

/-! ## The helper -/

/-- The buffer is an allocation for a capacity. -/
structure Allocated (capacity : ℕ) (g : CaptureWords) : Prop where
  bytes : ∃ buffer, g.globalOutputBuffer = some buffer ∧ buffer.length = capacity + 1
  capacity_eq : g.globalOutputCapacity.toNat = capacity

/-- What `run_wasm_helper` is called with. -/
structure Prepared (capacity : ℕ) (g : CaptureWords) : Prop extends Allocated capacity g where
  positive : 0 < capacity
  down : g.captureOutput = false

/-- The globals in which a module starts. -/
def startCapture (g : CaptureWords) : CaptureWords where
  globalOutputBuffer := some (List.replicate (g.globalOutputCapacity.toNat + 1) 0)
  globalOutputCapacity := g.globalOutputCapacity
  globalOutputPos := 0
  captureOutput := true
  captureOutputOverflow := false
  workloadTscBegin := none
  workloadTscEnd := none

theorem memcpyAt_zero {b data : Bytes} (h : b.length = data.length) : memcpyAt b 0 data = data := by
  rw [memcpyAt, List.take_zero, List.nil_append, Nat.zero_add, ← h, List.drop_length,
    List.append_nil]

variable {capacity : ℕ}

/-- The capture starts with one write, over the whole buffer. -/
theorem executeMain_apply (h : Prepared capacity g) (calls : List WordCall) (ok : Bool) :
    let o := finishMain calls ok g.startCapture
    executeMain calls ok g =
      ⟨.write (capacity + 1) 0 (capacity + 1) :: o.log, o.state, o.value⟩ := by
  obtain ⟨buffer, hbuffer, hlength⟩ := h.bytes
  have hready : ¬ (g.globalOutputBuffer.isNone || g.globalOutputCapacity == 0) = true := by
    have hpositive : g.globalOutputCapacity.toNat ≠ 0 := by
      rw [h.capacity_eq]
      exact h.positive.ne'
    rw [hbuffer, Option.isNone_some, Bool.false_or, beq_iff_eq, ← UInt32.toNat_inj]
    exact hpositive
  have hzeros : memcpyAt buffer 0 (List.replicate (g.globalOutputCapacity.toNat + 1) 0) =
      List.replicate (g.globalOutputCapacity.toNat + 1) 0 := by
    refine memcpyAt_zero ?_
    rw [List.length_replicate, hlength, h.capacity_eq]
  have hcopy := memcpy_apply (g := { g with
    captureOutput := true, captureOutputOverflow := false, globalOutputPos := 0 }) hbuffer 0
      (List.replicate (g.globalOutputCapacity.toNat + 1) 0)
  rw [hzeros, hlength, List.length_replicate, h.capacity_eq] at hcopy
  unfold executeMain
  rw [bind_of_some (value_modify _ g), state_modify, get_bind]
  dsimp only
  rw [if_neg hready, h.capacity_eq, bind_of_some (by rw [hcopy]), hcopy,
    bind_of_some (value_modify _ _), state_modify, startCapture, h.capacity_eq]
  rfl

theorem erase_startCapture (h : Prepared capacity g) :
    g.startCapture.erase = g.erase.startCapture := by
  obtain ⟨buffer, hbuffer, -⟩ := h.bytes
  rw [startCapture, erase, erase, CaptureGlobals.startCapture, hbuffer]
  rfl

/-- **The execution of `main`** on words. -/
theorem erases_executeMain (h : Prepared capacity g) (calls : List WordCall) (ok : Bool) :
    Erases (executeMain calls ok) (CaptureGlobals.executeMain ⟨calls.map Subtype.val, ok⟩) g := by
  obtain ⟨buffer, hbuffer, -⟩ := h.bytes
  have hready : ¬ (g.erase.startCapture.globalOutputBuffer.isNone ||
      g.erase.startCapture.globalOutputCapacity == 0) = true := by
    have hpositive : g.globalOutputCapacity.toNat ≠ 0 := by
      rw [h.capacity_eq]
      exact h.positive.ne'
    simp [erase, CaptureGlobals.startCapture, hbuffer, hpositive]
  have hfinish : Erases (finishMain calls ok) (do
      CaptureGlobals.guestCalls (calls.map Subtype.val)
      modify fun g => { g with captureOutput := false }
      onlyIf (!ok) (CaptureGlobals.enclavePrint (CStr.lit "Execute main failed.\n"))
      let g ← get
      require (!g.captureOutputOverflow) (CaptureGlobals.enclavePrint
        (CStr.lit "WASM output exceeded enclave capture buffer.\n"))
      require ok (pure ())) g.startCapture := by
    have hlower : ∀ g : CaptureWords, Erases
        (modify fun g : CaptureWords => { g with captureOutput := false })
        (modify fun g : CaptureGlobals => { g with captureOutput := false }) g :=
      fun _ => Refines.modify rfl
    refine (erases_guestCalls calls _).bind fun _ _ => (hlower _).bind fun _ _ => ?_
    rw [state_modify]
    refine erases_quiet_bind rfl ?_ (erases_print_down rfl _).onlyIf fun _ =>
      Refines.get_bind (erases_quiet_bind rfl (quiet_require (quiet_print _))
        (erases_print_down rfl _).require fun _ => (Refines.pure ()).require)
    cases ok with
    | true => exact quiet_pure ()
    | false => exact quiet_print _
  obtain ⟨hlog, hstate, hvalue⟩ := hfinish
  rw [erase_startCapture h] at hlog hstate hvalue
  have hnumbers : CaptureGlobals.executeMain ⟨calls.map Subtype.val, ok⟩ g.erase = (do
      CaptureGlobals.guestCalls (calls.map Subtype.val)
      modify fun g => { g with captureOutput := false }
      onlyIf (!ok) (CaptureGlobals.enclavePrint (CStr.lit "Execute main failed.\n"))
      let g ← get
      require (!g.captureOutputOverflow) (CaptureGlobals.enclavePrint
        (CStr.lit "WASM output exceeded enclave capture buffer.\n"))
      require ok (pure ())) g.erase.startCapture := by
    unfold CaptureGlobals.executeMain
    rw [bind_of_some (value_modify _ _), state_modify, get_bind, if_neg hready]
    rfl
  refine ⟨?_, ?_, ?_⟩ <;> rw [executeMain_apply h, hnumbers]
  · rw [List.filterMap_cons_none rfl, hlog]
  · exact hstate
  · exact hvalue

/-! ## Where it writes -/

theorem length_memcpyAt {b data : Bytes} {offset : ℕ} (h : offset + data.length ≤ b.length) :
    (memcpyAt b offset data).length = b.length := by
  rw [memcpyAt, List.length_append, List.length_append, List.length_take, List.length_drop]
  omega

/-- A call keeps the allocation and the flag, and writes inside the buffer. -/
def Bounded (capacity : ℕ) (g : CaptureWords) (l : List MemoryEvent) (g' : CaptureWords) : Prop :=
  Allocated capacity g → Allocated capacity g' ∧ g'.captureOutput = g.captureOutput ∧
    ∀ e ∈ l, e.Inside capacity

theorem composes_bounded : Composes (Bounded capacity) where
  refl g h := ⟨h, rfl, fun e he => absurd he List.not_mem_nil⟩
  trans := by
    intro g₁ g₂ g₃ l₁ l₂ h₁ h₂ h
    obtain ⟨halloc₁, hflag₁, hl₁⟩ := h₁ h
    obtain ⟨halloc₂, hflag₂, hl₂⟩ := h₂ halloc₁
    exact ⟨halloc₂, hflag₂.trans hflag₁, fun e he => (List.mem_append.mp he).elim (hl₁ e) (hl₂ e)⟩

/-- A change that leaves the buffer and the flag. -/
theorem bounded_modify {f : CaptureWords → CaptureWords}
    (hf : ∀ g, (f g).globalOutputBuffer = g.globalOutputBuffer ∧
      (f g).globalOutputCapacity = g.globalOutputCapacity ∧
      (f g).captureOutput = g.captureOutput) :
    Leaves (Bounded capacity) (modify f) := by
  intro g h
  obtain ⟨hbuffer, hcapacity, hflag⟩ := hf g
  exact ⟨⟨hbuffer ▸ h.bytes, hcapacity ▸ h.capacity_eq⟩, hflag,
    fun e he => absurd he List.not_mem_nil⟩

theorem bounded_enclavePrint {message : CStr} (hsize : message.strlen < 2 ^ 63) :
    Leaves (Bounded capacity) (enclavePrint message) := by
  intro g h
  obtain ⟨buffer, hbuffer, hlength⟩ := h.bytes
  have hcapacity := h.capacity_eq
  cases hflag : g.captureOutput with
  | false =>
    rw [enclavePrint_down hflag]
    exact ⟨h, hflag, fun e he => List.mem_singleton.mp he ▸ trivial⟩
  | true =>
    by_cases hfits : g.globalOutputPos.toNat + message.strlen ≤ g.globalOutputCapacity.toNat
    · have hinside : g.globalOutputPos.toNat + message.bytes.length ≤ buffer.length := by
        change g.globalOutputPos.toNat + message.strlen ≤ buffer.length
        omega
      rw [enclavePrint_fits hsize hflag hbuffer hfits]
      refine ⟨⟨⟨_, rfl, ?_⟩, hcapacity⟩, hflag, fun e he => ?_⟩
      · rw [length_memcpyAt hinside, hlength]
      · rw [List.mem_singleton.mp he]
        exact ⟨hlength, by omega⟩
    · rw [enclavePrint_overflows hsize hflag (.inr (Nat.lt_of_not_le hfits))]
      exact ⟨⟨h.bytes, hcapacity⟩, hflag, fun e he => absurd he List.not_mem_nil⟩

theorem bounded_c1WorkloadSetOutput {data : Option Bytes}
    (hsize : (GuestCall.workloadSetOutput data).Sized) :
    Leaves (Bounded capacity) (c1WorkloadSetOutput data) := by
  intro g h
  obtain ⟨buffer, hbuffer, hlength⟩ := h.bytes
  have hcapacity := h.capacity_eq
  have hrejected : c1WorkloadSetOutput data g = modify overflowed g →
      Allocated capacity (c1WorkloadSetOutput data g).state ∧
        (c1WorkloadSetOutput data g).state.captureOutput = g.captureOutput ∧
        ∀ e ∈ (c1WorkloadSetOutput data g).log, e.Inside capacity := by
    intro hrun
    rw [hrun]
    exact ⟨⟨h.bytes, hcapacity⟩, rfl, fun e he => absurd he List.not_mem_nil⟩
  by_cases hbad : g.captureOutput = false ∨ g.globalOutputBuffer = none ∨ ∀ d, data = some d →
      d.length = 0 ∨ g.globalOutputCapacity.toNat < d.length
  · exact hrejected (c1WorkloadSetOutput_overflows hsize hbad)
  · push Not at hbad
    obtain ⟨hflag, -, d, rfl, hpositive, hfits⟩ := hbad
    rw [ne_eq, Bool.not_eq_false] at hflag
    have hdata : 0 + d.length ≤ buffer.length := by omega
    have hend : d.length + ([0] : Bytes).length ≤ (memcpyAt buffer 0 d).length := by
      rw [length_memcpyAt hdata, List.length_singleton]
      omega
    rw [c1WorkloadSetOutput_fits hsize hflag hbuffer ⟨Nat.pos_of_ne_zero hpositive, hfits⟩]
    refine ⟨⟨⟨_, rfl, ?_⟩, hcapacity⟩, rfl, fun e he => ?_⟩
    · rw [length_memcpyAt hend, length_memcpyAt hdata, hlength]
    · simp only [List.mem_cons, List.not_mem_nil, or_false] at he
      rcases he with rfl | rfl
      · exact ⟨hlength, by omega⟩
      · exact ⟨(length_memcpyAt hdata).trans hlength, by omega⟩

/-- **A call of a module** writes inside the buffer. -/
theorem bounded_guestCall (c : WordCall) : Leaves (Bounded capacity) (guestCall c.1) := by
  obtain ⟨c, hc⟩ := c
  cases c with
  | print message => exact bounded_enclavePrint hc
  | workloadSetOutput data => exact bounded_c1WorkloadSetOutput hc
  | workloadTscBegin tsc => exact bounded_modify fun _ => ⟨rfl, rfl, rfl⟩
  | workloadTscEnd tsc => exact bounded_modify fun _ => ⟨rfl, rfl, rfl⟩
  | wasiWrite fd data =>
    exact fun g h => ⟨h, rfl, fun e he => List.mem_singleton.mp he ▸ trivial⟩

theorem bounded_guestCalls (calls : List WordCall) :
    Leaves (Bounded capacity) (guestCalls calls) := by
  induction calls with
  | nil => exact fun g => composes_bounded.refl g
  | cons c calls ih => exact (bounded_guestCall c).bind composes_bounded fun _ _ _ => ih

/-- Behind the calls of a module, the flag comes down and the rest is OCALLs. -/
theorem finishMain_leaves (calls : List WordCall) (ok : Bool) (g : CaptureWords) :
    (finishMain calls ok g).state = { (guestCalls calls g).state with captureOutput := false } ∧
      ∀ e ∈ (finishMain calls ok g).log, e ∈ (guestCalls calls g).log ∨ ∃ o, e = .ocall o := by
  have hvalue : (guestCalls calls g).value = some () :=
    (erases_guestCalls calls g).value.trans (CaptureGlobals.value_guestCalls _ _)
  have hreport : Leaves Quiet (onlyIf (!ok) (enclavePrint (CStr.lit "Execute main failed.\n"))) := by
    cases ok with
    | true => exact quiet_pure ()
    | false => exact quiet_print _
  have hrest : Leaves Quiet (do
      onlyIf (!ok) (enclavePrint (CStr.lit "Execute main failed.\n"))
      let g ← get
      require (!g.captureOutputOverflow)
        (enclavePrint (CStr.lit "WASM output exceeded enclave capture buffer.\n"))
      require ok (pure ())) := by
    refine quiet_bind hreport fun _ => quiet_bind (fun g => composes_quiet.refl g) fun _ =>
      quiet_bind (quiet_require (quiet_print _)) fun _ => quiet_require (quiet_pure ())
  obtain ⟨hstate, hlog⟩ :=
    hrest { (guestCalls calls g).state with captureOutput := false } rfl
  unfold finishMain
  rw [bind_of_some hvalue, bind_of_some (value_modify _ _), state_modify, hstate]
  refine ⟨rfl, fun e he => ?_⟩
  rcases List.mem_append.mp he with he | he
  · exact .inl he
  · exact .inr (hlog e he)

/-- What is prepared stays prepared, and is written inside. -/
def Settled (capacity : ℕ) (g : CaptureWords) (l : List MemoryEvent) (g' : CaptureWords) : Prop :=
  Prepared capacity g → Prepared capacity g' ∧ ∀ e ∈ l, e.Inside capacity

theorem composes_settled : Composes (Settled capacity) where
  refl g h := ⟨h, fun e he => absurd he List.not_mem_nil⟩
  trans := by
    intro g₁ g₂ g₃ l₁ l₂ h₁ h₂ h
    obtain ⟨hprepared₁, hl₁⟩ := h₁ h
    obtain ⟨hprepared₂, hl₂⟩ := h₂ hprepared₁
    exact ⟨hprepared₂, fun e he => (List.mem_append.mp he).elim (hl₁ e) (hl₂ e)⟩

theorem settled_of_quiet {α : Type} {p : Proc MemoryEvent CaptureWords α} (hp : Leaves Quiet p) :
    Leaves (Settled capacity) p := by
  intro g h
  obtain ⟨hstate, hlog⟩ := hp g h.down
  rw [hstate]
  refine ⟨h, fun e he => ?_⟩
  obtain ⟨o, rfl⟩ := hlog e he
  trivial

theorem settled_guestCalls (calls : List WordCall) : Leaves (Settled capacity) (guestCalls calls) := by
  intro g h
  obtain ⟨halloc, hflag, hinside⟩ := bounded_guestCalls calls g h.toAllocated
  exact ⟨⟨halloc, h.positive, hflag.trans h.down⟩, hinside⟩

theorem settled_executeMain (calls : List WordCall) (ok : Bool) :
    Leaves (Settled capacity) (executeMain calls ok) := by
  intro g h
  have hstart : Allocated capacity g.startCapture :=
    ⟨⟨_, rfl, by rw [List.length_replicate, h.capacity_eq]⟩, h.capacity_eq⟩
  obtain ⟨halloc, -, hinside⟩ := bounded_guestCalls calls _ hstart
  obtain ⟨hstate, hlog⟩ := finishMain_leaves calls ok g.startCapture
  rw [executeMain_apply h]
  dsimp only
  rw [hstate]
  refine ⟨⟨⟨halloc.bytes, halloc.capacity_eq⟩, h.positive, rfl⟩, fun e he => ?_⟩
  rcases List.mem_cons.mp he with rfl | he
  · exact ⟨rfl, by omega⟩
  · rcases hlog e he with he | ⟨o, rfl⟩
    · exact hinside e he
    · trivial

/-- **The helper** writes inside the buffer, and leaves it as it was prepared. -/
theorem settled_runWasmHelper (env : RunEnv) (wasm : Bytes) (run : WordRun) :
    Leaves (Settled capacity) (runWasmHelper env wasm run) :=
  (settled_of_quiet (quiet_loadModule env wasm)).bind composes_settled fun _ _ _ =>
    (settled_guestCalls run.startCalls).bind composes_settled fun _ _ _ =>
      (settled_of_quiet (quiet_finishInstance env wasm)).bind composes_settled fun _ _ _ =>
        settled_executeMain run.calls run.ok

/-- **The helper on words does what it does on numbers.** -/
theorem erases_runWasmHelper (h : Prepared capacity g) (env : RunEnv) (wasm : Bytes)
    (run : WordRun) :
    Erases (runWasmHelper env wasm run)
      (CaptureGlobals.runWasmHelper env wasm run.toModuleRun) g := by
  refine erases_quiet_bind h.down (quiet_loadModule env wasm) (erases_loadModule h.down env wasm)
    fun _ => (erases_guestCalls run.startCalls g).bind fun _ _ => ?_
  have hstart := (settled_guestCalls run.startCalls g h).1
  exact erases_quiet_bind hstart.down (quiet_finishInstance env wasm)
    (erases_finishInstance hstart.down env wasm) fun _ => erases_executeMain hstart _ _

end CaptureWords

end Worker
end AsynCS
