import AsynCS.Lib.BoundedLog
import AsynCS.Worker.CaptureWords

/-!
# The captured output is the replay of the output events

A print of the runtime appends to the captured output, and `c1_workload_set_output` replaces it.
Both write through one position, and what does not fit raises one flag.

* `GuestCall.outputEvent`, `stickyFlag_call`: the calls of a module as events of a bounded buffer.
* `IdleCapture`: the globals between two runs; `prepared_outputCapturePrepare`.
* `OutputIsReplay`: a helper that returns true captured the replay; `outputIsReplay`.
-/

namespace AsynCS
namespace Worker

open Proc

/-! ## Calls as events -/

/-- The output event of a call. -/
def GuestCall.outputEvent : GuestCall → Option (LogEvent UInt8)
  | .print message => some (.append message.bytes)
  | .workloadSetOutput (some data) => some (.replace data)
  | .workloadSetOutput none => some .invalid
  | .workloadTscBegin _ => none
  | .workloadTscEnd _ => none
  | .wasiWrite _ _ => none

namespace OutputCapture

variable {capacity : ℕ} (c : OutputCapture capacity)

/-- A print that fits appends. -/
theorem capturePrint_fits {message : CStr} (h : c.pos + message.strlen ≤ capacity) :
    (c.capturePrint message).output = c.output ++ message.bytes ∧
      (c.capturePrint message).overflow = c.overflow := by
  rw [capturePrint, dif_pos h]
  refine ⟨?_, rfl⟩
  have hlength : (c.output ++ message.bytes).length = c.pos + message.strlen := by
    rw [List.length_append, length_output]
    rfl
  show (c.output ++ message.bytes ++ _).take (c.pos + message.strlen) = c.output ++ message.bytes
  rw [← hlength, List.take_left]

theorem capturePrint_overflows {message : CStr} (h : ¬ c.pos + message.strlen ≤ capacity) :
    c.capturePrint message = c.overflowed := dif_neg h

/-- An output that fits replaces. -/
theorem captureSetOutput_fits {data : Bytes} (h : 0 < data.length ∧ data.length ≤ capacity) :
    (c.captureSetOutput (some data)).output = data ∧
      (c.captureSetOutput (some data)).overflow = c.overflow := by
  rw [captureSetOutput, dif_pos h]
  refine ⟨?_, rfl⟩
  have hcopied : (c.buffer.write 0 data (data_inside h)).toList.take data.length = data := by
    show (c.buffer.toList.take 0 ++ data ++ _).take data.length = data
    rw [List.take_zero, List.nil_append, List.take_left]
  show ((c.buffer.write 0 data (data_inside h)).toList.take data.length ++ [0] ++ _).take
    data.length = data
  rw [hcopied, List.append_assoc, List.take_left]

end OutputCapture

/-- **The capture of a module** is a bounded buffer with a sticky flag. -/
theorem stickyFlag_call (capacity : ℕ) :
    StickyFlag capacity (@ExecState.call capacity) GuestCall.outputEvent
      (fun s => s.capture.output) fun s => s.capture.overflow where
  sticky s c hflag := by
    cases c with
    | print message =>
      show (s.capture.capturePrint message).overflow = true
      rw [OutputCapture.overflow_capturePrint]
      split
      · exact hflag
      · rfl
    | workloadSetOutput data =>
      show (s.capture.captureSetOutput data).overflow = true
      rw [OutputCapture.overflow_captureSetOutput]
      split
      · exact hflag
      · rfl
    | workloadTscBegin tsc => exact hflag
    | workloadTscEnd tsc => exact hflag
    | wasiWrite fd data => exact hflag
  silent s c hnone := by
    cases c with
    | print message => cases hnone
    | workloadSetOutput data => cases data <;> cases hnone
    | workloadTscBegin tsc => exact ⟨rfl, rfl⟩
    | workloadTscEnd tsc => exact ⟨rfl, rfl⟩
    | wasiWrite fd data => exact ⟨rfl, rfl⟩
  fits s c e he hfits := by
    cases c with
    | print message =>
      obtain rfl := Option.some.inj he
      refine s.capture.capturePrint_fits ?_
      rw [← OutputCapture.length_output]
      exact hfits
    | workloadSetOutput data =>
      cases data with
      | none =>
        obtain rfl := Option.some.inj he
        exact hfits.elim
      | some data =>
        obtain rfl := Option.some.inj he
        exact s.capture.captureSetOutput_fits hfits
    | workloadTscBegin tsc => cases he
    | workloadTscEnd tsc => cases he
    | wasiWrite fd data => cases he
  raises s c e he hfits := by
    cases c with
    | print message =>
      obtain rfl := Option.some.inj he
      have hlong : ¬ s.capture.pos + message.strlen ≤ capacity := by
        rw [← OutputCapture.length_output]
        exact hfits
      show (s.capture.capturePrint message).overflow = true
      rw [OutputCapture.capturePrint_overflows _ hlong]
      rfl
    | workloadSetOutput data =>
      cases data with
      | none => rfl
      | some data =>
        obtain rfl := Option.some.inj he
        have hbad : ¬ (0 < data.length ∧ data.length ≤ capacity) := hfits
        show (s.capture.captureSetOutput (some data)).overflow = true
        rw [OutputCapture.captureSetOutput, dif_neg hbad]
        rfl
    | workloadTscBegin tsc => cases he
    | workloadTscEnd tsc => cases he
    | wasiWrite fd data => cases he

/-- The output events of a list of calls. -/
def outputEvents (calls : List GuestCall) : List (LogEvent UInt8) :=
  calls.filterMap GuestCall.outputEvent

/-- **What a module leaves** in the capture. -/
theorem execute_replays (capacity : ℕ) (calls : List GuestCall) :
    ((ExecState.execute capacity calls).capture.overflow = false ↔
        AllFit capacity [] (outputEvents calls)) ∧
      (AllFit capacity [] (outputEvents calls) →
        (ExecState.execute capacity calls).capture.output = replayFrom [] (outputEvents calls)) :=
  (stickyFlag_call capacity).run calls rfl

/-! ## The helper on numbers -/

namespace CaptureGlobals

/-- The execution of `main` leaves the capture of its calls. -/
theorem represents_executeMain {g : CaptureGlobals} (h : g.Prepared) (run : GuestRun) :
    let final := ExecState.execute g.globalOutputCapacity run.calls
    (executeMain run g).state.globalOutputBuffer = some final.capture.buffer.toList ∧
      (executeMain run g).state.globalOutputPos = final.capture.pos := by
  obtain ⟨hrep, -⟩ := represents_guestCalls (represents_startCapture h.buffer) run.calls
  have hready : (g.startCapture.globalOutputBuffer.isNone ||
      g.startCapture.globalOutputCapacity == 0) = false := by
    obtain ⟨buffer, hb⟩ := Option.isSome_iff_exists.mp h.buffer
    simp [startCapture, hb, h.capacity]
  unfold executeMain
  rw [bind_of_some (value_modify _ g), state_modify, get_bind, hready,
    if_neg Bool.false_ne_true, bind_of_some (value_guestCalls _ _),
    bind_of_some (value_modify _ _), state_modify, reportEnd_apply rfl]
  exact ⟨hrep.buffer, hrep.pos⟩

/-- A module that is instantiated comes to its `main`. -/
theorem runWasmHelper_of_instantiates {env : RunEnv} {wasm : Bytes} (hloads : Loads env wasm)
    (hinst : Instantiates env wasm) (c : PreparedCapture) (r : ModuleRun) :
    let start := (guestCalls r.startCalls c.globals).state
    (runWasmHelper env wasm r c.globals).value = (executeMain r.main start).value ∧
      (runWasmHelper env wasm r c.globals).state = (executeMain r.main start).state := by
  rw [runWasmHelper, bind_of_some (by rw [loadModule_of_loads hloads]),
    loadModule_of_loads hloads, bind_of_some (value_guestCalls _ _),
    bind_of_some (by rw [finishInstance_of_instantiates hinst]),
    finishInstance_of_instantiates hinst]
  exact ⟨rfl, rfl⟩

/-- Another module ends the helper before. -/
theorem runWasmHelper_of_not_starts {env : RunEnv} {wasm : Bytes}
    (h : ¬ (Loads env wasm ∧ Instantiates env wasm)) (c : PreparedCapture) (r : ModuleRun) :
    (runWasmHelper env wasm r c.globals).value = none := by
  by_cases hloads : Loads env wasm
  · obtain ⟨report, hreport⟩ := finishInstance_of_not fun hinst => h ⟨hloads, hinst⟩
    obtain ⟨hprepared, -, -⟩ := prepared_guestCalls c.prepared r.startCalls
    have hend := hreport _ hprepared.down
    rw [runWasmHelper, bind_of_some (by rw [loadModule_of_loads hloads]),
      loadModule_of_loads hloads, bind_of_some (value_guestCalls _ _),
      bind_of_none (by rw [hend])]
  · rw [runWasmHelper, bind_of_none (value_loadModule_of_not hloads)]

/-- **When the helper succeeds**: the module is instantiated, its `main` succeeds, and every event
fits. -/
theorem value_runWasmHelper_eq_some_iff {env : RunEnv} {wasm : Bytes} {c : PreparedCapture}
    {r : ModuleRun} :
    (runWasmHelper env wasm r c.globals).value = some () ↔
      (Loads env wasm ∧ Instantiates env wasm) ∧ r.main.ok = true ∧
        AllFit c.globals.globalOutputCapacity [] (outputEvents r.main.calls) := by
  by_cases hstarts : Loads env wasm ∧ Instantiates env wasm
  · obtain ⟨hvalue, -⟩ := runWasmHelper_of_instantiates hstarts.1 hstarts.2 c r
    obtain ⟨hprepared, hcapacity, -⟩ := prepared_guestCalls c.prepared r.startCalls
    obtain ⟨-, hmain⟩ := executeMain_of_prepared hprepared r.main
    rw [hcapacity] at hmain
    rw [hvalue, hmain, and_iff_right hstarts, ← (execute_replays _ _).1]
    cases r.main.ok <;>
      cases (ExecState.execute c.globals.globalOutputCapacity r.main.calls).capture.overflow <;>
      simp
  · rw [runWasmHelper_of_not_starts hstarts]
    exact ⟨fun h => absurd h (by simp), fun h => absurd h.1 hstarts⟩

/-- **What a helper that succeeds captured** is the replay of the events. -/
theorem captured_of_runWasmHelper {env : RunEnv} {wasm : Bytes} {c : PreparedCapture}
    {r : ModuleRun} (h : (runWasmHelper env wasm r c.globals).value = some ()) :
    let g := (runWasmHelper env wasm r c.globals).state
    g.globalOutputPos ≤ c.globals.globalOutputCapacity ∧
      ∃ buffer, g.globalOutputBuffer = some buffer ∧
        buffer.take g.globalOutputPos = replayFrom [] (outputEvents r.main.calls) := by
  obtain ⟨hstarts, -, hfit⟩ := value_runWasmHelper_eq_some_iff.mp h
  obtain ⟨-, hstate⟩ := runWasmHelper_of_instantiates hstarts.1 hstarts.2 c r
  obtain ⟨hprepared, hcapacity, -⟩ := prepared_guestCalls c.prepared r.startCalls
  obtain ⟨hbuffer, hpos⟩ := represents_executeMain hprepared r.main
  rw [hcapacity] at hbuffer hpos
  dsimp only
  rw [hstate, hpos, hbuffer]
  exact ⟨(ExecState.execute _ _).capture.pos_le, _, rfl, (execute_replays _ _).2 hfit⟩

end CaptureGlobals

/-! ## The globals between two runs -/

/-- The globals between two runs: the flag is down, and a buffer is an allocation of its capacity,
which is bounded. -/
structure IdleCapture where
  globals : CaptureWords
  down : globals.captureOutput = false
  allocation : ∀ buffer, globals.globalOutputBuffer = some buffer →
    buffer.length = globals.globalOutputCapacity.toNat + 1 ∧
      globals.globalOutputCapacity.toNat ≤ asyncsMaxOutputCapacityBytes

/-- The globals when the enclave starts. -/
def CaptureWords.initial : CaptureWords := ⟨none, 0, 0, false, false, none, none⟩

theorem CaptureWords.allocation_initial : ∀ buffer,
    CaptureWords.initial.globalOutputBuffer = some buffer →
      buffer.length = CaptureWords.initial.globalOutputCapacity.toNat + 1 ∧
        CaptureWords.initial.globalOutputCapacity.toNat ≤ asyncsMaxOutputCapacityBytes :=
  fun _ h => absurd h (by simp [CaptureWords.initial])

theorem CaptureWords.down_initial : CaptureWords.initial.captureOutput = false := rfl

/-- The enclave starts idle. -/
def IdleCapture.initial : IdleCapture :=
  ⟨CaptureWords.initial, CaptureWords.down_initial, CaptureWords.allocation_initial⟩

/-- The event writes to bytes that are allocated. -/
def MemoryEvent.InsideAllocation : MemoryEvent → Prop
  | ocall _ => True
  | write allocated offset length => offset + length ≤ allocated

namespace CaptureWords

/-- Releasing zeroes the allocation, and nothing behind it. -/
theorem outputCaptureRelease_apply (c : IdleCapture) :
    ∃ log, outputCaptureRelease c.globals = ⟨log, { c.globals with
        globalOutputBuffer := none, globalOutputCapacity := 0, globalOutputPos := 0 }, some ()⟩ ∧
      ∀ e ∈ log, e.InsideAllocation := by
  unfold outputCaptureRelease
  rw [get_bind]
  cases hbuffer : c.globals.globalOutputBuffer with
  | none =>
    have hnone : memcpy 0 (List.replicate (c.globals.globalOutputCapacity + 1).toNat 0) c.globals =
        ⟨[], c.globals, some ()⟩ := by
      unfold memcpy
      rw [get_bind, hbuffer]
      rfl
    rw [bind_of_some (by rw [hnone]), hnone]
    exact ⟨[], rfl, fun e he => absurd he List.not_mem_nil⟩
  | some buffer =>
    obtain ⟨hlength, hmax⟩ := c.allocation buffer hbuffer
    have hcount : (c.globals.globalOutputCapacity + 1).toNat =
        c.globals.globalOutputCapacity.toNat + 1 := by
      rw [asyncsMaxOutputCapacityBytes] at hmax
      rw [UInt32.toNat_add]
      exact Nat.mod_eq_of_lt (by change _ + 1 < _; omega)
    rw [bind_of_some (by rw [memcpy_apply hbuffer]), memcpy_apply hbuffer]
    refine ⟨[.write buffer.length 0 _], rfl, fun e he => ?_⟩
    rw [List.mem_singleton.mp he, List.length_replicate]
    change 0 + _ ≤ _
    omega

/-- **What `output_capture_prepare` leaves**: a buffer of zeros for a capacity within the bound, or
none. -/
theorem outputCapturePrepare_apply (malloc : (n : ℕ) → Option (Block n)) (capacity : UInt32)
    (c : IdleCapture) :
    let o := outputCapturePrepare malloc capacity c.globals
    (o.value = some () → Prepared capacity.toNat o.state ∧
        capacity.toNat ≤ asyncsMaxOutputCapacityBytes) ∧
      (o.value = none → o.state.captureOutput = false ∧ o.state.globalOutputBuffer = none) ∧
      ∀ e ∈ o.log, e.InsideAllocation := by
  obtain ⟨log, hrelease, hinside⟩ := outputCaptureRelease_apply c
  unfold outputCapturePrepare
  rw [bind_of_some (by rw [hrelease]), hrelease]
  dsimp only
  by_cases hrange : (capacity == 0 || decide (1048576 < capacity)) = true
  · rw [hrange, bind_of_none (by rfl)]
    refine ⟨fun h => absurd h (by simp), fun _ => ⟨c.down, rfl⟩, fun e he => hinside e ?_⟩
    exact (List.append_nil log) ▸ he
  · rw [Bool.not_eq_true] at hrange
    rw [hrange, Bool.not_false, bind_of_some (by rfl)]
    cases hmalloc : malloc (capacity.toNat + 1) with
    | none =>
      rw [bind_of_none (by rfl)]
      refine ⟨fun h => absurd h (by simp), fun _ => ⟨c.down, rfl⟩, fun e he => hinside e ?_⟩
      exact (List.append_nil log) ▸ he
    | some allocated =>
      have hlength : allocated.toList.length = capacity.toNat + 1 :=
        List.Vector.toList_length allocated
      rw [bind_of_some (by rfl), bind_of_some (by rfl), memcpy_apply rfl]
      have hzeros : memcpyAt allocated.toList 0 (List.replicate (capacity.toNat + 1) 0) =
          List.replicate (capacity.toNat + 1) 0 :=
        memcpyAt_zero (by rw [hlength, List.length_replicate])
      obtain ⟨hpositive, hmax⟩ : 0 < capacity.toNat ∧ capacity.toNat ≤ 1048576 := by
        rw [Bool.or_eq_false_iff, beq_eq_false_iff_ne, ne_eq, ← UInt32.toNat_inj,
          decide_eq_false_iff_not, UInt32.lt_iff_toNat_lt] at hrange
        obtain ⟨hne, hle⟩ := hrange
        change ¬ capacity.toNat = 0 at hne
        change ¬ 1048576 < capacity.toNat at hle
        omega
      refine ⟨fun _ => ⟨⟨⟨⟨_, rfl, ?_⟩, rfl⟩, hpositive, c.down⟩, hmax⟩,
        fun h => absurd h (by simp), fun e he => ?_⟩
      · rw [hzeros, List.length_replicate]
      · rcases List.mem_append.mp he with he | he
        · exact hinside e he
        · change e ∈ [MemoryEvent.write allocated.toList.length 0
            (List.replicate (capacity.toNat + 1) (0 : UInt8)).length] at he
          rw [List.mem_singleton.mp he, hlength, List.length_replicate]
          change 0 + _ ≤ _
          omega

end CaptureWords

/-! ## The replay -/

/-- **A run of the helper captures the replay of its events**: when it returns true, every event
fits, the position is within the capacity and the bytes up to it are the replay; an event that does
not fit makes it return false; and it writes nowhere but in the `capacity + 1` bytes of the buffer. -/
structure OutputIsReplay (env : RunEnv) (wasm : Bytes) (run : WordRun) (capacity : UInt32)
    (g : CaptureWords) : Prop where
  accepted : (CaptureWords.runWasmHelper env wasm run g).value = some () →
    AllFit capacity.toNat [] (outputEvents run.toModuleRun.main.calls)
  captured : (CaptureWords.runWasmHelper env wasm run g).value = some () →
    let g' := (CaptureWords.runWasmHelper env wasm run g).state
    g'.globalOutputPos ≤ capacity ∧ ∃ buffer, g'.globalOutputBuffer = some buffer ∧
      buffer.take g'.globalOutputPos.toNat =
        replayFrom [] (outputEvents run.toModuleRun.main.calls)
  refused : ∀ before e after, outputEvents run.toModuleRun.main.calls = before ++ e :: after →
    ¬ e.Fits capacity.toNat (replayFrom [] before) →
    (CaptureWords.runWasmHelper env wasm run g).value = none
  inside : ∀ allocated offset length,
    .write allocated offset length ∈ (CaptureWords.runWasmHelper env wasm run g).log →
      allocated = capacity.toNat + 1 ∧ offset + length ≤ capacity.toNat + 1

/-- What is prepared, as numbers. -/
theorem prepared_erase {capacity : ℕ} {g : CaptureWords} (h : g.Prepared capacity) :
    g.erase.Prepared where
  buffer := by
    obtain ⟨buffer, hbuffer, -⟩ := h.bytes
    exact Option.isSome_iff_exists.mpr ⟨buffer, hbuffer⟩
  capacity := by
    rw [CaptureWords.erase, h.capacity_eq]
    exact h.positive.ne'
  down := h.down

/-- **The captured output is the replay of the output events**, in every run of a module after a
buffer was prepared; and preparing it writes inside the old allocation and the new one. -/
theorem outputIsReplay (env : RunEnv) (wasm : Bytes) (run : WordRun)
    (malloc : (n : ℕ) → Option (Block n)) (capacity : UInt32) (c : IdleCapture)
    (h : (CaptureWords.outputCapturePrepare malloc capacity c.globals).value = some ()) :
    OutputIsReplay env wasm run capacity
        (CaptureWords.outputCapturePrepare malloc capacity c.globals).state ∧
      ∀ e ∈ (CaptureWords.outputCapturePrepare malloc capacity c.globals).log,
        e.InsideAllocation := by
  obtain ⟨hsome, -, hlog⟩ := CaptureWords.outputCapturePrepare_apply malloc capacity c
  obtain ⟨hprepared, -⟩ := hsome h
  refine ⟨?_, hlog⟩
  generalize (CaptureWords.outputCapturePrepare malloc capacity c.globals).state = g at hprepared ⊢
  obtain ⟨-, hstate, hvalue⟩ := CaptureWords.erases_runWasmHelper hprepared env wasm run
  let prepared : PreparedCapture := ⟨g.erase, prepared_erase hprepared⟩
  have hcapacity : prepared.globals.globalOutputCapacity = capacity.toNat := hprepared.capacity_eq
  have hnumbers : ∀ {v}, (CaptureWords.runWasmHelper env wasm run g).value = v →
      (CaptureGlobals.runWasmHelper env wasm run.toModuleRun prepared.globals).value = v :=
    fun hv => hvalue.symm.trans hv
  have hfit : (CaptureWords.runWasmHelper env wasm run g).value = some () →
      AllFit capacity.toNat [] (outputEvents run.toModuleRun.main.calls) := by
    intro hv
    rw [← hcapacity]
    exact (CaptureGlobals.value_runWasmHelper_eq_some_iff.mp (hnumbers hv)).2.2
  refine ⟨hfit, fun hv => ?_, fun before e after hevents hbad => ?_, fun a o n hmem => ?_⟩
  · obtain ⟨hpos, buffer, hbuffer, htake⟩ :=
      CaptureGlobals.captured_of_runWasmHelper (hnumbers hv)
    rw [← hstate, hcapacity] at hpos
    rw [← hstate] at hbuffer htake
    exact ⟨UInt32.le_iff_toNat_le.mpr hpos, buffer, hbuffer, htake⟩
  · cases hv : (CaptureWords.runWasmHelper env wasm run g).value with
    | none => rfl
    | some u => exact absurd (allFit_iff_forall.mp (hfit hv) before e after hevents) hbad
  · exact (CaptureWords.settled_runWasmHelper env wasm run g hprepared).2 _ hmem

/-- A run from idle globals, with what it leaves: a capture that is prepared and a module that is
executed. -/
def IdleCapture.afterRun (c : IdleCapture) (env : RunEnv) (wasm : Bytes) (run : WordRun)
    (malloc : (n : ℕ) → Option (Block n)) (capacity : UInt32) : CaptureWords :=
  let o := CaptureWords.outputCapturePrepare malloc capacity c.globals
  if o.value = some () then (CaptureWords.runWasmHelper env wasm run o.state).state else o.state

/-- **Every run leaves idle globals**, so the next one starts from such. -/
theorem idle_afterRun (c : IdleCapture) (env : RunEnv) (wasm : Bytes) (run : WordRun)
    (malloc : (n : ℕ) → Option (Block n)) (capacity : UInt32) :
    ∃ c' : IdleCapture, c'.globals = c.afterRun env wasm run malloc capacity := by
  obtain ⟨hsome, hnone, -⟩ := CaptureWords.outputCapturePrepare_apply malloc capacity c
  unfold IdleCapture.afterRun
  dsimp only
  cases hv : (CaptureWords.outputCapturePrepare malloc capacity c.globals).value with
  | none =>
    obtain ⟨hdown, hbuffer⟩ := hnone hv
    rw [if_neg (by simp)]
    refine ⟨⟨_, hdown, fun buffer h => ?_⟩, rfl⟩
    rw [hbuffer] at h
    cases h
  | some u =>
    obtain ⟨hprepared, hmax⟩ := hsome hv
    obtain ⟨hafter, -⟩ := CaptureWords.settled_runWasmHelper env wasm run _ hprepared
    rw [if_pos rfl]
    refine ⟨⟨_, hafter.down, fun buffer h => ?_⟩, rfl⟩
    obtain ⟨b, hb, hlength⟩ := hafter.bytes
    obtain rfl := Option.some.inj (hb.symm.trans h)
    rw [hafter.capacity_eq]
    exact ⟨hlength, hmax⟩

theorem sized_print_ab : (GuestCall.print (CStr.lit "ab")).Sized :=
  show (CStr.lit "ab").strlen < 2 ^ 63 by decide

theorem sized_setOutput_one : (GuestCall.workloadSetOutput (some [7])).Sized :=
  show [(7 : UInt8)].length < 2 ^ 32 by decide

/-- A module that prints two bytes, and replaces them by one. -/
def sampleWordRun : WordRun where
  startCalls := []
  calls := [⟨_, sized_print_ab⟩, ⟨_, sized_setOutput_one⟩]
  ok := true

/-- For a buffer of two bytes. -/
theorem sampleWordRun_replayed :
    OutputIsReplay sampleRunEnv [0] sampleWordRun 2
        (CaptureWords.outputCapturePrepare (fun n => some (Block.fill n 1)) 2
          IdleCapture.initial.globals).state ∧
      ∀ e ∈ (CaptureWords.outputCapturePrepare (fun n => some (Block.fill n 1)) 2
        IdleCapture.initial.globals).log, e.InsideAllocation :=
  outputIsReplay _ _ _ _ 2 IdleCapture.initial (by decide)

end Worker
end AsynCS
