import AsynCS.Lib.ProcTriple
import AsynCS.Lib.TwoRuns
import AsynCS.Worker.RunCompletes

/-!
# What the trace of a `kem` run says

A `kem` run sets fifteen flags in its trace, at different points and behind different exits.

* `tracedRun`: the run behind the `memset` of the trace.
* `Traces`: a trace that has certain flags and the timestamps of certain phases, and is otherwise
  as it was.
* `triple_tracedRun`: what the trace holds at the end of a run, and at each of its exits.
* `alike_tracedRun`: what the memory held before decides nothing.
* `flags_of_completes`, `flags_of_stops`: the flags of a run that completes, and of one that does
  not.
-/

namespace AsynCS
namespace Worker

open Proc

variable {S : Sgx} {B : Bfibe} {env : RunEnv} {args : RunArgs}

/-! ## The record of a run -/

/-- The run behind the `memset` of the trace. -/
def tracedRun (S : Sgx) (B : Bfibe) (env : RunEnv) (args : RunArgs) :
    Proc Event RunState Unit := do
  let s ← get
  requireLoadedKeys s.worker args
  require (env.ok .cReqMalloc)
    (enclavePrintLit "Error: malloc failed for C_req reconstruction.\n")
  withCleanup (runBody .kem S B env args (invocationFid s.worker args))
    (RunState.mapWorker Globals.zeroizeLabelKey)

theorem runEncryptedWasm_kem : runEncryptedWasm .kem S B env args = (do
    require args.invokeTrace
      (enclavePrintLit "Error: Missing bounded invocation trace output.\n")
    trace .kem fun _ => InvokeTrace.start
    tracedRun S B env args) := rfl

/-- What this module looks at: the trace, and the size of the result. -/
def RunState.record (s : RunState) : InvokeTrace × ℕ := (s.out.trace, s.out.resultSize)

/-- A part of a run that leaves the trace and the size of the result. -/
abbrev KeepsRecord {α : Type} (p : Proc Event RunState α) : Prop :=
  Frame (Keeps RunState.record) (fun _ => True) p

/-- The timestamps of a phase, with their difference. -/
def cyclesOf (r : UInt64 × UInt64) : PhaseCycles := ⟨r.1, r.2, r.2 - r.1⟩

/-- The flag of a phase. -/
def TraceFlag.IsCycles (f : TraceFlag) : Prop := ∃ p, f = .cyclesValid p

/-- A trace that began with the phases `old`: it has the flags `N`, and besides them those of
phases, of all in `L` and of none outside `U`; these phases hold their readings, and no other phase
got a difference. -/
structure Traces (reading : TracePhase → UInt64 × UInt64) (old : TracePhase → PhaseCycles)
    (N : Finset TraceFlag) (L U : Finset TracePhase) (t : InvokeTrace) : Prop where
  version : t.version = 1
  plain : ∀ f, ¬ f.IsCycles → (f ∈ t.flags ↔ f ∈ N)
  lower : ∀ p ∈ L, .cyclesValid p ∈ t.flags
  upper : ∀ p, .cyclesValid p ∈ t.flags → p ∈ U
  closed : ∀ p, .cyclesValid p ∈ t.flags → t.phases p = cyclesOf (reading p)
  opened : ∀ p, .cyclesValid p ∉ t.flags → (t.phases p).cycles = (old p).cycles

namespace Traces

variable {reading : TracePhase → UInt64 × UInt64} {old : TracePhase → PhaseCycles}
  {N : Finset TraceFlag} {L U : Finset TracePhase} {t : InvokeTrace}

theorem mono (h : Traces reading old N L U t) {L' U' : Finset TracePhase} (hL : L' ⊆ L)
    (hU : U ⊆ U') : Traces reading old N L' U' t :=
  ⟨h.version, h.plain, fun p hp => h.lower p (hL hp), fun p hp => hU (h.upper p hp), h.closed,
    h.opened⟩

/-- Fields that are no flags and no timestamps do not matter. -/
theorem of_eq (h : Traces reading old N L U t) (t' : InvokeTrace)
    (hversion : t'.version = t.version) (hflags : t'.flags = t.flags) (hphases : t'.phases = t.phases) :
    Traces reading old N L U t' := by
  obtain ⟨hv, hplain, hlower, hupper, hclosed, hopened⟩ := h
  rw [← hversion] at hv
  rw [← hflags] at hplain hlower hupper hclosed hopened
  rw [← hphases] at hclosed hopened
  exact ⟨hv, hplain, hlower, hupper, hclosed, hopened⟩

theorem start (phases : TracePhase → PhaseCycles) :
    Traces reading phases ∅ ∅ ∅ { InvokeTrace.start with phases := phases } :=
  ⟨rfl, fun _ _ => Iff.rfl, fun _ h => absurd h (Finset.notMem_empty _),
    fun _ h => absurd h (Finset.notMem_empty _), fun _ h => absurd h (Finset.notMem_empty _),
    fun _ _ => rfl⟩

theorem setFlag (h : Traces reading old N L U t) {f : TraceFlag} (hf : ¬ f.IsCycles) :
    Traces reading old (insert f N) L U (t.setFlag f) := by
  have hcycles : ∀ p, TraceFlag.cyclesValid p ∈ insert f t.flags ↔ .cyclesValid p ∈ t.flags := by
    intro p
    rw [Finset.mem_insert]
    exact or_iff_right fun heq => hf ⟨p, heq.symm⟩
  refine ⟨h.version, fun f' hf' => ?_, fun p hp => (hcycles p).mpr (h.lower p hp),
    fun p hp => h.upper p ((hcycles p).mp hp), fun p hp => h.closed p ((hcycles p).mp hp),
    fun p hp => h.opened p fun hmem => hp ((hcycles p).mpr hmem)⟩
  show f' ∈ insert f t.flags ↔ f' ∈ insert f N
  rw [Finset.mem_insert, Finset.mem_insert, h.plain f' hf']

/-- A timestamp of a phase that is not closed. -/
theorem setPhase (h : Traces reading old N L U t) {p : TracePhase} (hp : p ∉ U)
    {f : PhaseCycles → PhaseCycles} (hf : ∀ c, (f c).cycles = c.cycles) :
    Traces reading old N L U (t.setPhase p f) := by
  have hopen : .cyclesValid p ∉ t.flags := fun hmem => hp (h.upper p hmem)
  refine ⟨h.version, h.plain, h.lower, h.upper, fun q hq => ?_, fun q hq => ?_⟩
  · have hne : q ≠ p := by
      rintro rfl
      exact hopen hq
    show Function.update t.phases p _ q = _
    rw [Function.update_of_ne hne]
    exact h.closed q hq
  · show (Function.update t.phases p _ q).cycles = _
    by_cases hqp : q = p
    · subst hqp
      rw [Function.update_self, hf]
      exact h.opened q hq
    · rw [Function.update_of_ne hqp]
      exact h.opened q hq

theorem beginPhase (h : Traces reading old N L U t) {p : TracePhase} (hp : p ∉ U)
    (tsc : UInt64) : Traces reading old N L U (InvokeTrace.beginPhase p tsc t) :=
  h.setPhase (f := fun c => { c with beginCycles := tsc }) hp fun _ => rfl

theorem endPhase (h : Traces reading old N L U t) {p : TracePhase} (hp : p ∉ U)
    (tsc : UInt64) : Traces reading old N L U (InvokeTrace.endPhase p tsc t) :=
  h.setPhase (f := fun c => { c with endCycles := tsc }) hp fun _ => rfl

/-- A phase that has both timestamps is closed. -/
theorem closePhase (h : Traces reading old N L U t) {p : TracePhase}
    (hbegin : (t.phases p).beginCycles = (reading p).1)
    (hend : (t.phases p).endCycles = (reading p).2) :
    Traces reading old N (insert p L) (insert p U) (t.closePhase p) := by
  have hflags : (t.closePhase p).flags = insert (.cyclesValid p) t.flags := rfl
  have hother : ∀ {q : TracePhase}, q ≠ p →
      (.cyclesValid q ∈ (t.closePhase p).flags ↔ .cyclesValid q ∈ t.flags) ∧
        (t.closePhase p).phases q = t.phases q := by
    intro q hq
    refine ⟨?_, Function.update_of_ne hq _ _⟩
    rw [hflags, Finset.mem_insert]
    exact or_iff_right fun heq => hq (TraceFlag.cyclesValid.inj heq)
  have hphase : (t.closePhase p).phases p = cyclesOf (reading p) := by
    show Function.update t.phases p _ p = _
    rw [Function.update_self, cyclesOf, ← hbegin, ← hend]
  refine ⟨h.version, fun f hf => ?_, fun q hq => ?_, fun q hq => ?_, fun q hq => ?_,
    fun q hq => ?_⟩
  · rw [hflags, Finset.mem_insert, ← h.plain f hf]
    exact or_iff_right fun heq => hf ⟨p, heq⟩
  · rw [hflags, Finset.mem_insert]
    rcases Finset.mem_insert.mp hq with rfl | hq
    · exact .inl rfl
    · exact .inr (h.lower q hq)
  · by_cases hqp : q = p
    · exact Finset.mem_insert.mpr (.inl hqp)
    · exact Finset.mem_insert_of_mem (h.upper q ((hother hqp).1.mp hq))
  · by_cases hqp : q = p
    · subst hqp
      exact hphase
    · rw [(hother hqp).2]
      exact h.closed q ((hother hqp).1.mp hq)
  · have hqp : q ≠ p := by
      rintro rfl
      exact hq (Finset.mem_insert_self _ _)
    rw [(hother hqp).2]
    exact h.opened q fun hmem => hq ((hother hqp).1.mpr hmem)

end Traces

/-! ## Parts of a run -/

theorem keepsRecord_of_prints {α : Type} {p : Proc Event RunState α}
    (hp : Frame Eq Event.IsPrint p) : KeepsRecord p :=
  hp.mono (fun _ _ h => h ▸ rfl) fun _ _ => trivial

theorem keepsRecord_enclavePrint (message : Bytes) : KeepsRecord (enclavePrint message) :=
  keepsRecord_of_prints (frame_enclavePrint message)

theorem keepsRecord_enclavePrintLit (message : String) :
    KeepsRecord (enclavePrintLit message) :=
  keepsRecord_of_prints (frame_enclavePrintLit message)

theorem keepsRecord_mapWorker (f : Globals → Globals) :
    KeepsRecord (modify (RunState.mapWorker f)) :=
  Frame.modify fun _ => rfl

theorem keepsRecord_gcmOpen (ok : Bool) (key : Block 32) (iv : Block 12) (aad ciphertext : Bytes)
    (tag : Block 16) : KeepsRecord (gcmOpen S ok key iv aad ciphertext tag) :=
  (Frame.emit trivial).bind fun _ => Frame.pure _

theorem keepsRecord_emitOcalls {events : List Event} (h : ∀ e ∈ events, e.IsOcall) :
    KeepsRecord (emitOcalls events) :=
  (frame_emitOcalls h).mono (fun _ _ h => h ▸ rfl) fun _ _ => trivial

theorem keepsRecord_prepareLabelKey (label : Block 32) :
    KeepsRecord (prepareLabelKey S env args label) :=
  Frame.get.bind fun _ => Frame.ite (keepsRecord_mapWorker _)
    (Frame.ite ((keepsRecord_enclavePrintLit _).bind fun _ => keepsRecord_mapWorker _)
      ((keepsRecord_enclavePrintLit _).bind fun _ =>
        (Frame.orStop (keepsRecord_enclavePrintLit _)).bind fun _ => keepsRecord_mapWorker _))

theorem keepsRecord_orDecKeyFailed (name : String) (key : Except (List String) (Block 32)) :
    KeepsRecord (orDecKeyFailed name key) :=
  keepsRecord_of_prints (frame_orReport _)

theorem triple_trace {I J : InvokeTrace × ℕ → Prop} {E : RunState → Prop}
    {f : InvokeTrace → InvokeTrace} (h : ∀ t n, I (t, n) → J (f t, n)) :
    Triple (fun s => I s.record) (trace .kem f) (fun _ s => J s.record) E :=
  Triple.modify fun _ hs => h _ _ hs

section Record

variable {reading : TracePhase → UInt64 × UInt64} {old : TracePhase → PhaseCycles} {size₀ : ℕ}
  {N : Finset TraceFlag} {L U : Finset TracePhase}

/-- A run that has not written the size of its result. -/
def Unfinished (reading : TracePhase → UInt64 × UInt64) (old : TracePhase → PhaseCycles)
    (size₀ : ℕ) (N : Finset TraceFlag) (L U : Finset TracePhase) (r : InvokeTrace × ℕ) : Prop :=
  Traces reading old N L U r.1 ∧ r.2 = size₀

/-- The flags, those of phases apart, with which a run may stop. -/
structure StopFlags (N : Finset TraceFlag) : Prop where
  noSuccess : .success ∉ N
  cache : .functionCacheValid ∈ N → (.functionCacheHit ∈ N ↔ .cfuncDecryptExecuted ∉ N)

/-- The record of a run that stopped. -/
def Stopped (reading : TracePhase → UInt64 × UInt64) (old : TracePhase → PhaseCycles)
    (size₀ : ℕ) (r : InvokeTrace × ℕ) : Prop :=
  ∃ N L U, StopFlags N ∧ Unfinished reading old size₀ N L U r

theorem Unfinished.stopped {r : InvokeTrace × ℕ} (h : Unfinished reading old size₀ N L U r)
    (hN : StopFlags N) : Stopped reading old size₀ r := ⟨N, L, U, hN, h⟩

/-- A phase has its first timestamp. -/
def Begun (p : TracePhase) (reading : TracePhase → UInt64 × UInt64) (r : InvokeTrace × ℕ) :
    Prop := (r.1.phases p).beginCycles = (reading p).1

/-- A phase has both timestamps. -/
def Ended (p : TracePhase) (reading : TracePhase → UInt64 × UInt64) (r : InvokeTrace × ℕ) :
    Prop := Begun p reading r ∧ (r.1.phases p).endCycles = (reading p).2

variable {E : RunState → Prop} {p : TracePhase}

theorem triple_begin {tsc : UInt64} (htsc : tsc = (reading p).1) (hp : p ∉ U) :
    Triple (fun s => Unfinished reading old size₀ N L U s.record)
      (trace .kem (InvokeTrace.beginPhase p tsc))
      (fun _ s => Begun p reading s.record ∧ Unfinished reading old size₀ N L U s.record) E := by
  refine triple_trace (J := fun r => Begun p reading r ∧ Unfinished reading old size₀ N L U r)
    fun t n h => ⟨?_, h.1.beginPhase hp tsc, h.2⟩
  show (Function.update t.phases p _ p).beginCycles = _
  rw [Function.update_self, ← htsc]

theorem triple_end {tsc : UInt64} (htsc : tsc = (reading p).2) (hp : p ∉ U) :
    Triple (fun s => Begun p reading s.record ∧ Unfinished reading old size₀ N L U s.record)
      (trace .kem (InvokeTrace.endPhase p tsc))
      (fun _ s => Ended p reading s.record ∧ Unfinished reading old size₀ N L U s.record) E := by
  refine triple_trace (I := fun r => Begun p reading r ∧ Unfinished reading old size₀ N L U r)
    (J := fun r => Ended p reading r ∧ Unfinished reading old size₀ N L U r)
    fun t n h => ⟨⟨?_, ?_⟩, h.2.1.endPhase hp tsc, h.2.2⟩
  · show (Function.update t.phases p _ p).beginCycles = _
    rw [Function.update_self]
    exact h.1
  · show (Function.update t.phases p _ p).endCycles = _
    rw [Function.update_self, ← htsc]

theorem triple_close :
    Triple (fun s => Ended p reading s.record ∧ Unfinished reading old size₀ N L U s.record)
      (trace .kem (InvokeTrace.closePhase p))
      (fun _ s => Unfinished reading old size₀ N (insert p L) (insert p U) s.record) E :=
  triple_trace (I := fun r => Ended p reading r ∧ Unfinished reading old size₀ N L U r)
    fun _ _ h => ⟨h.2.1.closePhase h.1.1 h.1.2, h.2.2⟩

theorem triple_setFlag {f : TraceFlag} (hf : ¬ f.IsCycles) :
    Triple (fun s => Unfinished reading old size₀ N L U s.record)
      (trace .kem (InvokeTrace.setFlag f))
      (fun _ s => Unfinished reading old size₀ (insert f N) L U s.record) E :=
  triple_trace fun _ _ h => ⟨h.1.setFlag hf, h.2⟩

/-- A part that does not touch the record. -/
theorem triple_keeps {α : Type} {q : Proc Event RunState α} (hq : KeepsRecord q)
    (hN : StopFlags N) :
    Triple (fun s => Unfinished reading old size₀ N L U s.record) q
      (fun _ s => Unfinished reading old size₀ N L U s.record)
      (fun s => Stopped reading old size₀ s.record) :=
  Triple.of_keeps (I := Unfinished reading old size₀ N L U) hq fun _ h => h.stopped hN

/-- A part between the timestamps of a phase that does not touch the record. -/
theorem triple_keeps_begun {α : Type} {q : Proc Event RunState α} (hq : KeepsRecord q)
    (hN : StopFlags N) :
    Triple (fun s => Begun p reading s.record ∧ Unfinished reading old size₀ N L U s.record) q
      (fun _ s => Begun p reading s.record ∧ Unfinished reading old size₀ N L U s.record)
      (fun s => Stopped reading old size₀ s.record) :=
  Triple.of_keeps (I := fun r => Begun p reading r ∧ Unfinished reading old size₀ N L U r) hq
    fun _ h => h.2.stopped hN

/-- A part behind the timestamps of a phase that does not touch the record. -/
theorem triple_keeps_ended {α : Type} {q : Proc Event RunState α} (hq : KeepsRecord q)
    (hN : StopFlags N) :
    Triple (fun s => Ended p reading s.record ∧ Unfinished reading old size₀ N L U s.record) q
      (fun _ s => Ended p reading s.record ∧ Unfinished reading old size₀ N L U s.record)
      (fun s => Stopped reading old size₀ s.record) :=
  Triple.of_keeps (I := fun r => Ended p reading r ∧ Unfinished reading old size₀ N L U r) hq
    fun _ h => h.2.stopped hN

/-! ## Admission -/

theorem Unfinished.mono {r : InvokeTrace × ℕ} (h : Unfinished reading old size₀ N L U r)
    {L' U' : Finset TracePhase} (hL : L' ⊆ L) (hU : U ⊆ U') :
    Unfinished reading old size₀ N L' U' r := ⟨h.1.mono hL hU, h.2⟩

/-- The flags behind the RID. -/
def ridFlags : Finset TraceFlag := insert .ridValid ∅

/-- The flags behind the record of the payload. -/
def payloadFlags (hit : Bool) : Finset TraceFlag :=
  insert (if hit then .functionCacheHit else .cfuncDecryptExecuted)
    (insert .functionCacheValid (insert .payloadValid ridFlags))

theorem stopFlags_empty : StopFlags ∅ := ⟨by decide, by decide⟩

theorem stopFlags_ridFlags : StopFlags ridFlags := ⟨by decide, by decide⟩

theorem stopFlags_payloadFlags (hit : Bool) : StopFlags (payloadFlags hit) := by
  cases hit
  · exact ⟨by decide, by decide⟩
  · exact ⟨by decide, by decide⟩

/-- The phases that may be closed before the module runs. -/
def admissionPhases : Finset TracePhase :=
  {.inputAesGcm, .cfuncAesGcm, .functionKeyDecap, .inputKeyDecap}

variable {fid : CStr}

/-- The exits of a run. -/
abbrev Exits (reading : TracePhase → UInt64 × UInt64) (old : TracePhase → PhaseCycles)
    (size₀ : ℕ) (s : RunState) : Prop := Stopped reading old size₀ s.record

theorem triple_computeRid :
    Triple (fun s => Unfinished reading old size₀ ∅ L U s.record)
      (computeRid .kem S env args fid)
      (fun _ s => Unfinished reading old size₀ ridFlags L U s.record)
      (Exits reading old size₀) := by
  unfold computeRid
  split
  · rename_i rid hrid
    have hset : Triple (fun s => Unfinished reading old size₀ ∅ L U s.record)
        (trace .kem fun t => { t with rid := rid }.setFlag .ridValid)
        (fun _ s => Unfinished reading old size₀ ridFlags L U s.record)
        (Exits reading old size₀) :=
      triple_trace fun t n h =>
        ⟨(h.1.of_eq { t with rid := rid } rfl rfl rfl).setFlag (by rintro ⟨p, hp⟩; cases hp),
          h.2⟩
    exact (Triple.pure fun _ h => h).bind fun _ => hset.bind fun _ => Triple.pure fun _ h => h
  · exact (triple_keeps (keepsRecord_enclavePrintLit _) stopFlags_empty).bind fun _ =>
      ⟨fun _ ha => absurd ha (by simp), fun h _ => h.stopped stopFlags_empty⟩

/-- Two timestamps around a part that does not touch the record. -/
theorem triple_phase {α : Type} {q : Proc Event RunState α} (hq : KeepsRecord q)
    (hN : StopFlags N) (htsc : reading p = env.tsc p) (hp : p ∉ U) :
    Triple (fun s => Unfinished reading old size₀ N ∅ U s.record)
      (do
        trace .kem (env.beginAt p)
        let a ← q
        trace .kem (env.endAt p)
        trace .kem (InvokeTrace.closePhase p)
        pure a)
      (fun _ s => Unfinished reading old size₀ N ∅ (insert p U) s.record)
      (Exits reading old size₀) :=
  (triple_begin (by rw [htsc]) hp).bind fun _ => (triple_keeps_begun hq hN).bind fun _ =>
    (triple_end (by rw [htsc]) hp).bind fun _ => triple_close.bind fun _ =>
      Triple.pure fun _ h => h.mono (Finset.empty_subset _) subset_rfl

/-- Two timestamps around a decryption, whose failure is looked at behind the second. -/
theorem triple_opening {α : Type} {q : Proc Event RunState (Option α)} (hq : KeepsRecord q)
    {message : Bytes} {rest : Proc Event RunState Unit} (hrest : KeepsRecord rest)
    (hN : StopFlags N) (htsc : reading p = env.tsc p) (hp : p ∉ U) :
    Triple (fun s => Unfinished reading old size₀ N ∅ U s.record)
      (do
        trace .kem (env.beginAt p)
        let o ← q
        trace .kem (env.endAt p)
        let a ← orStop o (enclavePrint message)
        trace .kem (InvokeTrace.closePhase p)
        rest
        pure a)
      (fun _ s => Unfinished reading old size₀ N ∅ (insert p U) s.record)
      (Exits reading old size₀) :=
  (triple_begin (by rw [htsc]) hp).bind fun _ => (triple_keeps_begun hq hN).bind fun _ =>
    (triple_end (by rw [htsc]) hp).bind fun _ =>
      (triple_keeps_ended (Frame.orStop (keepsRecord_enclavePrint _)) hN).bind fun _ =>
        triple_close.bind fun _ => (triple_keeps hrest hN).bind fun _ =>
          Triple.pure fun _ h => h.mono (Finset.empty_subset _) subset_rfl

theorem triple_decapRequestKey (hN : StopFlags N)
    (hclock : ∀ p ≠ TracePhase.workload, reading p = env.tsc p)
    (hU : .inputKeyDecap ∉ U) (aadReq : Bytes) :
    Triple (fun s => Unfinished reading old size₀ N ∅ U s.record)
      (decapRequestKey .kem S B env args aadReq)
      (fun _ s => Unfinished reading old size₀ N ∅ (insert .inputKeyDecap U) s.record)
      (Exits reading old size₀) :=
  triple_phase (q := do
      let s ← get
      orDecKeyFailed "C_key" (requestKey S B env s.worker args aadReq))
    (Frame.get.bind fun _ => keepsRecord_orDecKeyFailed _ _) hN (hclock _ (by decide)) hU

theorem triple_loadFunction (hN : StopFlags N)
    (hclock : ∀ p ≠ TracePhase.workload, reading p = env.tsc p)
    (hkey : .functionKeyDecap ∉ U) (hcode : .cfuncAesGcm ∉ U) (label : Block 32) (aadPkg : Bytes)
    (hit : Option Bytes) :
    Triple (fun s => Unfinished reading old size₀ N ∅ U s.record)
      (loadFunction .kem S B env args fid label aadPkg hit)
      (fun _ s => Unfinished reading old size₀ N ∅
        (insert .cfuncAesGcm (insert .functionKeyDecap U)) s.record)
      (Exits reading old size₀) := by
  cases hit with
  | some wasm =>
    exact Triple.pure fun _ h => h.mono subset_rfl
      ((Finset.subset_insert _ _).trans (Finset.subset_insert _ _))
  | none =>
    have hdecap : Triple (fun s => Unfinished reading old size₀ N ∅ U s.record)
        (decapFunctionKey .kem S B env args aadPkg)
        (fun _ s => Unfinished reading old size₀ N ∅ (insert .functionKeyDecap U) s.record)
        (Exits reading old size₀) :=
      (triple_begin (by rw [hclock _ (by decide)]) hkey).bind fun _ => Triple.get.bind fun _ =>
        (triple_keeps_begun (keepsRecord_orDecKeyFailed _ _) hN).bind fun _ =>
          (triple_end (by rw [hclock _ (by decide)]) hkey).bind fun _ => triple_close.bind fun _ =>
            (triple_keeps (keepsRecord_mapWorker _) hN).bind fun _ =>
              Triple.pure fun _ h => h.mono (Finset.empty_subset _) subset_rfl
    have hdecrypt : ∀ kFunc, Triple
        (fun s => Unfinished reading old size₀ N ∅ (insert .functionKeyDecap U) s.record)
        (decryptFunction .kem S env args aadPkg kFunc)
        (fun _ s => Unfinished reading old size₀ N ∅
          (insert .cfuncAesGcm (insert .functionKeyDecap U)) s.record)
        (Exits reading old size₀) := by
      intro kFunc
      have hphase : TracePhase.cfuncAesGcm ∉ insert .functionKeyDecap U := by
        rw [Finset.mem_insert]
        rintro (h | h)
        · cases h
        · exact hcode h
      exact (triple_keeps (Frame.require (keepsRecord_enclavePrintLit _)) hN).bind fun _ =>
        (triple_keeps (Frame.pure ()) hN).bind fun _ =>
          triple_opening (keepsRecord_gcmOpen _ _ _ _ _ _)
            (show KeepsRecord (whenLegacy .kem _) from Frame.pure ()) hN (hclock _ (by decide)) hphase
    exact hdecap.bind fun _ => (hdecrypt _).bind fun _ =>
      (triple_keeps (keepsRecord_mapWorker _) hN).bind fun _ => Triple.pure fun _ h => h

theorem triple_decryptInput (hN : StopFlags N)
    (hclock : ∀ p ≠ TracePhase.workload, reading p = env.tsc p)
    (hU : .inputAesGcm ∉ U) (aadReq : Bytes) (kReq : Block 32) :
    Triple (fun s => Unfinished reading old size₀ N ∅ U s.record)
      (decryptInput .kem S env args aadReq kReq)
      (fun _ s => Unfinished reading old size₀ N ∅ (insert .inputAesGcm U) s.record)
      (Exits reading old size₀) := by
  unfold decryptInput
  split
  · exact Triple.pure fun _ h => h.mono subset_rfl (Finset.subset_insert _ _)
  · refine (triple_keeps (Frame.require (keepsRecord_enclavePrintLit _)) hN).bind fun _ => ?_
    exact (triple_begin (by rw [hclock _ (by decide)]) hU).bind fun _ =>
      (triple_keeps_begun (keepsRecord_gcmOpen _ _ _ _ _ _) hN).bind fun _ =>
        (triple_end (by rw [hclock _ (by decide)]) hU).bind fun _ =>
          (triple_keeps_ended (Frame.orStop (keepsRecord_enclavePrintLit _)) hN).bind fun _ =>
            triple_close.bind fun _ =>
              (triple_keeps (q := whenLegacy .kem _) (Frame.pure ()) hN).bind fun _ =>
                Triple.pure fun _ h => h.mono (Finset.empty_subset _) subset_rfl

theorem triple_recordPayload (input hit : Option Bytes) (wasm : Bytes) :
    Triple (fun s => Unfinished reading old size₀ ridFlags L U s.record)
      (recordPayload .kem S env args input hit wasm)
      (fun _ s => Unfinished reading old size₀ (payloadFlags hit.isSome) L U s.record)
      (Exits reading old size₀) := by
  have hpayload : ∀ hash, Triple (fun s => Unfinished reading old size₀ ridFlags L U s.record)
      (trace .kem fun t => { t with
        payloadBytesConsumed := args.encryptedInput.length
        payloadSha256 := hash }.setFlag .payloadValid)
      (fun _ s => Unfinished reading old size₀ (insert .payloadValid ridFlags) L U s.record)
      (Exits reading old size₀) := fun hash =>
    triple_trace fun t n h =>
      ⟨(h.1.of_eq { t with
          payloadBytesConsumed := args.encryptedInput.length
          payloadSha256 := hash } rfl rfl rfl).setFlag (by rintro ⟨p, hp⟩; cases hp), h.2⟩
  have hbytes : Triple
      (fun s => Unfinished reading old size₀ (insert .payloadValid ridFlags) L U s.record)
      (trace .kem fun t => { t with functionCacheBytes := wasm.length }.setFlag .functionCacheValid)
      (fun _ s => Unfinished reading old size₀
        (insert .functionCacheValid (insert .payloadValid ridFlags)) L U s.record)
      (Exits reading old size₀) :=
    triple_trace fun t n h =>
      ⟨(h.1.of_eq { t with functionCacheBytes := wasm.length } rfl rfl rfl).setFlag
        (by rintro ⟨p, hp⟩; cases hp), h.2⟩
  refine Triple.bind (Triple.bind (triple_keeps (Frame.orStop (keepsRecord_enclavePrintLit _))
    stopFlags_ridFlags) fun hash => hpayload hash) fun _ => hbytes.bind fun _ => ?_
  cases hit with
  | some wasm => exact triple_setFlag (by rintro ⟨p, hp⟩; cases hp)
  | none => exact triple_setFlag (by rintro ⟨p, hp⟩; cases hp)

/-- **Up to the module**: the flags of the RID, of the payload and of the cache. -/
theorem triple_admitRequest (hclock : ∀ p ≠ TracePhase.workload, reading p = env.tsc p) :
    Triple (fun s => Unfinished reading old size₀ ∅ ∅ ∅ s.record)
      (admitRequest .kem S B env args fid)
      (fun _ s => ∃ hit, Unfinished reading old size₀ (payloadFlags hit) ∅ admissionPhases s.record)
      (Exits reading old size₀) := by
  refine triple_computeRid.bind fun rid => ?_
  refine (triple_keeps (Frame.orStop (keepsRecord_enclavePrintLit _)) stopFlags_ridFlags).bind
    fun aad => ?_
  refine (triple_keeps (Frame.orStop (keepsRecord_enclavePrintLit _)) stopFlags_ridFlags).bind
    fun label => ?_
  refine Triple.get.bind fun s => ?_
  refine (triple_keeps (Frame.require (keepsRecord_enclavePrintLit _)) stopFlags_ridFlags).bind
    fun _ => ?_
  refine (triple_keeps (Frame.onlyIf (keepsRecord_prepareLabelKey _)) stopFlags_ridFlags).bind
    fun _ => ?_
  refine (triple_decapRequestKey stopFlags_ridFlags hclock (by decide) _).bind fun kReq => ?_
  refine (triple_loadFunction stopFlags_ridFlags hclock (by decide) (by decide) _ _ _).bind
    fun wasm => ?_
  refine (triple_decryptInput stopFlags_ridFlags hclock (by decide) _ _).bind fun input => ?_
  exact (triple_recordPayload _ _ _).bind fun _ => Triple.pure fun _ h => ⟨_, h⟩

/-! ## The module and the end -/

theorem triple_executeModule (hclock : ∀ p ≠ TracePhase.workload, reading p = env.tsc p)
    (hN : StopFlags N) (hload : .wasmLoad ∉ U) (hinstantiate : .wasmInstantiate ∉ U)
    (wasm : Bytes) (input : Option Bytes) :
    Triple (fun s => Unfinished reading old size₀ N ∅ U s.record)
      (executeModule .kem env args wasm input)
      (fun final s => final = moduleState env args wasm input ∧
        Unfinished reading old size₀ N ∅ (insert .wasmInstantiate (insert .wasmLoad U)) s.record)
      (Exits reading old size₀) := by
  have hprints : ∀ texts, KeepsRecord (printAll texts) := fun _ =>
    keepsRecord_of_prints (frame_printAll _)
  have hruntime : ∀ {r : Except CStr Unit} {onFail : CStr → Proc Event RunState Unit},
      (∀ text, KeepsRecord (onFail text)) → KeepsRecord (orRuntimeError r onFail) := by
    intro r onFail h
    cases r with
    | ok u => exact Frame.pure ()
    | error text => exact (h text).bind fun _ => Frame.stop
  have hphase : TracePhase.wasmInstantiate ∉ insert .wasmLoad U := by
    rw [Finset.mem_insert]
    rintro (h | h)
    · cases h
    · exact hinstantiate h
  have hstart : Triple (fun s => Unfinished reading old size₀ N ∅ U s.record)
      (startModule .kem env wasm)
      (fun _ s => Unfinished reading old size₀ N ∅
        (insert .wasmInstantiate (insert .wasmLoad U)) s.record)
      (Exits reading old size₀) := by
    refine (triple_keeps (Frame.require (hprints _)) hN).bind fun _ => ?_
    refine (triple_keeps (Frame.require (hprints _)) hN).bind fun _ => ?_
    refine (triple_begin (by rw [hclock _ (by decide)]) hload).bind fun _ => ?_
    refine (triple_keeps_begun (hruntime fun _ => (keepsRecord_enclavePrintLit _).bind fun _ =>
      keepsRecord_enclavePrint _) hN).bind fun _ => ?_
    refine (triple_end (by rw [hclock _ (by decide)]) hload).bind fun _ => ?_
    refine triple_close.bind fun _ => ?_
    refine (triple_begin (by rw [hclock _ (by decide)]) hphase).bind fun _ => ?_
    refine (triple_keeps_begun
      (keepsRecord_emitOcalls fun _ => GuestCall.isOcall_of_mem_startOcalls) hN).bind fun _ => ?_
    refine (triple_keeps_begun (hruntime fun _ => (keepsRecord_enclavePrintLit _).bind fun _ =>
      (keepsRecord_enclavePrint _).bind fun _ => keepsRecord_enclavePrintLit _) hN).bind
      fun _ => ?_
    refine (triple_end (by rw [hclock _ (by decide)]) hphase).bind fun _ => ?_
    refine triple_close.bind fun _ => ?_
    refine (triple_keeps (Frame.require (keepsRecord_enclavePrintLit _)) hN).mono (fun _ h => h)
      (fun _ _ h => h.mono (Finset.empty_subset _) subset_rfl) fun _ h => h
  have hexecute : KeepsRecord (executeMain env wasm (moduleArgument env input) args.maxOutSize) :=
    (Frame.emit trivial).bind fun _ =>
      (keepsRecord_emitOcalls fun _ => GuestCall.isOcall_of_mem_ocalls).bind fun _ =>
        (Frame.onlyIf (keepsRecord_enclavePrintLit _)).bind fun _ =>
          (Frame.require (keepsRecord_enclavePrintLit _)).bind fun _ =>
            (Frame.require (Frame.pure ())).bind fun _ => Frame.pure _
  refine Triple.with_value (V := fun final => final = moduleState env args wasm input) ?_
    fun _ ha => (value_executeModule_eq_some_iff.mp ha).2
  exact (triple_keeps (Frame.require (keepsRecord_enclavePrintLit _)) hN).bind fun _ =>
    hstart.bind fun _ => triple_keeps hexecute hN

/-- The phases that a result needs. -/
def resultPhases : Finset TracePhase := {.outputAesGcm, .outputKem, .workload}

/-- The phases that may be closed behind the module. -/
def modulePhases : Finset TracePhase := insert .wasmInstantiate (insert .wasmLoad admissionPhases)

/-- The record of a run that completed: success, the phases of a result, and a result of this
size. -/
def Finished (reading : TracePhase → UInt64 × UInt64) (old : TracePhase → PhaseCycles)
    (N : Finset TraceFlag) (size : ℕ) (r : InvokeTrace × ℕ) : Prop :=
  (∃ U, Traces reading old (insert .success N) resultPhases U r.1) ∧ r.2 = size

theorem keepsRecord_ecallKemEncap (pkU : Block 65) : KeepsRecord (ecallKemEncap S env pkU) :=
  (Frame.require (keepsRecord_enclavePrintLit _)).bind fun _ =>
    (Frame.require (keepsRecord_enclavePrintLit _)).bind fun _ =>
      (Frame.orStop (keepsRecord_enclavePrintLit _)).bind fun _ =>
        (Frame.orStop (keepsRecord_enclavePrintLit _)).bind fun _ =>
          Frame.bind (Frame.modify fun _ => rfl) fun _ =>
            Frame.orStop (keepsRecord_enclavePrintLit _)

theorem keepsRecord_sealOutput (key : Block 32) (aadOut output : Bytes) (failed : String) :
    KeepsRecord (sealOutput S env key aadOut output failed) :=
  Frame.bind (Frame.modify fun _ => rfl) fun _ => (Frame.emit trivial).bind fun _ =>
    (Frame.require (keepsRecord_enclavePrintLit _)).bind fun _ => Frame.modify fun _ => rfl

/-- **The end of a run** either stops, or leaves the flag of success with the size. -/
theorem triple_sealResultKem (hclock : ∀ p ≠ TracePhase.workload, reading p = env.tsc p)
    (hN : StopFlags N) {final : ExecState args.maxOutSize}
    (hworkload : ∀ cycles, workloadCycles final = some cycles → reading .workload = cycles)
    (aadOut : Bytes) :
    Triple (fun s => Unfinished reading old size₀ N ∅ modulePhases s.record)
      (sealResultKem S env args aadOut final)
      (fun _ s => Finished reading old N final.capture.pos s.record)
      (Exits reading old size₀) := by
  refine (Triple.orStop (I := Unfinished reading old size₀ N ∅ modulePhases)
    (keepsRecord_enclavePrintLit _) fun _ h => h.stopped hN).bind fun cycles =>
      Triple.of_fact fun hcycles => ?_
  have hreading := hworkload cycles hcycles
  obtain ⟨first, last⟩ := cycles
  refine (triple_begin (by rw [hreading]) (by decide)).bind fun _ => ?_
  refine (triple_end (by rw [hreading]) (by decide)).bind fun _ => ?_
  refine triple_close.bind fun _ => ?_
  refine (triple_keeps (keepsRecord_ecallKemEncap _).attempt hN).bind fun _ => ?_
  refine (triple_keeps (Frame.orStop (keepsRecord_enclavePrintLit _)) hN).bind fun kU => ?_
  refine (triple_begin (by rw [hclock _ (by decide)]) (by decide)).bind fun _ => ?_
  refine (triple_end (by rw [hclock _ (by decide)]) (by decide)).bind fun _ => ?_
  refine triple_close.bind fun _ => ?_
  refine (triple_keeps (Frame.require (keepsRecord_enclavePrintLit _)) hN).bind fun _ => ?_
  refine (triple_keeps (keepsRecord_sealOutput _ _ _ _) hN).bind fun _ => ?_
  refine (triple_begin (by rw [hclock _ (by decide)]) (by decide)).bind fun _ => ?_
  refine (triple_end (by rw [hclock _ (by decide)]) (by decide)).bind fun _ => ?_
  refine triple_close.bind fun _ => ?_
  refine Triple.bind (Q := fun _ s => ∃ U, Unfinished reading old final.capture.pos N resultPhases U
    s.record) (Triple.modify fun s h => ⟨_, h.1, rfl⟩) fun _ => ?_
  refine Triple.of_exists fun U => triple_trace fun t n h => ⟨⟨U, ?_⟩, h.2⟩
  exact h.1.setFlag (by rintro ⟨p, hp⟩; cases hp)

/-! ## A whole run -/

/-- What a run that starts in the globals is admitted with. -/
def admittedRequest (S : Sgx) (B : Bfibe) (env : RunEnv) (args : RunArgs) (g : Globals) :
    Option Admitted :=
  (admitRequest .kem S B env args (invocationFid g args) (RunState.start g)).value

/-- The readings of a run: those of the platform, and for the workload those of the module. -/
def readings (S : Sgx) (B : Bfibe) (env : RunEnv) (args : RunArgs) (g : Globals)
    (p : TracePhase) : UInt64 × UInt64 :=
  if p = .workload then
    ((admittedRequest S B env args g).bind fun m =>
      workloadCycles (moduleState env args m.wasm m.input)).getD (0, 0)
  else env.tsc p

theorem readings_of_ne {g : Globals} {p : TracePhase} (h : p ≠ .workload) :
    readings S B env args g p = env.tsc p := if_neg h

theorem readings_workload {g : Globals} {m : Admitted}
    (hm : admittedRequest S B env args g = some m) {cycles : UInt64 × UInt64}
    (h : workloadCycles (moduleState env args m.wasm m.input) = some cycles) :
    readings S B env args g .workload = cycles := by
  rw [readings, if_pos rfl, hm, Option.bind_some, h, Option.getD_some]

theorem le_of_workloadCycles {capacity : ℕ} {final : ExecState capacity}
    {cycles : UInt64 × UInt64} (h : workloadCycles final = some cycles) : cycles.1 ≤ cycles.2 := by
  unfold workloadCycles at h
  split at h
  · split at h
    · cases h
    · rename_i hle
      obtain rfl := Option.some.inj h
      exact UInt64.not_lt.mp hle
  · cases h

/-- The readings of the workload are in order. -/
theorem readings_workload_le (g : Globals) :
    (readings S B env args g .workload).1 ≤ (readings S B env args g .workload).2 := by
  rw [readings, if_pos rfl]
  cases h : (admittedRequest S B env args g).bind fun m =>
      workloadCycles (moduleState env args m.wasm m.input) with
  | none => exact UInt64.le_refl _
  | some cycles =>
    obtain ⟨m, -, hcycles⟩ := Option.bind_eq_some_iff.mp h
    exact le_of_workloadCycles hcycles

/-- **The body of a run**, from certain globals. -/
theorem triple_runBody (g : Globals) :
    Triple (fun s => s.worker = g ∧
        Unfinished (readings S B env args g) old size₀ ∅ ∅ ∅ s.record)
      (runBody .kem S B env args (invocationFid g args))
      (fun _ s => ∃ hit size, Finished (readings S B env args g) old (payloadFlags hit) size s.record)
      (Exits (readings S B env args g) old size₀) := by
  have hclock : ∀ p ≠ TracePhase.workload, readings S B env args g p = env.tsc p :=
    fun _ => readings_of_ne
  refine Triple.bind (Triple.with_value (V := fun m => admittedRequest S B env args g = some m)
    ((triple_admitRequest hclock).mono (fun _ h => h.2) (fun _ _ h => h) fun _ h => h) ?_) ?_
  · intro s m hs hm
    obtain ⟨c, hc⟩ := value_admitRequest_eq_some_iff.mp hm
    exact value_admitRequest_eq_some_iff.mpr ⟨c, hs.1 ▸ hc⟩
  · refine fun m => Triple.of_fact fun hm => Triple.of_exists fun hit => ?_
    have hN := stopFlags_payloadFlags hit
    refine (triple_executeModule hclock hN (by decide) (by decide) m.wasm m.input).bind fun final =>
      Triple.of_fact fun hfinal => ?_
    subst hfinal
    refine (triple_sealResultKem hclock hN (fun cycles h => readings_workload hm h) _).mono
      (fun _ h => h) (fun _ _ h => ⟨hit, _, h⟩) fun _ h => h

/-- **A run** behind the `memset`, from certain globals and a memory with the phases `old`. -/
theorem triple_tracedRun (g : Globals) :
    Triple (fun s => s.worker = g ∧
        Unfinished (readings S B env args g) old size₀ ∅ ∅ ∅ s.record)
      (tracedRun S B env args)
      (fun _ s => ∃ hit size, Finished (readings S B env args g) old (payloadFlags hit) size s.record)
      (Exits (readings S B env args g) old size₀) := by
  have hprints : ∀ {α : Type} {q : Proc Event RunState α}, Frame Eq Event.IsPrint q →
      Triple (fun s => s.worker = g ∧
          Unfinished (readings S B env args g) old size₀ ∅ ∅ ∅ s.record) q
        (fun _ s => s.worker = g ∧ Unfinished (readings S B env args g) old size₀ ∅ ∅ ∅ s.record)
        (Exits (readings S B env args g) old size₀) := by
    intro α q hq
    refine Triple.of_keeps (f := fun s => s)
      (hq.mono (fun _ _ h => h.symm) fun _ _ => trivial)
      fun s hs => hs.2.stopped stopFlags_empty
  refine Triple.get_bind fun s₀ hs₀ => ?_
  have hworker : s₀.worker = g := hs₀.1
  rw [hworker]
  refine Triple.mono (P := fun s => s.worker = g ∧
    Unfinished (readings S B env args g) old size₀ ∅ ∅ ∅ s.record) ?_ (fun s hs => hs ▸ hs₀)
    (fun _ _ h => h) fun _ h => h
  refine (hprints ((Frame.require (frame_enclavePrintLit _)).bind fun _ =>
    Frame.require (frame_enclavePrintLit _))).bind fun _ => ?_
  refine (hprints (Frame.require (frame_enclavePrintLit _))).bind fun _ => ?_
  exact (triple_runBody g).withCleanup (fun _ _ h => h) fun _ h => h

end Record

/-! ## What the memory held before -/

/-- Two runs with the same globals and flags. -/
def SameFlags (s s' : RunState) : Prop :=
  s'.worker = s.worker ∧ s'.out.trace.flags = s.out.trace.flags

theorem alike_print (message : Bytes) : Alike SameFlags (enclavePrint message) :=
  Alike.of_frame (frame_enclavePrint message) fun _ => rfl

theorem alike_printLit (message : String) : Alike SameFlags (enclavePrintLit message) :=
  alike_print _

theorem alike_mapWorker (f : Globals → Globals) :
    Alike SameFlags (modify (RunState.mapWorker f) : Proc Event RunState Unit) :=
  Alike.modify fun h => ⟨congrArg f h.1, h.2⟩

theorem alike_trace {f : InvokeTrace → InvokeTrace}
    (hf : ∀ t t', t'.flags = t.flags → (f t').flags = (f t).flags) :
    Alike SameFlags (trace .kem f) :=
  Alike.modify fun h => ⟨h.1, hf _ _ h.2⟩

theorem alike_begin (p : TracePhase) (tsc : UInt64) :
    Alike SameFlags (trace .kem (InvokeTrace.beginPhase p tsc)) := alike_trace fun _ _ h => h

theorem alike_end (p : TracePhase) (tsc : UInt64) :
    Alike SameFlags (trace .kem (InvokeTrace.endPhase p tsc)) := alike_trace fun _ _ h => h

theorem alike_close (p : TracePhase) :
    Alike SameFlags (trace .kem (InvokeTrace.closePhase p)) :=
  alike_trace fun _ _ h => congrArg (insert _) h

theorem alike_setFlag (f : TraceFlag) : Alike SameFlags (trace .kem (InvokeTrace.setFlag f)) :=
  alike_trace fun _ _ h => congrArg (insert f) h

theorem alike_gcmOpen (ok : Bool) (key : Block 32) (iv : Block 12) (aad ciphertext : Bytes)
    (tag : Block 16) : Alike SameFlags (gcmOpen S ok key iv aad ciphertext tag) :=
  (Alike.emit _).bind fun _ => Alike.pure _

theorem alike_orDecKeyFailed (name : String) (key : Except (List String) (Block 32)) :
    Alike SameFlags (orDecKeyFailed name key) :=
  Alike.of_frame (frame_orReport _) fun s => value_orDecKeyFailed name key s

theorem alike_computeRid (fid : CStr) : Alike SameFlags (computeRid .kem S env args fid) := by
  unfold computeRid
  split
  · exact (Alike.pure ()).bind fun _ =>
      (alike_trace fun _ _ h => congrArg (insert _) h).bind fun _ => Alike.pure _
  · exact (alike_printLit _).bind fun _ => Alike.stop

theorem alike_prepareLabelKey (label : Block 32) :
    Alike SameFlags (prepareLabelKey S env args label) := by
  refine Alike.get_bind (fun s => ?_) fun {s s'} h => ?_
  · exact Alike.ite (alike_mapWorker _) (Alike.ite
      ((alike_printLit _).bind fun _ => alike_mapWorker _)
      ((alike_printLit _).bind fun _ => (Alike.orStop (alike_printLit _)).bind fun _ =>
        alike_mapWorker _))
  · rw [h.1]

theorem alike_decapRequestKey (aadReq : Bytes) :
    Alike SameFlags (decapRequestKey .kem S B env args aadReq) := by
  refine (alike_begin _ _).bind fun _ => Alike.get_bind (fun s => ?_) fun {s s'} h => ?_
  · exact (alike_orDecKeyFailed _ _).bind fun _ => (alike_end _ _).bind fun _ =>
      (alike_close _).bind fun _ => Alike.pure _
  · rw [h.1]

theorem alike_loadFunction (fid : CStr) (label : Block 32) (aadPkg : Bytes) (hit : Option Bytes) :
    Alike SameFlags (loadFunction .kem S B env args fid label aadPkg hit) := by
  cases hit with
  | some wasm => exact Alike.pure _
  | none =>
    have hdecap : Alike SameFlags (decapFunctionKey .kem S B env args aadPkg) := by
      refine (alike_begin _ _).bind fun _ => Alike.get_bind (fun s => ?_) fun {s s'} h => ?_
      · exact (alike_orDecKeyFailed _ _).bind fun _ => (alike_end _ _).bind fun _ =>
          (alike_close _).bind fun _ => (alike_mapWorker _).bind fun _ => Alike.pure _
      · rw [h.1]
    have hdecrypt : ∀ kFunc, Alike SameFlags (decryptFunction .kem S env args aadPkg kFunc) :=
      fun _ => (Alike.require (alike_printLit _)).bind fun _ => (Alike.pure ()).bind fun _ =>
        (alike_begin _ _).bind fun _ => (alike_gcmOpen _ _ _ _ _ _).bind fun _ =>
          (alike_end _ _).bind fun _ => (Alike.orStop (alike_print _)).bind fun _ =>
            (alike_close _).bind fun _ => (Alike.pure ()).bind fun _ => Alike.pure _
    exact hdecap.bind fun _ => (hdecrypt _).bind fun _ => (alike_mapWorker _).bind fun _ =>
      Alike.pure _

theorem alike_decryptInput (aadReq : Bytes) (kReq : Block 32) :
    Alike SameFlags (decryptInput .kem S env args aadReq kReq) :=
  Alike.ite (Alike.pure _) ((Alike.require (alike_printLit _)).bind fun _ =>
    (alike_begin _ _).bind fun _ => (alike_gcmOpen _ _ _ _ _ _).bind fun _ =>
      (alike_end _ _).bind fun _ => (Alike.orStop (alike_printLit _)).bind fun _ =>
        (alike_close _).bind fun _ => (Alike.pure ()).bind fun _ => Alike.pure _)

theorem alike_recordPayload (input hit : Option Bytes) (wasm : Bytes) :
    Alike SameFlags (recordPayload .kem S env args input hit wasm) :=
  ((Alike.orStop (alike_printLit _)).bind fun _ =>
    alike_trace fun _ _ h => congrArg (insert _) h).bind fun _ =>
      (alike_trace fun _ _ h => congrArg (insert _) h).bind fun _ =>
        Alike.ite (alike_setFlag _) (alike_setFlag _)

theorem alike_admitRequest (fid : CStr) :
    Alike SameFlags (admitRequest .kem S B env args fid) := by
  refine (alike_computeRid fid).bind fun rid => (Alike.orStop (alike_printLit _)).bind fun aad =>
    (Alike.orStop (alike_printLit _)).bind fun label =>
      Alike.get_bind (fun s => ?_) fun {s s'} h => ?_
  · exact (Alike.require (alike_printLit _)).bind fun _ =>
      (Alike.onlyIf (alike_prepareLabelKey _)).bind fun _ => (alike_decapRequestKey _).bind
        fun _ => (alike_loadFunction _ _ _ _).bind fun _ => (alike_decryptInput _ _).bind
          fun _ => (alike_recordPayload _ _ _).bind fun _ => Alike.pure _
  · rw [h.1]

theorem alike_executeModule (wasm : Bytes) (input : Option Bytes) :
    Alike SameFlags (executeModule .kem env args wasm input) := by
  have hprints : ∀ texts, Alike SameFlags (printAll texts) := by
    intro texts
    induction texts with
    | nil => exact Alike.pure ()
    | cons text texts ih => exact (alike_printLit _).bind fun _ => ih
  have hocalls : ∀ {events : List Event}, (∀ e ∈ events, e.IsOcall) →
      Alike SameFlags (emitOcalls events) := fun h =>
    Alike.of_frame (frame_emitOcalls h) fun s => value_emitOcalls _ s
  have hruntime : ∀ {r : Except CStr Unit} {onFail : CStr → Proc Event RunState Unit},
      (∀ text, Alike SameFlags (onFail text)) → Alike SameFlags (orRuntimeError r onFail) := by
    intro r onFail h
    cases r with
    | ok u => exact Alike.pure ()
    | error text => exact (h text).bind fun _ => Alike.stop
  have hstart : Alike SameFlags (startModule .kem env wasm) :=
    (Alike.require (hprints _)).bind fun _ => (Alike.require (hprints _)).bind fun _ =>
      (alike_begin _ _).bind fun _ =>
        (hruntime fun _ => (alike_printLit _).bind fun _ => alike_print _).bind fun _ =>
          (alike_end _ _).bind fun _ => (alike_close _).bind fun _ => (alike_begin _ _).bind
            fun _ => (hocalls fun _ => GuestCall.isOcall_of_mem_startOcalls).bind fun _ =>
              (hruntime fun _ => (alike_printLit _).bind fun _ => (alike_print _).bind fun _ =>
                alike_printLit _).bind fun _ => (alike_end _ _).bind fun _ =>
                  (alike_close _).bind fun _ => Alike.require (alike_printLit _)
  exact (Alike.require (alike_printLit _)).bind fun _ => hstart.bind fun _ =>
    (Alike.emit _).bind fun _ => (hocalls fun _ => GuestCall.isOcall_of_mem_ocalls).bind fun _ =>
      (Alike.onlyIf (alike_printLit _)).bind fun _ => (Alike.require (alike_printLit _)).bind
        fun _ => (Alike.require (Alike.pure ())).bind fun _ => Alike.pure _

theorem alike_sealResultKem (aadOut : Bytes) (final : ExecState args.maxOutSize) :
    Alike SameFlags (sealResultKem S env args aadOut final) := by
  have hout : ∀ {f : RunOut → RunOut}, (∀ o, (f o).trace = o.trace) →
      Alike SameFlags (modify (RunState.mapOut f) : Proc Event RunState Unit) := by
    refine fun {f} hf => Alike.modify fun {s s'} h => ⟨h.1, ?_⟩
    show (f s'.out).trace.flags = (f s.out).trace.flags
    rw [hf, hf]
    exact h.2
  have hencap : Alike SameFlags (ecallKemEncap S env args.pkU) :=
    (Alike.require (alike_printLit _)).bind fun _ => (Alike.require (alike_printLit _)).bind
      fun _ => (Alike.orStop (alike_printLit _)).bind fun _ =>
        (Alike.orStop (alike_printLit _)).bind fun _ => Alike.bind (hout fun _ => rfl) fun _ =>
          Alike.orStop (alike_printLit _)
  have hseal : ∀ key output failed,
      Alike SameFlags (sealOutput S env key aadOut output failed) := fun _ _ _ =>
    Alike.bind (hout fun _ => rfl) fun _ => (Alike.emit _).bind fun _ =>
      (Alike.require (alike_printLit _)).bind fun _ => hout fun _ => rfl
  exact (Alike.orStop (alike_printLit _)).bind fun _ => (alike_begin _ _).bind fun _ =>
    (alike_end _ _).bind fun _ => (alike_close _).bind fun _ => hencap.attempt.bind fun _ =>
      (Alike.orStop (alike_printLit _)).bind fun _ => (alike_begin _ _).bind fun _ =>
        (alike_end _ _).bind fun _ => (alike_close _).bind fun _ =>
          (Alike.require (alike_printLit _)).bind fun _ => (hseal _ _ _).bind fun _ =>
            (alike_begin _ _).bind fun _ => (alike_end _ _).bind fun _ => (alike_close _).bind
              fun _ => Alike.bind (hout fun _ => rfl) fun _ => alike_setFlag _

/-- **Two runs with the same globals and flags** set the same flags, whatever the memory held. -/
theorem alike_tracedRun : Alike SameFlags (tracedRun S B env args) := by
  refine Alike.get_bind (fun s => ?_) fun {s s'} h => ?_
  · refine ((Alike.require (alike_printLit _)).bind fun _ =>
      Alike.require (alike_printLit _)).bind fun _ => (Alike.require (alike_printLit _)).bind
        fun _ => Alike.withCleanup ?_ fun h => ⟨congrArg Globals.zeroizeLabelKey h.1, h.2⟩
    exact (alike_admitRequest _).bind fun _ => (alike_executeModule _ _).bind fun _ =>
      alike_sealResultKem _ _
  · rw [h.1]

/-! ## The flags of a run -/

theorem runEncryptedWasm_kem_eq (htrace : args.invokeTrace = true) (s : RunState) :
    runEncryptedWasm .kem S B env args s =
      tracedRun S B env args (s.mapTrace fun _ => InvokeTrace.start) := by
  rw [runEncryptedWasm_kem, htrace]
  rfl

/-- The trace of a run whose `memset` left certain phases. -/
def traceFrom (S : Sgx) (B : Bfibe) (env : RunEnv) (args : RunArgs) (g : Globals)
    (old : TracePhase → PhaseCycles) : InvokeTrace :=
  (tracedRun S B env args
    ⟨g, { RunOut.zero with trace := { InvokeTrace.start with phases := old } }⟩).state.out.trace

/-- **A run records a phase**: begin, end and difference are written, whatever the memory held, and
the workload does not end before it begins. -/
def Records (S : Sgx) (B : Bfibe) (env : RunEnv) (args : RunArgs) (g : Globals)
    (p : TracePhase) : Prop :=
  ∃ c : PhaseCycles, c.cycles = c.endCycles - c.beginCycles ∧
    (p = .workload → c.beginCycles ≤ c.endCycles) ∧
    ∀ old, (traceFrom S B env args g old).phases p = c

/-- **A run writes the size of its result**, whatever the output parameters held. -/
def WritesSize (S : Sgx) (B : Bfibe) (env : RunEnv) (args : RunArgs) (g : Globals) (n : ℕ) :
    Prop :=
  ∀ o : RunOut, (runEncryptedWasm .kem S B env args ⟨g, o⟩).state.out.resultSize = n

/-- The trace of a run from certain globals. -/
def runTrace (S : Sgx) (B : Bfibe) (env : RunEnv) (args : RunArgs) (g : Globals) : InvokeTrace :=
  (runEncryptedWasm .kem S B env args (RunState.start g)).state.out.trace

variable {g : Globals}

theorem runTrace_eq (htrace : args.invokeTrace = true) :
    runTrace S B env args g = traceFrom S B env args g InvokeTrace.zero.phases := by
  rw [runTrace, runEncryptedWasm_kem_eq htrace]
  rfl

variable (S B env args g) in
theorem unfinished_start (old : TracePhase → PhaseCycles) (o : RunOut) :
    Unfinished (readings S B env args g) old o.resultSize ∅ ∅ ∅
      (RunState.record ⟨g, { o with trace := { InvokeTrace.start with phases := old } }⟩) :=
  ⟨Traces.start old, rfl⟩

/-- The memory decides no flag. -/
theorem flags_traceFrom (old old' : TracePhase → PhaseCycles) :
    (traceFrom S B env args g old').flags = (traceFrom S B env args g old).flags := by
  have hstart : SameFlags
      ⟨g, { RunOut.zero with trace := { InvokeTrace.start with phases := old } }⟩
      ⟨g, { RunOut.zero with trace := { InvokeTrace.start with phases := old' } }⟩ := ⟨rfl, rfl⟩
  exact (alike_tracedRun.state hstart).2

variable (S B env args g) in
/-- What a trace holds, wherever its run ended. -/
theorem traces_traceFrom (old : TracePhase → PhaseCycles) : ∃ N L U,
    Traces (readings S B env args g) old N L U (traceFrom S B env args g old) := by
  have htriple : Triple (fun s => s.worker = g ∧
      Unfinished (readings S B env args g) old 0 ∅ ∅ ∅ s.record) (tracedRun S B env args) _ _ :=
    triple_tracedRun g
  have hstart := unfinished_start S B env args g old RunOut.zero
  cases hv : (tracedRun S B env args
      ⟨g, { RunOut.zero with trace := { InvokeTrace.start with phases := old } }⟩).value with
  | none =>
    obtain ⟨N, L, U, -, h, -⟩ := htriple.stops ⟨rfl, hstart⟩ hv
    exact ⟨N, L, U, h⟩
  | some u =>
    obtain ⟨hit, size, ⟨U, h⟩, -⟩ := htriple.ends ⟨rfl, hstart⟩ hv
    exact ⟨_, _, U, h⟩

/-- **The flag of a phase** is set exactly when the run records it. -/
theorem cyclesValid_mem_iff (htrace : args.invokeTrace = true) {p : TracePhase} :
    .cyclesValid p ∈ (runTrace S B env args g).flags ↔ Records S B env args g p := by
  rw [runTrace_eq htrace]
  constructor
  · intro hmem
    refine ⟨cyclesOf (readings S B env args g p), rfl, ?_, fun old => ?_⟩
    · rintro rfl
      exact readings_workload_le g
    · obtain ⟨N, L, U, h⟩ := traces_traceFrom S B env args g old
      refine h.closed p ?_
      rw [flags_traceFrom InvokeTrace.zero.phases old]
      exact hmem
  · rintro ⟨c, -, -, hwritten⟩
    by_contra hmem
    -- a memory with another difference shows that none was written
    obtain ⟨N, L, U, h⟩ := traces_traceFrom S B env args g fun _ => ⟨0, 0, c.cycles + 1⟩
    have hopen := h.opened p (by rwa [flags_traceFrom InvokeTrace.zero.phases])
    rw [hwritten] at hopen
    have hnat := congrArg UInt64.toNat hopen
    rw [UInt64.toNat_add] at hnat
    have hlt := c.cycles.toNat_lt
    change c.cycles.toNat = (c.cycles.toNat + 1) % 2 ^ 64 at hnat
    omega

/-- **A run that completes** has the flags of a result. -/
theorem flags_of_value (htrace : args.invokeTrace = true)
    (h : (runEncryptedWasm .kem S B env args (RunState.start g)).value = some ()) :
    ∃ hit, ∃ U, Traces (readings S B env args g) InvokeTrace.zero.phases
      (insert .success (payloadFlags hit)) resultPhases U (runTrace S B env args g) := by
  have hstart := unfinished_start S B env args g InvokeTrace.zero.phases RunOut.zero
  rw [runEncryptedWasm_kem_eq htrace] at h
  obtain ⟨hit, size, ⟨U, htraces⟩, -⟩ := (triple_tracedRun g).ends ⟨rfl, hstart⟩ h
  refine ⟨hit, U, ?_⟩
  rw [runTrace_eq htrace]
  exact htraces

/-- **A run that stops** has the flags of a stop, and the size it found. -/
theorem flags_of_stop (htrace : args.invokeTrace = true) {o : RunOut}
    (h : (runEncryptedWasm .kem S B env args ⟨g, o⟩).value = none) :
    Stopped (readings S B env args g) InvokeTrace.zero.phases o.resultSize
      (runEncryptedWasm .kem S B env args ⟨g, o⟩).state.record := by
  have hstart := unfinished_start S B env args g InvokeTrace.zero.phases o
  rw [runEncryptedWasm_kem_eq htrace] at h ⊢
  exact (triple_tracedRun g).stops ⟨rfl, hstart⟩ h

theorem not_isCycles_success : ¬ TraceFlag.success.IsCycles := by
  rintro ⟨p, hp⟩
  cases hp

/-- **Success** is set exactly when the run completes. -/
theorem success_mem_iff (htrace : args.invokeTrace = true) :
    .success ∈ (runTrace S B env args g).flags ↔
      (runEncryptedWasm .kem S B env args (RunState.start g)).value = some () := by
  constructor
  · intro hmem
    cases hv : (runEncryptedWasm .kem S B env args (RunState.start g)).value with
    | some u => rfl
    | none =>
      obtain ⟨N, L, U, hN, htraces, -⟩ := flags_of_stop htrace hv
      exact absurd ((htraces.plain _ not_isCycles_success).mp hmem) hN.noSuccess
  · intro hv
    obtain ⟨hit, U, htraces⟩ := flags_of_value htrace hv
    exact (htraces.plain _ not_isCycles_success).mpr (Finset.mem_insert_self _ _)

/-- **Success** is set exactly when the run writes the size of a result that fits. -/
theorem success_mem_iff_writesSize (htrace : args.invokeTrace = true) :
    .success ∈ (runTrace S B env args g).flags ↔
      ∃ n ≤ args.maxOutSize, WritesSize S B env args g n := by
  rw [success_mem_iff htrace]
  constructor
  · intro hv
    obtain ⟨m, key, h⟩ := value_runEncryptedWasm_eq_some_iff.mp hv
    refine ⟨_, (moduleState env args m.wasm m.input).capture.pos_le, fun o => ?_⟩
    exact (holds_of_completes (s := ⟨g, o⟩) h).size
  · rintro ⟨n, -, hwrites⟩
    cases hv : (runEncryptedWasm .kem S B env args (RunState.start g)).value with
    | some u => rfl
    | none =>
      -- a run that stops leaves the size it found
      have hnone : (runEncryptedWasm .kem S B env args
          ⟨g, { RunOut.zero with resultSize := n + 1 }⟩).value = none := by
        cases hv' : (runEncryptedWasm .kem S B env args
            ⟨g, { RunOut.zero with resultSize := n + 1 }⟩).value with
        | none => rfl
        | some u =>
          obtain ⟨m, key, h⟩ := value_runEncryptedWasm_eq_some_iff.mp hv'
          have hv'' := value_runEncryptedWasm_eq_some_iff (s := RunState.start g) |>.mpr ⟨m, key, h⟩
          rw [hv] at hv''
          cases hv''
      obtain ⟨N, L, U, -, -, hsize⟩ := flags_of_stop htrace hnone
      have hleft := hwrites { RunOut.zero with resultSize := n + 1 }
      change _ = n + 1 at hsize
      exact absurd (hleft.symm.trans hsize) (by omega)

/-- **The flags of the cache**: a hit or a decryption, not both. -/
theorem cache_flags (htrace : args.invokeTrace = true)
    (h : .functionCacheValid ∈ (runTrace S B env args g).flags) :
    .functionCacheHit ∈ (runTrace S B env args g).flags ↔
      .cfuncDecryptExecuted ∉ (runTrace S B env args g).flags := by
  have hplain : ∀ f : TraceFlag, f = .functionCacheValid ∨ f = .functionCacheHit ∨
      f = .cfuncDecryptExecuted → ¬ f.IsCycles := by
    rintro f (rfl | rfl | rfl) ⟨p, hp⟩ <;> cases hp
  cases hv : (runEncryptedWasm .kem S B env args (RunState.start g)).value with
  | some u =>
    obtain ⟨hit, U, htraces⟩ := flags_of_value htrace hv
    rw [htraces.plain _ (hplain _ (.inr (.inl rfl))), htraces.plain _ (hplain _ (.inr (.inr rfl)))]
    cases hit <;> decide
  | none =>
    obtain ⟨N, L, U, hN, htraces, -⟩ := flags_of_stop htrace hv
    have hvalid := (htraces.plain _ (hplain _ (.inl rfl))).mp h
    have hhit := htraces.plain _ (hplain _ (.inr (.inl rfl)))
    have hexecuted := htraces.plain _ (hplain _ (.inr (.inr rfl)))
    exact (hhit.trans (hN.cache hvalid)).trans (not_congr hexecuted).symm

end Worker
end AsynCS
