import AsynCS.Worker.BfibeLoad
import AsynCS.Worker.EccSlot
import AsynCS.Worker.RunSpec

/-!
# The worker enclave as a state machine

The ECALLs that read or write the key slots and the function cache, with arguments the host
chooses and with what the platform answers during the call.  The enclave handles one call at a
time, so a run is a sequence of calls.

* `WorkerCall`, `WorkerReply`, `workerStep`: the calls, their answers, and one step.
* `ecc_runEncryptedWasm`, `bfibe_runEncryptedWasm`: a run leaves both slots.
* `workerStep_bfibeSlot`: only a BF-IBE load moves the BF-IBE slot.

The other public ECALLs (`ecall_init`, `ecall_run_wasm`, `ecall_clean_ctx`,
`ecall_zeroize_label_key`, the test) touch neither the slots nor the cache.
-/

namespace AsynCS
namespace Worker

open Proc

variable {S : Sgx} {B : Bfibe}

/-- A call to the enclave. -/
inductive WorkerCall where
  | createReport (env : ReportEnv)
  | loadEcc (call : EccCall)
  | loadBfibeKeyRelease (env : LoadEnv) (release : Bytes) (fid : Option CStr)
  | hasKey (fid : CStr)
  | runEncryptedWasm (kind : RunKind) (env : RunEnv) (args : RunArgs)

/-- The answer to a call: its return value, what it logged, and the outputs of a run. -/
structure WorkerReply where
  ret : Int
  log : List Event
  out : Option RunOut

/-- The answer of a call that only changes the globals. -/
def WorkerReply.ofOutcome (o : Outcome Event Globals Unit) : WorkerReply :=
  ⟨returnCode o.value, o.log, none⟩

/-- One call to the enclave. -/
def workerStep (S : Sgx) (B : Bfibe) (g : Globals) : WorkerCall → Globals × WorkerReply
  | .createReport env =>
    let o := ecallCreateReport env g
    (o.state, WorkerReply.ofOutcome o)
  | .loadEcc call =>
    let o := call.proc S g
    (o.state, WorkerReply.ofOutcome o)
  | .loadBfibeKeyRelease env release fid =>
    let o := ecallLoadBfibeKeyRelease S env release fid g
    (o.state, WorkerReply.ofOutcome o)
  | .hasKey fid => (g, ⟨ecallHasKey g fid, [], none⟩)
  | .runEncryptedWasm kind env args =>
    let o := Worker.runEncryptedWasm kind S B env args (RunState.start g)
    (o.state.worker, ⟨returnCode o.value, o.log, some o.state.out⟩)

/-- A recorded call. -/
abbrev WorkerRecord := Record Globals WorkerCall WorkerReply

theorem returnCode_eq_zero_iff {value : Option Unit} :
    returnCode value = 0 ↔ value = some () := by
  cases value with
  | none => simp [returnCode]
  | some u => simp [returnCode]

theorem returnCode_eq_neg_one_iff {value : Option Unit} :
    returnCode value = -1 ↔ value = none := by
  cases value with
  | none => simp [returnCode]
  | some u => simp [returnCode]

/-! ## What moves what -/

/-- A report moves neither slot and keeps the cache. -/
theorem frame_ecallCreateReport (env : ReportEnv) :
    Frame (Keeps fun g : Globals => (g.ecc, g.bfibe, g.cache)) Event.IsPrint
      (ecallCreateReport env) := by
  have hprint : ∀ text, Frame (Keeps fun g : Globals => (g.ecc, g.bfibe, g.cache)) Event.IsPrint
      (enclavePrintLit text) :=
    fun text => (frame_enclavePrintLit text).mono (fun _ _ h => h ▸ rfl) fun _ he => he
  refine (Frame.require (hprint _)).bind fun _ => (Frame.orStop (hprint _)).bind fun pair => ?_
  obtain ⟨priv, pub⟩ := pair
  refine Frame.bind (Frame.modify fun _ => rfl) fun _ => ?_
  refine (Frame.require (hprint _)).bind fun _ => ?_
  exact Frame.modify fun _ => rfl

/-- A run leaves what it does not write. -/
theorem forgetRun_runEncryptedWasm (kind : RunKind) (env : RunEnv) (args : RunArgs)
    (s : RunState) :
    (runEncryptedWasm kind S B env args s).state.worker.forgetRun = s.worker.forgetRun :=
  (keepsSlots_runEncryptedWasm kind env args).state s

theorem ecc_runEncryptedWasm (kind : RunKind) (env : RunEnv) (args : RunArgs) (s : RunState) :
    (runEncryptedWasm kind S B env args s).state.worker.ecc = s.worker.ecc := by
  have h := congrArg Globals.ecc (forgetRun_runEncryptedWasm (S := S) (B := B) kind env args s)
  exact h

theorem bfibe_runEncryptedWasm (kind : RunKind) (env : RunEnv) (args : RunArgs) (s : RunState) :
    (runEncryptedWasm kind S B env args s).state.worker.bfibe = s.worker.bfibe := by
  have h := congrArg Globals.bfibe (forgetRun_runEncryptedWasm (S := S) (B := B) kind env args s)
  exact h

@[simp] theorem bfibe_storeWorkerFid (fid : CStr) (g : Globals) :
    (g.storeWorkerFid fid).bfibe = g.bfibe := by
  simp only [Globals.storeWorkerFid, Globals.functionCacheClear]
  split <;> rfl

/-- The loaders of the eccibe profile leave the BF-IBE slot. -/
theorem bfibe_eccCall (c : EccCall) (g : Globals) : (c.proc S g).state.bfibe = g.bfibe := by
  have hs : (c.proc S g).state = (eccStep S g c).1 := rfl
  rw [hs]
  rcases eccStep_cases (S := S) g c with ⟨-, h⟩ | ⟨_, _, _, _, _, key, -, -, -, h⟩ |
    ⟨_, _, fid, key, -, -, h⟩ | ⟨_, _, _, _, fid, key, label, -, -, -, h⟩
  · rw [h]
  · rw [h]
    rfl
  · rw [h]
    exact bfibe_storeWorkerFid fid _
  · rw [h]
    exact bfibe_storeWorkerFid fid _

/-- **Only a BF-IBE load moves the BF-IBE slot.** -/
theorem workerStep_bfibeSlot (g : Globals) (c : WorkerCall)
    (hc : ∀ env release fid, c ≠ .loadBfibeKeyRelease env release fid) :
    (workerStep S B g c).1.bfibe = g.bfibe := by
  cases c with
  | createReport env =>
    have h := (frame_ecallCreateReport env).state g
    exact congrArg (fun p => p.2.1) h
  | loadEcc call => exact bfibe_eccCall call g
  | loadBfibeKeyRelease env release fid => exact absurd rfl (hc env release fid)
  | hasKey fid => rfl
  | runEncryptedWasm kind env args => exact bfibe_runEncryptedWasm kind env args _

end Worker
end AsynCS
