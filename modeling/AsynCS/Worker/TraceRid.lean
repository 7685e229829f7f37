import AsynCS.Worker.RunCompletes

/-!
# The RID in the trace of a run

A `kem` run writes the RID of its request into the trace before it opens anything, and no later
step touches it, whether the run completes or stops.

* `KeepsRid`: a part of a run that leaves the RID of the trace.
* `traceRid_of_ridOf`: the RID that a run leaves in its trace.
-/

namespace AsynCS
namespace Worker

open Proc

variable {S : Sgx} {B : Bfibe} {env : RunEnv} {args : RunArgs}

/-- A part of a run that leaves the RID of the trace. -/
abbrev KeepsRid {α : Type} (p : Proc Event RunState α) : Prop :=
  Frame (Keeps fun s : RunState => s.out.trace.rid) (fun _ => True) p

theorem keepsRid_of_prints {α : Type} {p : Proc Event RunState α}
    (hp : Frame Eq Event.IsPrint p) : KeepsRid p :=
  hp.mono (fun _ _ h => by rw [Keeps, h]) fun _ _ => trivial

theorem keepsRid_print (message : Bytes) : KeepsRid (enclavePrint message) :=
  keepsRid_of_prints (frame_enclavePrint message)

theorem keepsRid_printLit (message : String) : KeepsRid (enclavePrintLit message) :=
  keepsRid_print _

theorem keepsRid_printAll (texts : List String) : KeepsRid (printAll texts) :=
  keepsRid_of_prints (frame_printAll texts)

theorem keepsRid_mapWorker (f : Globals → Globals) :
    KeepsRid (modify (RunState.mapWorker f)) := Frame.modify fun _ => rfl

theorem keepsRid_trace {f : InvokeTrace → InvokeTrace} (hf : ∀ t, (f t).rid = t.rid) :
    KeepsRid (trace .kem f) := Frame.modify fun s => hf s.out.trace

theorem keepsRid_begin (p : TracePhase) (tsc : UInt64) :
    KeepsRid (trace .kem (InvokeTrace.beginPhase p tsc)) := keepsRid_trace fun _ => rfl

theorem keepsRid_end (p : TracePhase) (tsc : UInt64) :
    KeepsRid (trace .kem (InvokeTrace.endPhase p tsc)) := keepsRid_trace fun _ => rfl

theorem keepsRid_close (p : TracePhase) : KeepsRid (trace .kem (InvokeTrace.closePhase p)) :=
  keepsRid_trace fun _ => rfl

theorem keepsRid_setFlag (f : TraceFlag) : KeepsRid (trace .kem (InvokeTrace.setFlag f)) :=
  keepsRid_trace fun _ => rfl

theorem keepsRid_gcmOpen (ok : Bool) (key : Block 32) (iv : Block 12) (aad ciphertext : Bytes)
    (tag : Block 16) : KeepsRid (gcmOpen S ok key iv aad ciphertext tag) :=
  (Frame.emit trivial).bind fun _ => Frame.pure _

theorem keepsRid_orDecKeyFailed (name : String) (key : Except (List String) (Block 32)) :
    KeepsRid (orDecKeyFailed name key) := keepsRid_of_prints (frame_orReport _)

theorem keepsRid_emitOcalls {events : List Event} (h : ∀ e ∈ events, e.IsOcall) :
    KeepsRid (emitOcalls events) :=
  (frame_emitOcalls h).mono (fun _ _ h => by rw [Keeps, h]) fun _ _ => trivial

/-! ## Up to the module -/

theorem keepsRid_prepareLabelKey (label : Block 32) :
    KeepsRid (prepareLabelKey S env args label) :=
  Frame.get.bind fun _ => Frame.ite (keepsRid_mapWorker _)
    (Frame.ite ((keepsRid_printLit _).bind fun _ => keepsRid_mapWorker _)
      ((keepsRid_printLit _).bind fun _ => (Frame.orStop (keepsRid_printLit _)).bind fun _ =>
        keepsRid_mapWorker _))

theorem keepsRid_decapRequestKey (aadReq : Bytes) :
    KeepsRid (decapRequestKey .kem S B env args aadReq) :=
  (keepsRid_begin _ _).bind fun _ => Frame.get.bind fun _ =>
    (keepsRid_orDecKeyFailed _ _).bind fun _ => (keepsRid_end _ _).bind fun _ =>
      (keepsRid_close _).bind fun _ => Frame.pure _

theorem keepsRid_loadFunction (fid : CStr) (label : Block 32) (aadPkg : Bytes)
    (hit : Option Bytes) : KeepsRid (loadFunction .kem S B env args fid label aadPkg hit) := by
  have hdecap : KeepsRid (decapFunctionKey .kem S B env args aadPkg) :=
    (keepsRid_begin _ _).bind fun _ => Frame.get.bind fun _ =>
      (keepsRid_orDecKeyFailed _ _).bind fun _ => (keepsRid_end _ _).bind fun _ =>
        (keepsRid_close _).bind fun _ => (keepsRid_mapWorker _).bind fun _ => Frame.pure _
  have hdecrypt : ∀ kFunc, KeepsRid (decryptFunction .kem S env args aadPkg kFunc) := fun _ =>
    (Frame.require (keepsRid_printLit _)).bind fun _ => (Frame.pure ()).bind fun _ =>
      (keepsRid_begin _ _).bind fun _ => (keepsRid_gcmOpen _ _ _ _ _ _).bind fun _ =>
        (keepsRid_end _ _).bind fun _ => (Frame.orStop (keepsRid_print _)).bind fun _ =>
          (keepsRid_close _).bind fun _ => (Frame.pure ()).bind fun _ => Frame.pure _
  cases hit with
  | some wasm => exact Frame.pure _
  | none =>
    exact hdecap.bind fun _ => (hdecrypt _).bind fun _ => (keepsRid_mapWorker _).bind fun _ =>
      Frame.pure _

theorem keepsRid_decryptInput (aadReq : Bytes) (kReq : Block 32) :
    KeepsRid (decryptInput .kem S env args aadReq kReq) :=
  Frame.ite (Frame.pure _) ((Frame.require (keepsRid_printLit _)).bind fun _ =>
    (keepsRid_begin _ _).bind fun _ => (keepsRid_gcmOpen _ _ _ _ _ _).bind fun _ =>
      (keepsRid_end _ _).bind fun _ => (Frame.orStop (keepsRid_printLit _)).bind fun _ =>
        (keepsRid_close _).bind fun _ => (Frame.pure ()).bind fun _ => Frame.pure _)

theorem keepsRid_recordPayload (input hit : Option Bytes) (wasm : Bytes) :
    KeepsRid (recordPayload .kem S env args input hit wasm) :=
  Frame.bind ((Frame.orStop (keepsRid_printLit _)).bind fun _ => keepsRid_trace (by exact fun _ => rfl))
    fun _ => (keepsRid_trace (by exact fun _ => rfl)).bind fun _ =>
      Frame.ite (keepsRid_setFlag _) (keepsRid_setFlag _)

theorem keepsRid_openRequest (fid : CStr) (aad : AadValues) (label : Block 32)
    (hit : Option Bytes) : KeepsRid (openRequest .kem S B env args fid aad label hit) :=
  (Frame.onlyIf (keepsRid_prepareLabelKey _)).bind fun _ =>
    (keepsRid_decapRequestKey _).bind fun _ => (keepsRid_loadFunction _ _ _ _).bind fun _ =>
      (keepsRid_decryptInput _ _).bind fun _ => (keepsRid_recordPayload _ _ _).bind fun _ =>
        Frame.pure _

/-! ## The module and the end -/

theorem keepsRid_orRuntimeError {r : Except CStr Unit} {onFail : CStr → Proc Event RunState Unit}
    (h : ∀ text, KeepsRid (onFail text)) : KeepsRid (orRuntimeError r onFail) := by
  cases r with
  | ok u => exact Frame.pure ()
  | error text => exact (h text).bind fun _ => Frame.stop

theorem keepsRid_executeModule (wasm : Bytes) (input : Option Bytes) :
    KeepsRid (executeModule .kem env args wasm input) := by
  have hstart : KeepsRid (startModule .kem env wasm) :=
    (Frame.require (keepsRid_printAll _)).bind fun _ =>
      (Frame.require (keepsRid_printAll _)).bind fun _ => (keepsRid_begin _ _).bind fun _ =>
        (keepsRid_orRuntimeError fun _ => (keepsRid_printLit _).bind fun _ =>
          keepsRid_print _).bind fun _ =>
        (keepsRid_end _ _).bind fun _ => (keepsRid_close _).bind fun _ =>
          (keepsRid_begin _ _).bind fun _ =>
            (keepsRid_emitOcalls fun _ => GuestCall.isOcall_of_mem_startOcalls).bind fun _ =>
              (keepsRid_orRuntimeError fun _ => (keepsRid_printLit _).bind fun _ =>
                (keepsRid_print _).bind fun _ => keepsRid_printLit _).bind fun _ =>
              (keepsRid_end _ _).bind fun _ => (keepsRid_close _).bind fun _ =>
                Frame.require (keepsRid_printLit _)
  exact (Frame.require (keepsRid_printLit _)).bind fun _ => hstart.bind fun _ =>
    (Frame.emit trivial).bind fun _ =>
      (keepsRid_emitOcalls fun _ => GuestCall.isOcall_of_mem_ocalls).bind fun _ =>
        (Frame.onlyIf (keepsRid_printLit _)).bind fun _ =>
          (Frame.require (keepsRid_printLit _)).bind fun _ =>
            (Frame.require (Frame.pure ())).bind fun _ => Frame.pure _

theorem keepsRid_mapOut {f : RunOut → RunOut} (hf : ∀ o, (f o).trace = o.trace) :
    KeepsRid (modify (RunState.mapOut f)) := by
  refine Frame.modify fun s => ?_
  show (f s.out).trace.rid = s.out.trace.rid
  rw [hf]

theorem keepsRid_sealRun (m : Admitted) (final : ExecState args.maxOutSize) :
    KeepsRid (sealRun .kem S env args m final) := by
  have hencap : KeepsRid (ecallKemEncap S env args.pkU) :=
    (Frame.require (keepsRid_printLit _)).bind fun _ =>
      (Frame.require (keepsRid_printLit _)).bind fun _ =>
        (Frame.orStop (keepsRid_printLit _)).bind fun _ =>
          (Frame.orStop (keepsRid_printLit _)).bind fun _ =>
            (keepsRid_mapOut (by exact fun _ => rfl)).bind fun _ => Frame.orStop (keepsRid_printLit _)
  have hseal : ∀ key failed, KeepsRid (sealOutput S env key m.aadOut final.capture.output failed) :=
    fun _ _ => (keepsRid_mapOut (by exact fun _ => rfl)).bind fun _ => (Frame.emit trivial).bind fun _ =>
      (Frame.require (keepsRid_printLit _)).bind fun _ => keepsRid_mapOut (by exact fun _ => rfl)
  exact (Frame.orStop (keepsRid_printLit _)).bind fun _ => (keepsRid_begin _ _).bind fun _ =>
    (keepsRid_end _ _).bind fun _ => (keepsRid_close _).bind fun _ => hencap.attempt.bind fun _ =>
      (Frame.orStop (keepsRid_printLit _)).bind fun _ => (keepsRid_begin _ _).bind fun _ =>
        (keepsRid_end _ _).bind fun _ => (keepsRid_close _).bind fun _ =>
          (Frame.require (keepsRid_printLit _)).bind fun _ => (hseal _ _).bind fun _ =>
            (keepsRid_begin _ _).bind fun _ => (keepsRid_end _ _).bind fun _ =>
              (keepsRid_close _).bind fun _ => (keepsRid_mapOut (by exact fun _ => rfl)).bind fun _ =>
                keepsRid_setFlag _

/-! ## The whole run -/

/-- What is behind a step that gives a value starts in the state that the step leaves. -/
theorem state_bind_of_gives {α β : Type} {p : Proc Event RunState α}
    {f : α → Proc Event RunState β} {s s₁ : RunState} {a : α} (h : Gives p s a s₁) :
    ((p >>= f) s).state = (f a s₁).state := by
  rw [bind_of_some h.1, h.2]

/-- **The body of a run** leaves its RID in the trace. -/
theorem traceRid_runBody {fid : CStr} {rid : Block 32} (hrid : ridOf .kem S env args fid = some rid)
    (s : RunState) : (runBody .kem S B env args fid s).state.out.trace.rid = rid := by
  have hgives : Gives (computeRid .kem S env args fid) s rid
      (computeRid .kem S env args fid s).state := ⟨by rw [value_computeRid, hrid], rfl⟩
  have hset : (computeRid .kem S env args fid s).state.out.trace.rid = rid := by
    unfold ridOf at hrid
    unfold computeRid
    cases hhash : computeRidFromFidAndCReq S (env.ok .ridMalloc) (env.ok .ridHash) fid args.cReq with
    | none =>
      rw [hhash] at hrid
      cases hrid
    | some rid' =>
      rw [hhash] at hrid
      obtain rfl := Option.some.inj hrid
      rfl
  have hrest : KeepsRid (do
      let aad ← orStop (aadValues S env args fid rid)
        (enclavePrintLit "Error: Failed to build AAD values.\n")
      let label ← orStop (computeLabelFromCfunc S (env.ok .labelHash) args.encryptedWasm)
        (enclavePrintLit "Error: Failed to compute C_func label.\n")
      let s ← get
      let hit := s.worker.functionCacheLookup fid label
      require (args.cKey != [] && (hit.isSome || args.cKFunc != []))
        (enclavePrintLit "Error: Missing C_key or cold-path C_k_func buffer (G3).\n")
      openRequest .kem S B env args fid aad label hit) :=
    (Frame.orStop (keepsRid_printLit _)).bind fun _ =>
      (Frame.orStop (keepsRid_printLit _)).bind fun _ => Frame.get.bind fun _ =>
        (Frame.require (keepsRid_printLit _)).bind fun _ => keepsRid_openRequest _ _ _ _
  have hadmit : (admitRequest .kem S B env args fid s).state.out.trace.rid = rid := by
    unfold admitRequest
    rw [state_bind_of_gives hgives]
    exact (hrest.state _).trans hset
  unfold runBody
  rw [state_bind]
  cases hvalue : (admitRequest .kem S B env args fid s).value with
  | none => exact hadmit
  | some m =>
    have hend : KeepsRid (do
        let final ← executeModule .kem env args m.wasm m.input
        sealRun .kem S env args m final) :=
      (keepsRid_executeModule _ _).bind fun _ => keepsRid_sealRun _ _
    exact (hend.state _).trans hadmit

/-- **The RID in the trace** of a `kem` run that opens its request is the RID of the request, also
when the run stops behind it. -/
theorem traceRid_of_ridOf {g : Globals} (hready : RunReady .kem env args g) {rid : Block 32}
    (hrid : ridOf .kem S env args (invocationFid g args) = some rid) :
    (runEncryptedWasm .kem S B env args (RunState.start g)).state.out.trace.rid = rid := by
  obtain ⟨htraced, hkeys, hreq⟩ := runReady_iff.mp hready
  have hgives : ∀ {c : Bool} {onFail : Proc Event RunState Unit} {s : RunState}, c = true →
      Gives (require c onFail) s () s := fun hc => gives_require.mpr ⟨hc, rfl⟩
  have htrace : Gives (trace .kem fun _ => InvokeTrace.start) (RunState.start g) ()
      ((RunState.start g).mapTrace fun _ => InvokeTrace.start) := ⟨rfl, rfl⟩
  have hworker : ((RunState.start g).mapTrace fun _ => InvokeTrace.start).worker = g := rfl
  have hloaded : ∀ s : RunState, Gives (requireLoadedKeys g args) s ()
      (requireLoadedKeys g args s).state := fun s =>
    ⟨by rw [value_requireLoadedKeys, hkeys, if_pos rfl], rfl⟩
  unfold runEncryptedWasm
  rw [state_bind_of_gives (hgives htraced), state_bind_of_gives htrace,
    state_bind_of_gives (gives_get.mpr ⟨rfl, rfl⟩), hworker, state_bind_of_gives (hloaded _),
    state_bind_of_gives (hgives hreq), state_withCleanup]
  exact traceRid_runBody hrid _

end Worker
end AsynCS
