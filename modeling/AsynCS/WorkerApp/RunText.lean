import AsynCS.Worker.OutputRoutes
import AsynCS.WorkerApp.ServerLoop

/-!
# What a run puts on the stream

The `kem` run prints the texts of its failures, the errors of the WebAssembly runtime, and what the
program writes to its descriptors 1 and 2.  The first are whole lines without a meaning to the
reader; the others are the condition.

* `eventText`, `logText`: the text of an event and of a log.
* `Neat`: a part of a run that puts whole lines on the stream and reports no success.
* `RunQuiet`: the texts of the runtime and of the program are harmless, and what a program that
  succeeds writes ends with a line end.
* `Speaks`, `Tells`: a part whose text is harmless, and closed or known when it comes to its end.
* `harmlessText_run`, `closed_run`: the text of a run is harmless, and it leaves no line open when
  the run reports success.
-/

namespace AsynCS
namespace WorkerApp

open Worker Proc

variable {S : Sgx} {B : Bfibe}

/-! ## Texts -/

/-- What an event puts on the stream. -/
def eventText (e : Event) : Bytes := (HostEvent.enclave e).stdout

/-- What a log puts on the stream. -/
def logText (log : List Event) : Bytes := log.flatMap eventText

theorem logText_append (a b : List Event) : logText (a ++ b) = logText a ++ logText b :=
  List.flatMap_append

/-! ## Parts of a run -/

/-- The success of a run is not reported. -/
def NoSuccess (s s' : RunState) : Prop :=
  TraceFlag.success ∈ s'.out.trace.flags → TraceFlag.success ∈ s.out.trace.flags

instance : Std.Refl NoSuccess := ⟨fun _ h => h⟩
instance : IsTrans RunState NoSuccess := ⟨fun _ _ _ h h' hs => h (h' hs)⟩

/-- A part of a run that puts whole lines on the stream and reports no success. -/
abbrev Neat {α : Type} (p : Proc Event RunState α) : Prop :=
  Frame NoSuccess (fun e => WholeLines (eventText e)) p

theorem neat_enclavePrint {text : Bytes} (h : WholeLines text) : Neat (enclavePrint text) :=
  Frame.emit h

/-- A literal line. -/
theorem neat_enclavePrintLit {text : String} {l : Text} (hs : text.toList = l) (h : LineLit l) :
    Neat (enclavePrintLit text) := neat_enclavePrint (wholeLines_lit hs h)

theorem neat_printAll {texts : List String} (h : ∀ text ∈ texts, WholeLines (ascii text)) :
    Neat (printAll texts) := by
  induction texts with
  | nil => exact Frame.pure ()
  | cons text texts ih =>
    exact (neat_enclavePrint (h text List.mem_cons_self)).bind
      fun _ => ih fun t ht => h t (List.mem_cons_of_mem text ht)

theorem neat_modifyWorker (f : Globals → Globals) : Neat (modify (RunState.mapWorker f)) :=
  Frame.modify fun _ h => h

/-- A trace without a report of success. -/
theorem neat_trace {f : InvokeTrace → InvokeTrace}
    (h : ∀ t, TraceFlag.success ∈ (f t).flags → TraceFlag.success ∈ t.flags) :
    Neat (trace .kem f) := Frame.modify fun s => h s.out.trace

/-- A flag that does not report success. -/
theorem success_of_setFlag {flag : TraceFlag} (hflag : flag ≠ .success) {t : InvokeTrace}
    (h : TraceFlag.success ∈ (t.setFlag flag).flags) : TraceFlag.success ∈ t.flags :=
  (Finset.mem_insert.mp h).resolve_left (Ne.symm hflag)

theorem neat_setFlag {flag : TraceFlag} (hflag : flag ≠ .success) :
    Neat (trace .kem (InvokeTrace.setFlag flag)) :=
  neat_trace fun _ => success_of_setFlag hflag

theorem neat_beginAt (env : RunEnv) (phase : TracePhase) : Neat (trace .kem (env.beginAt phase)) :=
  neat_trace fun _ h => h

theorem neat_endAt (env : RunEnv) (phase : TracePhase) : Neat (trace .kem (env.endAt phase)) :=
  neat_trace fun _ h => h

theorem neat_closePhase (phase : TracePhase) : Neat (trace .kem (InvokeTrace.closePhase phase)) :=
  neat_trace fun t h => success_of_setFlag (show TraceFlag.cyclesValid phase ≠ .success by simp)
    (t := t.setPhase phase fun c => { c with cycles := c.endCycles - c.beginCycles }) h

/-- An event that puts nothing on the stream. -/
theorem neat_emit {e : Event} (h : eventText e = []) : Neat (emit e) :=
  Frame.emit (h ▸ wholeLines_nil)

theorem neat_gcmOpen (ok : Bool) (key : Block 32) (iv : Block 12) (aad ciphertext : Bytes)
    (tag : Block 16) : Neat (gcmOpen S ok key iv aad ciphertext tag) :=
  (neat_emit rfl).bind fun _ => Frame.pure _

/-! ## Up to the module -/

theorem neat_requireLoadedKeys (g : Globals) (args : RunArgs) :
    Neat (requireLoadedKeys g args) :=
  (Frame.require (neat_enclavePrintLit String.toList_ofList (by decide))).bind fun _ =>
    Frame.require (neat_enclavePrintLit String.toList_ofList (by decide))

theorem neat_computeRid (env : RunEnv) (args : RunArgs) (fid : CStr) :
    Neat (computeRid .kem S env args fid) := by
  unfold computeRid
  split
  · rename_i rid _
    refine Frame.bind (Frame.pure ()) fun _ => Frame.bind (neat_trace fun t h => ?_) fun _ =>
      Frame.pure _
    exact success_of_setFlag (show TraceFlag.ridValid ≠ .success by simp)
      (t := { t with rid := rid }) h
  · exact (neat_enclavePrintLit String.toList_ofList (by decide)).bind fun _ => Frame.stop

theorem neat_prepareLabelKey (env : RunEnv) (args : RunArgs) (label : Block 32) :
    Neat (prepareLabelKey S env args label) := by
  refine Frame.get.bind fun s => ?_
  dsimp only
  split
  · exact neat_modifyWorker _
  · split
    · exact (neat_enclavePrintLit String.toList_ofList (by decide)).bind
        fun _ => neat_modifyWorker _
    · exact (neat_enclavePrintLit String.toList_ofList (by decide)).bind fun _ =>
        (Frame.orStop (neat_enclavePrintLit String.toList_ofList (by decide))).bind
          fun _ => neat_modifyWorker _

/-- One text. -/
theorem wholeLines_of_singleton {s text : String} (h : WholeLines (ascii s)) (ht : text ∈ [s]) :
    WholeLines (ascii text) := by
  rwa [List.mem_singleton.mp ht]

/-- The texts of a failed `identityKey` are whole lines. -/
theorem identityKey_error {slot : BfibeSlot} {view : BfibeKeyEnvelopeView} {texts : List String}
    (h : identityKey slot view = .error texts) : ∀ text ∈ texts, WholeLines (ascii text) := by
  unfold identityKey at h
  simp only at h
  split at h
  · split at h
    · obtain rfl := Except.error.inj h
      exact fun t ht => absurd ht List.not_mem_nil
    · split at h
      · obtain rfl := Except.error.inj h
        exact fun t => wholeLines_of_singleton
          (wholeLines_lit String.toList_ofList (by decide))
      · exact absurd h (by simp)
  · split at h
    · split at h
      · obtain rfl := Except.error.inj h
        exact fun t => wholeLines_of_singleton
          (wholeLines_lit String.toList_ofList (by decide))
      · exact absurd h (by simp)
    · obtain rfl := Except.error.inj h
      exact fun t ht => absurd ht List.not_mem_nil

/-- The texts of a failed `DecKey` are whole lines. -/
theorem decKey_error {ok : DecKeySite → Bool} {slot : BfibeSlot} {cap : Option (Block 32)}
    {c domain : Bytes} {texts : List String} (h : decKey S B ok slot cap c domain = .error texts) :
    ∀ text ∈ texts, WholeLines (ascii text) := by
  have hone : ∀ {t : String} {texts : List String}, WholeLines (ascii t) →
      (Except.error [t] : Except (List String) (Block 32)) = .error texts →
      ∀ text ∈ texts, WholeLines (ascii text) := by
    rintro t texts ht heq
    obtain rfl := Except.error.inj heq
    exact fun text => wholeLines_of_singleton ht
  have hnone : ∀ {texts : List String},
      (Except.error [] : Except (List String) (Block 32)) = .error texts →
      ∀ text ∈ texts, WholeLines (ascii text) := by
    rintro texts heq text htext
    obtain rfl := Except.error.inj heq
    exact absurd htext List.not_mem_nil
  have hbfibe : ∀ texts, decKeyBfibe B ok slot c domain = .error texts →
      ∀ text ∈ texts, WholeLines (ascii text) := by
    intro texts h
    unfold decKeyBfibe at h
    split at h
    · exact hone (wholeLines_lit String.toList_ofList (by decide)) h
    · split at h
      · exact hone (wholeLines_lit String.toList_ofList (by decide)) h
      · rename_i view _
        split at h
        · exact hone (wholeLines_lit String.toList_ofList (by decide)) h
        · cases hid : identityKey slot view with
          | error texts' =>
            rw [hid] at h
            obtain rfl := Except.error.inj h
            exact identityKey_error hid
          | ok skId =>
            rw [hid] at h
            simp only [bind, Except.bind] at h
            split at h
            · exact hone (wholeLines_lit String.toList_ofList (by decide)) h
            · split at h
              · exact hone (wholeLines_lit String.toList_ofList (by decide)) h
              · split at h
                · exact hone (wholeLines_lit String.toList_ofList (by decide)) h
                · exact absurd h (by simp)
  unfold decKey at h
  split at h
  · exact hnone h
  · split at h
    · exact hbfibe texts h
    · split at h
      · exact hnone h
      · split at h
        · exact hnone h
        · exact absurd h (by simp)

/-- A session key, or the texts of its failure. -/
theorem neat_orDecKeyFailed (name : String) {key : Except (List String) (Block 32)}
    (hname : WholeLines (ascii ("Error: DecKey(" ++ name ++ ") failed.\n")))
    (h : ∀ texts, key = .error texts → ∀ text ∈ texts, WholeLines (ascii text)) :
    Neat (orDecKeyFailed name key) := by
  cases key with
  | ok k => exact Frame.pure k
  | error texts =>
    refine (neat_printAll fun text ht => ?_).bind fun _ => Frame.stop
    rcases List.mem_append.mp ht with ht | ht
    · exact h texts rfl text ht
    · exact wholeLines_of_singleton hname ht

theorem wholeLines_decKeyFailed {name : String} {l : Text} (hs : name.toList = l)
    (h : PlainChars l) : WholeLines (ascii ("Error: DecKey(" ++ name ++ ") failed.\n")) := by
  have hend : ascii ") failed.\n" = ascii ") failed." ++ [10] := by
    rw [ascii, String.toList_ofList, ascii, String.toList_ofList]
    rfl
  rw [ascii_append, ascii_append, hend, ← List.append_assoc, List.append_assoc (ascii _)]
  exact wholeLines_plain String.toList_ofList (by decide)
    ((plain_ascii hs h).append (plain_ascii String.toList_ofList (by decide)))

theorem neat_decapRequestKey (env : RunEnv) (args : RunArgs) (aadReq : Bytes) :
    Neat (decapRequestKey .kem S B env args aadReq) := by
  refine (neat_beginAt env _).bind fun _ => Frame.get.bind fun s =>
    (neat_orDecKeyFailed "C_key" (wholeLines_decKeyFailed String.toList_ofList
      (by decide)) fun texts h => ?_).bind fun _ =>
        (neat_endAt env _).bind fun _ => (neat_closePhase _).bind fun _ => Frame.pure _
  unfold requestKey at h
  split at h
  · exact decKey_error h
  · exact decKey_error h

theorem neat_decapFunctionKey (env : RunEnv) (args : RunArgs) (aadPkg : Bytes) :
    Neat (decapFunctionKey .kem S B env args aadPkg) := by
  refine (neat_beginAt env _).bind fun _ => Frame.get.bind fun s =>
    (neat_orDecKeyFailed "C_k_func" (wholeLines_decKeyFailed String.toList_ofList
      (by decide)) fun texts h => ?_).bind fun _ =>
        (neat_endAt env _).bind fun _ => (neat_closePhase _).bind fun _ =>
          (neat_modifyWorker _).bind fun _ => Frame.pure _
  unfold functionKey at h
  split at h
  · exact decKey_error h
  · exact decKey_error h

theorem neat_decryptFunction (env : RunEnv) (args : RunArgs) (aadPkg : Bytes) (kFunc : Block 32) :
    Neat (decryptFunction .kem S env args aadPkg kFunc) := by
  have hfailed : WholeLines (ascii "WASM Decryption failed. Error: 0x" ++
      hexadecimal env.wasmDecryptStatus ++ ascii "\n") := by
    have hend : ascii "\n" = [10] := by
      rw [ascii, String.toList_ofList]
      rfl
    rw [hend]
    exact wholeLines_plain String.toList_ofList (by decide) (plain_hexadecimal _)
  exact (Frame.require (neat_enclavePrintLit String.toList_ofList (by decide))).bind
    fun _ => Frame.bind (Frame.pure ()) fun _ => (neat_beginAt env _).bind fun _ =>
      (neat_gcmOpen _ _ _ _ _ _).bind fun _ => (neat_endAt env _).bind fun _ =>
        (Frame.orStop (neat_enclavePrint hfailed)).bind fun _ => (neat_closePhase _).bind
          fun _ => Frame.bind (Frame.pure ()) fun _ => Frame.pure _

theorem neat_loadFunction (env : RunEnv) (args : RunArgs) (fid : CStr) (label : Block 32)
    (aadPkg : Bytes) (hit : Option Bytes) :
    Neat (loadFunction .kem S B env args fid label aadPkg hit) := by
  cases hit with
  | some wasm => exact Frame.pure wasm
  | none =>
    exact (neat_decapFunctionKey env args aadPkg).bind fun _ =>
      (neat_decryptFunction env args aadPkg _).bind fun _ =>
        (neat_modifyWorker _).bind fun _ => Frame.pure _

theorem neat_decryptInput (env : RunEnv) (args : RunArgs) (aadReq : Bytes) (kReq : Block 32) :
    Neat (decryptInput .kem S env args aadReq kReq) := by
  unfold decryptInput
  split
  · exact Frame.pure _
  · exact (Frame.require (neat_enclavePrintLit String.toList_ofList (by decide))).bind
      fun _ => (neat_beginAt env _).bind fun _ => (neat_gcmOpen _ _ _ _ _ _).bind fun _ =>
        (neat_endAt env _).bind fun _ =>
          (Frame.orStop (neat_enclavePrintLit String.toList_ofList (by decide))).bind
            fun _ => (neat_closePhase _).bind fun _ => Frame.bind (Frame.pure ()) fun _ =>
              Frame.pure _

theorem neat_recordPayload (env : RunEnv) (args : RunArgs) (input hit : Option Bytes)
    (wasm : Bytes) : Neat (recordPayload .kem S env args input hit wasm) := by
  refine Frame.bind ((Frame.orStop (neat_enclavePrintLit String.toList_ofList
      (by decide))).bind fun hash => neat_trace fun t h => ?_) fun _ =>
    Frame.bind (neat_trace fun t h => ?_) fun _ => ?_
  · exact success_of_setFlag (show TraceFlag.payloadValid ≠ .success by simp) h
  · exact success_of_setFlag (show TraceFlag.functionCacheValid ≠ .success by simp) h
  · exact Frame.ite (neat_setFlag (by simp)) (neat_setFlag (by simp))

/-- **Up to the module** a run puts whole lines on the stream. -/
theorem neat_admitRequest (env : RunEnv) (args : RunArgs) (fid : CStr) :
    Neat (admitRequest .kem S B env args fid) :=
  (neat_computeRid env args fid).bind fun _ =>
    (Frame.orStop (neat_enclavePrintLit String.toList_ofList (by decide))).bind fun _ =>
      (Frame.orStop (neat_enclavePrintLit String.toList_ofList (by decide))).bind fun _ =>
        Frame.get.bind fun _ =>
          (Frame.require (neat_enclavePrintLit String.toList_ofList (by decide))).bind
            fun _ => (Frame.onlyIf (neat_prepareLabelKey env args _)).bind fun _ =>
              (neat_decapRequestKey env args _).bind fun _ =>
                (neat_loadFunction env args fid _ _ _).bind fun _ =>
                  (neat_decryptInput env args _ _).bind fun _ =>
                    (neat_recordPayload env args _ _ _).bind fun _ => Frame.pure _

/-! ## The module -/

/-- What the start function of a module puts on the stream. -/
def startText (env : RunEnv) (wasm : Bytes) : Bytes :=
  logText ((env.start wasm).flatMap GuestCall.startOcalls)

/-- What the `main` of a module puts on the stream. -/
def mainText (env : RunEnv) (wasm : Bytes) (argument : Option Bytes) : Bytes :=
  logText ((env.guest wasm argument).calls.flatMap GuestCall.ocalls)

/-- The texts of the runtime and of a program have no line with a meaning, and a program that
succeeds leaves no line open. -/
structure RunQuiet (env : RunEnv) : Prop where
  load : ∀ wasm text, env.load wasm = .error text → HarmlessText text.bytes
  instantiate : ∀ wasm text, env.instantiate wasm = .error text →
    HarmlessText (ascii "Instantiate module failed. Error: " ++ text.bytes ++ [10])
  start : ∀ wasm, HarmlessText (startText env wasm)
  main : ∀ wasm argument, HarmlessText (mainText env wasm argument)
  closed : ∀ wasm argument, (env.guest wasm argument).ok = true →
    Closed isLineEnd (startText env wasm ++ mainText env wasm argument)

/-- A part of a run whose text is harmless and that reports no success. -/
structure Speaks {α : Type} (p : Proc Event RunState α) : Prop where
  noSuccess : ∀ s, NoSuccess s (p s).state
  harmless : ∀ s, HarmlessText (logText (p s).log)

/-- Such a part that comes to its end only with this text. -/
structure Tells {α : Type} (x : Bytes) (p : Proc Event RunState α) : Prop extends Speaks p where
  text : ∀ s a, (p s).value = some a → logText (p s).log = x

section Parts

variable {α β : Type} {p : Proc Event RunState α} {f : α → Proc Event RunState β} {x : Bytes}

theorem wholeLines_log (h : Neat p) (s : RunState) : WholeLines (logText (p s).log) :=
  wholeLines_flatMap fun e he => h.log s e he

theorem speaks_of_neat (h : Neat p) : Speaks p := ⟨h.state, fun s => (wholeLines_log h s).harmless⟩

/-- A part that leaves the state as it is. -/
theorem speaks_of_log (log : List Event) (hlog : ∀ s, (p s).log = log)
    (hstate : ∀ s, (p s).state = s) (h : HarmlessText (logText log)) : Speaks p := by
  constructor
  · intro s
    rw [hstate]
    exact fun hs => hs
  · intro s
    rw [hlog]
    exact h

theorem Speaks.bind (hp : Speaks p) (hf : ∀ a, Speaks (f a)) : Speaks (p >>= f) := by
  constructor
  · intro s
    cases hv : (p s).value with
    | none =>
      rw [bind_of_none hv]
      exact hp.noSuccess s
    | some a =>
      rw [bind_of_some hv]
      exact fun hs => hp.noSuccess s ((hf a).noSuccess _ hs)
  · intro s
    cases hv : (p s).value with
    | none =>
      rw [bind_of_none hv]
      exact hp.harmless s
    | some a =>
      rw [bind_of_some hv, logText_append]
      exact (hp.harmless s).append ((hf a).harmless _)

/-- A part that is silent when it goes on, and then another. -/
theorem Tells.bind_of_nil (hp : Tells [] p) (hf : ∀ a, Tells x (f a)) : Tells x (p >>= f) := by
  refine ⟨hp.toSpeaks.bind fun a => (hf a).toSpeaks, fun s b hb => ?_⟩
  rw [value_bind] at hb
  obtain ⟨a, ha, hb⟩ := Option.bind_eq_some_iff.mp hb
  rw [bind_of_some ha, logText_append, hp.text s a ha, (hf a).text _ b hb, List.nil_append]

/-- A part, and then one that is silent when it goes on. -/
theorem Tells.bind_nil (hp : Tells x p) (hf : ∀ a, Tells [] (f a)) : Tells x (p >>= f) := by
  refine ⟨hp.toSpeaks.bind fun a => (hf a).toSpeaks, fun s b hb => ?_⟩
  rw [value_bind] at hb
  obtain ⟨a, ha, hb⟩ := Option.bind_eq_some_iff.mp hb
  rw [bind_of_some ha, logText_append, hp.text s a ha, (hf a).text _ b hb, List.append_nil]

theorem tells_stop : Tells x (stop : Proc Event RunState α) :=
  ⟨⟨fun _ h => h, fun _ => harmlessText_nil⟩, fun _ _ h => absurd h (by simp)⟩

theorem tells_pure (a : α) : Tells [] (pure a : Proc Event RunState α) :=
  ⟨⟨fun _ h => h, fun _ => harmlessText_nil⟩, fun _ _ _ => rfl⟩

theorem tells_require {c : Bool} {onFail : Proc Event RunState Unit} (h : Speaks onFail) :
    Tells [] (require c onFail) := by
  cases c with
  | true => exact tells_pure ()
  | false =>
    refine ⟨h.bind fun _ => (tells_stop (x := [])).toSpeaks, fun s a ha => ?_⟩
    rw [value_require] at ha
    exact absurd ha (by simp)

theorem tells_orRuntimeError {r : Except CStr Unit} {onFail : CStr → Proc Event RunState Unit}
    (h : ∀ text, r = .error text → Speaks (onFail text)) : Tells [] (orRuntimeError r onFail) := by
  cases r with
  | ok u => exact tells_pure ()
  | error text =>
    refine ⟨(h text rfl).bind fun _ => (tells_stop (x := [])).toSpeaks, fun s a ha => ?_⟩
    rw [value_orRuntimeError] at ha
    exact absurd ha (by simp [Except.toOption])

/-- A write to the trace without a report of success. -/
theorem tells_trace {f : InvokeTrace → InvokeTrace} (h : Neat (trace .kem f)) :
    Tells [] (trace .kem f) := ⟨speaks_of_neat h, fun _ _ _ => rfl⟩

theorem tells_emitOcalls {events : List Event} (h : HarmlessText (logText events)) :
    Tells (logText events) (emitOcalls events : Proc Event RunState Unit) := by
  refine ⟨speaks_of_log events (fun s => ?_) (fun s => ?_) h, fun s _ _ => ?_⟩
  · rw [emitOcalls_apply]
  · rw [emitOcalls_apply]
  · rw [emitOcalls_apply]

end Parts

variable {env : RunEnv}

theorem logText_prints (texts : List Bytes) :
    logText (texts.map Event.ocallPrint) = texts.flatten := by
  rw [logText, List.flatMap_map]
  exact List.flatMap_id'

/-- **The start of a module.** -/
theorem tells_startModule (h : RunQuiet env) (wasm : Bytes) :
    Tells (startText env wasm) (startModule .kem env wasm) := by
  have hloadLine : WholeLines (ascii "Load module failed.\n") :=
    wholeLines_lit String.toList_ofList (by decide)
  have hfailed : ∀ {text : String} {l : Text}, text.toList = l → ApartLit l →
      Speaks (printAll ["Load module failed.\n", text]) := by
    intro text l hs hl
    refine speaks_of_log ([ascii "Load module failed.\n", ascii text].map .ocallPrint)
      (fun _ => rfl) (fun _ => rfl) ?_
    rw [logText_prints, List.flatten_cons, List.flatten_cons, List.flatten_nil, List.append_nil]
    exact hloadLine.harmless.append (harmlessText_open hs hl)
  have hload : ∀ text, env.load wasm = .error text → Speaks (do
      enclavePrintLit "Load module failed.\n"
      enclavePrint text.bytes) := by
    intro text htext
    refine speaks_of_log ([ascii "Load module failed.\n", text.bytes].map .ocallPrint)
      (fun _ => rfl) (fun _ => rfl) ?_
    rw [logText_prints, List.flatten_cons, List.flatten_cons, List.flatten_nil, List.append_nil]
    exact hloadLine.harmless.append (h.load wasm text htext)
  have hinstantiate : ∀ text, env.instantiate wasm = .error text → Speaks (do
      enclavePrintLit "Instantiate module failed. Error: "
      enclavePrint text.bytes
      enclavePrintLit "\n") := by
    intro text htext
    refine speaks_of_log ([ascii "Instantiate module failed. Error: ", text.bytes,
      ascii "\n"].map .ocallPrint) (fun _ => rfl) (fun _ => rfl) ?_
    rw [logText_prints, List.flatten_cons, List.flatten_cons, List.flatten_cons, List.flatten_nil,
      List.append_nil, ← List.append_assoc, ascii_newline]
    exact h.instantiate wasm text htext
  refine (tells_require (hfailed String.toList_ofList (by decide))).bind_of_nil fun _ =>
    (tells_require (hfailed String.toList_ofList (by decide))).bind_of_nil fun _ =>
      (tells_trace (neat_beginAt env _)).bind_of_nil fun _ =>
        (tells_orRuntimeError hload).bind_of_nil fun _ =>
          (tells_trace (neat_endAt env _)).bind_of_nil fun _ =>
            (tells_trace (neat_closePhase _)).bind_of_nil fun _ =>
              (tells_trace (neat_beginAt env _)).bind_of_nil fun _ =>
                (tells_emitOcalls (h.start wasm)).bind_nil fun _ =>
                  (tells_orRuntimeError hinstantiate).bind_of_nil fun _ =>
                    (tells_trace (neat_endAt env _)).bind_of_nil fun _ =>
                      (tells_trace (neat_closePhase _)).bind_of_nil fun _ =>
                        tells_require (speaks_of_neat ?_)
  exact neat_enclavePrintLit String.toList_ofList (by decide)

/-- What the helper prints after an execution are whole lines. -/
theorem wholeLines_reportEnd (ok overflow : Bool) : WholeLines (logText (reportEnd ok overflow)) := by
  have hfailed : WholeLines (ascii "Execute main failed.\n") :=
    wholeLines_lit String.toList_ofList (by decide)
  have hover : WholeLines (ascii "WASM output exceeded enclave capture buffer.\n") :=
    wholeLines_lit String.toList_ofList (by decide)
  rw [reportEnd, logText_append]
  refine WholeLines.append ?_ ?_
  · cases ok with
    | true => exact wholeLines_nil
    | false => exact wholeLines_flatMap fun e he => by rwa [List.mem_singleton.mp he]
  · cases overflow with
    | true => exact wholeLines_flatMap fun e he => by rwa [List.mem_singleton.mp he]
    | false => exact wholeLines_nil

/-- **The execution of `main`.** -/
theorem tells_executeMain (h : RunQuiet env) (wasm : Bytes) (argument : Option Bytes)
    (capacity : ℕ) :
    Tells (mainText env wasm argument) (executeMain env wasm argument capacity) ∧
      ∀ s final, (executeMain env wasm argument capacity s).value = some final →
        (env.guest wasm argument).ok = true := by
  have htext : ∀ s, logText (executeMain env wasm argument capacity s).log =
      mainText env wasm argument ++ logText (reportEnd (env.guest wasm argument).ok
        (ExecState.execute capacity (env.guest wasm argument).calls).capture.overflow) := by
    intro s
    rw [executeMain_apply, logText, List.flatMap_cons, List.flatMap_append]
    rfl
  have hvalue : ∀ s final, (executeMain env wasm argument capacity s).value = some final →
      (env.guest wasm argument).ok = true ∧
        (ExecState.execute capacity (env.guest wasm argument).calls).capture.overflow = false := by
    intro s final hfinal
    rw [executeMain_apply] at hfinal
    simp only [Option.ite_none_right_eq_some, Bool.and_eq_true, Bool.not_eq_true'] at hfinal
    exact hfinal.1
  refine ⟨⟨⟨fun s => ?_, fun s => ?_⟩, fun s final hfinal => ?_⟩,
    fun s final hfinal => (hvalue s final hfinal).1⟩
  · rw [executeMain_apply]
    exact fun hs => hs
  · rw [htext]
    exact (h.main wasm argument).append (wholeLines_reportEnd _ _).harmless
  · obtain ⟨hok, hover⟩ := hvalue s final hfinal
    rw [htext, hok, hover]
    exact List.append_nil _

/-- **The module** speaks harmlessly, and leaves no line open when it comes to its end. -/
theorem speaks_executeModule (h : RunQuiet env) (args : RunArgs) (wasm : Bytes)
    (input : Option Bytes) :
    Speaks (executeModule .kem env args wasm input) ∧
      ∀ s final, (executeModule .kem env args wasm input s).value = some final →
        Closed isLineEnd (logText (executeModule .kem env args wasm input s).log) := by
  have hprepare : Tells [] (require (outputCapturePrepare (env.ok .captureMalloc) args.maxOutSize)
      (enclavePrintLit "Invalid or unavailable output capacity.\n")) :=
    tells_require (speaks_of_neat (neat_enclavePrintLit String.toList_ofList (by decide)))
  have hstart := tells_startModule h wasm
  obtain ⟨hmain, hok⟩ := tells_executeMain h wasm (input.bind (base64Encode (env.ok .base64Malloc)))
    args.maxOutSize
  refine ⟨hprepare.toSpeaks.bind fun _ => hstart.toSpeaks.bind fun _ => hmain.toSpeaks,
    fun s final hfinal => ?_⟩
  unfold executeModule runWasmHelper at hfinal ⊢
  rw [value_bind] at hfinal
  obtain ⟨_, hready, hfinal⟩ := Option.bind_eq_some_iff.mp hfinal
  rw [value_bind] at hfinal
  obtain ⟨_, hstarted, hfinal⟩ := Option.bind_eq_some_iff.mp hfinal
  rw [bind_of_some hready, bind_of_some hstarted, logText_append, logText_append,
    hprepare.text _ _ hready, hstart.text _ _ hstarted, hmain.text _ _ hfinal]
  exact h.closed wasm _ (hok _ _ hfinal)

/-! ## The end of a run -/

/-- A part that puts whole lines on the stream. -/
abbrev Lined {α : Type} (p : Proc Event RunState α) : Prop :=
  Frame (Keeps fun _ => ()) (fun e => WholeLines (eventText e)) p

theorem lined_of_neat {α : Type} {p : Proc Event RunState α} (h : Neat p) : Lined p :=
  h.mono (fun _ _ _ => rfl) fun _ he => he

theorem lined_enclavePrintLit {text : String} {l : Text} (hs : text.toList = l) (h : LineLit l) :
    Lined (enclavePrintLit text) := lined_of_neat (neat_enclavePrintLit hs h)

theorem lined_modify (f : RunState → RunState) : Lined (modify f) := Frame.modify fun _ => rfl

theorem lined_sealOutput (env : RunEnv) (key : Block 32) (aadOut output : Bytes) {failed : String}
    {l : Text} (hs : failed.toList = l) (h : LineLit l) :
    Lined (sealOutput S env key aadOut output failed) :=
  (lined_modify _).bind fun _ => (lined_of_neat (neat_emit rfl)).bind fun _ =>
    (Frame.require (lined_enclavePrintLit hs h)).bind fun _ => lined_modify _

theorem lined_ecallKemEncap (env : RunEnv) (pkU : Block 65) : Lined (ecallKemEncap S env pkU) :=
  (Frame.require (lined_enclavePrintLit String.toList_ofList (by decide))).bind fun _ =>
    (Frame.require (lined_enclavePrintLit String.toList_ofList (by decide))).bind fun _ =>
      (Frame.orStop (lined_enclavePrintLit String.toList_ofList (by decide))).bind
        fun _ => (Frame.orStop (lined_enclavePrintLit String.toList_ofList
          (by decide))).bind fun _ => (lined_modify _).bind fun _ =>
            Frame.orStop (lined_enclavePrintLit String.toList_ofList (by decide))

theorem lined_sealResultKem (env : RunEnv) (args : RunArgs) (aadOut : Bytes)
    (final : ExecState args.maxOutSize) : Lined (sealResultKem S env args aadOut final) :=
  (Frame.orStop (lined_enclavePrintLit String.toList_ofList (by decide))).bind fun _ =>
    (lined_modify _).bind fun _ => (lined_modify _).bind fun _ => (lined_modify _).bind fun _ =>
      (lined_ecallKemEncap env _).attempt.bind fun _ =>
        (Frame.orStop (lined_enclavePrintLit String.toList_ofList (by decide))).bind
          fun _ => (lined_modify _).bind fun _ => (lined_modify _).bind fun _ =>
            (lined_modify _).bind fun _ =>
              (Frame.require (lined_enclavePrintLit String.toList_ofList (by decide))).bind
                fun _ => (lined_sealOutput env _ _ _ String.toList_ofList (by decide)).bind
                  fun _ => (lined_modify _).bind fun _ => (lined_modify _).bind fun _ =>
                    (lined_modify _).bind fun _ => (lined_modify _).bind fun _ => lined_modify _

/-! ## The whole run -/

/-- The text is harmless, and closed when the success is reported on the way. -/
def Ends {α : Type} (p : Proc Event RunState α) : Prop :=
  ∀ s, HarmlessText (logText (p s).log) ∧
    (TraceFlag.success ∈ (p s).state.out.trace.flags →
      TraceFlag.success ∈ s.out.trace.flags ∨ Closed isLineEnd (logText (p s).log))

/-- Whole lines, and then an end. -/
theorem Ends.behind {α β : Type} {p : Proc Event RunState α} {f : α → Proc Event RunState β}
    (hp : Neat p) (hf : ∀ a, Ends (f a)) : Ends (p >>= f) := by
  intro s
  have hlines := wholeLines_log hp s
  cases hv : (p s).value with
  | none =>
    rw [bind_of_none hv]
    exact ⟨hlines.harmless, fun hs => Or.inl (hp.state s hs)⟩
  | some a =>
    obtain ⟨hharmless, hend⟩ := hf a (p s).state
    rw [bind_of_some hv, logText_append]
    refine ⟨hlines.harmless.append hharmless, fun hs => ?_⟩
    rcases hend hs with hbefore | hclosed
    · exact Or.inl (hp.state s hbefore)
    · exact Or.inr (hlines.closed.append hclosed)

/-- Up to the end of a part that leaves no line open, and then whole lines. -/
theorem ends_of_speaks {α β : Type} {p : Proc Event RunState α} {f : α → Proc Event RunState β}
    (hp : Speaks p) (hclosed : ∀ s a, (p s).value = some a → Closed isLineEnd (logText (p s).log))
    (hf : ∀ a, Lined (f a)) : Ends (p >>= f) := by
  intro s
  cases hv : (p s).value with
  | none =>
    rw [bind_of_none hv]
    exact ⟨hp.harmless s, fun hs => Or.inl (hp.noSuccess s hs)⟩
  | some a =>
    have hlines : WholeLines (logText (f a (p s).state).log) :=
      wholeLines_flatMap fun e he => (hf a).log _ e he
    rw [bind_of_some hv, logText_append]
    exact ⟨(hp.harmless s).append hlines.harmless,
      fun _ => Or.inr ((hclosed s a hv).append hlines.closed)⟩

theorem ends_runBody (h : RunQuiet env) (args : RunArgs) (fid : CStr) :
    Ends (runBody .kem S B env args fid) := by
  refine Ends.behind (neat_admitRequest env args fid) fun m => ?_
  obtain ⟨hspeaks, hclosed⟩ := speaks_executeModule h args m.wasm m.input
  exact ends_of_speaks hspeaks hclosed fun final => lined_sealResultKem env args m.aadOut final

theorem ends_runEncryptedWasm (h : RunQuiet env) (args : RunArgs) :
    Ends (runEncryptedWasm .kem S B env args) := by
  refine Ends.behind (Frame.require (neat_enclavePrintLit String.toList_ofList
    (by decide))) fun _ => Ends.behind (neat_trace fun t ht => ?_) fun _ =>
      Ends.behind Frame.get fun s => Ends.behind (neat_requireLoadedKeys _ args) fun _ =>
        Ends.behind (Frame.require (neat_enclavePrintLit String.toList_ofList
          (by decide))) fun _ => fun s' => ?_
  · exact absurd ht (by simp [InvokeTrace.start, InvokeTrace.zero])
  · exact ends_runBody h args _ s'

/-- **The text of a run** has no line with a meaning. -/
theorem harmlessText_run (h : RunQuiet env) (args : RunArgs) (g : Globals) :
    HarmlessText (logText (runEncryptedWasm .kem S B env args (RunState.start g)).log) :=
  (ends_runEncryptedWasm h args _).1

/-- **A run that reports its success** leaves no line open. -/
theorem closed_run (h : RunQuiet env) (args : RunArgs) (g : Globals)
    (hs : TraceFlag.success ∈
      (runEncryptedWasm .kem S B env args (RunState.start g)).state.out.trace.flags) :
    Closed isLineEnd (logText (runEncryptedWasm .kem S B env args (RunState.start g)).log) := by
  rcases (ends_runEncryptedWasm h args _).2 hs with hstart | hclosed
  · exact absurd hstart (by simp [RunState.start, RunOut.zero, InvokeTrace.zero])
  · exact hclosed

end WorkerApp
end AsynCS
