import AsynCS.Worker.RunSpec

/-!
# When a run completes, and what it seals

Both run ECALLs return nothing; a run that reaches its end has executed its module to the end and
encrypted what the module printed.

* `ModuleEnds`, `moduleState`: the module runs to its end within the capture buffer, and what it
  leaves there.
* `encapsulatedKey`, `sealingKey`, `SealsBefore`: the key of the output, and what is checked before
  it is used.
* `Completes`: everything a run asks for up to its end; `value_runEncryptedWasm_eq_some_iff`.
* `emits_gcmEncrypt_iff`: the one encryption of a run, and when it comes to it.
* `out_of_completes`: the output parameters of a run that completed.
-/

namespace AsynCS
namespace Worker

open Proc

variable {S : Sgx} {B : Bfibe} {kind : RunKind} {env : RunEnv} {args : RunArgs}

/-! ## The module -/

/-- The argument of a module: the base64 text of its input. -/
def moduleArgument (env : RunEnv) (input : Option Bytes) : Option Bytes :=
  input.bind (base64Encode (env.ok .base64Malloc))

/-- What the execution of a module leaves. -/
def moduleState (env : RunEnv) (args : RunArgs) (wasm : Bytes) (input : Option Bytes) :
    ExecState args.maxOutSize :=
  ExecState.execute args.maxOutSize (env.guest wasm (moduleArgument env input)).calls

/-- A module runs to its end, and all that it prints fits. -/
structure ModuleEnds (env : RunEnv) (args : RunArgs) (wasm : Bytes) (input : Option Bytes) :
    Prop where
  prepared : outputCapturePrepare (env.ok .captureMalloc) args.maxOutSize = true
  starts : ModuleStarts env wasm
  fits : (moduleState env args wasm input).capture.overflow = false
  ok : (env.guest wasm (moduleArgument env input)).ok = true

theorem value_executeMain_eq_some_iff {wasm : Bytes} {argument : Option Bytes} {capacity : ℕ}
    {s : RunState} {final : ExecState capacity} :
    (executeMain env wasm argument capacity s).value = some final ↔
      ((ExecState.execute capacity (env.guest wasm argument).calls).capture.overflow = false ∧
        (env.guest wasm argument).ok = true) ∧
        final = ExecState.execute capacity (env.guest wasm argument).calls := by
  have hquiet : ∀ s : RunState, (onlyIf (!(env.guest wasm argument).ok)
      (enclavePrintLit "Execute main failed.\n") s).value = some () := by
    intro s
    cases (env.guest wasm argument).ok <;> rfl
  simp only [executeMain, value_bind, value_emit, value_emitOcalls, hquiet, value_require,
    Option.bind_some, value_pure]
  cases (ExecState.execute capacity (env.guest wasm argument).calls).capture.overflow <;>
    cases (env.guest wasm argument).ok <;> simp [eq_comm]

/-- **The module part** gives what the module leaves, when it runs to its end. -/
theorem value_executeModule_eq_some_iff {wasm : Bytes} {input : Option Bytes} {s : RunState}
    {final : ExecState args.maxOutSize} :
    (executeModule kind env args wasm input s).value = some final ↔
      ModuleEnds env args wasm input ∧ final = moduleState env args wasm input := by
  simp only [executeModule, runWasmHelper, value_bind, value_require, Option.bind_eq_some_iff,
    value_startModule_eq_some_iff, value_executeMain_eq_some_iff, ite_eq_left_iff, reduceCtorEq,
    imp_false, not_not, exists_const]
  constructor
  · rintro ⟨hprepared, hstarts, ⟨hfits, hok⟩, rfl⟩
    exact ⟨⟨hprepared, hstarts, hfits, hok⟩, rfl⟩
  · rintro ⟨⟨hprepared, hstarts, hfits, hok⟩, rfl⟩
    exact ⟨hprepared, hstarts, ⟨hfits, hok⟩, rfl⟩

/-! ## The end of a run -/

/-- The key of `ecall_kem_encap`. -/
def encapsulatedKey (S : Sgx) (env : RunEnv) (pkU : Block 65) : Option (Block 32) :=
  if pkU.toList.take 1 = [4] ∧ env.ok .kemContext = true then do
    let pair ← env.kemKeyPair
    let sharedSecret ← S.computeSharedDhkey pair.1 (pointOfX962 pkU.toList)
    S.sha256Msg (env.ok .kemHash) (some sharedSecret.toList)
  else none

theorem value_ecallKemEncap (pkU : Block 65) (s : RunState) :
    (ecallKemEncap S env pkU s).value = encapsulatedKey S env pkU := by
  simp only [ecallKemEncap, value_bind, value_require, value_orStop, value_modify]
  unfold encapsulatedKey
  by_cases hformat : pkU.toList.take 1 = [4]
  · rw [if_pos (beq_iff_eq.mpr hformat)]
    cases env.ok .kemContext with
    | true =>
      rw [if_pos rfl, if_pos ⟨hformat, rfl⟩]
      rfl
    | false =>
      rw [if_neg Bool.false_ne_true, if_neg fun h => Bool.false_ne_true h.2]
      rfl
  · have htest : ¬ (pkU.toList.take 1 == [4]) = true := fun h => hformat (beq_iff_eq.mp h)
    rw [if_neg htest, if_neg fun h : _ ∧ _ => hformat h.1]
    rfl

/-- The key that seals the output of a run. -/
def sealingKey (kind : RunKind) (S : Sgx) (env : RunEnv) (args : RunArgs) (m : Admitted) :
    Option (Block 32) :=
  match kind with
  | .legacy => some m.kReq
  | .kem => encapsulatedKey S env args.pkU

/-- A run comes to the encryption of its output, under this key. -/
structure SealsBefore (kind : RunKind) (S : Sgx) (env : RunEnv) (args : RunArgs) (m : Admitted)
    (key : Block 32) : Prop where
  timed : kind = .kem → (workloadCycles (moduleState env args m.wasm m.input)).isSome = true
  key : sealingKey kind S env args m = some key

/-- What a run does up to its end, with what it is admitted and the key of its output. -/
structure Completes (kind : RunKind) (S : Sgx) (B : Bfibe) (env : RunEnv) (args : RunArgs)
    (g : Globals) (m : Admitted) (key : Block 32) : Prop where
  ready : RunReady kind env args g
  admits : ∃ c, Admits kind S B env args g (invocationFid g args) c m
  ends : ModuleEnds env args m.wasm m.input
  seals : SealsBefore kind S env args m key
  encrypts : env.ok .resultEncrypt = true

/-- What is encrypted, and what the encryption gives. -/
theorem value_sealOutput_eq_some_iff {key : Block 32} {aadOut output : Bytes} {failed : String}
    {s : RunState} {u : Unit} :
    (sealOutput S env key aadOut output failed s).value = some u ↔
      env.ok .resultEncrypt = true := by
  simp only [sealOutput, value_bind, value_modify, value_emit, value_require, Option.bind_some]
  cases env.ok .resultEncrypt <;> simp

/-- **The end of a run** is reached when there is a key and the encryption succeeds. -/
theorem value_sealRun_eq_some_iff {m : Admitted} {s : RunState} :
    (sealRun kind S env args m (moduleState env args m.wasm m.input) s).value = some () ↔
      (∃ key, SealsBefore kind S env args m key) ∧ env.ok .resultEncrypt = true := by
  have hpos := (moduleState env args m.wasm m.input).capture.pos_le
  cases kind with
  | legacy =>
    have hbefore : ∃ key, SealsBefore .legacy S env args m key := ⟨m.kReq, by simp, rfl⟩
    simp only [sealRun, sealResult, value_bind, value_require, value_modify, value_enclavePrintLit,
      decide_eq_true hpos, if_true, Option.bind_some, Option.bind_eq_some_iff,
      value_sealOutput_eq_some_iff, exists_const, and_true]
    exact (and_iff_right hbefore).symm
  | kem =>
    have htrace : ∀ (f : InvokeTrace → InvokeTrace) (s : RunState),
        (trace .kem f s).value = some () := fun f s => value_trace .kem f s
    simp only [sealRun, sealResultKem, value_bind, value_orStop, value_attempt,
      value_ecallKemEncap, htrace, value_require, value_modify, decide_eq_true hpos, if_true,
      Option.bind_some, Option.bind_eq_some_iff, value_sealOutput_eq_some_iff, exists_const,
      and_true]
    constructor
    · rintro ⟨cycles, hcycles, key, hkey, hencrypt⟩
      exact ⟨⟨key, fun _ => by rw [hcycles]; rfl, hkey⟩, hencrypt⟩
    · rintro ⟨⟨key, htimed, hkey⟩, hencrypt⟩
      obtain ⟨cycles, hcycles⟩ := Option.isSome_iff_exists.mp (htimed rfl)
      exact ⟨cycles, hcycles, key, hkey, hencrypt⟩

/-! ## A whole run -/

theorem value_runBody_eq_some_iff {fid : CStr} {s : RunState} :
    (runBody kind S B env args fid s).value = some () ↔
      ∃ m key, (∃ c, Admits kind S B env args s.worker fid c m) ∧
        ModuleEnds env args m.wasm m.input ∧ SealsBefore kind S env args m key ∧
        env.ok .resultEncrypt = true := by
  simp only [runBody, value_bind, Option.bind_eq_some_iff, value_admitRequest_eq_some_iff,
    value_executeModule_eq_some_iff]
  constructor
  · rintro ⟨m, hadmits, _, ⟨hends, rfl⟩, hseal⟩
    obtain ⟨⟨key, hbefore⟩, hencrypt⟩ := value_sealRun_eq_some_iff.mp hseal
    exact ⟨m, key, hadmits, hends, hbefore, hencrypt⟩
  · rintro ⟨m, key, hadmits, hends, hbefore, hencrypt⟩
    exact ⟨m, hadmits, _, ⟨hends, rfl⟩, value_sealRun_eq_some_iff.mpr ⟨⟨key, hbefore⟩, hencrypt⟩⟩

theorem runReady_iff {g : Globals} :
    RunReady kind env args g ↔ (kind == .legacy || args.invokeTrace) = true ∧
      keysLoaded g args = true ∧ env.ok .cReqMalloc = true := by
  constructor
  · rintro ⟨htraced, hkeys, hreq⟩
    refine ⟨?_, hkeys, hreq⟩
    cases kind with
    | legacy => rfl
    | kem => exact htraced rfl
  · rintro ⟨htraced, hkeys, hreq⟩
    exact ⟨fun hk => by simpa [hk] using htraced, hkeys, hreq⟩

/-- **When a run completes**, exactly. -/
theorem value_runEncryptedWasm_eq_some_iff {s : RunState} :
    (runEncryptedWasm kind S B env args s).value = some () ↔
      ∃ m key, Completes kind S B env args s.worker m key := by
  have htest : ∀ {c : Bool}, (if c then some () else none) = some () ↔ c = true := by
    intro c
    cases c <;> simp
  have hvalue : ∀ (fid : CStr) (s : RunState),
      (withCleanup (runBody kind S B env args fid) (RunState.mapWorker Globals.zeroizeLabelKey)
        s).value = (runBody kind S B env args fid s).value := fun _ _ => rfl
  simp only [runEncryptedWasm, value_bind, value_require, value_trace, value_get, state_get,
    value_requireLoadedKeys, Option.bind_some, Option.bind_eq_some_iff, htest, hvalue,
    value_runBody_eq_some_iff, worker_require, worker_trace, worker_requireLoadedKeys,
    exists_const]
  constructor
  · rintro ⟨htraced, hkeys, hreq, m, key, hadmits, hends, hbefore, hencrypt⟩
    exact ⟨m, key, runReady_iff.mpr ⟨htraced, hkeys, hreq⟩, hadmits, hends, hbefore, hencrypt⟩
  · rintro ⟨m, key, hready, hadmits, hends, hbefore, hencrypt⟩
    obtain ⟨htraced, hkeys, hreq⟩ := runReady_iff.mp hready
    exact ⟨htraced, hkeys, hreq, m, key, hadmits, hends, hbefore, hencrypt⟩

/-! ## The encryption -/

/-- The event encrypts nothing. -/
def Event.EncryptsNothing (e : Event) : Prop :=
  ∀ key iv aad plaintext, e ≠ .gcmEncrypt key iv aad plaintext

/-- A part of a run that encrypts nothing. -/
abbrev Unsealing {α : Type} (p : Proc Event RunState α) : Prop :=
  Frame (Maintains fun _ => True) Event.EncryptsNothing p

theorem Event.IsOcall.encryptsNothing {e : Event} (h : e.IsOcall) : e.EncryptsNothing := by
  rcases h with ⟨message, rfl⟩ | ⟨fd, data, rfl⟩
  · exact fun _ _ _ _ => by simp
  · exact fun _ _ _ _ => by simp

theorem unsealing_of_prints {α : Type} {p : Proc Event RunState α}
    (hp : Frame Eq Event.IsPrint p) : Unsealing p :=
  hp.mono (fun _ _ _ _ => trivial) fun _ he => Event.IsOcall.encryptsNothing (.inl he)

theorem unsealing_enclavePrint (message : Bytes) : Unsealing (enclavePrint message) :=
  unsealing_of_prints (frame_enclavePrint message)

theorem unsealing_enclavePrintLit (message : String) : Unsealing (enclavePrintLit message) :=
  unsealing_of_prints (frame_enclavePrintLit message)

theorem unsealing_modify (f : RunState → RunState) : Unsealing (modify f) :=
  Frame.modify fun _ _ => trivial

theorem unsealing_trace (kind : RunKind) (f : InvokeTrace → InvokeTrace) :
    Unsealing (trace kind f) := by
  cases kind with
  | legacy => exact Frame.pure ()
  | kem => exact unsealing_modify _

theorem unsealing_whenLegacy {p : Proc Event RunState Unit} (hp : Unsealing p) :
    Unsealing (whenLegacy kind p) := by
  cases kind with
  | legacy => exact hp
  | kem => exact Frame.pure ()

theorem unsealing_emitOcalls {events : List Event} (h : ∀ e ∈ events, e.IsOcall) :
    Unsealing (emitOcalls events) :=
  (frame_emitOcalls h).mono (fun _ _ _ _ => trivial) fun _ => Event.IsOcall.encryptsNothing

theorem unsealing_gcmOpen (ok : Bool) (key : Block 32) (iv : Block 12) (aad ciphertext : Bytes)
    (tag : Block 16) : Unsealing (gcmOpen S ok key iv aad ciphertext tag) :=
  (Frame.emit fun _ _ _ _ => by simp).bind fun _ => Frame.pure _

theorem unsealing_printHexPrefixed (text : String) (data : Bytes) :
    Unsealing (printHexPrefixed text data) := by
  have hdata : Unsealing (data.forM fun b => enclavePrint (hexEncode [b])) := by
    induction data with
    | nil => exact Frame.pure ()
    | cons b data ih => exact (unsealing_enclavePrint _).bind fun _ => ih
  exact (unsealing_enclavePrintLit _).bind fun _ => hdata.bind fun _ =>
    unsealing_enclavePrintLit _

theorem unsealing_computeRid (fid : CStr) : Unsealing (computeRid kind S env args fid) := by
  unfold computeRid
  split
  · exact (unsealing_whenLegacy (unsealing_printHexPrefixed _ _)).bind fun _ =>
      (unsealing_trace _ _).bind fun _ => Frame.pure _
  · refine (unsealing_enclavePrintLit _).bind fun _ => ?_
    cases kind with
    | legacy => exact Frame.pure _
    | kem => exact Frame.stop

theorem unsealing_prepareLabelKey (label : Block 32) :
    Unsealing (prepareLabelKey S env args label) :=
  Frame.get.bind fun _ => Frame.ite (unsealing_modify _)
    (Frame.ite ((unsealing_enclavePrintLit _).bind fun _ => unsealing_modify _)
      ((unsealing_enclavePrintLit _).bind fun _ =>
        (Frame.orStop (unsealing_enclavePrintLit _)).bind fun _ => unsealing_modify _))

theorem unsealing_orDecKeyFailed (name : String) (key : Except (List String) (Block 32)) :
    Unsealing (orDecKeyFailed name key) :=
  unsealing_of_prints (frame_orReport _)

theorem unsealing_decapRequestKey (aadReq : Bytes) :
    Unsealing (decapRequestKey kind S B env args aadReq) :=
  (unsealing_trace _ _).bind fun _ => Frame.get.bind fun _ =>
    (unsealing_orDecKeyFailed _ _).bind fun _ => (unsealing_trace _ _).bind fun _ =>
      (unsealing_trace _ _).bind fun _ => Frame.pure _

theorem unsealing_printDebugDecryption : Unsealing (printDebugDecryption env args) := by
  have hline : ∀ name data, Unsealing (printDebugBytes name data) :=
    fun _ _ => unsealing_enclavePrint _
  exact (unsealing_enclavePrintLit _).bind fun _ => Frame.get.bind fun _ =>
    (Frame.onlyIf (hline _ _)).bind fun _ => (hline _ _).bind fun _ =>
      (hline _ _).bind fun _ => hline _ _

theorem unsealing_loadFunction (fid : CStr) (label : Block 32) (aadPkg : Bytes)
    (hit : Option Bytes) : Unsealing (loadFunction kind S B env args fid label aadPkg hit) := by
  have hdecap : Unsealing (decapFunctionKey kind S B env args aadPkg) :=
    (unsealing_trace _ _).bind fun _ => Frame.get.bind fun _ =>
      (unsealing_orDecKeyFailed _ _).bind fun _ => (unsealing_trace _ _).bind fun _ =>
        (unsealing_trace _ _).bind fun _ => (unsealing_modify _).bind fun _ => Frame.pure _
  have hdecrypt : ∀ kFunc, Unsealing (decryptFunction kind S env args aadPkg kFunc) := fun kFunc =>
    (Frame.require (unsealing_enclavePrintLit _)).bind fun _ =>
      (unsealing_whenLegacy unsealing_printDebugDecryption).bind fun _ =>
        (unsealing_trace _ _).bind fun _ => (unsealing_gcmOpen _ _ _ _ _ _).bind fun _ =>
          (unsealing_trace _ _).bind fun _ => (Frame.orStop (unsealing_enclavePrint _)).bind
            fun _ => (unsealing_trace _ _).bind fun _ =>
              (unsealing_whenLegacy (unsealing_enclavePrintLit _)).bind fun _ => Frame.pure _
  cases hit with
  | some wasm => exact Frame.pure _
  | none =>
    exact hdecap.bind fun _ => (hdecrypt _).bind fun _ =>
      (unsealing_modify _).bind fun _ => Frame.pure _

theorem unsealing_decryptInput (aadReq : Bytes) (kReq : Block 32) :
    Unsealing (decryptInput kind S env args aadReq kReq) :=
  Frame.ite (Frame.pure _)
    ((Frame.require (unsealing_enclavePrintLit _)).bind fun _ => (unsealing_trace _ _).bind
      fun _ => (unsealing_gcmOpen _ _ _ _ _ _).bind fun _ => (unsealing_trace _ _).bind fun _ =>
        (Frame.orStop (unsealing_enclavePrintLit _)).bind fun _ => (unsealing_trace _ _).bind
          fun _ => (unsealing_whenLegacy (unsealing_enclavePrintLit _)).bind fun _ =>
            Frame.pure _)

theorem unsealing_recordPayload (input hit : Option Bytes) (wasm : Bytes) :
    Unsealing (recordPayload kind S env args input hit wasm) := by
  cases kind with
  | legacy =>
    refine Frame.bind ?_ fun _ => unsealing_enclavePrint _
    unfold traceE3PayloadConsumed
    split
    · exact unsealing_enclavePrint _
    · exact unsealing_enclavePrintLit _
  | kem =>
    exact ((Frame.orStop (unsealing_enclavePrintLit _)).bind fun _ => unsealing_trace _ _).bind
      fun _ => (unsealing_trace _ _).bind fun _ =>
        Frame.ite (unsealing_trace _ _) (unsealing_trace _ _)

/-- Nothing is encrypted before a request is admitted. -/
theorem unsealing_admitRequest (fid : CStr) : Unsealing (admitRequest kind S B env args fid) :=
  (unsealing_computeRid fid).bind fun _ => (Frame.orStop (unsealing_enclavePrintLit _)).bind
    fun _ => (Frame.orStop (unsealing_enclavePrintLit _)).bind fun _ => Frame.get.bind fun _ =>
      (Frame.require (unsealing_enclavePrintLit _)).bind fun _ =>
        (Frame.onlyIf (unsealing_prepareLabelKey _)).bind fun _ =>
          (unsealing_decapRequestKey _).bind fun _ => (unsealing_loadFunction _ _ _ _).bind
            fun _ => (unsealing_decryptInput _ _).bind fun _ =>
              (unsealing_recordPayload _ _ _).bind fun _ => Frame.pure _

/-- Nothing is encrypted while a module runs. -/
theorem unsealing_executeModule (wasm : Bytes) (input : Option Bytes) :
    Unsealing (executeModule kind env args wasm input) := by
  have hprints : ∀ texts, Unsealing (printAll texts) := fun _ =>
    unsealing_of_prints (frame_printAll _)
  have hruntime : ∀ {r : Except CStr Unit} {onFail : CStr → Proc Event RunState Unit},
      (∀ text, Unsealing (onFail text)) → Unsealing (orRuntimeError r onFail) := by
    intro r onFail h
    cases r with
    | ok u => exact Frame.pure ()
    | error text => exact (h text).bind fun _ => Frame.stop
  have hstart : Unsealing (startModule kind env wasm) :=
    (Frame.require (hprints _)).bind fun _ => (Frame.require (hprints _)).bind fun _ =>
      (unsealing_trace _ _).bind fun _ =>
        (hruntime fun _ => (unsealing_enclavePrintLit _).bind fun _ =>
          unsealing_enclavePrint _).bind fun _ =>
        (unsealing_trace _ _).bind fun _ => (unsealing_trace _ _).bind fun _ =>
          (unsealing_trace _ _).bind fun _ =>
            (unsealing_emitOcalls fun _ => GuestCall.isOcall_of_mem_startOcalls).bind fun _ =>
              (hruntime fun _ => (unsealing_enclavePrintLit _).bind fun _ =>
                (unsealing_enclavePrint _).bind fun _ => unsealing_enclavePrintLit _).bind
              fun _ => (unsealing_trace _ _).bind fun _ => (unsealing_trace _ _).bind fun _ =>
                Frame.require (unsealing_enclavePrintLit _)
  exact (Frame.require (unsealing_enclavePrintLit _)).bind fun _ => hstart.bind fun _ =>
    (Frame.emit fun _ _ _ _ => by simp).bind fun _ =>
      (unsealing_emitOcalls fun _ => GuestCall.isOcall_of_mem_ocalls).bind fun _ =>
        (Frame.onlyIf (unsealing_enclavePrintLit _)).bind fun _ =>
          (Frame.require (unsealing_enclavePrintLit _)).bind fun _ =>
            (Frame.require (Frame.pure ())).bind fun _ => Frame.pure _

theorem not_emits_of_unsealing {α : Type} {p : Proc Event RunState α} (hp : Unsealing p)
    {s : RunState} {k : Block 16} {iv : Block 12} {aad plaintext : Bytes} :
    ¬ Emits p s (.gcmEncrypt k iv aad plaintext) :=
  hp.not_emits fun h => h k iv aad plaintext rfl

theorem emits_sealOutput {key : Block 32} {aadOut output : Bytes} {failed : String}
    {s : RunState} {k : Block 16} {iv : Block 12} {aad plaintext : Bytes} :
    Emits (sealOutput S env key aadOut output failed) s (.gcmEncrypt k iv aad plaintext) ↔
      k = key.first 16 ∧ iv = env.resultIv ∧ aad = aadOut ∧ plaintext = output := by
  have hrest : ∀ s : RunState, ¬ Emits (do
      require (env.ok .resultEncrypt) (enclavePrintLit failed)
      modify (RunState.mapOut fun o => { o with
        encryptedResult := (S.gcmEncrypt (key.first 16) env.resultIv aadOut output).1
        resultTag := (S.gcmEncrypt (key.first 16) env.resultIv aadOut output).2 })) s
      (.gcmEncrypt k iv aad plaintext) := fun s =>
    not_emits_of_unsealing ((Frame.require (unsealing_enclavePrintLit _)).bind fun _ =>
      unsealing_modify _)
  unfold sealOutput
  rw [emits_bind_of_not_emits not_emits_modify]
  simp only [value_modify, exists_const, true_and]
  rw [emits_bind, emits_emit]
  constructor
  · rintro (h | ⟨_, _, -, h⟩)
    · exact Event.gcmEncrypt.inj h
    · exact absurd h (hrest _)
  · rintro ⟨rfl, rfl, rfl, rfl⟩
    exact .inl rfl

/-- **The end of a run** encrypts the captured output, under the key of the run. -/
theorem emits_sealRun {m : Admitted} {s : RunState} {k : Block 16} {iv : Block 12}
    {aad plaintext : Bytes} :
    Emits (sealRun kind S env args m (moduleState env args m.wasm m.input)) s
        (.gcmEncrypt k iv aad plaintext) ↔
      ∃ key, SealsBefore kind S env args m key ∧ k = key.first 16 ∧ iv = env.resultIv ∧
        aad = m.aadOut ∧ plaintext = (moduleState env args m.wasm m.input).capture.output := by
  have hpos := (moduleState env args m.wasm m.input).capture.pos_le
  have hprint : ∀ message : String, Unsealing (enclavePrintLit message) :=
    unsealing_enclavePrintLit
  have hseal : ∀ {key : Block 32} {failed : String} {rest : Unit → Proc Event RunState Unit}
      {s : RunState}, (∀ u, Unsealing (rest u)) →
      (Emits (sealOutput S env key m.aadOut (moduleState env args m.wasm m.input).capture.output
          failed >>= rest) s (.gcmEncrypt k iv aad plaintext) ↔
        k = key.first 16 ∧ iv = env.resultIv ∧ aad = m.aadOut ∧
          plaintext = (moduleState env args m.wasm m.input).capture.output) := by
    intro key failed rest s hrest
    rw [emits_bind]
    constructor
    · rintro (h | ⟨u, s₁, -, h⟩)
      · exact emits_sealOutput.mp h
      · exact absurd h (not_emits_of_unsealing (hrest u))
    · exact fun h => .inl (emits_sealOutput.mpr h)
  cases kind with
  | legacy =>
    unfold sealRun sealResult
    rw [emits_bind_of_not_emits (not_emits_of_unsealing (Frame.require (hprint _)))]
    simp only [value_require, decide_eq_true hpos, if_true, exists_const, true_and]
    rw [hseal fun _ => (unsealing_modify _).bind fun _ => hprint _]
    constructor
    · intro h
      exact ⟨m.kReq, ⟨by simp, rfl⟩, h⟩
    · rintro ⟨key, hbefore, h⟩
      obtain rfl := Option.some.inj hbefore.key
      exact h
  | kem =>
    have htrace : ∀ f : InvokeTrace → InvokeTrace, Unsealing (trace .kem f) :=
      fun f => unsealing_trace .kem f
    have hencap : Unsealing (ecallKemEncap S env args.pkU) :=
      (Frame.require (hprint _)).bind fun _ => (Frame.require (hprint _)).bind fun _ =>
        (Frame.orStop (hprint _)).bind fun _ => (Frame.orStop (hprint _)).bind fun _ =>
          (unsealing_modify _).bind fun _ => Frame.orStop (hprint _)
    have hend : Unsealing (do
        trace .kem (env.beginAt .outputAesGcm)
        trace .kem (env.endAt .outputAesGcm)
        trace .kem (InvokeTrace.closePhase .outputAesGcm)
        modify (RunState.mapOut fun o => { o with
          resultSize := (moduleState env args m.wasm m.input).capture.pos })
        trace .kem (InvokeTrace.setFlag .success)) :=
      (htrace _).bind fun _ => (htrace _).bind fun _ => (htrace _).bind fun _ =>
        (unsealing_modify _).bind fun _ => htrace _
    unfold sealRun sealResultKem
    rw [emits_bind_of_not_emits (not_emits_of_unsealing (Frame.orStop (hprint _)))]
    simp only [emits_bind_of_not_emits (not_emits_of_unsealing (htrace _)),
      emits_bind_of_not_emits (not_emits_of_unsealing hencap.attempt),
      emits_bind_of_not_emits (not_emits_of_unsealing (Frame.orStop (hprint _))),
      emits_bind_of_not_emits (not_emits_of_unsealing (Frame.require (hprint _))),
      value_orStop, value_attempt, value_ecallKemEncap, value_trace, value_require,
      decide_eq_true hpos, if_true, Option.some.injEq, exists_eq_left', exists_const, true_and,
      hseal fun _ => hend]
    constructor
    · rintro ⟨cycles, hcycles, key, hkey, h⟩
      exact ⟨key, ⟨fun _ => by rw [hcycles]; rfl, hkey⟩, h⟩
    · rintro ⟨key, hbefore, h⟩
      obtain ⟨cycles, hcycles⟩ := Option.isSome_iff_exists.mp (hbefore.timed rfl)
      exact ⟨cycles, hcycles, key, hbefore.key, h⟩

/-- **The one encryption of a run**, and when it comes to it. -/
theorem emits_gcmEncrypt_iff {s : RunState} {k : Block 16} {iv : Block 12}
    {aad plaintext : Bytes} :
    Emits (runEncryptedWasm kind S B env args) s (.gcmEncrypt k iv aad plaintext) ↔
      ∃ m key, RunReady kind env args s.worker ∧
        (∃ c, Admits kind S B env args s.worker (invocationFid s.worker args) c m) ∧
        ModuleEnds env args m.wasm m.input ∧ SealsBefore kind S env args m key ∧
        k = key.first 16 ∧ iv = env.resultIv ∧ aad = m.aadOut ∧
        plaintext = (moduleState env args m.wasm m.input).capture.output := by
  have hprint : ∀ message : String, Unsealing (enclavePrintLit message) :=
    unsealing_enclavePrintLit
  have hkeys : ∀ g, Unsealing (requireLoadedKeys g args) := fun _ =>
    (Frame.require (hprint _)).bind fun _ => Frame.require (hprint _)
  have hbody : ∀ (fid : CStr) (s : RunState),
      Emits (runBody kind S B env args fid) s (.gcmEncrypt k iv aad plaintext) ↔
        ∃ m, (∃ c, Admits kind S B env args s.worker fid c m) ∧
          ModuleEnds env args m.wasm m.input ∧ ∃ key, SealsBefore kind S env args m key ∧
          k = key.first 16 ∧ iv = env.resultIv ∧ aad = m.aadOut ∧
          plaintext = (moduleState env args m.wasm m.input).capture.output := by
    intro fid s
    unfold runBody
    rw [emits_bind_of_not_emits (not_emits_of_unsealing (unsealing_admitRequest _))]
    simp only [value_admitRequest_eq_some_iff,
      emits_bind_of_not_emits (not_emits_of_unsealing (unsealing_executeModule _ _)),
      value_executeModule_eq_some_iff]
    constructor
    · rintro ⟨m, hadmits, _, ⟨hends, rfl⟩, h⟩
      exact ⟨m, hadmits, hends, emits_sealRun.mp h⟩
    · rintro ⟨m, hadmits, hends, h⟩
      exact ⟨m, hadmits, _, ⟨hends, rfl⟩, emits_sealRun.mpr h⟩
  have htest : ∀ {c : Bool}, (if c then some () else none) = some () ↔ c = true := by
    intro c
    cases c <;> simp
  unfold runEncryptedWasm
  rw [emits_bind_of_not_emits (not_emits_of_unsealing (Frame.require (hprint _)))]
  simp only [emits_bind_of_not_emits (not_emits_of_unsealing (unsealing_trace _ _)),
    emits_bind_of_not_emits not_emits_get,
    emits_bind_of_not_emits (not_emits_of_unsealing (hkeys _)),
    emits_bind_of_not_emits (not_emits_of_unsealing (Frame.require (hprint _))),
    emits_withCleanup, hbody, value_trace, value_get, state_get, Option.some.injEq,
    exists_eq_left', value_require, value_requireLoadedKeys, worker_require, worker_trace,
    worker_requireLoadedKeys, htest, exists_const, true_and]
  constructor
  · rintro ⟨htraced, hloaded, hreq, m, hadmits, hends, key, h⟩
    exact ⟨m, key, runReady_iff.mpr ⟨htraced, hloaded, hreq⟩, hadmits, hends, h⟩
  · rintro ⟨m, key, hready, hadmits, hends, h⟩
    obtain ⟨htraced, hloaded, hreq⟩ := runReady_iff.mp hready
    exact ⟨htraced, hloaded, hreq, m, hadmits, hends, key, h⟩

/-! ## The result -/

/-- A sealed result. -/
structure SealedResult where
  iv : Block 12
  tag : Block 16
  ciphertext : Bytes
  deriving DecidableEq

/-- The result of a run that completes. -/
def resultOf (S : Sgx) (env : RunEnv) (args : RunArgs) (m : Admitted) (key : Block 32) :
    SealedResult :=
  let sealed := S.gcmEncrypt (key.first 16) env.resultIv m.aadOut
    (moduleState env args m.wasm m.input).capture.output
  ⟨env.resultIv, sealed.2, sealed.1⟩

theorem gives_sealOutput {key : Block 32} {aadOut output : Bytes} {failed : String}
    {s s' : RunState} {u : Unit} :
    Gives (sealOutput S env key aadOut output failed) s u s' ↔
      env.ok .resultEncrypt = true ∧ s' = s.mapOut fun o => { o with
        resultIv := env.resultIv
        encryptedResult := (S.gcmEncrypt (key.first 16) env.resultIv aadOut output).1
        resultTag := (S.gcmEncrypt (key.first 16) env.resultIv aadOut output).2 } := by
  simp only [sealOutput, gives_bind, gives_modify, gives_emit, gives_require]
  constructor
  · rintro ⟨_, _, rfl, _, _, rfl, _, _, ⟨hencrypt, rfl⟩, rfl⟩
    exact ⟨hencrypt, rfl⟩
  · rintro ⟨hencrypt, rfl⟩
    exact ⟨(), _, rfl, (), _, rfl, (), _, ⟨hencrypt, rfl⟩, rfl⟩

/-- The output parameters hold a result. -/
structure RunOut.Holds (o : RunOut) (r : SealedResult) (size : ℕ) : Prop where
  iv : o.resultIv = r.iv
  tag : o.resultTag = r.tag
  ciphertext : o.encryptedResult = r.ciphertext
  size : o.resultSize = size

/-- What the end of a run leaves in the output parameters. -/
theorem holds_of_sealRun {m : Admitted} {key : Block 32}
    (hkey : sealingKey kind S env args m = some key) {s s' : RunState}
    (h : Gives (sealRun kind S env args m (moduleState env args m.wasm m.input)) s () s') :
    s'.out.Holds (resultOf S env args m key)
      (moduleState env args m.wasm m.input).capture.pos := by
  cases kind with
  | legacy =>
    obtain rfl := Option.some.inj hkey
    simp only [sealRun, sealResult, gives_bind, gives_require, gives_sealOutput, gives_modify] at h
    obtain ⟨_, _, ⟨-, rfl⟩, _, _, ⟨-, rfl⟩, _, _, rfl, -, rfl⟩ := h
    exact ⟨rfl, rfl, rfl, rfl⟩
  | kem =>
    simp only [sealRun, sealResultKem, gives_bind, gives_require, gives_sealOutput, gives_modify,
      gives_orStop, trace, whenKem] at h
    obtain ⟨_, _, ⟨-, rfl⟩, _, _, rfl, _, _, rfl, _, _, rfl, encapsulated, _, hencap, key', _,
      ⟨rfl, rfl⟩, _, _, rfl, _, _, rfl, _, _, rfl, _, _, ⟨-, rfl⟩, _, _, ⟨-, rfl⟩, _, _, rfl, _, _,
      rfl, _, _, rfl, _, _, rfl, rfl⟩ := h
    have hvalue := hencap.1
    rw [value_attempt, value_ecallKemEncap, Option.some.injEq] at hvalue
    obtain rfl := Option.some.inj (hvalue.symm.trans hkey)
    exact ⟨rfl, rfl, rfl, rfl⟩

/-- A run that completes passes its end, and what that leaves in the output parameters stays. -/
theorem gives_sealRun_of_completes {s : RunState} {m : Admitted} {key : Block 32}
    (h : Completes kind S B env args s.worker m key) :
    ∃ s₁ s₂, Gives (sealRun kind S env args m (moduleState env args m.wasm m.input)) s₁ () s₂ ∧
      (runEncryptedWasm kind S B env args s).state.out = s₂.out := by
  have hgives : Gives (runEncryptedWasm kind S B env args) s ()
      (runEncryptedWasm kind S B env args s).state :=
    ⟨value_runEncryptedWasm_eq_some_iff.mpr ⟨m, key, h⟩, rfl⟩
  have htrace : ∀ {f : InvokeTrace → InvokeTrace} {s s' : RunState} {u : Unit},
      Gives (trace kind f) s u s' → s'.worker = s.worker := by
    rintro f s s' u ⟨-, rfl⟩
    exact worker_trace kind f s
  have hloaded : ∀ {g : Globals} {s s' : RunState} {u : Unit},
      Gives (requireLoadedKeys g args) s u s' → s'.worker = s.worker := by
    rintro g s s' u ⟨-, rfl⟩
    exact worker_requireLoadedKeys g args s
  generalize (runEncryptedWasm kind S B env args s).state = s' at hgives ⊢
  simp only [runEncryptedWasm, gives_bind, gives_require, gives_get] at hgives
  obtain ⟨_, s₁, ⟨-, rfl⟩, _, _, h₂, _, s₂, ⟨rfl, rfl⟩, _, _, h₃, _, s₃, ⟨-, rfl⟩, hclean⟩ := hgives
  obtain ⟨s₄, hbody, rfl⟩ := gives_withCleanup.mp hclean
  simp only [runBody, gives_bind] at hbody
  obtain ⟨m', s₅, hrequest, final, s₆, hexecute, hseal⟩ := hbody
  have hworker : s₃.worker = s₁.worker := (hloaded h₃).trans (htrace h₂)
  obtain ⟨c, hadmits⟩ := h.admits
  have hadmits' : (admitRequest kind S B env args (invocationFid s₂.worker args) s₃).value =
      some m := by
    rw [htrace h₂]
    exact value_admitRequest_eq_some_iff.mpr ⟨c, hworker ▸ hadmits⟩
  obtain rfl := Option.some.inj (hrequest.1.symm.trans hadmits')
  obtain ⟨-, rfl⟩ := value_executeModule_eq_some_iff.mp hexecute.1
  exact ⟨s₆, s₄, hseal, rfl⟩

/-- **What a run that completes leaves** in the output parameters. -/
theorem holds_of_completes {s : RunState} {m : Admitted} {key : Block 32}
    (h : Completes kind S B env args s.worker m key) :
    (runEncryptedWasm kind S B env args s).state.out.Holds (resultOf S env args m key)
      (moduleState env args m.wasm m.input).capture.pos := by
  obtain ⟨s₁, s₂, hseal, hout⟩ := gives_sealRun_of_completes h
  rw [hout]
  exact holds_of_sealRun h.seals.key hseal

/-- The X9.62 form of a key that the SDK made: its coordinates are little-endian. -/
def x962OfPoint (pk : Block 64) : Block 65 :=
  Block.ofBytes 65 ([4] ++ (pk.toList.take 32).reverse ++ (pk.toList.drop 32).reverse)

theorem gives_of_attempt {α : Type} {p : Proc Event RunState α} {s s' : RunState} {a : α}
    (h : Gives (attempt p) s (some a) s') : Gives p s a s' :=
  ⟨Option.some.inj h.1, h.2⟩

/-- An encapsulation leaves the public key that it made. -/
theorem kemCt_of_gives_ecallKemEncap {pkU : Block 65} {s s' : RunState} {key : Block 32}
    (h : Gives (ecallKemEncap S env pkU) s key s') :
    ∃ pair, env.kemKeyPair = some pair ∧ s'.out.kemCt = x962OfPoint pair.2 := by
  simp only [ecallKemEncap, gives_bind, gives_require, gives_orStop, gives_modify] at h
  obtain ⟨_, _, ⟨-, rfl⟩, _, _, ⟨-, rfl⟩, pair, _, ⟨hpair, rfl⟩, _, _, ⟨-, rfl⟩, _, _, rfl, -,
    rfl⟩ := h
  exact ⟨pair, hpair, rfl⟩

theorem kemCt_of_sealRun {m : Admitted} {s s' : RunState}
    (h : Gives (sealRun .kem S env args m (moduleState env args m.wasm m.input)) s () s') :
    ∃ pair, env.kemKeyPair = some pair ∧ s'.out.kemCt = x962OfPoint pair.2 := by
  simp only [sealRun, sealResultKem, gives_bind, gives_require, gives_sealOutput, gives_modify,
    gives_orStop, trace, whenKem] at h
  obtain ⟨_, _, ⟨-, rfl⟩, _, _, rfl, _, _, rfl, _, _, rfl, encapsulated, _, hencap, key', _,
    ⟨rfl, rfl⟩, _, _, rfl, _, _, rfl, _, _, rfl, _, _, ⟨-, rfl⟩, _, _, ⟨-, rfl⟩, _, _, rfl, _, _,
    rfl, _, _, rfl, _, _, rfl, rfl⟩ := h
  obtain ⟨pair, hpair, hct⟩ := kemCt_of_gives_ecallKemEncap (gives_of_attempt hencap)
  exact ⟨pair, hpair, hct⟩

/-- A `kem` run that completes leaves the public key that it made. -/
theorem kemCt_of_completes {s : RunState} {m : Admitted} {key : Block 32}
    (h : Completes .kem S B env args s.worker m key) :
    ∃ pair, env.kemKeyPair = some pair ∧
      (runEncryptedWasm .kem S B env args s).state.out.kemCt = x962OfPoint pair.2 := by
  obtain ⟨s₁, s₂, hseal, hout⟩ := gives_sealRun_of_completes h
  rw [hout]
  exact kemCt_of_sealRun hseal

/-- **In this call** a run executed its module to the end and encrypted what it had captured, with
this result. -/
def Seals (kind : RunKind) (S : Sgx) (B : Bfibe) (env : RunEnv) (args : RunArgs) (g : Globals)
    (r : SealedResult) : Prop :=
  ∃ wasm argument key aad,
    let run := env.guest wasm argument
    let final := ExecState.execute args.maxOutSize run.calls
    Executes kind S B env args g wasm argument ∧ run.ok = true ∧ final.capture.overflow = false ∧
      Emits (runEncryptedWasm kind S B env args) (RunState.start g)
        (.gcmEncrypt key r.iv aad final.capture.output) ∧
      env.ok .resultEncrypt = true ∧
      S.gcmEncrypt key r.iv aad final.capture.output = (r.ciphertext, r.tag)

/-- **A run seals a result** exactly when it completes, and then the result of the run. -/
theorem seals_iff {g : Globals} {r : SealedResult} :
    Seals kind S B env args g r ↔
      ∃ m key, Completes kind S B env args g m key ∧ r = resultOf S env args m key := by
  constructor
  · rintro ⟨wasm, argument, k, aad, -, -, -, hemits, hencrypt, hsealed⟩
    obtain ⟨m, key, hready, hadmits, hends, hbefore, rfl, hiv, rfl, houtput⟩ :=
      emits_gcmEncrypt_iff.mp hemits
    refine ⟨m, key, ⟨hready, hadmits, hends, hbefore, hencrypt⟩, ?_⟩
    obtain ⟨iv, tag, ciphertext⟩ := r
    obtain rfl := hiv
    rw [houtput] at hsealed
    rw [resultOf, hsealed]
  · rintro ⟨m, key, h, rfl⟩
    refine ⟨m.wasm, moduleArgument env m.input, key.first 16, m.aadOut, ?_, h.ends.ok, h.ends.fits,
      emits_gcmEncrypt_iff.mpr ⟨m, key, h.ready, h.admits, h.ends, h.seals, rfl, rfl, rfl, rfl⟩,
      h.encrypts, rfl⟩
    exact executes_iff.mpr
      ⟨h.ready, m, h.admits, h.ends.prepared, h.ends.starts, rfl, rfl⟩

end Worker
end AsynCS
