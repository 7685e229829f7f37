import AsynCS.Worker.EccSlot
import AsynCS.Worker.RunSpec

/-!
# Is the input of an execution authenticated?

A request carries its input behind a nonce and the client's public key, and only the AES-GCM
tag of the input binds the three.  A run that opens its input and passes exactly the plaintext
on has authenticated what it executes on.

* `InputAuthenticated`: an execution of this call was preceded by the opening of the input under
  `k_req` and the associated data of the request, and its argument is the plaintext in base64.
* `emits_inputDecryption`: an admitted request whose input is not empty has it opened.
* `inputAuthenticated_iff`: a call that starts a module has authenticated the input exactly when
  the input is not empty and its base64 text could be allocated.  With an empty input nothing
  is opened, and without memory the module runs as if the input were empty.
-/

namespace AsynCS
namespace Worker

open Proc

variable {S : Sgx} {B : Bfibe} {kind : RunKind} {env : RunEnv} {args : RunArgs} {g : Globals}

/-! ## The opening of an input -/

/-- `sgx_rijndael128GCM_decrypt` on the input of a request. -/
def openInput (S : Sgx) (args : RunArgs) (fid : CStr) (kReq : Block 32) : Option Bytes :=
  S.gcmDecrypt (kReq.first 16) args.inputIv (aadReq S fid args.nonce args.pkU)
    args.encryptedInput args.inputMac

/-- The event of that call when it succeeds. -/
def inputOpened (S : Sgx) (args : RunArgs) (fid : CStr) (kReq : Block 32) (plaintext : Bytes) :
    Event :=
  .gcmDecrypt (kReq.first 16) args.inputIv (aadReq S fid args.nonce args.pkU)
    args.encryptedInput args.inputMac (some plaintext)

/-- **The input of an execution is authenticated**: the call opened it under the session key of
the request and the associated data that binds FID, nonce and client key, and executes on the
base64 text of the plaintext. -/
def InputAuthenticated (kind : RunKind) (S : Sgx) (B : Bfibe) (env : RunEnv) (args : RunArgs)
    (g : Globals) : Prop :=
  ∀ wasm argument, Executes kind S B env args g wasm argument →
    ∃ kReq plaintext,
      requestKey S B env g args (aadReq S (invocationFid g args) args.nonce args.pkU) =
        .ok kReq ∧
      openInput S args (invocationFid g args) kReq = some plaintext ∧
      Emits (runEncryptedWasm kind S B env args) (RunState.start g)
        (inputOpened S args (invocationFid g args) kReq plaintext) ∧
      argument = argumentOf plaintext

/-- The call gets as far as a module that the runtime starts. -/
structure StartsModule (kind : RunKind) (S : Sgx) (B : Bfibe) (env : RunEnv) (args : RunArgs)
    (g : Globals) (c : RunContext) (m : Admitted) : Prop where
  ready : RunReady kind env args g
  admits : Admits kind S B env args g (invocationFid g args) c m
  capture : outputCapturePrepare (env.ok .captureMalloc) args.maxOutSize = true
  starts : ModuleStarts env m.wasm

theorem executes_iff_startsModule {wasm : Bytes} {argument : Option Bytes} :
    Executes kind S B env args g wasm argument ↔
      ∃ c m, StartsModule kind S B env args g c m ∧ wasm = m.wasm ∧
        argument = m.input.bind (base64Encode (env.ok .base64Malloc)) := by
  rw [executes_iff]
  constructor
  · rintro ⟨hready, m, ⟨c, hadm⟩, hcap, hstarts, hwasm, harg⟩
    exact ⟨c, m, ⟨hready, hadm, hcap, hstarts⟩, hwasm, harg⟩
  · rintro ⟨c, m, h, hwasm, harg⟩
    exact ⟨h.ready, m, ⟨c, h.admits⟩, h.capture, h.starts, hwasm, harg⟩

/-! ## What a call logs on its way -/

/-- **A call that is ready** runs its body on the globals that it starts from, logs what the
body logs, and wipes the label key at the end. -/
theorem runBody_of_ready (hready : RunReady kind env args g) :
    ∃ s : RunState, s.worker = g ∧
      (∀ e, Emits (runBody kind S B env args (invocationFid g args)) s e →
        Emits (runEncryptedWasm kind S B env args) (RunState.start g) e) ∧
      (runEncryptedWasm kind S B env args (RunState.start g)).state.worker =
        (runBody kind S B env args (invocationFid g args) s).state.worker.zeroizeLabelKey := by
  have htraced : (kind == .legacy || args.invokeTrace) = true := by
    cases hk : kind with
    | legacy => rfl
    | kem => exact hready.traced hk
  have hreq : ∀ (message : String) (s : RunState),
      Gives (require true (enclavePrintLit message)) s () s :=
    fun _ _ => gives_require.mpr ⟨rfl, rfl⟩
  have htrace : Gives (trace kind fun _ => InvokeTrace.start) (RunState.start g) ()
      (trace kind (fun _ => InvokeTrace.start) (RunState.start g)).state :=
    ⟨value_trace _ _ _, rfl⟩
  generalize hs : (trace kind (fun _ => InvokeTrace.start) (RunState.start g)).state = s at htrace
  have hworker : s.worker = g := by
    rw [← hs, worker_trace]
    rfl
  have hkeys : Gives (requireLoadedKeys g args) s () (requireLoadedKeys g args s).state := by
    refine ⟨?_, rfl⟩
    rw [value_requireLoadedKeys, hready.keysLoaded]
    rfl
  refine ⟨(requireLoadedKeys g args s).state, ?_, fun e he => ?_, ?_⟩
  · rw [worker_requireLoadedKeys, hworker]
  · unfold runEncryptedWasm
    rw [htraced, hready.cReq]
    refine Emits.right (hreq _ _) (Emits.right htrace
      (Emits.right (gives_get.mpr ⟨rfl, rfl⟩) ?_))
    rw [hworker]
    exact Emits.right hkeys (Emits.right (hreq _ _) (emits_withCleanup.mpr he))
  · unfold runEncryptedWasm
    rw [htraced, hready.cReq, bind_of_some (hreq _ _).1, (hreq _ _).2, bind_of_some htrace.1,
      htrace.2, bind_of_some (value_get s), state_get, hworker, bind_of_some hkeys.1,
      bind_of_some (hreq _ _).1, (hreq _ _).2]
    rfl

/-- A part that gives the plaintext of the input has opened it. -/
theorem emits_decryptInput (hne : args.encryptedInput ≠ []) {aad : Bytes} {kReq : Block 32}
    {s s' : RunState} {input : Option Bytes}
    (h : Gives (decryptInput kind S env args aad kReq) s input s') :
    Emits (decryptInput kind S env args aad kReq) s
      (.gcmDecrypt (kReq.first 16) args.inputIv aad args.encryptedInput args.inputMac input) := by
  unfold decryptInput at h ⊢
  rw [if_neg hne] at h ⊢
  obtain ⟨_, s₁, hmalloc, h⟩ := gives_bind.mp h
  obtain ⟨_, s₂, hbegin, h⟩ := gives_bind.mp h
  obtain ⟨plaintext, s₃, hopen, h⟩ := gives_bind.mp h
  obtain ⟨_, _, -, h⟩ := gives_bind.mp h
  obtain ⟨data, _, hdata, h⟩ := gives_bind.mp h
  obtain ⟨_, _, -, h⟩ := gives_bind.mp h
  obtain ⟨_, _, -, h⟩ := gives_bind.mp h
  obtain ⟨rfl, -⟩ := gives_pure.mp h
  obtain ⟨rfl, -⟩ := gives_orStop.mp hdata
  have hplaintext : (if env.ok .inputDecrypt then
      S.gcmDecrypt (kReq.first 16) args.inputIv aad args.encryptedInput args.inputMac
      else none) = some data := by
    have hv := hopen.1
    rw [value_gcmOpen] at hv
    exact Option.some.inj hv
  refine Emits.right hmalloc (Emits.right hbegin (Emits.left (Emits.left ?_)))
  rw [emits_emit, hplaintext]

/-- An opened request whose input is not empty has it opened. -/
theorem emits_openRequest (hne : args.encryptedInput ≠ []) {fid : CStr} {aad : AadValues}
    {label : Block 32} {hit : Option Bytes} {s s' : RunState} {m : Admitted}
    (h : Gives (openRequest kind S B env args fid aad label hit) s m s') :
    Emits (openRequest kind S B env args fid aad label hit) s
      (.gcmDecrypt (m.kReq.first 16) args.inputIv aad.req args.encryptedInput args.inputMac
        m.input) := by
  unfold openRequest at h ⊢
  obtain ⟨_, s₁, hlabel, h⟩ := gives_bind.mp h
  obtain ⟨kReq, s₂, hkey, h⟩ := gives_bind.mp h
  obtain ⟨wasm, s₃, hload, h⟩ := gives_bind.mp h
  obtain ⟨input, s₄, hinput, h⟩ := gives_bind.mp h
  obtain ⟨_, _, -, h⟩ := gives_bind.mp h
  obtain ⟨rfl, -⟩ := gives_pure.mp h
  exact Emits.right hlabel (Emits.right hkey (Emits.right hload
    (Emits.left (emits_decryptInput hne hinput))))

/-- An admitted request whose input is not empty has it opened under the associated data of the
request. -/
theorem emits_admitRequest (hne : args.encryptedInput ≠ []) {fid : CStr} {s s' : RunState}
    {m : Admitted} (h : Gives (admitRequest kind S B env args fid) s m s') :
    Emits (admitRequest kind S B env args fid) s
      (.gcmDecrypt (m.kReq.first 16) args.inputIv (aadReq S fid args.nonce args.pkU)
        args.encryptedInput args.inputMac m.input) := by
  unfold admitRequest at h ⊢
  obtain ⟨rid, s₁, hrid, h⟩ := gives_bind.mp h
  obtain ⟨aad, s₂, haad, h⟩ := gives_bind.mp h
  obtain ⟨label, s₃, hlabel, h⟩ := gives_bind.mp h
  obtain ⟨s₄, s₅, hget, h⟩ := gives_bind.mp h
  obtain ⟨_, s₆, hkeys, h⟩ := gives_bind.mp h
  have hreq : aad.req = aadReq S fid args.nonce args.pkU := by
    have hv := (gives_orStop.mp haad).1
    simp only [aadValues, Option.bind_eq_bind, Option.bind_eq_some_iff, Option.some.injEq,
      buildAadReq_eq_some_iff] at hv
    obtain ⟨_, -, _, ⟨-, rfl⟩, _, -, rfl⟩ := hv
    rfl
  rw [← hreq]
  exact Emits.right hrid (Emits.right haad (Emits.right hlabel (Emits.right hget
    (Emits.right hkeys (emits_openRequest hne h)))))

/-- **The input of an admitted request is opened** when it is not empty. -/
theorem emits_inputDecryption {c : RunContext} {m : Admitted}
    (h : StartsModule kind S B env args g c m) (hne : args.encryptedInput ≠ []) :
    ∃ plaintext, m.input = some plaintext ∧
      openInput S args (invocationFid g args) m.kReq = some plaintext ∧
      Emits (runEncryptedWasm kind S B env args) (RunState.start g)
        (inputOpened S args (invocationFid g args) m.kReq plaintext) := by
  have hinput := h.admits.input
  unfold requestInput at hinput
  rw [if_neg hne, (runContext_some h.admits.context).2.1] at hinput
  split at hinput
  · obtain ⟨plaintext, hopen, hm⟩ := Option.map_eq_some_iff.mp hinput
    obtain ⟨s, hs, hlogs, -⟩ := runBody_of_ready (S := S) (B := B) h.ready
    refine ⟨plaintext, hm.symm, hopen, hlogs _ ?_⟩
    have hgives : (admitRequest kind S B env args (invocationFid g args) s).value = some m :=
      value_admitRequest_eq_some_iff.mpr ⟨c, hs ▸ h.admits⟩
    have hevent := emits_admitRequest hne ⟨hgives, rfl⟩
    rw [← hm] at hevent
    exact Emits.left hevent
  · exact absurd hinput (by simp)

/-! ## The condition -/

/-- Nothing is opened, and nothing passed on, for an empty input. -/
theorem input_eq_none {c : RunContext} {m : Admitted}
    (h : Admits kind S B env args g (invocationFid g args) c m) (hnil : args.encryptedInput = []) :
    m.input = none := by
  have hinput := h.input
  unfold requestInput at hinput
  rw [if_pos hnil] at hinput
  exact (Option.some.inj hinput).symm

/-- **When the input of an execution is authenticated**: exactly when a call that starts a module
has an input that is not empty and memory for its base64 text. -/
theorem inputAuthenticated_iff (hgcm : S.GcmKeepsLength) :
    InputAuthenticated kind S B env args g ↔
      ∀ c m, StartsModule kind S B env args g c m →
        args.encryptedInput ≠ [] ∧ env.ok .base64Malloc = true := by
  constructor
  · intro hauth c m hstarts
    obtain ⟨kReq, plaintext, hkey, hopen, hevent, harg⟩ :=
      hauth m.wasm _ (executes_iff_startsModule.mpr ⟨c, m, hstarts, rfl, rfl⟩)
    have hne : args.encryptedInput ≠ [] := by
      intro hnil
      rw [inputOpened, hnil] at hevent
      exact (keepsSlots_runEncryptedWasm kind env args).of_emits hevent _ _ _ _ _ rfl
    refine ⟨hne, ?_⟩
    obtain ⟨p, hm, hp, -⟩ := emits_inputDecryption hstarts hne
    have hkReq : m.kReq = kReq := by
      have hk := hstarts.admits.requestKey
      rw [(runContext_some hstarts.admits.context).2.1, hkey] at hk
      exact (Except.ok.inj hk).symm
    obtain rfl : p = plaintext := by
      rw [hkReq, hopen] at hp
      exact (Option.some.inj hp).symm
    rw [hm, Option.bind_some, base64Encode_eq_argumentOf_iff] at harg
    rcases harg with hnil | hmalloc
    · have hlength := hgcm hopen
      rw [hnil] at hlength
      exact absurd (List.length_eq_zero_iff.mp hlength.symm) hne
    · exact hmalloc
  · intro hcond wasm argument hexec
    obtain ⟨c, m, hstarts, -, rfl⟩ := executes_iff_startsModule.mp hexec
    obtain ⟨hne, hmalloc⟩ := hcond c m hstarts
    obtain ⟨p, hm, hopen, hevent⟩ := emits_inputDecryption hstarts hne
    have hkey := hstarts.admits.requestKey
    rw [(runContext_some hstarts.admits.context).2.1] at hkey
    refine ⟨m.kReq, p, hkey, hopen, hevent, ?_⟩
    rw [hm, hmalloc]
    exact base64Encode_true p

/-! ## A request with and without an input -/

/-- Nothing fails, and the module returns at once. -/
def sampleRunEnv : RunEnv where
  ok _ := true
  tsc _ := (0, 0)
  ridStack := Block.fill 32 0
  behindPackage := Block.fill 4 0
  wasmDecryptStatus := 0
  resultIv := Block.fill 12 0
  kemKeyPair := none
  load _ := .ok ()
  start _ := []
  instantiate _ := .ok ()
  guest _ _ := ⟨[], true⟩

/-- The worker after a load of both keys for the FID `f`. -/
def loadedWorker : Globals :=
  (ecallDecryptKeysBatch Sgx.sample ⟨true, true⟩ ⟨true, true⟩ (sampleKeyBlob 0)
    (sampleKeyBlob 0) (CStr.lit "f") Globals.initial).state

/-- A session key of ones, encrypted to the public key of zeros. -/
def sampleKeyCiphertext : Bytes :=
  let secret := Sgx.sample.sha256 ((Block.fill 32 0).toList ++ ascii "ECC-IBE-ENC")
  let (ciphertext, tag) :=
    Sgx.sample.gcmEncrypt (secret.first 16) (Block.fill 12 0) [] (List.replicate 32 1)
  [4] ++ List.replicate 64 0 ++ List.replicate 12 0 ++ tag.toList ++ ciphertext

/-- A request for an FID: a package of one byte, and an input with its tag. -/
def sampleRunArgs (fid : CStr) (input : Bytes) (inputMac : Block 16) : RunArgs where
  encryptedWasm := [7]
  encryptedInput := input
  cKFunc := sampleKeyCiphertext
  cKey := sampleKeyCiphertext
  nonce := Block.fill 16 0
  pkU := Block.fill 65 4
  maxOutSize := 4
  wasmIv := Block.fill 12 0
  wasmMac := (Sgx.sample.gcmEncrypt (Block.fill 16 1) (Block.fill 12 0) (aadPkg fid) [7]).2
  inputIv := Block.fill 12 0
  inputMac := inputMac
  invokeTrace := true

/-- The tag of an input for this request. -/
def sampleInputMac (fid : CStr) (input : Bytes) : Block 16 :=
  (Sgx.sample.gcmEncrypt (Block.fill 16 1) (Block.fill 12 0)
    (aadReq Sgx.sample fid (Block.fill 16 0) (Block.fill 65 4)) input).2

/-- A request for the FID `f` with one byte of input. -/
def sampleRequest : RunArgs :=
  sampleRunArgs (CStr.lit "f") [5] (sampleInputMac (CStr.lit "f") [5])

/-- The same request without an input, and with a tag of zeros. -/
def emptyRequest : RunArgs := sampleRunArgs (CStr.lit "f") [] (Block.fill 16 0)

/-- A request whose input has the right tag executes on its plaintext, authenticated. -/
theorem sampleRequest_authenticated :
    Executes .kem Sgx.sample Bfibe.sample sampleRunEnv sampleRequest loadedWorker [7]
        (some (base64Chars [5])) ∧
      InputAuthenticated .kem Sgx.sample Bfibe.sample sampleRunEnv sampleRequest
        loadedWorker := by
  refine ⟨?_, (inputAuthenticated_iff Sgx.sample_gcmKeepsLength).mpr fun _ _ _ => ⟨?_, rfl⟩⟩
  · show _ ∈ (runEncryptedWasm _ _ _ _ _ _).log
    decide +kernel
  · simp [sampleRequest, sampleRunArgs]

/-- The same request with no input, and any tag, executes without an argument: whoever sends it
chooses nonce and client key, and nothing was opened. -/
theorem emptyRequest_not_authenticated :
    Executes .legacy Sgx.sample Bfibe.sample sampleRunEnv emptyRequest loadedWorker [7] none ∧
      ¬ InputAuthenticated .legacy Sgx.sample Bfibe.sample sampleRunEnv emptyRequest
        loadedWorker := by
  have hexec : Executes .legacy Sgx.sample Bfibe.sample sampleRunEnv emptyRequest loadedWorker
      [7] none := by
    show _ ∈ (runEncryptedWasm _ _ _ _ _ _).log
    decide +kernel
  refine ⟨hexec, fun hauth => ?_⟩
  obtain ⟨kReq, plaintext, -, -, hevent, -⟩ := hauth _ _ hexec
  exact (keepsSlots_runEncryptedWasm _ _ _).of_emits hevent _ _ _ _ _ rfl

end Worker
end AsynCS
