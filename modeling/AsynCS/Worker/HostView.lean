import AsynCS.Lib.Coupled
import AsynCS.Worker.RunSpec

/-!
# What the host sees of a run

The host sees the OCALLs of a run, whether it completed, and its outputs.  Two runs on the same
arguments, of workers that differ in key bytes, look the same to it when the keys decide the same:
`DecKey` fails alike, and what is opened is the same.

* `Event.isVisible`: the host sees OCALLs, and no AES-GCM operation.
* `SameButKeys`: globals that agree up to key bytes.
* `runDecisions`: what the keys decide in a run.
* `steady_*`: the parts of a run that read no key.
* `coupled_*`: the parts that do.
* `coupled_runEncryptedWasm`: a whole run, unless it shows the key of the worker.
-/

namespace AsynCS
namespace Worker

open Proc

variable {S : Sgx} {B : Bfibe} {env : RunEnv} {args : RunArgs} {kind : RunKind}
  {view : Event → Bool}

/-! ## Views -/

/-- The event is an OCALL. -/
def Event.isVisible : Event → Bool
  | .ocallPrint _ => true
  | .ocallWritev _ _ => true
  | .gcmDecrypt _ _ _ _ _ _ => false
  | .gcmEncrypt _ _ _ _ => false
  | .executeMain _ _ => false

/-- An observer of prints, at most, sees no AES-GCM operation. -/
structure HidesKeys (view : Event → Bool) : Prop where
  gcmDecrypt : ∀ key iv aad ciphertext tag plaintext,
    view (.gcmDecrypt key iv aad ciphertext tag plaintext) = false
  gcmEncrypt : ∀ key iv aad plaintext, view (.gcmEncrypt key iv aad plaintext) = false

theorem hidesKeys_isVisible : HidesKeys Event.isVisible :=
  ⟨fun _ _ _ _ _ _ => rfl, fun _ _ _ _ => rfl⟩

/-- The outputs of a run without the result that the legacy run encrypts under the session key of
its request. -/
def RunOut.masked (kind : RunKind) (o : RunOut) : RunOut :=
  match kind with
  | .legacy => { o with encryptedResult := [], resultTag := Block.fill 16 0 }
  | .kem => o

/-- Two globals that agree up to key bytes. -/
structure SameButKeys (g g' : Globals) : Prop where
  keypairReady : g.keypairReady = g'.keypairReady
  workerFid : g.ecc.workerFid = g'.ecc.workerFid
  keyLoaded : g.ecc.keyLoaded = g'.ecc.keyLoaded
  dklabelFromKms : g.ecc.dklabelFromKms = g'.ecc.dklabelFromKms
  bfibeFid : g.bfibe.fid = g'.bfibe.fid
  bfibeLoaded : g.bfibe.keyLoaded = g'.bfibe.keyLoaded
  cache : g.cache = g'.cache
  labelValid : g.dklabelFuncValid = g'.dklabelFuncValid

namespace SameButKeys

variable {g g' : Globals}

theorem setDklabelFunc (h : SameButKeys g g') (key key' : Block 32) :
    SameButKeys (g.setDklabelFunc key) (g'.setDklabelFunc key') :=
  ⟨h.keypairReady, h.workerFid, h.keyLoaded, h.dklabelFromKms, h.bfibeFid, h.bfibeLoaded, h.cache,
    rfl⟩

theorem zeroizeLabelKey (h : SameButKeys g g') :
    SameButKeys g.zeroizeLabelKey g'.zeroizeLabelKey := by
  unfold Globals.zeroizeLabelKey
  rw [← h.labelValid]
  split
  · exact ⟨h.keypairReady, h.workerFid, h.keyLoaded, h.dklabelFromKms, h.bfibeFid, h.bfibeLoaded,
      h.cache, rfl⟩
  · exact h

theorem functionCacheLookup (h : SameButKeys g g') (fid : CStr) (label : Block 32) :
    g.functionCacheLookup fid label = g'.functionCacheLookup fid label := by
  rw [Globals.functionCacheLookup, Globals.functionCacheLookup, h.cache]

theorem functionCacheStore (h : SameButKeys g g') (malloc : Bool) (fid : CStr) (label : Block 32)
    (wasm : Bytes) :
    SameButKeys (g.functionCacheStore malloc fid label wasm).1
      (g'.functionCacheStore malloc fid label wasm).1 := by
  unfold Globals.functionCacheStore
  split
  · exact ⟨h.keypairReady, h.workerFid, h.keyLoaded, h.dklabelFromKms, h.bfibeFid, h.bfibeLoaded,
      rfl, h.labelValid⟩
  · exact h

theorem invocationFid (h : SameButKeys g g') (args : RunArgs) :
    invocationFid g args = invocationFid g' args := by
  rw [Worker.invocationFid, Worker.invocationFid, h.bfibeFid, h.workerFid]

end SameButKeys

/-! ## What the keys decide -/

/-- The session key of the package, with the label key that the run prepares. -/
def functionKeyOf (S : Sgx) (B : Bfibe) (env : RunEnv) (args : RunArgs) (g : Globals)
    (label : Block 32) (aadPkg : Bytes) : Except (List String) (Block 32) :=
  match labelKey S env args g.ecc label with
  | some key => functionKey S B env (g.setDklabelFunc key) args aadPkg
  | none => .error []

/-- A key, or the texts of a failure, without the key. -/
def eraseKey (key : Except (List String) (Block 32)) : Except (List String) Unit :=
  key.map fun _ => ()

/-- What the keys decide in a run: whether the session keys are opened, and what they open. -/
structure RunDecisions where
  request : Except (List String) Unit
  input : Option (Option Bytes)
  function : Except (List String) Unit
  module : Option Bytes
  deriving DecidableEq

/-- The decisions of a run with this context. -/
def runDecisions (S : Sgx) (B : Bfibe) (env : RunEnv) (args : RunArgs) (g : Globals) (fid : CStr)
    (c : RunContext) : RunDecisions where
  request := eraseKey (requestKey S B env g args c.aad.req)
  input := (requestKey S B env g args c.aad.req).toOption.bind
    (requestInput S env args c.aad.req)
  function :=
    if (g.functionCacheLookup fid c.label).isSome then .ok ()
    else eraseKey (functionKeyOf S B env args g c.label c.aad.pkg)
  module := moduleOf S B env args g fid c.label c.aad.pkg

/-- Two states of the two runs. -/
structure RunPair (g g' : Globals) (s t : RunState) : Prop where
  out : s.out = t.out
  same : SameButKeys s.worker t.worker
  ecc : s.worker.ecc = g.ecc
  ecc' : t.worker.ecc = g'.ecc
  bfibe : s.worker.bfibe = g.bfibe
  bfibe' : t.worker.bfibe = g'.bfibe

/-- The two runs write the same to their outputs. -/
def KeepsOutputs (R : RunState → RunState → Prop) : Prop :=
  ∀ (f : RunOut → RunOut) {s t : RunState}, R s t → R (s.mapOut f) (t.mapOut f)

theorem RunPair.keepsOutputs (g g' : Globals) : KeepsOutputs (RunPair g g') :=
  fun f _ _ h => ⟨congrArg f h.out, h.same, h.ecc, h.ecc', h.bfibe, h.bfibe'⟩

/-! ## The parts that read no key -/

section Steady

variable {σ : Type} {Q : σ → σ → Prop} {R : RunState → RunState → Prop}

theorem steady_print (message : Bytes) : Steady view Q (enclavePrint message) :=
  Steady.emit _

theorem steady_printLit (message : String) : Steady view Q (enclavePrintLit message) :=
  Steady.emit _

theorem steady_printAll (texts : List String) : Steady view Q (printAll texts) := by
  induction texts with
  | nil => exact Steady.pure ()
  | cons text texts ih => exact (steady_printLit text).bind fun _ => ih

theorem steady_emitOcalls (events : List Event) :
    Steady view R (emitOcalls events) := by
  induction events with
  | nil => exact Steady.pure ()
  | cons e events ih => exact (Steady.emit e).bind fun _ => ih

theorem steady_whenLegacy {p : Proc Event RunState Unit} (hp : Steady view R p) :
    Steady view R (whenLegacy kind p) := by
  cases kind with
  | legacy => exact hp
  | kem => exact Steady.pure ()

theorem steady_mapOut (hR : KeepsOutputs R) (f : RunOut → RunOut) :
    Steady view R (modify (RunState.mapOut f) : Proc Event RunState Unit) :=
  Steady.modify (hR f)

theorem steady_trace (hR : KeepsOutputs R) (f : InvokeTrace → InvokeTrace) :
    Steady view R (trace kind f) := by
  cases kind with
  | legacy => exact Steady.pure ()
  | kem => exact steady_mapOut hR _

theorem steady_printHexPrefixed (text : String) (data : Bytes) :
    Steady view R (printHexPrefixed text data) :=
  (steady_printLit _).bind fun _ => (Steady.forM fun _ => steady_print _).bind fun _ =>
    steady_printLit _

theorem steady_requireLoadedKeys (g : Globals) (args : RunArgs) :
    Steady view R (requireLoadedKeys g args) :=
  (Steady.require (steady_printLit _)).bind fun _ => Steady.require (steady_printLit _)

theorem steady_computeRid (hR : KeepsOutputs R) (fid : CStr) :
    Steady view R (computeRid kind S env args fid) := by
  unfold computeRid
  split
  · exact (steady_whenLegacy (steady_printHexPrefixed _ _)).bind fun _ =>
      (steady_trace hR _).bind fun _ => Steady.pure _
  · refine (steady_printLit _).bind fun _ => ?_
    cases kind with
    | legacy => exact Steady.pure _
    | kem => exact Steady.stop

theorem steady_recordPayload (hR : KeepsOutputs R) (input hit : Option Bytes) (wasm : Bytes) :
    Steady view R (recordPayload kind S env args input hit wasm) := by
  cases kind with
  | legacy =>
    refine Steady.bind ?_ fun _ => steady_print _
    unfold traceE3PayloadConsumed
    split
    · exact steady_print _
    · exact steady_printLit _
  | kem =>
    exact ((Steady.orStop (steady_printLit _)).bind fun _ => steady_trace hR _).bind fun _ =>
      (steady_trace hR _).bind fun _ => Steady.ite (steady_trace hR _) (steady_trace hR _)

theorem steady_executeModule (hR : KeepsOutputs R) (wasm : Bytes) (input : Option Bytes) :
    Steady view R (executeModule kind env args wasm input) := by
  have hruntime : ∀ {r : Except CStr Unit} {onFail : CStr → Proc Event RunState Unit},
      (∀ text, Steady view R (onFail text)) →
        Steady view R (orRuntimeError r onFail) := by
    intro r onFail h
    cases r with
    | ok u => exact Steady.pure ()
    | error text => exact (h text).bind fun _ => Steady.stop
  have hstart : Steady view R (startModule kind env wasm) :=
    (Steady.require (steady_printAll _)).bind fun _ =>
      (Steady.require (steady_printAll _)).bind fun _ => (steady_trace hR _).bind fun _ =>
        (hruntime fun _ => (steady_printLit _).bind fun _ => steady_print _).bind fun _ =>
          (steady_trace hR _).bind fun _ => (steady_trace hR _).bind fun _ =>
            (steady_trace hR _).bind fun _ => (steady_emitOcalls _).bind fun _ =>
              (hruntime fun _ => (steady_printLit _).bind fun _ => (steady_print _).bind fun _ =>
                steady_printLit _).bind fun _ => (steady_trace hR _).bind fun _ =>
                  (steady_trace hR _).bind fun _ => Steady.require (steady_printLit _)
  exact (Steady.require (steady_printLit _)).bind fun _ => hstart.bind fun _ =>
    (Steady.emit _).bind fun _ => (steady_emitOcalls _).bind fun _ =>
      (Steady.onlyIf (steady_printLit _)).bind fun _ => (Steady.require (steady_printLit _)).bind
        fun _ => (Steady.require (Steady.pure ())).bind fun _ => Steady.pure _

/-- The key that seals the output of a `kem` run is none of the worker. -/
theorem steady_sealResultKem (hR : KeepsOutputs R) (aadOut : Bytes)
    (final : ExecState args.maxOutSize) :
    Steady view R (sealResultKem S env args aadOut final) := by
  have hencap : Steady view R (ecallKemEncap S env args.pkU) :=
    (Steady.require (steady_printLit _)).bind fun _ => (Steady.require (steady_printLit _)).bind
      fun _ => (Steady.orStop (steady_printLit _)).bind fun _ =>
        (Steady.orStop (steady_printLit _)).bind fun _ => (steady_mapOut hR _).bind fun _ =>
          Steady.orStop (steady_printLit _)
  have hseal : ∀ key output failed,
      Steady view R (sealOutput S env key aadOut output failed) := fun _ _ _ =>
    (steady_mapOut hR _).bind fun _ => (Steady.emit _).bind fun _ =>
      (Steady.require (steady_printLit _)).bind fun _ => steady_mapOut hR _
  exact (Steady.orStop (steady_printLit _)).bind fun _ => (steady_trace hR _).bind fun _ =>
    (steady_trace hR _).bind fun _ => (steady_trace hR _).bind fun _ => hencap.attempt.bind fun _ =>
      (Steady.orStop (steady_printLit _)).bind fun _ => (steady_trace hR _).bind fun _ =>
        (steady_trace hR _).bind fun _ => (steady_trace hR _).bind fun _ =>
          (Steady.require (steady_printLit _)).bind fun _ => (hseal _ _ _).bind fun _ =>
            (steady_trace hR _).bind fun _ => (steady_trace hR _).bind fun _ =>
              (steady_trace hR _).bind fun _ => (steady_mapOut hR _).bind fun _ =>
                steady_trace hR _

end Steady

/-! ## The parts that read keys -/

section Keyed

variable {g g' : Globals} {fid : CStr} {c : RunContext}

/-- Two helpers give values that agree in this part, or fail with the same texts. -/
theorem coupled_orReport {σ α γ : Type} {Q : σ → σ → Prop} {r r' : Except (List String) α}
    (part part' : α → γ) (hsame : r.map part = r'.map part') :
    Coupled view Q (orReport r) (orReport r')
      (fun a a' s t => (r = .ok a ∧ r' = .ok a' ∧ part a = part' a') ∧ Q s t) Q := by
  cases r with
  | ok a =>
    cases r' with
    | ok a' => exact Coupled.pure fun h => ⟨⟨rfl, rfl, Except.ok.inj hsame⟩, h⟩
    | error texts => exact absurd hsame (by simp [Except.map])
  | error texts =>
    cases r' with
    | ok a' => exact absurd hsame (by simp [Except.map])
    | error texts' =>
      obtain rfl : texts = texts' := by simpa [Except.map] using hsame
      exact (steady_printAll _).bind_coupled fun _ => Coupled.stop fun h => h

/-- `DecKey` gives two keys, or fails with the same texts. -/
theorem coupled_orDecKeyFailed {R : RunState → RunState → Prop} (name : String)
    {key key' : Except (List String) (Block 32)} (hsame : eraseKey key = eraseKey key') :
    Coupled view R (orDecKeyFailed name key) (orDecKeyFailed name key')
      (fun k k' s t => (key = .ok k ∧ key' = .ok k') ∧ R s t) R := by
  have hfailed : ∀ {r : Except (List String) (Block 32)} {k : Block 32},
      (r.mapError fun texts => texts ++ ["Error: DecKey(" ++ name ++ ") failed.\n"]) = .ok k →
        r = .ok k := by
    intro r k h
    cases r with
    | ok k' => exact h
    | error texts => exact absurd h (by simp [Except.mapError])
  have herased : ((key.mapError fun texts =>
        texts ++ ["Error: DecKey(" ++ name ++ ") failed.\n"]).map fun _ => ()) =
      (key'.mapError fun texts =>
        texts ++ ["Error: DecKey(" ++ name ++ ") failed.\n"]).map fun _ => () := by
    unfold eraseKey at hsame
    cases key <;> cases key' <;> simp_all [Except.map, Except.mapError]
  exact (coupled_orReport (fun _ => ()) (fun _ => ()) herased).mono (fun h => h)
    (fun h => ⟨⟨hfailed h.1.1, hfailed h.1.2.1⟩, h.2⟩) fun h => h

/-- Two keys open the same. -/
theorem coupled_gcmOpen (hview : HidesKeys view) {R : RunState → RunState → Prop} {ok : Bool}
    {key key' : Block 32} {iv : Block 12} {aad ciphertext : Bytes} {tag : Block 16}
    (hsame : ok = true → S.gcmDecrypt (key.first 16) iv aad ciphertext tag =
      S.gcmDecrypt (key'.first 16) iv aad ciphertext tag) :
    Coupled view R (gcmOpen S ok key iv aad ciphertext tag)
      (gcmOpen S ok key' iv aad ciphertext tag) (fun o o' s t => o = o' ∧ R s t) R := by
  have hopen : (if ok then S.gcmDecrypt (key.first 16) iv aad ciphertext tag else none) =
      (if ok then S.gcmDecrypt (key'.first 16) iv aad ciphertext tag else none) := by
    cases ok with
    | true => exact hsame rfl
    | false => rfl
  refine (Coupled.emit_hidden (hview.gcmDecrypt _ _ _ _ _ _) (hview.gcmDecrypt _ _ _ _ _ _)).bind
    fun _ _ => ?_
  rw [hopen]
  exact Coupled.pure fun h => ⟨rfl, h⟩

/-- The label key that a run prepares. -/
structure Prepared (S : Sgx) (env : RunEnv) (args : RunArgs) (label : Block 32) (g g' : Globals)
    (s t : RunState) : Prop where
  pair : RunPair g g' s t
  prepared : labelKey S env args g.ecc label = some s.worker.dklabelFunc
  prepared' : labelKey S env args g'.ecc label = some t.worker.dklabelFunc

theorem Prepared.keepsOutputs (label : Block 32) (g g' : Globals) :
    KeepsOutputs (Prepared S env args label g g') :=
  fun f _ _ h => ⟨RunPair.keepsOutputs g g' f h.pair, h.prepared, h.prepared'⟩

theorem RunPair.setDklabelFunc {s t : RunState} (h : RunPair g g' s t) (key key' : Block 32) :
    RunPair g g' (s.mapWorker (Globals.setDklabelFunc key))
      (t.mapWorker (Globals.setDklabelFunc key')) :=
  ⟨h.out, h.same.setDklabelFunc key key', h.ecc, h.ecc', h.bfibe, h.bfibe'⟩

theorem ecc_zeroizeLabelKey (g : Globals) : g.zeroizeLabelKey.ecc = g.ecc := by
  unfold Globals.zeroizeLabelKey
  split <;> rfl

theorem bfibe_zeroizeLabelKey (g : Globals) : g.zeroizeLabelKey.bfibe = g.bfibe := by
  unfold Globals.zeroizeLabelKey
  split <;> rfl

theorem RunPair.zeroizeLabelKey {s t : RunState} (h : RunPair g g' s t) :
    RunPair g g' (s.mapWorker Globals.zeroizeLabelKey)
      (t.mapWorker Globals.zeroizeLabelKey) :=
  ⟨h.out, h.same.zeroizeLabelKey, (ecc_zeroizeLabelKey _).trans h.ecc,
    (ecc_zeroizeLabelKey _).trans h.ecc', (bfibe_zeroizeLabelKey _).trans h.bfibe,
    (bfibe_zeroizeLabelKey _).trans h.bfibe'⟩

theorem isSome_deriveDklabelfunc (S : Sgx) (env : RunEnv) (dkf dkf' label : Block 32) :
    (deriveDklabelfunc S env dkf label).isSome = (deriveDklabelfunc S env dkf' label).isSome := by
  unfold deriveDklabelfunc sha256Concat Sgx.sha256Msg
  cases env.ok .dklabelMalloc <;> cases env.ok .dklabelHash <;>
    cases env.ok .dklabelDomainMalloc <;> cases env.ok .dklabelDomainHash <;> rfl

/-- **The label key** is prepared in both runs, or in neither. -/
theorem coupled_prepareLabelKey (label : Block 32) :
    Coupled view (RunPair g g') (prepareLabelKey S env args label)
      (prepareLabelKey S env args label) (fun _ _ => Prepared S env args label g g')
      (RunPair g g') := by
  have hset : ∀ key key', labelKey S env args g.ecc label = some key →
      labelKey S env args g'.ecc label = some key' →
      Coupled view (RunPair g g')
        (modify (RunState.mapWorker (Globals.setDklabelFunc key)) : Proc Event RunState Unit)
        (modify (RunState.mapWorker (Globals.setDklabelFunc key')))
        (fun _ _ => Prepared S env args label g g') (RunPair g g') :=
    fun key key' hkey hkey' => Coupled.modify fun h => ⟨h.setDklabelFunc key key', hkey, hkey'⟩
  refine Coupled.get_bind fun {s t} h => ?_
  have hflag : g'.ecc.dklabelFromKms = g.ecc.dklabelFromKms := by
    rw [← h.ecc, ← h.ecc']
    exact h.same.dklabelFromKms.symm
  simp only [h.ecc, h.ecc', hflag]
  unfold labelKey at hset
  rw [hflag] at hset
  by_cases hbfibe : args.useBfibeKeys = true
  · rw [if_pos hbfibe]
    simp only [if_pos hbfibe] at hset ⊢
    exact hset _ _ rfl rfl
  · simp only [if_neg hbfibe] at hset ⊢
    by_cases hkms : g.ecc.dklabelFromKms = true
    · simp only [if_pos hkms] at hset ⊢
      exact (steady_printLit _).bind_coupled fun _ => hset _ _ rfl rfl
    · simp only [if_neg hkms] at hset ⊢
      refine (steady_printLit _).bind_coupled fun _ => ?_
      have hderive : Coupled view (RunPair g g')
          (orStop (deriveDklabelfunc S env g.ecc.workerKey label)
            (enclavePrintLit "Error: Failed to derive dklabelfunc.\n"))
          (orStop (deriveDklabelfunc S env g'.ecc.workerKey label)
            (enclavePrintLit "Error: Failed to derive dklabelfunc.\n"))
          (fun key key' s t => (deriveDklabelfunc S env g.ecc.workerKey label = some key ∧
            deriveDklabelfunc S env g'.ecc.workerKey label = some key') ∧ RunPair g g' s t)
          (RunPair g g') :=
        Coupled.orStop (isSome_deriveDklabelfunc S env _ _ label)
          (fun key key' hkey hkey' _ _ h => ⟨⟨hkey, hkey'⟩, h⟩)
          ((steady_printLit _).mono (fun h => h) And.right fun h => h)
      refine hderive.bind fun key key' => ?_
      exact Coupled.of_fact And.left fun hkeys =>
        (hset key key' hkeys.1 hkeys.2).mono And.right (fun h => h) fun h => h

theorem requestKey_congr {w : Globals} (hecc : w.ecc = g.ecc) (hbfibe : w.bfibe = g.bfibe)
    (aadReq : Bytes) : requestKey S B env w args aadReq = requestKey S B env g args aadReq := by
  rw [requestKey, requestKey, hecc, hbfibe]

/-- **The session key of the request.** -/
theorem coupled_decapRequestKey {R : RunState → RunState → Prop} (hR : KeepsOutputs R)
    (hpair : ∀ {s t}, R s t → RunPair g g' s t) {aadReq : Bytes}
    (hsame : eraseKey (requestKey S B env g args aadReq) =
      eraseKey (requestKey S B env g' args aadReq)) :
    Coupled view R (decapRequestKey kind S B env args aadReq)
      (decapRequestKey kind S B env args aadReq)
      (fun k k' s t => (requestKey S B env g args aadReq = .ok k ∧
        requestKey S B env g' args aadReq = .ok k') ∧ R s t) R := by
  refine (steady_trace hR _).bind_coupled fun _ => Coupled.get_bind fun {s t} h => ?_
  rw [requestKey_congr (hpair h).ecc (hpair h).bfibe,
    requestKey_congr (hpair h).ecc' (hpair h).bfibe']
  refine (coupled_orDecKeyFailed "C_key" hsame).bind fun k k' => Coupled.of_fact And.left
    fun hkeys => Coupled.mono ?_ And.right (fun h => h) fun h => h
  exact (steady_trace hR _).bind_coupled fun _ => (steady_trace hR _).bind_coupled fun _ =>
    Coupled.pure fun h => ⟨hkeys, h⟩

/-- **The session key of the package**, after which the label keys are wiped. -/
theorem coupled_decapFunctionKey {label : Block 32} {aadPkg : Bytes}
    (hsame : eraseKey (functionKeyOf S B env args g label aadPkg) =
      eraseKey (functionKeyOf S B env args g' label aadPkg)) :
    Coupled view (Prepared S env args label g g')
      (decapFunctionKey kind S B env args aadPkg) (decapFunctionKey kind S B env args aadPkg)
      (fun k k' s t => (functionKeyOf S B env args g label aadPkg = .ok k ∧
        functionKeyOf S B env args g' label aadPkg = .ok k') ∧ RunPair g g' s t)
      (RunPair g g') := by
  have hR : KeepsOutputs (Prepared S env args label g g') := Prepared.keepsOutputs label g g'
  have hkey : ∀ {w x : Globals}, labelKey S env args x.ecc label = some w.dklabelFunc →
      w.bfibe = x.bfibe →
      functionKey S B env w args aadPkg = functionKeyOf S B env args x label aadPkg := by
    intro w x hlabel hbfibe
    rw [functionKeyOf, hlabel]
    show _ = functionKey S B env (x.setDklabelFunc w.dklabelFunc) args aadPkg
    rw [functionKey, functionKey, hbfibe]
    rfl
  -- nothing stops behind the wiping
  suffices h : Coupled view (Prepared S env args label g g')
      (decapFunctionKey kind S B env args aadPkg) (decapFunctionKey kind S B env args aadPkg)
      (fun k k' s t => (functionKeyOf S B env args g label aadPkg = .ok k ∧
        functionKeyOf S B env args g' label aadPkg = .ok k') ∧ RunPair g g' s t)
      (Prepared S env args label g g') from h.mono (fun h => h) (fun h => h) fun h => h.pair
  refine (steady_trace hR _).bind_coupled fun _ => Coupled.get_bind fun {s t} h => ?_
  rw [hkey h.prepared h.pair.bfibe, hkey h.prepared' h.pair.bfibe']
  refine (coupled_orDecKeyFailed "C_k_func" hsame).bind fun k k' => Coupled.of_fact And.left
    fun hkeys => Coupled.mono ?_ And.right (fun h => h) fun h => h
  refine (steady_trace hR _).bind_coupled fun _ => (steady_trace hR _).bind_coupled fun _ => ?_
  exact (Coupled.modify fun h => h.pair.zeroizeLabelKey).bind fun _ _ =>
    Coupled.pure fun h => ⟨hkeys, h⟩

/-- The debug output of a legacy run shows the observer the same of both keys, if it shows them. -/
def ShowsAlike (view : Event → Bool) (kind : RunKind) (args : RunArgs) (g g' : Globals) : Prop :=
  kind = .legacy → args.useBfibeKeys = false →
    (∀ message, view (.ocallPrint message) = false) ∨
      g.ecc.workerKey.toList.take 4 = g'.ecc.workerKey.toList.take 4

theorem coupled_printDebugDecryption (hshown : ShowsAlike view kind args g g') :
    Coupled view (RunPair g g') (whenLegacy kind (printDebugDecryption env args))
      (whenLegacy kind (printDebugDecryption env args)) (fun _ _ => RunPair g g')
      (RunPair g g') := by
  cases kind with
  | kem => exact Coupled.pure fun h => h
  | legacy =>
    have hline : ∀ name data, Steady view (RunPair g g') (printDebugBytes name data) :=
      fun _ _ => steady_print _
    have hrest : Steady view (RunPair g g') (do
        printDebugBytes "IV: " args.wasmIv.toList
        printDebugBytes "Tag: " args.wasmMac.toList
        printDebugBytes "CT: " (args.encryptedWasm ++ env.behindPackage.toList)) :=
      (hline _ _).bind fun _ => (hline _ _).bind fun _ => hline _ _
    refine (steady_printLit _).bind_coupled fun _ => Coupled.get_bind fun {s t} h => ?_
    suffices hkey : Coupled view (RunPair g g')
        (onlyIf (!args.useBfibeKeys) (printDebugBytes "Key: " s.worker.ecc.workerKey.toList))
        (onlyIf (!args.useBfibeKeys) (printDebugBytes "Key: " t.worker.ecc.workerKey.toList))
        (fun _ _ => RunPair g g') (RunPair g g') from
      hkey.bind fun _ _ => hrest.mono (fun h => h) And.right fun h => h
    rw [h.ecc, h.ecc']
    cases hbfibe : args.useBfibeKeys with
    | true => exact Coupled.pure fun h => h
    | false =>
      rcases hshown rfl hbfibe with hhidden | hsame
      · exact Coupled.emit_hidden (hhidden _) (hhidden _)
      · simp only [printDebugBytes, hsame]
        exact Coupled.emit _

/-- **The plaintext of the package.** -/
theorem coupled_decryptFunction (hview : HidesKeys view) {aadPkg : Bytes} {k k' : Block 32}
    (hsame : packagePlaintext S env args aadPkg k = packagePlaintext S env args aadPkg k')
    (hshown : env.ok .wasmMalloc = true → ShowsAlike view kind args g g') :
    Coupled view (RunPair g g') (decryptFunction kind S env args aadPkg k)
      (decryptFunction kind S env args aadPkg k') (fun w w' s t => w = w' ∧ RunPair g g' s t)
      (RunPair g g') := by
  have hR := RunPair.keepsOutputs g g'
  unfold decryptFunction
  refine Steady.require_bind (steady_printLit _) (fun h => h) fun hmalloc => ?_
  have hopen : env.ok .wasmDecrypt = true →
      S.gcmDecrypt (k.first 16) args.wasmIv aadPkg args.encryptedWasm args.wasmMac =
        S.gcmDecrypt (k'.first 16) args.wasmIv aadPkg args.encryptedWasm args.wasmMac := by
    intro hdecrypt
    rw [packagePlaintext, packagePlaintext, hmalloc, hdecrypt] at hsame
    exact hsame
  refine (coupled_printDebugDecryption (hshown hmalloc)).bind fun _ _ =>
    (steady_trace hR _).bind_coupled fun _ => (coupled_gcmOpen hview hopen).bind fun o o' =>
      Coupled.of_fact And.left fun heq => Coupled.mono ?_ And.right (fun h => h) fun h => h
  rw [heq]
  exact (steady_trace hR _).bind fun _ => (Steady.orStop (steady_print _)).bind fun _ =>
    (steady_trace hR _).bind fun _ => (steady_whenLegacy (steady_printLit _)).bind fun _ =>
      Steady.pure _

/-- **The plaintext of the request.** -/
theorem coupled_decryptInput (hview : HidesKeys view) {aadReq : Bytes} {k k' : Block 32}
    (hsame : requestInput S env args aadReq k = requestInput S env args aadReq k') :
    Coupled view (RunPair g g') (decryptInput kind S env args aadReq k)
      (decryptInput kind S env args aadReq k') (fun i i' s t => i = i' ∧ RunPair g g' s t)
      (RunPair g g') := by
  have hR := RunPair.keepsOutputs g g'
  unfold decryptInput
  split
  · exact Coupled.pure fun h => ⟨rfl, h⟩
  · rename_i hne
    refine Steady.require_bind (steady_printLit _) (fun h => h) fun hmalloc => ?_
    have hopen : env.ok .inputDecrypt = true →
        S.gcmDecrypt (k.first 16) args.inputIv aadReq args.encryptedInput args.inputMac =
          S.gcmDecrypt (k'.first 16) args.inputIv aadReq args.encryptedInput args.inputMac := by
      intro hdecrypt
      rw [requestInput, requestInput, if_neg hne, if_neg hne, hmalloc, hdecrypt] at hsame
      exact Option.map_injective (Option.some_injective _) hsame
    refine (steady_trace hR _).bind_coupled fun _ => (coupled_gcmOpen hview hopen).bind fun o o' =>
      Coupled.of_fact And.left fun heq => Coupled.mono ?_ And.right (fun h => h) fun h => h
    rw [heq]
    exact (steady_trace hR _).bind fun _ => (Steady.orStop (steady_printLit _)).bind fun _ =>
      (steady_trace hR _).bind fun _ => (steady_whenLegacy (steady_printLit _)).bind fun _ =>
        Steady.pure _

theorem RunPair.storeFunction {s t : RunState} (h : RunPair g g' s t) (malloc : Bool) (fid : CStr)
    (label : Block 32) (wasm : Bytes) :
    RunPair g g' (s.mapWorker fun w => (w.functionCacheStore malloc fid label wasm).1)
      (t.mapWorker fun w => (w.functionCacheStore malloc fid label wasm).1) := by
  have hkept : ∀ w : Globals, (w.functionCacheStore malloc fid label wasm).1.ecc = w.ecc ∧
      (w.functionCacheStore malloc fid label wasm).1.bfibe = w.bfibe := by
    intro w
    rcases Globals.functionCacheStore_cases w malloc fid label wasm with ⟨_, -, hstore⟩ | hstore
    · rw [hstore]
      exact ⟨rfl, rfl⟩
    · rw [hstore]
      exact ⟨rfl, rfl⟩
  exact ⟨h.out, h.same.functionCacheStore malloc fid label wasm, (hkept _).1.trans h.ecc,
    (hkept _).1.trans h.ecc', (hkept _).2.trans h.bfibe, (hkept _).2.trans h.bfibe'⟩

/-- **The module of a package.** -/
theorem coupled_loadFunction_none (hview : HidesKeys view) {label : Block 32} {aadPkg : Bytes}
    (hsame : eraseKey (functionKeyOf S B env args g label aadPkg) =
      eraseKey (functionKeyOf S B env args g' label aadPkg))
    (hmodule : ∀ k k', functionKeyOf S B env args g label aadPkg = .ok k →
      functionKeyOf S B env args g' label aadPkg = .ok k' →
        packagePlaintext S env args aadPkg k = packagePlaintext S env args aadPkg k')
    (hshown : ∀ k, functionKeyOf S B env args g label aadPkg = .ok k →
      env.ok .wasmMalloc = true → ShowsAlike view kind args g g') :
    Coupled view (Prepared S env args label g g')
      (loadFunction kind S B env args fid label aadPkg none)
      (loadFunction kind S B env args fid label aadPkg none)
      (fun w w' s t => w = w' ∧ RunPair g g' s t) (RunPair g g') := by
  refine (coupled_decapFunctionKey hsame).bind fun k k' => Coupled.of_fact And.left
    fun hkeys => Coupled.mono ?_ And.right (fun h => h) fun h => h
  refine (coupled_decryptFunction hview (hmodule k k' hkeys.1 hkeys.2) (hshown k hkeys.1)).bind
    fun w w' => Coupled.of_fact And.left fun heq =>
      Coupled.mono ?_ And.right (fun h => h) fun h => h
  rw [heq]
  exact (Coupled.modify fun h => h.storeFunction _ fid label w').bind fun _ _ =>
    Coupled.pure fun h => ⟨rfl, h⟩

/-- Two runs come to execute the same module on the same input. -/
structure AdmitsAlike (m m' : Admitted) : Prop where
  aadOut : m.aadOut = m'.aadOut
  wasm : m.wasm = m'.wasm
  input : m.input = m'.input

/-- The module of a package whose session key is opened. -/
theorem moduleOf_of_functionKeyOf {label : Block 32} {aadPkg : Bytes}
    (hmiss : g.functionCacheLookup fid label = none) (hcKFunc : args.cKFunc ≠ []) {k : Block 32}
    (h : functionKeyOf S B env args g label aadPkg = .ok k) :
    moduleOf S B env args g fid label aadPkg = packagePlaintext S env args aadPkg k := by
  unfold functionKeyOf at h
  rw [moduleOf, hmiss]
  simp only [if_neg hcKFunc, packageModule]
  cases hlabel : labelKey S env args g.ecc label with
  | none =>
    rw [hlabel] at h
    exact absurd h (by simp)
  | some key =>
    rw [hlabel] at h
    simp only at h
    rw [Option.bind_eq_bind, Option.bind_some, h]
    rfl

/-- Behind the package: the input, and the record of the payload. -/
theorem coupled_openInput (hview : HidesKeys view) {k k' : Block 32} {aad : AadValues}
    (hit : Option Bytes) (wasm : Bytes)
    (hsame : requestInput S env args aad.req k = requestInput S env args aad.req k') :
    Coupled view (RunPair g g')
      (do
        let input ← decryptInput kind S env args aad.req k
        recordPayload kind S env args input hit wasm
        pure (⟨aad.out, k, wasm, input⟩ : Admitted))
      (do
        let input ← decryptInput kind S env args aad.req k'
        recordPayload kind S env args input hit wasm
        pure (⟨aad.out, k', wasm, input⟩ : Admitted))
      (fun m m' s t => AdmitsAlike m m' ∧ RunPair g g' s t) (RunPair g g') := by
  refine (coupled_decryptInput hview hsame).bind fun i i' => Coupled.of_fact And.left fun heq =>
    Coupled.mono ?_ And.right (fun h => h) fun h => h
  rw [heq]
  exact (steady_recordPayload (RunPair.keepsOutputs g g') _ _ _).bind_coupled fun _ =>
    Coupled.pure fun h => ⟨⟨rfl, rfl, rfl⟩, h⟩

/-- **The package and the request.** -/
theorem coupled_openRequest (hview : HidesKeys view) {hit : Option Bytes}
    (hhit : g.functionCacheLookup fid c.label = hit)
    (hhit' : g'.functionCacheLookup fid c.label = hit) (hcKFunc : hit = none → args.cKFunc ≠ [])
    (hdec : runDecisions S B env args g fid c = runDecisions S B env args g' fid c)
    (hshown : ∀ kReq k, hit = none → requestKey S B env g args c.aad.req = .ok kReq →
      functionKeyOf S B env args g c.label c.aad.pkg = .ok k → env.ok .wasmMalloc = true →
        ShowsAlike view kind args g g') :
    Coupled view (RunPair g g')
      (openRequest kind S B env args fid c.aad c.label hit)
      (openRequest kind S B env args fid c.aad c.label hit)
      (fun m m' s t => AdmitsAlike m m' ∧ RunPair g g' s t) (RunPair g g') := by
  have hrequest := congrArg RunDecisions.request hdec
  have hinput : ∀ k k', requestKey S B env g args c.aad.req = .ok k →
      requestKey S B env g' args c.aad.req = .ok k' →
        requestInput S env args c.aad.req k = requestInput S env args c.aad.req k' := by
    intro k k' hk hk'
    have h := congrArg RunDecisions.input hdec
    simp only [runDecisions, hk, hk', Except.toOption, Option.bind_some] at h
    exact h
  cases hit with
  | some wasm =>
    refine Coupled.bind (Steady.pure ()) fun _ _ => Coupled.mono ?_ And.right (fun h => h)
      fun h => h
    refine (coupled_decapRequestKey (RunPair.keepsOutputs g g') (fun h => h) hrequest).bind
      fun k k' => Coupled.of_fact And.left fun hkeys =>
        Coupled.mono ?_ And.right (fun h => h) fun h => h
    exact (Steady.pure wasm).bind_coupled fun w =>
      coupled_openInput hview _ w (hinput k k' hkeys.1 hkeys.2)
  | none =>
    have hfunction := congrArg RunDecisions.function hdec
    simp only [runDecisions, hhit, hhit', Option.isSome_none, Bool.false_eq_true, if_false]
      at hfunction
    have hmodule : ∀ k k', functionKeyOf S B env args g c.label c.aad.pkg = .ok k →
        functionKeyOf S B env args g' c.label c.aad.pkg = .ok k' →
          packagePlaintext S env args c.aad.pkg k = packagePlaintext S env args c.aad.pkg k' := by
      intro k k' hk hk'
      rw [← moduleOf_of_functionKeyOf hhit (hcKFunc rfl) hk,
        ← moduleOf_of_functionKeyOf hhit' (hcKFunc rfl) hk']
      exact congrArg RunDecisions.module hdec
    refine (coupled_prepareLabelKey c.label).bind fun _ _ => ?_
    refine ((coupled_decapRequestKey (Prepared.keepsOutputs c.label g g') Prepared.pair
      hrequest).mono (fun h => h) (fun h => h) Prepared.pair).bind fun k k' =>
        Coupled.of_fact And.left fun hkeys => Coupled.mono ?_ And.right (fun h => h) fun h => h
    refine (coupled_loadFunction_none hview hfunction hmodule fun kf hkf =>
      hshown k kf rfl hkeys.1 hkf).bind fun w w' => Coupled.of_fact And.left fun heq =>
        Coupled.mono ?_ And.right (fun h => h) fun h => h
    rw [heq]
    exact coupled_openInput hview _ w' (hinput k k' hkeys.1 hkeys.2)

/-! ## A whole run -/

/-- The request gets as far as the decryption of its package. -/
structure OpensPackage (S : Sgx) (B : Bfibe) (env : RunEnv) (args : RunArgs) (g : Globals)
    (fid : CStr) (c : RunContext) : Prop where
  cKey_ne : args.cKey ≠ []
  cKFunc_ne : args.cKFunc ≠ []
  miss : g.functionCacheLookup fid c.label = none
  request : ∃ k, requestKey S B env g args c.aad.req = .ok k
  function : ∃ k, functionKeyOf S B env args g c.label c.aad.pkg = .ok k
  malloc : env.ok .wasmMalloc = true

/-- Two states before the requests are opened. -/
structure Started (g g' : Globals) (s t : RunState) : Prop where
  pair : RunPair g g' s t
  cache : s.worker.cache = g.cache
  cache' : t.worker.cache = g'.cache

theorem Started.keepsOutputs (g g' : Globals) : KeepsOutputs (Started g g') :=
  fun f _ _ h => ⟨RunPair.keepsOutputs g g' f h.pair, h.cache, h.cache'⟩

theorem functionCacheLookup_congr {w : Globals} (hcache : w.cache = g.cache) (fid : CStr)
    (label : Block 32) : w.functionCacheLookup fid label = g.functionCacheLookup fid label := by
  rw [Globals.functionCacheLookup, Globals.functionCacheLookup, hcache]

/-- **The body up to the execution.** -/
theorem coupled_admitRequest (hview : HidesKeys view) (hsame : SameButKeys g g')
    (hdec : ∀ c, runContext kind S env args fid = some c →
      runDecisions S B env args g fid c = runDecisions S B env args g' fid c)
    (hshown : ∀ c, runContext kind S env args fid = some c →
      OpensPackage S B env args g fid c → ShowsAlike view kind args g g') :
    Coupled view (Started g g') (admitRequest kind S B env args fid)
      (admitRequest kind S B env args fid) (fun m m' s t => AdmitsAlike m m' ∧ RunPair g g' s t)
      (RunPair g g') := by
  have hR := Started.keepsOutputs g g'
  refine (steady_computeRid hR fid).bind_of_value
    (fun s rid hrid => (value_computeRid (S := S) kind env args fid s).symm.trans hrid)
    Started.pair fun rid hrid => ?_
  refine Steady.orStop_bind (steady_printLit _) Started.pair fun aad haad => ?_
  refine Steady.orStop_bind (steady_printLit _) Started.pair fun label hlabel => ?_
  have hcontext : runContext kind S env args fid = some ⟨rid, aad, label⟩ := by
    rw [runContext, hrid, Option.bind_eq_bind, Option.bind_some, haad, Option.bind_eq_bind,
      Option.bind_some, hlabel]
    rfl
  refine Coupled.get_bind fun {s t} h => ?_
  rw [functionCacheLookup_congr h.cache, functionCacheLookup_congr h.cache',
    ← hsame.functionCacheLookup]
  refine Steady.require_bind (steady_printLit _) Started.pair fun hkeys => ?_
  have hcKey : args.cKey ≠ [] := bne_iff_ne.mp (Bool.and_eq_true_iff.mp hkeys).1
  have hcKFunc : g.functionCacheLookup fid label = none → args.cKFunc ≠ [] := by
    intro hmiss
    have hright := (Bool.and_eq_true_iff.mp hkeys).2
    rw [hmiss, Option.isSome_none, Bool.false_or] at hright
    exact bne_iff_ne.mp hright
  refine (coupled_openRequest hview (c := ⟨rid, aad, label⟩) rfl
    (hsame.functionCacheLookup fid label).symm hcKFunc (hdec _ hcontext)
    fun kReq k hmiss hkReq hk hmalloc => hshown _ hcontext
      ⟨hcKey, hcKFunc hmiss, hmiss, ⟨kReq, hkReq⟩, ⟨k, hk⟩, hmalloc⟩).mono
    Started.pair (fun h => h) fun h => h

/-- Two states behind a run. -/
structure RunEnds (kind : RunKind) (s t : RunState) : Prop where
  out : s.out.masked kind = t.out.masked kind
  same : SameButKeys s.worker t.worker

theorem RunPair.ends {s t : RunState} (h : RunPair g g' s t) (kind : RunKind) : RunEnds kind s t :=
  ⟨congrArg _ h.out, h.same⟩

/-- The legacy run encrypts the same output under two session keys. -/
theorem coupled_sealResult (hview : HidesKeys view) (aadOut : Bytes) (k k' : Block 32)
    (final : ExecState args.maxOutSize) :
    Coupled view (RunPair g g') (sealResult S env args aadOut k final)
      (sealResult S env args aadOut k' final) (fun _ _ => RunEnds .legacy) (RunPair g g') := by
  have hR := RunPair.keepsOutputs g g'
  have hseal : Coupled view (RunPair g g')
      (sealOutput S env k aadOut final.capture.output "Result encryption failed.\n")
      (sealOutput S env k' aadOut final.capture.output "Result encryption failed.\n")
      (fun _ _ => RunEnds .legacy) (RunPair g g') := by
    refine (steady_mapOut hR _).bind_coupled fun _ =>
      (Coupled.emit_hidden (hview.gcmEncrypt _ _ _ _) (hview.gcmEncrypt _ _ _ _)).bind fun _ _ =>
        Steady.require_bind (steady_printLit _) (fun h => h) fun _ => ?_
    refine Coupled.modify fun {s t} h => ⟨?_, h.same⟩
    show RunOut.masked .legacy { s.out with
        encryptedResult := _
        resultTag := _ } = RunOut.masked .legacy { t.out with
        encryptedResult := _
        resultTag := _ }
    rw [h.out]
    rfl
  have hsize : Coupled view (RunEnds .legacy)
      (modify (RunState.mapOut fun o => { o with resultSize := final.capture.pos }) :
        Proc Event RunState Unit)
      (modify (RunState.mapOut fun o => { o with resultSize := final.capture.pos }))
      (fun _ _ => RunEnds .legacy) (RunPair g g') :=
    Coupled.modify fun h =>
      ⟨congrArg (fun o : RunOut => { o with resultSize := final.capture.pos }) h.out, h.same⟩
  exact Steady.require_bind (steady_printLit _) (fun h => h) fun _ => hseal.bind fun _ _ =>
    hsize.bind fun _ _ => Coupled.emit _

/-- **The end of a run.** -/
theorem coupled_sealRun (hview : HidesKeys view) {m m' : Admitted} (h : m.aadOut = m'.aadOut)
    (final : ExecState args.maxOutSize) :
    Coupled view (RunPair g g') (sealRun kind S env args m final)
      (sealRun kind S env args m' final) (fun _ _ => RunEnds kind) (RunPair g g') := by
  cases kind with
  | legacy =>
    show Coupled _ _ (sealResult S env args m.aadOut m.kReq final)
      (sealResult S env args m'.aadOut m'.kReq final) _ _
    rw [h]
    exact coupled_sealResult hview _ _ _ _
  | kem =>
    show Coupled _ _ (sealResultKem S env args m.aadOut final)
      (sealResultKem S env args m'.aadOut final) _ _
    rw [h]
    exact (steady_sealResultKem (RunPair.keepsOutputs g g') _ final).mono (fun h => h)
      (fun h => h.2.ends .kem) fun h => h

/-- **The body of a run.** -/
theorem coupled_runBody (hview : HidesKeys view) (hsame : SameButKeys g g')
    (hdec : ∀ c, runContext kind S env args fid = some c →
      runDecisions S B env args g fid c = runDecisions S B env args g' fid c)
    (hshown : ∀ c, runContext kind S env args fid = some c →
      OpensPackage S B env args g fid c → ShowsAlike view kind args g g') :
    Coupled view (Started g g') (runBody kind S B env args fid)
      (runBody kind S B env args fid) (fun _ _ => RunEnds kind) (RunPair g g') := by
  refine (coupled_admitRequest hview hsame hdec hshown).bind fun m m' => Coupled.of_fact And.left
    fun halike => Coupled.mono ?_ And.right (fun h => h) fun h => h
  rw [halike.wasm, halike.input]
  exact (steady_executeModule (RunPair.keepsOutputs g g') _ _).bind_coupled fun final =>
    coupled_sealRun hview halike.aadOut final

end Keyed

/-- The keys decide the same in both runs. -/
def DecidesAlike (kind : RunKind) (S : Sgx) (B : Bfibe) (env : RunEnv) (args : RunArgs)
    (g g' : Globals) : Prop :=
  ∀ c, runContext kind S env args (invocationFid g args) = some c →
    runDecisions S B env args g (invocationFid g args) c =
      runDecisions S B env args g' (invocationFid g args) c

/-- The run gets as far as the decryption of its package. -/
def ReachesPackage (kind : RunKind) (S : Sgx) (B : Bfibe) (env : RunEnv) (args : RunArgs)
    (g : Globals) : Prop :=
  RunReady kind env args g ∧ ∃ c, runContext kind S env args (invocationFid g args) = some c ∧
    OpensPackage S B env args g (invocationFid g args) c

/-- **Two runs look the same to the host** when the keys decide the same, and when the debug output
shows the same of them, should it be reached. -/
theorem coupled_runEncryptedWasm (hview : HidesKeys view) {g g' : Globals}
    (hsame : SameButKeys g g')
    (hdec : DecidesAlike kind S B env args g g')
    (hshown : ReachesPackage kind S B env args g → ShowsAlike view kind args g g') :
    Coupled view (fun s t => s = RunState.start g ∧ t = RunState.start g')
      (runEncryptedWasm kind S B env args) (runEncryptedWasm kind S B env args)
      (fun _ _ => RunEnds kind) (RunEnds kind) := by
  have hR := Started.keepsOutputs g g'
  have hends : ∀ {s t : RunState}, Started g g' s t → RunEnds kind s t :=
    fun h => h.pair.ends kind
  suffices h : Coupled view (Started g g') (runEncryptedWasm kind S B env args)
      (runEncryptedWasm kind S B env args) (fun _ _ => RunEnds kind) (RunEnds kind) by
    refine h.mono (fun {s t} hstart => ?_) (fun h => h) fun h => h
    rw [hstart.1, hstart.2]
    exact ⟨⟨rfl, hsame, rfl, rfl, rfl, rfl⟩, rfl, rfl⟩
  refine Steady.require_bind (steady_printLit _) hends fun htraced => ?_
  refine (steady_trace hR _).bind_of_value (C := fun _ => True) (fun _ _ _ => trivial) hends
    fun _ _ => Coupled.get_bind fun {s t} h => ?_
  have hloaded : requireLoadedKeys t.worker args = requireLoadedKeys s.worker args := by
    rw [requireLoadedKeys, requireLoadedKeys, h.pair.same.keyLoaded, h.pair.same.bfibeLoaded]
  have hkeys : keysLoaded s.worker args = keysLoaded g args := by
    rw [keysLoaded, keysLoaded, h.pair.ecc, h.pair.bfibe]
  have hfid : invocationFid s.worker args = invocationFid g args := by
    rw [invocationFid, invocationFid, h.pair.ecc, h.pair.bfibe]
  rw [hloaded, ← h.pair.same.invocationFid, hfid]
  refine (steady_requireLoadedKeys s.worker args).bind_of_value
    (C := fun _ => keysLoaded g args = true) (fun x a hvalue => ?_) hends fun _ hready => ?_
  · rw [value_requireLoadedKeys, hkeys] at hvalue
    exact (Option.ite_none_right_eq_some.mp hvalue).1
  · refine Steady.require_bind (steady_printLit _) hends fun hcReq => ?_
    have hrunReady : RunReady kind env args g :=
      ⟨fun hkem => by
        rw [hkem] at htraced
        simpa using htraced, hready, hcReq⟩
    refine Coupled.withCleanup ((coupled_runBody hview hsame hdec fun c hc hopens =>
      hshown ⟨hrunReady, c, hc, hopens⟩).mono (fun h => h) (fun h => ?_) fun h => ?_)
    · exact ⟨h.out, h.same.zeroizeLabelKey⟩
    · exact ⟨congrArg _ h.out, h.same.zeroizeLabelKey⟩

end Worker
end AsynCS
