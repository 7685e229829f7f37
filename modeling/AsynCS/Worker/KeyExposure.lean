import AsynCS.Protocol.AadBinding
import AsynCS.Worker.HostView
import AsynCS.Worker.Provenance

/-!
# Which key bytes reach the host

`ecall_decrypt_key` copies the key that it unwraps to the buffer `decrypted_key` of its caller, and
`ecall_run_encrypted_wasm` prints four bytes of the key of the worker before it decrypts a package
in the eccibe profile.  The host sees no other key byte: two runs of the same calls, in which the
keys decide the same, look different exactly when these bytes differ.

* `partFrom_runEncryptedWasm`: two legacy runs that print different bytes.
* `shownKey`: the key bytes that a call shows.
* `hostView`, `decisions`: what the host gets of a call, and what the keys decide in it.
* `hostView_eq_iff`, `sameButKeys_workerStep`: one call.
* `hostViews_eq_iff`: every sequence of calls.
-/

namespace AsynCS
namespace Worker

open Proc

variable {S : Sgx} {B : Bfibe} {env : RunEnv} {args : RunArgs} {g g' : Globals}

/-! ## Runs that print different bytes -/

section Prints

variable {fid : CStr} {c : RunContext}

theorem hexEncode_injective : Function.Injective hexEncode := fun a b h =>
  Option.some.inj ((Protocol.decodeHex_hexEncode a).symm.trans
    ((congrArg decodeHex h).trans (Protocol.decodeHex_hexEncode b)))

/-- The line of the debug output tells the first four bytes of two keys apart. -/
theorem debugLine_injective {name : String} {a b : Bytes}
    (h : ascii name ++ hexEncode (a.take 4) ++ ascii "...\n" =
      ascii name ++ hexEncode (b.take 4) ++ ascii "...\n") : a.take 4 = b.take 4 :=
  hexEncode_injective (List.append_cancel_left (List.append_cancel_right h))

theorem partFrom_printDebugDecryption (hbfibe : args.useBfibeKeys = false)
    (hne : g.ecc.workerKey.toList.take 4 ≠ g'.ecc.workerKey.toList.take 4) :
    PartFrom Event.isVisible (RunPair g g') (printDebugDecryption env args)
      (printDebugDecryption env args) := by
  refine (steady_printLit _).bind_part (fun _ => rfl) ?_
  refine PartFrom.get_bind fun {s t} h => ?_
  rw [h.ecc, h.ecc', hbfibe]
  refine PartFrom.bind (PartFrom.emit (fun heq => hne ?_) rfl rfl)
  exact debugLine_injective (Event.ocallPrint.inj heq)

theorem partFrom_decryptFunction (hbfibe : args.useBfibeKeys = false)
    (hne : g.ecc.workerKey.toList.take 4 ≠ g'.ecc.workerKey.toList.take 4)
    (hmalloc : env.ok .wasmMalloc = true) (aadPkg : Bytes) (k k' : Block 32) :
    PartFrom Event.isVisible (RunPair g g') (decryptFunction .legacy S env args aadPkg k)
      (decryptFunction .legacy S env args aadPkg k') := by
  unfold decryptFunction
  rw [hmalloc]
  exact Coupled.bind_part (Steady.pure ()) (fun _ => Option.some_ne_none _) fun _ _ =>
    (partFrom_printDebugDecryption hbfibe hne).bind.mono And.right

theorem partFrom_loadFunction (hbfibe : args.useBfibeKeys = false)
    (hne : g.ecc.workerKey.toList.take 4 ≠ g'.ecc.workerKey.toList.take 4)
    (hmalloc : env.ok .wasmMalloc = true) {label : Block 32} {aadPkg : Bytes}
    (hsame : eraseKey (functionKeyOf S B env args g label aadPkg) =
      eraseKey (functionKeyOf S B env args g' label aadPkg))
    {k : Block 32} (hk : functionKeyOf S B env args g label aadPkg = .ok k) :
    PartFrom Event.isVisible (Prepared S env args label g g')
      (loadFunction .legacy S B env args fid label aadPkg none)
      (loadFunction .legacy S B env args fid label aadPkg none) := by
  refine (coupled_decapFunctionKey hsame).bind_part (fun {s t} h => ?_) fun k k' =>
    ((partFrom_decryptFunction hbfibe hne hmalloc aadPkg k k').bind).mono And.right
  have hkey : functionKey S B env s.worker args aadPkg = .ok k := by
    rw [functionKeyOf, h.prepared] at hk
    rw [← hk]
    show _ = functionKey S B env (g.setDklabelFunc s.worker.dklabelFunc) args aadPkg
    rw [functionKey, functionKey, h.pair.bfibe]
    rfl
  simp only [decapFunctionKey, value_bind, value_trace, Option.bind_some, value_get, state_get,
    worker_trace, value_orDecKeyFailed, value_modify, value_pure, hkey, Except.toOption]
  simp

/-- **The run comes to the debug output**, which shows different bytes. -/
theorem partFrom_openRequest (hbfibe : args.useBfibeKeys = false)
    (hne : g.ecc.workerKey.toList.take 4 ≠ g'.ecc.workerKey.toList.take 4)
    (hdec : runDecisions S B env args g fid c = runDecisions S B env args g' fid c)
    (hmiss' : g'.functionCacheLookup fid c.label = none)
    (hopens : OpensPackage S B env args g fid c) :
    PartFrom Event.isVisible (RunPair g g')
      (openRequest .legacy S B env args fid c.aad c.label none)
      (openRequest .legacy S B env args fid c.aad c.label none) := by
  obtain ⟨kReq, hkReq⟩ := hopens.request
  obtain ⟨k, hk⟩ := hopens.function
  have hrequest := congrArg RunDecisions.request hdec
  have hfunction := congrArg RunDecisions.function hdec
  simp only [runDecisions, hopens.miss, hmiss', Option.isSome_none, Bool.false_eq_true, if_false]
    at hfunction
  refine (coupled_prepareLabelKey c.label).bind_part (fun {s t} h => ?_) fun _ _ => ?_
  · show (prepareLabelKey S env args c.label s).value ≠ none
    rw [(gives_prepareLabelKey env args c.label s).1, h.ecc]
    unfold functionKeyOf at hk
    cases hlabel : labelKey S env args g.ecc c.label with
    | some key => simp
    | none =>
      rw [hlabel] at hk
      exact absurd hk (by simp)
  · refine (coupled_decapRequestKey (Prepared.keepsOutputs c.label g g') Prepared.pair
      hrequest).bind_part (fun {s t} h => ?_) fun k₁ k₂ => ?_
    · rw [value_decapRequestKey, requestKey_congr h.pair.ecc h.pair.bfibe, hkReq]
      simp [Except.toOption]
    · exact ((partFrom_loadFunction hbfibe hne hopens.malloc hfunction hk).bind).mono And.right

theorem partFrom_admitRequest (hsame : SameButKeys g g') (hbfibe : args.useBfibeKeys = false)
    (hne : g.ecc.workerKey.toList.take 4 ≠ g'.ecc.workerKey.toList.take 4)
    (hcontext : runContext .legacy S env args fid = some c)
    (hdec : runDecisions S B env args g fid c = runDecisions S B env args g' fid c)
    (hopens : OpensPackage S B env args g fid c) :
    PartFrom Event.isVisible (Started g g') (admitRequest .legacy S B env args fid)
      (admitRequest .legacy S B env args fid) := by
  obtain ⟨rid, hrid, hcontext⟩ := Option.bind_eq_some_iff.mp hcontext
  obtain ⟨aad, haad, hcontext⟩ := Option.bind_eq_some_iff.mp hcontext
  obtain ⟨label, hlabel, hcontext⟩ := Option.bind_eq_some_iff.mp hcontext
  obtain rfl := Option.some.inj hcontext
  refine (steady_computeRid (Started.keepsOutputs g g') fid).bind_part
    (fun {s t} _ => (value_computeRid .legacy env args fid s).trans hrid) ?_
  refine (Steady.orStop (steady_printLit _)).bind_part (fun _ => (value_orStop _ _ _).trans haad) ?_
  refine (Steady.orStop (steady_printLit _)).bind_part (fun _ => (value_orStop _ _ _).trans hlabel)
    ?_
  refine PartFrom.get_bind fun {s t} h => ?_
  rw [functionCacheLookup_congr h.cache, functionCacheLookup_congr h.cache',
    ← hsame.functionCacheLookup, hopens.miss]
  have hkeys : (args.cKey != [] && (Option.isSome (none : Option Bytes) || args.cKFunc != [])) =
      true := by
    rw [bne_iff_ne.mpr hopens.cKey_ne, bne_iff_ne.mpr hopens.cKFunc_ne]
    rfl
  refine (Steady.require (steady_printLit _)).bind_part (a := ()) (fun _ => ?_) ?_
  · rw [value_require, hkeys]
    rfl
  · exact (partFrom_openRequest hbfibe hne hdec
      ((hsame.functionCacheLookup fid label).symm.trans hopens.miss) hopens).mono Started.pair

/-- **Two legacy runs that reach the decryption of a package print different bytes** of different
keys. -/
theorem partFrom_runEncryptedWasm (hsame : SameButKeys g g') (hbfibe : args.useBfibeKeys = false)
    (hne : g.ecc.workerKey.toList.take 4 ≠ g'.ecc.workerKey.toList.take 4)
    (hdec : DecidesAlike .legacy S B env args g g') (hreach : ReachesPackage .legacy S B env args g) :
    Parts Event.isVisible (runEncryptedWasm .legacy S B env args (RunState.start g))
      (runEncryptedWasm .legacy S B env args (RunState.start g')) := by
  obtain ⟨hready, c, hcontext, hopens⟩ := hreach
  suffices h : PartFrom Event.isVisible (Started g g') (runEncryptedWasm .legacy S B env args)
      (runEncryptedWasm .legacy S B env args) from
    h _ _ ⟨⟨rfl, hsame, rfl, rfl, rfl, rfl⟩, rfl, rfl⟩
  refine (Steady.require (steady_printLit _)).bind_part (a := ()) (fun _ => rfl) ?_
  refine (Steady.pure ()).bind_part (fun _ => rfl) ?_
  refine PartFrom.get_bind fun {s t} h => ?_
  have hloaded : requireLoadedKeys t.worker args = requireLoadedKeys s.worker args := by
    rw [requireLoadedKeys, requireLoadedKeys, h.pair.same.keyLoaded, h.pair.same.bfibeLoaded]
  have hfid : invocationFid s.worker args = invocationFid g args := by
    rw [invocationFid, invocationFid, h.pair.ecc, h.pair.bfibe]
  rw [hloaded, ← h.pair.same.invocationFid, hfid]
  refine (steady_requireLoadedKeys s.worker args).bind_part (a := ()) (fun _ => ?_) ?_
  · have hkeys : keysLoaded s.worker args = keysLoaded g args := by
      rw [keysLoaded, keysLoaded, h.pair.ecc, h.pair.bfibe]
    rw [value_requireLoadedKeys, hkeys, hready.keysLoaded]
    rfl
  · refine (Steady.require (steady_printLit _)).bind_part (a := ()) (fun _ => ?_) ?_
    · rw [value_require, hready.cReq]
      rfl
    · exact ((partFrom_admitRequest hsame hbfibe hne hcontext (hdec c hcontext)
        hopens).bind).withCleanup

end Prints

/-! ## Loads -/

/-- The globals during two loads. -/
structure LoadPair (g g' s t : Globals) : Prop where
  same : SameButKeys s t
  privateKey : s.privateKey = g.privateKey
  privateKey' : t.privateKey = g'.privateKey

theorem LoadPair.setWorkerKey {s t : Globals} (h : LoadPair g g' s t) (key key' : Block 32) :
    LoadPair g g' (s.setWorkerKey key) (t.setWorkerKey key') :=
  ⟨⟨h.same.keypairReady, h.same.workerFid, h.same.keyLoaded, h.same.dklabelFromKms,
    h.same.bfibeFid, h.same.bfibeLoaded, h.same.cache, h.same.labelValid⟩, h.privateKey,
    h.privateKey'⟩

theorem LoadPair.setDklabel {s t : Globals} (h : LoadPair g g' s t) (key key' : Block 32) :
    LoadPair g g' (s.setDklabel key) (t.setDklabel key') :=
  ⟨⟨h.same.keypairReady, h.same.workerFid, h.same.keyLoaded, rfl, h.same.bfibeFid,
    h.same.bfibeLoaded, h.same.cache, h.same.labelValid⟩, h.privateKey, h.privateKey'⟩

theorem LoadPair.storeWorkerFid {s t : Globals} (h : LoadPair g g' s t) (fid : CStr) :
    LoadPair g g' (s.storeWorkerFid fid) (t.storeWorkerFid fid) := by
  unfold Globals.storeWorkerFid
  rw [← h.same.keyLoaded, ← h.same.workerFid]
  split
  · exact ⟨⟨h.same.keypairReady, rfl, rfl, h.same.dklabelFromKms, h.same.bfibeFid,
      h.same.bfibeLoaded, rfl, h.same.labelValid⟩, h.privateKey, h.privateKey'⟩
  · exact ⟨⟨h.same.keypairReady, rfl, rfl, h.same.dklabelFromKms, h.same.bfibeFid,
      h.same.bfibeLoaded, h.same.cache, h.same.labelValid⟩, h.privateKey, h.privateKey'⟩

theorem SameButKeys.setBfibeKeys (h : SameButKeys g g') (keys keys' : KeyPairSlots) :
    SameButKeys (g.setBfibeKeys keys) (g'.setBfibeKeys keys') :=
  ⟨h.keypairReady, h.workerFid, h.keyLoaded, h.dklabelFromKms, h.bfibeFid, h.bfibeLoaded, h.cache,
    h.labelValid⟩

theorem SameButKeys.storeBfibeFid (h : SameButKeys g g') (fid : CStr) :
    SameButKeys (g.storeBfibeFid fid) (g'.storeBfibeFid fid) := by
  unfold Globals.storeBfibeFid
  rw [← h.bfibeLoaded, ← h.bfibeFid]
  split
  · exact ⟨h.keypairReady, h.workerFid, h.keyLoaded, h.dklabelFromKms, rfl, rfl, rfl,
      h.labelValid⟩
  · exact ⟨h.keypairReady, h.workerFid, h.keyLoaded, h.dklabelFromKms, rfl, rfl, h.cache,
      h.labelValid⟩

/-- Whether a blob is unwrapped, and how far it comes. -/
structure UnwrapDecision where
  sharedSecret : Bool
  key : Bool
  deriving DecidableEq

def unwrapDecision (S : Sgx) (env : UnwrapEnv) (g : Globals) (blob : KeyBlob) : UnwrapDecision :=
  ⟨(S.computeSharedDhkey g.privateKey blob.kmsPub).isSome,
    (unwrapKey S env g.privateKey blob).isSome⟩

section Loads

variable {view : Event → Bool}

theorem coupled_unwrapBlock {env : UnwrapEnv} (texts : UnwrapTexts) {blob : KeyBlob}
    (hsame : unwrapDecision S env g blob = unwrapDecision S env g' blob) :
    Coupled view (LoadPair g g') (unwrapBlock S env texts blob) (unwrapBlock S env texts blob)
      (fun _ _ => LoadPair g g') (LoadPair g g') := by
  have hfail : ∀ text, Coupled view (LoadPair g g') (enclavePrintLit text) (enclavePrintLit text)
      (fun _ _ => LoadPair g g') (LoadPair g g') := fun _ => Coupled.emit _
  refine Coupled.get_bind fun {s t} h => ?_
  refine Steady.require_bind (steady_printLit _) (fun h => h) fun _ => ?_
  rw [h.privateKey, h.privateKey']
  have hsecret : Coupled view (LoadPair g g')
      (orStop (S.computeSharedDhkey g.privateKey blob.kmsPub) (enclavePrintLit texts.sharedSecret))
      (orStop (S.computeSharedDhkey g'.privateKey blob.kmsPub)
        (enclavePrintLit texts.sharedSecret)) (fun _ _ => LoadPair g g') (LoadPair g g') :=
    Coupled.orStop (congrArg UnwrapDecision.sharedSecret hsame) (fun _ _ _ _ _ _ h => h) (hfail _)
  exact hsecret.bind fun _ _ =>
    Coupled.orStop (congrArg UnwrapDecision.key hsame) (fun _ _ _ _ _ _ h => h) (hfail _)

theorem coupled_ecallDecryptKey {env : UnwrapEnv} {blob : KeyBlob}
    (hsame : unwrapDecision S env g blob = unwrapDecision S env g' blob) (fid : CStr) :
    Coupled view (LoadPair g g') (ecallDecryptKey S env blob fid) (ecallDecryptKey S env blob fid)
      (fun _ _ => LoadPair g g') (LoadPair g g') := by
  refine (Coupled.emit _).bind fun _ _ => (coupled_unwrapBlock _ hsame).bind fun k k' => ?_
  exact (Coupled.modify fun h => h.setWorkerKey k k').bind fun _ _ =>
    (Coupled.modify fun h => h.storeWorkerFid fid).bind fun _ _ =>
      (Coupled.emit _).bind fun _ _ => (Coupled.emit _).bind fun _ _ => Coupled.emit _

theorem coupled_ecallDecryptKeysBatch {env envLabel : UnwrapEnv} {dkf dklabel : KeyBlob}
    (hsame : unwrapDecision S env g dkf = unwrapDecision S env g' dkf)
    (hlabel : unwrapDecision S envLabel g dklabel = unwrapDecision S envLabel g' dklabel)
    (fid : CStr) :
    Coupled view (LoadPair g g') (ecallDecryptKeysBatch S env envLabel dkf dklabel fid)
      (ecallDecryptKeysBatch S env envLabel dkf dklabel fid)
      (fun _ _ => LoadPair g g') (LoadPair g g') := by
  refine (Coupled.emit _).bind fun _ _ => (coupled_unwrapBlock _ hsame).bind fun k k' => ?_
  refine (Coupled.modify fun h => h.setWorkerKey k k').bind fun _ _ =>
    (coupled_unwrapBlock _ hlabel).bind fun l l' => ?_
  exact (Coupled.modify fun h => h.setDklabel l l').bind fun _ _ =>
    (Coupled.modify fun h => h.storeWorkerFid fid).bind fun _ _ =>
      (Coupled.emit _).bind fun _ _ => (Coupled.emit _).bind fun _ _ =>
        (Coupled.emit _).bind fun _ _ => Coupled.emit _

theorem steady_ecallCreateReport (env : ReportEnv) :
    Steady view SameButKeys (ecallCreateReport env) := by
  refine (Steady.require (steady_printLit _)).bind fun _ =>
    (Steady.orStop (steady_printLit _)).bind fun pair => ?_
  refine Steady.bind (Steady.modify fun h => ?_) fun _ =>
    (Steady.require (steady_printLit _)).bind fun _ => Steady.modify fun h => ?_
  · exact ⟨h.keypairReady, h.workerFid, h.keyLoaded, h.dklabelFromKms, h.bfibeFid, h.bfibeLoaded,
      h.cache, h.labelValid⟩
  · exact ⟨rfl, h.workerFid, h.keyLoaded, h.dklabelFromKms, h.bfibeFid, h.bfibeLoaded, h.cache,
      h.labelValid⟩

/-- Whether a release is opened and imported. -/
def loadDecision (S : Sgx) (env : LoadEnv) (g : Globals) (release : Bytes) (fid : Option CStr) :
    Except (List String) Bool :=
  (openRelease S env g release fid).map fun p =>
    (parseBfibePrivateKeySet p.2 p.1 g.bfibe.keys).2

theorem coupled_ecallLoadBfibeKeyRelease (hsame : SameButKeys g g') {env : LoadEnv}
    {release : Bytes} {fid : Option CStr}
    (hdec : loadDecision S env g release fid = loadDecision S env g' release fid) :
    Coupled view (fun s t => s = g ∧ t = g') (ecallLoadBfibeKeyRelease S env release fid)
      (ecallLoadBfibeKeyRelease S env release fid) (fun _ _ => SameButKeys) SameButKeys := by
  suffices h : Coupled view (fun s t => SameButKeys s t ∧ s = g ∧ t = g')
      (ecallLoadBfibeKeyRelease S env release fid) (ecallLoadBfibeKeyRelease S env release fid)
      (fun _ _ => SameButKeys) SameButKeys from
    h.mono (fun h => ⟨by rw [h.1, h.2]; exact hsame, h⟩) (fun h => h) fun h => h
  have himport : ∀ (f : CStr) {r r' : KeyPairSlots × Bool}, r.2 = r'.2 →
      Coupled view SameButKeys
        (do
          modify (Globals.setBfibeKeys r.1)
          require r.2 (enclavePrintLit "Error: BF-IBE private-key set import failed.\n")
          modify (Globals.storeBfibeFid f)
          enclavePrintLit "BF-IBE key-release imported successfully.\n")
        (do
          modify (Globals.setBfibeKeys r'.1)
          require r'.2 (enclavePrintLit "Error: BF-IBE private-key set import failed.\n")
          modify (Globals.storeBfibeFid f)
          enclavePrintLit "BF-IBE key-release imported successfully.\n")
        (fun _ _ => SameButKeys) SameButKeys := by
    intro f r r' himported
    refine (Coupled.modify fun h => h.setBfibeKeys _ _).bind fun _ _ => ?_
    rw [himported]
    exact Steady.require_bind (steady_printLit _) (fun h => h) fun _ =>
      (Coupled.modify fun h => h.storeBfibeFid f).bind fun _ _ => Coupled.emit _
  have hopen : Coupled view (fun s t => SameButKeys s t ∧ s = g ∧ t = g')
      (orReport (openRelease S env g release fid)) (orReport (openRelease S env g' release fid))
      (fun p p' s t => (openRelease S env g release fid = .ok p ∧
        openRelease S env g' release fid = .ok p' ∧
        (parseBfibePrivateKeySet p.2 p.1 g.bfibe.keys).2 =
          (parseBfibePrivateKeySet p'.2 p'.1 g'.bfibe.keys).2) ∧ SameButKeys s t)
      SameButKeys :=
    (coupled_orReport _ _ hdec).mono And.left (fun h => h) fun h => h
  refine Coupled.get_bind fun {s t} h => ?_
  rw [h.2.1, h.2.2]
  refine hopen.bind fun p p' => Coupled.of_fact And.left fun hp =>
    Coupled.mono ?_ And.right (fun h => h) fun h => h
  -- both releases are for the FID of the call
  obtain ⟨f, plaintext⟩ := p
  obtain ⟨f', plaintext'⟩ := p'
  obtain rfl : f = f' :=
    Option.some.inj ((fid_of_openRelease hp.1).symm.trans (fid_of_openRelease hp.2.1))
  exact himport f hp.2.2

end Loads

/-! ## What a call shows -/

/-- The bytes of `g_worker_key` that a legacy run prints, if it comes to print them. -/
def printedKey (S : Sgx) (B : Bfibe) (env : RunEnv) (args : RunArgs) (g : Globals) :
    Option Bytes :=
  if args.useBfibeKeys || !keysLoaded g args || !env.ok .cReqMalloc then none
  else do
    let c ← runContext .legacy S env args (invocationFid g args)
    if args.cKey = [] ∨ args.cKFunc = [] ∨ env.ok .wasmMalloc = false ∨
        (g.functionCacheLookup (invocationFid g args) c.label).isSome = true then none
    else do
      let _ ← (requestKey S B env g args c.aad.req).toOption
      let _ ← (functionKeyOf S B env args g c.label c.aad.pkg).toOption
      some (g.ecc.workerKey.toList.take 4)

theorem printedKey_eq_some_iff {b : Bytes} :
    printedKey S B env args g = some b ↔
      (args.useBfibeKeys = false ∧ ReachesPackage .legacy S B env args g) ∧
        b = g.ecc.workerKey.toList.take 4 := by
  unfold printedKey
  constructor
  · intro h
    obtain ⟨hready, h⟩ := Option.ite_none_left_eq_some.mp h
    obtain ⟨c, hcontext, h⟩ := Option.bind_eq_some_iff.mp h
    obtain ⟨hkeys, h⟩ := Option.ite_none_left_eq_some.mp h
    obtain ⟨kReq, hkReq, h⟩ := Option.bind_eq_some_iff.mp h
    obtain ⟨k, hk, h⟩ := Option.bind_eq_some_iff.mp h
    simp only [Bool.or_eq_true, Bool.not_eq_true', not_or, Bool.not_eq_true,
      Bool.not_eq_false] at hready
    simp only [not_or, Bool.not_eq_false, Bool.not_eq_true, Option.isSome_eq_false_iff,
      Option.isNone_iff_eq_none] at hkeys
    exact ⟨⟨hready.1.1, ⟨fun h => absurd h (by decide), hready.1.2, hready.2⟩, c, hcontext,
      ⟨hkeys.1, hkeys.2.1, hkeys.2.2.2, ⟨kReq, toOption_eq_some_iff.mp hkReq⟩,
        ⟨k, toOption_eq_some_iff.mp hk⟩, hkeys.2.2.1⟩⟩, (Option.some.inj h).symm⟩
  · rintro ⟨⟨hbfibe, hready, c, hcontext, hopens⟩, rfl⟩
    obtain ⟨kReq, hkReq⟩ := hopens.request
    obtain ⟨k, hk⟩ := hopens.function
    rw [if_neg (by simp [hbfibe, hready.keysLoaded, hready.cReq]), hcontext,
      Option.bind_eq_bind, Option.bind_some,
      if_neg (by simp [hopens.cKey_ne, hopens.cKFunc_ne, hopens.malloc, hopens.miss]), hkReq, hk]
    rfl

/-- **The key bytes that a call shows to the host.** -/
def shownKey (S : Sgx) (B : Bfibe) (g : Globals) : WorkerCall → Option Bytes
  | .loadEcc (.decryptKey env blob _) => (unwrapKey S env g.privateKey blob).map List.Vector.toList
  | .runEncryptedWasm .legacy env args => printedKey S B env args g
  | _ => none

/-- What the keys decide in a call. -/
inductive Decisions where
  | nothing
  | unwrap (first : UnwrapDecision) (second : Option UnwrapDecision)
  | load (release : Except (List String) Bool)
  | run (request : Option RunDecisions)
  deriving DecidableEq

/-- The decisions of a call. -/
def decisions (S : Sgx) (B : Bfibe) (g : Globals) : WorkerCall → Decisions
  | .createReport _ => .nothing
  | .loadEcc (.decryptKey env blob _) => .unwrap (unwrapDecision S env g blob) none
  | .loadEcc (.decryptKeysBatch env envLabel dkf dklabel _) =>
    .unwrap (unwrapDecision S env g dkf) (some (unwrapDecision S envLabel g dklabel))
  | .loadBfibeKeyRelease env release fid => .load (loadDecision S env g release fid)
  | .hasKey _ => .nothing
  | .runEncryptedWasm kind env args =>
    .run ((runContext kind S env args (invocationFid g args)).map
      (runDecisions S B env args g (invocationFid g args)))

/-- What `ecall_decrypt_key` leaves in `decrypted_key`. -/
def decryptedKey (S : Sgx) (g : Globals) : WorkerCall → Option (Block 32)
  | .loadEcc (.decryptKey env blob _) => unwrapKey S env g.privateKey blob
  | _ => none

/-- The outputs of a call without the result that is encrypted under a session key. -/
def WorkerCall.masked : WorkerCall → RunOut → RunOut
  | .runEncryptedWasm kind _ _ => RunOut.masked kind
  | _ => id

/-- What the host gets of a call. -/
structure HostView where
  ret : Int
  ocalls : List Event
  out : Option RunOut
  decryptedKey : Option (Block 32)

/-- The view of a call. -/
def hostView (S : Sgx) (B : Bfibe) (g : Globals) (c : WorkerCall) : HostView where
  ret := (workerStep S B g c).2.ret
  ocalls := seen Event.isVisible (workerStep S B g c).2.log
  out := (workerStep S B g c).2.out.map c.masked
  decryptedKey := decryptedKey S g c

/-! ## One call -/

/-- Both runs look the same. -/
theorem view_of_coupled {σ : Type} {p : Proc Event σ Unit} {pre stopped : σ → σ → Prop}
    {post : Unit → Unit → σ → σ → Prop}
    (h : Coupled Event.isVisible pre p p post stopped) {s t : σ} (hpre : pre s t) :
    returnCode (p s).value = returnCode (p t).value ∧
      seen Event.isVisible (p s).log = seen Event.isVisible (p t).log := by
  refine ⟨?_, h.log hpre⟩
  cases h.ends hpre with
  | finished hs ht _ => rw [hs, ht]
  | stopped hs ht _ => rw [hs, ht]

/-- What both runs end in. -/
theorem state_of_coupled {σ : Type} {view : Event → Bool} {p : Proc Event σ Unit}
    {pre after : σ → σ → Prop} (h : Coupled view pre p p (fun _ _ => after) after) {s t : σ}
    (hpre : pre s t) : after (p s).state (p t).state := by
  cases h.ends hpre with
  | finished _ _ hpost => exact hpost
  | stopped _ _ hstop => exact hstop

theorem decidesAlike_of_decisions (hsame : SameButKeys g g') {kind : RunKind}
    (h : decisions S B g (.runEncryptedWasm kind env args) =
      decisions S B g' (.runEncryptedWasm kind env args)) :
    DecidesAlike kind S B env args g g' := by
  intro c hc
  have hrun := Decisions.run.inj h
  rw [← hsame.invocationFid, hc] at hrun
  exact Option.some.inj hrun

theorem exists_ok_of_eraseKey {key key' : Except (List String) (Block 32)}
    (h : eraseKey key = eraseKey key') (hok : ∃ k, key = .ok k) : ∃ k, key' = .ok k := by
  obtain ⟨k, rfl⟩ := hok
  cases key' with
  | ok k' => exact ⟨k', rfl⟩
  | error texts => exact absurd h (by simp [eraseKey, Except.map])

/-- Both runs come to the decryption of the package, or neither. -/
theorem reachesPackage_of_decidesAlike (hsame : SameButKeys g g') {kind : RunKind}
    (hdec : DecidesAlike kind S B env args g g') (h : ReachesPackage kind S B env args g) :
    ReachesPackage kind S B env args g' := by
  obtain ⟨hready, c, hcontext, hopens⟩ := h
  have hloaded : keysLoaded g' args = keysLoaded g args := by
    rw [keysLoaded, keysLoaded, hsame.bfibeLoaded, hsame.keyLoaded]
  have hc := hdec c hcontext
  have hmiss := (hsame.functionCacheLookup (invocationFid g args) c.label).symm.trans hopens.miss
  have hfunction := congrArg RunDecisions.function hc
  simp only [runDecisions, hopens.miss, hmiss, Option.isSome_none, Bool.false_eq_true, if_false]
    at hfunction
  rw [ReachesPackage, ← hsame.invocationFid]
  exact ⟨⟨hready.traced, hloaded.trans hready.keysLoaded, hready.cReq⟩, c, hcontext,
    hopens.cKey_ne, hopens.cKFunc_ne, hmiss,
    exists_ok_of_eraseKey (congrArg RunDecisions.request hc) hopens.request,
    exists_ok_of_eraseKey hfunction hopens.function, hopens.malloc⟩

/-- What two legacy runs print of keys is the same exactly when the bytes are, or neither comes to
print them. -/
theorem printedKey_eq_iff (hsame : SameButKeys g g')
    (hdec : DecidesAlike .legacy S B env args g g') :
    printedKey S B env args g = printedKey S B env args g' ↔
      (args.useBfibeKeys = false → ReachesPackage .legacy S B env args g →
        g.ecc.workerKey.toList.take 4 = g'.ecc.workerKey.toList.take 4) := by
  have hdec' : DecidesAlike .legacy S B env args g' g := by
    intro c hc
    rw [← hsame.invocationFid] at hc ⊢
    exact (hdec c hc).symm
  have hsame' : SameButKeys g' g :=
    ⟨hsame.keypairReady.symm, hsame.workerFid.symm, hsame.keyLoaded.symm,
      hsame.dklabelFromKms.symm, hsame.bfibeFid.symm, hsame.bfibeLoaded.symm, hsame.cache.symm,
      hsame.labelValid.symm⟩
  constructor
  · intro h hbfibe hreach
    have hg := printedKey_eq_some_iff.mpr ⟨⟨hbfibe, hreach⟩, rfl⟩
    exact (printedKey_eq_some_iff.mp (h.symm.trans hg)).2
  · intro h
    refine Option.ext fun b => ?_
    rw [printedKey_eq_some_iff, printedKey_eq_some_iff]
    constructor
    · rintro ⟨⟨hbfibe, hreach⟩, rfl⟩
      exact ⟨⟨hbfibe, reachesPackage_of_decidesAlike hsame hdec hreach⟩, h hbfibe hreach⟩
    · rintro ⟨⟨hbfibe, hreach⟩, rfl⟩
      have hreach' := reachesPackage_of_decidesAlike hsame' hdec' hreach
      exact ⟨⟨hbfibe, hreach'⟩, (h hbfibe hreach').symm⟩

theorem loadPair_self (hsame : SameButKeys g g') : LoadPair g g' g g' := ⟨hsame, rfl, rfl⟩

/-- Two views of the two runs are equal when the host sees the same and gets the same outputs. -/
theorem hostView_run_eq (hsame : SameButKeys g g') {kind : RunKind}
    (hdec : DecidesAlike kind S B env args g g')
    (hshown : ReachesPackage kind S B env args g → ShowsAlike Event.isVisible kind args g g') :
    hostView S B g (.runEncryptedWasm kind env args) =
      hostView S B g' (.runEncryptedWasm kind env args) := by
  have hrun := coupled_runEncryptedWasm hidesKeys_isVisible hsame hdec hshown
  obtain ⟨hret, hlog⟩ := view_of_coupled hrun ⟨rfl, rfl⟩
  have hends := state_of_coupled hrun ⟨rfl, rfl⟩
  simp only [hostView, workerStep, WorkerCall.masked, Option.map_some, decryptedKey]
  rw [hret, hlog, hends.out]

/-- **One call**: two views of it differ exactly when the key bytes that it shows do. -/
theorem hostView_eq_iff (hsame : SameButKeys g g') {c : WorkerCall}
    (hdec : decisions S B g c = decisions S B g' c) :
    hostView S B g c = hostView S B g' c ↔ shownKey S B g c = shownKey S B g' c := by
  cases c with
  | createReport env =>
    obtain ⟨hret, hlog⟩ := view_of_coupled (steady_ecallCreateReport env) hsame
    refine iff_of_true ?_ rfl
    simp only [hostView, workerStep, WorkerReply.ofOutcome, hret, hlog]
    rfl
  | hasKey fid =>
    refine iff_of_true ?_ rfl
    have hkey : ecallHasKey g fid = ecallHasKey g' fid := by
      rw [ecallHasKey, ecallHasKey, eccHasKey, eccHasKey, bfibeHasKey, bfibeHasKey,
        hsame.keyLoaded, hsame.workerFid, hsame.bfibeLoaded, hsame.bfibeFid]
    simp only [hostView, workerStep, hkey]
    rfl
  | loadBfibeKeyRelease env release fid =>
    obtain ⟨hret, hlog⟩ := view_of_coupled
      (coupled_ecallLoadBfibeKeyRelease hsame (Decisions.load.inj hdec)) ⟨rfl, rfl⟩
    refine iff_of_true ?_ rfl
    simp only [hostView, workerStep, WorkerReply.ofOutcome, hret, hlog]
    rfl
  | loadEcc call =>
    cases call with
    | decryptKey env blob fid =>
      obtain ⟨hret, hlog⟩ := view_of_coupled
        (coupled_ecallDecryptKey (Decisions.unwrap.inj hdec).1 fid) (loadPair_self hsame)
      have hview : ∀ w, (workerStep S B w (.loadEcc (.decryptKey env blob fid))).2 =
          WorkerReply.ofOutcome (ecallDecryptKey S env blob fid w) := fun _ => rfl
      simp only [hostView, hview, WorkerReply.ofOutcome, hret, hlog, Option.map_none,
        HostView.mk.injEq, true_and, decryptedKey, shownKey]
      exact (Option.map_injective List.Vector.toList_injective).eq_iff.symm
    | decryptKeysBatch env envLabel dkf dklabel fid =>
      obtain ⟨hfirst, hsecond⟩ := Decisions.unwrap.inj hdec
      obtain ⟨hret, hlog⟩ := view_of_coupled
        (coupled_ecallDecryptKeysBatch hfirst (Option.some.inj hsecond) fid) (loadPair_self hsame)
      have hview : ∀ w, (workerStep S B w
          (.loadEcc (.decryptKeysBatch env envLabel dkf dklabel fid))).2 =
          WorkerReply.ofOutcome (ecallDecryptKeysBatch S env envLabel dkf dklabel fid w) :=
        fun _ => rfl
      refine iff_of_true ?_ rfl
      simp only [hostView, hview, WorkerReply.ofOutcome, hret, hlog]
      rfl
  | runEncryptedWasm kind env args =>
    have halike := decidesAlike_of_decisions hsame hdec
    cases kind with
    | kem => exact iff_of_true (hostView_run_eq hsame halike fun _ h => absurd h (by decide)) rfl
    | legacy =>
      show _ ↔ printedKey S B env args g = printedKey S B env args g'
      rw [printedKey_eq_iff hsame halike]
      constructor
      · intro hview hbfibe hreach
        by_contra hne
        exact (partFrom_runEncryptedWasm hsame hbfibe hne halike hreach).seen_ne
          (congrArg HostView.ocalls hview)
      · intro hbytes
        exact hostView_run_eq hsame halike fun hreach _ hbfibe => Or.inr (hbytes hbfibe hreach)

/-- **A call keeps the two globals the same up to key bytes**, whatever it shows. -/
theorem sameButKeys_workerStep (hsame : SameButKeys g g') {c : WorkerCall}
    (hdec : decisions S B g c = decisions S B g' c) :
    SameButKeys (workerStep S B g c).1 (workerStep S B g' c).1 := by
  have hblind : HidesKeys fun _ : Event => false := ⟨fun _ _ _ _ _ _ => rfl, fun _ _ _ _ => rfl⟩
  cases c with
  | createReport env =>
    have h : Steady Event.isVisible SameButKeys (ecallCreateReport env) :=
      steady_ecallCreateReport env
    exact state_of_coupled (h.mono (fun h => h) And.right fun h => h) hsame
  | hasKey fid => exact hsame
  | loadBfibeKeyRelease env release fid =>
    have h : Coupled Event.isVisible _ (ecallLoadBfibeKeyRelease S env release fid) _ _ _ :=
      coupled_ecallLoadBfibeKeyRelease hsame (Decisions.load.inj hdec)
    exact state_of_coupled h ⟨rfl, rfl⟩
  | loadEcc call =>
    cases call with
    | decryptKey env blob fid =>
      have h : Coupled Event.isVisible _ (ecallDecryptKey S env blob fid) _ _ _ :=
        coupled_ecallDecryptKey (Decisions.unwrap.inj hdec).1 fid
      exact (state_of_coupled h (loadPair_self hsame)).same
    | decryptKeysBatch env envLabel dkf dklabel fid =>
      obtain ⟨hfirst, hsecond⟩ := Decisions.unwrap.inj hdec
      have h : Coupled Event.isVisible _ (ecallDecryptKeysBatch S env envLabel dkf dklabel fid) _ _
          _ := coupled_ecallDecryptKeysBatch hfirst (Option.some.inj hsecond) fid
      exact (state_of_coupled h (loadPair_self hsame)).same
  | runEncryptedWasm kind env args =>
    have halike := decidesAlike_of_decisions hsame hdec
    have hrun := coupled_runEncryptedWasm hblind hsame halike fun _ _ _ => Or.inl fun _ => rfl
    exact (state_of_coupled hrun ⟨rfl, rfl⟩).same

/-! ## Every sequence of calls -/

/-- **The host learns the key bytes that are shown to it, and no others**: two runs of the same
calls, from globals that agree up to key bytes, in which the keys decide the same, look different
to it exactly when these bytes differ at some call. -/
theorem hostViews_eq_iff (hsame : SameButKeys g g') {calls : List WorkerCall}
    (hdec : traceOn (workerStep S B) (decisions S B) g calls =
      traceOn (workerStep S B) (decisions S B) g' calls) :
    traceOn (workerStep S B) (hostView S B) g calls =
        traceOn (workerStep S B) (hostView S B) g' calls ↔
      traceOn (workerStep S B) (shownKey S B) g calls =
        traceOn (workerStep S B) (shownKey S B) g' calls := by
  refine traceOn_eq_iff (fun s s' c h hd => ?_) hsame hdec
  exact ⟨sameButKeys_workerStep h hd, hostView_eq_iff h hd⟩

/-- The worker with another first byte of the ECC-IBE key. -/
def otherWorker : Globals := loadedWorker.setWorkerKey (Block.ofBytes 32 [1])

/-- The two workers decide alike in both kinds of run; only the legacy run shows that their keys
differ. -/
theorem legacyRun_shows_firstByte :
    traceOn (workerStep Sgx.sample Bfibe.sample) (hostView Sgx.sample Bfibe.sample) loadedWorker
          [.runEncryptedWasm .kem sampleRunEnv sampleRequest] =
        traceOn (workerStep Sgx.sample Bfibe.sample) (hostView Sgx.sample Bfibe.sample) otherWorker
          [.runEncryptedWasm .kem sampleRunEnv sampleRequest] ∧
      traceOn (workerStep Sgx.sample Bfibe.sample) (hostView Sgx.sample Bfibe.sample) loadedWorker
          [.hasKey (CStr.lit "f"), .runEncryptedWasm .legacy sampleRunEnv emptyRequest] ≠
        traceOn (workerStep Sgx.sample Bfibe.sample) (hostView Sgx.sample Bfibe.sample) otherWorker
          [.hasKey (CStr.lit "f"), .runEncryptedWasm .legacy sampleRunEnv emptyRequest] := by
  have hsame : SameButKeys loadedWorker otherWorker := by
    constructor <;> decide +kernel
  constructor
  · exact (hostViews_eq_iff hsame (by decide +kernel)).mpr (by decide +kernel)
  · refine fun hview => absurd ((hostViews_eq_iff hsame (by decide +kernel)).mp hview) ?_
    decide +kernel

end Worker
end AsynCS
