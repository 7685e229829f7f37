import AsynCS.Protocol.KeyAgreement

/-!
# A run on what the client encrypted

A client encrypts a module and an input under two session keys, and wraps the keys for the worker.
Whatever the profile in which they are wrapped, a worker that opens the two keys runs the module on
the input.

* `Carries`: the arguments of a run hold the encryptions under two session keys.
* `KeysOpen`: `DecKey` finds these session keys.
* `admits_of_carries`: the request is admitted with the module and the input of the client.
* `completes_of_carries`: and a `kem` run completes when its module does.
-/

namespace AsynCS
namespace Protocol

open Client Worker

/-- A session key of 16 bytes is the first half of the buffer that it is copied to. -/
@[simp] theorem first_ofBytes_toList (key : Block 16) :
    (Block.ofBytes 32 key.toList).first 16 = key := by
  refine List.Vector.eq _ _ ?_
  show ((Block.ofBytes 32 key.toList).toList ++ List.replicate 16 0).take 16 = key.toList
  rw [List.take_append_of_le_length (by rw [List.Vector.toList_length]; decide)]
  exact Block.take_toList_ofBytes key.toList_length (by decide)

variable {S : Sgx} {B : Bfibe} {kind : RunKind} {env : RunEnv} {args : RunArgs} {g : Globals}

/-- The arguments of a run hold a module and an input, encrypted for an FID under two session
keys. -/
structure Carries (S : Sgx) (args : RunArgs) (fid : CStr) (kFunc kReq : Block 16)
    (wasm input : Bytes) : Prop where
  package : S.gcmEncrypt kFunc args.wasmIv (aadPkg fid) wasm = (args.encryptedWasm, args.wasmMac)
  request : S.gcmEncrypt kReq args.inputIv (aadReq S fid args.nonce args.pkU) input =
    (args.encryptedInput, args.inputMac)
  wasm_ne : wasm ≠ []
  input_ne : input ≠ []

/-- `DecKey` opens the two key ciphertexts of a run to these session keys. -/
structure KeysOpen (S : Sgx) (B : Bfibe) (env : RunEnv) (args : RunArgs) (g : Globals) (fid : CStr)
    (kFunc kReq : Block 16) : Prop where
  loaded : keysLoaded g args = true
  cKey_ne : args.cKey ≠ []
  cKFunc_ne : args.cKFunc ≠ []
  request : requestKey S B env g args (aadReq S fid args.nonce args.pkU) =
    .ok (Block.ofBytes 32 kReq.toList)
  function : ∃ key, labelKey S env args g.ecc (S.sha256 args.encryptedWasm) = some key ∧
    functionKey S B env (g.setDklabelFunc key) args (aadPkg fid) =
      .ok (Block.ofBytes 32 kFunc.toList)

/-- The RID of a request. -/
def ridOfRequest (S : Sgx) (args : RunArgs) (fid : CStr) : Block 32 :=
  S.sha256 (fidToBytesOrStr fid ++ args.cReq)

/-- What a run on these arguments is admitted with. -/
def admittedOf (S : Sgx) (args : RunArgs) (fid : CStr) (kReq : Block 16) (wasm input : Bytes) :
    Admitted :=
  ⟨aadOut S fid (ridOfRequest S args fid) args.pkU, Block.ofBytes 32 kReq.toList, wasm, some input⟩

theorem ne_nil_of_gcmEncrypt (hS : S.GcmLaws) {key : Block 16} {iv : Block 12} {aad p c : Bytes}
    {tag : Block 16} (h : S.gcmEncrypt key iv aad p = (c, tag)) (hp : p ≠ []) : c ≠ [] := by
  have hlen : (S.gcmEncrypt key iv aad p).1.length = p.length := hS.length_encrypt key iv aad p
  rw [h] at hlen
  rintro rfl
  exact hp (List.length_eq_zero_iff.mp hlen.symm)

/-- A ciphertext with its tag is opened under its own key. -/
theorem gcmDecrypt_of_gcmEncrypt (hS : S.GcmLaws) {key : Block 16} {iv : Block 12}
    {aad p c : Bytes} {tag : Block 16} (h : S.gcmEncrypt key iv aad p = (c, tag)) :
    S.gcmDecrypt key iv aad c tag = some p := by
  have hopen := hS.decrypt_encrypt key iv aad p
  rwa [h] at hopen

/-- When nothing fails, a run computes the RID of its request. -/
theorem ridOf_of_ok (hok : ∀ site, env.ok site = true) (fid : CStr) :
    ridOf kind S env args fid = some (ridOfRequest S args fid) := by
  unfold ridOf computeRidFromFidAndCReq
  simp only [hok, if_true, Sgx.sha256Msg, ridOfRequest]

/-- And the context of a run is computed from its arguments alone. -/
theorem runContext_of_ok (hok : ∀ site, env.ok site = true) (fid : CStr)
    (hwasm : args.encryptedWasm ≠ []) :
    runContext kind S env args fid =
      some ⟨ridOfRequest S args fid,
        ⟨aadPkg fid, aadReq S fid args.nonce args.pkU,
          aadOut S fid (ridOfRequest S args fid) args.pkU⟩,
        S.sha256 args.encryptedWasm⟩ := by
  have hlabel := computeLabelFromCfunc_eq_some_iff.mpr
    ⟨hwasm, hok .labelHash, (rfl : S.sha256 args.encryptedWasm = _)⟩
  unfold runContext aadValues buildAadPkg buildAadReq buildAadOut
  rw [ridOf_of_ok hok, hlabel]
  simp only [hok]
  rfl

/-- **A request that carries a module and an input is admitted with them** by a worker that opens
its session keys, unless the cache holds another module for the package. -/
theorem admits_of_carries (hS : S.GcmLaws) (hok : ∀ site, env.ok site = true) {fid : CStr}
    {kFunc kReq : Block 16} {wasm input : Bytes} (hcarries : Carries S args fid kFunc kReq wasm input)
    (hopen : KeysOpen S B env args g fid kFunc kReq)
    (hcache : ∀ w, g.functionCacheLookup fid (S.sha256 args.encryptedWasm) = some w → w = wasm) :
    ∃ c, Admits kind S B env args g fid c (admittedOf S args fid kReq wasm input) := by
  have hpackage := gcmDecrypt_of_gcmEncrypt hS hcarries.package
  have hrequest := gcmDecrypt_of_gcmEncrypt hS hcarries.request
  have hne := ne_nil_of_gcmEncrypt hS hcarries.package hcarries.wasm_ne
  have hinput := ne_nil_of_gcmEncrypt hS hcarries.request hcarries.input_ne
  refine ⟨_, ⟨runContext_of_ok hok fid hne, hopen.cKey_ne, hopen.request, ?_, ?_, ?_, rfl⟩⟩
  · show moduleOf S B env args g fid (S.sha256 args.encryptedWasm) (aadPkg fid) = some wasm
    unfold moduleOf
    cases hhit : g.functionCacheLookup fid (S.sha256 args.encryptedWasm) with
    | some w => rw [hcache w hhit]
    | none =>
      obtain ⟨key, hkey, hfunction⟩ := hopen.function
      simp only [if_neg hopen.cKFunc_ne, packageModule, hkey, hfunction, Except.toOption,
        Option.bind_eq_bind, Option.bind_some, packagePlaintext, hok, Bool.and_self, if_true,
        first_ofBytes_toList, hpackage]
  · show requestInput S env args (aadReq S fid args.nonce args.pkU)
      (Block.ofBytes 32 kReq.toList) = some (some input)
    simp only [requestInput, if_neg hinput, hok, Bool.and_self, if_true, first_ofBytes_toList,
      hrequest, Option.map_some]
  · show payloadRecorded kind env (some input) = true
    simp only [payloadRecorded, Option.isSome_some, hok, Bool.and_self, Bool.or_true]

/-- **And a `kem` run on it completes** when the module ends in time and a key is encapsulated. -/
theorem completes_of_carries (hS : S.GcmLaws) (hok : ∀ site, env.ok site = true)
    (htrace : args.invokeTrace = true) {kFunc kReq : Block 16} {wasm input : Bytes}
    (hcarries : Carries S args (invocationFid g args) kFunc kReq wasm input)
    (hopen : KeysOpen S B env args g (invocationFid g args) kFunc kReq)
    (hcache : ∀ w, g.functionCacheLookup (invocationFid g args) (S.sha256 args.encryptedWasm) =
      some w → w = wasm)
    (hends : ModuleEnds env args wasm (some input))
    (htimed : (workloadCycles (moduleState env args wasm (some input))).isSome = true)
    {kU : Block 32} (hkU : encapsulatedKey S env args.pkU = some kU) :
    Completes .kem S B env args g (admittedOf S args (invocationFid g args) kReq wasm input) kU where
  ready := ⟨fun _ => htrace, hopen.loaded, hok .cReqMalloc⟩
  admits := admits_of_carries hS hok hcarries hopen hcache
  ends := hends
  seals := ⟨fun _ => htimed, hkU⟩
  encrypts := hok .resultEncrypt

end Protocol
end AsynCS
