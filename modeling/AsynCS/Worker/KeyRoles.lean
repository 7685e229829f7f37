import AsynCS.Protocol.EnvelopeCodecs
import AsynCS.Worker.BfibeSlot
import AsynCS.Worker.InputAuth

/-!
# Are the roles of the BF-IBE keys separated?

A request comes with two key ciphertexts: `C_key` for its input, which should be an envelope for
the FID, and `C_k_func` for the function code, which should be one for the label.  `DecKey` takes
the private key from the purpose that the envelope itself names.

* `RequestRole`, `FunctionRole`: what the two call sites are meant to open.
* `opened_of_decKey`: what `DecKey` has opened when it gives a key.
* `RolesSeparated`, `rolesSeparated_iff`: a run opens both as meant exactly when neither envelope
  names the purpose of the other.
* `crossedRequest_not_separated`: a module that is unlocked with the key of the FID.
-/

namespace AsynCS
namespace Worker

open Proc

variable {S : Sgx} {B : Bfibe} {kind : RunKind} {env : RunEnv} {args : RunArgs} {g : Globals}

/-! ## Roles -/

/-- An envelope of this purpose and context, opened under a private key. -/
structure EnvelopeOpened (B : Bfibe) (skId : KeySlot) (purpose c aadContext : Bytes)
    (view : BfibeKeyEnvelopeView) : Prop where
  parsed : parseBfibeEnvelope c = some view
  purpose : view.purpose = purpose
  context : view.aadContext = aadContext
  decrypts : ∃ aad sessionKey, buildBfibeEnvelopeAad view 512 = some aad ∧
    B.decryptKeyEnvelope skId.key view.c1 view.nonce view.ciphertext aad = some sessionKey

/-- A request key: an envelope to the FID of the slot, opened with its key. -/
def RequestRole (B : Bfibe) (slot : BfibeSlot) (c aadContext : Bytes) : Prop :=
  ∃ view, EnvelopeOpened B slot.keys.requestSk requestPurpose c aadContext view ∧
    view.identity = ascii "fid:" ++ slot.fid.str.bytes

/-- A function key: an envelope to a label, opened with the key of the label. -/
def FunctionRole (B : Bfibe) (slot : BfibeSlot) (c aadContext : Bytes) : Prop :=
  ∃ view, EnvelopeOpened B slot.keys.functionSk functionPurpose c aadContext view ∧
    ascii "label:" <+: view.identity

/-- The purpose that an envelope names. -/
def purposeOf (c : Bytes) : Option Bytes := (parseBfibeEnvelope c).map BfibeKeyEnvelopeView.purpose

/-- The private key of an envelope is that of its purpose. -/
theorem identityKey_ok {slot : BfibeSlot} {view : BfibeKeyEnvelopeView} {skId : KeySlot}
    (h : identityKey slot view = .ok skId) :
    (view.purpose = requestPurpose ∧ skId = slot.keys.requestSk ∧
        view.identity = ascii "fid:" ++ slot.fid.str.bytes) ∨
      (view.purpose = functionPurpose ∧ skId = slot.keys.functionSk ∧
        ascii "label:" <+: view.identity) := by
  unfold identityKey at h
  split at h
  · rename_i hpurpose
    dsimp only at h
    split at h
    · exact absurd h (by simp)
    · split at h
      · exact absurd h (by simp)
      · rename_i hidentity
        exact Or.inl ⟨hpurpose, (Except.ok.inj h).symm, not_not.mp hidentity⟩
  · split at h
    · rename_i hpurpose
      split at h
      · exact absurd h (by simp)
      · rename_i hidentity
        refine Or.inr ⟨hpurpose, (Except.ok.inj h).symm, ?_⟩
        rw [not_not] at hidentity
        exact hidentity ▸ List.take_prefix 6 view.identity
    · exact absurd h (by simp)

/-- **What `DecKey` opens** without a capability: an envelope for this context, in the role that
its own purpose names. -/
theorem opened_of_decKey {ok : DecKeySite → Bool} {slot : BfibeSlot} {c domain : Bytes}
    {key : Block 32} (h : decKey S B ok slot none c domain = .ok key) :
    RequestRole B slot c domain ∨ FunctionRole B slot c domain := by
  have hbfibe := (decKey_none_ok h).2
  unfold decKeyBfibe at hbfibe
  split at hbfibe
  · exact absurd hbfibe (by simp)
  · split at hbfibe
    · exact absurd hbfibe (by simp)
    · rename_i view hparsed
      split at hbfibe
      · exact absurd hbfibe (by simp)
      · rename_i hcontext
        cases hsk : identityKey slot view with
        | error texts =>
          rw [hsk] at hbfibe
          exact absurd hbfibe (by simp [bind, Except.bind])
        | ok skId =>
          rw [hsk] at hbfibe
          simp only [bind, Except.bind] at hbfibe
          split at hbfibe
          · exact absurd hbfibe (by simp)
          · split at hbfibe
            · exact absurd hbfibe (by simp)
            · rename_i aad haad
              split at hbfibe
              · exact absurd hbfibe (by simp)
              · rename_i sessionKey hdecrypt
                rw [Option.ite_none_right_eq_some] at hdecrypt
                have hopened : ∀ purpose, view.purpose = purpose →
                    EnvelopeOpened B skId purpose c domain view := fun purpose hpurpose =>
                  ⟨hparsed, hpurpose, not_not.mp hcontext, aad, sessionKey, haad, hdecrypt.2⟩
                rcases identityKey_ok hsk with ⟨hp, rfl, hid⟩ | ⟨hp, rfl, hid⟩
                · exact Or.inl ⟨view, hopened _ hp, hid⟩
                · exact Or.inr ⟨view, hopened _ hp, hid⟩

theorem purposeOf_requestRole {slot : BfibeSlot} {c aadContext : Bytes}
    (h : RequestRole B slot c aadContext) : purposeOf c = some requestPurpose := by
  obtain ⟨view, hopened, -⟩ := h
  rw [purposeOf, hopened.parsed, Option.map_some, hopened.purpose]

theorem purposeOf_functionRole {slot : BfibeSlot} {c aadContext : Bytes}
    (h : FunctionRole B slot c aadContext) : purposeOf c = some functionPurpose := by
  obtain ⟨view, hopened, -⟩ := h
  rw [purposeOf, hopened.parsed, Option.map_some, hopened.purpose]

/-! ## Runs -/

/-- The function cache has no module for the package. -/
def Misses (S : Sgx) (args : RunArgs) (g : Globals) : Prop :=
  g.functionCacheLookup (invocationFid g args) (S.sha256 args.encryptedWasm) = none

/-- **The roles are separated** in a call with an envelope: it executes only after it opened
`C_key` as a request key under the associated data of the request and, on a miss, `C_k_func` as a
function key under those of the package. -/
def RolesSeparated (kind : RunKind) (S : Sgx) (B : Bfibe) (env : RunEnv) (args : RunArgs)
    (g : Globals) : Prop :=
  args.useBfibeKeys = true → ∀ wasm argument, Executes kind S B env args g wasm argument →
    RequestRole B g.bfibe args.cKey (aadReq S g.bfibe.fid.str args.nonce args.pkU) ∧
      (Misses S args g → FunctionRole B g.bfibe args.cKFunc (aadPkg g.bfibe.fid.str))

/-- Neither envelope names the purpose of the other; `C_k_func` is looked at on a miss only. -/
def PurposesFit (S : Sgx) (args : RunArgs) (g : Globals) : Prop :=
  purposeOf args.cKey ≠ some functionPurpose ∧
    (Misses S args g → purposeOf args.cKFunc ≠ some requestPurpose)

/-- What a call with an envelope has opened when it executes, in whatever role. -/
theorem opened_of_executes (hbfibe : args.useBfibeKeys = true) {wasm : Bytes}
    {argument : Option Bytes} (h : Executes kind S B env args g wasm argument) :
    (RequestRole B g.bfibe args.cKey (aadReq S g.bfibe.fid.str args.nonce args.pkU) ∨
        FunctionRole B g.bfibe args.cKey (aadReq S g.bfibe.fid.str args.nonce args.pkU)) ∧
      (Misses S args g →
        RequestRole B g.bfibe args.cKFunc (aadPkg g.bfibe.fid.str) ∨
          FunctionRole B g.bfibe args.cKFunc (aadPkg g.bfibe.fid.str)) := by
  obtain ⟨c, m, hstarts, -, -⟩ := executes_iff_startsModule.mp h
  have hadm := hstarts.admits
  have hfid : invocationFid g args = g.bfibe.fid.str := if_pos hbfibe
  obtain ⟨hpkg, hreq, -, -, hlabel⟩ := runContext_some hadm.context
  rw [hfid] at hpkg hreq
  constructor
  · have hkey := hadm.requestKey
    rw [requestKey, if_pos hbfibe, hreq] at hkey
    exact opened_of_decKey hkey
  · intro hmiss
    have hmodule := hadm.module
    rw [moduleOf, hlabel, show g.functionCacheLookup _ _ = none from hmiss] at hmodule
    dsimp only at hmodule
    split at hmodule
    · exact absurd hmodule (by simp)
    · rw [packageModule, labelKey, if_pos hbfibe] at hmodule
      simp only [Option.bind_eq_bind, Option.bind_some, Option.bind_eq_some_iff,
        toOption_eq_some_iff] at hmodule
      obtain ⟨kFunc, hkFunc, -⟩ := hmodule
      rw [functionKey, if_pos hbfibe, hpkg] at hkFunc
      exact opened_of_decKey hkFunc

/-- **When the roles are separated**: exactly when a call that executes has envelopes of fitting
purposes. -/
theorem rolesSeparated_iff :
    RolesSeparated kind S B env args g ↔
      (args.useBfibeKeys = true → ∀ wasm argument,
        Executes kind S B env args g wasm argument → PurposesFit S args g) := by
  have hne : some requestPurpose ≠ some functionPurpose :=
    fun h => functionPurpose_ne_requestPurpose (Option.some.inj h).symm
  constructor
  · intro h hbfibe wasm argument hexec
    obtain ⟨hkey, hfunc⟩ := h hbfibe wasm argument hexec
    refine ⟨?_, fun hmiss => ?_⟩
    · rw [purposeOf_requestRole hkey]
      exact hne
    · rw [purposeOf_functionRole (hfunc hmiss)]
      exact hne.symm
  · intro h hbfibe wasm argument hexec
    obtain ⟨hkeyFits, hfuncFits⟩ := h hbfibe wasm argument hexec
    obtain ⟨hkey, hfunc⟩ := opened_of_executes hbfibe hexec
    refine ⟨?_, fun hmiss => ?_⟩
    · rcases hkey with hkey | hkey
      · exact hkey
      · exact absurd (purposeOf_functionRole hkey) hkeyFits
    · rcases hfunc hmiss with hfunc | hfunc
      · exact absurd (purposeOf_requestRole hfunc) (hfuncFits hmiss)
      · exact hfunc

/-! ## A module unlocked with the key of the FID -/

/-- An envelope with a session key of ones under a private key of one byte. -/
def roleEnvelope (purpose identity aadContext : Bytes) : Bytes :=
  encodeEnvelope
    ⟨bfibeProfileId, purpose, identity, aadContext, [1], List.replicate 12 0,
      List.replicate 31 1⟩

/-- The session key of such an envelope under the key of the FID in `goodKeysWorker`. -/
def roleSessionKey : Block 16 := Block.fill 16 1

/-- A request for the FID `f` whose two key ciphertexts are both wrapped to the FID. -/
def crossedRequest : RunArgs where
  encryptedWasm := [7]
  encryptedInput := [5]
  cKFunc := roleEnvelope requestPurpose (ascii "fid:f") (aadPkg (CStr.lit "f"))
  cKey := roleEnvelope requestPurpose (ascii "fid:f")
    (aadReq Sgx.sample (CStr.lit "f") (Block.fill 16 0) (Block.fill 65 4))
  nonce := Block.fill 16 0
  pkU := Block.fill 65 4
  maxOutSize := 4
  wasmIv := Block.fill 12 0
  wasmMac := (Sgx.sample.gcmEncrypt roleSessionKey (Block.fill 12 0) (aadPkg (CStr.lit "f")) [7]).2
  inputIv := Block.fill 12 0
  inputMac := (Sgx.sample.gcmEncrypt roleSessionKey (Block.fill 12 0)
    (aadReq Sgx.sample (CStr.lit "f") (Block.fill 16 0) (Block.fill 65 4)) [5]).2
  invokeTrace := true

/-- The worker that loaded both keys for the FID `f` executes the module, and no key of a label
was used. -/
theorem crossedRequest_not_separated :
    ¬ RolesSeparated .kem Sgx.sample Bfibe.sample sampleRunEnv crossedRequest goodKeysWorker := by
  intro h
  have hexec : Executes .kem Sgx.sample Bfibe.sample sampleRunEnv crossedRequest goodKeysWorker
      [7] (some (base64Chars [5])) := by
    show _ ∈ (runEncryptedWasm _ _ _ _ _ _).log
    decide +kernel
  obtain ⟨-, hfunc⟩ := h (by decide +kernel) _ _ hexec
  have hrole := hfunc (show _ = none by decide +kernel)
  have hpurpose : purposeOf crossedRequest.cKFunc = some requestPurpose := by decide +kernel
  rw [purposeOf_functionRole hrole] at hpurpose
  exact absurd hpurpose (by decide +kernel)

end Worker
end AsynCS
