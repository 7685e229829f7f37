import AsynCS.Protocol.KeyRelease
import AsynCS.Worker.State

/-!
# Loading the keys of the eccibe profile

`ecall_create_report` makes the worker's key pair; `ecall_decrypt_key` and
`ecall_decrypt_keys_batch` unwrap the blobs that the KMS encrypted to it and fill the key slot
of the eccibe profile; `ecall_has_key` says whether a slot holds keys for an FID.

* `unwrapKey`: the unwrapping that all three blocks of the source repeat.
* `decryptKey_run`, `decryptKeysBatch_run`: what each loader leaves, stopping or not.  The
  batch writes `g_worker_key` before it looks at the second blob.
-/

namespace AsynCS
namespace Worker

open Proc

/-! ## Key pair -/

/-- The platform during `ecall_create_report`. -/
structure ReportEnv where
  openContext : Bool
  keyPair : Option (Block 32 × Block 64)
  hash : Bool
  deriving DecidableEq

/-- `ecall_create_report` on the globals: the new key pair is in place before the hash that
goes into the report is computed. -/
def ecallCreateReport (env : ReportEnv) : Proc Event Globals Unit := do
  require env.openContext (enclavePrintLit "Error opening ECC context\n")
  let (priv, pub) ← orStop env.keyPair (enclavePrintLit "Error creating key pair\n")
  modify fun g => { g with privateKey := priv, publicKey := pub }
  require env.hash (enclavePrintLit "Error hashing public key\n")
  modify fun g => { g with keypairReady := true }

/-! ## Unwrapping -/

/-- The platform during the unwrapping of one blob. -/
structure UnwrapEnv where
  openContext : Bool
  decrypt : Bool
  deriving DecidableEq

/-- The texts that one block of the source prints when it fails. -/
structure UnwrapTexts where
  context : String
  sharedSecret : String
  decrypt : String

/-- Decrypt one blob with the worker's private key: the shared secret with the KMS key, its
first 16 bytes, AES-GCM without associated data. -/
def unwrapKey (S : Sgx) (env : UnwrapEnv) (privateKey : Block 32) (blob : KeyBlob) :
    Option (Block 32) :=
  if !env.openContext then none
  else do
    let sharedSecret ← S.computeSharedDhkey privateKey blob.kmsPub
    if !env.decrypt then none
    else
      let plaintext ←
        S.gcmDecrypt (sharedSecret.first 16) blob.iv [] blob.ciphertext.toList blob.tag
      some (Block.ofBytes 32 plaintext)

/-- The block of the source that unwraps one blob, with its texts. -/
def unwrapBlock (S : Sgx) (env : UnwrapEnv) (texts : UnwrapTexts) (blob : KeyBlob) :
    Proc Event Globals (Block 32) := do
  let g ← get
  require env.openContext (enclavePrintLit texts.context)
  let _ ← orStop (S.computeSharedDhkey g.privateKey blob.kmsPub)
    (enclavePrintLit texts.sharedSecret)
  orStop (unwrapKey S env g.privateKey blob) (enclavePrintLit texts.decrypt)

/-- The texts of `ecall_decrypt_key`. -/
def keyTexts : UnwrapTexts :=
  ⟨"Error opening ECC context\n", "Error computing shared secret\n",
    "Error decrypting key from KMS\n"⟩

/-- The texts of the first block of `ecall_decrypt_keys_batch`. -/
def dkfTexts : UnwrapTexts :=
  ⟨"Error opening ECC context for dkf\n", "Error computing shared secret for dkf\n",
    "Error decrypting dkf from KMS\n"⟩

/-- The texts of the second block of `ecall_decrypt_keys_batch`. -/
def dklabelTexts : UnwrapTexts :=
  ⟨"Error opening ECC context for dklabel\n", "Error computing shared secret for dklabel\n",
    "Error decrypting dklabel from KMS\n"⟩

/-! ## The loaders -/

namespace Globals

/-- `memcpy(g_worker_key, plaintext, 32)`. -/
def setWorkerKey (key : Block 32) (g : Globals) : Globals :=
  { g with ecc := { g.ecc with workerKey := key } }

@[simp] theorem setWorkerKey_privateKey (key : Block 32) (g : Globals) :
    (g.setWorkerKey key).privateKey = g.privateKey := rfl

/-- `memcpy(g_worker_dklabel, plaintext, 32); g_dklabel_from_kms = true`. -/
def setDklabel (key : Block 32) (g : Globals) : Globals :=
  { g with ecc := { g.ecc with workerDklabel := key, dklabelFromKms := true } }

/-- The end of both loaders: the function cache is cleared unless the slot was loaded for this
FID as far as `strncmp(g_worker_fid, fid, 128)` sees, and the FID is stored by
`strncpy(g_worker_fid, fid, 128)`. -/
def storeWorkerFid (fid : CStr) (g : Globals) : Globals :=
  let cleared :=
    if !g.ecc.keyLoaded || !CStr.strncmpEq 128 g.ecc.workerFid.str fid then g.functionCacheClear
    else g
  { cleared with ecc := { cleared.ecc with workerFid := Field.store 128 fid, keyLoaded := true } }

end Globals

/-- `ecall_decrypt_key`.  The copy of the key to `decrypted_key` is an output that decides
nothing in the enclave. -/
def ecallDecryptKey (S : Sgx) (env : UnwrapEnv) (encryptedKey : KeyBlob) (fid : CStr) :
    Proc Event Globals Unit := do
  enclavePrintLit "Enclave: Decrypting received key...\n"
  let plaintext ← unwrapBlock S env keyTexts encryptedKey
  modify (Globals.setWorkerKey plaintext)
  modify (Globals.storeWorkerFid fid)
  enclavePrintLit "Enclave: Key stored securely for FID: "
  enclavePrint fid.bytes
  enclavePrintLit "\n"

/-- `ecall_decrypt_keys_batch`. -/
def ecallDecryptKeysBatch (S : Sgx) (env envLabel : UnwrapEnv)
    (encryptedDkf encryptedDklabel : KeyBlob) (fid : CStr) : Proc Event Globals Unit := do
  enclavePrintLit "Enclave: Decrypting keys from KMS (batch: dkf + dklabel)...\n"
  let dkf ← unwrapBlock S env dkfTexts encryptedDkf
  modify (Globals.setWorkerKey dkf)
  let dklabel ← unwrapBlock S envLabel dklabelTexts encryptedDklabel
  modify (Globals.setDklabel dklabel)
  modify (Globals.storeWorkerFid fid)
  enclavePrintLit "Enclave: Both dkf and dklabel loaded from KMS for FID: "
  enclavePrint fid.bytes
  enclavePrintLit "\n"
  enclavePrintLit "  Note: dklabel obtained via KMS (BindLabelToFID enforced)\n"

/-- What `ecall_has_key` finds in the slot of the eccibe profile. -/
def eccHasKey (slot : EccSlot) (fid : CStr) : Bool :=
  slot.keyLoaded && CStr.strncmpEq 128 slot.workerFid.str fid

/-- What `ecall_has_key` finds in the slot of the BF-IBE profile. -/
def bfibeHasKey (slot : BfibeSlot) (fid : CStr) : Bool :=
  slot.keyLoaded && CStr.strncmpEq 128 slot.fid.str fid

/-- `ecall_has_key`. -/
def ecallHasKey (g : Globals) (fid : CStr) : Int :=
  if eccHasKey g.ecc fid then 1 else if bfibeHasKey g.bfibe fid then 1 else 0

/-! ## What the loaders leave -/

variable {S : Sgx}

/-- A blob that unwraps has a context and a shared secret. -/
theorem unwrapKey_some {env : UnwrapEnv} {privateKey : Block 32} {blob : KeyBlob} {k : Block 32}
    (h : unwrapKey S env privateKey blob = some k) :
    env.openContext = true ∧ ∃ s, S.computeSharedDhkey privateKey blob.kmsPub = some s := by
  unfold unwrapKey at h
  split at h
  · exact absurd h (by simp)
  · rename_i hopen
    simp only [Option.bind_eq_bind, Option.bind_eq_some_iff] at h
    obtain ⟨s, hs, -⟩ := h
    exact ⟨by simpa using hopen, s, hs⟩

/-- The block gives the key of the blob and leaves the globals as they are. -/
theorem gives_unwrapBlock {env : UnwrapEnv} {texts : UnwrapTexts} {blob : KeyBlob}
    {g g' : Globals} {k : Block 32} :
    Gives (unwrapBlock S env texts blob) g k g' ↔
      unwrapKey S env g.privateKey blob = some k ∧ g' = g := by
  simp only [unwrapBlock, gives_bind, gives_get, gives_require, gives_orStop]
  constructor
  · rintro ⟨_, _, ⟨rfl, rfl⟩, _, _, ⟨-, rfl⟩, _, _, ⟨-, rfl⟩, hk, rfl⟩
    exact ⟨hk, rfl⟩
  · rintro ⟨hk, rfl⟩
    obtain ⟨hopen, s, hs⟩ := unwrapKey_some hk
    exact ⟨_, _, ⟨rfl, rfl⟩, (), _, ⟨hopen, rfl⟩, s, _, ⟨hs, rfl⟩, hk, rfl⟩

/-- The block moves nothing, wherever it stops, and only prints. -/
theorem frame_unwrapBlock (env : UnwrapEnv) (texts : UnwrapTexts) (blob : KeyBlob) :
    Frame Eq Event.IsPrint (unwrapBlock S env texts blob) := by
  refine Frame.get.bind fun g => (Frame.require ?_).bind fun _ =>
    (Frame.orStop ?_).bind fun _ => Frame.orStop ?_
  all_goals exact Frame.emit ⟨_, rfl⟩

@[simp] theorem state_unwrapBlock (env : UnwrapEnv) (texts : UnwrapTexts) (blob : KeyBlob)
    (g : Globals) : (unwrapBlock S env texts blob g).state = g :=
  ((frame_unwrapBlock env texts blob).state g).symm

@[simp] theorem value_unwrapBlock (env : UnwrapEnv) (texts : UnwrapTexts) (blob : KeyBlob)
    (g : Globals) :
    (unwrapBlock S env texts blob g).value = unwrapKey S env g.privateKey blob := by
  refine Option.ext fun k => ?_
  constructor
  · intro h
    exact (gives_unwrapBlock.mp ⟨h, state_unwrapBlock env texts blob g⟩).1
  · intro h
    exact (gives_unwrapBlock.mpr ⟨h, rfl⟩).1

/-- **What `ecall_decrypt_key` leaves**: the key of the blob with its FID, or what was there. -/
theorem state_ecallDecryptKey (env : UnwrapEnv) (blob : KeyBlob) (fid : CStr) (g : Globals) :
    (ecallDecryptKey S env blob fid g).state =
      match unwrapKey S env g.privateKey blob with
      | some key => (g.setWorkerKey key).storeWorkerFid fid
      | none => g := by
  simp only [ecallDecryptKey, enclavePrintLit, enclavePrint, state_bind, state_emit, value_emit,
    state_unwrapBlock, value_unwrapBlock, state_modify, value_modify]
  cases unwrapKey S env g.privateKey blob <;> rfl

theorem value_ecallDecryptKey (env : UnwrapEnv) (blob : KeyBlob) (fid : CStr) (g : Globals) :
    (ecallDecryptKey S env blob fid g).value =
      (unwrapKey S env g.privateKey blob).map fun _ => () := by
  simp only [ecallDecryptKey, enclavePrintLit, enclavePrint, value_bind, state_emit, value_emit,
    state_unwrapBlock, value_unwrapBlock, value_modify, Option.bind_some]
  cases unwrapKey S env g.privateKey blob <;> rfl

/-- **What `ecall_decrypt_keys_batch` leaves**: both keys with the FID; the first key alone
when the second blob does not unwrap; or what was there. -/
theorem state_ecallDecryptKeysBatch (env envLabel : UnwrapEnv) (dkf dklabel : KeyBlob)
    (fid : CStr) (g : Globals) :
    (ecallDecryptKeysBatch S env envLabel dkf dklabel fid g).state =
      match unwrapKey S env g.privateKey dkf with
      | none => g
      | some key =>
        match unwrapKey S envLabel g.privateKey dklabel with
        | none => g.setWorkerKey key
        | some label => ((g.setWorkerKey key).setDklabel label).storeWorkerFid fid := by
  simp only [ecallDecryptKeysBatch, enclavePrintLit, enclavePrint, state_bind, state_emit,
    value_emit, state_unwrapBlock, value_unwrapBlock, state_modify, value_modify,
    Globals.setWorkerKey_privateKey]
  cases unwrapKey S env g.privateKey dkf with
  | none => rfl
  | some key => cases unwrapKey S envLabel g.privateKey dklabel <;> rfl

theorem value_ecallDecryptKeysBatch (env envLabel : UnwrapEnv) (dkf dklabel : KeyBlob)
    (fid : CStr) (g : Globals) :
    (ecallDecryptKeysBatch S env envLabel dkf dklabel fid g).value =
      (unwrapKey S env g.privateKey dkf).bind fun _ =>
        (unwrapKey S envLabel g.privateKey dklabel).map fun _ => () := by
  simp only [ecallDecryptKeysBatch, enclavePrintLit, enclavePrint, value_bind, state_emit,
    value_emit, state_unwrapBlock, value_unwrapBlock, state_modify, value_modify,
    Option.bind_some, Globals.setWorkerKey_privateKey]
  refine Option.bind_congr fun key _ => ?_
  cases unwrapKey S envLabel g.privateKey dklabel <;> rfl

end Worker
end AsynCS
