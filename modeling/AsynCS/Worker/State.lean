import AsynCS.Lib.Proc
import AsynCS.Platform.Sgx

/-!
# The worker enclave: globals, events, and the function cache

* `EccSlot`, `BfibeSlot`: the keys of the two profiles, each with the FID it was loaded for.
  `g_worker_fid` has room for 128 bytes and no terminator; `g_bfibe_fid` keeps 127 and one.
* `CachedFunctionCode`: the one entry of the function cache, with `functionCacheClear`,
  `functionCacheLookup` and `functionCacheStore`.
* `Globals`: the state of the enclave between two ECALLs.
* `Event`: what an ECALL does besides changing the state: OCALLs, AES-GCM operations on
  payloads, and the execution of a module.

The capture buffer and the workload timestamps are written and released within one run ECALL
and are kept with it.  `capture_output` is up only while a module executes, so every other
`enclave_print` is an `ocall_print`.
-/

namespace AsynCS
namespace Worker

/-! ## Keys -/

/-- A `uint8_t[256]` with the length of the private key at its front. -/
structure KeySlot where
  buf : Block 256
  len : ℕ
  fits : len ≤ 256
  deriving DecidableEq

namespace KeySlot

/-- A slot after `bfibe_zero`, with length 0. -/
def zero : KeySlot := ⟨Block.fill 256 0, 0, Nat.zero_le 256⟩

/-- The private key in the slot. -/
def key (s : KeySlot) : Bytes := s.buf.toList.take s.len

/-- `memcpy(g_bfibe_sk, private_key, private_key_len)` and its length; the bytes behind the
new key stay. -/
def write (s : KeySlot) (privateKey : Bytes) (h : privateKey.length ≤ 256) : KeySlot where
  buf := ⟨privateKey ++ s.buf.toList.drop privateKey.length, by
    rw [List.length_append, List.length_drop, List.Vector.toList_length]
    omega⟩
  len := privateKey.length
  fits := h

@[simp] theorem key_write (s : KeySlot) (privateKey : Bytes) (h : privateKey.length ≤ 256) :
    (s.write privateKey h).key = privateKey :=
  List.take_left

@[simp] theorem len_write (s : KeySlot) (privateKey : Bytes) (h : privateKey.length ≤ 256) :
    (s.write privateKey h).len = privateKey.length := rfl

end KeySlot

/-- The key slot of the eccibe profile: `g_worker_key` (dkf), `g_worker_fid`, `g_key_loaded`,
and the label key with the flag that says it came from the KMS. -/
structure EccSlot where
  workerKey : Block 32
  workerFid : Field 128
  keyLoaded : Bool
  dklabelFromKms : Bool
  workerDklabel : Block 32
  deriving DecidableEq

/-- The two private keys of the BF-IBE profile. -/
structure KeyPairSlots where
  requestSk : KeySlot
  functionSk : KeySlot
  deriving DecidableEq

/-- The key slot of the BF-IBE profile. -/
structure BfibeSlot where
  keys : KeyPairSlots
  fid : Field 127
  keyLoaded : Bool
  deriving DecidableEq

/-! ## Globals -/

/-- The valid entry of `g_cached_function_code`: `char fid[129]`, the hash of the package, and
the plaintext, which is never empty. -/
structure CachedFunctionCode where
  fid : Field 128
  cfuncHash : Block 32
  wasm : Bytes
  nonempty : wasm ≠ []
  deriving DecidableEq

/-- The globals of the worker enclave. -/
structure Globals where
  privateKey : Block 32
  publicKey : Block 64
  keypairReady : Bool
  ecc : EccSlot
  bfibe : BfibeSlot
  cache : Option CachedFunctionCode
  dklabelFunc : Block 32
  dklabelFuncValid : Bool
  deriving DecidableEq

namespace Globals

/-- The globals of a new enclave. -/
def initial : Globals where
  privateKey := Block.fill 32 0
  publicKey := Block.fill 64 0
  keypairReady := false
  ecc := ⟨Block.fill 32 0, Field.zero 128, false, false, Block.fill 32 0⟩
  bfibe := ⟨⟨KeySlot.zero, KeySlot.zero⟩, Field.zero 127, false⟩
  cache := none
  dklabelFunc := Block.fill 32 0
  dklabelFuncValid := false

/-! ## The function cache -/

/-- `function_cache_clear`. -/
def functionCacheClear (g : Globals) : Globals := { g with cache := none }

/-- `function_cache_lookup`. -/
def functionCacheLookup (g : Globals) (fid : CStr) (cfuncHash : Block 32) : Option Bytes :=
  match g.cache with
  | none => none
  | some entry =>
    if !CStr.strncmpEq 128 entry.fid.str fid then none
    else if entry.cfuncHash ≠ cfuncHash then none
    else some entry.wasm

/-- `function_cache_store`: it fails when the copy cannot be allocated or is empty. -/
def functionCacheStore (g : Globals) (malloc : Bool) (fid : CStr) (cfuncHash : Block 32)
    (wasm : Bytes) : Globals × Bool :=
  if h : wasm ≠ [] ∧ malloc = true then
    ({ g with cache := some ⟨Field.store 128 fid, cfuncHash, wasm, h.1⟩ }, true)
  else (g, false)

/-- `ecall_zeroize_label_key`. -/
def zeroizeLabelKey (g : Globals) : Globals :=
  if g.dklabelFuncValid then
    { g with dklabelFunc := Block.fill 32 0, dklabelFuncValid := false }
  else g

/-- **A cache hit** holds the module that was stored for this FID and this package. -/
theorem functionCacheLookup_eq_some_iff {g : Globals} {fid : CStr} (hfid : fid.strlen ≤ 128)
    {cfuncHash : Block 32} {wasm : Bytes} :
    g.functionCacheLookup fid cfuncHash = some wasm ↔
      ∃ entry, g.cache = some entry ∧ entry.fid.str = fid ∧ entry.cfuncHash = cfuncHash ∧
        entry.wasm = wasm := by
  unfold functionCacheLookup
  cases hc : g.cache with
  | none => simp
  | some entry =>
    have hcmp : CStr.strncmpEq 128 entry.fid.str fid = true ↔ entry.fid.str = fid := by
      rw [Field.strncmpEq_iff le_rfl, CStr.cut_of_le hfid]
    simp only [Option.some.injEq, exists_eq_left']
    by_cases hf : entry.fid.str = fid
    · subst hf
      by_cases hh : entry.cfuncHash = cfuncHash
      · simp [hcmp, hh]
      · simp [hh]
    · have hne : CStr.strncmpEq 128 entry.fid.str fid = false := by
        rw [Bool.eq_false_iff, Ne, hcmp]
        exact hf
      simp [hne, hf]

theorem functionCacheStore_cases (g : Globals) (malloc : Bool) (fid : CStr)
    (cfuncHash : Block 32) (wasm : Bytes) :
    (∃ h : wasm ≠ [], malloc = true ∧ g.functionCacheStore malloc fid cfuncHash wasm =
      ({ g with cache := some ⟨Field.store 128 fid, cfuncHash, wasm, h⟩ }, true)) ∨
    g.functionCacheStore malloc fid cfuncHash wasm = (g, false) := by
  unfold functionCacheStore
  split
  · rename_i h
    exact Or.inl ⟨h.1, h.2, rfl⟩
  · exact Or.inr rfl

end Globals

/-! ## Events -/

/-- What an ECALL does besides changing the globals. -/
inductive Event where
  /-- `ocall_print` -/
  | ocallPrint (message : Bytes)
  /-- `ocall_writev` -/
  | ocallWritev (fd : ℕ) (data : Bytes)
  /-- `sgx_rijndael128GCM_decrypt` of a package or of an input -/
  | gcmDecrypt (key : Block 16) (iv : Block 12) (aad ciphertext : Bytes) (tag : Block 16)
      (plaintext : Option Bytes)
  /-- `sgx_rijndael128GCM_encrypt` of an output -/
  | gcmEncrypt (key : Block 16) (iv : Block 12) (aad plaintext : Bytes)
  /-- `wasm_application_execute_main`, with the argument after the program name -/
  | executeMain (wasm : Bytes) (argument : Option Bytes)
  deriving DecidableEq

/-- The event is a print. -/
def Event.IsPrint (e : Event) : Prop := ∃ message, e = .ocallPrint message

/-- `enclave_print` outside the execution of a module. -/
def enclavePrint {σ : Type} (message : Bytes) : Proc Event σ Unit :=
  Proc.emit (.ocallPrint message)

/-- `enclave_print` of a literal. -/
def enclavePrintLit {σ : Type} (message : String) : Proc Event σ Unit :=
  enclavePrint (ascii message)

theorem frame_enclavePrint {σ : Type} (message : Bytes) :
    Proc.Frame Eq Event.IsPrint (enclavePrint message : Proc Event σ Unit) :=
  Proc.Frame.emit ⟨message, rfl⟩

theorem frame_enclavePrintLit {σ : Type} (message : String) :
    Proc.Frame Eq Event.IsPrint (enclavePrintLit message : Proc Event σ Unit) :=
  frame_enclavePrint _

/-- Print the texts in order. -/
def printAll {σ : Type} : List String → Proc Event σ Unit
  | [] => pure ()
  | text :: texts => do
    enclavePrintLit text
    printAll texts

theorem frame_printAll {σ : Type} (texts : List String) :
    Proc.Frame Eq Event.IsPrint (printAll texts : Proc Event σ Unit) := by
  induction texts with
  | nil => exact Proc.Frame.pure ()
  | cons text texts ih => exact (frame_enclavePrintLit text).bind fun _ => ih

/-- Continue with the value of a helper, or print what the helper printed when it failed and
leave. -/
def orReport {σ α : Type} (r : Except (List String) α) : Proc Event σ α :=
  match r with
  | .ok a => pure a
  | .error texts => do
    printAll texts
    Proc.stop

@[simp] theorem gives_orReport {σ α : Type} {r : Except (List String) α} {s s' : σ} {a : α} :
    Proc.Gives (orReport r : Proc Event σ α) s a s' ↔ r = .ok a ∧ s' = s := by
  cases r with
  | ok x =>
    refine Proc.gives_pure.trans ?_
    rw [Except.ok.injEq, eq_comm (a := a)]
  | error texts =>
    refine Proc.gives_bind.trans ?_
    simp

theorem frame_orReport {σ α : Type} (r : Except (List String) α) :
    Proc.Frame Eq Event.IsPrint (orReport r : Proc Event σ α) := by
  cases r with
  | ok x => exact Proc.Frame.pure x
  | error texts => exact (frame_printAll texts).bind fun _ => Proc.Frame.stop

@[simp] theorem state_orReport {σ α : Type} (r : Except (List String) α) (s : σ) :
    ((orReport r : Proc Event σ α) s).state = s :=
  ((frame_orReport r).state s).symm

@[simp] theorem value_orReport {σ α : Type} (r : Except (List String) α) (s : σ) :
    ((orReport r : Proc Event σ α) s).value = r.toOption := by
  refine Option.ext fun a => ?_
  constructor
  · intro h
    rw [(gives_orReport.mp ⟨h, state_orReport r s⟩).1]
    rfl
  · intro h
    cases r with
    | ok x => exact h
    | error texts => exact absurd h (by simp [Except.toOption])

end Worker
end AsynCS
