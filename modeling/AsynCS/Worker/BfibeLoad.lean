import AsynCS.Protocol.KeyRelease
import AsynCS.Worker.State

/-!
# Loading a BF-IBE key release into the worker

`ecall_load_bfibe_key_release` parses an `ASBFREL1` envelope, checks that it is for the FID,
decrypts its ciphertext under the associated data, and imports the `ASBFSKS1` set inside.

* `parseBfibeKeyRelease`, `buildBfibeKeyReleaseAad`, `openRelease`: up to the plaintext, with
  the text of each failure; nothing is written on the way.
* `readKeyRecord`, `importBfibePrivateKeyRecord`, `importRecords`, `parseBfibePrivateKeySet`:
  the import, which writes the two key slots while it reads.  `importRecords` is the loop over
  the attacker-sized record count.
* `ecallLoadBfibeKeyRelease` with `state_ecallLoadBfibeKeyRelease`: what it leaves.
* `parseBfibeKeyRelease_encode`, `parseBfibePrivateKeySet_encode`: what the KMS writes is read.

A parser that keeps an offset into a buffer is a function of the bytes behind the offset here.
-/

namespace AsynCS
namespace Worker

open Proc

/-! ## The release envelope -/

/-- `is_bfibe_key_release_payload`. -/
def isBfibeKeyReleasePayload (release : Bytes) : Bool :=
  decide (9 ≤ release.length) && (release.take 8 == bfibeKeyReleaseMagic) &&
    (release.drop 8).take 1 == [1]

/-- `parse_bfibe_key_release`. -/
def parseBfibeKeyRelease (release : Bytes) : Option ReleaseParts :=
  if !isBfibeKeyReleasePayload release then none
  else do
    let (profileLen, r) ← readU32be (release.drop 9)
    let (fidLen, r) ← readU32be r
    let (workerIdentityLen, r) ← readU32be r
    let (wrapPublicKeyLen, r) ← readU32be r
    let (nonceLen, r) ← readU32be r
    let (ciphertextLen, r) ← readU32be r
    let (profile, r) ← takeBytes profileLen r
    let (fid, r) ← takeBytes fidLen r
    let (workerIdentity, r) ← takeBytes workerIdentityLen r
    let (wrapPublicKey, r) ← takeBytes wrapPublicKeyLen r
    let (nonce, r) ← takeBytes nonceLen r
    let (ciphertext, r) ← takeBytes ciphertextLen r
    if r = [] ∧ profile = bfibeProfileId ∧ wrapPublicKey.length = 64 ∧ nonce.length = 12 ∧
        16 < ciphertext.length then
      some ⟨profile, fid, workerIdentity, wrapPublicKey, nonce, ciphertext⟩
    else none

/-- `build_bfibe_key_release_aad` of the worker. -/
def buildBfibeKeyReleaseAad (view : ReleaseParts) (capacity : ℕ) : Option Bytes :=
  writeParts capacity
    [bfibeAadMagic, u32be view.profile.length, view.profile, u32be view.fid.length, view.fid,
      u32be view.workerIdentity.length, view.workerIdentity, u32be view.wrapPublicKey.length,
      view.wrapPublicKey] []

/-- The platform during a load. -/
structure LoadEnv where
  openContext : Bool
  malloc : Bool
  decrypt : Bool
  deriving DecidableEq

/-- `ecall_load_bfibe_key_release` up to the decrypted key set, with the FID it is for and
what is printed on failure. -/
def openRelease (S : Sgx) (env : LoadEnv) (g : Globals) (release : Bytes) (fid : Option CStr) :
    Except (List String) (CStr × Bytes) :=
  match fid with
  | none => .error ["Error: BF-IBE key-release requires worker keypair.\n"]
  | some fid =>
    if !g.keypairReady then .error ["Error: BF-IBE key-release requires worker keypair.\n"]
    else
      match parseBfibeKeyRelease release with
      | none => .error ["Error: Invalid BF-IBE key-release envelope.\n"]
      | some view =>
        if view.fid ≠ fid.bytes then .error ["Error: BF-IBE key-release FID mismatch.\n"]
        else
          match buildBfibeKeyReleaseAad view 256 with
          | none => .error ["Error: BF-IBE key-release AAD build failed.\n"]
          | some aad =>
            if !env.openContext then .error ["Error: BF-IBE key-release ECC context failed.\n"]
            else
              match S.computeSharedDhkey g.privateKey (Block.ofBytes 64 view.wrapPublicKey) with
              | none => .error ["Error: BF-IBE key-release shared secret failed.\n"]
              | some sharedSecret =>
                if !env.malloc then .error []
                else
                  let encryptedLen := view.ciphertext.length - 16
                  match (if env.decrypt then
                      S.gcmDecrypt (sharedSecret.first 16) (Block.ofBytes 12 view.nonce) aad
                        (view.ciphertext.take encryptedLen)
                        (Block.ofBytes 16 (view.ciphertext.drop encryptedLen))
                    else none) with
                  | none => .error ["Error: BF-IBE key-release decrypt failed.\n"]
                  | some plaintext => .ok (fid, plaintext)

/-! ## The private-key set -/

/-- The header of a private-key set: the number of records, and the bytes behind the
profile. -/
def readKeySetHeader (plaintext : Bytes) : Option (ℕ × Bytes) :=
  if plaintext.length < 17 then none
  else do
    let (magic, r) ← takeBytes 8 plaintext
    let (version, r) ← takeBytes 1 r
    if magic ≠ bfibePrivateKeySetMagic ∨ version ≠ [1] then none
    else
      let (profileLen, r) ← readU32be r
      let (recordCount, r) ← readU32be r
      let (profile, r) ← takeBytes profileLen r
      if profile ≠ bfibeProfileId ∨ recordCount = 0 then none else some (recordCount, r)

/-- One record of a private-key set, and the bytes behind it. -/
def readKeyRecord (input : Bytes) : Option (KeyRecord × Bytes) := do
  let (purposeLen, r) ← readU32be input
  let (identityLen, r) ← readU32be r
  let (privateKeyLen, r) ← readU32be r
  let (purpose, r) ← takeBytes purposeLen r
  let (identity, r) ← takeBytes identityLen r
  let (privateKey, r) ← takeBytes privateKeyLen r
  some (⟨purpose, identity, privateKey⟩, r)

/-- The key slots and the two found flags during an import. -/
structure ImportState where
  keys : KeyPairSlots
  foundRequestKey : Bool
  foundFunctionKey : Bool

/-- The slots after `bfibe_zero`, nothing found. -/
def ImportState.wiped : ImportState := ⟨⟨KeySlot.zero, KeySlot.zero⟩, false, false⟩

/-- `import_bfibe_private_key_record`. -/
def importBfibePrivateKeyRecord (record : KeyRecord) (fid : CStr) (st : ImportState) :
    Option ImportState :=
  if record.purpose = requestPurpose then
    let expectedIdentity := ascii "fid:" ++ fid.bytes
    if 160 ≤ expectedIdentity.length then none
    else if record.identity ≠ expectedIdentity then none
    else if h : record.privateKey.length = 0 ∨ 256 < record.privateKey.length then none
    else
      some { st with
        keys := { st.keys with
          requestSk := st.keys.requestSk.write record.privateKey (by omega) }
        foundRequestKey := true }
  else if record.purpose = functionPurpose then
    if h : record.privateKey.length = 0 ∨ 256 < record.privateKey.length then none
    else if record.identity.take 6 ≠ ascii "label:" then none
    else
      some { st with
        keys := { st.keys with
          functionSk := st.keys.functionSk.write record.privateKey (by omega) }
        foundFunctionKey := true }
  else none

/-- The loop over the records. -/
def importRecords (fid : CStr) : ℕ → Bytes → ImportState → Option (ImportState × Bytes)
  | 0, input, st => some (st, input)
  | count + 1, input, st => do
    let (record, rest) ← readKeyRecord input
    let st' ← importBfibePrivateKeyRecord record fid st
    importRecords fid count rest st'

/-- One round of the loop that reads and accepts its record. -/
theorem importRecords_step {fid : CStr} {count : ℕ} {input rest : Bytes} {record : KeyRecord}
    {st st' : ImportState} (hread : readKeyRecord input = some (record, rest))
    (himport : importBfibePrivateKeyRecord record fid st = some st') :
    importRecords fid (count + 1) input st = importRecords fid count rest st' := by
  rw [importRecords, hread]
  show (importBfibePrivateKeyRecord record fid st).bind (importRecords fid count rest) = _
  rw [himport, Option.bind_some]

/-- `parse_bfibe_private_key_set`: the key slots it leaves, and whether it accepts.  A set with
a valid header has the slots wiped first; a record that is refused has them wiped again; a set
refused after its last record leaves what the records wrote. -/
def parseBfibePrivateKeySet (plaintext : Bytes) (fid : CStr) (keys : KeyPairSlots) :
    KeyPairSlots × Bool :=
  match readKeySetHeader plaintext with
  | none => (keys, false)
  | some (recordCount, body) =>
    match importRecords fid recordCount body ImportState.wiped with
    | none => (ImportState.wiped.keys, false)
    | some (st, rest) =>
      (st.keys, rest.isEmpty && st.foundRequestKey && st.foundFunctionKey)

/-- A set whose header and records are read. -/
theorem parseBfibePrivateKeySet_of_import {plaintext body rest : Bytes} {fid : CStr}
    {keys : KeyPairSlots} {recordCount : ℕ} {st : ImportState}
    (hheader : readKeySetHeader plaintext = some (recordCount, body))
    (himport : importRecords fid recordCount body ImportState.wiped = some (st, rest)) :
    parseBfibePrivateKeySet plaintext fid keys =
      (st.keys, rest.isEmpty && st.foundRequestKey && st.foundFunctionKey) := by
  simp only [parseBfibePrivateKeySet, hheader, himport]

/-! ## The ECALL -/

namespace Globals

/-- The import wrote the key slots. -/
def setBfibeKeys (keys : KeyPairSlots) (g : Globals) : Globals :=
  { g with bfibe := { g.bfibe with keys := keys } }

/-- The end of the load: the function cache is cleared unless the slot was loaded for this FID
as far as `strncmp(g_bfibe_fid, fid, 128)` sees, and the FID is stored with its terminator. -/
def storeBfibeFid (fid : CStr) (g : Globals) : Globals :=
  let cleared :=
    if !g.bfibe.keyLoaded || !CStr.strncmpEq 128 g.bfibe.fid.str fid then g.functionCacheClear
    else g
  { cleared with
    bfibe := { cleared.bfibe with fid := Field.store 127 fid, keyLoaded := true } }

@[simp] theorem setBfibeKeys_bfibe (keys : KeyPairSlots) (g : Globals) :
    (g.setBfibeKeys keys).bfibe = { g.bfibe with keys := keys } := rfl

@[simp] theorem storeBfibeFid_bfibe (fid : CStr) (g : Globals) :
    (g.storeBfibeFid fid).bfibe = ⟨g.bfibe.keys, Field.store 127 fid, true⟩ := by
  unfold storeBfibeFid
  split <;> rfl

end Globals

/-- `ecall_load_bfibe_key_release`: it returns 0 when it runs to its end, and -1 otherwise. -/
def ecallLoadBfibeKeyRelease (S : Sgx) (env : LoadEnv) (release : Bytes) (fid : Option CStr) :
    Proc Event Globals Unit := do
  let g ← get
  let (fid, plaintext) ← orReport (openRelease S env g release fid)
  let (keys, imported) := parseBfibePrivateKeySet plaintext fid g.bfibe.keys
  modify (Globals.setBfibeKeys keys)
  require imported (enclavePrintLit "Error: BF-IBE private-key set import failed.\n")
  modify (Globals.storeBfibeFid fid)
  enclavePrintLit "BF-IBE key-release imported successfully.\n"

variable {S : Sgx}

/-- **What a load leaves**: nothing happens unless the release opens; then the slots are as
they come out of the import, and the FID is stored if the import accepted. -/
theorem state_ecallLoadBfibeKeyRelease (env : LoadEnv) (release : Bytes) (fid : Option CStr)
    (g : Globals) :
    (ecallLoadBfibeKeyRelease S env release fid g).state =
      match openRelease S env g release fid with
      | .error _ => g
      | .ok (f, plaintext) =>
        let (keys, imported) := parseBfibePrivateKeySet plaintext f g.bfibe.keys
        if imported then (g.setBfibeKeys keys).storeBfibeFid f else g.setBfibeKeys keys := by
  simp only [ecallLoadBfibeKeyRelease, state_bind, state_get, value_get, state_orReport,
    value_orReport]
  cases openRelease S env g release fid with
  | error texts => rfl
  | ok p =>
    simp only [Except.toOption, state_modify, value_modify, value_require]
    cases (parseBfibePrivateKeySet p.2 p.1 g.bfibe.keys).2 with
    | true => simp [enclavePrintLit, enclavePrint]
    | false => simp [enclavePrintLit, enclavePrint]

theorem value_ecallLoadBfibeKeyRelease (env : LoadEnv) (release : Bytes) (fid : Option CStr)
    (g : Globals) :
    (ecallLoadBfibeKeyRelease S env release fid g).value =
      match openRelease S env g release fid with
      | .error _ => none
      | .ok (f, plaintext) =>
        if (parseBfibePrivateKeySet plaintext f g.bfibe.keys).2 then some () else none := by
  simp only [ecallLoadBfibeKeyRelease, value_bind, state_get, value_get, state_orReport,
    value_orReport, Option.bind_some]
  cases openRelease S env g release fid with
  | error texts => rfl
  | ok p =>
    simp only [Except.toOption, state_modify, value_modify, value_require, Option.bind_some]
    cases (parseBfibePrivateKeySet p.2 p.1 g.bfibe.keys).2 with
    | true => rfl
    | false => rfl

/-- A load whose release opens and whose set is imported. -/
theorem ecallLoadBfibeKeyRelease_of_import {env : LoadEnv} {release plaintext : Bytes}
    {fid : Option CStr} {f : CStr} {g : Globals} {keys : KeyPairSlots}
    (hopen : openRelease S env g release fid = .ok (f, plaintext))
    (himport : parseBfibePrivateKeySet plaintext f g.bfibe.keys = (keys, true)) :
    Gives (ecallLoadBfibeKeyRelease S env release fid) g ()
      ((g.setBfibeKeys keys).storeBfibeFid f) := by
  refine ⟨?_, ?_⟩
  · rw [value_ecallLoadBfibeKeyRelease, hopen]
    simp only [himport, if_true]
  · rw [state_ecallLoadBfibeKeyRelease, hopen]
    simp only [himport, if_true]

/-! ## What the KMS writes is read -/

/-- The fields that the parser of the envelope asks for. -/
structure AcceptedParts (p : ReleaseParts) : Prop where
  profile : p.profile = bfibeProfileId
  wrapPublicKey : p.wrapPublicKey.length = 64
  nonce : p.nonce.length = 12
  ciphertext : 16 < p.ciphertext.length

/-- **An envelope is read back**, when its fields are accepted and their lengths fit 32 bits. -/
theorem parseBfibeKeyRelease_encode {p : ReleaseParts} (h : AcceptedParts p)
    (hfid : p.fid.length < 2 ^ 32) (hworker : p.workerIdentity.length < 2 ^ 32)
    (hct : p.ciphertext.length < 2 ^ 32) :
    parseBfibeKeyRelease (encodeKeyRelease p) = some p := by
  have hmagic : isBfibeKeyReleasePayload (encodeKeyRelease p) = true := by
    simp only [isBfibeKeyReleasePayload, encodeKeyRelease, List.append_assoc]
    rfl
  have hdrop : (encodeKeyRelease p).drop 9 =
      u32be p.profile.length ++ (u32be p.fid.length ++ (u32be p.workerIdentity.length ++
        (u32be p.wrapPublicKey.length ++ (u32be p.nonce.length ++ (u32be p.ciphertext.length ++
        (p.profile ++ (p.fid ++ (p.workerIdentity ++ (p.wrapPublicKey ++ (p.nonce ++
        (p.ciphertext ++ []))))))))))) := by
    simp only [encodeKeyRelease, List.append_assoc, List.append_nil]
    rfl
  have hprofile : p.profile.length < 2 ^ 32 := by
    rw [h.profile]
    decide
  have hwrap : p.wrapPublicKey.length < 2 ^ 32 := by
    rw [h.wrapPublicKey]
    decide
  have hnonce : p.nonce.length < 2 ^ 32 := by
    rw [h.nonce]
    decide
  rw [parseBfibeKeyRelease, hmagic, hdrop]
  refine read_then (readU32be_u32be_append hprofile _) ?_
  refine read_then (readU32be_u32be_append hfid _) ?_
  refine read_then (readU32be_u32be_append hworker _) ?_
  refine read_then (readU32be_u32be_append hwrap _) ?_
  refine read_then (readU32be_u32be_append hnonce _) ?_
  refine read_then (readU32be_u32be_append hct _) ?_
  refine read_then (takeBytes_append rfl _) ?_
  refine read_then (takeBytes_append rfl _) ?_
  refine read_then (takeBytes_append rfl _) ?_
  refine read_then (takeBytes_append rfl _) ?_
  refine read_then (takeBytes_append rfl _) ?_
  refine read_then (takeBytes_append rfl _) ?_
  exact if_pos ⟨rfl, h.profile, h.wrapPublicKey, h.nonce, h.ciphertext⟩

/-- A record is read back. -/
theorem readKeyRecord_encode {r : KeyRecord} (hpurpose : r.purpose.length < 2 ^ 32)
    (hidentity : r.identity.length < 2 ^ 32) (hkey : r.privateKey.length < 2 ^ 32)
    (rest : Bytes) : readKeyRecord (encodeKeyRecord r ++ rest) = some (r, rest) := by
  rw [readKeyRecord, encodeKeyRecord]
  simp only [List.append_assoc]
  refine read_then (readU32be_u32be_append hpurpose _) ?_
  refine read_then (readU32be_u32be_append hidentity _) ?_
  refine read_then (readU32be_u32be_append hkey _) ?_
  refine read_then (takeBytes_append rfl _) ?_
  refine read_then (takeBytes_append rfl _) ?_
  exact read_then (takeBytes_append rfl _) rfl

/-- The header of a set is read back. -/
theorem readKeySetHeader_encode {records : List KeyRecord} (hne : records ≠ [])
    (hlen : records.length < 2 ^ 32) :
    readKeySetHeader (encodeKeySet bfibeProfileId records) =
      some (records.length, records.flatMap encodeKeyRecord) := by
  have hlong : ¬ (encodeKeySet bfibeProfileId records).length < 17 := by
    rw [length_encodeKeySet]
    omega
  have hcount : records.length ≠ 0 := fun h => hne (List.length_eq_zero_iff.mp h)
  rw [readKeySetHeader, if_neg hlong, encodeKeySet]
  simp only [List.append_assoc]
  refine read_then (takeBytes_append length_bfibePrivateKeySetMagic _) ?_
  refine read_then (takeBytes_append (n := 1) (a := [1]) rfl _) ?_
  rw [if_neg (by simp)]
  refine read_then (readU32be_u32be_append (by decide) _) ?_
  refine read_then (readU32be_u32be_append hlen _) ?_
  refine read_then (takeBytes_append rfl _) ?_
  exact if_neg (by simp [hcount])

/-- The keys that a set of a request record and a function record leaves. -/
def importedKeys (requestSk functionSk : Bytes) (hr : requestSk.length ≤ 256)
    (hf : functionSk.length ≤ 256) : KeyPairSlots :=
  ⟨KeySlot.zero.write requestSk hr, KeySlot.zero.write functionSk hf⟩

/-- **A set is imported**: the request record of this FID and a function record of some
label. -/
theorem parseBfibePrivateKeySet_encode {fid : CStr} {label requestSk functionSk : Bytes}
    (hfid : fid.strlen ≤ 127) (hlabel : label.length < 2 ^ 16)
    (hr : 1 ≤ requestSk.length ∧ requestSk.length ≤ 256)
    (hf : 1 ≤ functionSk.length ∧ functionSk.length ≤ 256) (keys : KeyPairSlots) :
    parseBfibePrivateKeySet (encodeKeySet bfibeProfileId
        [requestRecord fid.bytes requestSk, functionRecord label functionSk]) fid keys =
      (importedKeys requestSk functionSk hr.2 hf.2, true) := by
  have hfidLen : (ascii "fid:" ++ fid.bytes).length = 4 + fid.strlen := List.length_append
  have hlabelLen : (ascii "label:" ++ label).length = 6 + label.length := List.length_append
  have hreadRequest : ∀ rest, readKeyRecord (encodeKeyRecord
      (requestRecord fid.bytes requestSk) ++ rest) =
      some (requestRecord fid.bytes requestSk, rest) := by
    refine readKeyRecord_encode (show requestPurpose.length < 2 ^ 32 by decide) ?_ ?_
    · change (ascii "fid:" ++ fid.bytes).length < 2 ^ 32
      omega
    · change requestSk.length < 2 ^ 32
      omega
  have hreadFunction : ∀ rest, readKeyRecord (encodeKeyRecord
      (functionRecord label functionSk) ++ rest) =
      some (functionRecord label functionSk, rest) := by
    refine readKeyRecord_encode (show functionPurpose.length < 2 ^ 32 by decide) ?_ ?_
    · change (ascii "label:" ++ label).length < 2 ^ 32
      omega
    · change functionSk.length < 2 ^ 32
      omega
  have himportRequest : importBfibePrivateKeyRecord
      (requestRecord fid.bytes requestSk) fid ImportState.wiped =
      some ⟨⟨KeySlot.zero.write requestSk hr.2, KeySlot.zero⟩, true, false⟩ := by
    have hshort : ¬ 160 ≤ (ascii "fid:" ++ fid.bytes).length := by omega
    have hsize : ¬ (requestSk.length = 0 ∨ 256 < requestSk.length) := by omega
    rw [importBfibePrivateKeyRecord, requestRecord, if_pos rfl, if_neg hshort, if_neg (by simp),
      dif_neg hsize]
    rfl
  have himportFunction : importBfibePrivateKeyRecord (functionRecord label functionSk) fid
      ⟨⟨KeySlot.zero.write requestSk hr.2, KeySlot.zero⟩, true, false⟩ =
      some ⟨importedKeys requestSk functionSk hr.2 hf.2, true, true⟩ := by
    have hpurpose : ¬ functionPurpose = requestPurpose := functionPurpose_ne_requestPurpose
    have hsize : ¬ (functionSk.length = 0 ∨ 256 < functionSk.length) := by omega
    have hlabelPrefix : (ascii "label:" ++ label).take 6 = ascii "label:" :=
      List.take_left' rfl
    rw [importBfibePrivateKeyRecord, functionRecord, if_neg hpurpose, if_pos rfl, dif_neg hsize,
      if_neg (by simp [hlabelPrefix])]
    rfl
  have hloop : importRecords fid [requestRecord fid.bytes requestSk,
      functionRecord label functionSk].length ([requestRecord fid.bytes requestSk,
      functionRecord label functionSk].flatMap encodeKeyRecord) ImportState.wiped =
      some (⟨importedKeys requestSk functionSk hr.2 hf.2, true, true⟩, []) :=
    (importRecords_step (hreadRequest _) himportRequest).trans
      (importRecords_step (hreadFunction []) himportFunction)
  exact parseBfibePrivateKeySet_of_import (readKeySetHeader_encode (by simp) (by simp)) hloop

end Worker
end AsynCS
