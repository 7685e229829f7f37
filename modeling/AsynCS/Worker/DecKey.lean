import AsynCS.Protocol.KeyRelease
import AsynCS.Worker.Encoding

/-!
# Key ciphertexts of a run

A run ECALL gets its session keys from two key ciphertexts, `C_key` for the request and
`C_k_func` for the function code.  `DecKey` opens both kinds: an `ASBFIBE1` envelope under the
private keys of the BF-IBE slot, and the ciphertexts of the eccibe profile under a 32-byte
scalar.

* `parseBfibeEnvelope`, `buildBfibeEnvelopeAad`: the envelope.
* `identityKey`: the private key that an envelope asks for, by its purpose and identity.
* `decKeyBfibe`, `decKeyEccibe`, `decKey`: the two branches, with what a failure prints.
* `requestUsesBfibeKeyCiphertexts`: the profile of a request.
-/

namespace AsynCS
namespace Worker

/-! ## Envelopes -/

/-- `BFIBE_ENVELOPE_MAGIC` -/
def bfibeEnvelopeMagic : Bytes := ascii "ASBFIBE1"

/-- `BFIBE_KEY_ENVELOPE_AAD_MAGIC` -/
def bfibeKeyEnvelopeAadMagic : Bytes := ascii "ASYNCS/BFIBE/AAD/v1"

/-- The fields of an `ASBFIBE1` envelope. -/
structure BfibeKeyEnvelopeView where
  profile : Bytes
  purpose : Bytes
  identity : Bytes
  aadContext : Bytes
  c1 : Bytes
  nonce : Bytes
  ciphertext : Bytes
  deriving DecidableEq

/-- `is_bfibe_envelope`. -/
def isBfibeEnvelope (c : Bytes) : Bool :=
  decide (9 ≤ c.length) && (c.take 8 == bfibeEnvelopeMagic) && (c.drop 8).take 1 == [1]

/-- `parse_bfibe_envelope`. -/
def parseBfibeEnvelope (c : Bytes) : Option BfibeKeyEnvelopeView :=
  if !isBfibeEnvelope c then none
  else do
    let (profileLen, r) ← readU32be (c.drop 9)
    let (purposeLen, r) ← readU32be r
    let (identityLen, r) ← readU32be r
    let (aadContextLen, r) ← readU32be r
    let (c1Len, r) ← readU32be r
    let (nonceLen, r) ← readU32be r
    let (ciphertextLen, r) ← readU32be r
    let (profile, r) ← takeBytes profileLen r
    let (purpose, r) ← takeBytes purposeLen r
    let (identity, r) ← takeBytes identityLen r
    let (aadContext, r) ← takeBytes aadContextLen r
    let (c1, r) ← takeBytes c1Len r
    let (nonce, r) ← takeBytes nonceLen r
    let (ciphertext, r) ← takeBytes ciphertextLen r
    if r = [] ∧ profile = bfibeProfileId ∧ (purpose = requestPurpose ∨ purpose = functionPurpose) ∧
        0 < identity.length ∧ 0 < c1.length ∧ nonce.length = 12 ∧ 16 < ciphertext.length then
      some ⟨profile, purpose, identity, aadContext, c1, nonce, ciphertext⟩
    else none

/-- `build_bfibe_envelope_aad`. -/
def buildBfibeEnvelopeAad (view : BfibeKeyEnvelopeView) (capacity : ℕ) : Option Bytes :=
  writeParts capacity
    [bfibeKeyEnvelopeAadMagic, u32be view.profile.length, view.profile,
      u32be view.purpose.length, view.purpose, u32be view.identity.length, view.identity,
      u32be view.aadContext.length, view.aadContext] []

/-- `request_uses_bfibe_key_ciphertexts`. -/
def requestUsesBfibeKeyCiphertexts (cKFunc cKey : Bytes) : Bool :=
  isBfibeEnvelope cKey || isBfibeEnvelope cKFunc

/-! ## DecKey -/

/-- The calls of one `DecKey` that the platform can fail. -/
inductive DecKeySite where
  | mclDecrypt
  | openContext
  | infoMalloc
  | infoHash
  | gcm
  deriving DecidableEq

/-- The private key for the purpose and the identity of an envelope. -/
def identityKey (slot : BfibeSlot) (view : BfibeKeyEnvelopeView) :
    Except (List String) KeySlot :=
  if view.purpose = requestPurpose then
    let expectedIdentity := ascii "fid:" ++ slot.fid.str.bytes
    if 160 ≤ expectedIdentity.length then .error []
    else if view.identity ≠ expectedIdentity then
      .error ["Error: BF-IBE request-key identity mismatch.\n"]
    else .ok slot.keys.requestSk
  else if view.purpose = functionPurpose then
    if view.identity.take 6 ≠ ascii "label:" then
      .error ["Error: BF-IBE function-key identity mismatch.\n"]
    else .ok slot.keys.functionSk
  else .error []

/-- `DecKey` on an envelope. -/
def decKeyBfibe (B : Bfibe) (ok : DecKeySite → Bool) (slot : BfibeSlot) (c domain : Bytes) :
    Except (List String) (Block 32) :=
  if !slot.keyLoaded then
    .error ["Error: BF-IBE key envelope requires imported BF private keys.\n"]
  else
    match parseBfibeEnvelope c with
    | none => .error ["Error: Invalid BF-IBE key envelope.\n"]
    | some view =>
      if view.aadContext ≠ domain then
        .error ["Error: BF-IBE key envelope AAD context mismatch.\n"]
      else do
        let skId ← identityKey slot view
        if skId.len = 0 then .error ["Error: BF-IBE private key cache is empty.\n"]
        else
          match buildBfibeEnvelopeAad view 512 with
          | none => .error ["Error: BF-IBE key envelope AAD build failed.\n"]
          | some aad =>
            match (if ok .mclDecrypt then
                B.decryptKeyEnvelope skId.key view.c1 view.nonce view.ciphertext aad
              else none) with
            | none => .error ["Error: BF-IBE key envelope decrypt failed.\n"]
            | some sessionKey => .ok sessionKey

/-- The public key of 64 little-endian bytes from an uncompressed point `04 || X || Y`. -/
def pointOfX962 (point : Bytes) : Block 64 :=
  Block.ofBytes 64 (((point.drop 1).take 32).reverse ++ ((point.drop 33).take 32).reverse)

/-- `DecKey` on a ciphertext of the eccibe profile,
`EphemeralPK(65) || iv(12) || tag(16) || ct`. -/
def decKeyEccibe (S : Sgx) (ok : DecKeySite → Bool) (cap : Block 32) (c : Bytes) :
    Option (Block 32) :=
  let ct := c.drop (65 + 12 + 16)
  if c.length < 65 + 12 + 16 + 16 then none
  else if ¬ (ct.length = 16 ∨ ct.length = 32) then none
  else if c.take 1 ≠ [4] then none
  else if !ok .openContext then none
  else do
    let sharedSecret ← S.computeSharedDhkey cap (pointOfX962 (c.take 65))
    let ssInfo ← sha256Concat S (ok .infoMalloc) (ok .infoHash) sharedSecret.toList
      (ascii "ECC-IBE-ENC")
    if !ok .gcm then none
    else
      let plaintext ← S.gcmDecrypt (ssInfo.first 16) (Block.ofBytes 12 ((c.drop 65).take 12)) []
        ct (Block.ofBytes 16 ((c.drop 77).take 16))
      some (Block.ofBytes 32 plaintext)

/-- `DecKey`, with the texts of a failure.  `cap` is `none` for a NULL capability. -/
def decKey (S : Sgx) (B : Bfibe) (ok : DecKeySite → Bool) (slot : BfibeSlot)
    (cap : Option (Block 32)) (c domain : Bytes) : Except (List String) (Block 32) :=
  if c = [] then .error []
  else if isBfibeEnvelope c then decKeyBfibe B ok slot c domain
  else
    match cap with
    | none => .error []
    | some cap =>
      match decKeyEccibe S ok cap c with
      | none => .error []
      | some key => .ok key

variable {S : Sgx} {B : Bfibe}

/-- An envelope is opened by the BF-IBE slot, whatever the capability. -/
theorem decKey_of_isBfibeEnvelope {c : Bytes} (h : isBfibeEnvelope c = true)
    (ok : DecKeySite → Bool) (slot : BfibeSlot) (cap : Option (Block 32)) (domain : Bytes) :
    decKey S B ok slot cap c domain = decKeyBfibe B ok slot c domain := by
  have hne : c ≠ [] := by
    rintro rfl
    exact absurd h (by decide)
  unfold decKey
  rw [if_neg hne, if_pos h]

/-- Without a capability only an envelope opens. -/
theorem decKey_none_ok {ok : DecKeySite → Bool} {slot : BfibeSlot} {c domain : Bytes}
    {key : Block 32} (h : decKey S B ok slot none c domain = .ok key) :
    isBfibeEnvelope c = true ∧ decKeyBfibe B ok slot c domain = .ok key := by
  cases hc : isBfibeEnvelope c with
  | true =>
    rw [decKey_of_isBfibeEnvelope hc] at h
    exact ⟨rfl, h⟩
  | false =>
    unfold decKey at h
    rw [hc] at h
    split at h
    · exact absurd h (by simp)
    · exact absurd h (by simp)

end Worker
end AsynCS
