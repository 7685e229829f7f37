import AsynCS.Client.BfibeEnvelope
import AsynCS.Platform.BfibeMcl

/-!
# Key wrapping by the client tool

`encrypt_key_envelope` of `bfibe_mcl_client_tool`: the tool computes with mcl and OpenSSL what
the enclaves compute with mcl and the SGX SDK.  A function that throws returns `none`.
-/

namespace AsynCS
namespace Client
namespace BfibeTool

variable (S : Sgx) (M : Mcl)

/-- `kGeneratorDomain` of the tool. -/
def generatorDomain : Bytes := ascii "ASYNCS/BFIBE/G1/GENERATOR/v1"

/-- `get_generator`. -/
def getGenerator : Option M.G1 := do
  let g1 ← M.hashAndMapToG1 generatorDomain
  if g1 = 0 then none else some g1

/-- `serialize_g1`. -/
def serializeG1 (point : M.G1) : Option Bytes := Mcl.sized 96 (M.serializeG1 point)

/-- `aes_gcm_encrypt`: the ciphertext with the tag behind it.  `evp` says whether the calls of
OpenSSL succeed. -/
def aesGcmEncrypt (evp : Bool) (key : Block 16) (nonce plaintext aad : Bytes) : Option Bytes :=
  if nonce.length ≠ 12 then none
  else if !evp then none
  else
    let (ciphertext, tag) := S.gcmEncrypt key (Block.ofBytes 12 nonce) aad plaintext
    some (ciphertext ++ tag.toList)

/-- `encrypt_key_envelope`. -/
def encryptKeyEnvelope (evp : Bool) (mpk purpose identity aadContext keyPlaintext rBytes
    nonce : Bytes) : Option Bytes :=
  if ¬ (purpose = ascii "request-key" ∨ purpose = ascii "function-key") then none
  else if ¬ (keyPlaintext.length = 16 ∨ keyPlaintext.length = 32) then none
  else do
    let mpkG1 ← M.deserializeG1 mpk
    let r := M.setLittleEndianMod rBytes
    if r = 0 then none
    else do
      let g1 ← getGenerator M
      let u := r • g1
      if u = 0 then none
      else do
        let qId ← M.hashAndMapToG2 identity
        let temp := M.pair mpkG1 qId
        let shared := r • temp
        let sharedBytes ← Mcl.sized 576 (M.serializeGT shared)
        let aesKeyFull := S.sha256 sharedBytes
        let c1 ← serializeG1 M u
        let parts : EnvelopeParts := ⟨purpose, identity, aadContext, c1, nonce, []⟩
        let aad := buildEnvelopeAad parts
        let ciphertext ← aesGcmEncrypt S evp (aesKeyFull.first 16) nonce keyPlaintext aad
        some (encodeEnvelope { parts with ciphertext := ciphertext })

end BfibeTool
end Client
end AsynCS
