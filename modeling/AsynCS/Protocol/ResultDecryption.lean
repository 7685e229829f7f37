import AsynCS.Protocol.AadBinding
import AsynCS.Protocol.Sessions

/-!
# From the result of a run to the client

A `kem` run encrypts what its module printed under a key that it encapsulates to the client, with the
FID, the RID and the hash of the client's key as associated data.  The client decapsulates the key
and builds the associated data from what it knows.

* `SealedFor`: what the client needs of a result.
* `DecryptsExactly`: the client decrypts it when it builds the associated data of the run, and, for
  a cipher that authenticates them, only then.
* `decryptsExactly_of_completes`: so does the result of every `kem` run that completes.
-/

namespace AsynCS
namespace Protocol

open Client Worker

variable {S : Sgx} {P : P256} {B : Bfibe} {env : RunEnv} {args : RunArgs} {g : Globals}

/-- The public key of a request is the one of this private key. -/
def OwnsRequest (P : P256) (args : RunArgs) (skU : Block 32) : Prop :=
  ∃ p, P.publicPoint skU = some p ∧ args.pkU.toList = p.encode

/-- `sgx_ecc256_create_key_pair` returns key pairs. -/
def KemPairsValid (S : Sgx) (env : RunEnv) : Prop :=
  ∀ pair, env.kemKeyPair = some pair → S.calculatePubFromPriv pair.1 = some pair.2

/-- What leaves the worker of a result, `iv || tag || ciphertext`. -/
def cOut (out : RunOut) : Bytes :=
  out.resultIv.toList ++ out.resultTag.toList ++ out.encryptedResult.take out.resultSize

/-- **The client decrypts a result exactly** when it builds these associated data from the FID, the
RID and the public key that it is given. -/
structure DecryptsExactly (S : Sgx) (P : P256) (out : RunOut) (skU : Block 32) (key : Block 32)
    (aad output : Bytes) : Prop where
  opens : ∀ fid rid pkU, ClientSDK.buildAadOut S fid rid pkU = some aad →
    ClientSDK.decryptResult S P out.kemCt.toList (cOut out) skU.toList fid rid pkU = some output
  only : AuthenticatedFor S (key.first 16) out.resultIv aad out.encryptedResult out.resultTag →
    ∀ fid rid pkU,
      ClientSDK.decryptResult S P out.kemCt.toList (cOut out) skU.toList fid rid pkU ≠ none →
        ClientSDK.buildAadOut S fid rid pkU = some aad

/-- What `decrypt_result` computes, once the key is decapsulated. -/
theorem decryptResult_of_decap {ct skU c aad : Bytes} {kU : Block 32} {iv : Block 12}
    {tag : Block 16} (hdecap : P256HKDFKEM.decap S P skU ct = some kU) {fid rid : PyStr}
    {pkU : Bytes} (haad : ClientSDK.buildAadOut S fid rid pkU = some aad) :
    ClientSDK.decryptResult S P ct (iv.toList ++ tag.toList ++ c) skU fid rid pkU =
      S.gcmDecrypt (kU.first 16) iv aad c tag := by
  rw [ClientSDK.decryptResult, hdecap, haad, Option.bind_eq_bind, Option.bind_some,
    Option.bind_eq_bind, Option.bind_some, AESGCMImpl.decrypt_parts]

/-- **Every `kem` run that completes** returns a result that the owner of the request decrypts
exactly, to what the module has printed. -/
theorem decryptsExactly_of_completes (hS : S.GcmLaws) (hcurves : CurvesAgree S P)
    (hecdh : S.EcdhCommutes) (hpairs : KemPairsValid S env) {skU : Block 32}
    (howns : OwnsRequest P args skU) {m : Admitted} {key : Block 32}
    (h : Completes .kem S B env args g m key) :
    DecryptsExactly S P (runEncryptedWasm .kem S B env args (RunState.start g)).state.out skU key
      m.aadOut (moduleState env args m.wasm m.input).capture.output := by
  obtain ⟨p, hp, hpkU⟩ := howns
  have hstart : Completes .kem S B env args (RunState.start g).worker m key := h
  obtain ⟨pair, hpair, hct⟩ := kemCt_of_completes hstart
  obtain ⟨hiv, htag, hciphertext, hsize⟩ := holds_of_completes hstart
  generalize (runEncryptedWasm .kem S B env args (RunState.start g)).state.out = out at *
  have hdecap : P256HKDFKEM.decap S P skU.toList out.kemCt.toList = some key := by
    rw [hct]
    exact decap_of_encapsulatedKey hcurves hecdh hpair (hpairs pair hpair) hp hpkU h.seals.key
  have hlength : out.encryptedResult.length = out.resultSize := by
    rw [hciphertext, hsize, ← OutputCapture.length_output]
    exact hS.length_encrypt _ _ _ _
  have hout : cOut out = out.resultIv.toList ++ out.resultTag.toList ++ out.encryptedResult := by
    rw [cOut, ← hlength, List.take_length]
  constructor
  · intro fid rid pkU haad
    rw [hout, decryptResult_of_decap hdecap haad, hiv, htag, hciphertext]
    exact hS.decrypt_encrypt _ _ _ _
  · intro hauth fid rid pkU hopens
    cases haad : ClientSDK.buildAadOut S fid rid pkU with
    | none =>
      rw [ClientSDK.decryptResult, hdecap, haad] at hopens
      exact absurd rfl hopens
    | some other =>
      rw [hout, decryptResult_of_decap hdecap haad] at hopens
      rw [hauth other hopens]

end Protocol
end AsynCS
