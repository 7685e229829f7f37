import AsynCS.Lib.BonehFranklin
import AsynCS.Platform.Sgx
import Mathlib.Algebra.Algebra.Bilinear
import Mathlib.Data.ZMod.Basic

/-!
# The trusted BF-IBE wrapper over the mcl library

`trusted/bfibe_mcl.cpp` computes on BLS12-381 through mcl.  The library is a parameter, `Mcl`: the
scalars, the two source groups and the target group of a bilinear pairing, with the hashes into
the groups and the serializations.  The operations of a group are those of a module over the
scalars; a power in the target group is a scalar multiple too.

* `Mcl.RoundTrips`: a serialized group element is read back.
* `BfibeMcl`: the functions of the wrapper; a function that returns an error is `none`, and what
  only the platform can fail is left to its callers.
* `Mcl.bfibe`: the wrapper as the enclaves call it.
-/

namespace AsynCS

/-- The calls of the mcl library.  A serialization is known by its bytes, and none of a group
element is taken to be empty: mcl reports a failure as the size 0. -/
structure Mcl where
  Fr : Type
  G1 : Type
  G2 : Type
  GT : Type
  [commRing : CommRing Fr]
  [addCommGroup1 : AddCommGroup G1]
  [addCommGroup2 : AddCommGroup G2]
  [addCommGroupT : AddCommGroup GT]
  [module1 : Module Fr G1]
  [module2 : Module Fr G2]
  [moduleT : Module Fr GT]
  [decidableEqFr : DecidableEq Fr]
  [decidableEq1 : DecidableEq G1]
  /-- The bilinear map that `mclBn_pairing` computes. -/
  pairing : G1 →ₗ[Fr] G2 →ₗ[Fr] GT
  /-- `mclBnFr_setLittleEndianMod` -/
  setLittleEndianMod : Bytes → Fr
  /-- `mclBnG1_hashAndMapTo` -/
  hashAndMapToG1 : Bytes → Option G1
  /-- `mclBnG2_hashAndMapTo` -/
  hashAndMapToG2 : Bytes → Option G2
  /-- What a local `mclBnG2` holds before it is written. -/
  uninitializedG2 : G2
  serializeFr : Fr → Bytes
  deserializeFr : Bytes → Option Fr
  serializeG1 : G1 → Bytes
  deserializeG1 : Bytes → Option G1
  serializeG2 : G2 → Bytes
  deserializeG2 : Bytes → Option G2
  serializeGT : GT → Bytes

namespace Mcl

attribute [instance] commRing addCommGroup1 addCommGroup2 addCommGroupT module1 module2 moduleT
  decidableEqFr decidableEq1

/-- `mclBn_pairing` -/
def pair (M : Mcl) (P : M.G1) (Q : M.G2) : M.GT := M.pairing P Q

/-- What a serialization leaves in a buffer of `capacity` bytes: it fails when the bytes do not
fit, and its size 0 is a failure. -/
def sized (capacity : ℕ) (b : Bytes) : Option Bytes :=
  if b = [] ∨ capacity < b.length then none else some b

theorem sized_eq_some_iff {capacity : ℕ} {b c : Bytes} :
    sized capacity b = some c ↔ c = b ∧ b ≠ [] ∧ b.length ≤ capacity := by
  unfold sized
  split
  · rename_i h
    constructor
    · intro hc
      exact absurd hc (by simp)
    · rintro ⟨-, hne, hlen⟩
      rcases h with h | h
      · exact absurd h hne
      · omega
  · rename_i h
    rw [not_or, not_lt] at h
    rw [Option.some.injEq, eq_comm]
    exact ⟨fun hc => ⟨hc, h⟩, fun hc => hc.1⟩

/-- A serialized group element is read back. -/
structure RoundTrips (M : Mcl) : Prop where
  g1 : ∀ P, M.deserializeG1 (M.serializeG1 P) = some P
  g2 : ∀ Q, M.deserializeG2 (M.serializeG2 Q) = some Q

/-- A small instance, with all groups the integers modulo 251, an element in one byte, and the
product as the pairing. -/
def sample : Mcl where
  Fr := ZMod 251
  G1 := ZMod 251
  G2 := ZMod 251
  GT := ZMod 251
  pairing := LinearMap.mul (ZMod 251) (ZMod 251)
  setLittleEndianMod b := (b.foldr (fun x n => x.toNat + 256 * n) 0 : ℕ)
  hashAndMapToG1 b := some ((b.sum.toNat % 250 + 1 : ℕ) : ZMod 251)
  hashAndMapToG2 b := some ((b.sum.toNat % 250 + 1 : ℕ) : ZMod 251)
  uninitializedG2 := 0
  serializeFr x := [UInt8.ofNat x.val]
  deserializeFr b := b.head?.map fun x => (x.toNat : ZMod 251)
  serializeG1 x := [UInt8.ofNat x.val]
  deserializeG1 b := b.head?.map fun x => (x.toNat : ZMod 251)
  serializeG2 x := [UInt8.ofNat x.val]
  deserializeG2 b := b.head?.map fun x => (x.toNat : ZMod 251)
  serializeGT x := [UInt8.ofNat x.val]

theorem sample_roundTrips : sample.RoundTrips := by
  have hbyte : ∀ x : ZMod 251, ((UInt8.ofNat x.val).toNat : ZMod 251) = x := by
    intro x
    have hlt : x.val < 251 := x.val_lt
    rw [UInt8.toNat_ofNat', Nat.mod_eq_of_lt (by omega), ZMod.natCast_zmod_val]
  exact ⟨fun P => congrArg some (hbyte P), fun Q => congrArg some (hbyte Q)⟩

end Mcl

namespace BfibeMcl

variable (S : Sgx) (M : Mcl)

/-- `kGeneratorDomain` -/
def generatorDomain : Bytes := ascii "ASYNCS/BFIBE/G1/GENERATOR/v1"

/-- `get_bfibe_g1_generator`. -/
def getBfibeG1Generator : Option M.G1 := do
  let g1 ← M.hashAndMapToG1 generatorDomain
  if g1 = 0 then none else some g1

/-- `bfibe_mcl_derive_master_secret`, into a buffer that is large enough. -/
def deriveMasterSecret (seed : Bytes) : Option Bytes :=
  if seed = [] then none
  else
    let msk := M.serializeFr (M.setLittleEndianMod (S.sha256 seed).toList)
    Mcl.sized msk.length msk

/-- `bfibe_mcl_public_from_msk`, into a buffer that is large enough. -/
def publicFromMsk (msk : Bytes) : Option Bytes := do
  let mskFr ← M.deserializeFr msk
  let g1 ← getBfibeG1Generator M
  let mpk := mskFr • g1
  if mpk = 0 then none
  else Mcl.sized (M.serializeG1 mpk).length (M.serializeG1 mpk)

/-- `bfibe_mcl_extract`, into a buffer that is large enough.  It does not look at the result of
the hash. -/
def extract (msk identity : Bytes) : Option Bytes := do
  let mskFr ← M.deserializeFr msk
  let qId := (M.hashAndMapToG2 identity).getD M.uninitializedG2
  let skId := mskFr • qId
  Mcl.sized (M.serializeG2 skId).length (M.serializeG2 skId)

/-- `bfibe_mcl_decrypt_key_envelope`. -/
def decryptKeyEnvelope (skId c1 nonce ciphertext aad : Bytes) : Option (Block 32) :=
  if nonce.length ≠ 12 ∨ ciphertext.length ≤ 16 then none
  else
    let encryptedLen := ciphertext.length - 16
    if ¬ (encryptedLen = 16 ∨ encryptedLen = 32) then none
    else do
      let skIdG2 ← M.deserializeG2 skId
      let u ← M.deserializeG1 c1
      let shared := M.pair u skIdG2
      let sharedBytes ← Mcl.sized 576 (M.serializeGT shared)
      let plaintext ← S.gcmDecrypt ((S.sha256 sharedBytes).first 16) (Block.ofBytes 12 nonce) aad
        (ciphertext.take encryptedLen) (Block.ofBytes 16 (ciphertext.drop encryptedLen))
      some (Block.ofBytes 32 plaintext)

variable {S : Sgx} {M : Mcl}

/-- The public parameters of a master secret. -/
theorem exists_of_publicFromMsk {msk mpk : Bytes} (h : publicFromMsk M msk = some mpk) :
    ∃ s g1, M.deserializeFr msk = some s ∧ getBfibeG1Generator M = some g1 ∧
      mpk = M.serializeG1 (s • g1) := by
  obtain ⟨s, hs, h⟩ := Option.bind_eq_some_iff.mp h
  obtain ⟨g1, hg1, h⟩ := Option.bind_eq_some_iff.mp h
  obtain ⟨-, h⟩ := Option.ite_none_left_eq_some.mp h
  exact ⟨s, g1, hs, hg1, (Mcl.sized_eq_some_iff.mp h).1⟩

/-- The key of an identity; it is not empty. -/
theorem exists_of_extract {msk identity sk : Bytes} (h : extract M msk identity = some sk) :
    sk ≠ [] ∧ ∃ s, M.deserializeFr msk = some s ∧
      sk = M.serializeG2 (s • (M.hashAndMapToG2 identity).getD M.uninitializedG2) := by
  obtain ⟨s, hs, h⟩ := Option.bind_eq_some_iff.mp h
  obtain ⟨hsk, hne, -⟩ := Mcl.sized_eq_some_iff.mp h
  exact ⟨hsk ▸ hne, s, hs, hsk⟩

/-- A ciphertext of a session key with its tag is opened under the shared secret. -/
theorem decryptKeyEnvelope_append {skId c1 nonce ciphertext aad sharedBytes : Bytes}
    {tag : Block 16} {u : M.G1} {skIdG2 : M.G2} (hnonce : nonce.length = 12)
    (hlen : ciphertext.length = 16 ∨ ciphertext.length = 32)
    (hsk : M.deserializeG2 skId = some skIdG2) (hu : M.deserializeG1 c1 = some u)
    (hshared : Mcl.sized 576 (M.serializeGT (M.pair u skIdG2)) = some sharedBytes) :
    decryptKeyEnvelope S M skId c1 nonce (ciphertext ++ tag.toList) aad =
      (S.gcmDecrypt ((S.sha256 sharedBytes).first 16) (Block.ofBytes 12 nonce) aad ciphertext
        tag).map (Block.ofBytes 32) := by
  have htotal : (ciphertext ++ tag.toList).length = ciphertext.length + 16 := by
    rw [List.length_append, List.Vector.toList_length]
  have hsize : (ciphertext ++ tag.toList).length - 16 = ciphertext.length := by omega
  unfold decryptKeyEnvelope
  rw [if_neg (by omega)]
  simp only [hsize]
  rw [if_neg (not_not_intro hlen), hsk, hu]
  simp only [Option.bind_eq_bind, Option.bind_some, hshared, List.take_left, List.drop_left,
    Block.ofBytes_toList]
  cases S.gcmDecrypt ((S.sha256 sharedBytes).first 16) (Block.ofBytes 12 nonce) aad ciphertext
    tag with
  | none => rfl
  | some plaintext => rfl

end BfibeMcl

/-- The BF-IBE operations of the enclaves. -/
def Mcl.bfibe (S : Sgx) (M : Mcl) : Bfibe where
  deriveMasterSecret := BfibeMcl.deriveMasterSecret S M
  publicFromMsk := BfibeMcl.publicFromMsk M
  extract := BfibeMcl.extract M
  decryptKeyEnvelope := BfibeMcl.decryptKeyEnvelope S M

end AsynCS
