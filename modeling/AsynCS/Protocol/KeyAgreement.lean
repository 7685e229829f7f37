import AsynCS.Client.Sdk
import AsynCS.Worker.RunCompletes

/-!
# Key agreement between the client and the enclaves

The SGX SDK and the `cryptography` package compute on the same curve, the first with the least
significant byte of every number in front and the second with the most significant one.  What
crosses the border is reversed: coordinates by `sgx_le_public_key_to_x962_be`, by
`ecall_kem_encap` and in `DecKey`, and shared secrets by the client.

* `toSgx`, `ofSgx`: a point in the form of the other side.
* `CurvesAgree`: both libraries compute the same public keys and the same secrets.
* `exchange_eq`: the two ends of one agreement, a client and an enclave.
* `curveOf`: the library that agrees with an SDK.
* `decKey_of_encryptKeyCiphertextV1`: what the client encrypts to a public key, `DecKey` opens with
  the scalar of the key.
* `decap_of_encapsulatedKey`: what a run encapsulates to the key of a client, the client
  decapsulates.
-/

namespace AsynCS

@[simp] theorem Block.reverse_reverse {n : ℕ} (b : Block n) : b.reverse.reverse = b :=
  List.Vector.eq _ _ (List.reverse_reverse b.toList)

namespace Protocol

open Client Worker

/-! ## Points -/

/-- A point as the SGX SDK keeps it. -/
def toSgx (p : Point) : Block 64 :=
  Block.ofBytes 64 (p.x.toList.reverse ++ p.y.toList.reverse)

/-- A point of the SGX SDK as the client keeps it. -/
def ofSgx (pk : Block 64) : Point :=
  ⟨Block.ofBytes 32 (pk.toList.take 32).reverse, Block.ofBytes 32 (pk.toList.drop 32).reverse⟩

theorem toList_toSgx (p : Point) : (toSgx p).toList = p.x.toList.reverse ++ p.y.toList.reverse := by
  refine Block.toList_ofBytes ?_
  rw [List.length_append, List.length_reverse, List.length_reverse, List.Vector.toList_length,
    List.Vector.toList_length]

theorem toList_x_ofSgx (pk : Block 64) : (ofSgx pk).x.toList = (pk.toList.take 32).reverse := by
  refine Block.toList_ofBytes ?_
  rw [List.length_reverse, List.length_take, List.Vector.toList_length]
  rfl

theorem toList_y_ofSgx (pk : Block 64) : (ofSgx pk).y.toList = (pk.toList.drop 32).reverse := by
  refine Block.toList_ofBytes ?_
  rw [List.length_reverse, List.length_drop, List.Vector.toList_length]

@[simp] theorem toSgx_ofSgx (pk : Block 64) : toSgx (ofSgx pk) = pk := by
  refine List.Vector.eq _ _ ?_
  rw [toList_toSgx, toList_x_ofSgx, toList_y_ofSgx, List.reverse_reverse, List.reverse_reverse,
    List.take_append_drop]

/-- `DecKey` and `ecall_kem_encap` read an encoded point of the client. -/
@[simp] theorem pointOfX962_encode (p : Point) : pointOfX962 p.encode = toSgx p := by
  have hy : p.y.toList.take 32 = p.y.toList := List.take_of_length_le p.y.toList_length.le
  rw [pointOfX962, Point.take_drop_encode, Point.drop_encode, hy, toSgx]

/-- The client reads a point that an enclave encoded. -/
theorem toList_x962OfPoint (pk : Block 64) : (x962OfPoint pk).toList = (ofSgx pk).encode := by
  have hlen : ([4] ++ (pk.toList.take 32).reverse ++ (pk.toList.drop 32).reverse).length = 65 := by
    simp only [List.length_append, List.length_reverse, List.length_take, List.length_drop,
      List.Vector.toList_length, List.length_singleton]
    rfl
  rw [x962OfPoint, Block.toList_ofBytes hlen, Point.encode, toList_x_ofSgx, toList_y_ofSgx,
    List.append_assoc, List.singleton_append]

/-- A public key of the KMS, in the form that the client computes with. -/
theorem sgxLePublicKeyToX962Be_eq (pk : Block 64) :
    sgxLePublicKeyToX962Be (4 :: pk.toList) = some (ofSgx pk).encode := by
  have hformat : ¬ ((4 :: pk.toList).length ≠ 65 ∨ (4 :: pk.toList).take 1 ≠ [4]) := by
    rw [List.length_cons, pk.toList_length]
    simp
  have hx : (4 :: pk.toList).drop 1 = pk.toList := rfl
  have hy : ((4 :: pk.toList).drop 33).take 32 = pk.toList.drop 32 := by
    refine List.take_of_length_le ?_
    rw [List.length_drop, List.length_cons, pk.toList_length]
  rw [sgxLePublicKeyToX962Be, if_neg hformat, hx, hy, Point.encode, toList_x_ofSgx, toList_y_ofSgx]

/-! ## The two libraries -/

/-- What the client's library accepts, the SGX SDK computes alike: the public key of a scalar, and
the secret that it shares with a public key of the SDK. -/
structure CurvesAgree (S : Sgx) (P : P256) : Prop where
  publicPoint : ∀ {sk : Block 32} {p : Point}, P.publicPoint sk = some p →
    S.calculatePubFromPriv sk.reverse = some (toSgx p)
  exchange : ∀ {sk priv : Block 32} {p : Point} {pub : Block 64}, P.publicPoint sk = some p →
    S.calculatePubFromPriv priv = some pub →
      P.exchange sk (ofSgx pub) = (S.computeSharedDhkey sk.reverse pub).map Block.reverse

variable {S : Sgx} {P : P256}

/-- **The two ends of an agreement**: what the client computes with the public key of an enclave is
what the enclave computes with the public key of the client, reversed. -/
theorem exchange_eq (hcurves : CurvesAgree S P) (hecdh : S.EcdhCommutes) {sk priv : Block 32}
    {p : Point} {pub : Block 64} (hp : P.publicPoint sk = some p)
    (hpub : S.calculatePubFromPriv priv = some pub) :
    P.exchange sk (ofSgx pub) = (S.computeSharedDhkey priv (toSgx p)).map Block.reverse := by
  rw [hcurves.exchange hp hpub, hecdh _ _ _ _ (hcurves.publicPoint hp) hpub]

/-- The client's library that computes what an SDK computes. -/
def curveOf (S : Sgx) : P256 where
  publicPoint sk := (S.calculatePubFromPriv sk.reverse).map ofSgx
  exchange sk p := (S.computeSharedDhkey sk.reverse (toSgx p)).map Block.reverse

theorem curvesAgree_curveOf (S : Sgx) : CurvesAgree S (curveOf S) where
  publicPoint h := by
    obtain ⟨pub, hpub, rfl⟩ := Option.map_eq_some_iff.mp h
    rw [hpub, toSgx_ofSgx]
  exchange _ _ := by
    simp only [curveOf, toSgx_ofSgx]

/-! ## Key ciphertexts -/

/-- A key ciphertext of the eccibe profile is no envelope: its first byte is 4. -/
theorem isBfibeEnvelope_keyCiphertextOf (p : Point) (iv : Block 12) (tag : Block 16) (ct : Bytes) :
    isBfibeEnvelope (keyCiphertextOf p iv tag ct) = false := by
  have hmagic : ((keyCiphertextOf p iv tag ct).take 8 == bfibeEnvelopeMagic) = false := by
    refine beq_eq_false_iff_ne.mpr fun h => ?_
    have hone := congrArg (List.take 1) h
    rw [List.take_take, Nat.min_eq_left (by decide), take_one_keyCiphertextOf] at hone
    exact absurd hone (by decide)
  rw [isBfibeEnvelope, hmagic, Bool.and_false, Bool.false_and]

/-- The calls of a `DecKey` of the eccibe profile succeed. -/
structure DecKeyWorks (ok : DecKeySite → Bool) : Prop where
  openContext : ok .openContext = true
  infoMalloc : ok .infoMalloc = true
  infoHash : ok .infoHash = true
  gcm : ok .gcm = true

/-- `DecKey` on the parts of a key ciphertext. -/
theorem decKey_keyCiphertextOf {B : Bfibe} {ok : DecKeySite → Bool} (hok : DecKeyWorks ok)
    {slot : BfibeSlot} {cap : Block 32} {p : Point} {iv : Block 12} {tag : Block 16} {ct : Bytes}
    (hct : ct.length = 16 ∨ ct.length = 32) {secret : Block 32}
    (hsecret : S.computeSharedDhkey cap (toSgx p) = some secret) (domain : Bytes) :
    decKey S B ok slot (some cap) (keyCiphertextOf p iv tag ct) domain =
      match S.gcmDecrypt (keyCiphertextKey S secret) iv [] ct tag with
      | none => .error []
      | some plaintext => .ok (Block.ofBytes 32 plaintext) := by
  have hlen := length_keyCiphertextOf p iv tag ct
  have hne : keyCiphertextOf p iv tag ct ≠ [] := by
    rw [← List.length_pos_iff]
    omega
  have hparts : decKeyEccibe S ok cap (keyCiphertextOf p iv tag ct) =
      (S.gcmDecrypt (keyCiphertextKey S secret) iv [] ct tag).map (Block.ofBytes 32) := by
    unfold decKeyEccibe
    rw [show 65 + 12 + 16 = 93 from rfl, drop_keyCiphertextOf]
    dsimp only
    rw [if_neg (by omega), if_neg (not_not_intro hct),
      if_neg (not_not_intro (take_one_keyCiphertextOf p iv tag ct)), take_keyCiphertextOf,
      pointOfX962_encode, hsecret, iv_keyCiphertextOf, tag_keyCiphertextOf, hok.openContext,
      hok.infoMalloc, hok.infoHash, hok.gcm]
    simp only [Bool.not_true, Bool.false_eq_true, if_false, Option.bind_eq_bind, Option.bind_some,
      sha256Concat, Sgx.sha256Msg, if_true, keyCiphertextKey]
    cases S.gcmDecrypt ((S.sha256 (secret.toList ++ ascii "ECC-IBE-ENC")).first 16) iv [] ct tag with
    | none => rfl
    | some plaintext => rfl
  unfold decKey
  rw [if_neg hne, isBfibeEnvelope_keyCiphertextOf]
  simp only [Bool.false_eq_true, if_false, hparts]
  cases S.gcmDecrypt (keyCiphertextKey S secret) iv [] ct tag with
  | none => rfl
  | some plaintext => rfl

/-- What the client writes for a public key of the KMS. -/
theorem encryptKeyCiphertextV1_eq_some_iff {draw : KeyDraw} {pk : Block 64} {key c : Bytes} :
    encryptKeyCiphertextV1 S P draw (4 :: pk.toList) key = some c ↔
      (key.length = 16 ∨ key.length = 32) ∧
        ∃ shared p, P.exchange draw.ephemeralSk (ofSgx pk) = some shared ∧
          P.publicPoint draw.ephemeralSk = some p ∧
          c = keyCiphertextOf p draw.iv
            (S.gcmEncrypt (keyCiphertextKey S shared.reverse) draw.iv [] key).2
            (S.gcmEncrypt (keyCiphertextKey S shared.reverse) draw.iv [] key).1 := by
  unfold encryptKeyCiphertextV1
  rw [sgxLePublicKeyToX962Be_eq]
  simp only [Option.bind_eq_bind, Option.bind_some, Point.ofEncoded_encode, aesgcmEncrypt,
    rtake_append_block, rdrop_append_block]
  constructor
  · intro h
    obtain ⟨hkey, h⟩ := Option.ite_none_left_eq_some.mp h
    obtain ⟨shared, hshared, h⟩ := Option.bind_eq_some_iff.mp h
    obtain ⟨p, hp, h⟩ := Option.bind_eq_some_iff.mp h
    exact ⟨not_not.mp hkey, shared, p, hshared, hp, (Option.some.inj h).symm⟩
  · rintro ⟨hkey, shared, p, hshared, hp, rfl⟩
    rw [if_neg (not_not_intro hkey), hshared, hp]
    rfl

/-- **What the client encrypts to the public key of a scalar, `DecKey` opens** with the scalar,
whatever the domain. -/
theorem decKey_of_encryptKeyCiphertextV1 (hS : S.GcmLaws) (hcurves : CurvesAgree S P)
    (hecdh : S.EcdhCommutes) {B : Bfibe} {ok : DecKeySite → Bool} (hok : DecKeyWorks ok)
    {cap : Block 32} {pk : Block 64} (hpk : S.calculatePubFromPriv cap = some pk)
    {draw : KeyDraw} {key c : Bytes}
    (h : encryptKeyCiphertextV1 S P draw (4 :: pk.toList) key = some c) (slot : BfibeSlot)
    (domain : Bytes) :
    decKey S B ok slot (some cap) c domain = .ok (Block.ofBytes 32 key) := by
  obtain ⟨hkey, shared, p, hshared, hp, rfl⟩ := encryptKeyCiphertextV1_eq_some_iff.mp h
  rw [exchange_eq hcurves hecdh hp hpk, Option.map_eq_some_iff] at hshared
  obtain ⟨secret, hsecret, rfl⟩ := hshared
  rw [Block.reverse_reverse]
  rw [decKey_keyCiphertextOf hok (by rwa [hS.length_encrypt]) hsecret, hS.decrypt_encrypt]

/-! ## Encapsulated keys -/

/-- **What a run encapsulates to the key of a client, the client decapsulates.** -/
theorem decap_of_encapsulatedKey (hcurves : CurvesAgree S P) (hecdh : S.EcdhCommutes)
    {env : RunEnv} {pair : Block 32 × Block 64} (hpair : env.kemKeyPair = some pair)
    (hvalid : S.calculatePubFromPriv pair.1 = some pair.2) {skU : Block 32} {p : Point}
    (hp : P.publicPoint skU = some p) {pkU : Block 65} (hpkU : pkU.toList = p.encode)
    {key : Block 32} (h : encapsulatedKey S env pkU = some key) :
    P256HKDFKEM.decap S P skU.toList (x962OfPoint pair.2).toList = some key := by
  unfold encapsulatedKey at h
  obtain ⟨-, h⟩ := Option.ite_none_right_eq_some.mp h
  rw [hpair, hpkU, pointOfX962_encode, Option.bind_eq_bind, Option.bind_some] at h
  obtain ⟨secret, hsecret, h⟩ := Option.bind_eq_some_iff.mp h
  obtain ⟨-, hkey⟩ := Sgx.sha256Msg_eq_some_iff.mp h
  rw [toList_x962OfPoint, P256HKDFKEM.decap_encode, exchange_eq hcurves hecdh hp hvalid, hsecret,
    Option.map_some, Option.map_some, Block.reverse_reverse, hkey]

end Protocol
end AsynCS
