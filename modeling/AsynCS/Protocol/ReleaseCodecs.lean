import AsynCS.Client.BfibeKeyRelease
import AsynCS.Kms.BfibeRelease
import AsynCS.Protocol.EnvelopeCodecs
import AsynCS.Worker.BfibeLoad

/-!
# One release format for the KMS, the worker and Python

The KMS writes an `ASBFREL1` release from C strings, the worker parses it, and Python does both.

* `parseBfibeKeyRelease_eq_some_iff`: the worker's parser is exact.
* `decodeBfibeKeyRelease_eq_some_iff`: the Python decoder is exact.
* `release_codecs`: the three side by side.  A tuple whose FID has a NUL character is a release in
  Python and in the worker, and no C string.
-/

namespace AsynCS

open Worker Client

/-! ## The canonical encoding -/

/-- Magic and version. -/
def releaseHeader : Bytes := bfibeKeyReleaseMagic ++ [1]

namespace ReleaseParts

/-- The six parts. -/
def parts (p : ReleaseParts) : List Bytes :=
  [p.profile, p.fid, p.workerIdentity, p.wrapPublicKey, p.nonce, p.ciphertext]

/-- The length of every part fits 32 bits. -/
def Fits (p : ReleaseParts) : Prop := ∀ part ∈ p.parts, part.length < 2 ^ 32

/-- The associated data of a release. -/
def aad (p : ReleaseParts) : Bytes :=
  keyReleaseAad p.profile p.fid p.workerIdentity p.wrapPublicKey

/-- FID and worker identity are texts that are not empty. -/
structure HasTexts (p : ReleaseParts) : Prop where
  fid : p.fid ≠ [] ∧ ∃ t, utf8 t = p.fid
  workerIdentity : p.workerIdentity ≠ [] ∧ ∃ t, utf8 t = p.workerIdentity

end ReleaseParts

/-- A release is a frame. -/
theorem encodeKeyRelease_eq (p : ReleaseParts) :
    encodeKeyRelease p = encodeFrame releaseHeader p.parts := by
  simp only [encodeKeyRelease, encodeFrame, releaseHeader, ReleaseParts.parts, List.flatMap_cons,
    List.flatMap_nil, List.flatten_cons, List.flatten_nil, List.append_assoc, List.append_nil]

/-- The release with these parts. -/
def releaseOfParts : List Bytes → Option ReleaseParts
  | [profile, fid, workerIdentity, wrapPublicKey, nonce, ciphertext] =>
    some ⟨profile, fid, workerIdentity, wrapPublicKey, nonce, ciphertext⟩
  | _ => none

theorem releaseOfParts_eq_some_iff {parts : List Bytes} {p : ReleaseParts} :
    releaseOfParts parts = some p ↔ parts = p.parts := by
  constructor
  · intro h
    unfold releaseOfParts at h
    split at h
    · rw [← Option.some.inj h]
      rfl
    · exact absurd h (by simp)
  · rintro rfl
    rfl

/-- **Read the parts of a release**: exactly the canonical encodings are read. -/
theorem decodeFrame_bind_releaseOfParts {b : Bytes} {p : ReleaseParts} :
    (decodeFrame releaseHeader 6 b).bind releaseOfParts = some p ↔
      p.Fits ∧ b = encodeKeyRelease p := by
  simp only [Option.bind_eq_some_iff, decodeFrame_eq_some_iff, releaseOfParts_eq_some_iff,
    encodeKeyRelease_eq]
  constructor
  · rintro ⟨parts, ⟨-, hfits, rfl⟩, rfl⟩
    exact ⟨hfits, rfl⟩
  · rintro ⟨hfits, rfl⟩
    exact ⟨p.parts, ⟨rfl, hfits, rfl⟩, rfl⟩

/-! ## The worker -/

theorem isBfibeKeyReleasePayload_iff {c : Bytes} :
    isBfibeKeyReleasePayload c = true ↔ releaseHeader <+: c :=
  @isHeader_iff bfibeKeyReleaseMagic c 1

/-- The worker's parser reads the parts and checks them. -/
theorem parseBfibeKeyRelease_eq (b : Bytes) :
    parseBfibeKeyRelease b = ((decodeFrame releaseHeader 6 b).bind releaseOfParts).bind fun p =>
      if p.profile = bfibeProfileId ∧ p.wrapPublicKey.length = 64 ∧ p.nonce.length = 12 ∧
          16 < p.ciphertext.length then some p
      else none := by
  rw [Option.bind_assoc]
  unfold parseBfibeKeyRelease
  by_cases h : releaseHeader <+: b
  · rw [bind_decodeFrame h, isBfibeKeyReleasePayload_iff.mpr h, if_neg (by simp)]
    iterate 6
      rw [bind_readLengths_succ]
      refine Option.bind_congr fun _ _ => ?_
    show _ = (some _).bind _
    rw [Option.bind_some]
    iterate 6
      rw [bind_takeParts_cons]
      refine Option.bind_congr fun _ _ => ?_
    show _ = (some _).bind _
    rw [Option.bind_some]
    exact ite_and _ _ _ _
  · have hnot : isBfibeKeyReleasePayload b = false := by
      rw [Bool.eq_false_iff, Ne, isBfibeKeyReleasePayload_iff]
      exact h
    rw [decodeFrame, if_neg h, hnot]
    rfl

/-- **The worker's parser is exact.** -/
theorem parseBfibeKeyRelease_eq_some_iff {b : Bytes} {p : ReleaseParts} :
    parseBfibeKeyRelease b = some p ↔ (AcceptedParts p ∧ p.Fits) ∧ b = encodeKeyRelease p := by
  rw [parseBfibeKeyRelease_eq, Option.bind_eq_some_iff]
  simp only [decodeFrame_bind_releaseOfParts, Option.ite_none_right_eq_some, Option.some.injEq]
  constructor
  · rintro ⟨q, ⟨hfits, rfl⟩, ⟨hprofile, hwrap, hnonce, hct⟩, rfl⟩
    exact ⟨⟨⟨hprofile, hwrap, hnonce, hct⟩, hfits⟩, rfl⟩
  · rintro ⟨⟨h, hfits⟩, rfl⟩
    exact ⟨p, ⟨hfits, rfl⟩, ⟨h.profile, h.wrapPublicKey, h.nonce, h.ciphertext⟩, rfl⟩

/-- The worker's associated data, when they fit its buffer. -/
theorem worker_buildBfibeKeyReleaseAad_eq_some_iff {p : ReleaseParts} {capacity : ℕ} {a : Bytes} :
    Worker.buildBfibeKeyReleaseAad p capacity = some a ↔ a.length ≤ capacity ∧ a = p.aad := by
  rw [Worker.buildBfibeKeyReleaseAad, writeParts_nil_eq_some_iff]
  simp only [ReleaseParts.aad, keyReleaseAad, aadPart, List.flatten_cons, List.flatten_nil,
    List.append_assoc, List.append_nil]

/-! ## Python -/

/-- The fields of a Python release as bytes. -/
structure Client.BfIbeKeyRelease.Encodes (r : BfIbeKeyRelease) (p : ReleaseParts) : Prop where
  profile : encodeText r.profile = some p.profile
  fid : encodeText r.fid = some p.fid
  workerIdentity : encodeText r.workerIdentity = some p.workerIdentity
  wrapPublicKey : r.wrapPublicKey = p.wrapPublicKey
  nonce : r.nonce = p.nonce
  ciphertext : r.ciphertext = p.ciphertext

/-- The Python release with the fields of a view. -/
def keyReleaseOfParts (p : ReleaseParts) : Option BfIbeKeyRelease := do
  let profile ← decodeText p.profile
  let fid ← decodeText p.fid
  let workerIdentity ← decodeText p.workerIdentity
  BfIbeKeyRelease.build fid workerIdentity p.wrapPublicKey p.nonce p.ciphertext profile

/-- **The Python release of a view** is the one whose fields encode to it. -/
theorem keyReleaseOfParts_eq_some_iff {p : ReleaseParts} {r : BfIbeKeyRelease} :
    keyReleaseOfParts p = some r ↔ r.Encodes p := by
  simp only [keyReleaseOfParts, Option.bind_eq_bind, Option.bind_eq_some_iff]
  constructor
  · rintro ⟨profile, hprofile, fid, hfid, workerIdentity, hworker, hbuild⟩
    unfold BfIbeKeyRelease.build at hbuild
    split at hbuild
    · rename_i h
      obtain rfl := Option.some.inj hbuild
      have hprofileSome : (encodeText profile).isSome := by
        rw [h.1, encode_profileId]
        rfl
      exact
        { profile := encodeText_eq_some_iff.mpr
            ⟨ne_nil_of_encodeText hprofileSome hprofile, hprofile⟩
          fid := encodeText_eq_some_iff.mpr ⟨ne_nil_of_encodeText h.2.1 hfid, hfid⟩
          workerIdentity := encodeText_eq_some_iff.mpr
            ⟨ne_nil_of_encodeText h.2.2.1 hworker, hworker⟩
          wrapPublicKey := rfl
          nonce := rfl
          ciphertext := rfl }
    · exact absurd hbuild (by simp)
  · intro h
    refine ⟨r.profile, (encodeText_eq_some_iff.mp h.profile).2, r.fid,
      (encodeText_eq_some_iff.mp h.fid).2, r.workerIdentity,
      (encodeText_eq_some_iff.mp h.workerIdentity).2, ?_⟩
    rw [← h.wrapPublicKey, ← h.nonce, ← h.ciphertext]
    exact r.build_self

/-- The test of magic and version in the Python decoder. -/
theorem releaseHeader_prefix_iff {b : Bytes} (hlen : 9 ≤ b.length) :
    releaseHeader <+: b ↔ b.take 8 = bfibeKeyReleaseMagic ∧ (b.drop 8).take 1 = [1] :=
  @header_prefix_iff bfibeKeyReleaseMagic b 1 hlen

/-- The Python decoder reads the parts and makes a release of them. -/
theorem decodeBfibeKeyRelease_eq (b : Bytes) :
    decodeBfibeKeyRelease b =
      ((decodeFrame releaseHeader 6 b).bind releaseOfParts).bind keyReleaseOfParts := by
  rw [Option.bind_assoc]
  unfold decodeBfibeKeyRelease
  by_cases h : releaseHeader <+: b
  · have hlen : 9 ≤ b.length := h.length_le
    obtain ⟨hmagic, hversion⟩ := (releaseHeader_prefix_iff hlen).mp h
    rw [bind_decodeFrame_slices h, if_neg (not_not_intro hmagic),
      if_neg (not_not_intro hversion)]
    cases hread : readLengths 6 (b.drop 9) with
    | none =>
      rw [show b.drop releaseHeader.length = b.drop 9 from rfl, hread]
      exact ite_self _
    | some q =>
      obtain ⟨lens, body⟩ := q
      have hb := length_of_readLengths hread
      rw [List.length_drop] at hb
      rw [show b.drop releaseHeader.length = b.drop 9 from rfl, hread, if_neg (by omega)]
      show (if b.length ≠ 33 + lens.sum then none else _) =
        if body.length = lens.sum then (releaseOfParts (slices lens body)).bind keyReleaseOfParts
        else none
      by_cases hsum : body.length = lens.sum
      · rw [if_neg (by omega), if_pos hsum]
        generalize slices lens body = parts
        -- both sides look for six parts
        rcases parts with _ | ⟨p, _ | ⟨f, _ | ⟨w, _ | ⟨k, _ | ⟨n, _ | ⟨c, _ | _⟩⟩⟩⟩⟩⟩
        all_goals rfl
      · rw [if_pos (by omega), if_neg hsum]
  · have hnone : decodeFrame releaseHeader 6 b = none := if_neg h
    rw [hnone, Option.bind_none]
    split
    · rfl
    · rename_i hlong
      split
      · rfl
      · rename_i hmagic
        split
        · rfl
        · rename_i hversion
          refine absurd ?_ h
          exact (releaseHeader_prefix_iff (by omega)).mpr
            ⟨not_not.mp hmagic, not_not.mp hversion⟩

/-- **The Python decoder is exact.** -/
theorem decodeBfibeKeyRelease_eq_some_iff {b : Bytes} {r : BfIbeKeyRelease} :
    decodeBfibeKeyRelease b = some r ↔ ∃ p, r.Encodes p ∧ p.Fits ∧ b = encodeKeyRelease p := by
  rw [decodeBfibeKeyRelease_eq, Option.bind_eq_some_iff]
  simp only [decodeFrame_bind_releaseOfParts, keyReleaseOfParts_eq_some_iff]
  constructor
  · rintro ⟨p, ⟨hfits, rfl⟩, h⟩
    exact ⟨p, h, hfits, rfl⟩
  · rintro ⟨p, h, hfits, rfl⟩
    exact ⟨p, ⟨hfits, rfl⟩, h⟩

/-- The Python encoder writes the canonical encoding. -/
theorem encodeBfibeKeyRelease_of_encodes {r : BfIbeKeyRelease} {p : ReleaseParts}
    (h : r.Encodes p) (hfits : p.Fits) : encodeBfibeKeyRelease r = some (encodeKeyRelease p) := by
  have hpack : packU32 [p.profile.length, p.fid.length, p.workerIdentity.length,
      p.wrapPublicKey.length, p.nonce.length, p.ciphertext.length] =
      some ((p.parts.map List.length).flatMap u32be) := by
    refine packU32_eq_some_iff.mpr ⟨?_, rfl⟩
    intro n hn
    obtain ⟨part, hpart, rfl⟩ := List.mem_map.mp (show n ∈ p.parts.map List.length from hn)
    exact hfits part hpart
  rw [encodeBfibeKeyRelease, h.profile, h.fid, h.workerIdentity, h.wrapPublicKey, h.nonce,
    h.ciphertext]
  simp only [Option.bind_eq_bind, Option.bind_some, hpack]
  rw [encodeKeyRelease_eq, encodeFrame, releaseHeader, List.flatMap_map]
  simp only [ReleaseParts.parts, List.flatten_cons, List.flatten_nil, List.append_assoc,
    List.append_nil]

/-- The Python associated data. -/
theorem keyReleaseAssociatedData_of_encodes {r : BfIbeKeyRelease} {p : ReleaseParts}
    (h : r.Encodes p) (hfits : p.Fits) : keyReleaseAssociatedData r = some p.aad := by
  have hpart : ∀ part ∈ p.parts, packPart part = some (aadPart part) :=
    fun part hmem => packPart_of_lt (hfits part hmem)
  rw [keyReleaseAssociatedData, h.profile, h.fid, h.workerIdentity, h.wrapPublicKey]
  simp only [Option.bind_eq_bind, Option.bind_some]
  rw [hpart p.profile (by simp [ReleaseParts.parts]),
    hpart p.fid (by simp [ReleaseParts.parts]),
    hpart p.workerIdentity (by simp [ReleaseParts.parts]),
    hpart p.wrapPublicKey (by simp [ReleaseParts.parts])]
  rfl

/-- A release with two texts is one in Python. -/
theorem exists_encodes {p : ReleaseParts} (h : AcceptedParts p) (ht : p.HasTexts) :
    ∃ r : BfIbeKeyRelease, r.Encodes p := by
  have htext : ∀ {b : Bytes} {t : Text}, b ≠ [] → utf8 t = b →
      encodeText (PyStr.ofText t) = some b := by
    intro b t hne hb
    refine encodeText_eq_some_iff.mpr ⟨hne, ?_⟩
    rw [decodeText, utf8Decode_eq_some_iff.mpr hb, Option.map_some]
  obtain ⟨hfid, t, hfidText⟩ := ht.fid
  obtain ⟨hworker, u, hworkerText⟩ := ht.workerIdentity
  have hwrap : p.wrapPublicKey ≠ [] := by
    intro hnil
    exact absurd h.wrapPublicKey (by rw [hnil]; decide)
  have hct : p.ciphertext ≠ [] := List.length_pos_iff.mp (Nat.zero_lt_of_lt h.ciphertext)
  refine ⟨⟨PyStr.ofText t, PyStr.ofText u, p.wrapPublicKey, p.nonce, p.ciphertext, profileId, rfl,
    ?_, ?_, hwrap, h.nonce, hct⟩, ?_⟩
  · rw [htext hfid hfidText]
    rfl
  · rw [htext hworker hworkerText]
    rfl
  · exact ⟨by rw [h.profile, encode_profileId], htext hfid hfidText,
      htext hworker hworkerText, rfl, rfl, rfl⟩

/-! ## The three side by side -/

/-- What worker and Python do with a release that both take. -/
structure ReleaseCodecsAgree (p : ReleaseParts) (r : BfIbeKeyRelease) : Prop where
  workerParses : parseBfibeKeyRelease (encodeKeyRelease p) = some p
  pythonFields : r.Encodes p
  pythonEncodes : encodeBfibeKeyRelease r = some (encodeKeyRelease p)
  pythonDecodes : decodeBfibeKeyRelease (encodeKeyRelease p) = some r
  workerAad : ∀ capacity, p.aad.length ≤ capacity →
    Worker.buildBfibeKeyReleaseAad p capacity = some p.aad
  pythonAad : keyReleaseAssociatedData r = some p.aad

/-- What the KMS writes for an FID and a worker identity in C strings. -/
structure KmsWrites (p : ReleaseParts) (fid workerIdentity : CStr) : Prop where
  release : ∀ capacity, (encodeKeyRelease p).length ≤ capacity →
    Kms.buildBfibeKeyRelease fid workerIdentity p.wrapPublicKey p.nonce p.ciphertext capacity =
      some (encodeKeyRelease p)
  aad : ∀ capacity, p.aad.length ≤ capacity →
    Kms.buildBfibeKeyReleaseAad fid workerIdentity p.wrapPublicKey capacity = some p.aad

/-- **The format is exact, and the codecs agree**: on every release that the worker accepts and
whose FID and worker identity are texts that are not empty, and with the KMS on those without a
NUL. -/
theorem release_codecs :
    (∀ b p, parseBfibeKeyRelease b = some p ↔
      (AcceptedParts p ∧ p.Fits) ∧ b = encodeKeyRelease p) ∧
    (∀ p : ReleaseParts, AcceptedParts p → p.Fits → p.HasTexts → ∃ r, ReleaseCodecsAgree p r) ∧
    (∀ (p : ReleaseParts) (fid workerIdentity : CStr), AcceptedParts p →
      fid.bytes = p.fid → workerIdentity.bytes = p.workerIdentity →
      KmsWrites p fid workerIdentity) ∧
    ∀ b p, parseBfibeKeyRelease b = some p → p.HasTexts →
      ∃ r : BfIbeKeyRelease, r.Encodes p ∧ decodeBfibeKeyRelease b = some r := by
  have hagree : ∀ p : ReleaseParts, AcceptedParts p → p.Fits → p.HasTexts →
      ∃ r, ReleaseCodecsAgree p r := by
    intro p h hfits ht
    obtain ⟨r, hr⟩ := exists_encodes h ht
    refine ⟨r, ?_⟩
    constructor
    · exact parseBfibeKeyRelease_eq_some_iff.mpr ⟨⟨h, hfits⟩, rfl⟩
    · exact hr
    · exact encodeBfibeKeyRelease_of_encodes hr hfits
    · exact decodeBfibeKeyRelease_eq_some_iff.mpr ⟨p, hr, hfits, rfl⟩
    · exact fun capacity hfit => worker_buildBfibeKeyReleaseAad_eq_some_iff.mpr ⟨hfit, rfl⟩
    · exact keyReleaseAssociatedData_of_encodes hr hfits
  refine ⟨fun b p => parseBfibeKeyRelease_eq_some_iff, hagree, ?_, ?_⟩
  · intro p fid workerIdentity h hfid hworker
    have hp : p = ⟨bfibeProfileId, fid.bytes, workerIdentity.bytes, p.wrapPublicKey, p.nonce,
        p.ciphertext⟩ := by
      rw [hfid, hworker, ← h.profile]
    constructor
    · intro capacity hfit
      exact Kms.buildBfibeKeyRelease_eq_some_iff.mpr ⟨hfit, by rw [← hp]⟩
    · intro capacity hfit
      refine Kms.buildBfibeKeyReleaseAad_eq_some_iff.mpr ⟨hfit, ?_⟩
      rw [ReleaseParts.aad, h.profile, hfid, hworker]
  · intro b p hb ht
    obtain ⟨⟨h, hfits⟩, rfl⟩ := parseBfibeKeyRelease_eq_some_iff.mp hb
    obtain ⟨r, hr⟩ := hagree p h hfits ht
    exact ⟨r, hr.pythonFields, hr.pythonDecodes⟩

/-! ## Two releases -/

/-- A release for an FID. -/
def sampleReleaseParts (fid : Bytes) : ReleaseParts where
  profile := bfibeProfileId
  fid := fid
  workerIdentity := ascii "mrenclave:00"
  wrapPublicKey := List.replicate 64 1
  nonce := List.replicate 12 0
  ciphertext := List.replicate 17 2

theorem sampleReleaseParts_accepted (fid : Bytes) : AcceptedParts (sampleReleaseParts fid) :=
  ⟨rfl, List.length_replicate, List.length_replicate, by
    rw [sampleReleaseParts, List.length_replicate]
    exact Nat.lt_succ_self 16⟩

/-- The codecs agree on a release for the FID `f`, and the KMS writes it. -/
theorem sampleReleaseParts_agree :
    (∃ r, ReleaseCodecsAgree (sampleReleaseParts (ascii "f")) r) ∧
      KmsWrites (sampleReleaseParts (ascii "f")) (CStr.lit "f") (CStr.lit "mrenclave:00") := by
  refine ⟨release_codecs.2.1 _ (sampleReleaseParts_accepted _) ?_ ⟨⟨by decide, ?_⟩, by decide, ?_⟩,
    release_codecs.2.2.1 _ _ _ (sampleReleaseParts_accepted _) (by decide +kernel)
      (by decide +kernel)⟩
  · intro part hpart
    have hall : (sampleReleaseParts (ascii "f")).parts.all
        fun part => decide (part.length < 2 ^ 32) := by decide +kernel
    exact of_decide_eq_true (List.all_eq_true.mp hall part hpart)
  · exact ⟨"f".toList, by decide +kernel⟩
  · exact ⟨"mrenclave:00".toList, by decide +kernel⟩

/-- What the KMS writes for the FID that it reads in a buffer. -/
def kmsReleaseOf (p : ReleaseParts) (capacity : ℕ) : Option Bytes :=
  Kms.buildBfibeKeyRelease (CStr.ofBuffer p.fid) (CStr.ofBuffer p.workerIdentity)
    p.wrapPublicKey p.nonce p.ciphertext capacity

/-- The text of one NUL character is an FID in Python, and the KMS reads the empty string. -/
theorem not_forall_kmsReleaseOf :
    ¬ ∀ p : ReleaseParts, AcceptedParts p → p.Fits → p.HasTexts →
      ∀ capacity, (encodeKeyRelease p).length ≤ capacity →
        kmsReleaseOf p capacity = some (encodeKeyRelease p) := by
  intro hall
  have h := hall (sampleReleaseParts [0]) (sampleReleaseParts_accepted _) ?_
    ⟨⟨by decide, ?_⟩, by decide, ?_⟩ 256 (by decide +kernel)
  · exact absurd h (by decide +kernel)
  · intro part hpart
    have hparts : (sampleReleaseParts [0]).parts.all
        fun part => decide (part.length < 2 ^ 32) := by decide +kernel
    exact of_decide_eq_true (List.all_eq_true.mp hparts part hpart)
  · exact ⟨[Char.ofNat 0], by decide +kernel⟩
  · exact ⟨"mrenclave:00".toList, by decide +kernel⟩

end AsynCS
