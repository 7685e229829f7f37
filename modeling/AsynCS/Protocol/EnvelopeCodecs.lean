import AsynCS.Client.BfibeEnvelope

/-!
# One envelope format for three codecs

The worker, the Python client and the client tool each parse and write `ASBFIBE1` envelopes with
code of their own.

* `encodeEnvelope`: the canonical encoding; `envelopeAad`: the associated data.
* `parseBfibeEnvelope_eq_some_iff`, `decodeBfibeEnvelope_eq_some_iff`,
  `BfibeTool.decodeEnvelope_eq_some_iff`: each parser accepts canonical encodings only, and these
  are the fields it asks for.
* `envelope_codecs`: the three side by side.  They agree on what the worker accepts; Python asks
  for a ciphertext that is not empty where the worker asks for more than a tag, and the tool asks
  for the profile only.
-/

namespace AsynCS

open Worker Client

/-! ## The canonical encoding -/

/-- Magic and version. -/
def envelopeHeader : Bytes := bfibeEnvelopeMagic ++ [1]

namespace Worker.BfibeKeyEnvelopeView

/-- The seven parts. -/
def parts (v : BfibeKeyEnvelopeView) : List Bytes :=
  [v.profile, v.purpose, v.identity, v.aadContext, v.c1, v.nonce, v.ciphertext]

/-- The length of every part fits 32 bits. -/
def Fits (v : BfibeKeyEnvelopeView) : Prop := ∀ part ∈ v.parts, part.length < 2 ^ 32

/-- What the worker asks of the fields. -/
structure Accepted (v : BfibeKeyEnvelopeView) : Prop where
  fits : v.Fits
  profile : v.profile = bfibeProfileId
  purpose : v.purpose = requestPurpose ∨ v.purpose = functionPurpose
  identity : v.identity ≠ []
  c1 : v.c1 ≠ []
  nonce : v.nonce.length = 12
  ciphertext : 16 < v.ciphertext.length

end Worker.BfibeKeyEnvelopeView

/-- The canonical encoding of an envelope. -/
def encodeEnvelope (v : BfibeKeyEnvelopeView) : Bytes := encodeFrame envelopeHeader v.parts

/-- The associated data of an envelope. -/
def envelopeAad (v : BfibeKeyEnvelopeView) : Bytes :=
  bfibeKeyEnvelopeAadMagic ++ aadPart v.profile ++ aadPart v.purpose ++ aadPart v.identity ++
    aadPart v.aadContext

/-- The envelope with these parts. -/
def viewOfParts : List Bytes → Option BfibeKeyEnvelopeView
  | [profile, purpose, identity, aadContext, c1, nonce, ciphertext] =>
    some ⟨profile, purpose, identity, aadContext, c1, nonce, ciphertext⟩
  | _ => none

theorem viewOfParts_eq_some_iff {parts : List Bytes} {v : BfibeKeyEnvelopeView} :
    viewOfParts parts = some v ↔ parts = v.parts := by
  constructor
  · intro h
    unfold viewOfParts at h
    split at h
    · rw [← Option.some.inj h]
      rfl
    · exact absurd h (by simp)
  · rintro rfl
    rfl

/-- **Read the parts of an envelope**: exactly the canonical encodings are read. -/
theorem decodeFrame_bind_viewOfParts {b : Bytes} {v : BfibeKeyEnvelopeView} :
    (decodeFrame envelopeHeader 7 b).bind viewOfParts = some v ↔
      v.Fits ∧ b = encodeEnvelope v := by
  simp only [Option.bind_eq_some_iff, decodeFrame_eq_some_iff, viewOfParts_eq_some_iff]
  constructor
  · rintro ⟨parts, ⟨-, hfits, rfl⟩, rfl⟩
    exact ⟨hfits, rfl⟩
  · rintro ⟨hfits, rfl⟩
    exact ⟨v.parts, ⟨rfl, hfits, rfl⟩, rfl⟩

/-! ## The worker -/

theorem isBfibeEnvelope_iff {c : Bytes} : isBfibeEnvelope c = true ↔ envelopeHeader <+: c :=
  @isHeader_iff bfibeEnvelopeMagic c 1

/-- The worker's parser reads the parts and checks them. -/
theorem parseBfibeEnvelope_eq (c : Bytes) :
    parseBfibeEnvelope c = ((decodeFrame envelopeHeader 7 c).bind viewOfParts).bind fun v =>
      if v.profile = bfibeProfileId ∧ (v.purpose = requestPurpose ∨ v.purpose = functionPurpose) ∧
          0 < v.identity.length ∧ 0 < v.c1.length ∧ v.nonce.length = 12 ∧
          16 < v.ciphertext.length then some v
      else none := by
  rw [Option.bind_assoc]
  unfold parseBfibeEnvelope
  by_cases h : envelopeHeader <+: c
  · rw [bind_decodeFrame h, isBfibeEnvelope_iff.mpr h, if_neg (by simp)]
    iterate 7
      rw [bind_readLengths_succ]
      refine Option.bind_congr fun _ _ => ?_
    show _ = (some _).bind _
    rw [Option.bind_some]
    iterate 7
      rw [bind_takeParts_cons]
      refine Option.bind_congr fun _ _ => ?_
    show _ = (some _).bind _
    rw [Option.bind_some]
    exact ite_and _ _ _ _
  · have hnot : isBfibeEnvelope c = false := by
      rw [Bool.eq_false_iff, Ne, isBfibeEnvelope_iff]
      exact h
    rw [decodeFrame, if_neg h, hnot]
    rfl

/-- **The worker's parser is exact.** -/
theorem parseBfibeEnvelope_eq_some_iff {b : Bytes} {v : BfibeKeyEnvelopeView} :
    parseBfibeEnvelope b = some v ↔ v.Accepted ∧ b = encodeEnvelope v := by
  rw [parseBfibeEnvelope_eq, Option.bind_eq_some_iff]
  simp only [decodeFrame_bind_viewOfParts, Option.ite_none_right_eq_some, Option.some.injEq]
  constructor
  · rintro ⟨w, ⟨hfits, rfl⟩, ⟨hprofile, hpurpose, hidentity, hc1, hnonce, hct⟩, rfl⟩
    exact ⟨⟨hfits, hprofile, hpurpose, List.length_pos_iff.mp hidentity,
      List.length_pos_iff.mp hc1, hnonce, hct⟩, rfl⟩
  · rintro ⟨h, rfl⟩
    exact ⟨v, ⟨h.fits, rfl⟩, ⟨h.profile, h.purpose, List.length_pos_iff.mpr h.identity,
      List.length_pos_iff.mpr h.c1, h.nonce, h.ciphertext⟩, rfl⟩

/-- The worker's associated data, when they fit its buffer. -/
theorem buildBfibeEnvelopeAad_eq_some_iff {v : BfibeKeyEnvelopeView} {capacity : ℕ} {a : Bytes} :
    buildBfibeEnvelopeAad v capacity = some a ↔ a.length ≤ capacity ∧ a = envelopeAad v := by
  rw [buildBfibeEnvelopeAad, writeParts_nil_eq_some_iff]
  simp only [envelopeAad, aadPart, List.flatten_cons, List.flatten_nil, List.append_assoc,
    List.append_nil]

/-! ## Python -/

namespace Client.BfIbeEnvelope

/-- The fields of a Python envelope as bytes. -/
structure Encodes (e : BfIbeEnvelope) (v : BfibeKeyEnvelopeView) : Prop where
  profile : encodeText e.profile = some v.profile
  purpose : encodeText e.purpose = some v.purpose
  identity : encodeText e.identity = some v.identity
  aadContext : e.aadContext = v.aadContext
  c1 : e.c1 = v.c1
  nonce : e.nonce = v.nonce
  ciphertext : e.ciphertext = v.ciphertext

end Client.BfIbeEnvelope

theorem encode_profileId : encodeText profileId = some bfibeProfileId := by decide +kernel

theorem encode_functionKey : encodeText (pyLit "function-key") = some functionPurpose := by
  decide +kernel

theorem encode_requestKey : encodeText (pyLit "request-key") = some requestPurpose := by
  decide +kernel

/-- Encoding a text loses nothing. -/
theorem encodeText_inj {s t : PyStr} {b : Bytes} (hs : encodeText s = some b)
    (ht : encodeText t = some b) : s = t := by
  have hs' := (encodeText_eq_some_iff.mp hs).2
  rw [(encodeText_eq_some_iff.mp ht).2] at hs'
  exact (Option.some.inj hs').symm

/-- What a Python envelope asks of the bytes of its fields. -/
structure Worker.BfibeKeyEnvelopeView.AcceptedByPython (v : BfibeKeyEnvelopeView) : Prop where
  fits : v.Fits
  profile : v.profile = bfibeProfileId
  purpose : v.purpose = requestPurpose ∨ v.purpose = functionPurpose
  identity : v.identity ≠ [] ∧ ∃ t, utf8 t = v.identity
  c1 : v.c1 ≠ []
  nonce : v.nonce.length = 12
  ciphertext : v.ciphertext ≠ []

/-- The purposes that Python allows are those of the worker. -/
theorem purpose_mem_iff {purpose : PyStr} {b : Bytes} (h : encodeText purpose = some b) :
    purpose ∈ allowedPurposes ↔ b = requestPurpose ∨ b = functionPurpose := by
  rw [allowedPurposes, List.mem_cons, List.mem_singleton]
  constructor
  · rintro (rfl | rfl)
    · exact Or.inr (Option.some.inj (h.symm.trans encode_functionKey))
    · exact Or.inl (Option.some.inj (h.symm.trans encode_requestKey))
  · rintro (rfl | rfl)
    · exact Or.inr (encodeText_inj h encode_requestKey)
    · exact Or.inl (encodeText_inj h encode_functionKey)

/-- The Python envelope with the fields of a view. -/
def envelopeOfView (v : BfibeKeyEnvelopeView) : Option BfIbeEnvelope := do
  let profile ← decodeText v.profile
  let purpose ← decodeText v.purpose
  let identity ← decodeText v.identity
  BfIbeEnvelope.build purpose identity v.aadContext v.c1 v.nonce v.ciphertext profile

/-- A text that encodes is not empty, and neither is its encoding. -/
theorem ne_nil_of_encodeText {s : PyStr} {b : Bytes} (hsome : (encodeText s).isSome)
    (h : decodeText b = some s) : b ≠ [] := by
  rintro rfl
  obtain ⟨c, hc⟩ := Option.isSome_iff_exists.mp hsome
  obtain ⟨hne, hdecode⟩ := encodeText_eq_some_iff.mp hc
  have hempty : decodeText [] = some [] := by decide +kernel
  rw [hempty] at h
  obtain rfl := Option.some.inj h
  have hs : encodeText [] = some c := encodeText_eq_some_iff.mpr ⟨hne, hdecode⟩
  exact absurd hs (by simp [encodeText])

/-- **The Python envelope of a view** is the one whose fields encode to it. -/
theorem envelopeOfView_eq_some_iff {v : BfibeKeyEnvelopeView} {e : BfIbeEnvelope} :
    envelopeOfView v = some e ↔ e.Encodes v := by
  simp only [envelopeOfView, Option.bind_eq_bind, Option.bind_eq_some_iff]
  constructor
  · rintro ⟨profile, hprofile, purpose, hpurpose, identity, hidentity, hbuild⟩
    unfold BfIbeEnvelope.build at hbuild
    split at hbuild
    · rename_i h
      obtain rfl := Option.some.inj hbuild
      have hpurposeSome : (encodeText purpose).isSome := by
        have hmem := h.2.1
        rw [allowedPurposes, List.mem_cons, List.mem_singleton] at hmem
        rcases hmem with rfl | rfl
        · rw [encode_functionKey]
          rfl
        · rw [encode_requestKey]
          rfl
      have hprofileSome : (encodeText profile).isSome := by
        rw [h.1, encode_profileId]
        rfl
      exact
        { profile := encodeText_eq_some_iff.mpr
            ⟨ne_nil_of_encodeText hprofileSome hprofile, hprofile⟩
          purpose := encodeText_eq_some_iff.mpr
            ⟨ne_nil_of_encodeText hpurposeSome hpurpose, hpurpose⟩
          identity := encodeText_eq_some_iff.mpr
            ⟨ne_nil_of_encodeText h.2.2.1 hidentity, hidentity⟩
          aadContext := rfl
          c1 := rfl
          nonce := rfl
          ciphertext := rfl }
    · exact absurd hbuild (by simp)
  · intro h
    refine ⟨e.profile, (encodeText_eq_some_iff.mp h.profile).2, e.purpose,
      (encodeText_eq_some_iff.mp h.purpose).2, e.identity,
      (encodeText_eq_some_iff.mp h.identity).2, ?_⟩
    rw [← h.aadContext, ← h.c1, ← h.nonce, ← h.ciphertext]
    exact e.build_self

/-- The test of magic and version in the other decoders. -/
theorem envelopeHeader_prefix_iff {b : Bytes} (hlen : 9 ≤ b.length) :
    envelopeHeader <+: b ↔ b.take 8 = bfibeEnvelopeMagic ∧ (b.drop 8).take 1 = [1] :=
  @header_prefix_iff bfibeEnvelopeMagic b 1 hlen

/-- The Python decoder reads the parts and makes an envelope of them. -/
theorem decodeBfibeEnvelope_eq (b : Bytes) :
    decodeBfibeEnvelope b =
      ((decodeFrame envelopeHeader 7 b).bind viewOfParts).bind envelopeOfView := by
  rw [Option.bind_assoc]
  unfold decodeBfibeEnvelope
  by_cases h : envelopeHeader <+: b
  · have hlen : 9 ≤ b.length := h.length_le
    obtain ⟨hmagic, hversion⟩ := (envelopeHeader_prefix_iff hlen).mp h
    rw [bind_decodeFrame_slices h, if_neg (not_not_intro hmagic),
      if_neg (not_not_intro hversion)]
    cases hread : readLengths 7 (b.drop 9) with
    | none =>
      rw [show b.drop envelopeHeader.length = b.drop 9 from rfl, hread]
      exact ite_self _
    | some q =>
      obtain ⟨lens, body⟩ := q
      have hb := length_of_readLengths hread
      rw [List.length_drop] at hb
      rw [show b.drop envelopeHeader.length = b.drop 9 from rfl, hread, if_neg (by omega)]
      show (if b.length ≠ 37 + lens.sum then none else _) =
        if body.length = lens.sum then (viewOfParts (slices lens body)).bind envelopeOfView
        else none
      by_cases hsum : body.length = lens.sum
      · rw [if_neg (by omega), if_pos hsum]
        generalize slices lens body = parts
        -- both sides look for seven parts
        rcases parts with _ | ⟨p, _ | ⟨u, _ | ⟨i, _ | ⟨a, _ | ⟨c, _ | ⟨n, _ | ⟨t, _ | _⟩⟩⟩⟩⟩⟩⟩
        all_goals rfl
      · rw [if_pos (by omega), if_neg hsum]
  · have hnone : decodeFrame envelopeHeader 7 b = none := if_neg h
    rw [hnone, Option.bind_none]
    split
    · rfl
    · rename_i hlong
      split
      · rfl
      · rename_i hmagic
        split
        · rfl
        · rename_i hversion
          refine absurd ?_ h
          exact (envelopeHeader_prefix_iff (by omega)).mpr
            ⟨not_not.mp hmagic, not_not.mp hversion⟩

/-- **The Python decoder is exact.** -/
theorem decodeBfibeEnvelope_eq_some_iff {b : Bytes} {e : BfIbeEnvelope} :
    decodeBfibeEnvelope b = some e ↔ ∃ v, e.Encodes v ∧ v.Fits ∧ b = encodeEnvelope v := by
  rw [decodeBfibeEnvelope_eq, Option.bind_eq_some_iff]
  simp only [decodeFrame_bind_viewOfParts, envelopeOfView_eq_some_iff]
  constructor
  · rintro ⟨v, ⟨hfits, rfl⟩, h⟩
    exact ⟨v, h, hfits, rfl⟩
  · rintro ⟨v, h, hfits, rfl⟩
    exact ⟨v, ⟨hfits, rfl⟩, h⟩

/-- The Python encoder writes the canonical encoding. -/
theorem encodeBfibeEnvelope_of_encodes {e : BfIbeEnvelope} {v : BfibeKeyEnvelopeView}
    (h : e.Encodes v) (hfits : v.Fits) : encodeBfibeEnvelope e = some (encodeEnvelope v) := by
  have hpack : packU32 [v.profile.length, v.purpose.length, v.identity.length,
      v.aadContext.length, v.c1.length, v.nonce.length, v.ciphertext.length] =
      some ((v.parts.map List.length).flatMap u32be) := by
    refine packU32_eq_some_iff.mpr ⟨?_, rfl⟩
    intro n hn
    obtain ⟨part, hpart, rfl⟩ := List.mem_map.mp (show n ∈ v.parts.map List.length from hn)
    exact hfits part hpart
  rw [encodeBfibeEnvelope, h.profile, h.purpose, h.identity, h.aadContext, h.c1, h.nonce,
    h.ciphertext]
  simp only [Option.bind_eq_bind, Option.bind_some, hpack]
  rw [encodeEnvelope, encodeFrame, envelopeHeader, List.flatMap_map]
  simp only [BfibeKeyEnvelopeView.parts, List.flatten_cons, List.flatten_nil, List.append_assoc,
    List.append_nil]

/-- The Python associated data. -/
theorem envelopeAssociatedData_of_encodes {e : BfIbeEnvelope} {v : BfibeKeyEnvelopeView}
    (h : e.Encodes v) (hfits : v.Fits) : envelopeAssociatedData e = some (envelopeAad v) := by
  have hpart : ∀ part ∈ v.parts, packPart part = some (aadPart part) :=
    fun part hmem => packPart_of_lt (hfits part hmem)
  rw [envelopeAssociatedData, h.profile, h.purpose, h.identity, h.aadContext]
  simp only [Option.bind_eq_bind, Option.bind_some]
  rw [hpart v.profile (by simp [BfibeKeyEnvelopeView.parts]),
    hpart v.purpose (by simp [BfibeKeyEnvelopeView.parts]),
    hpart v.identity (by simp [BfibeKeyEnvelopeView.parts]),
    hpart v.aadContext (by simp [BfibeKeyEnvelopeView.parts])]
  rfl

/-- The views that Python takes are those of its envelopes. -/
theorem acceptedByPython_iff {v : BfibeKeyEnvelopeView} :
    v.AcceptedByPython ↔ v.Fits ∧ ∃ e : BfIbeEnvelope, e.Encodes v := by
  constructor
  · intro h
    obtain ⟨hne, t, ht⟩ := h.identity
    have hidentity : encodeText (PyStr.ofText t) = some v.identity := by
      refine encodeText_eq_some_iff.mpr ⟨hne, ?_⟩
      rw [decodeText, utf8Decode_eq_some_iff.mpr ht, Option.map_some]
    have hpurpose : ∃ purpose, encodeText purpose = some v.purpose := by
      rcases h.purpose with heq | heq
      · exact ⟨_, heq ▸ encode_requestKey⟩
      · exact ⟨_, heq ▸ encode_functionKey⟩
    obtain ⟨purpose, hpurpose⟩ := hpurpose
    refine ⟨h.fits, ⟨purpose, PyStr.ofText t, v.aadContext, v.c1, v.nonce, v.ciphertext, profileId,
      rfl, (purpose_mem_iff hpurpose).mpr h.purpose, ?_, h.c1, h.nonce, h.ciphertext⟩, ?_⟩
    · rw [hidentity]
      rfl
    · exact ⟨by rw [h.profile, encode_profileId], hpurpose, hidentity, rfl, rfl, rfl, rfl⟩
  · rintro ⟨hfits, e, h⟩
    have hprofile := h.profile
    rw [e.profile_eq, encode_profileId] at hprofile
    obtain ⟨hne, hdecode⟩ := encodeText_eq_some_iff.mp h.identity
    obtain ⟨t, ht, -⟩ := Option.map_eq_some_iff.mp hdecode
    exact
      { fits := hfits
        profile := (Option.some.inj hprofile).symm
        purpose := (purpose_mem_iff h.purpose).mp e.purpose_mem
        identity := ⟨hne, t, utf8Decode_eq_some_iff.mp ht⟩
        c1 := h.c1 ▸ e.c1_ne
        nonce := h.nonce ▸ e.nonce_length
        ciphertext := h.ciphertext ▸ e.ciphertext_ne }

/-! ## The client tool -/

namespace Client.BfibeTool

/-- The parts of the tool, with its profile. -/
def EnvelopeParts.view (p : EnvelopeParts) : BfibeKeyEnvelopeView :=
  ⟨bfibeProfileId, p.purpose, p.identity, p.aadContext, p.c1, p.nonce, p.ciphertext⟩

/-- The tool writes the canonical encoding. -/
theorem encodeEnvelope_eq (p : EnvelopeParts) :
    encodeEnvelope p = AsynCS.encodeEnvelope p.view := by
  rw [encodeEnvelope, AsynCS.encodeEnvelope, encodeFrame, envelopeHeader]
  simp only [EnvelopeParts.view, BfibeKeyEnvelopeView.parts, List.flatMap_cons, List.flatMap_nil,
    List.flatten_cons, List.flatten_nil, List.append_assoc, List.append_nil]

/-- The tool's associated data. -/
theorem buildEnvelopeAad_eq (p : EnvelopeParts) : buildEnvelopeAad p = envelopeAad p.view := rfl

/-- The tool's decoder reads the parts and compares the profile. -/
theorem decodeEnvelope_eq (b : Bytes) :
    decodeEnvelope b = ((decodeFrame envelopeHeader 7 b).bind viewOfParts).bind fun v =>
      if v.profile = bfibeProfileId then
        some ⟨v.purpose, v.identity, v.aadContext, v.c1, v.nonce, v.ciphertext⟩
      else none := by
  rw [Option.bind_assoc]
  unfold decodeEnvelope
  by_cases h : envelopeHeader <+: b
  · have hlen : 9 ≤ b.length := h.length_le
    obtain ⟨hmagic, hversion⟩ := (envelopeHeader_prefix_iff hlen).mp h
    rw [bind_decodeFrame h, if_neg (not_not_intro hversion)]
    by_cases hshort : b.length < 8 + 1 + 7 * 4
    · rw [if_pos (Or.inl hshort)]
      symm
      rw [Option.bind_eq_none_iff]
      rintro ⟨lens, body⟩ hread
      have hb := length_of_readLengths hread
      rw [List.length_drop, show envelopeHeader.length = 9 from rfl] at hb
      omega
    · rw [if_neg (by rintro (h | h); exacts [hshort h, h hmagic])]
      iterate 7
        rw [bind_readLengths_succ]
        refine Option.bind_congr fun _ _ => ?_
      show _ = (some _).bind _
      rw [Option.bind_some, bind_takeParts_cons]
      refine Option.bind_congr fun q _ => ?_
      obtain ⟨profile, r⟩ := q
      dsimp only
      by_cases hprofile : profile = bfibeProfileId
      · rw [if_neg (not_not_intro hprofile)]
        iterate 6
          rw [bind_takeParts_cons]
          refine Option.bind_congr fun _ _ => ?_
        show _ = (some _).bind _
        rw [Option.bind_some]
        refine (ite_not _ _ _).trans ?_
        refine if_congr Iff.rfl ?_ rfl
        exact (if_pos hprofile).symm
      · rw [if_pos hprofile]
        symm
        rw [Option.bind_eq_none_iff]
        rintro ⟨parts, rest⟩ -
        split
        · unfold viewOfParts
          split
          · rename_i heq
            obtain ⟨rfl, -⟩ := List.cons.inj heq
            exact if_neg hprofile
          · rfl
        · rfl
  · have hnone : decodeFrame envelopeHeader 7 b = none := if_neg h
    rw [hnone, Option.bind_none]
    split
    · rfl
    · rename_i hlong
      split
      · rfl
      · rename_i hversion
        refine absurd ?_ h
        rw [not_or, not_not] at hlong
        exact (envelopeHeader_prefix_iff (by omega)).mpr ⟨hlong.2, not_not.mp hversion⟩

/-- **The tool's decoder is exact.** -/
theorem decodeEnvelope_eq_some_iff {b : Bytes} {p : EnvelopeParts} :
    decodeEnvelope b = some p ↔ p.view.Fits ∧ b = AsynCS.encodeEnvelope p.view := by
  rw [decodeEnvelope_eq, Option.bind_eq_some_iff]
  simp only [decodeFrame_bind_viewOfParts, Option.ite_none_right_eq_some, Option.some.injEq]
  constructor
  · rintro ⟨v, ⟨hfits, rfl⟩, hprofile, rfl⟩
    have hv : v = EnvelopeParts.view
        ⟨v.purpose, v.identity, v.aadContext, v.c1, v.nonce, v.ciphertext⟩ := by
      rw [EnvelopeParts.view, ← hprofile]
    rw [← hv]
    exact ⟨hfits, rfl⟩
  · rintro ⟨hfits, rfl⟩
    exact ⟨p.view, ⟨hfits, rfl⟩, rfl, rfl⟩

end Client.BfibeTool

/-! ## The three side by side -/

/-- What the three codecs do with an envelope that all of them take. -/
structure CodecsAgree (v : BfibeKeyEnvelopeView) (e : BfIbeEnvelope) (p : BfibeTool.EnvelopeParts) :
    Prop where
  workerParses : parseBfibeEnvelope (encodeEnvelope v) = some v
  pythonFields : e.Encodes v
  pythonEncodes : encodeBfibeEnvelope e = some (encodeEnvelope v)
  pythonDecodes : decodeBfibeEnvelope (encodeEnvelope v) = some e
  toolFields : p.view = v
  toolEncodes : BfibeTool.encodeEnvelope p = encodeEnvelope v
  toolDecodes : BfibeTool.decodeEnvelope (encodeEnvelope v) = some p
  workerAad : ∀ capacity, (envelopeAad v).length ≤ capacity →
    buildBfibeEnvelopeAad v capacity = some (envelopeAad v)
  pythonAad : envelopeAssociatedData e = some (envelopeAad v)
  toolAad : BfibeTool.buildEnvelopeAad p = envelopeAad v

/-- **The codecs agree** on every envelope that the worker accepts and whose identity is a text. -/
theorem exists_codecsAgree {v : BfibeKeyEnvelopeView} (h : v.Accepted)
    (htext : ∃ t, utf8 t = v.identity) : ∃ e p, CodecsAgree v e p := by
  have hct : v.ciphertext ≠ [] := List.length_pos_iff.mp (Nat.zero_lt_of_lt h.ciphertext)
  obtain ⟨-, e, he⟩ := acceptedByPython_iff.mp
    ⟨h.fits, h.profile, h.purpose, ⟨h.identity, htext⟩, h.c1, h.nonce, hct⟩
  have hview : (⟨v.purpose, v.identity, v.aadContext, v.c1, v.nonce, v.ciphertext⟩ :
      BfibeTool.EnvelopeParts).view = v := by
    rw [BfibeTool.EnvelopeParts.view, ← h.profile]
  refine ⟨e, ⟨v.purpose, v.identity, v.aadContext, v.c1, v.nonce, v.ciphertext⟩, ?_⟩
  constructor
  · exact parseBfibeEnvelope_eq_some_iff.mpr ⟨h, rfl⟩
  · exact he
  · exact encodeBfibeEnvelope_of_encodes he h.fits
  · exact decodeBfibeEnvelope_eq_some_iff.mpr ⟨v, he, h.fits, rfl⟩
  · exact hview
  · rw [BfibeTool.encodeEnvelope_eq, hview]
  · exact BfibeTool.decodeEnvelope_eq_some_iff.mpr ⟨hview.symm ▸ h.fits, by rw [hview]⟩
  · exact fun capacity hfit => buildBfibeEnvelopeAad_eq_some_iff.mpr ⟨hfit, rfl⟩
  · exact envelopeAssociatedData_of_encodes he h.fits
  · rw [BfibeTool.buildEnvelopeAad_eq, hview]

/-- **The format is exact in all three codecs.**  Each decoder accepts canonical encodings only.
The worker and the other two agree on what the worker accepts; Python takes any ciphertext that is
not empty, and the tool takes any fields behind the profile. -/
theorem envelope_codecs :
    (∀ b v, parseBfibeEnvelope b = some v ↔ v.Accepted ∧ b = encodeEnvelope v) ∧
    (∀ v : BfibeKeyEnvelopeView, v.Accepted → (∃ t, utf8 t = v.identity) →
      ∃ e p, CodecsAgree v e p) ∧
    (∀ b, (decodeBfibeEnvelope b).isSome ↔
      ∃ v : BfibeKeyEnvelopeView, v.AcceptedByPython ∧ b = encodeEnvelope v) ∧
    ∀ b p, BfibeTool.decodeEnvelope b = some p ↔ p.view.Fits ∧ b = encodeEnvelope p.view := by
  refine ⟨fun b v => parseBfibeEnvelope_eq_some_iff, fun v h ht => exists_codecsAgree h ht, ?_,
    fun b p => BfibeTool.decodeEnvelope_eq_some_iff⟩
  intro b
  rw [Option.isSome_iff_exists]
  simp only [decodeBfibeEnvelope_eq_some_iff, acceptedByPython_iff]
  constructor
  · rintro ⟨e, v, he, hfits, rfl⟩
    exact ⟨v, ⟨hfits, e, he⟩, rfl⟩
  · rintro ⟨v, ⟨hfits, e, he⟩, rfl⟩
    exact ⟨e, v, he, hfits, rfl⟩

/-! ## Two envelopes -/

/-- An envelope with a ciphertext of one byte and a tag. -/
def sampleEnvelope : BfibeKeyEnvelopeView where
  profile := bfibeProfileId
  purpose := requestPurpose
  identity := ascii "fid:f"
  aadContext := ascii "REQ"
  c1 := [1]
  nonce := List.replicate 12 0
  ciphertext := List.replicate 17 2

theorem sampleEnvelope_fits : sampleEnvelope.Fits := by
  intro part hpart
  have hall : sampleEnvelope.parts.all fun part => decide (part.length < 2 ^ 32) := by
    decide +kernel
  exact of_decide_eq_true (List.all_eq_true.mp hall part hpart)

/-- The codecs agree on it. -/
theorem sampleEnvelope_codecsAgree : ∃ e p, CodecsAgree sampleEnvelope e p :=
  envelope_codecs.2.1 sampleEnvelope
    ⟨sampleEnvelope_fits, rfl, Or.inl rfl, by decide, by decide, by decide, by decide⟩
    ⟨"fid:f".toList, by decide +kernel⟩

/-- The worker rejects an envelope with a ciphertext of two bytes, and the other two decode it. -/
theorem not_forall_rejected :
    ¬ ∀ b, parseBfibeEnvelope b = none →
      decodeBfibeEnvelope b = none ∧ BfibeTool.decodeEnvelope b = none := by
  intro h
  obtain ⟨hpython, -⟩ := h (encodeEnvelope { sampleEnvelope with ciphertext := ascii "ct" })
    (by decide +kernel)
  have hsome : (decodeBfibeEnvelope
      (encodeEnvelope { sampleEnvelope with ciphertext := ascii "ct" })).isSome = true := by
    decide +kernel
  rw [hpython] at hsome
  exact absurd hsome (by simp)

end AsynCS
