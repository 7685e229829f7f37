import AsynCS.Lib.Framing
import AsynCS.Lib.Text
import AsynCS.Worker.DecKey

/-!
# `ASBFIBE1` envelopes in Python and in the client tool

The Python class of an envelope checks its fields when it is made, so an envelope here carries the
checks.  A function that raises returns `none`.

* `encodeText`, `packU32`, `packPart`: what both Python codecs share.
* `BfIbeEnvelope`: `encodeBfibeEnvelope`, `decodeBfibeEnvelope`, `envelopeAssociatedData`.
* `BfibeTool`: `encode_envelope`, `decode_envelope` and `build_envelope_aad` of
  `bfibe_mcl_client_tool`, which check less.
-/

namespace AsynCS
namespace Client

/-! ## Texts and numbers -/

/-- A string literal of a Python source. -/
def pyLit (s : String) : PyStr := PyStr.ofText s.toList

/-- `_encode_text`. -/
def encodeText (value : PyStr) : Option Bytes := if value = [] then none else value.encode

/-- `struct.pack` of big-endian 32-bit numbers: it raises when one does not fit. -/
def packU32 (ns : List ℕ) : Option Bytes :=
  if ∀ n ∈ ns, n < 2 ^ 32 then some (ns.flatMap u32be) else none

/-- `_pack_part`. -/
def packPart (part : Bytes) : Option Bytes := (packU32 [part.length]).map (· ++ part)

/-- `.decode("utf-8")` -/
def decodeText (b : Bytes) : Option PyStr := (utf8Decode b).map PyStr.ofText

theorem encodeText_eq_some_iff {value : PyStr} {b : Bytes} :
    encodeText value = some b ↔ b ≠ [] ∧ decodeText b = some value := by
  unfold encodeText decodeText
  constructor
  · intro h
    split at h
    · exact absurd h (by simp)
    · rename_i hne
      obtain ⟨t, rfl, rfl⟩ := PyStr.encode_eq_some_iff.mp h
      refine ⟨?_, ?_⟩
      · rintro hnil
        refine hne ?_
        cases t with
        | nil => rfl
        | cons c t => exact absurd hnil (utf8_ne_nil (List.cons_ne_nil c t))
      · rw [utf8Decode_eq_some_iff.mpr rfl, Option.map_some]
  · rintro ⟨hne, h⟩
    obtain ⟨t, ht, rfl⟩ := Option.map_eq_some_iff.mp h
    have hb := utf8Decode_eq_some_iff.mp ht
    rw [if_neg ?_, PyStr.encode_ofText, hb]
    intro hnil
    rw [PyStr.ofText, List.map_eq_nil_iff] at hnil
    rw [hnil] at hb
    exact hne hb.symm

theorem packU32_eq_some_iff {ns : List ℕ} {b : Bytes} :
    packU32 ns = some b ↔ (∀ n ∈ ns, n < 2 ^ 32) ∧ b = ns.flatMap u32be := by
  unfold packU32
  split
  · rename_i h
    rw [Option.some.injEq, eq_comm (a := b)]
    exact (and_iff_right h).symm
  · rename_i h
    exact ⟨fun hn => absurd hn (by simp), fun hb => absurd hb.1 h⟩

theorem packPart_of_lt {part : Bytes} (h : part.length < 2 ^ 32) :
    packPart part = some (aadPart part) := by
  have hpack : packU32 [part.length] = some (u32be part.length) := by
    refine packU32_eq_some_iff.mpr ⟨?_, by rw [List.flatMap_singleton]⟩
    intro n hn
    rw [List.mem_singleton.mp hn]
    exact h
  rw [packPart, hpack]
  rfl

/-! ## The Python codec -/

/-- `BFIBE_PROFILE_ID` -/
def profileId : PyStr := pyLit "bfibe-mcl-bls12381"

/-- `_ALLOWED_PURPOSES` -/
def allowedPurposes : List PyStr := [pyLit "function-key", pyLit "request-key"]

/-- `BfIbeEnvelope`, with what `__post_init__` checks. -/
@[ext] structure BfIbeEnvelope where
  purpose : PyStr
  identity : PyStr
  aadContext : Bytes
  c1 : Bytes
  nonce : Bytes
  ciphertext : Bytes
  profile : PyStr
  profile_eq : profile = profileId
  purpose_mem : purpose ∈ allowedPurposes
  identity_encodes : (encodeText identity).isSome
  c1_ne : c1 ≠ []
  nonce_length : nonce.length = 12
  ciphertext_ne : ciphertext ≠ []

instance : DecidableEq BfIbeEnvelope := fun _ _ => decidable_of_iff' _ BfIbeEnvelope.ext_iff

namespace BfIbeEnvelope

/-- The constructor, with the checks of `__post_init__`. -/
def build (purpose identity : PyStr) (aadContext c1 nonce ciphertext : Bytes) (profile : PyStr) :
    Option BfIbeEnvelope :=
  if h : profile = profileId ∧ purpose ∈ allowedPurposes ∧ (encodeText identity).isSome ∧
      c1 ≠ [] ∧ nonce.length = 12 ∧ ciphertext ≠ [] then
    some ⟨purpose, identity, aadContext, c1, nonce, ciphertext, profile, h.1, h.2.1, h.2.2.1,
      h.2.2.2.1, h.2.2.2.2.1, h.2.2.2.2.2⟩
  else none

/-- The fields of an envelope pass their own checks. -/
theorem build_self (e : BfIbeEnvelope) :
    build e.purpose e.identity e.aadContext e.c1 e.nonce e.ciphertext e.profile = some e :=
  dif_pos ⟨e.profile_eq, e.purpose_mem, e.identity_encodes, e.c1_ne, e.nonce_length,
    e.ciphertext_ne⟩

end BfIbeEnvelope

/-- `encode_bfibe_envelope`. -/
def encodeBfibeEnvelope (envelope : BfIbeEnvelope) : Option Bytes := do
  let profile ← encodeText envelope.profile
  let purpose ← encodeText envelope.purpose
  let identity ← encodeText envelope.identity
  let lengths ← packU32
    [profile.length, purpose.length, identity.length, envelope.aadContext.length,
      envelope.c1.length, envelope.nonce.length, envelope.ciphertext.length]
  some (Worker.bfibeEnvelopeMagic ++ [1] ++ lengths ++ profile ++ purpose ++ identity ++
    envelope.aadContext ++ envelope.c1 ++ envelope.nonce ++ envelope.ciphertext)

/-- `decode_bfibe_envelope`. -/
def decodeBfibeEnvelope (data : Bytes) : Option BfIbeEnvelope :=
  if data.length < 37 then none
  else if data.take 8 ≠ Worker.bfibeEnvelopeMagic then none
  else if (data.drop 8).take 1 ≠ [1] then none
  else do
    let (lengths, body) ← readLengths 7 (data.drop 9)
    if data.length ≠ 37 + lengths.sum then none
    else
      match slices lengths body with
      | [profile, purpose, identity, aadContext, c1, nonce, ciphertext] => do
        let profile ← decodeText profile
        let purpose ← decodeText purpose
        let identity ← decodeText identity
        BfIbeEnvelope.build purpose identity aadContext c1 nonce ciphertext profile
      | _ => none

/-- `envelope_associated_data`. -/
def envelopeAssociatedData (envelope : BfIbeEnvelope) : Option Bytes := do
  let profile ← packPart (← encodeText envelope.profile)
  let purpose ← packPart (← encodeText envelope.purpose)
  let identity ← packPart (← encodeText envelope.identity)
  let aadContext ← packPart envelope.aadContext
  some (Worker.bfibeKeyEnvelopeAadMagic ++ profile ++ purpose ++ identity ++ aadContext)

/-! ## The client tool -/

namespace BfibeTool

/-- `EnvelopeParts`. -/
structure EnvelopeParts where
  purpose : Bytes
  identity : Bytes
  aadContext : Bytes
  c1 : Bytes
  nonce : Bytes
  ciphertext : Bytes
  deriving DecidableEq

/-- `build_envelope_aad`. -/
def buildEnvelopeAad (parts : EnvelopeParts) : Bytes :=
  Worker.bfibeKeyEnvelopeAadMagic ++ aadPart bfibeProfileId ++ aadPart parts.purpose ++
    aadPart parts.identity ++ aadPart parts.aadContext

/-- `encode_envelope`; a length that does not fit 32 bits is truncated. -/
def encodeEnvelope (parts : EnvelopeParts) : Bytes :=
  Worker.bfibeEnvelopeMagic ++ [1] ++ u32be bfibeProfileId.length ++ u32be parts.purpose.length ++
    u32be parts.identity.length ++ u32be parts.aadContext.length ++ u32be parts.c1.length ++
    u32be parts.nonce.length ++ u32be parts.ciphertext.length ++ bfibeProfileId ++
    parts.purpose ++ parts.identity ++ parts.aadContext ++ parts.c1 ++ parts.nonce ++
    parts.ciphertext

/-- `decode_envelope`. -/
def decodeEnvelope (data : Bytes) : Option EnvelopeParts :=
  if data.length < 8 + 1 + 7 * 4 ∨ data.take 8 ≠ Worker.bfibeEnvelopeMagic then none
  else if (data.drop 8).take 1 ≠ [1] then none
  else do
    let (profileLen, r) ← readU32be (data.drop 9)
    let (purposeLen, r) ← readU32be r
    let (identityLen, r) ← readU32be r
    let (aadContextLen, r) ← readU32be r
    let (c1Len, r) ← readU32be r
    let (nonceLen, r) ← readU32be r
    let (ciphertextLen, r) ← readU32be r
    let (profile, r) ← takeBytes profileLen r
    if profile ≠ bfibeProfileId then none
    else do
      let (purpose, r) ← takeBytes purposeLen r
      let (identity, r) ← takeBytes identityLen r
      let (aadContext, r) ← takeBytes aadContextLen r
      let (c1, r) ← takeBytes c1Len r
      let (nonce, r) ← takeBytes nonceLen r
      let (ciphertext, r) ← takeBytes ciphertextLen r
      if r ≠ [] then none
      else some ⟨purpose, identity, aadContext, c1, nonce, ciphertext⟩

end BfibeTool
end Client
end AsynCS
