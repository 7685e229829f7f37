import AsynCS.Kms.Server
import AsynCS.Protocol.KeyReleaseEndToEnd
import AsynCS.Protocol.ReleaseCodecs
import AsynCS.WorkerApp.KmsClient

/-!
# The worker host tells the replies of the KMS apart

A reply has no outer length, so the host finds the end of a release from the lengths inside it,
and two keys by their size.

* `bfibeKeyReleasePayloadLen_append`, `bfibeKeyReleasePayloadLen_of_cut`: the end of a release.
* `demultiplex_release`, `demultiplex_keys`, `demultiplex_of_short`: each format.
* `handleClient_demultiplexed`: every reply of the server, however the stream cuts it.
* `not_forall_cut_hands_nothing`: two keys that break off behind the first are the legacy format.
-/

namespace AsynCS

open WorkerApp Kms

/-! ## The end of a release -/

/-- The host's test looks for the header of a release. -/
theorem isBfibeKeyReleaseResponse_iff {b : Bytes} :
    isBfibeKeyReleaseResponse b = true ↔ releaseHeader <+: b :=
  @isHeader_iff bfibeKeyReleaseMagic b 1

/-- The six lengths behind the header, with the sum that the host compares. -/
theorem bfibeKeyReleasePayloadLen_eq {b : Bytes} (h : releaseHeader <+: b) :
    bfibeKeyReleasePayloadLen b =
      (readLengths 6 (b.drop 9)).elim (-1) fun q =>
        if b.length < 33 + q.1.sum ∨ 4096 < 33 + q.1.sum then -1
        else ((33 + q.1.sum : ℕ) : Int) := by
  unfold bfibeKeyReleasePayloadLen
  rw [isBfibeKeyReleaseResponse_iff.mpr h, if_neg (by decide)]
  extract_lets release
  have hread : (readLengths 6 (b.drop 9)).bind (fun q => some (33 + q.1.sum)) = release := by
    iterate 6
      rw [bind_readLengths_succ]
      refine Option.bind_congr fun _ _ => ?_
    show some _ = some _
    simp only [List.sum_cons, List.sum_nil, Option.some.injEq]
    omega
  rw [← hread]
  cases readLengths 6 (b.drop 9) with
  | none => rfl
  | some q => rfl

section Release

variable {p : ReleaseParts}

/-- A release in front of other bytes: the header, the lengths, the parts. -/
theorem encodeKeyRelease_append (p : ReleaseParts) (rest : Bytes) :
    encodeKeyRelease p ++ rest =
      releaseHeader ++ ((p.parts.map List.length).flatMap u32be ++ (p.parts.flatten ++ rest)) := by
  rw [encodeKeyRelease_eq, encodeFrame, List.flatMap_map, List.append_assoc, List.append_assoc]

theorem length_encodeKeyRelease (p : ReleaseParts) :
    (encodeKeyRelease p).length = 33 + (p.parts.map List.length).sum := by
  simp only [encodeKeyRelease, ReleaseParts.parts, List.length_append, length_u32be,
    length_bfibeKeyReleaseMagic, List.length_cons, List.length_nil, List.map_cons, List.map_nil,
    List.sum_cons, List.sum_nil]
  omega

theorem releaseHeader_begins (p : ReleaseParts) (rest : Bytes) :
    releaseHeader <+: encodeKeyRelease p ++ rest := by
  rw [encodeKeyRelease_append]
  exact List.prefix_append releaseHeader _

/-- The lengths of a release that fits the buffer. -/
theorem readLengths_encodeKeyRelease (hfit : (encodeKeyRelease p).length ≤ 4096) (rest : Bytes) :
    readLengths 6 ((encodeKeyRelease p ++ rest).drop 9) =
      some (p.parts.map List.length, p.parts.flatten ++ rest) := by
  have hnine : releaseHeader.length = 9 := rfl
  rw [encodeKeyRelease_append, List.drop_left' hnine]
  refine readLengths_eq_some_iff.mpr ⟨rfl, ?_, rfl⟩
  intro len hlen
  have hle := List.single_le_sum (fun _ _ => Nat.zero_le _) len hlen
  rw [length_encodeKeyRelease] at hfit
  omega

/-- **The length of a release** is found whatever stands behind it. -/
theorem bfibeKeyReleasePayloadLen_append (hfit : (encodeKeyRelease p).length ≤ 4096)
    (rest : Bytes) :
    bfibeKeyReleasePayloadLen (encodeKeyRelease p ++ rest) = (encodeKeyRelease p).length := by
  rw [bfibeKeyReleasePayloadLen_eq (releaseHeader_begins p rest),
    readLengths_encodeKeyRelease hfit rest]
  have hlen := length_encodeKeyRelease p
  have happend : (encodeKeyRelease p ++ rest).length = (encodeKeyRelease p).length + rest.length :=
    List.length_append
  show (if (encodeKeyRelease p ++ rest).length < 33 + (p.parts.map List.length).sum ∨
    4096 < 33 + (p.parts.map List.length).sum then (-1 : Int)
    else ((33 + (p.parts.map List.length).sum : ℕ) : Int)) = _
  rw [if_neg (by omega), hlen]

/-- **A release that is cut** announces more than there is. -/
theorem bfibeKeyReleasePayloadLen_of_cut (hfit : (encodeKeyRelease p).length ≤ 4096)
    {b c : Bytes} (hcut : b ++ c = encodeKeyRelease p) (hc : c ≠ []) (h : releaseHeader <+: b) :
    bfibeKeyReleasePayloadLen b = -1 := by
  have hpos : 0 < c.length := List.length_pos_iff.mpr hc
  have hlen := length_encodeKeyRelease p
  have happend : b.length + c.length = (encodeKeyRelease p).length := by
    rw [← hcut, List.length_append]
  rw [bfibeKeyReleasePayloadLen_eq h]
  cases hread : readLengths 6 (b.drop 9) with
  | none => rfl
  | some q =>
    obtain ⟨lens, body⟩ := q
    -- the lengths that were read are those of the release
    have hwhole := readLengths_append hread c
    have hdrop : b.drop 9 ++ c = (encodeKeyRelease p ++ []).drop 9 := by
      have hnine : 9 ≤ b.length := h.length_le
      rw [List.append_nil, ← hcut, List.drop_append_of_le_length hnine]
    rw [hdrop, readLengths_encodeKeyRelease hfit []] at hwhole
    obtain ⟨hlens, -⟩ := Prod.mk.inj (Option.some.inj hwhole)
    show (if b.length < 33 + lens.sum ∨ 4096 < 33 + lens.sum then (-1 : Int)
      else ((33 + lens.sum : ℕ) : Int)) = -1
    rw [← hlens, if_pos (by omega)]

end Release

/-! ## Each format -/

/-- A response without the header that has the length of no format. -/
theorem demultiplex_of_short {b : Bytes} (h : ¬ releaseHeader <+: b) (hlen : b.length < 248)
    (hone : b.length ≠ 124) : demultiplex b = KmsExchange.nothing := by
  rw [demultiplex, if_neg (mt isBfibeKeyReleaseResponse_iff.mp h),
    if_neg (by show ¬ 248 ≤ b.length; omega), if_neg hone]

/-- A release in front of other bytes. -/
theorem demultiplex_release {p : ReleaseParts} (hfit : (encodeKeyRelease p).length ≤ 4096)
    (rest : Bytes) :
    demultiplex (encodeKeyRelease p ++ rest) =
      ⟨some (.bfibeKeyRelease (encodeKeyRelease p)),
        timingBehind (encodeKeyRelease p).length (encodeKeyRelease p ++ rest)⟩ := by
  have hlen := length_encodeKeyRelease p
  rw [demultiplex, if_pos (isBfibeKeyReleaseResponse_iff.mpr (releaseHeader_begins p rest)),
    bfibeKeyReleasePayloadLen_append hfit rest]
  show (if ((encodeKeyRelease p).length : Int) ≤ 0 then _ else _) = _
  rw [if_neg (by omega), Int.toNat_natCast, List.take_left]

/-- A release that is cut. -/
theorem demultiplex_release_cut {p : ReleaseParts} (hfit : (encodeKeyRelease p).length ≤ 4096)
    {b c : Bytes} (hcut : b ++ c = encodeKeyRelease p) (hc : c ≠ []) :
    demultiplex b = KmsExchange.nothing := by
  by_cases h : releaseHeader <+: b
  · rw [demultiplex, if_pos (isBfibeKeyReleaseResponse_iff.mpr h),
      bfibeKeyReleasePayloadLen_of_cut hfit hcut hc h]
    rfl
  · -- only the first eight bytes of a release do not show the header
    have hshort : b.length < 9 := by
      by_contra hlong
      have hheader : releaseHeader <+: b ++ c := by
        rw [hcut, ← List.append_nil (encodeKeyRelease p)]
        exact releaseHeader_begins p []
      exact h (List.prefix_of_prefix_length_le hheader (List.prefix_append b c)
        (Nat.le_of_not_lt hlong))
    exact demultiplex_of_short h (by omega) (by omega)

/-- Two keys in front of other bytes. -/
theorem demultiplex_keys {dkf dklabel : KeyBlob} {rest : Bytes}
    (h : ¬ releaseHeader <+: dkf.bytes ++ dklabel.bytes ++ rest) :
    demultiplex (dkf.bytes ++ dklabel.bytes ++ rest) =
      ⟨some (.keysBatch dkf dklabel), timingBehind 248 (dkf.bytes ++ dklabel.bytes ++ rest)⟩ := by
  have hlen : kmsKeysLen ≤ (dkf.bytes ++ dklabel.bytes ++ rest).length := by
    simp only [List.length_append, KeyBlob.length_bytes]
    exact Nat.le_add_right 248 _
  have hfirst : KeyBlob.ofBytes (dkf.bytes ++ dklabel.bytes ++ rest) = dkf := by
    rw [List.append_assoc, KeyBlob.ofBytes_append]
  have hsecond : KeyBlob.ofBytes ((dkf.bytes ++ dklabel.bytes ++ rest).drop 124) = dklabel := by
    rw [List.append_assoc, List.drop_left' dkf.length_bytes, KeyBlob.ofBytes_append]
  rw [demultiplex, if_neg (mt isBfibeKeyReleaseResponse_iff.mp h), if_pos hlen, hfirst, hsecond]
  rfl

/-- The durations behind a payload. -/
theorem timingBehind_append (payload : Bytes) (timing : KmsTimingTrailer) :
    timingBehind payload.length (payload ++ timing.bytes) = timing := by
  have hlen : (payload ++ timing.bytes).length = payload.length + 24 := by
    rw [List.length_append, KmsTimingTrailer.length_bytes]
  rw [timingBehind, if_pos (by rw [hlen]; exact le_rfl), List.drop_left,
    List.take_of_length_le (by rw [KmsTimingTrailer.length_bytes]; exact le_rfl),
    KmsTimingTrailer.ofBytes_bytes]

/-! ## Every reply -/

namespace ServerReply

/-- What the worker's enclave is to get of a reply. -/
def handed : ServerReply → Option Handed
  | closed => none
  | error _ => none
  | keys dkf dklabel _ => some (.keysBatch dkf dklabel)
  | release r _ => some (.bfibeKeyRelease r)

/-- Two keys do not begin like a release. -/
def KeysPlain (reply : ServerReply) : Prop :=
  ∀ dkf dklabel timing, reply = keys dkf dklabel timing → ¬ releaseHeader <+: reply.bytes

end ServerReply

theorem ServerError.length_text_le (e : ServerError) : e.text.length ≤ 26 := by
  cases e <;> decide

theorem ServerError.not_releaseHeader_text (e : ServerError) : ¬ releaseHeader <+: e.text := by
  cases e <;> decide

/-- What the host does with a response, however the stream cuts it. -/
theorem connectToKms_of_delivers {net : KmsNet} {b : Bytes} (hreaches : net.reaches = true)
    (h : Delivers net.response b) (hlen : b.length ≤ kmsResponseMaxLen) : connectToKms net = demultiplex b := by
  rw [connectToKms, hreaches, readKmsResponse, readUpTo_of_delivers h hlen]
  cases b with
  | nil => rfl
  | cons x b => rfl

theorem connectToKms_of_breaks {net : KmsNet} {b : Bytes} (h : Breaks net.response b)
    (hlen : b.length < kmsResponseMaxLen) : connectToKms net = KmsExchange.nothing := by
  rw [connectToKms, readKmsResponse, readUpTo_of_breaks h hlen]
  exact ite_self _

/-- **A reply is told apart.**  Received whole it gives the enclave exactly its key material and
the host its durations.  Cut off before the end of its payload it gives the enclave nothing, with
one exception: the first 124 bytes of two keys are the legacy format. -/
structure Demultiplexed (reply : ServerReply) : Prop where
  whole : ∀ net : KmsNet, net.reaches = true → Delivers net.response reply.bytes →
    connectToKms net = ⟨reply.handed, reply.timing⟩
  cut : ∀ (net : KmsNet) (part : Bytes), Delivers net.response part → part <+: reply.payload →
    part ≠ reply.payload →
    (∀ dkf dklabel timing, reply = .keys dkf dklabel timing → part.length ≠ 124) →
    (connectToKms net).handed = none
  legacy : ∀ (net : KmsNet) (part : Bytes) (dkf dklabel : KeyBlob) (timing : KmsTimingTrailer),
    reply = .keys dkf dklabel timing → net.reaches = true → Delivers net.response part →
    part <+: reply.payload → part.length = 124 →
    (connectToKms net).handed = some (.key dkf)
  breaks : ∀ (net : KmsNet) (part : Bytes), Breaks net.response part → part <+: reply.payload →
    (connectToKms net).handed = none

/-- A response that fails to arrive, or that holds no key material. -/
theorem handed_eq_none {net : KmsNet} {b : Bytes} (h : Delivers net.response b)
    (hlen : b.length ≤ kmsResponseMaxLen) (hb : demultiplex b = KmsExchange.nothing) :
    (connectToKms net).handed = none := by
  cases hreaches : net.reaches with
  | false =>
    rw [connectToKms, hreaches]
    rfl
  | true =>
    rw [connectToKms_of_delivers hreaches h hlen, hb]
    rfl

theorem demultiplexed_closed : Demultiplexed .closed where
  whole net hreaches h := connectToKms_of_delivers hreaches h (by decide)
  cut net part _ hpart hne _ := absurd (List.prefix_nil.mp hpart) hne
  legacy _ _ _ _ _ heq := absurd heq (by simp)
  breaks net part h hpart := by
    obtain rfl := List.prefix_nil.mp hpart
    rw [connectToKms_of_breaks h (by decide)]
    rfl

/-- No part of an error text is key material. -/
theorem demultiplexed_error (e : ServerError) : Demultiplexed (.error e) := by
  have hlen := e.length_text_le
  have hshort : ∀ part, part <+: e.text → part.length ≤ 26 :=
    fun part hpart => hpart.length_le.trans hlen
  have hnothing : ∀ part, part <+: e.text → demultiplex part = KmsExchange.nothing := by
    intro part hpart
    have hle := hshort part hpart
    refine demultiplex_of_short ?_ (by omega) (by omega)
    intro h
    exact e.not_releaseHeader_text (h.trans hpart)
  have hroom : ∀ part, part <+: e.text → part.length < kmsResponseMaxLen :=
    fun part hpart => lt_of_le_of_lt (hshort part hpart) (by decide)
  have hbytes : (ServerReply.error e).bytes = e.text := List.append_nil _
  constructor
  · intro net hreaches h
    rw [hbytes] at h
    rw [connectToKms_of_delivers hreaches h (hroom _ List.prefix_rfl).le,
      hnothing _ List.prefix_rfl]
    rfl
  · intro net part h hpart _ _
    exact handed_eq_none h (hroom part hpart).le (hnothing part hpart)
  · intro _ _ _ _ _ heq
    exact absurd heq (by simp)
  · intro net part h hpart
    rw [connectToKms_of_breaks h (hroom part hpart)]
    rfl

/-- Two keys that do not begin like a release. -/
theorem demultiplexed_keys {dkf dklabel : KeyBlob} {timing : KmsTimingTrailer}
    (hplain : ¬ releaseHeader <+: dkf.bytes ++ dklabel.bytes ++ timing.bytes) :
    Demultiplexed (.keys dkf dklabel timing) := by
  have hpayload : (dkf.bytes ++ dklabel.bytes).length = 248 := by
    rw [List.length_append, dkf.length_bytes, dklabel.length_bytes]
  have hlen : (dkf.bytes ++ dklabel.bytes ++ timing.bytes).length = 272 := by
    rw [List.length_append, hpayload, timing.length_bytes]
  have hbegins : ∀ part, part <+: dkf.bytes ++ dklabel.bytes → ¬ releaseHeader <+: part :=
    fun part hpart h => hplain (h.trans (hpart.trans (List.prefix_append _ _)))
  have hroom : ∀ part, part <+: dkf.bytes ++ dklabel.bytes → part.length < kmsResponseMaxLen := by
    intro part hpart
    exact lt_of_le_of_lt (hpart.length_le.trans hpayload.le) (by decide)
  constructor
  · intro net hreaches h
    rw [connectToKms_of_delivers hreaches h (hlen.le.trans (by decide))]
    show demultiplex (dkf.bytes ++ dklabel.bytes ++ timing.bytes) =
      ⟨some (.keysBatch dkf dklabel), timing⟩
    rw [demultiplex_keys hplain, ← hpayload, timingBehind_append]
  · intro net part h hpart hne hone
    refine handed_eq_none h (hroom part hpart).le (demultiplex_of_short (hbegins part hpart) ?_
      (hone dkf dklabel timing rfl))
    -- a prefix of the whole length is the whole
    refine lt_of_le_of_ne (hpart.length_le.trans hpayload.le) fun heq => hne ?_
    exact hpart.eq_of_length (heq.trans hpayload.symm)
  · intro net part dkf' dklabel' timing' heq hreaches h hpart hone
    obtain ⟨rfl, rfl, rfl⟩ := ServerReply.keys.inj heq
    have hfirst : part = dkf.bytes := by
      obtain ⟨rest, hrest⟩ := hpart
      have htake := congrArg (List.take 124) hrest
      rwa [List.take_left' hone, show (ServerReply.keys dkf dklabel timing).payload =
        dkf.bytes ++ dklabel.bytes from rfl, List.take_left' dkf.length_bytes] at htake
    rw [connectToKms_of_delivers hreaches h (hroom part hpart).le, demultiplex,
      if_neg (mt isBfibeKeyReleaseResponse_iff.mp (hbegins part hpart)),
      if_neg (by rw [hone]; decide), if_pos hone, hfirst, KeyBlob.ofBytes_bytes]
  · intro net part h hpart
    rw [connectToKms_of_breaks h (hroom part hpart)]
    rfl

/-- A release that fits the buffer of the server. -/
theorem demultiplexed_release {p : ReleaseParts} (hfit : (encodeKeyRelease p).length ≤ 4096)
    (timing : KmsTimingTrailer) : Demultiplexed (.release (encodeKeyRelease p) timing) := by
  have hlen : (encodeKeyRelease p ++ timing.bytes).length ≤ kmsResponseMaxLen := by
    rw [List.length_append, timing.length_bytes]
    exact Nat.add_le_add_right hfit 24
  have hroom : ∀ part, part <+: encodeKeyRelease p → part.length < kmsResponseMaxLen := by
    intro part hpart
    exact lt_of_le_of_lt (hpart.length_le.trans hfit) (by decide)
  constructor
  · intro net hreaches h
    rw [connectToKms_of_delivers hreaches h hlen]
    show demultiplex (encodeKeyRelease p ++ timing.bytes) =
      ⟨some (.bfibeKeyRelease (encodeKeyRelease p)), timing⟩
    rw [demultiplex_release hfit, timingBehind_append]
  · intro net part h hpart hne _
    obtain ⟨rest, hrest⟩ := hpart
    refine handed_eq_none h (hroom part ⟨rest, hrest⟩).le (demultiplex_release_cut hfit hrest ?_)
    rintro rfl
    exact hne ((List.append_nil part).symm.trans hrest)
  · intro _ _ _ _ _ heq
    exact absurd heq (by simp)
  · intro net part h hpart
    rw [connectToKms_of_breaks h (hroom part hpart)]
    rfl

/-- **Every reply of the server is told apart.** -/
theorem handleClient_demultiplexed (S : Sgx) (B : Bfibe) (env : ServeEnv) (k : Kms.Globals)
    (request : Bytes) (hplain : (handleClient S B env k request).2.KeysPlain) :
    Demultiplexed (handleClient S B env k request).2 := by
  have hsend := handleClient_sendable (S := S) (B := B) env k request
  cases hreply : (handleClient S B env k request).2 with
  | closed => exact demultiplexed_closed
  | error e => exact demultiplexed_error e
  | keys dkf dklabel timing =>
    rw [hreply] at hplain
    exact demultiplexed_keys (hplain dkf dklabel timing rfl)
  | release r timing =>
    obtain ⟨hfit, p, rfl⟩ := hsend r timing hreply
    exact demultiplexed_release hfit timing

/-! ## A sample exchange -/

/-- A part of a request behind its length. -/
def sizedPart (b : Bytes) : Bytes := leBytes 4 b.length ++ b

/-- A request for the FID `f` and the label `L`, with a quote of zeros. -/
def sampleKeyRequest (profile : Bytes) : Bytes :=
  sizedPart (List.replicate 432 0) ++ sizedPart (ascii "f") ++ sizedPart (ascii "L") ++
    samplePublicKey.toList ++ sizedPart profile

/-- A server on which nothing fails. -/
def sampleServeEnv : ServeEnv where
  simulation := false
  verifyQuoteDcap _ := some (Block.fill 32 0)
  checkMrenclavePolicy _ := true
  verifyCall := true
  releaseCall := true
  keyEnv := sampleKeyEnv
  labelKeyEnv := sampleKeyEnv
  releaseEnv := sampleReleaseEnv
  timing := ⟨1, 2, 300⟩

/-- The reply to the request. -/
def sampleServerReply (profile : Bytes) : ServerReply :=
  (handleClient Sgx.sample Bfibe.sample sampleServeEnv (attestedKms (CStr.lit "f"))
    (sampleKeyRequest profile)).2

example : sampleServerReply (ascii "none") = .error .unsupportedCryptoProfile := by decide +kernel

/-- The reply carries two keys and is told apart. -/
theorem sampleServerReply_demultiplexed :
    (sampleServerReply (ascii "eccibe")).payload.length = 248 ∧
      Demultiplexed (sampleServerReply (ascii "eccibe")) := by
  refine ⟨by decide +kernel, ?_⟩
  exact handleClient_demultiplexed Sgx.sample Bfibe.sample sampleServeEnv _ _
    fun _ _ _ _ => by decide +kernel

/-- The network that brings some bytes in one piece. -/
def netOf (b : Bytes) : KmsNet := ⟨true, [[true]], true, [.chunk b]⟩

/-- A stream of two keys that ends behind the first one. -/
theorem not_forall_cut_hands_nothing :
    ¬ ∀ (S : Sgx) (B : Bfibe) (env : ServeEnv) (k : Kms.Globals) (request : Bytes),
      (handleClient S B env k request).2.KeysPlain →
      ∀ (net : KmsNet) (part : Bytes), Delivers net.response part →
        part <+: (handleClient S B env k request).2.payload →
        part ≠ (handleClient S B env k request).2.payload →
        (connectToKms net).handed = none := by
  intro hall
  have h := hall Sgx.sample Bfibe.sample sampleServeEnv (attestedKms (CStr.lit "f"))
    (sampleKeyRequest (ascii "eccibe")) (fun _ _ _ _ => by decide +kernel)
    (netOf ((sampleServerReply (ascii "eccibe")).payload.take 124)) _
    (delivers_chunk (by decide +kernel)) (List.take_prefix 124 _) (by decide +kernel)
  exact absurd h (by decide +kernel)

end AsynCS
