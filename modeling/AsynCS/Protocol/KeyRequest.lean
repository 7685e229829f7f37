import AsynCS.Protocol.KmsResponse

/-!
# The key request of the worker host

`connect_to_kms` writes a quote, an FID, a label, the public key of the worker enclave and the name
of a profile to the KMS, every part but the key behind its length.  The quote holds the report of
the enclave, and the report the hash of the public key.

* `ReportBody`, `CarriesReport`: a report, and the quotes in which the KMS finds it.
* `embedReportInSimQuote`: the quotes of the simulation mode.
* `encodeKeyRequest`: the request.
* `readKeyRequest_encode`: what the server reads of it, or which bound it finds violated.
* `readKeyRequest_cut`: of a request that breaks off it reads nothing.
-/

namespace AsynCS
namespace Protocol

open Kms

/-! ## Reports and quotes -/

/-- `sgx_report_body_t`, with the parts that nobody reads in two pieces. -/
structure ReportBody where
  head : Block 64
  mrEnclave : Block 32
  middle : Block 224
  reportData : Block 64
  deriving DecidableEq

/-- The 384 bytes of a report body. -/
def ReportBody.bytes (body : ReportBody) : Bytes :=
  body.head.toList ++ (body.mrEnclave.toList ++ (body.middle.toList ++ body.reportData.toList))

/-- `report_data` of `ecall_create_report`: the hash of the public key, and zeros. -/
def reportDataOf (S : Sgx) (publicKey : Block 64) : Block 64 :=
  Block.ofBytes 64 (S.sha256 publicKey.toList).toList

/-- The report body stands behind the 48 bytes of the header of a quote. -/
structure CarriesReport (quote : Bytes) (body : ReportBody) : Prop where
  length : 432 ≤ quote.length
  report : (quote.drop 48).take 384 = body.bytes

/-- `memcpy(b + offset, data, data.length)` -/
def overwrite (b : Bytes) (offset : ℕ) (data : Bytes) : Bytes :=
  b.take offset ++ data ++ b.drop (offset + data.length)

/-- `embed_report_in_sim_quote`. -/
def embedReportInSimQuote (quote : Bytes) (body : ReportBody) : Bytes :=
  if quote.length < 48 + 384 then quote
  else overwrite (overwrite quote 48 body.bytes) (48 + 320) body.reportData.toList

/-- `memset(p_quote_buffer, 0xEE, quote_size)` -/
@[irreducible] def simFill (n : ℕ) : Bytes := List.replicate n 0xEE

/-- The quote of `generate_quote` in the simulation mode. -/
def simQuote (body : ReportBody) : Bytes := embedReportInSimQuote (simFill 1024) body

@[simp] theorem ReportBody.length_bytes (body : ReportBody) : body.bytes.length = 384 := by
  simp only [bytes, List.length_append, List.Vector.toList_length]

theorem ReportBody.drop_bytes (body : ReportBody) : body.bytes.drop 320 = body.reportData.toList := by
  have hlen : (body.head.toList ++ (body.mrEnclave.toList ++ body.middle.toList)).length = 320 := by
    simp only [List.length_append, List.Vector.toList_length]
  have hbytes : body.bytes = (body.head.toList ++ (body.mrEnclave.toList ++ body.middle.toList)) ++
      body.reportData.toList := by
    simp only [bytes, List.append_assoc]
  rw [hbytes, List.drop_left' hlen]

theorem ReportBody.mrEnclave_bytes (body : ReportBody) :
    (body.bytes.drop 64).take 32 = body.mrEnclave.toList := by
  rw [bytes, List.drop_left' body.head.toList_length, List.take_left' body.mrEnclave.toList_length]

/-- A block is what the first bytes of a buffer are. -/
theorem ofBytes_eq_of_take {n : ℕ} {b : Bytes} {block : Block n} (h : b.take n = block.toList) :
    Block.ofBytes n b = block := by
  refine List.Vector.eq _ _ ?_
  have hlen : n ≤ b.length := by
    have hblock := congrArg List.length h
    rw [List.length_take, block.toList_length] at hblock
    omega
  show (b ++ List.replicate n 0).take n = block.toList
  rw [List.take_append_of_le_length hlen, h]

section Carried

variable {quote : Bytes} {body : ReportBody}

/-- The KMS finds the MRENCLAVE of the report. -/
theorem CarriesReport.mrenclave (h : CarriesReport quote body) :
    Kms.Globals.quoteMrenclave quote = body.mrEnclave := by
  refine ofBytes_eq_of_take ?_
  have hdrop : quote.drop (48 + 64) = (quote.drop 48).drop 64 := (List.drop_drop).symm
  have hbody := congrArg (fun b => (b.drop 64).take 32) h.report
  rw [body.mrEnclave_bytes] at hbody
  rw [hdrop, ← hbody, List.drop_take, List.take_take, Nat.min_eq_left (by decide)]

/-- The KMS finds the data of the report. -/
theorem CarriesReport.reportData (h : CarriesReport quote body) :
    Kms.Globals.quoteReportData quote = body.reportData := by
  refine ofBytes_eq_of_take ?_
  have hdrop : quote.drop (48 + 320) = (quote.drop 48).drop 320 := (List.drop_drop).symm
  have hbody := congrArg (fun b => b.drop 320) h.report
  rw [body.drop_bytes] at hbody
  rw [hdrop, ← hbody, List.drop_take]

end Carried

theorem length_overwrite {b data : Bytes} {offset : ℕ} (h : offset + data.length ≤ b.length) :
    (overwrite b offset data).length = b.length := by
  simp only [overwrite, List.length_append, List.length_take, List.length_drop]
  omega

/-- The bytes that were copied stand at their place. -/
theorem drop_take_overwrite {b data : Bytes} {offset : ℕ} (h : offset + data.length ≤ b.length) :
    ((overwrite b offset data).drop offset).take data.length = data := by
  have hlen : (b.take offset).length = offset := by
    rw [List.length_take]
    omega
  rw [overwrite, List.append_assoc, List.drop_left' hlen, List.take_left]

/-- A copy of bytes that stand at their place already changes nothing. -/
theorem overwrite_self {b data : Bytes} {offset : ℕ}
    (h : (b.drop offset).take data.length = data) : overwrite b offset data = b := by
  have hsplit : data ++ (b.drop offset).drop data.length = b.drop offset := by
    conv_lhs => rw [← h]
    rw [List.length_take]
    rcases Nat.le_total data.length (b.drop offset).length with hle | hle
    · rw [Nat.min_eq_left hle, List.take_append_drop]
    · rw [Nat.min_eq_right hle, List.take_of_length_le hle, List.drop_length, List.append_nil]
  rw [overwrite, List.append_assoc, ← List.drop_drop, hsplit, List.take_append_drop]

/-- **Where a simulated quote is long enough**, the KMS finds the report in it.  The second copy of
`embed_report_in_sim_quote` changes nothing. -/
theorem carriesReport_embedReportInSimQuote {quote : Bytes} (h : 432 ≤ quote.length)
    (body : ReportBody) : CarriesReport (embedReportInSimQuote quote body) body := by
  have hfits : 48 + body.bytes.length ≤ quote.length := by
    rw [body.length_bytes]
    exact h
  have hreport : ((overwrite quote 48 body.bytes).drop 48).take 384 = body.bytes := by
    have hcopied := drop_take_overwrite hfits
    rwa [body.length_bytes] at hcopied
  have hlen : (overwrite quote 48 body.bytes).length = quote.length := length_overwrite hfits
  have hsecond : ((overwrite quote 48 body.bytes).drop (48 + 320)).take
      body.reportData.toList.length = body.reportData.toList := by
    have hbody := congrArg (fun b => b.drop 320) hreport
    rw [body.drop_bytes] at hbody
    rw [← List.drop_drop, body.reportData.toList_length, ← hbody, List.drop_take]
  rw [embedReportInSimQuote, if_neg (by omega), overwrite_self hsecond]
  exact ⟨by rw [hlen]; exact h, hreport⟩

theorem length_embedReportInSimQuote {quote : Bytes} (h : 432 ≤ quote.length)
    (body : ReportBody) : (embedReportInSimQuote quote body).length = quote.length := by
  have hfits : 48 + body.bytes.length ≤ quote.length := by
    rw [body.length_bytes]
    exact h
  have hfirst := length_overwrite hfits
  rw [embedReportInSimQuote, if_neg (by omega), length_overwrite ?_, hfirst]
  rw [hfirst, body.reportData.toList_length]
  omega

@[simp] theorem length_simFill (n : ℕ) : (simFill n).length = n := by
  rw [simFill, List.length_replicate]

theorem carriesReport_simQuote (body : ReportBody) : CarriesReport (simQuote body) body :=
  carriesReport_embedReportInSimQuote (by rw [length_simFill]; omega) body

theorem length_simQuote (body : ReportBody) : (simQuote body).length = 1024 := by
  rw [simQuote, length_embedReportInSimQuote (by rw [length_simFill]; omega), length_simFill]

/-! ## The request -/

/-- What `connect_to_kms` sends. -/
def encodeKeyRequest (r : KeyRequest) : Bytes :=
  sizedPart r.quote ++ (sizedPart r.fid.bytes ++ (sizedPart r.label.bytes ++
    (r.publicKey.toList ++ sizedPart r.cryptoProfile.bytes)))

/-- The lengths are words of 32 bits. -/
structure FitsWords (r : KeyRequest) : Prop where
  quote : r.quote.length < 2 ^ 32
  fid : r.fid.strlen < 2 ^ 32
  label : r.label.strlen < 2 ^ 32
  cryptoProfile : r.cryptoProfile.strlen < 2 ^ 32

/-- A part that the server accepts. -/
def Admits (bound : ℕ) (b : Bytes) : Prop := b ≠ [] ∧ b.length ≤ bound

instance (bound : ℕ) (b : Bytes) : Decidable (Admits bound b) :=
  inferInstanceAs (Decidable (b ≠ [] ∧ b.length ≤ bound))

/-- The sizes of a request that the server accepts. -/
structure AdmittedRequest (r : KeyRequest) : Prop where
  quote : Admits (64 * 1024) r.quote
  fid : Admits 4096 r.fid.bytes
  label : Admits 128 r.label.bytes
  cryptoProfile : Admits 64 r.cryptoProfile.bytes

@[simp] theorem length_sizedPart (b : Bytes) : (sizedPart b).length = 4 + b.length := by
  rw [sizedPart, List.length_append, length_leBytes]

theorem readExact_append {n : ℕ} {a : Bytes} (h : a.length = n) (rest : Bytes) :
    readExact n (a ++ rest) = .ok (a, rest) := by
  rw [readExact, takeBytes_append h]

theorem readU32_leBytes {n : ℕ} (h : n < 2 ^ 32) (rest : Bytes) :
    readU32 (leBytes 4 n ++ rest) = .ok (n, rest) := by
  unfold readU32
  rw [readExact_append (length_leBytes 4 n)]
  show Except.ok (ofLeBytes (leBytes 4 n), rest) = _
  rw [@ofLeBytes_leBytes 4 n h]

/-- The server reads a part that it accepts, and refuses any other by its bound. -/
theorem readSized_sizedPart {bound : ℕ} {error : ServerError} {b : Bytes}
    (h : b.length < 2 ^ 32) (rest : Bytes) :
    readSized bound error (sizedPart b ++ rest) =
      if Admits bound b then .ok (b, rest) else .error (some error) := by
  unfold readSized
  rw [sizedPart, List.append_assoc, readU32_leBytes h]
  by_cases hb : Admits bound b
  · have hpos := List.length_pos_iff.mpr hb.1
    have hle := hb.2
    rw [if_pos hb]
    show (if b.length = 0 ∨ bound < b.length then _ else _) = _
    rw [if_neg (by omega)]
    exact readExact_append rfl rest
  · rw [if_neg hb]
    show (if b.length = 0 ∨ bound < b.length then _ else _) = _
    rw [if_pos ?_]
    · rfl
    · by_contra hbad
      exact hb ⟨List.length_pos_iff.mp (by omega), by omega⟩

theorem ofBuffer_bytes (s : CStr) : CStr.ofBuffer s.bytes = s := by
  refine CStr.ext ?_
  show s.bytes.takeWhile (fun x => x != 0) = s.bytes
  refine List.takeWhile_eq_self_iff.mpr fun x hx => ?_
  exact bne_iff_ne.mpr (s.noNul x hx)

/-- **What the server reads** of a request, whatever follows it: the first bound that is violated,
or the request as it was sent. -/
theorem readKeyRequest_encode {r : KeyRequest} (h : FitsWords r) (rest : Bytes) :
    readKeyRequest (encodeKeyRequest r ++ rest) =
      if ¬ Admits (64 * 1024) r.quote then .error (some .invalidQuoteSize)
      else if ¬ Admits 4096 r.fid.bytes then .error (some .invalidFidLen)
      else if ¬ Admits 128 r.label.bytes then .error (some .invalidLabelLen)
      else if ¬ Admits 64 r.cryptoProfile.bytes then .error (some .invalidCryptoProfile)
      else .ok r := by
  unfold readKeyRequest encodeKeyRequest
  simp only [List.append_assoc, readSized_sizedPart h.quote]
  by_cases hquote : Admits (64 * 1024) r.quote
  · rw [if_pos hquote, if_neg (not_not_intro hquote)]
    simp only [bind, Except.bind, readSized_sizedPart h.fid]
    by_cases hfid : Admits 4096 r.fid.bytes
    · rw [if_pos hfid, if_neg (not_not_intro hfid)]
      simp only [readSized_sizedPart h.label]
      by_cases hlabel : Admits 128 r.label.bytes
      · rw [if_pos hlabel, if_neg (not_not_intro hlabel)]
        simp only [readExact_append r.publicKey.toList_length,
          readSized_sizedPart h.cryptoProfile]
        by_cases hprofile : Admits 64 r.cryptoProfile.bytes
        · rw [if_pos hprofile, if_neg (not_not_intro hprofile)]
          simp only [ofBuffer_bytes, Block.ofBytes_toList]
          rfl
        · rw [if_neg hprofile, if_pos hprofile]
      · rw [if_neg hlabel, if_pos hlabel]
    · rw [if_neg hfid, if_pos hfid]
  · rw [if_neg hquote, if_pos hquote]
    rfl

/-- A request whose sizes are accepted is read as it was sent. -/
theorem readKeyRequest_of_admitted {r : KeyRequest} (h : AdmittedRequest r) (rest : Bytes) :
    readKeyRequest (encodeKeyRequest r ++ rest) = .ok r := by
  have hwords : FitsWords r :=
    ⟨lt_of_le_of_lt h.quote.2 (by decide), lt_of_le_of_lt h.fid.2 (by decide),
      lt_of_le_of_lt h.label.2 (by decide), lt_of_le_of_lt h.cryptoProfile.2 (by decide)⟩
  rw [readKeyRequest_encode hwords, if_neg (not_not_intro h.quote), if_neg (not_not_intro h.fid),
    if_neg (not_not_intro h.label), if_neg (not_not_intro h.cryptoProfile)]

/-! ## Requests that break off -/

/-- The server reads nothing of a prefix of a part, or it reads the part and is left with a prefix
of the rest. -/
theorem readSized_cut (error : ServerError) {bound : ℕ} {b tail part : Bytes}
    (hb : Admits bound b) (hword : b.length < 2 ^ 32) (hpart : part <+: sizedPart b ++ tail) :
    readSized bound error part = .error none ∨
      ∃ rest, part = sizedPart b ++ rest ∧ rest <+: tail ∧
        readSized bound error part = .ok (b, rest) := by
  by_cases hlen : (sizedPart b).length ≤ part.length
  · obtain ⟨rest, rfl⟩ := List.prefix_of_prefix_length_le (List.prefix_append _ _) hpart hlen
    refine Or.inr ⟨rest, rfl, (List.prefix_append_right_inj _).mp hpart, ?_⟩
    rw [readSized_sizedPart hword, if_pos hb]
  · left
    rw [length_sizedPart] at hlen
    unfold readSized readU32
    by_cases hfour : part.length < 4
    · rw [readExact, takeBytes, if_pos hfour]
      rfl
    · -- the length is there, and the part behind it is not
      have hword4 : part.take 4 = leBytes 4 b.length := by
        obtain ⟨rest, hrest⟩ := hpart
        have htake := congrArg (List.take 4) hrest
        rwa [List.take_append_of_le_length (by omega), sizedPart, List.append_assoc,
          List.take_left' (length_leBytes 4 _)] at htake
      have hshort : takeBytes b.length (part.drop 4) = none := by
        rw [takeBytes, List.length_drop, if_pos (by omega)]
      have hpos := List.length_pos_iff.mpr hb.1
      have hle := hb.2
      rw [readExact, takeBytes, if_neg hfour, hword4]
      show (if ofLeBytes (leBytes 4 b.length) = 0 ∨ bound < ofLeBytes (leBytes 4 b.length) then _
        else _) = _
      rw [@ofLeBytes_leBytes 4 _ hword, if_neg (by omega)]
      show readExact b.length (part.drop 4) = _
      rw [readExact, hshort]

/-- **Of a request that breaks off the server reads nothing**: it closes the connection, and looks
neither at the quote nor at the FID. -/
theorem readKeyRequest_cut {r : KeyRequest} (h : AdmittedRequest r) {part : Bytes}
    (hpart : part <+: encodeKeyRequest r) (hne : part ≠ encodeKeyRequest r) :
    readKeyRequest part = .error none := by
  have hquote : r.quote.length < 2 ^ 32 := lt_of_le_of_lt h.quote.2 (by decide)
  have hfid : r.fid.bytes.length < 2 ^ 32 := lt_of_le_of_lt h.fid.2 (by decide)
  have hlabel : r.label.bytes.length < 2 ^ 32 := lt_of_le_of_lt h.label.2 (by decide)
  have hprofile : r.cryptoProfile.bytes.length < 2 ^ 32 :=
    lt_of_le_of_lt h.cryptoProfile.2 (by decide)
  unfold readKeyRequest
  rcases readSized_cut .invalidQuoteSize h.quote hquote hpart with
    hread | ⟨p₁, rfl, hp₁, hread⟩
  · rw [hread]
    rfl
  rw [hread]
  show (readSized 4096 .invalidFidLen p₁ >>= _) = _
  rcases readSized_cut .invalidFidLen h.fid hfid hp₁ with
    hread | ⟨p₂, rfl, hp₂, hread⟩
  · rw [hread]
    rfl
  rw [hread]
  show (readSized 128 .invalidLabelLen p₂ >>= _) = _
  rcases readSized_cut .invalidLabelLen h.label hlabel hp₂ with
    hread | ⟨p₃, rfl, hp₃, hread⟩
  · rw [hread]
    rfl
  rw [hread]
  show (readExact 64 p₃ >>= _) = _
  by_cases hlen : p₃.length < 64
  · rw [readExact, takeBytes, if_pos hlen]
    rfl
  obtain ⟨p₄, rfl⟩ := List.prefix_of_prefix_length_le (List.prefix_append _ _) hp₃
    (by rw [r.publicKey.toList_length]; omega)
  rw [readExact_append r.publicKey.toList_length]
  show (readSized 64 .invalidCryptoProfile p₄ >>= _) = _
  have hp₄ : p₄ <+: sizedPart r.cryptoProfile.bytes ++ [] := by
    rw [List.append_nil]
    exact (List.prefix_append_right_inj _).mp hp₃
  rcases readSized_cut .invalidCryptoProfile h.cryptoProfile hprofile hp₄ with
    hread | ⟨p₅, rfl, hp₅, -⟩
  · rw [hread]
    rfl
  · obtain rfl := List.prefix_nil.mp hp₅
    rw [List.append_nil] at hne
    exact absurd rfl hne

end Protocol
end AsynCS
