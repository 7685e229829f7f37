import AsynCS.Client.BfibeKeyRelease
import AsynCS.Kms.BfibeRelease
import AsynCS.Protocol.EnvelopeCodecs
import AsynCS.Worker.KeySetParser

/-!
# The parser of private-key sets is exact

`parse_bfibe_private_key_set` against the two writers of `ASBFSKS1` sets.

* `KeyRecord.Importable`, `ImportableSet`: the records that may stand in a set for an FID.
* `imported`: what a record leaves in the slots, `lastKey`: the last key of a kind.
* `importRecords_eq_some_iff`: the loop accepts exactly the encodings of lists of importable
  records, and leaves what the records leave one after another.
* `keySetParser_exact`: the parser accepts the canonical encodings and nothing else, keeps the
  last key of each kind, and reads what the KMS and Python write.
-/

namespace AsynCS

open Worker Client

/-! ## Records -/

namespace KeyRecord

/-- A request key for an FID. -/
def IsRequest (fid : CStr) (r : KeyRecord) : Prop :=
  r.purpose = requestPurpose ∧ r.identity = ascii "fid:" ++ fid.bytes

/-- A function key for some label. -/
def IsFunction (r : KeyRecord) : Prop :=
  r.purpose = functionPurpose ∧ ascii "label:" <+: r.identity

/-- A record that may stand in a set for an FID. -/
structure Importable (fid : CStr) (r : KeyRecord) : Prop where
  kind : r.IsRequest fid ∨ r.IsFunction
  key_pos : 1 ≤ r.privateKey.length
  key_le : r.privateKey.length ≤ 256

/-- Every field has a length of 32 bits. -/
structure Fits (r : KeyRecord) : Prop where
  purpose : r.purpose.length < 2 ^ 32
  identity : r.identity.length < 2 ^ 32
  privateKey : r.privateKey.length < 2 ^ 32

end KeyRecord

/-- The records of a set for an FID: each may stand there, and both kinds occur. -/
structure ImportableSet (fid : CStr) (records : List KeyRecord) : Prop where
  importable : ∀ r ∈ records, r.Importable fid
  request : ∃ r ∈ records, r.IsRequest fid
  function : ∃ r ∈ records, r.IsFunction

/-- The last key of a purpose. -/
def lastKey (purpose : Bytes) (records : List KeyRecord) : Option Bytes :=
  (records.filter (·.purpose = purpose)).getLast?.map (·.privateKey)

theorem lastKey_append_singleton (purpose : Bytes) (records : List KeyRecord) (r : KeyRecord) :
    lastKey purpose (records ++ [r]) =
      if r.purpose = purpose then some r.privateKey else lastKey purpose records := by
  unfold lastKey
  rw [List.filter_append]
  by_cases h : r.purpose = purpose
  · have hsingleton : [r].filter (·.purpose = purpose) = [r] := by simp [h]
    rw [if_pos h, hsingleton, List.getLast?_append_of_ne_nil _ (List.cons_ne_nil _ _)]
    rfl
  · have hsingleton : [r].filter (·.purpose = purpose) = [] := by simp [h]
    rw [if_neg h, hsingleton, List.append_nil]

/-- A purpose that occurs has a last key. -/
theorem isSome_lastKey_iff {purpose : Bytes} {records : List KeyRecord} :
    (lastKey purpose records).isSome = true ↔ ∃ r ∈ records, r.purpose = purpose := by
  rw [lastKey, Option.isSome_map, List.getLast?_isSome, Ne, List.filter_eq_nil_iff]
  simp

/-! ## What a record leaves -/

/-- A record puts its key into the slot of its kind. -/
def imported (st : ImportState) (r : KeyRecord) : ImportState :=
  if r.purpose = requestPurpose then
    { st with
      keys := { st.keys with requestSk := st.keys.requestSk.copy r.privateKey }
      foundRequestKey := true }
  else
    { st with
      keys := { st.keys with functionSk := st.keys.functionSk.copy r.privateKey }
      foundFunctionKey := true }

theorem imported_of_request {r : KeyRecord} (h : r.purpose = requestPurpose) (st : ImportState) :
    imported st r = { st with
      keys := { st.keys with requestSk := st.keys.requestSk.copy r.privateKey }
      foundRequestKey := true } := if_pos h

theorem imported_of_function {r : KeyRecord} (h : r.purpose = functionPurpose)
    (st : ImportState) :
    imported st r = { st with
      keys := { st.keys with functionSk := st.keys.functionSk.copy r.privateKey }
      foundFunctionKey := true } :=
  if_neg (h ▸ functionPurpose_ne_requestPurpose)

/-- **A record is imported** exactly when it may stand in a set for the FID. -/
theorem importBfibePrivateKeyRecord_eq_some_iff {fid : CStr} (hfid : fid.strlen ≤ 127)
    {r : KeyRecord} {st st' : ImportState} :
    importBfibePrivateKeyRecord r fid st = some st' ↔ r.Importable fid ∧ st' = imported st r := by
  have hlabel : r.identity.take 6 = ascii "label:" ↔ ascii "label:" <+: r.identity := by
    rw [List.prefix_iff_eq_take, eq_comm]
    rfl
  constructor
  · intro h
    simp only [importBfibePrivateKeyRecord] at h
    split_ifs at h with hrequest hlong hidentity hkey hfunction hkey hprefix
    · have hle : r.privateKey.length ≤ 256 := by omega
      refine ⟨⟨.inl ⟨hrequest, not_not.mp hidentity⟩, by omega, hle⟩, ?_⟩
      rw [imported_of_request hrequest, KeySlot.copy_of_le _ hle]
      exact (Option.some.inj h).symm
    · have hle : r.privateKey.length ≤ 256 := by omega
      refine ⟨⟨.inr ⟨hfunction, hlabel.mp (not_not.mp hprefix)⟩, by omega, hle⟩, ?_⟩
      rw [imported_of_function hfunction, KeySlot.copy_of_le _ hle]
      exact (Option.some.inj h).symm
  · rintro ⟨⟨⟨hrequest, hidentity⟩ | ⟨hfunction, hprefix⟩, hpos, hle⟩, rfl⟩
    · have hshort : ¬ 160 ≤ (ascii "fid:" ++ fid.bytes).length := by
        rw [List.length_append]
        show ¬ 160 ≤ 4 + fid.strlen
        omega
      rw [importBfibePrivateKeyRecord, if_pos hrequest, if_neg hshort,
        if_neg (not_not.mpr hidentity), dif_neg (by omega), imported_of_request hrequest,
        KeySlot.copy_of_le _ hle]
    · have hrequest : r.purpose ≠ requestPurpose := hfunction ▸ functionPurpose_ne_requestPurpose
      rw [importBfibePrivateKeyRecord, if_neg hrequest, if_pos hfunction, dif_neg (by omega),
        if_neg (not_not.mpr (hlabel.mpr hprefix)), imported_of_function hfunction,
        KeySlot.copy_of_le _ hle]

/-- **The loop** accepts exactly the encodings of importable records, and leaves what they leave
one after another. -/
theorem importRecords_eq_some_iff {fid : CStr} (hfid : fid.strlen ≤ 127) {count : ℕ}
    {input rest : Bytes} {st st' : ImportState} :
    importRecords fid count input st = some (st', rest) ↔
      ∃ records : List KeyRecord, records.length = count ∧
        (∀ r ∈ records, r.Fits ∧ r.Importable fid) ∧
        input = records.flatMap encodeKeyRecord ++ rest ∧ st' = records.foldl imported st := by
  induction count generalizing input st with
  | zero =>
    rw [importRecords, Option.some.injEq, Prod.mk.injEq]
    constructor
    · rintro ⟨rfl, rfl⟩
      exact ⟨[], rfl, by simp, rfl, rfl⟩
    · rintro ⟨records, hlength, -, rfl, rfl⟩
      rw [List.length_eq_zero_iff.mp hlength]
      exact ⟨rfl, rfl⟩
  | succ count ih =>
    constructor
    · intro h
      simp only [importRecords, Option.bind_eq_bind, Option.bind_eq_some_iff] at h
      obtain ⟨⟨r, next⟩, hread, st₁, himport, hloop⟩ := h
      obtain ⟨⟨hpurpose, hidentity, hkey⟩, rfl⟩ := readKeyRecord_eq_some_iff.mp hread
      obtain ⟨himportable, rfl⟩ := (importBfibePrivateKeyRecord_eq_some_iff hfid).mp himport
      obtain ⟨records, rfl, hrecords, rfl, rfl⟩ := ih.mp hloop
      refine ⟨r :: records, rfl, ?_, ?_, rfl⟩
      · rintro r' hr'
        rcases List.mem_cons.mp hr' with rfl | hr'
        · exact ⟨⟨hpurpose, hidentity, hkey⟩, himportable⟩
        · exact hrecords r' hr'
      · rw [List.flatMap_cons, List.append_assoc]
    · rintro ⟨records, hlength, hrecords, rfl, rfl⟩
      obtain ⟨r, records, rfl⟩ := List.exists_cons_of_length_pos
        (show 0 < records.length by omega)
      obtain ⟨hfits, himportable⟩ := hrecords r List.mem_cons_self
      have hread : readKeyRecord ((r :: records).flatMap encodeKeyRecord ++ rest) =
          some (r, records.flatMap encodeKeyRecord ++ rest) := by
        refine readKeyRecord_eq_some_iff.mpr ⟨⟨hfits.purpose, hfits.identity, hfits.privateKey⟩, ?_⟩
        rw [List.flatMap_cons, List.append_assoc]
      have himport : importBfibePrivateKeyRecord r fid st = some (imported st r) :=
        (importBfibePrivateKeyRecord_eq_some_iff hfid).mpr ⟨himportable, rfl⟩
      rw [importRecords_step hread himport]
      refine ih.mpr ⟨records, Nat.succ.inj hlength, ?_, rfl, rfl⟩
      exact fun r' hr' => hrecords r' (List.mem_cons_of_mem _ hr')

/-- What importable records leave in wiped slots: the last key of each kind. -/
theorem foldl_imported_wiped {fid : CStr} {records : List KeyRecord}
    (h : ∀ r ∈ records, r.Importable fid) :
    let st := records.foldl imported ImportState.wiped
    st.keys.requestSk.key = (lastKey requestPurpose records).getD [] ∧
      st.foundRequestKey = (lastKey requestPurpose records).isSome ∧
      st.keys.functionSk.key = (lastKey functionPurpose records).getD [] ∧
      st.foundFunctionKey = (lastKey functionPurpose records).isSome := by
  induction records using List.reverseRecOn with
  | nil => exact ⟨rfl, rfl, rfl, rfl⟩
  | append_singleton records r ih =>
    obtain ⟨hrequest, hfoundRequest, hfunction, hfoundFunction⟩ :=
      ih fun r' hr' => h r' (List.mem_append_left _ hr')
    have himportable := h r (List.mem_append_right _ List.mem_cons_self)
    simp only [List.foldl_append, List.foldl_cons, List.foldl_nil, lastKey_append_singleton]
    rcases himportable.kind with ⟨hpurpose, -⟩ | ⟨hpurpose, -⟩
    · have hother : r.purpose ≠ functionPurpose := by
        rw [hpurpose]
        exact functionPurpose_ne_requestPurpose.symm
      rw [imported_of_request hpurpose, if_pos hpurpose, if_neg hother,
        KeySlot.copy_of_le _ himportable.key_le]
      exact ⟨KeySlot.key_write _ _ _, rfl, hfunction, hfoundFunction⟩
    · have hother : r.purpose ≠ requestPurpose := by
        rw [hpurpose]
        exact functionPurpose_ne_requestPurpose
      rw [imported_of_function hpurpose, if_pos hpurpose, if_neg hother,
        KeySlot.copy_of_le _ himportable.key_le]
      exact ⟨hrequest, hfoundRequest, KeySlot.key_write _ _ _, rfl⟩

/-! ## Sets -/

theorem importableSet_iff {fid : CStr} {records : List KeyRecord} :
    ImportableSet fid records ↔ (∀ r ∈ records, r.Importable fid) ∧
      (lastKey requestPurpose records).isSome = true ∧
      (lastKey functionPurpose records).isSome = true := by
  rw [isSome_lastKey_iff, isSome_lastKey_iff]
  constructor
  · rintro ⟨himportable, ⟨r, hr, hrequest, -⟩, ⟨f, hf, hfunction, -⟩⟩
    exact ⟨himportable, ⟨r, hr, hrequest⟩, ⟨f, hf, hfunction⟩⟩
  · rintro ⟨himportable, ⟨r, hr, hrequest⟩, ⟨f, hf, hfunction⟩⟩
    refine ⟨himportable, ⟨r, hr, ?_⟩, ⟨f, hf, ?_⟩⟩
    · rcases (himportable r hr).kind with hkind | ⟨hother, -⟩
      · exact hkind
      · exact absurd (hother.symm.trans hrequest) functionPurpose_ne_requestPurpose
    · rcases (himportable f hf).kind with ⟨hother, -⟩ | hkind
      · exact absurd (hfunction.symm.trans hother) functionPurpose_ne_requestPurpose
      · exact hkind

/-- A record takes no more than the list it is in, which has 12 bytes for each. -/
theorem length_le_flatMap_encode (records : List KeyRecord) :
    12 * records.length ≤ (records.flatMap encodeKeyRecord).length ∧
      ∀ r ∈ records, (encodeKeyRecord r).length ≤ (records.flatMap encodeKeyRecord).length := by
  induction records with
  | nil => simp
  | cons r records ih =>
    obtain ⟨hcount, hmem⟩ := ih
    rw [List.flatMap_cons, List.length_append, List.length_cons]
    have hlength := length_encodeKeyRecord r
    refine ⟨by omega, fun r' hr' => ?_⟩
    rcases List.mem_cons.mp hr' with rfl | hr'
    · omega
    · have hle := hmem r' hr'
      omega

/-- In a set whose size fits 32 bits so do the lengths. -/
theorem fits_of_encodeKeySet {records : List KeyRecord}
    (h : (encodeKeySet bfibeProfileId records).length < 2 ^ 32) :
    records.length < 2 ^ 32 ∧ ∀ r ∈ records, r.Fits := by
  rw [length_encodeKeySet] at h
  obtain ⟨hcount, hmem⟩ := length_le_flatMap_encode records
  refine ⟨by omega, fun r hr => ?_⟩
  have hle := hmem r hr
  rw [length_encodeKeyRecord] at hle
  exact ⟨by omega, by omega, by omega⟩

variable {fid : CStr} {records : List KeyRecord}

/-- The encoding of an importable set is accepted, and its records are imported. -/
theorem parseBfibePrivateKeySet_of_importable (hfid : fid.strlen ≤ 127)
    (hset : ImportableSet fid records)
    (hsize : (encodeKeySet bfibeProfileId records).length < 2 ^ 32) (keys : KeyPairSlots) :
    parseBfibePrivateKeySet (encodeKeySet bfibeProfileId records) fid keys =
      ((records.foldl imported ImportState.wiped).keys, true) := by
  obtain ⟨hfits, hfitsEach⟩ := fits_of_encodeKeySet hsize
  obtain ⟨himportable, hrequest, hfunction⟩ := importableSet_iff.mp hset
  have hne : records ≠ [] := by
    obtain ⟨r, hr, -⟩ := hset.request
    exact List.ne_nil_of_mem hr
  have himport : importRecords fid records.length (records.flatMap encodeKeyRecord)
      ImportState.wiped = some (records.foldl imported ImportState.wiped, []) :=
    (importRecords_eq_some_iff hfid).mpr ⟨records, rfl,
      fun r hr => ⟨hfitsEach r hr, himportable r hr⟩, (List.append_nil _).symm, rfl⟩
  obtain ⟨-, hfoundRequest, -, hfoundFunction⟩ := foldl_imported_wiped himportable
  rw [parseBfibePrivateKeySet_of_import (readKeySetHeader_encode hne hfits) himport,
    hfoundRequest, hfoundFunction, hrequest, hfunction]
  rfl

/-- **The accepted byte strings** are the encodings of importable sets. -/
theorem parseBfibePrivateKeySet_accepts_iff (hfid : fid.strlen ≤ 127) {p : Bytes}
    (hsize : p.length < 2 ^ 32) (keys : KeyPairSlots) :
    (parseBfibePrivateKeySet p fid keys).2 = true ↔
      ∃ records, ImportableSet fid records ∧ p = encodeKeySet bfibeProfileId records := by
  constructor
  · intro h
    cases hheader : readKeySetHeader p with
    | none =>
      rw [parseBfibePrivateKeySet, hheader] at h
      exact absurd h Bool.false_ne_true
    | some header =>
      obtain ⟨count, body⟩ := header
      cases himport : importRecords fid count body ImportState.wiped with
      | none =>
        simp only [parseBfibePrivateKeySet, hheader, himport] at h
        exact absurd h Bool.false_ne_true
      | some result =>
        obtain ⟨st, rest⟩ := result
        rw [parseBfibePrivateKeySet_of_import hheader himport, Bool.and_eq_true,
          Bool.and_eq_true, List.isEmpty_iff] at h
        obtain ⟨⟨rfl, hrequest⟩, hfunction⟩ := h
        obtain ⟨records, rfl, hrecords, rfl, rfl⟩ := (importRecords_eq_some_iff hfid).mp himport
        have himportable : ∀ r ∈ records, r.Importable fid := fun r hr => (hrecords r hr).2
        obtain ⟨-, hfoundRequest, -, hfoundFunction⟩ := foldl_imported_wiped himportable
        rw [hfoundRequest] at hrequest
        rw [hfoundFunction] at hfunction
        refine ⟨records, importableSet_iff.mpr ⟨himportable, hrequest, hfunction⟩, ?_⟩
        obtain ⟨-, -, rfl⟩ := readKeySetHeader_eq_some_iff.mp hheader
        rw [List.append_nil]
        rfl
  · rintro ⟨records, hset, rfl⟩
    rw [parseBfibePrivateKeySet_of_importable hfid hset hsize]

/-! ## The writers -/

namespace Client

/-- The fields of a Python record as bytes. -/
structure BfIbePrivateKeyRecord.Encodes (record : BfIbePrivateKeyRecord) (r : KeyRecord) :
    Prop where
  purpose : encodeText record.purpose = some r.purpose
  identity : encodeText record.identity = some r.identity
  privateKey : record.privateKey = r.privateKey

/-- The records of a Python set as bytes. -/
def BfIbePrivateKeySet.Encodes (keySet : BfIbePrivateKeySet) (records : List KeyRecord) : Prop :=
  List.Forall₂ BfIbePrivateKeyRecord.Encodes keySet.records records

/-- A Python record is written as its fields are. -/
theorem encodePrivateKeyRecord_of_encodes {record : BfIbePrivateKeyRecord} {r : KeyRecord}
    (h : record.Encodes r) {b : Bytes} (hb : encodePrivateKeyRecord record = some b) :
    b = encodeKeyRecord r := by
  simp only [encodePrivateKeyRecord, h.purpose, h.identity, h.privateKey, Option.bind_eq_bind,
    Option.bind_some, Option.bind_eq_some_iff] at hb
  obtain ⟨lengths, hlengths, hb⟩ := hb
  obtain ⟨-, rfl⟩ := packU32_eq_some_iff.mp hlengths
  rw [← Option.some.inj hb]
  simp only [encodeKeyRecord, List.flatMap_cons, List.flatMap_nil, List.append_nil,
    List.append_assoc]

theorem mapM_encodePrivateKeyRecord {pyRecords : List BfIbePrivateKeyRecord}
    (h : List.Forall₂ BfIbePrivateKeyRecord.Encodes pyRecords records) {encoded : List Bytes}
    (hencoded : pyRecords.mapM encodePrivateKeyRecord = some encoded) :
    encoded = records.map encodeKeyRecord := by
  induction h generalizing encoded with
  | nil =>
    rw [List.mapM_nil] at hencoded
    exact (Option.some.inj hencoded).symm
  | cons hrecord _ ih =>
    simp only [List.mapM_cons, Option.bind_eq_bind, Option.bind_eq_some_iff] at hencoded
    obtain ⟨b, hb, encoded', hencoded', hcons⟩ := hencoded
    rw [← Option.some.inj hcons, List.map_cons, encodePrivateKeyRecord_of_encodes hrecord hb,
      ih hencoded']

/-- **Python** writes the canonical encoding of a set. -/
theorem encodeBfibePrivateKeySet_of_encodes {keySet : BfIbePrivateKeySet}
    (h : keySet.Encodes records) {b : Bytes} (hb : encodeBfibePrivateKeySet keySet = some b) :
    b = encodeKeySet bfibeProfileId records := by
  simp only [encodeBfibePrivateKeySet, keySet.profile_eq, encode_profileId, Option.bind_eq_bind,
    Option.bind_some, Option.bind_eq_some_iff] at hb
  obtain ⟨encoded, hencoded, lengths, hlengths, hb⟩ := hb
  obtain ⟨-, rfl⟩ := packU32_eq_some_iff.mp hlengths
  obtain rfl := mapM_encodePrivateKeyRecord h hencoded
  rw [← Option.some.inj hb]
  rw [encodeKeySet, List.flatMap_def (l := records)]
  simp only [List.flatMap_cons, List.flatMap_nil, List.append_nil, List.append_assoc,
    List.length_map]

end Client

/-! ## The parser -/

/-- What is claimed of the parser of private-key sets for an FID. -/
structure KeySetParserExact (fid : CStr) : Prop where
  accepts_iff : ∀ (p : Buffer32) (st : ImportState),
    (parseKeySet p fid st).value.isSome = true ↔
      ∃ records, ImportableSet fid records ∧ p.1 = encodeKeySet bfibeProfileId records
  leaves_last : ∀ (p : Buffer32) (st : ImportState) (records : List KeyRecord),
    ImportableSet fid records → p.1 = encodeKeySet bfibeProfileId records →
    some (parseKeySet p fid st).state.keys.requestSk.key = lastKey requestPurpose records ∧
      some (parseKeySet p fid st).state.keys.functionSk.key = lastKey functionPurpose records
  inside : ∀ (p : Buffer32) (st : ImportState) (t : Touch),
    .touched t ∈ (parseKeySet p fid st).log → t.Inside p
  rounds_le : ∀ (p : Buffer32) (st : ImportState),
    (parseKeySet p fid st).log.count .round ≤ p.1.length / 12
  kms_accepted : ∀ (requestIdentity functionIdentity : CStr) (requestSk functionSk : Bytes)
    (capacity : ℕ) (p : Buffer32) (st : ImportState),
    ImportableSet fid (Kms.releaseRecords requestIdentity requestSk functionIdentity functionSk) →
    Kms.buildBfibePrivateKeySet requestIdentity requestSk functionIdentity functionSk capacity =
      some p.1 →
    (parseKeySet p fid st).value.isSome = true
  python_accepted : ∀ (keySet : BfIbePrivateKeySet) (records : List KeyRecord) (p : Buffer32)
    (st : ImportState), keySet.Encodes records → ImportableSet fid records →
    encodeBfibePrivateKeySet keySet = some p.1 → (parseKeySet p fid st).value.isSome = true

/-- **The parser of private-key sets is exact** for every FID that fits its field. -/
theorem keySetParser_exact (fid : CStr) (hfid : fid.strlen ≤ 127) : KeySetParserExact fid := by
  have hparse : ∀ (p : Buffer32) (st : ImportState),
      (parseKeySet p fid st).value.isSome = (parseBfibePrivateKeySet p.1 fid st.keys).2 ∧
        (parseKeySet p fid st).state.keys = (parseBfibePrivateKeySet p.1 fid st.keys).1 := by
    intro p st
    rw [← parseKeySet_eq p fid st]
    exact ⟨rfl, rfl⟩
  have haccepts : ∀ (p : Buffer32) (st : ImportState),
      (parseKeySet p fid st).value.isSome = true ↔
        ∃ records, ImportableSet fid records ∧ p.1 = encodeKeySet bfibeProfileId records := by
    intro p st
    rw [(hparse p st).1]
    exact parseBfibePrivateKeySet_accepts_iff hfid p.2 st.keys
  refine ⟨haccepts, ?_, fun p st t => inside_of_parseKeySet,
    fun p st => rounds_parseKeySet_le p fid st, ?_, ?_⟩
  · intro p st records hset hp
    have hsize := hp ▸ p.2
    obtain ⟨himportable, hrequest, hfunction⟩ := importableSet_iff.mp hset
    obtain ⟨requestSk, hrequestSk⟩ := Option.isSome_iff_exists.mp hrequest
    obtain ⟨functionSk, hfunctionSk⟩ := Option.isSome_iff_exists.mp hfunction
    obtain ⟨hlastRequest, -, hlastFunction, -⟩ := foldl_imported_wiped himportable
    rw [(hparse p st).2, hp, parseBfibePrivateKeySet_of_importable hfid hset hsize, hlastRequest,
      hlastFunction, hrequestSk, hfunctionSk]
    exact ⟨rfl, rfl⟩
  · intro requestIdentity functionIdentity requestSk functionSk capacity p st hset hp
    exact (haccepts p st).mpr ⟨_, hset, (Kms.buildBfibePrivateKeySet_eq_some_iff.mp hp).2⟩
  · intro keySet records p st hencodes hset hp
    exact (haccepts p st).mpr ⟨records, hset, encodeBfibePrivateKeySet_of_encodes hencodes hp⟩

theorem keySetParser_exact_f : KeySetParserExact (CStr.lit "f") :=
  keySetParser_exact (CStr.lit "f") (by decide)

end AsynCS
