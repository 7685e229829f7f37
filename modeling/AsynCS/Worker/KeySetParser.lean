import AsynCS.Lib.OffsetReader
import AsynCS.Worker.BfibeLoad

/-!
# The parser of private-key sets, read by read

`parse_bfibe_private_key_set` on a buffer of 32-bit size: its offset, the bytes it touches, the
rounds of its loop, and the key slots that it writes on the way.

* `keySetHeaderAt`, `keyRecordAt`: the reads of the header and of a record.
* `importRecordAt`: `import_bfibe_private_key_record`, `recordLoop`: the loop.
* `parseKeySet`, with `parseKeySet_eq`: it leaves the slots, and accepts, as
  `parseBfibePrivateKeySet` does on the bytes.
* `inside_of_parseKeySet`, `rounds_parseKeySet_le`: it touches nothing outside the buffer, and
  the record count buys no rounds.
-/

namespace AsynCS
namespace Worker

open Proc

/-! ## The parser -/

/-- What can be seen of a run of the parser. -/
inductive ParserEvent where
  | touched (t : Touch)
  | round
  deriving DecidableEq

/-- The import of a set, which writes the key slots. -/
abbrev KeySetParser := Proc ParserEvent ImportState

/-- A reader at an offset, which gives the next offset too. -/
def readAt {α : Type} (q : OffsetReader α) (offset : UInt32) : KeySetParser (α × UInt32) :=
  fun st => ⟨(q offset).log.map .touched, st, (q offset).value.map fun a => (a, (q offset).state)⟩

/-- `plaintext[offset++]` -/
def versionByte (b : Buffer32) : OffsetReader UInt8 := do
  let offset ← get
  emit ⟨offset.toNat, 1⟩
  modify (· + 1)
  pure (b.1.getD offset.toNat 0)

/-- The lengths and the profile behind magic and version. -/
def profileAt (b : Buffer32) : OffsetReader UInt32 := do
  let profileLen ← readU32Be b
  let recordCount ← readU32Be b
  let profile ← takeView b profileLen
  requireLiteral b profile bfibeProfileId
  pure recordCount

/-- The header of a set: the number of its records. -/
def keySetHeaderAt (b : Buffer32) : OffsetReader UInt32 := do
  let magic ← takeView b 8
  emit (magic.touch 8)
  require (magic.bytes b == bfibePrivateKeySetMagic) (pure ())
  let version ← versionByte b
  require (version == 1) (pure ())
  let recordCount ← profileAt b
  require (recordCount != 0) (pure ())
  pure recordCount

/-- The pointers to the fields of a record. -/
structure RecordViews where
  purpose : View
  identity : View
  privateKey : View

/-- The fields of a record. -/
def RecordViews.record (b : Buffer32) (v : RecordViews) : KeyRecord :=
  ⟨v.purpose.bytes b, v.identity.bytes b, v.privateKey.bytes b⟩

/-- The reads of one round. -/
def keyRecordAt (b : Buffer32) : OffsetReader RecordViews := do
  let purposeLen ← readU32Be b
  let identityLen ← readU32Be b
  let privateKeyLen ← readU32Be b
  let purpose ← takeView b purposeLen
  let identity ← takeView b identityLen
  let privateKey ← takeView b privateKeyLen
  pure ⟨purpose, identity, privateKey⟩

/-- `bytes_equal_literal` -/
def bytesEqualLiteral (b : Buffer32) (v : View) (literal : Bytes) : KeySetParser Bool :=
  if v.length.toNat = literal.length then do
    emit (.touched (v.touch literal.length))
    pure (v.bytes b == literal)
  else pure false

/-- `bytes_starts_with_literal` -/
def bytesStartsWithLiteral (b : Buffer32) (v : View) (literal : Bytes) : KeySetParser Bool :=
  if literal.length ≤ v.length.toNat then do
    emit (.touched (v.touch literal.length))
    pure ((v.bytes b).take literal.length == literal)
  else pure false

/-- `memcpy` of a key of at most 256 bytes into a slot, and its length. -/
def KeySlot.copy (s : KeySlot) (privateKey : Bytes) : KeySlot :=
  if h : privateKey.length ≤ 256 then s.write privateKey h else s

/-- The length of a private key, as both branches check it. -/
def keyLengthOk (v : RecordViews) : Bool :=
  !(v.privateKey.length == 0 || 256 < v.privateKey.length)

/-- The branch of a request key. -/
def importRequestAt (b : Buffer32) (fid : CStr) (v : RecordViews) : KeySetParser Unit := do
  let expectedIdentity := ascii "fid:" ++ fid.bytes
  require (decide (expectedIdentity.length < 160)) (pure ())
  require (decide (v.identity.length.toNat = expectedIdentity.length)) (pure ())
  emit (.touched (v.identity.touch expectedIdentity.length))
  require (v.identity.bytes b == expectedIdentity) (pure ())
  require (keyLengthOk v) (pure ())
  emit (.touched (v.privateKey.touch v.privateKey.length.toNat))
  modify fun st => { st with
    keys := { st.keys with requestSk := st.keys.requestSk.copy (v.privateKey.bytes b) }
    foundRequestKey := true }

/-- The branch of a function key. -/
def importFunctionAt (b : Buffer32) (v : RecordViews) : KeySetParser Unit := do
  let isFunction ← bytesEqualLiteral b v.purpose functionPurpose
  require isFunction (pure ())
  require (keyLengthOk v) (pure ())
  let isLabel ← bytesStartsWithLiteral b v.identity (ascii "label:")
  require isLabel (pure ())
  emit (.touched (v.privateKey.touch v.privateKey.length.toNat))
  modify fun st => { st with
    keys := { st.keys with functionSk := st.keys.functionSk.copy (v.privateKey.bytes b) }
    foundFunctionKey := true }

/-- `import_bfibe_private_key_record` -/
def importRecordAt (b : Buffer32) (fid : CStr) (v : RecordViews) : KeySetParser Unit := do
  let isRequest ← bytesEqualLiteral b v.purpose requestPurpose
  if isRequest then importRequestAt b fid v else importFunctionAt b v

/-- The body of the loop: one record, and the offset behind it. -/
def recordRound (b : Buffer32) (fid : CStr) (offset : UInt32) : KeySetParser UInt32 := do
  let (views, next) ← readAt (keyRecordAt b) offset
  importRecordAt b fid views
  pure next

/-- The loop.  A record that is refused has the slots wiped. -/
def recordLoop (b : Buffer32) (fid : CStr) : ℕ → UInt32 → KeySetParser UInt32
  | 0, offset => pure offset
  | count + 1, offset => do
    emit .round
    let round ← attempt (recordRound b fid offset)
    let next ← orStop round (modify fun _ => ImportState.wiped)
    recordLoop b fid count next

/-- The end of the parser: nothing is left over, and both kinds were found. -/
def acceptSet (b : Buffer32) (offset : UInt32) : KeySetParser Unit := do
  let st ← get
  require (offset == b.size && st.foundRequestKey && st.foundFunctionKey) (pure ())

/-- `parse_bfibe_private_key_set`, which stops where it returns false. -/
def parseKeySet (b : Buffer32) (fid : CStr) : KeySetParser Unit := do
  require (decide (17 ≤ b.size)) (pure ())
  let (recordCount, offset) ← readAt (keySetHeaderAt b) 0
  modify fun _ => ImportState.wiped
  let offset ← recordLoop b fid recordCount.toNat offset
  acceptSet b offset

/-! ## A record -/

variable {b : Buffer32} {fid : CStr}

/-- The views of a record are inside. -/
structure RecordViews.Inside (b : Buffer32) (v : RecordViews) : Prop where
  purpose : v.purpose.Inside b
  identity : v.identity.Inside b
  privateKey : v.privateKey.Inside b

theorem inside_of_keyRecordAt {s s' : UInt32} {v : RecordViews}
    (h : Gives (keyRecordAt b) s v s') : v.Inside b := by
  simp only [keyRecordAt, gives_bind, gives_pure] at h
  obtain ⟨_, _, -, _, _, -, _, _, -, purpose, _, hpurpose, identity, _, hidentity, privateKey, _,
    hkey, rfl, -⟩ := h
  exact ⟨inside_of_takeView hpurpose, inside_of_takeView hidentity, inside_of_takeView hkey⟩

/-- **A record** is read at the offset as it is read behind it. -/
theorem readsAs_keyRecordAt {s : UInt32} :
    ReadsAs b (keyRecordAt b) (RecordViews.record b) readKeyRecord s := by
  unfold keyRecordAt readKeyRecord
  refine ReadsAs.bind (readsAs_readU32Be b s) fun purposeLen s _ _ => ?_
  refine ReadsAs.bind (readsAs_readU32Be b s) fun identityLen s _ _ => ?_
  refine ReadsAs.bind (readsAs_readU32Be b s) fun privateKeyLen s hs _ => ?_
  refine ReadsAs.bind (readsAs_takeView purposeLen hs) fun purpose s hs _ => ?_
  refine ReadsAs.bind (readsAs_takeView identityLen hs) fun identity s hs _ => ?_
  refine ReadsAs.bind (readsAs_takeView privateKeyLen hs) fun privateKey s hs _ => ?_
  exact ReadsAs.pure hs _ _

/-- A record takes 12 bytes and its fields. -/
theorem readKeyRecord_eq_some_iff {input rest : Bytes} {r : KeyRecord} :
    readKeyRecord input = some (r, rest) ↔
      (r.purpose.length < 2 ^ 32 ∧ r.identity.length < 2 ^ 32 ∧ r.privateKey.length < 2 ^ 32) ∧
        input = encodeKeyRecord r ++ rest := by
  constructor
  · intro h
    simp only [readKeyRecord, Option.bind_eq_bind, Option.bind_eq_some_iff] at h
    obtain ⟨⟨n₁, r₁⟩, h₁, ⟨n₂, r₂⟩, h₂, ⟨n₃, r₃⟩, h₃, ⟨purpose, r₄⟩, h₄, ⟨identity, r₅⟩, h₅,
      ⟨privateKey, r₆⟩, h₆, hr⟩ := h
    obtain ⟨hn₁, rfl⟩ := readU32be_eq_some_iff.mp h₁
    obtain ⟨hn₂, rfl⟩ := readU32be_eq_some_iff.mp h₂
    obtain ⟨hn₃, rfl⟩ := readU32be_eq_some_iff.mp h₃
    obtain ⟨rfl, rfl⟩ := takeBytes_eq_some_iff.mp h₄
    obtain ⟨rfl, rfl⟩ := takeBytes_eq_some_iff.mp h₅
    obtain ⟨rfl, rfl⟩ := takeBytes_eq_some_iff.mp h₆
    obtain ⟨rfl, rfl⟩ := Prod.mk.inj (Option.some.inj hr)
    refine ⟨⟨hn₁, hn₂, hn₃⟩, ?_⟩
    simp only [encodeKeyRecord, List.append_assoc]
  · rintro ⟨⟨hpurpose, hidentity, hkey⟩, rfl⟩
    exact readKeyRecord_encode hpurpose hidentity hkey rest

theorem gives_bytesEqualLiteral {v : View} (hv : v.Inside b) {literal : Bytes}
    {st st' : ImportState} {x : Bool} :
    Gives (bytesEqualLiteral b v literal) st x st' ↔
      x = decide (v.bytes b = literal) ∧ st' = st := by
  unfold bytesEqualLiteral
  by_cases hlength : v.length.toNat = literal.length
  · rw [if_pos hlength]
    simp [gives_bind, Bool.beq_eq_decide_eq]
  · have hne : v.bytes b ≠ literal := by
      intro h
      rw [← View.length_bytes hv, h] at hlength
      exact hlength rfl
    rw [if_neg hlength, gives_pure, decide_eq_false hne]

theorem gives_bytesStartsWithLiteral {v : View} (hv : v.Inside b) {literal : Bytes}
    {st st' : ImportState} {x : Bool} :
    Gives (bytesStartsWithLiteral b v literal) st x st' ↔
      x = decide ((v.bytes b).take literal.length = literal) ∧ st' = st := by
  unfold bytesStartsWithLiteral
  by_cases hlength : literal.length ≤ v.length.toNat
  · rw [if_pos hlength]
    simp [gives_bind, Bool.beq_eq_decide_eq]
  · have hne : (v.bytes b).take literal.length ≠ literal := by
      intro h
      have hshort := congrArg List.length h
      rw [List.length_take, View.length_bytes hv] at hshort
      omega
    rw [if_neg hlength, gives_pure, decide_eq_false hne]

theorem keyLengthOk_iff {v : RecordViews} (hv : v.Inside b) :
    keyLengthOk v = true ↔
      ¬ ((v.privateKey.bytes b).length = 0 ∨ 256 < (v.privateKey.bytes b).length) := by
  have hzero : v.privateKey.length = 0 ↔ v.privateKey.length.toNat = 0 := UInt32.toNat_inj.symm
  have hlong : 256 < v.privateKey.length ↔ 256 < v.privateKey.length.toNat :=
    UInt32.lt_iff_toNat_lt
  rw [View.length_bytes hv.privateKey, ← hzero, ← hlong]
  simp [keyLengthOk]

theorem KeySlot.copy_of_le (slot : KeySlot) {privateKey : Bytes} (h : privateKey.length ≤ 256) :
    slot.copy privateKey = slot.write privateKey h := dif_pos h

/-- A request key that is imported. -/
theorem gives_importRequestAt {v : RecordViews} (hv : v.Inside b)
    (hrequest : v.purpose.bytes b = requestPurpose) {st st' : ImportState} :
    Gives (importRequestAt b fid v) st () st' ↔
      importBfibePrivateKeyRecord (v.record b) fid st = some st' := by
  have hlength : v.identity.bytes b = ascii "fid:" ++ fid.bytes →
      v.identity.length.toNat = (ascii "fid:" ++ fid.bytes).length := by
    intro h
    rw [← View.length_bytes hv.identity, h]
  unfold importRequestAt importBfibePrivateKeyRecord
  rw [if_pos (show (v.record b).purpose = requestPurpose from hrequest)]
  simp only [gives_bind, gives_require, gives_emit, gives_modify, decide_eq_true_eq, beq_iff_eq,
    keyLengthOk_iff hv]
  constructor
  · rintro ⟨_, _, ⟨hshort, rfl⟩, _, _, ⟨-, rfl⟩, _, _, rfl, _, _, ⟨hidentity, rfl⟩, _, _,
      ⟨hkey, rfl⟩, _, _, rfl, rfl⟩
    have hle : (v.privateKey.bytes b).length ≤ 256 := by omega
    have hidentity' : ¬ (v.record b).identity ≠ ascii "fid:" ++ fid.bytes := not_not.mpr hidentity
    have hkey' : ¬ ((v.record b).privateKey.length = 0 ∨ 256 < (v.record b).privateKey.length) :=
      hkey
    rw [if_neg (not_le.mpr hshort), if_neg hidentity', dif_neg hkey', KeySlot.copy_of_le _ hle]
    rfl
  · intro h
    split_ifs at h with hlong hidentity hkey
    have hle : (v.privateKey.bytes b).length ≤ 256 := by
      have hkey : ¬ (_ ∨ 256 < (v.privateKey.bytes b).length) := hkey
      omega
    refine ⟨(), _, ⟨not_le.mp hlong, rfl⟩, (), _, ⟨hlength (not_not.mp hidentity), rfl⟩, (), _, rfl,
      (), _, ⟨not_not.mp hidentity, rfl⟩, (), _, ⟨hkey, rfl⟩, (), _, rfl, ?_⟩
    rw [KeySlot.copy_of_le _ hle]
    exact (Option.some.inj h).symm

/-- A function key that is imported, or a purpose that is neither. -/
theorem gives_importFunctionAt {v : RecordViews} (hv : v.Inside b)
    (hrequest : v.purpose.bytes b ≠ requestPurpose) {st st' : ImportState} :
    Gives (importFunctionAt b v) st () st' ↔
      importBfibePrivateKeyRecord (v.record b) fid st = some st' := by
  unfold importFunctionAt importBfibePrivateKeyRecord
  rw [if_neg (show ¬ (v.record b).purpose = requestPurpose from hrequest)]
  simp only [gives_bind, gives_bytesEqualLiteral hv.purpose,
    gives_bytesStartsWithLiteral hv.identity, gives_require, gives_emit, gives_modify,
    keyLengthOk_iff hv]
  constructor
  · rintro ⟨_, _, ⟨rfl, rfl⟩, _, _, ⟨hfunction, rfl⟩, _, _, ⟨hkey, rfl⟩, _, _, ⟨rfl, rfl⟩, _, _,
      ⟨hlabel, rfl⟩, _, _, rfl, rfl⟩
    have hle : (v.privateKey.bytes b).length ≤ 256 := by omega
    have hfunction' : (v.record b).purpose = functionPurpose := of_decide_eq_true hfunction
    have hkey' : ¬ ((v.record b).privateKey.length = 0 ∨ 256 < (v.record b).privateKey.length) :=
      hkey
    have hlabel' : ¬ (v.record b).identity.take 6 ≠ ascii "label:" :=
      not_not.mpr (of_decide_eq_true hlabel)
    rw [if_pos hfunction', dif_neg hkey', if_neg hlabel', KeySlot.copy_of_le _ hle]
    rfl
  · intro h
    split_ifs at h with hfunction hkey hlabel
    have hle : (v.privateKey.bytes b).length ≤ 256 := by
      have hkey : ¬ (_ ∨ 256 < (v.privateKey.bytes b).length) := hkey
      omega
    refine ⟨_, _, ⟨rfl, rfl⟩, (), _, ⟨decide_eq_true hfunction, rfl⟩, (), _, ⟨hkey, rfl⟩, _, _,
      ⟨rfl, rfl⟩, (), _, ⟨decide_eq_true (not_not.mp hlabel), rfl⟩, (), _, rfl, ?_⟩
    rw [KeySlot.copy_of_le _ hle]
    exact (Option.some.inj h).symm

/-- **An import of a record** leaves what the import of its bytes leaves. -/
theorem gives_importRecordAt {v : RecordViews} (hv : v.Inside b) {st st' : ImportState} :
    Gives (importRecordAt b fid v) st () st' ↔
      importBfibePrivateKeyRecord (v.record b) fid st = some st' := by
  have hbind : Gives (importRecordAt b fid v) st () st' ↔
      Gives (if decide (v.purpose.bytes b = requestPurpose) = true then importRequestAt b fid v
        else importFunctionAt b v) st () st' := by
    unfold importRecordAt
    rw [gives_bind]
    simp only [gives_bytesEqualLiteral hv.purpose]
    constructor
    · rintro ⟨_, _, ⟨rfl, rfl⟩, h⟩
      exact h
    · intro h
      exact ⟨_, _, ⟨rfl, rfl⟩, h⟩
  rw [hbind]
  by_cases hrequest : v.purpose.bytes b = requestPurpose
  · rw [if_pos (decide_eq_true hrequest)]
    exact gives_importRequestAt hv hrequest
  · rw [if_neg (by simpa using hrequest)]
    exact gives_importFunctionAt hv hrequest

/-! ## The bytes that an import touches -/

/-- Bytes of the buffer were touched. -/
def ParserEvent.TouchesInside (b : Buffer32) (e : ParserEvent) : Prop :=
  ∃ t : Touch, e = .touched t ∧ t.Inside b

/-- A part of the parser that only touches bytes of the buffer. -/
abbrev StaysInside {α : Type} (b : Buffer32) (p : KeySetParser α) : Prop :=
  Frame (Keeps fun _ : ImportState => ()) (ParserEvent.TouchesInside b) p

theorem staysInside_emit {t : Touch} (ht : t.Inside b) :
    StaysInside b (emit (.touched t) : KeySetParser Unit) :=
  Frame.emit ⟨t, rfl, ht⟩

theorem staysInside_require (c : Bool) : StaysInside b (require c (pure ()) : KeySetParser Unit) :=
  Frame.require (Frame.pure ())

theorem staysInside_modify (f : ImportState → ImportState) :
    StaysInside b (modify f : KeySetParser Unit) := Frame.modify fun _ => rfl

theorem staysInside_bytesEqualLiteral {v : View} (hv : v.Inside b) (literal : Bytes) :
    StaysInside b (bytesEqualLiteral b v literal) := by
  unfold bytesEqualLiteral
  split
  · rename_i hlength
    exact (staysInside_emit (View.touch_inside hv hlength.ge)).bind fun _ => Frame.pure _
  · exact Frame.pure _

theorem staysInside_bytesStartsWithLiteral {v : View} (hv : v.Inside b) (literal : Bytes) :
    StaysInside b (bytesStartsWithLiteral b v literal) := by
  unfold bytesStartsWithLiteral
  split
  · rename_i hlength
    exact (staysInside_emit (View.touch_inside hv hlength)).bind fun _ => Frame.pure _
  · exact Frame.pure _

/-- **An import of a record** touches its fields. -/
theorem staysInside_importRecordAt {v : RecordViews} (hv : v.Inside b) :
    StaysInside b (importRecordAt b fid v) := by
  have hkey : (v.privateKey.touch v.privateKey.length.toNat).Inside b :=
    View.touch_inside hv.privateKey le_rfl
  refine (staysInside_bytesEqualLiteral hv.purpose _).bind fun isRequest => ?_
  refine Frame.ite ?_ ?_
  · unfold importRequestAt
    refine (staysInside_require _).bind fun _ => ?_
    refine (staysInside_require _).bind_of_value fun s _ hlength => ?_
    have hlength : v.identity.length.toNat = (ascii "fid:" ++ fid.bytes).length := by
      by_contra hne
      rw [value_require, decide_eq_false hne] at hlength
      cases hlength
    refine (staysInside_emit (View.touch_inside hv.identity hlength.ge)).bind fun _ => ?_
    refine (staysInside_require _).bind fun _ => (staysInside_require _).bind fun _ => ?_
    exact (staysInside_emit hkey).bind fun _ => staysInside_modify _
  · unfold importFunctionAt
    refine (staysInside_bytesEqualLiteral hv.purpose _).bind fun _ => ?_
    refine (staysInside_require _).bind fun _ => (staysInside_require _).bind fun _ => ?_
    refine (staysInside_bytesStartsWithLiteral hv.identity _).bind fun _ => ?_
    refine (staysInside_require _).bind fun _ => ?_
    exact (staysInside_emit hkey).bind fun _ => staysInside_modify _

/-! ## A round -/

theorem gives_readAt {α : Type} {q : OffsetReader α} {offset next : UInt32} {a : α}
    {st st' : ImportState} :
    Gives (readAt q offset) st (a, next) st' ↔ Gives q offset a next ∧ st' = st := by
  unfold readAt Gives
  cases hv : (q offset).value with
  | none => simp
  | some x =>
    simp only [Option.map_some, Option.some.injEq, Prod.mk.injEq]
    constructor
    · rintro ⟨⟨rfl, rfl⟩, rfl⟩
      exact ⟨⟨rfl, rfl⟩, rfl⟩
    · rintro ⟨⟨rfl, rfl⟩, rfl⟩
      exact ⟨⟨rfl, rfl⟩, rfl⟩

theorem staysInside_readAt {α : Type} {q : OffsetReader α} {offset : UInt32}
    (h : ∀ t ∈ (q offset).log, t.Inside b) : StaysInside b (readAt q offset) := by
  refine ⟨fun _ => rfl, fun st e he => ?_⟩
  obtain ⟨t, ht, rfl⟩ := List.mem_map.mp he
  exact ⟨t, rfl, h t ht⟩

/-- A round that does not stop has read and imported its record. -/
theorem gives_recordRound {offset next : UInt32} {st st' : ImportState} :
    Gives (recordRound b fid offset) st next st' ↔
      ∃ v, Gives (keyRecordAt b) offset v next ∧
        importBfibePrivateKeyRecord (v.record b) fid st = some st' := by
  unfold recordRound
  rw [gives_bind]
  constructor
  · rintro ⟨⟨v, next'⟩, st₁, hread, h⟩
    obtain ⟨hrecord, rfl⟩ := gives_readAt.mp hread
    obtain ⟨_, st₂, himport, h⟩ := gives_bind.mp h
    obtain ⟨rfl, rfl⟩ := gives_pure.mp h
    exact ⟨v, hrecord, (gives_importRecordAt (inside_of_keyRecordAt hrecord)).mp himport⟩
  · rintro ⟨v, hread, himport⟩
    exact ⟨(v, next), st, gives_readAt.mpr ⟨hread, rfl⟩, gives_bind.mpr ⟨(), st',
      (gives_importRecordAt (inside_of_keyRecordAt hread)).mpr himport, gives_pure.mpr ⟨rfl, rfl⟩⟩⟩

theorem staysInside_recordRound (offset : UInt32) : StaysInside b (recordRound b fid offset) := by
  have hread : ∀ t ∈ (keyRecordAt b offset).log, t.Inside b := readsAs_keyRecordAt.inside
  refine (staysInside_readAt hread).bind_of_value fun st p hp => ?_
  have hgives : Gives (readAt (keyRecordAt b) offset) st (p.1, p.2) st := ⟨hp, rfl⟩
  have hv := inside_of_keyRecordAt (gives_readAt.mp hgives).1
  exact (staysInside_importRecordAt hv).bind fun _ => Frame.pure _

/-- What one round finds in the bytes behind the offset, and how far it goes. -/
theorem record_of_recordRound {offset next : UInt32} {st st' : ImportState}
    (h : Gives (recordRound b fid offset) st next st') :
    ∃ record, readKeyRecord (b.1.drop offset.toNat) = some (record, b.1.drop next.toNat) ∧
      importBfibePrivateKeyRecord record fid st = some st' ∧
      offset.toNat + 12 ≤ next.toNat ∧ next.toNat ≤ b.1.length := by
  obtain ⟨v, hread, himport⟩ := gives_recordRound.mp h
  obtain ⟨hnext, hrecord⟩ := readsAs_keyRecordAt.gives hread
  refine ⟨_, hrecord, himport, ?_, hnext⟩
  have hlength := congrArg List.length (readKeyRecord_eq_some_iff.mp hrecord).2
  rw [List.length_append, length_encodeKeyRecord, List.length_drop, List.length_drop] at hlength
  omega

/-- A round that stops has no record, or one that is refused. -/
theorem refused_of_recordRound {offset : UInt32} {st : ImportState}
    (h : (recordRound b fid offset st).value = none) (count : ℕ) :
    importRecords fid (count + 1) (b.1.drop offset.toNat) st = none := by
  rw [importRecords]
  cases hv : (keyRecordAt b offset).value with
  | none =>
    rw [readsAs_keyRecordAt.stops hv]
    rfl
  | some v =>
    have hread : Gives (keyRecordAt b) offset v (keyRecordAt b offset).state := ⟨hv, rfl⟩
    obtain ⟨-, hrecord⟩ := readsAs_keyRecordAt.gives hread
    rw [hrecord]
    show (importBfibePrivateKeyRecord (v.record b) fid st).bind _ = none
    cases himport : importBfibePrivateKeyRecord (v.record b) fid st with
    | none => rfl
    | some st' =>
      have hgives := gives_recordRound.mpr ⟨v, hread, himport⟩
      exact absurd (h.symm.trans hgives.1) (by simp)

/-! ## The loop -/

/-- A round, and the loop behind it. -/
theorem recordLoop_of_gives {count : ℕ} {offset next : UInt32} {st st' : ImportState}
    (h : Gives (recordRound b fid offset) st next st') :
    recordLoop b fid (count + 1) offset st =
      ⟨.round :: ((recordRound b fid offset st).log ++ (recordLoop b fid count next st').log),
        (recordLoop b fid count next st').state, (recordLoop b fid count next st').value⟩ := by
  obtain ⟨hv, rfl⟩ := h
  rw [recordLoop, bind_of_some (value_emit _ _), state_emit, bind_of_some (value_attempt _ _),
    state_attempt, hv]
  rfl

/-- A round that stops ends the loop, and the slots are wiped. -/
theorem recordLoop_of_stops {count : ℕ} {offset : UInt32} {st : ImportState}
    (h : (recordRound b fid offset st).value = none) :
    recordLoop b fid (count + 1) offset st =
      ⟨.round :: (recordRound b fid offset st).log, ImportState.wiped, none⟩ := by
  rw [recordLoop, bind_of_some (value_emit _ _), state_emit, bind_of_some (value_attempt _ _),
    state_attempt, h]
  show (⟨.round :: ((recordRound b fid offset st).log ++ []), ImportState.wiped, none⟩ :
    Outcome ParserEvent ImportState UInt32) = _
  rw [List.append_nil]

/-- **The loop** imports the records behind the offset, or leaves the slots wiped. -/
theorem recordLoop_spec (count : ℕ) {offset : UInt32} (hoffset : offset.toNat ≤ b.1.length)
    (st : ImportState) :
    (∃ next st', Gives (recordLoop b fid count offset) st next st' ∧
      importRecords fid count (b.1.drop offset.toNat) st = some (st', b.1.drop next.toNat) ∧
      next.toNat ≤ b.1.length) ∨
    (Gives (attempt (recordLoop b fid count offset)) st none ImportState.wiped ∧
      importRecords fid count (b.1.drop offset.toNat) st = none) := by
  induction count generalizing offset st with
  | zero => exact .inl ⟨offset, st, ⟨rfl, rfl⟩, rfl, hoffset⟩
  | succ count ih =>
    cases hv : (recordRound b fid offset st).value with
    | none =>
      refine .inr ⟨?_, refused_of_recordRound hv count⟩
      rw [Gives, value_attempt, state_attempt, recordLoop_of_stops hv]
      exact ⟨rfl, rfl⟩
    | some next =>
      have hround : Gives (recordRound b fid offset) st next (recordRound b fid offset st).state :=
        ⟨hv, rfl⟩
      obtain ⟨record, hread, himport, -, hnext⟩ := record_of_recordRound hround
      have happly : recordLoop b fid (count + 1) offset st = _ := recordLoop_of_gives hround
      rw [importRecords_step hread himport]
      rcases ih hnext (recordRound b fid offset st).state with
        ⟨next', st', hloop, hrest⟩ | ⟨hloop, hrest⟩
      · refine .inl ⟨next', st', ?_, hrest⟩
        rw [Gives, happly]
        exact hloop
      · refine .inr ⟨?_, hrest⟩
        rw [Gives, value_attempt, state_attempt, happly]
        exact hloop

/-- **The rounds** that stop or go on: each that goes on takes 12 bytes at least. -/
theorem rounds_recordLoop_le (count : ℕ) {offset : UInt32} (hoffset : offset.toNat ≤ b.1.length)
    (st : ImportState) :
    12 * (recordLoop b fid count offset st).log.count .round ≤
      b.1.length - offset.toNat + 12 := by
  have hquiet : ∀ (offset : UInt32) st, (recordRound b fid offset st).log.count .round = 0 := by
    intro offset st
    refine List.count_eq_zero.mpr fun hmem => ?_
    obtain ⟨t, ht, -⟩ := (staysInside_recordRound offset).log st _ hmem
    cases ht
  induction count generalizing offset st with
  | zero => exact Nat.zero_le _
  | succ count ih =>
    cases hv : (recordRound b fid offset st).value with
    | none =>
      rw [recordLoop_of_stops hv]
      show 12 * List.count ParserEvent.round (.round :: _) ≤ _
      rw [List.count_cons_self, hquiet]
      omega
    | some next =>
      have hround : Gives (recordRound b fid offset) st next (recordRound b fid offset st).state :=
        ⟨hv, rfl⟩
      obtain ⟨record, -, -, hfar, hnext⟩ := record_of_recordRound hround
      have hrest := ih hnext (recordRound b fid offset st).state
      rw [recordLoop_of_gives hround]
      show 12 * List.count ParserEvent.round (.round :: (_ ++ _)) ≤ _
      rw [List.count_cons_self, List.count_append, hquiet]
      omega

/-- The loop touches bytes of the buffer. -/
theorem touches_recordLoop (count : ℕ) (offset : UInt32) (st : ImportState) (t : Touch)
    (h : .touched t ∈ (recordLoop b fid count offset st).log) : t.Inside b := by
  have hround : ∀ (offset : UInt32) st, .touched t ∈ (recordRound b fid offset st).log →
      t.Inside b := by
    intro offset st hmem
    obtain ⟨t', ht', hinside⟩ := (staysInside_recordRound offset).log st _ hmem
    cases ht'
    exact hinside
  induction count generalizing offset st with
  | zero => exact absurd h List.not_mem_nil
  | succ count ih =>
    cases hv : (recordRound b fid offset st).value with
    | none =>
      rw [recordLoop_of_stops hv] at h
      rcases List.mem_cons.mp h with h | h
      · cases h
      · exact hround offset st h
    | some next =>
      rw [recordLoop_of_gives ⟨hv, rfl⟩] at h
      rcases List.mem_cons.mp h with h | h
      · cases h
      rcases List.mem_append.mp h with h | h
      · exact hround offset st h
      · exact ih next _ h

/-! ## The header -/

theorem readsAs_versionByte {s : UInt32} (hs : s.toNat < b.1.length) :
    ReadsAs b (versionByte b) id (fun input => input.head?.map fun x => (x, input.tail)) s := by
  have hnext : (s + 1).toNat = s.toNat + 1 := toNat_add_of_fits (n := 1) hs
  have hdrop := List.drop_eq_getElem_cons hs
  refine ⟨fun t ht => ?_, fun {s' a} h => ?_, fun h => absurd h (by simp [versionByte, value_bind])⟩
  · obtain rfl := List.mem_singleton.mp ht
    exact hs
  · obtain ⟨hv, rfl⟩ := h
    obtain rfl := Option.some.inj hv
    refine ⟨?_, ?_⟩
    · show (s + 1).toNat ≤ _
      omega
    · show _ = some (b.1.getD s.toNat 0, b.1.drop (s + 1).toNat)
      rw [hdrop, hnext, List.getD_eq_getElem _ _ hs]
      rfl

/-- What is read behind magic and version. -/
def readProfile (input : Bytes) : Option (ℕ × Bytes) := do
  let (profileLen, r) ← readU32be input
  let (recordCount, r) ← readU32be r
  let (profile, r) ← takeBytes profileLen r
  if profile = bfibeProfileId then some (recordCount, r) else none

theorem readsAs_profileAt {s : UInt32} :
    ReadsAs b (profileAt b) UInt32.toNat readProfile s := by
  unfold profileAt readProfile
  refine ReadsAs.bind (readsAs_readU32Be b s) fun profileLen s _ _ => ?_
  refine ReadsAs.bind (readsAs_readU32Be b s) fun recordCount s hs _ => ?_
  refine ReadsAs.bind (readsAs_takeView profileLen hs) fun profile s hs hprofile => ?_
  exact ReadsAs.literal (inside_of_takeView hprofile) (ReadsAs.pure hs _ _)

/-- The header, in the order of the reads. -/
def readHeaderInOrder (input : Bytes) : Option (ℕ × Bytes) := do
  let (magic, r) ← takeBytes 8 input
  if (magic == bfibePrivateKeySetMagic) = true then do
    let (version, r) ← r.head?.map fun x => (x, r.tail)
    if (version == 1) = true then do
      let (recordCount, r) ← readProfile r
      if (recordCount != 0) = true then some (recordCount, r) else none
    else none
  else none

theorem readsAs_keySetHeaderAt (h : 17 ≤ b.1.length) :
    ReadsAs b (keySetHeaderAt b) UInt32.toNat readHeaderInOrder 0 := by
  unfold keySetHeaderAt readHeaderInOrder
  refine ReadsAs.bind (readsAs_takeView 8 (Nat.zero_le _)) fun magic s hs hmagic => ?_
  obtain ⟨rfl, hoffset, hinside⟩ := gives_takeView.mp hmagic
  have hs8 : s.toNat = 8 := by
    rw [hoffset]
    rfl
  refine ReadsAs.emit (View.touch_inside hinside le_rfl) (ReadsAs.require fun _ => ?_)
  refine ReadsAs.bind (readsAs_versionByte (by omega)) fun version s _ _ => ?_
  refine ReadsAs.require fun _ => ?_
  refine ReadsAs.bind readsAs_profileAt fun recordCount s hs _ => ?_
  have hcount : (recordCount != 0) = (recordCount.toNat != 0) := by
    rw [bne, bne, Bool.beq_eq_decide_eq, Bool.beq_eq_decide_eq, decide_eq_decide.mpr
      UInt32.toNat_inj.symm]
    rfl
  rw [hcount]
  exact ReadsAs.require fun _ => ReadsAs.pure hs _ _

/-- The two orders of the checks of a header agree. -/
theorem readKeySetHeader_eq {p : Bytes} (h : 17 ≤ p.length) :
    readKeySetHeader p = readHeaderInOrder p := by
  obtain ⟨magic, tail, rfl, hmagic⟩ : ∃ magic tail, p = magic ++ tail ∧ magic.length = 8 :=
    ⟨p.take 8, p.drop 8, (List.take_append_drop 8 p).symm, by rw [List.length_take]; omega⟩
  rw [List.length_append] at h
  obtain ⟨version, rest, rfl⟩ := List.exists_cons_of_length_pos (show 0 < tail.length by omega)
  have hfirst : takeBytes 1 (version :: rest) = some ([version], rest) :=
    takeBytes_append (a := [version]) rfl rest
  rw [readKeySetHeader, if_neg (by rw [List.length_append]; omega), readHeaderInOrder,
    takeBytes_append hmagic]
  simp only [Option.bind_eq_bind, Option.bind_some, hfirst, List.head?_cons, Option.map_some,
    List.tail_cons]
  by_cases hm : magic = bfibePrivateKeySetMagic
  · by_cases hv : version = 1
    · rw [if_neg (by simp [hm, hv]), if_pos (beq_iff_eq.mpr hm), if_pos (beq_iff_eq.mpr hv)]
      simp only [readProfile, Option.bind_eq_bind, Option.bind_assoc]
      refine Option.bind_congr fun p _ => Option.bind_congr fun q _ => Option.bind_congr fun r _ => ?_
      by_cases hprofile : r.1 = bfibeProfileId
      · by_cases hcount : q.1 = 0
        · rw [if_pos (.inr hcount), if_pos hprofile, Option.bind_some, if_neg (by simp [hcount])]
        · rw [if_neg (by simp [hprofile, hcount]), if_pos hprofile, Option.bind_some,
            if_pos (by simp [hcount])]
      · rw [if_pos (.inl hprofile), if_neg hprofile, Option.bind_none]
    · rw [if_pos (by simp [hv]), if_pos (beq_iff_eq.mpr hm), if_neg (by simp [hv])]
  · rw [if_pos (by simp [hm]), if_neg (by simp [hm])]

/-- A header is what the encoding of a set begins with. -/
theorem readKeySetHeader_eq_some_iff {p rest : Bytes} {recordCount : ℕ} :
    readKeySetHeader p = some (recordCount, rest) ↔ recordCount ≠ 0 ∧ recordCount < 2 ^ 32 ∧
      p = bfibePrivateKeySetMagic ++ [1] ++ u32be bfibeProfileId.length ++ u32be recordCount ++
        bfibeProfileId ++ rest := by
  constructor
  · intro h
    unfold readKeySetHeader at h
    split at h
    · cases h
    simp only [Option.bind_eq_bind, Option.bind_eq_some_iff] at h
    obtain ⟨⟨magic, r₁⟩, h₁, ⟨version, r₂⟩, h₂, h⟩ := h
    obtain ⟨rfl, -⟩ := takeBytes_eq_some_iff.mp h₁
    obtain ⟨rfl, -⟩ := takeBytes_eq_some_iff.mp h₂
    simp only at h
    split at h
    · cases h
    rename_i hfixed
    simp only [Option.bind_eq_some_iff] at h
    obtain ⟨⟨profileLen, r₃⟩, h₃, ⟨count, r₄⟩, h₄, ⟨profile, r₅⟩, h₅, h⟩ := h
    obtain ⟨-, rfl⟩ := readU32be_eq_some_iff.mp h₃
    obtain ⟨hcount, rfl⟩ := readU32be_eq_some_iff.mp h₄
    obtain ⟨rfl, rfl⟩ := takeBytes_eq_some_iff.mp h₅
    simp only at h
    split at h
    · cases h
    rename_i hprofile
    obtain ⟨rfl, rfl⟩ := Prod.mk.inj (Option.some.inj h)
    push Not at hfixed hprofile
    obtain ⟨rfl, rfl⟩ := hfixed
    obtain ⟨rfl, hne⟩ := hprofile
    refine ⟨hne, hcount, ?_⟩
    simp only [List.append_assoc]
  · rintro ⟨hne, hcount, rfl⟩
    have hlong : ¬ (bfibePrivateKeySetMagic ++ [1] ++ u32be bfibeProfileId.length ++
        u32be recordCount ++ bfibeProfileId ++ rest).length < 17 := by
      simp only [List.length_append, length_u32be, length_bfibePrivateKeySetMagic,
        List.length_cons]
      omega
    rw [readKeySetHeader, if_neg hlong]
    simp only [List.append_assoc]
    refine read_then (takeBytes_append length_bfibePrivateKeySetMagic _) ?_
    refine read_then (takeBytes_append (n := 1) (a := [1]) rfl _) ?_
    rw [if_neg (by simp)]
    refine read_then (readU32be_u32be_append (by decide) _) ?_
    refine read_then (readU32be_u32be_append hcount _) ?_
    refine read_then (takeBytes_append rfl _) ?_
    exact if_neg (by simp [hne])

/-! ## The set -/

/-- The records of the set, in wiped slots. -/
abbrev recordsRun (b : Buffer32) (fid : CStr) (recordCount : ℕ) (offset : UInt32) :
    Outcome ParserEvent ImportState Unit :=
  (recordLoop b fid recordCount offset >>= acceptSet b) ImportState.wiped

theorem acceptSet_apply (offset : UInt32) (st : ImportState) :
    acceptSet b offset st = ⟨[], st,
      if (offset == b.size && st.foundRequestKey && st.foundFunctionKey) = true then some ()
      else none⟩ := by
  unfold acceptSet
  rw [bind_of_some (value_get st)]
  rw [state_get]
  cases offset == b.size && st.foundRequestKey && st.foundFunctionKey <;> rfl

theorem parseKeySet_short (h : ¬ 17 ≤ b.size) (st : ImportState) :
    parseKeySet b fid st = ⟨[], st, none⟩ := by
  unfold parseKeySet
  rw [decide_eq_false h]
  rfl

theorem parseKeySet_of_gives (hlong : 17 ≤ b.size) {recordCount offset : UInt32}
    (h : Gives (keySetHeaderAt b) 0 recordCount offset) (st : ImportState) :
    parseKeySet b fid st =
      ⟨(keySetHeaderAt b 0).log.map .touched ++ (recordsRun b fid recordCount.toNat offset).log,
        (recordsRun b fid recordCount.toNat offset).state,
        (recordsRun b fid recordCount.toNat offset).value⟩ := by
  have hread : (readAt (keySetHeaderAt b) 0 st).value = some (recordCount, offset) :=
    (gives_readAt.mpr ⟨h, rfl⟩).1
  unfold parseKeySet
  rw [decide_eq_true hlong]
  show (readAt (keySetHeaderAt b) 0 >>= _) st = _
  rw [bind_of_some hread]
  rfl

theorem parseKeySet_of_none (hlong : 17 ≤ b.size) (h : (keySetHeaderAt b 0).value = none)
    (st : ImportState) :
    parseKeySet b fid st = ⟨(keySetHeaderAt b 0).log.map .touched, st, none⟩ := by
  have hread : (readAt (keySetHeaderAt b) 0 st).value = none := by
    show Option.map _ (keySetHeaderAt b 0).value = none
    rw [h]
    rfl
  unfold parseKeySet
  rw [decide_eq_true hlong]
  show (readAt (keySetHeaderAt b) 0 >>= _) st = _
  rw [bind_of_none hread]
  rfl

theorem size_le_iff : 17 ≤ b.size ↔ 17 ≤ b.1.length := by
  rw [UInt32.le_iff_toNat_le, b.toNat_size]
  rfl

/-- The offset is at the end when nothing is left. -/
theorem isEmpty_drop_iff {offset : UInt32} (h : offset.toNat ≤ b.1.length) :
    (b.1.drop offset.toNat).isEmpty = (offset == b.size) := by
  rw [Bool.eq_iff_iff, List.isEmpty_iff, beq_iff_eq, ← UInt32.toNat_inj, b.toNat_size,
    List.drop_eq_nil_iff]
  omega

/-- **On a buffer** the parser leaves the slots, and accepts, as it does on the bytes. -/
theorem parseKeySet_eq (b : Buffer32) (fid : CStr) (st : ImportState) :
    ((parseKeySet b fid st).state.keys, (parseKeySet b fid st).value.isSome) =
      parseBfibePrivateKeySet b.1 fid st.keys := by
  by_cases hsize : 17 ≤ b.size
  · have hlong := size_le_iff.mp hsize
    have hreads := readsAs_keySetHeaderAt hlong
    cases hv : (keySetHeaderAt b 0).value with
    | none =>
      have hheader : readKeySetHeader b.1 = none := by
        rw [readKeySetHeader_eq hlong]
        exact hreads.stops hv
      rw [parseKeySet_of_none hsize hv, parseBfibePrivateKeySet, hheader]
      rfl
    | some recordCount =>
      have hgives : Gives (keySetHeaderAt b) 0 recordCount (keySetHeaderAt b 0).state := ⟨hv, rfl⟩
      obtain ⟨hoffset, hread⟩ := hreads.gives hgives
      have hheader : readKeySetHeader b.1 = _ := (readKeySetHeader_eq hlong).trans hread
      rw [parseKeySet_of_gives hsize hgives]
      rcases @recordLoop_spec b fid recordCount.toNat _ hoffset ImportState.wiped with
        ⟨next, st', ⟨hvalue, hstate⟩, himport, hnext⟩ | ⟨⟨hvalue, hstate⟩, himport⟩
      · rw [parseBfibePrivateKeySet_of_import hheader himport, isEmpty_drop_iff hnext]
        show ((recordsRun b fid _ _).state.keys, (recordsRun b fid _ _).value.isSome) = _
        rw [recordsRun, bind_of_some hvalue, hstate, acceptSet_apply]
        cases next == b.size && st'.foundRequestKey && st'.foundFunctionKey <;> rfl
      · rw [parseBfibePrivateKeySet, hheader]
        show ((recordsRun b fid _ _).state.keys, (recordsRun b fid _ _).value.isSome) = _
        rw [value_attempt, Option.some.injEq] at hvalue
        rw [state_attempt] at hstate
        rw [recordsRun, bind_of_none hvalue, hstate]
        simp only [himport]
        rfl
  · have hheader : readKeySetHeader b.1 = none :=
      if_pos (not_le.mp fun h => hsize (size_le_iff.mpr h))
    rw [parseKeySet_short hsize, parseBfibePrivateKeySet, hheader]
    rfl

/-- **Nothing outside the buffer** is touched. -/
theorem inside_of_parseKeySet {st : ImportState} {t : Touch}
    (h : .touched t ∈ (parseKeySet b fid st).log) : t.Inside b := by
  by_cases hsize : 17 ≤ b.size
  · have hreads := readsAs_keySetHeaderAt (size_le_iff.mp hsize)
    have hheader : ParserEvent.touched t ∈ (keySetHeaderAt b 0).log.map .touched → t.Inside b := by
      intro hmem
      obtain ⟨t', ht', heq⟩ := List.mem_map.mp hmem
      cases heq
      exact hreads.inside t ht'
    cases hv : (keySetHeaderAt b 0).value with
    | none =>
      rw [parseKeySet_of_none hsize hv] at h
      exact hheader h
    | some recordCount =>
      rw [parseKeySet_of_gives hsize ⟨hv, rfl⟩] at h
      rcases List.mem_append.mp h with h | h
      · exact hheader h
      · rcases emits_bind.mp h with h | ⟨offset, st', -, h⟩
        · exact touches_recordLoop _ _ _ t h
        · rw [Emits, acceptSet_apply] at h
          exact absurd h List.not_mem_nil
  · rw [parseKeySet_short hsize] at h
    exact absurd h List.not_mem_nil

/-- **The rounds** are at most a twelfth of the size, whatever the record count says. -/
theorem rounds_parseKeySet_le (b : Buffer32) (fid : CStr) (st : ImportState) :
    (parseKeySet b fid st).log.count .round ≤ b.1.length / 12 := by
  by_cases hsize : 17 ≤ b.size
  · have hlong := size_le_iff.mp hsize
    have hreads := readsAs_keySetHeaderAt hlong
    have hheader : ((keySetHeaderAt b 0).log.map ParserEvent.touched).count .round = 0 := by
      refine List.count_eq_zero.mpr fun hmem => ?_
      obtain ⟨t, -, ht⟩ := List.mem_map.mp hmem
      cases ht
    cases hv : (keySetHeaderAt b 0).value with
    | none =>
      rw [parseKeySet_of_none hsize hv]
      show List.count _ (List.map _ _) ≤ _
      rw [hheader]
      exact Nat.zero_le _
    | some recordCount =>
      have hgives : Gives (keySetHeaderAt b) 0 recordCount (keySetHeaderAt b 0).state := ⟨hv, rfl⟩
      obtain ⟨hoffset, hread⟩ := hreads.gives hgives
      have hrounds := @rounds_recordLoop_le b fid recordCount.toNat _ hoffset ImportState.wiped
      rw [parseKeySet_of_gives hsize hgives]
      show List.count _ (_ ++ _) ≤ _
      have htail : (recordsRun b fid recordCount.toNat (keySetHeaderAt b 0).state).log =
          (recordLoop b fid recordCount.toNat (keySetHeaderAt b 0).state ImportState.wiped).log := by
        cases hloop : (recordLoop b fid recordCount.toNat (keySetHeaderAt b 0).state
            ImportState.wiped).value with
        | none => rw [recordsRun, bind_of_none hloop]
        | some offset => rw [recordsRun, bind_of_some hloop, acceptSet_apply, List.append_nil]
      have hstart : 12 ≤ (keySetHeaderAt b 0).state.toNat := by
        obtain ⟨-, -, heq⟩ := readKeySetHeader_eq_some_iff.mp
          ((readKeySetHeader_eq hlong).trans hread)
        have hlength := congrArg List.length heq
        simp only [List.length_append, length_u32be, length_bfibePrivateKeySetMagic,
          List.length_cons, List.length_drop] at hlength
        omega
      rw [List.count_append, hheader, htail]
      omega
  · rw [parseKeySet_short hsize]
    exact Nat.zero_le _

end Worker
end AsynCS
