import AsynCS.Lib.JvmBuffer
import AsynCS.OpenWhisk.ProtectedEnvelope

/-!
# The codec of envelopes on byte strings

`ProtectedEnvelopeV1` on the JVM: its constructor may throw, its bytes are put into a buffer of
fixed size, and `decode` reads a buffer and adds lengths in 32 bits.

* `EnvelopeArguments`, `EnvelopeArguments.construct`: the constructor with its requirements.
* `EnvelopeArguments.bytes`, `decode`: the codec.
* `ofEnvelope`: the envelopes are the arguments that the constructor lets through.
* `decode_eq`: on byte strings `decode` is the decoder of envelopes, and throws nothing.
* `codecExact`: both ways.
-/

namespace AsynCS
namespace OpenWhisk
namespace EnvelopeCodec

open ProtectedEnvelopeV1 (headerSize tagSize minimumSize version byteAt fieldsOf)

/-! ## The constructor -/

/-- What the constructor is called with. -/
structure EnvelopeArguments where
  kind : ProtectedObjectKind
  direction : ProtectedEnvelopeDirection
  bindingId : Int64
  correlationKind : ProtectedCorrelationKind
  correlationHash : ByteString
  iv : ByteString
  ciphertext : ByteString
  tag : ByteString

/-- `ivDomain`: the `head` of an empty byte string throws. -/
def ivDomain (iv : Bytes) : Raises ℕ :=
  match iv with
  | [] => .error .noSuchElement
  | x :: _ => .ok ((x &&& 0x80) >>> 7).toNat

/-- What the constructor requires, in its order. -/
def EnvelopeArguments.construct (e : EnvelopeArguments) : Raises EnvelopeArguments := do
  requireThat (0 < e.bindingId) "protected envelope binding id must be positive".toList
  requireThat (e.correlationHash.length = 32) "correlation hash must be 32 bytes".toList
  requireThat (e.iv.length = 12) "AES-GCM IV must be 12 bytes".toList
  requireThat (e.tag.length = 16) "AES-GCM tag must be 16 bytes".toList
  requireThat (e.ciphertext.length ≤ Int32.maxValue)
    "protected envelope ciphertext is too large".toList
  let domain ← ivDomain e.iv.1
  requireThat (domain = e.direction.ivDomain)
    "AES-GCM IV direction domain does not match".toList
  pure e

/-- The constructor lets the arguments through. -/
def EnvelopeArguments.Constructible (e : EnvelopeArguments) : Prop := e.construct = .ok e

/-! ## The codec -/

/-- `header` -/
def EnvelopeArguments.header (e : EnvelopeArguments) : Raises Bytes :=
  filled headerSize ([version] ++ [e.kind.id] ++ [e.direction.id] ++ [e.correlationKind.id] ++
    putLong e.bindingId ++ e.correlationHash.1 ++ e.iv.1 ++ putInt e.ciphertext.length)

/-- `bytes` -/
def EnvelopeArguments.bytes (e : EnvelopeArguments) : Raises Bytes := do
  let header ← e.header
  pure (header ++ e.ciphertext.1 ++ e.tag.1)

/-- What is read from the buffer. -/
structure HeaderFields where
  version : UInt8
  kindId : UInt8
  directionId : UInt8
  correlationKindId : UInt8
  bindingId : Int64
  correlationHash : Bytes
  iv : Bytes
  payloadLength : Int32

/-- The reads of `decode`. -/
def readHeader : BufferReader HeaderFields := do
  let version ← BufferReader.getByte
  let kindId ← BufferReader.getByte
  let directionId ← BufferReader.getByte
  let correlationKindId ← BufferReader.getByte
  let bindingId ← BufferReader.getLong
  let correlationHash ← BufferReader.getBytes 32
  let iv ← BufferReader.getBytes 12
  let payloadLength ← BufferReader.getInt
  pure ⟨version, kindId, directionId, correlationKindId, bindingId, correlationHash, iv,
    payloadLength⟩

theorem length_sliceOf_lt (b : ByteString) (start stop : Int32) :
    ((b.1.take stop.toInt.toNat).drop start.toInt.toNat).length < 2 ^ 31 :=
  lt_of_le_of_lt ((List.drop_sublist _ _).trans (List.take_sublist _ _)).length_le b.2

theorem length_takeRight_lt (b : ByteString) (n : ℕ) :
    (b.1.drop (b.1.length - n)).length < 2 ^ 31 :=
  lt_of_le_of_lt (List.drop_sublist _ _).length_le b.2

theorem length_fromArray_lt (b : Bytes) : (b.take 2147483647).length < 2 ^ 31 :=
  lt_of_le_of_lt (List.length_take_le _ b) (by decide)

/-- `slice(from, until)` -/
def sliceOf (b : ByteString) (start stop : Int32) : ByteString :=
  ⟨(b.1.take stop.toInt.toNat).drop start.toInt.toNat, length_sliceOf_lt b start stop⟩

/-- `takeRight(n)` -/
def takeRight (b : ByteString) (n : ℕ) : ByteString :=
  ⟨b.1.drop (b.1.length - n), length_takeRight_lt b n⟩

/-- `ByteString.fromArray`; an array has no more bytes. -/
def fromArray (b : Bytes) : ByteString := ⟨b.take 2147483647, length_fromArray_lt b⟩

/-- The checks of `decode`, up to the constructor. -/
def checkHeader (b : ByteString) (header : HeaderFields) : Either EnvelopeArguments := do
  Either.cond (header.version = version)
    ("unsupported protected envelope version ".toList ++ unsignedText header.version)
  let kind ← Either.ofAnswer (ProtectedObjectKind.fromId header.kindId)
  let direction ← Either.ofAnswer (ProtectedEnvelopeDirection.fromId header.directionId)
  let correlationKind ← Either.ofAnswer (ProtectedCorrelationKind.fromId header.correlationKindId)
  Either.cond (0 < header.bindingId) "protected envelope binding id must be positive".toList
  Either.cond (0 ≤ header.payloadLength) "protected envelope payload length is negative".toList
  Either.cond (b.length = 60 + header.payloadLength + 16)
    ("protected envelope length ".toList ++ Nat.toDigits 10 b.1.length ++
      " does not match payload length ".toList ++
      Nat.toDigits 10 header.payloadLength.toInt.toNat)
  let domain ← Either.ofRaises (ivDomain header.iv)
  Either.cond (domain = direction.ivDomain)
    ("protected envelope IV domain does not match direction ".toList ++
      unsignedText direction.id)
  pure {
    kind := kind
    direction := direction
    bindingId := header.bindingId
    correlationKind := correlationKind
    correlationHash := fromArray header.correlationHash
    iv := fromArray header.iv
    ciphertext := sliceOf b 60 (60 + header.payloadLength)
    tag := takeRight b tagSize }

/-- `decode`, up to the constructor. -/
def decodeArguments (b : ByteString) : Either EnvelopeArguments :=
  if b.length < 76 then
    Either.ofAnswer (.error ("protected envelope is too short: ".toList ++
      Nat.toDigits 10 b.1.length ++ " bytes".toList))
  else do
    let header ← Either.ofRaises (readHeader.run' b.1)
    checkHeader b header

/-- `decode` -/
def decode (b : ByteString) : Raises (Except Text EnvelopeArguments) :=
  (do
    let arguments ← decodeArguments b
    Either.ofRaises arguments.construct : Either EnvelopeArguments).run

/-! ## What the constructor lets through -/

variable {e : EnvelopeArguments} {b : ByteString}

/-- The requirements, as facts about the bytes. -/
structure EnvelopeArguments.Required (e : EnvelopeArguments) : Prop where
  bindingId_pos : 0 < e.bindingId
  length_correlationHash : e.correlationHash.1.length = 32
  length_iv : e.iv.1.length = 12
  length_tag : e.tag.1.length = 16
  ivDomain_eq : ivDomain e.iv.1 = .ok e.direction.ivDomain

theorem construct_eq_ok_iff {e' : EnvelopeArguments} :
    e.construct = .ok e' ↔ e.Required ∧ e = e' := by
  unfold EnvelopeArguments.construct requireThat
  simp only [bind_eq_ok_iff, check_eq_ok_iff]
  have hhash := ByteString.length_eq_ofNat_iff e.correlationHash (show 32 < 2 ^ 31 by decide)
  have hiv := ByteString.length_eq_ofNat_iff e.iv (show 12 < 2 ^ 31 by decide)
  have htag := ByteString.length_eq_ofNat_iff e.tag (show 16 < 2 ^ 31 by decide)
  constructor
  · rintro ⟨_, hpos, _, h32, _, h12, _, h16, _, -, domain, hdomain, _, rfl, he⟩
    exact ⟨⟨hpos, hhash.mp h32, hiv.mp h12, htag.mp h16, hdomain⟩, Except.ok.inj he⟩
  · rintro ⟨h, rfl⟩
    exact ⟨(), h.bindingId_pos, (), hhash.mpr h.length_correlationHash, (), hiv.mpr h.length_iv,
      (), htag.mpr h.length_tag, (), Int32.le_maxValue _, _, h.ivDomain_eq, (), rfl, rfl⟩

theorem constructible_iff : e.Constructible ↔ e.Required := by
  unfold EnvelopeArguments.Constructible
  rw [construct_eq_ok_iff]
  exact and_iff_left rfl

/-- The highest bit, found by a mask or by a division. -/
theorem domainBit_eq (x : UInt8) : ((x &&& 0x80) >>> 7).toNat = x.toNat / 128 := by
  have hx := x.toNat_lt
  rw [UInt8.toNat_shiftRight, UInt8.toNat_and]
  show (x.toNat &&& 128) >>> 7 = _
  rw [Nat.shiftRight_and_distrib]
  show x.toNat >>> 7 &&& 1 = _
  rw [Nat.and_one_is_mod, Nat.shiftRight_eq_div_pow]
  omega

theorem ivDomain_block (iv : Block 12) : ivDomain iv.toList = .ok (OpenWhisk.ivDomain iv) := by
  obtain ⟨x, rest, rfl⟩ : ∃ x rest, iv = x ::ᵥ rest := ⟨iv.head, iv.tail, (iv.cons_head_tail).symm⟩
  rw [List.Vector.toList_cons]
  show Except.ok _ = _
  rw [domainBit_eq, OpenWhisk.ivDomain, List.Vector.head_cons]

/-! ## Envelopes as arguments -/

theorem val_fromArray {b : Bytes} (h : b.length < 2 ^ 31) : (fromArray b).1 = b :=
  List.take_of_length_le (by omega)

/-- The arguments of an envelope. -/
def ofEnvelope (e : ProtectedEnvelopeV1) : EnvelopeArguments where
  kind := e.1.kind
  direction := e.1.direction
  bindingId := e.1.bindingId
  correlationKind := e.1.correlationKind
  correlationHash := fromArray e.1.correlationHash.toList
  iv := fromArray e.1.iv.toList
  ciphertext := fromArray e.1.ciphertext
  tag := fromArray e.1.tag.toList

theorem val_fromArray_block {n : ℕ} (hn : n < 2 ^ 31) (block : Block n) :
    (fromArray block.toList).1 = block.toList :=
  val_fromArray (block.toList_length.trans_lt hn)

theorem val_ciphertext (e : ProtectedEnvelopeV1) :
    (ofEnvelope e).ciphertext.1 = e.1.ciphertext := by
  have hlength := e.2.length_ciphertext
  unfold intMaxValue at hlength
  exact val_fromArray (by omega)

theorem required_ofEnvelope (e : ProtectedEnvelopeV1) : (ofEnvelope e).Required := by
  have hhash := val_fromArray_block (show 32 < 2 ^ 31 by decide) e.1.correlationHash
  have hiv := val_fromArray_block (show 12 < 2 ^ 31 by decide) e.1.iv
  have htag := val_fromArray_block (show 16 < 2 ^ 31 by decide) e.1.tag
  refine ⟨e.2.bindingId_pos, ?_, ?_, ?_, ?_⟩
  · exact (congrArg List.length hhash).trans e.1.correlationHash.toList_length
  · exact (congrArg List.length hiv).trans e.1.iv.toList_length
  · exact (congrArg List.length htag).trans e.1.tag.toList_length
  · show ivDomain (fromArray e.1.iv.toList).1 = _
    rw [hiv, ivDomain_block, e.2.ivDomain_eq]
    rfl

/-- The bytes of the arguments are those of the envelope. -/
theorem bytes_ofEnvelope (e : ProtectedEnvelopeV1) : (ofEnvelope e).bytes = .ok e.bytes := by
  have hhash := val_fromArray_block (show 32 < 2 ^ 31 by decide) e.1.correlationHash
  have hiv := val_fromArray_block (show 12 < 2 ^ 31 by decide) e.1.iv
  have htag := val_fromArray_block (show 16 < 2 ^ 31 by decide) e.1.tag
  have hheader : (ofEnvelope e).header = .ok (ProtectedEnvelopeV1.header e.1) := by
    unfold EnvelopeArguments.header
    rw [filled_of_length]
    · show Except.ok _ = Except.ok _
      unfold ProtectedEnvelopeV1.header ByteString.length
      rw [val_ciphertext]
      simp only [ofEnvelope, hhash, hiv, List.append_assoc]
    · simp only [ofEnvelope, hhash, hiv, List.length_append, List.length_cons, List.length_nil,
        length_putLong, length_putInt, List.Vector.toList_length, headerSize]
  unfold EnvelopeArguments.bytes
  rw [hheader]
  show Except.ok _ = Except.ok _
  rw [val_ciphertext]
  simp only [ofEnvelope, htag, ProtectedEnvelopeV1.bytes]

/-- **Constructible arguments** whose bytes fit an array are those of an envelope. -/
theorem exists_ofEnvelope (h : e.Required) (hlength : e.ciphertext.1.length ≤ 2 ^ 31 - 77) :
    ∃ envelope, ofEnvelope envelope = e := by
  have hiv : (Block.ofBytes 12 e.iv.1).toList = e.iv.1 := Block.toList_ofBytes h.length_iv
  have hdomain : OpenWhisk.ivDomain (Block.ofBytes 12 e.iv.1) = e.direction.ivDomain := by
    have hok := h.ivDomain_eq
    rw [← hiv, ivDomain_block, Except.ok.injEq] at hok
    exact hok
  have hwell : EnvelopeFields.WellFormed ⟨e.kind, e.direction, e.bindingId, e.correlationKind,
      Block.ofBytes 32 e.correlationHash.1, Block.ofBytes 12 e.iv.1, e.ciphertext.1,
      Block.ofBytes 16 e.tag.1⟩ := by
    refine ⟨h.bindingId_pos, ?_, hdomain⟩
    show 60 + e.ciphertext.1.length + 16 ≤ intMaxValue
    unfold intMaxValue
    omega
  have hval : ∀ s : ByteString, fromArray s.1 = s := fun s => Subtype.ext (val_fromArray s.2)
  refine ⟨⟨_, hwell⟩, ?_⟩
  show EnvelopeArguments.mk _ _ _ _ (fromArray (Block.ofBytes 32 e.correlationHash.1).toList)
    (fromArray (Block.ofBytes 12 e.iv.1).toList) (fromArray e.ciphertext.1)
    (fromArray (Block.ofBytes 16 e.tag.1).toList) = e
  rw [Block.toList_ofBytes h.length_correlationHash, hiv, Block.toList_ofBytes h.length_tag,
    hval, hval, hval, hval]

/-! ## Decoding -/

/-- Every read is inside the buffer. -/
theorem readHeader_eq {b : Bytes} (h : headerSize ≤ b.length) :
    readHeader.run' b = .ok ⟨byteAt 0 b, byteAt 1 b, byteAt 2 b, byteAt 3 b,
      getLong (slice 4 8 b), slice 12 32 b, slice 44 12 b, getInt (slice 56 4 b)⟩ := by
  unfold headerSize at h
  have hrun : readHeader.run (b.drop 0) = .ok (⟨byteAt 0 b, byteAt 1 b, byteAt 2 b, byteAt 3 b,
      getLong (slice 4 8 b), slice 12 32 b, slice 44 12 b, getInt (slice 56 4 b)⟩,
      b.drop 60) := by
    unfold readHeader
    rw [BufferReader.getByte_drop (by omega), BufferReader.getByte_drop (by omega),
      BufferReader.getByte_drop (by omega), BufferReader.getByte_drop (by omega),
      BufferReader.getLong_drop (by omega), BufferReader.getBytes_drop (by omega),
      BufferReader.getBytes_drop (by omega), BufferReader.getInt_drop (by omega)]
    rfl
  rw [StateT.run', ← List.drop_zero (l := b)]
  show Prod.fst <$> readHeader.run (b.drop 0) = _
  rw [hrun]
  rfl

/-- The length that `decode` asks for. -/
theorem length_eq_iff {payload : Int32} (h : 0 ≤ payload) :
    b.length = 60 + payload + 16 ↔
      (b.1.length : Int) = headerSize + payload.toInt + tagSize := by
  have hpayload : 0 ≤ payload.toInt := Int32.le_iff_toInt_le.mp h
  rw [show (60 : Int32) + payload + 16 = payload + 76 by rw [Int32.add_comm 60, Int32.add_assoc]; rfl,
    length_eq_add_iff b hpayload (by decide), show (76 : Int32).toInt = 76 from rfl]
  unfold headerSize tagSize
  omega

/-- The arguments that `checkHeader` ends with are those of an envelope. -/
theorem arguments_eq {kind : ProtectedObjectKind} {direction : ProtectedEnvelopeDirection}
    {correlationKind : ProtectedCorrelationKind} {payload : Int32} (hpayload : 0 ≤ payload)
    (hlength : b.length = 60 + payload + 16)
    (hwell : (fieldsOf b.1 kind direction correlationKind payload.toInt.toNat).WellFormed) :
    ofEnvelope ⟨_, hwell⟩ = {
      kind := kind
      direction := direction
      bindingId := getLong (slice 4 8 b.1)
      correlationKind := correlationKind
      correlationHash := fromArray (slice 12 32 b.1)
      iv := fromArray (slice 44 12 b.1)
      ciphertext := sliceOf b 60 (60 + payload)
      tag := takeRight b tagSize } := by
  have hnat := (length_eq_iff hpayload).mp hlength
  have hb := b.2
  have hp : 0 ≤ payload.toInt := Int32.le_iff_toInt_le.mp hpayload
  unfold headerSize tagSize at hnat
  have hhash : (Block.ofBytes 32 (slice 12 32 b.1)).toList = slice 12 32 b.1 :=
    Block.toList_ofBytes (length_slice (by omega))
  have hiv : (Block.ofBytes 12 (slice 44 12 b.1)).toList = slice 44 12 b.1 :=
    Block.toList_ofBytes (length_slice (by omega))
  have htag : (Block.ofBytes 16 (b.1.drop (b.1.length - tagSize))).toList =
      b.1.drop (b.1.length - tagSize) := by
    refine Block.toList_ofBytes ?_
    rw [List.length_drop]
    unfold tagSize
    omega
  have hsum : (60 + payload).toInt = 60 + payload.toInt :=
    toInt_add_of_lt (by decide) hp (show (60 : ℤ) + _ < _ by omega)
  have hciphertext : fromArray (slice headerSize payload.toInt.toNat b.1) =
      sliceOf b 60 (60 + payload) := by
    have hshort : (slice headerSize payload.toInt.toNat b.1).length < 2 ^ 31 := by
      rw [length_slice (by unfold headerSize; omega)]
      omega
    refine Subtype.ext ((val_fromArray hshort).trans ?_)
    show _ = (b.1.take (60 + payload).toInt.toNat).drop 60
    rw [hsum, slice, List.take_drop]
    congr 2
    unfold headerSize
    omega
  have hright : fromArray (b.1.drop (b.1.length - tagSize)) = takeRight b tagSize :=
    Subtype.ext (val_fromArray (length_takeRight_lt b tagSize))
  show EnvelopeArguments.mk _ _ _ _ (fromArray (Block.ofBytes 32 (slice 12 32 b.1)).toList)
    (fromArray (Block.ofBytes 12 (slice 44 12 b.1)).toList)
    (fromArray (slice headerSize payload.toInt.toNat b.1))
    (fromArray (Block.ofBytes 16 (b.1.drop (b.1.length - tagSize))).toList) = _
  rw [hhash, hiv, htag, hciphertext, hright]
  rfl

/-- **On byte strings** `decode` is the decoder of envelopes: it throws nothing, and no sum
wraps. -/
theorem decode_eq (b : ByteString) :
    decode b = .ok ((ProtectedEnvelopeV1.decode b.1).map ofEnvelope) := by
  unfold decode decodeArguments ProtectedEnvelopeV1.decode
  have hshort : b.length < 76 ↔ b.1.length < 76 :=
    b.length_lt_ofNat_iff (show 76 < 2 ^ 31 by decide)
  by_cases h : b.1.length < minimumSize
  · rw [if_pos h, if_pos (hshort.mpr h)]
    rfl
  rw [if_neg h, if_neg (fun hlt => h (hshort.mp hlt)), bind_assoc,
    Either.ofRaises_ok_bind (readHeader_eq (by unfold minimumSize tagSize at h; omega))]
  unfold checkHeader
  simp only [bind_assoc]
  refine Either.cond_bind_run Iff.rfl fun _ => ?_
  refine Either.ofAnswer_bind_run fun kind _ => ?_
  refine Either.ofAnswer_bind_run fun direction _ => ?_
  refine Either.ofAnswer_bind_run fun correlationKind _ => ?_
  refine Either.cond_bind_run Iff.rfl fun hpos => ?_
  refine Either.cond_bind_run Int32.le_iff_toInt_le fun hpayload => ?_
  refine Either.cond_bind_run (length_eq_iff hpayload) fun hlength => ?_
  have hnat := (length_eq_iff hpayload).mp hlength
  have hb := b.2
  have hp : 0 ≤ (getInt (slice 56 4 b.1)).toInt := Int32.le_iff_toInt_le.mp hpayload
  unfold headerSize tagSize at hnat
  have hiv : slice 44 12 b.1 = (Block.ofBytes 12 (slice 44 12 b.1)).toList :=
    (Block.toList_ofBytes (length_slice (by omega))).symm
  rw [Either.ofRaises_ok_bind (by
    show ivDomain (slice 44 12 b.1) = _
    rw [hiv]
    exact ivDomain_block _)]
  refine Either.cond_bind_run Iff.rfl fun hdomain => ?_
  have hwell : (fieldsOf b.1 kind direction correlationKind
      (getInt (slice 56 4 b.1)).toInt.toNat).WellFormed := by
    refine ⟨hpos, ?_, hdomain⟩
    show 60 + (slice headerSize _ b.1).length + 16 ≤ intMaxValue
    rw [length_slice (by unfold headerSize; omega)]
    unfold intMaxValue
    omega
  have hconstruct := construct_eq_ok_iff.mpr ⟨required_ofEnvelope ⟨_, hwell⟩, rfl⟩
  rw [arguments_eq hpayload hlength hwell] at hconstruct
  have hideal : ProtectedEnvelopeV1.construct (fieldsOf b.1 kind direction correlationKind
      (getInt (slice 56 4 b.1)).toInt.toNat) = .ok ⟨_, hwell⟩ := dif_pos hwell
  rw [hideal]
  show _ = Except.ok (Except.ok (ofEnvelope ⟨_, hwell⟩))
  rw [arguments_eq hpayload hlength hwell, pure_bind]
  show (Either.ofRaises _).run = _
  rw [hconstruct]
  rfl

/-! ## Exactness -/

/-- The codec of envelopes on the JVM is exact. -/
structure CodecExact : Prop where
  /-- what is constructible and fits is decoded from its bytes -/
  decode_bytes : ∀ e : EnvelopeArguments, e.Constructible →
    e.ciphertext.1.length ≤ 2 ^ 31 - 77 →
    ∃ b : ByteString, e.bytes = .ok b.1 ∧ decode b = .ok (.ok e)
  /-- what is decoded is constructible, and was its bytes -/
  bytes_of_decode : ∀ (b : ByteString) (e : EnvelopeArguments), decode b = .ok (.ok e) →
    e.Constructible ∧ e.bytes = .ok b.1
  /-- nothing is thrown: the answer is `Right` or `Left` -/
  decode_answers : ∀ b : ByteString, ∃ answer, decode b = .ok answer
  /-- the sum of lengths is that of the byte string only when it does not wrap -/
  length_eq : ∀ (b : ByteString) (payload : Int32), 0 ≤ payload →
    (b.length = 60 + payload + 16 ↔ (b.1.length : Int) = 60 + payload.toInt + 16)
  /-- the constructor is called with what it requires -/
  required_of_reached : ∀ (b : ByteString) (e : EnvelopeArguments),
    (decodeArguments b).run = .ok (.ok e) → e.Constructible

/-- What reaches the constructor has no other way than through it. -/
theorem decode_of_reached (h : (decodeArguments b).run = .ok (.ok e)) :
    decode b = e.construct.map .ok := by
  show ((decodeArguments b).run >>= _) = _
  rw [h]
  show (Either.ofRaises e.construct).run = _
  cases e.construct <;> rfl

/-- **The codec** of envelopes: a constructible envelope whose bytes fit an array is decoded from
them, nothing else is decoded, and nothing is thrown. -/
theorem codecExact : CodecExact := by
  have hdecoded : ∀ (b : ByteString) (e : EnvelopeArguments), decode b = .ok (.ok e) →
      ∃ envelope, envelope.bytes = b.1 ∧ ofEnvelope envelope = e := by
    intro b e h
    rw [decode_eq, Except.ok.injEq] at h
    cases hideal : ProtectedEnvelopeV1.decode b.1 with
    | error message =>
      rw [hideal] at h
      cases h
    | ok envelope =>
      rw [hideal] at h
      exact ⟨envelope, ProtectedEnvelopeV1.decode_eq_ok_iff.mp hideal, Except.ok.inj h⟩
  have hconstructible : ∀ envelope, (ofEnvelope envelope).Constructible :=
    fun envelope => constructible_iff.mpr (required_ofEnvelope envelope)
  refine ⟨?_, ?_, fun b => ⟨_, decode_eq b⟩, fun b payload h => length_eq_iff h, ?_⟩
  · intro e he hlength
    obtain ⟨envelope, rfl⟩ := exists_ofEnvelope (constructible_iff.mp he) hlength
    have hfits := ProtectedEnvelopeV1.length_bytes_le envelope
    unfold intMaxValue at hfits
    refine ⟨⟨envelope.bytes, by omega⟩, bytes_ofEnvelope envelope, ?_⟩
    rw [decode_eq, ProtectedEnvelopeV1.decode_bytes]
    rfl
  · intro b e h
    obtain ⟨envelope, hbytes, rfl⟩ := hdecoded b e h
    exact ⟨hconstructible envelope, hbytes ▸ bytes_ofEnvelope envelope⟩
  · intro b e h
    have hdecode := decode_of_reached h
    obtain ⟨answer, hanswer⟩ : ∃ answer, decode b = .ok answer := ⟨_, decode_eq b⟩
    rw [hanswer] at hdecode
    cases hconstruct : e.construct with
    | error thrown =>
      rw [hconstruct] at hdecode
      cases hdecode
    | ok e' =>
      obtain ⟨hrequired, -⟩ := construct_eq_ok_iff.mp hconstruct
      exact constructible_iff.mpr hrequired

end EnvelopeCodec
end OpenWhisk
end AsynCS
