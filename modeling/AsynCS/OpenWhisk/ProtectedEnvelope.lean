import AsynCS.Lib.ByteBuffer
import AsynCS.Lib.Json

/-!
# Protected envelopes

A `ProtectedEnvelopeV1` carries code, an input or a result between the source, the Gateway and a
target: a header of fixed layout, the ciphertext, and the tag.

* `ProtectedObjectKind`, `ProtectedEnvelopeDirection`, `ProtectedCorrelationKind`: the
  enumerations with their bytes.
* `ProtectedEnvelopeV1`: an envelope that its constructor lets through.
* `ProtectedEnvelopeV1.bytes`, `ProtectedEnvelopeV1.decode`: the codec.
* `decode_eq_ok_iff`: it accepts the bytes of the envelopes, and nothing else.
-/

namespace AsynCS
namespace OpenWhisk

/-- `value & 0xff` in a message. -/
def unsignedText (value : UInt8) : Text := Nat.toDigits 10 value.toNat

/-! ## The enumerations -/

/-- What an envelope carries. -/
inductive ProtectedObjectKind where
  | code
  | input
  | result
  deriving DecidableEq

namespace ProtectedObjectKind

def id : ProtectedObjectKind → UInt8
  | code => 1
  | input => 2
  | result => 3

def fromId (id : UInt8) : Except Text ProtectedObjectKind :=
  if id = code.id then .ok code
  else if id = input.id then .ok input
  else if id = result.id then .ok result
  else .error ("unsupported protected object kind ".toList ++ unsignedText id)

@[simp] theorem fromId_eq_ok_iff {i : UInt8} {kind : ProtectedObjectKind} :
    fromId i = .ok kind ↔ i = kind.id := by
  unfold fromId
  constructor
  · intro h
    split_ifs at h <;> cases h <;> assumption
  · rintro rfl
    cases kind <;> rfl

end ProtectedObjectKind

/-- Between whom an envelope travels. -/
inductive ProtectedEnvelopeDirection where
  | sourceToGateway
  | gatewayToTarget
  | targetToGateway
  | gatewayToSource
  deriving DecidableEq

namespace ProtectedEnvelopeDirection

def id : ProtectedEnvelopeDirection → UInt8
  | sourceToGateway => 1
  | gatewayToTarget => 2
  | targetToGateway => 3
  | gatewayToSource => 4

def ivDomain : ProtectedEnvelopeDirection → ℕ
  | sourceToGateway => 0
  | gatewayToTarget => 0
  | targetToGateway => 1
  | gatewayToSource => 1

def fromId (id : UInt8) : Except Text ProtectedEnvelopeDirection :=
  if id = sourceToGateway.id then .ok sourceToGateway
  else if id = gatewayToTarget.id then .ok gatewayToTarget
  else if id = targetToGateway.id then .ok targetToGateway
  else if id = gatewayToSource.id then .ok gatewayToSource
  else .error ("unsupported protected envelope direction ".toList ++ unsignedText id)

@[simp] theorem fromId_eq_ok_iff {i : UInt8} {direction : ProtectedEnvelopeDirection} :
    fromId i = .ok direction ↔ i = direction.id := by
  unfold fromId
  constructor
  · intro h
    split_ifs at h <;> cases h <;> assumption
  · rintro rfl
    cases direction <;> rfl

end ProtectedEnvelopeDirection

/-- What the correlation hash of an envelope is a hash of. -/
inductive ProtectedCorrelationKind where
  | codeObject
  | requestId
  deriving DecidableEq

namespace ProtectedCorrelationKind

def id : ProtectedCorrelationKind → UInt8
  | codeObject => 1
  | requestId => 2

def fromId (id : UInt8) : Except Text ProtectedCorrelationKind :=
  if id = codeObject.id then .ok codeObject
  else if id = requestId.id then .ok requestId
  else .error ("unsupported protected correlation kind ".toList ++ unsignedText id)

@[simp] theorem fromId_eq_ok_iff {i : UInt8} {kind : ProtectedCorrelationKind} :
    fromId i = .ok kind ↔ i = kind.id := by
  unfold fromId
  constructor
  · intro h
    split_ifs at h <;> cases h <;> assumption
  · rintro rfl
    cases kind <;> rfl

end ProtectedCorrelationKind

/-! ## Envelopes -/

/-- `Int.MaxValue` -/
def intMaxValue : ℕ := 2147483647

/-- The fields of an envelope. -/
structure EnvelopeFields where
  kind : ProtectedObjectKind
  direction : ProtectedEnvelopeDirection
  bindingId : Int64
  correlationKind : ProtectedCorrelationKind
  correlationHash : Block 32
  iv : Block 12
  ciphertext : Bytes
  tag : Block 16
  deriving DecidableEq

/-- The highest bit of the IV. -/
def ivDomain (iv : Block 12) : ℕ := iv.head.toNat / 128

/-- What the constructor requires.  Its bound on the ciphertext is that of every array; here the
bytes of the envelope fit an array too. -/
structure EnvelopeFields.WellFormed (e : EnvelopeFields) : Prop where
  bindingId_pos : 0 < e.bindingId
  length_ciphertext : 60 + e.ciphertext.length + 16 ≤ intMaxValue
  ivDomain_eq : ivDomain e.iv = e.direction.ivDomain

theorem EnvelopeFields.wellFormed_iff (e : EnvelopeFields) :
    e.WellFormed ↔ 0 < e.bindingId ∧ 60 + e.ciphertext.length + 16 ≤ intMaxValue ∧
      ivDomain e.iv = e.direction.ivDomain :=
  ⟨fun h => ⟨h.1, h.2, h.3⟩, fun h => ⟨h.1, h.2.1, h.2.2⟩⟩

instance (e : EnvelopeFields) : Decidable e.WellFormed :=
  decidable_of_iff' _ e.wellFormed_iff

/-- `ProtectedEnvelopeV1` -/
abbrev ProtectedEnvelopeV1 := {e : EnvelopeFields // e.WellFormed}

/-- The fields of an envelope without a payload. -/
def EnvelopeFields.empty (kind : ProtectedObjectKind) (direction : ProtectedEnvelopeDirection)
    (bindingId : Int64) (correlationKind : ProtectedCorrelationKind) : EnvelopeFields where
  kind := kind
  direction := direction
  bindingId := bindingId
  correlationKind := correlationKind
  correlationHash := Block.fill 32 0
  iv := Block.fill 12 (UInt8.ofNat (128 * direction.ivDomain))
  ciphertext := []
  tag := Block.fill 16 0

theorem EnvelopeFields.wellFormed_empty (kind : ProtectedObjectKind)
    (direction : ProtectedEnvelopeDirection) {bindingId : Int64} (h : 0 < bindingId)
    (correlationKind : ProtectedCorrelationKind) :
    (EnvelopeFields.empty kind direction bindingId correlationKind).WellFormed := by
  have hdomain : ∀ d : ProtectedEnvelopeDirection,
      ivDomain (Block.fill 12 (UInt8.ofNat (128 * d.ivDomain))) = d.ivDomain := by
    intro d
    cases d <;> decide
  exact ⟨h, show 60 + 0 + 16 ≤ intMaxValue by decide, hdomain direction⟩

namespace ProtectedEnvelopeV1

/-! ## The codec -/

def version : UInt8 := 1
def headerSize : ℕ := 60
def tagSize : ℕ := 16
def minimumSize : ℕ := headerSize + tagSize

/-- `header` -/
def header (e : EnvelopeFields) : Bytes :=
  [version] ++ ([e.kind.id] ++ ([e.direction.id] ++ ([e.correlationKind.id] ++
    (putLong e.bindingId ++ (e.correlationHash.toList ++ (e.iv.toList ++
      putInt (Int32.ofNat e.ciphertext.length)))))))

/-- `bytes` -/
def bytes (e : ProtectedEnvelopeV1) : Bytes :=
  header e.1 ++ e.1.ciphertext ++ e.1.tag.toList

/-- The byte at a position. -/
def byteAt (i : ℕ) (b : Bytes) : UInt8 := b.getD i 0

/-- The envelope of a payload of the given length, once its enumerations are read. -/
def fieldsOf (b : Bytes) (kind : ProtectedObjectKind) (direction : ProtectedEnvelopeDirection)
    (correlationKind : ProtectedCorrelationKind) (payloadLength : ℕ) : EnvelopeFields where
  kind := kind
  direction := direction
  bindingId := getLong (slice 4 8 b)
  correlationKind := correlationKind
  correlationHash := Block.ofBytes 32 (slice 12 32 b)
  iv := Block.ofBytes 12 (slice 44 12 b)
  ciphertext := slice headerSize payloadLength b
  tag := Block.ofBytes 16 (b.drop (b.length - tagSize))

/-- The constructor, which raises what its requirements do not let through. -/
def construct (e : EnvelopeFields) : Except Text ProtectedEnvelopeV1 :=
  if h : e.WellFormed then .ok ⟨e, h⟩ else .error "requirement failed".toList

/-- `decode` -/
def decode (b : Bytes) : Except Text ProtectedEnvelopeV1 :=
  if b.length < minimumSize then
    .error ("protected envelope is too short: ".toList ++ Nat.toDigits 10 b.length ++
      " bytes".toList)
  else do
    let payloadLength := (getInt (slice 56 4 b)).toInt
    check (byteAt 0 b = version)
      ("unsupported protected envelope version ".toList ++ unsignedText (byteAt 0 b))
    let kind ← ProtectedObjectKind.fromId (byteAt 1 b)
    let direction ← ProtectedEnvelopeDirection.fromId (byteAt 2 b)
    let correlationKind ← ProtectedCorrelationKind.fromId (byteAt 3 b)
    check (0 < getLong (slice 4 8 b)) "protected envelope binding id must be positive".toList
    check (0 ≤ payloadLength) "protected envelope payload length is negative".toList
    check ((b.length : Int) = headerSize + payloadLength + tagSize)
      ("protected envelope length ".toList ++ Nat.toDigits 10 b.length ++
        " does not match payload length ".toList ++ Nat.toDigits 10 payloadLength.toNat)
    check (ivDomain (Block.ofBytes 12 (slice 44 12 b)) = direction.ivDomain)
      ("protected envelope IV domain does not match direction ".toList ++
        unsignedText direction.id)
    construct (fieldsOf b kind direction correlationKind payloadLength.toNat)

theorem construct_eq_ok_iff {e : EnvelopeFields} {e' : ProtectedEnvelopeV1} :
    construct e = .ok e' ↔ e'.1 = e := by
  unfold construct
  constructor
  · intro h
    split at h
    · cases h
      rfl
    · cases h
  · rintro rfl
    exact dif_pos e'.2

/-- What `decode` checks. -/
structure Decodes (b : Bytes) (e : ProtectedEnvelopeV1) : Prop where
  length_eq : b.length = headerSize + e.1.ciphertext.length + tagSize
  version_eq : byteAt 0 b = version
  kind_eq : byteAt 1 b = e.1.kind.id
  direction_eq : byteAt 2 b = e.1.direction.id
  correlationKind_eq : byteAt 3 b = e.1.correlationKind.id
  payload_eq : (getInt (slice 56 4 b)).toInt = e.1.ciphertext.length
  fields_eq : e.1 = fieldsOf b e.1.kind e.1.direction e.1.correlationKind e.1.ciphertext.length

/-- An envelope is decoded when the checks hold of it. -/
theorem decode_eq_ok_iff_decodes {b : Bytes} {e : ProtectedEnvelopeV1} :
    decode b = .ok e ↔ Decodes b e := by
  have hsize : ∀ n, b.length = headerSize + n + tagSize → ¬ b.length < minimumSize := by
    intro n hn
    unfold minimumSize
    omega
  constructor
  · intro h
    unfold decode at h
    split at h
    · cases h
    simp only [bind_eq_ok_iff, check_eq_ok_iff, ProtectedObjectKind.fromId_eq_ok_iff,
      ProtectedEnvelopeDirection.fromId_eq_ok_iff, ProtectedCorrelationKind.fromId_eq_ok_iff,
      construct_eq_ok_iff] at h
    obtain ⟨-, hversion, kind, hkind, direction, hdirection, correlationKind, hcorrelationKind,
      -, -, -, hpayload, -, hlength, -, -, hfields⟩ := h
    set payloadLength := (getInt (slice 56 4 b)).toInt.toNat with hdef
    have hint : (getInt (slice 56 4 b)).toInt = payloadLength := by omega
    have hlen : b.length = headerSize + payloadLength + tagSize := by omega
    have hciphertext : e.1.ciphertext.length = payloadLength := by
      rw [hfields]
      exact length_slice (by omega)
    have hkind' : e.1.kind = kind := by rw [hfields]; rfl
    have hdirection' : e.1.direction = direction := by rw [hfields]; rfl
    have hcorrelationKind' : e.1.correlationKind = correlationKind := by rw [hfields]; rfl
    refine ⟨?_, hversion, ?_, ?_, ?_, ?_, ?_⟩
    · rw [hciphertext]
      exact hlen
    · rw [hkind', hkind]
    · rw [hdirection', hdirection]
    · rw [hcorrelationKind', hcorrelationKind]
    · rw [hciphertext]
      exact hint
    · rw [hciphertext, hkind', hdirection', hcorrelationKind']
      exact hfields
  · intro h
    have hbinding : getLong (slice 4 8 b) = e.1.bindingId := by rw [h.fields_eq]; rfl
    have hiv : Block.ofBytes 12 (slice 44 12 b) = e.1.iv := by rw [h.fields_eq]; rfl
    have hlength := h.length_eq
    unfold decode
    rw [if_neg (hsize _ h.length_eq)]
    simp only [bind_eq_ok_iff, check_eq_ok_iff, ProtectedObjectKind.fromId_eq_ok_iff,
      ProtectedEnvelopeDirection.fromId_eq_ok_iff, ProtectedCorrelationKind.fromId_eq_ok_iff,
      construct_eq_ok_iff, h.payload_eq, hbinding, hiv]
    exact ⟨(), h.version_eq, _, h.kind_eq, _, h.direction_eq, _, h.correlationKind_eq,
      (), e.2.bindingId_pos, (), Int.natCast_nonneg _, (), by omega, (), e.2.ivDomain_eq,
      h.fields_eq⟩

/-- The bytes of an envelope, field by field. -/
theorem bytes_eq (e : ProtectedEnvelopeV1) :
    e.bytes = [version] ++ ([e.1.kind.id] ++ ([e.1.direction.id] ++ ([e.1.correlationKind.id] ++
      (putLong e.1.bindingId ++ (e.1.correlationHash.toList ++ (e.1.iv.toList ++
        (putInt (Int32.ofNat e.1.ciphertext.length) ++
          (e.1.ciphertext ++ e.1.tag.toList)))))))) := by
  simp only [bytes, header, List.append_assoc]

@[simp] theorem length_bytes (e : ProtectedEnvelopeV1) :
    e.bytes.length = headerSize + e.1.ciphertext.length + tagSize := by
  simp only [bytes_eq, List.length_append, List.length_cons, List.length_nil, length_putLong,
    length_putInt, List.Vector.toList_length, headerSize, tagSize]
  omega

theorem length_bytes_le (e : ProtectedEnvelopeV1) : e.bytes.length ≤ intMaxValue := by
  rw [length_bytes]
  exact e.2.length_ciphertext

theorem slice_one {i : ℕ} {b : Bytes} (h : i < b.length) : slice i 1 b = [byteAt i b] := by
  rw [slice, List.drop_eq_getElem_cons h, List.take_succ_cons, List.take_zero, byteAt,
    List.getD_eq_getElem _ _ h]

/-- The payload length fits an `int`. -/
theorem toInt_payloadLength (e : ProtectedEnvelopeV1) :
    (Int32.ofNat e.1.ciphertext.length).toInt = e.1.ciphertext.length := by
  have h := e.2.length_ciphertext
  unfold intMaxValue at h
  exact Int32.toInt_ofNat_of_lt (by omega)

/-- **Round trip**, one way: the bytes of an envelope pass the checks. -/
theorem decodes_bytes (e : ProtectedEnvelopeV1) : Decodes e.bytes e := by
  have hbinding : slice 4 8 e.bytes = putLong e.1.bindingId := by
    rw [bytes_eq]
    exact slice_append_left (length_putLong _) _
  have hhash : slice 12 32 e.bytes = e.1.correlationHash.toList := by
    rw [bytes_eq]
    show slice 8 32 (putLong e.1.bindingId ++ _) = _
    rw [slice_append_of_le (by rw [length_putLong]), length_putLong]
    exact slice_append_left e.1.correlationHash.toList_length _
  have hiv : slice 44 12 e.bytes = e.1.iv.toList := by
    rw [bytes_eq]
    show slice 40 12 (putLong e.1.bindingId ++ _) = _
    rw [slice_append_of_le (by rw [length_putLong]; omega), length_putLong,
      slice_append_of_le (by rw [List.Vector.toList_length]), List.Vector.toList_length]
    exact slice_append_left e.1.iv.toList_length _
  have hheader : (header e.1).length = headerSize := by
    simp only [header, List.length_append, List.length_cons, List.length_nil, length_putLong,
      length_putInt, List.Vector.toList_length, headerSize]
  have hpayload : slice 56 4 e.bytes = putInt (Int32.ofNat e.1.ciphertext.length) := by
    rw [bytes_eq]
    show slice 52 4 (putLong e.1.bindingId ++ _) = _
    rw [slice_append_of_le (by rw [length_putLong]; omega), length_putLong,
      slice_append_of_le (by rw [List.Vector.toList_length]; omega), List.Vector.toList_length,
      slice_append_of_le (by rw [List.Vector.toList_length]), List.Vector.toList_length]
    exact slice_append_left (length_putInt _) _
  have hciphertext : slice headerSize e.1.ciphertext.length e.bytes = e.1.ciphertext := by
    rw [bytes, List.append_assoc, slice_append_of_le hheader.le, hheader, Nat.sub_self]
    exact slice_append_left rfl _
  have htag : e.bytes.drop (e.bytes.length - tagSize) = e.1.tag.toList := by
    rw [length_bytes, Nat.add_sub_cancel, bytes]
    exact List.drop_left' (by rw [List.length_append, hheader])
  refine ⟨length_bytes e, rfl, rfl, rfl, rfl, ?_, ?_⟩
  · rw [hpayload, getInt_putInt, toInt_payloadLength]
  · unfold fieldsOf
    rw [hbinding, hhash, hiv, hciphertext, htag, getLong_putLong, Block.ofBytes_toList,
      Block.ofBytes_toList, Block.ofBytes_toList]

/-- **Round trip**, the other way: what passes the checks is the bytes of the envelope. -/
theorem bytes_of_decodes {b : Bytes} {e : ProtectedEnvelopeV1} (h : Decodes b e) :
    e.bytes = b := by
  have hlength := h.length_eq
  unfold headerSize tagSize at hlength
  set n := e.1.ciphertext.length with hn
  have hbinding : putLong e.1.bindingId = slice 4 8 b := by
    rw [h.fields_eq]
    exact putLong_getLong (length_slice (by omega))
  have hhash : e.1.correlationHash.toList = slice 12 32 b := by
    rw [h.fields_eq]
    exact Block.toList_ofBytes (length_slice (by omega))
  have hiv : e.1.iv.toList = slice 44 12 b := by
    rw [h.fields_eq]
    exact Block.toList_ofBytes (length_slice (by omega))
  have hpayload : putInt (Int32.ofNat e.1.ciphertext.length) = slice 56 4 b := by
    have hint : Int32.ofNat e.1.ciphertext.length = getInt (slice 56 4 b) :=
      Int32.toInt_inj.mp (by rw [toInt_payloadLength, h.payload_eq])
    rw [hint]
    exact putInt_getInt (length_slice (by omega))
  have hciphertext : e.1.ciphertext = slice 60 n b := by
    conv_lhs => rw [h.fields_eq]
    rfl
  have htag : e.1.tag.toList = slice (60 + n) 16 b := by
    have hdrop : b.length - tagSize = 60 + n := by
      unfold tagSize
      omega
    have hlen : (slice (60 + n) 16 b).length = 16 := length_slice (by omega)
    rw [h.fields_eq, ← Block.toList_ofBytes hlen, slice, ← hdrop, List.take_of_length_le]
    · rfl
    · rw [List.length_drop]
      unfold tagSize
      omega
  have hversion : [version] = slice 0 1 b := by rw [slice_one (by omega), h.version_eq]
  have hkind : [e.1.kind.id] = slice 1 1 b := by rw [slice_one (by omega), h.kind_eq]
  have hdirection : [e.1.direction.id] = slice 2 1 b := by
    rw [slice_one (by omega), h.direction_eq]
  have hcorrelationKind : [e.1.correlationKind.id] = slice 3 1 b := by
    rw [slice_one (by omega), h.correlationKind_eq]
  have hsize : 1 + (1 + (1 + (1 + (8 + (32 + (12 + (4 + (n + 16)))))))) = b.length := by omega
  rw [bytes_eq, hbinding, hhash, hiv, hpayload, htag, hversion, hkind, hdirection,
    hcorrelationKind, hciphertext, slice_append_slice (show 60 + n = 60 + n from rfl),
    slice_append_slice (show 56 + 4 = 60 from rfl),
    slice_append_slice (show 44 + 12 = 56 from rfl),
    slice_append_slice (show 12 + 32 = 44 from rfl),
    slice_append_slice (show 4 + 8 = 12 from rfl),
    slice_append_slice (show 3 + 1 = 4 from rfl),
    slice_append_slice (show 2 + 1 = 3 from rfl),
    slice_append_slice (show 1 + 1 = 2 from rfl),
    slice_append_slice (show 0 + 1 = 1 from rfl), hsize, slice_zero_length]

/-- **The codec** accepts the bytes of the envelopes, and nothing else. -/
theorem decode_eq_ok_iff {b : Bytes} {e : ProtectedEnvelopeV1} :
    decode b = .ok e ↔ e.bytes = b := by
  rw [decode_eq_ok_iff_decodes]
  exact ⟨bytes_of_decodes, fun h => h ▸ decodes_bytes e⟩

/-- An envelope is decoded from its bytes. -/
theorem decode_bytes (e : ProtectedEnvelopeV1) : decode e.bytes = .ok e :=
  decode_eq_ok_iff.mpr rfl

end ProtectedEnvelopeV1
end OpenWhisk
end AsynCS
