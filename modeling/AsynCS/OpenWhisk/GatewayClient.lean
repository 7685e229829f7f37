import AsynCS.OpenWhisk.GatewayControl

/-!
# The operations of the Gateway control client, on the wire

`P1GatewayControlClient` with its four operations, the allocation of their requests included.

* `Call`, `Operation`: what is asked of the client, and what it sends and reads for it.
* `exchange_eq_ok_iff`: the streams of which the client takes a body.
* `Encodes`, `Rejects`: the bodies that mean an answer, and those that mean a rejection.
* `Exact`: the client answers what a stream means, and `exact_iff`: the streams for which it does.
  A rejected registration is a rejection for the client only when it says ACTIVE.
-/

namespace AsynCS
namespace OpenWhisk
namespace GatewayControl

open ProtectedEnvelopeV1 (byteAt)

/-- `GatewayRegisteredTarget` -/
structure GatewayRegisteredTarget where
  targetBindingId : Int64
  peerSessionId : ℕ
  deriving DecidableEq

/-- What the operations answer. -/
inductive Answer where
  | registered (target : GatewayRegisteredTarget)
  | closed
  | reencrypted (envelope : ProtectedEnvelopeV1)

def registerTargetRequestType : Int32 := 8
def registerTargetResponseType : Int32 := 9
def closeTargetRequestType : Int32 := 10
def closeTargetResponseType : Int32 := 11
def targetActiveState : UInt8 := 2
def targetContainerIdentitySize : ℕ := 128
def targetEndpointHostSize : ℕ := 64
def registerTargetRequestSize : ℕ := 200
def registerTargetResponseSize : ℕ := 20
def closeTargetRequestSize : ℕ := 16
def statusResponseSize : ℕ := 8
def reencryptRequestPrefixSize : ℕ := 24

/-! ## Bodies -/

/-- `encodeCString` -/
def encodeCString (value : Text) (size : ℕ) (description : Text) :
    Except GatewayControlError Bytes := do
  let bytes := utf8 value
  check (value ≠ [] ∧ bytes.length < size ∧ 0 ∉ bytes)
    (.protocol (description ++ " is empty or too long".toList))
  .ok (bytes ++ List.replicate (size - bytes.length) 0)

/-- `decodeRegisterTarget` -/
def decodeRegisterTarget (body : Bytes) : Except Thrown GatewayRegisteredTarget := do
  let status := ofBigEndian (slice 4 4 body)
  let targetBindingId := getLong (slice 8 8 body)
  check (byteAt 0 body = controlVersion ∧ slice 2 2 body = [0, 0] ∧
      byteAt 1 body = targetActiveState)
    (protocolError ["Gateway target registration did not return ACTIVE".toList])
  check (status = 0) (.control (.rejected status))
  check (0 < targetBindingId)
    (protocolError ["Gateway target registration returned an invalid target binding id".toList])
  .ok ⟨targetBindingId, ofBigEndian (slice 16 4 body)⟩

/-- `decodeStatus` -/
def decodeStatus (operation : Text) (body : Bytes) : Except Thrown Unit := do
  let status := ofBigEndian (slice 4 4 body)
  check (byteAt 0 body = controlVersion ∧ slice 1 3 body = [0, 0, 0])
    (protocolError ["invalid Gateway ".toList, operation, " response".toList])
  check (status = 0) (.control (.rejected status))

/-! ## Operations -/

/-- One exchange: the body that is sent, and what is accepted and read of the answer. -/
structure Operation where
  requestType : Int32
  responseType : Int32
  requestBody : Except Thrown Bytes
  minResponseSize : ℕ
  maxResponseSize : ℕ
  decode : Bytes → Except Thrown Answer

namespace Operation

/-- What is written for a body. -/
def frame (op : Operation) (body : Bytes) : Bytes :=
  encodeOuterFrame op.requestType body.length ++ body

/-- The block of `attempt`; the Gateway answers a frame with what happens on the socket. -/
def perform (op : Operation) (gateway : Bytes → Exchange) : Except GatewayControlError Answer :=
  attempt do
    let body ← op.requestBody
    let reply ← exchange op.responseType op.minResponseSize op.maxResponseSize
      (gateway (op.frame body))
    op.decode reply

/-- The registration of a target. -/
def registerTarget (identity host : Bytes) (endpointPort : ℕ) : Operation where
  requestType := registerTargetRequestType
  responseType := registerTargetResponseType
  requestBody := .ok ([controlVersion, 0, 0, 0] ++ bigEndian 2 endpointPort ++ [0, 0] ++
    identity ++ host)
  minResponseSize := registerTargetResponseSize
  maxResponseSize := registerTargetResponseSize
  decode body := (decodeRegisterTarget body).map .registered

/-- The end of a target. -/
def closeTarget (targetBindingId : Int64) : Operation where
  requestType := closeTargetRequestType
  responseType := closeTargetResponseType
  requestBody := .ok ([controlVersion, 0, 0, 0, 0, 0, 0, 0] ++ putLong targetBindingId)
  minResponseSize := statusResponseSize
  maxResponseSize := statusResponseSize
  decode body := (decodeStatus "close target".toList body).map fun _ => .closed

/-- A re-encryption.  A buffer for more bytes than an `Int` counts is refused. -/
def reencrypt (config : GatewayControlConfig) (request : ReencryptRequest)
    (expectedDirection : ProtectedEnvelopeDirection) (expectedBindingId : Int64) : Operation where
  requestType := reencryptRequestType
  responseType := reencryptResponseType
  requestBody := do
    check (reencryptRequestPrefixSize + request.envelope.bytes.length ≤ intMaxValue)
      (.other "IllegalArgumentException".toList)
    .ok ([controlVersion, request.operation, 0, 0] ++ putLong request.sourceBindingId ++
      putLong request.targetBindingId ++ putInt (Int32.ofNat request.envelope.bytes.length) ++
      request.envelope.bytes)
  minResponseSize := reencryptResponsePrefixSize
  maxResponseSize := reencryptResponsePrefixSize + config.maxEnvelopeBytes
  decode body := (decodeReencryptResponse request.operation request.envelope expectedDirection
    expectedBindingId body).map .reencrypted

end Operation

/-- What the client is asked to do. -/
inductive Call where
  | registerTarget (containerIdentity endpointHost : Text) (endpointPort : Int32)
  | closeTarget (targetBindingId : Int64)
  | reencryptToTarget (targetBindingId : Int64) (sourceEnvelope : ProtectedEnvelopeV1)
  | reencryptResultToSource (sourceBindingId targetBindingId : Int64)
      (targetEnvelope : ProtectedEnvelopeV1)

namespace Call

/-- The arguments are checked before anything is sent. -/
def operation (config : GatewayControlConfig) : Call → Except GatewayControlError Operation
  | registerTarget containerIdentity endpointHost endpointPort => do
    let identity ← encodeCString containerIdentity targetContainerIdentitySize
      "container identity".toList
    let host ← encodeCString endpointHost targetEndpointHostSize "target endpoint host".toList
    check (0 < endpointPort.toInt ∧ endpointPort.toInt ≤ 65535)
      (.protocol "target endpoint port is invalid".toList)
    .ok (.registerTarget identity host endpointPort.toInt.toNat)
  | closeTarget targetBindingId => do
    check (0 < targetBindingId) (.protocol "target binding id must be positive".toList)
    .ok (.closeTarget targetBindingId)
  | reencryptToTarget targetBindingId sourceEnvelope => do
    validateToTarget config targetBindingId sourceEnvelope
    .ok (.reencrypt config ⟨reencryptToTargetOperation, sourceEnvelope.1.bindingId,
      targetBindingId, sourceEnvelope⟩ .gatewayToTarget targetBindingId)
  | reencryptResultToSource sourceBindingId targetBindingId targetEnvelope => do
    validateToSource config sourceBindingId targetBindingId targetEnvelope
    .ok (.reencrypt config ⟨reencryptResultToSourceOperation, sourceBindingId, targetBindingId,
      targetEnvelope⟩ .gatewayToSource sourceBindingId)

/-- The future of a call.  What is thrown becomes a `Left`. -/
def run (config : GatewayControlConfig) (gateway : Bytes → Exchange) (call : Call) :
    Future (Except GatewayControlError Answer) :=
  .successful do
    let op ← call.operation config
    op.perform gateway

/-- The size of the body of a request. -/
def requestSize : Call → ℕ
  | registerTarget _ _ _ => registerTargetRequestSize
  | closeTarget _ => closeTargetRequestSize
  | reencryptToTarget _ envelope => reencryptRequestPrefixSize + envelope.bytes.length
  | reencryptResultToSource _ _ envelope => reencryptRequestPrefixSize + envelope.bytes.length

end Call

/-! ## What a stream means -/

/-- The head of an answer: version, a byte of the operation, two reserved bytes, and the status. -/
def replyHead (second : UInt8) (status : ℕ) (rest : Bytes) : Bytes :=
  [controlVersion, second, 0, 0] ++ (bigEndian 4 status ++ rest)

/-- The stream starts with a header of the given type and size and that many bytes. -/
def Framed (responseType : Int32) (bytes body : Bytes) : Prop :=
  ∃ trailer rest, trailer.length = 4 ∧ body.length < 2 ^ 63 ∧
    bytes = leBytes 4 responseType.toUInt32.toNat ++ (leBytes 8 body.length ++ trailer) ++
      (body ++ rest)

/-- A body of an admissible size. -/
def Operation.Reply (op : Operation) (bytes body : Bytes) : Prop :=
  Framed op.responseType bytes body ∧ op.minResponseSize ≤ body.length ∧
    body.length ≤ op.maxResponseSize

namespace Call

/-- The body means the answer. -/
def Encodes : Call → Bytes → Answer → Prop
  | registerTarget _ _ _, body, .registered target =>
    body = replyHead targetActiveState 0
        (putLong target.targetBindingId ++ bigEndian 4 target.peerSessionId) ∧
      0 < target.targetBindingId ∧ target.peerSessionId < 2 ^ 32
  | closeTarget _, body, .closed => body = replyHead 0 0 []
  | reencryptToTarget targetBindingId source, body, .reencrypted envelope =>
    body = answerBody reencryptToTargetOperation envelope ∧
      Preserves source envelope .gatewayToTarget targetBindingId
  | reencryptResultToSource sourceBindingId _ target, body, .reencrypted envelope =>
    body = answerBody reencryptResultToSourceOperation envelope ∧
      Preserves target envelope .gatewayToSource sourceBindingId
  | _, _, _ => False

/-- The byte of the operation in an answer: the state of a registration can be any. -/
def IsSecondByte : Call → UInt8 → Prop
  | registerTarget _ _ _, _ => True
  | closeTarget _, second => second = 0
  | reencryptToTarget _ _, second => second = reencryptToTargetOperation
  | reencryptResultToSource _ _ _, second => second = reencryptResultToSourceOperation

/-- The body means a rejection. -/
def Rejects (call : Call) (body : Bytes) (status : ℕ) : Prop :=
  0 < status ∧ status < 2 ^ 32 ∧
    ∃ second rest, call.IsSecondByte second ∧ body = replyHead second status rest

end Call

/-- **The client is exact** on a stream: it answers what the stream means, and what it writes has
its layout. -/
structure Exact (config : GatewayControlConfig) (call : Call) (op : Operation) (bytes : Bytes)
    (ending : Option Text) : Prop where
  right : ∀ x, call.run config (fun _ => .answered bytes ending) = .successful (.ok x) ↔
    ∃ body, op.Reply bytes body ∧ call.Encodes body x
  rejected : ∀ body status, op.Reply bytes body → call.Rejects body status →
    call.run config (fun _ => .answered bytes ending) = .successful (.error (.rejected status))
  completes : ∃ result, call.run config (fun _ => .answered bytes ending) = .successful result
  layout : ∀ body, op.requestBody = .ok body → body.length = call.requestSize ∧
    op.frame body = leBytes 4 op.requestType.toUInt32.toNat ++
      (leBytes 8 body.length ++ leBytes 4 0) ++ body

/-- A registration says ACTIVE. -/
def Call.InExpectedState : Call → Bytes → Prop
  | registerTarget _ _ _, body => byteAt 1 body = targetActiveState
  | _, _ => True

/-- What an answer must be for the client to be exact: neither it nor its request is larger than an
`Int` counts, and a rejected registration says ACTIVE. -/
def Meets (call : Call) (op : Operation) (bytes : Bytes) : Prop :=
  ∀ body, op.Reply bytes body → (∃ x, call.Encodes body x) ∨ (∃ status, call.Rejects body status) →
    call.requestSize ≤ intMaxValue ∧ body.length ≤ intMaxValue ∧
      ((∃ status, call.Rejects body status) → call.InExpectedState body)

/-! ## Frames that are read -/

theorem readExactly_eq_ok_iff {stream body : Bytes} {ending : Option Text} {size : ℕ} :
    readExactly stream ending size = .ok body ↔ size ≤ stream.length ∧ stream.take size = body := by
  unfold readExactly
  split <;> simp [*]

theorem leBytes_nativeInt {b : Bytes} (h : b.length = 4) :
    leBytes 4 (nativeInt b).toUInt32.toNat = b := by
  have hlt := ofLeBytes_lt b
  have hb := leBytes_ofLeBytes b
  rw [h] at hlt hb
  show leBytes 4 (UInt32.ofNat (ofLeBytes b)).toNat = b
  rw [UInt32.toNat_ofNat_of_lt' hlt, hb]

theorem leBytes_nativeLong {b : Bytes} (h : b.length = 8) (hpos : 0 ≤ (nativeLong b).toInt) :
    leBytes 8 (nativeLong b).toInt.toNat = b ∧ (nativeLong b).toInt.toNat < 2 ^ 63 := by
  have hlt := ofLeBytes_lt b
  have hb := leBytes_ofLeBytes b
  rw [h] at hlt hb
  have hword : (UInt64.ofNat (ofLeBytes b)).toNat = ofLeBytes b := UInt64.toNat_ofNat_of_lt' hlt
  have hint : (nativeLong b).toInt = (UInt64.ofNat (ofLeBytes b)).toBitVec.toInt := rfl
  rw [BitVec.toInt_eq_toNat_cond] at hint
  change _ = if 2 * (UInt64.ofNat (ofLeBytes b)).toNat < 2 ^ 64 then
    ((UInt64.ofNat (ofLeBytes b)).toNat : ℤ) else _ at hint
  rw [hword] at hint
  split at hint
  · rw [hint, Int.toNat_natCast]
    exact ⟨hb, by omega⟩
  · omega

theorem nativeInt_leBytes (v : Int32) : nativeInt (leBytes 4 v.toUInt32.toNat) = v := by
  have hlt : v.toUInt32.toNat < 256 ^ 4 := v.toUInt32.toNat_lt
  rw [nativeInt, ofLeBytes_leBytes hlt, UInt32.ofNat_toNat]
  rfl

theorem nativeLong_leBytes {n : ℕ} (h : n < 2 ^ 63) : (nativeLong (leBytes 8 n)).toInt = n := by
  rw [nativeLong, ofLeBytes_leBytes (by omega)]
  exact Int64.toInt_ofNat_of_lt h

/-- The three fields of a header. -/
theorem take_outerHeader {bytes : Bytes} (h : outerHeaderSize ≤ bytes.length) :
    bytes.take outerHeaderSize = slice 0 4 (bytes.take outerHeaderSize) ++
      (slice 4 8 (bytes.take outerHeaderSize) ++ slice 12 4 (bytes.take outerHeaderSize)) := by
  have hlen : (bytes.take outerHeaderSize).length = 16 := by
    rw [List.length_take, min_eq_left h]
    rfl
  rw [slice_append_slice (by norm_num : 4 + 8 = 12) 4, slice_append_slice (by norm_num : 0 + 4 = 4)]
  have hall := slice_zero_length (bytes.take outerHeaderSize)
  rw [hlen] at hall
  exact hall.symm

/-- **Frames**: the streams of which a body is taken. -/
theorem exchange_eq_ok_iff {responseType : Int32} {minResponseSize maxResponseSize : Int}
    {bytes body : Bytes} {ending : Option Text} :
    exchange responseType minResponseSize maxResponseSize (.answered bytes ending) = .ok body ↔
      Framed responseType bytes body ∧ minResponseSize ≤ body.length ∧
        body.length ≤ maxResponseSize ∧ body.length ≤ intMaxValue := by
  constructor
  · intro h
    simp only [exchange, bind_eq_ok_iff, check_eq_ok_iff, readExactly_eq_ok_iff] at h
    obtain ⟨header, ⟨h16, rfl⟩, -, hpos, -, htype, -, ⟨hmin, hmax⟩, -, hfits, hlen, hbody⟩ := h
    have hheader : (bytes.take outerHeaderSize).length = 16 := by
      rw [List.length_take, min_eq_left h16]
      rfl
    have hint := leBytes_nativeInt (b := slice 0 4 (bytes.take outerHeaderSize))
      (length_slice (by omega))
    obtain ⟨hlong, hlt⟩ := leBytes_nativeLong (length_slice (by omega)) hpos
    have hsize : body.length =
        (nativeLong (slice 4 8 (bytes.take outerHeaderSize))).toInt.toNat := by
      rw [← hbody, List.length_take, min_eq_left hlen]
    rw [htype] at hint
    refine ⟨⟨slice 12 4 (bytes.take outerHeaderSize),
      (bytes.drop outerHeaderSize).drop body.length, length_slice (by omega), hsize ▸ hlt, ?_⟩,
      by omega, by omega, by omega⟩
    have hrest : body ++ (bytes.drop outerHeaderSize).drop body.length =
        bytes.drop outerHeaderSize := by
      rw [hsize]
      nth_rewrite 1 [← hbody]
      exact List.take_append_drop _ _
    rw [hsize, hlong, hint, ← take_outerHeader h16, ← hsize, hrest, List.take_append_drop]
  · rintro ⟨⟨trailer, rest, htrailer, hlt, rfl⟩, hmin, hmax, hfits⟩
    set header := leBytes 4 responseType.toUInt32.toNat ++ (leBytes 8 body.length ++ trailer)
      with hheader
    have hlen : header.length = outerHeaderSize := by
      rw [hheader, List.length_append, List.length_append, length_leBytes, length_leBytes, htrailer]
      rfl
    have hsplit : header = (leBytes 4 responseType.toUInt32.toNat ++ leBytes 8 body.length) ++
        trailer := (List.append_assoc _ _ _).symm
    have htype : nativeInt (slice 0 4 header) = responseType := by
      rw [hheader, slice_append_left (length_leBytes 4 _), nativeInt_leBytes]
    have hsize : (nativeLong (slice 4 8 header)).toInt = body.length := by
      rw [hheader, slice_append_of_le (length_leBytes 4 _).le, length_leBytes,
        slice_append_left (length_leBytes 8 _), nativeLong_leBytes hlt]
    simp only [exchange, bind_eq_ok_iff, check_eq_ok_iff, readExactly_eq_ok_iff]
    refine ⟨header, ⟨?_, List.take_left' hlen⟩, (), ?_, (), htype, (), ?_, (), ?_, ?_, ?_⟩
    · rw [List.length_append, hlen]
      omega
    · rw [hsize]
      omega
    · rw [hsize]
      exact ⟨hmin, hmax⟩
    · rw [hsize]
      omega
    · rw [hsize, List.drop_left' hlen, List.length_append]
      omega
    · rw [hsize, List.drop_left' hlen]
      exact List.take_left' rfl

/-- A stream has one body. -/
theorem Framed.unique {responseType : Int32} {bytes body body' : Bytes}
    (h : Framed responseType bytes body) (h' : Framed responseType bytes body') : body = body' := by
  obtain ⟨trailer, rest, htrailer, hlt, hbytes⟩ := h
  obtain ⟨trailer', rest', htrailer', hlt', hbytes'⟩ := h'
  rw [hbytes] at hbytes'
  obtain ⟨hheader, hbody⟩ := List.append_inj hbytes' (by
    simp only [List.length_append, length_leBytes, htrailer, htrailer'])
  have hsize := (List.append_inj (List.append_cancel_left hheader) (by
    simp only [length_leBytes])).1
  have hlen : body.length = body'.length := by
    have hread := congrArg ofLeBytes hsize
    rwa [ofLeBytes_leBytes (by omega), ofLeBytes_leBytes (by omega)] at hread
  exact (List.append_inj hbody hlen).1

theorem readExactly_ne_control {stream : Bytes} {ending : Option Text} {size : ℕ}
    {error : GatewayControlError} : readExactly stream ending size ≠ .error (.control error) := by
  unfold readExactly
  split <;> simp

/-- A rejection is read from a body only. -/
theorem exchange_ne_rejected {responseType : Int32} {minResponseSize maxResponseSize : Int}
    {e : Exchange} {status : ℕ} : exchange responseType minResponseSize maxResponseSize e ≠
      .error (.control (.rejected status)) := by
  cases e with
  | refused exception => simp [exchange]
  | answered bytes ending =>
    simp [exchange, bind_eq_error_iff, readExactly_ne_control, protocolError]

/-! ## Bodies that are read -/

theorem replyHead_length (second : UInt8) (status : ℕ) (rest : Bytes) :
    (replyHead second status rest).length = 8 + rest.length := by
  rw [replyHead, List.length_append, List.length_append, length_bigEndian]
  simp only [List.length_cons, List.length_nil]
  omega

/-- What is read from a head. -/
theorem replyHead_fields {second : UInt8} {status : ℕ} {rest : Bytes} (h : status < 2 ^ 32) :
    byteAt 0 (replyHead second status rest) = controlVersion ∧
      byteAt 1 (replyHead second status rest) = second ∧
      slice 2 2 (replyHead second status rest) = [0, 0] ∧
      ofBigEndian (slice 4 4 (replyHead second status rest)) = status ∧
      (replyHead second status rest).drop 8 = rest := by
  refine ⟨rfl, rfl, rfl, ?_, ?_⟩
  · rw [replyHead, slice_append_of_le (by simp)]
    show ofBigEndian (slice 0 4 (bigEndian 4 status ++ rest)) = status
    rw [slice_append_left (length_bigEndian 4 _), ofBigEndian_bigEndian h]
  · rw [replyHead, ← List.append_assoc]
    exact List.drop_left' (by simp)

/-- A head is what is read from it. -/
theorem eq_replyHead {body : Bytes} (h : 8 ≤ body.length)
    (hversion : byteAt 0 body = controlVersion) (hreserved : slice 2 2 body = [0, 0]) :
    body = replyHead (byteAt 1 body) (ofBigEndian (slice 4 4 body)) (body.drop 8) ∧
      ofBigEndian (slice 4 4 body) < 2 ^ 32 := by
  have hlen : (slice 4 4 body).length = 4 := length_slice (by omega)
  refine ⟨?_, ofBigEndian_lt hlen⟩
  obtain ⟨a, b, c, d, tail, rfl⟩ : ∃ a b c d tail, body = a :: b :: c :: d :: tail := by
    match body, h with
    | a :: b :: c :: d :: tail, _ => exact ⟨a, b, c, d, tail, rfl⟩
  change a = controlVersion at hversion
  change [c, d] = [0, 0] at hreserved
  simp only [List.cons.injEq, and_true] at hreserved
  obtain ⟨rfl, rfl⟩ := hreserved
  rw [replyHead, bigEndian_ofBigEndian hlen, hversion]
  show controlVersion :: b :: 0 :: 0 :: tail =
    controlVersion :: b :: 0 :: 0 :: (tail.take 4 ++ tail.drop 4)
  rw [List.take_append_drop]

theorem slice_replyHead {second : UInt8} {status : ℕ} {rest : Bytes} (offset n : ℕ) :
    slice (8 + offset) n (replyHead second status rest) = slice offset n rest := by
  have hdrop : (replyHead second status rest).drop 8 = rest := by
    rw [replyHead, ← List.append_assoc]
    exact List.drop_left' (by simp)
  rw [slice, ← List.drop_drop, hdrop, slice]

/-- A rejection, in the body of an answer. -/
def IsRejection (second : UInt8) (body : Bytes) (status : ℕ) : Prop :=
  0 < status ∧ status < 2 ^ 32 ∧ ∃ rest, body = replyHead second status rest

/-- The checks of a head that is well formed and rejects. -/
theorem isRejection_iff {second : UInt8} {body : Bytes} {status : ℕ} (h : 8 ≤ body.length) :
    IsRejection second body status ↔
      (byteAt 0 body = controlVersion ∧ byteAt 1 body = second ∧ slice 2 2 body = [0, 0]) ∧
        ofBigEndian (slice 4 4 body) ≠ 0 ∧ ofBigEndian (slice 4 4 body) = status := by
  constructor
  · rintro ⟨hpos, hlt, rest, rfl⟩
    obtain ⟨h0, h1, h2, hstatus, -⟩ := @replyHead_fields second status rest hlt
    exact ⟨⟨h0, h1, h2⟩, by omega, hstatus⟩
  · rintro ⟨⟨h0, h1, h2⟩, hne, rfl⟩
    obtain ⟨hbody, hlt⟩ := eq_replyHead h h0 h2
    exact ⟨Nat.pos_of_ne_zero hne, hlt, _, h1 ▸ hbody⟩

theorem decodeRegisterTarget_eq_ok_iff {body : Bytes} {target : GatewayRegisteredTarget}
    (hlen : body.length = registerTargetResponseSize) :
    decodeRegisterTarget body = .ok target ↔
      body = replyHead targetActiveState 0
          (putLong target.targetBindingId ++ bigEndian 4 target.peerSessionId) ∧
        0 < target.targetBindingId ∧ target.peerSessionId < 2 ^ 32 := by
  have hlen20 : body.length = 20 := hlen
  unfold decodeRegisterTarget
  simp only [bind_eq_ok_iff, check_eq_ok_iff, Except.ok.injEq]
  constructor
  · rintro ⟨-, ⟨h0, h2, h1⟩, -, hstatus, -, hpos, rfl⟩
    obtain ⟨hbody, -⟩ := eq_replyHead (by omega) h0 h2
    have hsession : (slice 16 4 body).length = 4 := length_slice (by omega)
    have hdrop : body.drop 8 = slice 8 8 body ++ slice 16 4 body := by
      rw [slice_append_slice (by norm_num : 8 + 8 = 16), slice, List.take_of_length_le]
      rw [List.length_drop]
      omega
    refine ⟨?_, hpos, ofBigEndian_lt hsession⟩
    rw [putLong_getLong (length_slice (by omega)), bigEndian_ofBigEndian hsession, ← hdrop,
      ← hstatus, ← h1]
    exact hbody
  · rintro ⟨rfl, hpos, hlt⟩
    obtain ⟨h0, h1, h2, hstatus, -⟩ := @replyHead_fields targetActiveState 0
      (putLong target.targetBindingId ++ bigEndian 4 target.peerSessionId) (by norm_num)
    have hid := @slice_replyHead targetActiveState 0
      (putLong target.targetBindingId ++ bigEndian 4 target.peerSessionId) 0 8
    have hsession := @slice_replyHead targetActiveState 0
      (putLong target.targetBindingId ++ bigEndian 4 target.peerSessionId) 8 4
    rw [slice_append_left (length_putLong _)] at hid
    rw [slice_append_of_le (length_putLong _).le, length_putLong, Nat.sub_self,
      ← List.append_nil (bigEndian 4 _), slice_append_left (length_bigEndian 4 _)] at hsession
    rw [List.append_nil] at hsession
    simp only [Nat.add_zero, Nat.reduceAdd] at hid hsession
    refine ⟨(), ⟨h0, h2, h1⟩, (), hstatus, (), ?_, ?_⟩
    · rw [hid, getLong_putLong]
      exact hpos
    · rw [hid, hsession, getLong_putLong, ofBigEndian_bigEndian hlt]

theorem decodeRegisterTarget_eq_rejected_iff {body : Bytes} {status : ℕ} (h : 8 ≤ body.length) :
    decodeRegisterTarget body = .error (.control (.rejected status)) ↔
      IsRejection targetActiveState body status := by
  rw [isRejection_iff h]
  unfold decodeRegisterTarget
  simp only [bind_eq_error_iff, check_eq_error_iff, check_eq_ok_iff, protocolError]
  constructor
  · rintro (⟨-, h⟩ | ⟨-, ⟨h0, h2, h1⟩, ⟨hne, heq⟩ | ⟨-, -, ⟨-, h⟩ | ⟨-, -, h⟩⟩⟩)
    · cases h
    · cases heq
      exact ⟨⟨h0, h1, h2⟩, hne, rfl⟩
    · cases h
    · cases h
  · rintro ⟨⟨h0, h1, h2⟩, hne, rfl⟩
    exact .inr ⟨(), ⟨h0, h2, h1⟩, .inl ⟨hne, rfl⟩⟩

/-- Three reserved bytes are the byte of an operation that is zero, and two reserved bytes. -/
theorem slice_one_three {body : Bytes} (h : 4 ≤ body.length) :
    slice 1 3 body = [0, 0, 0] ↔ byteAt 1 body = 0 ∧ slice 2 2 body = [0, 0] := by
  match body, h with
  | a :: b :: c :: d :: tail, _ =>
    show [b, c, d] = [0, 0, 0] ↔ b = 0 ∧ [c, d] = [0, 0]
    simp

theorem decodeStatus_eq_ok_iff {operation : Text} {body : Bytes} {u : Unit}
    (hlen : body.length = statusResponseSize) :
    decodeStatus operation body = .ok u ↔ body = replyHead 0 0 [] := by
  have hlen8 : body.length = 8 := hlen
  unfold decodeStatus
  simp only [bind_eq_ok_iff, check_eq_ok_iff, slice_one_three (show 4 ≤ body.length by omega)]
  constructor
  · rintro ⟨-, ⟨h0, h1, h2⟩, hstatus⟩
    obtain ⟨hbody, -⟩ := eq_replyHead (by omega) h0 h2
    rw [h1, hstatus, List.drop_eq_nil_of_le (by omega)] at hbody
    exact hbody
  · intro hbody
    obtain ⟨h0, h1, h2, hstatus, -⟩ := @replyHead_fields 0 0 [] (by norm_num)
    rw [← hbody] at h0 h1 h2 hstatus
    exact ⟨(), ⟨h0, h1, h2⟩, hstatus⟩

theorem decodeStatus_eq_rejected_iff {operation : Text} {body : Bytes} {status : ℕ}
    (h : 8 ≤ body.length) :
    decodeStatus operation body = .error (.control (.rejected status)) ↔
      IsRejection 0 body status := by
  rw [isRejection_iff h]
  unfold decodeStatus
  simp only [bind_eq_error_iff, check_eq_error_iff, check_eq_ok_iff, protocolError,
    slice_one_three (show 4 ≤ body.length by omega)]
  constructor
  · rintro (⟨-, h⟩ | ⟨-, hhead, hne, heq⟩)
    · cases h
    · cases heq
      exact ⟨hhead, hne, rfl⟩
  · rintro ⟨hhead, hne, rfl⟩
    exact .inr ⟨(), hhead, hne, rfl⟩

theorem answerBody_eq (operation : UInt8) (output : ProtectedEnvelopeV1) :
    answerBody operation output =
      replyHead operation 0 (putInt (Int32.ofNat output.bytes.length) ++ output.bytes) := rfl

theorem decodeReencryptResponse_eq_ok_iff {operation : UInt8} {input output : ProtectedEnvelopeV1}
    {expectedDirection : ProtectedEnvelopeDirection} {expectedBindingId : Int64} {body : Bytes}
    (h : reencryptResponsePrefixSize ≤ body.length) :
    decodeReencryptResponse operation input expectedDirection expectedBindingId body =
        .ok output ↔
      body = answerBody operation output ∧
        Preserves input output expectedDirection expectedBindingId := by
  have h12 : 12 ≤ body.length := h
  constructor
  · intro hdecode
    refine ⟨?_, preserves_of_decode hdecode⟩
    unfold decodeReencryptResponse at hdecode
    simp only [bind_eq_ok_iff, check_eq_ok_iff, mapError_eq_ok_iff, Except.ok.injEq,
      ProtectedEnvelopeV1.decode_eq_ok_iff] at hdecode
    obtain ⟨-, ⟨h0, h1, h2⟩, -, hstatus, -, ⟨hpos, hlength⟩, output, hbytes, -, -, rfl⟩ := hdecode
    obtain ⟨hbody, -⟩ := eq_replyHead (by omega) h0 h2
    have hfield : (slice 8 4 body).length = 4 := length_slice (by omega)
    have hdrop : body.drop 8 = slice 8 4 body ++ output.bytes := by
      rw [hbytes, slice, show body.drop reencryptResponsePrefixSize = (body.drop 8).drop 4 by
        rw [List.drop_drop]; rfl, List.take_append_drop]
    have hsize : output.bytes.length = body.length - 12 := by
      rw [hbytes, List.length_drop]
      rfl
    have hint : getInt (slice 8 4 body) = Int32.ofNat output.bytes.length := by
      have hfits := output.length_bytes_le
      unfold intMaxValue at hfits
      apply Int32.toInt_inj.mp
      rw [Int32.toInt_ofNat_of_lt (by omega)]
      have h12' : (reencryptResponsePrefixSize : Int) = 12 := rfl
      omega
    rw [answerBody_eq, ← hint, putInt_getInt hfield, ← hdrop, ← h1, ← hstatus]
    exact hbody
  · rintro ⟨rfl, hpreserves⟩
    exact decodeReencryptResponse_answerBody hpreserves

theorem decodeReencryptResponse_eq_rejected_iff {operation : UInt8} {input : ProtectedEnvelopeV1}
    {expectedDirection : ProtectedEnvelopeDirection} {expectedBindingId : Int64} {body : Bytes}
    {status : ℕ} (h : 8 ≤ body.length) :
    decodeReencryptResponse operation input expectedDirection expectedBindingId body =
        .error (.control (.rejected status)) ↔ IsRejection operation body status := by
  rw [isRejection_iff h]
  unfold decodeReencryptResponse
  simp only [bind_eq_error_iff, check_eq_error_iff, check_eq_ok_iff, protocolError]
  constructor
  · rintro (⟨-, h⟩ |
      ⟨-, hhead, ⟨hne, heq⟩ | ⟨-, -, ⟨-, h⟩ | ⟨-, -, h | ⟨_, -, ⟨-, h⟩ | ⟨-, -, h⟩⟩⟩⟩⟩)
    · cases h
    · cases heq
      exact ⟨hhead, hne, rfl⟩
    · cases h
    · cases hd : ProtectedEnvelopeV1.decode (body.drop reencryptResponsePrefixSize) with
      | ok output => rw [hd] at h; cases h
      | error message => rw [hd] at h; cases h
    · cases h
    · cases h
  · rintro ⟨hhead, hne, rfl⟩
    exact .inr ⟨(), hhead, .inl ⟨hne, rfl⟩⟩

/-! ## Calls -/

theorem map_eq_ok_iff {α β : Type} {x : Except Thrown α} {f : α → β} {b : β} :
    x.map f = .ok b ↔ ∃ a, x = .ok a ∧ f a = b := by
  cases x <;> simp [Except.map]

theorem map_eq_error_iff {α β : Type} {x : Except Thrown α} {f : α → β} {thrown : Thrown} :
    x.map f = .error thrown ↔ x = .error thrown := by
  cases x <;> simp [Except.map]

theorem attempt_eq_rejected_iff {α : Type} {operation : Except Thrown α} {status : ℕ} :
    attempt operation = .error (.rejected status) ↔
      operation = .error (.control (.rejected status)) := by
  rcases operation with (_ | _) | _ <;> simp [attempt, Except.mapError]

namespace Operation

variable {op : Operation} {bytes : Bytes} {ending : Option Text}

/-- An answer comes from a body of the stream that is no larger than an `Int` counts. -/
theorem perform_eq_ok_iff {x : Answer} :
    op.perform (fun _ => .answered bytes ending) = .ok x ↔
      (∃ request, op.requestBody = .ok request) ∧
        ∃ body, op.Reply bytes body ∧ body.length ≤ intMaxValue ∧ op.decode body = .ok x := by
  unfold perform Reply
  simp only [attempt_eq_ok_iff, bind_eq_ok_iff, exchange_eq_ok_iff, Nat.cast_le]
  constructor
  · rintro ⟨request, hrequest, body, ⟨hframed, hmin, hmax, hfits⟩, hdecode⟩
    exact ⟨⟨request, hrequest⟩, body, ⟨hframed, hmin, hmax⟩, hfits, hdecode⟩
  · rintro ⟨⟨request, hrequest⟩, body, ⟨hframed, hmin, hmax⟩, hfits, hdecode⟩
    exact ⟨request, hrequest, body, ⟨hframed, hmin, hmax, hfits⟩, hdecode⟩

/-- So does a rejection. -/
theorem perform_eq_rejected_iff {status : ℕ}
    (h : op.requestBody ≠ .error (.control (.rejected status))) :
    op.perform (fun _ => .answered bytes ending) = .error (.rejected status) ↔
      (∃ request, op.requestBody = .ok request) ∧
        ∃ body, op.Reply bytes body ∧ body.length ≤ intMaxValue ∧
          op.decode body = .error (.control (.rejected status)) := by
  unfold perform Reply
  simp only [attempt_eq_rejected_iff, bind_eq_error_iff, exchange_eq_ok_iff, exchange_ne_rejected,
    h, false_or, Nat.cast_le]
  constructor
  · rintro ⟨request, hrequest, body, ⟨hframed, hmin, hmax, hfits⟩, hdecode⟩
    exact ⟨⟨request, hrequest⟩, body, ⟨hframed, hmin, hmax⟩, hfits, hdecode⟩
  · rintro ⟨⟨request, hrequest⟩, body, ⟨hframed, hmin, hmax⟩, hfits, hdecode⟩
    exact ⟨request, hrequest, body, ⟨hframed, hmin, hmax, hfits⟩, hdecode⟩

end Operation

/-- What the exactness of a call rests on. -/
structure Spec (call : Call) (op : Operation) : Prop where
  sent : (∃ request, op.requestBody = .ok request) ↔ call.requestSize ≤ intMaxValue
  size : ∀ request, op.requestBody = .ok request → request.length = call.requestSize
  notRejected : ∀ status, op.requestBody ≠ .error (.control (.rejected status))
  decodes : ∀ bytes body x, op.Reply bytes body → (op.decode body = .ok x ↔ call.Encodes body x)
  rejects : ∀ bytes body status, op.Reply bytes body →
    (op.decode body = .error (.control (.rejected status)) ↔
      call.Rejects body status ∧ call.InExpectedState body)

theorem length_encodeCString {value description : Text} {size : ℕ} {b : Bytes}
    (h : encodeCString value size description = .ok b) : b.length = size := by
  unfold encodeCString at h
  simp only [bind_eq_ok_iff, check_eq_ok_iff, Except.ok.injEq] at h
  obtain ⟨-, ⟨-, hlt, -⟩, rfl⟩ := h
  rw [List.length_append, List.length_replicate]
  omega

theorem spec_registerTarget {containerIdentity endpointHost : Text} {endpointPort : Int32}
    {identity host : Bytes} (hidentity : identity.length = targetContainerIdentitySize)
    (hhost : host.length = targetEndpointHostSize) :
    Spec (.registerTarget containerIdentity endpointHost endpointPort)
      (.registerTarget identity host endpointPort.toInt.toNat) where
  sent := iff_of_true ⟨_, rfl⟩ (show registerTargetRequestSize ≤ intMaxValue by decide)
  size := by
    rintro request ⟨⟩
    simp only [List.length_append, List.length_cons, List.length_nil, length_bigEndian, hidentity,
      hhost]
    rfl
  notRejected _ := by simp [Operation.registerTarget]
  decodes bytes body x hreply := by
    have hlen : body.length = registerTargetResponseSize := le_antisymm hreply.2.2 hreply.2.1
    show (decodeRegisterTarget body).map .registered = .ok x ↔ _
    rw [map_eq_ok_iff]
    cases x with
    | registered target =>
      simp only [Answer.registered.injEq, exists_eq_right, decodeRegisterTarget_eq_ok_iff hlen]
      rfl
    | closed => simp [Call.Encodes]
    | reencrypted envelope => simp [Call.Encodes]
  rejects bytes body status hreply := by
    have hlen : body.length = 20 := le_antisymm hreply.2.2 hreply.2.1
    show (decodeRegisterTarget body).map Answer.registered = _ ↔ _
    rw [map_eq_error_iff, decodeRegisterTarget_eq_rejected_iff (by omega)]
    constructor
    · rintro ⟨hpos, hlt, rest, rfl⟩
      exact ⟨⟨hpos, hlt, _, rest, trivial, rfl⟩, rfl⟩
    · rintro ⟨⟨hpos, hlt, second, rest, -, rfl⟩, hstate⟩
      obtain rfl : second = targetActiveState := hstate
      exact ⟨hpos, hlt, rest, rfl⟩

theorem spec_closeTarget (targetBindingId : Int64) :
    Spec (.closeTarget targetBindingId) (.closeTarget targetBindingId) where
  sent := iff_of_true ⟨_, rfl⟩ (show closeTargetRequestSize ≤ intMaxValue by decide)
  size := by
    rintro request ⟨⟩
    rw [List.length_append, length_putLong]
    rfl
  notRejected _ := by simp [Operation.closeTarget]
  decodes bytes body x hreply := by
    have hlen : body.length = statusResponseSize := le_antisymm hreply.2.2 hreply.2.1
    show (decodeStatus _ body).map (fun _ => Answer.closed) = .ok x ↔ _
    rw [map_eq_ok_iff]
    cases x with
    | registered target => simp [Call.Encodes]
    | closed => simp [Call.Encodes, decodeStatus_eq_ok_iff hlen]
    | reencrypted envelope => simp [Call.Encodes]
  rejects bytes body status hreply := by
    have hlen : body.length = 8 := le_antisymm hreply.2.2 hreply.2.1
    show (decodeStatus _ body).map (fun _ => Answer.closed) = _ ↔ _
    rw [map_eq_error_iff, decodeStatus_eq_rejected_iff (by omega)]
    constructor
    · rintro ⟨hpos, hlt, rest, hbody⟩
      exact ⟨⟨hpos, hlt, 0, rest, rfl, hbody⟩, trivial⟩
    · rintro ⟨⟨hpos, hlt, second, rest, rfl, hbody⟩, -⟩
      exact ⟨hpos, hlt, rest, hbody⟩

theorem spec_reencrypt {config : GatewayControlConfig} {request : ReencryptRequest}
    {expectedDirection : ProtectedEnvelopeDirection} {expectedBindingId : Int64} {call : Call}
    (hsize : call.requestSize = reencryptRequestPrefixSize + request.envelope.bytes.length)
    (hencodes : ∀ body x, call.Encodes body x ↔ ∃ envelope, Answer.reencrypted envelope = x ∧
      body = answerBody request.operation envelope ∧
        Preserves request.envelope envelope expectedDirection expectedBindingId)
    (hsecond : ∀ second, call.IsSecondByte second ↔ second = request.operation)
    (hstate : ∀ body, call.InExpectedState body) :
    Spec call (.reencrypt config request expectedDirection expectedBindingId) where
  sent := by
    rw [hsize]
    simp only [Operation.reencrypt, bind_eq_ok_iff, check_eq_ok_iff]
    constructor
    · rintro ⟨_, -, hfits, -⟩
      exact hfits
    · exact fun hfits => ⟨_, (), hfits, rfl⟩
  size := by
    intro body h
    simp only [Operation.reencrypt, bind_eq_ok_iff, check_eq_ok_iff, Except.ok.injEq] at h
    obtain ⟨-, -, rfl⟩ := h
    rw [hsize]
    simp only [List.length_append, List.length_cons, List.length_nil, length_putLong,
      length_putInt]
    rfl
  notRejected status := by simp [Operation.reencrypt, bind_eq_error_iff]
  decodes bytes body x hreply := by
    have hlen : reencryptResponsePrefixSize ≤ body.length := hreply.2.1
    show (decodeReencryptResponse _ _ _ _ body).map Answer.reencrypted = .ok x ↔ _
    rw [map_eq_ok_iff, hencodes]
    simp only [decodeReencryptResponse_eq_ok_iff hlen]
    constructor
    · rintro ⟨envelope, h, hx⟩
      exact ⟨envelope, hx, h⟩
    · rintro ⟨envelope, hx, h⟩
      exact ⟨envelope, h, hx⟩
  rejects bytes body status hreply := by
    have hlen : 12 ≤ body.length := hreply.2.1
    show (decodeReencryptResponse _ _ _ _ body).map Answer.reencrypted = _ ↔ _
    rw [map_eq_error_iff, decodeReencryptResponse_eq_rejected_iff (by omega)]
    constructor
    · rintro ⟨hpos, hlt, rest, hbody⟩
      exact ⟨⟨hpos, hlt, _, rest, (hsecond _).mpr rfl, hbody⟩, hstate body⟩
    · rintro ⟨⟨hpos, hlt, second, rest, h, hbody⟩, -⟩
      rw [(hsecond second).mp h] at hbody
      exact ⟨hpos, hlt, rest, hbody⟩

/-- Every call that is made has its specification. -/
theorem spec_of_operation {config : GatewayControlConfig} {call : Call} {op : Operation}
    (h : call.operation config = .ok op) : Spec call op := by
  cases call with
  | registerTarget containerIdentity endpointHost endpointPort =>
    simp only [Call.operation, bind_eq_ok_iff, check_eq_ok_iff, Except.ok.injEq] at h
    obtain ⟨identity, hidentity, host, hhost, -, -, rfl⟩ := h
    exact spec_registerTarget (length_encodeCString hidentity) (length_encodeCString hhost)
  | closeTarget targetBindingId =>
    simp only [Call.operation, bind_eq_ok_iff, check_eq_ok_iff, Except.ok.injEq] at h
    obtain ⟨-, -, rfl⟩ := h
    exact spec_closeTarget targetBindingId
  | reencryptToTarget targetBindingId source =>
    simp only [Call.operation, bind_eq_ok_iff, Except.ok.injEq] at h
    obtain ⟨-, -, rfl⟩ := h
    refine spec_reencrypt rfl ?_ (fun _ => Iff.rfl) fun _ => trivial
    intro body x
    cases x <;> simp [Call.Encodes]
  | reencryptResultToSource sourceBindingId targetBindingId target =>
    simp only [Call.operation, bind_eq_ok_iff, Except.ok.injEq] at h
    obtain ⟨-, -, rfl⟩ := h
    refine spec_reencrypt rfl ?_ (fun _ => Iff.rfl) fun _ => trivial
    intro body x
    cases x <;> simp [Call.Encodes]

/-! ## Exactness -/

section Exactness

variable {config : GatewayControlConfig} {call : Call} {op : Operation} {bytes : Bytes}
  {ending : Option Text}

theorem run_eq_successful_iff (h : call.operation config = .ok op) (gateway : Bytes → Exchange)
    (result : Except GatewayControlError Answer) :
    call.run config gateway = .successful result ↔ op.perform gateway = result := by
  rw [Call.run, h, ok_bind, Future.successful.injEq]

/-- What is written for a request. -/
theorem Spec.layout (hs : Spec call op) {body : Bytes} (h : op.requestBody = .ok body) :
    body.length = call.requestSize ∧ op.frame body = leBytes 4 op.requestType.toUInt32.toNat ++
      (leBytes 8 body.length ++ leBytes 4 0) ++ body :=
  ⟨hs.size body h, rfl⟩

/-- **The control client**: it is exact on a stream exactly when the answer in it, if there is one,
is no larger than an `Int` counts, as its request, and is no rejected registration in another state
than ACTIVE. -/
theorem exact_iff (h : call.operation config = .ok op) :
    Exact config call op bytes ending ↔ Meets call op bytes := by
  have hs := spec_of_operation h
  constructor
  · intro hexact body hreply hmeans
    have hrejected : ∀ status, call.Rejects body status → call.requestSize ≤ intMaxValue ∧
        body.length ≤ intMaxValue ∧ call.InExpectedState body := by
      intro status hrejects
      have hrun := hexact.rejected body status hreply hrejects
      rw [run_eq_successful_iff h, Operation.perform_eq_rejected_iff (hs.notRejected status)]
        at hrun
      obtain ⟨hsent, body', hreply', hfits, hdecode⟩ := hrun
      obtain rfl := hreply.1.unique hreply'.1
      exact ⟨hs.sent.mp hsent, hfits, ((hs.rejects bytes body status hreply).mp hdecode).2⟩
    have hstate : (∃ status, call.Rejects body status) → call.InExpectedState body :=
      fun ⟨status, hrejects⟩ => (hrejected status hrejects).2.2
    rcases hmeans with ⟨x, hencodes⟩ | ⟨status, hrejects⟩
    · have hrun := (hexact.right x).mpr ⟨body, hreply, hencodes⟩
      rw [run_eq_successful_iff h, Operation.perform_eq_ok_iff] at hrun
      obtain ⟨hsent, body', hreply', hfits, -⟩ := hrun
      obtain rfl := hreply.1.unique hreply'.1
      exact ⟨hs.sent.mp hsent, hfits, hstate⟩
    · obtain ⟨hsize, hfits, -⟩ := hrejected status hrejects
      exact ⟨hsize, hfits, hstate⟩
  · intro hmeets
    refine ⟨?_, ?_, ⟨_, rfl⟩, fun body hbody => hs.layout hbody⟩
    · intro x
      rw [run_eq_successful_iff h, Operation.perform_eq_ok_iff]
      constructor
      · rintro ⟨-, body, hreply, -, hdecode⟩
        exact ⟨body, hreply, (hs.decodes bytes body x hreply).mp hdecode⟩
      · rintro ⟨body, hreply, hencodes⟩
        obtain ⟨hsize, hfits, -⟩ := hmeets body hreply (.inl ⟨x, hencodes⟩)
        exact ⟨hs.sent.mpr hsize, body, hreply, hfits,
          (hs.decodes bytes body x hreply).mpr hencodes⟩
    · intro body status hreply hrejects
      obtain ⟨hsize, hfits, hstate⟩ := hmeets body hreply (.inr ⟨status, hrejects⟩)
      rw [run_eq_successful_iff h, Operation.perform_eq_rejected_iff (hs.notRejected status)]
      exact ⟨hs.sent.mpr hsize, body, hreply, hfits,
        (hs.rejects bytes body status hreply).mpr ⟨hrejects, hstate ⟨status, hrejects⟩⟩⟩

/-- With an admissible size that an `Int` counts, the size of an answer is no matter. -/
theorem meets_of_le (hsize : call.requestSize ≤ intMaxValue)
    (hmax : op.maxResponseSize ≤ intMaxValue) (hstate : ∀ body, call.InExpectedState body) :
    Meets call op bytes :=
  fun body hreply _ => ⟨hsize, hreply.2.2.trans hmax, fun _ => hstate body⟩

end Exactness

/-- For envelopes that fit a request the operation is the one of the dispatcher. -/
theorem perform_reencrypt {config : GatewayControlConfig} (gateway : Bytes → Exchange)
    {request : ReencryptRequest} {expectedDirection : ProtectedEnvelopeDirection}
    {expectedBindingId : Int64}
    (hfits : reencryptRequestPrefixSize + request.envelope.bytes.length ≤ intMaxValue) :
    (Operation.reencrypt config request expectedDirection expectedBindingId).perform gateway =
      (attempt (reencrypt config gateway request expectedDirection expectedBindingId)).map
        .reencrypted := by
  set op := Operation.reencrypt config request expectedDirection expectedBindingId with hop
  set body := [controlVersion, request.operation, 0, 0] ++ putLong request.sourceBindingId ++
    putLong request.targetBindingId ++ putInt (Int32.ofNat request.envelope.bytes.length) ++
    request.envelope.bytes with hbody
  have hrequest : op.requestBody = .ok body := by
    rw [hop, Operation.reencrypt, check, if_pos hfits, ok_bind]
  have hframe : op.frame body = request.frame := rfl
  have hmax : (op.maxResponseSize : Int) = reencryptResponsePrefixSize + config.maxEnvelopeBytes :=
    Nat.cast_add _ _
  have hdecode : ∀ reply, op.decode reply = (decodeReencryptResponse request.operation
      request.envelope expectedDirection expectedBindingId reply).map .reencrypted := fun _ => rfl
  rw [Operation.perform, hrequest, ok_bind, hframe, hmax, reencrypt]
  change attempt (exchange reencryptResponseType reencryptResponsePrefixSize _ _ >>= _) = _
  generalize exchange reencryptResponseType reencryptResponsePrefixSize _ _ = reply
  rcases reply with (_ | _) | reply
  · rfl
  · rfl
  · rw [ok_bind, ok_bind, hdecode]
    generalize decodeReencryptResponse _ _ _ _ reply = answer
    rcases answer with (_ | _) | _ <;> rfl

/-- So is the call to the target. -/
theorem run_reencryptToTarget {config : GatewayControlConfig} (gateway : Bytes → Exchange)
    {targetBindingId : Int64} {source : ProtectedEnvelopeV1}
    (hfits : reencryptRequestPrefixSize + source.bytes.length ≤ intMaxValue) :
    (Call.reencryptToTarget targetBindingId source).run config gateway =
      .successful ((reencryptToTarget config gateway targetBindingId source).map
        .reencrypted) := by
  rw [Call.run, Call.operation, reencryptToTarget]
  cases validateToTarget config targetBindingId source with
  | error error => rfl
  | ok u =>
    rw [ok_bind, ok_bind, ok_bind]
    exact congrArg Future.successful (perform_reencrypt gateway hfits)

/-! ## Two streams -/

/-- The smallest configuration. -/
def sampleConfig : GatewayControlConfig :=
  ⟨ProtectedEnvelopeV1.minimumSize, le_rfl, by decide⟩

/-- The answer to the end of a target. -/
def closedStream : Bytes := encodeOuterFrame closeTargetResponseType 8 ++ [1, 0, 0, 0, 0, 0, 0, 0]

theorem closedStream_exact :
    Exact sampleConfig (.closeTarget 41) (.closeTarget 41) closedStream none :=
  (exact_iff rfl).mpr (meets_of_le (by decide) (by decide) fun _ => trivial)

/-- A registration that is rejected with status 7, with no state. -/
def rejectedBody : Bytes := replyHead 0 7 (List.replicate 12 0)

/-- The client reports a protocol error for it. -/
theorem rejectedStream_not_exact :
    ¬ ∀ config call op bytes ending, Call.operation config call = .ok op →
      Exact config call op bytes ending := by
  intro hall
  set op := Operation.registerTarget (99 :: List.replicate 127 0) (104 :: List.replicate 63 0) 1
  have hop : Call.operation sampleConfig (.registerTarget ['c'] ['h'] 1) = .ok op := rfl
  have hreply : op.Reply (encodeOuterFrame registerTargetResponseType 20 ++ rejectedBody)
      rejectedBody := by
    exact ⟨⟨leBytes 4 0, [], rfl, by decide, rfl⟩, by decide, by decide⟩
  have hrejected := (hall _ _ _ _ none hop).rejected rejectedBody 7 hreply
    ⟨by decide, by decide, 0, _, trivial, rfl⟩
  have hs := spec_of_operation hop
  rw [run_eq_successful_iff hop, Operation.perform_eq_rejected_iff (hs.notRejected 7)] at hrejected
  obtain ⟨-, body, hreply', -, hdecode⟩ := hrejected
  obtain rfl := hreply.1.unique hreply'.1
  have hstate : byteAt 1 rejectedBody = targetActiveState :=
    ((hs.rejects _ _ _ hreply).mp hdecode).2
  exact absurd hstate (by decide)

end GatewayControl
end OpenWhisk
end AsynCS
