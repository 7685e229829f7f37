import AsynCS.OpenWhisk.TargetBoundContent

/-!
# The control client of the Gateway

`P1GatewayControlClient` opens a socket for each operation, sends one frame, and reads one frame.

* `Exchange`: what happens on a socket; `exchange`: the body of the frame that is read.
* `decodeReencryptResponse`: the envelope in a response, with `preserves_of_decode`: what a
  response cannot change.
* `reencryptToTarget`, `reencryptResultToSource`: the two operations, with
  `preserves_of_reencryptToTarget` and `preserves_of_reencryptResultToSource`.
* `reencrypt_answerFrame`: a Gateway that answers with an envelope that preserves the correlation
  is understood.
-/

namespace AsynCS
namespace OpenWhisk

/-- A future that is completed: with a value, or with an exception of the given class. -/
inductive Future (α : Type) where
  | successful (value : α)
  | failed (exception : Text)

namespace Future

variable {α β : Type}

/-- `map` -/
def map (f : α → β) : Future α → Future β
  | successful value => successful (f value)
  | failed exception => failed exception

/-- `flatMap` -/
def flatMap (x : Future α) (f : α → Future β) : Future β :=
  match x with
  | successful value => f value
  | failed exception => failed exception

/-- `recover` of every exception that is not fatal. -/
def recover (f : Text → α) : Future α → Future α
  | successful value => successful value
  | failed exception => successful (f exception)

variable {ε : Type}

/-- Go on with what is right, and pass on what is left. -/
def andThenRight (x : Future (Except ε α)) (f : α → Future (Except ε β)) :
    Future (Except ε β) :=
  x.flatMap fun result =>
    match result with
    | .error error => .successful (.error error)
    | .ok value => f value

theorem andThenRight_eq_ok_iff {x : Future (Except ε α)} {f : α → Future (Except ε β)} {b : β} :
    x.andThenRight f = .successful (.ok b) ↔
      ∃ a, x = .successful (.ok a) ∧ f a = .successful (.ok b) := by
  rcases x with (_ | a) | _ <;> simp [andThenRight, flatMap]

/-- A chain of futures that do not fail does not fail. -/
theorem andThenRight_successful {x : Future (Except ε α)} {f : α → Future (Except ε β)}
    (hx : ∃ r, x = .successful r) (hf : ∀ a, ∃ r, f a = .successful r) :
    ∃ r, x.andThenRight f = .successful r := by
  obtain ⟨r, rfl⟩ := hx
  cases r with
  | error error => exact ⟨_, rfl⟩
  | ok a => exact hf a

end Future

/-- `GatewayControlError` -/
inductive GatewayControlError where
  | protocol (message : Text)
  | transport (message : Text)
  | rejected (status : ℕ)
  deriving DecidableEq

/-- `message` -/
def GatewayControlError.message : GatewayControlError → Text
  | protocol message => message
  | transport message => message
  | rejected status =>
    "Gateway rejected control operation: status=".toList ++ Nat.toDigits 10 status

/-- The part of `GatewayControlConfig` that decides what is accepted. -/
structure GatewayControlConfig where
  maxEnvelopeBytes : ℕ
  minimumSize_le : ProtectedEnvelopeV1.minimumSize ≤ maxEnvelopeBytes
  le_intMaxValue : maxEnvelopeBytes ≤ intMaxValue

namespace GatewayControl

/-! ## Frames -/

/-- What happens on a socket.  Behind the bytes that come the stream ends, or the read raises an
exception of the given class. -/
inductive Exchange where
  | refused (exception : Text)
  | answered (bytes : Bytes) (ending : Option Text)

/-- What the block of `attempt` throws. -/
inductive Thrown where
  | control (error : GatewayControlError)
  | other (exception : Text)

/-- `attempt` -/
def attempt {α : Type} (operation : Except Thrown α) : Except GatewayControlError α :=
  operation.mapError fun thrown =>
    match thrown with
    | .control error => error
    | .other exception => .transport ("Gateway control exchange failed: ".toList ++ exception)

/-- `fail` -/
def protocolError (parts : List Text) : Thrown := .control (.protocol parts.flatten)

def reencryptRequestType : Int32 := 12
def reencryptResponseType : Int32 := 13
def outerHeaderSize : ℕ := 16
def reencryptResponsePrefixSize : ℕ := 12
def controlVersion : UInt8 := 1
def reencryptToTargetOperation : UInt8 := 1
def reencryptResultToSourceOperation : UInt8 := 2

/-- `encodeOuterFrame`, in the order of the machine, which is little-endian. -/
def encodeOuterFrame (messageType : Int32) (bodySize : ℕ) : Bytes :=
  leBytes 4 messageType.toUInt32.toNat ++ (leBytes 8 bodySize ++ leBytes 4 0)

/-- An `int` in the order of the machine. -/
def nativeInt (b : Bytes) : Int32 := (UInt32.ofNat (ofLeBytes b)).toInt32

/-- A `long` in the order of the machine. -/
def nativeLong (b : Bytes) : Int64 := (UInt64.ofNat (ofLeBytes b)).toInt64

/-- `readExactly` from what is left of the stream. -/
def readExactly (stream : Bytes) (ending : Option Text) (size : ℕ) : Except Thrown Bytes :=
  if size ≤ stream.length then .ok (stream.take size)
  else .error (.other (ending.getD "EOFException".toList))

/-- `exchange`, once the request is sent. -/
def exchange (responseType : Int32) (minResponseSize maxResponseSize : Int) :
    Exchange → Except Thrown Bytes
  | .refused exception => .error (.other exception)
  | .answered bytes ending => do
    let header ← readExactly bytes ending outerHeaderSize
    let messageType := nativeInt (slice 0 4 header)
    let bodySize := (nativeLong (slice 4 8 header)).toInt
    check (0 ≤ bodySize) (protocolError ["negative Gateway FIFO body size".toList])
    check (messageType = responseType)
      (protocolError ["unexpected Gateway response type ".toList,
        (toString messageType.toInt).toList])
    check (minResponseSize ≤ bodySize ∧ bodySize ≤ maxResponseSize)
      (protocolError ["invalid Gateway response body size ".toList, (toString bodySize).toList])
    check (bodySize ≤ intMaxValue) (.other "NegativeArraySizeException".toList)
    readExactly (bytes.drop outerHeaderSize) ending bodySize.toNat

/-! ## Re-encryption -/

/-- A request to re-encrypt. -/
structure ReencryptRequest where
  operation : UInt8
  sourceBindingId : Int64
  targetBindingId : Int64
  envelope : ProtectedEnvelopeV1

/-- What is sent for a request.  An envelope that came as base64 text is far too short for the
size of the body to overflow. -/
def ReencryptRequest.frame (request : ReencryptRequest) : Bytes :=
  let body := [controlVersion, request.operation, 0, 0] ++ putLong request.sourceBindingId ++
    putLong request.targetBindingId ++ putInt (Int32.ofNat request.envelope.bytes.length) ++
    request.envelope.bytes
  encodeOuterFrame reencryptRequestType body.length ++ body

/-- What the answer to a request must have kept, and what it must be for. -/
structure Preserves (input output : ProtectedEnvelopeV1)
    (expectedDirection : ProtectedEnvelopeDirection) (expectedBindingId : Int64) : Prop where
  direction_eq : output.1.direction = expectedDirection
  bindingId_eq : output.1.bindingId = expectedBindingId
  kind_eq : output.1.kind = input.1.kind
  correlationKind_eq : output.1.correlationKind = input.1.correlationKind
  correlationHash_eq : output.1.correlationHash = input.1.correlationHash

/-- `decodeReencryptResponse` -/
def decodeReencryptResponse (operation : UInt8) (inputEnvelope : ProtectedEnvelopeV1)
    (expectedDirection : ProtectedEnvelopeDirection) (expectedBindingId : Int64) (body : Bytes) :
    Except Thrown ProtectedEnvelopeV1 := do
  let status := ofBigEndian (slice 4 4 body)
  let envelopeLength := (getInt (slice 8 4 body)).toInt
  check (ProtectedEnvelopeV1.byteAt 0 body = controlVersion ∧
      ProtectedEnvelopeV1.byteAt 1 body = operation ∧ slice 2 2 body = [0, 0])
    (protocolError ["invalid Gateway re-encryption response prefix".toList])
  check (status = 0) (.control (.rejected status))
  check (0 ≤ envelopeLength ∧
      (body.length : Int) = reencryptResponsePrefixSize + envelopeLength)
    (protocolError ["Gateway response envelope length mismatch".toList])
  let output ← (ProtectedEnvelopeV1.decode (body.drop reencryptResponsePrefixSize)).mapError
    fun message => protocolError ["invalid Gateway output envelope: ".toList, message]
  check (output.1.direction = expectedDirection ∧ output.1.bindingId = expectedBindingId ∧
      output.1.kind = inputEnvelope.1.kind ∧
      output.1.correlationKind = inputEnvelope.1.correlationKind ∧
      output.1.correlationHash = inputEnvelope.1.correlationHash)
    (protocolError ["Gateway output envelope does not preserve bound correlation".toList])
  .ok output

/-- `validateEnvelopeSize` -/
def validateEnvelopeSize (config : GatewayControlConfig) (envelope : ProtectedEnvelopeV1) :
    Except GatewayControlError Unit :=
  check (envelope.bytes.length ≤ config.maxEnvelopeBytes)
    (.protocol "Gateway input envelope exceeds configured maximum".toList)

/-- `validateToTarget` -/
def validateToTarget (config : GatewayControlConfig) (targetBindingId : Int64)
    (envelope : ProtectedEnvelopeV1) : Except GatewayControlError Unit := do
  check (0 < targetBindingId) (.protocol "target binding id must be positive".toList)
  check (envelope.1.direction = .sourceToGateway)
    (.protocol "Gateway input envelope must use S2G direction".toList)
  check (envelope.1.kind = .code ∨ envelope.1.kind = .input)
    (.protocol "Gateway to-target operation accepts only CODE or INPUT".toList)
  validateEnvelopeSize config envelope

/-- `validateToSource` -/
def validateToSource (config : GatewayControlConfig) (sourceBindingId targetBindingId : Int64)
    (envelope : ProtectedEnvelopeV1) : Except GatewayControlError Unit := do
  check (0 < sourceBindingId) (.protocol "source binding id must be positive".toList)
  check (0 < targetBindingId) (.protocol "target binding id must be positive".toList)
  check (envelope.1.direction = .targetToGateway)
    (.protocol "Gateway result envelope must use T2G direction".toList)
  check (envelope.1.bindingId = targetBindingId)
    (.protocol "Gateway result envelope has the wrong target binding".toList)
  check (envelope.1.kind = .result)
    (.protocol "Gateway result operation accepts only RESULT".toList)
  validateEnvelopeSize config envelope

/-- `reencrypt` -/
def reencrypt (config : GatewayControlConfig) (gateway : Bytes → Exchange)
    (request : ReencryptRequest) (expectedDirection : ProtectedEnvelopeDirection)
    (expectedBindingId : Int64) : Except Thrown ProtectedEnvelopeV1 := do
  let body ← exchange reencryptResponseType reencryptResponsePrefixSize
    (reencryptResponsePrefixSize + config.maxEnvelopeBytes) (gateway request.frame)
  decodeReencryptResponse request.operation request.envelope expectedDirection expectedBindingId
    body

/-- `reencryptToTarget`; the Gateway answers a frame with what happens on the socket. -/
def reencryptToTarget (config : GatewayControlConfig) (gateway : Bytes → Exchange)
    (targetBindingId : Int64) (sourceEnvelope : ProtectedEnvelopeV1) :
    Except GatewayControlError ProtectedEnvelopeV1 := do
  validateToTarget config targetBindingId sourceEnvelope
  attempt (reencrypt config gateway
    ⟨reencryptToTargetOperation, sourceEnvelope.1.bindingId, targetBindingId, sourceEnvelope⟩
    .gatewayToTarget targetBindingId)

/-- `reencryptResultToSource` -/
def reencryptResultToSource (config : GatewayControlConfig) (gateway : Bytes → Exchange)
    (sourceBindingId targetBindingId : Int64) (targetEnvelope : ProtectedEnvelopeV1) :
    Except GatewayControlError ProtectedEnvelopeV1 := do
  validateToSource config sourceBindingId targetBindingId targetEnvelope
  attempt (reencrypt config gateway
    ⟨reencryptResultToSourceOperation, sourceBindingId, targetBindingId, targetEnvelope⟩
    .gatewayToSource sourceBindingId)

/-- Behind the header and the numbers of a request stands its envelope. -/
theorem ReencryptRequest.drop_frame (request : ReencryptRequest) :
    request.frame.drop 40 = request.envelope.bytes := by
  unfold frame
  rw [← List.append_assoc]
  refine List.drop_left' ?_
  simp only [encodeOuterFrame, List.length_append, length_leBytes, length_putLong,
    length_putInt, List.length_cons, List.length_nil]

/-! ## What an answer cannot change -/

variable {config : GatewayControlConfig} {gateway : Bytes → Exchange}

theorem attempt_eq_ok_iff {α : Type} {operation : Except Thrown α} {a : α} :
    attempt operation = .ok a ↔ operation = .ok a := mapError_eq_ok_iff

/-- An answer that is accepted preserves what it was asked to. -/
theorem preserves_of_decode {operation : UInt8} {input output : ProtectedEnvelopeV1}
    {expectedDirection : ProtectedEnvelopeDirection} {expectedBindingId : Int64} {body : Bytes}
    (h : decodeReencryptResponse operation input expectedDirection expectedBindingId body =
      .ok output) : Preserves input output expectedDirection expectedBindingId := by
  unfold decodeReencryptResponse at h
  simp only [bind_eq_ok_iff, check_eq_ok_iff, mapError_eq_ok_iff, Except.ok.injEq] at h
  obtain ⟨-, -, -, -, -, -, output, -, -, ⟨hdirection, hbinding, hkind, hcorrelation, hhash⟩,
    rfl⟩ := h
  exact ⟨hdirection, hbinding, hkind, hcorrelation, hhash⟩

theorem preserves_of_reencrypt {request : ReencryptRequest}
    {expectedDirection : ProtectedEnvelopeDirection} {expectedBindingId : Int64}
    {output : ProtectedEnvelopeV1}
    (h : reencrypt config gateway request expectedDirection expectedBindingId = .ok output) :
    Preserves request.envelope output expectedDirection expectedBindingId := by
  obtain ⟨body, -, hdecode⟩ := bind_eq_ok_iff.mp h
  exact preserves_of_decode hdecode

/-- **To the target**: whatever bytes the Gateway sends, what is accepted is the same object for
the target. -/
theorem preserves_of_reencryptToTarget {targetBindingId : Int64}
    {source output : ProtectedEnvelopeV1}
    (h : reencryptToTarget config gateway targetBindingId source = .ok output) :
    Preserves source output .gatewayToTarget targetBindingId := by
  obtain ⟨-, -, h⟩ := bind_eq_ok_iff.mp h
  exact preserves_of_reencrypt (attempt_eq_ok_iff.mp h)

/-- **To the source**: whatever bytes the Gateway sends, what is accepted is the same object for
the source. -/
theorem preserves_of_reencryptResultToSource {sourceBindingId targetBindingId : Int64}
    {target output : ProtectedEnvelopeV1}
    (h : reencryptResultToSource config gateway sourceBindingId targetBindingId target =
      .ok output) : Preserves target output .gatewayToSource sourceBindingId := by
  obtain ⟨-, -, h⟩ := bind_eq_ok_iff.mp h
  exact preserves_of_reencrypt (attempt_eq_ok_iff.mp h)

/-! ## A Gateway that is understood -/

theorem length_encodeOuterFrame (messageType : Int32) (bodySize : ℕ) :
    (encodeOuterFrame messageType bodySize).length = outerHeaderSize := by
  simp only [encodeOuterFrame, List.length_append, length_leBytes, outerHeaderSize]

/-- The type and the size in a header are read back. -/
theorem slice_encodeOuterFrame (messageType : Int32) {bodySize : ℕ} (h : bodySize < 2 ^ 63) :
    nativeInt (slice 0 4 (encodeOuterFrame messageType bodySize)) = messageType ∧
      (nativeLong (slice 4 8 (encodeOuterFrame messageType bodySize))).toInt = bodySize := by
  have htype : messageType.toUInt32.toNat < 256 ^ 4 := messageType.toUInt32.toNat_lt
  have hsize : bodySize < 256 ^ 8 := by omega
  constructor
  · unfold encodeOuterFrame nativeInt
    rw [slice_append_left (length_leBytes 4 _), ofLeBytes_leBytes htype, UInt32.ofNat_toNat]
    rfl
  · unfold encodeOuterFrame nativeLong
    rw [slice_append_of_le (length_leBytes 4 _).le, length_leBytes,
      slice_append_left (length_leBytes 8 _), ofLeBytes_leBytes hsize]
    exact Int64.toInt_ofNat_of_lt h

/-- **A frame** of an expected type and size gives its body. -/
theorem exchange_frame {responseType : Int32} {minResponseSize maxResponseSize : Int}
    {body : Bytes} (hmin : minResponseSize ≤ body.length) (hmax : body.length ≤ maxResponseSize)
    (hfits : body.length ≤ intMaxValue) :
    exchange responseType minResponseSize maxResponseSize
      (.answered (encodeOuterFrame responseType body.length ++ body) none) = .ok body := by
  have hlt : body.length < 2 ^ 63 := by
    unfold intMaxValue at hfits
    omega
  have hheader : readExactly (encodeOuterFrame responseType body.length ++ body) none
      outerHeaderSize = .ok (encodeOuterFrame responseType body.length) := by
    unfold readExactly
    rw [if_pos (by rw [List.length_append, length_encodeOuterFrame]; omega),
      List.take_left' (length_encodeOuterFrame ..)]
  obtain ⟨htype, hsize⟩ := slice_encodeOuterFrame responseType hlt
  have hbody : readExactly body none body.length = .ok body := by
    unfold readExactly
    rw [if_pos le_rfl, List.take_length]
  simp only [exchange, hheader, ok_bind, htype, hsize,
    List.drop_left' (length_encodeOuterFrame ..), bind_eq_ok_iff, check_eq_ok_iff,
    Int.toNat_natCast, hbody]
  exact ⟨(), Int.natCast_nonneg _, (), trivial, (), ⟨hmin, hmax⟩, (), by omega, trivial⟩

/-- The body with which a Gateway answers a request by an envelope. -/
def answerBody (operation : UInt8) (output : ProtectedEnvelopeV1) : Bytes :=
  [controlVersion, operation, 0, 0] ++ ([0, 0, 0, 0] ++
    (putInt (Int32.ofNat output.bytes.length) ++ output.bytes))

/-- The frame of that body. -/
def answerFrame (operation : UInt8) (output : ProtectedEnvelopeV1) : Bytes :=
  encodeOuterFrame reencryptResponseType (answerBody operation output).length ++
    answerBody operation output

theorem length_answerBody (operation : UInt8) (output : ProtectedEnvelopeV1) :
    (answerBody operation output).length =
      reencryptResponsePrefixSize + output.bytes.length := by
  simp only [answerBody, List.length_append, List.length_cons, List.length_nil, length_putInt,
    reencryptResponsePrefixSize]
  omega

/-- A body with an envelope that preserves the correlation is accepted. -/
theorem decodeReencryptResponse_answerBody {operation : UInt8}
    {input output : ProtectedEnvelopeV1} {expectedDirection : ProtectedEnvelopeDirection}
    {expectedBindingId : Int64}
    (h : Preserves input output expectedDirection expectedBindingId) :
    decodeReencryptResponse operation input expectedDirection expectedBindingId
      (answerBody operation output) = .ok output := by
  have hlength : (getInt (slice 8 4 (answerBody operation output))).toInt =
      output.bytes.length := by
    have hslice : slice 8 4 (answerBody operation output) =
        putInt (Int32.ofNat output.bytes.length) := slice_append_left (length_putInt _) _
    have hlt := output.length_bytes_le
    unfold intMaxValue at hlt
    rw [hslice, getInt_putInt]
    exact Int32.toInt_ofNat_of_lt (by omega)
  have hdrop : (answerBody operation output).drop reencryptResponsePrefixSize =
      output.bytes := by
    show (([controlVersion, operation, 0, 0, 0, 0, 0, 0] ++
      putInt (Int32.ofNat output.bytes.length)) ++ output.bytes).drop 12 = output.bytes
    exact List.drop_left' (by rw [List.length_append, length_putInt]; rfl)
  unfold decodeReencryptResponse
  simp only [bind_eq_ok_iff, check_eq_ok_iff, mapError_eq_ok_iff, Except.ok.injEq, hlength,
    hdrop, ProtectedEnvelopeV1.decode_eq_ok_iff]
  refine ⟨(), ⟨rfl, rfl, rfl⟩, (), rfl, (), ⟨Int.natCast_nonneg _, ?_⟩, output, rfl, (),
    ⟨h.direction_eq, h.bindingId_eq, h.kind_eq, h.correlationKind_eq, h.correlationHash_eq⟩, rfl⟩
  rw [length_answerBody]
  omega

/-- **A Gateway that answers** with an envelope that preserves the correlation is understood. -/
theorem reencrypt_answerFrame {request : ReencryptRequest}
    {expectedDirection : ProtectedEnvelopeDirection} {expectedBindingId : Int64}
    {output : ProtectedEnvelopeV1}
    (hanswer : gateway request.frame = .answered (answerFrame request.operation output) none)
    (h : Preserves request.envelope output expectedDirection expectedBindingId)
    (hsize : output.bytes.length ≤ config.maxEnvelopeBytes)
    (hfits : reencryptResponsePrefixSize + output.bytes.length ≤ intMaxValue) :
    reencrypt config gateway request expectedDirection expectedBindingId = .ok output := by
  have hlength := length_answerBody request.operation output
  unfold reencrypt
  rw [hanswer, answerFrame, exchange_frame (by omega) (by omega) (by omega), ok_bind,
    decodeReencryptResponse_answerBody h]

/-- An answer to a request that the client sends. -/
theorem reencryptToTarget_answerFrame {targetBindingId : Int64}
    {source output : ProtectedEnvelopeV1} (hpos : 0 < targetBindingId)
    (hdirection : source.1.direction = .sourceToGateway)
    (hkind : source.1.kind = .code ∨ source.1.kind = .input)
    (hsource : source.bytes.length ≤ config.maxEnvelopeBytes)
    (hanswer : gateway (ReencryptRequest.frame ⟨reencryptToTargetOperation, source.1.bindingId,
      targetBindingId, source⟩) =
        .answered (answerFrame reencryptToTargetOperation output) none)
    (h : Preserves source output .gatewayToTarget targetBindingId)
    (hsize : output.bytes.length ≤ config.maxEnvelopeBytes)
    (hfits : reencryptResponsePrefixSize + output.bytes.length ≤ intMaxValue) :
    reencryptToTarget config gateway targetBindingId source = .ok output := by
  have hvalid : validateToTarget config targetBindingId source = .ok () := by
    unfold validateToTarget validateEnvelopeSize
    simp only [bind_eq_ok_iff, check_eq_ok_iff]
    exact ⟨(), hpos, (), hdirection, (), hkind, hsource⟩
  unfold reencryptToTarget
  rw [hvalid, ok_bind, reencrypt_answerFrame hanswer h hsize hfits]
  rfl

/-- For the target there is always an envelope to answer with. -/
theorem exists_preserves_gatewayToTarget {source : ProtectedEnvelopeV1} {targetBindingId : Int64}
    (hpos : 0 < targetBindingId) (hdirection : source.1.direction = .sourceToGateway) :
    ∃ output, Preserves source output .gatewayToTarget targetBindingId ∧
      output.bytes.length = ProtectedEnvelopeV1.minimumSize := by
  set fields : EnvelopeFields := { source.1 with
    direction := .gatewayToTarget
    bindingId := targetBindingId
    ciphertext := [] } with hfields
  have hwell : fields.WellFormed := by
    refine ⟨hpos, show 60 + 0 + 16 ≤ intMaxValue by decide, ?_⟩
    have hdomain := source.2.ivDomain_eq
    rw [hdirection] at hdomain
    exact hdomain
  exact ⟨⟨fields, hwell⟩, ⟨rfl, rfl, rfl, rfl, rfl⟩, ProtectedEnvelopeV1.length_bytes _⟩

end GatewayControl
end OpenWhisk
end AsynCS
