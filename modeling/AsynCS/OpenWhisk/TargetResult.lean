import AsynCS.OpenWhisk.GatewayControl

/-!
# Results of target-bound activations

The invoker reads the envelope that the runtime of a target-bound activation returns and wraps it
as a target result.  The controller finds a target result in an activation and has the Gateway
re-encrypt it for the source.

* `targetBoundRuntimeResponse`: what the invoker makes of a response, with
  `targetBoundRuntimeResponse_of_success` and `targetBoundRuntimeResponse_of_not_success`.
* `finalizeResult`: `P1GatewayResultFinalizer`, with what it asks the Gateway;
  `finalizeResult_of_not_contains`, `finalizeResult_of_error` and `finalizeResult_of_ok` are its
  three ways.
-/

namespace AsynCS
namespace OpenWhisk
namespace TargetBound

open TargetBoundActivationContent GatewayControl

/-! ## Responses -/

/-- The status of an `ActivationResponse`. -/
inductive Status where
  | success
  | applicationError
  | developerError
  | whiskError
  deriving DecidableEq

/-- `ActivationResponse` -/
structure ActivationResponse where
  status : Status
  result : Option JsValue

namespace ActivationResponse

def isSuccess (r : ActivationResponse) : Bool := r.status = .success

def isWhiskError (r : ActivationResponse) : Bool := r.status = .whiskError

def success (result : JsValue) : ActivationResponse := ⟨.success, some result⟩

/-- `whiskError` of a message. -/
def whiskError (message : Text) : ActivationResponse :=
  ⟨.whiskError, some (.object [("error".toList, .string message)])⟩

end ActivationResponse

/-- A `WhiskActivation`: its response, and the fields that are only passed on. -/
structure WhiskActivation (α : Type) where
  response : ActivationResponse
  others : α

/-! ## In the invoker -/

def p2ResultEnvelopeField : Text := "__reusable_protected_result_envelope".toList
def p2RequestIdHashField : Text := "__reusable_request_id_hash".toList
def p2TargetBindingField : Text := "__reusable_target_binding_id".toList

/-- `isValidInt`, and the number. -/
def validInt (value : ℚ) : Option Int :=
  if value.den = 1 ∧ -2 ^ 31 ≤ value.num ∧ value.num < 2 ^ 31 then some value.num else none

/-- `isValidLong`, and the number. -/
def validLong (value : ℚ) : Option Int64 := if value.den = 1 then toLong value.num else none

/-- The target binding that a result names. -/
def runtimeTargetBinding (result : JsValue.Fields) : Except Text Int64 :=
  match result.get p2TargetBindingField with
  | some (.number value) =>
    orError (validLong value) "protected runtime result is missing its target binding".toList
  | some (.string value) =>
    orError (parseLong value) "protected runtime result has an invalid target binding".toList
  | _ => .error "protected runtime result is missing its target binding".toList

/-- What the invoker reads of a response of the runtime. -/
structure RuntimeResult where
  envelope : ProtectedEnvelopeV1
  requestIdHash : Text
  targetBindingId : Int64

/-- The checks of `targetBoundRuntimeResponse` that do not depend on the dispatch. -/
def readRuntimeResult (response : ActivationResponse) : Except Text RuntimeResult := do
  let outer ← orError (response.result.bind JsValue.asObject)
    "protected runtime response is not an object".toList
  let runtimeSuccess ← orError ((outer.get "success".toList).bind JsValue.asBoolean)
    "protected runtime response is missing success".toList
  let statusCode ← orError
    (((outer.get "status_code".toList).bind JsValue.asNumber).bind validInt)
    "protected runtime response is missing status_code".toList
  check (runtimeSuccess = true ∧ statusCode = 0)
    "protected runtime reported an application failure".toList
  let result ← orError ((outer.get "result".toList).bind JsValue.asObject)
    "protected runtime result is not an object".toList
  let encodedEnvelope ← orError ((result.get p2ResultEnvelopeField).bind JsValue.asString)
    "protected runtime result is missing its T2G envelope".toList
  let envelopeBytes ← orError (base64Decode encodedEnvelope)
    "protected runtime result envelope is not base64".toList
  let envelope ← ProtectedEnvelopeV1.decode envelopeBytes
  let requestIdHash ← orError
    (((result.get p2RequestIdHashField).bind JsValue.asString).filter (isRequestIdHash ·))
    "protected runtime result has an invalid request correlation".toList
  let targetBindingId ← runtimeTargetBinding result
  .ok ⟨envelope, requestIdHash, targetBindingId⟩

/-- The fields that must match the dispatch. -/
structure RuntimeResult.Matches (r : RuntimeResult) (dispatch : TargetDispatch) : Prop where
  targetBindingId_eq : r.targetBindingId = dispatch.targetBindingId
  bindingId_eq : r.envelope.1.bindingId = dispatch.targetBindingId
  kind_eq : r.envelope.1.kind = .result
  direction_eq : r.envelope.1.direction = .targetToGateway
  requestIdHash_eq : r.requestIdHash = requestIdHashOf dispatch.targetInput
  correlationHash_eq : r.envelope.1.correlationHash = dispatch.targetInput.1.correlationHash

theorem RuntimeResult.matches_iff (r : RuntimeResult) (dispatch : TargetDispatch) :
    r.Matches dispatch ↔ r.targetBindingId = dispatch.targetBindingId ∧
      r.envelope.1.bindingId = dispatch.targetBindingId ∧ r.envelope.1.kind = .result ∧
      r.envelope.1.direction = .targetToGateway ∧
      r.requestIdHash = requestIdHashOf dispatch.targetInput ∧
      r.envelope.1.correlationHash = dispatch.targetInput.1.correlationHash :=
  ⟨fun h => ⟨h.1, h.2, h.3, h.4, h.5, h.6⟩,
    fun h => ⟨h.1, h.2.1, h.2.2.1, h.2.2.2.1, h.2.2.2.2.1, h.2.2.2.2.2⟩⟩

instance (r : RuntimeResult) (dispatch : TargetDispatch) : Decidable (r.Matches dispatch) :=
  decidable_of_iff' _ (r.matches_iff dispatch)

/-- The result that the invoker makes of what it read. -/
def RuntimeResult.targetResult (r : RuntimeResult) (dispatch : TargetDispatch) : TargetResult where
  sourceBindingId := dispatch.sourceBindingId
  targetBindingId := dispatch.targetBindingId
  requestIdHash := r.requestIdHash
  targetEnvelope := r.envelope

/-- The target result in a response that matches the dispatch. -/
def runtimeTargetResult (dispatch : TargetDispatch) (response : ActivationResponse) :
    Except Text TargetResult := do
  let r ← readRuntimeResult response
  check (r.Matches dispatch)
    "protected runtime result does not match its target/request correlation".toList
  .ok (r.targetResult dispatch)

/-- `targetBoundRuntimeResponse` -/
def targetBoundRuntimeResponse (dispatch : TargetDispatch) (response : ActivationResponse) :
    ActivationResponse :=
  if response.isSuccess then
    match runtimeTargetResult dispatch response with
    | .ok target => .success (targetResult target)
    | .error message => .whiskError message
  else response

/-! ## In the controller -/

/-- `containsTargetResult` -/
def containsTargetResult (result : Option JsValue) : Bool :=
  ((result.bind JsValue.asObject).bind fun fields => fields.get resultRootField).isSome

/-- `systemError` -/
def systemError {α : Type} (activation : WhiskActivation α) (reason : Text) : WhiskActivation α :=
  { activation with
    response := .whiskError ("target result finalization failed: ".toList ++ reason) }

def clientEnvelopeField : Text := "__reusable_protected_result_envelope".toList
def clientRequestIdHashField : Text := "__reusable_request_id_hash".toList
def clientSourceBindingField : Text := "__reusable_source_binding_id".toList

/-- The result that the client gets. -/
def clientResult (target : TargetResult) (sourceEnvelope : ProtectedEnvelopeV1) : JsValue :=
  .object [(clientEnvelopeField, .string (b64text sourceEnvelope.bytes)),
    (clientRequestIdHashField, .string target.requestIdHash),
    (clientSourceBindingField, .string (longText target.sourceBindingId))]

/-- `reencryptResultToSource` of a `GatewayControlClient`. -/
abbrev ToSource := Int64 → Int64 → ProtectedEnvelopeV1 →
  Future (Except GatewayControlError ProtectedEnvelopeV1)

/-- `finalizeResult` of the controller that is not configured. -/
def unconfiguredFinalizeResult {α : Type} (activation : WhiskActivation α) :
    Future (Except Text (WhiskActivation α)) :=
  .successful <|
    if containsTargetResult activation.response.result then
      .error "Gateway result finalizer is unavailable".toList
    else .ok activation

/-- What becomes of the reply to a call of `reencryptResultToSource`. -/
def finishResult {α : Type} (activation : WhiskActivation α) (target : TargetResult) :
    Future (Except GatewayControlError ProtectedEnvelopeV1) →
      Except Text (WhiskActivation α)
  | .failed exception => .error ("Gateway result exchange failed: ".toList ++ exception)
  | .successful (.error error) => .error error.message
  | .successful (.ok sourceEnvelope) =>
    .ok { activation with response := .success (clientResult target sourceEnvelope) }

/-- `P1GatewayResultFinalizer.finalizeResult`, with the target results for which it calls
`reencryptResultToSource`. -/
def finalizeResult {α : Type} (gatewayClient : ToSource) (activation : WhiskActivation α) :
    List TargetResult × Future (Except Text (WhiskActivation α)) :=
  if containsTargetResult activation.response.result then
    match parseTargetResult activation.response.result with
    | .error error => ([], .successful (.error error.targetReencryptionError))
    | .ok target =>
      ([target], .successful (finishResult activation target
        (gatewayClient target.sourceBindingId target.targetBindingId target.targetEnvelope)))
  else ([], .successful (.ok activation))

/-! ## What the invoker makes of a response -/

variable {α : Type} {dispatch : TargetDispatch} {response : ActivationResponse}

theorem targetBoundRuntimeResponse_of_not_success (h : response.isSuccess = false) :
    targetBoundRuntimeResponse dispatch response = response := by
  unfold targetBoundRuntimeResponse
  rw [h]
  rfl

theorem runtimeTargetResult_eq_ok_iff {target : TargetResult} :
    runtimeTargetResult dispatch response = .ok target ↔
      ∃ r, readRuntimeResult response = .ok r ∧ r.Matches dispatch ∧
        target = r.targetResult dispatch := by
  unfold runtimeTargetResult
  simp only [bind_eq_ok_iff, check_eq_ok_iff, Except.ok.injEq]
  constructor
  · rintro ⟨r, hr, -, hmatches, rfl⟩
    exact ⟨r, hr, hmatches, rfl⟩
  · rintro ⟨r, hr, hmatches, rfl⟩
    exact ⟨r, hr, (), hmatches, rfl⟩

/-- A response with a target result becomes that. -/
theorem targetBoundRuntimeResponse_of_ok {target : TargetResult} (h : response.isSuccess = true)
    (htarget : runtimeTargetResult dispatch response = .ok target) :
    targetBoundRuntimeResponse dispatch response = .success (targetResult target) := by
  unfold targetBoundRuntimeResponse
  rw [if_pos h, htarget]

/-- **A response that succeeded** becomes a target result or a system error. -/
theorem targetBoundRuntimeResponse_of_success (dispatch : TargetDispatch)
    (h : response.isSuccess = true) :
    (∃ target, runtimeTargetResult dispatch response = .ok target ∧
      targetBoundRuntimeResponse dispatch response = .success (targetResult target)) ∨
    ∃ message, targetBoundRuntimeResponse dispatch response = .whiskError message := by
  unfold targetBoundRuntimeResponse
  rw [if_pos h]
  cases runtimeTargetResult dispatch response with
  | ok target => exact .inl ⟨target, rfl, rfl⟩
  | error message => exact .inr ⟨message, rfl⟩

/-- What is read of a response has a request id hash of the right form. -/
theorem isRequestIdHash_of_readRuntimeResult {r : RuntimeResult}
    (h : readRuntimeResult response = .ok r) : isRequestIdHash r.requestIdHash = true := by
  unfold readRuntimeResult at h
  simp only [bind_eq_ok_iff, orError_eq_ok_iff, check_eq_ok_iff, Except.ok.injEq,
    Option.filter_eq_some_iff] at h
  obtain ⟨-, -, -, -, -, -, -, -, -, -, -, -, -, -, envelope, -, hash, ⟨-, hhash⟩, -, -, rfl⟩ := h
  exact hhash

/-- The response of a runtime that ran, with a result of three fields. -/
def runtimeResponse (r : RuntimeResult) : ActivationResponse :=
  .success (.object [("success".toList, .boolean true), ("status_code".toList, .number 0),
    ("result".toList, .object
      [(p2ResultEnvelopeField, .string (b64text r.envelope.bytes)),
        (p2RequestIdHashField, .string r.requestIdHash),
        (p2TargetBindingField, .string (longText r.targetBindingId))])])

/-- The response of a runtime that ran is read. -/
theorem readRuntimeResult_runtimeResponse {r : RuntimeResult}
    (h : isRequestIdHash r.requestIdHash = true) :
    readRuntimeResult (runtimeResponse r) = .ok r := by
  set result : JsValue.Fields := [(p2ResultEnvelopeField, .string (b64text r.envelope.bytes)),
    (p2RequestIdHashField, .string r.requestIdHash),
    (p2TargetBindingField, .string (longText r.targetBindingId))] with hresult
  set outer : JsValue.Fields := [("success".toList, .boolean true),
    ("status_code".toList, .number 0), ("result".toList, .object result)] with houter
  have houterKeys : (outer.map Prod.fst).Nodup :=
    show ["success".toList, "status_code".toList, "result".toList].Nodup by decide
  have hkeys : (result.map Prod.fst).Nodup :=
    show [p2ResultEnvelopeField, p2RequestIdHashField, p2TargetBindingField].Nodup by decide
  have hsuccess : outer.get "success".toList = some (.boolean true) :=
    JsValue.Fields.get_of_mem houterKeys (by simp [houter])
  have hstatus : outer.get "status_code".toList = some (.number 0) :=
    JsValue.Fields.get_of_mem houterKeys (by simp [houter])
  have hobject : outer.get "result".toList = some (.object result) :=
    JsValue.Fields.get_of_mem houterKeys (by simp [houter])
  have henvelope : result.get p2ResultEnvelopeField = some (.string (b64text r.envelope.bytes)) :=
    JsValue.Fields.get_of_mem hkeys (by simp [hresult])
  have hhash : result.get p2RequestIdHashField = some (.string r.requestIdHash) :=
    JsValue.Fields.get_of_mem hkeys (by simp [hresult])
  have hbinding : result.get p2TargetBindingField =
      some (.string (longText r.targetBindingId)) :=
    JsValue.Fields.get_of_mem hkeys (by simp [hresult])
  have htarget : runtimeTargetBinding result = .ok r.targetBindingId := by
    unfold runtimeTargetBinding
    rw [hbinding]
    exact orError_eq_ok_iff.mpr (parseLong_longText _)
  unfold readRuntimeResult
  simp only [bind_eq_ok_iff, orError_eq_ok_iff, check_eq_ok_iff, Except.ok.injEq,
    Option.filter_eq_some_iff, ProtectedEnvelopeV1.decode_eq_ok_iff]
  exact ⟨outer, rfl, true, by rw [hsuccess]; rfl, 0, by rw [hstatus]; rfl, (), ⟨rfl, rfl⟩, result,
    by rw [hobject]; rfl, _, by rw [henvelope]; rfl, _, base64Decode_b64text _, r.envelope, rfl,
    r.requestIdHash, ⟨by rw [hhash]; rfl, h⟩, r.targetBindingId, htarget, rfl⟩

/-! ## What the controller makes of an activation -/

variable {gatewayClient : ToSource} {activation : WhiskActivation α}

theorem finalizeResult_of_not_contains
    (h : containsTargetResult activation.response.result = false) :
    finalizeResult gatewayClient activation = ([], .successful (.ok activation)) := by
  unfold finalizeResult
  rw [h]
  rfl

theorem finalizeResult_of_error {error : TargetReencryptionError}
    (h : containsTargetResult activation.response.result = true)
    (hparse : parseTargetResult activation.response.result = .error error) :
    finalizeResult gatewayClient activation =
      ([], .successful (.error error.targetReencryptionError)) := by
  unfold finalizeResult
  rw [if_pos h, hparse]

theorem finalizeResult_of_ok {target : TargetResult}
    (h : containsTargetResult activation.response.result = true)
    (hparse : parseTargetResult activation.response.result = .ok target) :
    finalizeResult gatewayClient activation =
      ([target], .successful (finishResult activation target
        (gatewayClient target.sourceBindingId target.targetBindingId target.targetEnvelope))) := by
  unfold finalizeResult
  rw [if_pos h, hparse]

/-- What becomes of a reply is an error, or the result for the client. -/
theorem finishResult_cases (activation : WhiskActivation α) (target : TargetResult)
    (reply : Future (Except GatewayControlError ProtectedEnvelopeV1)) :
    (∃ reason, finishResult activation target reply = .error reason) ∨
      ∃ sourceEnvelope, reply = .successful (.ok sourceEnvelope) ∧
        finishResult activation target reply =
          .ok { activation with response := .success (clientResult target sourceEnvelope) } := by
  rcases reply with (error | sourceEnvelope) | exception
  · exact .inl ⟨_, rfl⟩
  · exact .inr ⟨sourceEnvelope, rfl, rfl⟩
  · exact .inl ⟨_, rfl⟩

/-- **The finalizer** does not fail its future. -/
theorem finalizeResult_successful (gatewayClient : ToSource) (activation : WhiskActivation α) :
    ∃ result, (finalizeResult gatewayClient activation).2 = .successful result := by
  cases hcontains : containsTargetResult activation.response.result with
  | false => exact ⟨_, by rw [finalizeResult_of_not_contains hcontains]⟩
  | true =>
    cases hparse : parseTargetResult activation.response.result with
    | error error => exact ⟨_, by rw [finalizeResult_of_error hcontains hparse]⟩
    | ok target => exact ⟨_, by rw [finalizeResult_of_ok hcontains hparse]⟩

/-- A target result is found. -/
theorem containsTargetResult_targetResult (target : TargetResult) :
    containsTargetResult (some (targetResult target)) = true := by
  unfold containsTargetResult targetResult
  simp only [Option.bind_some, JsValue.asObject, JsValue.Fields.get, List.lookup_cons_self,
    Option.isSome_some]

/-- The result of a system error holds no target result. -/
theorem containsTargetResult_whiskError (message : Text) :
    containsTargetResult (ActivationResponse.whiskError message).result = false := by
  have hget : JsValue.Fields.get [("error".toList, .string message)] resultRootField = none :=
    JsValue.Fields.get_eq_none (show resultRootField ∉ ["error".toList] by decide)
  show (JsValue.Fields.get [("error".toList, .string message)] resultRootField).isSome = false
  rw [hget]
  rfl

end TargetBound
end OpenWhisk
end AsynCS
