import AsynCS.OpenWhisk.TargetResult

/-!
# The result of a dispatch

The invoker, the codec of the content and the client of the Gateway each check fields of the
envelope that a runtime returns.

* `Correlates`, `ClientEnvelope`: what the controller and the client are owed for a dispatch.
* `CorrelationHolds`: that they get it of every success of the invoker, whatever the Gateway
  sends.
* `correlationHolds_iff`: the responses of which they do.
-/

namespace AsynCS
namespace OpenWhisk
namespace TargetBound

open TargetBoundActivationContent GatewayControl

variable {α : Type} {dispatch : TargetDispatch} {response : ActivationResponse}
  {config : GatewayControlConfig} {gateway : Bytes → Exchange}

/-- The client of the Gateway behind its futures, which do not fail. -/
def p1ToSource (config : GatewayControlConfig) (gateway : Bytes → Exchange) : ToSource :=
  fun sourceBindingId targetBindingId targetEnvelope =>
    .successful (reencryptResultToSource config gateway sourceBindingId targetBindingId
      targetEnvelope)

/-! ## What is owed for a dispatch -/

/-- The target result is that of the dispatch. -/
structure Correlates (dispatch : TargetDispatch) (target : TargetResult) : Prop where
  sourceBindingId_eq : target.sourceBindingId = dispatch.sourceBindingId
  targetBindingId_eq : target.targetBindingId = dispatch.targetBindingId
  requestIdHash_eq : target.requestIdHash = requestIdHashOf dispatch.targetInput

/-- The client gets a result for the source of the dispatch, correlated like its INPUT. -/
def ClientEnvelope (dispatch : TargetDispatch) (activation : WhiskActivation α) : Prop :=
  ∃ fields text bytes envelope,
    activation.response.result = some (.object fields) ∧
    JsValue.Fields.get fields clientEnvelopeField = some (.string text) ∧
    base64Decode text = some bytes ∧ ProtectedEnvelopeV1.decode bytes = .ok envelope ∧
    envelope.1.kind = .result ∧ envelope.1.direction = .gatewayToSource ∧
    envelope.1.bindingId = dispatch.sourceBindingId ∧
    envelope.1.correlationKind = dispatch.targetInput.1.correlationKind ∧
    envelope.1.correlationHash = dispatch.targetInput.1.correlationHash

/-- Of every success of the invoker the controller reads the result of the dispatch, and the
client gets it or an error. -/
def CorrelationHolds (α : Type) (content : Option JsValue) (response : ActivationResponse) :
    Prop :=
  ∀ dispatch, parseTargetDispatch content = .ok dispatch →
    (targetBoundRuntimeResponse dispatch response).isSuccess = true →
    (∃ target, parseTargetResult (targetBoundRuntimeResponse dispatch response).result =
      .ok target ∧ Correlates dispatch target) ∧
    ∀ config gateway (activation : WhiskActivation α),
      activation.response = targetBoundRuntimeResponse dispatch response →
      ∃ result, (finalizeResult (p1ToSource config gateway) activation).2 = .successful result ∧
        ∀ final, result = .ok final → ClientEnvelope dispatch final

/-! ## What the invoker lets through -/

/-- A success of the invoker is a target result that it made. -/
theorem runtimeTargetResult_of_isSuccess
    (h : (targetBoundRuntimeResponse dispatch response).isSuccess = true) :
    ∃ target, runtimeTargetResult dispatch response = .ok target ∧
      targetBoundRuntimeResponse dispatch response = .success (targetResult target) := by
  cases hsuccess : response.isSuccess with
  | false =>
    rw [targetBoundRuntimeResponse_of_not_success hsuccess, hsuccess] at h
    cases h
  | true =>
    rcases targetBoundRuntimeResponse_of_success dispatch hsuccess with h' | ⟨message, h'⟩
    · exact h'
    · rw [h'] at h
      cases h

/-- **One field is left to the controller**: what the invoker lets through is a target result
exactly when it is correlated by the request. -/
theorem valid_targetResult_iff (hdispatch : dispatch.Valid) {r : RuntimeResult}
    (hread : readRuntimeResult response = .ok r) (hmatches : r.Matches dispatch) :
    (r.targetResult dispatch).Valid ↔ r.envelope.1.correlationKind = .requestId := by
  constructor
  · intro h
    exact h.targetEnvelope.correlationKind_eq
  · intro h
    refine ⟨hdispatch.sourceBindingId_pos, hdispatch.targetBindingId_pos,
      isRequestIdHash_of_readRuntimeResult hread,
      ⟨hmatches.direction_eq, hmatches.kind_eq, hmatches.bindingId_eq, h⟩, ?_⟩
    show requestIdHashOf r.envelope = r.requestIdHash
    rw [hmatches.requestIdHash_eq]
    unfold requestIdHashOf
    rw [hmatches.correlationHash_eq]

/-- The result for the client holds the envelope. -/
theorem clientEnvelope_clientResult {target : TargetResult} {sourceEnvelope : ProtectedEnvelopeV1}
    (hcorrelates : Correlates dispatch target)
    (hhash : target.targetEnvelope.1.correlationHash = dispatch.targetInput.1.correlationHash)
    (hkind : target.targetEnvelope.1.correlationKind = dispatch.targetInput.1.correlationKind)
    (hresult : target.targetEnvelope.1.kind = .result)
    (h : Preserves target.targetEnvelope sourceEnvelope .gatewayToSource target.sourceBindingId)
    (others : α) :
    ClientEnvelope dispatch ⟨.success (clientResult target sourceEnvelope), others⟩ :=
  ⟨_, _, _, sourceEnvelope, rfl, List.lookup_cons_self, base64Decode_b64text _,
    ProtectedEnvelopeV1.decode_bytes sourceEnvelope, h.kind_eq.trans hresult, h.direction_eq,
    h.bindingId_eq.trans hcorrelates.sourceBindingId_eq, h.correlationKind_eq.trans hkind,
    h.correlationHash_eq.trans hhash⟩

/-! ## What the controller makes of it -/

/-- A result that the controller reads is handed to the client for the source of the dispatch. -/
theorem finalizeResult_clientEnvelope (hdispatch : dispatch.Valid) {r : RuntimeResult}
    (hmatches : r.Matches dispatch) (hvalid : (r.targetResult dispatch).Valid)
    {activation final : WhiskActivation α}
    (hresponse : activation.response.result = some (targetResult (r.targetResult dispatch)))
    (hfinal : (finalizeResult (p1ToSource config gateway) activation).2 =
      .successful (.ok final)) : ClientEnvelope dispatch final := by
  have hcontains : containsTargetResult activation.response.result = true := by
    rw [hresponse]
    exact containsTargetResult_targetResult _
  have hparse : parseTargetResult activation.response.result = .ok (r.targetResult dispatch) := by
    rw [hresponse]
    exact parseTargetResult_targetResult_iff.mpr ⟨rfl, hvalid⟩
  rw [finalizeResult_of_ok hcontains hparse, Future.successful.injEq] at hfinal
  rcases finishResult_cases activation (r.targetResult dispatch)
    (p1ToSource config gateway _ _ _) with ⟨reason, h⟩ | ⟨sourceEnvelope, hreply, h⟩
  · rw [h] at hfinal
    cases hfinal
  · rw [h, Except.ok.injEq] at hfinal
    subst hfinal
    have hpreserves := preserves_of_reencryptResultToSource (Future.successful.inj hreply)
    exact clientEnvelope_clientResult ⟨rfl, rfl, hmatches.requestIdHash_eq⟩
      hmatches.correlationHash_eq
      (hvalid.targetEnvelope.correlationKind_eq.trans
        hdispatch.targetInput.correlationKind_eq.symm) hmatches.kind_eq hpreserves activation.others

/-- **Every result of the invoker correlates** with its dispatch from the worker to the client
exactly when no envelope that matches a dispatch is correlated by a code object: the invoker does
not compare the correlation kind, and the controller does. -/
theorem correlationHolds_iff (α : Type) (content : Option JsValue)
    (response : ActivationResponse) :
    CorrelationHolds α content response ↔
      ∀ dispatch r, parseTargetDispatch content = .ok dispatch → response.isSuccess = true →
        readRuntimeResult response = .ok r → r.Matches dispatch →
        r.envelope.1.correlationKind = .requestId := by
  constructor
  · intro h dispatch r hdispatch hsuccess hread hmatches
    have htarget : runtimeTargetResult dispatch response = .ok (r.targetResult dispatch) :=
      runtimeTargetResult_eq_ok_iff.mpr ⟨r, hread, hmatches, rfl⟩
    have hresponse := targetBoundRuntimeResponse_of_ok hsuccess htarget
    obtain ⟨⟨target, hparse, -⟩, -⟩ := h dispatch hdispatch (by rw [hresponse]; rfl)
    rw [hresponse] at hparse
    obtain ⟨-, hvalid⟩ := parseTargetResult_targetResult_iff.mp hparse
    exact (valid_targetResult_iff (valid_of_parseTargetDispatch hdispatch) hread hmatches).mp hvalid
  · intro h dispatch hdispatch hfinal
    obtain ⟨target, htarget, hresponse⟩ := runtimeTargetResult_of_isSuccess hfinal
    obtain ⟨r, hread, hmatches, rfl⟩ := runtimeTargetResult_eq_ok_iff.mp htarget
    have hsuccess : response.isSuccess = true := by
      by_contra hno
      rw [targetBoundRuntimeResponse_of_not_success (Bool.eq_false_iff.mpr hno)] at hfinal
      exact hno hfinal
    have hvalidDispatch := valid_of_parseTargetDispatch hdispatch
    have hvalid := (valid_targetResult_iff hvalidDispatch hread hmatches).mpr
      (h dispatch r hdispatch hsuccess hread hmatches)
    refine ⟨⟨r.targetResult dispatch, ?_, ⟨rfl, rfl, hmatches.requestIdHash_eq⟩⟩, ?_⟩
    · rw [hresponse]
      exact parseTargetResult_targetResult_iff.mpr ⟨rfl, hvalid⟩
    · intro config gateway activation hactivation
      obtain ⟨result, hresult⟩ :=
        finalizeResult_successful (p1ToSource config gateway) activation
      refine ⟨result, hresult, ?_⟩
      rintro final rfl
      refine finalizeResult_clientEnvelope hvalidDispatch hmatches hvalid ?_ hresult
      rw [hactivation, hresponse]
      rfl

/-! ## A result that is correlated by a code object -/

theorem wellFormed_misfiledResult :
    (EnvelopeFields.empty .result .targetToGateway 42 .codeObject).WellFormed :=
  EnvelopeFields.wellFormed_empty .result .targetToGateway (by decide) .codeObject

/-- A RESULT for the dispatch that is correlated by a code object. -/
def misfiledResult : RuntimeResult where
  envelope := ⟨_, wellFormed_misfiledResult⟩
  requestIdHash := requestIdHashOf sampleDispatch.targetInput
  targetBindingId := 42

/-- The invoker takes such a result for a success, and the controller refuses it. -/
theorem misfiledResult_not_correlationHolds :
    ¬ CorrelationHolds Unit (some sampleDispatch.content) (runtimeResponse misfiledResult) := by
  intro h
  have hread : readRuntimeResult (runtimeResponse misfiledResult) = .ok misfiledResult :=
    readRuntimeResult_runtimeResponse (isRequestIdHash_requestIdHashOf _)
  have hmatches : misfiledResult.Matches sampleDispatch := ⟨rfl, rfl, rfl, rfl, rfl, rfl⟩
  have htarget : runtimeTargetResult sampleDispatch (runtimeResponse misfiledResult) =
      .ok (misfiledResult.targetResult sampleDispatch) :=
    runtimeTargetResult_eq_ok_iff.mpr ⟨misfiledResult, hread, hmatches, rfl⟩
  have hresponse := targetBoundRuntimeResponse_of_ok rfl htarget
  obtain ⟨⟨target, hparse, -⟩, -⟩ := h sampleDispatch
    (parseTargetDispatch_content sampleDispatch_valid) (by rw [hresponse]; rfl)
  rw [hresponse] at hparse
  obtain ⟨-, hvalid⟩ := parseTargetResult_targetResult_iff.mp hparse
  have hkind := hvalid.targetEnvelope.correlationKind_eq
  cases hkind

end TargetBound
end OpenWhisk
end AsynCS
