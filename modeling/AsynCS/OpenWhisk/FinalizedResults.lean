import AsynCS.OpenWhisk.TargetResult

/-!
# Which results the Gateway finalises

A result goes from a container through the invoker to the controller.  The invoker knows the kind
of the action; the controller looks for a field of the result.

* `ContainerRun`: an action, the content of its activation, and what its container returns.
* `effectiveResponse`: the response that the invoker sends on, `delivered`: the activation that
  the controller hands to the client.
* `OnlyTargetBound`: the Gateway is asked, and an activation changed, only for a target-bound run.
* `onlyTargetBound_iff`: the runs of which this is so.
-/

namespace AsynCS
namespace OpenWhisk
namespace TargetBound

open TargetBoundActivationContent

variable {α : Type}

/-! ## From the container to the client -/

/-- The run of an action in a container. -/
structure ContainerRun where
  /-- the kind of the action is `ReusableConcurrencyKind` -/
  reusable : Bool
  content : Option JsValue
  response : ActivationResponse

/-- `targetDispatch`: an action of the reusable kind does not run without one. -/
def ContainerRun.targetDispatch (run : ContainerRun) :
    Except TargetReencryptionError (Option TargetDispatch) :=
  if run.reusable then (parseTargetDispatch run.content).map some else .ok none

/-- `effectiveResponse` -/
def ContainerRun.effectiveResponse (run : ContainerRun) :
    Except TargetReencryptionError ActivationResponse :=
  run.targetDispatch.map fun targetDispatch =>
    (targetDispatch.map fun dispatch => targetBoundRuntimeResponse dispatch run.response).getD
      run.response

/-- The activation that `processAcknowledgement` hands on, for a finalizer that answers. -/
def delivered (gatewayClient : ToSource) (activation : WhiskActivation α) :
    Option (WhiskActivation α) :=
  match (finalizeResult gatewayClient activation).2 with
  | .successful (.ok value) => some value
  | .successful (.error reason) => some (systemError activation reason)
  | .failed _ => none

/-- The response of the run is a target result that the invoker made for the dispatch. -/
structure MadeFor (run : ContainerRun) (response : ActivationResponse)
    (dispatch : TargetDispatch) : Prop where
  targetDispatch_eq : run.targetDispatch = .ok (some dispatch)
  response_eq : ∃ target, runtimeTargetResult dispatch run.response = .ok target ∧
    response = .success (targetResult target)

/-- The Gateway is asked only for the bindings of the dispatch that the result was made for, and
an activation is changed only when its result was made for a dispatch. -/
def OnlyTargetBound (run : ContainerRun) : Prop :=
  ∀ (α : Type) (gatewayClient : ToSource) (activation : WhiskActivation α),
    run.effectiveResponse = .ok activation.response →
    (∀ call ∈ (finalizeResult gatewayClient activation).1, ∃ dispatch,
      MadeFor run activation.response dispatch ∧
        call.sourceBindingId = dispatch.sourceBindingId ∧
        call.targetBindingId = dispatch.targetBindingId) ∧
    (delivered gatewayClient activation ≠ some activation →
      ∃ dispatch, MadeFor run activation.response dispatch)

/-! ## The three ways of a result -/

variable {run : ContainerRun} {gatewayClient : ToSource} {activation : WhiskActivation α}

/-- A result without the field reaches the client as it is. -/
theorem delivered_of_not_contains (gatewayClient : ToSource)
    (h : containsTargetResult activation.response.result = false) :
    (finalizeResult gatewayClient activation).1 = [] ∧
      delivered gatewayClient activation = some activation := by
  unfold delivered
  rw [finalizeResult_of_not_contains h]
  exact ⟨rfl, rfl⟩

/-- A system error is another activation than one with the field. -/
theorem systemError_ne (h : containsTargetResult activation.response.result = true)
    (reason : Text) : systemError activation reason ≠ activation := by
  intro heq
  have hresult := containsTargetResult_whiskError
    ("target result finalization failed: ".toList ++ reason)
  rw [← heq] at h
  exact absurd (hresult.symm.trans h) (by decide)

/-- A result with the field is asked for, or changed. -/
theorem asked_or_changed (gatewayClient : ToSource) (activation : WhiskActivation α)
    (h : containsTargetResult activation.response.result = true) :
    (∃ call, call ∈ (finalizeResult gatewayClient activation).1) ∨
      delivered gatewayClient activation ≠ some activation := by
  cases hparse : parseTargetResult activation.response.result with
  | ok target =>
    rw [finalizeResult_of_ok h hparse]
    exact .inl ⟨target, List.mem_singleton_self target⟩
  | error error =>
    refine .inr ?_
    unfold delivered
    rw [finalizeResult_of_error h hparse]
    intro heq
    exact systemError_ne h _ (Option.some.inj heq)

/-- What is asked of the Gateway for a result that was made for a dispatch is for its bindings. -/
theorem bindings_of_madeFor {dispatch : TargetDispatch}
    (h : MadeFor run activation.response dispatch) {call : TargetResult}
    (hcall : call ∈ (finalizeResult gatewayClient activation).1) :
    call.sourceBindingId = dispatch.sourceBindingId ∧
      call.targetBindingId = dispatch.targetBindingId := by
  obtain ⟨target, htarget, hresponse⟩ := h.response_eq
  obtain ⟨r, -, -, rfl⟩ := runtimeTargetResult_eq_ok_iff.mp htarget
  have hresult : activation.response.result = some (targetResult (r.targetResult dispatch)) := by
    rw [hresponse]
    rfl
  have hcontains : containsTargetResult activation.response.result = true := by
    rw [hresult]
    exact containsTargetResult_targetResult _
  cases hparse : parseTargetResult activation.response.result with
  | error error =>
    rw [finalizeResult_of_error hcontains hparse] at hcall
    exact absurd hcall List.not_mem_nil
  | ok target =>
    rw [finalizeResult_of_ok hcontains hparse] at hcall
    obtain rfl := List.mem_singleton.mp hcall
    rw [hresult] at hparse
    obtain ⟨rfl, -⟩ := parseTargetResult_targetResult_iff.mp hparse
    exact ⟨rfl, rfl⟩

/-! ## What the invoker sends on -/

/-- Without a dispatch the response is the container's. -/
theorem effectiveResponse_of_none (h : run.targetDispatch = .ok none) :
    run.effectiveResponse = .ok run.response := by
  unfold ContainerRun.effectiveResponse
  rw [h]
  rfl

theorem effectiveResponse_of_some {dispatch : TargetDispatch}
    (h : run.targetDispatch = .ok (some dispatch)) :
    run.effectiveResponse = .ok (targetBoundRuntimeResponse dispatch run.response) := by
  unfold ContainerRun.effectiveResponse
  rw [h]
  rfl

/-- The response of the container goes on as it is: the run has no dispatch, or it failed. -/
def SentAsIs (run : ContainerRun) : Prop :=
  run.targetDispatch = .ok none ∨
    run.response.isSuccess = false ∧ ∃ dispatch, run.targetDispatch = .ok (some dispatch)

theorem effectiveResponse_of_sentAsIs (h : SentAsIs run) :
    run.effectiveResponse = .ok run.response := by
  rcases h with h | ⟨hfailed, dispatch, h⟩
  · exact effectiveResponse_of_none h
  · rw [effectiveResponse_of_some h, targetBoundRuntimeResponse_of_not_success hfailed]

/-- No such response was made for a dispatch. -/
theorem not_madeFor_of_sentAsIs (h : SentAsIs run) (dispatch : TargetDispatch) :
    ¬ MadeFor run run.response dispatch := by
  intro hmade
  rcases h with h | ⟨hfailed, -⟩
  · exact absurd (hmade.targetDispatch_eq.symm.trans h) (by simp)
  · obtain ⟨target, -, hresponse⟩ := hmade.response_eq
    rw [hresponse] at hfailed
    cases hfailed

/-- Any other response was made for the dispatch, or it is without the field. -/
theorem madeFor_or_not_contains {response : ActivationResponse} (hsent : ¬ SentAsIs run)
    (h : run.effectiveResponse = .ok response) :
    (∃ dispatch, MadeFor run response dispatch) ∨
      containsTargetResult response.result = false := by
  cases hdispatch : run.targetDispatch with
  | error error =>
    unfold ContainerRun.effectiveResponse at h
    rw [hdispatch] at h
    cases h
  | ok targetDispatch =>
    cases targetDispatch with
    | none => exact absurd (.inl hdispatch) hsent
    | some dispatch =>
      rw [effectiveResponse_of_some hdispatch, Except.ok.injEq] at h
      have hsuccess : run.response.isSuccess = true := by
        by_contra hno
        exact hsent (.inr ⟨Bool.eq_false_iff.mpr hno, dispatch, hdispatch⟩)
      rcases targetBoundRuntimeResponse_of_success dispatch hsuccess with
        ⟨target, htarget, hmade⟩ | ⟨message, hmessage⟩
      · exact .inl ⟨dispatch, hdispatch, target, htarget, h.symm.trans hmade⟩
      · right
        rw [← h, hmessage]
        exact containsTargetResult_whiskError message

/-! ## The runs whose results are left alone -/

theorem not_onlyTargetBound (hsent : SentAsIs run)
    (hcontains : containsTargetResult run.response.result = true) : ¬ OnlyTargetBound run := by
  intro h
  obtain ⟨hcalls, hchanged⟩ := h Unit (fun _ _ _ => .failed []) ⟨run.response, ()⟩
    (effectiveResponse_of_sentAsIs hsent)
  rcases asked_or_changed (fun _ _ _ => .failed []) ⟨run.response, ()⟩ hcontains with
    ⟨call, hcall⟩ | hne
  · obtain ⟨dispatch, hmade, -⟩ := hcalls call hcall
    exact not_madeFor_of_sentAsIs hsent dispatch hmade
  · obtain ⟨dispatch, hmade⟩ := hchanged hne
    exact not_madeFor_of_sentAsIs hsent dispatch hmade

/-- **The Gateway finalises only results of target-bound runs** exactly when the container's
result is without the field or was read by the invoker: the controller looks for the field in the
result of every action, of any kind. -/
theorem onlyTargetBound_iff (run : ContainerRun) :
    OnlyTargetBound run ↔
      ¬ (SentAsIs run ∧ containsTargetResult run.response.result = true) := by
  constructor
  · rintro h ⟨hsent, hcontains⟩
    exact not_onlyTargetBound hsent hcontains h
  · intro h α gatewayClient activation hresponse
    by_cases hcontains : containsTargetResult activation.response.result = true
    · have hsent : ¬ SentAsIs run := by
        intro hsent
        refine h ⟨hsent, ?_⟩
        have heq := (effectiveResponse_of_sentAsIs hsent).symm.trans hresponse
        rw [Except.ok.injEq] at heq
        rw [heq]
        exact hcontains
      rcases madeFor_or_not_contains hsent hresponse with ⟨dispatch, hmade⟩ | hnot
      · exact ⟨fun call hcall => ⟨dispatch, hmade, bindings_of_madeFor hmade hcall⟩,
          fun _ => ⟨dispatch, hmade⟩⟩
      · rw [hnot] at hcontains
        cases hcontains
    · obtain ⟨hcalls, hdelivered⟩ := delivered_of_not_contains gatewayClient
        (Bool.eq_false_iff.mpr hcontains)
      refine ⟨fun call hcall => ?_, fun hne => absurd hdelivered hne⟩
      rw [hcalls] at hcall
      exact absurd hcall List.not_mem_nil

theorem wellFormed_forgedResult :
    (EnvelopeFields.empty .result .targetToGateway 42 .requestId).WellFormed :=
  EnvelopeFields.wellFormed_empty .result .targetToGateway (by decide) .requestId

/-- A target result that any function can write. -/
def forgedResult : TargetResult where
  sourceBindingId := 7
  targetBindingId := 42
  requestIdHash := requestIdHashOf ⟨_, wellFormed_forgedResult⟩
  targetEnvelope := ⟨_, wellFormed_forgedResult⟩

theorem forgedResult_valid : forgedResult.Valid :=
  ⟨by decide, by decide, isRequestIdHash_requestIdHashOf _, ⟨rfl, rfl, rfl, rfl⟩, rfl⟩

/-- An action of an ordinary kind that returns it. -/
def forgedRun : ContainerRun where
  reusable := false
  content := none
  response := .success (targetResult forgedResult)

/-- The Gateway is asked to re-encrypt the result of an ordinary action for bindings that the
action names. -/
theorem forgedRun_not_onlyTargetBound :
    (finalizeResult (α := Unit) (fun _ _ _ => .failed []) ⟨forgedRun.response, ()⟩).1 =
        [forgedResult] ∧
      ¬ OnlyTargetBound forgedRun := by
  have hcontains : containsTargetResult forgedRun.response.result = true :=
    containsTargetResult_targetResult _
  refine ⟨?_, not_onlyTargetBound (.inl rfl) hcontains⟩
  rw [finalizeResult_of_ok hcontains
    (parseTargetResult_targetResult_iff.mpr ⟨rfl, forgedResult_valid⟩)]

end TargetBound
end OpenWhisk
end AsynCS
