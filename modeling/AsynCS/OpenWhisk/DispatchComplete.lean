import AsynCS.OpenWhisk.TargetDispatch

/-!
# What is handed out is what the invoker reads

The scheduler writes a dispatch and the invoker parses it strictly.  The store of actions may
answer a lookup with anything, and the Gateway may send any bytes.

* `Dispatched`: the dispatch that a fetch asks for.
* `DispatchComplete`: what `prepare` owes a fetch, whatever store and Gateway do.
* `handsOut_dispatched`: what is handed out is the dispatch, when the invoker can read the
  revision.
* `dispatchComplete_iff`: the fetches that get it.
-/

namespace AsynCS
namespace OpenWhisk
namespace TargetBound

open TargetBoundActivationContent GatewayControl

variable {ρ : Type} {request : GetActivation} {activation m : ActivationMessage ρ}
  {targetBindingId : Int64} {config : GatewayControlConfig} {gateway : Bytes → Exchange}
  {lookup : Text → DocRevision → Future WhiskAction}

/-- The client of the Gateway behind its futures, which do not fail. -/
def p1ToTarget (config : GatewayControlConfig) (gateway : Bytes → Exchange) : ToTarget :=
  fun targetBindingId source =>
    .successful (reencryptToTarget config gateway targetBindingId source)

/-- The message carries the dispatch that the fetch asks for. -/
structure Dispatched (lookup : Text → DocRevision → Future WhiskAction) (request : GetActivation)
    (activation m : ActivationMessage ρ) (targetBindingId : Int64) (d : TargetDispatch) :
    Prop where
  parse_eq : parseTargetDispatch m.content = .ok d
  targetBindingId_eq : d.targetBindingId = targetBindingId
  warmed_eq : d.warmed = request.warmed
  exactRevision_eq : d.exactRevision = activation.revision
  source : ∃ source, sourceInput activation.content = .ok source ∧
    d.sourceBindingId = source.1.bindingId ∧
    d.targetInput.1.correlationHash = source.1.correlationHash
  isSome_targetCode : d.targetCode.isSome = !request.warmed
  code : ∀ code, d.targetCode = some code → ∃ action stored,
    lookup activation.action activation.revision = .successful action ∧
      StoredCode activation action stored ∧ code.1.correlationHash = stored.1.correlationHash
  others_eq : m = { activation with content := m.content }

/-- A fetch for a target binding gets the dispatch that it asks for or an error, and never a
failed future. -/
def DispatchComplete (request : GetActivation) (activation : ActivationMessage ρ) : Prop :=
  ∀ lookup config gateway targetBindingId, request.targetBindingId = some targetBindingId →
    0 < targetBindingId →
    ∃ result, prepare (load lookup) (p1ToTarget config gateway) request activation =
        .successful result ∧
      ∀ m, result = .ok m → ∃ d, Dispatched lookup request activation m targetBindingId d

/-! ## What is handed out -/

theorem p1ToTarget_eq_ok_iff {source output : ProtectedEnvelopeV1} :
    p1ToTarget config gateway targetBindingId source = .successful (.ok output) ↔
      reencryptToTarget config gateway targetBindingId source = .ok output := by
  unfold p1ToTarget
  rw [Future.successful.injEq]

/-- What preserves an object of the source is an envelope for the target. -/
theorem isTargetEnvelope_of_preserves {input output : ProtectedEnvelopeV1}
    {kind : ProtectedObjectKind} (hkind : input.1.kind = kind) (hresult : kind ≠ .result)
    (hcorrelation : input.1.correlationKind = expectedCorrelationKind kind)
    (h : Preserves input output .gatewayToTarget targetBindingId) :
    IsTargetEnvelope output kind targetBindingId := by
  refine ⟨?_, h.kind_eq.trans hkind, h.bindingId_eq, h.correlationKind_eq.trans hcorrelation⟩
  rw [h.direction_eq, expectedDirection, if_neg hresult]

/-- The dispatch that a fetch is given. -/
def dispatchOf (request : GetActivation) (activation : ActivationMessage ρ)
    (targetBindingId : Int64) (source targetInput : ProtectedEnvelopeV1)
    (targetCode : Option ProtectedEnvelopeV1) : TargetDispatch where
  targetBindingId := targetBindingId
  sourceBindingId := source.1.bindingId
  exactRevision := activation.revision
  warmed := request.warmed
  targetInput := targetInput
  targetCode := targetCode

variable {source targetInput : ProtectedEnvelopeV1} {exactRevision : DocRevision}
  {targetCode : Option ProtectedEnvelopeV1}

/-- What the store of actions gives is of the revision of the activation. -/
theorem exactRevision_of_handsOut {gatewayClient : ToTarget}
    (h : HandsOut (load lookup) gatewayClient request activation targetBindingId source
      exactRevision targetInput targetCode) : exactRevision = activation.revision := by
  cases hwarmed : request.warmed with
  | true => exact (h.warm hwarmed).1
  | false =>
    obtain ⟨code, targetEnvelope, hload, -⟩ := h.cold hwarmed
    exact (load_eq_ok_iff.mp hload).2.1

/-- The parts of a dispatch are envelopes for its target, and there is code when the container
is cold. -/
theorem handsOut_valid (hpos : 0 < targetBindingId) (hrevision : activation.revision ≠ ⟨some []⟩)
    (h : HandsOut (load lookup) (p1ToTarget config gateway) request activation targetBindingId
      source exactRevision targetInput targetCode) :
    (dispatchOf request activation targetBindingId source targetInput targetCode).Valid := by
  have hsource := isSourceInput_of_sourceInput h.source_eq
  have hinput := preserves_of_reencryptToTarget (p1ToTarget_eq_ok_iff.mp h.targetInput_eq)
  have hcode : ∀ envelope, targetCode = some envelope → request.warmed = false ∧
      IsTargetEnvelope envelope .code targetBindingId := by
    rintro envelope rfl
    cases hwarmed : request.warmed with
    | true => exact absurd (h.warm hwarmed).2 (by simp)
    | false =>
      obtain ⟨code, targetEnvelope, hload, htarget, heq⟩ := h.cold hwarmed
      obtain rfl := Option.some.inj heq
      obtain ⟨-, -, action, -, hstored⟩ := load_eq_ok_iff.mp hload
      have hpreserves := preserves_of_reencryptToTarget (p1ToTarget_eq_ok_iff.mp htarget)
      exact ⟨rfl, isTargetEnvelope_of_preserves hstored.kind_eq (by decide)
        hstored.correlationKind_eq hpreserves⟩
  refine ⟨hpos, source.2.bindingId_pos, ?_, ?_, fun envelope he => (hcode envelope he).2, ?_⟩
  · obtain ⟨_ | rev, hrev⟩ : ∃ rev, activation.revision = ⟨rev⟩ := ⟨_, rfl⟩
    · exact absurd hrev h.revision_ne
    · refine ⟨rev, hrev, ?_⟩
      rintro rfl
      exact hrevision hrev
  · exact isTargetEnvelope_of_preserves hsource.kind_eq (by decide) hsource.correlationKind_eq
      hinput
  · show request.warmed = targetCode.isNone
    cases hwarmed : request.warmed with
    | true => rw [(h.warm hwarmed).2]; rfl
    | false =>
      obtain ⟨-, -, -, -, rfl⟩ := h.cold hwarmed
      rfl

/-- **What is handed out is the dispatch**, when the invoker can read the revision. -/
theorem handsOut_dispatched (hpos : 0 < targetBindingId)
    (hrevision : activation.revision ≠ ⟨some []⟩)
    (h : HandsOut (load lookup) (p1ToTarget config gateway) request activation targetBindingId
      source exactRevision targetInput targetCode) :
    Dispatched lookup request activation
      (withTargetDispatch activation targetBindingId source.1.bindingId activation.revision
        request.warmed targetInput targetCode)
      targetBindingId
      (dispatchOf request activation targetBindingId source targetInput targetCode) := by
  have hinput := preserves_of_reencryptToTarget (p1ToTarget_eq_ok_iff.mp h.targetInput_eq)
  have hparse := parseTargetDispatch_content (handsOut_valid hpos hrevision h)
  refine ⟨hparse, rfl, rfl, rfl, ⟨source, h.source_eq, rfl, hinput.correlationHash_eq⟩, ?_, ?_,
    rfl⟩
  · show targetCode.isSome = !request.warmed
    cases hwarmed : request.warmed with
    | true => rw [(h.warm hwarmed).2]; rfl
    | false =>
      obtain ⟨-, -, -, -, rfl⟩ := h.cold hwarmed
      rfl
  · rintro envelope hcode
    obtain rfl : targetCode = some envelope := hcode
    cases hwarmed : request.warmed with
    | true => exact absurd (h.warm hwarmed).2 (by simp)
    | false =>
      obtain ⟨code, targetEnvelope, hload, htarget, heq⟩ := h.cold hwarmed
      obtain rfl := Option.some.inj heq
      obtain ⟨-, -, action, hlookup, hstored⟩ := load_eq_ok_iff.mp hload
      exact ⟨action, code, hlookup, hstored,
        (preserves_of_reencryptToTarget (p1ToTarget_eq_ok_iff.mp htarget)).correlationHash_eq⟩

/-- A message with an empty revision is refused. -/
theorem not_dispatched_of_revision_nil (hrevision : activation.revision = ⟨some []⟩)
    (d : TargetDispatch) : ¬ Dispatched lookup request activation m targetBindingId d := by
  intro h
  obtain ⟨rev, hrev, hne⟩ := (valid_of_parseTargetDispatch h.parse_eq).exactRevision_ne
  rw [h.exactRevision_eq, hrevision, DocRevision.mk.injEq, Option.some.injEq] at hrev
  exact hne hrev.symm

/-! ## A store and a Gateway that serve -/

theorem minimumSize_le_intMaxValue : ProtectedEnvelopeV1.minimumSize ≤ intMaxValue := by decide

theorem intMaxValue_le : intMaxValue ≤ intMaxValue := le_rfl

/-- The largest configuration. -/
def largestConfig : GatewayControlConfig :=
  ⟨intMaxValue, minimumSize_le_intMaxValue, intMaxValue_le⟩

theorem wellFormed_someCode :
    (EnvelopeFields.empty .code .sourceToGateway 1 .codeObject).WellFormed :=
  EnvelopeFields.wellFormed_empty .code .sourceToGateway (by decide) .codeObject

/-- Some code of the source. -/
def someCode : ProtectedEnvelopeV1 := ⟨_, wellFormed_someCode⟩

/-- The action that an activation is for, with that code. -/
def someAction (activation : ActivationMessage ρ) : WhiskAction where
  rev := activation.revision
  docId := activation.action
  exec := .code true (.string (b64text someCode.bytes))

theorem storedCode_someAction (activation : ActivationMessage ρ) :
    StoredCode activation (someAction activation) someCode :=
  ⟨rfl, rfl, ⟨_, rfl, base64Decode_b64text _⟩, rfl, rfl, rfl⟩

/-- **Something is handed out** for every source INPUT by some store and some Gateway. -/
theorem exists_handsOut (request : GetActivation) (hpos : 0 < targetBindingId)
    (hrevision : activation.revision ≠ DocRevision.empty)
    (hsource : sourceInput activation.content = .ok source) :
    ∃ lookup config gateway targetInput targetCode,
      HandsOut (load lookup) (p1ToTarget config gateway) request activation targetBindingId source
        activation.revision targetInput targetCode := by
  have hinput := isSourceInput_of_sourceInput hsource
  obtain ⟨inputAnswer, hinputAnswer, hinputLength⟩ :=
    exists_preserves_gatewayToTarget hpos hinput.direction_eq
  obtain ⟨codeAnswer, hcodeAnswer, hcodeLength⟩ :=
    exists_preserves_gatewayToTarget hpos (show someCode.1.direction = .sourceToGateway from rfl)
  set inputRequest : ReencryptRequest :=
    ⟨reencryptToTargetOperation, source.1.bindingId, targetBindingId, source⟩ with hinputRequest
  set codeRequest : ReencryptRequest :=
    ⟨reencryptToTargetOperation, someCode.1.bindingId, targetBindingId, someCode⟩
    with hcodeRequest
  set gateway : Bytes → Exchange := fun frame =>
    if frame = inputRequest.frame then
      .answered (answerFrame reencryptToTargetOperation inputAnswer) none
    else .answered (answerFrame reencryptToTargetOperation codeAnswer) none with hgateway
  have hframes : codeRequest.frame ≠ inputRequest.frame := by
    intro h
    have hbytes : someCode.bytes = source.bytes := by
      rw [← codeRequest.drop_frame, h, inputRequest.drop_frame]
    have hd := ProtectedEnvelopeV1.decode_eq_ok_iff.mpr hbytes
    rw [ProtectedEnvelopeV1.decode_bytes, Except.ok.injEq] at hd
    have hkind := hinput.kind_eq
    rw [hd] at hkind
    cases hkind
  have hmin := minimumSize_le_intMaxValue
  have hfits : reencryptResponsePrefixSize + ProtectedEnvelopeV1.minimumSize ≤ intMaxValue := by
    decide
  have hinputTarget : reencryptToTarget largestConfig gateway targetBindingId source =
      .ok inputAnswer :=
    reencryptToTarget_answerFrame hpos hinput.direction_eq (.inr hinput.kind_eq)
      source.length_bytes_le (if_pos rfl) hinputAnswer (hinputLength ▸ hmin)
      (hinputLength ▸ hfits)
  have hcodeTarget : reencryptToTarget largestConfig gateway targetBindingId someCode =
      .ok codeAnswer :=
    reencryptToTarget_answerFrame hpos rfl (.inl rfl) someCode.length_bytes_le (if_neg hframes)
      hcodeAnswer (hcodeLength ▸ hmin) (hcodeLength ▸ hfits)
  have hload : load (fun _ _ => .successful (someAction activation)) activation =
      .successful (.ok ⟨activation.revision, someCode⟩) :=
    load_eq_ok_iff.mpr ⟨hrevision, rfl, _, rfl, storedCode_someAction activation⟩
  refine ⟨fun _ _ => .successful (someAction activation), largestConfig, gateway, inputAnswer,
    if request.warmed then none else some codeAnswer, hrevision, hsource,
    p1ToTarget_eq_ok_iff.mpr hinputTarget, fun h => ⟨rfl, if_pos h⟩, fun h => ?_⟩
  exact ⟨someCode, codeAnswer, hload, p1ToTarget_eq_ok_iff.mpr hcodeTarget, if_neg (by simp [h])⟩

/-- An activation with an empty revision is handed out, and the invoker does not read it. -/
theorem not_dispatchComplete (hid : request.targetBindingId = some targetBindingId)
    (hpos : 0 < targetBindingId) (hrevision : activation.revision = ⟨some []⟩)
    (hsource : sourceInput activation.content = .ok source) :
    ¬ DispatchComplete request activation := by
  intro h
  have hne : activation.revision ≠ DocRevision.empty := by
    rw [hrevision]
    decide
  obtain ⟨lookup, config, gateway, targetInput, targetCode, hout⟩ :=
    exists_handsOut request hpos hne hsource
  obtain ⟨result, hresult, hread⟩ := h lookup config gateway targetBindingId hid hpos
  have hprepare := (prepare_eq_ok_iff hid hpos).mpr
    ⟨source, _, targetInput, targetCode, hout, rfl⟩
  rw [hprepare, Future.successful.injEq] at hresult
  obtain ⟨d, hd⟩ := hread _ hresult.symm
  exact not_dispatched_of_revision_nil hrevision d hd

/-! ## The fetches that get their dispatch -/

/-- **A fetch gets the dispatch that it asks for** unless it is for a target binding and the
activation is a source INPUT with the empty text for a revision: `prepare` asks only that there
is a revision, and the invoker that its text is not empty. -/
theorem dispatchComplete_iff (request : GetActivation) (activation : ActivationMessage ρ) :
    DispatchComplete request activation ↔
      ¬ (activation.revision = ⟨some []⟩ ∧
        (∃ source, sourceInput activation.content = .ok source) ∧
        ∃ targetBindingId, request.targetBindingId = some targetBindingId ∧
          0 < targetBindingId) := by
  constructor
  · rintro h ⟨hrevision, ⟨source, hsource⟩, targetBindingId, hid, hpos⟩
    exact not_dispatchComplete hid hpos hrevision hsource h
  · intro h lookup config gateway targetBindingId hid hpos
    obtain ⟨result, hresult⟩ := prepare_successful (p1ToTarget config gateway) request
      (load_successful lookup activation)
    refine ⟨result, hresult, ?_⟩
    rintro m rfl
    obtain ⟨source, exactRevision, targetInput, targetCode, hout, rfl⟩ :=
      (prepare_eq_ok_iff hid hpos).mp hresult
    obtain rfl := exactRevision_of_handsOut hout
    have hrevision : activation.revision ≠ ⟨some []⟩ :=
      fun hrev => h ⟨hrev, ⟨source, hout.source_eq⟩, targetBindingId, hid, hpos⟩
    exact ⟨_, handsOut_dispatched hpos hrevision hout⟩

theorem wellFormed_someInput :
    (EnvelopeFields.empty .input .sourceToGateway 7 .requestId).WellFormed :=
  EnvelopeFields.wellFormed_empty .input .sourceToGateway (by decide) .requestId

/-- Some INPUT of the source. -/
def someInput : ProtectedEnvelopeV1 := ⟨_, wellFormed_someInput⟩

/-- An activation whose revision is the empty text. -/
def unrevisedActivation : ActivationMessage Unit where
  action := "guest/action".toList
  revision := ⟨some []⟩
  content := some (sourceContent someInput)
  others := ()

/-- A warm container with binding 42 that fetches it is handed a dispatch that its invoker
refuses. -/
theorem unrevisedActivation_not_dispatchComplete :
    ¬ DispatchComplete ⟨true, some 42⟩ unrevisedActivation :=
  not_dispatchComplete rfl (by decide) rfl (sourceInput_sourceContent ⟨rfl, rfl, rfl⟩)

end TargetBound
end OpenWhisk
end AsynCS
