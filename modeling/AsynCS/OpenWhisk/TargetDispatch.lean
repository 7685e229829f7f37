import AsynCS.OpenWhisk.GatewayControl

/-!
# Dispatch to a target binding

When a container with a target binding fetches an activation, the scheduler has the Gateway
re-encrypt the input, and for a cold container the code, before it hands the activation out.

* `load`: the protected code of the exact revision.
* `prepare`: `GatewayTargetBoundActivationDispatcher.prepare`, with `prepare_eq_ok_iff` and
  `prepare_cases`: what it hands out, for any source of code and any client of the Gateway.
* `prepare_successful`: its future does not fail.
-/

namespace AsynCS
namespace OpenWhisk
namespace TargetBound

open TargetBoundActivationContent GatewayControl

/-! ## Activations and actions -/

/-- What the dispatcher reads of a `GetActivation`. -/
structure GetActivation where
  warmed : Bool
  targetBindingId : Option Int64
  deriving DecidableEq

/-- An `ActivationMessage`: the document of its action, the revision, the content, and the
fields that the dispatcher only passes on. -/
structure ActivationMessage (ρ : Type) where
  action : Text
  revision : DocRevision
  content : Option JsValue
  others : ρ

/-- The code of an action, or another kind of `Exec`. -/
inductive Exec where
  | code (binary : Bool) (codeAsJson : JsValue)
  | other

/-- A `WhiskAction` that was looked up. -/
structure WhiskAction where
  rev : DocRevision
  docId : Text
  exec : Exec

/-- `SourceProtectedCode` -/
structure SourceProtectedCode where
  exactRevision : DocRevision
  envelope : ProtectedEnvelopeV1

variable {ρ : Type}

/-- `ExactRevisionProtectedCodeProvider` -/
abbrev CodeProvider (ρ : Type) :=
  ActivationMessage ρ → Future (Except TargetReencryptionError SourceProtectedCode)

/-- `reencryptToTarget` of a `GatewayControlClient`. -/
abbrev ToTarget := Int64 → ProtectedEnvelopeV1 →
  Future (Except GatewayControlError ProtectedEnvelopeV1)

/-! ## The stored code -/

/-- The text of binary code. -/
def encodedCode : Exec → Except TargetReencryptionError Text
  | .code true codeAsJson => orError codeAsJson.asString
      (reencryptionError ["source-protected action code is not inline after lookup".toList])
  | .code false _ =>
    .error (reencryptionError ["source-protected action code must be binary".toList])
  | .other =>
    .error (reencryptionError ["target-bound action does not contain executable code".toList])

/-- `extract` -/
def extract (activation : ActivationMessage ρ) (action : WhiskAction) :
    Except TargetReencryptionError SourceProtectedCode := do
  check (action.rev = activation.revision)
    (reencryptionError
      ["exact-revision protected code lookup returned a different revision".toList])
  check (action.docId = activation.action)
    (reencryptionError
      ["exact-revision protected code lookup returned a different action".toList])
  let encoded ← encodedCode action.exec
  let envelope ← decodeText encoded "source-protected action code".toList
  requireEnvelope envelope .code .codeObject "source-protected action code".toList
  .ok ⟨activation.revision, envelope⟩

/-- `WhiskActionExactRevisionProtectedCodeProvider.load` -/
def load (lookup : Text → DocRevision → Future WhiskAction) : CodeProvider ρ := fun activation =>
  if activation.revision = DocRevision.empty then
    .successful (.error (reencryptionError
      ["target-bound code lookup requires an exact action revision".toList]))
  else
    ((lookup activation.action activation.revision).map (extract activation)).recover
      fun exception => .error (reencryptionError
        ["exact-revision protected code lookup failed: ".toList, exception])

/-- The code that a stored action carries for an activation. -/
structure StoredCode (activation : ActivationMessage ρ) (action : WhiskAction)
    (envelope : ProtectedEnvelopeV1) : Prop where
  rev_eq : action.rev = activation.revision
  docId_eq : action.docId = activation.action
  exec_eq : ∃ encoded, action.exec = .code true (.string encoded) ∧
    base64Decode encoded = some envelope.bytes
  direction_eq : envelope.1.direction = .sourceToGateway
  kind_eq : envelope.1.kind = .code
  correlationKind_eq : envelope.1.correlationKind = .codeObject

theorem encodedCode_eq_ok_iff {exec : Exec} {encoded : Text} :
    encodedCode exec = .ok encoded ↔ exec = .code true (.string encoded) := by
  cases exec with
  | other => simp [encodedCode]
  | code binary codeAsJson => cases binary <;> simp [encodedCode]

theorem extract_eq_ok_iff {activation : ActivationMessage ρ} {action : WhiskAction}
    {code : SourceProtectedCode} :
    extract activation action = .ok code ↔
      code.exactRevision = activation.revision ∧ StoredCode activation action code.envelope := by
  unfold extract
  simp only [bind_eq_ok_iff, check_eq_ok_iff, encodedCode_eq_ok_iff, decodeText_eq_ok_iff,
    requireEnvelope_eq_ok_iff, Except.ok.injEq]
  constructor
  · rintro ⟨-, hrev, -, hdoc, encoded, hexec, envelope, hdecode, -,
      ⟨hdirection, hkind, hcorrelation⟩, rfl⟩
    exact ⟨rfl, hrev, hdoc, ⟨encoded, hexec, hdecode⟩, hdirection, hkind, hcorrelation⟩
  · obtain ⟨revision, envelope⟩ := code
    rintro ⟨hrevision, h⟩
    obtain ⟨encoded, hexec, hdecode⟩ := h.exec_eq
    exact ⟨(), h.rev_eq, (), h.docId_eq, encoded, hexec, envelope, hdecode, (),
      ⟨h.direction_eq, h.kind_eq, h.correlationKind_eq⟩, by rw [← hrevision]⟩

/-- **The lookup** never fails the future. -/
theorem load_successful (lookup : Text → DocRevision → Future WhiskAction)
    (activation : ActivationMessage ρ) : ∃ code, load lookup activation = .successful code := by
  unfold load
  split
  · exact ⟨_, rfl⟩
  · cases lookup activation.action activation.revision with
    | successful action => exact ⟨_, rfl⟩
    | failed exception => exact ⟨_, rfl⟩

/-- What the lookup gives is the code of the revision. -/
theorem load_eq_ok_iff {lookup : Text → DocRevision → Future WhiskAction}
    {activation : ActivationMessage ρ} {code : SourceProtectedCode} :
    load lookup activation = .successful (.ok code) ↔
      activation.revision ≠ DocRevision.empty ∧ code.exactRevision = activation.revision ∧
        ∃ action, lookup activation.action activation.revision = .successful action ∧
          StoredCode activation action code.envelope := by
  unfold load
  split
  · rename_i h
    simp [h]
  · rename_i h
    cases hlookup : lookup activation.action activation.revision with
    | failed exception => simp [Future.map, Future.recover]
    | successful action => simp [Future.map, Future.recover, extract_eq_ok_iff, h]

/-! ## The dispatcher -/

/-- `reencrypt` -/
def reencrypt (gatewayClient : ToTarget) (targetBindingId : Int64)
    (sourceEnvelope : ProtectedEnvelopeV1) :
    Future (Except TargetReencryptionError ProtectedEnvelopeV1) :=
  ((gatewayClient targetBindingId sourceEnvelope).map fun result =>
    result.mapError fun error => ⟨error.message⟩).recover fun exception =>
      .error (reencryptionError ["Gateway re-encryption failed: ".toList, exception])

/-- `withTargetDispatch` -/
def withTargetDispatch (activation : ActivationMessage ρ) (targetBindingId sourceBindingId : Int64)
    (exactRevision : DocRevision) (warmed : Bool) (targetInput : ProtectedEnvelopeV1)
    (targetCode : Option ProtectedEnvelopeV1) : ActivationMessage ρ :=
  { activation with
    content := some (targetDispatch targetBindingId sourceBindingId exactRevision warmed
      targetInput targetCode) }

/-- `prepareTargetBound` -/
def prepareTargetBound (codeProvider : CodeProvider ρ) (gatewayClient : ToTarget)
    (request : GetActivation) (activation : ActivationMessage ρ) (targetBindingId : Int64) :
    Future (Except TargetReencryptionError (ActivationMessage ρ)) :=
  if activation.revision = DocRevision.empty then
    .successful (.error (reencryptionError
      ["target-bound dispatch requires an exact action revision".toList]))
  else
    match sourceInput activation.content with
    | .error error => .successful (.error error)
    | .ok source =>
      if request.warmed then
        (reencrypt gatewayClient targetBindingId source).andThenRight fun targetInput =>
          .successful (.ok (withTargetDispatch activation targetBindingId source.1.bindingId
            activation.revision true targetInput none))
      else
        (codeProvider activation).andThenRight fun sourceCode =>
        (reencrypt gatewayClient targetBindingId sourceCode.envelope).andThenRight
          fun targetCode =>
        (reencrypt gatewayClient targetBindingId source).andThenRight fun targetInput =>
          .successful (.ok (withTargetDispatch activation targetBindingId source.1.bindingId
            sourceCode.exactRevision false targetInput (some targetCode)))

/-- `GatewayTargetBoundActivationDispatcher.prepare` -/
def prepare (codeProvider : CodeProvider ρ) (gatewayClient : ToTarget) (request : GetActivation)
    (activation : ActivationMessage ρ) :
    Future (Except TargetReencryptionError (ActivationMessage ρ)) :=
  match request.targetBindingId with
  | none => .successful (.ok activation)
  | some targetBindingId =>
    if targetBindingId ≤ 0 then
      .successful (.error (reencryptionError ["target binding id must be positive".toList]))
    else prepareTargetBound codeProvider gatewayClient request activation targetBindingId

/-! ## What is handed out -/

variable {codeProvider : CodeProvider ρ} {gatewayClient : ToTarget} {request : GetActivation}
  {activation m : ActivationMessage ρ} {targetBindingId : Int64}

theorem reencrypt_successful (gatewayClient : ToTarget) (targetBindingId : Int64)
    (source : ProtectedEnvelopeV1) :
    ∃ r, reencrypt gatewayClient targetBindingId source = .successful r := by
  unfold reencrypt
  cases gatewayClient targetBindingId source with
  | successful result => exact ⟨_, rfl⟩
  | failed exception => exact ⟨_, rfl⟩

theorem reencrypt_eq_ok_iff {source output : ProtectedEnvelopeV1} :
    reencrypt gatewayClient targetBindingId source = .successful (.ok output) ↔
      gatewayClient targetBindingId source = .successful (.ok output) := by
  unfold reencrypt
  cases gatewayClient targetBindingId source with
  | successful result => simp [Future.map, Future.recover]
  | failed exception => simp [Future.map, Future.recover]

/-- What was re-encrypted for a hand-out. -/
structure HandsOut (codeProvider : CodeProvider ρ) (gatewayClient : ToTarget)
    (request : GetActivation) (activation : ActivationMessage ρ) (targetBindingId : Int64)
    (source : ProtectedEnvelopeV1) (exactRevision : DocRevision)
    (targetInput : ProtectedEnvelopeV1) (targetCode : Option ProtectedEnvelopeV1) : Prop where
  revision_ne : activation.revision ≠ DocRevision.empty
  source_eq : sourceInput activation.content = .ok source
  targetInput_eq : gatewayClient targetBindingId source = .successful (.ok targetInput)
  warm : request.warmed = true → exactRevision = activation.revision ∧ targetCode = none
  cold : request.warmed = false → ∃ code targetEnvelope,
    codeProvider activation = .successful (.ok ⟨exactRevision, code⟩) ∧
      gatewayClient targetBindingId code = .successful (.ok targetEnvelope) ∧
      targetCode = some targetEnvelope

/-- **What a target-bound fetch hands out**. -/
theorem prepare_eq_ok_iff (hid : request.targetBindingId = some targetBindingId)
    (hpos : 0 < targetBindingId) :
    prepare codeProvider gatewayClient request activation = .successful (.ok m) ↔
      ∃ source exactRevision targetInput targetCode,
        HandsOut codeProvider gatewayClient request activation targetBindingId source
          exactRevision targetInput targetCode ∧
        m = withTargetDispatch activation targetBindingId source.1.bindingId exactRevision
          request.warmed targetInput targetCode := by
  unfold prepare prepareTargetBound
  rw [hid]
  simp only [Int64.not_le.mpr hpos, if_false]
  by_cases hrevision : activation.revision = DocRevision.empty
  · simp only [hrevision, if_true]
    constructor
    · intro h
      cases h
    · rintro ⟨source, exactRevision, targetInput, targetCode, h, -⟩
      exact absurd hrevision h.revision_ne
  simp only [hrevision, if_false]
  cases hsource : sourceInput activation.content with
  | error error =>
    constructor
    · intro h
      cases h
    · rintro ⟨source, exactRevision, targetInput, targetCode, h, -⟩
      exact absurd (hsource.symm.trans h.source_eq) (by simp)
  | ok source =>
    have hunique : ∀ source', sourceInput activation.content = .ok source' → source = source' :=
      fun source' h => Except.ok.inj (hsource.symm.trans h)
    cases hwarmed : request.warmed with
    | true =>
      simp only [if_true, Future.andThenRight_eq_ok_iff, reencrypt_eq_ok_iff,
        Future.successful.injEq, Except.ok.injEq]
      constructor
      · rintro ⟨targetInput, hinput, rfl⟩
        exact ⟨source, _, targetInput, none, ⟨hrevision, hsource, hinput, fun _ => ⟨rfl, rfl⟩,
          fun h => absurd (hwarmed.symm.trans h) (by decide)⟩, rfl⟩
      · rintro ⟨source', exactRevision, targetInput, targetCode, h, rfl⟩
        obtain rfl := hunique source' h.source_eq
        obtain ⟨rfl, rfl⟩ := h.warm hwarmed
        exact ⟨targetInput, h.targetInput_eq, rfl⟩
    | false =>
      simp only [Bool.false_eq_true, if_false, Future.andThenRight_eq_ok_iff, reencrypt_eq_ok_iff,
        Future.successful.injEq, Except.ok.injEq]
      constructor
      · rintro ⟨⟨revision, code⟩, hcode, targetCode, htarget, targetInput, hinput, rfl⟩
        exact ⟨source, revision, targetInput, some targetCode, ⟨hrevision, hsource, hinput,
          fun h => absurd (hwarmed.symm.trans h) (by decide),
          fun _ => ⟨code, targetCode, hcode, htarget, rfl⟩⟩, rfl⟩
      · rintro ⟨source', exactRevision, targetInput, targetCode, h, rfl⟩
        obtain rfl := hunique source' h.source_eq
        obtain ⟨code, targetEnvelope, hcode, htarget, rfl⟩ := h.cold hwarmed
        exact ⟨_, hcode, targetEnvelope, htarget, targetInput, h.targetInput_eq, rfl⟩

/-- **What any fetch hands out**: the activation itself, or one with a dispatch for content, for
which it had a source INPUT. -/
theorem prepare_cases (h : prepare codeProvider gatewayClient request activation =
    .successful (.ok m)) :
    request.targetBindingId = none ∧ m = activation ∨
      ∃ targetBindingId source d, request.targetBindingId = some targetBindingId ∧
        sourceInput activation.content = .ok source ∧ d.targetBindingId = targetBindingId ∧
        m = { activation with content := some (TargetDispatch.content d) } := by
  cases hid : request.targetBindingId with
  | none =>
    unfold prepare at h
    rw [hid] at h
    exact .inl ⟨rfl, (Except.ok.inj (Future.successful.inj h)).symm⟩
  | some targetBindingId =>
    by_cases hpos : 0 < targetBindingId
    · obtain ⟨source, exactRevision, targetInput, targetCode, hout, rfl⟩ :=
        (prepare_eq_ok_iff hid hpos).mp h
      exact .inr ⟨targetBindingId, source, ⟨targetBindingId, source.1.bindingId, exactRevision,
        request.warmed, targetInput, targetCode⟩, rfl, hout.source_eq, rfl, rfl⟩
    · unfold prepare at h
      rw [hid] at h
      simp only [Int64.not_lt.mp hpos, if_true] at h
      cases h

/-- **A future that fails** comes from the source of the code alone. -/
theorem prepare_successful (gatewayClient : ToTarget) (request : GetActivation)
    (hprovider : ∃ code, codeProvider activation = .successful code) :
    ∃ r, prepare codeProvider gatewayClient request activation = .successful r := by
  unfold prepare
  cases request.targetBindingId with
  | none => exact ⟨_, rfl⟩
  | some targetBindingId =>
    have hreencrypt := reencrypt_successful gatewayClient targetBindingId
    show ∃ r, (if targetBindingId ≤ 0 then _ else _) = _
    split
    · exact ⟨_, rfl⟩
    unfold prepareTargetBound
    split
    · exact ⟨_, rfl⟩
    cases sourceInput activation.content with
    | error error => exact ⟨_, rfl⟩
    | ok source =>
      cases request.warmed with
      | true => exact Future.andThenRight_successful (hreencrypt source) fun _ => ⟨_, rfl⟩
      | false =>
        refine Future.andThenRight_successful hprovider fun code => ?_
        refine Future.andThenRight_successful (hreencrypt _) fun _ => ?_
        exact Future.andThenRight_successful (hreencrypt source) fun _ => ⟨_, rfl⟩

end TargetBound
end OpenWhisk
end AsynCS
