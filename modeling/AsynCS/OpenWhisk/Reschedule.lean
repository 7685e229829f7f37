import AsynCS.OpenWhisk.DispatchComplete

/-!
# Activations that come back

A container that fails its health check hands its activation back: the proxy sends the message
that it was given to the scheduler, whose queue holds it like a new one.

* `HandOut`: a fetch with the source of code and the Gateway of that moment, and the container.
* `afterHealthError`: the message that comes back from one container, `afterHandOuts` from several.
* `StaysDispatchable`: what the next fetch for another binding is owed.
* `staysDispatchable_iff`: the hand-outs behind which it gets it.
-/

namespace AsynCS
namespace OpenWhisk
namespace TargetBound

open TargetBoundActivationContent

variable {ρ : Type}

/-! ## What comes back -/

/-- A fetch, what served it, and what the container makes of the message. -/
structure HandOut (ρ : Type) where
  request : GetActivation
  codeProvider : CodeProvider ρ
  gatewayClient : ToTarget
  /-- the action is of the reusable kind, so that its message must carry a dispatch -/
  reusable : Bool
  initArgs : List Text
  injectionEnabled : Bool
  /-- this activation had no injected error before -/
  firstInjection : Bool

def rescheduleRequestedField : Text := "c1_internal_reschedule_requested".toList
def rescheduleInjectedField : Text := "c1_internal_reschedule_injected".toList
def protectedInputField : Text := "__reusable_protected_input_envelope".toList

/-- The arguments that `partitionArguments` leaves for the run. -/
def argumentsOf (initArgs : List Text) (content : Option JsValue) : JsValue :=
  content.elim (.object []) fun value =>
    value.asObject.elim value fun fields =>
      .object (fields.filter fun entry => !initArgs.contains entry.1)

/-- The parameters of the run, or `none` when the message carries no dispatch and must. -/
def HandOut.parameters (h : HandOut ρ) (msg : ActivationMessage ρ) : Option JsValue :=
  if h.reusable then
    (parseTargetDispatch msg.content).toOption.map fun dispatch =>
      .object [(protectedInputField, .string (encodeBase64 dispatch.targetInput.bytes))]
  else some (argumentsOf h.initArgs msg.content)

/-- `c1InternalRescheduleRequested` -/
def rescheduleRequested (parameters : JsValue) : Bool :=
  ((parameters.asObject.bind fun fields => fields.get rescheduleRequestedField).bind
    JsValue.asBoolean) == some true

/-- `c1ConsumeInternalRescheduleRequest` -/
def consumeRescheduleRequest (msg : ActivationMessage ρ) : ActivationMessage ρ :=
  (msg.content.bind JsValue.asObject).elim msg fun fields =>
    { msg with
      content := some (.object ((rescheduleInjectedField, .boolean true) ::
        fields.filter fun entry =>
          entry.1 ≠ rescheduleRequestedField ∧ entry.1 ≠ rescheduleInjectedField)) }

/-- The message of the resumed run.  An injected health error marks it as such. -/
def HandOut.resumed (h : HandOut ρ) (msg : ActivationMessage ρ) (parameters : JsValue) :
    ActivationMessage ρ :=
  if h.injectionEnabled ∧ rescheduleRequested parameters ∧ h.firstInjection then
    consumeRescheduleRequest msg
  else msg

/-- What a container sends back of a message when a health error ends its run; `none` when it is
given no message, or does not get to the run. -/
def afterHealthError (msg : ActivationMessage ρ) (h : HandOut ρ) : Option (ActivationMessage ρ) :=
  match prepare h.codeProvider h.gatewayClient h.request msg with
  | .successful (.ok given) => (h.parameters given).map (h.resumed given)
  | _ => none

/-- What is sent back behind a sequence of such containers. -/
def afterHandOuts (hs : List (HandOut ρ)) (msg : ActivationMessage ρ) :
    Option (ActivationMessage ρ) := hs.foldlM afterHealthError msg

/-! ## What the next fetch is owed -/

/-- The Gateway answers correctly, and the code of the revision is there. -/
structure Serves (codeProvider : CodeProvider ρ) (gatewayClient : ToTarget)
    (msg : ActivationMessage ρ) : Prop where
  gateway : ∀ targetBindingId source, 0 < targetBindingId →
    source.1.direction = .sourceToGateway → source.1.kind = .code ∨ source.1.kind = .input →
    ∃ output, gatewayClient targetBindingId source = .successful (.ok output) ∧
      GatewayControl.Preserves source output .gatewayToTarget targetBindingId
  code : ∃ envelope, codeProvider msg = .successful (.ok ⟨msg.revision, envelope⟩) ∧
    envelope.1.direction = .sourceToGateway ∧ envelope.1.kind = .code

/-- A later fetch for another binding is handed a dispatch for that binding and the source. -/
def StaysDispatchable (hs : List (HandOut ρ)) (source : ProtectedEnvelopeV1)
    (msg : ActivationMessage ρ) : Prop :=
  ∀ request codeProvider gatewayClient targetBindingId,
    request.targetBindingId = some targetBindingId → 0 < targetBindingId →
    (∀ h ∈ hs, h.request.targetBindingId ≠ some targetBindingId) →
    Serves codeProvider gatewayClient msg →
    ∃ d : TargetDispatch, d.targetBindingId = targetBindingId ∧
      d.sourceBindingId = source.1.bindingId ∧
      prepare codeProvider gatewayClient request msg =
        .successful (.ok { msg with content := some d.content })

/-! ## One container -/

/-- The content is the contract of a target-bound activation, before or behind dispatch. -/
def Contract (msg : ActivationMessage ρ) : Prop :=
  ∃ value, onlyField msg.content rootField = some value

variable {msg given back : ActivationMessage ρ} {h : HandOut ρ} {hs : List (HandOut ρ)}
  {source : ProtectedEnvelopeV1} {d : TargetDispatch}

theorem contract_of_sourceInput (hsource : sourceInput msg.content = .ok source) :
    Contract msg := by
  unfold sourceInput at hsource
  obtain ⟨value, hvalue, -⟩ := bind_eq_ok_iff.mp hsource
  exact ⟨value, orError_eq_ok_iff.mp hvalue⟩

theorem contract_content (msg : ActivationMessage ρ) (d : TargetDispatch) :
    Contract { msg with content := some d.content } :=
  ⟨_, onlyField_singleton ..⟩

/-- A contract asks for no injected error, so it comes back as it was given. -/
theorem resumed_of_contract (hcontract : Contract given) {parameters : JsValue}
    (hparameters : h.parameters given = some parameters) :
    h.resumed given parameters = given := by
  have hrequested : rescheduleRequested parameters = false := by
    unfold HandOut.parameters at hparameters
    split at hparameters
    · obtain ⟨dispatch, -, rfl⟩ := Option.map_eq_some_iff.mp hparameters
      have hget : JsValue.Fields.get
          [(protectedInputField, .string (encodeBase64 dispatch.targetInput.bytes))]
          rescheduleRequestedField = none :=
        JsValue.Fields.get_eq_none
          (show rescheduleRequestedField ∉ [protectedInputField] by decide)
      simp only [rescheduleRequested, JsValue.asObject, Option.bind_some, hget]
      rfl
    · obtain rfl := Option.some.inj hparameters
      obtain ⟨value, hvalue⟩ := hcontract
      unfold onlyField at hvalue
      obtain ⟨fields, hfields, hvalue⟩ := Option.bind_eq_some_iff.mp hvalue
      obtain ⟨content, hcontent, hobject⟩ := Option.bind_eq_some_iff.mp hfields
      obtain rfl := JsValue.asObject_eq_some_iff.mp hobject
      have hkeys : JsValue.Fields.HasKeys fields [rootField] := by
        by_contra hno
        rw [if_neg hno] at hvalue
        cases hvalue
      have hget : JsValue.Fields.get
          (fields.filter fun entry => !h.initArgs.contains entry.1)
          rescheduleRequestedField = none := by
        refine JsValue.Fields.get_eq_none ?_
        intro hm
        obtain ⟨entry, hentry, hkey⟩ := List.mem_map.mp hm
        have hroot := List.mem_singleton.mp (hkeys.1 entry (List.mem_of_mem_filter hentry))
        exact absurd (hkey.symm.trans hroot) (by decide)
      have harguments : argumentsOf h.initArgs given.content =
          .object (fields.filter fun entry => !h.initArgs.contains entry.1) := by
        rw [hcontent]
        rfl
      rw [harguments]
      simp only [rescheduleRequested, JsValue.asObject, Option.bind_some, hget]
      rfl
  unfold HandOut.resumed
  rw [hrequested]
  exact if_neg (by simp)

/-- What comes back from a container was given to it. -/
theorem prepare_of_afterHealthError (hback : afterHealthError msg h = some back)
    (hcontract : ∀ given, prepare h.codeProvider h.gatewayClient h.request msg =
      .successful (.ok given) → Contract given) :
    prepare h.codeProvider h.gatewayClient h.request msg = .successful (.ok back) := by
  unfold afterHealthError at hback
  cases hprepare : prepare h.codeProvider h.gatewayClient h.request msg with
  | failed exception =>
    rw [hprepare] at hback
    cases hback
  | successful result =>
    rw [hprepare] at hback
    cases result with
    | error error => cases hback
    | ok given =>
      obtain ⟨parameters, hparameters, rfl⟩ := Option.map_eq_some_iff.mp hback
      rw [resumed_of_contract (hcontract given hprepare) hparameters]

/-- **A source INPUT** comes back as it was from a container without a target binding, and as a
dispatch from any other. -/
theorem afterHealthError_source (hsource : sourceInput msg.content = .ok source)
    (hback : afterHealthError msg h = some back) :
    h.request.targetBindingId = none ∧ back = msg ∨
      ∃ d : TargetDispatch, h.request.targetBindingId = some d.targetBindingId ∧
        back = { msg with content := some d.content } := by
  have hcases := prepare_cases (prepare_of_afterHealthError hback fun given hgiven => by
    rcases prepare_cases hgiven with ⟨-, rfl⟩ | ⟨-, -, d, -, -, -, rfl⟩
    · exact contract_of_sourceInput hsource
    · exact contract_content msg d)
  rcases hcases with h | ⟨targetBindingId, -, d, hid, -, rfl, rfl⟩
  · exact .inl h
  · exact .inr ⟨d, hid, rfl⟩

/-- A dispatch is no source INPUT. -/
theorem sourceInput_content_ne (d : TargetDispatch) :
    sourceInput (some d.content) ≠ .ok source := by
  intro hs
  have herror := sourceInput_targetDispatch d.targetBindingId d.sourceBindingId d.exactRevision
    d.warmed d.targetInput d.targetCode
  exact absurd (herror.symm.trans hs) (by simp)

/-- **A dispatch** comes back as it was, from a container without a target binding. -/
theorem afterHealthError_dispatch (hcontent : msg.content = some d.content)
    (hback : afterHealthError msg h = some back) :
    h.request.targetBindingId = none ∧ back = msg := by
  have hcases : ∀ given, prepare h.codeProvider h.gatewayClient h.request msg =
      .successful (.ok given) → h.request.targetBindingId = none ∧ given = msg := by
    intro given hgiven
    rcases prepare_cases hgiven with h | ⟨-, source, -, -, hsource, -, -⟩
    · exact h
    · rw [hcontent] at hsource
      exact absurd hsource (sourceInput_content_ne d)
  refine hcases back (prepare_of_afterHealthError hback fun given hgiven => ?_)
  rw [(hcases given hgiven).2]
  exact ⟨_, by rw [hcontent]; exact onlyField_singleton ..⟩

/-! ## Several containers -/

theorem afterHandOuts_cons (h : HandOut ρ) (hs : List (HandOut ρ)) (msg : ActivationMessage ρ) :
    afterHandOuts (h :: hs) msg = (afterHealthError msg h).bind (afterHandOuts hs) := rfl

/-- Behind a dispatch, every container is without a target binding. -/
theorem afterHandOuts_dispatch (hcontent : msg.content = some d.content)
    (hback : afterHandOuts hs msg = some back) :
    back = msg ∧ ∀ h ∈ hs, h.request.targetBindingId = none := by
  induction hs with
  | nil => exact ⟨(Option.some.inj hback).symm, by simp⟩
  | cons h hs ih =>
    rw [afterHandOuts_cons] at hback
    obtain ⟨first, hfirst, hrest⟩ := Option.bind_eq_some_iff.mp hback
    obtain ⟨hid, rfl⟩ := afterHealthError_dispatch hcontent hfirst
    obtain ⟨rfl, hids⟩ := ih hrest
    exact ⟨rfl, List.forall_mem_cons.mpr ⟨hid, hids⟩⟩

/-- **A run of hand-outs** brings a source INPUT back as it was, when no container had a target
binding, or as the one dispatch that was made of it. -/
theorem afterHandOuts_source (hsource : sourceInput msg.content = .ok source)
    (hback : afterHandOuts hs msg = some back) :
    (∀ h ∈ hs, h.request.targetBindingId = none) ∧ back = msg ∨
      ∃ d : TargetDispatch, back.content = some d.content ∧
        (∃ h ∈ hs, h.request.targetBindingId = some d.targetBindingId) ∧
        ∀ h ∈ hs, ∀ other, h.request.targetBindingId = some other →
          other = d.targetBindingId := by
  induction hs with
  | nil => exact .inl ⟨by simp, (Option.some.inj hback).symm⟩
  | cons h hs ih =>
    rw [afterHandOuts_cons] at hback
    obtain ⟨first, hfirst, hrest⟩ := Option.bind_eq_some_iff.mp hback
    rcases afterHealthError_source hsource hfirst with ⟨hid, rfl⟩ | ⟨d, hid, rfl⟩
    · rcases ih hrest with ⟨hids, rfl⟩ | ⟨d, hcontent, ⟨h', hm, hid'⟩, hothers⟩
      · exact .inl ⟨List.forall_mem_cons.mpr ⟨hid, hids⟩, rfl⟩
      · refine .inr ⟨d, hcontent, ⟨h', List.mem_cons_of_mem h hm, hid'⟩, ?_⟩
        refine List.forall_mem_cons.mpr ⟨fun other ho => ?_, hothers⟩
        rw [hid] at ho
        cases ho
    · obtain ⟨rfl, hids⟩ := afterHandOuts_dispatch rfl hrest
      refine .inr ⟨d, rfl, ⟨h, List.mem_cons_self, hid⟩, ?_⟩
      refine List.forall_mem_cons.mpr ⟨fun other ho => ?_, fun h' hm other ho => ?_⟩
      · exact (Option.some.inj (hid.symm.trans ho)).symm
      · rw [hids h' hm] at ho
        cases ho

/-! ## The next fetch -/

/-- Some source of code and some Gateway serve every activation. -/
theorem exists_serves (msg : ActivationMessage ρ) :
    ∃ codeProvider gatewayClient, Serves codeProvider gatewayClient msg := by
  classical
  have hoption : ∀ (targetBindingId : Int64) (source : ProtectedEnvelopeV1), ∃ output,
      0 < targetBindingId → source.1.direction = .sourceToGateway →
        GatewayControl.Preserves source output .gatewayToTarget targetBindingId := by
    intro targetBindingId source
    by_cases h : 0 < targetBindingId ∧ source.1.direction = .sourceToGateway
    · obtain ⟨output, houtput, -⟩ := GatewayControl.exists_preserves_gatewayToTarget h.1 h.2
      exact ⟨output, fun _ _ => houtput⟩
    · exact ⟨source, fun hpos hdirection => absurd ⟨hpos, hdirection⟩ h⟩
  choose output houtput using hoption
  refine ⟨fun _ => .successful (.ok ⟨msg.revision, someCode⟩),
    fun targetBindingId source => .successful (.ok (output targetBindingId source)), ?_, ?_⟩
  · intro targetBindingId source hpos hdirection _
    exact ⟨_, rfl, houtput targetBindingId source hpos hdirection⟩
  · exact ⟨someCode, rfl, rfl, rfl⟩

/-- A source INPUT with a revision is dispatched. -/
theorem staysDispatchable_source (hrevision : msg.revision ≠ DocRevision.empty)
    (hsource : sourceInput msg.content = .ok source) (hs : List (HandOut ρ)) :
    StaysDispatchable hs source msg := by
  intro request codeProvider gatewayClient targetBindingId hid hpos _ hserves
  have hinput := isSourceInput_of_sourceInput hsource
  obtain ⟨targetInput, htargetInput, -⟩ :=
    hserves.gateway targetBindingId source hpos hinput.direction_eq (.inr hinput.kind_eq)
  obtain ⟨code, hcode, hdirection, hkind⟩ := hserves.code
  obtain ⟨targetEnvelope, htarget, -⟩ :=
    hserves.gateway targetBindingId code hpos hdirection (.inl hkind)
  have hout : HandsOut codeProvider gatewayClient request msg targetBindingId source msg.revision
      targetInput (if request.warmed then none else some targetEnvelope) :=
    ⟨hrevision, hsource, htargetInput, fun h => ⟨rfl, if_pos h⟩,
      fun h => ⟨code, targetEnvelope, hcode, htarget, if_neg (by simp [h])⟩⟩
  exact ⟨⟨targetBindingId, source.1.bindingId, msg.revision, request.warmed, targetInput, _⟩, rfl,
    rfl, (prepare_eq_ok_iff hid hpos).mpr ⟨_, _, _, _, hout, rfl⟩⟩

/-- A message that was dispatched is not dispatched again. -/
theorem not_staysDispatchable_dispatch (hcontent : msg.content = some d.content)
    (hothers : ∀ h ∈ hs, ∀ other, h.request.targetBindingId = some other →
      other = d.targetBindingId) : ¬ StaysDispatchable hs source msg := by
  intro hstays
  obtain ⟨other, hpos, hne⟩ : ∃ other : Int64, 0 < other ∧ other ≠ d.targetBindingId := by
    by_cases h : d.targetBindingId = 1
    · exact ⟨2, by decide, by rw [h]; decide⟩
    · exact ⟨1, by decide, fun heq => h heq.symm⟩
  obtain ⟨codeProvider, gatewayClient, hserves⟩ := exists_serves msg
  obtain ⟨d', -, -, hprepare⟩ := hstays ⟨true, some other⟩ codeProvider gatewayClient other rfl
    hpos (fun h hm heq => hne (hothers h hm other heq)) hserves
  rcases prepare_cases hprepare with ⟨hnone, -⟩ | ⟨_, _, _, -, hsource, -, -⟩
  · cases hnone
  · rw [hcontent] at hsource
    exact sourceInput_content_ne d hsource

/-- A message without a revision is not dispatched. -/
theorem not_staysDispatchable_empty (hrevision : msg.revision = DocRevision.empty)
    (hids : ∀ h ∈ hs, h.request.targetBindingId = none) : ¬ StaysDispatchable hs source msg := by
  intro hstays
  obtain ⟨codeProvider, gatewayClient, hserves⟩ := exists_serves msg
  obtain ⟨d, -, -, hprepare⟩ := hstays ⟨true, some 1⟩ codeProvider gatewayClient 1 rfl (by decide)
    (fun h hm heq => absurd ((hids h hm).symm.trans heq) (by simp)) hserves
  obtain ⟨_, _, _, _, hout, -⟩ := (prepare_eq_ok_iff rfl (by decide)).mp hprepare
  exact hout.revision_ne hrevision

/-- **An activation that comes back stays dispatchable** exactly when it has a revision and no
container that it was handed to had a target binding: the dispatch is written over the source
INPUT, and it is the dispatch that comes back. -/
theorem staysDispatchable_iff (hsource : sourceInput msg.content = .ok source)
    (hback : afterHandOuts hs msg = some back) :
    StaysDispatchable hs source back ↔
      msg.revision ≠ DocRevision.empty ∧ ∀ h ∈ hs, h.request.targetBindingId = none := by
  constructor
  · intro hstays
    rcases afterHandOuts_source hsource hback with ⟨hids, rfl⟩ | ⟨d, hcontent, -, hothers⟩
    · exact ⟨fun hrevision => not_staysDispatchable_empty hrevision hids hstays, hids⟩
    · exact absurd hstays (not_staysDispatchable_dispatch hcontent hothers)
  · rintro ⟨hrevision, hids⟩
    rcases afterHandOuts_source hsource hback with ⟨-, rfl⟩ | ⟨d, -, ⟨h, hm, hid⟩, -⟩
    · exact staysDispatchable_source hrevision hsource hs
    · rw [hids h hm] at hid
      cases hid

/-- An activation with a source INPUT. -/
def sourceActivation : ActivationMessage Unit where
  action := "guest/action".toList
  revision := ⟨some "1-exact".toList⟩
  content := some (sourceContent someInput)
  others := ()

theorem sourceActivation_source : sourceInput sourceActivation.content = .ok someInput :=
  sourceInput_sourceContent ⟨rfl, rfl, rfl⟩

/-- A container without a target binding. -/
def ordinaryHandOut : HandOut Unit where
  request := ⟨true, none⟩
  codeProvider := fun _ => .failed []
  gatewayClient := fun _ _ => .failed []
  reusable := false
  initArgs := []
  injectionEnabled := true
  firstInjection := true

/-- Behind such a container the activation is dispatched. -/
theorem ordinaryHandOut_staysDispatchable :
    afterHandOuts [ordinaryHandOut] sourceActivation = some sourceActivation ∧
      StaysDispatchable [ordinaryHandOut] someInput sourceActivation :=
  ⟨rfl, (staysDispatchable_iff sourceActivation_source rfl).mpr
    ⟨by decide, by simp [ordinaryHandOut]⟩⟩

/-- A warm container with binding 42. -/
def boundHandOut : HandOut Unit where
  request := ⟨true, some 42⟩
  codeProvider := fun _ => .failed []
  gatewayClient := fun _ _ => .successful (.ok sampleDispatch.targetInput)
  reusable := true
  initArgs := []
  injectionEnabled := false
  firstInjection := true

/-- A container with a target binding fails its health check, and its activation is dispatched to
no other. -/
theorem boundHandOut_not_staysDispatchable :
    ∃ back, afterHandOuts [boundHandOut] sourceActivation = some back ∧
      ¬ StaysDispatchable [boundHandOut] someInput back := by
  set back : ActivationMessage Unit :=
    { sourceActivation with content := some sampleDispatch.content } with hdef
  have hprepare : prepare boundHandOut.codeProvider boundHandOut.gatewayClient
      boundHandOut.request sourceActivation = .successful (.ok back) :=
    (prepare_eq_ok_iff rfl (by decide)).mpr
      ⟨someInput, _, sampleDispatch.targetInput, none, ⟨by decide, sourceActivation_source, rfl,
        fun _ => ⟨rfl, rfl⟩, fun h => by cases h⟩, rfl⟩
  have hparse : parseTargetDispatch back.content = .ok sampleDispatch :=
    parseTargetDispatch_content sampleDispatch_valid
  have hparameters : boundHandOut.parameters back = some (.object
      [(protectedInputField, .string (encodeBase64 sampleDispatch.targetInput.bytes))]) := by
    unfold HandOut.parameters
    rw [hparse]
    rfl
  have hback : afterHealthError sourceActivation boundHandOut = some back := by
    unfold afterHealthError
    rw [hprepare]
    show (boundHandOut.parameters back).map (boundHandOut.resumed back) = some back
    rw [hparameters]
    rfl
  refine ⟨back, ?_, not_staysDispatchable_dispatch (d := sampleDispatch) rfl ?_⟩
  · rw [afterHandOuts_cons, hback]
    rfl
  · intro h hm other ho
    obtain rfl := List.mem_singleton.mp hm
    exact (Option.some.inj ho).symm

end TargetBound
end OpenWhisk
end AsynCS
