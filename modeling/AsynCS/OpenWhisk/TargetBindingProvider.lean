import AsynCS.Lib.Chain
import AsynCS.OpenWhisk.GatewayClient
import AsynCS.OpenWhisk.InvokerReactive

/-!
# Target bindings of containers

Before a container of the reusable kind works, the invoker binds an endpoint of the bridge to it,
registers that endpoint with the Gateway, and installs the id of the registration in the
container.  When something fails, what was done before is undone.

* `bind`, `awaitReady`, `closeBinding`: the bridge client and the provider, as chains of calls
  with given outcomes.
* `awaitTargetBindingOrDestroy`, `targetBoundRemoval`: what the container proxy does with them.
* `Bound`, `Released`: what has been called for a container with a binding, and for one that is
  gone.
* `ends_awaitTargetBindingOrDestroy`, `ends_targetBoundRemoval`: the two chains leave the one or
  the other.
-/

namespace AsynCS
namespace OpenWhisk
namespace TargetBindingProvider

open GatewayControl
open InvokerReactive (trim)

/-! ## Calls -/

/-- What is called, and what the calls for a binding return. -/
inductive Event where
  | bind (containerIdentity targetHost : Text) (targetPort : ℕ)
  | registerTarget (containerIdentity endpointHost : Text) (endpointPort : ℕ)
  /-- `registerTarget` returns an id -/
  | registered (targetBindingId : Int64)
  | activateBinding (targetBindingId : Int64)
  /-- `awaitReady` returns a binding -/
  | ready (targetBindingId : Int64)
  | closeTarget (targetBindingId : Int64)
  | unbind (containerIdentity : Text)
  | resume
  | destroy
  /-- `clientProxyFactory` is called -/
  | createClient (targetBindingId : Option Int64)
  deriving DecidableEq

/-- Futures that are given by what is called. -/
abbrev Calls (α : Type) := Chain Event Text α

/-- `TargetBinding`: an opaque id, which must be positive. -/
abbrev TargetBinding := {id : Int64 // 0 < id}

/-- A registration that the Gateway client returns. -/
abbrev ActiveTarget := {target : GatewayRegisteredTarget // 0 < target.targetBindingId}

/-- The Gateway client returns no other. -/
theorem positive_of_decodeRegisterTarget {body : Bytes} {target : GatewayRegisteredTarget}
    (hlen : body.length = registerTargetResponseSize)
    (h : decodeRegisterTarget body = .ok target) : 0 < target.targetBindingId :=
  ((decodeRegisterTarget_eq_ok_iff hlen).mp h).2.1

/-- The reply to a `registerTarget`. -/
abbrev Reply := Except Text (Except GatewayControlError ActiveTarget)

/-! ## The bridge client -/

/-- `TargetEndpointBinding` -/
structure TargetEndpointBinding where
  containerIdentity : Text
  endpointHost : Text
  endpointPort : ℕ

/-- `requiredString` -/
def requiredString (binding : JsValue.Fields) (field : Text) : Except Text Text :=
  orError (((binding.get field).bind JsValue.asString).bind fun value =>
      if trim value ≠ [] then some (trim value) else none)
    ("target endpoint bridge response has invalid ".toList ++ field)

/-- A whole number that is a port. -/
def portOf (value : ℚ) : Option ℕ :=
  if value.den = 1 ∧ 1 ≤ value ∧ value ≤ 65535 then some value.num.toNat else none

section Bridge

variable (parseJson : Text → Except Text JsValue)

/-- `parseBindingResponse` -/
def parseBindingResponse (expectedContainerIdentity responseBody : Text) :
    Except Text TargetEndpointBinding := do
  let value ← parseJson responseBody
  let response ← orError value.asObject "JSON object expected".toList
  let binding ← orError ((response.get "binding".toList).bind JsValue.asObject)
    "target endpoint bridge response is missing binding".toList
  let containerIdentity ← requiredString binding "containerIdentity".toList
  check (containerIdentity = expectedContainerIdentity)
    "target endpoint bridge response has the wrong container identity".toList
  let endpointHost ← requiredString binding "endpointHost".toList
  let endpointPort ← orError
    (((binding.get "endpointPort".toList).bind JsValue.asNumber).bind portOf)
    "target endpoint bridge response has invalid endpointPort".toList
  .ok ⟨containerIdentity, endpointHost, endpointPort⟩

/-- `unbind`, with the outcome of its request. -/
def unbind (containerIdentity : Text) (request : Except Text Unit) : Calls Unit :=
  .call (.unbind containerIdentity) request

/-- `bind`, with the outcome of its request and of the `unbind` after a response that cannot be
read. -/
def bind (containerIdentity targetHost : Text) (targetPort : ℕ) (request : Except Text Text)
    (unbound : Except Text Unit) : Calls TargetEndpointBinding :=
  (Chain.call (.bind containerIdentity targetHost targetPort) request).flatMap fun responseBody =>
    Chain.recoverWith ⟨[], parseBindingResponse parseJson containerIdentity responseBody⟩
      fun parseFailure =>
        (unbind containerIdentity unbound).transformWith fun _ => .failed parseFailure

end Bridge

/-! ## The provider -/

/-- `requiresBinding` -/
def requiresBinding (kind : Text) : Bool := kind = "reusable-concurrency:1".toList

/-- A container: its id and the host of its address, the kind of its actions, and the port of its
endpoint. -/
structure TargetContainer where
  containerId : Text
  host : Text
  kind : Text
  containerEndpointPort : ℕ

/-- The outcomes of what is called until a container is ready. -/
structure ReadyOutcomes where
  /-- the request of `bind` -/
  request : Except Text Text
  reply : Reply
  /-- the replies to the attempts that are made before the deadline -/
  retries : List Reply
  activate : Except Text Unit
  close : Except Text (Except GatewayControlError Unit)
  unbind : Except Text Unit
  destroy : Except Text Unit

/-- The outcomes of what is called when a container is removed. -/
structure RemovalOutcomes where
  resume : Except Text Unit
  close : Except Text (Except GatewayControlError Unit)
  unbind : Except Text Unit
  destroy : Except Text Unit

/-- `closeGateway` -/
def closeGateway (targetBindingId : Int64)
    (close : Except Text (Except GatewayControlError Unit)) : Calls Unit :=
  (Chain.call (.closeTarget targetBindingId) close).flatMap fun
    | .ok _ => .successful ()
    | .error error => .failed ("Gateway target close failed: ".toList ++ error.message)

/-- One attempt of `registerTarget`. -/
def registerTarget (containerIdentity : Text) (endpoint : TargetEndpointBinding) (reply : Reply) :
    Calls (Except GatewayControlError ActiveTarget) :=
  (Chain.call (.registerTarget containerIdentity endpoint.endpointHost endpoint.endpointPort)
    reply).flatMap fun
    | .ok registered => .call (.registered registered.1.targetBindingId) (.ok (.ok registered))
    | .error error => .successful (.error error)

/-- What `register` does with a reply: after an error it goes on as given. -/
def onReply (o : ReadyOutcomes) (onError : GatewayControlError → Calls TargetBinding) :
    Except GatewayControlError ActiveTarget → Calls TargetBinding
  | .ok registered =>
    ((Chain.call (.activateBinding registered.1.targetBindingId) o.activate).flatMap fun _ =>
      .successful ⟨registered.1.targetBindingId, registered.2⟩).recoverWith
      fun activationFailure =>
        (closeGateway registered.1.targetBindingId o.close).transformWith fun _ =>
          .failed activationFailure
  | .error error => onError error

/-- `register`: it is called again as long as there is time left. -/
def register (containerIdentity : Text) (o : ReadyOutcomes) (endpoint : TargetEndpointBinding) :
    Reply → List Reply → Calls TargetBinding
  | reply, [] =>
    (registerTarget containerIdentity endpoint reply).flatMap <| onReply o fun error =>
      .failed ("Gateway target registration failed: ".toList ++ error.message)
  | reply, next :: retries =>
    (registerTarget containerIdentity endpoint reply).flatMap <| onReply o fun _ =>
      register containerIdentity o endpoint next retries

section Provider

variable (parseJson : Text → Except Text JsValue)

/-- `awaitReady` -/
def awaitReady (target : TargetContainer) (o : ReadyOutcomes) : Calls TargetBinding :=
  ((bind parseJson target.containerId target.host target.containerEndpointPort o.request
    o.unbind).flatMap fun endpoint =>
      (register target.containerId o endpoint o.reply o.retries).recoverWith fun failure =>
        (unbind target.containerId o.unbind).transformWith fun _ => .failed failure).flatMap
    fun binding => .call (.ready binding.1) (.ok binding)

/-- `closeBinding` -/
def closeBinding (target : TargetContainer) (binding : TargetBinding) (o : RemovalOutcomes) :
    Calls Unit :=
  (closeGateway binding.1 o.close).transformWith fun
    | .ok _ => unbind target.containerId o.unbind
    | .error closeFailure =>
      (unbind target.containerId o.unbind).transformWith fun _ => .failed closeFailure

/-! ## The container proxy -/

/-- `destroyContainer` -/
def destroyContainer (destroy : Except Text Unit) : Calls Unit := .call .destroy destroy

/-- `awaitTargetBinding` -/
def awaitTargetBinding (target : TargetContainer) (o : ReadyOutcomes) :
    Calls (Option TargetBinding) :=
  if requiresBinding target.kind then
    (awaitReady parseJson target o).flatMap fun binding => .successful (some binding)
  else .successful none

/-- `awaitTargetBindingOrDestroy` -/
def awaitTargetBindingOrDestroy (target : TargetContainer) (o : ReadyOutcomes) :
    Calls (Option TargetBinding) :=
  (awaitTargetBinding parseJson target o).recoverWith fun t =>
    (destroyContainer o.destroy).transformWith fun _ => .failed t

end Provider

/-- `unpause`: only a paused container is resumed. -/
def unpause (wasPaused : Bool) (resume : Except Text Unit) : Calls Unit :=
  if wasPaused then .call .resume resume else .successful ()

/-- The chain of `beginTargetBoundRemoval`. -/
def targetBoundRemoval (target : TargetContainer) (binding : TargetBinding) (wasPaused : Bool)
    (o : RemovalOutcomes) : Calls Unit :=
  ((unpause wasPaused o.resume).flatMap fun _ => closeBinding target binding o).transformWith fun
    | .ok _ => destroyContainer o.destroy
    | .error closeFailure =>
      (destroyContainer o.destroy).transformWith fun _ => .failed closeFailure

/-- The chain of `cleanUp` for a container without a binding. -/
def unboundRemoval (wasPaused : Bool) (o : RemovalOutcomes) : Calls Unit :=
  (unpause wasPaused o.resume).flatMap fun _ => destroyContainer o.destroy

/-! ## What is left behind -/

/-- Nothing of the container is given up, and no client works with it. -/
def Event.quiet : Event → Bool
  | .unbind _ => false
  | .destroy => false
  | .createClient _ => false
  | _ => true

/-- A container with a binding, as it is when it begins to work. -/
structure Bound (id : Int64) (log : List Event) : Prop where
  registered : ∀ id', Event.registered id' ∈ log → id' = id
  ready : Event.ready id ∈ log
  unbound : ∀ identity, Event.unbind identity ∉ log
  destroyed : Event.destroy ∉ log

/-- **No orphan**: a container that is gone has no registration that is not closed, no endpoint
that is not unbound, and was destroyed once. -/
structure Released (containerIdentity : Text) (log : List Event) : Prop where
  closed : ∀ id, Event.registered id ∈ log → Event.closeTarget id ∈ log
  unbound : Event.unbind containerIdentity ∈ log
  destroyed : log.count .destroy = 1

/-! ## Until a container is ready -/

variable {parseJson : Text → Except Text JsValue} {target : TargetContainer}
  {o : ReadyOutcomes} {containerIdentity : Text} {endpoint : TargetEndpointBinding} {reply : Reply}

/-- One attempt: an id is returned, or an error, or nothing. -/
theorem ends_registerTarget_iff
    {P : List Event → Except Text (Except GatewayControlError ActiveTarget) → Prop} :
    (registerTarget containerIdentity endpoint reply).Ends P ↔
      (∀ t, reply = .ok (.ok t) →
        P [.registerTarget containerIdentity endpoint.endpointHost endpoint.endpointPort,
          .registered t.1.targetBindingId] (.ok (.ok t))) ∧
      (∀ error, reply = .ok (.error error) →
        P [.registerTarget containerIdentity endpoint.endpointHost endpoint.endpointPort]
          (.ok (.error error))) ∧
      ∀ exception, reply = .error exception →
        P [.registerTarget containerIdentity endpoint.endpointHost endpoint.endpointPort]
          (.error exception) := by
  rw [registerTarget, Chain.ends_flatMap_iff, Chain.ends_call_iff]
  match reply with
  | .ok (.ok t) => simp
  | .ok (.error error) => simp
  | .error exception => simp

/-- What closes a registration calls for it. -/
theorem ends_closeGateway {id : Int64} {close : Except Text (Except GatewayControlError Unit)} :
    (closeGateway id close).Ends fun log _ => log = [.closeTarget id] := by
  rw [closeGateway, Chain.ends_flatMap_iff, Chain.ends_call_iff]
  match close with
  | .ok (.ok ()) => simp
  | .ok (.error error) => simp
  | .error exception => simp

/-- A registration is installed, or closed. -/
theorem ends_onReply_ok {onError : GatewayControlError → Calls TargetBinding} {t : ActiveTarget} :
    (onReply o onError (.ok t)).Ends fun log r =>
      (∀ b, r = .ok b → log = [.activateBinding t.1.targetBindingId] ∧
        b.1 = t.1.targetBindingId) ∧
      ∀ e, r = .error e →
        log = [.activateBinding t.1.targetBindingId, .closeTarget t.1.targetBindingId] := by
  rw [onReply, Chain.ends_recoverWith_iff, Chain.ends_flatMap_iff, Chain.ends_call_iff]
  constructor
  · rintro _ -
    refine ⟨?_, nofun⟩
    rintro _ ⟨rfl⟩
    refine ⟨?_, nofun⟩
    rintro _ ⟨rfl⟩
    exact ⟨rfl, rfl⟩
  · intro e he
    simp only [reduceCtorEq, false_implies, implies_true, true_and, Except.error.injEq,
      forall_eq', Chain.ends_transformWith_iff]
    exact ends_closeGateway.mono fun _ _ hlog => by simp [hlog]

/-- What registering leaves: one open registration after a success, none after a failure. -/
structure Registers (log : List Event) (r : Except Text TargetBinding) : Prop where
  kept : ∀ b, r = .ok b → ∀ id, Event.registered id ∈ log → id = b.1
  closed : ∀ e, r = .error e → ∀ id, Event.registered id ∈ log → Event.closeTarget id ∈ log
  quiet : ∀ event ∈ log, event.quiet = true

/-- A reply with an id ends the attempts. -/
theorem registers_of_activated {t : ActiveTarget} {log : List Event}
    {r : Except Text TargetBinding} {host : Text} {port : ℕ}
    (hok : ∀ b, r = .ok b →
      log = [.activateBinding t.1.targetBindingId] ∧ b.1 = t.1.targetBindingId)
    (herror : ∀ e, r = .error e →
      log = [.activateBinding t.1.targetBindingId, .closeTarget t.1.targetBindingId]) :
    Registers ([.registerTarget containerIdentity host port, .registered t.1.targetBindingId] ++
      log) r := by
  cases r with
  | ok b =>
    obtain ⟨rfl, hb⟩ := hok b rfl
    constructor
    · rintro _ ⟨rfl⟩ id hid
      rw [hb]
      simpa using hid
    · exact nofun
    · simp [Event.quiet]
  | error e =>
    obtain rfl := herror e rfl
    constructor
    · exact nofun
    · rintro _ - id hid
      simpa using hid
    · simp [Event.quiet]

/-- An attempt without an id leaves nothing to close. -/
theorem registers_failed {host : Text} {port : ℕ} {e : Text} :
    Registers [.registerTarget containerIdentity host port] (.error e) :=
  ⟨nofun, by simp, by simp [Event.quiet]⟩

/-- **Registering**, by induction on the attempts that are made. -/
theorem ends_register (retries : List Reply) (reply : Reply) :
    (register containerIdentity o endpoint reply retries).Ends Registers := by
  induction retries generalizing reply with
  | nil =>
    rw [register, Chain.ends_flatMap_iff, ends_registerTarget_iff]
    refine ⟨fun t _ => ⟨?_, nofun⟩, fun error _ => ⟨?_, nofun⟩, fun exception _ => ⟨nofun, ?_⟩⟩
    · rintro _ ⟨rfl⟩
      exact ends_onReply_ok.mono fun _ _ h => registers_of_activated h.1 h.2
    · rintro _ ⟨rfl⟩
      exact registers_failed
    · rintro _ ⟨rfl⟩
      exact registers_failed
  | cons next retries ih =>
    rw [register, Chain.ends_flatMap_iff, ends_registerTarget_iff]
    refine ⟨fun t _ => ⟨?_, nofun⟩, fun error _ => ⟨?_, nofun⟩, fun exception _ => ⟨nofun, ?_⟩⟩
    · rintro _ ⟨rfl⟩
      exact ends_onReply_ok.mono fun _ _ h => registers_of_activated h.1 h.2
    · -- an error: what the next attempts leave
      rintro _ ⟨rfl⟩
      refine (ih next).mono fun log r h => ⟨fun b hb id hid => ?_, fun e he id hid => ?_, ?_⟩
      · exact h.kept b hb id (by simpa using hid)
      · exact List.mem_append_right _ (h.closed e he id (by simpa using hid))
      · simpa [Event.quiet] using h.quiet
    · rintro _ ⟨rfl⟩
      exact registers_failed

/-- A log of quiet calls gives up nothing, and nobody works with the container. -/
theorem notMem_of_quiet {log : List Event} (h : ∀ event ∈ log, event.quiet = true) {event : Event}
    (hevent : event.quiet = false) : event ∉ log := by
  intro hmem
  rw [h event hmem] at hevent
  cases hevent

/-- What the bridge client leaves: an endpoint, an endpoint that is unbound, or nothing when its
request fails. -/
theorem ends_bind {targetHost : Text} {targetPort : ℕ} {request : Except Text Text}
    {unbound : Except Text Unit} :
    (bind parseJson containerIdentity targetHost targetPort request unbound).Ends fun log r =>
      (∀ a, r = .ok a → log = [.bind containerIdentity targetHost targetPort] ∧
        request.isOk = true) ∧
      ∀ e, r = .error e →
        log = [.bind containerIdentity targetHost targetPort, .unbind containerIdentity] ∧
            request.isOk = true ∨
          log = [.bind containerIdentity targetHost targetPort] ∧ request.isOk = false := by
  rw [bind, Chain.ends_flatMap_iff, Chain.ends_call_iff]
  constructor
  · rintro responseBody rfl
    rw [Chain.ends_recoverWith_iff]
    refine ⟨fun endpoint _ => ⟨fun _ _ => ⟨rfl, rfl⟩, nofun⟩, fun parseFailure _ => ?_⟩
    exact ⟨nofun, fun _ _ => .inl ⟨rfl, rfl⟩⟩
  · rintro e rfl
    exact ⟨nofun, fun _ _ => .inr ⟨rfl, rfl⟩⟩

/-- What waiting for a container leaves: a binding that is open, or none. -/
structure Waits (containerIdentity : Text) (answered : Bool) (log : List Event)
    (r : Except Text TargetBinding) : Prop where
  bound : ∀ b, r = .ok b → Bound b.1 log ∧ answered = true
  closed : ∀ e, r = .error e → ∀ id, Event.registered id ∈ log → Event.closeTarget id ∈ log
  unbound : ∀ e, r = .error e → (Event.unbind containerIdentity ∈ log ↔ answered = true)
  destroyed : Event.destroy ∉ log
  client : ∀ id, Event.createClient id ∉ log

/-- **Until a container is ready.** -/
theorem ends_awaitReady (target : TargetContainer) (o : ReadyOutcomes) :
    (awaitReady parseJson target o).Ends (Waits target.containerId o.request.isOk) := by
  rw [awaitReady, Chain.ends_flatMap_iff, Chain.ends_flatMap_iff]
  have hunbind : ∀ {log r}, Registers log r → ∀ identity, Event.unbind identity ∉ log :=
    fun h _ => notMem_of_quiet h.quiet rfl
  have hdestroy : ∀ {log r}, Registers log r → Event.destroy ∉ log :=
    fun h => notMem_of_quiet h.quiet rfl
  have hclient : ∀ {log r}, Registers log r → ∀ id, Event.createClient id ∉ log :=
    fun h _ => notMem_of_quiet h.quiet rfl
  refine ends_bind.mono fun log r ⟨hok, herror⟩ => ⟨fun endpoint hr => ?_, fun e hr => ?_⟩
  · obtain ⟨rfl, hanswered⟩ := hok endpoint hr
    rw [Chain.ends_recoverWith_iff]
    refine (ends_register o.retries o.reply).mono fun log' r' h => ⟨fun b hb => ?_, fun e he => ?_⟩
    · -- registered, and installed in the container
      refine ⟨?_, nofun⟩
      rintro _ ⟨rfl⟩
      refine ⟨?_, nofun, nofun, by simp [hdestroy h], by simp [hclient h]⟩
      rintro _ ⟨rfl⟩
      refine ⟨⟨fun id hid => h.kept b hb id ?_, by simp, by simp [hunbind h],
        by simp [hdestroy h]⟩, hanswered⟩
      simpa using hid
    · -- not registered, and unbound
      refine ⟨nofun, ?_⟩
      rintro _ ⟨rfl⟩
      refine ⟨nofun, fun _ _ id hid => ?_, fun _ _ => iff_of_true (by simp [unbind]) hanswered,
        by simp [unbind, hdestroy h], by simp [unbind, hclient h]⟩
      have hclosed := h.closed e he id (by simpa [unbind] using hid)
      exact List.mem_append_right _ (List.mem_append_left _ hclosed)
  · rcases herror e hr with ⟨rfl, hanswered⟩ | ⟨rfl, hanswered⟩
    · -- a response that cannot be read
      refine ⟨nofun, ?_⟩
      rintro _ ⟨rfl⟩
      exact ⟨nofun, by simp, fun _ _ => iff_of_true (by simp) hanswered, by simp, by simp⟩
    · -- a request that fails
      refine ⟨nofun, ?_⟩
      rintro _ ⟨rfl⟩
      exact ⟨nofun, by simp, fun _ _ => iff_of_false (by simp) (by simp [hanswered]), by simp,
        by simp⟩

/-- **A container that is asked for**: it has a binding, or it is gone, and then it is released
exactly when the bridge answered. -/
theorem ends_awaitTargetBindingOrDestroy (target : TargetContainer) (o : ReadyOutcomes)
    (hkind : requiresBinding target.kind = true) :
    (awaitTargetBindingOrDestroy parseJson target o).Ends fun log r =>
      (∀ b, r = .ok b →
        ∃ binding, b = some binding ∧ Bound binding.1 log ∧ o.request.isOk = true) ∧
        (∀ e, r = .error e → (Released target.containerId log ↔ o.request.isOk = true)) ∧
        ∀ id, Event.createClient id ∉ log := by
  rw [awaitTargetBindingOrDestroy, awaitTargetBinding, if_pos hkind, Chain.ends_recoverWith_iff,
    Chain.ends_flatMap_iff]
  refine (ends_awaitReady target o).mono fun log r h => ⟨fun binding hr => ?_, fun e hr => ?_⟩
  · refine ⟨?_, nofun⟩
    rintro _ ⟨rfl⟩
    refine ⟨?_, nofun, by simpa using h.client⟩
    rintro _ ⟨rfl⟩
    obtain ⟨hbound, hanswered⟩ := h.bound binding hr
    exact ⟨binding, rfl, by simpa using hbound, hanswered⟩
  · refine ⟨nofun, ?_⟩
    rintro _ ⟨rfl⟩
    refine ⟨nofun, fun _ _ => ?_, by simpa [destroyContainer] using h.client⟩
    have hunbound := h.unbound e hr
    have hcount : (log ++ [Event.destroy]).count .destroy = 1 := by
      rw [List.count_append, List.count_eq_zero_of_not_mem h.destroyed]
      simp
    constructor
    · intro hreleased
      exact hunbound.mp (by simpa [destroyContainer] using hreleased.unbound)
    · intro hanswered
      refine ⟨fun id hid => ?_, List.mem_append_left _ (hunbound.mpr hanswered), hcount⟩
      have hid' : Event.registered id ∈ log := by simpa [destroyContainer] using hid
      exact List.mem_append_left _ (h.closed e hr id hid')

/-! ## When a container is removed -/

variable {o : RemovalOutcomes} {binding : TargetBinding}

/-- Closing a binding closes its registration and unbinds its endpoint, whatever fails. -/
theorem log_closeBinding :
    (closeBinding target binding o).log = [.closeTarget binding.1, .unbind target.containerId] := by
  have hclose : (closeGateway binding.1 o.close).log = [.closeTarget binding.1] := ends_closeGateway
  rw [closeBinding, Chain.transformWith, hclose]
  cases (closeGateway binding.1 o.close).result <;> rfl

/-- **A removal** closes, unbinds and destroys; but when a paused container does not resume, it
only destroys. -/
theorem log_targetBoundRemoval (wasPaused : Bool) :
    (targetBoundRemoval target binding wasPaused o).log =
      (if wasPaused then [.resume] else []) ++
        (if wasPaused = true ∧ o.resume.isOk = false then []
          else [.closeTarget binding.1, .unbind target.containerId]) ++ [.destroy] := by
  rw [targetBoundRemoval, Chain.log_transformWith]
  have hclosed : ((unpause wasPaused o.resume).flatMap fun _ =>
      closeBinding target binding o).log =
        (if wasPaused then [.resume] else []) ++
          if wasPaused = true ∧ o.resume.isOk = false then []
          else [.closeTarget binding.1, .unbind target.containerId] := by
    rw [Chain.flatMap, Chain.log_transformWith]
    cases wasPaused with
    | false => exact log_closeBinding
    | true =>
      cases hresume : o.resume with
      | ok u => simp [unpause, Chain.call, log_closeBinding, Except.isOk, Except.toBool]
      | error e => simp [unpause, Chain.call, Except.isOk, Except.toBool]
  rw [hclosed]
  cases ((unpause wasPaused o.resume).flatMap fun _ => closeBinding target binding o).result <;> rfl

/-- **A removal** of a container with a binding releases it exactly when it was not paused, or has
resumed. -/
theorem released_targetBoundRemoval_iff {log : List Event} (h : Bound binding.1 log)
    (wasPaused : Bool) :
    Released target.containerId (log ++ (targetBoundRemoval target binding wasPaused o).log) ↔
      (wasPaused = true → o.resume.isOk = true) := by
  rw [log_targetBoundRemoval]
  have hdestroyed : log.count .destroy = 0 := List.count_eq_zero_of_not_mem h.destroyed
  by_cases hresumes : wasPaused = true ∧ o.resume.isOk = false
  · obtain ⟨rfl, hresume⟩ := hresumes
    refine iff_of_false (fun hreleased => ?_) (by simp [hresume])
    have hunbound := hreleased.unbound
    simp [hresume, h.unbound] at hunbound
  · rw [if_neg hresumes]
    refine iff_of_true ⟨fun id hid => ?_, by simp, ?_⟩ fun hpaused => ?_
    · have hid' : Event.registered id ∈ log := by
        cases wasPaused <;> simpa using hid
      rw [h.registered id hid']
      simp
    · cases wasPaused <;> simp [hdestroyed]
    · simpa [hpaused] using hresumes

end TargetBindingProvider
end OpenWhisk
end AsynCS
