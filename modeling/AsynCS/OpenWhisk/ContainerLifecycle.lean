import AsynCS.Lib.Precedes
import AsynCS.Lib.Runs
import AsynCS.OpenWhisk.TargetBindingProvider

/-!
# The life of a container with a binding

A container proxy asks for a container, waits until it is ready, creates an activation client for
it, and in the end removes it.  A container with an active binding is removed when its client is
closed and its activations have ended; the removal is started once.

* `ProxyState`, `step`: the proxy, as far as the binding of its container depends on it.
* `Life`: the states that a proxy goes through; `sound_of_reach`.
* `leavesNoOrphan_iff`: the runs that leave nothing behind.
-/

namespace AsynCS
namespace OpenWhisk
namespace FunctionPullingContainerProxy

open TargetBindingProvider

/-! ## The proxy -/

/-- The states of the proxy.  `working` stands for all those in which the client fetches or runs
activations. -/
inductive Stage where
  | uninitialized
  | creatingContainer
  | containerCreated
  | creatingClient
  | working
  | paused
  | removing
  | stopped
  deriving DecidableEq

/-- The proxy of one container. -/
structure ProxyState where
  stage : Stage
  /-- the container is not ready yet -/
  awaiting : Bool
  activeTargetBinding : Option TargetBinding
  /-- whether the container was paused -/
  pendingTargetBoundRemoval : Option Bool
  targetBoundRemovalStarted : Bool
  /-- the removal that is under way: whether it resumes the container, and what it closes -/
  removal : Option (Bool × TargetBinding)
  runningActivations : ℕ
  /-- what was called, in order -/
  calls : List Event

def ProxyState.initial : ProxyState where
  stage := .uninitialized
  awaiting := false
  activeTargetBinding := none
  pendingTargetBoundRemoval := none
  targetBoundRemovalStarted := false
  removal := none
  runningActivations := 0
  calls := []

/-- What happens to a proxy. -/
inductive ProxyEvent where
  /-- a container is created in advance -/
  | start
  /-- an action is given to the proxy -/
  | initializeAction
  /-- the container is ready, or not, and the message about it arrives -/
  | readinessCompletes (o : ReadyOutcomes)
  /-- the client works, or the container is paused -/
  | goesOn (paused : Bool)
  | activationStarts
  | activationEnds
  | cleanUp (o : RemovalOutcomes)
  | clientClosed
  /-- the removal is done, or has failed, and the message about it arrives -/
  | removalCompletes (o : RemovalOutcomes)

namespace ProxyState

variable (s : ProxyState)

/-- A container that is ready. -/
def hasContainer : Bool :=
  !s.awaiting && (s.stage == .containerCreated || s.stage == .creatingClient ||
    s.stage == .working || s.stage == .paused || s.stage == .removing)

/-- `createActivationClient` -/
def createActivationClient : ProxyState :=
  { s with calls := s.calls ++ [.createClient (s.activeTargetBinding.map (·.1))] }

/-- `PreWarmContainerReady`, `ColdContainerReady`, or a failure. -/
def containerReady (ready : Calls (Option TargetBinding)) : ProxyState :=
  match ready.result with
  | .ok binding =>
    let s' : ProxyState :=
      { s with
        awaiting := false
        activeTargetBinding := binding
        calls := s.calls ++ ready.log }
    if s.stage = .creatingClient then s'.createActivationClient
    else { s' with stage := .containerCreated }
  | .error _ => { s with stage := .stopped, awaiting := false, calls := s.calls ++ ready.log }

/-- `cleanUp` -/
def cleanUp (o : RemovalOutcomes) : ProxyState :=
  match s.activeTargetBinding with
  | some _ =>
    { s with stage := .removing, pendingTargetBoundRemoval := some (s.stage == .paused) }
  | none =>
    { s with
      stage := .removing
      calls := s.calls ++ (unboundRemoval (s.stage == .paused) o).log }

/-- `beginTargetBoundRemoval` -/
def beginTargetBoundRemoval : ProxyState :=
  if s.targetBoundRemovalStarted then s
  else
    match s.pendingTargetBoundRemoval, s.activeTargetBinding with
    | some wasPaused, some binding =>
      { s with targetBoundRemovalStarted := true, removal := some (wasPaused, binding) }
    -- the removal state is incomplete
    | _, _ => { s with stage := .stopped }

/-- `ClientClosed` in `Removing`. -/
def clientClosed : ProxyState :=
  match s.activeTargetBinding with
  | some _ => if s.runningActivations ≠ 0 then s else s.beginTargetBoundRemoval
  | none => { s with stage := .stopped }

/-- The removal that is under way ends. -/
def removalCompletes (target : TargetContainer) (o : RemovalOutcomes) : ProxyState :=
  match s.removal with
  | some (wasPaused, binding) =>
    { s with
      stage := .stopped
      removal := none
      calls := s.calls ++ (targetBoundRemoval target binding wasPaused o).log }
  | none => s

end ProxyState

section Machine

variable (parseJson : Text → Except Text JsValue) (target : TargetContainer)

/-- The state after an event. -/
def next (s : ProxyState) : ProxyEvent → ProxyState
  | .start =>
    if s.stage = .uninitialized then { s with stage := .creatingContainer, awaiting := true } else s
  | .initializeAction =>
    if s.stage = .uninitialized then { s with stage := .creatingClient, awaiting := true }
    else if s.stage = .containerCreated then
      { s.createActivationClient with stage := .creatingClient }
    else s
  | .readinessCompletes o =>
    if s.awaiting then s.containerReady (awaitTargetBindingOrDestroy parseJson target o) else s
  | .goesOn paused =>
    if s.hasContainer ∧ s.stage ≠ .containerCreated ∧ s.stage ≠ .removing then
      { s with stage := if paused then .paused else .working }
    else s
  | .activationStarts => { s with runningActivations := s.runningActivations + 1 }
  | .activationEnds => { s with runningActivations := s.runningActivations - 1 }
  | .cleanUp o => if s.hasContainer then s.cleanUp o else s
  | .clientClosed => if s.stage = .removing then s.clientClosed else s
  | .removalCompletes o => s.removalCompletes target o

def step (s : ProxyState) (e : ProxyEvent) : ProxyState × Unit := (next parseJson target s e, ())

end Machine

/-! ## What is wanted -/

/-- Clients are created for bindings that are ready. -/
structure ClientsBound (calls : List Event) : Prop where
  ready : ∀ id, Precedes (· = Event.ready id) (· = Event.createClient (some id)) calls.reverse
  bound : Event.createClient none ∉ calls

/-- **No orphan**: for a container of a kind that requires a binding, when its proxy has stopped. -/
structure LeavesNoOrphan (target : TargetContainer) (s : ProxyState) : Prop where
  released : requiresBinding target.kind = true → s.stage = .stopped →
    Released target.containerId s.calls
  clients : requiresBinding target.kind = true → ClientsBound s.calls

/-- The bridge answers the request to bind the endpoint of the container, and a container that was
paused when it was given up resumes. -/
def keepsBinding (target : TargetContainer) (s : ProxyState) : ProxyEvent → Prop
  | .readinessCompletes o =>
    requiresBinding target.kind = true → s.awaiting = true → o.request.isOk = true
  | .removalCompletes o =>
    ∀ wasPaused binding, s.removal = some (wasPaused, binding) →
      wasPaused = true → o.resume.isOk = true
  | _ => True

/-! ## The life of a proxy -/

/-- Waiting for a container. -/
def Stage.waits : Stage → Bool
  | creatingContainer => true
  | creatingClient => true
  | _ => false

/-- With a container that has not been given up. -/
def Stage.keeps : Stage → Bool
  | containerCreated => true
  | creatingClient => true
  | working => true
  | paused => true
  | _ => false

theorem Stage.waits_iff {stage : Stage} :
    stage.waits = true ↔ stage = .creatingContainer ∨ stage = .creatingClient := by
  cases stage <;> simp [waits]

theorem Stage.keeps_iff {stage : Stage} :
    stage.keeps = true ↔ stage = .containerCreated ∨ stage = .creatingClient ∨
      stage = .working ∨ stage = .paused := by
  cases stage <;> simp [keeps]

/-- The states of a proxy whose container requires a binding. -/
inductive Life : Stage → Bool → Option TargetBinding → Option Bool → Bool →
    Option (Bool × TargetBinding) → List Event → Prop where
  | uninitialized : Life .uninitialized false none none false none []
  | awaiting {stage : Stage} (hstage : stage.waits = true) :
      Life stage true none none false none []
  | bound {stage : Stage} {binding : TargetBinding} {calls : List Event}
      (hstage : stage.keeps = true) (hbound : Bound binding.1 calls) :
      Life stage false (some binding) none false none calls
  | pending {binding : TargetBinding} {wasPaused : Bool} {calls : List Event}
      (hbound : Bound binding.1 calls) :
      Life .removing false (some binding) (some wasPaused) false none calls
  | started {binding : TargetBinding} {wasPaused wasPaused' : Bool} {calls : List Event}
      (hbound : Bound binding.1 calls) :
      Life .removing false (some binding) (some wasPaused') true (some (wasPaused, binding)) calls
  | gone {active : Option TargetBinding} {pending : Option Bool} {started : Bool}
      {calls : List Event} : Life .stopped false active pending started none calls

/-- Every proxy of a container that requires a binding lives so; any other has none. -/
structure Sound (target : TargetContainer) (s : ProxyState) : Prop where
  life : requiresBinding target.kind = true →
    Life s.stage s.awaiting s.activeTargetBinding s.pendingTargetBoundRemoval
      s.targetBoundRemovalStarted s.removal s.calls
  clients : requiresBinding target.kind = true → ClientsBound s.calls
  plain : requiresBinding target.kind = false → s.activeTargetBinding = none ∧ s.removal = none

/-! ### Clients -/

theorem clientsBound_nil : ClientsBound [] := ⟨fun _ => .nil, by simp⟩

/-- Calls that create no client. -/
theorem ClientsBound.append {calls new : List Event} (h : ClientsBound calls)
    (hnew : ∀ id, Event.createClient id ∉ new) : ClientsBound (calls ++ new) := by
  refine ⟨fun id => ?_, by simp [h.bound, hnew]⟩
  rw [List.reverse_append, Precedes.append_iff_of_not]
  · exact h.ready id
  · rintro _ hmem rfl
    exact hnew _ (List.mem_reverse.mp hmem)

/-- A client for a binding that is ready. -/
theorem ClientsBound.createClient {calls : List Event} (h : ClientsBound calls) {id : Int64}
    (hready : Event.ready id ∈ calls) : ClientsBound (calls ++ [.createClient (some id)]) := by
  refine ⟨fun id' => ?_, by simp [h.bound]⟩
  rw [List.reverse_append]
  refine ⟨fun heq => ?_, h.ready id'⟩
  obtain rfl : id = id' := by simpa using heq
  exact ⟨_, List.mem_reverse.mpr hready, rfl⟩

theorem bound_createClient {calls : List Event} {id : Int64} (h : Bound id calls)
    (client : Option Int64) : Bound id (calls ++ [.createClient client]) where
  registered := fun id' hid => h.registered id' (by simpa using hid)
  ready := List.mem_append_left _ h.ready
  unbound := by simp [h.unbound]
  destroyed := by simp [h.destroyed]

/-- A removal creates no client. -/
theorem createClient_notMem_removal {target : TargetContainer} {binding : TargetBinding}
    {o : RemovalOutcomes} (wasPaused : Bool) (id : Option Int64) :
    Event.createClient id ∉ (targetBoundRemoval target binding wasPaused o).log := by
  rw [log_targetBoundRemoval]
  split <;> split <;> simp

/-! ### One event -/

variable {parseJson : Text → Except Text JsValue} {target : TargetContainer} {s : ProxyState}

theorem sound_initial : Sound target .initial :=
  ⟨fun _ => .uninitialized, fun _ => clientsBound_nil, fun _ => ⟨rfl, rfl⟩⟩

/-- A container without a binding is ready at once. -/
theorem awaitTargetBindingOrDestroy_of_plain (hk : requiresBinding target.kind = false)
    (o : ReadyOutcomes) : awaitTargetBindingOrDestroy parseJson target o = .successful none := by
  rw [awaitTargetBindingOrDestroy, awaitTargetBinding, if_neg (by simp [hk])]
  rfl

/-- A proxy without a binding never has one. -/
theorem plain_next (hk : requiresBinding target.kind = false)
    (hs : s.activeTargetBinding = none ∧ s.removal = none) (e : ProxyEvent) :
    (next parseJson target s e).activeTargetBinding = none ∧
      (next parseJson target s e).removal = none := by
  obtain ⟨hactive, hremoval⟩ := hs
  cases e with
  | readinessCompletes o =>
    rw [next, awaitTargetBindingOrDestroy_of_plain hk]
    split
    · simp only [ProxyState.containerReady, Chain.successful]
      split <;> exact ⟨rfl, hremoval⟩
    · exact ⟨hactive, hremoval⟩
  | cleanUp o =>
    simp only [next, ProxyState.cleanUp, hactive]
    split <;> exact ⟨by simp [hactive], hremoval⟩
  | clientClosed =>
    simp only [next, ProxyState.clientClosed, hactive]
    split <;> exact ⟨by simp [hactive], hremoval⟩
  | removalCompletes o =>
    simp only [next, ProxyState.removalCompletes, hremoval]
    exact ⟨hactive, trivial⟩
  | start =>
    simp only [next]
    split <;> exact ⟨hactive, hremoval⟩
  | initializeAction =>
    simp only [next]
    split
    · exact ⟨hactive, hremoval⟩
    · split <;> exact ⟨hactive, hremoval⟩
  | goesOn paused =>
    simp only [next]
    split <;> exact ⟨hactive, hremoval⟩
  | activationStarts => exact ⟨hactive, hremoval⟩
  | activationEnds => exact ⟨hactive, hremoval⟩

/-- What an event leaves of a proxy: it lives on, its clients are bound, and if there was no orphan
before, then there is one now exactly when the event does not keep the binding. -/
structure Leaves (target : TargetContainer) (before kept : Prop) (s : ProxyState) : Prop where
  life : Life s.stage s.awaiting s.activeTargetBinding s.pendingTargetBoundRemoval
    s.targetBoundRemovalStarted s.removal s.calls
  clients : ClientsBound s.calls
  released : before → ((s.stage = .stopped → Released target.containerId s.calls) ↔ kept)

/-- **The container is ready, or not.** -/
theorem leaves_containerReady (hk : requiresBinding target.kind = true) (o : ReadyOutcomes)
    {stage : Stage} (hstage : stage.waits = true) (running : ℕ)
    (before : Prop) : Leaves target before (o.request.isOk = true)
      ((⟨stage, true, none, none, false, none, running, []⟩ : ProxyState).containerReady
        (awaitTargetBindingOrDestroy parseJson target o)) := by
  obtain ⟨hok, herror, hclient⟩ :=
    @ends_awaitTargetBindingOrDestroy parseJson target o hk
  generalize awaitTargetBindingOrDestroy parseJson target o = ready at hok herror hclient
  obtain ⟨log, result⟩ := ready
  have hclients : ClientsBound log := clientsBound_nil.append hclient
  cases result with
  | ok b =>
    obtain ⟨binding, rfl, hbound, hanswered⟩ := hok b rfl
    rcases Stage.waits_iff.mp hstage with rfl | rfl
    · exact ⟨.bound rfl hbound, hclients, fun _ => iff_of_true nofun hanswered⟩
    · exact ⟨.bound rfl (bound_createClient hbound _),
        hclients.createClient hbound.ready, fun _ => iff_of_true nofun hanswered⟩
  | error e =>
    exact ⟨.gone, hclients, fun _ => (forall_prop_of_true rfl).trans (herror e rfl)⟩

/-- **The end of a removal.** -/
theorem leaves_removalCompletes {binding : TargetBinding} {calls : List Event}
    (hbound : Bound binding.1 calls) (hclients : ClientsBound calls) (wasPaused wasPaused' : Bool)
    (running : ℕ) (o : RemovalOutcomes) (before : Prop) :
    Leaves target before (wasPaused = true → o.resume.isOk = true)
      ((⟨.removing, false, some binding, some wasPaused', true, some (wasPaused, binding), running,
        calls⟩ : ProxyState).removalCompletes target o) where
  life := .gone
  clients := hclients.append (createClient_notMem_removal wasPaused)
  released _ := (forall_prop_of_true rfl).trans (released_targetBoundRemoval_iff hbound wasPaused)

/-- **One event** of a proxy whose container requires a binding. -/
theorem leaves_next (hk : requiresBinding target.kind = true) (hs : Sound target s)
    (e : ProxyEvent) :
    Leaves target (s.stage = .stopped → Released target.containerId s.calls)
      (keepsBinding target s e) (next parseJson target s e) := by
  have hlife := hs.life hk
  have hclients := hs.clients hk
  obtain ⟨stage, awaiting, active, pending, started, removal, running, calls⟩ := s
  cases hlife with
  | uninitialized =>
    cases e with
    | start => exact ⟨.awaiting rfl, hclients, fun _ => iff_of_true nofun trivial⟩
    | initializeAction => exact ⟨.awaiting rfl, hclients, fun _ => iff_of_true nofun trivial⟩
    | readinessCompletes o => exact ⟨.uninitialized, hclients, fun _ => iff_of_true nofun nofun⟩
    | removalCompletes o => exact ⟨.uninitialized, hclients, fun _ => iff_of_true nofun nofun⟩
    | _ => exact ⟨.uninitialized, hclients, fun _ => iff_of_true nofun trivial⟩
  | awaiting hstage =>
    cases e with
    | readinessCompletes o =>
      have hleaves := @leaves_containerReady parseJson target hk o stage hstage running
        (stage = .stopped → Released target.containerId [])
      have hkeeps : keepsBinding target
          ⟨stage, true, none, none, false, none, running, []⟩ (.readinessCompletes o) ↔
            o.request.isOk = true := by simp [keepsBinding, hk]
      rw [hkeeps]
      exact hleaves
    | removalCompletes o =>
      rcases Stage.waits_iff.mp hstage with rfl | rfl <;>
        exact ⟨.awaiting rfl, hclients, fun _ => iff_of_true nofun nofun⟩
    | _ =>
      rcases Stage.waits_iff.mp hstage with rfl | rfl <;>
        exact ⟨.awaiting rfl, hclients, fun _ => iff_of_true nofun trivial⟩
  | bound hstage hbound =>
    cases e with
    | initializeAction =>
      rcases Stage.keeps_iff.mp hstage with rfl | rfl | rfl | rfl
      · exact ⟨.bound rfl (bound_createClient hbound _),
          hclients.createClient hbound.ready, fun _ => iff_of_true nofun trivial⟩
      all_goals exact ⟨.bound rfl hbound, hclients, fun _ => iff_of_true nofun trivial⟩
    | goesOn paused =>
      cases paused <;> rcases Stage.keeps_iff.mp hstage with rfl | rfl | rfl | rfl <;>
        exact ⟨.bound rfl hbound, hclients, fun _ => iff_of_true nofun trivial⟩
    | cleanUp o =>
      rcases Stage.keeps_iff.mp hstage with rfl | rfl | rfl | rfl <;>
        exact ⟨.pending hbound, hclients, fun _ => iff_of_true nofun trivial⟩
    | readinessCompletes o =>
      rcases Stage.keeps_iff.mp hstage with rfl | rfl | rfl | rfl <;>
        exact ⟨.bound rfl hbound, hclients, fun _ => iff_of_true nofun nofun⟩
    | removalCompletes o =>
      rcases Stage.keeps_iff.mp hstage with rfl | rfl | rfl | rfl <;>
        exact ⟨.bound rfl hbound, hclients, fun _ => iff_of_true nofun nofun⟩
    | _ =>
      rcases Stage.keeps_iff.mp hstage with rfl | rfl | rfl | rfl <;>
        exact ⟨.bound rfl hbound, hclients, fun _ => iff_of_true nofun trivial⟩
  | pending hbound =>
    cases e with
    | clientClosed =>
      cases running with
      | zero => exact ⟨.started hbound, hclients, fun _ => iff_of_true nofun trivial⟩
      | succ n => exact ⟨.pending hbound, hclients, fun _ => iff_of_true nofun trivial⟩
    | readinessCompletes o => exact ⟨.pending hbound, hclients, fun _ => iff_of_true nofun nofun⟩
    | removalCompletes o => exact ⟨.pending hbound, hclients, fun _ => iff_of_true nofun nofun⟩
    | _ => exact ⟨.pending hbound, hclients, fun _ => iff_of_true nofun trivial⟩
  | @started binding wasPaused wasPaused' _ hbound =>
    cases e with
    | clientClosed =>
      cases running with
      | zero => exact ⟨.started hbound, hclients, fun _ => iff_of_true nofun trivial⟩
      | succ n => exact ⟨.started hbound, hclients, fun _ => iff_of_true nofun trivial⟩
    | readinessCompletes o => exact ⟨.started hbound, hclients, fun _ => iff_of_true nofun nofun⟩
    | removalCompletes o =>
      have hkeeps : keepsBinding target
          ⟨.removing, false, some binding, some wasPaused', true, some (wasPaused, binding),
            running, calls⟩ (.removalCompletes o) ↔ (wasPaused = true → o.resume.isOk = true) := by
        simp [keepsBinding]
      rw [hkeeps]
      exact leaves_removalCompletes hbound hclients wasPaused wasPaused' running o _
    | _ => exact ⟨.started hbound, hclients, fun _ => iff_of_true nofun trivial⟩
  | gone =>
    cases e with
    | readinessCompletes o => exact ⟨.gone, hclients, fun hreleased => iff_of_true hreleased nofun⟩
    | removalCompletes o => exact ⟨.gone, hclients, fun hreleased => iff_of_true hreleased nofun⟩
    | _ => exact ⟨.gone, hclients, fun hreleased => iff_of_true hreleased trivial⟩

theorem Sound.next (hs : Sound target s) (e : ProxyEvent) :
    Sound target (next parseJson target s e) where
  life hk := (leaves_next hk hs e).life
  clients hk := (leaves_next hk hs e).clients
  plain hk := plain_next hk (hs.plain hk) e

/-- **One event** leaves no orphan exactly when it keeps the binding. -/
theorem leavesNoOrphan_next_iff (hs : Sound target s) (hno : LeavesNoOrphan target s)
    (e : ProxyEvent) :
    LeavesNoOrphan target (next parseJson target s e) ↔ keepsBinding target s e := by
  cases hk : requiresBinding target.kind with
  | true =>
    have hleaves := @leaves_next parseJson target s hk hs e
    rw [← hleaves.released (hno.released hk)]
    exact ⟨fun h => h.released hk, fun h => ⟨fun _ => h, fun _ => hleaves.clients⟩⟩
  | false =>
    have hkeeps : keepsBinding target s e := by
      cases e with
      | readinessCompletes o => simp [keepsBinding, hk]
      | removalCompletes o => simp [keepsBinding, (hs.plain hk).2]
      | _ => trivial
    exact iff_of_true ⟨by simp [hk], by simp [hk]⟩ hkeeps

variable {h : List (Record ProxyState ProxyEvent Unit)}

/-- **Every run** is sound. -/
theorem sound_of_reach (hr : Reach (step parseJson target) .initial h s) : Sound target s :=
  hr.invariant (fun _ s => Sound target s) sound_initial fun _ _ e _ hs => hs.next e

/-- **When nothing is left behind**: exactly when the bridge answers each request to bind the
endpoint of a container, and a container that was paused when it was given up resumes. -/
theorem leavesNoOrphan_iff (hr : Reach (step parseJson target) .initial h s) :
    Throughout (step parseJson target) .initial (fun _ s => LeavesNoOrphan target s) h ↔
      ∀ r ∈ h, keepsBinding target r.pre r.input :=
  Throughout.iff_of_step (fun ht => sound_of_reach ht)
    ⟨fun _ => nofun, fun _ => clientsBound_nil⟩
    (fun _ e hs hno => leavesNoOrphan_next_iff hs hno e) hr

/-! ## A container that does not resume -/

def sampleTarget : TargetContainer :=
  ⟨"c1".toList, "10.0.0.7".toList, "reusable-concurrency:1".toList, 9200⟩

/-- The text of a response of the bridge, with what it says. -/
def sampleBody : Text := "ready c1 at bridge:9201".toList

def sampleParseJson (responseBody : Text) : Except Text JsValue :=
  if responseBody = sampleBody then
    .ok (.object [("binding".toList, .object [("containerIdentity".toList, .string "c1".toList),
      ("endpointHost".toList, .string "bridge".toList), ("endpointPort".toList, .number 9201)])])
  else .error "unexpected".toList

/-- The bridge answers as given, and the rest succeeds. -/
def sampleReady (request : Except Text Text) : ReadyOutcomes where
  request := request
  reply := .ok (.ok ⟨⟨41, 7⟩, by decide⟩)
  retries := []
  activate := .ok ()
  close := .ok (.ok ())
  unbind := .ok ()
  destroy := .ok ()

/-- The container resumes as given, and the rest succeeds. -/
def sampleRemoval (resume : Except Text Unit) : RemovalOutcomes :=
  ⟨resume, .ok (.ok ()), .ok (), .ok ()⟩

/-- A cold start whose container is paused and removed. -/
def pausedRun (resume : Except Text Unit) : List ProxyEvent :=
  [.initializeAction, .readinessCompletes (sampleReady (.ok sampleBody)), .goesOn true,
    .cleanUp (sampleRemoval resume), .clientClosed, .removalCompletes (sampleRemoval resume)]

/-- A container whose endpoint the bridge may have bound, or not. -/
def unansweredRun : List ProxyEvent :=
  [.initializeAction, .readinessCompletes (sampleReady (.error "SocketTimeoutException".toList))]

theorem pausedRun_leavesNoOrphan :
    Throughout (step sampleParseJson sampleTarget) .initial
      (fun _ s => LeavesNoOrphan sampleTarget s)
      (runOn (step sampleParseJson sampleTarget) [] .initial (pausedRun (.ok ()))).1 := by
  refine (leavesNoOrphan_iff (reach_runOn _ _ Reach.start)).mpr ?_
  simp only [pausedRun, runOn, List.forall_mem_cons]
  exact ⟨fun _ _ _ _ => rfl, trivial, trivial, trivial, fun _ _ => rfl, trivial,
    List.forall_mem_nil _⟩

/-- A container that does not resume is destroyed with its registration and its endpoint; and one
that the bridge did not answer for is destroyed with its endpoint. -/
theorem pausedRun_leaves_orphan :
    (¬ Throughout (step sampleParseJson sampleTarget) .initial
        (fun _ s => LeavesNoOrphan sampleTarget s)
        (runOn (step sampleParseJson sampleTarget) [] .initial
          (pausedRun (.error "resume failed".toList))).1) ∧
      ¬ Throughout (step sampleParseJson sampleTarget) .initial
        (fun _ s => LeavesNoOrphan sampleTarget s)
        (runOn (step sampleParseJson sampleTarget) [] .initial unansweredRun).1 := by
  constructor
  · intro hall
    have hend := hall _ _ List.suffix_rfl (reach_runOn _ _ Reach.start)
    have hreleased := hend.released (by decide +kernel) (by decide +kernel)
    exact absurd hreleased.unbound (by decide +kernel)
  · intro hall
    have hend := hall _ _ List.suffix_rfl (reach_runOn _ _ Reach.start)
    have hreleased := hend.released (by decide +kernel) (by decide +kernel)
    exact absurd hreleased.unbound (by decide +kernel)

end FunctionPullingContainerProxy
end OpenWhisk
end AsynCS
