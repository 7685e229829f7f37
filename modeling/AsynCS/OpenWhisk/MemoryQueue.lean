import Mathlib

/-!
# The activation queue of the scheduler

`MemoryQueue` is an actor: it hands the activations of one action to the containers that ask for
them.  A hand-out is asynchronous.  The dispatcher prepares the message first, and its future
comes back to the actor as a message of its own.

* `QueueState`: the queue, the requests that wait for an activation, the dispatches under way, and
  the answers that were sent, with ghost numbers for activations and requests.
* `takeUncompletedRequest`, `handleActivationMessage`, `handleActivationRequest`,
  `removeDeletedContainerFromRequestBuffer`, `completeActivationDispatch`: the handlers.
* `QueueEvent`, `queueStep`: one message after another, in any order.

A `PriorityQueue` gives any of the requests with the greatest key, so the message of an activation
carries the choice.  Metrics, timing records and the throttling of the action are left out.
-/

namespace AsynCS
namespace OpenWhisk
namespace MemoryQueue

/-- The UTF-16 code units of a `String`. -/
abbrev JString := List ℕ

/-- `GetActivation`, with what the queue and the dispatcher read. -/
structure GetActivation where
  containerId : JString
  warmed : Bool
  targetBindingId : Option Int
  deriving DecidableEq

/-- `TimeSeriesActivationEntry`.  `arrival` counts the activations accepted before this one. -/
structure TimeSeriesActivationEntry (μ : Type) where
  timestamp : ℕ
  msg : μ
  arrival : ℕ

/-- `BufferedRequest`.  A promise goes by the number of its request, and so does the `Cancellable`
of its poll. -/
structure BufferedRequest where
  sortKey : JString
  request : GetActivation
  promise : ℕ
  deriving DecidableEq

/-- `ActivationDispatchRecipient`. -/
inductive ActivationDispatchRecipient where
  | direct (replyTo : ℕ)
  | waiting (promise : ℕ)
  deriving DecidableEq

/-- The request that a recipient has sent. -/
def ActivationDispatchRecipient.request : ActivationDispatchRecipient → ℕ
  | .direct replyTo => replyTo
  | .waiting promise => promise

/-- `PendingActivationDispatch`. -/
structure PendingActivationDispatch (μ : Type) where
  entry : TimeSeriesActivationEntry μ
  request : GetActivation
  recipient : ActivationDispatchRecipient

/-- A `GetActivationResponse`; an activation goes by its number. -/
inductive Response (μ : Type) where
  | activation (arrival : ℕ) (msg : μ)
  | noActivationMessage
  | targetReencryptionError (message : JString)

/-- The timer of a poll.  A message that was sent is not taken back by `cancel`. -/
inductive Timer where
  | off
  | armed
  | sent
  deriving DecidableEq

/-- `Cancellable.cancel`. -/
def Timer.cancel : Timer → Timer
  | .armed => .off
  | t => t

/-- The state of the actor, with the answers newest first. -/
structure QueueState (μ : Type) where
  queue : List (TimeSeriesActivationEntry μ)
  requestBuffer : List BufferedRequest
  pending : List (PendingActivationDispatch μ)
  responses : List (ℕ × Response μ)
  timers : ℕ → Timer
  accepted : ℕ
  requests : ℕ

namespace QueueState

variable {μ : Type}

/-- A new queue. -/
def initial : QueueState μ := ⟨[], [], [], [], fun _ => .off, 0, 0⟩

/-! ## Promises -/

/-- `promise.isCompleted`. -/
def isCompleted (s : QueueState μ) (promise : ℕ) : Bool := s.responses.any fun a => a.1 == promise

/-- `cancelPoll.cancel()`. -/
def cancelPoll (s : QueueState μ) (promise : ℕ) : QueueState μ :=
  { s with timers := Function.update s.timers promise (s.timers promise).cancel }

/-- A `GetActivationResponse` is sent. -/
def respond (s : QueueState μ) (request : ℕ) (response : Response μ) : QueueState μ :=
  { s with responses := (request, response) :: s.responses }

/-- `promise.trySuccess`: an open promise is completed, and what waits for it sends the response and
cancels the poll. -/
def trySuccess (s : QueueState μ) (promise : ℕ) (response : Response μ) : QueueState μ :=
  if s.isCompleted promise then s else (s.respond promise response).cancelPoll promise

/-! ## Requests -/

/-- The requests with the greatest key. -/
def greatest (buffer : List BufferedRequest) : List BufferedRequest :=
  buffer.filter fun b => buffer.all fun c => decide (c.sortKey ≤ b.sortKey)

/-- `PriorityQueue.dequeue`. -/
def dequeue (choice : ℕ) (buffer : List BufferedRequest) : Option BufferedRequest :=
  (greatest buffer)[choice % (greatest buffer).length]?

/-- The requests whose promise is open. -/
def uncompleted (s : QueueState μ) : List BufferedRequest :=
  s.requestBuffer.filter fun b => !s.isCompleted b.promise

/-- `takeUncompletedRequest`. -/
def takeUncompletedRequest (s : QueueState μ) (choice : ℕ) :
    Option BufferedRequest × QueueState μ :=
  match dequeue choice s.uncompleted with
  | none => (none, { s with requestBuffer := s.uncompleted })
  | some buffered =>
    (some buffered,
      { s with requestBuffer := s.uncompleted.erase buffered }.cancelPoll buffered.promise)

/-- What happens to one request of a container that was deleted. -/
def dropRequest (s : QueueState μ) (buffered : BufferedRequest) : QueueState μ :=
  (s.cancelPoll buffered.promise).trySuccess buffered.promise .noActivationMessage

/-- `removeDeletedContainerFromRequestBuffer`. -/
def removeDeletedContainerFromRequestBuffer (s : QueueState μ) (containerId : JString) :
    QueueState μ :=
  (s.requestBuffer.filter fun b => b.request.containerId == containerId).foldl dropRequest
    { s with requestBuffer := s.requestBuffer.filter fun b => b.request.containerId != containerId }

/-! ## Dispatches -/

/-- `beginActivationDispatch`. -/
def beginActivationDispatch (s : QueueState μ) (entry : TimeSeriesActivationEntry μ)
    (request : GetActivation) (recipient : ActivationDispatchRecipient) : QueueState μ :=
  { s with pending := ⟨entry, request, recipient⟩ :: s.pending }

/-- `completeDispatchRecipient`. -/
def completeDispatchRecipient (s : QueueState μ) (recipient : ActivationDispatchRecipient)
    (response : Response μ) : QueueState μ :=
  match recipient with
  | .direct replyTo => s.respond replyTo response
  | .waiting promise => s.trySuccess promise response

/-- `completeActivationDispatch`.  The dispatch is not pending any more. -/
def completeActivationDispatch (s : QueueState μ) (pending : PendingActivationDispatch μ)
    (result : Except JString μ) : QueueState μ :=
  match result with
  | .ok msg => s.completeDispatchRecipient pending.recipient (.activation pending.entry.arrival msg)
  | .error message =>
    { s with queue := pending.entry :: s.queue }.completeDispatchRecipient pending.recipient
      (.targetReencryptionError message)

/-! ## Messages -/

/-- `handleActivationMessage`. -/
def handleActivationMessage (s : QueueState μ) (msg : μ) (timestamp choice : ℕ) : QueueState μ :=
  let entry : TimeSeriesActivationEntry μ := ⟨timestamp, msg, s.accepted⟩
  let (taken, s) := { s with accepted := s.accepted + 1 }.takeUncompletedRequest choice
  match taken with
  | some buffered => s.beginActivationDispatch entry buffered.request (.waiting buffered.promise)
  | none => { s with queue := s.queue ++ [entry] }

/-- `pollForActivation`. -/
def pollForActivation (s : QueueState μ) (request : GetActivation) (number : ℕ) : QueueState μ :=
  let warmedFlag := if request.warmed then 49 else 48
  { s with
    requestBuffer := s.requestBuffer ++ [⟨warmedFlag :: request.containerId, request, number⟩]
    timers := Function.update s.timers number .armed }

/-- `handleActivationRequest`. -/
def handleActivationRequest (s : QueueState μ) (request : GetActivation) : QueueState μ :=
  let number := s.requests
  let s := { s with requests := s.requests + 1 }
  match s.queue with
  | entry :: newQueue =>
    { s with queue := newQueue }.beginActivationDispatch entry request (.direct number)
  | [] => s.pollForActivation request number

/-- The dispatch of an activation. -/
def dispatchOf (s : QueueState μ) (arrival : ℕ) : Option (PendingActivationDispatch μ) :=
  s.pending.find? fun p => p.entry.arrival == arrival

/-- A dispatch leaves the pending ones. -/
def withoutDispatch (s : QueueState μ) (arrival : ℕ) : QueueState μ :=
  { s with pending := s.pending.filter fun p => p.entry.arrival != arrival }

end QueueState

/-- A message to the actor, or a timer that sends one. -/
inductive QueueEvent (μ : Type) where
  | activationMessage (msg : μ) (timestamp choice : ℕ)
  | getActivation (request : GetActivation)
  /-- the scheduler sends `CancelPoll(promise)` -/
  | pollTimeout (promise : ℕ)
  /-- the message is handled -/
  | cancelPoll (promise : ℕ)
  | containerDeleted (containerId : JString)
  /-- `ActivationDispatchCompleted` for the dispatch of this activation -/
  | dispatchCompleted (arrival : ℕ) (result : Except JString μ)

/-- One message. -/
def queueStep {μ : Type} (s : QueueState μ) : QueueEvent μ → QueueState μ × Unit
  | .activationMessage msg timestamp choice => (s.handleActivationMessage msg timestamp choice, ())
  | .getActivation request => (s.handleActivationRequest request, ())
  | .pollTimeout promise =>
    match s.timers promise with
    | .armed => ({ s with timers := Function.update s.timers promise .sent }, ())
    | _ => (s, ())
  | .cancelPoll promise =>
    match s.timers promise with
    | .sent =>
      ({ s with timers := Function.update s.timers promise .off }.trySuccess promise
        .noActivationMessage, ())
    | _ => (s, ())
  | .containerDeleted containerId => (s.removeDeletedContainerFromRequestBuffer containerId, ())
  | .dispatchCompleted arrival result =>
    match s.dispatchOf arrival with
    | some pending => ((s.withoutDispatch arrival).completeActivationDispatch pending result, ())
    | none => (s, ())

end MemoryQueue
end OpenWhisk
end AsynCS
