import AsynCS.Lib.Precedes
import AsynCS.Lib.Runs
import AsynCS.OpenWhisk.TargetResult

/-!
# Acknowledgements in the controller

The load balancer reads acknowledgements from a feed.  An acknowledgement with an activation goes
through the finalizer, whose future completes at any time and with any outcome; what is left to do
for a message runs as a callback of a future, so the callbacks of messages that were read run in
any order.

* `BalancerState`: the messages that were read, what each of them waits for, and what the
  callbacks have called; `step`: one event.
* `Stands`, `Sound`: what has been called for a message that waits, or waits no more;
  `sound_of_reach`.
* `keepsResults_iff`: the runs that call for a result before its completion, and that tell the
  feed of every message exactly once.
-/

namespace AsynCS
namespace OpenWhisk
namespace FPCPoolBalancer

open TargetBound (WhiskActivation systemError)

variable {α : Type}

/-! ## Messages -/

/-- What is read of an `AcknowledgementMessage`. -/
structure AcknowledgementMessage (α : Type) where
  activationId : Text
  transid : Text
  /-- the id of an activation that was too large, or the activation -/
  result : Option (Text ⊕ WhiskActivation α)
  /-- the invoker whose slot is free -/
  isSlotFree : Option Text
  isSystemError : Option Bool

namespace AcknowledgementMessage

def acknowledgedSystemError (a : AcknowledgementMessage α) : Bool := a.isSystemError.getD false

/-- A message with a result, which frees no slot. -/
def isResultMessage (a : AcknowledgementMessage α) : Bool :=
  a.result.isSome && a.isSlotFree.isNone

/-- A message that frees a slot, without a result. -/
def isCompletionMessage (a : AcknowledgementMessage α) : Bool :=
  a.result.isNone && a.isSlotFree.isSome

end AcknowledgementMessage

/-- What a message that was read waits for. -/
inductive Phase (α : Type) where
  | unread
  /-- `finalizeResult` was called -/
  | finalizing (a : AcknowledgementMessage α) (activation : WhiskActivation α)
  /-- `finalized` has a value, and its callback has not run -/
  | finalized (a : AcknowledgementMessage α) (response : Option (Text ⊕ WhiskActivation α))
      (finalSystemError : Bool)
  | handled
  /-- `finalized` has failed -/
  | failed

namespace Phase

/-- Something is left to happen for the message. -/
def pending : Phase α → Bool
  | finalizing _ _ => true
  | finalized _ _ _ => true
  | _ => false

def isHandled : Phase α → Bool
  | handled => true
  | _ => false

end Phase

/-- A call of a callback, with the number of the message. -/
inductive Call (α : Type) where
  | processResult (message : ℕ) (activationId transid : Text)
      (response : Text ⊕ WhiskActivation α)
  | processCompletion (message : ℕ) (activationId transid : Text) (forced isSystemError : Bool)
  /-- `MessageFeed.Processed` is sent to the feed -/
  | processed (message : ℕ)

namespace Call

def message : Call α → ℕ
  | processResult n _ _ _ => n
  | processCompletion n _ _ _ _ => n
  | processed n => n

@[simp] theorem message_processed (n : ℕ) : (processed n : Call α).message = n := rfl

def isResultOf (n : ℕ) : Call α → Bool
  | processResult m _ _ _ => m = n
  | _ => false

def isCompletionOf (n : ℕ) : Call α → Bool
  | processCompletion m _ _ _ _ => m = n
  | _ => false

def isProcessedOf (n : ℕ) : Call α → Bool
  | processed m => m = n
  | _ => false

end Call

/-! ## The machine -/

/-- The load balancer: what `parse` made of each message that was read, what each of them waits
for, and the calls of the callbacks, the latest first. -/
structure BalancerState (α : Type) where
  acknowledgements : List (Option (AcknowledgementMessage α))
  phase : ℕ → Phase α
  calls : List (Call α)

/-- Nothing was read. -/
def BalancerState.initial : BalancerState α := ⟨[], fun _ => .unread, []⟩

/-- One event. -/
inductive Event (α : Type) where
  /-- the feed hands on the next message -/
  | read (bytes : Bytes)
  /-- the future of `finalizeResult` completes -/
  | finalizerCompleted (message : ℕ) (outcome : Future (Except Text (WhiskActivation α)))
  /-- the callback of `finalized` runs -/
  | callbackRuns (message : ℕ)

/-- `finalized`, for a message that is parsed. -/
def AcknowledgementMessage.start (a : AcknowledgementMessage α) : Phase α :=
  match a.result with
  | some (.inr activation) => .finalizing a activation
  | result => .finalized a result a.acknowledgedSystemError

/-- `finalized`, when the finalizer is done. -/
def AcknowledgementMessage.finalize (a : AcknowledgementMessage α)
    (activation : WhiskActivation α) : Future (Except Text (WhiskActivation α)) → Phase α
  | .successful (.ok value) =>
    .finalized a (some (.inr value)) (a.acknowledgedSystemError || value.response.isWhiskError)
  | .successful (.error reason) => .finalized a (some (.inr (systemError activation reason))) true
  -- a failed future is mapped to a failed future, and no callback runs
  | .failed _ => .failed

/-- The calls of the callback, in their order. -/
def AcknowledgementMessage.callback (n : ℕ) (a : AcknowledgementMessage α)
    (response : Option (Text ⊕ WhiskActivation α)) (finalSystemError : Bool) : List (Call α) :=
  (response.map fun r => Call.processResult n a.activationId a.transid r).toList ++
    (a.isSlotFree.map fun _ =>
      Call.processCompletion n a.activationId a.transid false finalSystemError).toList ++
    [.processed n]

section Machine

variable (parse : Bytes → Option (AcknowledgementMessage α))

/-- `processAcknowledgement`, for the given `AcknowledgementMessage.parse`. -/
def BalancerState.processAcknowledgement (s : BalancerState α) (bytes : Bytes) : BalancerState α :=
  let n := s.acknowledgements.length
  match parse bytes with
  | some a =>
    { s with
      acknowledgements := s.acknowledgements ++ [some a]
      phase := Function.update s.phase n a.start }
  | none =>
    { acknowledgements := s.acknowledgements ++ [none]
      phase := Function.update s.phase n .handled
      calls := .processed n :: s.calls }

/-- The finalizer of a message is done. -/
def BalancerState.finalizerCompleted (s : BalancerState α) (n : ℕ)
    (outcome : Future (Except Text (WhiskActivation α))) : BalancerState α :=
  match s.phase n with
  | .finalizing a activation =>
    { s with phase := Function.update s.phase n (a.finalize activation outcome) }
  | _ => s

/-- The callback of a message runs. -/
def BalancerState.callbackRuns (s : BalancerState α) (n : ℕ) : BalancerState α :=
  match s.phase n with
  | .finalized a response finalSystemError =>
    { s with
      phase := Function.update s.phase n .handled
      calls := (a.callback n response finalSystemError).reverse ++ s.calls }
  | _ => s

/-- One event. -/
def step (s : BalancerState α) : Event α → BalancerState α × Unit
  | .read bytes => (s.processAcknowledgement parse bytes, ())
  | .finalizerCompleted n outcome => (s.finalizerCompleted n outcome, ())
  | .callbackRuns n => (s.callbackRuns n, ())

end Machine

/-! ## What is wanted -/

namespace BalancerState

variable (s : BalancerState α)

/-- The `i`-th message has the result of the activation that the `j`-th message completes. -/
def resultOf (i j : ℕ) : Prop :=
  ∃ a b, s.acknowledgements[i]? = some (some a) ∧ s.acknowledgements[j]? = some (some b) ∧
    a.isResultMessage = true ∧ b.isCompletionMessage = true ∧ a.activationId = b.activationId

/-- **The result before the completion**: for a result that is read before the completion of its
activation. -/
def ResultsFirst : Prop :=
  ∀ i j, i < j → s.resultOf i j →
    Precedes (fun c => c.isResultOf i = true) (fun c => c.isCompletionOf j = true) s.calls

/-- **Exactly one `Processed`** for a message for which nothing is left to happen. -/
def ProcessedOnce : Prop :=
  ∀ n, n < s.acknowledgements.length →
    s.calls.countP (·.isProcessedOf n) = if (s.phase n).pending then 0 else 1

/-- The event is not the failure of a future that a message waits for, and not the callback of a
completion while the callback of a result that was read before it has not run. -/
def keepsResult : Event α → Prop
  | .read _ => True
  | .finalizerCompleted n outcome =>
    ∀ a activation exception, s.phase n = .finalizing a activation → outcome ≠ .failed exception
  | .callbackRuns j =>
    ∀ a response finalSystemError, s.phase j = .finalized a response finalSystemError →
      ∀ i, i < j → s.resultOf i j → (s.phase i).isHandled = true

end BalancerState

/-! ## What has been called -/

/-- The calls of one message. -/
def BalancerState.callsOf (s : BalancerState α) (n : ℕ) : List (Call α) :=
  s.calls.filter (·.message = n)

/-- What has been called for a message: nothing while it waits, and all that its callback calls
when it is handled. -/
inductive Stands (n : ℕ) :
    Phase α → Option (Option (AcknowledgementMessage α)) → List (Call α) → Prop where
  | unread : Stands n .unread none []
  | finalizing {a : AcknowledgementMessage α} {activation : WhiskActivation α}
      (hresult : a.result = some (.inr activation)) :
      Stands n (.finalizing a activation) (some (some a)) []
  | finalized {a : AcknowledgementMessage α} {response : Option (Text ⊕ WhiskActivation α)}
      {finalSystemError : Bool} (hresult : response.isSome = a.result.isSome) :
      Stands n (.finalized a response finalSystemError) (some (some a)) []
  | notParsed : Stands n .handled (some none) [.processed n]
  | handled {a : AcknowledgementMessage α} {response : Option (Text ⊕ WhiskActivation α)}
      {finalSystemError : Bool} (hresult : response.isSome = a.result.isSome) :
      Stands n .handled (some (some a)) (a.callback n response finalSystemError).reverse
  | failed {a : AcknowledgementMessage α} : Stands n .failed (some (some a)) []

/-- Every message stands as its phase says. -/
def Sound (s : BalancerState α) : Prop :=
  ∀ n, Stands n (s.phase n) s.acknowledgements[n]? (s.callsOf n)

theorem sound_initial : Sound (BalancerState.initial : BalancerState α) := fun _ => .unread

/-- Every call of a callback is a call for its message. -/
theorem message_of_mem_callback {n : ℕ} {a : AcknowledgementMessage α}
    {response : Option (Text ⊕ WhiskActivation α)} {finalSystemError : Bool} {c : Call α}
    (h : c ∈ a.callback n response finalSystemError) : c.message = n := by
  simp only [AcknowledgementMessage.callback, List.mem_append, Option.mem_toList,
    Option.map_eq_some_iff, List.mem_singleton] at h
  rcases h with (⟨r, -, rfl⟩ | ⟨_, -, rfl⟩) | rfl <;> rfl

/-- The calls of one message are new calls. -/
theorem filter_callback_self (n : ℕ) (a : AcknowledgementMessage α)
    (response : Option (Text ⊕ WhiskActivation α)) (finalSystemError : Bool) :
    (a.callback n response finalSystemError).reverse.filter (·.message = n) =
      (a.callback n response finalSystemError).reverse :=
  List.filter_eq_self.mpr fun _ hc =>
    decide_eq_true (message_of_mem_callback (List.mem_reverse.mp hc))

/-- The calls of another message are not touched. -/
theorem filter_callback_of_ne {m n : ℕ} (hne : m ≠ n) (a : AcknowledgementMessage α)
    (response : Option (Text ⊕ WhiskActivation α)) (finalSystemError : Bool) :
    (a.callback n response finalSystemError).reverse.filter (·.message = m) = [] :=
  List.filter_eq_nil_iff.mpr fun _ hc => by
    rw [message_of_mem_callback (List.mem_reverse.mp hc), decide_eq_true_iff]
    exact hne.symm

/-- A message that is read and parsed waits. -/
theorem stands_start (n : ℕ) (a : AcknowledgementMessage α) :
    Stands n a.start (some (some a)) [] := by
  unfold AcknowledgementMessage.start
  split
  · next hresult => exact .finalizing hresult
  · exact .finalized rfl

/-- A message whose finalizer is done stands as before. -/
theorem stands_finalize {n : ℕ} {a : AcknowledgementMessage α} {activation : WhiskActivation α}
    (hresult : a.result = some (.inr activation))
    (outcome : Future (Except Text (WhiskActivation α))) :
    Stands n (a.finalize activation outcome) (some (some a)) [] := by
  have hsome : a.result.isSome = true := by rw [hresult]; rfl
  match outcome with
  | .successful (.ok value) => exact .finalized hsome.symm
  | .successful (.error reason) => exact .finalized hsome.symm
  | .failed exception => exact .failed

variable {parse : Bytes → Option (AcknowledgementMessage α)} {s : BalancerState α}
  {h : List (Record (BalancerState α) (Event α) Unit)}

/-- **Reading** a message. -/
theorem Sound.processAcknowledgement (hs : Sound s) (bytes : Bytes) :
    Sound (s.processAcknowledgement parse bytes) := by
  intro m
  have hm := hs m
  have hread : ∀ x : Option (AcknowledgementMessage α), m ≠ s.acknowledgements.length →
      (s.acknowledgements ++ [x])[m]? = s.acknowledgements[m]? := by
    intro x hne
    rcases lt_or_gt_of_ne hne with hlt | hgt
    · exact List.getElem?_append_left hlt
    · rw [List.getElem?_eq_none (by simp; omega), List.getElem?_eq_none hgt.le]
  have hsilent : m = s.acknowledgements.length → s.callsOf m = [] := by
    intro heq
    rw [List.getElem?_eq_none heq.ge] at hm
    generalize s.phase m = phase, s.callsOf m = calls at hm
    cases hm
    rfl
  unfold BalancerState.processAcknowledgement
  cases parse bytes with
  | some a =>
    by_cases heq : m = s.acknowledgements.length
    · have hcalls : s.calls.filter (·.message = m) = [] := hsilent heq
      simp only [BalancerState.callsOf, hcalls]
      subst heq
      simpa using stands_start _ a
    · simpa [BalancerState.callsOf, Function.update_of_ne heq, hread _ heq] using hm
  | none =>
    by_cases heq : m = s.acknowledgements.length
    · have hcalls : s.calls.filter (·.message = m) = [] := hsilent heq
      subst heq
      simpa [BalancerState.callsOf, hcalls] using Stands.notParsed
    · simpa [BalancerState.callsOf, Function.update_of_ne heq, hread _ heq,
        Ne.symm heq] using hm

/-- **The finalizer** of a message is done. -/
theorem Sound.finalizerCompleted (hs : Sound s) (n : ℕ)
    (outcome : Future (Except Text (WhiskActivation α))) :
    Sound (s.finalizerCompleted n outcome) := by
  unfold BalancerState.finalizerCompleted
  split
  · next a activation hphase =>
    intro m
    have hm := hs m
    by_cases heq : m = n
    · subst heq
      rw [hphase] at hm
      simp only [BalancerState.callsOf, Function.update_self] at hm ⊢
      generalize s.acknowledgements[m]? = x, s.calls.filter _ = calls at hm ⊢
      cases hm with
      | finalizing hresult => exact stands_finalize hresult outcome
    · simpa [BalancerState.callsOf, Function.update_of_ne heq] using hm
  · exact hs

/-- **The callback** of a message runs. -/
theorem Sound.callbackRuns (hs : Sound s) (n : ℕ) : Sound (s.callbackRuns n) := by
  unfold BalancerState.callbackRuns
  split
  · next a response finalSystemError hphase =>
    intro m
    have hm := hs m
    by_cases heq : m = n
    · subst heq
      rw [hphase] at hm
      simp only [BalancerState.callsOf, Function.update_self, List.filter_append,
        filter_callback_self] at hm ⊢
      generalize s.acknowledgements[m]? = x, s.calls.filter _ = calls at hm ⊢
      cases hm with
      | finalized hresult =>
        rw [List.append_nil]
        exact .handled hresult
    · simpa [BalancerState.callsOf, Function.update_of_ne heq, List.filter_append,
        filter_callback_of_ne heq] using hm
  · exact hs

/-- **Every run** is sound. -/
theorem sound_of_reach (hr : Reach (step parse) .initial h s) : Sound s := by
  refine hr.invariant (fun _ s => Sound s) sound_initial fun _ s e _ hs => ?_
  cases e with
  | read bytes => exact hs.processAcknowledgement bytes
  | finalizerCompleted n outcome => exact hs.finalizerCompleted n outcome
  | callbackRuns n => exact hs.callbackRuns n

/-! ## Exactly one `Processed` -/

/-- What is counted of one message is counted of its calls. -/
theorem countP_isProcessedOf (s : BalancerState α) (n : ℕ) :
    s.calls.countP (·.isProcessedOf n) = (s.callsOf n).countP (·.isProcessedOf n) := by
  rw [BalancerState.callsOf, List.countP_filter]
  refine List.countP_congr fun c _ => ?_
  cases c with
  | processed m =>
    show decide (m = n) = true ↔ (decide (m = n) && decide (m = n)) = true
    rw [Bool.and_self]
  | _ => simp [Call.isProcessedOf]

/-- A callback tells the feed once. -/
theorem countP_callback (n : ℕ) (a : AcknowledgementMessage α)
    (response : Option (Text ⊕ WhiskActivation α)) (finalSystemError : Bool) :
    (a.callback n response finalSystemError).countP (·.isProcessedOf n) = 1 := by
  cases response <;> cases hslot : a.isSlotFree <;>
    simp [AcknowledgementMessage.callback, Call.isProcessedOf, hslot]

/-- A message that was read has one `Processed` or waits, unless its finalizer has failed. -/
theorem Stands.count {n : ℕ} {phase : Phase α} {x : Option (AcknowledgementMessage α)}
    {calls : List (Call α)} (h : Stands n phase (some x) calls) :
    calls.countP (·.isProcessedOf n) = (if phase.pending then 0 else 1) ↔ phase ≠ .failed := by
  cases h with
  | finalizing => simp [Phase.pending]
  | finalized => simp [Phase.pending]
  | notParsed => simp [Phase.pending, Call.isProcessedOf]
  | handled => simp [Phase.pending, countP_callback]
  | failed => simp [Phase.pending]

/-- **Once**: exactly when no finalizer has failed. -/
theorem Sound.processedOnce_iff (hs : Sound s) :
    s.ProcessedOnce ↔ ∀ n, n < s.acknowledgements.length → s.phase n ≠ .failed := by
  refine forall₂_congr fun n hn => ?_
  have hstands := hs n
  rw [List.getElem?_eq_getElem hn] at hstands
  rw [countP_isProcessedOf, hstands.count]

/-! ## The result before the completion -/

/-- A message that is handled has called for its result. -/
theorem Stands.exists_result {n : ℕ} {phase : Phase α} {a : AcknowledgementMessage α}
    {calls : List (Call α)} (h : Stands n phase (some (some a)) calls)
    (hhandled : phase.isHandled = true) (hresult : a.result.isSome = true) :
    ∃ c ∈ calls, c.isResultOf n = true := by
  cases h with
  | @handled _ response _ hsome =>
    obtain ⟨r, rfl⟩ := Option.isSome_iff_exists.mp (hsome.trans hresult)
    exact ⟨.processResult n a.activationId a.transid r,
      by simp [AcknowledgementMessage.callback], by simp [Call.isResultOf]⟩
  | finalizing => cases hhandled
  | finalized => cases hhandled
  | failed => cases hhandled

/-- A message that is not handled has called for nothing. -/
theorem Stands.eq_nil {n : ℕ} {phase : Phase α} {x : Option (Option (AcknowledgementMessage α))}
    {calls : List (Call α)} (h : Stands n phase x calls) (hwaits : phase.isHandled = false) :
    calls = [] := by
  cases h with
  | notParsed => cases hwaits
  | handled => cases hwaits
  | _ => rfl

/-- A call is one of its message. -/
theorem mem_callsOf {c : Call α} : c ∈ s.callsOf c.message ↔ c ∈ s.calls := by
  simp [BalancerState.callsOf]

theorem message_of_isResultOf {c : Call α} {n : ℕ} (h : c.isResultOf n = true) : c.message = n := by
  cases c <;> simp_all [Call.isResultOf, Call.message]

theorem message_of_isCompletionOf {c : Call α} {n : ℕ} (h : c.isCompletionOf n = true) :
    c.message = n := by
  cases c <;> simp_all [Call.isCompletionOf, Call.message]

/-- What is known of a message that was parsed. -/
theorem Sound.stands (hs : Sound s) {n : ℕ} {a : AcknowledgementMessage α}
    (ha : s.acknowledgements[n]? = some (some a)) :
    Stands n (s.phase n) (some (some a)) (s.callsOf n) := ha ▸ hs n

/-- A message that is not handled has no call. -/
theorem Sound.message_ne (hs : Sound s) {n : ℕ} (hwaits : (s.phase n).isHandled = false)
    {c : Call α} (hc : c ∈ s.calls) : c.message ≠ n := by
  rintro rfl
  have hmem := mem_callsOf.mpr hc
  rw [(hs c.message).eq_nil hwaits] at hmem
  cases hmem

/-- A callback of another message completes no other activation. -/
theorem not_isCompletionOf_of_callback {j n : ℕ} (hne : j ≠ n) {a : AcknowledgementMessage α}
    {response : Option (Text ⊕ WhiskActivation α)} {finalSystemError : Bool} {c : Call α}
    (hc : c ∈ (a.callback n response finalSystemError).reverse) :
    ¬ c.isCompletionOf j = true := by
  intro h
  have hmessage := message_of_mem_callback (List.mem_reverse.mp hc)
  rw [message_of_isCompletionOf h] at hmessage
  exact hne hmessage

/-- What was read stays read. -/
theorem getElem?_processAcknowledgement (bytes : Bytes) {n : ℕ}
    (hn : n < s.acknowledgements.length) :
    (s.processAcknowledgement parse bytes).acknowledgements[n]? = s.acknowledgements[n]? := by
  unfold BalancerState.processAcknowledgement
  cases parse bytes <;> exact List.getElem?_append_left hn

/-- Reading calls for no result and completes nothing. -/
theorem calls_processAcknowledgement (bytes : Bytes) :
    ∃ new : List (Call α), (s.processAcknowledgement parse bytes).calls = new ++ s.calls ∧
      ∀ c ∈ new, ∀ j, ¬ c.isCompletionOf j = true := by
  unfold BalancerState.processAcknowledgement
  cases parse bytes with
  | some a => exact ⟨[], rfl, nofun⟩
  | none =>
    refine ⟨[.processed s.acknowledgements.length], rfl, fun c hc j => ?_⟩
    rw [List.mem_singleton.mp hc]
    exact Bool.false_ne_true

/-- The result before the completion, **after a message is read**: nothing was called for it. -/
theorem Sound.resultsFirst_processAcknowledgement (hs : Sound s) (hfirst : s.ResultsFirst)
    (bytes : Bytes) : (s.processAcknowledgement parse bytes).ResultsFirst := by
  rintro i j hij ⟨a, b, ha, hb, hresult, hcompletion, hid⟩
  obtain ⟨new, hcalls, hnew⟩ := @calls_processAcknowledgement α parse s bytes
  rw [hcalls, Precedes.append_iff_of_not fun c hc => hnew c hc j]
  rcases lt_or_ge j s.acknowledgements.length with hj | hj
  · rw [getElem?_processAcknowledgement bytes (hij.trans hj)] at ha
    rw [getElem?_processAcknowledgement bytes hj] at hb
    exact hfirst i j hij ⟨a, b, ha, hb, hresult, hcompletion, hid⟩
  · have hstands := hs j
    rw [List.getElem?_eq_none hj] at hstands
    have hwaits : (s.phase j).isHandled = false := by
      generalize s.phase j = phase, s.callsOf j = calls at hstands
      cases hstands
      rfl
    refine Precedes.of_not fun c hc h => ?_
    exact hs.message_ne hwaits hc (message_of_isCompletionOf h)

/-- **A callback** calls for results first exactly when the results that it completes were called
for. -/
theorem Sound.resultsFirst_callback_iff (hs : Sound s) (hfirst : s.ResultsFirst) (n : ℕ) :
    (s.callbackRuns n).ResultsFirst ↔ s.keepsResult (.callbackRuns n) := by
  unfold BalancerState.callbackRuns BalancerState.keepsResult
  split
  · next a response finalSystemError hphase =>
    have hstands := hs n
    rw [hphase] at hstands
    obtain ⟨ha, hsome⟩ : s.acknowledgements[n]? = some (some a) ∧
        response.isSome = a.result.isSome := by
      generalize s.acknowledgements[n]? = x, s.callsOf n = calls at hstands ⊢
      cases hstands with
      | finalized hresult => exact ⟨rfl, hresult⟩
    constructor
    · rintro hpost _ _ _ - i hin hpair
      have hprecedes := hpost i n hin hpair
      obtain ⟨r, b, hr, hb, hresult, hcompletion, -⟩ := hpair
      obtain rfl : a = b := by simpa using ha.symm.trans hb
      simp only [AcknowledgementMessage.isCompletionMessage, Bool.and_eq_true] at hcompletion
      obtain ⟨invoker, hslot⟩ := Option.isSome_iff_exists.mp hcompletion.2
      -- the call for the completion is new, and the callback of `n` calls for no result of `i`
      obtain ⟨c, hc, hof⟩ := hprecedes.exists_of_mem
        (List.mem_append_left _ (List.mem_reverse.mpr
          (by simp [AcknowledgementMessage.callback, hslot] :
            Call.processCompletion n a.activationId a.transid false finalSystemError ∈
              a.callback n response finalSystemError)))
        (by simp [Call.isCompletionOf])
      by_contra hwaits
      rcases List.mem_append.mp hc with hnew | hold
      · have hmessage := message_of_mem_callback (List.mem_reverse.mp hnew)
        rw [message_of_isResultOf hof] at hmessage
        exact hin.ne hmessage
      · exact hs.message_ne (Bool.eq_false_iff.mpr hwaits) hold (message_of_isResultOf hof)
    · intro hkeeps i j hij hpair
      have hold := hfirst i j hij hpair
      by_cases hj : j = n
      · subst hj
        have hhandled := hkeeps a response finalSystemError hphase i hij hpair
        obtain ⟨r, b, hr, hb, hresult, -⟩ := hpair
        simp only [AcknowledgementMessage.isResultMessage, Bool.and_eq_true] at hresult
        obtain ⟨c, hc, hof⟩ := (hs.stands hr).exists_result hhandled hresult.1
        exact hold.append_of_mem (List.mem_filter.mp hc).1 hof
      · exact (Precedes.append_iff_of_not fun c => not_isCompletionOf_of_callback hj).mpr hold
  · next hphase =>
    exact iff_of_true hfirst fun a response finalSystemError h =>
      absurd h (hphase a response finalSystemError)

/-! ## Runs -/

/-- What is wanted at a point of a run. -/
structure KeepsResults (s : BalancerState α) : Prop where
  first : s.ResultsFirst
  once : s.ProcessedOnce

theorem keepsResults_initial : KeepsResults (BalancerState.initial : BalancerState α) where
  first := fun _ _ _ _ => .nil
  once := fun n hn => absurd hn (Nat.not_lt_zero n)

@[simp] theorem length_processAcknowledgement (bytes : Bytes) :
    (s.processAcknowledgement parse bytes).acknowledgements.length =
      s.acknowledgements.length + 1 := by
  unfold BalancerState.processAcknowledgement
  cases parse bytes <;> exact List.length_append

/-- Reading fails no finalizer. -/
theorem processedOnce_processAcknowledgement (hs : Sound s) (honce : s.ProcessedOnce)
    (bytes : Bytes) : (s.processAcknowledgement parse bytes).ProcessedOnce := by
  rw [hs.processedOnce_iff] at honce
  refine (hs.processAcknowledgement bytes).processedOnce_iff.mpr fun n hn => ?_
  have hstart : ∀ a : AcknowledgementMessage α, a.start ≠ .failed := by
    intro a
    unfold AcknowledgementMessage.start
    split <;> exact nofun
  rw [length_processAcknowledgement] at hn
  unfold BalancerState.processAcknowledgement
  by_cases heq : n = s.acknowledgements.length
  · subst heq
    cases parse bytes with
    | some a => simpa using hstart a
    | none => simp
  · have hfailed := honce n (by omega)
    cases parse bytes <;> simpa only [Function.update_of_ne heq] using hfailed

/-- **A finalizer that is done** leaves what is wanted exactly when its future has not failed. -/
theorem keepsResults_finalizer_iff (hs : Sound s) (hk : KeepsResults s) (n : ℕ)
    (outcome : Future (Except Text (WhiskActivation α))) :
    KeepsResults (s.finalizerCompleted n outcome) ↔
      s.keepsResult (.finalizerCompleted n outcome) := by
  have honce := hs.processedOnce_iff.mp hk.once
  have hafter := (hs.finalizerCompleted n outcome).processedOnce_iff
  unfold BalancerState.finalizerCompleted BalancerState.keepsResult at *
  split
  · next a activation hphase =>
    simp only [hphase] at hafter
    have hn : n < s.acknowledgements.length := by
      by_contra hge
      have hstands := hs n
      rw [hphase, List.getElem?_eq_none (not_lt.mp hge)] at hstands
      cases hstands
    constructor
    · rintro hpost _ _ exception - rfl
      exact hafter.mp hpost.once n hn (by simp [AcknowledgementMessage.finalize])
    · intro hkeeps
      refine ⟨hk.first, hafter.mpr fun m hm => ?_⟩
      by_cases heq : m = n
      · subst heq
        rw [Function.update_self]
        match outcome with
        | .successful (.ok value) => exact nofun
        | .successful (.error reason) => exact nofun
        | .failed exception => exact absurd rfl (hkeeps a activation exception hphase)
      · rw [Function.update_of_ne heq]
        exact honce m hm
  · next hphase =>
    exact iff_of_true hk fun a activation _ h => absurd h (hphase a activation)

/-- A callback fails no finalizer. -/
theorem processedOnce_callbackRuns (hs : Sound s) (honce : s.ProcessedOnce) (n : ℕ) :
    (s.callbackRuns n).ProcessedOnce := by
  rw [hs.processedOnce_iff] at honce
  refine (hs.callbackRuns n).processedOnce_iff.mpr ?_
  unfold BalancerState.callbackRuns
  split
  · intro m hm
    by_cases heq : m = n
    · subst heq
      simp
    · simpa [Function.update_of_ne heq] using honce m hm
  · exact honce

/-- **One event** leaves what is wanted exactly when it keeps the results. -/
theorem keepsResults_step_iff (hs : Sound s) (hk : KeepsResults s) (e : Event α) :
    KeepsResults (step parse s e).1 ↔ s.keepsResult e := by
  cases e with
  | read bytes =>
    exact iff_of_true ⟨hs.resultsFirst_processAcknowledgement hk.first bytes,
      processedOnce_processAcknowledgement hs hk.once bytes⟩ trivial
  | finalizerCompleted n outcome => exact keepsResults_finalizer_iff hs hk n outcome
  | callbackRuns n =>
    rw [← hs.resultsFirst_callback_iff hk.first n]
    exact ⟨fun h => h.first, fun h => ⟨h, processedOnce_callbackRuns hs hk.once n⟩⟩

/-- **When results are kept**: exactly when no finalizer fails, and no callback of a completion
runs before the callback of a result that was read earlier. -/
theorem keepsResults_iff (hr : Reach (step parse) .initial h s) :
    Throughout (step parse) .initial (fun _ s => KeepsResults s) h ↔
      ∀ r ∈ h, r.pre.keepsResult r.input :=
  Throughout.iff_of_step (fun ht => sound_of_reach ht) keepsResults_initial
    (fun _ e hs hk => keepsResults_step_iff hs hk e) hr

/-- The finalizer of the repository does not fail: what the Gateway throws becomes an error. -/
theorem keepsResult_finalizeResult (s : BalancerState α) (n : ℕ)
    (gatewayClient : TargetBound.ToSource) (activation : WhiskActivation α) :
    s.keepsResult
      (.finalizerCompleted n (TargetBound.finalizeResult gatewayClient activation).2) := by
  rintro _ _ exception -
  unfold TargetBound.finalizeResult
  split
  · split <;> exact nofun
  · exact nofun

/-! ## A slow finalizer -/

def sampleActivation : WhiskActivation Unit := ⟨⟨.success, none⟩, ()⟩

/-- A result and the completion of its activation. -/
def sampleParse : Bytes → Option (AcknowledgementMessage Unit)
  | [0] => some ⟨"a1".toList, "t1".toList, some (.inr sampleActivation), none, none⟩
  | [1] => some ⟨"a1".toList, "t1".toList, none, some "0".toList, some false⟩
  | _ => none

/-- Both messages are read, and the finalizer is done before the callback of the completion. -/
def promptRun : List (Event Unit) :=
  [.read [0], .read [1], .finalizerCompleted 0 (.successful (.ok sampleActivation)),
    .callbackRuns 0, .callbackRuns 1]

/-- The callback of the completion runs while the finalizer is asked. -/
def slowRun : List (Event Unit) :=
  [.read [0], .read [1], .callbackRuns 1,
    .finalizerCompleted 0 (.successful (.ok sampleActivation)), .callbackRuns 0]

/-- The finalizer fails. -/
def failedRun : List (Event Unit) :=
  [.read [0], .finalizerCompleted 0 (.failed "TimeoutException".toList)]

theorem promptRun_keepsResults :
    Throughout (step sampleParse) .initial (fun _ s => KeepsResults s)
      (runOn (step sampleParse) [] .initial promptRun).1 := by
  refine (keepsResults_iff (reach_runOn _ _ Reach.start)).mpr ?_
  simp only [promptRun, runOn, List.forall_mem_cons]
  refine ⟨?_, ?_, ?_, trivial, trivial, List.forall_mem_nil _⟩
  · rintro _ _ _ - i hi -
    obtain rfl : i = 0 := by omega
    rfl
  · rintro _ _ _ - i hi -
    exact absurd hi (Nat.not_lt_zero i)
  · exact nofun

/-- Nothing was called for the result when its activation was completed; and a finalizer that fails
leaves a message of which the feed is never told. -/
theorem slowRun_not_keepsResults :
    (¬ Throughout (step sampleParse) .initial (fun _ s => KeepsResults s)
        (runOn (step sampleParse) [] .initial slowRun).1) ∧
      ¬ Throughout (step sampleParse) .initial (fun _ s => KeepsResults s)
        (runOn (step sampleParse) [] .initial failedRun).1 := by
  constructor
  · intro hall
    have hend := hall _ _ List.suffix_rfl (reach_runOn (step sampleParse) slowRun Reach.start)
    have hfirst := hend.first 0 1 one_pos ⟨_, _, rfl, rfl, rfl, rfl, rfl⟩
    -- the completion is the oldest of the four calls
    obtain ⟨_, hmem, -⟩ := hfirst.2.2.2.1 rfl
    cases hmem
  · intro hall
    have hend := hall _ _ List.suffix_rfl (reach_runOn (step sampleParse) failedRun Reach.start)
    have honce := hend.once 0 (by decide)
    exact absurd honce (by decide)

end FPCPoolBalancer
end OpenWhisk
end AsynCS
