import AsynCS.OpenWhisk.ActivationOwnership

/-!
# Order and idle requests in the queue of the scheduler

* `Orderly`: the queue is in the order of arrival, and no open request waits while it holds an
  activation.
* `requeuesInOrder`: a dispatch that fails comes back before everything that arrived later, and
  while nobody waits.
* `orderly_iff_requeuesInOrder`: the runs that are orderly.  A failed dispatch goes to the head of
  the queue, whatever came back before it, and is matched with no request.
-/

namespace AsynCS
namespace OpenWhisk
namespace MemoryQueue

variable {μ : Type}

namespace QueueState

/-- **Order and work conservation** at one point of a run. -/
structure Orderly (s : QueueState μ) : Prop where
  ordered : s.queue.Pairwise fun e e' => e.arrival < e'.arrival
  busy : s.queue = [] ∨ ∀ b ∈ s.requestBuffer, s.isCompleted b.promise = true

/-- A dispatch that fails has an activation that arrived before all in the queue, and no open request
waits. -/
def requeuesInOrder (s : QueueState μ) : QueueEvent μ → Bool
  | .dispatchCompleted arrival (.error _) =>
    (s.dispatchOf arrival).isNone ||
      (s.queue.all fun e => decide (arrival < e.arrival)) &&
        s.requestBuffer.all fun b => s.isCompleted b.promise
  | _ => true

/-! ## What messages do to the queue and to promises -/

/-- An answer stays. -/
theorem Completes.isCompleted {promises : ℕ → Prop} {s s' : QueueState μ}
    (h : Completes promises s s') {r : ℕ} (hr : s.isCompleted r = true) :
    s'.isCompleted r = true := by
  rw [isCompleted_iff] at hr ⊢
  rcases h.answered r with heq | ⟨-, hzero, -⟩ <;> omega

/-- Who has an answer now had one, or is among those who were answered. -/
theorem Completes.of_isCompleted {promises : ℕ → Prop} {s s' : QueueState μ}
    (h : Completes promises s s') {r : ℕ} (hr : s'.isCompleted r = true) :
    s.isCompleted r = true ∨ promises r := by
  rw [isCompleted_iff] at hr ⊢
  rcases h.answered r with heq | ⟨hp, -, -⟩
  · exact .inl (heq ▸ hr)
  · exact .inr hp

/-- Answers keep a state orderly. -/
theorem Orderly.completes {promises : ℕ → Prop} {s s' : QueueState μ} (ho : Orderly s)
    (h : Completes promises s s') : Orderly s' := by
  refine ⟨h.queue ▸ ho.ordered, ?_⟩
  rw [h.queue, h.requestBuffer]
  exact ho.busy.imp_right fun hall b hb => h.isCompleted (hall b hb)

/-- What is in the queue was accepted. -/
theorem Sound.arrival_lt {s : QueueState μ} (hs : Sound s) {e : TimeSeriesActivationEntry μ}
    (he : e ∈ s.queue) : e.arrival < s.accepted := by
  have hpos : 0 < s.queued e.arrival := List.countP_pos_iff.mpr ⟨e, he, beq_self_eq_true _⟩
  have hle := hs.places e.arrival
  rw [QueueState.places, upTo] at hle
  split at hle
  · assumption
  · omega

/-- An activation that arrives is last, or taken by a request that waits. -/
theorem Orderly.handleActivationMessage {s : QueueState μ} (hs : Sound s) (ho : Orderly s)
    (msg : μ) (timestamp choice : ℕ) :
    Orderly (s.handleActivationMessage msg timestamp choice) := by
  rcases takeUncompletedRequest_cases { s with accepted := s.accepted + 1 } choice with
    ⟨-, htake⟩ | ⟨b, hb, htake⟩
  · simp only [QueueState.handleActivationMessage, htake]
    refine ⟨?_, .inr fun b hb => absurd hb List.not_mem_nil⟩
    refine List.pairwise_append.mpr ⟨ho.ordered, List.pairwise_singleton _ _, ?_⟩
    intro e he e' he'
    rw [List.mem_singleton] at he'
    rw [he']
    exact hs.arrival_lt he
  · simp only [QueueState.handleActivationMessage, htake]
    obtain ⟨hmem, hopen⟩ := List.mem_filter.mp hb
    refine ⟨ho.ordered, .inl (ho.busy.resolve_right fun hall => ?_)⟩
    have hopen' : (!s.isCompleted b.promise) = true := hopen
    rw [hall b hmem] at hopen'
    exact Bool.false_ne_true hopen'

/-- A request takes the first activation, or waits while there is none. -/
theorem Orderly.handleActivationRequest {s : QueueState μ} (ho : Orderly s)
    (request : GetActivation) : Orderly (s.handleActivationRequest request) := by
  cases hq : s.queue with
  | nil =>
    simp only [QueueState.handleActivationRequest, hq, pollForActivation]
    exact ⟨List.Pairwise.nil, .inl rfl⟩
  | cons entry queue =>
    simp only [QueueState.handleActivationRequest, hq, beginActivationDispatch]
    have hordered := ho.ordered
    rw [hq] at hordered
    refine ⟨hordered.of_cons, .inr (ho.busy.resolve_left fun hnil => ?_)⟩
    rw [hq] at hnil
    exact absurd hnil (List.cons_ne_nil _ _)

/-- The requests of a deleted container leave. -/
theorem Orderly.removeDeletedContainer {s : QueueState μ} (ho : Orderly s)
    (containerId : JString) : Orderly (s.removeDeletedContainerFromRequestBuffer containerId) := by
  have hfilter : Orderly { s with
      requestBuffer := s.requestBuffer.filter fun b => b.request.containerId != containerId } :=
    ⟨ho.ordered, ho.busy.imp_right fun hall b hb => hall b (List.mem_filter.mp hb).1⟩
  exact hfilter.completes (completes_removeDeletedContainer s containerId)

/-- A dispatch that fails is put before the queue. -/
theorem completes_failed {s : QueueState μ} (hs : Sound s) {arrival : ℕ}
    {p : PendingActivationDispatch μ} (h : s.dispatchOf arrival = some p) (message : JString) :
    Completes (fun r => r = p.recipient.request)
      { s.withoutDispatch arrival with queue := p.entry :: s.queue }
      ((s.withoutDispatch arrival).completeActivationDispatch p (.error message)) :=
  completes_completeDispatchRecipient _ (direct_of_dispatchOf hs h)

/-- The promise of a dispatch is not in the buffer. -/
theorem promise_ne_of_dispatchOf {s : QueueState μ} (hs : Sound s) {arrival : ℕ}
    {p : PendingActivationDispatch μ} (h : s.dispatchOf arrival = some p) {b : BufferedRequest}
    (hb : b ∈ s.requestBuffer) : b.promise ≠ p.recipient.request := by
  intro heq
  have hbuffer : 0 < s.requestBuffer.countP fun c => c.promise == p.recipient.request :=
    List.countP_pos_iff.mpr ⟨b, hb, by rw [heq]; exact beq_self_eq_true _⟩
  have hpending : 0 < s.pending.countP fun q => q.recipient.request == p.recipient.request :=
    List.countP_pos_iff.mpr ⟨p, (dispatchOf_eq_some h).1, beq_self_eq_true _⟩
  have hle := le_trans (hs.asks p.recipient.request) (upTo_le_one _ _)
  rw [asks] at hle
  omega

/-- **A failed dispatch** leaves an orderly state exactly when it is put back in order. -/
theorem orderly_failed_iff {s : QueueState μ} (hs : Sound s) (ho : Orderly s) {arrival : ℕ}
    {p : PendingActivationDispatch μ} (h : s.dispatchOf arrival = some p) (message : JString) :
    Orderly ((s.withoutDispatch arrival).completeActivationDispatch p (.error message)) ↔
      s.requeuesInOrder (.dispatchCompleted arrival (.error message)) = true := by
  have hcompletes := completes_failed hs h message
  have harrival := (dispatchOf_eq_some h).2
  have hin : s.requeuesInOrder (.dispatchCompleted arrival (.error message)) = true ↔
      (∀ e ∈ s.queue, arrival < e.arrival) ∧
        ∀ b ∈ s.requestBuffer, s.isCompleted b.promise = true := by
    simp [requeuesInOrder, h]
  rw [hin]
  constructor
  · intro hpost
    constructor
    · have hordered := hpost.ordered
      rw [hcompletes.queue, List.pairwise_cons, harrival] at hordered
      exact hordered.1
    · intro b hb
      have hbusy := hpost.busy
      rw [hcompletes.queue, hcompletes.requestBuffer] at hbusy
      have hall := hbusy.resolve_left (List.cons_ne_nil _ _)
      rcases hcompletes.of_isCompleted (hall b hb) with hdone | heq
      · exact hdone
      · exact absurd heq (promise_ne_of_dispatchOf hs h hb)
  · rintro ⟨hlater, hdone⟩
    have hqueue : Orderly { s.withoutDispatch arrival with queue := p.entry :: s.queue } := by
      refine ⟨List.pairwise_cons.mpr ⟨fun e he => ?_, ho.ordered⟩, .inr hdone⟩
      rw [harrival]
      exact hlater e he
    exact hqueue.completes hcompletes

/-! ## Runs -/

/-- **Step.**  A message keeps an orderly state orderly exactly when it requeues in order. -/
theorem orderly_queueStep_iff {s : QueueState μ} (hs : Sound s) (ho : Orderly s)
    (event : QueueEvent μ) :
    Orderly (queueStep s event).1 ↔ s.requeuesInOrder event = true := by
  cases event with
  | activationMessage msg timestamp choice =>
    exact iff_of_true (ho.handleActivationMessage hs msg timestamp choice) rfl
  | getActivation request => exact iff_of_true (ho.handleActivationRequest request) rfl
  | pollTimeout promise =>
    refine iff_of_true ?_ rfl
    simp only [queueStep]
    cases s.timers promise with
    | off => exact ho
    | armed => exact ⟨ho.ordered, ho.busy⟩
    | sent => exact ho
  | cancelPoll promise =>
    refine iff_of_true ?_ rfl
    simp only [queueStep]
    cases s.timers promise with
    | off => exact ho
    | armed => exact ho
    | sent => exact ho.completes (completes_cancelPollMessage s promise)
  | containerDeleted containerId => exact iff_of_true (ho.removeDeletedContainer containerId) rfl
  | dispatchCompleted arrival result =>
    cases hp : s.dispatchOf arrival with
    | none =>
      simp only [queueStep, hp]
      refine iff_of_true ho ?_
      cases result with
      | ok msg => rfl
      | error message => simp [requeuesInOrder, hp]
    | some p =>
      simp only [queueStep, hp]
      cases result with
      | error message => exact orderly_failed_iff hs ho hp message
      | ok msg =>
        have hwithout : Orderly (s.withoutDispatch arrival) := ⟨ho.ordered, ho.busy⟩
        exact iff_of_true (hwithout.completes (completes_completeDispatchRecipient _
          (direct_of_dispatchOf hs hp))) rfl

/-- **When the queue is orderly**: exactly when each failed dispatch comes back before everything
that arrived later, and while no open request waits. -/
theorem orderly_iff_requeuesInOrder {h : List (Record (QueueState μ) (QueueEvent μ) Unit)}
    {s : QueueState μ} (hr : Reach queueStep initial h s) :
    Throughout queueStep initial (fun _ s => Orderly s) h ↔
      ∀ r ∈ h, requeuesInOrder r.pre r.input = true := by
  constructor
  · intro hall r hm
    obtain ⟨t, hsub, hpre, hpost, -⟩ := hr.of_mem hm
    have hbefore := hall t r.pre ((List.suffix_cons r t).trans hsub) hpre
    have hafter := hall _ _ hsub hpost
    exact (orderly_queueStep_iff (sound_of_reach hpre) hbefore r.input).mp hafter
  · refine Throughout.of_records fun t s ht hc => ?_
    induction ht with
    | start => exact ⟨List.Pairwise.nil, .inl rfl⟩
    | @step t s prior event ih =>
      have hbefore := ih fun r hr => hc r (List.mem_cons_of_mem _ hr)
      exact (orderly_queueStep_iff (sound_of_reach prior) hbefore event).mpr
        (hc _ List.mem_cons_self)

/-! ## Dispatches that fail -/

/-- Two queued activations are handed out and both dispatches fail. -/
def failures (first second : ℕ) : List (QueueEvent Unit) :=
  [.activationMessage () 0 0, .activationMessage () 1 0, .getActivation sampleRequest,
    .getActivation sampleRequest, .dispatchCompleted first (.error []),
    .dispatchCompleted second (.error [])]

/-- The later activation comes back first, and both are in order again. -/
theorem failures_orderly :
    Throughout queueStep initial (fun _ s => Orderly s)
      (runOn queueStep [] initial (failures 1 0)).1 :=
  (orderly_iff_requeuesInOrder (reach_runOn _ _ Reach.start)).mpr (by decide +kernel)

/-- The earlier activation comes back first, and is behind the later one. -/
theorem failures_not_orderly :
    (runOn queueStep [] initial (failures 0 1)).2.queue.map (fun e => e.arrival) = [1, 0] ∧
      ¬ Throughout queueStep initial (fun _ s => Orderly s)
        (runOn queueStep [] initial (failures 0 1)).1 := by
  have hqueue : (runOn queueStep [] initial (failures 0 1)).2.queue.map (fun e => e.arrival) =
      [1, 0] := by decide +kernel
  refine ⟨hqueue, fun hall => ?_⟩
  have hend := hall _ _ List.suffix_rfl (reach_runOn queueStep (failures 0 1) Reach.start)
  have hordered := List.pairwise_map.mpr hend.ordered
  rw [hqueue] at hordered
  exact absurd hordered (by decide)

end QueueState

end MemoryQueue
end OpenWhisk
end AsynCS
