import AsynCS.Lib.Runs
import AsynCS.OpenWhisk.MemoryQueue

/-!
# Who owns an activation of the queue

An accepted activation is in the queue, in a pending dispatch, or delivered to a request that had
no answer yet.

* `places`, `asks`, `answered`: where an activation is, who asks for one, and who was answered.
* `Conserved`: no activation is lost or handed out twice, and nobody is answered twice.
* `dequeue_eq_none_iff`, `takeUncompletedRequest_cases`: the priority queue.
* `Completes`: some promises are completed without an activation.
* `Sound`: what holds in every run; `sound_queueStep` is the step and `sound_of_reach` the run.
* `strands`: a dispatch comes back with a message for a promise that is completed already, as
  `CancelPoll` completes one whose request was taken from the buffer before.
* `conserved_iff_not_strands`: the runs that conserve activations.
-/

namespace AsynCS
namespace OpenWhisk
namespace MemoryQueue

variable {μ : Type}

namespace QueueState

/-! ## Places and requests -/

/-- The response carries the activation. -/
def delivers (n : ℕ) (a : ℕ × Response μ) : Bool :=
  match a.2 with
  | .activation arrival _ => arrival == n
  | _ => false

/-- How often the activation is in the queue. -/
def queued (s : QueueState μ) (n : ℕ) : ℕ := s.queue.countP fun e => e.arrival == n

/-- How many pending dispatches have the activation. -/
def dispatched (s : QueueState μ) (n : ℕ) : ℕ := s.pending.countP fun p => p.entry.arrival == n

/-- How often the activation was delivered. -/
def delivered (s : QueueState μ) (n : ℕ) : ℕ := s.responses.countP (delivers n)

/-- The number of places that hold the activation. -/
def places (s : QueueState μ) (n : ℕ) : ℕ := s.queued n + s.dispatched n + s.delivered n

/-- How often the request was answered. -/
def answered (s : QueueState μ) (r : ℕ) : ℕ := s.responses.countP fun a => a.1 == r

/-- How many pending dispatches and buffered requests stand for the request. -/
def asks (s : QueueState μ) (r : ℕ) : ℕ :=
  (s.pending.countP fun p => p.recipient.request == r) +
    s.requestBuffer.countP fun b => b.promise == r

/-- **Activations are conserved**: each accepted one is in exactly one place, and nobody is answered
twice, so a delivery is to a recipient that had no answer. -/
structure Conserved (s : QueueState μ) : Prop where
  once : ∀ n < s.accepted, s.places n = 1
  answeredOnce : ∀ r, s.answered r ≤ 1

theorem isCompleted_iff {s : QueueState μ} {r : ℕ} :
    s.isCompleted r = true ↔ 0 < s.answered r := by
  rw [isCompleted, answered, List.any_eq_true, List.countP_pos_iff]

/-! ## The priority queue -/

theorem greatest_eq_nil_iff {buffer : List BufferedRequest} :
    greatest buffer = [] ↔ buffer = [] := by
  constructor
  · intro h
    by_contra hne
    obtain ⟨b, hb, hmax⟩ := buffer.toFinset.exists_max_image BufferedRequest.sortKey
      (by simpa [Finset.nonempty_iff_ne_empty] using hne)
    have hmem : b ∈ greatest buffer := by
      refine List.mem_filter.mpr ⟨by simpa using hb, ?_⟩
      rw [List.all_eq_true]
      exact fun c hc => by simpa using hmax c (by simpa using hc)
    rw [h] at hmem
    exact absurd hmem List.not_mem_nil
  · rintro rfl
    rfl

theorem dequeue_eq_none_iff {choice : ℕ} {buffer : List BufferedRequest} :
    dequeue choice buffer = none ↔ buffer = [] := by
  rw [dequeue, List.getElem?_eq_none_iff, ← greatest_eq_nil_iff]
  constructor
  · intro h
    by_contra hne
    have hpos := List.length_pos_iff.mpr hne
    have hlt := Nat.mod_lt choice hpos
    omega
  · intro h
    rw [h]
    exact Nat.zero_le _

theorem mem_of_dequeue {choice : ℕ} {buffer : List BufferedRequest} {b : BufferedRequest}
    (h : dequeue choice buffer = some b) : b ∈ buffer :=
  (List.mem_filter.mp (List.mem_of_getElem? h)).1

/-- **What is taken**: nothing when all promises are completed, and otherwise a request whose
promise is open. -/
theorem takeUncompletedRequest_cases (s : QueueState μ) (choice : ℕ) :
    (s.uncompleted = [] ∧
      s.takeUncompletedRequest choice = (none, { s with requestBuffer := [] })) ∨
    ∃ b ∈ s.uncompleted, s.takeUncompletedRequest choice = (some b,
      { s with requestBuffer := s.uncompleted.erase b }.cancelPoll b.promise) := by
  unfold takeUncompletedRequest
  cases h : dequeue choice s.uncompleted with
  | none =>
    have hnil := dequeue_eq_none_iff.mp h
    exact .inl ⟨hnil, by rw [hnil]⟩
  | some b => exact .inr ⟨b, mem_of_dequeue h, rfl⟩

/-! ## Completing promises -/

/-- Some requests that had no answer get one; nothing else changes but timers, and no timer
starts. -/
structure Completes (promises : ℕ → Prop) (s s' : QueueState μ) : Prop where
  queue : s'.queue = s.queue
  requestBuffer : s'.requestBuffer = s.requestBuffer
  pending : s'.pending = s.pending
  accepted : s'.accepted = s.accepted
  requests : s'.requests = s.requests
  answered : ∀ r, s'.answered r = s.answered r ∨
    (promises r ∧ s.answered r = 0 ∧ s'.answered r = 1)
  timers : ∀ r, s.timers r = .off → s'.timers r = .off

theorem Completes.refl (promises : ℕ → Prop) (s : QueueState μ) : Completes promises s s :=
  ⟨rfl, rfl, rfl, rfl, rfl, fun _ => .inl rfl, fun _ h => h⟩

theorem Completes.trans {promises : ℕ → Prop} {s s' s'' : QueueState μ}
    (h : Completes promises s s') (h' : Completes promises s' s'') :
    Completes promises s s'' where
  queue := h'.queue.trans h.queue
  requestBuffer := h'.requestBuffer.trans h.requestBuffer
  pending := h'.pending.trans h.pending
  accepted := h'.accepted.trans h.accepted
  requests := h'.requests.trans h.requests
  timers r hr := h'.timers r (h.timers r hr)
  answered r := by
    rcases h.answered r with heq | ⟨hp, hzero, hone⟩
    · rw [← heq]
      exact h'.answered r
    · rcases h'.answered r with heq' | ⟨-, hzero', -⟩
      · exact .inr ⟨hp, hzero, heq'.trans hone⟩
      · omega

theorem completes_cancelPoll (promises : ℕ → Prop) (s : QueueState μ) (promise : ℕ) :
    Completes promises s (s.cancelPoll promise) where
  queue := rfl
  requestBuffer := rfl
  pending := rfl
  accepted := rfl
  requests := rfl
  answered _ := .inl rfl
  timers r hr := by
    by_cases h : r = promise
    · subst h
      show Function.update s.timers r (s.timers r).cancel r = .off
      rw [Function.update_self, hr]
      rfl
    · show Function.update s.timers promise (s.timers promise).cancel r = .off
      rw [Function.update_of_ne h, hr]

/-- A response to a request. -/
theorem answered_respond (s : QueueState μ) (request r : ℕ) (response : Response μ) :
    (s.respond request response).answered r =
      s.answered r + (if request = r then 1 else 0) := by
  simp only [answered, respond, List.countP_cons, beq_iff_eq]

/-- Responding to a request that has no answer. -/
theorem completes_respond {promises : ℕ → Prop} {s : QueueState μ} {request : ℕ}
    (hp : promises request) (hopen : s.answered request = 0) (response : Response μ) :
    Completes promises s (s.respond request response) := by
  refine ⟨rfl, rfl, rfl, rfl, rfl, fun r => ?_, fun _ h => h⟩
  rw [answered_respond]
  by_cases h : request = r
  · subst h
    exact .inr ⟨hp, hopen, by rw [if_pos rfl, hopen]⟩
  · exact .inl (by rw [if_neg h, Nat.add_zero])

theorem completes_trySuccess {promises : ℕ → Prop} (s : QueueState μ) {promise : ℕ}
    (hp : promises promise) (response : Response μ) :
    Completes promises s (s.trySuccess promise response) := by
  unfold trySuccess
  split
  · exact Completes.refl promises s
  · rename_i hopen
    have hzero : s.answered promise = 0 := by
      rw [isCompleted_iff] at hopen
      omega
    exact (completes_respond hp hzero response).trans (completes_cancelPoll promises _ promise)

/-- A response without an activation delivers none. -/
theorem delivered_trySuccess (s : QueueState μ) {promise : ℕ} {response : Response μ} {n : ℕ}
    (h : delivers n (promise, response) = false) :
    (s.trySuccess promise response).delivered n = s.delivered n := by
  unfold trySuccess
  split
  · rfl
  · exact List.countP_cons_of_neg (by rw [h]; exact Bool.false_ne_true)

/-- The requests of a deleted container. -/
theorem completes_foldl_dropRequest {promises : ℕ → Prop} {buffer : List BufferedRequest}
    (hp : ∀ b ∈ buffer, promises b.promise) (s : QueueState μ) :
    Completes promises s (buffer.foldl dropRequest s) := by
  induction buffer generalizing s with
  | nil => exact Completes.refl promises s
  | cons b buffer ih =>
    have hdrop : Completes promises s (s.dropRequest b) :=
      (completes_cancelPoll promises s b.promise).trans
        (completes_trySuccess _ (hp b List.mem_cons_self) _)
    exact hdrop.trans (ih (fun c hc => hp c (List.mem_cons_of_mem b hc)) _)

theorem delivered_foldl_dropRequest (buffer : List BufferedRequest) (s : QueueState μ) (n : ℕ) :
    (buffer.foldl dropRequest s).delivered n = s.delivered n := by
  induction buffer generalizing s with
  | nil => rfl
  | cons b buffer ih => exact (ih _).trans (delivered_trySuccess _ rfl)

/-! ## What holds in every run -/

/-- The bound of a count of things with a number: one for each number that was given. -/
def upTo (bound n : ℕ) : ℕ := if n < bound then 1 else 0

/-- **Soundness**, which no order of messages breaks: an activation is in one place at most, a
request asks in one place at most and is answered once at most, and a request that is to be answered
directly has no answer and no poll. -/
structure Sound (s : QueueState μ) : Prop where
  places : ∀ n, s.places n ≤ upTo s.accepted n
  asks : ∀ r, s.asks r ≤ upTo s.requests r
  answered : ∀ r, s.answered r ≤ upTo s.requests r
  timers : ∀ r, s.requests ≤ r → s.timers r = .off
  direct : ∀ p ∈ s.pending, ∀ r, p.recipient = .direct r →
    s.answered r = 0 ∧ s.timers r = .off

theorem sound_initial : Sound (initial : QueueState μ) where
  places n := by simp [QueueState.places, queued, dispatched, QueueState.delivered, initial]
  asks r := by simp [QueueState.asks, initial]
  answered r := by simp [QueueState.answered, initial]
  timers r _ := rfl
  direct p hp := absurd hp List.not_mem_nil

theorem upTo_le_one (bound n : ℕ) : upTo bound n ≤ 1 := by
  unfold upTo
  split <;> omega

theorem upTo_mono {a b : ℕ} (h : a ≤ b) (n : ℕ) : upTo a n ≤ upTo b n := by
  unfold upTo
  split <;> split <;> omega

theorem upTo_succ (bound n : ℕ) :
    upTo (bound + 1) n = upTo bound n + (if bound = n then 1 else 0) := by
  unfold upTo
  split <;> split <;> split <;> omega

/-- A request that is to be answered directly is asked for by its dispatch. -/
theorem countP_pos_of_direct {pending : List (PendingActivationDispatch μ)}
    {p : PendingActivationDispatch μ} (hp : p ∈ pending) {r : ℕ} (hr : p.recipient = .direct r) :
    0 < pending.countP fun q => q.recipient.request == r := by
  refine List.countP_pos_iff.mpr ⟨p, hp, ?_⟩
  rw [hr]
  exact beq_self_eq_true r

/-- The places of an activation when requests get answers. -/
theorem Completes.places_eq {promises : ℕ → Prop} {s s' : QueueState μ}
    (h : Completes promises s s') (n : ℕ) :
    s'.places n = s.queued n + s.dispatched n + s'.delivered n := by
  simp only [QueueState.places, queued, dispatched, h.queue, h.pending]

theorem Completes.places {promises : ℕ → Prop} {s s' : QueueState μ} (h : Completes promises s s')
    {n : ℕ} (hdelivered : s'.delivered n = s.delivered n) : s'.places n = s.places n := by
  rw [h.places_eq, hdelivered, QueueState.places]

/-- Answering requests that no dispatch is to answer directly is sound. -/
theorem Sound.completes {s s' : QueueState μ} {promises : ℕ → Prop} (hs : Sound s)
    (h : Completes promises s s') (hplaces : ∀ n, s'.places n ≤ upTo s.accepted n)
    (hbound : ∀ r, promises r → r < s.requests)
    (hdirect : ∀ p ∈ s.pending, ∀ r, p.recipient = .direct r → ¬ promises r) : Sound s' where
  places n := by
    rw [h.accepted]
    exact hplaces n
  asks r := by
    have heq : s'.asks r = s.asks r := by
      simp only [QueueState.asks, h.pending, h.requestBuffer]
    rw [heq, h.requests]
    exact hs.asks r
  answered r := by
    rw [h.requests]
    rcases h.answered r with heq | ⟨hp, -, hone⟩
    · rw [heq]
      exact hs.answered r
    · rw [hone, upTo, if_pos (hbound r hp)]
  timers r hr := h.timers r (hs.timers r (h.requests ▸ hr))
  direct p hp r hr := by
    rw [h.pending] at hp
    obtain ⟨hzero, hoff⟩ := hs.direct p hp r hr
    refine ⟨?_, h.timers r hoff⟩
    rcases h.answered r with heq | ⟨hpr, -, -⟩
    · rw [heq, hzero]
    · exact absurd hpr (hdirect p hp r hr)

/-! ## Activations and requests -/

/-- An activation that arrives is in one place. -/
theorem places_handleActivationMessage (s : QueueState μ) (msg : μ) (timestamp choice n : ℕ) :
    (s.handleActivationMessage msg timestamp choice).places n =
      s.places n + (if s.accepted = n then 1 else 0) := by
  rcases takeUncompletedRequest_cases { s with accepted := s.accepted + 1 } choice with
    ⟨-, htake⟩ | ⟨b, -, htake⟩
  · simp only [handleActivationMessage, htake, places, queued, dispatched, delivered,
      List.countP_append, List.countP_cons, List.countP_nil, beq_iff_eq]
    omega
  · simp only [handleActivationMessage, htake, beginActivationDispatch, cancelPoll, places, queued,
      dispatched, delivered, List.countP_cons, beq_iff_eq]
    omega

/-- The buffer without the request that was taken. -/
theorem countP_uncompleted_erase {s : QueueState μ} {b : BufferedRequest} (hb : b ∈ s.uncompleted)
    (r : ℕ) : (if b.promise = r then 1 else 0) +
      (s.uncompleted.erase b).countP (fun c => c.promise == r) ≤
        s.requestBuffer.countP fun c => c.promise == r := by
  have hperm := (List.perm_cons_erase hb).countP_eq fun c => c.promise == r
  have hsub : s.uncompleted.countP (fun c => c.promise == r) ≤
      s.requestBuffer.countP fun c => c.promise == r := List.filter_sublist.countP_le
  simp only [List.countP_cons, beq_iff_eq] at hperm
  omega

theorem sound_handleActivationMessage {s : QueueState μ} (hs : Sound s) (msg : μ)
    (timestamp choice : ℕ) : Sound (s.handleActivationMessage msg timestamp choice) := by
  have hplaces : ∀ n, s.places n + (if s.accepted = n then 1 else 0) ≤ upTo (s.accepted + 1) n := by
    intro n
    rw [upTo_succ]
    exact Nat.add_le_add_right (hs.places n) _
  have hcount := places_handleActivationMessage s msg timestamp choice
  rcases takeUncompletedRequest_cases { s with accepted := s.accepted + 1 } choice with
    ⟨-, htake⟩ | ⟨b, hb, htake⟩
  · simp only [handleActivationMessage, htake] at hcount ⊢
    refine ⟨fun n => ?_, fun r => ?_, hs.answered, hs.timers, hs.direct⟩
    · rw [hcount n]
      exact hplaces n
    · exact le_trans (Nat.add_le_add_left (Nat.zero_le _) _) (hs.asks r)
  · simp only [handleActivationMessage, htake] at hcount ⊢
    have hcancel := completes_cancelPoll (fun _ => True) s b.promise
    refine ⟨fun n => ?_, fun r => ?_, hs.answered, fun r hr => ?_, fun p hp r hr => ?_⟩
    · rw [hcount n]
      exact hplaces n
    · have hle := countP_uncompleted_erase hb r
      have hasks := hs.asks r
      simp only [asks, beginActivationDispatch, cancelPoll, List.countP_cons,
        ActivationDispatchRecipient.request, beq_iff_eq] at hle hasks ⊢
      omega
    · exact hcancel.timers r (hs.timers r hr)
    · rcases List.mem_cons.mp hp with rfl | hp
      · exact absurd hr (by simp)
      · obtain ⟨hzero, hoff⟩ := hs.direct p hp r hr
        exact ⟨hzero, hcancel.timers r hoff⟩

/-- A request moves an activation from the queue to a dispatch, or waits. -/
theorem places_handleActivationRequest (s : QueueState μ) (request : GetActivation) (n : ℕ) :
    (s.handleActivationRequest request).places n = s.places n := by
  unfold handleActivationRequest
  cases hq : s.queue with
  | nil =>
    simp only [pollForActivation, places, queued, dispatched, delivered, hq]
  | cons entry queue =>
    simp only [beginActivationDispatch, places, queued, dispatched, delivered, hq,
      List.countP_cons]
    omega

theorem sound_handleActivationRequest {s : QueueState μ} (hs : Sound s)
    (request : GetActivation) : Sound (s.handleActivationRequest request) := by
  have hplaces := places_handleActivationRequest s request
  have hnew : s.answered s.requests = 0 := by
    have hle := hs.answered s.requests
    rw [upTo, if_neg (lt_irrefl _)] at hle
    omega
  have hanswered : ∀ r, s.answered r ≤ upTo (s.requests + 1) r :=
    fun r => le_trans (hs.answered r) (upTo_mono (Nat.le_succ _) r)
  cases hq : s.queue with
  | nil =>
    simp only [handleActivationRequest, hq, pollForActivation] at hplaces ⊢
    refine ⟨fun n => ?_, fun r => ?_, hanswered, fun r hr => ?_, fun p hp r hr => ?_⟩
    · rw [hplaces n]
      exact hs.places n
    · have hasks := hs.asks r
      simp only [asks, List.countP_append, List.countP_cons, List.countP_nil, beq_iff_eq,
        upTo_succ] at hasks ⊢
      omega
    · have hne : r ≠ s.requests := by
        intro heq
        simp only [heq] at hr
        omega
      have hoff : s.timers r = .off := hs.timers r (Nat.le_of_succ_le hr)
      exact (Function.update_of_ne hne _ _).trans hoff
    · obtain ⟨hzero, hoff⟩ := hs.direct p hp r hr
      have hasks := hs.asks r
      have hpos := countP_pos_of_direct hp hr
      have hne : r ≠ s.requests := by
        rintro rfl
        rw [upTo, if_neg (lt_irrefl _), asks] at hasks
        simp only at hpos
        omega
      exact ⟨hzero, (Function.update_of_ne hne _ _).trans hoff⟩
  | cons entry queue =>
    simp only [handleActivationRequest, hq, beginActivationDispatch] at hplaces ⊢
    refine ⟨fun n => ?_, fun r => ?_, hanswered, fun r hr => ?_, fun p hp r hr => ?_⟩
    · rw [hplaces n]
      exact hs.places n
    · have hasks := hs.asks r
      simp only [asks, List.countP_cons, ActivationDispatchRecipient.request, beq_iff_eq,
        upTo_succ] at hasks ⊢
      omega
    · exact hs.timers r (Nat.le_of_succ_le hr)
    · rcases List.mem_cons.mp hp with rfl | hp
      · obtain rfl := ActivationDispatchRecipient.direct.inj hr
        exact ⟨hnew, hs.timers _ le_rfl⟩
      · exact hs.direct p hp r hr

/-! ## Timeouts and deleted containers -/

theorem sound_pollTimeout {s : QueueState μ} (hs : Sound s) {promise : ℕ}
    (h : s.timers promise = .armed) :
    Sound { s with timers := Function.update s.timers promise .sent } := by
  have hkeep : ∀ r, s.timers r = .off → Function.update s.timers promise .sent r = .off := by
    intro r hr
    have hne : r ≠ promise := by
      rintro rfl
      rw [h] at hr
      exact absurd hr (by simp)
    rw [Function.update_of_ne hne, hr]
  refine ⟨hs.places, hs.asks, hs.answered, fun r hr => hkeep r (hs.timers r hr), ?_⟩
  intro p hp r hr
  obtain ⟨hzero, hoff⟩ := hs.direct p hp r hr
  exact ⟨hzero, hkeep r hoff⟩

/-- The message of a poll completes its promise, if that is open. -/
theorem completes_cancelPollMessage (s : QueueState μ) (promise : ℕ) :
    Completes (fun r => r = promise) s
      ({ s with timers := Function.update s.timers promise .off }.trySuccess promise
        .noActivationMessage) := by
  have hoff : Completes (fun r => r = promise) s
      { s with timers := Function.update s.timers promise .off } := by
    refine ⟨rfl, rfl, rfl, rfl, rfl, fun _ => .inl rfl, fun r hr => ?_⟩
    by_cases h : r = promise
    · subst h
      exact Function.update_self ..
    · exact (Function.update_of_ne h _ _).trans hr
  have htry : Completes (fun r => r = promise)
      { s with timers := Function.update s.timers promise .off }
      ({ s with timers := Function.update s.timers promise .off }.trySuccess promise
        .noActivationMessage) := by
    refine completes_trySuccess _ ?_ _
    rfl
  exact hoff.trans htry

theorem sound_cancelPollMessage {s : QueueState μ} (hs : Sound s) {promise : ℕ}
    (h : s.timers promise = .sent) :
    Sound ({ s with timers := Function.update s.timers promise .off }.trySuccess promise
      .noActivationMessage) := by
  refine hs.completes (completes_cancelPollMessage s promise) (fun n => ?_) ?_ ?_
  · rw [(completes_cancelPollMessage s promise).places (delivered_trySuccess _ rfl)]
    exact hs.places n
  · rintro r rfl
    by_contra hge
    rw [hs.timers r (not_lt.mp hge)] at h
    exact absurd h (by simp)
  · rintro p hp r hr rfl
    rw [(hs.direct p hp r hr).2] at h
    exact absurd h (by simp)

/-- Deleting a container completes the promises of its requests. -/
theorem completes_removeDeletedContainer (s : QueueState μ) (containerId : JString) :
    Completes (fun r => ∃ b ∈ s.requestBuffer, b.promise = r)
      { s with
        requestBuffer := s.requestBuffer.filter fun b => b.request.containerId != containerId }
      (s.removeDeletedContainerFromRequestBuffer containerId) := by
  refine completes_foldl_dropRequest (fun b hb => ?_) _
  exact ⟨b, (List.mem_filter.mp hb).1, rfl⟩

theorem sound_removeDeletedContainer {s : QueueState μ} (hs : Sound s) (containerId : JString) :
    Sound (s.removeDeletedContainerFromRequestBuffer containerId) := by
  have hasks : ∀ r, (∃ b ∈ s.requestBuffer, b.promise = r) →
      0 < s.requestBuffer.countP fun b => b.promise == r := by
    rintro r ⟨b, hb, rfl⟩
    exact List.countP_pos_iff.mpr ⟨b, hb, beq_self_eq_true _⟩
  have hfilter : Sound { s with
      requestBuffer := s.requestBuffer.filter fun b => b.request.containerId != containerId } := by
    refine ⟨hs.places, fun r => le_trans ?_ (hs.asks r), hs.answered, hs.timers, hs.direct⟩
    exact Nat.add_le_add_left List.filter_sublist.countP_le _
  refine hfilter.completes (completes_removeDeletedContainer s containerId) (fun n => ?_) ?_ ?_
  · rw [(completes_removeDeletedContainer s containerId).places (delivered_foldl_dropRequest _ _ n)]
    exact hs.places n
  · intro r hr
    have hle := hs.asks r
    have hpos := hasks r hr
    rw [asks, upTo] at hle
    split at hle
    · assumption
    · omega
  · intro p hp r hr hmem
    -- the request would ask in two places
    have hle := le_trans (hs.asks r) (upTo_le_one _ _)
    have hpos := hasks r hmem
    have hpending := countP_pos_of_direct hp hr
    rw [asks] at hle
    simp only at hpending
    omega

/-! ## Completed dispatches -/

/-- The recipient gets its response: a promise must be open. -/
def reaches (s : QueueState μ) : ActivationDispatchRecipient → Bool
  | .direct _ => true
  | .waiting promise => !s.isCompleted promise

/-- The dispatch that is found has the activation. -/
theorem dispatchOf_eq_some {s : QueueState μ} {arrival : ℕ} {p : PendingActivationDispatch μ}
    (h : s.dispatchOf arrival = some p) : p ∈ s.pending ∧ p.entry.arrival = arrival :=
  ⟨List.mem_of_find?_eq_some h, by simpa using List.find?_some h⟩

theorem dispatched_withoutDispatch (s : QueueState μ) (arrival n : ℕ) :
    (s.withoutDispatch arrival).dispatched n = if n = arrival then 0 else s.dispatched n := by
  simp only [dispatched, withoutDispatch, List.countP_filter]
  split
  · rename_i h
    subst h
    refine List.countP_eq_zero.mpr fun p _ => ?_
    simp
  · rename_i h
    refine List.countP_congr fun p _ => ?_
    simp only [bne_iff_ne, Bool.and_eq_true, beq_iff_eq]
    exact ⟨And.left, fun hp => ⟨hp, hp.symm ▸ h⟩⟩

/-- A dispatch that is found is the only place of its activation. -/
theorem Sound.places_of_dispatchOf {s : QueueState μ} (hs : Sound s) {arrival : ℕ}
    {p : PendingActivationDispatch μ} (h : s.dispatchOf arrival = some p) :
    arrival < s.accepted ∧ s.queued arrival = 0 ∧ s.dispatched arrival = 1 ∧
      s.delivered arrival = 0 := by
  obtain ⟨hp, harrival⟩ := dispatchOf_eq_some h
  have hpos : 0 < s.dispatched arrival :=
    List.countP_pos_iff.mpr ⟨p, hp, by rw [harrival]; exact beq_self_eq_true arrival⟩
  have hle := hs.places arrival
  rw [QueueState.places, upTo] at hle
  split at hle
  · omega
  · omega

theorem sound_withoutDispatch {s : QueueState μ} (hs : Sound s) (arrival : ℕ) :
    Sound (s.withoutDispatch arrival) := by
  refine ⟨fun n => ?_, fun r => ?_, hs.answered, hs.timers, fun p hp => ?_⟩
  · have hle := hs.places n
    have hwithout := dispatched_withoutDispatch s arrival n
    rw [places] at hle ⊢
    rw [hwithout]
    show s.queued n + _ + s.delivered n ≤ upTo s.accepted n
    split <;> omega
  · exact le_trans (Nat.add_le_add_right List.filter_sublist.countP_le _) (hs.asks r)
  · exact hs.direct p (List.mem_filter.mp hp).1

/-- Nobody else asks for the request of a dispatch. -/
theorem not_direct_of_dispatchOf {s : QueueState μ} (hs : Sound s) {arrival : ℕ}
    {p : PendingActivationDispatch μ} (h : s.dispatchOf arrival = some p) :
    p.recipient.request < s.requests ∧
      ∀ q ∈ (s.withoutDispatch arrival).pending, ∀ r, q.recipient = .direct r →
        ¬ r = p.recipient.request := by
  obtain ⟨hp, harrival⟩ := dispatchOf_eq_some h
  have hself : 0 < (s.pending.filter fun q => !(q.entry.arrival != arrival)).countP
      fun q => q.recipient.request == p.recipient.request := by
    refine List.countP_pos_iff.mpr ⟨p, List.mem_filter.mpr ⟨hp, ?_⟩, beq_self_eq_true _⟩
    simpa using harrival
  have hsum := List.countP_eq_countP_filter_add s.pending
    (fun q => q.recipient.request == p.recipient.request) fun q => q.entry.arrival != arrival
  have hasks := hs.asks p.recipient.request
  rw [asks, upTo] at hasks
  constructor
  · split at hasks
    · assumption
    · omega
  · rintro q hq r hr rfl
    have hother := countP_pos_of_direct hq hr
    have hle : s.pending.countP (fun q => q.recipient.request == p.recipient.request) ≤ 1 := by
      split at hasks <;> omega
    simp only [withoutDispatch] at hother
    omega

/-- **The recipient of a dispatch** gets its response, or has one. -/
theorem completes_completeDispatchRecipient {s : QueueState μ}
    {recipient : ActivationDispatchRecipient} (response : Response μ)
    (hdirect : ∀ r, recipient = .direct r → s.answered r = 0) :
    Completes (fun r => r = recipient.request) s
      (s.completeDispatchRecipient recipient response) := by
  cases recipient with
  | direct replyTo =>
    refine completes_respond ?_ (hdirect replyTo rfl) response
    rfl
  | waiting promise =>
    refine completes_trySuccess s ?_ response
    rfl

theorem delivered_completeDispatchRecipient (s : QueueState μ)
    (recipient : ActivationDispatchRecipient) (response : Response μ) (n : ℕ) :
    (s.completeDispatchRecipient recipient response).delivered n =
      s.delivered n +
        (if s.reaches recipient && delivers n (recipient.request, response) then 1 else 0) := by
  cases recipient with
  | direct replyTo =>
    simp only [completeDispatchRecipient, respond, delivered, List.countP_cons, reaches,
      Bool.true_and]
    rfl
  | waiting promise =>
    by_cases h : s.isCompleted promise = true
    · simp [completeDispatchRecipient, trySuccess, reaches, h]
    · simp only [completeDispatchRecipient, trySuccess, reaches, h, delivered, respond, cancelPoll,
        List.countP_cons, Bool.false_eq_true, if_false, Bool.not_false, Bool.true_and]
      rfl

/-- The queue does not matter to who is answered. -/
theorem direct_of_dispatchOf {s : QueueState μ} (hs : Sound s) {arrival : ℕ}
    {p : PendingActivationDispatch μ} (h : s.dispatchOf arrival = some p) (r : ℕ)
    (hr : p.recipient = .direct r) : s.answered r = 0 :=
  (hs.direct p (dispatchOf_eq_some h).1 r hr).1

/-- A dispatch that succeeds moves its activation to the recipient, or loses it. -/
theorem places_completed {s : QueueState μ} (hs : Sound s) {arrival : ℕ}
    {p : PendingActivationDispatch μ} (h : s.dispatchOf arrival = some p) (msg : μ) (n : ℕ) :
    ((s.withoutDispatch arrival).completeActivationDispatch p (.ok msg)).places n =
      if n = arrival then (if s.reaches p.recipient then 1 else 0) else s.places n := by
  obtain ⟨-, hqueued, hdispatched, hdelivered⟩ := hs.places_of_dispatchOf h
  have hcompletes := completes_completeDispatchRecipient (s := s.withoutDispatch arrival)
    (.activation p.entry.arrival msg) (direct_of_dispatchOf hs h)
  have hout := delivered_completeDispatchRecipient (s.withoutDispatch arrival) p.recipient
    (.activation p.entry.arrival msg) n
  have hwithout := dispatched_withoutDispatch s arrival n
  have hdelivers : delivers n (p.recipient.request, Response.activation p.entry.arrival msg) =
      decide (n = arrival) := by
    rw [(dispatchOf_eq_some h).2]
    exact decide_eq_decide.mpr eq_comm
  rw [hdelivers] at hout
  rw [completeActivationDispatch, hcompletes.places_eq, hwithout, hout]
  show s.queued n + _ + (s.delivered n + if (s.reaches p.recipient && _) = true then _ else _) = _
  by_cases hn : n = arrival
  · subst hn
    simp [hqueued, hdelivered]
  · simp [hn, places]

/-- A dispatch that fails moves its activation to the queue. -/
theorem places_failed {s : QueueState μ} (hs : Sound s) {arrival : ℕ}
    {p : PendingActivationDispatch μ} (h : s.dispatchOf arrival = some p) (message : JString)
    (n : ℕ) :
    ((s.withoutDispatch arrival).completeActivationDispatch p (.error message)).places n =
      s.places n := by
  obtain ⟨-, hqueued, hdispatched, hdelivered⟩ := hs.places_of_dispatchOf h
  have hcompletes := completes_completeDispatchRecipient
    (s := { s.withoutDispatch arrival with queue := p.entry :: s.queue })
    (.targetReencryptionError message) (direct_of_dispatchOf hs h)
  have hout := delivered_completeDispatchRecipient
    { s.withoutDispatch arrival with queue := p.entry :: s.queue } p.recipient
    (.targetReencryptionError message) n
  have hwithout := dispatched_withoutDispatch s arrival n
  have hcons : (p.entry :: s.queue).countP (fun e => e.arrival == n) =
      s.queued n + if arrival = n then 1 else 0 := by
    rw [List.countP_cons, (dispatchOf_eq_some h).2]
    simp only [beq_iff_eq]
    rfl
  have hplaces := hcompletes.places (n := n)
    (by rw [hout]; simp [delivers])
  refine hplaces.trans ?_
  show (p.entry :: s.queue).countP _ + (s.withoutDispatch arrival).dispatched n + s.delivered n = _
  rw [hcons, hwithout, places]
  by_cases hn : n = arrival
  · subst hn
    rw [if_pos rfl, if_pos rfl, hdispatched]
  · rw [if_neg hn, if_neg (Ne.symm hn), Nat.add_zero]

theorem sound_completeActivationDispatch {s : QueueState μ} (hs : Sound s) {arrival : ℕ}
    {p : PendingActivationDispatch μ} (h : s.dispatchOf arrival = some p)
    (result : Except JString μ) :
    Sound ((s.withoutDispatch arrival).completeActivationDispatch p result) := by
  obtain ⟨haccepted, -, -, -⟩ := hs.places_of_dispatchOf h
  obtain ⟨hbound, hdirect⟩ := not_direct_of_dispatchOf hs h
  have hwithout := sound_withoutDispatch hs arrival
  have hone : upTo s.accepted arrival = 1 := if_pos haccepted
  cases result with
  | ok msg =>
    refine hwithout.completes
      (completes_completeDispatchRecipient _ (direct_of_dispatchOf hs h)) (fun n => ?_) ?_ hdirect
    · rw [places_completed hs h msg n]
      show _ ≤ upTo s.accepted n
      split
      · rename_i hn
        subst hn
        rw [hone]
        split <;> omega
      · exact hs.places n
    · rintro r rfl
      exact hbound
  | error message =>
    have hqueue : Sound { s.withoutDispatch arrival with queue := p.entry :: s.queue } := by
      refine ⟨fun n => ?_, hwithout.asks, hwithout.answered, hwithout.timers, hwithout.direct⟩
      have hfailed := places_failed hs h message n
      have hcompletes := completes_completeDispatchRecipient
        (s := { s.withoutDispatch arrival with queue := p.entry :: s.queue })
        (.targetReencryptionError message) (direct_of_dispatchOf hs h)
      have hout := delivered_completeDispatchRecipient
        { s.withoutDispatch arrival with queue := p.entry :: s.queue } p.recipient
        (.targetReencryptionError message) n
      have hplaces := hcompletes.places (n := n) (by rw [hout]; simp [delivers])
      rw [← hplaces]
      exact hfailed.le.trans (hs.places n)
    refine hqueue.completes
      (completes_completeDispatchRecipient _ (direct_of_dispatchOf hs h)) (fun n => ?_) ?_ hdirect
    · exact (places_failed hs h message n).le.trans (hs.places n)
    · rintro r rfl
      exact hbound

/-! ## Runs -/

/-- **Step.**  No message breaks soundness. -/
theorem sound_queueStep {s : QueueState μ} (hs : Sound s) (event : QueueEvent μ) :
    Sound (queueStep s event).1 := by
  cases event with
  | activationMessage msg timestamp choice =>
    exact sound_handleActivationMessage hs msg timestamp choice
  | getActivation request => exact sound_handleActivationRequest hs request
  | pollTimeout promise =>
    cases ht : s.timers promise with
    | off => simpa only [queueStep, ht] using hs
    | sent => simpa only [queueStep, ht] using hs
    | armed =>
      simp only [queueStep, ht]
      exact sound_pollTimeout hs ht
  | cancelPoll promise =>
    cases ht : s.timers promise with
    | off => simpa only [queueStep, ht] using hs
    | armed => simpa only [queueStep, ht] using hs
    | sent =>
      simp only [queueStep, ht]
      exact sound_cancelPollMessage hs ht
  | containerDeleted containerId => exact sound_removeDeletedContainer hs containerId
  | dispatchCompleted arrival result =>
    cases hp : s.dispatchOf arrival with
    | none => simpa only [queueStep, hp] using hs
    | some p =>
      simp only [queueStep, hp]
      exact sound_completeActivationDispatch hs hp result

/-- **Run.** -/
theorem sound_of_reach {h : List (Record (QueueState μ) (QueueEvent μ) Unit)} {s : QueueState μ}
    (hr : Reach queueStep initial h s) : Sound s := by
  induction hr with
  | start => exact sound_initial
  | step prior event ih => exact sound_queueStep ih event

/-- A dispatch comes back with a message for a promise that was completed since the request was
taken from the buffer. -/
def strands (s : QueueState μ) : QueueEvent μ → Bool
  | .dispatchCompleted arrival (.ok _) => (s.dispatchOf arrival).any fun p => !s.reaches p.recipient
  | _ => false

/-- How many activations a message brings. -/
def accepts : QueueEvent μ → ℕ
  | .activationMessage .. => 1
  | _ => 0

theorem accepted_queueStep (s : QueueState μ) (event : QueueEvent μ) :
    (queueStep s event).1.accepted = s.accepted + accepts event := by
  cases event with
  | activationMessage msg timestamp choice =>
    rcases takeUncompletedRequest_cases { s with accepted := s.accepted + 1 } choice with
      ⟨-, htake⟩ | ⟨b, -, htake⟩
    · simp only [queueStep, handleActivationMessage, htake, accepts]
    · simp only [queueStep, handleActivationMessage, htake, accepts, beginActivationDispatch,
        cancelPoll]
  | getActivation request =>
    simp only [queueStep, handleActivationRequest]
    cases s.queue <;> rfl
  | pollTimeout promise =>
    simp only [queueStep]
    cases s.timers promise <;> rfl
  | cancelPoll promise =>
    cases ht : s.timers promise with
    | off => simp only [queueStep, ht, accepts, Nat.add_zero]
    | armed => simp only [queueStep, ht, accepts, Nat.add_zero]
    | sent =>
      simp only [queueStep, ht]
      exact (completes_cancelPollMessage s promise).accepted
  | containerDeleted containerId => exact (completes_removeDeletedContainer s containerId).accepted
  | dispatchCompleted arrival result =>
    cases hp : s.dispatchOf arrival with
    | none => simp only [queueStep, hp, accepts, Nat.add_zero]
    | some p =>
      have hrecipient : ∀ (s' : QueueState μ) response,
          (s'.completeDispatchRecipient p.recipient response).accepted = s'.accepted := by
        intro s' response
        cases p.recipient with
        | direct replyTo => rfl
        | waiting promise => exact (@completes_trySuccess μ (fun _ => True) s' promise trivial _).accepted
      simp only [queueStep, hp]
      cases result with
      | ok msg => exact hrecipient _ _
      | error message => exact hrecipient _ _

/-- **Step.**  A message that strands nothing keeps the places. -/
theorem places_queueStep {s : QueueState μ} (hs : Sound s) {event : QueueEvent μ}
    (h : s.strands event = false) (n : ℕ) :
    (queueStep s event).1.places n =
      s.places n + (if s.accepted = n then accepts event else 0) := by
  have hzero : ∀ m, m = m + if s.accepted = n then 0 else 0 := by
    intro m
    rw [ite_self, Nat.add_zero]
  cases event with
  | activationMessage msg timestamp choice =>
    exact places_handleActivationMessage s msg timestamp choice n
  | getActivation request => exact (places_handleActivationRequest s request n).trans (hzero _)
  | pollTimeout promise =>
    refine Eq.trans ?_ (hzero _)
    simp only [queueStep]
    cases s.timers promise <;> rfl
  | cancelPoll promise =>
    refine Eq.trans ?_ (hzero _)
    cases ht : s.timers promise with
    | off => simp only [queueStep, ht]
    | armed => simp only [queueStep, ht]
    | sent =>
      simp only [queueStep, ht]
      exact (completes_cancelPollMessage s promise).places (delivered_trySuccess _ rfl)
  | containerDeleted containerId =>
    refine Eq.trans ?_ (hzero _)
    exact (completes_removeDeletedContainer s containerId).places
      (delivered_foldl_dropRequest _ _ n)
  | dispatchCompleted arrival result =>
    refine Eq.trans ?_ (hzero _)
    cases hp : s.dispatchOf arrival with
    | none => simp only [queueStep, hp]
    | some p =>
      simp only [queueStep, hp]
      cases result with
      | error message => exact places_failed hs hp message n
      | ok msg =>
        have hreaches : s.reaches p.recipient = true := by simpa [strands, hp] using h
        rw [places_completed hs hp, hreaches]
        split
        · rename_i hn
          subst hn
          obtain ⟨-, hqueued, hdispatched, hdelivered⟩ := hs.places_of_dispatchOf hp
          simp [places, hqueued, hdispatched, hdelivered]
        · rfl

/-- **When activations are conserved**: exactly when no dispatch comes back with a message for a
promise that was completed while the dispatch was under way. -/
theorem conserved_iff_not_strands {h : List (Record (QueueState μ) (QueueEvent μ) Unit)}
    {s : QueueState μ} (hr : Reach queueStep initial h s) :
    Throughout queueStep initial (fun _ s => Conserved s) h ↔
      ∀ r ∈ h, strands r.pre r.input = false := by
  constructor
  · intro hall r hm
    obtain ⟨t, hpre, hpost, -⟩ := hall.at_record hr hm
    by_contra hstrands
    rw [Bool.not_eq_false] at hstrands
    have hs := sound_of_reach hpre
    obtain ⟨pre, event, output⟩ := r
    cases event with
    | dispatchCompleted arrival result =>
      cases result with
      | error message => exact absurd hstrands Bool.false_ne_true
      | ok msg =>
        cases hp : pre.dispatchOf arrival with
        | none => simp [strands, hp] at hstrands
        | some p =>
          -- the activation is in no place any more
          have hreaches : pre.reaches p.recipient = false := by simpa [strands, hp] using hstrands
          have hcompletes := completes_completeDispatchRecipient
            (s := pre.withoutDispatch arrival) (.activation p.entry.arrival msg)
            (direct_of_dispatchOf hs hp)
          have hplaces := places_completed hs hp msg arrival
          rw [if_pos rfl, hreaches, if_neg Bool.false_ne_true] at hplaces
          have honce := hpost.once arrival
          simp only [queueStep, hp] at honce
          rw [hplaces] at honce
          exact absurd (honce (hcompletes.accepted ▸ (hs.places_of_dispatchOf hp).1)) (by simp)
    | activationMessage msg timestamp choice => exact absurd hstrands Bool.false_ne_true
    | getActivation request => exact absurd hstrands Bool.false_ne_true
    | pollTimeout promise => exact absurd hstrands Bool.false_ne_true
    | cancelPoll promise => exact absurd hstrands Bool.false_ne_true
    | containerDeleted containerId => exact absurd hstrands Bool.false_ne_true
  · refine Throughout.of_records fun t s ht hc => ?_
    refine ⟨?_, fun r => le_trans ((sound_of_reach ht).answered r) (upTo_le_one _ _)⟩
    induction ht with
    | start => exact fun n hn => absurd hn (Nat.not_lt_zero n)
    | @step t s prior event ih =>
      have ih := ih fun r hr => hc r (List.mem_cons_of_mem _ hr)
      have hs := sound_of_reach prior
      intro n hn
      have hkeeps : s.strands event = false := hc _ List.mem_cons_self
      have hplaces := places_queueStep hs hkeeps n
      have hle := hs.places n
      rw [accepted_queueStep] at hn
      rw [hplaces]
      by_cases hlt : n < s.accepted
      · rw [if_neg (by omega), ih n hlt]
      · rw [upTo, if_neg hlt] at hle
        have hone : accepts event ≤ 1 := by cases event <;> simp [accepts]
        rw [if_pos (by omega)]
        omega

/-! ## A poll that times out late -/

/-- A request of the container `a` without a binding. -/
def sampleRequest : GetActivation := ⟨[97], false, none⟩

/-- A waiting request gets an activation after its timer fired and its message was handled; a
queued one comes back to the queue and is handed out again. -/
def answeredRun : List (QueueEvent Unit) :=
  [.getActivation sampleRequest, .pollTimeout 0, .cancelPoll 0, .activationMessage () 0 0,
    .getActivation sampleRequest, .dispatchCompleted 0 (.error []), .getActivation sampleRequest,
    .getActivation sampleRequest, .activationMessage () 1 0, .dispatchCompleted 1 (.ok ()),
    .dispatchCompleted 0 (.ok ())]

theorem answeredRun_conserved :
    Throughout queueStep initial (fun _ s => Conserved s)
      (runOn queueStep [] initial answeredRun).1 :=
  (conserved_iff_not_strands (reach_runOn _ _ Reach.start)).mpr (by decide +kernel)

/-- The timer of a waiting request fires, the request is taken for an activation, and `CancelPoll`
is handled before the dispatch comes back. -/
def lateTimeoutRun : List (QueueEvent Unit) :=
  [.getActivation sampleRequest, .pollTimeout 0, .activationMessage () 0 0, .cancelPoll 0,
    .dispatchCompleted 0 (.ok ())]

/-- The activation is in no place: its message went to a promise that was completed. -/
theorem lateTimeoutRun_not_conserved :
    (runOn queueStep [] initial lateTimeoutRun).2.places 0 = 0 ∧
      ¬ Throughout queueStep initial (fun _ s => Conserved s)
        (runOn queueStep [] initial lateTimeoutRun).1 := by
  have hlost : (runOn queueStep [] initial lateTimeoutRun).2.places 0 = 0 := by decide +kernel
  refine ⟨hlost, fun hall => ?_⟩
  have hend := hall _ _ List.suffix_rfl (reach_runOn queueStep lateTimeoutRun Reach.start)
  have hone := hend.once 0 (by decide +kernel)
  rw [hlost] at hone
  exact absurd hone (by decide)

end QueueState

end MemoryQueue
end OpenWhisk
end AsynCS
