import AsynCS.Lib.Proc

/-!
# Two runs that an observer cannot tell apart

An observer sees some of the events that a procedure logs.  Two procedures are coupled when, from
states that are related, they log the same as far as the observer sees, and both end, or both stop,
in states that are related again.  The values and the states may differ otherwise, so secrets may
pass through both runs, with the two procedures instantiated at the two secrets.

* `seen view log`: what the observer sees of a log.
* `EndsAlike`, `Coupled`: the definition, with the relation of the states in front, of the results,
  and of the states in which both have stopped.
* `Coupled.bind` and its companions: the rules follow the text of the two procedures.
* `Steady R p`: one procedure that, coupled with itself, gives one value and stays within `R`.
* `Parts`, `PartFrom`: two runs that part: after a common beginning the observer sees two different
  events.  `PartFrom.bind` and `Coupled.bind_part` put other procedures behind them and in front.
* `traceOn_eq_iff`: from the steps of a machine to its runs.
-/

namespace AsynCS
namespace Proc

variable {ε σ α β γ δ : Type} {view : ε → Bool}

/-- What an observer sees of a log. -/
def seen (view : ε → Bool) (log : List ε) : List ε := log.filter view

theorem seen_append (l l' : List ε) : seen view (l ++ l') = seen view l ++ seen view l' :=
  List.filter_append l l'

/-- Both runs end with results in `post`, or both stop in states in `stopped`. -/
inductive EndsAlike (post : α → β → σ → σ → Prop) (stopped : σ → σ → Prop) (o : Outcome ε σ α)
    (o' : Outcome ε σ β) : Prop where
  | finished {a : α} {b : β} (hvalue : o.value = some a) (hvalue' : o'.value = some b)
      (hpost : post a b o.state o'.state)
  | stopped (hvalue : o.value = none) (hvalue' : o'.value = none)
      (hstopped : stopped o.state o'.state)

/-- From states in `pre`, the observer sees the same of `p` and of `q`, and they end alike. -/
structure Coupled (view : ε → Bool) (pre : σ → σ → Prop) (p : Proc ε σ α) (q : Proc ε σ β)
    (post : α → β → σ → σ → Prop) (stopped : σ → σ → Prop) : Prop where
  log : ∀ {s t : σ}, pre s t → seen view (p s).log = seen view (q t).log
  ends : ∀ {s t : σ}, pre s t → EndsAlike post stopped (p s) (q t)

namespace Coupled

variable {pre : σ → σ → Prop} {stopped : σ → σ → Prop} {post : α → β → σ → σ → Prop}

theorem pure {a : α} {b : β} (h : ∀ {s t}, pre s t → post a b s t) :
    Coupled view pre (pure a) (pure b) post stopped :=
  ⟨fun _ => rfl, fun hpre => .finished rfl rfl (h hpre)⟩

theorem stop (h : ∀ {s t}, pre s t → stopped s t) :
    Coupled view pre stop stop post stopped :=
  ⟨fun _ => rfl, fun hpre => .stopped rfl rfl (h hpre)⟩

/-- Both log one event. -/
theorem emit (e : ε) :
    Coupled view pre (emit e) (emit e) (fun _ _ s t => pre s t) stopped :=
  ⟨fun _ => rfl, fun hpre => .finished rfl rfl hpre⟩

/-- Both log what the observer does not see. -/
theorem emit_hidden {e e' : ε} (he : view e = false) (he' : view e' = false) :
    Coupled view pre (Proc.emit e : Proc ε σ Unit) (Proc.emit e' : Proc ε σ Unit)
      (fun _ _ s t => pre s t) stopped := by
  have hnone : ∀ {x : ε} {s : σ}, view x = false →
      seen view (Proc.emit x s : Outcome ε σ Unit).log = [] := fun hx =>
    List.filter_eq_nil_iff.mpr fun y hy => by
      rw [List.mem_singleton.mp hy, hx]
      exact Bool.false_ne_true
  exact ⟨fun _ => (hnone he).trans (hnone he').symm, fun hpre => .finished rfl rfl hpre⟩

theorem modify {f f' : σ → σ} {after : σ → σ → Prop}
    (h : ∀ {s t}, pre s t → after (f s) (f' t)) :
    Coupled view pre (modify f : Proc ε σ Unit) (modify f' : Proc ε σ Unit)
      (fun _ _ s t => after s t) stopped :=
  ⟨fun _ => rfl, fun hpre => .finished rfl rfl (h hpre)⟩

theorem bind {p : Proc ε σ γ} {q : Proc ε σ δ} {mid : γ → δ → σ → σ → Prop} {f : γ → Proc ε σ α}
    {g : δ → Proc ε σ β} (hp : Coupled view pre p q mid stopped)
    (hf : ∀ a b, Coupled view (mid a b) (f a) (g b) post stopped) :
    Coupled view pre (p >>= f) (q >>= g) post stopped := by
  refine ⟨fun {s t} hpre => ?_, fun {s t} hpre => ?_⟩
  · cases hp.ends hpre with
    | finished hs ht hmid =>
      rw [bind_of_some hs, bind_of_some ht]
      show seen view (_ ++ _) = seen view (_ ++ _)
      rw [seen_append, seen_append, hp.log hpre, (hf _ _).log hmid]
    | stopped hs ht _ =>
      rw [bind_of_none hs, bind_of_none ht]
      exact hp.log hpre
  · cases hp.ends hpre with
    | finished hs ht hmid =>
      rw [bind_of_some hs, bind_of_some ht]
      cases (hf _ _).ends hmid with
      | finished ha hb hpost => exact .finished ha hb hpost
      | stopped ha hb hstop => exact .stopped ha hb hstop
    | stopped hs ht hstop =>
      rw [bind_of_none hs, bind_of_none ht]
      exact .stopped rfl rfl hstop

/-- What is read of the two states may differ, as long as the rest is coupled. -/
theorem get_bind {f : σ → Proc ε σ α} {g : σ → Proc ε σ β}
    (h : ∀ {s t}, pre s t → Coupled view pre (f s) (g t) post stopped) :
    Coupled view pre (get >>= f) (get >>= g) post stopped :=
  ⟨fun hpre => (h hpre).log hpre, fun hpre => (h hpre).ends hpre⟩

/-- **The rule of consequence.** -/
theorem mono {p : Proc ε σ α} {q : Proc ε σ β} {pre' : σ → σ → Prop}
    {post' : α → β → σ → σ → Prop} {stopped' : σ → σ → Prop}
    (h : Coupled view pre' p q post' stopped') (hpre : ∀ {s t}, pre s t → pre' s t)
    (hpost : ∀ {a b s t}, post' a b s t → post a b s t)
    (hstop : ∀ {s t}, stopped' s t → stopped s t) :
    Coupled view pre p q post stopped := by
  refine ⟨fun h' => h.log (hpre h'), fun h' => ?_⟩
  cases h.ends (hpre h') with
  | finished hs ht hp => exact .finished hs ht (hpost hp)
  | stopped hs ht hs' => exact .stopped hs ht (hstop hs')

/-- A fact that does not depend on the states may be assumed. -/
theorem of_fact {p : Proc ε σ α} {q : Proc ε σ β} {c : Prop}
    (hc : ∀ {s t}, pre s t → c) (h : c → Coupled view pre p q post stopped) :
    Coupled view pre p q post stopped :=
  ⟨fun hpre => (h (hc hpre)).log hpre, fun hpre => (h (hc hpre)).ends hpre⟩

/-- Both go on, or both stop after what is to be done on failure. -/
theorem orStop {o : Option α} {o' : Option β} {onFail onFail' : Proc ε σ Unit}
    (hsame : o.isSome = o'.isSome)
    (hsome : ∀ a b, o = some a → o' = some b → ∀ {s t}, pre s t → post a b s t)
    (hfail : Coupled view pre onFail onFail' (fun _ _ => stopped) stopped) :
    Coupled view pre (orStop o onFail) (orStop o' onFail') post stopped := by
  cases o with
  | some a =>
    cases o' with
    | some b => exact pure (hsome a b rfl rfl)
    | none => exact absurd hsame (by simp)
  | none =>
    cases o' with
    | some b => exact absurd hsame (by simp)
    | none => exact hfail.bind fun _ _ => stop fun h => h

theorem attempt {p : Proc ε σ α} {q : Proc ε σ β}
    {post : Option α → Option β → σ → σ → Prop}
    (h : Coupled view pre p q (fun a b => post (some a) (some b)) (post none none)) :
    Coupled view pre (attempt p) (attempt q) post stopped := by
  refine ⟨fun hpre => h.log hpre, fun {s t} hpre => ?_⟩
  cases h.ends hpre with
  | finished hs ht hp => exact .finished (congrArg some hs) (congrArg some ht) hp
  | stopped hs ht hp => exact .finished (congrArg some hs) (congrArg some ht) hp

theorem withCleanup {p : Proc ε σ α} {q : Proc ε σ β} {c c' : σ → σ}
    (h : Coupled view pre p q (fun a b s t => post a b (c s) (c' t))
      fun s t => stopped (c s) (c' t)) :
    Coupled view pre (withCleanup p c) (withCleanup q c') post stopped := by
  refine ⟨fun hpre => h.log hpre, fun {s t} hpre => ?_⟩
  cases h.ends hpre with
  | finished hs ht hp => exact .finished hs ht hp
  | stopped hs ht hp => exact .stopped hs ht hp

end Coupled

/-! ## One procedure -/

/-- Two runs of `p` from states in `R` look the same, give the same value, and stay in `R`. -/
def Steady (view : ε → Bool) (R : σ → σ → Prop) (p : Proc ε σ α) : Prop :=
  Coupled view R p p (fun a b s t => a = b ∧ R s t) R

namespace Steady

variable {R : σ → σ → Prop}

theorem pure (a : α) : Steady view R (pure a : Proc ε σ α) := Coupled.pure fun h => ⟨rfl, h⟩

theorem stop : Steady view R (stop : Proc ε σ α) := Coupled.stop fun h => h

theorem emit (e : ε) : Steady view R (emit e : Proc ε σ Unit) :=
  (Coupled.emit e).mono (fun h => h) (fun h => ⟨rfl, h⟩) fun h => h

theorem modify {f : σ → σ} (hf : ∀ {s t}, R s t → R (f s) (f t)) :
    Steady view R (modify f : Proc ε σ Unit) :=
  ⟨fun _ => rfl, fun h => .finished rfl rfl ⟨rfl, hf h⟩⟩

/-- **In front of two runs** that are coupled for the values it can give, and that may stop
elsewhere. -/
theorem bind_of_value {p : Proc ε σ γ} {f : γ → Proc ε σ α} {g : γ → Proc ε σ β}
    {post : α → β → σ → σ → Prop} {stopped : σ → σ → Prop} {C : γ → Prop} (hp : Steady view R p)
    (hC : ∀ s a, (p s).value = some a → C a) (hstop : ∀ {s t}, R s t → stopped s t)
    (hf : ∀ a, C a → Coupled view R (f a) (g a) post stopped) :
    Coupled view R (p >>= f) (p >>= g) post stopped := by
  have hvalue : Coupled view R p p (fun a b s t => (b = a ∧ C a) ∧ R s t) stopped := by
    refine ⟨fun h => hp.log h, fun {s t} h => ?_⟩
    cases hp.ends h with
    | finished hs ht hpost => exact .finished hs ht ⟨⟨hpost.1.symm, hC s _ hs⟩, hpost.2⟩
    | stopped hs ht hR => exact .stopped hs ht (hstop hR)
  refine hvalue.bind fun a b => Coupled.of_fact And.left fun hfact => ?_
  rw [hfact.1]
  exact (hf a hfact.2).mono And.right (fun h => h) fun h => h

/-- In front of two runs that are coupled. -/
theorem bind_coupled {p : Proc ε σ γ} {f : γ → Proc ε σ α} {g : γ → Proc ε σ β}
    {post : α → β → σ → σ → Prop} (hp : Steady view R p)
    (hf : ∀ a, Coupled view R (f a) (g a) post R) : Coupled view R (p >>= f) (p >>= g) post R :=
  hp.bind_of_value (C := fun _ => True) (fun _ _ _ => trivial) (fun h => h) fun a _ => hf a

theorem bind {p : Proc ε σ α} {f : α → Proc ε σ β} (hp : Steady view R p)
    (hf : ∀ a, Steady view R (f a)) : Steady view R (p >>= f) :=
  hp.bind_coupled hf

theorem require {c : Bool} {onFail : Proc ε σ Unit} (h : Steady view R onFail) :
    Steady view R (require c onFail) := by
  cases c with
  | true => exact pure ()
  | false => exact h.bind fun _ => stop

theorem orStop {o : Option α} {onFail : Proc ε σ Unit} (h : Steady view R onFail) :
    Steady view R (orStop o onFail) := by
  cases o with
  | some a => exact pure a
  | none => exact h.bind fun _ => stop

/-- Behind a test that holds. -/
theorem require_bind {c : Bool} {onFail : Proc ε σ Unit} {f : Unit → Proc ε σ α}
    {g : Unit → Proc ε σ β} {post : α → β → σ → σ → Prop} {stopped : σ → σ → Prop}
    (h : Steady view R onFail) (hstop : ∀ {s t}, R s t → stopped s t)
    (hf : c = true → Coupled view R (f ()) (g ()) post stopped) :
    Coupled view R (Proc.require c onFail >>= f) (Proc.require c onFail >>= g) post stopped := by
  refine (require h).bind_of_value (C := fun _ => c = true) (fun s a hvalue => ?_) hstop
    fun _ hc => hf hc
  rw [value_require] at hvalue
  exact (Option.ite_none_right_eq_some.mp hvalue).1

/-- Behind a value that is there. -/
theorem orStop_bind {o : Option γ} {onFail : Proc ε σ Unit} {f : γ → Proc ε σ α}
    {g : γ → Proc ε σ β} {post : α → β → σ → σ → Prop} {stopped : σ → σ → Prop}
    (h : Steady view R onFail) (hstop : ∀ {s t}, R s t → stopped s t)
    (hf : ∀ a, o = some a → Coupled view R (f a) (g a) post stopped) :
    Coupled view R (Proc.orStop o onFail >>= f) (Proc.orStop o onFail >>= g) post stopped :=
  (orStop h).bind_of_value (C := fun a => o = some a)
    (fun _ _ hvalue => (value_orStop _ _ _).symm.trans hvalue) hstop hf

theorem onlyIf {c : Bool} {p : Proc ε σ Unit} (hp : Steady view R p) :
    Steady view R (onlyIf c p) := by
  cases c with
  | true => exact hp
  | false => exact pure ()

theorem ite {c : Prop} [Decidable c] {p q : Proc ε σ α} (hp : Steady view R p)
    (hq : Steady view R q) : Steady view R (if c then p else q) := by
  split
  · exact hp
  · exact hq

theorem attempt {p : Proc ε σ α} (hp : Steady view R p) : Steady view R (attempt p) :=
  Coupled.attempt (hp.mono (fun h => h) (fun h => ⟨congrArg some h.1, h.2⟩) fun h => ⟨rfl, h⟩)

/-- Behind any procedure that does nothing but log and stop. -/
theorem forM {xs : List γ} {f : γ → Proc ε σ PUnit} (hf : ∀ x, Steady view R (f x)) :
    Steady view R (xs.forM f) := by
  induction xs with
  | nil => exact pure _
  | cons x xs ih => exact (hf x).bind fun _ => ih

end Steady

/-! ## Runs that part -/

/-- After a common beginning, the observer sees two different events of the two runs. -/
def Parts (view : ε → Bool) (o : Outcome ε σ α) (o' : Outcome ε σ β) : Prop :=
  ∃ begin x y rest rest', x ≠ y ∧ seen view o.log = begin ++ x :: rest ∧
    seen view o'.log = begin ++ y :: rest'

/-- The observer can tell them apart. -/
theorem Parts.seen_ne {o : Outcome ε σ α} {o' : Outcome ε σ β} (h : Parts view o o') :
    seen view o.log ≠ seen view o'.log := by
  obtain ⟨begin, x, y, rest, rest', hne, hlog, hlog'⟩ := h
  rw [hlog, hlog']
  intro heq
  exact hne (List.cons.inj (List.append_cancel_left heq)).1

/-- The runs of `p` and of `q` part, from all states in `pre`. -/
def PartFrom (view : ε → Bool) (pre : σ → σ → Prop) (p : Proc ε σ α) (q : Proc ε σ β) : Prop :=
  ∀ s t : σ, pre s t → Parts view (p s) (q t)

namespace PartFrom

variable {pre : σ → σ → Prop}

/-- Two different events that the observer sees. -/
theorem emit {e e' : ε} (hne : e ≠ e') (he : view e = true) (he' : view e' = true) :
    PartFrom view pre (emit e : Proc ε σ Unit) (Proc.emit e' : Proc ε σ Unit) := fun _ _ _ =>
  ⟨[], e, e', [], [], hne, List.filter_cons_of_pos he, List.filter_cons_of_pos he'⟩

/-- The log of a procedure starts with the log of its first part. -/
theorem exists_log_bind (p : Proc ε σ α) (f : α → Proc ε σ γ) (s : σ) :
    ∃ rest, ((p >>= f) s).log = (p s).log ++ rest := by
  cases h : (p s).value with
  | some a => exact ⟨_, congrArg Outcome.log (bind_of_some h)⟩
  | none => exact ⟨[], by rw [bind_of_none h, List.append_nil]⟩

/-- **Runs that part stay apart**, whatever comes behind. -/
theorem bind {p : Proc ε σ α} {q : Proc ε σ β} {f : α → Proc ε σ γ} {g : β → Proc ε σ δ}
    (h : PartFrom view pre p q) : PartFrom view pre (p >>= f) (q >>= g) := by
  intro s t hpre
  obtain ⟨begin, x, y, rest, rest', hne, hlog, hlog'⟩ := h s t hpre
  obtain ⟨more, hmore⟩ := exists_log_bind p f s
  obtain ⟨more', hmore'⟩ := exists_log_bind q g t
  refine ⟨begin, x, y, rest ++ seen view more, rest' ++ seen view more', hne, ?_, ?_⟩
  · rw [hmore, seen_append, hlog, List.append_assoc, List.cons_append]
  · rw [hmore', seen_append, hlog', List.append_assoc, List.cons_append]

/-- What is read of the two states may differ. -/
theorem get_bind {f : σ → Proc ε σ α} {g : σ → Proc ε σ β}
    (h : ∀ {s t}, pre s t → PartFrom view pre (f s) (g t)) :
    PartFrom view pre (get >>= f) (get >>= g) := fun s t hpre => h hpre s t hpre

theorem withCleanup {p : Proc ε σ α} {q : Proc ε σ β} {c c' : σ → σ}
    (h : PartFrom view pre p q) :
    PartFrom view pre (withCleanup p c) (withCleanup q c') := h

theorem mono {p : Proc ε σ α} {q : Proc ε σ β} {pre' : σ → σ → Prop}
    (h : PartFrom view pre' p q) (hpre : ∀ {s t}, pre s t → pre' s t) :
    PartFrom view pre p q := fun s t h' => h s t (hpre h')

end PartFrom

/-- **Behind two runs that are coupled** and come to their end, what parts does so behind a common
beginning. -/
theorem Coupled.bind_part {pre : σ → σ → Prop} {mid : γ → δ → σ → σ → Prop}
    {stopped : σ → σ → Prop} {p : Proc ε σ γ} {q : Proc ε σ δ} {f : γ → Proc ε σ α}
    {g : δ → Proc ε σ β} (hp : Coupled view pre p q mid stopped)
    (hends : ∀ {s t}, pre s t → (p s).value ≠ none)
    (h : ∀ a b, PartFrom view (mid a b) (f a) (g b)) :
    PartFrom view pre (p >>= f) (q >>= g) := by
  intro s t hpre
  cases hp.ends hpre with
  | stopped hs _ _ => exact absurd hs (hends hpre)
  | finished ha hb hmid =>
    obtain ⟨begin, x, y, rest, rest', hne, hlog, hlog'⟩ := h _ _ _ _ hmid
    refine ⟨seen view (p s).log ++ begin, x, y, rest, rest', hne, ?_, ?_⟩
    · rw [bind_of_some ha]
      show seen view (_ ++ _) = _
      rw [seen_append, hlog, List.append_assoc]
    · rw [bind_of_some hb]
      show seen view (_ ++ _) = _
      rw [seen_append, hlog', hp.log hpre, List.append_assoc]

/-- **Behind one procedure** that gives this value. -/
theorem Steady.bind_part {R : σ → σ → Prop} {p : Proc ε σ γ} {f : γ → Proc ε σ α}
    {g : γ → Proc ε σ β} (hp : Steady view R p) {a : γ}
    (hvalue : ∀ {s t}, R s t → (p s).value = some a) (h : PartFrom view R (f a) (g a)) :
    PartFrom view R (p >>= f) (p >>= g) := by
  have hp' : Coupled view R p p (fun b b' s t => (b = a ∧ b' = a) ∧ R s t) R := by
    refine ⟨fun hR => hp.log hR, fun {s t} hR => ?_⟩
    cases hp.ends hR with
    | stopped hs _ _ => exact absurd hs (by rw [hvalue hR]; simp)
    | finished hs ht hpost =>
      have hb := Option.some.inj (hs.symm.trans (hvalue hR))
      exact .finished hs ht ⟨⟨hb, hpost.1.symm.trans hb⟩, hpost.2⟩
  refine hp'.bind_part (fun hR => by rw [hvalue hR]; simp) fun b b' => ?_
  intro s t hmid
  rw [hmid.1.1, hmid.1.2]
  exact h _ _ hmid.2

end Proc

/-! ## Runs of a machine -/

section Runs

variable {σ ι ο α β δ : Type*}

/-- What is read off the steps of a run on a list of inputs. -/
def traceOn (step : σ → ι → σ × ο) (f : σ → ι → α) : σ → List ι → List α
  | _, [] => []
  | s, i :: is => f s i :: traceOn step f (step s i).1 is

/-- **Two runs that decide the same.**  When the decisions of one step keep two states related, and
the views of the step agree exactly if something else does, then so it is for whole runs. -/
theorem traceOn_eq_iff {step : σ → ι → σ × ο} {R : σ → σ → Prop} {decided : σ → ι → δ}
    {view : σ → ι → α} {shown : σ → ι → β}
    (hstep : ∀ s s' i, R s s' → decided s i = decided s' i →
      R (step s i).1 (step s' i).1 ∧ (view s i = view s' i ↔ shown s i = shown s' i))
    {s s' : σ} {is : List ι} (hR : R s s')
    (hdecided : traceOn step decided s is = traceOn step decided s' is) :
    traceOn step view s is = traceOn step view s' is ↔
      traceOn step shown s is = traceOn step shown s' is := by
  induction is generalizing s s' with
  | nil => exact iff_of_true rfl rfl
  | cons i is ih =>
    obtain ⟨hhead, htail⟩ := List.cons.inj hdecided
    obtain ⟨hnext, hviews⟩ := hstep s s' i hR hhead
    rw [traceOn, traceOn, traceOn, traceOn, List.cons.injEq, List.cons.injEq, hviews,
      ih hnext htail]

end Runs

end AsynCS
