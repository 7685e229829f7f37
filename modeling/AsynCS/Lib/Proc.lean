import Mathlib

/-!
# Procedures that log, change a state, and may stop early

A C procedure prints, reads and writes globals, and can leave through an early `return` or a
`goto cleanup`.  `Proc ε σ α` is such a procedure: run on a state it leaves a log of events, a
state, and a value, or no value when it stopped before its end.  Whatever it had logged and
written by then stays.

* `stop`, `emit`, `get`, `modify`, `require`, `orStop`, `onlyIf`, `attempt`, `withCleanup`: the
  building blocks; `withCleanup p c` is a body with a `cleanup:` label at its end, and
  `attempt p` is a call of a function whose failure the caller looks at.
* `Gives p s a s'`: from `s`, the procedure runs to its end with value `a` in state `s'`.
  `gives_bind` and its companions turn a procedure into the conjunction of what it tests.
* `Emits p s e`: from `s`, the procedure logs `e`, whether it stops or not; `emits_bind`.
* `Frame R A p`: every run of `p` moves the state within `R` and logs only events in `A`;
  `Keeps f` is the `R` of a procedure that leaves `f` of the state as it is.
  For a reflexive and transitive `R` the building blocks keep a frame (`Frame.bind` and its
  companions), so a frame of a long procedure is read off its text.
* `Leaves T p`: every run of `p` relates the state before, the log and the state after by `T`.
  It composes along a relation that does (`Composes T`), which may ask that what the state
  says now was logged on the way.
-/

namespace AsynCS

/-- What a procedure leaves: its log, the state, and its value unless it stopped early. -/
structure Outcome (ε σ α : Type) where
  log : List ε
  state : σ
  value : Option α

/-- A procedure with events `ε`, states `σ` and values `α`. -/
def Proc (ε σ α : Type) := σ → Outcome ε σ α

namespace Proc

variable {ε σ α β : Type}

/-- Do nothing and return a value. -/
protected def pure (a : α) : Proc ε σ α := fun s => ⟨[], s, some a⟩

/-- Run one procedure, then another on its value and its state; the second does not run when
the first stopped. -/
protected def bind (p : Proc ε σ α) (f : α → Proc ε σ β) : Proc ε σ β := fun s =>
  let o := p s
  match o.value with
  | some a =>
    let o' := f a o.state
    ⟨o.log ++ o'.log, o'.state, o'.value⟩
  | none => ⟨o.log, o.state, none⟩

instance : Monad (Proc ε σ) where
  pure := Proc.pure
  bind := Proc.bind

/-- Leave the procedure. -/
def stop : Proc ε σ α := fun s => ⟨[], s, none⟩

/-- Log one event. -/
def emit (e : ε) : Proc ε σ Unit := fun s => ⟨[e], s, some ()⟩

/-- Read the state. -/
def get : Proc ε σ σ := fun s => ⟨[], s, some s⟩

/-- Change the state. -/
def modify (f : σ → σ) : Proc ε σ Unit := fun s => ⟨[], f s, some ()⟩

/-- Leave the procedure unless the test holds, after what is to be done on failure. -/
def require (c : Bool) (onFail : Proc ε σ Unit) : Proc ε σ Unit :=
  if c then Proc.pure () else onFail.bind fun _ => stop

/-- Continue with the value, or leave the procedure after what is to be done on failure. -/
def orStop (o : Option α) (onFail : Proc ε σ Unit) : Proc ε σ α :=
  match o with
  | some a => Proc.pure a
  | none => onFail.bind fun _ => stop

/-- Run a procedure when the test holds. -/
def onlyIf (c : Bool) (p : Proc ε σ Unit) : Proc ε σ Unit := if c then p else Proc.pure ()

/-- Run the body and then the cleanup, wherever the body stopped. -/
def withCleanup (p : Proc ε σ α) (cleanup : σ → σ) : Proc ε σ α := fun s =>
  let o := p s
  ⟨o.log, cleanup o.state, o.value⟩

/-- Run a procedure, and continue with its value or with `none` when it stopped. -/
def attempt (p : Proc ε σ α) : Proc ε σ (Option α) := fun s =>
  let o := p s
  ⟨o.log, o.state, some o.value⟩

/-! ## State and value -/

section Equations

variable {s : σ} {a : α}

theorem bind_of_some {p : Proc ε σ α} {f : α → Proc ε σ β} (h : (p s).value = some a) :
    (p >>= f) s = ⟨(p s).log ++ (f a (p s).state).log, (f a (p s).state).state,
      (f a (p s).state).value⟩ := by
  show Proc.bind p f s = _
  simp only [Proc.bind, h]

theorem bind_of_none {p : Proc ε σ α} {f : α → Proc ε σ β} (h : (p s).value = none) :
    (p >>= f) s = ⟨(p s).log, (p s).state, none⟩ := by
  show Proc.bind p f s = _
  simp only [Proc.bind, h]

theorem state_bind (p : Proc ε σ α) (f : α → Proc ε σ β) (s : σ) :
    ((p >>= f) s).state =
      match (p s).value with
      | some a => (f a (p s).state).state
      | none => (p s).state := by
  cases h : (p s).value with
  | some a => rw [bind_of_some h]
  | none => rw [bind_of_none h]

theorem value_bind (p : Proc ε σ α) (f : α → Proc ε σ β) (s : σ) :
    ((p >>= f) s).value = (p s).value.bind fun a => (f a (p s).state).value := by
  cases h : (p s).value with
  | some a => rw [bind_of_some h, Option.bind_some]
  | none => rw [bind_of_none h, Option.bind_none]

@[simp] theorem state_emit (e : ε) (s : σ) : (emit e s : Outcome ε σ Unit).state = s := rfl
@[simp] theorem value_emit (e : ε) (s : σ) : (emit e s).value = some () := rfl
@[simp] theorem state_modify (f : σ → σ) (s : σ) :
    (modify f s : Outcome ε σ Unit).state = f s := rfl
@[simp] theorem value_modify (f : σ → σ) (s : σ) :
    (modify f s : Outcome ε σ Unit).value = some () := rfl
@[simp] theorem state_pure (a : α) (s : σ) : ((pure a : Proc ε σ α) s).state = s := rfl
@[simp] theorem value_pure (a : α) (s : σ) : ((pure a : Proc ε σ α) s).value = some a := rfl

@[simp] theorem state_get (s : σ) : (get s : Outcome ε σ σ).state = s := rfl
@[simp] theorem value_get (s : σ) : (get s : Outcome ε σ σ).value = some s := rfl

@[simp] theorem state_stop (s : σ) : ((stop : Proc ε σ α) s).state = s := rfl
@[simp] theorem value_stop (s : σ) : ((stop : Proc ε σ α) s).value = none := rfl

@[simp] theorem onlyIf_true (p : Proc ε σ Unit) : onlyIf true p = p := rfl
@[simp] theorem onlyIf_false (p : Proc ε σ Unit) : onlyIf false p = pure () := rfl

@[simp] theorem state_attempt (p : Proc ε σ α) (s : σ) : (attempt p s).state = (p s).state := rfl
@[simp] theorem value_attempt (p : Proc ε σ α) (s : σ) :
    (attempt p s).value = some (p s).value := rfl

@[simp] theorem state_withCleanup (p : Proc ε σ α) (cleanup : σ → σ) (s : σ) :
    (withCleanup p cleanup s).state = cleanup (p s).state := rfl

@[simp] theorem value_orStop (o : Option α) (onFail : Proc ε σ Unit) (s : σ) :
    (orStop o onFail s).value = o := by
  cases o with
  | some a => rfl
  | none =>
    show ((onFail >>= fun _ => stop) s : Outcome ε σ α).value = none
    rw [value_bind]
    cases (onFail s).value <;> rfl

@[simp] theorem value_require (c : Bool) (onFail : Proc ε σ Unit) (s : σ) :
    (require c onFail s).value = if c then some () else none := by
  cases c with
  | true => rfl
  | false =>
    show ((onFail >>= fun _ => stop) s : Outcome ε σ Unit).value = none
    rw [value_bind]
    cases (onFail s).value <;> rfl

@[simp] theorem state_require_true (onFail : Proc ε σ Unit) (s : σ) :
    (require true onFail s).state = s := rfl

@[simp] theorem state_require_false (onFail : Proc ε σ Unit) (s : σ) :
    (require false onFail s).state = (onFail s).state := by
  show ((onFail >>= fun _ => stop) s : Outcome ε σ Unit).state = _
  rw [state_bind]
  cases (onFail s).value <;> rfl

end Equations

/-! ## Runs to the end -/

/-- From `s`, the procedure runs to its end with value `a` in state `s'`. -/
def Gives (p : Proc ε σ α) (s : σ) (a : α) (s' : σ) : Prop :=
  (p s).value = some a ∧ (p s).state = s'

variable {s s' : σ} {a : α} {b : β}

theorem gives_bind {p : Proc ε σ α} {f : α → Proc ε σ β} :
    Gives (p >>= f) s b s' ↔ ∃ a s₁, Gives p s a s₁ ∧ Gives (f a) s₁ b s' := by
  unfold Gives
  cases hv : (p s).value with
  | none => simp [bind_of_none hv]
  | some x =>
    rw [bind_of_some hv]
    constructor
    · rintro ⟨hb, hs⟩
      exact ⟨x, (p s).state, ⟨rfl, rfl⟩, hb, hs⟩
    · rintro ⟨a, s₁, ⟨ha, rfl⟩, hb, hs⟩
      obtain rfl := Option.some.inj ha
      exact ⟨hb, hs⟩

@[simp] theorem gives_pure {x : α} : Gives (pure x : Proc ε σ α) s a s' ↔ a = x ∧ s' = s := by
  show some x = some a ∧ s = s' ↔ _
  rw [Option.some.injEq, eq_comm (a := x), eq_comm (a := s)]

@[simp] theorem not_gives_stop : ¬ Gives (stop : Proc ε σ α) s a s' :=
  fun h => absurd h.1 (by simp [stop])

@[simp] theorem gives_emit {e : ε} {u : Unit} : Gives (emit e) s u s' ↔ s' = s := by
  show some () = some u ∧ s = s' ↔ _
  simp [eq_comm]

@[simp] theorem gives_get {x : σ} : Gives (get : Proc ε σ σ) s x s' ↔ x = s ∧ s' = s := by
  show some s = some x ∧ s = s' ↔ _
  rw [Option.some.injEq, eq_comm (a := s), eq_comm (a := s)]

@[simp] theorem gives_modify {f : σ → σ} {u : Unit} :
    Gives (modify f : Proc ε σ Unit) s u s' ↔ s' = f s := by
  show some () = some u ∧ f s = s' ↔ _
  simp [eq_comm]

@[simp] theorem gives_require {c : Bool} {onFail : Proc ε σ Unit} {u : Unit} :
    Gives (require c onFail) s u s' ↔ c = true ∧ s' = s := by
  cases c with
  | true =>
    show Gives (pure () : Proc ε σ Unit) s u s' ↔ _
    simp
  | false =>
    show Gives (onFail >>= fun _ => stop) s u s' ↔ _
    simp [gives_bind]

@[simp] theorem gives_orStop {o : Option α} {onFail : Proc ε σ Unit} :
    Gives (orStop o onFail) s a s' ↔ o = some a ∧ s' = s := by
  cases o with
  | some x =>
    show Gives (pure x : Proc ε σ α) s a s' ↔ _
    rw [gives_pure, Option.some.injEq, eq_comm (a := a)]
  | none =>
    show Gives (onFail >>= fun _ => stop) s a s' ↔ _
    simp [gives_bind]

theorem gives_withCleanup {p : Proc ε σ α} {cleanup : σ → σ} :
    Gives (withCleanup p cleanup) s a s' ↔ ∃ s₁, Gives p s a s₁ ∧ s' = cleanup s₁ := by
  constructor
  · rintro ⟨hv, rfl⟩
    exact ⟨(p s).state, ⟨hv, rfl⟩, rfl⟩
  · rintro ⟨s₁, ⟨hv, rfl⟩, rfl⟩
    exact ⟨hv, rfl⟩

/-! ## Logs -/

/-- From `s`, the procedure logs `e`. -/
def Emits (p : Proc ε σ α) (s : σ) (e : ε) : Prop := e ∈ (p s).log

variable {e : ε}

theorem emits_bind {p : Proc ε σ α} {f : α → Proc ε σ β} :
    Emits (p >>= f) s e ↔ Emits p s e ∨ ∃ a s₁, Gives p s a s₁ ∧ Emits (f a) s₁ e := by
  unfold Emits Gives
  cases hv : (p s).value with
  | none => simp [bind_of_none hv]
  | some x =>
    rw [bind_of_some hv, List.mem_append]
    constructor
    · rintro (h | h)
      · exact Or.inl h
      · exact Or.inr ⟨x, (p s).state, ⟨rfl, rfl⟩, h⟩
    · rintro (h | ⟨a, s₁, ⟨ha, rfl⟩, h⟩)
      · exact Or.inl h
      · obtain rfl := Option.some.inj ha
        exact Or.inr h

/-- A procedure that does not log `e` before its last part logs it there. -/
theorem emits_bind_of_not_emits {p : Proc ε σ α} {f : α → Proc ε σ β} (hp : ¬ Emits p s e) :
    Emits (p >>= f) s e ↔ ∃ a, (p s).value = some a ∧ Emits (f a) (p s).state e := by
  rw [emits_bind]
  constructor
  · rintro (h | ⟨a, s₁, ⟨ha, rfl⟩, h⟩)
    · exact absurd h hp
    · exact ⟨a, ha, h⟩
  · rintro ⟨a, ha, h⟩
    exact Or.inr ⟨a, _, ⟨ha, rfl⟩, h⟩

theorem Emits.left {p : Proc ε σ α} {f : α → Proc ε σ β} (h : Emits p s e) :
    Emits (p >>= f) s e :=
  emits_bind.mpr (Or.inl h)

theorem Emits.right {p : Proc ε σ α} {f : α → Proc ε σ β} {s₁ : σ} (hp : Gives p s a s₁)
    (h : Emits (f a) s₁ e) : Emits (p >>= f) s e :=
  emits_bind.mpr (Or.inr ⟨a, s₁, hp, h⟩)

@[simp] theorem emits_emit {e' : ε} : Emits (emit e' : Proc ε σ Unit) s e ↔ e = e' :=
  List.mem_singleton

@[simp] theorem not_emits_pure {x : α} : ¬ Emits (pure x : Proc ε σ α) s e :=
  List.not_mem_nil

@[simp] theorem not_emits_stop : ¬ Emits (stop : Proc ε σ α) s e := List.not_mem_nil

@[simp] theorem not_emits_get : ¬ Emits (get : Proc ε σ σ) s e := List.not_mem_nil

@[simp] theorem not_emits_modify {f : σ → σ} : ¬ Emits (modify f : Proc ε σ Unit) s e :=
  List.not_mem_nil

@[simp] theorem emits_require {c : Bool} {onFail : Proc ε σ Unit} :
    Emits (require c onFail) s e ↔ c = false ∧ Emits onFail s e := by
  cases c with
  | true =>
    show Emits (pure () : Proc ε σ Unit) s e ↔ _
    simp
  | false =>
    show Emits (onFail >>= fun _ => stop) s e ↔ _
    simp [emits_bind]

@[simp] theorem emits_orStop {o : Option α} {onFail : Proc ε σ Unit} :
    Emits (orStop o onFail) s e ↔ o = none ∧ Emits onFail s e := by
  cases o with
  | some x =>
    show Emits (pure x : Proc ε σ α) s e ↔ _
    simp
  | none =>
    show Emits (onFail >>= fun _ => stop) s e ↔ _
    simp [emits_bind]

@[simp] theorem emits_attempt {p : Proc ε σ α} : Emits (attempt p) s e ↔ Emits p s e := Iff.rfl

@[simp] theorem emits_withCleanup {p : Proc ε σ α} {cleanup : σ → σ} :
    Emits (withCleanup p cleanup) s e ↔ Emits p s e := Iff.rfl

/-! ## Frames -/

/-- What `f` sees of the state did not change. -/
def Keeps {τ : Type} (f : σ → τ) (s s' : σ) : Prop := f s' = f s

instance {τ : Type} (f : σ → τ) : Std.Refl (Keeps f) := ⟨fun _ => rfl⟩
instance {τ : Type} (f : σ → τ) : IsTrans σ (Keeps f) := ⟨fun _ _ _ h h' => Eq.trans h' h⟩

/-- What holds of the state still holds. -/
def Maintains (I : σ → Prop) (s s' : σ) : Prop := I s → I s'

instance (I : σ → Prop) : Std.Refl (Maintains I) := ⟨fun _ h => h⟩
instance (I : σ → Prop) : IsTrans σ (Maintains I) := ⟨fun _ _ _ h h' hs => h' (h hs)⟩

/-- Every run of `p` moves the state within `R` and logs only events in `A`. -/
structure Frame (R : σ → σ → Prop) (A : ε → Prop) (p : Proc ε σ α) : Prop where
  state : ∀ s, R s (p s).state
  log : ∀ s, ∀ e ∈ (p s).log, A e

namespace Frame

variable {R : σ → σ → Prop} {A : ε → Prop}

theorem of_gives {p : Proc ε σ α} (hp : Frame R A p) (h : Gives p s a s') : R s s' :=
  h.2 ▸ hp.state s

theorem of_emits {p : Proc ε σ α} (hp : Frame R A p) (h : Emits p s e) : A e := hp.log s e h

theorem pure [Std.Refl R] (x : α) : Frame R A (pure x : Proc ε σ α) :=
  ⟨fun s => refl_of R s, fun _ _ h => absurd h List.not_mem_nil⟩

/-- The second procedure needs its frame only for the values that the first can give. -/
theorem bind_of_value [IsTrans σ R] {p : Proc ε σ α} {f : α → Proc ε σ β} (hp : Frame R A p)
    (hf : ∀ s a, (p s).value = some a → Frame R A (f a)) : Frame R A (p >>= f) := by
  refine ⟨fun s => ?_, fun s e he => ?_⟩
  · cases hv : (p s).value with
    | none =>
      rw [bind_of_none hv]
      exact hp.state s
    | some a =>
      rw [bind_of_some hv]
      exact trans_of R (hp.state s) ((hf s a hv).state _)
  · rcases emits_bind.mp he with h | ⟨a, s₁, ha, h⟩
    · exact hp.log s e h
    · exact (hf s a ha.1).log s₁ e h

theorem bind [IsTrans σ R] {p : Proc ε σ α} {f : α → Proc ε σ β} (hp : Frame R A p)
    (hf : ∀ a, Frame R A (f a)) : Frame R A (p >>= f) :=
  hp.bind_of_value fun _ a _ => hf a

theorem stop [Std.Refl R] : Frame R A (stop : Proc ε σ α) :=
  ⟨fun s => refl_of R s, fun _ _ h => absurd h List.not_mem_nil⟩

theorem emit [Std.Refl R] (he : A e) : Frame R A (emit e : Proc ε σ Unit) :=
  ⟨fun s => refl_of R s, fun _ _ h => List.mem_singleton.mp h ▸ he⟩

theorem get [Std.Refl R] : Frame R A (get : Proc ε σ σ) :=
  ⟨fun s => refl_of R s, fun _ _ h => absurd h List.not_mem_nil⟩

theorem modify {f : σ → σ} (hf : ∀ s, R s (f s)) : Frame R A (modify f : Proc ε σ Unit) :=
  ⟨hf, fun _ _ h => absurd h List.not_mem_nil⟩

theorem require [Std.Refl R] [IsTrans σ R] {c : Bool} {onFail : Proc ε σ Unit}
    (h : Frame R A onFail) : Frame R A (require c onFail) := by
  cases c with
  | true => exact pure ()
  | false => exact h.bind fun _ => stop

theorem orStop [Std.Refl R] [IsTrans σ R] {o : Option α} {onFail : Proc ε σ Unit}
    (h : Frame R A onFail) : Frame R A (orStop o onFail) := by
  cases o with
  | some x => exact pure x
  | none => exact h.bind fun _ => stop

theorem withCleanup [IsTrans σ R] {p : Proc ε σ α} {cleanup : σ → σ} (hp : Frame R A p)
    (hc : ∀ s, R s (cleanup s)) : Frame R A (withCleanup p cleanup) :=
  ⟨fun s => trans_of R (hp.state s) (hc _), hp.log⟩

theorem attempt {p : Proc ε σ α} (hp : Frame R A p) : Frame R A (attempt p) :=
  ⟨hp.state, hp.log⟩

theorem onlyIf [Std.Refl R] {c : Bool} {p : Proc ε σ Unit} (hp : Frame R A p) :
    Frame R A (onlyIf c p) := by
  cases c with
  | true => exact hp
  | false => exact pure ()

theorem ite {c : Prop} [Decidable c] {p q : Proc ε σ α} (hp : Frame R A p) (hq : Frame R A q) :
    Frame R A (if c then p else q) := by
  split
  · exact hp
  · exact hq

/-- A weaker frame. -/
theorem mono {R' : σ → σ → Prop} {A' : ε → Prop} {p : Proc ε σ α} (hp : Frame R A p)
    (hR : ∀ s s', R s s' → R' s s') (hA : ∀ e, A e → A' e) : Frame R' A' p :=
  ⟨fun s => hR _ _ (hp.state s), fun s e he => hA e (hp.log s e he)⟩

/-- The value after a procedure that keeps what the rest depends on. -/
theorem value_bind_eq {τ : Type} {f : σ → τ} {p : Proc ε σ α} {k : α → Proc ε σ β}
    (hp : Frame (Keeps f) A p) {x : Option α} (hx : (p s).value = x) {F : α → Option β}
    (hk : ∀ a s₁, f s₁ = f s → (k a s₁).value = F a) : ((p >>= k) s).value = x.bind F := by
  rw [value_bind, hx]
  exact Option.bind_congr fun a _ => hk a _ (hp.state s)

/-- An event outside the frame is not logged. -/
theorem not_emits {p : Proc ε σ α} (hp : Frame R A p) (he : ¬ A e) : ¬ Emits p s e :=
  fun h => he (hp.of_emits h)

end Frame

/-! ## What a run leaves -/

/-- Every run of `p`, stopping or not, relates the state before, the log and the state after. -/
def Leaves (T : σ → List ε → σ → Prop) (p : Proc ε σ α) : Prop :=
  ∀ s, T s (p s).log (p s).state

/-- A relation that one procedure after another keeps. -/
structure Composes (T : σ → List ε → σ → Prop) : Prop where
  refl : ∀ s, T s [] s
  trans : ∀ {s₁ s₂ s₃ l₁ l₂}, T s₁ l₁ s₂ → T s₂ l₂ s₃ → T s₁ (l₁ ++ l₂) s₃

namespace Leaves

variable {T : σ → List ε → σ → Prop}

/-- What one run of a composition leaves: the second part runs in the state that the first
leaves. -/
theorem bind_at (hT : Composes T) {p : Proc ε σ α} {f : α → Proc ε σ β} {s : σ}
    (hp : T s (p s).log (p s).state)
    (hf : ∀ a, (p s).value = some a →
      T (p s).state (f a (p s).state).log (f a (p s).state).state) :
    T s ((p >>= f) s).log ((p >>= f) s).state := by
  cases hv : (p s).value with
  | none =>
    rw [bind_of_none hv]
    exact hp
  | some a =>
    rw [bind_of_some hv]
    exact hT.trans hp (hf a hv)

theorem bind (hT : Composes T) {p : Proc ε σ α} {f : α → Proc ε σ β} (hp : Leaves T p)
    (hf : ∀ s a, (p s).value = some a → Leaves T (f a)) : Leaves T (p >>= f) :=
  fun s => bind_at hT (hp s) fun a hv => hf s a hv _

theorem of_frame {R : σ → σ → Prop} {A : ε → Prop} {p : Proc ε σ α} (hp : Frame R A p)
    (h : ∀ s l s', R s s' → T s l s') : Leaves T p :=
  fun s => h _ _ _ (hp.state s)

theorem withCleanup (hT : Composes T) {p : Proc ε σ α} {cleanup : σ → σ} (hp : Leaves T p)
    (hc : ∀ s, T s [] (cleanup s)) : Leaves T (withCleanup p cleanup) := by
  intro s
  have h := hT.trans (hp s) (hc (p s).state)
  rw [List.append_nil] at h
  exact h

end Leaves

end Proc

end AsynCS
