import AsynCS.Lib.Proc

/-!
# Pre- and postconditions of procedures that may stop

`Triple P p Q E`: from every state in `P` the procedure `p` runs to its end in `Q`, which sees its
value, or stops early in `E`.

The rules follow the text of a procedure, as those of a frame do.  What a frame says is untouched
holds behind a procedure, whether it stops or not (`Triple.of_keeps`); where it stops is settled
for all the exits of a text by one `E`.
-/

namespace AsynCS
namespace Proc

variable {ε σ α β : Type}

/-- From `P`, the procedure ends in `Q` or stops in `E`. -/
structure Triple (P : σ → Prop) (p : Proc ε σ α) (Q : α → σ → Prop) (E : σ → Prop) : Prop where
  ends : ∀ {s : σ} {a : α}, P s → (p s).value = some a → Q a (p s).state
  stops : ∀ {s : σ}, P s → (p s).value = none → E (p s).state

namespace Triple

variable {P P' : σ → Prop} {p : Proc ε σ α} {Q Q' : α → σ → Prop} {E E' : σ → Prop}

/-- A stronger precondition and weaker postconditions. -/
theorem mono (h : Triple P p Q E) (hP : ∀ s, P' s → P s) (hQ : ∀ a s, Q a s → Q' a s)
    (hE : ∀ s, E s → E' s) : Triple P' p Q' E' :=
  ⟨fun hs ha => hQ _ _ (h.ends (hP _ hs) ha), fun hs hn => hE _ (h.stops (hP _ hs) hn)⟩

theorem pure {a : α} (h : ∀ s, P s → Q a s) : Triple P (Pure.pure a : Proc ε σ α) Q E := by
  refine ⟨fun {s a'} hs ha => ?_, fun _ hn => absurd hn (by simp)⟩
  obtain rfl := Option.some.inj ha
  exact h s hs

theorem bind {R : β → σ → Prop} {f : α → Proc ε σ β} (hp : Triple P p Q E)
    (hf : ∀ a, Triple (Q a) (f a) R E) : Triple P (p >>= f) R E := by
  refine ⟨fun {s b} hs hb => ?_, fun {s} hs hn => ?_⟩
  · cases hv : (p s).value with
    | none =>
      rw [bind_of_none hv] at hb
      cases hb
    | some a =>
      rw [bind_of_some hv] at hb ⊢
      exact (hf a).ends (hp.ends hs hv) hb
  · cases hv : (p s).value with
    | none =>
      rw [bind_of_none hv]
      exact hp.stops hs hv
    | some a =>
      rw [bind_of_some hv] at hn ⊢
      exact (hf a).stops (hp.ends hs hv) hn

theorem get : Triple P (Proc.get : Proc ε σ σ) (fun _ => P) E :=
  ⟨fun hs _ => hs, fun _ hn => absurd hn (by simp)⟩

theorem modify {f : σ → σ} {Q : σ → Prop} (h : ∀ s, P s → Q (f s)) :
    Triple P (Proc.modify f : Proc ε σ Unit) (fun _ => Q) E :=
  ⟨fun hs _ => h _ hs, fun _ hn => absurd hn (by simp)⟩

/-- What a procedure keeps holds behind it. -/
theorem of_keeps {τ : Type} {f : σ → τ} {A : ε → Prop} (hp : Frame (Keeps f) A p)
    {I J : τ → Prop} (hIJ : ∀ x, I x → J x) :
    Triple (fun s => I (f s)) p (fun _ s => I (f s)) (fun s => J (f s)) := by
  have hkept : ∀ s, f (p s).state = f s := hp.state
  refine ⟨fun {s _} hs _ => ?_, fun {s} hs _ => ?_⟩
  · rw [hkept s]
    exact hs
  · rw [hkept s]
    exact hIJ _ hs

/-- A procedure that keeps what is known, and the value it gives. -/
theorem require {τ : Type} {f : σ → τ} {A : ε → Prop} {c : Bool} {onFail : Proc ε σ Unit}
    (hp : Frame (Keeps f) A onFail) {I J : τ → Prop} (hIJ : ∀ x, I x → J x) :
    Triple (fun s => I (f s)) (require c onFail) (fun _ s => c = true ∧ I (f s))
      (fun s => J (f s)) := by
  have htriple := of_keeps (Frame.require (c := c) hp) hIJ
  refine ⟨fun {s a} hs ha => ⟨?_, htriple.ends hs ha⟩, htriple.stops⟩
  rw [value_require] at ha
  cases c with
  | true => rfl
  | false => cases ha

theorem orStop {τ : Type} {f : σ → τ} {A : ε → Prop} {o : Option α} {onFail : Proc ε σ Unit}
    (hp : Frame (Keeps f) A onFail) {I J : τ → Prop} (hIJ : ∀ x, I x → J x) :
    Triple (fun s => I (f s)) (orStop o onFail) (fun a s => o = some a ∧ I (f s))
      (fun s => J (f s)) := by
  have htriple := of_keeps (Frame.orStop (o := o) hp) hIJ
  refine ⟨fun {s a} hs ha => ⟨?_, htriple.ends hs ha⟩, htriple.stops⟩
  rw [value_orStop] at ha
  exact ha

/-- A call whose failure the caller looks at does not stop. -/
theorem attempt {Q : Option α → σ → Prop} (hsome : ∀ {s a}, P s → (p s).value = some a →
      Q (some a) (p s).state)
    (hnone : ∀ {s}, P s → (p s).value = none → Q none (p s).state) :
    Triple P (attempt p) Q E := by
  refine ⟨fun {s a} hs ha => ?_, fun _ hn => absurd hn (by simp)⟩
  rw [value_attempt] at ha
  obtain rfl := Option.some.inj ha
  rw [state_attempt]
  cases hv : (p s).value with
  | none => exact hnone hs hv
  | some x => exact hsome hs hv

/-- The cleanup runs on both ways out. -/
theorem withCleanup {cleanup : σ → σ} (hp : Triple P p Q E)
    (hQ : ∀ a s, Q a s → Q' a (cleanup s)) (hE : ∀ s, E s → E' (cleanup s)) :
    Triple P (withCleanup p cleanup) Q' E' :=
  ⟨fun hs ha => hQ _ _ (hp.ends hs ha), fun hs hn => hE _ (hp.stops hs hn)⟩

/-- A precondition that does not look at the state. -/
theorem of_fact {F : Prop} (h : F → Triple P p Q E) : Triple (fun s => F ∧ P s) p Q E :=
  ⟨fun hs ha => (h hs.1).ends hs.2 ha, fun hs hn => (h hs.1).stops hs.2 hn⟩

theorem of_exists {γ : Type} {P : γ → σ → Prop} (h : ∀ x, Triple (P x) p Q E) :
    Triple (fun s => ∃ x, P x s) p Q E := by
  refine ⟨fun {s a} hs ha => ?_, fun {s} hs hn => ?_⟩
  · obtain ⟨x, hx⟩ := hs
    exact (h x).ends hx ha
  · obtain ⟨x, hx⟩ := hs
    exact (h x).stops hx hn

/-- A state that is read is the state that is left. -/
theorem get_bind {f : σ → Proc ε σ α} (h : ∀ s₀, P s₀ → Triple (fun s => s = s₀) (f s₀) Q E) :
    Triple P (Proc.get >>= f) Q E :=
  ⟨fun hs ha => (h _ hs).ends rfl ha, fun hs hn => (h _ hs).stops rfl hn⟩

/-- The values of a procedure, when they are known, are known behind it. -/
theorem with_value (h : Triple P p Q E) {V : α → Prop}
    (hV : ∀ {s a}, P s → (p s).value = some a → V a) :
    Triple P p (fun a s => V a ∧ Q a s) E :=
  ⟨fun hs ha => ⟨hV hs ha, h.ends hs ha⟩, h.stops⟩

end Triple

end Proc
end AsynCS
