import AsynCS.Lib.Proc

/-!
# Two runs of a procedure

`Alike R p`: two runs of `p` from states in `R` give the same value, or both stop, and end in
states in `R`.  With an `R` that looks at a part of the state only, the procedure decides nothing
by the rest of it.

The rules follow the text of a procedure.  A procedure that reads the state may only use what `R`
fixes (`Alike.get_bind`).
-/

namespace AsynCS
namespace Proc

variable {ε σ α β : Type}

/-- Two runs from states in `R` agree. -/
structure Alike (R : σ → σ → Prop) (p : Proc ε σ α) : Prop where
  value : ∀ {s s' : σ}, R s s' → (p s).value = (p s').value
  state : ∀ {s s' : σ}, R s s' → R (p s).state (p s').state

namespace Alike

variable {R : σ → σ → Prop}

/-- A procedure that leaves its state, and whose value does not depend on it. -/
theorem of_frame {A : ε → Prop} {p : Proc ε σ α} (hp : Frame Eq A p) {v : Option α}
    (hv : ∀ s, (p s).value = v) : Alike R p := by
  have hstate : ∀ s, (p s).state = s := fun s => (hp.state s).symm
  refine ⟨fun {s s'} _ => (hv s).trans (hv s').symm, fun {s s'} h => ?_⟩
  rw [hstate s, hstate s']
  exact h

theorem pure (a : α) : Alike R (pure a : Proc ε σ α) := ⟨fun _ => rfl, fun h => h⟩

theorem stop : Alike R (stop : Proc ε σ α) := ⟨fun _ => rfl, fun h => h⟩

theorem emit (e : ε) : Alike R (emit e : Proc ε σ Unit) := ⟨fun _ => rfl, fun h => h⟩

theorem modify {f : σ → σ} (hf : ∀ {s s'}, R s s' → R (f s) (f s')) :
    Alike R (modify f : Proc ε σ Unit) := ⟨fun _ => rfl, fun h => hf h⟩

theorem bind {p : Proc ε σ α} {f : α → Proc ε σ β} (hp : Alike R p) (hf : ∀ a, Alike R (f a)) :
    Alike R (p >>= f) := by
  refine ⟨fun {s s'} h => ?_, fun {s s'} h => ?_⟩
  · rw [value_bind, value_bind, ← hp.value h]
    exact Option.bind_congr fun a _ => (hf a).value (hp.state h)
  · have hv := hp.value h
    cases hs : (p s).value with
    | none =>
      rw [bind_of_none hs, bind_of_none (hv ▸ hs)]
      exact hp.state h
    | some a =>
      rw [bind_of_some hs, bind_of_some (hv ▸ hs)]
      exact (hf a).state (hp.state h)

/-- What is read of the state must be what `R` fixes. -/
theorem get_bind {f : σ → Proc ε σ β} (hf : ∀ s, Alike R (f s))
    (heq : ∀ {s s'}, R s s' → f s = f s') : Alike R (get >>= f) := by
  have hrun : ∀ s, (get >>= f) s = f s s := fun _ => rfl
  refine ⟨fun {s s'} h => ?_, fun {s s'} h => ?_⟩
  · rw [hrun, hrun, ← heq h]
    exact (hf s).value h
  · rw [hrun, hrun, ← heq h]
    exact (hf s).state h

theorem require {c : Bool} {onFail : Proc ε σ Unit} (h : Alike R onFail) :
    Alike R (require c onFail) := by
  cases c with
  | true => exact pure ()
  | false => exact h.bind fun _ => stop

theorem orStop {o : Option α} {onFail : Proc ε σ Unit} (h : Alike R onFail) :
    Alike R (orStop o onFail) := by
  cases o with
  | some a => exact pure a
  | none => exact h.bind fun _ => stop

theorem onlyIf {c : Bool} {p : Proc ε σ Unit} (hp : Alike R p) : Alike R (onlyIf c p) := by
  cases c with
  | true => exact hp
  | false => exact pure ()

theorem ite {c : Prop} [Decidable c] {p q : Proc ε σ α} (hp : Alike R p) (hq : Alike R q) :
    Alike R (if c then p else q) := by
  split
  · exact hp
  · exact hq

theorem attempt {p : Proc ε σ α} (hp : Alike R p) : Alike R (attempt p) :=
  ⟨fun h => congrArg some (hp.value h), fun h => hp.state h⟩

theorem withCleanup {p : Proc ε σ α} {cleanup : σ → σ} (hp : Alike R p)
    (hc : ∀ {s s'}, R s s' → R (cleanup s) (cleanup s')) : Alike R (withCleanup p cleanup) :=
  ⟨fun h => hp.value h, fun h => hc (hp.state h)⟩

end Alike

end Proc
end AsynCS
