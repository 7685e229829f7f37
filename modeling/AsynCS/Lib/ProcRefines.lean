import AsynCS.Lib.Proc

/-!
# One procedure behind another

`Refines abs seen p q s`: from the state `s`, the procedure `p` does what `q` does from `abs s`.  It
gives the same value, or both stop; it ends in a state that `abs` takes to the state of `q`; and its
log, of which `seen` picks what `q` logs too, is that of `q`.

The rules follow the text of two procedures of the same shape.
-/

namespace AsynCS
namespace Proc

variable {ε ε' σ τ α β : Type}

/-- From `s`, the first procedure does what the second does from `abs s`. -/
structure Refines (abs : σ → τ) (seen : ε → Option ε') (p : Proc ε σ α) (q : Proc ε' τ α) (s : σ) :
    Prop where
  log : (p s).log.filterMap seen = (q (abs s)).log
  state : abs (p s).state = (q (abs s)).state
  value : (p s).value = (q (abs s)).value

namespace Refines

variable {abs : σ → τ} {seen : ε → Option ε'} {s : σ}

theorem pure (a : α) : Refines abs seen (pure a) (pure a) s := ⟨rfl, rfl, rfl⟩

theorem stop : Refines abs seen (stop : Proc ε σ α) stop s := ⟨rfl, rfl, rfl⟩

theorem emit {e : ε} {e' : ε'} (h : seen e = some e') :
    Refines abs seen (emit e) (emit e') s := by
  refine ⟨?_, rfl, rfl⟩
  show [e].filterMap seen = [e']
  rw [List.filterMap_cons_some h, List.filterMap_nil]

theorem modify {f : σ → σ} {f' : τ → τ} (h : abs (f s) = f' (abs s)) :
    Refines abs seen (modify f) (modify f') s := ⟨rfl, h, rfl⟩

/-- The second procedure goes on where the first left the state. -/
theorem bind {p : Proc ε σ α} {q : Proc ε' τ α} {f : α → Proc ε σ β} {f' : α → Proc ε' τ β}
    (h : Refines abs seen p q s)
    (hf : ∀ a, (p s).value = some a → Refines abs seen (f a) (f' a) (p s).state) :
    Refines abs seen (p >>= f) (q >>= f') s := by
  obtain ⟨hlog, hstate, hvalue⟩ := h
  cases hp : (p s).value with
  | none =>
    have hq : (q (abs s)).value = none := hvalue ▸ hp
    refine ⟨?_, ?_, ?_⟩ <;> rw [bind_of_none hp, bind_of_none hq]
    · exact hlog
    · exact hstate
  | some a =>
    have hq : (q (abs s)).value = some a := hvalue ▸ hp
    obtain ⟨hlog', hstate', hvalue'⟩ := hf a hp
    rw [hstate] at hlog' hstate' hvalue'
    refine ⟨?_, ?_, ?_⟩ <;> rw [bind_of_some hp, bind_of_some hq]
    · rw [List.filterMap_append, hlog, hlog']
    · exact hstate'
    · exact hvalue'

/-- What is read is the state on either side. -/
theorem get_bind {f : σ → Proc ε σ β} {f' : τ → Proc ε' τ β}
    (h : Refines abs seen (f s) (f' (abs s)) s) :
    Refines abs seen (get >>= f) (get >>= f') s := ⟨h.log, h.state, h.value⟩

theorem require {c : Bool} {p : Proc ε σ Unit} {q : Proc ε' τ Unit}
    (h : Refines abs seen p q s) : Refines abs seen (require c p) (require c q) s := by
  cases c with
  | true => exact pure ()
  | false => exact h.bind fun _ _ => stop

theorem onlyIf {c : Bool} {p : Proc ε σ Unit} {q : Proc ε' τ Unit}
    (h : Refines abs seen p q s) : Refines abs seen (onlyIf c p) (onlyIf c q) s := by
  cases c with
  | true => exact h
  | false => exact pure ()

end Refines

end Proc
end AsynCS
