import AsynCS.Lib.Proc

/-!
# Resources of a procedure

Some events of a procedure acquire a resource, and others release one.  `Ledger.Moves p o o'`: a run
of `p` that begins with the resources `o` has released, when it stops, all that it held and
acquired; and when it runs to its end it holds `o'`.

The rules follow the text of a procedure: a procedure may stop only with empty hands
(`Moves.stop`), so every early return must have released what was acquired before
(`Moves.require`).

`Ledger.Draws p l`: a run of `p` acquires, in this order, the resources `l`, or the first of them
when it stops.

`LogsAtEnd p l`: a run of `p` that comes to its end has the log `l`; what it logs when it stops does
not matter.
-/

namespace AsynCS
namespace Proc

variable {ε σ ρ α β : Type}

/-- The events that acquire a resource, and those that release one. -/
structure Ledger (ε ρ : Type) where
  acquires : ε → Option ρ
  releases : ε → Option ρ

namespace Ledger

variable (L : Ledger ε ρ)

/-- What a log acquires. -/
def acquired (log : List ε) : Multiset ρ := log.filterMap L.acquires

/-- What a log releases. -/
def released (log : List ε) : Multiset ρ := log.filterMap L.releases

theorem acquired_append (a b : List ε) : L.acquired (a ++ b) = L.acquired a + L.acquired b := by
  rw [acquired, List.filterMap_append]
  rfl

theorem released_append (a b : List ε) : L.released (a ++ b) = L.released a + L.released b := by
  rw [released, List.filterMap_append]
  rfl

/-- From the resources `o`, a run stops with none, or ends with `o'`. -/
structure Moves (p : Proc ε σ α) (o o' : Multiset ρ) : Prop where
  stops : ∀ s, (p s).value = none → o + L.acquired (p s).log = L.released (p s).log
  ends : ∀ s a, (p s).value = some a → o + L.acquired (p s).log = L.released (p s).log + o'

variable {L}

namespace Moves

variable {o o' o'' : Multiset ρ}

theorem pure (a : α) : L.Moves (pure a : Proc ε σ α) o o :=
  ⟨fun _ h => absurd h (by simp), fun _ _ _ => by
    show o + 0 = 0 + o
    rw [add_zero, zero_add]⟩

/-- A procedure stops with empty hands. -/
theorem stop : L.Moves (stop : Proc ε σ α) 0 o' :=
  ⟨fun _ _ => rfl, fun _ _ h => absurd h (by simp)⟩

theorem get : L.Moves (get : Proc ε σ σ) o o :=
  ⟨fun _ h => absurd h (by simp), fun _ _ _ => by
    show o + 0 = 0 + o
    rw [add_zero, zero_add]⟩

theorem modify (f : σ → σ) : L.Moves (modify f : Proc ε σ Unit) o o :=
  ⟨fun _ h => absurd h (by simp), fun _ _ _ => by
    show o + 0 = 0 + o
    rw [add_zero, zero_add]⟩

theorem emit_acquire {e : ε} {r : ρ} (ha : L.acquires e = some r) (hr : L.releases e = none) :
    L.Moves (emit e : Proc ε σ Unit) o (o + {r}) := by
  refine ⟨fun _ h => absurd h (by simp), fun s _ _ => ?_⟩
  show o + L.acquired [e] = L.released [e] + _
  rw [acquired, released, List.filterMap_cons_some ha, List.filterMap_cons_none hr]
  exact (zero_add _).symm

theorem emit_release {e : ε} {r : ρ} (ha : L.acquires e = none) (hr : L.releases e = some r) :
    L.Moves (emit e : Proc ε σ Unit) (o + {r}) o := by
  refine ⟨fun _ h => absurd h (by simp), fun s _ _ => ?_⟩
  show o + {r} + L.acquired [e] = L.released [e] + o
  rw [acquired, released, List.filterMap_cons_none ha, List.filterMap_cons_some hr]
  exact (add_zero _).trans (add_comm o {r})

/-- An event that is about no resource. -/
theorem emit_other {e : ε} (ha : L.acquires e = none) (hr : L.releases e = none) :
    L.Moves (emit e : Proc ε σ Unit) o o := by
  refine ⟨fun _ h => absurd h (by simp), fun s _ _ => ?_⟩
  show o + L.acquired [e] = L.released [e] + _
  rw [acquired, released, List.filterMap_cons_none ha, List.filterMap_cons_none hr]
  exact add_comm o 0

theorem bind {p : Proc ε σ α} {f : α → Proc ε σ β} (hp : L.Moves p o o')
    (hf : ∀ a, L.Moves (f a) o' o'') : L.Moves (p >>= f) o o'' := by
  constructor
  · intro s hv
    cases hs : (p s).value with
    | none =>
      rw [bind_of_none hs]
      exact hp.stops s hs
    | some a =>
      rw [bind_of_some hs] at hv ⊢
      have hfirst := hp.ends s a hs
      have hrest := (hf a).stops _ hv
      rw [acquired_append, released_append, ← add_assoc, hfirst, add_assoc, hrest]
  · intro s b hv
    cases hs : (p s).value with
    | none =>
      rw [bind_of_none hs] at hv
      cases hv
    | some a =>
      rw [bind_of_some hs] at hv ⊢
      have hfirst := hp.ends s a hs
      have hrest := (hf a).ends _ b hv
      rw [acquired_append, released_append, ← add_assoc, hfirst, add_assoc, hrest, add_assoc]

/-- A test whose failure is cleaned up. -/
theorem require {c : Bool} {p : Proc ε σ Unit} (hp : L.Moves p o 0) :
    L.Moves (require c p) o o := by
  cases c with
  | true => exact pure ()
  | false => exact hp.bind fun _ => stop

theorem orStop {x : Option α} {p : Proc ε σ Unit} (hp : L.Moves p o 0) :
    L.Moves (orStop x p) o o := by
  cases x with
  | some a => exact pure a
  | none => exact hp.bind fun _ => stop

/-- **A run from nothing to nothing** releases what it acquires. -/
theorem released_eq {p : Proc ε σ α} (h : L.Moves p 0 0) (s : σ) :
    L.released (p s).log = L.acquired (p s).log := by
  cases hv : (p s).value with
  | none => rw [← h.stops s hv, zero_add]
  | some a =>
    have hends := h.ends s a hv
    rw [zero_add, add_zero] at hends
    exact hends.symm

end Moves

/-- A run acquires the resources `l` in this order; one that stops may lack the last of them. -/
structure Draws (L : Ledger ε ρ) (p : Proc ε σ α) (l : List ρ) : Prop where
  part : ∀ s, (p s).log.filterMap L.acquires <+: l
  whole : ∀ s a, (p s).value = some a → (p s).log.filterMap L.acquires = l

namespace Draws

/-- A procedure that acquires nothing. -/
theorem nothing {p : Proc ε σ α} (h : ∀ s, ∀ e ∈ (p s).log, L.acquires e = none) :
    L.Draws p [] := by
  have hnil : ∀ s, (p s).log.filterMap L.acquires = [] :=
    fun s => List.filterMap_eq_nil_iff.mpr (h s)
  exact ⟨fun s => (hnil s).symm ▸ List.prefix_rfl, fun s _ _ => hnil s⟩

theorem emit {e : ε} {r : ρ} (h : L.acquires e = some r) :
    L.Draws (emit e : Proc ε σ Unit) [r] := by
  have hlog : [e].filterMap L.acquires = [r] := List.filterMap_cons_some h
  exact ⟨fun _ => hlog.symm ▸ List.prefix_rfl, fun _ _ _ => hlog⟩

theorem bind {p : Proc ε σ α} {f : α → Proc ε σ β} {l l' : List ρ} (hp : L.Draws p l)
    (hf : ∀ a, L.Draws (f a) l') : L.Draws (p >>= f) (l ++ l') := by
  constructor
  · intro s
    cases hs : (p s).value with
    | none =>
      rw [bind_of_none hs]
      exact (hp.part s).trans (List.prefix_append l l')
    | some a =>
      rw [bind_of_some hs, List.filterMap_append, hp.whole s a hs]
      exact (List.prefix_append_right_inj l).mpr ((hf a).part _)
  · intro s b hv
    cases hs : (p s).value with
    | none =>
      rw [bind_of_none hs] at hv
      cases hv
    | some a =>
      rw [bind_of_some hs] at hv ⊢
      rw [List.filterMap_append, hp.whole s a hs, (hf a).whole _ b hv]

/-- Resources that are drawn once each are acquired once each. -/
theorem nodup {p : Proc ε σ α} {l : List ρ} (h : L.Draws p l) (hl : l.Nodup) (s : σ) :
    (L.acquired (p s).log).Nodup :=
  Multiset.coe_nodup.mpr (hl.sublist (h.part s).sublist)

end Draws

end Ledger

/-- A run that comes to its end has this log. -/
def LogsAtEnd (p : Proc ε σ α) (l : List ε) : Prop := ∀ s a, (p s).value = some a → (p s).log = l

namespace LogsAtEnd

theorem pure (a : α) : LogsAtEnd (pure a : Proc ε σ α) [] := fun _ _ _ => rfl

theorem get : LogsAtEnd (get : Proc ε σ σ) [] := fun _ _ _ => rfl

theorem modify (f : σ → σ) : LogsAtEnd (modify f : Proc ε σ Unit) [] := fun _ _ _ => rfl

theorem emit (e : ε) : LogsAtEnd (emit e : Proc ε σ Unit) [e] := fun _ _ _ => rfl

theorem require {c : Bool} {p : Proc ε σ Unit} : LogsAtEnd (require c p) [] := by
  cases c with
  | true => exact pure ()
  | false =>
    intro s a h
    obtain ⟨_, _, -, hstop⟩ := gives_bind.mp ⟨h, rfl⟩
    exact absurd hstop not_gives_stop

theorem orStop {x : Option α} {p : Proc ε σ Unit} : LogsAtEnd (orStop x p) [] := by
  cases x with
  | some a => exact pure a
  | none =>
    intro s a h
    obtain ⟨_, _, -, hstop⟩ := gives_bind.mp ⟨h, rfl⟩
    exact absurd hstop not_gives_stop

theorem bind {p : Proc ε σ α} {f : α → Proc ε σ β} {l l' : List ε} (hp : LogsAtEnd p l)
    (hf : ∀ a, LogsAtEnd (f a) l') : LogsAtEnd (p >>= f) (l ++ l') := by
  intro s b hv
  cases hs : (p s).value with
  | none =>
    rw [bind_of_none hs] at hv
    cases hv
  | some a =>
    rw [bind_of_some hs] at hv ⊢
    rw [hp s a hs, hf a _ b hv]

end LogsAtEnd

end Proc
end AsynCS
