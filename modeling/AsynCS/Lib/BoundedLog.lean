import Mathlib.Data.List.Basic
import Mathlib.Order.Basic

/-!
# A buffer of bounded length under appends and replacements

Events append to a list, or replace it; they fit as long as the list stays within a bound.  A
machine with a flag that is raised by the first event that does not fit, and never lowered, holds
the replay of its events as long as the flag is down.

* `LogEvent`, `LogEvent.apply`, `LogEvent.Fits`: one event.
* `AllFit`: a sequence of events, each of which fits what the ones before it leave.
* `StickyFlag`: a machine that keeps such a buffer; `StickyFlag.flag_iff`, `StickyFlag.view_eq`.
-/

namespace AsynCS

/-- An event of a buffer. -/
inductive LogEvent (α : Type*) where
  | append (l : List α)
  | replace (l : List α)
  /-- an event that never fits -/
  | invalid

namespace LogEvent

variable {α : Type*}

/-- What an event leaves. -/
def apply (acc : List α) : LogEvent α → List α
  | append l => acc ++ l
  | replace l => l
  | invalid => acc

/-- An event fits a buffer of a capacity; a replacement is not empty. -/
def Fits (capacity : ℕ) (acc : List α) : LogEvent α → Prop
  | append l => acc.length + l.length ≤ capacity
  | replace l => 0 < l.length ∧ l.length ≤ capacity
  | invalid => False

instance (capacity : ℕ) (acc : List α) : DecidablePred (Fits capacity acc)
  | append _ => inferInstanceAs (Decidable (_ ≤ _))
  | replace _ => inferInstanceAs (Decidable (_ ∧ _))
  | invalid => inferInstanceAs (Decidable False)

theorem length_apply_le {capacity : ℕ} {acc : List α} {e : LogEvent α}
    (h : e.Fits capacity acc) : (e.apply acc).length ≤ capacity := by
  cases e with
  | append l =>
    rw [apply, List.length_append]
    exact h
  | replace l => exact h.2
  | invalid => exact h.elim

end LogEvent

/-- The replay of events, on what is already there. -/
def replayFrom {α : Type*} (acc : List α) (events : List (LogEvent α)) : List α :=
  events.foldl LogEvent.apply acc

/-- Every event fits what the ones before it leave. -/
def AllFit {α : Type*} (capacity : ℕ) : List α → List (LogEvent α) → Prop
  | _, [] => True
  | acc, e :: events => e.Fits capacity acc ∧ AllFit capacity (e.apply acc) events

section Replay

variable {α : Type*} {capacity : ℕ} {acc : List α} {e : LogEvent α} {events : List (LogEvent α)}

theorem replayFrom_cons : replayFrom acc (e :: events) = replayFrom (e.apply acc) events := rfl

/-- **What fits stays within the bound.** -/
theorem length_replayFrom_le (hacc : acc.length ≤ capacity) (h : AllFit capacity acc events) :
    (replayFrom acc events).length ≤ capacity := by
  induction events generalizing acc with
  | nil => exact hacc
  | cons e events ih => exact ih (LogEvent.length_apply_le h.1) h.2

/-- Every event fits, by the part of the sequence before it. -/
theorem allFit_iff_forall : AllFit capacity acc events ↔
    ∀ before e after, events = before ++ e :: after → e.Fits capacity (replayFrom acc before) := by
  induction events generalizing acc with
  | nil => exact ⟨fun _ before e after h => absurd h (by simp), fun _ => trivial⟩
  | cons e events ih =>
    constructor
    · rintro ⟨hfits, hrest⟩ before e' after heq
      cases before with
      | nil =>
        obtain ⟨rfl, rfl⟩ := List.cons.inj heq
        exact hfits
      | cons b before =>
        obtain ⟨rfl, rfl⟩ := List.cons.inj heq
        exact ih.mp hrest before e' after rfl
    · intro h
      refine ⟨h [] e events rfl, ih.mpr fun before e' after heq => ?_⟩
      exact h (e :: before) e' after (by rw [heq, List.cons_append])

end Replay

/-- A machine whose calls are events, or none; a flag is up once an event did not fit, and below it
the machine holds what the events leave. -/
structure StickyFlag {σ κ α : Type*} (capacity : ℕ) (call : σ → κ → σ)
    (event : κ → Option (LogEvent α)) (view : σ → List α) (flag : σ → Bool) : Prop where
  sticky : ∀ s c, flag s = true → flag (call s c) = true
  silent : ∀ s c, event c = none → view (call s c) = view s ∧ flag (call s c) = flag s
  fits : ∀ s c e, event c = some e → e.Fits capacity (view s) →
    view (call s c) = e.apply (view s) ∧ flag (call s c) = flag s
  raises : ∀ s c e, event c = some e → ¬ e.Fits capacity (view s) → flag (call s c) = true

namespace StickyFlag

variable {σ κ α : Type*} {capacity : ℕ} {call : σ → κ → σ} {event : κ → Option (LogEvent α)}
  {view : σ → List α} {flag : σ → Bool}

/-- A flag that is up stays up. -/
theorem flag_foldl (h : StickyFlag capacity call event view flag) (calls : List κ) {s : σ}
    (hs : flag s = true) : flag (calls.foldl call s) = true := by
  induction calls generalizing s with
  | nil => exact hs
  | cons c calls ih => exact ih (h.sticky s c hs)

/-- **A run with the flag down**: the flag stays down exactly when every event fits, and then the
machine holds the replay of its events. -/
theorem run (h : StickyFlag capacity call event view flag) (calls : List κ) {s : σ}
    (hs : flag s = false) :
    (flag (calls.foldl call s) = false ↔ AllFit capacity (view s) (calls.filterMap event)) ∧
      (AllFit capacity (view s) (calls.filterMap event) →
        view (calls.foldl call s) = replayFrom (view s) (calls.filterMap event)) := by
  induction calls generalizing s with
  | nil => exact ⟨⟨fun _ => trivial, fun _ => hs⟩, fun _ => rfl⟩
  | cons c calls ih =>
    rw [List.foldl_cons]
    cases he : event c with
    | none =>
      obtain ⟨hview, hflag⟩ := h.silent s c he
      have hrest := ih (hflag.trans hs)
      rwa [hview, ← List.filterMap_cons_none he] at hrest
    | some e =>
      rw [List.filterMap_cons_some he, replayFrom_cons, AllFit]
      by_cases hfits : e.Fits capacity (view s)
      · obtain ⟨hview, hflag⟩ := h.fits s c e he hfits
        have hrest := ih (hflag.trans hs)
        rw [hview] at hrest
        exact ⟨hrest.1.trans (and_iff_right hfits).symm, fun hall => hrest.2 hall.2⟩
      · have hup := h.flag_foldl calls (h.raises s c e he hfits)
        refine ⟨⟨fun hdown => ?_, fun hall => absurd hall.1 hfits⟩,
          fun hall => absurd hall.1 hfits⟩
        rw [hup] at hdown
        cases hdown

end StickyFlag

end AsynCS
