import Mathlib

/-!
# Runs of a state machine, with their histories

A machine takes an input in a state and answers with an output in a next state.  A run is
recorded newest step first: each record keeps the state before the step, the input and the
output, so a property of a run can speak of what was answered earlier, of the latest step of
a kind, and of what happened in between.

* `Reach step s₀ h s`: the run with history `h` from `s₀` ends in `s`.
* `Reach.invariant`: what holds at the start and is kept by every step holds after every run.
* `Reach.tail`: every shorter history is a run of its own.
* `Throughout`: a property at every point of a run; `Throughout.at_record` reads one off at a
  step, and `Throughout.iff_of_step` characterises the runs that have one by their steps.
* `Reach.map`: a machine that simulates another maps runs to runs.
-/

namespace AsynCS

/-- One step of a run: the state before it, the input, and the output. -/
structure Record (σ ι ο : Type*) where
  pre : σ
  input : ι
  output : ο

/-- The run with history `h` (newest step first) from `s₀` ends in `s`. -/
inductive Reach {σ ι ο : Type*} (step : σ → ι → σ × ο) (s₀ : σ) :
    List (Record σ ι ο) → σ → Prop where
  | start : Reach step s₀ [] s₀
  | step {h : List (Record σ ι ο)} {s : σ} (prior : Reach step s₀ h s) (i : ι) :
      Reach step s₀ (⟨s, i, (step s i).2⟩ :: h) (step s i).1

namespace Reach

variable {σ ι ο : Type*} {step : σ → ι → σ × ο} {s₀ s : σ} {h : List (Record σ ι ο)}

/-- **Invariants.**  A property of histories and states that holds at the start and is kept
by every step of a run holds after every run. -/
theorem invariant (I : List (Record σ ι ο) → σ → Prop) (h0 : I [] s₀)
    (hstep : ∀ h s i, Reach step s₀ h s → I h s →
      I (⟨s, i, (step s i).2⟩ :: h) (step s i).1)
    (hr : Reach step s₀ h s) : I h s := by
  induction hr with
  | start => exact h0
  | step prior i ih => exact hstep _ _ i prior ih

/-- The last step of a run. -/
theorem cons_iff {r : Record σ ι ο} :
    Reach step s₀ (r :: h) s ↔
      Reach step s₀ h r.pre ∧ step r.pre r.input = (s, r.output) := by
  constructor
  · intro hr
    cases hr with
    | step prior i => exact ⟨prior, rfl⟩
  · rintro ⟨prior, hs⟩
    obtain ⟨pre, i, o⟩ := r
    have hr := Reach.step prior i
    rw [show step pre i = (s, o) from hs] at hr
    exact hr

/-- A history determines the state it ends in. -/
theorem state_unique {s' : σ} (hr : Reach step s₀ h s) (hr' : Reach step s₀ h s') : s = s' := by
  cases hr with
  | start =>
    cases hr'
    rfl
  | step prior i =>
    have hs := (cons_iff.mp hr').2
    exact congrArg Prod.fst hs

/-- Every shorter history is a run. -/
theorem tail {h₁ h₂ : List (Record σ ι ο)} (hr : Reach step s₀ (h₁ ++ h₂) s) :
    ∃ s', Reach step s₀ h₂ s' := by
  induction h₁ generalizing s with
  | nil => exact ⟨s, hr⟩
  | cons r h₁ ih => exact ih (cons_iff.mp hr).1

/-- A recorded step was a step of the machine, taken after a run. -/
theorem of_mem {r : Record σ ι ο} (hr : Reach step s₀ h s) (hm : r ∈ h) :
    ∃ t, r :: t <:+ h ∧ Reach step s₀ t r.pre ∧
      Reach step s₀ (r :: t) (step r.pre r.input).1 ∧ r.output = (step r.pre r.input).2 := by
  obtain ⟨h₁, t, rfl⟩ := List.append_of_mem hm
  obtain ⟨s', hs'⟩ := hr.tail
  obtain ⟨hpre, hstep⟩ := cons_iff.mp hs'
  refine ⟨t, List.suffix_append h₁ (r :: t), hpre, ?_, ?_⟩
  · rw [hstep]
    exact hs'
  · rw [hstep]

/-- **Simulation.**  When each step of one machine is a step of another or changes nothing
that the other sees, the runs of the first map to runs of the second. -/
theorem map {σ' ι' ο' : Type*} {step' : σ' → ι' → σ' × ο'} (f : σ → σ')
    (g : ι → Option ι') (o : ι' → ο → ο')
    (hskip : ∀ s i, g i = none → f (step s i).1 = f s)
    (hsim : ∀ s i i', g i = some i' →
      step' (f s) i' = (f (step s i).1, o i' (step s i).2))
    (hr : Reach step s₀ h s) :
    Reach step' (f s₀)
      (h.filterMap fun r => (g r.input).map fun i' => ⟨f r.pre, i', o i' r.output⟩) (f s) := by
  induction hr with
  | start => exact Reach.start
  | @step h s prior i ih =>
    cases hg : g i with
    | none =>
      rw [List.filterMap_cons_none (by simp only [hg, Option.map_none]), hskip s i hg]
      exact ih
    | some i' =>
      rw [List.filterMap_cons_some (b := ⟨f s, i', o i' (step s i).2⟩)
        (by simp only [hg, Option.map_some])]
      exact cons_iff.mpr ⟨ih, hsim s i i' hg⟩

end Reach

/-! ## Properties at every point of a run -/

variable {σ ι ο : Type*}

/-- `P` holds at every point of the run with history `h`: after each of its steps, and before
the first. -/
def Throughout (step : σ → ι → σ × ο) (s₀ : σ) (P : List (Record σ ι ο) → σ → Prop)
    (h : List (Record σ ι ο)) : Prop :=
  ∀ t s, t <:+ h → Reach step s₀ t s → P t s

namespace Throughout

variable {step : σ → ι → σ × ο} {s₀ : σ} {P : List (Record σ ι ο) → σ → Prop}
  {h : List (Record σ ι ο)}

/-- A property that every run ending inside `h` has holds throughout `h`, when what the runs
are asked to satisfy passes to shorter histories. -/
theorem of_records {C : Record σ ι ο → Prop}
    (hP : ∀ t s, Reach step s₀ t s → (∀ r ∈ t, C r) → P t s) (hC : ∀ r ∈ h, C r) :
    Throughout step s₀ P h :=
  fun t s hsub hr => hP t s hr fun r hm => hC r (hsub.subset hm)

/-- What holds throughout a run holds after each of its steps. -/
theorem at_record (hP : Throughout step s₀ P h) {s : σ} (hr : Reach step s₀ h s)
    {r : Record σ ι ο} (hm : r ∈ h) :
    ∃ t, Reach step s₀ t r.pre ∧ P (r :: t) (step r.pre r.input).1 ∧
      r.output = (step r.pre r.input).2 := by
  obtain ⟨t, hsub, hpre, hpost, hout⟩ := hr.of_mem hm
  exact ⟨t, hpre, hP _ _ hsub hpost, hout⟩

/-- **Exact conditions.**  When a step from a point with `I` leads to a point with `I` exactly if
the step has `C`, then `I` holds throughout a run exactly if all its steps have `C`.  What every
run has may be used at each step. -/
theorem iff_of_step {S I : σ → Prop} {C : σ → ι → Prop}
    (hS : ∀ {t s}, Reach step s₀ t s → S s) (h0 : I s₀)
    (hstep : ∀ s i, S s → I s → (I (step s i).1 ↔ C s i)) {s : σ} (hr : Reach step s₀ h s) :
    Throughout step s₀ (fun _ s => I s) h ↔ ∀ r ∈ h, C r.pre r.input := by
  constructor
  · intro hall r hm
    obtain ⟨t, hsub, hpre, hpost, -⟩ := hr.of_mem hm
    have hbefore := hall t r.pre ((List.suffix_cons r t).trans hsub) hpre
    exact (hstep _ _ (hS hpre) hbefore).mp (hall _ _ hsub hpost)
  · refine of_records fun t s ht hc => ?_
    induction ht with
    | start => exact h0
    | @step t s prior i ih =>
      have hbefore := ih fun r hm => hc r (List.mem_cons_of_mem _ hm)
      exact (hstep _ _ (hS prior) hbefore).mpr (hc _ List.mem_cons_self)

end Throughout

/-! ## Running a machine on a list of inputs -/

/-- The history and the final state of the run on the given inputs, first input first. -/
def runOn (step : σ → ι → σ × ο) : List (Record σ ι ο) → σ → List ι → List (Record σ ι ο) × σ
  | h, s, [] => (h, s)
  | h, s, i :: is => runOn step (⟨s, i, (step s i).2⟩ :: h) (step s i).1 is

/-- A computed run is a run. -/
theorem reach_runOn (step : σ → ι → σ × ο) {s₀ : σ} :
    ∀ (is : List ι) {h : List (Record σ ι ο)} {s : σ}, Reach step s₀ h s →
      Reach step s₀ (runOn step h s is).1 (runOn step h s is).2
  | [], _, _, hr => hr
  | i :: is, _, _, hr => reach_runOn step is (hr.step i)

end AsynCS
