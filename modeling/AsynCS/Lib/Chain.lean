import Mathlib.Data.List.Basic

/-!
# Chains of futures that are cleaned up

A chain of futures does one thing after another.  Each of them succeeds or fails; a failure ends
the chain, unless it is handled.  What was done on the way stays, whatever becomes of the chain.

* `Chain ε χ α`: what is done, in order, and the value or the failure.
* `flatMap`, `recoverWith`, `transformWith`: a chain that goes on after a success, after a failure,
  or after either.
* `Chain.Ends`: a postcondition on what was done and how it ended; `ends_transformWith_iff` and its
  companions read one off the text of a chain.
-/

namespace AsynCS

/-- What is done, in order, and what comes of it. -/
structure Chain (ε χ α : Type) where
  log : List ε
  result : Except χ α

namespace Chain

variable {ε χ α β : Type}

def successful (a : α) : Chain ε χ α := ⟨[], .ok a⟩

def failed (e : χ) : Chain ε χ α := ⟨[], .error e⟩

/-- One thing is done, with the given outcome. -/
def call (event : ε) (outcome : Except χ α) : Chain ε χ α := ⟨[event], outcome⟩

/-- Go on after a success and after a failure. -/
def transformWith (x : Chain ε χ α) (f : Except χ α → Chain ε χ β) : Chain ε χ β :=
  ⟨x.log ++ (f x.result).log, (f x.result).result⟩

/-- Go on after a success. -/
def flatMap (x : Chain ε χ α) (f : α → Chain ε χ β) : Chain ε χ β :=
  x.transformWith fun
    | .ok a => f a
    | .error e => failed e

/-- Go on after a failure. -/
def recoverWith (x : Chain ε χ α) (f : χ → Chain ε χ α) : Chain ε χ α :=
  x.transformWith fun
    | .ok a => successful a
    | .error e => f e

@[simp] theorem log_call (event : ε) (outcome : Except χ α) :
    (call event outcome).log = [event] := rfl

@[simp] theorem log_failed (e : χ) : (failed e : Chain ε χ α).log = [] := rfl

@[simp] theorem log_successful (a : α) : (successful a : Chain ε χ α).log = [] := rfl

@[simp] theorem log_transformWith (x : Chain ε χ α) (f : Except χ α → Chain ε χ β) :
    (x.transformWith f).log = x.log ++ (f x.result).log := rfl

/-- What was done and how it ended have `P`. -/
def Ends (x : Chain ε χ α) (P : List ε → Except χ α → Prop) : Prop := P x.log x.result

variable {x : Chain ε χ α} {P P' : List ε → Except χ α → Prop}
  {Q : List ε → Except χ β → Prop}

theorem Ends.mono (h : x.Ends P) (himp : ∀ l r, P l r → P' l r) : x.Ends P' := himp _ _ h

theorem Ends.and (h : x.Ends P) (h' : x.Ends P') : x.Ends fun l r => P l r ∧ P' l r := ⟨h, h'⟩

@[simp] theorem ends_successful_iff {a : α} :
    (successful a : Chain ε χ α).Ends P ↔ P [] (.ok a) := Iff.rfl

@[simp] theorem ends_failed_iff {e : χ} : (failed e : Chain ε χ α).Ends P ↔ P [] (.error e) :=
  Iff.rfl

@[simp] theorem ends_call_iff {event : ε} {outcome : Except χ α} :
    (call event outcome).Ends P ↔ P [event] outcome := Iff.rfl

/-- What comes after, whatever came before. -/
theorem ends_transformWith_iff {f : Except χ α → Chain ε χ β} :
    (x.transformWith f).Ends Q ↔ x.Ends fun l r => (f r).Ends fun l' r' => Q (l ++ l') r' :=
  Iff.rfl

/-- A success goes on, and a failure is the end. -/
theorem ends_flatMap_iff {f : α → Chain ε χ β} :
    (x.flatMap f).Ends Q ↔
      x.Ends fun l r =>
        (∀ a, r = .ok a → (f a).Ends fun l' r' => Q (l ++ l') r') ∧
          ∀ e, r = .error e → Q l (.error e) := by
  rw [flatMap, ends_transformWith_iff]
  unfold Ends
  cases x.result with
  | ok a => simp
  | error e => simp [failed]

/-- A failure goes on, and a success is the end. -/
theorem ends_recoverWith_iff {f : χ → Chain ε χ α} :
    (x.recoverWith f).Ends P ↔
      x.Ends fun l r =>
        (∀ a, r = .ok a → P l (.ok a)) ∧
          ∀ e, r = .error e → (f e).Ends fun l' r' => P (l ++ l') r' := by
  rw [recoverWith, ends_transformWith_iff]
  unfold Ends
  cases x.result with
  | ok a => simp [successful]
  | error e => simp

end Chain

end AsynCS
