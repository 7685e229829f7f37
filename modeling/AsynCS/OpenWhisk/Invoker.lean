import AsynCS.Client.Encoding

/-!
# The invoker and its result store

The invoker files the result of a request under its RID.  The store takes the first result for
an RID and rejects later ones.

* `ConfidentialResult`: a record.
* `ResultStore`: the store in memory; `putIfAbsent` and `get`, each under the lock of the store.
* `ConfidentialActionsInvoker.storeResult`: what the invoker does with it.
-/

namespace AsynCS
namespace OpenWhisk

open Client

/-- `ConfidentialResult`. -/
structure ConfidentialResult where
  rid : PyStr
  ct : Bytes
  cOut : Bytes
  timestamp : PyStr
  deriving DecidableEq

/-- `ResultStore`: the record of each RID. -/
abbrev ResultStore := PyStr → Option ConfidentialResult

namespace ResultStore

/-- `__init__`. -/
def empty : ResultStore := fun _ => none

/-- `put_if_absent`, with what it returns. -/
def putIfAbsent (store : ResultStore) (result : ConfidentialResult) : ResultStore × Bool :=
  match store result.rid with
  | some _ => (store, false)
  | none => (Function.update store result.rid (some result), true)

/-- `get`. -/
def get (store : ResultStore) (rid : PyStr) : Option ConfidentialResult := store rid

theorem putIfAbsent_of_some {store : ResultStore} {result old : ConfidentialResult}
    (h : store result.rid = some old) : store.putIfAbsent result = (store, false) := by
  rw [putIfAbsent, h]

theorem putIfAbsent_of_none {store : ResultStore} {result : ConfidentialResult}
    (h : store result.rid = none) :
    store.putIfAbsent result = (Function.update store result.rid (some result), true) := by
  rw [putIfAbsent, h]

/-- What a put returns says whether the RID was free. -/
theorem putIfAbsent_snd (store : ResultStore) (result : ConfidentialResult) :
    (store.putIfAbsent result).2 = (store result.rid).isNone := by
  cases h : store result.rid with
  | none => rw [putIfAbsent_of_none h]; rfl
  | some old => rw [putIfAbsent_of_some h]; rfl

/-- **First writer wins**: a put changes no record that is there. -/
theorem putIfAbsent_keeps {store : ResultStore} {result old : ConfidentialResult} {rid : PyStr}
    (h : store rid = some old) : (store.putIfAbsent result).1 rid = some old := by
  cases hr : store result.rid with
  | some r =>
    rw [putIfAbsent_of_some hr]
    exact h
  | none =>
    have hne : rid ≠ result.rid := by
      rintro rfl
      rw [hr] at h
      exact absurd h (by simp)
    rw [putIfAbsent_of_none hr]
    exact (Function.update_of_ne hne _ _).trans h

/-- The records after a put: the old ones, and the new one if it was taken. -/
theorem putIfAbsent_fst_eq_some {store : ResultStore} {result r : ConfidentialResult}
    {rid : PyStr} (h : (store.putIfAbsent result).1 rid = some r) :
    store rid = some r ∨
      (store.putIfAbsent result).2 = true ∧ rid = result.rid ∧ r = result := by
  cases hr : store result.rid with
  | some old =>
    rw [putIfAbsent_of_some hr] at h
    exact .inl h
  | none =>
    rw [putIfAbsent_of_none hr] at h ⊢
    by_cases hrid : rid = result.rid
    · subst hrid
      have hself : Function.update store result.rid (some result) result.rid = some result :=
        Function.update_self ..
      exact .inr ⟨rfl, rfl, (Option.some.inj (hself.symm.trans h)).symm⟩
    · have hother : Function.update store result.rid (some result) rid = store rid :=
        Function.update_of_ne hrid _ _
      exact .inl (hother.symm.trans h)

end ResultStore

namespace ConfidentialActionsInvoker

/-- `compute_rid`. -/
def computeRid (S : Sgx) (fid : PyStr) (cReq : Bytes) : Option PyStr := canonicalRid S fid cReq

/-- `store_result`, with what it returns: it raises when the RID cannot be computed. -/
def storeResult (S : Sgx) (store : ResultStore) (fid : PyStr) (cReq ct cOut : Bytes)
    (timestamp : PyStr) : ResultStore × Option (Bool × PyStr) :=
  match computeRid S fid cReq with
  | none => (store, none)
  | some rid =>
    let (store', success) := store.putIfAbsent ⟨rid, ct, cOut, timestamp⟩
    (store', some (success, rid))

end ConfidentialActionsInvoker

end OpenWhisk
end AsynCS
