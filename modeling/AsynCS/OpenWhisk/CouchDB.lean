import AsynCS.Lib.Runs
import AsynCS.OpenWhisk.Document

/-!
# The result store on CouchDB

`CouchDBResultStore` keeps a record in the database when it reaches it, and in its own memory
when it does not.  A put asks for the document with a HEAD and then writes it with a PUT, and
anything may happen in between.

* `CouchState`, `Call`, `couchStep`: any number of clients of one store, and the other writers
  of the database, one HTTP call at a time.
* `WriteOnce`: what the store promises over a run.
* `OneStore`: a call fills no RID in one place that is taken in the other.
* `writeOnce_iff_oneStore`: the runs that keep the promise.
-/

namespace AsynCS
namespace OpenWhisk

/-! ## The store and its clients -/

/-- The store, its database, and the clients that have asked with a HEAD and have not yet sent
their PUT. -/
structure CouchState (κ : Type) where
  memory : ResultStore
  database : PyStr → Option Document
  waiting : κ → Option ConfidentialResult

/-- One HTTP call.  `reachable` is false when it raises `ConnectionError`. -/
inductive Call (κ : Type) where
  /-- a client enters `put_if_absent` and sends the HEAD -/
  | head (client : κ) (result : ConfidentialResult) (reachable : Bool)
  /-- it sends the PUT -/
  | put (client : κ) (reachable : Bool)
  | get (rid : PyStr) (reachable : Bool)
  /-- another writer of the database sends a PUT -/
  | other (result : ConfidentialResult)

/-- What a call returns. -/
inductive Answer where
  /-- nothing: the client is in another call, or the put goes on -/
  | nothing
  /-- `put_if_absent(result)` returns -/
  | returned (result : ConfidentialResult) (success : Bool)
  /-- `put_if_absent` raises -/
  | raised
  /-- `get(rid)` returns -/
  | got (rid : PyStr) (result : Option ConfidentialResult)
  /-- another writer's PUT is answered -/
  | wrote (result : ConfidentialResult) (status : ℕ)

/-- The status of a HEAD. -/
def headStatus (database : PyStr → Option Document) (rid : PyStr) : ℕ :=
  if (database rid).isSome then 200 else 404

/-- A PUT without `_rev`: the database takes a new document and answers 409 for an old one. -/
def putDocument (database : PyStr → Option Document) (result : ConfidentialResult) :
    (PyStr → Option Document) × ℕ :=
  match database result.rid with
  | some _ => (database, 409)
  | none => (Function.update database result.rid (some (documentOf result)), 201)

/-- What `put_if_absent` makes of the status of its PUT. -/
def putAnswer (result : ConfidentialResult) (status : ℕ) : Answer :=
  if status = 201 then .returned result true
  else if status = 409 then .returned result false
  else .raised

section Machine

variable {κ : Type} [DecidableEq κ]

/-- A new store on an empty database. -/
def CouchState.empty : CouchState κ := ⟨ResultStore.empty, fun _ => none, fun _ => none⟩

/-- The put in memory, when the database is not reached. -/
def fallBack (s : CouchState κ) (result : ConfidentialResult) : CouchState κ × Answer :=
  let (memory, success) := s.memory.putIfAbsent result
  ({ s with memory := memory }, .returned result success)

/-- The HEAD of `put_if_absent`, by a client in no other call. -/
def stepHead (s : CouchState κ) (client : κ) (result : ConfidentialResult) (reachable : Bool) :
    CouchState κ × Answer :=
  if reachable then
    if headStatus s.database result.rid = 200 then (s, .returned result false)
    else ({ s with waiting := Function.update s.waiting client (some result) }, .nothing)
  else fallBack s result

/-- The PUT of a client that waits to send it. -/
def stepPut (s : CouchState κ) (client : κ) (result : ConfidentialResult) (reachable : Bool) :
    CouchState κ × Answer :=
  let s := { s with waiting := Function.update s.waiting client none }
  if reachable then
    let (database, status) := putDocument s.database result
    ({ s with database := database }, putAnswer result status)
  else fallBack s result

/-- `get`. -/
def stepGet (s : CouchState κ) (rid : PyStr) (reachable : Bool) : Answer :=
  if reachable then .got rid ((s.database rid).bind (resultOf rid))
  else .got rid (s.memory.get rid)

/-- One HTTP call of anyone. -/
def couchStep (s : CouchState κ) : Call κ → CouchState κ × Answer
  | .head client result reachable =>
    match s.waiting client with
    | some _ => (s, .nothing)
    | none => stepHead s client result reachable
  | .put client reachable =>
    match s.waiting client with
    | none => (s, .nothing)
    | some result => stepPut s client result reachable
  | .get rid reachable => (s, stepGet s rid reachable)
  | .other result =>
    let (database, status) := putDocument s.database result
    ({ s with database := database }, .wrote result status)

/-! ## What is written once -/

/-- The record that an answer says was stored. -/
def Answer.accepted : Answer → Option ConfidentialResult
  | .returned result true => some result
  | .wrote result 201 => some result
  | _ => none

/-- The answers that stored a record for an RID. -/
def stores (rid : PyStr) (r : Record (CouchState κ) (Call κ) Answer) : Bool :=
  (r.output.accepted.map ConfidentialResult.rid) == some rid

/-- **Write once**: at most one put is accepted for each RID, and a record that `get` returns is
the record of an earlier put that was accepted. -/
structure WriteOnce (h : List (Record (CouchState κ) (Call κ) Answer)) : Prop where
  once : ∀ rid, h.countP (stores rid) ≤ 1
  reads : ∀ t r rid result, r :: t <:+ h → r.output = .got rid (some result) →
    result.rid = rid ∧ ∃ r' ∈ t, r'.output.accepted = some result

/-- The record that a call puts in memory. -/
def CouchState.fallback (s : CouchState κ) : Call κ → Option ConfidentialResult
  | .head client result false => if s.waiting client = none then some result else none
  | .put client false => s.waiting client
  | _ => none

/-- The record that a call PUTs in the database. -/
def CouchState.upload (s : CouchState κ) : Call κ → Option ConfidentialResult
  | .put client true => s.waiting client
  | .other result => some result
  | _ => none

/-- No record is put in one place while the other holds a record for its RID, unless the place
holds one too and rejects it. -/
structure OneStore (s : CouchState κ) (c : Call κ) : Prop where
  fallback : ∀ result, s.fallback c = some result → s.memory result.rid = none →
    s.database result.rid = none
  upload : ∀ result, s.upload c = some result → s.database result.rid = none →
    s.memory result.rid = none

/-- What one call can do: keep both places, or fill a free RID in one of them. -/
inductive Effect (s : CouchState κ) (c : Call κ) (s' : CouchState κ) (a : Answer) : Prop where
  | keeps (accepted : a.accepted = none) (memory : s'.memory = s.memory)
      (database : s'.database = s.database)
      (fallback : ∀ result, s.fallback c = some result → s.memory result.rid ≠ none)
      (upload : ∀ result, s.upload c = some result → s.database result.rid ≠ none)
  | remembers (result : ConfidentialResult) (fallback : s.fallback c = some result)
      (upload : s.upload c = none) (free : s.memory result.rid = none)
      (accepted : a.accepted = some result)
      (memory : s'.memory = Function.update s.memory result.rid (some result))
      (database : s'.database = s.database)
  | writes (result : ConfidentialResult) (upload : s.upload c = some result)
      (fallback : s.fallback c = none) (free : s.database result.rid = none)
      (accepted : a.accepted = some result) (memory : s'.memory = s.memory)
      (database : s'.database =
        Function.update s.database result.rid (some (documentOf result)))

omit [DecidableEq κ] in
/-- A put in memory, from any state that holds the same places. -/
theorem effect_fallBack {s t : CouchState κ} {c : Call κ} {result : ConfidentialResult}
    (hc : s.fallback c = some result) (hup : s.upload c = none) (hmemory : t.memory = s.memory)
    (hdatabase : t.database = s.database) :
    Effect s c (fallBack t result).1 (fallBack t result).2 := by
  cases hfree : s.memory result.rid with
  | some old =>
    have hput := @ResultStore.putIfAbsent_of_some t.memory result old (hmemory ▸ hfree)
    refine .keeps ?_ ?_ hdatabase (fun r hr => ?_) fun r hr => ?_
    · rw [fallBack, hput]
      rfl
    · rw [fallBack, hput]
      exact hmemory
    · rw [hc] at hr
      rw [← Option.some.inj hr, hfree]
      exact Option.some_ne_none old
    · rw [hup] at hr
      exact absurd hr (by simp)
  | none =>
    have hput := @ResultStore.putIfAbsent_of_none t.memory result (hmemory ▸ hfree)
    refine .remembers result hc hup hfree ?_ ?_ hdatabase
    · rw [fallBack, hput]
      rfl
    · rw [fallBack, hput]
      exact congrArg (fun m => Function.update m result.rid (some result)) hmemory

omit [DecidableEq κ] in
/-- A PUT, whoever sends it. -/
theorem effect_putDocument {s s' : CouchState κ} {c : Call κ} {a : Answer}
    {result : ConfidentialResult} (hc : s.upload c = some result) (hfall : s.fallback c = none)
    (hmemory : s'.memory = s.memory)
    (hdatabase : s'.database = (putDocument s.database result).1)
    (haccepted : a.accepted =
      if (putDocument s.database result).2 = 201 then some result else none) :
    Effect s c s' a := by
  cases hfree : s.database result.rid with
  | some old =>
    rw [putDocument, hfree] at hdatabase haccepted
    refine .keeps haccepted hmemory hdatabase (fun r hr => ?_) fun r hr => ?_
    · rw [hfall] at hr
      exact absurd hr (by simp)
    · rw [hc] at hr
      rw [← Option.some.inj hr, hfree]
      exact Option.some_ne_none old
  | none =>
    rw [putDocument, hfree] at hdatabase haccepted
    exact .writes result hc hfall hfree haccepted hmemory hdatabase

omit [DecidableEq κ] in
/-- A call that touches neither place. -/
theorem effect_idle {s s' : CouchState κ} {c : Call κ} {a : Answer}
    (haccepted : a.accepted = none) (hmemory : s'.memory = s.memory)
    (hdatabase : s'.database = s.database) (hfall : s.fallback c = none)
    (hup : s.upload c = none) : Effect s c s' a := by
  refine .keeps haccepted hmemory hdatabase (fun r hr => ?_) fun r hr => ?_
  · rw [hfall] at hr
    exact absurd hr (by simp)
  · rw [hup] at hr
    exact absurd hr (by simp)

/-- **One call** has one of the effects. -/
theorem effect (s : CouchState κ) (c : Call κ) :
    Effect s c (couchStep s c).1 (couchStep s c).2 := by
  cases c with
  | head client result reachable =>
    cases hw : s.waiting client with
    | some other =>
      rw [couchStep, hw]
      refine effect_idle rfl rfl rfl ?_ rfl
      cases reachable with
      | true => rfl
      | false => rw [CouchState.fallback, if_neg (by rw [hw]; exact Option.some_ne_none other)]
    | none =>
      rw [couchStep, hw]
      cases reachable with
      | false => exact effect_fallBack (by rw [CouchState.fallback, if_pos hw]) rfl rfl rfl
      | true =>
        simp only [stepHead, if_true]
        split
        · exact effect_idle rfl rfl rfl rfl rfl
        · exact effect_idle rfl rfl rfl rfl rfl
  | put client reachable =>
    cases hw : s.waiting client with
    | none =>
      rw [couchStep, hw]
      refine effect_idle rfl rfl rfl ?_ ?_
      · cases reachable with
        | true => rfl
        | false => exact hw
      · cases reachable with
        | true => exact hw
        | false => rfl
    | some result =>
      rw [couchStep, hw]
      cases reachable with
      | false => exact effect_fallBack hw rfl rfl rfl
      | true =>
        refine @effect_putDocument κ _ _ _ _ result hw rfl rfl rfl ?_
        show (putAnswer result (putDocument s.database result).2).accepted = _
        unfold putAnswer
        split
        · rfl
        · split
          · rfl
          · rfl
  | get rid reachable =>
    refine effect_idle ?_ rfl rfl rfl rfl
    cases reachable with
    | true => rfl
    | false => rfl
  | other result =>
    refine @effect_putDocument κ _ _ _ _ result rfl rfl rfl rfl ?_
    show (Answer.wrote result (putDocument s.database result).2).accepted = _
    unfold putDocument
    cases s.database result.rid with
    | some old => rfl
    | none => rfl

/-! ## Runs -/

/-- A run of calls on a new store. -/
abbrev CouchRun (h : List (Record (CouchState κ) (Call κ) Answer)) (s : CouchState κ) : Prop :=
  Reach couchStep CouchState.empty h s

/-- The number of places that hold a record for an RID. -/
def CouchState.places (s : CouchState κ) (rid : PyStr) : ℕ :=
  (s.memory rid).isSome.toNat + (s.database rid).isSome.toNat

/-- What the two places hold was accepted, and each accepted put fills a place of its own. -/
structure Held (h : List (Record (CouchState κ) (Call κ) Answer)) (s : CouchState κ) : Prop where
  count : ∀ rid, h.countP (stores rid) = s.places rid
  memory : ∀ rid result, s.memory rid = some result →
    result.rid = rid ∧ ∃ r ∈ h, r.output.accepted = some result
  database : ∀ rid doc, s.database rid = some doc → ∃ result : ConfidentialResult,
    result.rid = rid ∧ doc = documentOf result ∧ ∃ r ∈ h, r.output.accepted = some result

omit [DecidableEq κ] in
/-- Which RID a step stores a record for. -/
theorem stores_iff {rid : PyStr} {r : Record (CouchState κ) (Call κ) Answer} :
    stores rid r = true ↔ ∃ result, r.output.accepted = some result ∧ result.rid = rid := by
  rw [stores, beq_iff_eq, Option.map_eq_some_iff]

omit [DecidableEq κ] in
/-- Filling a free RID adds one to the places that hold it. -/
theorem countP_stores_cons {h : List (Record (CouchState κ) (Call κ) Answer)}
    {r : Record (CouchState κ) (Call κ) Answer} {result : ConfidentialResult}
    (haccepted : r.output.accepted = some result) (rid : PyStr) :
    (r :: h).countP (stores rid) = h.countP (stores rid) + (if rid = result.rid then 1 else 0) := by
  by_cases hrid : rid = result.rid
  · rw [if_pos hrid, List.countP_cons_of_pos (stores_iff.mpr ⟨result, haccepted, hrid.symm⟩)]
  · rw [if_neg hrid, List.countP_cons_of_neg fun hstores => ?_, Nat.add_zero]
    obtain ⟨other, hother, hrid'⟩ := stores_iff.mp hstores
    rw [haccepted] at hother
    exact hrid (by rw [← hrid', ← Option.some.inj hother])

/-- Filling a free RID of a map. -/
theorem toNat_isSome_update {α : Type*} {m : PyStr → Option α} {rid : PyStr} (a : α)
    (hfree : m rid = none) (rid' : PyStr) :
    (Function.update m rid (some a) rid').isSome.toNat =
      (m rid').isSome.toNat + (if rid' = rid then 1 else 0) := by
  by_cases hrid : rid' = rid
  · subst hrid
    have hself : Function.update m rid' (some a) rid' = some a := Function.update_self ..
    rw [hself, hfree, if_pos rfl]
    rfl
  · have hother : Function.update m rid (some a) rid' = m rid' := Function.update_of_ne hrid ..
    rw [hother, if_neg hrid, Nat.add_zero]

omit [DecidableEq κ] in
/-- The step lemma of `Held`. -/
theorem Held.step {h : List (Record (CouchState κ) (Call κ) Answer)} {s s' : CouchState κ}
    {c : Call κ} {a : Answer} (hheld : Held h s) (heffect : Effect s c s' a) :
    Held (⟨s, c, a⟩ :: h) s' := by
  have hold : ∀ {result : ConfidentialResult}, (∃ r ∈ h, r.output.accepted = some result) →
      ∃ r ∈ (⟨s, c, a⟩ : Record (CouchState κ) (Call κ) Answer) :: h,
        r.output.accepted = some result := by
    rintro result ⟨r, hr, hacc⟩
    exact ⟨r, List.mem_cons_of_mem _ hr, hacc⟩
  cases heffect with
  | keeps haccepted hmemory hdatabase _ _ =>
    refine ⟨fun rid => ?_, fun rid result hm => ?_, fun rid doc hd => ?_⟩
    · rw [List.countP_cons_of_neg, hheld.count, CouchState.places, CouchState.places, hmemory,
        hdatabase]
      rw [stores_iff]
      rintro ⟨result, hacc, -⟩
      rw [haccepted] at hacc
      exact absurd hacc (by simp)
    · rw [hmemory] at hm
      exact ⟨(hheld.memory rid result hm).1, hold (hheld.memory rid result hm).2⟩
    · rw [hdatabase] at hd
      obtain ⟨result, hrid, hdoc, hr⟩ := hheld.database rid doc hd
      exact ⟨result, hrid, hdoc, hold hr⟩
  | remembers result _ _ hfree haccepted hmemory hdatabase =>
    refine ⟨fun rid => ?_, fun rid result' hm => ?_, fun rid doc hd => ?_⟩
    · rw [countP_stores_cons haccepted, hheld.count, CouchState.places, CouchState.places,
        hmemory, hdatabase, toNat_isSome_update result hfree]
      omega
    · rw [hmemory] at hm
      by_cases hrid : rid = result.rid
      · subst hrid
        have hself : Function.update s.memory result.rid (some result) result.rid = some result :=
          Function.update_self ..
        obtain rfl := Option.some.inj (hself.symm.trans hm)
        exact ⟨rfl, _, List.mem_cons_self, haccepted⟩
      · have hother : Function.update s.memory result.rid (some result) rid = s.memory rid :=
          Function.update_of_ne hrid ..
        obtain ⟨hrid', hr⟩ := hheld.memory rid result' (hother.symm.trans hm)
        exact ⟨hrid', hold hr⟩
    · rw [hdatabase] at hd
      obtain ⟨result', hrid, hdoc, hr⟩ := hheld.database rid doc hd
      exact ⟨result', hrid, hdoc, hold hr⟩
  | writes result _ _ hfree haccepted hmemory hdatabase =>
    refine ⟨fun rid => ?_, fun rid result' hm => ?_, fun rid doc hd => ?_⟩
    · rw [countP_stores_cons haccepted, hheld.count, CouchState.places, CouchState.places,
        hmemory, hdatabase, toNat_isSome_update (documentOf result) hfree]
      omega
    · rw [hmemory] at hm
      exact ⟨(hheld.memory rid result' hm).1, hold (hheld.memory rid result' hm).2⟩
    · rw [hdatabase] at hd
      by_cases hrid : rid = result.rid
      · subst hrid
        have hself : Function.update s.database result.rid (some (documentOf result)) result.rid =
            some (documentOf result) := Function.update_self ..
        exact ⟨result, rfl, (Option.some.inj (hself.symm.trans hd)).symm, _, List.mem_cons_self,
          haccepted⟩
      · have hother : Function.update s.database result.rid (some (documentOf result)) rid =
            s.database rid := Function.update_of_ne hrid ..
        obtain ⟨result', hrid', hdoc, hr⟩ := hheld.database rid doc (hother.symm.trans hd)
        exact ⟨result', hrid', hdoc, hold hr⟩

/-- **In every run** the places hold what was accepted, whatever the database does. -/
theorem held_of_run {h : List (Record (CouchState κ) (Call κ) Answer)} {s : CouchState κ}
    (hr : CouchRun h s) : Held h s := by
  refine hr.invariant Held ⟨fun rid => rfl, fun rid result hm => ?_, fun rid doc hd => ?_⟩
    fun h s c _ hheld => hheld.step (effect s c)
  · exact absurd hm (by simp [CouchState.empty, ResultStore.empty])
  · exact absurd hd (by simp [CouchState.empty])

omit [DecidableEq κ] in
theorem fallBack_ne_got {s : CouchState κ} {result : ConfidentialResult} {rid : PyStr}
    {o : Option ConfidentialResult} : (fallBack s result).2 ≠ .got rid o :=
  Answer.noConfusion

/-- Only `get` answers with a record. -/
theorem eq_get_of_got {s : CouchState κ} {c : Call κ} {rid : PyStr}
    {o : Option ConfidentialResult} (h : (couchStep s c).2 = .got rid o) :
    ∃ reachable, c = .get rid reachable ∧
      o = if reachable then (s.database rid).bind (resultOf rid) else s.memory rid := by
  cases c with
  | head client result reachable =>
    rw [couchStep] at h
    cases hw : s.waiting client with
    | some other =>
      rw [hw] at h
      exact Answer.noConfusion h
    | none =>
      rw [hw] at h
      cases reachable with
      | false => exact absurd h fallBack_ne_got
      | true =>
        simp only [stepHead, if_true] at h
        split at h
        · exact Answer.noConfusion h
        · exact Answer.noConfusion h
  | put client reachable =>
    rw [couchStep] at h
    cases hw : s.waiting client with
    | none =>
      rw [hw] at h
      exact Answer.noConfusion h
    | some result =>
      rw [hw] at h
      cases reachable with
      | false => exact absurd h fallBack_ne_got
      | true =>
        simp only [stepPut, if_true, putAnswer] at h
        split at h
        · exact Answer.noConfusion h
        · split at h
          · exact Answer.noConfusion h
          · exact Answer.noConfusion h
  | get rid' reachable =>
    cases reachable with
    | true =>
      obtain ⟨rfl, rfl⟩ := Answer.got.inj h
      exact ⟨true, rfl, rfl⟩
    | false =>
      obtain ⟨rfl, rfl⟩ := Answer.got.inj h
      exact ⟨false, rfl, rfl⟩
  | other result => exact Answer.noConfusion h

/-- What `get` returns was accepted before. -/
theorem accepted_of_got {h : List (Record (CouchState κ) (Call κ) Answer)} {s : CouchState κ}
    (hheld : Held h s) {c : Call κ} {rid : PyStr} {result : ConfidentialResult}
    (hgot : (couchStep s c).2 = .got rid (some result)) :
    result.rid = rid ∧ ∃ r ∈ h, r.output.accepted = some result := by
  obtain ⟨reachable, -, ho⟩ := eq_get_of_got hgot
  cases reachable with
  | false => exact hheld.memory rid result ho.symm
  | true =>
    obtain ⟨doc, hdoc, hresult⟩ := Option.bind_eq_some_iff.mp ho.symm
    obtain ⟨stored, rfl, rfl, hr⟩ := hheld.database rid doc hdoc
    rw [resultOf_documentOf] at hresult
    rw [← Option.some.inj hresult]
    exact ⟨rfl, hr⟩

/-- While every call keeps to one store, no RID is held in both places. -/
theorem places_le_one {h : List (Record (CouchState κ) (Call κ) Answer)} {s : CouchState κ}
    (hr : CouchRun h s) (hone : ∀ r ∈ h, OneStore r.pre r.input) (rid : PyStr) :
    s.memory rid = none ∨ s.database rid = none := by
  induction hr with
  | start => exact .inl rfl
  | @step h s prior c ih =>
    have hprior := ih fun r hr => hone r (List.mem_cons_of_mem _ hr)
    have hc : OneStore s c := hone _ List.mem_cons_self
    cases effect s c with
    | keeps _ hmemory hdatabase _ _ => rwa [hmemory, hdatabase]
    | remembers result hfall _ hfree _ hmemory hdatabase =>
      rw [hmemory, hdatabase]
      by_cases hrid : rid = result.rid
      · rw [hrid]
        exact .inr (hc.fallback result hfall hfree)
      · have hother : Function.update s.memory result.rid (some result) rid = s.memory rid :=
          Function.update_of_ne hrid ..
        rwa [hother]
    | writes result hup _ hfree _ hmemory hdatabase =>
      rw [hmemory, hdatabase]
      by_cases hrid : rid = result.rid
      · rw [hrid]
        exact .inl (hc.upload result hup hfree)
      · have hother : Function.update s.database result.rid (some (documentOf result)) rid =
            s.database rid := Function.update_of_ne hrid ..
        rwa [hother]

/-- Filling an RID in one place while the other holds it stores two records for it. -/
theorem two_le_of_not_oneStore {t : List (Record (CouchState κ) (Call κ) Answer)}
    {s : CouchState κ} (hheld : Held t s) {c : Call κ} (hnot : ¬ OneStore s c) :
    ∃ rid, 2 ≤ ((⟨s, c, (couchStep s c).2⟩ : Record (CouchState κ) (Call κ) Answer) :: t).countP
      (stores rid) := by
  cases effect s c with
  | keeps _ _ _ hfall hup =>
    exact absurd ⟨fun result hr hfree => absurd hfree (hfall result hr),
      fun result hr hfree => absurd hfree (hup result hr)⟩ hnot
  | remembers result hfall hup hfree haccepted _ _ =>
    refine ⟨result.rid, ?_⟩
    rw [countP_stores_cons haccepted, if_pos rfl, hheld.count, CouchState.places, hfree]
    cases hdatabase : s.database result.rid with
    | some doc => exact le_rfl
    | none =>
      refine absurd ⟨fun other hother _ => ?_, fun other hother => ?_⟩ hnot
      · rw [hfall] at hother
        rw [← Option.some.inj hother, hdatabase]
      · rw [hup] at hother
        exact absurd hother (by simp)
  | writes result hup hfall hfree haccepted _ _ =>
    refine ⟨result.rid, ?_⟩
    rw [countP_stores_cons haccepted, if_pos rfl, hheld.count, CouchState.places, hfree]
    cases hmemory : s.memory result.rid with
    | some old => exact le_rfl
    | none =>
      refine absurd ⟨fun other hother => ?_, fun other hother _ => ?_⟩ hnot
      · rw [hfall] at hother
        exact absurd hother (by simp)
      · rw [hup] at hother
        rw [← Option.some.inj hother, hmemory]

/-- **Which runs write once**: those in which no record is put in one place while the other one
holds a record for its RID, whatever calls and failures they interleave. -/
theorem writeOnce_iff_oneStore {h : List (Record (CouchState κ) (Call κ) Answer)}
    {s : CouchState κ} (hr : CouchRun h s) :
    WriteOnce h ↔ ∀ r ∈ h, OneStore r.pre r.input := by
  constructor
  · intro hwrite r hm
    by_contra hnot
    obtain ⟨t, hsub, hpre, -, hout⟩ := hr.of_mem hm
    obtain ⟨rid, htwo⟩ := two_le_of_not_oneStore (held_of_run hpre) hnot
    have hcount : (r :: t).countP (stores rid) ≤ h.countP (stores rid) :=
      hsub.sublist.countP_le
    rw [← hout] at htwo
    have honce := hwrite.once rid
    have hmany : 2 ≤ (r :: t).countP (stores rid) := htwo
    omega
  · intro hone
    constructor
    · intro rid
      rw [(held_of_run hr).count, CouchState.places]
      rcases places_le_one hr hone rid with hnone | hnone
      · rw [hnone]
        exact le_trans (le_of_eq (Nat.zero_add _)) (Bool.toNat_le _)
      · rw [hnone]
        exact Bool.toNat_le _
    · intro t r rid result hsub hgot
      obtain ⟨h₁, rfl⟩ := hsub
      obtain ⟨s', hs'⟩ := hr.tail
      obtain ⟨hpre, hstep⟩ := Reach.cons_iff.mp hs'
      have hanswer : (couchStep r.pre r.input).2 = .got rid (some result) := by
        rw [hstep, hgot]
      exact accepted_of_got (held_of_run hpre) hanswer

end Machine

/-! ## Two puts -/

/-- A record for the RID `r`. -/
def sampleResult (byte : UInt8) : ConfidentialResult :=
  ⟨PyStr.ofText ['r'], [byte], [byte], PyStr.ofText ['t']⟩

/-- A call that reaches the database, when none has failed to. -/
theorem oneStore_of_reached {κ : Type} {s : CouchState κ} {c : Call κ}
    (hmemory : s.memory = ResultStore.empty) (hfall : s.fallback c = none) : OneStore s c := by
  constructor
  · intro result hr _
    rw [hfall] at hr
    exact absurd hr (by simp)
  · intro result _ _
    rw [hmemory]
    rfl

/-- Two puts for one RID on a database that is there, the second between the HEAD and the PUT of
the first, and a `get`. -/
def race : List (Call (Fin 2)) :=
  [.head 0 (sampleResult 1) true, .head 1 (sampleResult 2) true, .put 1 true, .put 0 true,
    .get (PyStr.ofText ['r']) true]

/-- The race is written once. -/
theorem race_writeOnce : WriteOnce (runOn couchStep [] CouchState.empty race).1 := by
  refine (writeOnce_iff_oneStore (reach_runOn couchStep race .start)).mpr fun r hr => ?_
  simp only [race, runOn, List.mem_cons, List.not_mem_nil, or_false] at hr
  rcases hr with rfl | rfl | rfl | rfl | rfl <;> exact oneStore_of_reached rfl rfl

/-- A put while the database is away, and a put when it is back. -/
def outage : List (Call (Fin 2)) :=
  [.head 0 (sampleResult 1) false, .head 1 (sampleResult 2) true, .put 1 true]

/-- Both puts of the outage return `True`. -/
theorem not_forall_writeOnce :
    ¬ ∀ h s, CouchRun (κ := Fin 2) h s → WriteOnce h := by
  intro h
  have hr : CouchRun (κ := Fin 2) (runOn couchStep [] CouchState.empty outage).1
      (runOn couchStep [] CouchState.empty outage).2 := reach_runOn couchStep outage .start
  have honce := (h _ _ hr).once (PyStr.ofText ['r'])
  exact absurd honce (by decide +kernel)

end OpenWhisk
end AsynCS
