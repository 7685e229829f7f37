import AsynCS.Lib.PutIfAbsent
import AsynCS.Lib.Runs
import AsynCS.OpenWhisk.Document

/-!
# Confidential actions in the invoker of OpenWhisk

`InvokerReactive.runConfidentialAction` runs the worker for an activation, files what the worker
printed under its RID and answers with it.  Any number of executions run at the same time and
meet in `ConfidentialResultStore`, a `ConcurrentHashMap`.

* `parseOutput`: the record that an execution makes of the lines of its worker.
* `Execution`, `InvokerState`, `invokerStep`: the executions, one event after another.  Behind
  the put an execution touches nothing that is shared, so its answer comes with the put.
* `Idempotent`: what the store and the answers owe each other.
* `idempotent_iff`: the runs that keep it.

An execution gets its activation with the fields of the content read and decoded; the files and
the process that it starts are its environment.
-/

namespace AsynCS
namespace OpenWhisk
namespace InvokerReactive

/-! ## What a worker printed -/

/-- The full-width letters from A to F. -/
def fullWidthHex (c : Char) : Option ℕ :=
  if 0xFF21 ≤ c.toNat ∧ c.toNat ≤ 0xFF26 then some (c.toNat - 0xFF21 + 10)
  else if 0xFF41 ≤ c.toNat ∧ c.toNat ≤ 0xFF46 then some (c.toNat - 0xFF41 + 10)
  else none

/-- `Character.digit(c, 16)`.  A character outside the basic plane is two `char`s, and no
digit. -/
def characterDigit16 (c : Char) : Option ℕ :=
  if 0x10000 ≤ c.toNat then none
  else (hexValue c).or ((decimalValue c).or (fullWidthHex c))

/-- The value of hexadecimal digits, at least one of them. -/
def digits16 (t : Text) : Option ℕ :=
  if t = [] then none
  else t.foldlM (fun value c => (characterDigit16 c).map (16 * value + ·)) 0

/-- `Integer.parseInt(t, 16)` of a text that is too short to overflow. -/
def parseInt16 (t : Text) : Option Int :=
  if t.head? = some '-' then (digits16 t.tail).map fun value => -(value : Int)
  else if t.head? = some '+' then (digits16 t.tail).map fun value => (value : Int)
  else (digits16 t).map fun value => (value : Int)

/-- `sliding(2, 2)`: the last window may be short. -/
def slidingPairs : Text → List Text
  | [] => []
  | [c] => [[c]]
  | c :: d :: t => [c, d] :: slidingPairs t

/-- `hex.sliding(2, 2).toArray.map(Integer.parseInt(_, 16).toByte)` -/
def hexToBytes (hex : Text) : Option Bytes :=
  (slidingPairs hex).mapM fun pair => (parseInt16 pair).map UInt8.ofInt

/-- `map("%02x".format(_)).mkString` -/
def hexOf (b : Bytes) : Text := (hexEncode b).map fun x => Char.ofNat x.toNat

/-- `String.trim`. -/
def trim (t : Text) : Text := stripWhile (fun c => decide (c.toNat ≤ 0x20)) t

/-- `ConfidentialResult`. -/
structure ConfidentialResult where
  rid : Text
  ct : Text
  cOut : Text
  timestamp : Text
  deriving DecidableEq

/-- `ConfidentialResultStore.computeRid`. -/
def computeRid (S : Sgx) (fid : Text) (cReqBytes : Bytes) : Option Text := do
  let fidStripped := trim fid
  let fidBytes ←
    if fidStripped.length = 64 ∧ fidStripped.all fun c => (hexValue c).isSome then
      hexToBytes fidStripped
    else some (utf8 fidStripped)
  some (hexOf (S.sha256 (fidBytes ++ cReqBytes)).toList)

/-- What an execution knows of its activation: the FID in the annotations of the action, and
the bytes of `C_req`. -/
structure Activation where
  fid : Text
  cReq : Bytes

/-- The text behind the mark on the first line that starts with it. -/
def lineValue (mark : String) (lines : List Text) : Option Text :=
  (lines.find? fun line => mark.toList.isPrefixOf line).map (List.drop mark.toList.length)

/-- `ct`: empty when the worker printed none. -/
def ctOf (lines : List Text) : Option Text :=
  match lineValue "CT_HEX:" lines with
  | some hex => (hexToBytes hex).map b64text
  | none => some []

/-- `rid`: computed when the worker printed none. -/
def ridOf (S : Sgx) (activation : Activation) (lines : List Text) : Option Text :=
  match lineValue "RID_HEX:" lines with
  | some rid => some (trim rid)
  | none => computeRid S activation.fid activation.cReq

/-- The record of an execution whose worker printed a result; `none` when a number does not
parse, which raises. -/
def recordOf (S : Sgx) (activation : Activation) (lines : List Text) (resultHex now : Text) :
    Option ConfidentialResult := do
  let bytes ← hexToBytes resultHex
  let ct ← ctOf lines
  let rid ← ridOf S activation lines
  some ⟨rid, ct, b64text bytes, now⟩

/-- What comes of the lines of a worker. -/
inductive Parsed where
  /-- no result line: the answer is an error text -/
  | noResult
  /-- a `NumberFormatException` fails the future -/
  | raised
  | result (result : ConfidentialResult)

/-- The lines of a worker that exited with 0. -/
def parseOutput (S : Sgx) (activation : Activation) (lines : List Text) (now : Text) : Parsed :=
  match lineValue "RESULT_HEX:" lines with
  | none => .noResult
  | some resultHex =>
    match recordOf S activation lines resultHex now with
    | none => .raised
    | some result => .result result

/-! ## Executions -/

/-- How far an execution has come. -/
inductive Execution where
  | idle
  | running (activation : Activation)
  | parsed (result : ConfidentialResult)
  | done

/-- The store, and the executions. -/
structure InvokerState (ε : Type) where
  store : Text → Option ConfidentialResult
  execution : ε → Execution

/-- What happens to an execution. -/
inductive Event (ε : Type) where
  /-- `runConfidentialAction` starts the worker -/
  | dispatch (e : ε) (activation : Activation)
  /-- the worker exits -/
  | exit (e : ε) (exitCode : Int) (lines : List Text) (now : Text)
  /-- `ConfidentialResultStore.putIfAbsent` -/
  | put (e : ε)

/-- What an event leads to. -/
inductive Answer where
  | nothing
  | workerFailed
  | noResult
  | raised
  /-- `resultJson` of this record -/
  | responded (result : ConfidentialResult) (isFirstWrite : Bool)

/-- `resultJson`. -/
structure Response where
  rid : Text
  cOut : Text
  ct : Text
  isDuplicate : Bool
  deriving DecidableEq

/-- The answer of an execution with this record, as it is sent. -/
def responseOf (result : ConfidentialResult) (isFirstWrite : Bool) : Response :=
  ⟨result.rid, result.cOut, result.ct, !isFirstWrite⟩

/-- The successful answer of an execution. -/
def Answer.response : Answer → Option Response
  | .responded result isFirstWrite => some (responseOf result isFirstWrite)
  | _ => none

section Machine

variable {ε : Type} [DecidableEq ε] {S : Sgx}

/-- A new invoker. -/
def InvokerState.initial : InvokerState ε := ⟨fun _ => none, fun _ => .idle⟩

/-- An execution comes to another point. -/
def InvokerState.move (s : InvokerState ε) (e : ε) (point : Execution) : InvokerState ε :=
  { s with execution := Function.update s.execution e point }

/-- The worker of an execution exits. -/
def stepExit (S : Sgx) (s : InvokerState ε) (e : ε) (activation : Activation) (exitCode : Int)
    (lines : List Text) (now : Text) : InvokerState ε × Answer :=
  if exitCode ≠ 0 then (s.move e .done, .workerFailed)
  else
    match parseOutput S activation lines now with
    | .noResult => (s.move e .done, .noResult)
    | .raised => (s.move e .done, .raised)
    | .result result => (s.move e (.parsed result), .nothing)

/-- An execution files its record, and answers. -/
def stepPut (s : InvokerState ε) (e : ε) (result : ConfidentialResult) :
    InvokerState ε × Answer :=
  let (store, isFirstWrite) := putIfAbsent s.store result.rid result
  ({ s.move e .done with store := store }, .responded result isFirstWrite)

/-- One event. -/
def invokerStep (S : Sgx) (s : InvokerState ε) : Event ε → InvokerState ε × Answer
  | .dispatch e activation =>
    match s.execution e with
    | .idle => (s.move e (.running activation), .nothing)
    | _ => (s, .nothing)
  | .exit e exitCode lines now =>
    match s.execution e with
    | .running activation => stepExit S s e activation exitCode lines now
    | _ => (s, .nothing)
  | .put e =>
    match s.execution e with
    | .parsed result => stepPut s e result
    | _ => (s, .nothing)

/-- A recorded event. -/
abbrev InvokerRecord (ε : Type) := Record (InvokerState ε) (Event ε) Answer

/-- The record that an event files. -/
def InvokerState.files (s : InvokerState ε) : Event ε → Option ConfidentialResult
  | .put e =>
    match s.execution e with
    | .parsed result => some result
    | _ => none
  | _ => none

/-- **What an event can do**: an execution files its record and answers, or the store stays and
nobody answers with a record. -/
theorem invokerStep_cases (s : InvokerState ε) (event : Event ε) :
    (∃ result, s.files event = some result ∧
      (invokerStep S s event).1.store = (putIfAbsent s.store result.rid result).1 ∧
      (invokerStep S s event).2 = .responded result (s.store result.rid).isNone) ∨
    (s.files event = none ∧ (invokerStep S s event).1.store = s.store ∧
      ∀ result isFirstWrite, (invokerStep S s event).2 ≠ .responded result isFirstWrite) := by
  cases event with
  | dispatch e activation =>
    refine .inr ⟨rfl, ?_⟩
    cases hs : s.execution e <;> simp [invokerStep, hs, InvokerState.move]
  | exit e exitCode lines now =>
    refine .inr ⟨rfl, ?_⟩
    cases hs : s.execution e with
    | running activation =>
      simp only [invokerStep, hs, stepExit]
      by_cases hexit : exitCode = 0
      · cases parseOutput S activation lines now <;> simp [hexit, InvokerState.move]
      · simp [hexit, InvokerState.move]
    | idle => simp [invokerStep, hs]
    | parsed result => simp [invokerStep, hs]
    | done => simp [invokerStep, hs]
  | put e =>
    cases hs : s.execution e with
    | parsed result =>
      refine .inl ⟨result, ?_, ?_, ?_⟩
      · simp only [InvokerState.files, hs]
      · simp only [invokerStep, hs, stepPut]
      · simp only [invokerStep, hs, stepPut, putIfAbsent_snd]
    | idle => exact .inr (by simp [InvokerState.files, invokerStep, hs])
    | running activation => exact .inr (by simp [InvokerState.files, invokerStep, hs])
    | done => exact .inr (by simp [InvokerState.files, invokerStep, hs])

/-! ## Idempotence -/

/-- The record that a put stored for an RID. -/
def storedFor (rid : Text) (r : InvokerRecord ε) : Option ConfidentialResult :=
  match r.output with
  | .responded result true => if result.rid = rid then some result else none
  | _ => none

/-- The event answers for an RID that it is not a duplicate. -/
def reportsFirst (rid : Text) (r : InvokerRecord ε) : Bool :=
  r.output.response.any fun response => response.rid == rid && !response.isDuplicate

/-- **Duplicate dispatches are idempotent**, at one point of a run: the store holds the record of
the first put that succeeded, one execution reports that it was the first, and all answers for an
RID carry the ciphertexts of the stored record. -/
structure Idempotent (h : List (InvokerRecord ε)) (s : InvokerState ε) : Prop where
  first : ∀ rid, s.store rid = h.reverse.findSome? (storedFor rid)
  once : ∀ rid, h.countP (reportsFirst rid) ≤ 1
  same : ∀ r ∈ h, ∀ response, r.output.response = some response →
    ∃ result, s.store response.rid = some result ∧ response.cOut = result.cOut ∧
      response.ct = result.ct

/-- A put finds no record for its RID, or one with the same ciphertexts. -/
def agrees (r : InvokerRecord ε) : Bool :=
  (r.pre.files r.input).all fun new =>
    (r.pre.store new.rid).all fun old => old.cOut == new.cOut && old.ct == new.ct

omit [DecidableEq ε] in
theorem agrees_iff {r : InvokerRecord ε} :
    agrees r = true ↔ ∀ new old, r.pre.files r.input = some new →
      r.pre.store new.rid = some old → old.cOut = new.cOut ∧ old.ct = new.ct := by
  simp only [agrees, Option.all_eq_true, Bool.and_eq_true, beq_iff_eq]
  exact ⟨fun h new old hnew hold => h new hnew old hold,
    fun h new hnew old hold => h new old hnew hold⟩

/-- What holds of the store whatever the workers printed. -/
structure Filed (h : List (InvokerRecord ε)) (s : InvokerState ε) : Prop where
  first : ∀ rid, s.store rid = h.reverse.findSome? (storedFor rid)
  count : ∀ rid, h.countP (reportsFirst rid) = (s.store rid).isSome.toNat

omit [DecidableEq ε] in
/-- An answer that is no record stores nothing and reports nothing. -/
theorem not_reports {r : InvokerRecord ε}
    (h : ∀ result isFirstWrite, r.output ≠ .responded result isFirstWrite) (rid : Text) :
    storedFor rid r = none ∧ reportsFirst rid r = false ∧ r.output.response = none := by
  obtain ⟨pre, input, output⟩ := r
  cases output with
  | responded result isFirstWrite => exact absurd rfl (h result isFirstWrite)
  | nothing => exact ⟨rfl, rfl, rfl⟩
  | workerFailed => exact ⟨rfl, rfl, rfl⟩
  | noResult => exact ⟨rfl, rfl, rfl⟩
  | raised => exact ⟨rfl, rfl, rfl⟩

/-- The step lemma of `Filed`. -/
theorem Filed.step {h : List (InvokerRecord ε)} {s : InvokerState ε} (hfiled : Filed h s)
    (event : Event ε) :
    Filed (⟨s, event, (invokerStep S s event).2⟩ :: h) (invokerStep S s event).1 := by
  rcases invokerStep_cases (S := S) s event with ⟨result, -, hstore, hout⟩ |
    ⟨-, hstore, hout⟩
  · constructor
    · intro rid
      rw [hstore, putIfAbsent_apply, hout, List.reverse_cons, List.findSome?_append,
        ← hfiled.first rid, List.findSome?_singleton]
      by_cases hrid : rid = result.rid
      · subst hrid
        cases hold : s.store result.rid with
        | some old => rfl
        | none => simp [storedFor]
      · rw [if_neg hrid]
        have hother : storedFor rid
            (⟨s, event, .responded result (s.store result.rid).isNone⟩ : InvokerRecord ε) =
              none := by
          cases (s.store result.rid).isNone with
          | true => simp [storedFor, Ne.symm hrid]
          | false => rfl
        rw [hother]
    · intro rid
      rw [hstore, putIfAbsent_apply, hout, List.countP_cons, hfiled.count rid]
      by_cases hrid : rid = result.rid
      · subst hrid
        cases hold : s.store result.rid with
        | some old => simp [reportsFirst, Answer.response, responseOf]
        | none => simp [reportsFirst, Answer.response, responseOf]
      · have hreport : reportsFirst rid
            (⟨s, event, .responded result (s.store result.rid).isNone⟩ : InvokerRecord ε) =
              false := by
          simp [reportsFirst, Answer.response, responseOf, Ne.symm hrid]
        rw [hreport, if_neg hrid, Option.or_none]
        rfl
  · constructor
    · intro rid
      obtain ⟨hnone, -, -⟩ := not_reports
        (r := ⟨s, event, (invokerStep S s event).2⟩) hout rid
      rw [hstore, List.reverse_cons, List.findSome?_append, ← hfiled.first rid,
        List.findSome?_singleton, hnone, Option.or_none]
    · intro rid
      obtain ⟨-, hnone, -⟩ := not_reports
        (r := ⟨s, event, (invokerStep S s event).2⟩) hout rid
      rw [hstore, List.countP_cons_of_neg (by simp [hnone]), hfiled.count rid]

/-- **Run.**  The store and the reports agree in every run. -/
theorem filed_of_reach {h : List (InvokerRecord ε)} {s : InvokerState ε}
    (hr : Reach (invokerStep S) InvokerState.initial h s) : Filed h s := by
  induction hr with
  | start => exact ⟨fun _ => rfl, fun _ => rfl⟩
  | step prior event ih => exact ih.step event

/-- **Step.**  The answers carry the stored ciphertexts when each put agrees with the store. -/
theorem same_of_agrees {h : List (InvokerRecord ε)} {s : InvokerState ε}
    (hr : Reach (invokerStep S) InvokerState.initial h s) (hagrees : ∀ r ∈ h, agrees r = true) :
    ∀ r ∈ h, ∀ response, r.output.response = some response →
      ∃ result, s.store response.rid = some result ∧ response.cOut = result.cOut ∧
        response.ct = result.ct := by
  induction hr with
  | start => exact fun r hr => absurd hr List.not_mem_nil
  | @step h s prior event ih =>
    have ih := ih fun r hr => hagrees r (List.mem_cons_of_mem _ hr)
    have hnew := hagrees _ List.mem_cons_self
    intro r hr response hresponse
    rcases invokerStep_cases (S := S) s event with ⟨result, hfiles, hstore, hout⟩ |
      ⟨-, hstore, hout⟩
    · rcases List.mem_cons.mp hr with rfl | hr
      · rw [hout] at hresponse
        obtain rfl : responseOf result _ = response := Option.some.inj hresponse
        cases hold : s.store result.rid with
        | some old =>
          -- a duplicate: the stored record is that of another execution
          obtain ⟨hcOut, hct⟩ := agrees_iff.mp hnew result old hfiles hold
          exact ⟨old, by rw [hstore]; exact putIfAbsent_keeps hold, hcOut.symm, hct.symm⟩
        | none =>
          refine ⟨result, ?_, rfl, rfl⟩
          show (invokerStep S s event).1.store result.rid = _
          rw [hstore, putIfAbsent_apply, hold, if_pos rfl, Option.none_or]
      · obtain ⟨old, hold, hsame⟩ := ih r hr response hresponse
        exact ⟨old, by rw [hstore]; exact putIfAbsent_keeps hold, hsame⟩
    · rcases List.mem_cons.mp hr with rfl | hr
      · rw [(not_reports hout response.rid).2.2] at hresponse
        exact absurd hresponse (by simp)
      · rw [hstore]
        exact ih r hr response hresponse

/-- **Which runs are idempotent**: exactly those in which no execution files a record for an RID
that holds other ciphertexts already. -/
theorem idempotent_iff {h : List (InvokerRecord ε)} {s : InvokerState ε}
    (hr : Reach (invokerStep S) InvokerState.initial h s) :
    Throughout (invokerStep S) InvokerState.initial Idempotent h ↔
      ∀ r ∈ h, agrees r = true := by
  constructor
  · intro hall r hm
    refine agrees_iff.mpr fun new old hfiles hold => ?_
    obtain ⟨t, -, hpost, hout⟩ := hall.at_record hr hm
    rcases invokerStep_cases (S := S) r.pre r.input with
      ⟨result, hresult, hstore, hanswer⟩ | ⟨hnone, -, -⟩
    · obtain rfl := Option.some.inj (hresult.symm.trans hfiles)
      have hresponse : r.output.response =
          some (responseOf result (r.pre.store result.rid).isNone) := by
        rw [hout, hanswer]
        rfl
      obtain ⟨stored, hstored, hcOut, hct⟩ := hpost.same r List.mem_cons_self _ hresponse
      have hold' : (putIfAbsent r.pre.store result.rid result).1 result.rid = some old :=
        putIfAbsent_keeps hold
      rw [hstore] at hstored
      obtain rfl := Option.some.inj (hstored.symm.trans hold')
      exact ⟨hcOut.symm, hct.symm⟩
    · exact absurd (hnone.symm.trans hfiles) (by simp)
  · refine Throughout.of_records fun t s ht hc => ?_
    have hfiled := filed_of_reach ht
    refine ⟨hfiled.first, fun rid => ?_, same_of_agrees ht hc⟩
    rw [hfiled.count rid]
    exact Bool.toNat_le _

end Machine

/-! ## One request dispatched twice -/

/-- What a worker prints for the RID `aa`. -/
def sampleLines (resultHex : String) : List Text :=
  ["RID_HEX:aa".toList, "CT_HEX:01".toList, "RESULT_HEX:".toList ++ resultHex.toList]

/-- Two executions of one request, the second between the exit and the put of the first. -/
def sampleDispatches (resultHex₁ resultHex₂ : String) : List (Event Bool) :=
  [.dispatch false ⟨['f'], []⟩, .dispatch true ⟨['f'], []⟩,
    .exit false 0 (sampleLines resultHex₁) ['t'], .exit true 0 (sampleLines resultHex₂) ['u'],
    .put true, .put false]

/-- The run of two executions. -/
abbrev sampleRun (resultHex₁ resultHex₂ : String) :
    List (InvokerRecord Bool) × InvokerState Bool :=
  runOn (invokerStep Sgx.sample) [] InvokerState.initial (sampleDispatches resultHex₁ resultHex₂)

/-- Two workers that print the same are idempotent. -/
theorem sampleRun_idempotent :
    Throughout (invokerStep Sgx.sample) InvokerState.initial Idempotent (sampleRun "01" "01").1 :=
  (idempotent_iff (reach_runOn _ _ Reach.start)).mpr (by decide +kernel)

/-- Two workers draw different IVs, and the answer of the second is not the stored one. -/
theorem sampleRun_not_idempotent :
    ¬ Throughout (invokerStep Sgx.sample) InvokerState.initial Idempotent
      (sampleRun "01" "02").1 := by
  intro hall
  have hend := hall _ _ List.suffix_rfl (reach_runOn _ (sampleDispatches "01" "02") Reach.start)
  have hanswer : ((sampleRun "01" "02").1.head (List.cons_ne_nil _ _)).output.response =
      some ⟨['a', 'a'], "AQ==".toList, "AQ==".toList, true⟩ := by
    decide +kernel
  obtain ⟨result, hstored, hcOut, -⟩ := hend.same _ (List.head_mem _) _ hanswer
  have hstore : (sampleRun "01" "02").2.store ['a', 'a'] =
      some ⟨['a', 'a'], "AQ==".toList, "Ag==".toList, ['u']⟩ := by
    decide +kernel
  obtain rfl := Option.some.inj (hstored.symm.trans hstore)
  exact absurd hcOut (by decide +kernel)

end InvokerReactive
end OpenWhisk
end AsynCS
