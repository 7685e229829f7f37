import AsynCS.Lib.PrefixFree
import AsynCS.Lib.Runs
import AsynCS.OpenWhisk.Invoker

/-!
# When an RID identifies a request

An RID hashes the bytes of an FID and the encrypted request behind them, with nothing in between.
Two requests with one RID are one request for the store, which then keeps the result of the first
and rejects the other.

* `AcceptedFid`, `Request`: what `store_result` accepts; `storeResult_isSome_iff`.
* `PairsIdentified`, `ResultsKept`: the RID identifies the requests of a class of FIDs, for two
  requests and over the runs of a store.
* `identified_iff_prefixFree`: both hold exactly for the classes in which no FID's bytes begin
  those of another, `digestFids` among them.
-/

namespace AsynCS
namespace OpenWhisk

open Client ConfidentialActionsInvoker

/-- An FID that `compute_rid` can encode. -/
structure AcceptedFid where
  str : PyStr
  bytes : Bytes
  encoded : canonicalFid str = some bytes

@[ext] theorem AcceptedFid.ext {f g : AcceptedFid} (h : f.str = g.str) : f = g := by
  obtain ⟨s, b, hb⟩ := f
  obtain ⟨t, c, hc⟩ := g
  obtain rfl : s = t := h
  obtain rfl : b = c := Option.some.inj (hb.symm.trans hc)
  rfl

/-- A request whose result is stored. -/
structure Request where
  fid : AcceptedFid
  cReq : Bytes

namespace Request

/-- What SHA-256 hashes for a request. -/
def hashed (r : Request) : Bytes := r.fid.bytes ++ r.cReq

/-- The RID of a request. -/
def rid (S : Sgx) (r : Request) : PyStr := PyStr.hex (S.sha256 r.hashed).toList

theorem computeRid_eq (S : Sgx) (r : Request) :
    computeRid S r.fid.str r.cReq = some (r.rid S) := by
  rw [computeRid, canonicalRid, r.fid.encoded]
  rfl

end Request

/-- `store_result` returns for the accepted FIDs and raises for the others. -/
theorem storeResult_isSome_iff {S : Sgx} {store : ResultStore} {fid : PyStr}
    {cReq ct cOut : Bytes} {timestamp : PyStr} :
    (storeResult S store fid cReq ct cOut timestamp).2.isSome ↔
      ∃ f : AcceptedFid, f.str = fid := by
  unfold storeResult computeRid canonicalRid
  cases h : canonicalFid fid with
  | some b => exact ⟨fun _ => ⟨⟨fid, b, h⟩, rfl⟩, fun _ => rfl⟩
  | none =>
    constructor
    · intro hsome
      exact absurd hsome Bool.false_ne_true
    · rintro ⟨f, rfl⟩
      rw [f.encoded] at h
      exact absurd h (by simp)

/-! ## Two requests -/

/-- SHA-256 has no collision on what the requests hash. -/
def NoCollision (S : Sgx) (requests : Set Request) : Prop :=
  Set.InjOn S.sha256 (Request.hashed '' requests)

/-- Two requests with FIDs of the class have one RID only when they are the same. -/
def PairsIdentified (S : Sgx) (F : Set AcceptedFid) : Prop :=
  ∀ r₁ r₂ : Request, r₁.fid ∈ F → r₂.fid ∈ F → NoCollision S {r₁, r₂} →
    r₁.rid S = r₂.rid S → r₁ = r₂

/-- Requests with one RID hash the same bytes. -/
theorem hashed_eq_of_rid_eq {S : Sgx} {requests : Set Request} (hS : NoCollision S requests)
    {r₁ r₂ : Request} (h₁ : r₁ ∈ requests) (h₂ : r₂ ∈ requests) (h : r₁.rid S = r₂.rid S) :
    r₁.hashed = r₂.hashed :=
  hS ⟨r₁, h₁, rfl⟩ ⟨r₂, h₂, rfl⟩ (PyStr.hex_toList_injective h)

/-- Over a prefix-free class the RID identifies the request. -/
theorem eq_of_rid_eq {S : Sgx} {F : Set AcceptedFid} (hF : PrefixFreeOn AcceptedFid.bytes F)
    {requests : Set Request} (hS : NoCollision S requests) {r₁ r₂ : Request}
    (h₁ : r₁ ∈ requests) (h₂ : r₂ ∈ requests) (hr₁ : r₁.fid ∈ F) (hr₂ : r₂.fid ∈ F)
    (h : r₁.rid S = r₂.rid S) : r₁ = r₂ := by
  obtain ⟨hfid, hcReq⟩ := hF.append_inj hr₁ hr₂ (hashed_eq_of_rid_eq hS h₁ h₂ h)
  obtain ⟨f, c⟩ := r₁
  obtain ⟨g, d⟩ := r₂
  obtain rfl : f = g := hfid
  obtain rfl : c = d := hcReq
  rfl

/-- Nothing collides where only one string is hashed. -/
theorem noCollision_pair (S : Sgx) {r₁ r₂ : Request} (h : r₁.hashed = r₂.hashed) :
    NoCollision S {r₁, r₂} := by
  refine Set.Subsingleton.injOn ?_ S.sha256
  rintro x ⟨r, hr, rfl⟩ y ⟨r', hr', rfl⟩
  rcases hr with rfl | rfl <;> rcases hr' with rfl | rfl
  · rfl
  · exact h
  · exact h.symm
  · rfl

/-- Where the bytes of one FID begin those of another, two requests have one RID. -/
theorem prefixFree_of_pairsIdentified {S : Sgx} {F : Set AcceptedFid}
    (h : PairsIdentified S F) : PrefixFreeOn AcceptedFid.bytes F := by
  rintro f hf g hg ⟨w, hw⟩
  have hhashed : (⟨f, w⟩ : Request).hashed = (⟨g, []⟩ : Request).hashed := by
    show f.bytes ++ w = g.bytes ++ []
    rw [hw, List.append_nil]
  have hrid : (⟨f, w⟩ : Request).rid S = (⟨g, []⟩ : Request).rid S := by
    rw [Request.rid, Request.rid, hhashed]
  exact congrArg Request.fid (h _ _ hf hg (noCollision_pair S hhashed) hrid)

/-! ## The store -/

/-- One result to store. -/
structure Put where
  request : Request
  ct : Bytes
  cOut : Bytes
  timestamp : PyStr

/-- `store_result` as a step of the store. -/
def storeStep (S : Sgx) (store : ResultStore) (p : Put) : ResultStore × Option (Bool × PyStr) :=
  storeResult S store p.request.fid.str p.request.cReq p.ct p.cOut p.timestamp

/-- A run of `store_result` calls on a new store. -/
abbrev Stores (S : Sgx) := Reach (storeStep S) ResultStore.empty

/-- In every run with FIDs of the class, a result is rejected only when the same request has a
result already. -/
def ResultsKept (S : Sgx) (F : Set AcceptedFid) : Prop :=
  ∀ h s, Stores S h s → (∀ r ∈ h, r.input.request.fid ∈ F) →
    NoCollision S {q | ∃ r ∈ h, r.input.request = q} →
    ∀ t r rid, r :: t <:+ h → r.output = some (false, rid) →
      ∃ r' ∈ t, r'.input.request = r.input.request

theorem storeStep_eq (S : Sgx) (store : ResultStore) (p : Put) :
    storeStep S store p =
      ((store.putIfAbsent ⟨p.request.rid S, p.ct, p.cOut, p.timestamp⟩).1,
        some ((store.putIfAbsent ⟨p.request.rid S, p.ct, p.cOut, p.timestamp⟩).2,
          p.request.rid S)) := by
  rw [storeStep, storeResult, p.request.computeRid_eq]

/-- Every record was stored for a request of the run. -/
theorem exists_request_of_record {S : Sgx} {h : List (Record ResultStore Put _)}
    {store : ResultStore} (hr : Stores S h store) {rid : PyStr} {result : ConfidentialResult}
    (hrid : store rid = some result) : ∃ r ∈ h, r.input.request.rid S = rid := by
  induction hr generalizing rid result with
  | start => exact absurd hrid (by simp [ResultStore.empty])
  | @step h store prior p ih =>
    rw [storeStep_eq] at hrid
    rcases ResultStore.putIfAbsent_fst_eq_some hrid with hold | ⟨-, rfl, -⟩
    · obtain ⟨r, hr, hreq⟩ := ih hold
      exact ⟨r, List.mem_cons_of_mem _ hr, hreq⟩
    · exact ⟨_, List.mem_cons_self, rfl⟩

/-- Over a prefix-free class results are kept. -/
theorem resultsKept_of_prefixFree {S : Sgx} {F : Set AcceptedFid}
    (hF : PrefixFreeOn AcceptedFid.bytes F) : ResultsKept S F := by
  intro h s hr hfid hS t r rid hsub hout
  obtain ⟨h₁, rfl⟩ := hsub
  obtain ⟨s', hs'⟩ := hr.tail
  obtain ⟨hpre, hstep⟩ := Reach.cons_iff.mp hs'
  rw [storeStep_eq, Prod.mk.injEq, hout, Option.some.injEq, Prod.mk.injEq] at hstep
  obtain ⟨-, hrejected, -⟩ := hstep
  rw [ResultStore.putIfAbsent_snd, Option.isNone_eq_false_iff] at hrejected
  obtain ⟨result, hresult⟩ := Option.isSome_iff_exists.mp hrejected
  obtain ⟨r', hr', hrid'⟩ := exists_request_of_record hpre hresult
  have hmem : r ∈ h₁ ++ r :: t := List.mem_append_right h₁ List.mem_cons_self
  have hmem' : r' ∈ h₁ ++ r :: t := List.mem_append_right h₁ (List.mem_cons_of_mem r hr')
  exact ⟨r', hr', eq_of_rid_eq hF hS ⟨r', hmem', rfl⟩ ⟨r, hmem, rfl⟩ (hfid r' hmem')
    (hfid r hmem) hrid'⟩

/-- **When an RID identifies a request.**  Over a class of FIDs, equal RIDs mean equal requests
and no result is rejected for the sake of another request, exactly when no FID of the class has
bytes that begin those of another. -/
theorem identified_iff_prefixFree (S : Sgx) (F : Set AcceptedFid) :
    PairsIdentified S F ∧ ResultsKept S F ↔ PrefixFreeOn AcceptedFid.bytes F := by
  constructor
  · rintro ⟨hpairs, -⟩
    exact prefixFree_of_pairsIdentified hpairs
  · intro hF
    refine ⟨fun r₁ r₂ h₁ h₂ hS hrid => ?_, resultsKept_of_prefixFree hF⟩
    exact eq_of_rid_eq hF hS (.inl rfl) (.inr rfl) h₁ h₂ hrid

/-! ## Classes of FIDs -/

/-- The FIDs that are digests in lower case, as the client computes them. -/
def digestFids : Set AcceptedFid := {f | ∃ d : Block 32, f.str = PyStr.hex d.toList}

theorem bytes_of_digest {f : AcceptedFid} {d : Block 32} (h : f.str = PyStr.hex d.toList) :
    f.bytes = d.toList := by
  have hlen : f.str.length = 64 := by rw [h, PyStr.length_hex, d.toList_length]
  obtain ⟨decoded, hread, hcanonical⟩ := canonicalFid_of_digits hlen fun a ha =>
    PyStr.digit_of_mem_hex (by rw [← h]; exact ha)
  rw [h, PyStr.fromHex_hex] at hread
  rw [f.encoded] at hcanonical
  rw [Option.some.inj hcanonical, Option.some.inj hread]

/-- **Digests are prefix-free**: among them the RID identifies the request. -/
theorem prefixFree_digestFids : PrefixFreeOn AcceptedFid.bytes digestFids := by
  refine prefixFreeOn_of_length (n := 32) ?_ ?_
  · rintro f ⟨d, hd⟩
    rw [bytes_of_digest hd, d.toList_length]
  · rintro f ⟨d, hd⟩ g ⟨e, he⟩ h
    rw [bytes_of_digest hd, bytes_of_digest he] at h
    exact AcceptedFid.ext (by rw [hd, he, h])

theorem canonicalFid_a : canonicalFid (PyStr.ofText ['a']) = some [97] := rfl

theorem canonicalFid_ab : canonicalFid (PyStr.ofText ['a', 'b']) = some [97, 98] := rfl

/-- The FID `a`, and a request of 29 bytes that starts with `b`. -/
def requestA : Request :=
  ⟨⟨PyStr.ofText ['a'], [97], canonicalFid_a⟩, 98 :: List.replicate 28 0⟩

/-- The FID `ab`, and the rest of that request. -/
def requestAb : Request :=
  ⟨⟨PyStr.ofText ['a', 'b'], [97, 98], canonicalFid_ab⟩, List.replicate 28 0⟩

/-- Two requests that hash the same bytes. -/
theorem not_forall_identified :
    ¬ ∀ (S : Sgx) (r₁ r₂ : Request), NoCollision S {r₁, r₂} → r₁.rid S = r₂.rid S → r₁ = r₂ := by
  intro h
  have hhashed : requestA.hashed = requestAb.hashed := rfl
  have hrid : requestA.rid Sgx.sample = requestAb.rid Sgx.sample := by
    rw [Request.rid, Request.rid, hhashed]
  have heq := h Sgx.sample requestA requestAb (noCollision_pair Sgx.sample hhashed) hrid
  have hlen := congrArg (fun r : Request => r.cReq.length) heq
  exact absurd hlen (by decide)

end OpenWhisk
end AsynCS
