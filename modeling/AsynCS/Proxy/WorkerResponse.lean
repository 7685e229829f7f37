import AsynCS.Lib.PyStr

/-!
# The responses of the worker, as the proxy reads them

`_parse_worker_response` goes through the lines of a response.  It takes the value of `RC` and,
for every other line with a colon, the value of its key, each from the last line that has one.

* `ParseState`, `parseLines`, `parseWorkerResponse`: the parser.
* `Unframing`: the lines that end a response or make the parser raise.
* `valueOf`, `lastValue`: the value of a key in a line, and the last one in a list of lines.
* `parseWorkerResponse_framed`: the response of a command, whatever its lines are as long as
  none is unframing.
-/

namespace AsynCS
namespace Proxy

/-! ## The parser -/

/-- `"BEGIN_RESPONSE"` -/
def beginResponse : Text := "BEGIN_RESPONSE".toList

/-- `"END_RESPONSE"` -/
def endResponse : Text := "END_RESPONSE".toList

/-- `text.split(":", 1)[0]` -/
def beforeColon (t : Text) : Text := t.takeWhile (· != ':')

/-- `text.split(":", 1)[1]`, for a text with a colon. -/
def afterColon (t : Text) : Text := (t.dropWhile (· != ':')).tail

/-- `text.startswith("RC:")` -/
def isRc (t : Text) : Bool := "RC:".toList.isPrefixOf t

/-- `int(text.split(":", 1)[1].strip() or "0")`, or `none` where it raises `ValueError`. -/
def rcOf (t : Text) : Option Int :=
  let value := stripWhile isUnicodeSpace (afterColon t)
  pyInt (if value = [] then ['0'] else value)

/-- The variables of `_parse_worker_response`. -/
structure ParseState where
  rc : Option Int
  inResponse : Bool
  payloadLines : List Text
  markers : Text → Option Text

/-- Before the first line. -/
def ParseState.start : ParseState := ⟨none, false, [], fun _ => none⟩

/-- A line of the payload. -/
def ParseState.payloadLine (s : ParseState) (t : Text) : ParseState :=
  { s with
    payloadLines := s.payloadLines ++ [t]
    markers :=
      if ':' ∈ t then
        Function.update s.markers (beforeColon t) (some (stripWhile isUnicodeSpace (afterColon t)))
      else s.markers }

/-- The loop over the lines: what it leaves, and whether it came to `END_RESPONSE`; `none` where
it raises `ValueError`. -/
def parseLines : ParseState → List Text → Option (ParseState × Bool)
  | s, [] => some (s, false)
  | s, t :: ts =>
    if t = beginResponse then parseLines { s with inResponse := true } ts
    else if t = endResponse then some (s, true)
    else if !s.inResponse then parseLines s ts
    else if isRc t then do
      let n ← rcOf t
      parseLines { s with rc := some n } ts
    else parseLines (s.payloadLine t) ts

/-- What `_parse_worker_response` raises. -/
inductive ResponseError where
  | valueError
  | workerProtocolError (text : String)
  deriving DecidableEq

/-- What `_parse_worker_response` returns. -/
structure WorkerResponse where
  rc : Int
  combined : Text
  markers : Text → Option Text

/-- `_parse_worker_response`. -/
def parseWorkerResponse (lines : List Text) : Except ResponseError WorkerResponse :=
  match parseLines ParseState.start lines with
  | none => .error .valueError
  | some (s, sawEnd) =>
    if !sawEnd then .error (.workerProtocolError "missing END_RESPONSE")
    else
      match s.rc with
      | none => .error (.workerProtocolError "missing RC")
      | some rc => .ok ⟨rc, List.intercalate ['\n'] s.payloadLines, s.markers⟩

/-! ## Keys -/

/-- The line ends a response, or makes the parser raise. -/
def Unframing (t : Text) : Prop := t = endResponse ∨ isRc t = true ∧ rcOf t = none

/-- The value of a key in a line. -/
def valueOf (key t : Text) : Option Text :=
  if key ++ [':'] <+: t then some (stripWhile isUnicodeSpace (t.drop (key.length + 1))) else none

/-- The last value of a key. -/
def lastValue (key : Text) (ts : List Text) : Option Text := (ts.filterMap (valueOf key)).getLast?

theorem lastValue_append (key : Text) (a b : List Text) :
    lastValue key (a ++ b) = (lastValue key b).or (lastValue key a) := by
  rw [lastValue, List.filterMap_append, List.getLast?_append]
  rfl

theorem lastValue_singleton (key t : Text) : lastValue key [t] = valueOf key t := by
  rw [lastValue, List.filterMap_cons]
  cases valueOf key t <;> rfl

theorem lastValue_cons (key t : Text) (ts : List Text) :
    lastValue key (t :: ts) = (lastValue key ts).or (valueOf key t) := by
  rw [← lastValue_singleton, ← lastValue_append, List.singleton_append]

/-- A text with a colon is split there. -/
theorem beforeColon_append {key : Text} (h : ':' ∉ key) (v : Text) :
    beforeColon (key ++ ':' :: v) = key ∧ afterColon (key ++ ':' :: v) = v := by
  have hkey : ∀ c ∈ key, (c != ':') = true := fun c hc => bne_iff_ne.mpr fun e => h (e ▸ hc)
  constructor
  · rw [beforeColon, List.takeWhile_append_of_pos hkey, List.takeWhile_cons_of_neg (by simp),
      List.append_nil]
  · rw [afterColon, List.dropWhile_append_of_pos hkey, List.dropWhile_cons_of_neg (by simp)]
    rfl

theorem exists_beforeColon {t : Text} (h : ':' ∈ t) :
    t = beforeColon t ++ ':' :: afterColon t ∧ ':' ∉ beforeColon t := by
  have hnot : ':' ∉ beforeColon t := by
    intro hmem
    have hne := List.mem_takeWhile_imp hmem
    simp at hne
  refine ⟨?_, hnot⟩
  cases hdrop : t.dropWhile (· != ':') with
  | nil =>
    have hall : beforeColon t = t := by
      have happend := List.takeWhile_append_dropWhile (p := (· != ':')) (l := t)
      rwa [hdrop, List.append_nil] at happend
    rw [hall] at hnot
    exact absurd h hnot
  | cons c rest =>
    have hhead := List.head?_dropWhile_not (· != ':') t
    rw [hdrop] at hhead
    have hc : c = ':' := by simpa using hhead
    have happend := List.takeWhile_append_dropWhile (p := (· != ':')) (l := t)
    rw [hdrop, hc] at happend
    rw [afterColon, hdrop]
    exact happend.symm

/-- **A line of the payload** sets the value of its key, and no other. -/
theorem markers_payloadLine {key : Text} (hkey : ':' ∉ key) (s : ParseState) (t : Text) :
    (s.payloadLine t).markers key = (valueOf key t).or (s.markers key) := by
  unfold ParseState.payloadLine valueOf
  by_cases hcolon : ':' ∈ t
  · obtain ⟨hsplit, hnot⟩ := exists_beforeColon hcolon
    simp only [if_pos hcolon]
    by_cases hk : key = beforeColon t
    · have hpre : key ++ [':'] <+: t := ⟨afterColon t, by rw [hk, List.append_assoc]; exact hsplit.symm⟩
      have hdrop : t.drop (key.length + 1) = afterColon t := by
        obtain ⟨v, hv⟩ := hpre
        rw [List.append_assoc, List.singleton_append] at hv
        rw [← hv, (beforeColon_append hkey v).2, ← List.singleton_append, ← List.append_assoc]
        exact List.drop_left' (by rw [List.length_append, List.length_singleton])
      rw [if_pos hpre, hdrop, hk, Function.update_self]
      rfl
    · have hpre : ¬ key ++ [':'] <+: t := by
        rintro ⟨v, hv⟩
        rw [List.append_assoc, List.singleton_append] at hv
        exact hk (by rw [← hv, (beforeColon_append hkey v).1])
      rw [if_neg hpre, Function.update_of_ne hk]
      rfl
  · have hpre : ¬ key ++ [':'] <+: t := fun h =>
      hcolon (h.subset (List.mem_append_right key List.mem_cons_self))
    simp only [if_neg hcolon, if_neg hpre]
    rfl

/-! ## Framed responses -/

theorem isRc_iff {t : Text} : isRc t = true ↔ ['R', 'C', ':'] <+: t := by
  rw [isRc, String.toList_ofList]
  exact List.isPrefixOf_iff_prefix

/-- A line with a return code has no other key. -/
theorem valueOf_of_isRc {key t : Text} (hkey : ':' ∉ key) (hrc : key ≠ ['R', 'C'])
    (h : isRc t = true) : valueOf key t = none := by
  rw [valueOf, if_neg]
  rintro ⟨v, hv⟩
  obtain ⟨w, hw⟩ := isRc_iff.mp h
  rw [List.append_assoc, List.singleton_append] at hv
  have hk := (beforeColon_append hkey v).1
  have hr : beforeColon (['R', 'C'] ++ ':' :: w) = ['R', 'C'] :=
    (beforeColon_append (by decide) w).1
  rw [hv, ← hw] at hk
  exact hrc (hk.symm.trans hr)

theorem beginResponse_eq : beginResponse =
    ['B', 'E', 'G', 'I', 'N', '_', 'R', 'E', 'S', 'P', 'O', 'N', 'S', 'E'] := String.toList_ofList

theorem endResponse_eq : endResponse =
    ['E', 'N', 'D', '_', 'R', 'E', 'S', 'P', 'O', 'N', 'S', 'E'] := String.toList_ofList

/-- A line without a colon has no key. -/
theorem valueOf_of_no_colon {key t : Text} (h : ':' ∉ t) : valueOf key t = none :=
  if_neg fun hpre => h (hpre.subset (List.mem_append_right key List.mem_cons_self))

/-- A line with a return code frames nothing. -/
theorem ne_of_isRc {t : Text} (h : isRc t = true) : t ≠ beginResponse ∧ t ≠ endResponse := by
  have hcolon : ':' ∈ t := (isRc_iff.mp h).subset (by decide)
  constructor
  · rintro rfl
    exact absurd (beginResponse_eq ▸ hcolon) (by decide)
  · rintro rfl
    exact absurd (endResponse_eq ▸ hcolon) (by decide)

theorem parseLines_begin (s : ParseState) (ts : List Text) :
    parseLines s (beginResponse :: ts) = parseLines { s with inResponse := true } ts := by
  rw [parseLines, if_pos rfl]

theorem parseLines_end (s : ParseState) (ts : List Text) :
    parseLines s (endResponse :: ts) = some (s, true) := by
  have hdiff : endResponse ≠ beginResponse := by
    rw [endResponse_eq, beginResponse_eq]
    decide
  rw [parseLines, if_neg hdiff, if_pos rfl]

theorem parseLines_rc {s : ParseState} (hs : s.inResponse = true) {t : Text} (h : isRc t = true)
    {n : Int} (hn : rcOf t = some n) (ts : List Text) :
    parseLines s (t :: ts) = parseLines { s with rc := some n } ts := by
  obtain ⟨hbegin, hend⟩ := ne_of_isRc h
  have hin : ¬ (!s.inResponse) = true := by simp [hs]
  rw [parseLines, if_neg hbegin, if_neg hend, if_neg hin, if_pos h, hn]
  rfl

theorem parseLines_payload {s : ParseState} (hs : s.inResponse = true) {t : Text}
    (hbegin : t ≠ beginResponse) (hend : t ≠ endResponse) (h : isRc t = false) (ts : List Text) :
    parseLines s (t :: ts) = parseLines (s.payloadLine t) ts := by
  have hin : ¬ (!s.inResponse) = true := by simp [hs]
  have hrc : ¬ isRc t = true := by simp [h]
  rw [parseLines, if_neg hbegin, if_neg hend, if_neg hin, if_neg hrc]

/-- **The loop inside a response.**  It passes over lines none of which is unframing, and then
has the last value of every key. -/
theorem parseLines_framed {ts : List Text} (h : ∀ t ∈ ts, ¬ Unframing t) {s : ParseState}
    (hs : s.inResponse = true) (rest : List Text) :
    ∃ s', parseLines s (ts ++ rest) = parseLines s' rest ∧ s'.inResponse = true ∧
      ∀ key, ':' ∉ key → key ≠ ['R', 'C'] →
        s'.markers key = (lastValue key ts).or (s.markers key) := by
  induction ts generalizing s with
  | nil => exact ⟨s, rfl, hs, fun _ _ _ => rfl⟩
  | cons t ts ih =>
    have ht := h t List.mem_cons_self
    have htail : ∀ t' ∈ ts, ¬ Unframing t' := fun t' ht' => h t' (List.mem_cons_of_mem t ht')
    -- one line: `s₁` is the state behind it
    have hstep : ∃ s₁, parseLines s (t :: (ts ++ rest)) = parseLines s₁ (ts ++ rest) ∧
        s₁.inResponse = true ∧ ∀ key, ':' ∉ key → key ≠ ['R', 'C'] →
          s₁.markers key = (valueOf key t).or (s.markers key) := by
      by_cases hbegin : t = beginResponse
      · refine ⟨_, by rw [hbegin]; exact parseLines_begin s _, rfl, fun key _ _ => ?_⟩
        rw [valueOf_of_no_colon (by rw [hbegin, beginResponse_eq]; decide), Option.none_or]
      · have hend : t ≠ endResponse := fun e => ht (Or.inl e)
        cases hrc : isRc t with
        | true =>
          cases hn : rcOf t with
          | none => exact absurd (Or.inr ⟨hrc, hn⟩) ht
          | some n =>
            refine ⟨_, parseLines_rc hs hrc hn _, hs, fun key hkey hne => ?_⟩
            rw [valueOf_of_isRc hkey hne hrc, Option.none_or]
        | false =>
          exact ⟨_, parseLines_payload hs hbegin hend hrc _, hs,
            fun key hkey _ => markers_payloadLine hkey s t⟩
    obtain ⟨s₁, hparse, hs₁, hmarkers₁⟩ := hstep
    obtain ⟨s', hparse', hs', hmarkers'⟩ := ih htail hs₁
    refine ⟨s', hparse.trans hparse', hs', fun key hkey hne => ?_⟩
    rw [hmarkers' key hkey hne, hmarkers₁ key hkey hne, lastValue_cons, Option.or_assoc]

/-- **A framed response**: the return code is that of its last line, and every key has its last
value. -/
theorem parseWorkerResponse_framed {ts : List Text} (h : ∀ t ∈ ts, ¬ Unframing t) {last : Text}
    {n : Int} (hlast : isRc last = true) (hn : rcOf last = some n) :
    ∃ r, parseWorkerResponse (beginResponse :: (ts ++ [last, endResponse])) = .ok r ∧ r.rc = n ∧
      ∀ key, ':' ∉ key → key ≠ ['R', 'C'] → r.markers key = lastValue key ts := by
  obtain ⟨s', hparse, hs', hmarkers⟩ :=
    parseLines_framed h (s := { ParseState.start with inResponse := true }) rfl [last, endResponse]
  have hrun : parseLines ParseState.start (beginResponse :: (ts ++ [last, endResponse])) =
      some ({ s' with rc := some n }, true) := by
    rw [parseLines_begin, hparse, parseLines_rc hs' hlast hn, parseLines_end]
  refine ⟨⟨n, List.intercalate ['\n'] s'.payloadLines, s'.markers⟩, ?_, rfl, fun key hkey hne => ?_⟩
  · rw [parseWorkerResponse, hrun]
    rfl
  · show s'.markers key = _
    rw [hmarkers key hkey hne]
    exact Option.or_none

end Proxy
end AsynCS
