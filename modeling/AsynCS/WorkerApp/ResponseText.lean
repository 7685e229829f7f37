import AsynCS.WorkerApp.RunText

/-!
# What a command prints

`do_invoke` prints lines of its own, the text of a key exchange and the text of a run, and at its
end the results.  When the texts are harmless, its lines with a result are read as it printed
them.

* `printedValue`, `lastPrinted`: the results that a command prints.
* `Muted`: events that put harmless text on the stream and print no result.
* `ResultLine`: the lines of `do_invoke` behind a run.
* `Answered`: what a command prints is muted and closed, and behind it stand lines of results;
  `answered_serveInvoke`.
-/

namespace AsynCS
namespace WorkerApp

open Worker Proc

variable {S : Sgx} {B : Bfibe}

/-! ## Printed results -/

/-- The value of a key in a line of the host. -/
def printedValue (key : Text) : HostEvent → Option Bytes
  | .line text =>
    if utf8 (key ++ [':']) <+: text then some (text.drop (utf8 (key ++ [':'])).length) else none
  | .exchange _ => none
  | .enclave _ => none

/-- The last value of a key that is printed. -/
def lastPrinted (key : Text) (printed : List HostEvent) : Option Bytes :=
  (printed.filterMap (printedValue key)).getLast?

/-- What events put on the stream. -/
def textOf (printed : List HostEvent) : Bytes := printed.flatMap HostEvent.stdout

theorem textOf_append (a b : List HostEvent) : textOf (a ++ b) = textOf a ++ textOf b :=
  List.flatMap_append

theorem textOf_lines (ls : List Bytes) :
    textOf (ls.map .line) = ls.flatMap fun l => l ++ [10] := by
  rw [textOf, List.flatMap_map]
  rfl

theorem textOf_enclave (log : List Event) : textOf (log.map .enclave) = logText log := by
  rw [textOf, List.flatMap_map]
  rfl

/-! ## Events without a result -/

/-- Harmless text without a result. -/
structure Muted (printed : List HostEvent) : Prop where
  harmless : HarmlessText (textOf printed)
  values : ∀ key ∈ resultKeys, printed.filterMap (printedValue key) = []

theorem Muted.append {a b : List HostEvent} (ha : Muted a) (hb : Muted b) : Muted (a ++ b) := by
  refine ⟨?_, fun key hkey => ?_⟩
  · rw [textOf_append]
    exact ha.harmless.append hb.harmless
  · rw [List.filterMap_append, ha.values key hkey, hb.values key hkey, List.nil_append]

theorem muted_nil : Muted [] := ⟨harmlessText_nil, fun _ _ => rfl⟩

/-- Whole lines without a result. -/
structure MutedLines (printed : List HostEvent) : Prop where
  muted : Muted printed
  closed : Closed isLineEnd (textOf printed)

theorem mutedLines_nil : MutedLines [] := ⟨muted_nil, closed_nil⟩

theorem MutedLines.append {a b : List HostEvent} (ha : MutedLines a) (hb : MutedLines b) :
    MutedLines (a ++ b) := by
  refine ⟨ha.muted.append hb.muted, ?_⟩
  rw [textOf_append]
  exact ha.closed.append hb.closed

/-- Lines that are muted one by one. -/
theorem mutedLines_map {β : Type} {f : β → HostEvent} {l : List β}
    (h : ∀ x ∈ l, MutedLines [f x]) : MutedLines (l.map f) := by
  induction l with
  | nil => exact mutedLines_nil
  | cons x l ih =>
    exact (h x List.mem_cons_self).append (ih fun y hy => h y (List.mem_cons_of_mem x hy))

/-- A line that begins apart has no result. -/
theorem printedValue_of_apart {l : Text} (h : Apart l) {text : Bytes} (hl : utf8 l <+: text)
    {key : Text} (hkey : key ∈ resultKeys) : printedValue key (.line text) = none := by
  refine if_neg fun hprefixed => ?_
  have hword : key ++ [':'] ∈ valueWords := List.mem_cons_of_mem _ (List.mem_map_of_mem hkey)
  rcases List.prefix_or_prefix_of_prefix hprefixed hl with hle | hle
  · exact (h.2 _ hword).2 (prefix_of_utf8 hle)
  · exact (h.2 _ hword).1 (prefix_of_utf8 hle)

/-- A line that begins with a literal. -/
theorem mutedLines_line {s : String} {l : Text} (hs : s.toList = l) (h : ApartLit l) {z : Bytes}
    (hvalid : ValidUtf8 z) (hone : ∀ x ∈ z, isLineEnd x = false) :
    MutedLines [.line (ascii s ++ z)] := by
  have hlines : WholeLines (textOf [.line (ascii s ++ z)]) := by
    show WholeLines (ascii s ++ z ++ [10] ++ [])
    rw [List.append_nil]
    exact wholeLines_line hs h hvalid hone
  refine ⟨⟨hlines.harmless, fun key hkey => ?_⟩, hlines.closed⟩
  · have hprefixed : utf8 (l.take 3) <+: ascii s ++ z := by
      rw [ascii_eq hs h.2.ascii]
      refine List.IsPrefix.trans ⟨utf8 (l.drop 3), ?_⟩ (List.prefix_append _ z)
      rw [← utf8_append, List.take_append_drop]
    rw [List.filterMap_cons, printedValue_of_apart h.1 hprefixed hkey]
    rfl

theorem mutedLines_plain {s : String} {l : Text} (hs : s.toList = l) (h : ApartLit l) {z : Bytes}
    (hz : Plain z) : MutedLines [.line (ascii s ++ z)] := mutedLines_line hs h hz.valid hz.noEnd

/-- A marker with another key. -/
theorem mutedLines_marker {key : String} (h : ApartLit key.toList) {value : Bytes} (hv : Plain value) :
    MutedLines [marker key value] := by
  have hcolon : Plain (ascii ":") := plain_ascii String.toList_ofList (by decide)
  have hline := mutedLines_plain rfl h (hcolon.append hv)
  rwa [← List.append_assoc] at hline

theorem mutedLines_numberMarker {key : String} (h : ApartLit key.toList) (n : ℕ) :
    MutedLines [numberMarker key n] := mutedLines_marker h (plain_decimal n)

/-- The name of a literal begins apart. -/
theorem apartName {s : String} {l : Text} (hs : s.toList = l) (h : ApartLit l) :
    ApartLit s.toList := hs ▸ h

/-- Markers with other keys. -/
theorem mutedLines_numberMarkers {keys : List String} (h : ∀ key ∈ keys, ApartLit key.toList)
    (number : String → ℕ) : MutedLines (keys.map fun key => numberMarker key (number key)) :=
  mutedLines_map fun key hkey => mutedLines_numberMarker (h key hkey) _

/-- The text of a key exchange. -/
theorem muted_exchange {text : Bytes} (h : HarmlessText text) : Muted [.exchange text] := by
  refine ⟨?_, fun _ _ => rfl⟩
  show HarmlessText (text ++ [])
  rwa [List.append_nil]

/-- The text of a run. -/
theorem muted_enclave {log : List Event} (h : HarmlessText (logText log)) :
    Muted (log.map .enclave) := by
  refine ⟨?_, fun key _ => ?_⟩
  · rwa [textOf_enclave]
  · rw [List.filterMap_map]
    exact List.filterMap_eq_nil_iff.mpr fun e _ => rfl

theorem mutedLines_cacheLines (contacted : Bool) : MutedLines (cacheLines contacted) :=
  (mutedLines_numberMarker (apartName String.toList_ofList (by decide)) _).append
    (mutedLines_numberMarker (apartName String.toList_ofList (by decide)) _)

/-- The names of the lines behind the key exchange. -/
theorem apart_keyPathNames :
    (∀ key ∈ ["T_KEYPATH_BEGIN_NS", "T_KEYPATH_END_NS", "WORKER_KEYPATH_DUR_NS",
      "WORKER_WAIT_KMS_DUR_NS"], ApartLit key.toList) ∧
    ∀ key ∈ ["QUOTE_GEN_DUR_NS", "T_KMS_SEND_MONO_NS", "T_KMS_RECV_MONO_NS"],
      ApartLit key.toList := by
  have hname : ∀ {s : String} {l : Text}, s.toList = l → ApartLit l → ApartLit s.toList :=
    apartName
  constructor
  · simp only [List.forall_mem_cons, List.not_mem_nil, false_implies, implies_true, and_true]
    exact ⟨hname String.toList_ofList (by decide),
      hname String.toList_ofList (by decide),
      hname String.toList_ofList (by decide),
      hname String.toList_ofList (by decide)⟩
  · simp only [List.forall_mem_cons, List.not_mem_nil, false_implies, implies_true, and_true]
    exact ⟨hname String.toList_ofList (by decide),
      hname String.toList_ofList (by decide),
      hname String.toList_ofList (by decide)⟩

theorem mutedLines_keyPathLines (env : InvokeEnv) (timing : KmsTimingTrailer) :
    MutedLines (keyPathLines env timing) := by
  refine ((mutedLines_numberMarkers apart_keyPathNames.1 env.number).append ?_).append
    (mutedLines_numberMarkers apart_keyPathNames.2 env.number)
  exact (mutedLines_numberMarker (apartName String.toList_ofList (by decide)) _).append
    ((mutedLines_numberMarker (apartName String.toList_ofList (by decide)) _).append
      (mutedLines_numberMarker (apartName String.toList_ofList (by decide)) _))

/-! ## Lines about failures -/

/-- Text inside a line. -/
structure InLine (b : Bytes) : Prop where
  valid : ValidUtf8 b
  noEnd : ∀ x ∈ b, isLineEnd x = false

theorem Plain.inLine {b : Bytes} (h : Plain b) : InLine b := ⟨h.valid, h.noEnd⟩

theorem InLine.append {a b : Bytes} (ha : InLine a) (hb : InLine b) : InLine (a ++ b) := by
  refine ⟨ha.valid.append hb.valid, fun x hx => ?_⟩
  rcases List.mem_append.mp hx with hx | hx
  · exact ha.noEnd x hx
  · exact hb.noEnd x hx

/-- A token, up to its first NUL. -/
theorem inLine_fileName {path : Bytes}
    (h : ValidUtf8 path ∧ ∀ x ∈ path, WorkerApp.isSpace x = false) :
    InLine (fileName path).bytes := by
  have hsplit := List.takeWhile_append_dropWhile (p := (· != 0)) (l := path)
  refine ⟨?_, fun x hx => ?_⟩
  · show ValidUtf8 (path.takeWhile (· != 0))
    cases hdrop : path.dropWhile (· != 0) with
    | nil =>
      rw [hdrop, List.append_nil] at hsplit
      rw [hsplit]
      exact h.1
    | cons x rest =>
      have hhead := List.head?_dropWhile_not (· != 0) path
      rw [hdrop] at hhead
      have hx : x = 0 := by simpa using hhead
      rw [hdrop, hx] at hsplit
      have hvalid := h.1
      rw [← hsplit] at hvalid
      exact (hvalid.split (by decide)).1
  · have hspace := h.2 x ((List.takeWhile_prefix _).subset hx)
    by_contra hend
    have hcode := isLineEnd_iff.mp (Bool.eq_true_of_not_eq_false hend)
    have hnot : ¬ WorkerApp.isSpace x = true := by simp [hspace]
    rw [isSpace_iff] at hnot
    omega

/-- The lines about a file. -/
theorem mutedLines_missing {name : CStr} (h : InLine name.bytes) (f : InvokeFile) :
    MutedLines [.line (f.missing name)] := by
  have hparts : Plain (ascii " (expected epk65||iv12||tag16||ct)") :=
    plain_ascii String.toList_ofList (by decide)
  have hpoint : Plain (ascii " (expected 65 bytes uncompressed P-256 key)") :=
    plain_ascii String.toList_ofList (by decide)
  have hbytes : Plain (ascii " (expected 16 bytes)") :=
    plain_ascii String.toList_ofList (by decide)
  have hname : ∀ {s : String} {l : Text}, s.toList = l → ApartLit l → ∀ {z : Bytes}, Plain z →
      MutedLines [.line (ascii s ++ name.bytes ++ z)] := by
    intro s l hs hl z hz
    have hrest := h.append hz.inLine
    rw [List.append_assoc]
    exact mutedLines_line hs hl hrest.valid hrest.noEnd
  cases f with
  | wasm => exact mutedLines_line String.toList_ofList (by decide) h.valid h.noEnd
  | input => exact mutedLines_line String.toList_ofList (by decide) h.valid h.noEnd
  | cKFunc => exact hname String.toList_ofList (by decide) hparts
  | cKey => exact hname String.toList_ofList (by decide) hparts
  | pkU => exact hname String.toList_ofList (by decide) hpoint
  | nonce => exact hname String.toList_ofList (by decide) hbytes

/-- A literal line of the host. -/
theorem mutedLines_lit {s : String} {l : Text} (hs : s.toList = l) (h : ApartLit l) :
    MutedLines [.line (ascii s)] := by
  have hline := mutedLines_plain hs h plain_nil
  rwa [List.append_nil] at hline

theorem mutedLines_refused {name : CStr} (h : InLine name.bytes) (f : InvokeFile) :
    MutedLines [.line (f.refused name)] := by
  cases f with
  | wasm => exact mutedLines_lit String.toList_ofList (by decide)
  | input => exact mutedLines_lit String.toList_ofList (by decide)
  | cKFunc => exact mutedLines_missing h .cKFunc
  | cKey => exact mutedLines_missing h .cKey
  | pkU => exact mutedLines_missing h .pkU
  | nonce => exact mutedLines_missing h .nonce

/-- The line about the first bad file. -/
theorem mutedLines_readFiles {env : InvokeEnv} {plan : List (InvokeFile × CStr)} {line : Bytes}
    (h : ∀ p ∈ plan, InLine p.2.bytes) (hr : readFiles env plan = .error line) :
    MutedLines [.line line] := by
  induction plan generalizing line with
  | nil => exact absurd hr (by simp [readFiles])
  | cons p plan ih =>
    obtain ⟨f, name⟩ := p
    have hname : InLine name.bytes := h (f, name) List.mem_cons_self
    have hrest : ∀ q ∈ plan, InLine q.2.bytes := fun q hq => h q (List.mem_cons_of_mem _ hq)
    rw [readFiles] at hr
    cases hfile : readFile env f name with
    | error err =>
      rw [hfile] at hr
      obtain rfl := Except.error.inj hr
      unfold readFile at hfile
      split at hfile
      · obtain rfl := Except.error.inj hfile
        exact mutedLines_missing hname f
      · split at hfile
        · exact absurd hfile (by simp)
        · obtain rfl := Except.error.inj hfile
          exact mutedLines_refused hname f
    | ok content =>
      rw [hfile] at hr
      cases htail : readFiles env plan with
      | error err =>
        rw [htail] at hr
        obtain rfl := Except.error.inj hr
        exact ih hrest htail
      | ok rest =>
        rw [htail] at hr
        exact absurd hr (by simp [bind, Except.bind, pure, Except.pure])

/-- The line about the files of a command. -/
theorem mutedLines_readCommandFiles {env : InvokeEnv} {args : InvokeArgs} {line : Bytes}
    (h : ∀ p ∈ readPlan args, InLine p.2.bytes) (hr : readCommandFiles env args = .error line) :
    MutedLines [.line line] := by
  unfold readCommandFiles at hr
  split at hr
  · cases hread : readFiles env (basePlan args) with
    | error err =>
      rw [hread] at hr
      obtain rfl := Except.error.inj hr
      exact mutedLines_readFiles (fun p hp => h p (List.mem_append_left _ hp)) hread
    | ok content =>
      rw [hread] at hr
      obtain rfl := Except.error.inj hr
      exact mutedLines_lit String.toList_ofList (by decide)
  · exact mutedLines_readFiles h hr

/-- The reason to refuse a run. -/
theorem mutedLines_refusal {env : InvokeEnv} {kind : RunKind} {out : RunOut} {line : HostEvent}
    (h : refusal env kind out = some line) : MutedLines [line] := by
  unfold refusal at h
  split at h
  · exact absurd h (by simp)
  · split at h
    · obtain rfl := Option.some.inj h
      exact mutedLines_lit String.toList_ofList (by decide)
    · split at h
      · obtain rfl := Option.some.inj h
        have hflags : Plain (ascii " flags=0x") :=
          plain_ascii String.toList_ofList (by decide)
        have hrequired : Plain (ascii " required=0x") :=
          plain_ascii String.toList_ofList (by decide)
        simp only [List.append_assoc]
        exact mutedLines_plain String.toList_ofList (by decide)
          ((plain_decimal _).append (hflags.append ((plain_hexadecimal _).append
            (hrequired.append (plain_hexadecimal _)))))
      · exact absurd h (by simp)

/-- The reason to refuse a run is a line. -/
theorem exists_line_of_refusal {env : InvokeEnv} {kind : RunKind} {out : RunOut}
    {line : HostEvent} (h : refusal env kind out = some line) : ∃ b, line = .line b := by
  unfold refusal at h
  split at h
  · exact absurd h (by simp)
  · split at h
    · exact ⟨_, (Option.some.inj h).symm⟩
    · split at h
      · exact ⟨_, (Option.some.inj h).symm⟩
      · exact absurd h (by simp)

/-- A run that is not refused reported its success. -/
theorem success_of_accepted {env : InvokeEnv} {out : RunOut}
    (h : refusal env .kem out = none) : TraceFlag.success ∈ out.trace.flags := by
  unfold refusal at h
  rw [if_neg (by decide)] at h
  split at h
  · exact absurd h (by simp)
  · split at h
    · exact absurd h (by simp)
    · rename_i hflags
      push Not at hflags
      exact hflags.2 (by simp [c1TraceRequiredFlags])

/-! ## Lines of results -/

/-- A line of the host behind a run: one without a result, or one with a result in hexadecimal. -/
inductive ResultLine : Bytes → Prop
  | named {l : Text} {z : Bytes} (h : ApartLit l) (hz : Plain z) : ResultLine (utf8 l ++ z)
  | result {key : Text} (hkey : key ∈ resultKeys) (value : Bytes) :
    ResultLine (utf8 (key ++ [':']) ++ hexEncode value)

theorem resultLine_plain {s : String} {l : Text} (hs : s.toList = l) (h : ApartLit l) {z : Bytes}
    (hz : Plain z) : ResultLine (ascii s ++ z) := by
  rw [ascii_eq hs h.2.ascii]
  exact .named h hz

theorem resultLine_marker {key : String} (h : ApartLit key.toList) {value : Bytes}
    (hv : Plain value) : ResultLine (ascii key ++ ascii ":" ++ value) := by
  have hcolon : Plain (ascii ":") := plain_ascii String.toList_ofList (by decide)
  rw [List.append_assoc]
  exact resultLine_plain rfl h (hcolon.append hv)

theorem resultLine_result {s : String} {l : Text} (hs : s.toList = l) (h : PlainChars l)
    (hkey : l ∈ resultKeys) (value : Bytes) :
    ResultLine (ascii s ++ ascii ":" ++ hexEncode value) := by
  have hcolon : ascii ":" = utf8 [':'] := ascii_eq String.toList_ofList (PlainChars.ascii (by decide))
  rw [ascii_eq hs h.ascii, hcolon, ← utf8_append]
  exact .result hkey value

/-- `name=value` pairs. -/
theorem plain_pairs {l : List (String × ℕ)} (h : ∀ p ∈ l, Plain (ascii p.1)) : Plain (pairs l) := by
  have hequals : Plain (ascii "=") := plain_ascii String.toList_ofList (by decide)
  intro x hx
  rcases mem_intercalate hx with rfl | ⟨w, hw, hx⟩
  · decide
  · obtain ⟨p, hp, rfl⟩ := List.mem_map.mp hw
    exact (((h p hp).append hequals).append (plain_decimal _)) x hx

/-- A name with a suffix. -/
theorem plain_suffixed {name suffix : String} {l : Text} (hname : Plain (ascii name))
    (hs : suffix.toList = l) (h : PlainChars l) : Plain (ascii (name ++ suffix)) := by
  rw [ascii_append]
  exact hname.append (plain_ascii hs h)

theorem plain_phaseName (p : TracePhase) : Plain (ascii (phaseName p)) := by
  cases p with
  | inputKeyDecap => exact plain_ascii String.toList_ofList (by decide)
  | inputAesGcm => exact plain_ascii String.toList_ofList (by decide)
  | workload => exact plain_ascii String.toList_ofList (by decide)
  | outputKem => exact plain_ascii String.toList_ofList (by decide)
  | outputAesGcm => exact plain_ascii String.toList_ofList (by decide)
  | functionKeyDecap => exact plain_ascii String.toList_ofList (by decide)
  | cfuncAesGcm => exact plain_ascii String.toList_ofList (by decide)
  | wasmLoad => exact plain_ascii String.toList_ofList (by decide)
  | wasmInstantiate => exact plain_ascii String.toList_ofList (by decide)

theorem plain_phaseLength (p : TracePhase) : Plain (ascii (phaseLength p)) := by
  unfold phaseLength
  split
  · exact plain_ascii String.toList_ofList (by decide)
  · exact plain_phaseName p

theorem plain_tscFrequencyMethod (env : InvokeEnv) : Plain (ascii (tscFrequencyMethod env)) := by
  unfold tscFrequencyMethod
  split
  · exact plain_ascii String.toList_ofList (by decide)
  · split
    · exact plain_ascii String.toList_ofList (by decide)
    · exact plain_ascii String.toList_ofList (by decide)

/-- A line that `do_invoke` prints behind a run. -/
def IsResult (e : HostEvent) : Prop := ∃ b, e = .line b ∧ ResultLine b

theorem isResult_internalTimingLine (env : InvokeEnv) (t : InvokeTrace) :
    IsResult (internalTimingLine env t) := by
  refine ⟨_, rfl, resultLine_marker (apartName String.toList_ofList (by decide)) ?_⟩
  have hblank : Plain [32] := by decide
  have hschema : Plain (ascii "workload_timing_schema=enclave-rdtsc-v1 ") :=
    plain_ascii String.toList_ofList (by decide)
  have hmethod : Plain (ascii " tsc_frequency_method=") :=
    plain_ascii String.toList_ofList (by decide)
  have hbounds : Plain (pairs (tracePhases.flatMap fun p =>
      [(phaseName p ++ "_begin_cycles", (t.phases p).beginCycles.toNat),
        (phaseName p ++ "_end_cycles", (t.phases p).endCycles.toNat)])) := by
    refine plain_pairs fun q hq => ?_
    obtain ⟨p, -, hq⟩ := List.mem_flatMap.mp hq
    simp only [List.mem_cons, List.not_mem_nil, or_false] at hq
    rcases hq with rfl | rfl
    · exact plain_suffixed (plain_phaseName p) String.toList_ofList (by decide)
    · exact plain_suffixed (plain_phaseName p) String.toList_ofList (by decide)
  have hcycles : Plain (pairs (tracePhases.map fun p =>
      (phaseLength p ++ "_cycles", (t.phases p).cycles.toNat))) := by
    refine plain_pairs fun q hq => ?_
    obtain ⟨p, -, rfl⟩ := List.mem_map.mp hq
    exact plain_suffixed (plain_phaseLength p) String.toList_ofList (by decide)
  have hfrequency : Plain (pairs [("tsc_hz", env.tscHz.toNat)]) := by
    refine plain_pairs fun q hq => ?_
    rw [List.mem_singleton.mp hq]
    exact plain_ascii String.toList_ofList (by decide)
  have hdurations : Plain (pairs (tracePhases.map fun p =>
      (phaseLength p ++ "_duration_ns", c1CyclesToNs (t.phases p).cycles env.tscHz))) := by
    refine plain_pairs fun q hq => ?_
    obtain ⟨p, -, rfl⟩ := List.mem_map.mp hq
    exact plain_suffixed (plain_phaseLength p) String.toList_ofList (by decide)
  exact (((((((hschema.append hbounds).append hblank).append hcycles).append hblank).append
    hfrequency).append hmethod).append (plain_tscFrequencyMethod env)).append hblank |>.append
      hdurations

theorem mem_resultKeys : ['R', 'I', 'D', '_', 'H', 'E', 'X'] ∈ resultKeys ∧
    ['C', 'T', '_', 'H', 'E', 'X'] ∈ resultKeys ∧
    ['R', 'E', 'S', 'U', 'L', 'T', '_', 'H', 'E', 'X'] ∈ resultKeys := by
  rw [resultKeys, String.toList_ofList, String.toList_ofList, String.toList_ofList]
  exact ⟨List.mem_cons_self, List.mem_cons_of_mem _ List.mem_cons_self,
    List.mem_cons_of_mem _ (List.mem_cons_of_mem _ List.mem_cons_self)⟩

theorem isResult_traceLines (env : InvokeEnv) (t : InvokeTrace) :
    ∀ e ∈ traceLines env t, IsResult e := by
  have hname : ∀ {s : String} {l : Text}, s.toList = l → PlainChars l → Plain (ascii s) :=
    plain_ascii
  intro e he
  simp only [traceLines, List.mem_cons, List.not_mem_nil, or_false] at he
  rcases he with rfl | rfl | rfl | rfl
  · exact ⟨_, rfl, resultLine_result String.toList_ofList (by decide) mem_resultKeys.1 _⟩
  · refine ⟨_, rfl, resultLine_marker (apartName String.toList_ofList (by decide)) ?_⟩
    refine ((plain_pairs fun q hq => ?_).append (hname String.toList_ofList
      (by decide))).append (plain_hexEncode _)
    rw [List.mem_singleton.mp hq]
    exact hname String.toList_ofList (by decide)
  · refine ⟨_, rfl, resultLine_marker (apartName String.toList_ofList (by decide)) ?_⟩
    refine plain_pairs fun q hq => ?_
    simp only [List.mem_cons, List.not_mem_nil, or_false] at hq
    rcases hq with rfl | rfl | rfl
    · exact hname String.toList_ofList (by decide)
    · exact hname String.toList_ofList (by decide)
    · exact hname String.toList_ofList (by decide)
  · exact isResult_internalTimingLine env t

theorem isResult_numberMarker {key : String} (h : ApartLit key.toList) (n : ℕ) :
    IsResult (numberMarker key n) := ⟨_, rfl, resultLine_marker h (plain_decimal n)⟩

theorem isResult_invokeLine (env : InvokeEnv) (args : RunArgs) (key : KeyPath) (size : ℕ) :
    IsResult (invokeLine env args key size) := by
  have hname : ∀ {s : String} {l : Text}, s.toList = l → PlainChars l → Plain (ascii s) :=
    plain_ascii
  refine ⟨_, rfl, resultLine_marker (apartName String.toList_ofList (by decide)) ?_⟩
  refine plain_pairs ?_
  simp only [List.forall_mem_cons, List.not_mem_nil, false_implies, implies_true, and_true]
  exact ⟨hname String.toList_ofList (by decide),
    hname String.toList_ofList (by decide), hname String.toList_ofList (by decide),
    hname String.toList_ofList (by decide), hname String.toList_ofList (by decide),
    hname String.toList_ofList (by decide), hname String.toList_ofList (by decide),
    hname String.toList_ofList (by decide), hname String.toList_ofList (by decide),
    hname String.toList_ofList (by decide), hname String.toList_ofList (by decide),
    hname String.toList_ofList (by decide), hname String.toList_ofList (by decide),
    hname String.toList_ofList (by decide), hname String.toList_ofList (by decide)⟩

/-- The names of the lines with a clock reading behind a run. -/
theorem apart_execNames : ∀ key ∈ ["T_EXEC_BEGIN_NS", "T_EXEC_END_NS", "T_EXEC_BEGIN_MONO_NS",
    "T_EXEC_END_MONO_NS", "WORKER_EXEC_DUR_NS", "WORKER_INVOKE_DUR_NS"], ApartLit key.toList := by
  have hname : ∀ {s : String} {l : Text}, s.toList = l → ApartLit l → ApartLit s.toList :=
    apartName
  simp only [List.forall_mem_cons, List.not_mem_nil, false_implies, implies_true, and_true]
  exact ⟨hname String.toList_ofList (by decide),
    hname String.toList_ofList (by decide), hname String.toList_ofList (by decide),
    hname String.toList_ofList (by decide), hname String.toList_ofList (by decide),
    hname String.toList_ofList (by decide)⟩

/-- **The lines behind a run** are results or begin apart. -/
theorem isResult_resultLines (env : InvokeEnv) (args : RunArgs) (key : KeyPath) (out : RunOut) :
    ∀ e ∈ resultLines env .kem args key out, IsResult e := by
  intro e he
  simp only [resultLines, if_true, List.mem_append, List.mem_cons, List.not_mem_nil,
    or_false] at he
  rcases he with (((he | he) | he) | rfl) | he
  · exact isResult_traceLines env out.trace e he
  · obtain ⟨name, hname, rfl⟩ := List.mem_map.mp he
    exact isResult_numberMarker (apart_execNames name hname) _
  · rcases he with rfl | rfl
    · exact isResult_invokeLine env args key _
    · exact ⟨_, rfl, resultLine_plain String.toList_ofList (by decide) (plain_decimal _)⟩
  · exact ⟨_, rfl, resultLine_result String.toList_ofList (by decide)
      mem_resultKeys.2.1 _⟩
  · rcases he with rfl | rfl
    · exact ⟨_, rfl, resultLine_result String.toList_ofList (by decide)
        mem_resultKeys.2.2 _⟩
    · have hline := resultLine_plain (s := "Loop finished.") String.toList_ofList
        (by decide) plain_nil
      rw [List.append_nil] at hline
      exact ⟨_, rfl, hline⟩

/-- Lines, as the list of their texts. -/
theorem exists_lines {l : List HostEvent} (h : ∀ e ∈ l, IsResult e) :
    ∃ ls : List Bytes, l = ls.map .line ∧ ∀ b ∈ ls, ResultLine b := by
  induction l with
  | nil => exact ⟨[], rfl, fun b hb => absurd hb List.not_mem_nil⟩
  | cons e l ih =>
    obtain ⟨b, rfl, hb⟩ := h e List.mem_cons_self
    obtain ⟨ls, rfl, hls⟩ := ih fun e' he' => h e' (List.mem_cons_of_mem _ he')
    refine ⟨b :: ls, rfl, fun b' hb' => ?_⟩
    rcases List.mem_cons.mp hb' with rfl | hb'
    · exact hb
    · exact hls b' hb'

/-! ## A command -/

/-- What a command prints is muted, and behind it stand lines of results; without an exit its
text is closed before them. -/
structure Answered (rc : Option Int) (printed : List HostEvent) : Prop where
  shape : ∃ (before : List HostEvent) (ls : List Bytes), printed = before ++ ls.map .line ∧ Muted before ∧
    (∀ b ∈ ls, ResultLine b) ∧ (rc ≠ none → Closed isLineEnd (textOf before)) ∧
      (rc = none → ls = [])
  rc : ∀ n, rc = some n → n = 0 ∨ n = -1

/-- A command that prints whole lines at its end, and no result. -/
theorem answered_of_lines {n : Int} (hn : n = 0 ∨ n = -1) {a b : List HostEvent} (ha : Muted a)
    (hb : MutedLines b) (hne : textOf b ≠ []) : Answered (some n) (a ++ b) := by
  refine ⟨⟨a ++ b, [], by rw [List.map_nil, List.append_nil], ha.append hb.muted,
    fun b hb => absurd hb List.not_mem_nil, fun _ => ?_, fun _ => rfl⟩,
    fun m hm => Option.some.inj hm ▸ hn⟩
  rw [textOf_append]
  exact closed_append_of_ne_nil _ hb.closed hne

theorem textOf_line_ne_nil (b : Bytes) : textOf [.line b] ≠ [] :=
  List.append_ne_nil_of_left_ne_nil (List.append_ne_nil_of_right_ne_nil b (List.cons_ne_nil _ _)) _

/-- The texts of one command, apart from those of the program itself. -/
structure InvokeQuiet (env : InvokeEnv) : Prop where
  quote : HarmlessText env.quoteText
  run : RunQuiet env.run

/-- The files of parsed tokens are tokens, or not named. -/
theorem parseInvokeFlags_files {out out' : InvokeArgs} {toks rest : List Bytes}
    (h : parseInvokeFlags out toks = .ok (out', rest)) :
    (out'.wasmFile = out.wasmFile ∧ out'.inputFile = out.inputFile) ∧
      ((out'.cKFuncFile = out.cKFuncFile ∨ out'.cKFuncFile ∈ toks) ∧
        (out'.cKeyFile = out.cKeyFile ∨ out'.cKeyFile ∈ toks)) ∧
      (out'.pkuFile = out.pkuFile ∧ out'.nonceFile = out.nonceFile) ∧ ∀ tok ∈ rest, tok ∈ toks := by
  fun_induction parseInvokeFlags out toks with
  | case1 out =>
    obtain ⟨rfl, rfl⟩ := Prod.mk.inj (Except.ok.inj h)
    exact ⟨⟨rfl, rfl⟩, ⟨Or.inl rfl, Or.inl rfl⟩, ⟨rfl, rfl⟩, fun tok htok => htok⟩
  | case2 => exact absurd h (by simp)
  | case3 out label rest ih =>
    obtain ⟨hfiles, ⟨hfunc, hkey⟩, hkem, hrest⟩ := ih h
    exact ⟨hfiles, ⟨hfunc.imp id fun ht => by simp [ht], hkey.imp id fun ht => by simp [ht]⟩, hkem,
      fun tok htok => by simp [hrest tok htok]⟩
  | case4 out cKFuncFile cKeyFile rest hne ih =>
    obtain ⟨hfiles, ⟨hfunc, hkey⟩, hkem, hrest⟩ := ih h
    refine ⟨hfiles, ⟨Or.inr ?_, Or.inr ?_⟩, hkem, fun tok htok => by simp [hrest tok htok]⟩
    · rcases hfunc with hfunc | hfunc
      · rw [hfunc]
        simp
      · simp [hfunc]
    · rcases hkey with hkey | hkey
      · rw [hkey]
        simp
      · simp [hkey]
  | case5 => exact absurd h (by simp)
  | case6 => exact absurd h (by simp)
  | case7 out bytes rest parsed hparsed hne hne' ih =>
    obtain ⟨hfiles, ⟨hfunc, hkey⟩, hkem, hrest⟩ := ih h
    exact ⟨hfiles, ⟨hfunc.imp id fun ht => by simp [ht], hkey.imp id fun ht => by simp [ht]⟩, hkem,
      fun tok htok => by simp [hrest tok htok]⟩
  | case8 => exact absurd h (by simp)
  | case9 out tok rest hlabel hkeys hmax =>
    obtain ⟨rfl, rfl⟩ := Prod.mk.inj (Except.ok.inj h)
    exact ⟨⟨rfl, rfl⟩, ⟨Or.inl rfl, Or.inl rfl⟩, ⟨rfl, rfl⟩, fun tok htok => htok⟩

/-- The errors of the flags. -/
theorem parseInvokeFlags_error {out : InvokeArgs} {toks : List Bytes} {err : String}
    (h : parseInvokeFlags out toks = .error err) : Plain (ascii err) := by
  have herror : ∀ {s : String} {l : Text}, s.toList = l → PlainChars l →
      (Except.error s : Except String (InvokeArgs × List Bytes)) = .error err →
      Plain (ascii err) := by
    intro s l hs hl heq
    rw [← Except.error.inj heq]
    exact plain_ascii hs hl
  fun_induction parseInvokeFlags out toks with
  | case1 => exact absurd h (by simp)
  | case2 => exact herror String.toList_ofList (by decide) h
  | case3 out label rest ih => exact ih h
  | case4 out cKFuncFile cKeyFile rest hne ih => exact ih h
  | case5 => exact herror String.toList_ofList (by decide) h
  | case6 => exact herror String.toList_ofList (by decide) h
  | case7 out bytes rest parsed hparsed hne hne' ih => exact ih h
  | case8 => exact herror String.toList_ofList (by decide) h
  | case9 => exact absurd h (by simp)

/-- **The errors of the parser** are printable. -/
theorem parseInvokeTokens_error {toks : List Bytes} {err : String}
    (h : parseInvokeTokens toks = .error err) : Plain (ascii err) := by
  have husage : Plain (ascii invokeUsage) := by
    unfold invokeUsage
    rw [ascii_append]
    refine Plain.append ?_ ?_
    · exact plain_ascii String.toList_ofList (by decide)
    · exact plain_ascii String.toList_ofList (by decide)
  unfold parseInvokeTokens at h
  split at h
  · rename_i cmd fid wasmFile inputFile flags
    cases hflags : parseInvokeFlags
        { fid := fid, wasmFile := wasmFile, inputFile := inputFile,
          label := ascii "default_label", cKFuncFile := [], cKeyFile := [], pkuFile := [],
          nonceFile := [], maxOutputBytes := defaultOutputCapacityBytes } flags with
    | error e =>
      rw [hflags] at h
      obtain rfl := Except.error.inj h
      exact parseInvokeFlags_error hflags
    | ok p =>
      rw [hflags] at h
      simp only [bind, Except.bind] at h
      split at h
      · rw [← Except.error.inj h]
        exact plain_ascii String.toList_ofList (by decide)
      · split at h
        · exact absurd h (by simp)
        · exact absurd h (by simp)
        · rw [← Except.error.inj h]
          exact husage
  · rw [← Except.error.inj h]
    exact husage

/-- **The files of a parsed command** are tokens, or not named. -/
theorem parseInvokeTokens_files {toks : List Bytes} {out : InvokeArgs}
    (h : parseInvokeTokens toks = .ok out) :
    ∀ path ∈ [out.wasmFile, out.inputFile, out.cKFuncFile, out.cKeyFile, out.pkuFile,
      out.nonceFile], path = [] ∨ path ∈ toks := by
  unfold parseInvokeTokens at h
  split at h
  · rename_i cmd fid wasmFile inputFile flags
    cases hflags : parseInvokeFlags
        { fid := fid, wasmFile := wasmFile, inputFile := inputFile,
          label := ascii "default_label", cKFuncFile := [], cKeyFile := [], pkuFile := [],
          nonceFile := [], maxOutputBytes := defaultOutputCapacityBytes } flags with
    | error e =>
      rw [hflags] at h
      exact absurd h (by simp [bind, Except.bind])
    | ok p =>
      obtain ⟨parsed, rest⟩ := p
      obtain ⟨⟨hwasm, hinput⟩, ⟨hfunc, hkey⟩, ⟨hpku, hnonce⟩, hrest⟩ :=
        parseInvokeFlags_files hflags
      have hmem : ∀ {t : Bytes}, t ∈ flags → t ∈ cmd :: fid :: wasmFile :: inputFile :: flags :=
        fun ht => by simp [ht]
      -- the files that the flags leave alone
      have hfour : ∀ path ∈ [parsed.wasmFile, parsed.inputFile, parsed.cKFuncFile,
          parsed.cKeyFile], path = [] ∨ path ∈ cmd :: fid :: wasmFile :: inputFile :: flags := by
        simp only [List.forall_mem_cons, List.not_mem_nil, false_implies, implies_true, and_true]
        exact ⟨by simp [hwasm], by simp [hinput], hfunc.imp id hmem, hkey.imp id hmem⟩
      simp only [List.forall_mem_cons, List.not_mem_nil, false_implies, implies_true,
        and_true] at hfour
      obtain ⟨h₁, h₂, h₃, h₄⟩ := hfour
      rw [hflags] at h
      simp only [bind, Except.bind] at h
      split at h
      · exact absurd h (by simp)
      · split at h
        · obtain rfl := Except.ok.inj h
          simp only [List.forall_mem_cons, List.not_mem_nil, false_implies, implies_true, and_true]
          exact ⟨h₁, h₂, h₃, h₄, Or.inl hpku, Or.inl hnonce⟩
        · rename_i pkuFile nonceFile
          obtain rfl := Except.ok.inj h
          simp only [List.forall_mem_cons, List.not_mem_nil, false_implies, implies_true, and_true]
          exact ⟨h₁, h₂, h₃, h₄, Or.inr (hmem (hrest _ (by simp))),
            Or.inr (hmem (hrest _ (by simp)))⟩
        · exact absurd h (by simp)
  · exact absurd h (by simp)

/-- The names of the files of a command stand inside a line. -/
theorem inLine_readPlan {toks : List Bytes} {args : InvokeArgs}
    (h : parseInvokeTokens toks = .ok args)
    (htoks : ∀ tok ∈ toks, ValidUtf8 tok ∧ ∀ x ∈ tok, WorkerApp.isSpace x = false) :
    ∀ p ∈ readPlan args, InLine p.2.bytes := by
  have hpath : ∀ path ∈ [args.wasmFile, args.inputFile, args.cKFuncFile, args.cKeyFile,
      args.pkuFile, args.nonceFile], InLine (fileName path).bytes := by
    intro path hpath
    rcases parseInvokeTokens_files h path hpath with rfl | hmem
    · exact inLine_fileName ⟨validUtf8_nil, fun x hx => absurd hx List.not_mem_nil⟩
    · exact inLine_fileName (htoks path hmem)
  simp only [List.forall_mem_cons, List.not_mem_nil, false_implies, implies_true,
    and_true] at hpath
  obtain ⟨hwasm, hinput, hfunc, hkey, hpku, hnonce⟩ := hpath
  intro p hp
  rcases List.mem_append.mp hp with hp | hp
  · simp only [basePlan, List.mem_cons, List.not_mem_nil, or_false] at hp
    rcases hp with rfl | rfl | rfl | rfl
    · exact hwasm
    · exact hinput
    · exact hfunc
    · exact hkey
  · split at hp
    · simp only [List.mem_cons, List.not_mem_nil, or_false] at hp
      rcases hp with rfl | rfl
      · exact hpku
      · exact hnonce
    · exact absurd hp List.not_mem_nil

/-- The run of a command, behind what is printed before it. -/
theorem answered_runFiles {env : InvokeEnv} (h : InvokeQuiet env) (key : KeyPath) (args : RunArgs)
    (g : Globals) {before : List HostEvent} (hbefore : Muted before)
    (hclosed : Closed isLineEnd (textOf before)) :
    Answered (some (runFiles S B env key .kem args g).2.1)
      (before ++ (runFiles S B env key .kem args g).2.2) := by
  unfold runFiles
  split
  · have hname : ascii (ecallName .kem) = ascii "ecall_run_encrypted_wasm_kem" := rfl
    have hfailed : Plain (ascii " failed: 0x") :=
      plain_ascii String.toList_ofList (by decide)
    refine answered_of_lines (Or.inr rfl) hbefore ?_ (textOf_line_ne_nil _)
    rw [hname, List.append_assoc]
    exact mutedLines_plain String.toList_ofList (by decide)
      (hfailed.append (plain_hexadecimal _))
  · have hrun := harmlessText_run (S := S) (B := B) h.run args g
    have hend := closed_run (S := S) (B := B) h.run args g
    dsimp only
    generalize runEncryptedWasm .kem S B env.run args (RunState.start g) = o at hrun hend
    have hlog : Muted (before ++ o.log.map .enclave) := hbefore.append (muted_enclave hrun)
    cases hrefusal : refusal env .kem o.state.out with
    | some line =>
      have hline := mutedLines_refusal hrefusal
      have hne : textOf [line] ≠ [] := by
        obtain ⟨b, rfl⟩ := exists_line_of_refusal hrefusal
        exact textOf_line_ne_nil b
      show Answered (some (-1)) (before ++ (o.log.map .enclave ++ [line]))
      rw [← List.append_assoc]
      exact answered_of_lines (Or.inr rfl) hlog hline hne
    | none =>
      obtain ⟨ls, hls, hresult⟩ := exists_lines (isResult_resultLines env args key o.state.out)
      show Answered (some 0) (before ++ (o.log.map .enclave ++
        resultLines env .kem args key o.state.out))
      rw [hls, ← List.append_assoc]
      refine ⟨⟨_, ls, rfl, hlog, hresult, fun _ => ?_, fun h => absurd h (by simp)⟩,
        fun n hn => Or.inl (Option.some.inj hn).symm⟩
      rw [textOf_append, textOf_enclave]
      exact hclosed.append (hend (success_of_accepted hrefusal))

/-- **What `do_invoke` prints** for a `kem` command. -/
theorem answered_doInvoke {env : InvokeEnv} (h : InvokeQuiet env) {args : InvokeArgs}
    (hkem : namesKem args = true) (hfiles : ∀ p ∈ readPlan args, InLine p.2.bytes) (g : Globals) :
    Answered (doInvoke S B env true args g).rc (doInvoke S B env true args g).printed := by
  have hkind : runKind args = .kem := if_pos hkem
  unfold doInvoke
  dsimp only
  generalize keyPath S env true (CStr.ofBuffer args.fid) (CStr.ofBuffer args.label) g = path
  have hasked : Muted (cacheLines path.2.contacted ++
      if path.2.contacted then [.exchange env.quoteText] else []) := by
    refine (mutedLines_cacheLines _).muted.append ?_
    split
    · exact muted_exchange h.quote
    · exact muted_nil
  split
  · exact ⟨⟨_, [], by rw [List.map_nil, List.append_nil], hasked,
      fun b hb => absurd hb List.not_mem_nil, fun hrc => absurd rfl hrc, fun _ => rfl⟩,
      fun n hn => absurd hn (by simp)⟩
  · have hlines := mutedLines_keyPathLines env path.2.timing
    have hne : textOf (keyPathLines env path.2.timing) ≠ [] := by
      refine List.append_ne_nil_of_left_ne_nil ?_ _
      exact List.append_ne_nil_of_right_ne_nil _ (List.cons_ne_nil _ _)
    have hbefore := hasked.append hlines.muted
    have hclosed : Closed isLineEnd (textOf (cacheLines path.2.contacted ++
        (if path.2.contacted then [.exchange env.quoteText] else []) ++
          keyPathLines env path.2.timing)) := by
      rw [textOf_append]
      exact closed_append_of_ne_nil _ hlines.closed hne
    cases hread : readCommandFiles env args with
    | error line =>
      exact answered_of_lines (Or.inr rfl) hbefore (mutedLines_readCommandFiles hfiles hread)
        (textOf_line_ne_nil line)
    | ok content =>
      simp only [hkind]
      exact answered_runFiles h path.2 _ path.1 hbefore hclosed

/-- **What a command prints**, its errors included. -/
theorem answered_serveInvoke (c : InvokeCommand) (h : InvokeQuiet c.env) (g : Globals) :
    Answered (serveInvoke S B c.env g c.parsed).2.1 (serveInvoke S B c.env g c.parsed).2.2 := by
  obtain ⟨toks, hparse, htoks⟩ := c.exists_tokens
  cases hparsed : c.parsed with
  | error err =>
    rw [hparsed] at hparse
    have hline : MutedLines [.line (ascii "ERROR:" ++ ascii err)] :=
      mutedLines_plain String.toList_ofList (by decide) (parseInvokeTokens_error hparse)
    exact answered_of_lines (Or.inr rfl) muted_nil hline (textOf_line_ne_nil _)
  | ok args =>
    rw [hparsed] at hparse
    exact answered_doInvoke h (c.kem args hparsed) (inLine_readPlan hparse htoks) g

end WorkerApp
end AsynCS
