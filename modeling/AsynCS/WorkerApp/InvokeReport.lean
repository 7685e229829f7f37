import AsynCS.Worker.TraceFlags
import AsynCS.WorkerApp.ResponseText
import AsynCS.WorkerApp.SkipKms

/-!
# What an `invoke` command reports

The run ECALLs return nothing, so `do_invoke` takes their output parameters for the outcome.  Of a
`kem` run it checks the public key and the flags of the trace; of a legacy run it checks nothing,
and prints what the output buffers hold.

* `KeyPairsOnCurve`: what the SDK and the crypto library promise about public keys.
* `TraceFlagsExact`: the flags of a trace say what happened; `traceFlags_exact`.
* `HostEvent.result?`, `reportedResults`: the results that a command prints.
* `SealsResult`: the run of a command sealed a result.
* `LegacyCompletes`: a legacy run of the command, when it comes to one, completes;
  `reportsOnlyResults_iff`.
-/

namespace AsynCS
namespace WorkerApp

open Worker Proc

variable {S : Sgx} {B : Bfibe}

/-! ## The public key of a run -/

/-- Public keys that the SDK makes are points of the curve, and the point with the coordinates zero
is none. -/
structure KeyPairsOnCurve (env : InvokeEnv) : Prop where
  onCurve : ∀ pair, env.run.kemKeyPair = some pair →
    env.isOnCurve (x962OfPoint pair.2).toList = true
  zero : env.isOnCurve ([4] ++ List.replicate 64 0) = false

theorem toList_x962OfPoint (pk : Block 64) : (x962OfPoint pk).toList =
    [4] ++ (pk.toList.take 32).reverse ++ (pk.toList.drop 32).reverse := by
  refine Block.toList_ofBytes ?_
  simp only [List.length_append, List.length_reverse, List.length_take, List.length_drop,
    List.length_singleton, List.Vector.toList_length]
  omega

/-- A point that the SDK made passes the check of the host. -/
theorem isValidP256PointBe_x962OfPoint {env : InvokeEnv} (hcurve : KeyPairsOnCurve env)
    {pair : Block 32 × Block 64} (hpair : env.run.kemKeyPair = some pair) :
    isValidP256PointBe env (x962OfPoint pair.2) = true := by
  have hon := hcurve.onCurve pair hpair
  have hformat : (x962OfPoint pair.2).toList.take 1 = [4] := by
    rw [toList_x962OfPoint]
    rfl
  have hnonzero : ((x962OfPoint pair.2).toList.drop 1).any (· != 0) = true := by
    by_contra hall
    have hzero : (x962OfPoint pair.2).toList.drop 1 = List.replicate 64 0 := by
      refine List.eq_replicate_iff.mpr ⟨by simp, fun x hx => ?_⟩
      by_contra hx0
      exact hall (List.any_eq_true.mpr ⟨x, hx, bne_iff_ne.mpr hx0⟩)
    have hpoint : (x962OfPoint pair.2).toList = [4] ++ List.replicate 64 0 := by
      rw [← List.take_append_drop 1 (x962OfPoint pair.2).toList, hformat, hzero]
    rw [hpoint, hcurve.zero] at hon
    cases hon
  rw [isValidP256PointBe, hformat, hnonzero, hon]
  rfl

/-! ## The flags of a trace -/

variable {env : RunEnv} {args : RunArgs} {g : Globals}

/-- The flags that the host asks for are those of every run with a result. -/
theorem c1TraceRequiredFlags_subset_of_value (htrace : args.invokeTrace = true)
    (h : (runEncryptedWasm .kem S B env args (RunState.start g)).value = some ()) :
    (runTrace S B env args g).version = 1 ∧
      c1TraceRequiredFlags ⊆ (runTrace S B env args g).flags := by
  obtain ⟨hit, U, htraces⟩ := flags_of_value htrace h
  refine ⟨htraces.version, fun f hf => ?_⟩
  by_cases hcycles : f.IsCycles
  · obtain ⟨p, rfl⟩ := hcycles
    refine htraces.lower p ?_
    revert hf
    cases p <;> decide
  · refine (htraces.plain f hcycles).mpr ?_
    revert hf
    cases hit <;> cases f <;> first | decide | exact fun _ => absurd ⟨_, rfl⟩ hcycles

/-- **The flags of the trace are exact**: success says that a size was written that fits, and brings
all that the host asks for; a valid cache entry was found or decrypted, not both; and the flag of a
phase says that the phase was recorded. -/
structure TraceFlagsExact (S : Sgx) (B : Bfibe) (env : RunEnv) (args : RunArgs) (g : Globals) :
    Prop where
  success_iff : .success ∈ (runTrace S B env args g).flags ↔
    ∃ n ≤ args.maxOutSize, WritesSize S B env args g n
  required : .success ∈ (runTrace S B env args g).flags →
    c1TraceRequiredFlags ⊆ (runTrace S B env args g).flags
  accepted : .success ∈ (runTrace S B env args g).flags → ∀ host : InvokeEnv, host.run = env →
    KeyPairsOnCurve host →
    refusal host .kem (runEncryptedWasm .kem S B env args (RunState.start g)).state.out = none
  cache : .functionCacheValid ∈ (runTrace S B env args g).flags →
    (.functionCacheHit ∈ (runTrace S B env args g).flags ↔
      .cfuncDecryptExecuted ∉ (runTrace S B env args g).flags)
  cycles_iff : ∀ p, .cyclesValid p ∈ (runTrace S B env args g).flags ↔ Records S B env args g p

/-- The host takes a run that completes. -/
theorem refusal_eq_none_of_value (htrace : args.invokeTrace = true) {host : InvokeEnv}
    (hrun : host.run = env) (hcurve : KeyPairsOnCurve host)
    (h : (runEncryptedWasm .kem S B env args (RunState.start g)).value = some ()) :
    refusal host .kem (runEncryptedWasm .kem S B env args (RunState.start g)).state.out = none := by
  obtain ⟨m, key, hcompletes⟩ := value_runEncryptedWasm_eq_some_iff.mp h
  obtain ⟨pair, hpair, hct⟩ := kemCt_of_completes hcompletes
  obtain ⟨hversion, hflags⟩ := c1TraceRequiredFlags_subset_of_value htrace h
  have hpoint := isValidP256PointBe_x962OfPoint hcurve (hrun ▸ hpair)
  have htested : ¬ ((runTrace S B env args g).version ≠ 1 ∨
      ¬ c1TraceRequiredFlags ⊆ (runTrace S B env args g).flags) := by
    rintro (hne | hne)
    · exact hne hversion
    · exact hne hflags
  rw [refusal, if_neg (by decide), hct, hpoint, if_neg (by decide)]
  exact if_neg htested

/-- **The flags of every `kem` run with a trace are exact.** -/
theorem traceFlags_exact (htrace : args.invokeTrace = true) : TraceFlagsExact S B env args g where
  success_iff := success_mem_iff_writesSize htrace
  required h := (c1TraceRequiredFlags_subset_of_value htrace ((success_mem_iff htrace).mp h)).2
  accepted h _ hrun hcurve := refusal_eq_none_of_value htrace hrun hcurve
    ((success_mem_iff htrace).mp h)
  cache := cache_flags htrace
  cycles_iff _ := cyclesValid_mem_iff htrace

/-- On a request of one byte, to a worker with its keys. -/
theorem sampleRequest_traceFlags :
    TraceFlagsExact Sgx.sample Bfibe.sample sampleRunEnv sampleRequest loadedWorker :=
  traceFlags_exact rfl

/-! ## Reported results -/

/-- How the line of a result begins. -/
def resultMark : Bytes := ascii "RESULT_HEX" ++ ascii ":"

/-- The result in a line of the host. -/
def HostEvent.result? : HostEvent → Option Bytes
  | .line text => if resultMark <+: text then some (text.drop resultMark.length) else none
  | .exchange _ => none
  | .enclave _ => none

/-- The results that a command prints. -/
def reportedResults (printed : List HostEvent) : List Bytes := printed.filterMap HostEvent.result?

/-- The result that a command reports is one that it prints when it returns 0. -/
def InvokeOutcome.Reports (o : InvokeOutcome) (hex : Bytes) : Prop :=
  o.rc = some 0 ∧ hex ∈ reportedResults o.printed

theorem exists_reports {o : InvokeOutcome} {hex : Bytes} (hrc : o.rc = some 0)
    (hprinted : reportedResults o.printed = [hex]) : ∃ hex, o.Reports hex :=
  ⟨hex, hrc, hprinted ▸ List.mem_singleton_self hex⟩

theorem reportedResults_append (a b : List HostEvent) :
    reportedResults (a ++ b) = reportedResults a ++ reportedResults b := List.filterMap_append

theorem reportedResults_nil : reportedResults [] = [] := rfl

theorem reportedResults_enclave (log : List Event) : reportedResults (log.map .enclave) = [] := by
  rw [reportedResults, List.filterMap_map]
  exact List.filterMap_eq_nil_iff.mpr fun _ _ => rfl

/-- A literal that begins like no result. -/
def Mute (l : List Char) : Prop :=
  2 ≤ l.length ∧ (l.take 2).map (fun c => UInt8.ofNat c.toNat) ≠ [82, 69]

instance : DecidablePred Mute := fun _ => inferInstanceAs (Decidable (_ ∧ _))

theorem result?_line {s : String} {l : List Char} (hs : s.toList = l) (h : Mute l) (z : Bytes) :
    HostEvent.result? (.line (ascii s ++ z)) = none := by
  have hmark : resultMark.take 2 = [82, 69] := by
    rw [resultMark, ascii, String.toList_ofList]
    rfl
  have hline : (ascii s ++ z).take 2 = (l.take 2).map fun c => UInt8.ofNat c.toNat := by
    rw [ascii, hs, List.take_append_of_le_length (by rw [List.length_map]; exact h.1),
      List.map_take]
  refine if_neg fun hprefixed => h.2 ?_
  have htake := hprefixed.take 2
  rw [hmark, hline] at htake
  refine (htake.eq_of_length ?_).symm
  rw [List.length_map, List.length_take, Nat.min_eq_left h.1]
  rfl

theorem result?_lit {s : String} {l : List Char} (hs : s.toList = l) (h : Mute l) :
    HostEvent.result? (.line (ascii s)) = none := by
  have hline := result?_line hs h []
  rwa [List.append_nil] at hline

theorem result?_marker {key : String} {l : List Char} (hs : key.toList = l) (h : Mute l)
    (value : Bytes) : HostEvent.result? (marker key value) = none := by
  rw [marker, List.append_assoc]
  exact result?_line hs h _

theorem result?_numberMarker {key : String} {l : List Char} (hs : key.toList = l) (h : Mute l)
    (n : ℕ) : HostEvent.result? (numberMarker key n) = none := result?_marker hs h _

theorem result?_result (value : Bytes) :
    HostEvent.result? (marker "RESULT_HEX" value) = some value := by
  have hprefixed : resultMark <+: ascii "RESULT_HEX" ++ ascii ":" ++ value :=
    List.prefix_append resultMark value
  rw [marker, HostEvent.result?, if_pos hprefixed]
  exact congrArg some List.drop_left

/-- Events without results. -/
theorem reportedResults_eq_nil {printed : List HostEvent}
    (h : ∀ e ∈ printed, HostEvent.result? e = none) : reportedResults printed = [] :=
  List.filterMap_eq_nil_iff.mpr h

theorem reportedResults_asked (env : InvokeEnv) (contacted : Bool) :
    reportedResults (cacheLines contacted ++
      if contacted then [.exchange env.quoteText] else []) = [] := by
  refine reportedResults_eq_nil fun e he => ?_
  simp only [cacheLines, List.mem_append, List.mem_cons, List.not_mem_nil, or_false] at he
  rcases he with (rfl | rfl) | he
  · exact result?_numberMarker String.toList_ofList (by decide) _
  · exact result?_numberMarker String.toList_ofList (by decide) _
  · cases contacted with
    | true => exact List.mem_singleton.mp he ▸ rfl
    | false => exact absurd he List.not_mem_nil

theorem reportedResults_keyPathLines (env : InvokeEnv) (timing : KmsTimingTrailer) :
    reportedResults (keyPathLines env timing) = [] := by
  refine reportedResults_eq_nil fun e he => ?_
  simp only [keyPathLines, List.map_cons, List.map_nil, List.mem_append, List.mem_cons,
    List.not_mem_nil, or_false] at he
  rcases he with ((rfl | rfl | rfl | rfl) | rfl | rfl | rfl) | rfl | rfl | rfl <;>
    exact result?_numberMarker String.toList_ofList (by decide) _

/-- The line about a file that is missing or refused. -/
theorem result?_readFile {env : InvokeEnv} {f : InvokeFile} {name : CStr} {line : Bytes}
    (h : readFile env f name = .error line) : HostEvent.result? (.line line) = none := by
  have hmissing : HostEvent.result? (.line (f.missing name)) = none := by
    cases f <;> simp only [InvokeFile.missing, List.append_assoc] <;>
      exact result?_line String.toList_ofList (by decide) _
  unfold readFile at h
  split at h
  · obtain rfl := Except.error.inj h
    exact hmissing
  · split at h
    · cases h
    · obtain rfl := Except.error.inj h
      cases f with
      | wasm => exact result?_lit String.toList_ofList (by decide)
      | input => exact result?_lit String.toList_ofList (by decide)
      | cKFunc => exact hmissing
      | cKey => exact hmissing
      | pkU => exact hmissing
      | nonce => exact hmissing

theorem result?_readFiles {env : InvokeEnv} {plan : List (InvokeFile × CStr)} {line : Bytes}
    (h : readFiles env plan = .error line) : HostEvent.result? (.line line) = none := by
  induction plan generalizing line with
  | nil => cases h
  | cons p plan ih =>
    obtain ⟨f, name⟩ := p
    rw [readFiles] at h
    cases hfile : readFile env f name with
    | error err =>
      rw [hfile] at h
      obtain rfl := Except.error.inj h
      exact result?_readFile hfile
    | ok content =>
      rw [hfile] at h
      cases htail : readFiles env plan with
      | error err =>
        rw [htail] at h
        obtain rfl := Except.error.inj h
        exact ih htail
      | ok rest =>
        rw [htail] at h
        cases h

theorem result?_readCommandFiles {env : InvokeEnv} {args : InvokeArgs} {line : Bytes}
    (h : readCommandFiles env args = .error line) : HostEvent.result? (.line line) = none := by
  unfold readCommandFiles at h
  split at h
  · cases hread : readFiles env (basePlan args) with
    | error err =>
      rw [hread] at h
      obtain rfl := Except.error.inj h
      exact result?_readFiles hread
    | ok content =>
      rw [hread] at h
      obtain rfl := Except.error.inj h
      exact result?_lit String.toList_ofList (by decide)
  · exact result?_readFiles h

theorem result?_refusal {env : InvokeEnv} {kind : RunKind} {out : RunOut} {line : HostEvent}
    (h : refusal env kind out = some line) : HostEvent.result? line = none := by
  unfold refusal at h
  split at h
  · cases h
  · split at h
    · obtain rfl := Option.some.inj h
      exact result?_lit String.toList_ofList (by decide)
    · split at h
      · obtain rfl := Option.some.inj h
        simp only [List.append_assoc]
        exact result?_line String.toList_ofList (by decide) _
      · cases h

/-- What the output parameters show. -/
def shownResult (out : RunOut) : Bytes :=
  hexEncode (out.resultIv.toList ++ out.resultTag.toList ++
    out.encryptedResult.take out.resultSize)

/-- **The lines of a command that ran** have one result. -/
theorem reportedResults_resultLines (env : InvokeEnv) (kind : RunKind) (args : RunArgs)
    (key : KeyPath) (out : RunOut) :
    reportedResults (resultLines env kind args key out) = [shownResult out] := by
  have htrace : reportedResults (if kind = .kem then traceLines env out.trace else []) = [] := by
    cases kind with
    | legacy => rfl
    | kem =>
      refine reportedResults_eq_nil fun e he => ?_
      rw [if_pos rfl] at he
      simp only [traceLines, List.mem_cons, List.not_mem_nil, or_false] at he
      rcases he with rfl | rfl | rfl | rfl <;>
        exact result?_marker String.toList_ofList (by decide) _
  have hclock : reportedResults (["T_EXEC_BEGIN_NS", "T_EXEC_END_NS", "T_EXEC_BEGIN_MONO_NS",
      "T_EXEC_END_MONO_NS", "WORKER_EXEC_DUR_NS", "WORKER_INVOKE_DUR_NS"].map
        (fun name => numberMarker name (env.number name))) = [] := by
    refine reportedResults_eq_nil fun e he => ?_
    simp only [List.map_cons, List.map_nil, List.mem_cons, List.not_mem_nil, or_false] at he
    rcases he with rfl | rfl | rfl | rfl | rfl | rfl <;>
      exact result?_numberMarker String.toList_ofList (by decide) _
  have hsum : reportedResults [invokeLine env args key out.resultSize,
      .line (ascii "Encrypted Result Size: " ++ decimal out.resultSize)] = [] := by
    refine reportedResults_eq_nil fun e he => ?_
    simp only [List.mem_cons, List.not_mem_nil, or_false] at he
    rcases he with rfl | rfl
    · exact result?_marker String.toList_ofList (by decide) _
    · exact result?_line String.toList_ofList (by decide) _
  have hct : reportedResults (if kind = .kem then [marker "CT_HEX" (hexEncode out.kemCt.toList)]
      else []) = [] := by
    cases kind with
    | legacy => rfl
    | kem =>
      refine reportedResults_eq_nil fun e he => ?_
      rw [if_pos rfl] at he
      rw [List.mem_singleton.mp he]
      exact result?_marker String.toList_ofList (by decide) _
  have hend : HostEvent.result? (.line (ascii "Loop finished.")) = none :=
    result?_lit String.toList_ofList (by decide)
  rw [resultLines, reportedResults_append, reportedResults_append, reportedResults_append,
    reportedResults_append, htrace, hclock, hsum, hct, reportedResults, List.filterMap_cons,
    result?_result, List.filterMap_cons, hend]
  rfl

/-! ## The outcome of a command -/

variable {env : InvokeEnv} {allowKmsCache : Bool} {args : InvokeArgs} {g : Globals}

/-- The key path of a command. -/
def commandKeyPath (S : Sgx) (env : InvokeEnv) (allowKmsCache : Bool) (args : InvokeArgs)
    (g : Globals) : Globals × KeyPath :=
  keyPath S env allowKmsCache (CStr.ofBuffer args.fid) (CStr.ofBuffer args.label) g

/-- **In this call** the run ECALL was entered, executed its module and encrypted what it had
captured, with this result. -/
def SealsResult (S : Sgx) (B : Bfibe) (env : InvokeEnv) (allowKmsCache : Bool) (args : InvokeArgs)
    (g : Globals) (r : SealedResult) : Prop :=
  env.runStatus = 0 ∧ ∃ kind rargs,
    (doInvoke S B env allowKmsCache args g).ran = some (kind, rargs) ∧
      Seals kind S B env.run rargs (commandKeyPath S env allowKmsCache args g).1 r

/-- A result as it is printed: IV, tag and ciphertext. -/
def sealedHex (r : SealedResult) : Bytes :=
  hexEncode (r.iv.toList ++ r.tag.toList ++ r.ciphertext)

/-- **A command reports success only for a real result**: it returns 0 and prints a result exactly
when its run sealed one, and what it prints is that result. -/
structure ReportsOnlyResults (S : Sgx) (B : Bfibe) (env : InvokeEnv) (allowKmsCache : Bool)
    (args : InvokeArgs) (g : Globals) : Prop where
  reports_iff : (∃ hex, (doInvoke S B env allowKmsCache args g).Reports hex) ↔
    ∃ r, SealsResult S B env allowKmsCache args g r
  exact : ∀ hex ∈ reportedResults (doInvoke S B env allowKmsCache args g).printed,
    ∃ r, SealsResult S B env allowKmsCache args g r ∧ hex = sealedHex r

/-- The legacy run of a command, when it comes to one, passes everything up to its end. -/
def LegacyCompletes (S : Sgx) (B : Bfibe) (env : InvokeEnv) (allowKmsCache : Bool)
    (args : InvokeArgs) (g : Globals) : Prop :=
  namesKem args = false → (commandKeyPath S env allowKmsCache args g).2.exited = false →
    ∀ content, readCommandFiles env args = .ok content → env.runStatus = 0 →
      ∃ m key, Completes .legacy S B env.run (runArgs args content)
        (commandKeyPath S env allowKmsCache args g).1 m key

/-- What is printed before the files are read. -/
def linesBefore (env : InvokeEnv) (key : KeyPath) : List HostEvent :=
  cacheLines key.contacted ++ (if key.contacted then [.exchange env.quoteText] else []) ++
    keyPathLines env key.timing

theorem reportedResults_linesBefore (env : InvokeEnv) (key : KeyPath) :
    reportedResults (linesBefore env key) = [] := by
  rw [linesBefore, reportedResults_append, reportedResults_asked, reportedResults_keyPathLines]
  rfl

/-- A command that comes to its run. -/
theorem doInvoke_of_read (hstays : (commandKeyPath S env allowKmsCache args g).2.exited = false)
    {content : InvokeFile → Bytes} (hread : readCommandFiles env args = .ok content) :
    let path := commandKeyPath S env allowKmsCache args g
    let ran := runFiles S B env path.2 (runKind args) (runArgs args content) path.1
    doInvoke S B env allowKmsCache args g =
      ⟨ran.1, path.2, some (runKind args, runArgs args content), some ran.2.1,
        linesBefore env path.2 ++ ran.2.2⟩ := by
  rw [commandKeyPath] at hstays
  rw [doInvoke, hstays, if_neg Bool.false_ne_true, hread]
  rfl

/-- A command that does not come to its run. -/
theorem doInvoke_of_not_read (h : (commandKeyPath S env allowKmsCache args g).2.exited = true ∨
      ∃ line, readCommandFiles env args = .error line) :
    (doInvoke S B env allowKmsCache args g).ran = none ∧
      reportedResults (doInvoke S B env allowKmsCache args g).printed = [] := by
  cases hexits : (commandKeyPath S env allowKmsCache args g).2.exited with
  | true =>
    rw [commandKeyPath] at hexits
    rw [doInvoke, if_pos hexits]
    exact ⟨rfl, reportedResults_asked env _⟩
  | false =>
    obtain ⟨line, hread⟩ := h.resolve_left (by rw [hexits]; exact Bool.false_ne_true)
    rw [commandKeyPath] at hexits
    rw [doInvoke, hexits, if_neg Bool.false_ne_true, hread]
    refine ⟨rfl, ?_⟩
    show reportedResults (linesBefore env _ ++ [.line line]) = []
    rw [reportedResults_append, reportedResults_linesBefore, reportedResults, List.filterMap_cons,
      result?_readCommandFiles hread]
    rfl

/-- A command that does not come to its run reports nothing. -/
theorem reportsOnlyResults_of_not_read
    (h : (commandKeyPath S env allowKmsCache args g).2.exited = true ∨
      ∃ line, readCommandFiles env args = .error line) :
    ReportsOnlyResults S B env allowKmsCache args g := by
  obtain ⟨hran, hprinted⟩ := doInvoke_of_not_read (S := S) (B := B) h
  constructor
  · constructor
    · rintro ⟨hex, -, hmem⟩
      rw [hprinted] at hmem
      cases hmem
    · rintro ⟨r, -, kind, rargs, hsome, -⟩
      rw [hran] at hsome
      cases hsome
  · intro hex hmem
    rw [hprinted] at hmem
    cases hmem

/-! ## A command that comes to its run -/

/-- What a run that completes shows is its result. -/
theorem shownResult_of_completes {kind : RunKind} {run : RunEnv} {rargs : RunArgs} {g : Globals}
    (hgcm : S.GcmLaws) {m : Admitted} {key : Block 32}
    (h : Completes kind S B run rargs g m key) :
    shownResult (runEncryptedWasm kind S B run rargs (RunState.start g)).state.out =
      sealedHex (resultOf S run rargs m key) := by
  obtain ⟨hiv, htag, hciphertext, hsize⟩ :=
    holds_of_completes (show Completes kind S B run rargs (RunState.start g).worker m key from h)
  have hlength : (resultOf S run rargs m key).ciphertext.length =
      (moduleState run rargs m.wasm m.input).capture.pos := by
    rw [← OutputCapture.length_output]
    exact hgcm.length_encrypt _ _ _ _
  rw [shownResult, sealedHex, hiv, htag, hciphertext, hsize, ← hlength, List.take_length]

/-- The host takes a `kem` run exactly when it completes. -/
theorem refusal_eq_none_iff (hnames : namesKem args = true) (hcurve : KeyPairsOnCurve env)
    {content : InvokeFile → Bytes} {g : Globals} :
    refusal env .kem (runEncryptedWasm .kem S B env.run (runArgs args content)
        (RunState.start g)).state.out = none ↔
      ∃ m key, Completes .kem S B env.run (runArgs args content) g m key := by
  have htrace : (runArgs args content).invokeTrace = true := hnames
  constructor
  · intro h
    exact value_runEncryptedWasm_eq_some_iff.mp
      ((success_mem_iff htrace).mp (success_of_accepted h))
  · intro h
    exact refusal_eq_none_of_value htrace rfl hcurve
      (value_runEncryptedWasm_eq_some_iff (s := RunState.start g) |>.mpr h)

section
variable {content : InvokeFile → Bytes}
  (hstays : (commandKeyPath S env allowKmsCache args g).2.exited = false)
  (hread : readCommandFiles env args = .ok content)
include hstays hread

theorem sealsResult_iff {r : SealedResult} :
    SealsResult S B env allowKmsCache args g r ↔ env.runStatus = 0 ∧
      ∃ m key, Completes (runKind args) S B env.run (runArgs args content)
          (commandKeyPath S env allowKmsCache args g).1 m key ∧
        r = resultOf S env.run (runArgs args content) m key := by
  rw [SealsResult, doInvoke_of_read hstays hread]
  refine and_congr_right fun _ => ⟨?_, ?_⟩
  · rintro ⟨kind, rargs, hran, hseals⟩
    obtain ⟨rfl, rfl⟩ := Prod.mk.inj (Option.some.inj hran)
    exact seals_iff.mp hseals
  · exact fun h => ⟨_, _, rfl, seals_iff.mpr h⟩

/-- A run ECALL that was not entered. -/
theorem reportsOnlyResults_of_not_entered (hstatus : env.runStatus ≠ 0) :
    ReportsOnlyResults S B env allowKmsCache args g := by
  have hnone : ∀ r, ¬ SealsResult S B env allowKmsCache args g r := fun r h => hstatus h.1
  have hprinted : reportedResults (doInvoke S B env allowKmsCache args g).printed = [] := by
    rw [doInvoke_of_read hstays hread, reportedResults_append, reportedResults_linesBefore,
      runFiles, if_pos hstatus]
    refine reportedResults_eq_nil fun e he => ?_
    rw [List.mem_singleton.mp he]
    cases runKind args <;> simp only [ecallName, List.append_assoc] <;>
      exact result?_line String.toList_ofList (by decide) _
  refine ⟨⟨?_, fun ⟨r, hr⟩ => absurd hr (hnone r)⟩, ?_⟩
  · rintro ⟨hex, -, hmem⟩
    rw [hprinted] at hmem
    cases hmem
  · intro hex hmem
    rw [hprinted] at hmem
    cases hmem

/-- What a command prints whose run ECALL was entered. -/
theorem doInvoke_of_entered (hstatus : env.runStatus = 0) :
    let out := (runEncryptedWasm (runKind args) S B env.run (runArgs args content)
      (RunState.start (commandKeyPath S env allowKmsCache args g).1)).state.out
    ((refusal env (runKind args) out).isSome = true →
      (doInvoke S B env allowKmsCache args g).rc = some (-1) ∧
        reportedResults (doInvoke S B env allowKmsCache args g).printed = []) ∧
      (refusal env (runKind args) out = none →
        (doInvoke S B env allowKmsCache args g).rc = some 0 ∧
          reportedResults (doInvoke S B env allowKmsCache args g).printed = [shownResult out]) := by
  intro out
  have hstart : ¬ env.runStatus ≠ 0 := fun h => h hstatus
  rw [doInvoke_of_read hstays hread]
  constructor
  · intro hrefused
    obtain ⟨line, hline⟩ := Option.isSome_iff_exists.mp hrefused
    rw [runFiles, if_neg hstart]
    dsimp only
    rw [hline]
    refine ⟨rfl, ?_⟩
    rw [reportedResults_append, reportedResults_linesBefore, reportedResults_append,
      reportedResults_enclave, reportedResults, List.filterMap_cons, result?_refusal hline]
    rfl
  · intro haccepted
    rw [runFiles, if_neg hstart]
    dsimp only
    rw [haccepted]
    refine ⟨rfl, ?_⟩
    rw [reportedResults_append, reportedResults_linesBefore, reportedResults_append,
      reportedResults_enclave, reportedResults_resultLines]
    rfl

/-- **A run ECALL that was entered**, when the host takes just the runs that complete. -/
theorem reportsOnlyResults_of_entered (hgcm : S.GcmLaws) (hstatus : env.runStatus = 0)
    (haccepted : refusal env (runKind args) (runEncryptedWasm (runKind args) S B env.run
        (runArgs args content)
        (RunState.start (commandKeyPath S env allowKmsCache args g).1)).state.out = none ↔
      ∃ m key, Completes (runKind args) S B env.run (runArgs args content)
        (commandKeyPath S env allowKmsCache args g).1 m key) :
    ReportsOnlyResults S B env allowKmsCache args g := by
  obtain ⟨hrefuses, haccepts⟩ := doInvoke_of_entered (S := S) (B := B) hstays hread hstatus
  cases hrefusal : refusal env (runKind args) (runEncryptedWasm (runKind args) S B env.run
      (runArgs args content)
      (RunState.start (commandKeyPath S env allowKmsCache args g).1)).state.out with
  | some line =>
    obtain ⟨hrc, hprinted⟩ := hrefuses (by rw [hrefusal]; rfl)
    have hnone : ∀ r, ¬ SealsResult S B env allowKmsCache args g r := by
      intro r hr
      obtain ⟨-, m, key, hcompletes, -⟩ := (sealsResult_iff hstays hread).mp hr
      rw [haccepted.mpr ⟨m, key, hcompletes⟩] at hrefusal
      cases hrefusal
    refine ⟨⟨?_, fun ⟨r, hr⟩ => absurd hr (hnone r)⟩, ?_⟩
    · rintro ⟨hex, hzero, -⟩
      rw [hrc] at hzero
      cases hzero
    · intro hex hmem
      rw [hprinted] at hmem
      cases hmem
  | none =>
    obtain ⟨hrc, hprinted⟩ := haccepts hrefusal
    obtain ⟨m, key, hcompletes⟩ := haccepted.mp hrefusal
    have hseals : SealsResult S B env allowKmsCache args g
        (resultOf S env.run (runArgs args content) m key) :=
      (sealsResult_iff hstays hread).mpr ⟨hstatus, m, key, hcompletes, rfl⟩
    refine ⟨⟨fun _ => ⟨_, hseals⟩, fun _ => exists_reports hrc hprinted⟩, fun hex hmem => ?_⟩
    rw [hprinted] at hmem
    rw [List.mem_singleton.mp hmem]
    exact ⟨_, hseals, shownResult_of_completes hgcm hcompletes⟩

/-- **A legacy run ECALL that was entered** is taken, whatever it did. -/
theorem completes_of_reportsOnlyResults (hstatus : env.runStatus = 0)
    (hlegacy : runKind args = .legacy) (h : ReportsOnlyResults S B env allowKmsCache args g) :
    ∃ m key, Completes .legacy S B env.run (runArgs args content)
      (commandKeyPath S env allowKmsCache args g).1 m key := by
  have haccepts := (doInvoke_of_entered (S := S) (B := B) hstays hread hstatus).2
  rw [hlegacy] at haccepts
  obtain ⟨hrc, hprinted⟩ := haccepts (if_pos rfl)
  obtain ⟨r, hr⟩ := h.reports_iff.mp (exists_reports hrc hprinted)
  obtain ⟨-, m, key, hcompletes, -⟩ := (sealsResult_iff hstays hread).mp hr
  exact ⟨m, key, hlegacy ▸ hcompletes⟩

end

/-- **When a command reports only real results**: exactly when its legacy run, if it comes to one,
completes. -/
theorem reportsOnlyResults_iff (hgcm : S.GcmLaws) (hcurve : KeyPairsOnCurve env) :
    ReportsOnlyResults S B env allowKmsCache args g ↔
      LegacyCompletes S B env allowKmsCache args g := by
  constructor
  · intro h hnames hstays content hread hstatus
    have hlegacy : runKind args = .legacy := by
      rw [runKind, hnames]
      rfl
    exact completes_of_reportsOnlyResults hstays hread hstatus hlegacy h
  · intro hlegacy
    cases hstays : (commandKeyPath S env allowKmsCache args g).2.exited with
    | true => exact reportsOnlyResults_of_not_read (.inl hstays)
    | false =>
      cases hread : readCommandFiles env args with
      | error line => exact reportsOnlyResults_of_not_read (.inr ⟨line, hread⟩)
      | ok content =>
        by_cases hstatus : env.runStatus = 0
        · refine reportsOnlyResults_of_entered hstays hread hgcm hstatus ?_
          cases hnames : namesKem args with
          | true =>
            have hkind : runKind args = .kem := if_pos hnames
            rw [hkind]
            exact refusal_eq_none_iff hnames hcurve
          | false =>
            have hkind : runKind args = .legacy := by
              rw [runKind, hnames]
              rfl
            rw [hkind]
            exact ⟨fun _ => hlegacy hnames hstays content hread hstatus, fun _ => if_pos rfl⟩
        · exact reportsOnlyResults_of_not_entered hstays hread hstatus

/-- A KMS that sends nothing, and points of which the one with the coordinates zero is none. -/
def keylessEnv : InvokeEnv :=
  { sampleInvokeEnv with
    net := fun _ _ => ⟨true, [[true]], true, []⟩
    isOnCurve := fun pt => pt != [4] ++ List.replicate 64 0 }

/-- A legacy command for the FID `f`. -/
def keylessArgs : InvokeArgs := (sampleInvokeCall (ascii "L")).args

theorem keyPairsOnCurve_keylessEnv : KeyPairsOnCurve keylessEnv where
  onCurve _ hpair := absurd hpair (by simp [keylessEnv, sampleInvokeEnv, sampleRunEnv])
  zero := show (([4] ++ List.replicate 64 0 : Bytes) != [4] ++ List.replicate 64 0) = false from
    bne_self_eq_false _

/-- For a command of a worker that got no keys. -/
theorem keyless_reportsOnlyResults_iff :
    ReportsOnlyResults Sgx.sample Bfibe.sample keylessEnv true keylessArgs Globals.initial ↔
      LegacyCompletes Sgx.sample Bfibe.sample keylessEnv true keylessArgs Globals.initial :=
  reportsOnlyResults_iff Sgx.sample_gcmLaws keyPairsOnCurve_keylessEnv

/-- **A worker without keys** runs nothing, and its legacy command returns 0 and prints a result of
zeros. -/
theorem keyless_reports_nothing_real :
    ¬ ReportsOnlyResults Sgx.sample Bfibe.sample keylessEnv true keylessArgs Globals.initial := by
  intro h
  have hstays : (commandKeyPath Sgx.sample keylessEnv true keylessArgs Globals.initial).2.exited =
      false := by decide
  have hopened : (readCommandFiles keylessEnv keylessArgs).isOk = true := by decide
  cases hread : readCommandFiles keylessEnv keylessArgs with
  | error line =>
    rw [hread] at hopened
    cases hopened
  | ok content =>
    obtain ⟨m, key, hcompletes⟩ := completes_of_reportsOnlyResults hstays hread rfl rfl h
    have hloaded := hcompletes.ready.keysLoaded
    have hempty : (commandKeyPath Sgx.sample keylessEnv true keylessArgs
          Globals.initial).1.bfibe.keyLoaded = false ∧
        (commandKeyPath Sgx.sample keylessEnv true keylessArgs
          Globals.initial).1.ecc.keyLoaded = false := by decide
    rw [keysLoaded, hempty.1, hempty.2, ite_self] at hloaded
    cases hloaded

end WorkerApp
end AsynCS
