import AsynCS.Lib.Runs
import AsynCS.Proxy.WorkerResponse

/-!
# The worker process of the proxy

The proxy keeps one worker process, the profile it was started with, and what the process printed
before it was ready.  Each of these is a global that is written at another point of a start, and a
start can fail in between.

* `ProxyState`, `startSgxWorker`, `stopSgxWorker`: the globals, beside the processes that there
  are.
* `Operation`, `step`: a prestart, an invocation, a reset, or the exit of a process.
* `Served`, `AttachedOnce`: what is wanted of a step and of a run.
* `servedByWorker_iff`: the runs in which this holds, and `Sound` the invariant behind it.
-/

namespace AsynCS
namespace Proxy
namespace WorkerProcess

/-! ## Processes and globals -/

/-- `startup_markers`, and any other table of markers. -/
abbrev Markers := Text → Option Text

/-- No marker. -/
def Markers.empty : Markers := fun _ => none

/-- A process: the profile in its environment, whether `SERVER_READY` was read from it, and
whether it runs. -/
structure Process where
  profile : Text
  ready : Bool
  alive : Bool

/-- The globals of the proxy, and all processes that were started. -/
structure ProxyState where
  /-- `_SGX_WORKER_PROC` -/
  proc : Option ℕ
  /-- `_SGX_WORKER_CRYPTO_PROFILE` -/
  cryptoProfile : Option Text
  /-- `_LAST_WORKER_STARTED` -/
  lastWorkerStarted : Bool
  /-- `_LAST_WORKER_STARTUP_MARKERS` -/
  lastWorkerStartupMarkers : Markers
  /-- the process that printed them, which the code does not keep -/
  markersOf : Option ℕ
  processes : List Process

def ProxyState.initial : ProxyState := ⟨none, none, false, Markers.empty, none, []⟩

/-- What an operation raises. -/
inductive Failure where
  | workerProtocolError (text : Text)
  /-- `Popen` raises -/
  | notStarted
  /-- a line cannot be decoded -/
  | undecodable
  | brokenPipe
  /-- the worker exited before `END_RESPONSE` -/
  | exited (lines : List Text)
  | response (error : ResponseError)

/-- What a process does until the proxy has read what it reads at a start: the lines that
`readline` returns up to the end of the output, and whether the process runs then. -/
structure Startup where
  lines : List (Option Text)
  alive : Bool

/-! ## Starting and stopping -/

/-- `_parse_marker_line`, into the table. -/
def addMarker (markers : Markers) (text : Text) : Markers :=
  if ':' ∈ text ∧ beforeColon text ≠ [] then
    Function.update markers (beforeColon text) (some (stripWhile isUnicodeSpace (afterColon text)))
  else markers

def serverReady : Text := "SERVER_READY".toList

/-- `"worker did not emit SERVER_READY: {tail}"`, with the last five lines. -/
def notReady (readinessLines : List Text) : Failure :=
  .workerProtocolError ("worker did not emit SERVER_READY: ".toList ++
    List.intercalate ['\n'] (readinessLines.drop (readinessLines.length - 5)))

/-- The loop that waits for `SERVER_READY`, with the lines that may still be read. -/
def awaitReady : ℕ → List Text → Markers → List (Option Text) → Except Failure Markers
  | 0, readinessLines, _, _ => .error (notReady readinessLines)
  | _ + 1, readinessLines, _, [] => .error (notReady readinessLines)
  | _ + 1, _, _, none :: _ => .error .undecodable
  | left + 1, readinessLines, markers, some text :: lines =>
    if text = serverReady then .ok (addMarker markers text)
    else awaitReady left (readinessLines ++ [text]) (addMarker markers text) lines

/-- `crypto_profile_id or "eccibe"` -/
def requestedProfile : Option Text → Text
  | some (c :: text) => c :: text
  | _ => "eccibe".toList

/-- The process that the proxy keeps. -/
def ProxyState.current (s : ProxyState) : Option Process := s.proc.bind fun k => s.processes[k]?

/-- The process that the proxy keeps runs, and was started for the profile. -/
def ProxyState.keeps (s : ProxyState) (profile : Text) : Bool :=
  s.current.any (·.alive) && s.cryptoProfile == some profile

/-- `_stop_sgx_worker`: what becomes of the process is left open. -/
def stopSgxWorker (s : ProxyState) : ProxyState := { s with proc := none, cryptoProfile := none }

/-- `Popen`, and what is written before and after the loop. -/
def ProxyState.spawn (s : ProxyState) (profile : Text) (startup : Startup) :
    ProxyState × Except Failure Unit :=
  let started : ProxyState :=
    { s with
      proc := some s.processes.length
      cryptoProfile := some profile
      lastWorkerStarted := true
      lastWorkerStartupMarkers := Markers.empty
      markersOf := none }
  match awaitReady 200 [] Markers.empty startup.lines with
  | .ok markers =>
    ({ started with
        lastWorkerStartupMarkers := markers
        markersOf := some s.processes.length
        processes := s.processes ++ [⟨profile, true, startup.alive⟩] }, .ok ())
  | .error e =>
    ({ started with processes := s.processes ++ [⟨profile, false, startup.alive⟩] }, .error e)

/-- `_start_sgx_worker`, with whether it called `Popen`. -/
def startSgxWorker (s : ProxyState) (profile : Text) (startup : Option Startup) :
    ProxyState × Bool × Except Failure Unit :=
  if s.keeps profile then
    ({ s with
        lastWorkerStarted := false
        lastWorkerStartupMarkers := Markers.empty
        markersOf := none }, false, .ok ())
  else
    match startup with
    | some startup =>
      let started := (stopSgxWorker s).spawn profile startup
      (started.1, true, started.2)
    | none => (stopSgxWorker s, true, .error .notStarted)

/-! ## Operations -/

/-- What `_invoke_sgx_worker` returns. -/
structure Invocation where
  response : WorkerResponse
  workerStarted : Bool
  startupMarkers : Markers

/-- What an operation does. -/
structure Report where
  /-- `Popen` was called -/
  popen : Bool
  /-- the profile of a command, and the process that it was written to, as it was then -/
  wrote : Option (Text × Process)
  /-- the process whose startup markers are in the response -/
  attached : Option ℕ
  result : Except Failure (Option Invocation)

/-- Nothing was done. -/
def Report.nothing : Report := ⟨false, none, none, .ok none⟩

/-- The settings of a prestart. -/
structure Prestart where
  enabled : Bool
  cryptoProfile : Text

/-- The markers that a prestarted worker prints. -/
def requiredMarkers : List Text :=
  ["T_ENCLAVE_CREATE_BEGIN_MONO_NS".toList, "T_ENCLAVE_CREATE_END_MONO_NS".toList,
    "T_ENCLAVE_INIT_BEGIN_MONO_NS".toList, "T_ENCLAVE_INIT_END_MONO_NS".toList]

/-- A prestart, behind the start of its worker. -/
def checkPrestarted (start : ProxyState × Bool × Except Failure Unit) : ProxyState × Report :=
  let s := start.1
  let report (result : Except Failure (Option Invocation)) : Report :=
    ⟨start.2.1, none, none, result⟩
  match start.2.2 with
  | .error e => (s, report (.error e))
  | .ok () =>
    let missing := requiredMarkers.filter fun key => (s.lastWorkerStartupMarkers key).isNone
    if missing ≠ [] then
      (stopSgxWorker s, report (.error (.workerProtocolError
        ("prestarted worker reached SERVER_READY without enclave lifecycle markers: ".toList ++
          List.intercalate [','] missing))))
    else if s.lastWorkerStartupMarkers "KMS_CONTACTED".toList = some "1".toList then
      (stopSgxWorker s, report (.error (.workerProtocolError
        "prestarted worker contacted KMS before an invocation".toList)))
    else (s, report (.ok none))

/-- `_prestart_sgx_worker_if_enabled` -/
def prestart (settings : Prestart) (s : ProxyState) (startup : Option Startup) :
    ProxyState × Report :=
  if settings.enabled = false then (s, .nothing)
  else if settings.cryptoProfile ≠ "bfibe-mcl-bls12381".toList then
    (s, { Report.nothing with
      result := .error
        (.workerProtocolError "enclave-ready prewarm requires bfibe-mcl-bls12381".toList) })
  else checkPrestarted (startSgxWorker s settings.cryptoProfile startup)

/-- `_consume_worker_startup_markers_for_invocation`: the markers, and whose they are. -/
def consumeStartupMarkers (s : ProxyState) : ProxyState × Markers × Option ℕ :=
  if s.lastWorkerStarted = false then (s, Markers.empty, none)
  else
    ({ s with
        lastWorkerStarted := false
        lastWorkerStartupMarkers := Markers.empty
        markersOf := none }, s.lastWorkerStartupMarkers, s.markersOf)

/-- The loop that reads a response. -/
def readResponse : List Text → List (Option Text) → Except Failure (List Text)
  | lines, [] => .error (.exited lines)
  | _, none :: _ => .error .undecodable
  | lines, some text :: rest =>
    if text = endResponse then .ok (lines ++ [text]) else readResponse (lines ++ [text]) rest

/-- The response, parsed. -/
def readWorkerResponse (lines : List (Option Text)) : Except Failure WorkerResponse :=
  match readResponse [] lines with
  | .error e => .error e
  | .ok lines =>
    match parseWorkerResponse lines with
    | .error e => .error (.response e)
    | .ok response => .ok response

/-- A process is gone. -/
def ProxyState.exit (s : ProxyState) (k : ℕ) : ProxyState :=
  { s with processes := s.processes.modify k fun p => { p with alive := false } }

/-- The process that the proxy keeps is gone. -/
def ProxyState.exitCurrent (s : ProxyState) : ProxyState :=
  match s.proc with
  | some k => s.exit k
  | none => s

/-- An invocation: what a process that is started does, whether the process is gone when the
command is written, and the lines that it answers with. -/
structure Invoke where
  cryptoProfile : Option Text
  startup : Option Startup
  exits : Bool
  lines : List (Option Text)

/-- An invocation, behind the start of its worker. -/
def sendCommand (profile : Text) (i : Invoke) (start : ProxyState × Bool × Except Failure Unit) :
    ProxyState × Report :=
  let startup := consumeStartupMarkers start.1
  let s := startup.1
  match start.2.2 with
  | .error e => (start.1, ⟨start.2.1, none, none, .error e⟩)
  | .ok () =>
    match s.current with
    | some p =>
      -- a pipe that nobody reads cannot be written to
      if i.exits ∨ p.alive = false then
        (s.exitCurrent, ⟨start.2.1, none, none, .error .brokenPipe⟩)
      else
        match readWorkerResponse i.lines with
        | .error e => (s, ⟨start.2.1, some (profile, p), none, .error e⟩)
        | .ok response =>
          (s, ⟨start.2.1, some (profile, p), startup.2.2,
            .ok (some ⟨response, start.1.lastWorkerStarted, startup.2.1⟩)⟩)
    | none =>
      (s, ⟨start.2.1, none, none,
        .error (.workerProtocolError "worker_not_running".toList)⟩)

/-- `_invoke_sgx_worker` -/
def invokeSgxWorker (s : ProxyState) (i : Invoke) : ProxyState × Report :=
  let profile := requestedProfile i.cryptoProfile
  sendCommand profile i (startSgxWorker s profile i.startup)

/-- What is asked of the proxy, and what happens to its processes. -/
inductive Operation where
  | exits (k : ℕ)
  | prestart (startup : Option Startup)
  | run (i : Invoke)
  | reset

/-- One operation. -/
def step (settings : Prestart) (s : ProxyState) : Operation → ProxyState × Report
  | .exits k => (s.exit k, .nothing)
  | .prestart startup => prestart settings s startup
  | .run i => invokeSgxWorker s i
  | .reset => (stopSgxWorker s, .nothing)

/-! ## What is wanted -/

/-- The profile that an operation starts a worker for. -/
def Operation.profile (settings : Prestart) : Operation → Option Text
  | .prestart _ =>
    if settings.enabled = true ∧ settings.cryptoProfile = "bfibe-mcl-bls12381".toList then
      some settings.cryptoProfile
    else none
  | .run i => some (requestedProfile i.cryptoProfile)
  | _ => none

/-- The proxy keeps a process from which it read `SERVER_READY`. -/
def ProxyState.holdsReady (s : ProxyState) : Bool := s.current.any (·.ready)

/-- A record of a run of the proxy. -/
abbrev ProxyRecord := Record ProxyState Operation Report

/-- **One operation**: a command is written to a process that runs, is ready, and was started for
its profile; the answer says whether it was started for it; and where no process has become ready,
a new one is started. -/
structure Served (settings : Prestart) (r : ProxyRecord) : Prop where
  written : ∀ profile p, r.output.wrote = some (profile, p) →
    p.alive = true ∧ p.ready = true ∧ p.profile = profile
  started : ∀ invocation, r.output.result = .ok (some invocation) →
    (invocation.workerStarted = true ↔ r.output.popen = true)
  fresh : (r.input.profile settings).isSome = true → r.pre.holdsReady = false →
    r.output.popen = true

/-- The startup markers of a process are in one response at most. -/
def AttachedOnce (h : List ProxyRecord) : Prop :=
  ∀ k, h.countP (fun r => r.output.attached == some k) ≤ 1

/-- The proxy does not keep, for the profile of the operation, a process that runs and never
became ready. -/
def replacesFailed (settings : Prestart) (s : ProxyState) (op : Operation) : Bool :=
  match op.profile settings with
  | some profile => !s.keeps profile || s.holdsReady
  | none => true

/-! ## What holds in every run -/

/-- The process that the proxy keeps exists, and was started for the profile that is kept; markers
that are kept belong to a start. -/
structure Sound (s : ProxyState) : Prop where
  kept : ∀ k, s.proc = some k → ∃ p, s.processes[k]? = some p ∧ s.cryptoProfile = some p.profile
  markers : ∀ k, s.markersOf = some k → s.lastWorkerStarted = true ∧ k < s.processes.length

theorem sound_initial : Sound .initial := ⟨nofun, nofun⟩

variable {settings : Prestart} {s : ProxyState} {profile : Text}

/-- The process that is kept, of a sound state. -/
theorem Sound.current (hs : Sound s) {p : Process} (h : s.current = some p) :
    s.cryptoProfile = some p.profile := by
  obtain ⟨k, hk, hp⟩ := Option.bind_eq_some_iff.mp h
  obtain ⟨p', hp', hprofile⟩ := hs.kept k hk
  rw [hp] at hp'
  rw [hprofile, Option.some.inj hp']

/-- A process that is kept for a profile runs, and was started for it. -/
theorem Sound.of_keeps (hs : Sound s) (h : s.keeps profile = true) :
    ∃ p, s.current = some p ∧ p.alive = true ∧ p.profile = profile := by
  rw [ProxyState.keeps, Bool.and_eq_true, Option.any_eq_true, beq_iff_eq] at h
  obtain ⟨⟨p, hp, halive⟩, hprofile⟩ := h
  refine ⟨p, hp, halive, ?_⟩
  rw [hs.current hp] at hprofile
  exact Option.some.inj hprofile

theorem Sound.stop (hs : Sound s) : Sound (stopSgxWorker s) := ⟨nofun, hs.markers⟩

/-- A process that exits keeps its profile. -/
theorem Sound.exit (hs : Sound s) (k : ℕ) : Sound (s.exit k) := by
  constructor
  · intro j hj
    obtain ⟨p, hp, hprofile⟩ := hs.kept j hj
    rw [ProxyState.exit, List.getElem?_modify, hp]
    by_cases hjk : k = j
    · exact ⟨{ p with alive := false }, by simp [hjk], hprofile⟩
    · exact ⟨p, by simp [hjk], hprofile⟩
  · intro j hj
    rw [ProxyState.exit, List.length_modify]
    exact hs.markers j hj

/-- **Starting a worker**: one is kept; or one is started and ready; or the start fails, and what
is kept then is not ready. -/
inductive Started (s : ProxyState) (profile : Text) :
    ProxyState × Bool × Except Failure Unit → Prop where
  | kept (hkeeps : s.keeps profile = true) :
      Started s profile
        ({ s with
          lastWorkerStarted := false
          lastWorkerStartupMarkers := Markers.empty
          markersOf := none }, false, .ok ())
  | ready {s' : ProxyState} {alive : Bool} (hkeeps : s.keeps profile = false)
      (hproc : s'.proc = some s.processes.length) (hprofile : s'.cryptoProfile = some profile)
      (hstarted : s'.lastWorkerStarted = true) (hmarkers : s'.markersOf = some s.processes.length)
      (hprocesses : s'.processes = s.processes ++ [⟨profile, true, alive⟩]) :
      Started s profile (s', true, .ok ())
  | failed {s' : ProxyState} {alive : Bool} {e : Failure} (hkeeps : s.keeps profile = false)
      (hproc : s'.proc = some s.processes.length) (hprofile : s'.cryptoProfile = some profile)
      (hmarkers : s'.markersOf = none)
      (hprocesses : s'.processes = s.processes ++ [⟨profile, false, alive⟩]) :
      Started s profile (s', true, .error e)
  | notStarted (hkeeps : s.keeps profile = false) :
      Started s profile (stopSgxWorker s, true, .error .notStarted)

theorem started_startSgxWorker (s : ProxyState) (profile : Text) (startup : Option Startup) :
    Started s profile (startSgxWorker s profile startup) := by
  unfold startSgxWorker
  cases hkeeps : s.keeps profile with
  | true => exact .kept hkeeps
  | false =>
    cases startup with
    | none => exact .notStarted hkeeps
    | some startup =>
      simp only [Bool.false_eq_true, if_false, ProxyState.spawn]
      cases awaitReady 200 [] Markers.empty startup.lines with
      | ok markers => exact .ready hkeeps rfl rfl rfl rfl rfl
      | error e => exact .failed hkeeps rfl rfl rfl rfl

/-- A start keeps a sound state, and the processes that there were. -/
theorem Started.sound {o : ProxyState × Bool × Except Failure Unit} (h : Started s profile o)
    (hs : Sound s) : Sound o.1 := by
  cases h with
  | kept hkeeps => exact ⟨hs.kept, nofun⟩
  | ready hkeeps hproc hprofile hstarted hmarkers hprocesses =>
    constructor
    · intro k hk
      obtain rfl := Option.some.inj (hproc.symm.trans hk)
      exact ⟨_, by rw [hprocesses]; exact List.getElem?_concat_length, hprofile⟩
    · intro k hk
      obtain rfl := Option.some.inj (hmarkers.symm.trans hk)
      exact ⟨hstarted, by simp [hprocesses]⟩
  | failed hkeeps hproc hprofile hmarkers hprocesses =>
    constructor
    · intro k hk
      obtain rfl := Option.some.inj (hproc.symm.trans hk)
      exact ⟨_, by rw [hprocesses]; exact List.getElem?_concat_length, hprofile⟩
    · intro k hk
      rw [hmarkers] at hk
      cases hk
  | notStarted hkeeps => exact hs.stop

/-- What an operation does behind a start: a command goes to the process that is kept, markers are
handed out once, and no process is added. -/
structure Follows (profile : Text) (start : ProxyState × Bool × Except Failure Unit)
    (o : ProxyState × Report) : Prop where
  popen : o.2.popen = start.2.1
  wrote : ∀ q p, o.2.wrote = some (q, p) →
    q = profile ∧ p.alive = true ∧ start.1.current = some p ∧ start.2.2 = .ok ()
  started : ∀ v, o.2.result = .ok (some v) →
    v.workerStarted = start.1.lastWorkerStarted ∧ start.2.2 = .ok ()
  attached : ∀ k, o.2.attached = some k → start.1.markersOf = some k ∧ o.1.markersOf = none
  length : o.1.processes.length = start.1.processes.length
  markers : ∀ k, o.1.markersOf = some k → start.1.markersOf = some k
  sound : Sound start.1 → Sound o.1

/-- An operation that stops behind a start. -/
theorem follows_of_silent {start : ProxyState × Bool × Except Failure Unit} {s' : ProxyState}
    {result : Except Failure (Option Invocation)} (hresult : ∀ v, result ≠ .ok (some v))
    (hs' : s' = start.1 ∨ s' = stopSgxWorker start.1) :
    Follows profile start (s', ⟨start.2.1, none, none, result⟩) where
  popen := rfl
  wrote := nofun
  started v hv := absurd hv (hresult v)
  attached := nofun
  length := by rcases hs' with rfl | rfl <;> rfl
  markers k hk := by rcases hs' with rfl | rfl <;> exact hk
  sound hs := by
    rcases hs' with rfl | rfl
    · exact hs
    · exact hs.stop

/-- **Markers are handed out once.** -/
theorem consumeStartupMarkers_spec (s : ProxyState) :
    (consumeStartupMarkers s).1.processes = s.processes ∧
      (consumeStartupMarkers s).1.current = s.current ∧
      (∀ k, (consumeStartupMarkers s).2.2 = some k →
        s.markersOf = some k ∧ (consumeStartupMarkers s).1.markersOf = none) ∧
      (∀ k, (consumeStartupMarkers s).1.markersOf = some k → s.markersOf = some k) ∧
      (Sound s → Sound (consumeStartupMarkers s).1) := by
  unfold consumeStartupMarkers
  split
  · exact ⟨rfl, rfl, nofun, fun _ h => h, fun hs => hs⟩
  · exact ⟨rfl, rfl, fun _ h => ⟨h, rfl⟩, nofun, fun hs => ⟨hs.kept, nofun⟩⟩

theorem sound_exitCurrent (hs : Sound s) : Sound s.exitCurrent := by
  unfold ProxyState.exitCurrent
  split
  · exact hs.exit _
  · exact hs

theorem exitCurrent_fields (s : ProxyState) :
    s.exitCurrent.processes.length = s.processes.length ∧
      s.exitCurrent.markersOf = s.markersOf := by
  unfold ProxyState.exitCurrent
  split
  · exact ⟨List.length_modify .., rfl⟩
  · exact ⟨rfl, rfl⟩

theorem follows_sendCommand (profile : Text) (i : Invoke)
    (start : ProxyState × Bool × Except Failure Unit) :
    Follows profile start (sendCommand profile i start) := by
  obtain ⟨s', popen, started⟩ := start
  cases started with
  | error e => exact follows_of_silent nofun (.inl rfl)
  | ok _ =>
    obtain ⟨hprocesses, hcurrent, hattached, hmarkers, hsound⟩ := consumeStartupMarkers_spec s'
    obtain ⟨hlength, hexited⟩ := exitCurrent_fields (consumeStartupMarkers s').1
    unfold sendCommand
    dsimp only
    cases hp : (consumeStartupMarkers s').1.current with
    | none => exact ⟨rfl, nofun, nofun, nofun, by rw [hprocesses], hmarkers, hsound⟩
    | some p =>
      dsimp only
      split
      · exact ⟨rfl, nofun, nofun, nofun, by rw [hlength, hprocesses],
          fun k hk => hmarkers k (hexited ▸ hk), fun hs => sound_exitCurrent (hsound hs)⟩
      · next hexits =>
        rw [not_or, Bool.not_eq_false] at hexits
        have hwrote : ∀ q p', some (profile, p) = some (q, p') →
            q = profile ∧ p'.alive = true ∧ s'.current = some p' ∧
              (Except.ok () : Except Failure Unit) = .ok () := by
          rintro _ _ ⟨rfl⟩
          exact ⟨rfl, hexits.2, hcurrent.symm.trans hp, rfl⟩
        cases readWorkerResponse i.lines with
        | error e => exact ⟨rfl, hwrote, nofun, nofun, by rw [hprocesses], hmarkers, hsound⟩
        | ok response =>
          refine ⟨rfl, hwrote, ?_, hattached, by rw [hprocesses], hmarkers, hsound⟩
          rintro _ ⟨rfl⟩
          exact ⟨rfl, rfl⟩

theorem follows_checkPrestarted (profile : Text)
    (start : ProxyState × Bool × Except Failure Unit) :
    Follows profile start (checkPrestarted start) := by
  obtain ⟨s', popen, started⟩ := start
  cases started with
  | error e => exact follows_of_silent nofun (.inl rfl)
  | ok _ =>
    unfold checkPrestarted
    dsimp only
    split
    · exact follows_of_silent nofun (.inr rfl)
    · split
      · exact follows_of_silent nofun (.inr rfl)
      · exact follows_of_silent nofun (.inl rfl)

/-! ## One operation -/

/-- The process that a start has made ready. -/
theorem current_of_ready {s' : ProxyState} {p : Process}
    (hproc : s'.proc = some s.processes.length) (hprocesses : s'.processes = s.processes ++ [p]) :
    s'.current = some p := by
  rw [ProxyState.current, hproc, Option.bind_some, hprocesses]
  exact List.getElem?_concat_length

/-- **An operation behind a start** does what is wanted exactly when the start did not keep a
process that never became ready. -/
theorem Follows.served_iff (hs : Sound s) {start : ProxyState × Bool × Except Failure Unit}
    {o : ProxyState × Report} (hf : Follows profile start o) (hstart : Started s profile start)
    (op : Operation) (hop : op.profile settings = some profile) :
    Served settings ⟨s, op, o.2⟩ ↔ replacesFailed settings s op = true := by
  have hreplaces : replacesFailed settings s op = (!s.keeps profile || s.holdsReady) := by
    simp [replacesFailed, hop]
  rw [hreplaces]
  cases hstart with
  | kept hkeeps =>
    rw [hkeeps, Bool.not_true, Bool.false_or]
    obtain ⟨p, hp, halive, hprofile⟩ := hs.of_keeps hkeeps
    constructor
    · intro hserved
      by_contra hready
      have hpopen := hserved.fresh (by simp [hop]) (Bool.eq_false_iff.mpr hready)
      rw [hf.popen] at hpopen
      cases hpopen
    · intro hready
      refine ⟨fun q p' hwrote => ?_, fun v hv => ?_, fun _ hnot => ?_⟩
      · obtain ⟨rfl, -, hcurrent, -⟩ := hf.wrote q p' hwrote
        have hcurrent' : s.current = some p' := hcurrent
        obtain rfl := Option.some.inj (hp.symm.trans hcurrent')
        rw [ProxyState.holdsReady, hp, Option.any_some] at hready
        exact ⟨halive, hready, hprofile⟩
      · rw [(hf.started v hv).1, hf.popen]
      · rw [hready] at hnot
        cases hnot
  | ready hkeeps hproc hprofile hstarted hmarkers hprocesses =>
    have hreplaced : (!s.keeps profile || s.holdsReady) = true := by simp [hkeeps]
    refine iff_of_true ⟨fun q p hwrote => ?_, fun v hv => ?_, fun _ _ => hf.popen⟩ hreplaced
    · obtain ⟨rfl, halive, hcurrent, -⟩ := hf.wrote q p hwrote
      rw [current_of_ready hproc hprocesses] at hcurrent
      obtain rfl := Option.some.inj hcurrent
      exact ⟨halive, rfl, rfl⟩
    · exact iff_of_true ((hf.started v hv).1.trans hstarted) hf.popen
  | failed hkeeps =>
    have hreplaced : (!s.keeps profile || s.holdsReady) = true := by simp [hkeeps]
    refine iff_of_true ⟨fun q p hwrote => ?_, fun v hv => ?_, fun _ _ => hf.popen⟩ hreplaced
    · cases (hf.wrote q p hwrote).2.2.2
    · cases (hf.started v hv).2
  | notStarted hkeeps =>
    have hreplaced : (!s.keeps profile || s.holdsReady) = true := by simp [hkeeps]
    refine iff_of_true ⟨fun q p hwrote => ?_, fun v hv => ?_, fun _ _ => hf.popen⟩ hreplaced
    · cases (hf.wrote q p hwrote).2.2.2
    · cases (hf.started v hv).2

/-- What an operation does to the processes and to the markers that are kept: they are those of a
process that was kept before, or of one that is new, and they are gone when they are handed out. -/
structure Moves (s : ProxyState) (o : ProxyState × Report) : Prop where
  grows : s.processes.length ≤ o.1.processes.length
  markers : ∀ k, o.1.markersOf = some k → s.markersOf = some k ∨ s.processes.length ≤ k
  attached : ∀ k, o.2.attached = some k →
    (s.markersOf = some k ∨ s.processes.length ≤ k) ∧ k < o.1.processes.length ∧
      o.1.markersOf = none

/-- The markers that a start leaves. -/
theorem Started.markers {start : ProxyState × Bool × Except Failure Unit}
    (h : Started s profile start) :
    s.processes.length ≤ start.1.processes.length ∧
      ∀ k, start.1.markersOf = some k → s.markersOf = some k ∨ s.processes.length ≤ k := by
  cases h with
  | kept => exact ⟨le_rfl, nofun⟩
  | ready _ _ _ _ hmarkers hprocesses =>
    refine ⟨by simp [hprocesses], fun k hk => .inr ?_⟩
    rw [hmarkers] at hk
    exact (Option.some.inj hk).le
  | failed _ _ _ hmarkers hprocesses =>
    refine ⟨by simp [hprocesses], fun k hk => ?_⟩
    rw [hmarkers] at hk
    cases hk
  | notStarted => exact ⟨le_rfl, fun _ hk => .inl hk⟩

theorem Follows.moves (hs : Sound s) {start : ProxyState × Bool × Except Failure Unit}
    {o : ProxyState × Report} (hf : Follows profile start o) (hstart : Started s profile start) :
    Moves s o := by
  obtain ⟨hgrows, hmarkers⟩ := hstart.markers
  have hsound := hstart.sound hs
  refine ⟨hf.length ▸ hgrows, fun k hk => hmarkers k (hf.markers k hk), fun k hk => ?_⟩
  obtain ⟨hkept, hnone⟩ := hf.attached k hk
  exact ⟨hmarkers k hkept, hf.length ▸ (hsound.markers k hkept).2, hnone⟩

/-- A prestart that is made is a start, and any other does nothing. -/
theorem prestart_cases (settings : Prestart) (s : ProxyState) (startup : Option Startup) :
    ((Operation.prestart startup).profile settings = some settings.cryptoProfile ∧
        prestart settings s startup =
          checkPrestarted (startSgxWorker s settings.cryptoProfile startup)) ∨
      (Operation.prestart startup).profile settings = none ∧
        (prestart settings s startup).1 = s ∧ (prestart settings s startup).2.wrote = none ∧
        (prestart settings s startup).2.attached = none ∧
        ∀ v, (prestart settings s startup).2.result ≠ .ok (some v) := by
  unfold prestart Operation.profile
  by_cases henabled : settings.enabled = true
  · by_cases hprofile : settings.cryptoProfile = "bfibe-mcl-bls12381".toList
    · exact .inl (by simp [henabled, hprofile])
    · simp only [if_neg fun h : settings.enabled = true ∧ _ => hprofile h.2]
      rw [if_neg (by simp [henabled]), if_pos hprofile]
      exact .inr ⟨trivial, rfl, rfl, rfl, nofun⟩
  · rw [if_neg (by simp [henabled]), if_pos (by simpa using henabled)]
    exact .inr ⟨rfl, rfl, rfl, rfl, nofun⟩

/-- An operation that starts nothing. -/
theorem served_of_idle {op : Operation} {report : Report} (hop : op.profile settings = none)
    (hwrote : report.wrote = none) (hresult : ∀ v, report.result ≠ .ok (some v)) :
    Served settings ⟨s, op, report⟩ ∧ replacesFailed settings s op = true := by
  refine ⟨⟨fun q p h => ?_, fun v hv => absurd hv (hresult v), fun h => ?_⟩, ?_⟩
  · rw [hwrote] at h
    cases h
  · rw [hop] at h
    cases h
  · simp [replacesFailed, hop]

/-- **One operation**: when it does what is wanted, and what it leaves. -/
theorem step_spec (hs : Sound s) (op : Operation) :
    (Served settings ⟨s, op, (step settings s op).2⟩ ↔ replacesFailed settings s op = true) ∧
      Moves s (step settings s op) ∧ Sound (step settings s op).1 := by
  cases op with
  | exits k =>
    obtain ⟨hserved, hreplaces⟩ := @served_of_idle settings s (.exits k) .nothing rfl rfl nofun
    refine ⟨iff_of_true hserved hreplaces, ⟨?_, fun _ hk => .inl hk, nofun⟩, hs.exit k⟩
    exact (List.length_modify ..).ge
  | prestart startup =>
    have hstart := started_startSgxWorker s settings.cryptoProfile startup
    rcases prestart_cases settings s startup with
      ⟨hop, heq⟩ | ⟨hop, hs', hwrote, hattached, hresult⟩
    · have hf := follows_checkPrestarted settings.cryptoProfile
        (startSgxWorker s settings.cryptoProfile startup)
      rw [step, heq]
      exact ⟨hf.served_iff hs hstart _ hop, hf.moves hs hstart, hf.sound (hstart.sound hs)⟩
    · obtain ⟨hserved, hreplaces⟩ := served_of_idle (s := s) hop hwrote hresult
      refine ⟨iff_of_true hserved hreplaces, ⟨?_, fun k hk => .inl ?_, fun k hk => ?_⟩, ?_⟩
      · rw [step, hs']
      · rwa [step, hs'] at hk
      · rw [step, hattached] at hk
        cases hk
      · rw [step, hs']
        exact hs
  | run i =>
    have hstart := started_startSgxWorker s (requestedProfile i.cryptoProfile) i.startup
    have hf := follows_sendCommand (requestedProfile i.cryptoProfile) i
      (startSgxWorker s (requestedProfile i.cryptoProfile) i.startup)
    exact ⟨hf.served_iff hs hstart _ rfl, hf.moves hs hstart, hf.sound (hstart.sound hs)⟩
  | reset =>
    obtain ⟨hserved, hreplaces⟩ := @served_of_idle settings s .reset .nothing rfl rfl nofun
    exact ⟨iff_of_true hserved hreplaces, ⟨le_rfl, fun _ hk => .inl hk, nofun⟩, hs.stop⟩

/-! ## Runs -/

variable {h : List ProxyRecord}

/-- Markers that were handed out belong to processes that are known, and are not kept. -/
structure HandedOut (h : List ProxyRecord) (s : ProxyState) : Prop where
  old : ∀ r ∈ h, ∀ k, r.output.attached = some k → k < s.processes.length ∧ s.markersOf ≠ some k
  once : AttachedOnce h

theorem HandedOut.step {op : Operation} {o : ProxyState × Report} (hh : HandedOut h s)
    (hmoves : Moves s o) : HandedOut (⟨s, op, o.2⟩ :: h) o.1 := by
  -- the markers that are handed out now were not handed out before
  have hfresh : ∀ k, o.2.attached = some k → ∀ r ∈ h, r.output.attached ≠ some k := by
    intro k hk r hr hold
    obtain ⟨hlt, hkept⟩ := hh.old r hr k hold
    rcases (hmoves.attached k hk).1 with heq | hge
    · exact hkept heq
    · omega
  constructor
  · intro r hr k hk
    rcases List.mem_cons.mp hr with rfl | hr
    · obtain ⟨-, hlt, hnone⟩ := hmoves.attached k hk
      exact ⟨hlt, by simp [hnone]⟩
    · obtain ⟨hlt, hkept⟩ := hh.old r hr k hk
      refine ⟨hlt.trans_le hmoves.grows, fun hnow => ?_⟩
      rcases hmoves.markers k hnow with heq | hge
      · exact hkept heq
      · omega
  · intro k
    rw [List.countP_cons]
    by_cases hk : o.2.attached = some k
    · have hzero : h.countP (fun r => r.output.attached == some k) = 0 :=
        List.countP_eq_zero.mpr fun r hr => by simpa using hfresh k hk r hr
      rw [hzero]
      split <;> omega
    · rw [if_neg (by simpa using hk)]
      exact hh.once k

theorem handedOut_nil : HandedOut [] s := ⟨List.forall_mem_nil _, fun _ => by simp⟩

theorem sound_of_reach (hr : Reach (step settings) .initial h s) : Sound s :=
  hr.invariant (fun _ s => Sound s) sound_initial fun _ _ op _ hs => (step_spec hs op).2.2

/-- **Startup markers** are handed out once, in every run. -/
theorem attachedOnce (hr : Reach (step settings) .initial h s) : AttachedOnce h := by
  have hhanded := hr.invariant HandedOut handedOut_nil
    fun _ _ op hprior hh => hh.step (step_spec (sound_of_reach hprior) op).2.1
  exact hhanded.once

/-- **When the proxy talks to workers as it should**: exactly when no operation finds, for its
profile, a worker that runs and never became ready. -/
theorem servedByWorker_iff (hr : Reach (step settings) .initial h s) :
    ((∀ r ∈ h, Served settings r) ∧ AttachedOnce h) ↔
      ∀ r ∈ h, replacesFailed settings r.pre r.input = true := by
  have hrecord : ∀ r ∈ h, Served settings r ↔ replacesFailed settings r.pre r.input = true := by
    intro r hm
    obtain ⟨t, -, hpre, -, hout⟩ := hr.of_mem hm
    obtain ⟨pre, op, output⟩ := r
    obtain rfl : output = (step settings pre op).2 := hout
    exact (step_spec (sound_of_reach hpre) op).1
  constructor
  · exact fun hall r hm => (hrecord r hm).mp (hall.1 r hm)
  · exact fun hall => ⟨fun r hm => (hrecord r hm).mpr (hall r hm), attachedOnce hr⟩

/-! ## A worker that does not become ready -/

def noPrestart : Prestart := ⟨false, []⟩

/-- What a worker answers. -/
def sampleAnswer : List (Option Text) :=
  [some beginResponse, some "RC:0".toList, some endResponse]

/-- An invocation of a worker that becomes ready when it is started. -/
def readyInvoke : Invoke :=
  ⟨none, some ⟨[some "T_ENCLAVE_CREATE_BEGIN_MONO_NS:1".toList, some serverReady], true⟩, false,
    sampleAnswer⟩

/-- An invocation of a worker that closes its output and runs on. -/
def failedInvoke : Invoke := ⟨none, some ⟨[some "out of memory".toList], true⟩, false, []⟩

/-- A worker that becomes ready, is used again, exits and is replaced. -/
def goodRun : List Operation :=
  [.run readyInvoke, .run readyInvoke, .exits 0, .run readyInvoke, .reset, .run readyInvoke]

/-- A worker that does not become ready, and a second invocation. -/
def badRun : List Operation := [.run failedInvoke, .run readyInvoke]

theorem goodRun_served :
    (∀ r ∈ (runOn (step noPrestart) [] .initial goodRun).1, Served noPrestart r) ∧
      AttachedOnce (runOn (step noPrestart) [] .initial goodRun).1 :=
  (servedByWorker_iff (reach_runOn _ _ Reach.start)).mpr (by decide +kernel)

/-- The second command is written to the worker that never became ready. -/
theorem badRun_not_served :
    ¬ ∀ r ∈ (runOn (step noPrestart) [] .initial badRun).1, Served noPrestart r := by
  intro hall
  simp only [badRun, runOn, List.forall_mem_cons] at hall
  have hpopen := hall.1.fresh rfl (by decide +kernel)
  exact absurd hpopen (by decide +kernel)

end WorkerProcess
end Proxy
end AsynCS
