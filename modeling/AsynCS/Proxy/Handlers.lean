import AsynCS.Lib.Files
import AsynCS.Lib.Runs
import AsynCS.Proxy.Request
import AsynCS.WorkerApp.Invoke

/-!
# Handlers of `/run` side by side

Flask runs every request in a thread of its own.  A handler writes five files whose paths are the
same for all handlers, takes the lock, exchanges a line and a block with the worker, releases the
lock, and removes four of the files.  The lock covers the exchange and nothing else.

* `b64decode`: `base64.b64decode`.
* `Phase`: how far a handler has come.
* `WorkerProc`: a worker process, with the lines that it has to answer and the blocks that nobody
  has read.
* `System`, `Actor`, `systemStep`: all handlers and the worker, one step at a time; any order of
  the actors is a run.

What a run ECALL gives is a parameter: `ecall w args a` is the outcome of the command `args` with
the arguments `a`, for whatever the enclave, the KMS and the program do (`w`).
-/

namespace AsynCS
namespace Proxy

open WorkerApp Worker

/-! ## Base64 -/

/-- The six bits of a character of the alphabet. -/
def base64Bits (c : Char) : Option ℕ :=
  if 'A' ≤ c ∧ c ≤ 'Z' then some (c.toNat - 65)
  else if 'a' ≤ c ∧ c ≤ 'z' then some (c.toNat - 71)
  else if '0' ≤ c ∧ c ≤ '9' then some (c.toNat + 4)
  else if c = '+' then some 62
  else if c = '/' then some 63
  else none

/-- `binascii.a2b_base64` on the characters that are left: the position in the group of four, the
bits that are left over, and the number of pads.  Characters outside the alphabet are skipped. -/
def a2bBase64 (quadPos left pads : ℕ) : Text → Option Bytes
  | [] => if quadPos = 0 then some [] else none
  | c :: rest =>
    if c = '=' then
      if 2 ≤ quadPos ∧ 4 ≤ quadPos + (pads + 1) then some []
      else a2bBase64 quadPos left (if 2 ≤ quadPos then pads + 1 else pads) rest
    else
      match base64Bits c with
      | none => a2bBase64 quadPos left pads rest
      | some bits =>
        match quadPos with
        | 0 => a2bBase64 1 bits 0 rest
        | 1 => (a2bBase64 2 (bits % 16) 0 rest).map (UInt8.ofNat (left * 4 + bits / 16) :: ·)
        | 2 => (a2bBase64 3 (bits % 4) 0 rest).map (UInt8.ofNat (left * 16 + bits / 4) :: ·)
        | _ => (a2bBase64 0 0 0 rest).map (UInt8.ofNat (left * 64 + bits) :: ·)

/-- `base64.b64decode` of a string, which must be ASCII. -/
def b64decode (s : PyStr) : Option Bytes := do
  let t ← s.toText
  if t.all fun c => c.toNat < 128 then a2bBase64 0 0 0 t else none

/-! ## Handlers -/

/-- The field that a file is written from. -/
def RunRequest.field (req : RunRequest) : RequestFile → PyStr
  | .input => req.encryptedInput.1
  | .cKFunc => req.cKFunc.1
  | .cKey => req.cKey.1
  | .pkU => req.pkU.1
  | .nonce => req.nonce.1

/-- The bytes that a handler writes. -/
def RunRequest.raw (req : RunRequest) (f : RequestFile) : Option Bytes := b64decode (req.field f)

/-- The file written after this one. -/
def RequestFile.next : RequestFile → Option RequestFile
  | .input => some .cKFunc
  | .cKFunc => some .cKey
  | .cKey => some .pkU
  | .pkU => some .nonce
  | .nonce => none

/-- The position of a file in the order of writing. -/
def RequestFile.rank : RequestFile → ℕ
  | .input => 0
  | .cKFunc => 1
  | .cKey => 2
  | .pkU => 3
  | .nonce => 4

/-- `per_request_files`: `CKFUNC_FILE` stays. -/
def perRequestFiles : List RequestFile := [.input, .cKey, .pkU, .nonce]

/-- The name of a request's file. -/
def RuntimePaths.name (paths : RuntimePaths) (f : RequestFile) : CStr :=
  fileName (paths.file f).bytes

/-- What a handler responds with: the worker's result, or one of its errors. -/
inductive Answer (ρ : Type) where
  | success (result : ρ)
  | failed
  deriving DecidableEq

/-- How far a handler has come. -/
inductive Phase (ρ : Type) where
  /-- about to open a file -/
  | opening (f : RequestFile)
  /-- about to write to the file it opened -/
  | writing (f : RequestFile) (file : ℕ) (raw : Bytes)
  /-- about to take the lock -/
  | acquiring
  /-- with the lock, about to write the line -/
  | sending
  /-- with the lock, waiting for a block -/
  | awaiting
  /-- without the lock, with these files to remove -/
  | removing (todo : List RequestFile) (answer : Answer ρ)
  | done (answer : Answer ρ)
  deriving DecidableEq

/-! ## The worker process -/

/-- A command whose files are being read: the handler that sent it, the files to read, and the
contents of those that were read. -/
structure Serving (ι : Type) where
  tag : ι
  args : InvokeArgs
  todo : List (InvokeFile × CStr)
  content : InvokeFile → Bytes

/-- A worker process.  `closing` says that it has read `exit`, or was killed. -/
structure WorkerProc (ι ρ : Type) where
  profile : PyStr
  pending : List (ι × Command)
  serving : Option (Serving ι)
  unread : List (ι × Answer ρ)
  closing : Bool

namespace WorkerProc

variable {ι ρ : Type}

/-- A new process that has printed `SERVER_READY`. -/
def start (profile : PyStr) : WorkerProc ι ρ := ⟨profile, [], none, [], false⟩

/-- The process has left its loop. -/
def ended (w : WorkerProc ι ρ) : Bool := w.closing && w.pending.isEmpty && w.serving.isNone

/-- `_start_sgx_worker`. -/
def ensure (profile : PyStr) : Option (WorkerProc ι ρ) → WorkerProc ι ρ
  | some w => if w.ended = false ∧ w.profile = profile then w else start profile
  | none => start profile

/-- The process gets lines to read. -/
def feed (w : WorkerProc ι ρ) (tag : ι) (line : Bytes) : WorkerProc ι ρ :=
  if w.closing then w
  else
    { w with
      pending := w.pending ++ (runServerLoop (lines 10 line)).1.map fun command => (tag, command)
      closing := (runServerLoop (lines 10 line)).2 }

/-- The process writes a block. -/
def answer (w : WorkerProc ι ρ) (tag : ι) (a : Answer ρ) : WorkerProc ι ρ :=
  { w with serving := none, unread := w.unread ++ [(tag, a)] }

end WorkerProc

/-! ## The system -/

/-- The files, the lock, the worker, and the handlers. -/
structure System (ι ρ : Type) where
  files : FileStore CStr
  lock : Option ι
  worker : Option (WorkerProc ι ρ)
  phase : ι → Phase ρ

/-- Who takes the next step.  The worker comes with what its ECALL will do, should this be the
step that makes it. -/
inductive Actor (ι ω : Type) where
  | handler (i : ι)
  | worker (w : ω)
  /-- the worker process dies -/
  | crash

/-- What can be seen of a step. -/
inductive SystemEvent (ι ρ : Type) where
  | quiet
  /-- the worker reads a file for a command of this handler -/
  | read (tag : ι) (f : InvokeFile) (content : Option Bytes)
  | respond (i : ι) (answer : Answer ρ)
  deriving DecidableEq

variable {ι ω ρ : Type} [DecidableEq ι]

namespace System

/-- A handler goes on to another phase. -/
def goTo (s : System ι ρ) (i : ι) (phase : Phase ρ) : System ι ρ :=
  { s with phase := Function.update s.phase i phase }

/-- No handler has begun; the files are what they are. -/
def initial (files : FileStore CStr) : System ι ρ := ⟨files, none, none, fun _ => .opening .input⟩

end System

/-- The end of an exchange: the lock is free, and the `finally` block follows. -/
def System.finish (s : System ι ρ) (i : ι) (worker : Option (WorkerProc ι ρ)) (a : Answer ρ) :
    System ι ρ :=
  { s with lock := none, worker := worker }.goTo i (.removing perRequestFiles a)

/-- One step of a handler. -/
def handlerStep (paths : RuntimePaths) (req : RunRequest) (s : System ι ρ) (i : ι) :
    System ι ρ × SystemEvent ι ρ :=
  match s.phase i with
  | .opening f =>
    match req.raw f with
    | none => (s.goTo i (.removing perRequestFiles .failed), .quiet)
    | some raw =>
      let opened := s.files.openTrunc (paths.name f)
      ({ s with files := opened.1 }.goTo i (.writing f opened.2 raw), .quiet)
  | .writing f file raw =>
    let s' := { s with files := s.files.write file raw }
    match f.next with
    | some g => (s'.goTo i (.opening g), .quiet)
    | none => (s'.goTo i .acquiring, .quiet)
  | .acquiring =>
    match s.lock with
    | none => ({ s with lock := some i }.goTo i .sending, .quiet)
    | some _ => (s, .quiet)
  | .sending =>
    let w := WorkerProc.ensure req.profile s.worker
    match commandLine paths req with
    | none => (s.finish i (some w) .failed, .quiet)
    | some line => ({ s with worker := some (w.feed i line) }.goTo i .awaiting, .quiet)
  | .awaiting =>
    match s.worker with
    | none => (s.finish i none .failed, .quiet)
    | some w =>
      match w.unread with
      | (_, a) :: unread => (s.finish i (some { w with unread := unread }) a, .quiet)
      | [] => if w.ended then (s.finish i (some w) .failed, .quiet) else (s, .quiet)
  | .removing (f :: todo) a =>
    ({ s with files := s.files.remove (paths.name f) }.goTo i (.removing todo a), .quiet)
  | .removing [] a => (s.goTo i (.done a), .respond i a)
  | .done _ => (s, .quiet)

/-- One step of the worker process. -/
def workerProcStep (ecall : ω → InvokeArgs → RunArgs → Option ρ) (s : System ι ρ)
    (w : WorkerProc ι ρ) (env : ω) : System ι ρ × SystemEvent ι ρ :=
  match w.serving with
  | none =>
    match w.pending with
    | [] => (s, .quiet)
    | (tag, .invoke (.ok args)) :: pending =>
      let serving := ⟨tag, args, readPlan args, fun _ => []⟩
      ({ s with worker := some { w with pending := pending, serving := some serving } }, .quiet)
    -- the parser's error, `run_wasm` and an unknown command come without a result
    | (tag, _) :: pending =>
      ({ s with worker := some ({ w with pending := pending }.answer tag .failed) }, .quiet)
  | some sv =>
    match sv.todo with
    | [] =>
      match ecall env sv.args (runArgs sv.args sv.content) with
      | some result => ({ s with worker := some (w.answer sv.tag (.success result)) }, .quiet)
      | none => ({ s with worker := some (w.answer sv.tag .failed) }, .quiet)
    | (f, name) :: todo =>
      match s.files.read name with
      | none => ({ s with worker := some (w.answer sv.tag .failed) }, .read sv.tag f none)
      | some content =>
        let next : Serving ι := ⟨sv.tag, sv.args, todo, Function.update sv.content f content⟩
        let w' := if f.accepts content then { w with serving := some next }
          else w.answer sv.tag .failed
        ({ s with worker := some w' }, .read sv.tag f (some content))

/-- The worker process dies: what it wrote can still be read. -/
def WorkerProc.crash (w : WorkerProc ι ρ) : WorkerProc ι ρ :=
  { w with pending := [], serving := none, closing := true }

/-- One step of the system. -/
def systemStep (paths : RuntimePaths) (ecall : ω → InvokeArgs → RunArgs → Option ρ)
    (req : ι → RunRequest) (s : System ι ρ) : Actor ι ω → System ι ρ × SystemEvent ι ρ
  | .handler i => handlerStep paths (req i) s i
  | .worker env =>
    match s.worker with
    | none => (s, .quiet)
    | some w => workerProcStep ecall s w env
  | .crash => ({ s with worker := s.worker.map WorkerProc.crash }, .quiet)

/-- A recorded step. -/
abbrev SystemRecord (ι ω ρ : Type) := Record (System ι ρ) (Actor ι ω) (SystemEvent ι ρ)

end Proxy
end AsynCS
