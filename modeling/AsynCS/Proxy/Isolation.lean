import AsynCS.Proxy.CommandLine
import AsynCS.Proxy.Handlers

/-!
# What a handler's command reads

The worker reads what the handler wrote as long as nobody else opens, writes or removes the file
in between.  The lock does not see to that: a handler writes before it takes the lock, and removes
after it has released it.

* `Phase.Touches`, `System.Busy`: the next step of a handler is at a file; a file lies between the
  handler that opened it and the worker that is to read it.
* `Undisturbed`: the condition on a step.
* `Isolated`: the invariant, with one lemma for each kind of step.
* `reads_own_of_undisturbed`: in every run of undisturbed steps the worker reads for a handler
  what this handler wrote, and a successful response was computed from it.
-/

namespace AsynCS
namespace Proxy

open WorkerApp Worker

/-- The file of a command that a request's file is. -/
def RequestFile.slot : RequestFile → InvokeFile
  | .input => .input
  | .cKFunc => .cKFunc
  | .cKey => .cKey
  | .pkU => .pkU
  | .nonce => .nonce

theorem RequestFile.slot_injective : Function.Injective RequestFile.slot := by
  intro f g h
  cases f <;> cases g <;> first | rfl | exact absurd h (by decide)

theorem RequestFile.rank_injective : Function.Injective RequestFile.rank := by
  intro f g h
  cases f <;> cases g <;> first | rfl | exact absurd h (by decide)

/-- The configured paths name different files. -/
def RuntimePaths.Different (paths : RuntimePaths) : Prop := Function.Injective paths.name

variable {ι ω ρ : Type} {paths : RuntimePaths} {req : ι → RunRequest}
  {ecall : ω → InvokeArgs → RunArgs → Option ρ} {s : System ι ρ} {i j : ι} {f g : RequestFile}

/-! ## Undisturbed steps -/

/-- The next step of a handler in this phase opens, writes or removes the file. -/
def Phase.Touches (req : RunRequest) : Phase ρ → RequestFile → Prop
  | .opening g, f => g = f ∧ (req.raw f).isSome = true
  | .writing g _ _, f => g = f
  | .removing (g :: _) _, f => g = f
  | _, _ => False

/-- The worker has a file still to read. -/
def WorkerProc.StillReads (w : WorkerProc ι ρ) (f : RequestFile) : Prop :=
  w.pending ≠ [] ∨ ∃ sv, w.serving = some sv ∧ f.slot ∈ sv.todo.map Prod.fst

/-- The handler has written the file, and the worker has not read it. -/
def System.Holds (s : System ι ρ) (i : ι) (f : RequestFile) : Prop :=
  match s.phase i with
  | .opening g => f.rank < g.rank
  | .writing g _ _ => f.rank < g.rank
  | .acquiring => True
  | .sending => True
  | .awaiting => ∃ w, s.worker = some w ∧ w.StillReads f
  | .removing _ _ => False
  | .done _ => False

/-- The handler has opened the file, and the worker has not read it. -/
def System.Busy (s : System ι ρ) (i : ι) (f : RequestFile) : Prop :=
  s.Holds i f ∨ ∃ file raw, s.phase i = .writing f file raw

/-- **The condition.**  A handler with a plain FID and label takes the step, or the worker does;
and a handler is at a file only while no other handler is busy with it. -/
structure Undisturbed (req : ι → RunRequest) (r : SystemRecord ι ω ρ) : Prop where
  plain : ∀ i, r.input = .handler i → (req i).Plain
  free : ∀ i, r.input = .handler i → ∀ f, (r.pre.phase i).Touches (req i) f →
    ∀ j, j ≠ i → ¬ r.pre.Busy j f

/-! ## What is to hold of a step -/

/-- The contents of the files of a request, with a package. -/
def ownContent (req : RunRequest) (wasm : Bytes) : InvokeFile → Bytes
  | .wasm => wasm
  | .input => (req.raw .input).getD []
  | .cKFunc => (req.raw .cKFunc).getD []
  | .cKey => (req.raw .cKey).getD []
  | .pkU => (req.raw .pkU).getD []
  | .nonce => (req.raw .nonce).getD []

/-- A result is the outcome of the ECALL on the request's own command and own files. -/
def OwnResult (paths : RuntimePaths) (ecall : ω → InvokeArgs → RunArgs → Option ρ)
    (req : RunRequest) (result : ρ) : Prop :=
  ∃ env wasm args, invokeArgs paths req = some args ∧
    ecall env args (runArgs args (ownContent req wasm)) = some result

/-- What the worker reads for a handler is what the handler wrote, and what the handler responds
with was computed from it. -/
structure ReadsOwn (paths : RuntimePaths) (ecall : ω → InvokeArgs → RunArgs → Option ρ)
    (req : ι → RunRequest) (event : SystemEvent ι ρ) : Prop where
  read : ∀ i f content, event = .read i (RequestFile.slot f) content → content = (req i).raw f
  respond : ∀ i result, event = .respond i (.success result) → OwnResult paths ecall (req i) result

theorem readsOwn_quiet : ReadsOwn paths ecall req (.quiet : SystemEvent ι ρ) :=
  ⟨fun _ _ _ h => by simp at h, fun _ _ h => by simp at h⟩

/-! ## The invariant -/

/-- An answer that is a success is the request's own. -/
def OwnAnswer (paths : RuntimePaths) (ecall : ω → InvokeArgs → RunArgs → Option ρ)
    (req : RunRequest) (a : Answer ρ) : Prop :=
  ∀ result, a = .success result → OwnResult paths ecall req result

theorem ownAnswer_failed {r : RunRequest} : OwnAnswer paths ecall r (.failed : Answer ρ) :=
  fun _ h => by simp at h

/-- The worker has nothing to do and nothing to say. -/
structure WorkerProc.Idle (w : WorkerProc ι ρ) : Prop where
  pending : w.pending = []
  serving : w.serving = none
  unread : w.unread = []

/-- The files that are off the list were read, with the handler's contents. -/
structure Serving.Own (paths : RuntimePaths) (req : RunRequest) (args : InvokeArgs)
    (sv : Serving ι) : Prop where
  args : sv.args = args
  names : ∀ p ∈ sv.todo, ∀ f, p.1 = RequestFile.slot f → p.2 = paths.name f
  read : ∀ f, RequestFile.slot f ∉ sv.todo.map Prod.fst → (req.raw f) = some (sv.content f.slot)

/-- How far the exchange of a handler has come. -/
inductive WorkerProc.Exchange (paths : RuntimePaths)
    (ecall : ω → InvokeArgs → RunArgs → Option ρ) (req : RunRequest) (i : ι) (w : WorkerProc ι ρ) :
    Prop where
  | queued (args : InvokeArgs) (hargs : invokeArgs paths req = some args)
      (pending : w.pending = [(i, .invoke (.ok args))]) (serving : w.serving = none)
      (unread : w.unread = [])
  | reading (args : InvokeArgs) (sv : Serving ι) (hargs : invokeArgs paths req = some args)
      (pending : w.pending = []) (serving : w.serving = some sv) (unread : w.unread = [])
      (tag : sv.tag = i) (own : sv.Own paths req args)
  | answered (a : Answer ρ) (pending : w.pending = []) (serving : w.serving = none)
      (unread : w.unread = [(i, a)]) (own : OwnAnswer paths ecall req a)
  | gone (idle : w.Idle)

/-- The files of one handler are as it left them. -/
structure System.FilesOk (paths : RuntimePaths) (req : RunRequest) (s : System ι ρ) (i : ι) :
    Prop where
  holds : ∀ f, s.Holds i f → ∃ raw, req.raw f = some raw ∧ s.files.read (paths.name f) = some raw
  opened : ∀ f file raw, s.phase i = .writing f file raw → req.raw f = some raw ∧
    s.files.entry (paths.name f) = some file ∧ s.files.content file = []

/-- A handler with the lock. -/
def Phase.InExchange (p : Phase ρ) : Prop := p = .sending ∨ p = .awaiting

/-- **The invariant.** -/
structure Isolated (paths : RuntimePaths) (ecall : ω → InvokeArgs → RunArgs → Option ρ)
    (req : ι → RunRequest) (s : System ι ρ) : Prop where
  files : ∀ i, s.FilesOk paths (req i) i
  lock : ∀ i, (s.phase i).InExchange ↔ s.lock = some i
  idle : (∀ i, s.phase i ≠ .awaiting) → ∀ w, s.worker = some w → w.Idle
  exchange : ∀ i, s.phase i = .awaiting → ∀ w, s.worker = some w → w.Exchange paths ecall (req i) i
  answers : ∀ i a, (∃ todo, s.phase i = .removing todo a) ∨ s.phase i = .done a →
    OwnAnswer paths ecall (req i) a

theorem isolated_initial (files : FileStore CStr) :
    Isolated paths ecall req (System.initial files : System ι ρ) where
  files i := ⟨fun f h => absurd h (Nat.not_lt_zero _), fun f file raw h => by
    simp [System.initial] at h⟩
  lock i := by simp [System.initial, Phase.InExchange]
  idle _ w h := by simp [System.initial] at h
  exchange i h := by simp [System.initial] at h
  answers i a h := by simp [System.initial] at h

/-! ## What the others see of a step -/

theorem holds_congr {s' : System ι ρ} (hphase : s'.phase j = s.phase j)
    (hworker : s'.worker = s.worker) : s'.Holds j f ↔ s.Holds j f := by
  unfold System.Holds
  rw [hphase, hworker]

/-- Only a handler that waits looks at the worker. -/
theorem holds_congr_of_ne {s' : System ι ρ} (hphase : s'.phase j = s.phase j)
    (hne : s.phase j ≠ .awaiting) : s'.Holds j f ↔ s.Holds j f := by
  unfold System.Holds
  rw [hphase]
  cases hp : s.phase j with
  | awaiting => exact absurd hp hne
  | _ => exact Iff.rfl

/-- The files of a handler stay as they are when the step is at none of the files that it is busy
with. -/
theorem System.FilesOk.other {r : RunRequest} {s' : System ι ρ} (hpaths : paths.Different)
    (h : s.FilesOk paths r j) (hphase : s'.phase j = s.phase j)
    (hholds : ∀ f, s'.Holds j f → s.Holds j f)
    (hfiles : s'.files = s.files ∨
      ∃ g, FileStore.SameExcept (paths.name g) s.files s'.files ∧ ¬ s.Busy j g) :
    s'.FilesOk paths r j := by
  have hname : ∀ {f g}, s.Busy j f → ¬ s.Busy j g → paths.name f ≠ paths.name g := by
    intro f g hf hg he
    exact hg (hpaths he ▸ hf)
  refine ⟨fun f hf => ?_, fun f file raw hw => ?_⟩
  · have hold := hholds f hf
    obtain ⟨raw, hraw, hread⟩ := h.holds f hold
    refine ⟨raw, hraw, ?_⟩
    rcases hfiles with hfiles | ⟨g, hsame, hg⟩
    · rw [hfiles]
      exact hread
    · rw [hsame.read (hname (Or.inl hold) hg)]
      exact hread
  · rw [hphase] at hw
    obtain ⟨hraw, hentry, hempty⟩ := h.opened f file raw hw
    refine ⟨hraw, ?_⟩
    rcases hfiles with hfiles | ⟨g, hsame, hg⟩
    · rw [hfiles]
      exact ⟨hentry, hempty⟩
    · have hne := hname (Or.inr ⟨file, raw, hw⟩) hg
      exact ⟨(hsame.entry _ hne).trans hentry, (hsame.content _ file hne hentry).trans hempty⟩

theorem filesOk_of_removing {r : RunRequest} {todo : List RequestFile} {a : Answer ρ}
    {s' : System ι ρ} (h : s'.phase i = .removing todo a) : s'.FilesOk paths r i := by
  refine ⟨fun f hf => ?_, fun f file raw hw => ?_⟩
  · unfold System.Holds at hf
    rw [h] at hf
    exact absurd hf id
  · rw [h] at hw
    exact absurd hw (by simp)

theorem filesOk_of_done {r : RunRequest} {a : Answer ρ} {s' : System ι ρ}
    (h : s'.phase i = .done a) : s'.FilesOk paths r i := by
  refine ⟨fun f hf => ?_, fun f file raw hw => ?_⟩
  · unfold System.Holds at hf
    rw [h] at hf
    exact absurd hf id
  · rw [h] at hw
    exact absurd hw (by simp)

/-- A file that the handler has written stays when the handler goes on to a file behind it. -/
theorem read_behind (hpaths : paths.Different) {r : RunRequest} (hs : s.FilesOk paths r i)
    {files : FileStore CStr} (hsame : FileStore.SameExcept (paths.name f) s.files files)
    (hg : s.Holds i g) (hne : g ≠ f) :
    ∃ raw, r.raw g = some raw ∧ files.read (paths.name g) = some raw := by
  obtain ⟨raw, hraw, hread⟩ := hs.holds g hg
  refine ⟨raw, hraw, ?_⟩
  rw [hsame.read fun he => hne (hpaths he)]
  exact hread

/-- A handler that has opened a file holds the ones before it. -/
theorem holds_of_writing {file : ℕ} {raw : Bytes} (hphase : s.phase i = .writing f file raw)
    (h : g.rank < f.rank) : s.Holds i g := by
  unfold System.Holds
  rw [hphase]
  exact h

/-- The holder of the lock is alone in the exchange. -/
theorem Isolated.alone (hs : Isolated paths ecall req s) (hlock : s.lock = some i) (hne : j ≠ i) :
    ¬ (s.phase j).InExchange := by
  intro h
  have hj := (hs.lock j).mp h
  rw [hlock] at hj
  exact hne (Option.some.inj hj).symm

/-- A process that was kept or started before an exchange is idle, and reads what comes. -/
theorem idle_ensure {worker : Option (WorkerProc ι ρ)} (h : ∀ w, worker = some w → w.Idle)
    (profile : PyStr) :
    (WorkerProc.ensure profile worker).Idle ∧ (WorkerProc.ensure profile worker).closing = false := by
  cases hw : worker with
  | none => exact ⟨⟨rfl, rfl, rfl⟩, rfl⟩
  | some w =>
    by_cases hkeep : w.ended = false ∧ w.profile = profile
    · have hidle := h w hw
      have hclosing : w.closing = false := by
        have hended := hkeep.1
        simpa [WorkerProc.ended, hidle.pending, hidle.serving] using hended
      rw [WorkerProc.ensure, if_pos hkeep]
      exact ⟨hidle, hclosing⟩
    · rw [WorkerProc.ensure, if_neg hkeep]
      exact ⟨⟨rfl, rfl, rfl⟩, rfl⟩

/-- The line of a plain request makes one command. -/
theorem exchange_feed {w : WorkerProc ι ρ} (hw : w.Idle) (hclosing : w.closing = false)
    {r : RunRequest} (hround : RoundTrips paths r) {line : Bytes}
    (hline : commandLine paths r = some line) :
    (w.feed i line).Exchange paths ecall r i := by
  obtain ⟨line', args, hline', hargs, hloop⟩ := hround
  obtain rfl := Option.some.inj (hline.symm.trans hline')
  refine .queued args hargs ?_ ?_ ?_
  · simp [WorkerProc.feed, hclosing, hloop, hw.pending]
  · simp [WorkerProc.feed, hclosing, hw.serving]
  · simp [WorkerProc.feed, hclosing, hw.unread]

section Handler

variable [DecidableEq ι]

theorem phase_goTo_self (s : System ι ρ) (i : ι) (p : Phase ρ) : (s.goTo i p).phase i = p := by
  simp only [System.goTo, Function.update_self]

theorem phase_goTo_of_ne (s : System ι ρ) (p : Phase ρ) (h : j ≠ i) :
    (s.goTo i p).phase j = s.phase j := by
  simp only [System.goTo, Function.update_of_ne h]

/-! ## Steps outside the exchange -/

/-- **A step outside the exchange** that is at one file at most, and leaves the handler's own
files as they should be. -/
theorem Isolated.move (hpaths : paths.Different) (hs : Isolated paths ecall req s) {p : Phase ρ}
    {files : FileStore CStr} (hpre : ¬ (s.phase i).InExchange) (hpost : ¬ p.InExchange)
    (hfiles : files = s.files ∨ ∃ g, FileStore.SameExcept (paths.name g) s.files files ∧
      ∀ j, j ≠ i → ¬ s.Busy j g)
    (hown : ({ s with files := files }.goTo i p).FilesOk paths (req i) i)
    (hanswer : ∀ a, (∃ todo, p = .removing todo a) ∨ p = .done a →
      OwnAnswer paths ecall (req i) a) :
    Isolated paths ecall req ({ s with files := files }.goTo i p) := by
  have hself : ({ s with files := files }.goTo i p).phase i = p := phase_goTo_self _ i p
  have hother : ∀ j, j ≠ i → ({ s with files := files }.goTo i p).phase j = s.phase j :=
    fun j hj => phase_goTo_of_ne _ p hj
  have hawaiting : ∀ j, ({ s with files := files }.goTo i p).phase j = .awaiting →
      s.phase j = .awaiting := by
    intro j hj
    by_cases hji : j = i
    · subst hji
      rw [hself] at hj
      exact absurd (Or.inr hj) hpost
    · rw [hother j hji] at hj
      exact hj
  refine ⟨fun j => ?_, fun j => ?_, fun h w hw => ?_, fun j hj => ?_, fun j a ha => ?_⟩
  · by_cases hji : j = i
    · subst hji
      exact hown
    · refine (hs.files j).other hpaths (hother j hji)
        (fun f hf => (holds_congr (s := s) (hother j hji) rfl).mp hf) ?_
      rcases hfiles with hfiles | ⟨g, hsame, hg⟩
      · exact Or.inl hfiles
      · exact Or.inr ⟨g, hsame, hg j hji⟩
  · by_cases hji : j = i
    · subst hji
      rw [hself]
      exact ⟨fun h => absurd h hpost, fun h => absurd ((hs.lock j).mpr h) hpre⟩
    · rw [hother j hji]
      exact hs.lock j
  · refine hs.idle (fun j hj => ?_) w hw
    have hji : j ≠ i := by
      rintro rfl
      exact hpre (Or.inr hj)
    exact h j ((hother j hji).trans hj)
  · exact hs.exchange j (hawaiting j hj)
  · by_cases hji : j = i
    · subst hji
      rw [hself] at ha
      exact hanswer a ha
    · rw [hother j hji] at ha
      exact hs.answers j a ha

/-- Opening a file. -/
theorem isolated_open (hpaths : paths.Different) (hs : Isolated paths ecall req s)
    (hphase : s.phase i = .opening f) {raw : Bytes} (hraw : (req i).raw f = some raw)
    (hfree : ∀ j, j ≠ i → ¬ s.Busy j f) :
    Isolated paths ecall req ({ s with files := (s.files.openTrunc (paths.name f)).1 }.goTo i
      (.writing f (s.files.openTrunc (paths.name f)).2 raw)) := by
  have hsame := FileStore.sameExcept_openTrunc s.files (paths.name f)
  refine hs.move hpaths (by simp [hphase, Phase.InExchange]) (by simp [Phase.InExchange])
    (Or.inr ⟨f, hsame, hfree⟩) ⟨fun g hg => ?_, fun g file raw' hw => ?_⟩ (by simp)
  · have hrank : g.rank < f.rank := by
      unfold System.Holds at hg
      rw [phase_goTo_self] at hg
      exact hg
    have hold : s.Holds i g := by
      unfold System.Holds
      rw [hphase]
      exact hrank
    refine read_behind hpaths (hs.files i) hsame hold ?_
    rintro rfl
    omega
  · rw [phase_goTo_self] at hw
    obtain ⟨rfl, rfl, rfl⟩ := Phase.writing.inj hw
    exact ⟨hraw, FileStore.opened_openTrunc s.files (paths.name f)⟩

/-- Writing a file, with the phase that follows. -/
theorem isolated_write (hpaths : paths.Different) (hs : Isolated paths ecall req s) {file : ℕ}
    {raw : Bytes} (hphase : s.phase i = .writing f file raw) (hfree : ∀ j, j ≠ i → ¬ s.Busy j f)
    {p : Phase ρ} (hp : (∃ g, f.next = some g ∧ p = .opening g) ∨ f.next = none ∧ p = .acquiring) :
    Isolated paths ecall req ({ s with files := s.files.write file raw }.goTo i p) := by
  obtain ⟨hraw, hentry, hempty⟩ := (hs.files i).opened f file raw hphase
  have hsame : FileStore.SameExcept (paths.name f) s.files (s.files.write file raw) :=
    FileStore.sameExcept_write hentry
  -- what is held afterwards was held before, or is the file of this step
  have hrank : ∀ g, ({ s with files := s.files.write file raw }.goTo i p).Holds i g →
      g = f ∨ g.rank < f.rank := by
    intro g hg
    unfold System.Holds at hg
    rw [phase_goTo_self] at hg
    rcases hp with ⟨f', hnext, rfl⟩ | ⟨hnext, rfl⟩
    · have hrank : g.rank < f'.rank := hg
      have hle : f'.rank = f.rank + 1 := by
        cases f <;> simp only [RequestFile.next, Option.some.injEq, reduceCtorEq] at hnext <;>
          subst hnext <;> rfl
      by_cases heq : g.rank = f.rank
      · exact Or.inl (RequestFile.rank_injective heq)
      · exact Or.inr (by omega)
    · have hlast : f = .nonce := by
        cases f <;> simp only [RequestFile.next, reduceCtorEq] at hnext
        rfl
      subst hlast
      cases g <;> first | exact Or.inl rfl | exact Or.inr (by decide)
  have hnot : ∀ todo a, p ≠ .removing todo a ∧ p ≠ .done a := by
    intro todo a
    rcases hp with ⟨f', -, rfl⟩ | ⟨-, rfl⟩ <;> exact ⟨by simp, by simp⟩
  have hpost : ¬ p.InExchange := by
    rcases hp with ⟨f', -, rfl⟩ | ⟨-, rfl⟩ <;> simp [Phase.InExchange]
  refine hs.move hpaths (by simp [hphase, Phase.InExchange]) hpost (Or.inr ⟨f, hsame, hfree⟩)
    ⟨fun g hg => ?_, fun g file' raw' hw => ?_⟩ fun a ha => ?_
  · rcases hrank g hg with rfl | hlt
    · exact ⟨raw, hraw, FileStore.read_write hentry hempty⟩
    · refine read_behind hpaths (hs.files i) hsame (holds_of_writing hphase hlt) ?_
      rintro rfl
      omega
  · rw [phase_goTo_self] at hw
    rcases hp with ⟨f', -, rfl⟩ | ⟨-, rfl⟩ <;> exact absurd hw (by simp)
  · rcases ha with ⟨todo, ha⟩ | ha
    · exact absurd ha (hnot todo a).1
    · exact absurd ha (hnot [] a).2

/-! ## Steps of the exchange -/

/-- **A step of the handler that has the lock**, takes it, or releases it. -/
theorem Isolated.exchangeStep (hpaths : paths.Different) (hs : Isolated paths ecall req s)
    {lock' : Option ι} {worker' : Option (WorkerProc ι ρ)} {p : Phase ρ}
    (halone : ∀ j, j ≠ i → ¬ (s.phase j).InExchange)
    (hlock : ∀ j, lock' = some j ↔ j = i ∧ p.InExchange)
    (hidle : p ≠ .awaiting → ∀ w, worker' = some w → w.Idle)
    (hexchange : p = .awaiting → ∀ w, worker' = some w → w.Exchange paths ecall (req i) i)
    (hown : ({ s with lock := lock', worker := worker' }.goTo i p).FilesOk paths (req i) i)
    (hanswer : ∀ a, (∃ todo, p = .removing todo a) ∨ p = .done a →
      OwnAnswer paths ecall (req i) a) :
    Isolated paths ecall req ({ s with lock := lock', worker := worker' }.goTo i p) := by
  have hself : ({ s with lock := lock', worker := worker' }.goTo i p).phase i = p :=
    phase_goTo_self _ i p
  have hother : ∀ j, j ≠ i →
      ({ s with lock := lock', worker := worker' }.goTo i p).phase j = s.phase j :=
    fun j hj => phase_goTo_of_ne _ p hj
  refine ⟨fun j => ?_, fun j => ?_, fun h w hw => ?_, fun j hj => ?_, fun j a ha => ?_⟩
  · by_cases hji : j = i
    · subst hji
      exact hown
    · have hne : s.phase j ≠ .awaiting := fun h => halone j hji (Or.inr h)
      exact (hs.files j).other hpaths (hother j hji)
        (fun f hf => (holds_congr_of_ne (s := s) (hother j hji) hne).mp hf) (Or.inl rfl)
  · show _ ↔ lock' = some j
    rw [hlock j]
    by_cases hji : j = i
    · subst hji
      rw [hself]
      simp
    · rw [hother j hji]
      exact ⟨fun h => absurd h (halone j hji), fun h => absurd h.1 hji⟩
  · exact hidle (fun hp => h i (hself.trans hp)) w hw
  · by_cases hji : j = i
    · subst hji
      exact hexchange (hself.symm.trans hj)
    · rw [hother j hji] at hj
      exact absurd (Or.inr hj) (halone j hji)
  · by_cases hji : j = i
    · subst hji
      rw [hself] at ha
      exact hanswer a ha
    · rw [hother j hji] at ha
      exact hs.answers j a ha

/-- Taking the lock. -/
theorem isolated_acquire (hpaths : paths.Different) (hs : Isolated paths ecall req s)
    (hphase : s.phase i = .acquiring) (hlock : s.lock = none) :
    Isolated paths ecall req ({ s with lock := some i }.goTo i .sending) := by
  have hnobody : ∀ j, ¬ (s.phase j).InExchange := by
    intro j h
    have hj := (hs.lock j).mp h
    rw [hlock] at hj
    exact absurd hj (by simp)
  refine hs.exchangeStep hpaths (fun j _ => hnobody j) (fun j => ?_) (fun _ w hw => ?_) (by simp)
    ⟨fun g _ => ?_, fun g file raw hw => ?_⟩ (by simp)
  · simp [Phase.InExchange, eq_comm]
  · exact hs.idle (fun j hj => hnobody j (Or.inr hj)) w hw
  · refine (hs.files i).holds g ?_
    unfold System.Holds
    rw [hphase]
    trivial
  · rw [phase_goTo_self] at hw
    exact absurd hw (by simp)

/-- The end of the exchange. -/
theorem isolated_finish (hpaths : paths.Different) (hs : Isolated paths ecall req s)
    (hlock : s.lock = some i) {worker : Option (WorkerProc ι ρ)}
    (hidle : ∀ w, worker = some w → w.Idle) {a : Answer ρ}
    (ha : OwnAnswer paths ecall (req i) a) :
    Isolated paths ecall req (s.finish i worker a) := by
  refine hs.exchangeStep hpaths (fun j hj => hs.alone hlock hj) (fun j => ?_) (fun _ => hidle)
    (by simp) (filesOk_of_removing (phase_goTo_self _ i _)) fun b hb => ?_
  · simp [Phase.InExchange]
  · rcases hb with ⟨todo, hb⟩ | hb
    · obtain ⟨-, rfl⟩ := Phase.removing.inj hb
      exact ha
    · exact absurd hb (by simp)

/-- Sending the line. -/
theorem isolated_send (hpaths : paths.Different) (hs : Isolated paths ecall req s)
    (hphase : s.phase i = .sending) (hround : RoundTrips paths (req i)) {line : Bytes}
    (hline : commandLine paths (req i) = some line) :
    Isolated paths ecall req ({ s with
      worker := some ((WorkerProc.ensure (req i).profile s.worker).feed i line) }.goTo i
        .awaiting) := by
  have hlock := (hs.lock i).mp (Or.inl hphase)
  have hidle : ∀ w, s.worker = some w → w.Idle := by
    refine hs.idle fun j hj => ?_
    by_cases hji : j = i
    · subst hji
      rw [hphase] at hj
      exact absurd hj (by simp)
    · exact hs.alone hlock hji (Or.inr hj)
  obtain ⟨hensured, hclosing⟩ := idle_ensure hidle (req i).profile
  refine hs.exchangeStep hpaths (fun j hj => hs.alone hlock hj) (fun j => ?_) (by simp)
    (fun _ w hw => ?_) ⟨fun g _ => ?_, fun g file raw hw => ?_⟩ (by simp)
  · simp [hlock, Phase.InExchange, eq_comm]
  · rw [← Option.some.inj hw]
    exact exchange_feed hensured hclosing hround hline
  · refine (hs.files i).holds g ?_
    unfold System.Holds
    rw [hphase]
    trivial
  · rw [phase_goTo_self] at hw
    exact absurd hw (by simp)

/-- Reading the block. -/
theorem isolated_await (hpaths : paths.Different) (hs : Isolated paths ecall req s)
    (hphase : s.phase i = .awaiting) :
    Isolated paths ecall req (handlerStep paths (req i) s i).1 := by
  have hlock := (hs.lock i).mp (Or.inr hphase)
  unfold handlerStep
  rw [hphase]
  cases hw : s.worker with
  | none => exact isolated_finish hpaths hs hlock (by simp) ownAnswer_failed
  | some w =>
    cases hs.exchange i hphase w hw with
    | queued args hargs hp hserv hu =>
      simp only [hu, WorkerProc.ended, hp, List.isEmpty_cons, Bool.and_false, Bool.false_and]
      exact hs
    | reading args sv hargs hp hserv hu htag hown =>
      simp only [hu, WorkerProc.ended, hserv, Option.isNone_some, Bool.and_false]
      exact hs
    | answered a hp hserv hu hown =>
      simp only [hu]
      refine isolated_finish hpaths hs hlock (fun v hv => ?_) hown
      rw [← Option.some.inj hv]
      exact ⟨hp, hserv, rfl⟩
    | gone hgone =>
      simp only [hgone.unread]
      split
      · refine isolated_finish hpaths hs hlock (fun v hv => ?_) ownAnswer_failed
        rw [← Option.some.inj hv]
        exact hgone
      · exact hs

omit [DecidableEq ι] in
theorem readsOwn_respond (hs : Isolated paths ecall req s) {a : Answer ρ} {todo : List RequestFile}
    (hphase : s.phase i = .removing todo a) : ReadsOwn paths ecall req (.respond i a) := by
  refine ⟨fun _ _ _ h => by simp at h, fun j result h => ?_⟩
  obtain ⟨rfl, rfl⟩ := SystemEvent.respond.inj h
  exact hs.answers _ _ (Or.inl ⟨todo, hphase⟩) result rfl

/-- **A step of a handler.** -/
theorem isolated_handlerStep (hpaths : paths.Different) (hs : Isolated paths ecall req s)
    (hround : RoundTrips paths (req i))
    (hfree : ∀ f, (s.phase i).Touches (req i) f → ∀ j, j ≠ i → ¬ s.Busy j f) :
    Isolated paths ecall req (handlerStep paths (req i) s i).1 ∧
      ReadsOwn paths ecall req (handlerStep paths (req i) s i).2 := by
  cases hphase : s.phase i with
  | opening f =>
    rw [hphase] at hfree
    cases hraw : (req i).raw f with
    | none =>
      have hstep : handlerStep paths (req i) s i =
          (s.goTo i (.removing perRequestFiles .failed), .quiet) := by
        unfold handlerStep
        simp only [hphase, hraw]
      rw [hstep]
      refine ⟨hs.move hpaths (by simp [hphase, Phase.InExchange]) (by simp [Phase.InExchange])
        (Or.inl rfl) (filesOk_of_removing (phase_goTo_self _ i _)) fun a ha => ?_, readsOwn_quiet⟩
      rcases ha with ⟨todo, ha⟩ | ha
      · obtain ⟨-, rfl⟩ := Phase.removing.inj ha
        exact ownAnswer_failed
      · exact absurd ha (by simp)
    | some raw =>
      have hstep : handlerStep paths (req i) s i =
          ({ s with files := (s.files.openTrunc (paths.name f)).1 }.goTo i
            (.writing f (s.files.openTrunc (paths.name f)).2 raw), .quiet) := by
        unfold handlerStep
        simp only [hphase, hraw]
      rw [hstep]
      exact ⟨isolated_open hpaths hs hphase hraw (hfree f ⟨rfl, by rw [hraw]; rfl⟩),
        readsOwn_quiet⟩
  | writing f file raw =>
    rw [hphase] at hfree
    unfold handlerStep
    simp only [hphase]
    cases hnext : f.next with
    | some g =>
      exact ⟨isolated_write hpaths hs hphase (hfree f rfl) (Or.inl ⟨g, hnext, rfl⟩),
        readsOwn_quiet⟩
    | none =>
      exact ⟨isolated_write hpaths hs hphase (hfree f rfl) (Or.inr ⟨hnext, rfl⟩), readsOwn_quiet⟩
  | acquiring =>
    unfold handlerStep
    simp only [hphase]
    cases hlock : s.lock with
    | none => exact ⟨isolated_acquire hpaths hs hphase hlock, readsOwn_quiet⟩
    | some k => exact ⟨hs, readsOwn_quiet⟩
  | sending =>
    have hsent := hround
    obtain ⟨line, -, hline, -, -⟩ := hsent
    unfold handlerStep
    simp only [hphase, hline]
    exact ⟨isolated_send hpaths hs hphase hround hline, readsOwn_quiet⟩
  | awaiting =>
    refine ⟨isolated_await hpaths hs hphase, ?_⟩
    unfold handlerStep
    simp only [hphase]
    split
    · exact readsOwn_quiet
    · split
      · exact readsOwn_quiet
      · split <;> exact readsOwn_quiet
  | removing todo a =>
    rw [hphase] at hfree
    have hanswer : OwnAnswer paths ecall (req i) a := hs.answers i a (Or.inl ⟨todo, hphase⟩)
    unfold handlerStep
    simp only [hphase]
    cases todo with
    | nil =>
      refine ⟨hs.move hpaths (by simp [hphase, Phase.InExchange]) (by simp [Phase.InExchange])
        (Or.inl rfl) (filesOk_of_done (phase_goTo_self _ i _)) fun b hb => ?_,
        readsOwn_respond hs hphase⟩
      rcases hb with ⟨todo, hb⟩ | hb
      · exact absurd hb (by simp)
      · obtain rfl := Phase.done.inj hb
        exact hanswer
    | cons f todo =>
      refine ⟨hs.move hpaths (by simp [hphase, Phase.InExchange]) (by simp [Phase.InExchange])
        (Or.inr ⟨f, FileStore.sameExcept_remove s.files (paths.name f), hfree f rfl⟩)
        (filesOk_of_removing (phase_goTo_self _ i _)) fun b hb => ?_, readsOwn_quiet⟩
      rcases hb with ⟨todo', hb⟩ | hb
      · obtain ⟨-, rfl⟩ := Phase.removing.inj hb
        exact hanswer
      · exact absurd hb (by simp)
  | done a =>
    unfold handlerStep
    simp only [hphase]
    exact ⟨hs, readsOwn_quiet⟩

end Handler

/-! ## Steps of the worker -/

/-- The worker of a waiting handler goes on, and has no more to read than before. -/
theorem Isolated.setWorker (hpaths : paths.Different) (hs : Isolated paths ecall req s)
    (hphase : s.phase i = .awaiting) {w' : WorkerProc ι ρ}
    (hexchange : w'.Exchange paths ecall (req i) i)
    (hreads : ∀ f, w'.StillReads f → s.Holds i f) :
    Isolated paths ecall req { s with worker := some w' } := by
  have hlock := (hs.lock i).mp (Or.inr hphase)
  refine ⟨fun j => ?_, hs.lock, fun h => absurd hphase (h i), fun j hj w hw => ?_, hs.answers⟩
  · refine (hs.files j).other hpaths rfl (fun f hf => ?_) (Or.inl rfl)
    by_cases hji : j = i
    · subst hji
      unfold System.Holds at hf
      simp only [hphase] at hf
      obtain ⟨w, hw, hstill⟩ := hf
      obtain rfl := Option.some.inj hw
      exact hreads f hstill
    · have hne : s.phase j ≠ .awaiting := fun h => hs.alone hlock hji (Or.inr h)
      have hsame : System.Holds { s with worker := some w' } j f ↔ s.Holds j f :=
        holds_congr_of_ne rfl hne
      exact hsame.mp hf
  · have hji : j = i := by
      by_contra hne
      exact hs.alone hlock hne (Or.inr hj)
    subst hji
    rw [← Option.some.inj hw]
    exact hexchange

/-- A process with nothing to do has nothing to read. -/
theorem not_stillReads {w : WorkerProc ι ρ} (hp : w.pending = []) (hserv : w.serving = none) :
    ¬ w.StillReads f := by
  rintro (h | ⟨sv, hsv, -⟩)
  · exact h hp
  · rw [hserv] at hsv
    exact absurd hsv (by simp)

theorem holds_of_awaiting (hphase : s.phase i = .awaiting) {w : WorkerProc ι ρ}
    (hw : s.worker = some w) (h : w.StillReads f) : s.Holds i f := by
  unfold System.Holds
  rw [hphase]
  exact ⟨w, hw, h⟩

theorem namesKem_argsOf (fid label : Bytes) (capacity : ℕ) :
    namesKem (argsOf paths fid label capacity) = true := by
  have hne : (paths.file .pkU).bytes ≠ [] := (paths.file .pkU).token.1
  simp [namesKem, argsOf, hne]

/-- A command of the proxy reads every file of its request, by the configured name. -/
theorem readPlan_own {r : RunRequest} {args : InvokeArgs} (hargs : invokeArgs paths r = some args) :
    (∀ p ∈ readPlan args, ∀ f, p.1 = RequestFile.slot f → p.2 = paths.name f) ∧
      ∀ f, RequestFile.slot f ∈ (readPlan args).map Prod.fst := by
  obtain ⟨fid, -, hargs⟩ := Option.bind_eq_some_iff.mp hargs
  obtain ⟨label, -, hargs⟩ := Option.bind_eq_some_iff.mp hargs
  obtain rfl := Option.some.inj hargs
  unfold readPlan basePlan
  rw [namesKem_argsOf, if_pos rfl]
  constructor
  · intro p hp f hf
    simp only [List.cons_append, List.nil_append, List.mem_cons, List.not_mem_nil,
      or_false] at hp
    rcases hp with rfl | rfl | rfl | rfl | rfl | rfl <;> cases f <;>
      first | rfl | exact absurd hf (by simp [RequestFile.slot])
  · intro f
    cases f <;> simp [RequestFile.slot]

/-- The worker takes the command of the handler. -/
theorem own_start {r : RunRequest} {args : InvokeArgs} (hargs : invokeArgs paths r = some args) :
    (⟨i, args, readPlan args, fun _ => []⟩ : Serving ι).Own paths r args :=
  ⟨rfl, (readPlan_own hargs).1, fun f hf => absurd ((readPlan_own hargs).2 f) hf⟩

/-- Everything is read. -/
theorem content_of_own {r : RunRequest} {args : InvokeArgs} {sv : Serving ι}
    (h : sv.Own paths r args) (htodo : sv.todo = []) :
    sv.content = ownContent r (sv.content .wasm) := by
  have hread : ∀ f, sv.content (RequestFile.slot f) = (r.raw f).getD [] := by
    intro f
    rw [h.read f (by rw [htodo]; simp), Option.getD_some]
  funext file
  cases file with
  | wasm => rfl
  | input => exact hread .input
  | cKFunc => exact hread .cKFunc
  | cKey => exact hread .cKey
  | pkU => exact hread .pkU
  | nonce => exact hread .nonce

/-- One more file is read. -/
theorem own_next {r : RunRequest} {args : InvokeArgs} {sv : Serving ι}
    (h : sv.Own paths r args) {file : InvokeFile} {name : CStr} {todo : List (InvokeFile × CStr)}
    (htodo : sv.todo = (file, name) :: todo) {content : Bytes}
    (hcontent : ∀ f, RequestFile.slot f = file → r.raw f = some content) :
    (⟨sv.tag, sv.args, todo, Function.update sv.content file content⟩ : Serving ι).Own paths r
      args := by
  refine ⟨h.args, fun p hp => h.names p (htodo ▸ List.mem_cons_of_mem _ hp), fun f hf => ?_⟩
  by_cases hfile : RequestFile.slot f = file
  · subst hfile
    have hself : Function.update sv.content (RequestFile.slot f) content (RequestFile.slot f) =
        content := Function.update_self _ _ _
    rw [hcontent f rfl]
    exact congrArg some hself.symm
  · have hkeep : Function.update sv.content file content (RequestFile.slot f) =
        sv.content f.slot := Function.update_of_ne hfile _ _
    refine (h.read f ?_).trans (congrArg some hkeep.symm)
    rw [htodo, List.map_cons, List.mem_cons]
    rintro (he | hmem)
    · exact hfile he
    · exact hf hmem

/-- A file of the request that is next to be read is the handler's own. -/
theorem read_own (hs : Isolated paths ecall req s) (hphase : s.phase i = .awaiting)
    {w : WorkerProc ι ρ} (hw : s.worker = some w) {sv : Serving ι} (hserv : w.serving = some sv)
    {args : InvokeArgs} (hown : sv.Own paths (req i) args) {file : InvokeFile} {name : CStr}
    {todo : List (InvokeFile × CStr)} (htodo : sv.todo = (file, name) :: todo)
    (hf : RequestFile.slot f = file) : s.files.read name = (req i).raw f ∧ (req i).raw f ≠ none := by
  have hmem : (file, name) ∈ sv.todo := htodo ▸ List.mem_cons_self
  have hname : name = paths.name f := hown.names _ hmem f hf.symm
  have hstill : w.StillReads f :=
    Or.inr ⟨sv, hserv, List.mem_map.mpr ⟨(file, name), hmem, hf.symm⟩⟩
  obtain ⟨raw, hraw, hread⟩ := (hs.files i).holds f (holds_of_awaiting hphase hw hstill)
  rw [hname, hraw, hread]
  exact ⟨rfl, by simp⟩

/-- **A step of the worker** while a handler waits. -/
theorem isolated_workerProcStep (hpaths : paths.Different) (hs : Isolated paths ecall req s)
    (hphase : s.phase i = .awaiting) {w : WorkerProc ι ρ} (hw : s.worker = some w) (env : ω) :
    Isolated paths ecall req (workerProcStep ecall s w env).1 ∧
      ReadsOwn paths ecall req (workerProcStep ecall s w env).2 := by
  unfold workerProcStep
  cases hs.exchange i hphase w hw with
  | queued args hargs hp hserv hu =>
    simp only [hserv, hp]
    refine ⟨hs.setWorker hpaths hphase (.reading args _ hargs rfl rfl hu rfl (own_start hargs))
      fun f _ => holds_of_awaiting hphase hw (Or.inl ?_), readsOwn_quiet⟩
    rw [hp]
    simp
  | reading args sv hargs hp hserv hu htag hown =>
    have hanswer : ∀ a : Answer ρ, OwnAnswer paths ecall (req i) a →
        Isolated paths ecall req { s with worker := some (w.answer sv.tag a) } := by
      intro a ha
      refine hs.setWorker hpaths hphase (.answered a hp rfl ?_ ha) fun f hf =>
        absurd hf (not_stillReads hp rfl)
      rw [WorkerProc.answer, hu, htag, List.nil_append]
    simp only [hserv]
    cases htodo : sv.todo with
    | nil =>
      cases hresult : ecall env sv.args (runArgs sv.args sv.content) with
      | none =>
        exact ⟨hanswer .failed ownAnswer_failed, readsOwn_quiet⟩
      | some result =>
        refine ⟨hanswer (.success result) fun result' he => ?_, readsOwn_quiet⟩
        obtain rfl := Answer.success.inj he
        rw [content_of_own hown htodo, hown.args] at hresult
        exact ⟨env, sv.content .wasm, args, hargs, hresult⟩
    | cons p todo =>
      obtain ⟨file, name⟩ := p
      have hread : ∀ f, RequestFile.slot f = file →
          s.files.read name = (req i).raw f ∧ (req i).raw f ≠ none :=
        fun f hf => read_own hs hphase hw hserv hown htodo hf
      cases hcontent : s.files.read name with
      | none =>
        simp only [hcontent]
        refine ⟨hanswer .failed ownAnswer_failed, fun j f content he => ?_, fun _ _ he => by
          simp at he⟩
        obtain ⟨rfl, rfl, rfl⟩ := SystemEvent.read.inj he
        rw [htag, ← (hread f rfl).1, hcontent]
      | some content =>
        simp only [hcontent]
        refine ⟨?_, fun j f c he => ?_, fun _ _ he => by simp at he⟩
        · split
          · refine hs.setWorker hpaths hphase (.reading args _ hargs hp rfl hu htag
              (own_next hown htodo fun f hf => (hread f hf).1.symm.trans hcontent)) ?_
            rintro f (hpend | ⟨sv', hsv', hmem⟩)
            · exact absurd hp hpend
            · obtain rfl := Option.some.inj hsv'
              refine holds_of_awaiting hphase hw (Or.inr ⟨sv, hserv, ?_⟩)
              rw [htodo, List.map_cons]
              exact List.mem_cons_of_mem _ hmem
          · exact hanswer .failed ownAnswer_failed
        · obtain ⟨rfl, rfl, rfl⟩ := SystemEvent.read.inj he
          rw [htag, ← (hread f rfl).1, hcontent]
  | answered a hp hserv hu hown =>
    simp only [hserv, hp]
    exact ⟨hs, readsOwn_quiet⟩
  | gone hidle =>
    simp only [hidle.serving, hidle.pending]
    exact ⟨hs, readsOwn_quiet⟩

/-- When no handler waits, the worker does nothing. -/
theorem workerProcStep_idle {w : WorkerProc ι ρ} (h : w.Idle) (env : ω) :
    workerProcStep ecall s w env = (s, .quiet) := by
  unfold workerProcStep
  simp only [h.serving, h.pending]

/-- The worker dies. -/
theorem isolated_crash (hpaths : paths.Different) (hs : Isolated paths ecall req s) :
    Isolated paths ecall req { s with worker := s.worker.map WorkerProc.crash } := by
  cases hw : s.worker with
  | none =>
    rw [Option.map_none, ← hw]
    exact hs
  | some w =>
    by_cases hwait : ∃ i, s.phase i = .awaiting
    · obtain ⟨i, hphase⟩ := hwait
      refine hs.setWorker hpaths hphase ?_ fun f hf => absurd hf (not_stillReads rfl rfl)
      cases hs.exchange i hphase w hw with
      | queued args hargs hp hserv hu => exact .gone ⟨rfl, rfl, hu⟩
      | reading args sv hargs hp hserv hu htag hown => exact .gone ⟨rfl, rfl, hu⟩
      | answered a hp hserv hu hown => exact .answered a rfl rfl hu hown
      | gone hidle => exact .gone ⟨rfl, rfl, hidle.unread⟩
    · have hnobody : ∀ i, s.phase i ≠ .awaiting := fun i hi => hwait ⟨i, hi⟩
      refine ⟨fun j => ?_, hs.lock, fun _ v hv => ?_, fun j hj => absurd hj (hnobody j), hs.answers⟩
      · refine (hs.files j).other hpaths rfl (fun f hf => ?_) (Or.inl rfl)
        have hsame : System.Holds { s with worker := some w.crash } j f ↔ s.Holds j f :=
          holds_congr_of_ne rfl (hnobody j)
        exact hsame.mp hf
      · rw [← Option.some.inj hv]
        exact ⟨rfl, rfl, (hs.idle hnobody w hw).unread⟩

/-! ## Every step, and runs -/

section Runs

variable [DecidableEq ι]

/-- **Every undisturbed step** keeps the invariant and reads the handler's own. -/
theorem isolated_systemStep (hpaths : paths.Different) (hflag : paths.NoFlag)
    (hs : Isolated paths ecall req s) {actor : Actor ι ω}
    (hstep : Undisturbed req ⟨s, actor, (systemStep paths ecall req s actor).2⟩) :
    Isolated paths ecall req (systemStep paths ecall req s actor).1 ∧
      ReadsOwn paths ecall req (systemStep paths ecall req s actor).2 := by
  cases actor with
  | handler i =>
    exact isolated_handlerStep hpaths hs (roundTrips_of_plain (hstep.plain i rfl) hflag)
      (hstep.free i rfl)
  | worker env =>
    unfold systemStep
    cases hw : s.worker with
    | none => exact ⟨hs, readsOwn_quiet⟩
    | some w =>
      by_cases hwait : ∃ i, s.phase i = .awaiting
      · obtain ⟨i, hphase⟩ := hwait
        exact isolated_workerProcStep hpaths hs hphase hw env
      · have hidle := hs.idle (fun i hi => hwait ⟨i, hi⟩) w hw
        simp only [workerProcStep_idle hidle]
        exact ⟨hs, readsOwn_quiet⟩
  | crash => exact ⟨isolated_crash hpaths hs, readsOwn_quiet⟩

/-- **Requests do not mix while nobody disturbs a file.**  In every run of undisturbed steps, from
any files, the worker reads for a handler what this handler wrote, and the result of a successful
response was computed from the request's own fields. -/
theorem reads_own_of_undisturbed (hpaths : paths.Different) (hflag : paths.NoFlag)
    {files : FileStore CStr} {h : List (SystemRecord ι ω ρ)}
    (hr : Reach (systemStep paths ecall req) (System.initial files) h s)
    (hsteps : ∀ r ∈ h, Undisturbed req r) : ∀ r ∈ h, ReadsOwn paths ecall req r.output := by
  suffices hall : Isolated paths ecall req s ∧ ∀ r ∈ h, ReadsOwn paths ecall req r.output from
    hall.2
  induction hr with
  | start => exact ⟨isolated_initial files, fun r hr => absurd hr List.not_mem_nil⟩
  | @step h s prior actor ih =>
    obtain ⟨hs, hreads⟩ := ih fun r hr => hsteps r (List.mem_cons_of_mem _ hr)
    obtain ⟨hnext, hlast⟩ := isolated_systemStep hpaths hflag hs (hsteps _ List.mem_cons_self)
    refine ⟨hnext, fun r hr => ?_⟩
    rcases List.mem_cons.mp hr with rfl | hr
    · exact hlast
    · exact hreads r hr

end Runs

/-! ## Two handlers -/

/-- A field of `n` letters of the base64 alphabet, and pads. -/
def fieldOf (c : Char) (n : ℕ) (pads : Text) : NonemptyStr :=
  ⟨PyStr.ofText (c :: (List.replicate n c ++ pads)), defaultFields_ne_nil _ _⟩

/-- A request that the worker accepts, with an input of 30 bytes spelled with this letter. -/
def acceptedRequest (c : Char) : RunRequest :=
  { plainRequest with
    encryptedInput := fieldOf c 39 []
    cKFunc := fieldOf 'A' 147 []
    cKey := fieldOf 'A' 147 []
    pkU := fieldOf 'A' 86 ['=']
    nonce := fieldOf 'A' 21 ['=', '='] }

/-- A directory with a package of zeros. -/
def sampleFiles : FileStore CStr :=
  let opened := FileStore.empty.openTrunc (fileName samplePaths.wasmFile.bytes)
  opened.1.write opened.2 (List.replicate 28 0)

/-- An ECALL whose result is the request that it was given. -/
def echoRequest : Unit → InvokeArgs → RunArgs → Option Bytes :=
  fun _ _ args => some args.encryptedInput

/-- One handler from its first file to the end of its exchange. -/
def wholeRun {κ : Type} (i : κ) : List (Actor κ Unit) :=
  List.replicate 12 (.handler i) ++ List.replicate 8 (.worker ()) ++ List.replicate 6 (.handler i)

theorem different_samplePaths : samplePaths.Different := by
  intro f g h
  cases f <;> cases g <;> first | rfl | exact absurd h (by decide +kernel)

/-- One handler alone is never disturbed, and responds with the result of its own input. -/
theorem reads_own_alone :
    ∃ r ∈ (runOn (systemStep samplePaths echoRequest fun _ : Unit => acceptedRequest 'A') []
        (System.initial sampleFiles) (wholeRun ())).1,
      r.output = .respond () (.success [0, 0]) ∧
        ReadsOwn samplePaths echoRequest (fun _ : Unit => acceptedRequest 'A') r.output := by
  have hlast : ((runOn (systemStep samplePaths echoRequest fun _ : Unit => acceptedRequest 'A') []
      (System.initial sampleFiles) (wholeRun ())).1.head?.map fun r => r.output) =
        some (.respond () (.success [0, 0])) := by
    decide +kernel
  obtain ⟨r, hr, hout⟩ := Option.map_eq_some_iff.mp hlast
  have hmem := List.mem_of_head? hr
  refine ⟨r, hmem, hout, ?_⟩
  refine reads_own_of_undisturbed different_samplePaths noFlag_samplePaths
    (reach_runOn _ _ Reach.start) (fun r _ => ⟨fun _ _ => ?_, fun i _ f _ j hj => ?_⟩) r hmem
  · exact ⟨plain_plainRequest.fid, plain_plainRequest.label⟩
  · exact absurd rfl hj

/-- The two requests of the example. -/
def twoRequests : Bool → RunRequest
  | true => acceptedRequest 'A'
  | false => acceptedRequest 'B'

/-- The first handler has written its files when the second begins. -/
def mixedRun : List (Actor Bool Unit) :=
  List.replicate 10 (.handler true) ++ List.replicate 2 (.handler false) ++
    (wholeRun true).drop 10

/-- **Two requests mix.**  The second handler writes its input before the first takes the lock,
and the first responds with the result of the second input. -/
theorem not_forall_readsOwn :
    ¬ (∀ h s, Reach (systemStep samplePaths echoRequest twoRequests) (System.initial sampleFiles) h s →
      ∀ r ∈ h, ReadsOwn samplePaths echoRequest twoRequests r.output) := by
  intro hall
  have hrun : Reach (systemStep samplePaths echoRequest twoRequests) (System.initial sampleFiles)
      _ _ := reach_runOn _ mixedRun Reach.start
  have hlast : ((runOn (systemStep samplePaths echoRequest twoRequests) []
      (System.initial sampleFiles) mixedRun).1.head?.map fun r => r.output) =
        some (.respond true (.success [16, 65])) := by
    decide +kernel
  obtain ⟨r, hr, hout⟩ := Option.map_eq_some_iff.mp hlast
  obtain ⟨_, wasm, args, -, hresult⟩ :=
    (hall _ _ hrun r (List.mem_of_head? hr)).respond true [16, 65] hout
  have hown : ((acceptedRequest 'A').raw .input).getD [] = List.replicate 30 0 := by decide +kernel
  have hinput : some ((((acceptedRequest 'A').raw .input).getD []).drop 28) = some [16, 65] := hresult
  rw [hown] at hinput
  exact absurd hinput (by decide)

end Proxy
end AsynCS
