import AsynCS.Lib.Runs
import AsynCS.Proxy.Request

/-!
# A line written and read

The proxy joins the tokens of a request with blanks, and the worker splits the line at whitespace.
This gives the tokens back exactly when none of them holds whitespace, and only the FID and the
label can.

* `RunRequest.Plain`: the FID and the label hold no whitespace and no surrogate.
* `RoundTrips`: the worker reads the line as one command, with the request's own arguments.
* `roundTrips_of_plain`, `plain_of_roundTrips`: when it does.
* `Channel`, `invokeStep`: the two pipes between the proxy and a worker process.
* `invocation_served_iff`: in a run of requests each is answered by its own block and by nothing
  else, exactly when each is plain.
-/

namespace AsynCS
namespace Proxy

open WorkerApp

/-! ## Whitespace -/

theorem isSpaceChar_iff {c : Char} :
    isSpaceChar c = true ↔ c.toNat = 32 ∨ 9 ≤ c.toNat ∧ c.toNat ≤ 13 := by
  have hblank : c = ' ' ↔ c.toNat = 32 := by
    constructor
    · rintro rfl
      rfl
    · intro h
      exact Char.toNat_inj.mp h
  simp only [isSpaceChar, Bool.or_eq_true, beq_iff_eq, Bool.and_eq_true, decide_eq_true_eq,
    hblank]

/-- Whitespace of an encoded text is whitespace of the text. -/
theorem utf8_noSpace_iff {t : Text} :
    (∀ b ∈ utf8 t, isSpace b = false) ↔ ∀ c ∈ t, isSpaceChar c = false := by
  constructor
  · intro h c hc
    by_contra hs
    have hspace := isSpaceChar_iff.mp (Bool.not_eq_false _ ▸ hs)
    have hcode : (UInt8.ofNat c.toNat).toNat = c.toNat := by
      rw [UInt8.toNat_ofNat']
      omega
    have hmem : UInt8.ofNat c.toNat ∈ utf8 t :=
      (mem_utf8_iff_of_lt (by omega)).mpr ⟨c, hc, hcode.symm⟩
    have hb := h _ hmem
    rw [Bool.eq_false_iff, Ne, isSpace_iff, hcode] at hb
    exact hb hspace
  · intro h b hb
    by_contra hs
    have hspace := isSpace_iff.mp (Bool.not_eq_false _ ▸ hs)
    obtain ⟨c, hc, hcode⟩ := (mem_utf8_iff_of_lt (by omega)).mp hb
    have hc' := h c hc
    rw [Bool.eq_false_iff, Ne, isSpaceChar_iff, hcode] at hc'
    exact hc' hspace

/-- No whitespace, and an encoding. -/
def PlainStr (s : PyStr) : Prop := ∃ t, s = PyStr.ofText t ∧ ∀ c ∈ t, isSpaceChar c = false

/-- The FID and the label hold no whitespace and no surrogate. -/
structure RunRequest.Plain (req : RunRequest) : Prop where
  fid : PlainStr req.fid.1
  label : PlainStr req.label.1

/-- A string is plain when its encoding holds no whitespace. -/
theorem plainStr_iff {s : PyStr} :
    PlainStr s ↔ ∃ b, s.encode = some b ∧ ∀ x ∈ b, isSpace x = false := by
  constructor
  · rintro ⟨t, rfl, ht⟩
    exact ⟨utf8 t, PyStr.encode_ofText t, utf8_noSpace_iff.mpr ht⟩
  · rintro ⟨b, hb, hx⟩
    obtain ⟨t, rfl, rfl⟩ := PyStr.encode_eq_some_iff.mp hb
    exact ⟨t, rfl, utf8_noSpace_iff.mp hx⟩

/-! ## One line -/

/-- The path of `pkU` is not spelled like a flag of the worker. -/
def RuntimePaths.NoFlag (paths : RuntimePaths) : Prop :=
  isFlag (paths.file .pkU).bytes = false

/-- The worker reads the line of the request as one command, with the request's arguments. -/
def RoundTrips (paths : RuntimePaths) (req : RunRequest) : Prop :=
  ∃ line args, commandLine paths req = some line ∧ invokeArgs paths req = some args ∧
    runServerLoop (lines 10 line) = ([.invoke (.ok args)], false)

variable {paths : RuntimePaths} {req : RunRequest}

/-- What the worker read as one command came from plain strings. -/
theorem plain_of_roundTrips (h : RoundTrips paths req) : req.Plain ∧ paths.NoFlag := by
  obtain ⟨line, args, -, hargs, hloop⟩ := h
  have hmem : Command.invoke (.ok args) ∈ (runServerLoop (lines 10 line)).1 := by
    rw [hloop]
    exact List.mem_singleton.mpr rfl
  obtain ⟨l, -, hcommand⟩ := exists_line_of_mem hmem
  obtain ⟨hfid, hlabel, hpku⟩ := parseInvokeTokens_ok (commandOf_eq_invoke hcommand)
  -- a token holds no whitespace, and the default label holds none either
  have htoken : ∀ tok ∈ splitTokens l, ∀ b ∈ tok, isSpace b = false :=
    fun tok htok b hb => not_sep_of_mem_words htok hb
  have hdefault : ∀ b ∈ ascii "default_label", isSpace b = false := by
    decide +kernel
  obtain ⟨fid, hfidEnc, hargs⟩ := Option.bind_eq_some_iff.mp hargs
  obtain ⟨label, hlabelEnc, hargs⟩ := Option.bind_eq_some_iff.mp hargs
  obtain rfl := Option.some.inj hargs
  refine ⟨⟨plainStr_iff.mpr ⟨fid, hfidEnc, htoken fid hfid⟩,
    plainStr_iff.mpr ⟨label, hlabelEnc, ?_⟩⟩, hpku⟩
  rcases hlabel with hlabel | hlabel
  · have hlabel : label = ascii "default_label" := hlabel
    rw [hlabel]
    exact hdefault
  · exact htoken label hlabel

/-- The tokens of a request without surrogates. -/
def tokenTexts (paths : RuntimePaths) (fid label : Text) (capacity : ℕ) : List Text :=
  ["invoke".toList, fid, paths.wasmFile.text, (paths.file .input).text, "--label".toList, label,
    "--keys".toList, (paths.file .cKFunc).text, (paths.file .cKey).text,
    "--max-output-bytes".toList, Nat.toDigits 10 capacity, (paths.file .pkU).text,
    (paths.file .nonce).text]

/-- The tokens of a line, as the worker is to see them. -/
def tokenBytes (paths : RuntimePaths) (fid label : Bytes) (capacity : ℕ) : List Bytes :=
  [ascii "invoke", fid, paths.wasmFile.bytes, (paths.file .input).bytes, ascii "--label", label,
    ascii "--keys", (paths.file .cKFunc).bytes, (paths.file .cKey).bytes,
    ascii "--max-output-bytes", decimalDigits capacity, (paths.file .pkU).bytes,
    (paths.file .nonce).bytes]

theorem utf8_toDigits (n : ℕ) : utf8 (Nat.toDigits 10 n) = decimalDigits n :=
  utf8_of_ascii fun c hc => by
    have h := toNat_of_mem_toDigits hc
    omega

theorem map_utf8_tokenTexts (fid label : Text) (capacity : ℕ) :
    (tokenTexts paths fid label capacity).map utf8 =
      tokenBytes paths (utf8 fid) (utf8 label) capacity := by
  have hinvoke : utf8 "invoke".toList = ascii "invoke" := by decide +kernel
  have hlabel : utf8 "--label".toList = ascii "--label" := by decide +kernel
  have hkeys : utf8 "--keys".toList = ascii "--keys" := by decide +kernel
  have hmax : utf8 "--max-output-bytes".toList = ascii "--max-output-bytes" := by decide +kernel
  simp only [tokenTexts, tokenBytes, List.map_cons, List.map_nil, hinvoke, hlabel, hkeys, hmax,
    utf8_toDigits, Path.bytes]

/-- The line of a request without surrogates. -/
theorem commandLine_ofText {fid label : Text} (hfid : req.fid.1 = PyStr.ofText fid)
    (hlabel : req.label.1 = PyStr.ofText label) :
    commandLine paths req =
      some (List.intercalate [32]
        (tokenBytes paths (utf8 fid) (utf8 label) req.outputCapacityBytes.1) ++ [10]) := by
  have htokens : tokens paths req =
      (tokenTexts paths fid label req.outputCapacityBytes.1).map PyStr.ofText := by
    simp only [tokens, tokenTexts, lit, hfid, hlabel, List.map_cons, List.map_nil]
  have hjoin : List.intercalate (lit " ") (tokens paths req) ++ lit "\n" =
      PyStr.ofText (List.intercalate [' ']
        (tokenTexts paths fid label req.outputCapacityBytes.1) ++ ['\n']) := by
    rw [htokens, PyStr.ofText, List.map_append]
    refine congrArg (· ++ _) ?_
    exact (hom_intercalate (f := PyStr.ofText) rfl (fun _ _ => List.map_append) [' '] _).symm
  have hblank : utf8 [' '] = [32] := by decide +kernel
  have hend : utf8 ['\n'] = [10] := by decide +kernel
  rw [commandLine, hjoin, PyStr.encode_ofText, utf8_append, hend,
    hom_intercalate utf8_nil utf8_append, hblank, map_utf8_tokenTexts]

/-- A path is a token. -/
theorem Path.token (p : Path) : p.bytes ≠ [] ∧ ∀ b ∈ p.bytes, isSpace b = false :=
  ⟨utf8_ne_nil p.nonempty, utf8_noSpace_iff.mpr p.noSpace⟩

/-- The tokens of a plain line can be told apart. -/
theorem tokens_of_plain {fid label : Bytes} {capacity : ℕ}
    (hfid : fid ≠ [] ∧ ∀ b ∈ fid, isSpace b = false)
    (hlabel : label ≠ [] ∧ ∀ b ∈ label, isSpace b = false) :
    ∀ tok ∈ tokenBytes paths fid label capacity, tok ≠ [] ∧ ∀ b ∈ tok, isSpace b = false := by
  have hdigits : decimalDigits capacity ≠ [] ∧
      ∀ b ∈ decimalDigits capacity, isSpace b = false := by
    refine ⟨by simp [decimalDigits], fun b hb => ?_⟩
    have hd := isDigit_iff.mp (isDigit_of_mem_decimalDigits hb)
    by_contra hs
    have hspace := isSpace_iff.mp (Bool.not_eq_false _ ▸ hs)
    omega
  have hword : ∀ text ∈ ["invoke", "--label", "--keys", "--max-output-bytes"],
      ascii text ≠ [] ∧ ∀ b ∈ ascii text, isSpace b = false := by
    decide +kernel
  intro tok htok
  simp only [tokenBytes, List.mem_cons, List.not_mem_nil, or_false] at htok
  rcases htok with rfl | rfl | rfl | rfl | rfl | rfl | rfl | rfl | rfl | rfl | rfl | rfl | rfl
  · exact hword "invoke" (by decide)
  · exact hfid
  · exact Path.token _
  · exact Path.token _
  · exact hword "--label" (by decide)
  · exact hlabel
  · exact hword "--keys" (by decide)
  · exact Path.token _
  · exact Path.token _
  · exact hword "--max-output-bytes" (by decide)
  · exact hdigits
  · exact Path.token _
  · exact Path.token _

/-- The worker parses the tokens. -/
theorem parse_tokenBytes (hpaths : paths.NoFlag) (fid label : Bytes) (capacity : OutputCapacity) :
    parseInvokeTokens (tokenBytes paths fid label capacity.1) =
      .ok (argsOf paths fid label capacity.1) := by
  have hcapacity := parseMaxOutputBytes_decimalDigits capacity.2
  have hkeys : ¬ ((paths.file .cKFunc).bytes = [] ∨ (paths.file .cKey).bytes = []) := by
    rintro (h | h)
    · exact (paths.file .cKFunc).token.1 h
    · exact (paths.file .cKey).token.1 h
  simp only [tokenBytes, parseInvokeTokens, parseInvokeFlags_label, parseInvokeFlags_keys,
    parseInvokeFlags_max _ hcapacity, parseInvokeFlags_stop _ hpaths, bind, Except.bind,
    if_neg hkeys]
  rfl

/-- **What plain strings spell** is read as one command, with the request's own arguments. -/
theorem roundTrips_of_plain (h : req.Plain) (hpaths : paths.NoFlag) : RoundTrips paths req := by
  obtain ⟨fid, hfid, hfidChars⟩ := h.fid
  obtain ⟨label, hlabel, hlabelChars⟩ := h.label
  have hfidNe : fid ≠ [] := by
    rintro rfl
    exact req.fid.2 hfid
  have hlabelNe : label ≠ [] := by
    rintro rfl
    exact req.label.2 hlabel
  have htokens : ∀ tok ∈ tokenBytes paths (utf8 fid) (utf8 label) req.outputCapacityBytes.1,
      tok ≠ [] ∧ ∀ b ∈ tok, isSpace b = false :=
    tokens_of_plain ⟨utf8_ne_nil hfidNe, utf8_noSpace_iff.mpr hfidChars⟩
      ⟨utf8_ne_nil hlabelNe, utf8_noSpace_iff.mpr hlabelChars⟩
  -- the line holds no line end of its own, and it is not `exit`
  have hline : (10 : UInt8) ∉ List.intercalate [32]
      (tokenBytes paths (utf8 fid) (utf8 label) req.outputCapacityBytes.1) := by
    intro hmem
    rcases mem_intercalate hmem with h | ⟨tok, htok, hb⟩
    · exact absurd h (by decide)
    · exact absurd ((htokens tok htok).2 10 hb) (by decide)
  have hsplit : splitTokens (List.intercalate [32]
      (tokenBytes paths (utf8 fid) (utf8 label) req.outputCapacityBytes.1)) =
        tokenBytes paths (utf8 fid) (utf8 label) req.outputCapacityBytes.1 :=
    words_intercalate (by decide) htokens
  have hexit : List.intercalate [32]
      (tokenBytes paths (utf8 fid) (utf8 label) req.outputCapacityBytes.1) ≠ ascii "exit" := by
    intro h
    have hone : splitTokens (ascii "exit") = [ascii "exit"] := by decide +kernel
    rw [h, hone] at hsplit
    exact absurd (congrArg List.length hsplit) (by simp [tokenBytes])
  have hargs : invokeArgs paths req =
      some (argsOf paths (utf8 fid) (utf8 label) req.outputCapacityBytes.1) := by
    simp only [invokeArgs, hfid, hlabel, PyStr.encode_ofText, Option.bind_eq_bind,
      Option.bind_some]
  refine ⟨_, _, commandLine_ofText hfid hlabel, hargs, ?_⟩
  have hlines := lines_cons hline []
  rw [lines_nil] at hlines
  rw [hlines, runServerLoop, if_neg hexit, hsplit]
  have hcommand : commandOf (tokenBytes paths (utf8 fid) (utf8 label) req.outputCapacityBytes.1) =
      some (.invoke (.ok (argsOf paths (utf8 fid) (utf8 label) req.outputCapacityBytes.1))) := by
    rw [← parse_tokenBytes hpaths, tokenBytes, commandOf_invoke]
  rw [hcommand]
  rfl

/-! ## Two pipes -/

/-- A block of the worker: the command that it answers, and the invocation that wrote the line
of this command. -/
structure Response where
  command : Command
  invocation : ℕ
  deriving DecidableEq

/-- A worker process, with the blocks that the proxy has not read yet. -/
structure Channel where
  profile : PyStr
  unread : List Response
  exited : Bool
  deriving DecidableEq

/-- The number of invocations so far, and the worker process. -/
structure ProxyState where
  invocations : ℕ
  worker : Option Channel
  deriving DecidableEq

/-- The proxy before its first invocation. -/
def ProxyState.initial : ProxyState := ⟨0, none⟩

/-- `_start_sgx_worker`: a process that runs for the profile is kept, and any other is replaced
by a new one. -/
def startWorker (profile : PyStr) : Option Channel → Channel
  | some c => if c.exited = false ∧ c.profile = profile then c else ⟨profile, [], false⟩
  | none => ⟨profile, [], false⟩

/-- What `_invoke_sgx_worker` comes back with. -/
inductive InvokeReply where
  /-- the line could not be encoded -/
  | unencodable
  /-- the output of the worker ended before `END_RESPONSE` -/
  | noResponse
  | response (r : Response)
  deriving DecidableEq

/-- `_invoke_sgx_worker`: write the line, and read up to the next `END_RESPONSE`. -/
def invokeStep (paths : RuntimePaths) (s : ProxyState) (req : RunRequest) :
    ProxyState × InvokeReply :=
  let c := startWorker req.profile s.worker
  match commandLine paths req with
  | none => (⟨s.invocations + 1, some c⟩, .unencodable)
  | some line =>
    let answered := runServerLoop (lines 10 line)
    match c.unread ++ answered.1.map fun command => ⟨command, s.invocations⟩ with
    | [] => (⟨s.invocations + 1, some { c with exited := answered.2 }⟩, .noResponse)
    | r :: unread =>
      (⟨s.invocations + 1, some { c with unread := unread, exited := answered.2 }⟩, .response r)

/-- No block is left unread. -/
def ProxyState.Drained (s : ProxyState) : Prop := ∀ c, s.worker = some c → c.unread = []

/-- A recorded invocation. -/
abbrev InvokeRecord := Record ProxyState RunRequest InvokeReply

/-- The invocation read one block, that of its own command, and left none. -/
structure Served (paths : RuntimePaths) (r : InvokeRecord) : Prop where
  roundTrips : RoundTrips paths r.input
  own : ∃ args, invokeArgs paths r.input = some args ∧
    r.output = .response ⟨.invoke (.ok args), r.pre.invocations⟩
  drained : (invokeStep paths r.pre r.input).1.Drained

/-- A new process has nothing unread, and neither has a kept one that had nothing. -/
theorem unread_startWorker {s : ProxyState} (hs : s.Drained) (profile : PyStr) :
    (startWorker profile s.worker).unread = [] := by
  cases hw : s.worker with
  | none => rfl
  | some c =>
    by_cases hkeep : c.exited = false ∧ c.profile = profile
    · rw [startWorker, if_pos hkeep]
      exact hs c hw
    · rw [startWorker, if_neg hkeep]

/-- **One invocation.**  With nothing unread, a request that makes the round trip is served. -/
theorem served_step {s : ProxyState} (hs : s.Drained) (h : RoundTrips paths req) :
    Served paths ⟨s, req, (invokeStep paths s req).2⟩ := by
  have hround := h
  obtain ⟨line, args, hline, hargs, hloop⟩ := h
  have hstep : invokeStep paths s req =
      (⟨s.invocations + 1, some { startWorker req.profile s.worker with
          unread := [], exited := false }⟩,
        .response ⟨.invoke (.ok args), s.invocations⟩) := by
    unfold invokeStep
    simp only [hline, hloop, unread_startWorker hs, List.nil_append, List.map_cons, List.map_nil]
  refine ⟨hround, ⟨args, hargs, ?_⟩, ?_⟩
  · rw [hstep]
  · intro c hc
    rw [hstep] at hc
    rw [← Option.some.inj hc]

/-- **Runs.**  When every request of a run makes the round trip, every invocation is served. -/
theorem served_of_roundTrips {h : List InvokeRecord} {s : ProxyState}
    (hr : Reach (invokeStep paths) ProxyState.initial h s)
    (hreq : ∀ r ∈ h, RoundTrips paths r.input) : s.Drained ∧ ∀ r ∈ h, Served paths r := by
  induction hr with
  | start =>
    refine ⟨fun c hc => ?_, fun r hr => absurd hr List.not_mem_nil⟩
    exact absurd hc (by simp [ProxyState.initial])
  | @step h s prior req ih =>
    obtain ⟨hs, hserved⟩ := ih fun r hr => hreq r (List.mem_cons_of_mem _ hr)
    have hlast := served_step hs (hreq _ List.mem_cons_self)
    refine ⟨hlast.drained, fun r hr => ?_⟩
    rcases List.mem_cons.mp hr with rfl | hr
    · exact hlast
    · exact hserved r hr

/-- **When invocations are served.**  In every run of requests each one makes the round trip and
is answered by its own block, with nothing left over, exactly when the FIDs and labels hold no
whitespace and no surrogate and the path of `pkU` is not spelled like a flag. -/
theorem served_iff_plain {h : List InvokeRecord} {s : ProxyState}
    (hr : Reach (invokeStep paths) ProxyState.initial h s) :
    (∀ r ∈ h, Served paths r) ↔ ∀ r ∈ h, r.input.Plain ∧ paths.NoFlag := by
  constructor
  · intro hserved r hmem
    exact plain_of_roundTrips (hserved r hmem).roundTrips
  · intro hplain
    refine (served_of_roundTrips hr fun r hmem => ?_).2
    obtain ⟨hreq, hpaths⟩ := hplain r hmem
    exact roundTrips_of_plain hreq hpaths

/-! ## A FID with a line end -/

theorem letter_noSpace {c : Char} (h : isSpaceChar c = false) :
    ∀ d ∈ [c], isSpaceChar d = false := by
  intro d hd
  rw [List.mem_singleton.mp hd]
  exact h

/-- A path of one letter. -/
def letterPath (c : Char) (h : isSpaceChar c = false) : Path :=
  ⟨[c], List.cons_ne_nil c [], letter_noSpace h⟩

/-- The name of a file in `samplePaths`. -/
def RequestFile.letter : RequestFile → Char
  | .input => 'i'
  | .cKFunc => 'f'
  | .cKey => 'k'
  | .pkU => 'p'
  | .nonce => 'n'

theorem RequestFile.letter_plain (f : RequestFile) : isSpaceChar f.letter = false := by
  cases f <;> rfl

theorem wasmLetter_plain : isSpaceChar 'w' = false := rfl

/-- Six files in the working directory. -/
def samplePaths : RuntimePaths where
  wasmFile := letterPath 'w' wasmLetter_plain
  file f := letterPath f.letter f.letter_plain

theorem singleton_ne_nil (p : CodePoint) : [p] ≠ [] := List.cons_ne_nil p []

theorem defaultFields_ne_nil (c : Char) (t : Text) : PyStr.ofText (c :: t) ≠ [] :=
  List.cons_ne_nil _ _

/-- A request with a FID, and short strings for the rest. -/
def requestFor (c : Char) (fid : Text) : RunRequest where
  fid := ⟨PyStr.ofText (c :: fid), defaultFields_ne_nil c fid⟩
  encryptedInput := ⟨[.scalar 'A'], singleton_ne_nil _⟩
  cKFunc := ⟨[.scalar 'A'], singleton_ne_nil _⟩
  cKey := ⟨[.scalar 'A'], singleton_ne_nil _⟩
  pkU := ⟨[.scalar 'A'], singleton_ne_nil _⟩
  nonce := ⟨[.scalar 'A'], singleton_ne_nil _⟩
  profile := lit "eccibe"
  label := ⟨lit "default_label", defaultLabel_ne_nil⟩
  outputCapacityBytes := ⟨defaultOutputCapacityBytes, defaultCapacity_inRange⟩

/-- A FID of two lines. -/
def splitRequest : RunRequest := requestFor 'a' ['\n', 'b']

/-- A FID of one letter. -/
def plainRequest : RunRequest := requestFor 'c' []

theorem plainStr_of_all {t : Text} (h : (t.all fun c => !isSpaceChar c) = true) :
    PlainStr (PyStr.ofText t) :=
  ⟨t, rfl, fun c hc => by simpa using List.all_eq_true.mp h c hc⟩

theorem plain_plainRequest : plainRequest.Plain where
  fid := plainStr_of_all (t := ['c']) (by decide +kernel)
  label := plainStr_of_all (t := "default_label".toList) (by decide +kernel)

theorem noFlag_samplePaths : samplePaths.NoFlag := by
  unfold RuntimePaths.NoFlag
  decide +kernel

/-- Two requests with plain FIDs are served one after the other. -/
theorem served_twice :
    ∃ r ∈ (runOn (invokeStep samplePaths) [] ProxyState.initial [plainRequest, plainRequest]).1,
      r.pre.invocations = 1 ∧ Served samplePaths r := by
  refine ⟨_, List.mem_cons_self, by decide +kernel, ?_⟩
  refine (served_iff_plain (reach_runOn _ [plainRequest, plainRequest] Reach.start)).mpr
    (fun r hr => ?_) _ List.mem_cons_self
  have hinput : r.input = plainRequest := by
    rcases List.mem_cons.mp hr with rfl | hr
    · rfl
    · rw [List.mem_singleton.mp hr]
  rw [hinput]
  exact ⟨plain_plainRequest, noFlag_samplePaths⟩

/-- **A FID of two lines** makes two blocks, and the second of them is the answer to the request
behind it. -/
theorem not_forall_served :
    ¬ (∀ h s, Reach (invokeStep samplePaths) ProxyState.initial h s →
      ∀ r ∈ h, Served samplePaths r) := by
  intro hall
  have hrun : Reach (invokeStep samplePaths) ProxyState.initial _ _ :=
    reach_runOn _ [splitRequest, plainRequest] Reach.start
  have hanswer : (invokeStep samplePaths
      (invokeStep samplePaths ProxyState.initial splitRequest).1 plainRequest).2 =
        .response ⟨.unknown, 0⟩ := by
    decide +kernel
  obtain ⟨args, -, hown⟩ := (hall _ _ hrun _ List.mem_cons_self).own
  have hown : (invokeStep samplePaths
      (invokeStep samplePaths ProxyState.initial splitRequest).1 plainRequest).2 =
        .response ⟨.invoke (.ok args), 1⟩ := hown
  rw [hanswer] at hown
  exact absurd hown (by simp)

end Proxy
end AsynCS
