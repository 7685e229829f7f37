import AsynCS.Proxy.CommandLine
import AsynCS.WorkerApp.ResponseText

/-!
# The pipe between the proxy and the worker

`_invoke_sgx_worker` writes a command and reads lines up to `END_RESPONSE`.  The pipe is opened in
text mode: `\r\n` and `\r` end a line like `\n`, and a line is decoded when it is read.

* `newlines`, `textLines`: the lines of a text for such a reader, against those that end at either
  byte; `textLines_sublist`.
* `Pipe`, `Pipe.write`, `readFrom`: the pipe, with the line that is still open.
* `WorkerChannel`, `frameStep`: commands on one worker process after another.
* `Framed`: the proxy read the response of its command, with the return code and the results that
  `do_invoke` returned and printed; `framed_of_quiet`.
-/

namespace AsynCS
namespace Proxy

open WorkerApp Worker

/-! ## Universal newlines -/

/-- The translation of line ends to `\n`, behind a `\r` or not. -/
def newlines : Bool → Bytes → Bytes
  | _, [] => []
  | afterCr, x :: t =>
    if x = 13 then 10 :: newlines true t
    else if x = 10 ∧ afterCr = true then newlines false t
    else x :: newlines false t

/-- The last byte of a text, or of what is before it, is `\r`. -/
def endsCr : Bool → Bytes → Bool
  | afterCr, [] => afterCr
  | _, x :: t => endsCr (x == 13) t

/-- The end of a line behind the translation. -/
def isNewline (b : UInt8) : Bool := b == 10

theorem newlines_append (afterCr : Bool) (a b : Bytes) :
    newlines afterCr (a ++ b) = newlines afterCr a ++ newlines (endsCr afterCr a) b := by
  induction a generalizing afterCr with
  | nil => rfl
  | cons x a ih =>
    rw [List.cons_append, newlines, newlines, endsCr]
    by_cases hcr : x = 13
    · rw [if_pos hcr, if_pos hcr, ih, hcr]
      rfl
    · have hx : (x == 13) = false := beq_eq_false_iff_ne.mpr hcr
      rw [if_neg hcr, if_neg hcr, hx]
      by_cases hskip : x = 10 ∧ afterCr = true
      · rw [if_pos hskip, if_pos hskip, ih]
      · rw [if_neg hskip, if_neg hskip, ih, List.cons_append]

/-- A text that does not begin with `\n` is translated alike behind a `\r`. -/
theorem newlines_of_head {b : Bytes} (h : b.head? ≠ some 10) (afterCr : Bool) :
    newlines afterCr b = newlines false b := by
  cases b with
  | nil => rfl
  | cons x b =>
    have hx : x ≠ 10 := fun e => h (by rw [e]; rfl)
    rw [newlines, newlines]
    simp only [hx, false_and, if_false]

theorem isNewline_newline : isNewline 10 = true := rfl

theorem isLineEnd_return : isLineEnd 13 = true := rfl

/-- A text without `\r` is not changed. -/
theorem newlines_of_no_cr {b : Bytes} (h : (13 : UInt8) ∉ b) :
    newlines false b = b ∧ endsCr false b = false := by
  induction b with
  | nil => exact ⟨rfl, rfl⟩
  | cons x b ih =>
    have hx : x ≠ 13 := fun e => h (e ▸ List.mem_cons_self)
    obtain ⟨htext, hend⟩ := ih fun hmem => h (List.mem_cons_of_mem x hmem)
    rw [newlines, endsCr, if_neg hx, if_neg (by simp), htext, beq_eq_false_iff_ne.mpr hx]
    exact ⟨rfl, hend⟩

/-- **The lines behind the translation** are among those that end at either byte, and the same
line is left open. -/
theorem textLines_sublist (afterCr : Bool) {p : Bytes} (hp : afterCr = true → p = []) (t : Bytes) :
    List.Sublist (scan isNewline p (newlines afterCr t)).1 (scan isLineEnd p t).1 ∧
      (scan isNewline p (newlines afterCr t)).2 = (scan isLineEnd p t).2 := by
  induction t generalizing afterCr p with
  | nil => exact ⟨List.Sublist.refl _, rfl⟩
  | cons x t ih =>
    rw [newlines]
    by_cases hcr : x = 13
    · obtain ⟨hlines, hrest⟩ := ih true (p := []) fun _ => rfl
      rw [if_pos hcr, hcr, scan_cons_of_end isNewline_newline,
        scan_cons_of_end isLineEnd_return]
      exact ⟨hlines.cons_cons p, hrest⟩
    · rw [if_neg hcr]
      by_cases hlf : x = 10
      · obtain ⟨hlines, hrest⟩ := ih false (p := []) fun h => absurd h Bool.false_ne_true
        rw [hlf, scan_cons_of_end isLineEnd_newline]
        cases afterCr with
        | true =>
          -- the `\n` of a `\r\n`: the line that it would end is empty
          obtain rfl := hp rfl
          rw [if_pos ⟨rfl, rfl⟩]
          exact ⟨hlines.cons [], hrest⟩
        | false =>
          rw [if_neg (by simp), scan_cons_of_end isNewline_newline]
          exact ⟨hlines.cons_cons p, hrest⟩
      · have hnot : isLineEnd x = false := by simp [isLineEnd, hlf, hcr]
        have hnot' : isNewline x = false := by simp [isNewline, hlf]
        rw [if_neg (fun h => hlf h.1), scan_cons_of_not hnot', scan_cons_of_not hnot]
        exact ih false fun h => absurd h Bool.false_ne_true

/-- The lines of a text for a reader in text mode. -/
def textLines (t : Bytes) : List Bytes := (scan isNewline [] (newlines false t)).1

/-! ## The pipe -/

/-- The output of a worker that the proxy has not read: complete lines, the line that is still
open, and whether a `\r` was the last byte. -/
structure Pipe where
  lines : List Bytes
  rest : Bytes
  afterCr : Bool

/-- The pipe of a new process. -/
def Pipe.empty : Pipe := ⟨[], [], false⟩

/-- The worker writes. -/
def Pipe.write (p : Pipe) (b : Bytes) : Pipe where
  lines := p.lines ++ (scan isNewline p.rest (newlines p.afterCr b)).1
  rest := (scan isNewline p.rest (newlines p.afterCr b)).2
  afterCr := endsCr p.afterCr b

/-- How the loop of `_invoke_sgx_worker` ends. -/
inductive Reading where
  /-- with `END_RESPONSE`, and the lines up to it -/
  | ended (lines : List Text)
  /-- with the end of the output -/
  | exhausted (lines : List Text)
  | undecodable
  /-- it waits for a line -/
  | waits
  deriving DecidableEq

/-- The loop, with the lines it has; an open line is read when the worker has exited. -/
def readFrom (exited : Bool) (rest : Bytes) (read : List Text) : List Bytes → Reading × List Bytes
  | [] =>
    if exited then
      if rest = [] then (.exhausted read, [])
      else
        match utf8Decode rest with
        | none => (.undecodable, [])
        | some t => (if t = endResponse then .ended (read ++ [t]) else .exhausted (read ++ [t]), [])
    else (.waits, [])
  | l :: ls =>
    match utf8Decode l with
    | none => (.undecodable, ls)
    | some t =>
      if t = endResponse then (.ended (read ++ [t]), ls) else readFrom exited rest (read ++ [t]) ls

theorem utf8Decode_utf8 (t : Text) : utf8Decode (utf8 t) = some t := utf8Decode_eq_some_iff.mpr rfl

/-- Lines before the end of a response. -/
theorem readFrom_append {ts : List Text} (h : endResponse ∉ ts) (exited : Bool) (rest : Bytes)
    (read : List Text) (ls : List Bytes) :
    readFrom exited rest read (ts.map utf8 ++ ls) = readFrom exited rest (read ++ ts) ls := by
  induction ts generalizing read with
  | nil => rw [List.append_nil, List.map_nil, List.nil_append]
  | cons t ts ih =>
    have ht : t ≠ endResponse := fun e => h (e ▸ List.mem_cons_self)
    rw [List.map_cons, List.cons_append, readFrom, utf8Decode_utf8]
    simp only [if_neg ht]
    rw [ih (fun hmem => h (List.mem_cons_of_mem t hmem)), List.append_assoc, List.singleton_append]

/-- **The end of a response** is found where the worker wrote it. -/
theorem readFrom_ended {ts : List Text} (h : endResponse ∉ ts) (exited : Bool) (rest : Bytes)
    (ls : List Bytes) :
    readFrom exited rest [] ((ts ++ [endResponse]).map utf8 ++ ls) =
      (.ended (ts ++ [endResponse]), ls) := by
  rw [List.map_append, List.append_assoc, readFrom_append h, List.nil_append, List.map_cons,
    List.map_nil, List.singleton_append, readFrom, utf8Decode_utf8]
  simp only [if_true]

/-- The output of a worker that exited in a response. -/
theorem readFrom_exhausted {ts : List Text} (h : endResponse ∉ ts) {rest : Bytes}
    (hvalid : ValidUtf8 rest) (hrest : utf8Decode rest ≠ some endResponse) :
    ∃ lines, readFrom true rest [] (ts.map utf8) = (.exhausted lines, []) := by
  have happend := readFrom_append h true rest [] []
  rw [List.append_nil, List.nil_append] at happend
  rw [happend, readFrom, if_pos rfl]
  by_cases hnil : rest = []
  · exact ⟨ts, by rw [if_pos hnil]⟩
  · obtain ⟨t, ht, -⟩ := hvalid.utf8Decode
    have hne : t ≠ endResponse := fun e => hrest (e ▸ ht)
    rw [if_neg hnil, ht]
    exact ⟨ts ++ [t], by simp only [if_neg hne]⟩

/-! ## Commands on a worker -/

/-- A worker process: the profile it was started with, the enclave, its output, and whether it has
exited. -/
structure WorkerChannel where
  profile : PyStr
  worker : Globals
  pipe : Pipe
  exited : Bool

/-- A process that runs for the profile is kept, and any other is replaced by a new one, whose
output up to `SERVER_READY` is read when it is started. -/
def channelFor (profile : PyStr) : Option WorkerChannel → WorkerChannel
  | some c =>
    if c.exited = false ∧ c.profile = profile then c
    else ⟨profile, Globals.initial, Pipe.empty, false⟩
  | none => ⟨profile, Globals.initial, Pipe.empty, false⟩

/-- What `_invoke_sgx_worker` comes back with. -/
inductive FrameReply where
  /-- the lines that it read, and what the parser made of them -/
  | response (lines : List Text) (parsed : Except ResponseError WorkerResponse)
  /-- the worker exited -/
  | exited (lines : List Text)
  | undecodable
  | waits

/-- The reply after a loop that ended so. -/
def Reading.reply : Reading → FrameReply
  | ended lines => .response lines (parseWorkerResponse lines)
  | exhausted lines => .exited lines
  | undecodable => .undecodable
  | waits => .waits

/-- A command, with the profile it asks for. -/
structure FrameInput where
  profile : PyStr
  command : InvokeCommand

variable {S : Sgx} {B : Bfibe}

/-- What the worker does with the command: its enclave, the return code, and what it prints. -/
def served (S : Sgx) (B : Bfibe) (s : Option WorkerChannel) (i : FrameInput) :
    Globals × Option Int × List HostEvent :=
  serveInvoke S B i.command.env (channelFor i.profile s).worker i.command.parsed

/-- `_invoke_sgx_worker`: the worker answers, and the proxy reads up to the first
`END_RESPONSE`. -/
def frameStep (S : Sgx) (B : Bfibe) (s : Option WorkerChannel) (i : FrameInput) :
    Option WorkerChannel × FrameReply :=
  let o := served S B s i
  let pipe := (channelFor i.profile s).pipe.write (responseBytes o.2.1 o.2.2)
  let r := readFrom o.2.1.isNone pipe.rest [] pipe.lines
  (some ⟨i.profile, o.1, { pipe with lines := r.2 }, o.2.1.isNone⟩, r.1.reply)

/-- A recorded command. -/
abbrev FrameRecord := Record (Option WorkerChannel) FrameInput FrameReply

/-- **A framed command.**  When `do_invoke` returned, the proxy read the lines of this response,
its return code, and the results that were printed; when the process exited, it read no response. -/
structure Framed (S : Sgx) (B : Bfibe) (r : FrameRecord) : Prop where
  response : ∀ n, (served S B r.pre r.input).2.1 = some n → ∃ lines parsed,
    r.output = .response lines (.ok parsed) ∧
      lines.map utf8 = textLines (responseBytes (some n) (served S B r.pre r.input).2.2) ∧
      parsed.rc = n ∧ ∀ key ∈ resultKeys,
        (parsed.markers key).map utf8 = lastPrinted key (served S B r.pre r.input).2.2
  exit : (served S B r.pre r.input).2.1 = none → ∃ lines, r.output = .exited lines

/-! ## Texts of lines -/

/-- Lines one after the other. -/
theorem textLines_append {a b : Bytes} (ha : Closed isLineEnd a)
    (hb : endsCr false a = false ∨ b.head? ≠ some 10) :
    textLines (a ++ b) = textLines a ++ textLines b := by
  have hnewlines : newlines (endsCr false a) b = newlines false b := by
    rcases hb with hend | hhead
    · rw [hend]
    · exact newlines_of_head hhead _
  have hrest : (scan isNewline [] (newlines false a)).2 = [] :=
    (textLines_sublist false (fun _ => rfl) a).2.trans ha
  rw [textLines, newlines_append, hnewlines, scan_append, hrest]
  rfl

/-- Lines of printable text. -/
theorem textLines_lines {ls : List Bytes} (h : ∀ l ∈ ls, ∀ x ∈ l, isLineEnd x = false) :
    textLines (ls.flatMap fun l => l ++ [10]) = ls := by
  have hcr : (13 : UInt8) ∉ ls.flatMap fun l => l ++ [10] := by
    intro hmem
    obtain ⟨l, hl, hx⟩ := List.mem_flatMap.mp hmem
    rcases List.mem_append.mp hx with hx | hx
    · exact absurd (h l hl 13 hx) (by decide)
    · exact absurd (List.mem_singleton.mp hx) (by decide)
  have hline : ∀ l ∈ ls, ∀ x ∈ l, isNewline x = false := by
    intro l hl x hx
    have hnot := h l hl x hx
    exact (Bool.or_eq_false_iff.mp hnot).1
  rw [textLines, (newlines_of_no_cr hcr).1, scan_lines hline rfl]

/-- Harmless text has valid lines, and none with a meaning. -/
theorem textLines_harmless {b : Bytes} (h : HarmlessText b) :
    (∀ l ∈ textLines b, ValidUtf8 l ∧ ¬ Meaningful l) ∧
      ValidUtf8 (scan isNewline [] (newlines false b)).2 ∧
        ((scan isNewline [] (newlines false b)).2 = [] ∨
          Dead Meaningful (scan isNewline [] (newlines false b)).2) := by
  obtain ⟨hsub, hrest⟩ := textLines_sublist false (p := []) (fun _ => rfl) b
  have hsplit : ∀ a e c, isLineEnd e = true → ValidUtf8 (a ++ e :: c) →
      ValidUtf8 a ∧ ValidUtf8 c := by
    intro a e c he hvalid
    have hcode := isLineEnd_iff.mp he
    exact hvalid.split (by omega)
  obtain ⟨hlines, hopen⟩ := forall_mem_scan hsplit (p := []) h.valid
  rw [hrest]
  exact ⟨fun l hl => ⟨hlines l (hsub.subset hl), h.harmless.lines l (hsub.subset hl)⟩, hopen,
    h.harmless.rest⟩

/-- A line without a meaning, as a text. -/
theorem exists_text_of_harmless {l : Bytes} (h : ValidUtf8 l ∧ ¬ Meaningful l) :
    ∃ t, utf8 t = l ∧ ¬ Unframing t ∧ ∀ key ∈ resultKeys, valueOf key t = none := by
  obtain ⟨⟨t, ht⟩, hnot⟩ := h
  refine ⟨t, ht, fun hframe => hnot ⟨t, ht, Or.inl hframe⟩, fun key hkey => if_neg fun hprefixed => ?_⟩
  exact hnot ⟨t, ht, Or.inr ⟨key, hkey, hprefixed⟩⟩

/-- The value of a printed line. -/
theorem printedValue_utf8 (key t : Text) :
    printedValue key (.line (utf8 t)) =
      if key ++ [':'] <+: t then some (utf8 (t.drop (key.length + 1))) else none := by
  rw [printedValue]
  by_cases h : key ++ [':'] <+: t
  · obtain ⟨v, rfl⟩ := h
    have hprefixed : utf8 (key ++ [':']) <+: utf8 (key ++ [':'] ++ v) :=
      ⟨utf8 v, (utf8_append _ v).symm⟩
    have hlen : key.length + 1 = (key ++ [':']).length := by
      rw [List.length_append, List.length_singleton]
    rw [if_pos hprefixed, if_pos (List.prefix_append _ v), hlen, List.drop_left, utf8_append _ v,
      List.drop_left]
  · rw [if_neg h, if_neg fun hprefixed => h (prefix_of_utf8 hprefixed)]

/-- The digits of bytes are not stripped. -/
theorem exists_hexText (b : Bytes) :
    ∃ t, utf8 t = hexEncode b ∧ stripWhile isUnicodeSpace t = t := by
  have hascii : ∀ x ∈ hexEncode b, x.toNat < 128 := fun x hx => by
    have hplain := plain_hexEncode b x hx
    omega
  refine ⟨(hexEncode b).map fun x => Char.ofNat x.toNat, utf8_map_ofNat hascii, ?_⟩
  have hstrip : (PyStr.hex b).strip = PyStr.hex b :=
    PyStr.strip_of_digits fun a ha => PyStr.digit_of_mem_hex ha
  rw [PyStr.hex, PyStr.strip_ofText] at hstrip
  exact List.map_injective_iff.mpr (fun c d h => CodePoint.scalar.inj h) hstrip

theorem colon_not_mem_resultKeys {key : Text} (hkey : key ∈ resultKeys) :
    ':' ∉ key ∧ key ≠ ['R', 'C'] := by
  rw [resultKeys, String.toList_ofList, String.toList_ofList, String.toList_ofList] at hkey
  simp only [List.mem_cons, List.not_mem_nil, or_false] at hkey
  rcases hkey with rfl | rfl | rfl
  · exact ⟨by decide, by decide⟩
  · exact ⟨by decide, by decide⟩
  · exact ⟨by decide, by decide⟩

/-- A line behind a run, as a text: it is not unframing, and the parser takes from it what was
printed. -/
theorem exists_text_of_resultLine {b : Bytes} (h : ResultLine b) :
    ∃ t, utf8 t = b ∧ ¬ Unframing t ∧
      ∀ key ∈ resultKeys, (valueOf key t).map utf8 = printedValue key (.line b) := by
  cases h with
  | @named l z hl hz =>
    obtain ⟨v, rfl⟩ := hz.valid
    have hprefixed : l.take 3 <+: l ++ v := (List.take_prefix 3 l).trans (List.prefix_append l v)
    have hnot : ¬ Meaningful (utf8 (l ++ v)) := not_meaningful_of_apart hl.1 hprefixed
    obtain ⟨t, ht, hframe, hvalue⟩ := exists_text_of_harmless ⟨⟨_, rfl⟩, hnot⟩
    obtain rfl := utf8_injective ht
    rw [← utf8_append]
    refine ⟨l ++ v, rfl, hframe, fun key hkey => ?_⟩
    rw [hvalue key hkey, printedValue_utf8, if_neg]
    · rfl
    · intro h
      exact hnot ⟨_, rfl, Or.inr ⟨key, hkey, h⟩⟩
  | @result key' hkey' value =>
    obtain ⟨v, hv, hstrip⟩ := exists_hexText value
    obtain ⟨hcolon, hrc⟩ := colon_not_mem_resultKeys hkey'
    rw [← hv, ← utf8_append, List.append_assoc, List.singleton_append]
    have hbefore := (beforeColon_append hcolon v).1
    refine ⟨key' ++ ':' :: v, rfl, ?_, fun key hkey => ?_⟩
    · rintro (hend | ⟨hisRc, -⟩)
      · have hmem : ':' ∈ endResponse :=
          hend ▸ List.mem_append_right key' List.mem_cons_self
        rw [endResponse_eq] at hmem
        exact absurd hmem (by decide)
      · obtain ⟨w, hw⟩ := isRc_iff.mp hisRc
        have hkeyRc := (beforeColon_append (show ':' ∉ ['R', 'C'] by decide) w).1
        rw [← hw] at hbefore
        exact hrc (hbefore.symm.trans hkeyRc)
    · rw [printedValue_utf8, valueOf]
      by_cases hprefixed : key ++ [':'] <+: key' ++ ':' :: v
      · rw [if_pos hprefixed, if_pos hprefixed]
        obtain ⟨w, hw⟩ := hprefixed
        rw [List.append_assoc, List.singleton_append] at hw
        have hk := (beforeColon_append (colon_not_mem_resultKeys hkey).1 w).1
        rw [hw, hbefore] at hk
        obtain rfl := hk
        have hdrop : (key' ++ ':' :: v).drop (key'.length + 1) = v := by
          rw [← List.singleton_append, ← List.append_assoc]
          exact List.drop_left' (by rw [List.length_append, List.length_singleton])
        rw [hdrop, hstrip]
        rfl
      · rw [if_neg hprefixed, if_neg hprefixed]
        rfl

/-! ## The text of a response -/

/-- Texts of lines with a property. -/
theorem exists_texts {Q : Bytes → Text → Prop} {ls : List Bytes}
    (h : ∀ b ∈ ls, ∃ t, utf8 t = b ∧ Q b t) :
    ∃ ts : List Text, ts.map utf8 = ls ∧ ∀ t ∈ ts, Q (utf8 t) t := by
  induction ls with
  | nil => exact ⟨[], rfl, fun t ht => absurd ht List.not_mem_nil⟩
  | cons b ls ih =>
    obtain ⟨t, rfl, ht⟩ := h b List.mem_cons_self
    obtain ⟨ts, rfl, hts⟩ := ih fun b' hb' => h b' (List.mem_cons_of_mem _ hb')
    refine ⟨t :: ts, rfl, fun t' ht' => ?_⟩
    rcases List.mem_cons.mp ht' with rfl | ht'
    · exact ht
    · exact hts t' ht'

theorem utf8_beginResponse : ascii "BEGIN_RESPONSE" = utf8 beginResponse :=
  ascii_eq rfl (PlainChars.ascii (by rw [beginResponse_eq]; decide))

theorem utf8_endResponse : ascii "END_RESPONSE" = utf8 endResponse :=
  ascii_eq rfl (PlainChars.ascii (by rw [endResponse_eq]; decide))

theorem noEnd_begin : ∀ x ∈ ascii "BEGIN_RESPONSE", isLineEnd x = false :=
  (plain_ascii String.toList_ofList (by decide)).noEnd

/-- The line with the return code. -/
theorem exists_rcLine {n : Int} (hn : n = 0 ∨ n = -1) :
    ∃ t, utf8 t = ascii "RC:" ++ ascii (toString n) ∧ isRc t = true ∧ rcOf t = some n := by
  rcases hn with rfl | rfl
  · refine ⟨['R', 'C', ':', '0'], ?_, isRc_iff.mpr (by decide), by decide⟩
    decide
  · refine ⟨['R', 'C', ':', '-', '1'], ?_, isRc_iff.mpr (by decide), by decide⟩
    decide

/-- Printable text that is not empty. -/
structure LineText (b : Bytes) : Prop where
  plain : Plain b
  ne_nil : b ≠ []

theorem lineText_utf8 {l : Text} (h : PlainChars l) (hne : l ≠ []) : LineText (utf8 l) :=
  ⟨h.plain, utf8_ne_nil hne⟩

theorem LineText.append {a b : Bytes} (ha : LineText a) (hb : Plain b) : LineText (a ++ b) :=
  ⟨ha.plain.append hb, List.append_ne_nil_of_left_ne_nil ha.ne_nil b⟩

/-- A line of results is printable. -/
theorem lineText_resultLine {b : Bytes} (h : ResultLine b) : LineText b := by
  cases h with
  | named hl hz =>
    refine (lineText_utf8 hl.2 ?_).append hz
    rintro rfl
    exact hl.1.1 List.nil_prefix
  | @result key hkey value =>
    refine LineText.append ?_ (plain_hexEncode value)
    rw [resultKeys, String.toList_ofList, String.toList_ofList, String.toList_ofList] at hkey
    simp only [List.mem_cons, List.not_mem_nil, or_false] at hkey
    rcases hkey with rfl | rfl | rfl
    · exact lineText_utf8 (by decide) (by simp)
    · exact lineText_utf8 (by decide) (by simp)
    · exact lineText_utf8 (by decide) (by simp)

theorem lineText_rcLine {n : Int} (hn : n = 0 ∨ n = -1) :
    LineText (ascii "RC:" ++ ascii (toString n)) := by
  have hrc : LineText (ascii "RC:") :=
    ⟨plain_ascii String.toList_ofList (by decide), by decide⟩
  refine hrc.append ?_
  rcases hn with rfl | rfl
  · decide
  · decide

/-- Lines of printable text do not begin with a line end. -/
theorem head_lines {ls : List Bytes} (h : ∀ l ∈ ls, LineText l) :
    (ls.flatMap fun l => l ++ [10]).head? ≠ some 10 := by
  cases ls with
  | nil => simp
  | cons l ls =>
    have hl := h l List.mem_cons_self
    cases l with
    | nil => exact absurd rfl hl.ne_nil
    | cons x l =>
      intro hhead
      have hx : x = 10 := Option.some.inj hhead
      have hten := hl.plain x List.mem_cons_self
      rw [hx] at hten
      exact absurd hten.1 (by decide)

/-- The bytes of a response that comes to its end. -/
theorem responseBytes_some (n : Int) (before : List HostEvent) (ls : List Bytes) :
    responseBytes (some n) (before ++ ls.map .line) =
      (ascii "BEGIN_RESPONSE" ++ [10]) ++ (textOf before ++
        (ls ++ [ascii "RC:" ++ ascii (toString n), ascii "END_RESPONSE"]).flatMap
          fun l => l ++ [10]) := by
  rw [List.flatMap_append, ← textOf_lines ls, ← List.append_assoc (textOf before), ← textOf_append]
  show textOf (HostEvent.line (ascii "BEGIN_RESPONSE") :: (before ++ ls.map .line) ++
    [.line (ascii "RC:" ++ ascii (toString n)), .line (ascii "END_RESPONSE")]) = _
  rw [List.cons_append, ← List.singleton_append, textOf_append, textOf_append, ← List.append_assoc]
  rfl

/-- The first line of a response. -/
theorem textLines_begin (b : Bytes) :
    textLines (ascii "BEGIN_RESPONSE" ++ [10] ++ b) = utf8 beginResponse :: textLines b := by
  have hclosed : Closed isLineEnd (ascii "BEGIN_RESPONSE" ++ [10]) :=
    closed_line noEnd_begin isLineEnd_newline
  have hone : textLines (ascii "BEGIN_RESPONSE" ++ [10]) = [ascii "BEGIN_RESPONSE"] := by
    have hnoEnd : ∀ l ∈ [ascii "BEGIN_RESPONSE"], ∀ x ∈ l, isLineEnd x = false :=
      fun l hl => List.mem_singleton.mp hl ▸ noEnd_begin
    have hlines := textLines_lines hnoEnd
    rwa [List.flatMap_cons, List.flatMap_nil, List.append_nil] at hlines
  rw [textLines_append hclosed (Or.inl (by decide)), hone, utf8_beginResponse]
  rfl

/-- What is left open by a text is what is left open behind closed ones. -/
theorem textRest_append {a : Bytes} (ha : Closed isLineEnd a) (b : Bytes) :
    (scan isNewline [] (newlines false (a ++ b))).2 = (scan isLineEnd [] b).2 := by
  rw [(textLines_sublist false (fun _ => rfl) _).2, scan_append_of_closed ha]

/-- **The lines of a response**: those that the texts complete, those of the results, and the two
at its end. -/
theorem lines_responseBytes {n : Int} {printed : List HostEvent}
    (h : Answered (some n) printed) :
    ∃ ts : List Text, (∀ t ∈ ts, ¬ Unframing t) ∧
      (∀ key ∈ resultKeys, (lastValue key ts).map utf8 = lastPrinted key printed) ∧
      ∃ last, isRc last = true ∧ rcOf last = some n ∧
        textLines (responseBytes (some n) printed) =
          (beginResponse :: (ts ++ [last, endResponse])).map utf8 ∧
        (scan isNewline [] (newlines false (responseBytes (some n) printed))).2 = [] := by
  obtain ⟨before, ls, rfl, hmuted, hresult, hclosed, -⟩ := h.shape
  have hclosed := hclosed (by simp)
  obtain ⟨last, hlast, hisRc, hrc⟩ := exists_rcLine (h.rc n rfl)
  have hinside : ∀ l ∈ ls ++ [ascii "RC:" ++ ascii (toString n), ascii "END_RESPONSE"],
      LineText l := by
    intro l hl
    rcases List.mem_append.mp hl with hl | hl
    · exact lineText_resultLine (hresult l hl)
    · simp only [List.mem_cons, List.not_mem_nil, or_false] at hl
      rcases hl with rfl | rfl
      · exact lineText_rcLine (h.rc n rfl)
      · exact ⟨plain_ascii String.toList_ofList (by decide), by decide⟩
  have hnoEnd := fun l hl => (hinside l hl).plain.noEnd
  -- the lines of the texts, and those of the results
  obtain ⟨quiet, hquiet, hquietText⟩ := exists_texts fun l hl =>
    exists_text_of_harmless ((textLines_harmless hmuted.harmless).1 l hl)
  obtain ⟨results, hresults, hresultText⟩ := exists_texts fun b hb =>
    exists_text_of_resultLine (hresult b hb)
  have hvalues : ∀ key ∈ resultKeys,
      (lastValue key (quiet ++ results)).map utf8 = lastPrinted key (before ++ ls.map .line) := by
    intro key hkey
    have hnone : quiet.filterMap (valueOf key) = [] :=
      List.filterMap_eq_nil_iff.mpr fun t ht => (hquietText t ht).2 key hkey
    have hmap : (results.filterMap (valueOf key)).map utf8 =
        (ls.map HostEvent.line).filterMap (printedValue key) := by
      rw [List.map_filterMap, ← hresults, List.filterMap_map, List.filterMap_map]
      exact List.filterMap_congr fun t ht => (hresultText t ht).2 key hkey
    rw [lastValue, lastPrinted, List.filterMap_append, List.filterMap_append, hnone,
      hmuted.values key hkey, List.nil_append, List.nil_append, ← hmap, List.getLast?_map]
  refine ⟨quiet ++ results, fun t ht => ?_, hvalues, last, hisRc, hrc, ?_, ?_⟩
  · rcases List.mem_append.mp ht with ht | ht
    · exact (hquietText t ht).1
    · exact (hresultText t ht).1
  · rw [responseBytes_some, textLines_begin, textLines_append hclosed (Or.inr (head_lines hinside)),
      textLines_lines hnoEnd, ← hquiet, ← hresults, ← hlast, utf8_endResponse]
    simp only [List.map_cons, List.map_append, List.map_nil, List.append_assoc]
  · have hclosedAll : Closed isLineEnd (textOf before ++
        (ls ++ [ascii "RC:" ++ ascii (toString n), ascii "END_RESPONSE"]).flatMap
          fun l => l ++ [10]) := by
      refine hclosed.append ?_
      rw [Closed, scan_lines hnoEnd isLineEnd_newline]
    rw [responseBytes_some, textRest_append (closed_line noEnd_begin isLineEnd_newline)]
    exact hclosedAll

/-! ## Commands one after the other -/

/-- Nothing is left to read of a process that runs. -/
def ChannelDrained (s : Option WorkerChannel) : Prop :=
  ∀ c, s = some c → c.exited = false → c.pipe = Pipe.empty

theorem pipe_channelFor {s : Option WorkerChannel} (h : ChannelDrained s) (profile : PyStr) :
    (channelFor profile s).pipe = Pipe.empty := by
  cases s with
  | none => rfl
  | some c =>
    by_cases hkeep : c.exited = false ∧ c.profile = profile
    · rw [channelFor, if_pos hkeep]
      exact h c rfl hkeep.1
    · rw [channelFor, if_neg hkeep]

theorem endsCr_append (afterCr : Bool) (a b : Bytes) :
    endsCr afterCr (a ++ b) = endsCr (endsCr afterCr a) b := by
  induction a generalizing afterCr with
  | nil => rfl
  | cons x a ih => exact ih _

/-- What is written to an empty pipe. -/
theorem write_empty (b : Bytes) :
    Pipe.empty.write b =
      ⟨textLines b, (scan isNewline [] (newlines false b)).2, endsCr false b⟩ := rfl

/-- A response ends with a line feed. -/
theorem endsCr_responseBytes (n : Int) (before : List HostEvent) (ls : List Bytes) :
    endsCr false (responseBytes (some n) (before ++ ls.map .line)) = false := by
  rw [responseBytes_some, List.flatMap_append, List.flatMap_cons, List.flatMap_cons,
    List.flatMap_nil, List.append_nil]
  simp only [endsCr_append]
  rfl

/-- **A response that comes to its end** leaves nothing to read. -/
theorem read_some {n : Int} {printed : List HostEvent} (h : Answered (some n) printed) :
    ∃ lines parsed,
      readFrom false (Pipe.empty.write (responseBytes (some n) printed)).rest []
          (Pipe.empty.write (responseBytes (some n) printed)).lines = (.ended lines, []) ∧
        { Pipe.empty.write (responseBytes (some n) printed) with lines := [] } = Pipe.empty ∧
        parseWorkerResponse lines = .ok parsed ∧
        lines.map utf8 = textLines (responseBytes (some n) printed) ∧ parsed.rc = n ∧
        ∀ key ∈ resultKeys, (parsed.markers key).map utf8 = lastPrinted key printed := by
  obtain ⟨ts, hts, hvalues, last, hisRc, hrc, hlines, hrest⟩ := lines_responseBytes h
  obtain ⟨parsed, hparsed, hn, hmarkers⟩ := parseWorkerResponse_framed hts hisRc hrc
  have hnot : endResponse ∉ beginResponse :: (ts ++ [last]) := by
    intro hmem
    rcases List.mem_cons.mp hmem with heq | hmem
    · rw [endResponse_eq, beginResponse_eq] at heq
      exact absurd heq (by decide)
    · rcases List.mem_append.mp hmem with hmem | hmem
      · exact hts _ hmem (Or.inl rfl)
      · exact (ne_of_isRc hisRc).2 (List.mem_singleton.mp hmem).symm
  have hread := readFrom_ended hnot false [] []
  have hend : endsCr false (responseBytes (some n) printed) = false := by
    obtain ⟨before, ls, rfl, -⟩ := h.shape
    exact endsCr_responseBytes n before ls
  refine ⟨beginResponse :: (ts ++ [last, endResponse]), parsed, ?_, ?_, hparsed, hlines.symm, hn,
    fun key hkey => ?_⟩
  · rw [write_empty, hlines, hrest]
    rw [List.append_nil, List.cons_append, List.append_assoc, List.singleton_append] at hread
    exact hread
  · rw [write_empty, hrest, hend]
    rfl
  · obtain ⟨hcolon, hne⟩ := colon_not_mem_resultKeys hkey
    rw [hmarkers key hcolon hne]
    exact hvalues key hkey

/-- **A response in which the process exits** has no end. -/
theorem read_none {printed : List HostEvent} (h : Answered none printed) :
    ∃ lines,
      readFrom true (Pipe.empty.write (responseBytes none printed)).rest []
          (Pipe.empty.write (responseBytes none printed)).lines = (.exhausted lines, []) := by
  obtain ⟨before, ls, rfl, hmuted, -, -, hnil⟩ := h.shape
  obtain rfl := hnil rfl
  have hbytes : responseBytes none (before ++ ([] : List Bytes).map .line) =
      ascii "BEGIN_RESPONSE" ++ [10] ++ textOf before := by
    rw [List.map_nil, List.append_nil]
    show textOf (HostEvent.line (ascii "BEGIN_RESPONSE") :: before ++ []) = _
    rw [List.append_nil, ← List.singleton_append, textOf_append]
    rfl
  obtain ⟨hlines, hvalid, hrest⟩ := textLines_harmless hmuted.harmless
  obtain ⟨quiet, hquiet, hquietText⟩ := exists_texts fun l hl => exists_text_of_harmless (hlines l hl)
  have hopen := (textLines_sublist false (p := []) (fun _ => rfl) (textOf before)).2
  rw [hopen] at hvalid hrest
  have hnot : endResponse ∉ beginResponse :: quiet := by
    intro hmem
    rcases List.mem_cons.mp hmem with heq | hmem
    · rw [endResponse_eq, beginResponse_eq] at heq
      exact absurd heq (by decide)
    · exact (hquietText _ hmem).1 (Or.inl rfl)
  have hdecode : utf8Decode (scan isLineEnd [] (textOf before)).2 ≠ some endResponse := by
    intro hdecode
    have hutf8 := utf8Decode_eq_some_iff.mp hdecode
    rcases hrest with hnil | hdead
    · rw [hnil] at hutf8
      exact utf8_ne_nil (by rw [endResponse_eq]; simp) hutf8
    · exact hdead.not ⟨endResponse, hutf8, Or.inl (Or.inl rfl)⟩
  obtain ⟨lines, hread⟩ := readFrom_exhausted hnot hvalid hdecode
  refine ⟨lines, ?_⟩
  rw [hbytes, write_empty, textLines_begin,
    textRest_append (closed_line noEnd_begin isLineEnd_newline), ← hquiet]
  exact hread

/-- **One command** on a process with nothing to read. -/
theorem framed_step {s : Option WorkerChannel} (hs : ChannelDrained s) (i : FrameInput)
    (h : InvokeQuiet i.command.env) :
    Framed S B ⟨s, i, (frameStep S B s i).2⟩ ∧ ChannelDrained (frameStep S B s i).1 := by
  have hanswered := answered_serveInvoke (S := S) (B := B) i.command h
    (channelFor i.profile s).worker
  have hserved : serveInvoke S B i.command.env (channelFor i.profile s).worker i.command.parsed =
      served S B s i := rfl
  rw [hserved] at hanswered
  have hpipe := pipe_channelFor hs i.profile
  cases hrc : (served S B s i).2.1 with
  | none =>
    rw [hrc] at hanswered
    obtain ⟨lines, hread⟩ := read_none hanswered
    refine ⟨⟨fun n hn => absurd (hrc.symm.trans hn) (by simp), fun _ => ⟨lines, ?_⟩⟩,
      fun c hc hexited => ?_⟩
    · simp only [frameStep, hpipe, hrc, Option.isNone_none, hread]
      rfl
    · obtain rfl := Option.some.inj hc
      rw [hrc] at hexited
      exact absurd hexited (by simp)
  | some n =>
    rw [hrc] at hanswered
    obtain ⟨lines, parsed, hread, hdrained, hparsed, hlines, hn, hmarkers⟩ := read_some hanswered
    refine ⟨⟨fun m hm => ?_, fun h => absurd (hrc.symm.trans h) (by simp)⟩, fun c hc _ => ?_⟩
    · obtain rfl := Option.some.inj (hrc.symm.trans hm)
      refine ⟨lines, parsed, ?_, hlines, hn, hmarkers⟩
      simp only [frameStep, hpipe, hrc, Option.isNone_some, hread, Reading.reply, hparsed]
    · obtain rfl := Option.some.inj hc
      simp only [hpipe, hrc, Option.isNone_some, hread]
      exact hdrained

/-- **Runs.**  While the texts of the platform and of the programs have no line with a meaning, and
what a program that succeeds writes ends with a line end, every command of a run is framed. -/
theorem framed_of_quiet {h : List FrameRecord} {s : Option WorkerChannel}
    (hr : Reach (frameStep S B) none h s) (hquiet : ∀ r ∈ h, InvokeQuiet r.input.command.env) :
    ∀ r ∈ h, Framed S B r := by
  have hall : ChannelDrained s ∧ ∀ r ∈ h, Framed S B r := by
    induction hr with
    | start => exact ⟨fun c hc => absurd hc (by simp), fun r hr => absurd hr List.not_mem_nil⟩
    | @step h s prior i ih =>
      obtain ⟨hs, hframed⟩ := ih fun r hr => hquiet r (List.mem_cons_of_mem _ hr)
      obtain ⟨hlast, hdrained⟩ := framed_step hs i (hquiet _ List.mem_cons_self)
      refine ⟨hdrained, fun r hr => ?_⟩
      rcases List.mem_cons.mp hr with rfl | hr
      · exact hlast
      · exact hframed r hr
  exact hall.2

/-! ## The commands of requests -/

section Requests

variable {paths : RuntimePaths} {req : RunRequest}

theorem isSome_commandLine (hreq : req.Plain) (hpaths : paths.NoFlag) :
    (commandLine paths req).isSome = true := by
  obtain ⟨line, args, hline, -, -⟩ := roundTrips_of_plain hreq hpaths
  rw [hline]
  rfl

theorem isSome_invokeArgs (hreq : req.Plain) (hpaths : paths.NoFlag) :
    (invokeArgs paths req).isSome = true := by
  obtain ⟨line, args, -, hargs, -⟩ := roundTrips_of_plain hreq hpaths
  rw [hargs]
  rfl

theorem validUtf8_commandLine {line : Bytes} (h : commandLine paths req = some line) :
    ValidUtf8 line := by
  obtain ⟨t, -, ht⟩ := PyStr.encode_eq_some_iff.mp h
  exact ⟨t, ht⟩

theorem valid_lineOf (hreq : req.Plain) (hpaths : paths.NoFlag) :
    ValidUtf8 ((commandLine paths req).get (isSome_commandLine hreq hpaths)) :=
  validUtf8_commandLine (Option.some_get _).symm

theorem served_lineOf (hreq : req.Plain) (hpaths : paths.NoFlag) :
    runServerLoop (lines 10 ((commandLine paths req).get (isSome_commandLine hreq hpaths))) =
      ([.invoke (.ok ((invokeArgs paths req).get (isSome_invokeArgs hreq hpaths)))], false) := by
  obtain ⟨line, args, hline, hargs, hloop⟩ := roundTrips_of_plain hreq hpaths
  simp only [hline, hargs, Option.get_some]
  exact hloop

theorem kem_argsOf (hreq : req.Plain) (hpaths : paths.NoFlag) :
    ∀ args, (Except.ok ((invokeArgs paths req).get (isSome_invokeArgs hreq hpaths)) :
      Except String InvokeArgs) = .ok args → namesKem args = true := by
  intro args h
  have hargs : invokeArgs paths req = some args := by
    rw [← Except.ok.inj h]
    exact (Option.some_get _).symm
  obtain ⟨fid, -, hargs⟩ := Option.bind_eq_some_iff.mp hargs
  obtain ⟨label, -, hargs⟩ := Option.bind_eq_some_iff.mp hargs
  obtain rfl := Option.some.inj hargs
  have hpku : (paths.file .pkU).bytes ≠ [] := (paths.file .pkU).token.1
  simp [namesKem, argsOf, hpku]

/-- What `_invoke_sgx_worker` writes for a plain request is a command of `run_server_loop`. -/
def commandFor (hreq : req.Plain) (hpaths : paths.NoFlag) (env : InvokeEnv) : InvokeCommand where
  env := env
  line := (commandLine paths req).get (isSome_commandLine hreq hpaths)
  parsed := .ok ((invokeArgs paths req).get (isSome_invokeArgs hreq hpaths))
  valid := valid_lineOf hreq hpaths
  served := served_lineOf hreq hpaths
  kem := kem_argsOf hreq hpaths

end Requests

/-! ## A runtime error with line ends -/

/-- The files of a request for the FID `c`. -/
def frameFile (name : CStr) : Option Bytes :=
  let args := sampleRunArgs (CStr.lit "c") [5] (sampleInputMac (CStr.lit "c") [5])
  if name.bytes = [119] then some (args.wasmIv.toList ++ args.wasmMac.toList ++ args.encryptedWasm)
  else if name.bytes = [105] then
    some (args.inputIv.toList ++ args.inputMac.toList ++ args.encryptedInput)
  else if name.bytes = [112] then some args.pkU.toList
  else if name.bytes = [110] then some args.nonce.toList
  else some args.cKey

/-- The platform of a command whose module the runtime loads so. -/
def frameEnv (load : Except CStr Unit) : InvokeEnv where
  hasKeyCall := true
  quote := ⟨true, 0, false, true, true, ⟨true, some (Block.fill 32 0, Block.fill 64 0), true⟩, true,
    true⟩
  quoteText := []
  net _ _ := ⟨true, [[true]], true,
    [.chunk ((sampleKeyBlob 0).bytes ++ (sampleKeyBlob 0).bytes)]⟩
  unwrap := ⟨true, true⟩
  unwrapLabel := ⟨true, true⟩
  load := ⟨true, true, true⟩
  file := frameFile
  runStatus := 0
  run := { sampleRunEnv with load := fun _ => load }
  isOnCurve _ := true
  number _ := 0
  tscHz := 1
  calibrated := false

/-- The command of a request for the FID `c`. -/
def frameCommand (load : Except CStr Unit) : FrameInput :=
  ⟨lit "eccibe", commandFor plain_plainRequest noFlag_samplePaths (frameEnv load)⟩

/-- A load that fails with a text that begins apart, or does not fail. -/
theorem invokeQuiet_frameEnv {load : Except CStr Unit}
    (h : ∀ text, load = .error text → HarmlessText text.bytes) : InvokeQuiet (frameEnv load) where
  quote := harmlessText_nil
  run :=
    { load := fun _ text htext => h text htext
      instantiate := fun _ _ htext => absurd htext (by simp [frameEnv, sampleRunEnv])
      start := fun _ => harmlessText_nil
      main := fun _ _ => harmlessText_nil
      closed := fun _ _ _ => closed_nil }

/-- Two commands, of which the first one fails with an ordinary error, are framed. -/
theorem framed_twice :
    (runOn (frameStep Sgx.sample Bfibe.sample) [] none
        [frameCommand (.error (CStr.lit "magic header")), frameCommand (.ok ())]).1.length = 2 ∧
      ∀ r ∈ (runOn (frameStep Sgx.sample Bfibe.sample) [] none
        [frameCommand (.error (CStr.lit "magic header")), frameCommand (.ok ())]).1,
        Framed Sgx.sample Bfibe.sample r := by
  refine ⟨rfl, framed_of_quiet (reach_runOn _ _ Reach.start) fun r hr => ?_⟩
  have htext : HarmlessText (CStr.lit "magic header").bytes := by
    have hbytes : (CStr.lit "magic header").bytes = ascii "magic header" := by decide
    rw [hbytes]
    exact harmlessText_open String.toList_ofList (by decide)
  rcases List.mem_cons.mp hr with rfl | hr
  · exact invokeQuiet_frameEnv fun text htext => absurd htext (by simp)
  · rw [List.mem_singleton.mp hr]
    exact invokeQuiet_frameEnv fun text heq => Except.error.inj heq ▸ htext

/-- The text of an error with the end of a response in it. -/
def forgedText : CStr := CStr.lit "\nRC:0\nEND_RESPONSE\n"

/-- The return code of a reply. -/
def FrameReply.rc : FrameReply → Option Int
  | response _ (.ok parsed) => some parsed.rc
  | response _ (.error _) => none
  | exited _ => none
  | undecodable => none
  | waits => none

theorem rc_of_framed {r : FrameRecord} (h : Framed S B r) {n : Int}
    (hn : (served S B r.pre r.input).2.1 = some n) : r.output.rc = some n := by
  obtain ⟨lines, parsed, hreply, -, hrc, -⟩ := h.response n hn
  rw [hreply, ← hrc]
  rfl

/-- **An error of the runtime** with an `RC` and an `END_RESPONSE` is read as the response: the
proxy has 0 where `do_invoke` returned -1. -/
theorem not_forall_framed :
    ¬ ∀ h s, Reach (frameStep Sgx.sample Bfibe.sample) none h s →
      ∀ r ∈ h, Framed Sgx.sample Bfibe.sample r := by
  intro hall
  have hframed := hall _ _ (Reach.start.step (frameCommand (.error forgedText))) _
    List.mem_cons_self
  have hforged : (frameStep Sgx.sample Bfibe.sample none
      (frameCommand (.error forgedText))).2.rc = some 0 := by decide +kernel
  have hread := rc_of_framed hframed (n := -1) (by decide +kernel)
  simp only at hread
  rw [hforged] at hread
  exact absurd hread (by decide)

end Proxy
end AsynCS
