import AsynCS.Lib.LineScan
import AsynCS.Proxy.WorkerResponse
import AsynCS.WorkerApp.DoInvoke

/-!
# The responses of the worker

`run_server_loop` answers an `invoke` command with the output of `do_invoke` between two lines of
its own.  The output of the enclave, of the WebAssembly runtime and of the program goes to the same
stream, so a line of theirs may look like one that means something to the reader.

* `InvokeCommand`: what the loop reads as one `invoke`.
* `serveInvoke`, `responseEvents`, `responseBytes`: the response.
* `Meaningful`: the lines that end a response, make its reader raise, or have one of its results.
* `HarmlessText`: valid text that has none of them, and gets none when something is written behind it.
* `Apart`: the beginnings from which no such line can grow.
* `WholeLines`: harmless text that leaves no line open; `wholeLines_lit`, `wholeLines_line`.
-/

namespace AsynCS
namespace WorkerApp

open Worker

/-! ## Commands -/

/-- What the proxy writes for a command: the loop reads one `invoke` in it, with the files of a
public key and a nonce.  `env` is the platform while the command is served. -/
structure InvokeCommand where
  env : InvokeEnv
  line : Bytes
  parsed : Except String InvokeArgs
  valid : ValidUtf8 line
  served : runServerLoop (lines 10 line) = ([.invoke parsed], false)
  kem : ∀ args, parsed = .ok args → namesKem args = true

/-- The tokens of a command are valid and hold no whitespace. -/
theorem InvokeCommand.exists_tokens (c : InvokeCommand) :
    ∃ toks, parseInvokeTokens toks = c.parsed ∧
      ∀ tok ∈ toks, ValidUtf8 tok ∧ ∀ x ∈ tok, isSpace x = false := by
  have hmem : Command.invoke c.parsed ∈ (runServerLoop (lines 10 c.line)).1 := by
    rw [c.served]
    exact List.mem_singleton.mpr rfl
  obtain ⟨l, hl, hcommand⟩ := exists_line_of_mem hmem
  have hvalid : ValidUtf8 l := forall_mem_lines (fun a b h => h.split (by decide)) c.valid l hl
  have htoken : ∀ tok ∈ splitTokens l, ValidUtf8 tok := by
    intro tok htok
    refine forall_mem_splitOnP (fun a s b hs h => h.split ?_) hvalid tok (List.mem_filter.mp htok).1
    have hspace := isSpace_iff.mp hs
    omega
  exact ⟨splitTokens l, commandOf_eq_invoke hcommand,
    fun tok htok => ⟨htoken tok htok, fun x hx => not_sep_of_mem_words htok hx⟩⟩

/-! ## Responses -/

/-- The output of `do_invoke`, or the error of the parser, with the return code. -/
def serveInvoke (S : Sgx) (B : Bfibe) (env : InvokeEnv) (g : Globals) :
    Except String InvokeArgs → Globals × Option Int × List HostEvent
  | .error err => (g, some (-1), [.line (ascii "ERROR:" ++ ascii err)])
  | .ok args =>
    let o := doInvoke S B env true args g
    (o.enclave, o.rc, o.printed)

/-- A response: a process that exits ends it where it is. -/
def responseEvents (rc : Option Int) (printed : List HostEvent) : List HostEvent :=
  .line (ascii "BEGIN_RESPONSE") :: printed ++
    match rc with
    | none => []
    | some n => [.line (ascii "RC:" ++ ascii (toString n)), .line (ascii "END_RESPONSE")]

/-- The bytes of a response. -/
def responseBytes (rc : Option Int) (printed : List HostEvent) : Bytes :=
  (responseEvents rc printed).flatMap HostEvent.stdout

/-! ## Lines with a meaning -/

/-- The ends of lines for a reader of text: `\n`, and `\r` too. -/
def isLineEnd (b : UInt8) : Bool := b == 10 || b == 13

/-- The markers that the results of a command are read from. -/
def resultKeys : List Text := ["RID_HEX".toList, "CT_HEX".toList, "RESULT_HEX".toList]

/-- The line ends a response, makes its reader raise, or has one of its results. -/
def Meaningful (l : Bytes) : Prop :=
  ∃ t, utf8 t = l ∧ (Proxy.Unframing t ∨ ∃ key ∈ resultKeys, key ++ [':'] <+: t)

/-- The beginnings of lines with a value. -/
def valueWords : List Text := ['R', 'C', ':'] :: resultKeys.map (· ++ [':'])

theorem valueWords_eq : valueWords =
    [['R', 'C', ':'], ['R', 'I', 'D', '_', 'H', 'E', 'X', ':'], ['C', 'T', '_', 'H', 'E', 'X', ':'],
      ['R', 'E', 'S', 'U', 'L', 'T', '_', 'H', 'E', 'X', ':']] := by
  rw [valueWords, resultKeys, String.toList_ofList, String.toList_ofList, String.toList_ofList]
  rfl

/-- No line with a meaning begins so, and none does that begins the same. -/
def Apart (l : Text) : Prop :=
  ¬ l <+: Proxy.endResponse ∧ ∀ w ∈ valueWords, ¬ l <+: w ∧ ¬ w <+: l

theorem apart_iff {l : Text} :
    (¬ l <+: ['E', 'N', 'D', '_', 'R', 'E', 'S', 'P', 'O', 'N', 'S', 'E'] ∧
      ∀ w ∈ [['R', 'C', ':'], ['R', 'I', 'D', '_', 'H', 'E', 'X', ':'],
        ['C', 'T', '_', 'H', 'E', 'X', ':'],
        ['R', 'E', 'S', 'U', 'L', 'T', '_', 'H', 'E', 'X', ':']], ¬ l <+: w ∧ ¬ w <+: l) ↔
      Apart l := by
  rw [Apart, Proxy.endResponse_eq, valueWords_eq]

instance : DecidablePred Apart := fun _ => decidable_of_iff _ apart_iff

theorem not_meaningful_of_apart {l t : Text} (h : Apart l) (ht : l <+: t) :
    ¬ Meaningful (utf8 t) := by
  rintro ⟨t', ht', hmeaning⟩
  obtain rfl := utf8_injective ht'
  have hword : ∀ w ∈ valueWords, ¬ w <+: t' := by
    intro w hw hprefixed
    rcases List.prefix_or_prefix_of_prefix hprefixed ht with hle | hle
    · exact (h.2 w hw).2 hle
    · exact (h.2 w hw).1 hle
  rcases hmeaning with (hend | ⟨hrc, -⟩) | ⟨key, hkey, hprefixed⟩
  · exact h.1 (hend ▸ ht)
  · exact hword _ List.mem_cons_self (Proxy.isRc_iff.mp hrc)
  · exact hword _ (List.mem_cons_of_mem _ (List.mem_map_of_mem hkey)) hprefixed

theorem dead_of_apart {l : Text} (h : Apart l) : Dead Meaningful (utf8 l) := by
  rintro z ⟨t, ht, hmeaning⟩
  have hprefixed : l <+: t := prefix_of_utf8 ⟨z, ht.symm⟩
  exact not_meaningful_of_apart h hprefixed ⟨t, rfl, hmeaning⟩

/-- Valid text in which no line has a meaning, and whose open line gets none. -/
structure HarmlessText (b : Bytes) : Prop where
  valid : ValidUtf8 b
  harmless : Harmless isLineEnd Meaningful b

theorem harmlessText_nil : HarmlessText [] := ⟨validUtf8_nil, harmless_nil⟩

theorem HarmlessText.append {a b : Bytes} (ha : HarmlessText a) (hb : HarmlessText b) :
    HarmlessText (a ++ b) := ⟨ha.valid.append hb.valid, ha.harmless.append hb.harmless⟩

/-- Texts one after the other. -/
theorem harmlessText_flatMap {β : Type} {f : β → Bytes} {l : List β} (h : ∀ x ∈ l, HarmlessText (f x)) :
    HarmlessText (l.flatMap f) := by
  induction l with
  | nil => exact harmlessText_nil
  | cons x l ih =>
    rw [List.flatMap_cons]
    exact (h x List.mem_cons_self).append (ih fun y hy => h y (List.mem_cons_of_mem x hy))

theorem isLineEnd_newline : isLineEnd 10 = true := rfl

theorem validUtf8_newline : ValidUtf8 [10] := validUtf8_of_ascii (by decide +kernel)

/-- A line that begins apart. -/
theorem harmlessText_line {l : Text} {z : Bytes} (h : Apart l) (hvalid : ValidUtf8 z)
    (hone : ∀ x ∈ utf8 l ++ z, isLineEnd x = false) : HarmlessText (utf8 l ++ z ++ [10]) :=
  ⟨(ValidUtf8.append ⟨l, rfl⟩ hvalid).append validUtf8_newline,
    harmless_line hone isLineEnd_newline (dead_of_apart h z)⟩

/-! ## Texts of the program -/

/-- Printable ASCII. -/
def Plain (b : Bytes) : Prop := ∀ x ∈ b, 32 ≤ x.toNat ∧ x.toNat < 127

instance : DecidablePred Plain := fun b =>
  List.decidableBAll (fun x : UInt8 => 32 ≤ x.toNat ∧ x.toNat < 127) b

theorem plain_nil : Plain [] := fun _ hx => absurd hx List.not_mem_nil

theorem Plain.append {a b : Bytes} (ha : Plain a) (hb : Plain b) : Plain (a ++ b) := by
  intro x hx
  rcases List.mem_append.mp hx with hx | hx
  · exact ha x hx
  · exact hb x hx

theorem Plain.valid {b : Bytes} (h : Plain b) : ValidUtf8 b :=
  validUtf8_of_ascii fun x hx => by
    have hx := h x hx
    omega

theorem isLineEnd_iff {x : UInt8} : isLineEnd x = true ↔ x.toNat = 10 ∨ x.toNat = 13 := by
  simp only [isLineEnd, Bool.or_eq_true, beq_iff_eq, ← UInt8.toNat_inj]
  rfl

theorem Plain.noEnd {b : Bytes} (h : Plain b) : ∀ x ∈ b, isLineEnd x = false := by
  intro x hx
  have hx := h x hx
  by_contra hend
  have hcode := isLineEnd_iff.mp (Bool.eq_true_of_not_eq_false hend)
  omega

/-! ## Literals -/

/-- Printable ASCII characters. -/
def PlainChars (l : Text) : Prop := ∀ c ∈ l, 32 ≤ c.toNat ∧ c.toNat < 127

instance : DecidablePred PlainChars := fun l =>
  List.decidableBAll (fun c : Char => 32 ≤ c.toNat ∧ c.toNat < 127) l

/-- A literal, character by character. -/
theorem ascii_eq {s : String} {l : Text} (hs : s.toList = l) (h : ∀ c ∈ l, c.toNat < 128) :
    ascii s = utf8 l := by
  rw [ascii, hs, utf8_of_ascii h]

theorem ascii_append (s t : String) : ascii (s ++ t) = ascii s ++ ascii t := by
  rw [ascii, String.toList_append, List.map_append]
  rfl

theorem PlainChars.ascii {l : Text} (h : PlainChars l) : ∀ c ∈ l, c.toNat < 128 := fun c hc => by
  have hcode := h c hc
  omega

theorem PlainChars.plain {l : Text} (h : PlainChars l) : Plain (utf8 l) := by
  rw [utf8_of_ascii h.ascii]
  intro x hx
  obtain ⟨c, hc, rfl⟩ := List.mem_map.mp hx
  have hcode := h c hc
  rw [UInt8.toNat_ofNat']
  omega

/-- A literal of printable characters. -/
theorem plain_ascii {s : String} {l : Text} (hs : s.toList = l) (h : PlainChars l) :
    Plain (ascii s) := by
  rw [ascii_eq hs h.ascii]
  exact h.plain

theorem plainChars_toDigits {b : ℕ} (hb : 1 < b) (hb' : b ≤ 16) (n : ℕ) :
    PlainChars (Nat.toDigits b n) := by
  have hdigit : ∀ d < 16, 32 ≤ (Nat.digitChar d).toNat ∧ (Nat.digitChar d).toNat < 127 := by decide
  induction n using Nat.strongRecOn with
  | ind n ih =>
    rw [Nat.toDigits_eq_if hb]
    intro c hc
    split at hc
    · rw [List.mem_singleton.mp hc]
      exact hdigit n (by omega)
    · rename_i hle
      rcases List.mem_append.mp hc with hc | hc
      · exact ih (n / b) (Nat.div_lt_self (by omega) hb) c hc
      · have hmod : n % b < b := Nat.mod_lt n (by omega)
        rw [List.mem_singleton.mp hc]
        exact hdigit (n % b) (by omega)

theorem plain_decimal (n : ℕ) : Plain (decimal n) := by
  have hs : (toString n).toList = Nat.toDigits 10 n := String.toList_ofList
  exact plain_ascii hs (plainChars_toDigits (by decide) (by decide) n)

theorem plain_hexadecimal (n : ℕ) : Plain (hexadecimal n) :=
  plain_ascii String.toList_ofList (plainChars_toDigits (by decide) le_rfl n)

theorem plain_hexEncode (b : Bytes) : Plain (hexEncode b) := by
  have hdigit : ∀ d < 16, 32 ≤ (hexDigit d).toNat ∧ (hexDigit d).toNat < 127 := by decide
  intro x hx
  rw [hexEncode, List.mem_flatMap] at hx
  obtain ⟨y, -, hx⟩ := hx
  have hy : y.toNat < 256 := y.toNat_lt
  simp only [List.mem_cons, List.not_mem_nil, or_false] at hx
  rcases hx with rfl | rfl
  · exact hdigit _ (by omega)
  · exact hdigit _ (by omega)

/-- Printable characters that begin apart. -/
def ApartLit (l : Text) : Prop := Apart (l.take 3) ∧ PlainChars l

instance : DecidablePred ApartLit := fun _ => inferInstanceAs (Decidable (_ ∧ _))

/-- Harmless text that leaves no line open. -/
structure WholeLines (b : Bytes) : Prop where
  harmless : HarmlessText b
  closed : Closed isLineEnd b

theorem wholeLines_nil : WholeLines [] := ⟨harmlessText_nil, closed_nil⟩

theorem WholeLines.append {a b : Bytes} (ha : WholeLines a) (hb : WholeLines b) :
    WholeLines (a ++ b) := ⟨ha.harmless.append hb.harmless, ha.closed.append hb.closed⟩

theorem wholeLines_flatMap {β : Type} {f : β → Bytes} {l : List β}
    (h : ∀ x ∈ l, WholeLines (f x)) : WholeLines (l.flatMap f) := by
  induction l with
  | nil => exact wholeLines_nil
  | cons x l ih =>
    rw [List.flatMap_cons]
    exact (h x List.mem_cons_self).append (ih fun y hy => h y (List.mem_cons_of_mem x hy))

/-- A line that begins with a literal. -/
theorem wholeLines_line {s : String} {l : Text} (hs : s.toList = l) (h : ApartLit l)
    {z : Bytes} (hvalid : ValidUtf8 z) (hone : ∀ x ∈ z, isLineEnd x = false) :
    WholeLines (ascii s ++ z ++ [10]) := by
  have hlit : ascii s = utf8 l := ascii_eq hs h.2.ascii
  have hsplit : ascii s ++ z = utf8 (l.take 3) ++ (utf8 (l.drop 3) ++ z) := by
    rw [hlit, ← List.append_assoc, ← utf8_append, List.take_append_drop]
  have hends : ∀ x ∈ ascii s ++ z, isLineEnd x = false := by
    intro x hx
    rcases List.mem_append.mp hx with hx | hx
    · exact h.2.plain.noEnd x (hlit ▸ hx)
    · exact hone x hx
  refine ⟨?_, closed_line hends isLineEnd_newline⟩
  rw [hsplit] at hends ⊢
  exact harmlessText_line h.1 (ValidUtf8.append ⟨_, rfl⟩ hvalid) hends

/-- A line of printable characters that begins with a literal. -/
theorem wholeLines_plain {s : String} {l : Text} (hs : s.toList = l) (h : ApartLit l)
    {z : Bytes} (hz : Plain z) : WholeLines (ascii s ++ z ++ [10]) :=
  wholeLines_line hs h hz.valid hz.noEnd

/-- A line that is still open. -/
theorem harmlessText_open {s : String} {l : Text} (hs : s.toList = l) (h : ApartLit l) :
    HarmlessText (ascii s) := by
  have hlit : ascii s = utf8 l := ascii_eq hs h.2.ascii
  have hdead : Dead Meaningful (utf8 l) := by
    have hsplit := dead_of_apart h.1
    rw [← List.take_append_drop 3 l, utf8_append]
    exact hsplit.append _
  rw [hlit]
  exact ⟨⟨l, rfl⟩, harmless_of_dead h.2.plain.noEnd hdead⟩

theorem ascii_newline : ascii "\n" = [10] := by
  rw [ascii, String.toList_ofList]
  rfl

/-- The characters of a line, with its end. -/
def LineLit (l : Text) : Prop := l.getLast? = some '\n' ∧ ApartLit l.dropLast

instance : DecidablePred LineLit := fun _ => inferInstanceAs (Decidable (_ ∧ _))

/-- A literal that is a line. -/
theorem wholeLines_lit {s : String} {l : Text} (hs : s.toList = l) (h : LineLit l) :
    WholeLines (ascii s) := by
  have hl : l = l.dropLast ++ ['\n'] := (List.dropLast_append_getLast? _ h.1).symm
  have hbytes : ascii s = ascii (String.ofList l.dropLast) ++ [] ++ [10] := by
    rw [ascii, ascii, hs, String.toList_ofList, List.append_nil]
    conv_lhs => rw [hl, List.map_append]
    rfl
  rw [hbytes]
  exact wholeLines_plain String.toList_ofList h.2 plain_nil

end WorkerApp
end AsynCS
