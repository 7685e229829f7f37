import AsynCS.Lib.CString
import AsynCS.Lib.Words

/-!
# The command lines of the worker

`sgx_worker --server` reads one command a line from its standard input and answers each with a
block of lines between `BEGIN_RESPONSE` and `END_RESPONSE`.

* `splitTokens`, `InvokeArgs`, `parseInvokeTokens`: the tokens of a line, and the arguments of
  an `invoke` command.
* `Command`, `commandOf`, `runServerLoop`: what the loop does with the lines it reads.

A `std::string` holds any bytes, NUL among them, so lines and tokens are byte strings here.
-/

namespace AsynCS
namespace WorkerApp

/-! ## Tokens -/

/-- `isspace` in the C locale. -/
def isSpace (b : UInt8) : Bool := b == 32 || (9 ≤ b && b ≤ 13)

theorem isSpace_iff {b : UInt8} :
    isSpace b = true ↔ b.toNat = 32 ∨ 9 ≤ b.toNat ∧ b.toNat ≤ 13 := by
  simp only [isSpace, Bool.or_eq_true, beq_iff_eq, Bool.and_eq_true, decide_eq_true_eq,
    UInt8.le_iff_toNat_le, ← UInt8.toNat_inj]
  rfl

/-- `split_tokens`. -/
def splitTokens (line : Bytes) : List Bytes := words isSpace line

/-- The value of a string of decimal digits. -/
def digitsValue (digits : Bytes) : ℕ :=
  digits.foldl (fun value b => 10 * value + (b.toNat - 48)) 0

/-- A decimal digit. -/
def isDigit (b : UInt8) : Bool := 48 ≤ b && b ≤ 57

theorem isDigit_iff {b : UInt8} : isDigit b = true ↔ 48 ≤ b.toNat ∧ b.toNat ≤ 57 := by
  simp only [isDigit, Bool.and_eq_true, decide_eq_true_eq, UInt8.le_iff_toNat_le]
  rfl

/-- The value of the digits that `strtoul` reads, when they reach the end of the string and the
value is in range. -/
def strtoulDigits (digits : Bytes) : Option ℕ :=
  if digits ≠ [] ∧ digits.all isDigit = true ∧ digitsValue digits < 2 ^ 64 then
    some (digitsValue digits)
  else none

/-- `strtoul(s, &end, 10)` when it sets no error and reads `s` to its end. -/
def strtoul (s : CStr) : Option ℕ :=
  match s.bytes.dropWhile isSpace with
  | 43 :: digits => strtoulDigits digits
  | 45 :: digits => (strtoulDigits digits).map fun value => (2 ^ 64 - value) % 2 ^ 64
  | digits => strtoulDigits digits

/-! ## `invoke` -/

/-- The arguments of an `invoke` command. -/
structure InvokeArgs where
  fid : Bytes
  wasmFile : Bytes
  inputFile : Bytes
  label : Bytes
  cKFuncFile : Bytes
  cKeyFile : Bytes
  pkuFile : Bytes
  nonceFile : Bytes
  maxOutputBytes : ℕ
  deriving DecidableEq

/-- `ASYNCS_MAX_OUTPUT_CAPACITY_BYTES` -/
def maxOutputCapacityBytes : ℕ := 1024 * 1024

/-- `ASYNCS_DEFAULT_OUTPUT_CAPACITY_BYTES` -/
def defaultOutputCapacityBytes : ℕ := 4096

/-- The text of a line that has too few tokens, or tokens left over. -/
def invokeUsage : String :=
  "Usage: invoke <fid> <encrypted_wasm_file> <encrypted_input_file> [--label <label>] " ++
    "[--max-output-bytes <bytes>] --keys <C_k_func_file> <C_key_file> [pkU_file nonce_file]"

/-- The value of `--max-output-bytes`. -/
def parseMaxOutputBytes (tok : Bytes) : Option ℕ :=
  (strtoul (CStr.ofBuffer tok)).filter fun parsed =>
    parsed != 0 && parsed ≤ maxOutputCapacityBytes

/-- The flags from token 4 on, and the tokens behind the last of them. -/
def parseInvokeFlags (out : InvokeArgs) : List Bytes → Except String (InvokeArgs × List Bytes)
  | [] => .ok (out, [])
  | tok :: rest =>
    if tok = ascii "--label" then
      match rest with
      | [] => .error "Usage: invoke ... --label <label>"
      | label :: rest => parseInvokeFlags { out with label := label } rest
    else if tok = ascii "--keys" then
      match rest with
      | cKFuncFile :: cKeyFile :: rest =>
        parseInvokeFlags { out with cKFuncFile := cKFuncFile, cKeyFile := cKeyFile } rest
      | _ => .error "Usage: invoke ... --keys <C_k_func_file> <C_key_file>"
    else if tok = ascii "--max-output-bytes" then
      match rest with
      | [] => .error "Usage: invoke ... --max-output-bytes <bytes>"
      | bytes :: rest =>
        match parseMaxOutputBytes bytes with
        | some parsed => parseInvokeFlags { out with maxOutputBytes := parsed } rest
        | none => .error "Error: --max-output-bytes must be between 1 and 1048576."
    else .ok (out, tok :: rest)

/-- The token names one of the three flags. -/
def isFlag (tok : Bytes) : Bool :=
  tok == ascii "--label" || tok == ascii "--keys" || tok == ascii "--max-output-bytes"

/-- `parse_invoke_tokens`. -/
def parseInvokeTokens : List Bytes → Except String InvokeArgs
  | _ :: fid :: wasmFile :: inputFile :: flags => do
    let (out, rest) ← parseInvokeFlags
      { fid := fid, wasmFile := wasmFile, inputFile := inputFile, label := ascii "default_label",
        cKFuncFile := [], cKeyFile := [], pkuFile := [], nonceFile := [],
        maxOutputBytes := defaultOutputCapacityBytes } flags
    if out.cKFuncFile = [] ∨ out.cKeyFile = [] then
      .error "Error: Missing --keys <C_k_func_file> <C_key_file> (required for G3)."
    else
      match rest with
      | [] => .ok out
      | [pkuFile, nonceFile] => .ok { out with pkuFile := pkuFile, nonceFile := nonceFile }
      | _ => .error invokeUsage
  | _ => .error invokeUsage

/-! ## The loop -/

/-- A line that the loop answers. -/
inductive Command where
  /-- `invoke`, with the error of its parser -/
  | invoke (parsed : Except String InvokeArgs)
  /-- `run_wasm` with one or two paths, the second empty when it is missing -/
  | runWasm (paths : Option (Bytes × Bytes))
  | unknown
  deriving DecidableEq

/-- The command in a line of these tokens. -/
def commandOf : List Bytes → Option Command
  | [] => none
  | tok :: rest =>
    if tok = ascii "invoke" then some (.invoke (parseInvokeTokens (tok :: rest)))
    else if tok = ascii "run_wasm" then
      match rest with
      | [wasmPath] => some (.runWasm (some (wasmPath, [])))
      | [wasmPath, inputPath] => some (.runWasm (some (wasmPath, inputPath)))
      | _ => some (.runWasm none)
    else some .unknown

/-- `run_server_loop` on the lines of its input: the commands that it answers, each with one
block, and whether it has left the loop. -/
def runServerLoop : List Bytes → List Command × Bool
  | [] => ([], false)
  | line :: lines =>
    if line = ascii "exit" then ([], true)
    else
      match commandOf (splitTokens line) with
      | none => runServerLoop lines
      | some command =>
        (command :: (runServerLoop lines).1, (runServerLoop lines).2)

/-! ## What the parser takes from a line -/

theorem keys_ne_label : ascii "--keys" ≠ ascii "--label" := by decide +kernel

theorem max_ne_label : ascii "--max-output-bytes" ≠ ascii "--label" := by decide +kernel

theorem max_ne_keys : ascii "--max-output-bytes" ≠ ascii "--keys" := by decide +kernel

theorem parseInvokeFlags_label (out : InvokeArgs) (label : Bytes) (rest : List Bytes) :
    parseInvokeFlags out (ascii "--label" :: label :: rest) =
      parseInvokeFlags { out with label := label } rest := by
  rw [parseInvokeFlags, if_pos rfl]

theorem parseInvokeFlags_keys (out : InvokeArgs) (cKFuncFile cKeyFile : Bytes)
    (rest : List Bytes) :
    parseInvokeFlags out (ascii "--keys" :: cKFuncFile :: cKeyFile :: rest) =
      parseInvokeFlags { out with cKFuncFile := cKFuncFile, cKeyFile := cKeyFile } rest := by
  rw [parseInvokeFlags.eq_def]
  simp only [if_neg keys_ne_label, if_true]

theorem parseInvokeFlags_max (out : InvokeArgs) {bytes : Bytes} {parsed : ℕ}
    (h : parseMaxOutputBytes bytes = some parsed) (rest : List Bytes) :
    parseInvokeFlags out (ascii "--max-output-bytes" :: bytes :: rest) =
      parseInvokeFlags { out with maxOutputBytes := parsed } rest := by
  rw [parseInvokeFlags.eq_def]
  simp only [if_neg max_ne_label, if_neg max_ne_keys, if_true, h]

/-- The flags end at a token that is none. -/
theorem parseInvokeFlags_stop (out : InvokeArgs) {tok : Bytes} (h : isFlag tok = false)
    (rest : List Bytes) : parseInvokeFlags out (tok :: rest) = .ok (out, tok :: rest) := by
  simp only [isFlag, Bool.or_eq_false_iff, beq_eq_false_iff_ne] at h
  rw [parseInvokeFlags.eq_def]
  simp only [if_neg h.1.1, if_neg h.1.2, if_neg h.2]

/-- The flags leave the positional arguments, take a label from the tokens, and stop at a token
that is no flag. -/
theorem parseInvokeFlags_ok {out out' : InvokeArgs} {toks rest : List Bytes}
    (h : parseInvokeFlags out toks = .ok (out', rest)) :
    (out'.fid = out.fid ∧ out'.pkuFile = out.pkuFile) ∧
      (out'.label = out.label ∨ out'.label ∈ toks) ∧
      ∀ tok ∈ rest.head?, isFlag tok = false := by
  fun_induction parseInvokeFlags out toks with
  | case1 out =>
    obtain ⟨rfl, rfl⟩ := Prod.mk.inj (Except.ok.inj h)
    exact ⟨⟨rfl, rfl⟩, Or.inl rfl, fun tok htok => by simp at htok⟩
  | case2 => exact absurd h (by simp)
  | case3 out label rest ih =>
    obtain ⟨hkeep, hlabel, hrest⟩ := ih h
    refine ⟨hkeep, Or.inr ?_, hrest⟩
    rcases hlabel with hlabel | hlabel
    · rw [hlabel]
      exact List.mem_cons_of_mem _ List.mem_cons_self
    · exact List.mem_cons_of_mem _ (List.mem_cons_of_mem _ hlabel)
  | case4 out cKFuncFile cKeyFile rest hne ih =>
    obtain ⟨hkeep, hlabel, hrest⟩ := ih h
    exact ⟨hkeep, hlabel.imp id fun hmem => List.mem_cons_of_mem _
      (List.mem_cons_of_mem _ (List.mem_cons_of_mem _ hmem)), hrest⟩
  | case5 => exact absurd h (by simp)
  | case6 => exact absurd h (by simp)
  | case7 out bytes rest parsed hparsed hne hne' ih =>
    obtain ⟨hkeep, hlabel, hrest⟩ := ih h
    exact ⟨hkeep, hlabel.imp id fun hmem => List.mem_cons_of_mem _
      (List.mem_cons_of_mem _ hmem), hrest⟩
  | case8 => exact absurd h (by simp)
  | case9 out tok rest hlabel hkeys hmax =>
    obtain ⟨rfl, rfl⟩ := Prod.mk.inj (Except.ok.inj h)
    refine ⟨⟨rfl, rfl⟩, Or.inl rfl, fun t ht => ?_⟩
    obtain rfl := Option.some.inj ht
    simp only [isFlag, beq_eq_false_iff_ne.mpr hlabel, beq_eq_false_iff_ne.mpr hkeys,
      beq_eq_false_iff_ne.mpr hmax, Bool.or_false]

/-- **What a parsed line says** comes from its tokens: the FID is one of them, the label is one
of them or the default, and the file of `pkU` is not named like a flag. -/
theorem parseInvokeTokens_ok {toks : List Bytes} {out : InvokeArgs}
    (h : parseInvokeTokens toks = .ok out) :
    out.fid ∈ toks ∧ (out.label = ascii "default_label" ∨ out.label ∈ toks) ∧
      isFlag out.pkuFile = false := by
  unfold parseInvokeTokens at h
  split at h
  · rename_i cmd fid wasmFile inputFile flags
    cases hflags : parseInvokeFlags
        { fid := fid, wasmFile := wasmFile, inputFile := inputFile,
          label := ascii "default_label", cKFuncFile := [], cKeyFile := [], pkuFile := [],
          nonceFile := [], maxOutputBytes := defaultOutputCapacityBytes } flags with
    | error e =>
      rw [hflags] at h
      exact absurd h (by simp [bind, Except.bind])
    | ok p =>
      obtain ⟨parsed, rest⟩ := p
      obtain ⟨⟨hfid, hpku⟩, hlabel, hrest⟩ := parseInvokeFlags_ok hflags
      have hmem : ∀ {t : Bytes}, t ∈ flags → t ∈ cmd :: fid :: wasmFile :: inputFile :: flags :=
        fun ht => List.mem_cons_of_mem _ (List.mem_cons_of_mem _
          (List.mem_cons_of_mem _ (List.mem_cons_of_mem _ ht)))
      have hfid' : parsed.fid ∈ cmd :: fid :: wasmFile :: inputFile :: flags := by
        rw [hfid]
        exact List.mem_cons_of_mem _ List.mem_cons_self
      rw [hflags] at h
      simp only [bind, Except.bind] at h
      split at h
      · exact absurd h (by simp)
      · split at h
        · obtain rfl := Except.ok.inj h
          refine ⟨hfid', hlabel.imp id hmem, ?_⟩
          rw [hpku]
          rfl
        · obtain rfl := Except.ok.inj h
          exact ⟨hfid', hlabel.imp id hmem, hrest _ rfl⟩
        · exact absurd h (by simp)
  · exact absurd h (by simp)

/-- A command that the loop answers stands in one of its lines. -/
theorem exists_line_of_mem {command : Command} {ls : List Bytes}
    (h : command ∈ (runServerLoop ls).1) :
    ∃ line ∈ ls, commandOf (splitTokens line) = some command := by
  induction ls with
  | nil => exact absurd h List.not_mem_nil
  | cons line ls ih =>
    unfold runServerLoop at h
    split at h
    · exact absurd h List.not_mem_nil
    · split at h
      · obtain ⟨l, hl, hc⟩ := ih h
        exact ⟨l, List.mem_cons_of_mem line hl, hc⟩
      · rename_i first hfirst
        rcases List.mem_cons.mp h with rfl | h
        · exact ⟨line, List.mem_cons_self, hfirst⟩
        · obtain ⟨l, hl, hc⟩ := ih h
          exact ⟨l, List.mem_cons_of_mem line hl, hc⟩

theorem commandOf_invoke (rest : List Bytes) :
    commandOf (ascii "invoke" :: rest) =
      some (.invoke (parseInvokeTokens (ascii "invoke" :: rest))) := by
  rw [commandOf.eq_def]
  simp only [if_true]

/-- An `invoke` command is what the parser makes of the tokens. -/
theorem commandOf_eq_invoke {toks : List Bytes} {parsed : Except String InvokeArgs}
    (h : commandOf toks = some (.invoke parsed)) : parseInvokeTokens toks = parsed := by
  unfold commandOf at h
  split at h
  · exact absurd h (by simp)
  · split at h
    · exact Command.invoke.inj (Option.some.inj h)
    · split at h
      · split at h <;> exact absurd h (by simp)
      · exact absurd h (by simp)

/-! ## Numbers -/

/-- Digits are read as they stand. -/
theorem strtoul_of_digits {s : CStr} (h : ∀ b ∈ s.bytes, isDigit b = true) :
    strtoul s = strtoulDigits s.bytes := by
  have hdrop : s.bytes.dropWhile isSpace = s.bytes := by
    cases hs : s.bytes with
    | nil => rfl
    | cons b rest =>
      have hb := isDigit_iff.mp (h b (hs ▸ List.mem_cons_self))
      refine List.dropWhile_cons_of_neg fun hspace => ?_
      have hspace := isSpace_iff.mp hspace
      omega
  unfold strtoul
  rw [hdrop]
  split
  · rename_i digits hs
    exact absurd (h 43 (hs ▸ List.mem_cons_self)) (by decide)
  · rename_i digits hs
    exact absurd (h 45 (hs ▸ List.mem_cons_self)) (by decide)
  · rfl

/-- A number in decimal. -/
def decimalDigits (n : ℕ) : Bytes := (Nat.toDigits 10 n).map fun c => UInt8.ofNat c.toNat

theorem toNat_of_mem_toDigits {n : ℕ} {c : Char} (h : c ∈ Nat.toDigits 10 n) :
    48 ≤ c.toNat ∧ c.toNat ≤ 57 := by
  have hd := Nat.isDigit_of_mem_toDigits (by decide) le_rfl h
  simp only [Char.isDigit, Bool.and_eq_true, decide_eq_true_eq, ge_iff_le,
    UInt32.le_iff_toNat_le] at hd
  exact hd

theorem isDigit_of_mem_decimalDigits {n : ℕ} {b : UInt8} (h : b ∈ decimalDigits n) :
    isDigit b = true := by
  obtain ⟨c, hc, rfl⟩ := List.mem_map.mp h
  obtain ⟨hlo, hhi⟩ := toNat_of_mem_toDigits hc
  rw [isDigit_iff, UInt8.toNat_ofNat']
  omega

theorem digitsValue_decimalDigits (n : ℕ) : digitsValue (decimalDigits n) = n := by
  have hvalue : ∀ (cs : List Char) (v : ℕ), (∀ c ∈ cs, c.toNat < 256) →
      (cs.map fun c => UInt8.ofNat c.toNat).foldl (fun value b => 10 * value + (b.toNat - 48)) v =
        Nat.ofDigitChars 10 cs v := by
    intro cs
    induction cs with
    | nil => intro v _; simp
    | cons c cs ih =>
      intro v hcs
      have hc : c.toNat < 256 := hcs c List.mem_cons_self
      have hcode : (UInt8.ofNat c.toNat).toNat = c.toNat := by
        rw [UInt8.toNat_ofNat']
        omega
      rw [List.map_cons, List.foldl_cons, Nat.ofDigitChars_cons, hcode]
      exact ih _ fun d hd => hcs d (List.mem_cons_of_mem c hd)
  unfold digitsValue decimalDigits
  rw [hvalue _ 0 fun c hc => by have h := toNat_of_mem_toDigits hc; omega]
  exact Nat.ofDigitChars_ten_toDigits

/-- **A capacity in decimal** is read back. -/
theorem parseMaxOutputBytes_decimalDigits {n : ℕ} (h : 0 < n ∧ n ≤ maxOutputCapacityBytes) :
    parseMaxOutputBytes (decimalDigits n) = some n := by
  have hne : decimalDigits n ≠ [] := by
    simp [decimalDigits]
  have hdigits : ∀ b ∈ decimalDigits n, isDigit b = true :=
    fun b hb => isDigit_of_mem_decimalDigits hb
  have hbuffer : (CStr.ofBuffer (decimalDigits n)).bytes = decimalDigits n := by
    refine List.takeWhile_eq_self_iff.mpr fun b hb => bne_iff_ne.mpr ?_
    rintro rfl
    exact absurd (hdigits 0 hb) (by decide)
  have hsmall : n < 2 ^ 64 := by
    have hmax : maxOutputCapacityBytes < 2 ^ 64 := by decide
    omega
  have hread : strtoul (CStr.ofBuffer (decimalDigits n)) = some n := by
    rw [strtoul_of_digits (by rw [hbuffer]; exact hdigits), hbuffer]
    unfold strtoulDigits
    rw [digitsValue_decimalDigits, if_pos ⟨hne, List.all_eq_true.mpr hdigits, hsmall⟩]
  unfold parseMaxOutputBytes
  rw [hread, Option.filter_some]
  refine if_pos ?_
  simp only [Bool.and_eq_true, bne_iff_ne, decide_eq_true_eq]
  exact ⟨by omega, h.2⟩

end WorkerApp
end AsynCS
