import AsynCS.Kms.Server
import AsynCS.Lib.FileLines
import AsynCS.Worker.Encoding

/-!
# The MRENCLAVE allow-list of the KMS

`load_policy_from_file` reads the allow-list with `fgets` into a buffer of 128 bytes, scans 32 pairs
of digits from every line that is long enough, and keeps ten measurements.

* `AllowedTable`, `addAllowedMrenclave`, `checkMrenclavePolicy`: the table.
* `sscanf2x`, `parseMrenclave`, `loadLine`, `loadPolicyFromFile`: the loader.
* `HasEntry`: the measurements that a file lists.
* `entries_loadPolicyFromFile`: what the table holds; `hasEntry_iff`: where the entries are.
* `policyExact_iff`: the files whose entries are the measurements that pass the check.
* `policyDenied_of_not_hasEntry`: the server behind such a file.
-/

namespace AsynCS
namespace Kms

open FileLines

/-! ## The table -/

/-- `MAX_ALLOWED_ENCLAVES` -/
def maxAllowedEnclaves : ℕ := 10

/-- `g_allowed_mrenclaves` with `g_num_allowed_enclaves`. -/
structure AllowedTable where
  entries : List (Block 32)
  fits : entries.length ≤ maxAllowedEnclaves

/-- The table and `g_policy_enabled`. -/
structure MrenclavePolicy where
  allowed : AllowedTable
  enabled : Bool

namespace AllowedTable

theorem fits_nil : ([] : List (Block 32)).length ≤ maxAllowedEnclaves := Nat.zero_le _

/-- The table of a new process. -/
def empty : AllowedTable := ⟨[], fits_nil⟩

theorem fits_concat {l : List (Block 32)} (h : l.length < maxAllowedEnclaves) (m : Block 32) :
    (l ++ [m]).length ≤ maxAllowedEnclaves := by
  rw [List.length_append, List.length_singleton]
  omega

/-- `add_allowed_mrenclave`: a full table drops the measurement. -/
def addAllowedMrenclave (t : AllowedTable) (m : Block 32) : AllowedTable :=
  if h : t.entries.length < maxAllowedEnclaves then ⟨t.entries ++ [m], fits_concat h m⟩ else t

/-- The table keeps the first ten. -/
theorem entries_addAllowedMrenclave (t : AllowedTable) (m : Block 32) :
    (t.addAllowedMrenclave m).entries = (t.entries ++ [m]).take maxAllowedEnclaves := by
  unfold addAllowedMrenclave
  split
  · rename_i h
    exact (List.take_of_length_le (fits_concat h m)).symm
  · rename_i h
    have hfull : t.entries.length = maxAllowedEnclaves := le_antisymm t.fits (Nat.le_of_not_lt h)
    exact (List.take_left' hfull).symm

end AllowedTable

/-- `check_mrenclave_policy`. -/
def MrenclavePolicy.checkMrenclavePolicy (p : MrenclavePolicy) (m : Block 32) : Bool :=
  if !p.enabled then true else p.allowed.entries.any fun a => a == m

/-! ## The loader -/

/-- What the language leaves open of a scan. -/
structure ScanfEnv where
  /-- What `byte` holds before conversion `i` of the `k`-th line that is scanned. -/
  uninit : ℕ → ℕ → UInt8
  /-- `0x` without a digit converts to 0, as some libraries have it. -/
  bareHexPrefix : Bool

/-- `isspace` -/
def isSpace (c : UInt8) : Bool := c == 32 || (9 ≤ c && c ≤ 13)

/-- `sscanf(s, "%2x", &byte)` with the cast of `byte`; nothing when no conversion is made. -/
def sscanf2x (env : ScanfEnv) (s : Bytes) : Option UInt8 :=
  match s.dropWhile isSpace with
  | [] => none
  | [a] => (Worker.hexNibble a).map UInt8.ofNat
  | a :: b :: _ =>
    if a = 43 then (Worker.hexNibble b).map UInt8.ofNat
    else if a = 45 then (Worker.hexNibble b).map fun d => -UInt8.ofNat d
    else
      match Worker.hexNibble a, Worker.hexNibble b with
      | none, _ => none
      | some hi, some lo => some (UInt8.ofNat (hi * 16 + lo))
      | some hi, none =>
        if a = 48 ∧ (b = 120 ∨ b = 88) then (if env.bareHexPrefix then some 0 else none)
        else some (UInt8.ofNat hi)

/-- The 32 conversions of a line. -/
def parseMrenclave (env : ScanfEnv) (k : ℕ) (line : Bytes) : Block 32 :=
  Block.ofBytes 32 ((List.range 32).map fun i =>
    (sscanf2x env (line.drop (i * 2))).getD (env.uninit k i))

/-- The string in the buffer without its newline. -/
def lineOf (piece : Bytes) : Bytes := piece.takeWhile fun x => x != 0 && x != 10

/-- The table while the file is read, and how many lines were scanned. -/
structure Loading where
  table : AllowedTable
  scanned : ℕ

/-- One turn of the loop. -/
def loadLine (env : ScanfEnv) (s : Loading) (piece : Bytes) : Loading :=
  let line := lineOf piece
  if line.head? = none ∨ line.head? = some 35 then s
  else if 64 ≤ line.length then
    ⟨s.table.addAllowedMrenclave (parseMrenclave env s.scanned line), s.scanned + 1⟩
  else s

/-- `load_policy_from_file`, with no content for a file that is not there. -/
def loadPolicyFromFile (env : ScanfEnv) (file : Option Bytes) : MrenclavePolicy :=
  match file with
  | none => ⟨AllowedTable.empty, false⟩
  | some b =>
    let s := (fgetsAll 10 127 b.length b).foldl (loadLine env) ⟨AllowedTable.empty, 0⟩
    ⟨s.table, decide (0 < s.table.entries.length)⟩

/-! ## The entries of a file -/

/-- A line of the file does not start with `#` and begins with the 64 digits of `m`. -/
def HasEntry (file : Bytes) (m : Block 32) : Prop :=
  ∃ line ∈ file.splitOn 10, line.head? ≠ some 35 ∧
    Worker.decodeHex (line.take 64) = some m.toList

/-- The file passes exactly the measurements that it has entries for. -/
def PolicyExact (env : ScanfEnv) (file : Bytes) : Prop :=
  (loadPolicyFromFile env (some file)).enabled = true ∧
    ∀ m, (loadPolicyFromFile env (some file)).checkMrenclavePolicy m = true ↔ HasEntry file m

/-- A piece that is scanned. -/
def scans (piece : Bytes) : Bool :=
  (lineOf piece).head? ≠ none ∧ (lineOf piece).head? ≠ some 35 ∧ 64 ≤ (lineOf piece).length

/-- The pieces that are scanned, with what they scan to. -/
def scannedPieces (env : ScanfEnv) (file : Bytes) : List (Piece UInt8 × Block 32) :=
  ((pieces 10 127 file).filter fun p => scans p.text).mapIdx fun k p =>
    (p, parseMrenclave env k (lineOf p.text))

/-- A piece begins a line, and the line begins with the 64 digits of `m`. -/
def BeginsEntry (p : Piece UInt8) (m : Block 32) : Prop :=
  p.start = true ∧ Worker.decodeHex (p.text.take 64) = some m.toList

/-! ## Digits -/

section Digits
open Worker

theorem le_of_hexNibble {c : UInt8} {v : ℕ} (h : hexNibble c = some v) : 48 ≤ c.toNat := by
  unfold hexNibble at h
  split at h
  · rename_i hdigit
    exact UInt8.le_iff_toNat_le.mp hdigit.1
  · split at h
    · rename_i hlower
      exact le_trans (by decide) (UInt8.le_iff_toNat_le.mp hlower.1)
    · split at h
      · rename_i hupper
        exact le_trans (by decide) (UInt8.le_iff_toNat_le.mp hupper.1)
      · cases h

theorem ne_of_hexNibble {c d : UInt8} {v : ℕ} (h : hexNibble c = some v) (hd : d.toNat < 48) :
    c ≠ d := by
  rintro rfl
  exact absurd (le_of_hexNibble h) (Nat.not_le_of_lt hd)

theorem isSpace_of_hexNibble {c : UInt8} {v : ℕ} (h : hexNibble c = some v) :
    isSpace c = false := by
  have hspace : (c == 32) = false := beq_eq_false_iff_ne.mpr (ne_of_hexNibble h (by decide))
  have hcontrol : ¬ c ≤ 13 := fun hle =>
    absurd (le_trans (le_of_hexNibble h) (UInt8.le_iff_toNat_le.mp hle)) (by decide)
  rw [isSpace, hspace, decide_eq_false hcontrol, Bool.and_false, Bool.or_false]

/-- Two digits are converted to their byte. -/
theorem sscanf2x_of_digits {env : ScanfEnv} {a b : UInt8} {hi lo : ℕ} (ha : hexNibble a = some hi)
    (hb : hexNibble b = some lo) (rest : Bytes) :
    sscanf2x env (a :: b :: rest) = some (UInt8.ofNat (hi * 16 + lo)) := by
  have hdrop : (a :: b :: rest).dropWhile isSpace = a :: b :: rest := by
    rw [List.dropWhile_cons_of_neg (by rw [isSpace_of_hexNibble ha]; exact Bool.false_ne_true)]
  rw [sscanf2x, hdrop]
  dsimp only
  rw [if_neg (ne_of_hexNibble ha (by decide)), if_neg (ne_of_hexNibble ha (by decide)), ha, hb]

/-- **Pairs of digits**: their number, and the digits of each byte. -/
theorem digits_of_decodeHex {l bs : Bytes} (h : decodeHex l = some bs) :
    l.length = bs.length * 2 ∧ (∀ c ∈ l, (hexNibble c).isSome = true) ∧
      ∀ i x, bs[i]? = some x → ∃ a b rest hi lo, l.drop (i * 2) = a :: b :: rest ∧
        hexNibble a = some hi ∧ hexNibble b = some lo ∧ x = UInt8.ofNat (hi * 16 + lo) := by
  induction l using decodeHex.induct generalizing bs with
  | case1 =>
    obtain rfl := Option.some.inj h
    exact ⟨rfl, fun _ hc => absurd hc List.not_mem_nil, fun i x hx => by cases hx⟩
  | case2 => cases h
  | case3 a b rest ih =>
    simp only [decodeHex, Option.bind_eq_bind, Option.bind_eq_some_iff] at h
    obtain ⟨hi, ha, lo, hb, decoded, hrest, hbs⟩ := h
    obtain rfl := Option.some.inj hbs
    obtain ⟨hlength, hdigits, hbytes⟩ := ih hrest
    refine ⟨?_, ?_, fun i x hx => ?_⟩
    · simp only [List.length_cons]
      omega
    · intro c hc
      rcases List.mem_cons.mp hc with rfl | hc
      · exact Option.isSome_of_eq_some ha
      · rcases List.mem_cons.mp hc with rfl | hc
        · exact Option.isSome_of_eq_some hb
        · exact hdigits c hc
    · cases i with
      | zero => exact ⟨a, b, rest, hi, lo, rfl, ha, hb, (Option.some.inj hx).symm⟩
      | succ i =>
        rw [List.getElem?_cons_succ] at hx
        obtain ⟨a', b', rest', hi', lo', hdrop, hrest'⟩ := hbytes i x hx
        refine ⟨a', b', rest', hi', lo', ?_, hrest'⟩
        rw [show (i + 1) * 2 = i * 2 + 1 + 1 by omega, List.drop_succ_cons, List.drop_succ_cons,
          hdrop]

end Digits

/-! ## The pieces that begin an entry -/

section Entries
variable {m : Block 32} {piece : Bytes}

/-- The digits of an entry are at the front, whatever is behind them. -/
theorem decodeHex_take_append (l : Bytes) :
    Worker.decodeHex ((l ++ [10]).take 64) = some m.toList ↔
      Worker.decodeHex (l.take 64) = some m.toList := by
  have hlong {b : Bytes} (h : Worker.decodeHex (b.take 64) = some m.toList) : 64 ≤ b.length := by
    have hlen := (digits_of_decodeHex h).1
    rw [List.length_take, m.toList_length] at hlen
    omega
  by_cases hl : 64 ≤ l.length
  · rw [List.take_append_of_le_length hl]
  · refine ⟨fun h => ?_, fun h => absurd (hlong h) hl⟩
    have hlen := hlong h
    rw [List.length_append, List.length_singleton] at hlen
    have hmem : (10 : UInt8) ∈ (l ++ [10]).take 64 := by
      rw [List.take_of_length_le (by rw [List.length_append, List.length_singleton]; omega)]
      exact List.mem_append_right l List.mem_cons_self
    have hdigit := (digits_of_decodeHex h).2.1 10 hmem
    exact absurd hdigit (by decide)

theorem head_ne_of_decodeHex (h : Worker.decodeHex (piece.take 64) = some m.toList) :
    piece.head? ≠ some 35 := by
  intro hhead
  obtain ⟨rest, rfl⟩ : ∃ rest, piece = 35 :: rest := by
    cases piece with
    | nil => cases hhead
    | cons c rest => exact ⟨rest, by rw [Option.some.inj hhead]⟩
  exact absurd ((digits_of_decodeHex h).2.1 35 List.mem_cons_self) (by decide)

/-- **The entries** are where the pieces that begin a line have them. -/
theorem hasEntry_iff {file : Bytes} :
    HasEntry file m ↔ ∃ p ∈ pieces 10 127 file, BeginsEntry p m := by
  have hlines : HasEntry file m ↔
      ∃ l ∈ file.splitOn 10, Worker.decodeHex (l.take 64) = some m.toList :=
    ⟨fun ⟨l, hl, _, hdigits⟩ => ⟨l, hl, hdigits⟩,
      fun ⟨l, hl, hdigits⟩ => ⟨l, hl, head_ne_of_decodeHex hdigits, hdigits⟩⟩
  have hnil : ¬ Worker.decodeHex (([] : Bytes).take 64) = some m.toList := by
    intro h
    have hlen := (digits_of_decodeHex h).1
    rw [m.toList_length] at hlen
    exact absurd hlen (by decide)
  rw [hlines]
  exact (exists_start_iff (by norm_num) hnil
    (fun l => by rw [List.take_take, min_eq_left (by norm_num)]) decodeHex_take_append file).symm

/-- The line of a piece begins with its digits. -/
theorem lineOf_of_decodeHex (h : Worker.decodeHex (piece.take 64) = some m.toList) :
    lineOf piece = piece.take 64 ++ lineOf (piece.drop 64) := by
  have hdigit : ∀ c ∈ piece.take 64, (c != 0 && c != 10) = true := by
    intro c hc
    obtain ⟨v, hv⟩ := Option.isSome_iff_exists.mp ((digits_of_decodeHex h).2.1 c hc)
    rw [Bool.and_eq_true, bne_iff_ne, bne_iff_ne]
    exact ⟨ne_of_hexNibble hv (by decide), ne_of_hexNibble hv (by decide)⟩
  conv_lhs => rw [lineOf, ← List.take_append_drop 64 piece]
  rw [List.takeWhile_append_of_pos hdigit]
  rfl

theorem length_of_decodeHex (h : Worker.decodeHex (piece.take 64) = some m.toList) :
    (piece.take 64).length = 64 := by
  rw [(digits_of_decodeHex h).1, m.toList_length]

/-- A piece that begins with digits is scanned. -/
theorem scans_of_decodeHex (h : Worker.decodeHex (piece.take 64) = some m.toList) :
    scans piece = true := by
  have hline := lineOf_of_decodeHex h
  have hlen := length_of_decodeHex h
  have hlong : 64 ≤ (lineOf piece).length := by
    rw [hline, List.length_append]
    omega
  have htake : (lineOf piece).take 64 = piece.take 64 := by
    rw [hline, List.take_left' hlen]
  have hhead : (lineOf piece).head? ≠ some 35 := head_ne_of_decodeHex (m := m) (by rwa [htake])
  have hnonempty : (lineOf piece).head? ≠ none := by
    intro hnone
    rw [List.head?_eq_none_iff.mp hnone] at hlong
    exact absurd hlong (by decide)
  rw [scans, decide_eq_true_eq]
  exact ⟨hnonempty, hhead, hlong⟩

/-- **It scans to its measurement.** -/
theorem parseMrenclave_of_decodeHex (env : ScanfEnv) (k : ℕ)
    (h : Worker.decodeHex (piece.take 64) = some m.toList) :
    parseMrenclave env k (lineOf piece) = m := by
  have hlen := length_of_decodeHex h
  have hbytes : (List.range 32).map (fun i =>
      (sscanf2x env ((lineOf piece).drop (i * 2))).getD (env.uninit k i)) = m.toList := by
    refine List.ext_getElem (by rw [List.length_map, List.length_range, m.toList_length]) ?_
    intro i hi hm
    rw [List.length_map, List.length_range] at hi
    obtain ⟨a, b, rest, hi', lo, hdrop, ha, hb, hx⟩ :=
      (digits_of_decodeHex h).2.2 i _ (List.getElem?_eq_getElem hm)
    have hpair : (lineOf piece).drop (i * 2) = a :: b :: (rest ++ lineOf (piece.drop 64)) := by
      rw [lineOf_of_decodeHex h, List.drop_append_of_le_length (by omega), hdrop]
      rfl
    rw [List.getElem_map, List.getElem_range, hpair, sscanf2x_of_digits ha hb, hx]
    rfl
  rw [parseMrenclave, hbytes, Block.ofBytes_toList]

end Entries

/-! ## What the table holds -/

section Loaded
variable {env : ScanfEnv}

theorem loadLine_eq (s : Loading) (piece : Bytes) :
    loadLine env s piece = if scans piece then
      ⟨s.table.addAllowedMrenclave (parseMrenclave env s.scanned (lineOf piece)), s.scanned + 1⟩
    else s := by
  unfold loadLine scans
  by_cases hskip : (lineOf piece).head? = none ∨ (lineOf piece).head? = some 35
  · rw [if_pos hskip, if_neg]
    rw [decide_eq_true_eq]
    rintro ⟨hnone, hcomment, -⟩
    exact hskip.elim hnone hcomment
  · rw [if_neg hskip]
    rw [not_or] at hskip
    by_cases hlong : 64 ≤ (lineOf piece).length
    · rw [if_pos hlong, if_pos (decide_eq_true ⟨hskip.1, hskip.2, hlong⟩)]
    · rw [if_neg hlong, if_neg]
      rw [decide_eq_true_eq]
      exact fun h => hlong h.2.2

/-- Cutting a list before it is lengthened, or only behind. -/
theorem take_take_append {α : Type*} (n : ℕ) (a b : List α) :
    (a.take n ++ b).take n = (a ++ b).take n := by
  rw [List.take_append, List.take_append, List.take_take, min_self, List.length_take]
  congr 2
  omega

/-- **The loop** fills the table with what the scanned pieces scan to. -/
theorem entries_foldl_loadLine (cs : List Bytes) (s : Loading) :
    (cs.foldl (loadLine env) s).table.entries =
      (s.table.entries ++ (cs.filter scans).mapIdx fun k c =>
        parseMrenclave env (s.scanned + k) (lineOf c)).take maxAllowedEnclaves := by
  induction cs generalizing s with
  | nil =>
    rw [List.filter_nil, List.mapIdx_nil, List.append_nil]
    exact (List.take_of_length_le s.table.fits).symm
  | cons c cs ih =>
    rw [List.foldl_cons, ih, loadLine_eq]
    by_cases hc : scans c = true
    · have hshift : (fun k c => parseMrenclave env (s.scanned + 1 + k) (lineOf c)) =
          fun k c => parseMrenclave env (s.scanned + (k + 1)) (lineOf c) := by
        funext k c
        rw [Nat.add_assoc, Nat.add_comm 1 k]
      rw [if_pos hc, List.filter_cons_of_pos hc, List.mapIdx_cons]
      dsimp only
      rw [AllowedTable.entries_addAllowedMrenclave, take_take_append, List.append_assoc, hshift]
      rfl
    · rw [if_neg hc, List.filter_cons_of_neg hc]

/-- **The table of a file**: what its scanned pieces scan to, up to ten. -/
theorem entries_loadPolicyFromFile (file : Bytes) :
    (loadPolicyFromFile env (some file)).allowed.entries =
      ((scannedPieces env file).take maxAllowedEnclaves).map Prod.snd := by
  have hpieces : ((pieces 10 127 file).filter fun p => scans p.text).map Piece.text =
      (fgetsAll 10 127 file.length file).filter scans := by
    rw [← markStarts_text (10 : UInt8) true (fgetsAll 10 127 file.length file), List.filter_map]
    rfl
  have hscanned : (scannedPieces env file).map Prod.snd =
      ((fgetsAll 10 127 file.length file).filter scans).mapIdx fun k c =>
        parseMrenclave env k (lineOf c) := by
    rw [← hpieces, scannedPieces]
    ext1 i
    simp only [List.getElem?_map, List.getElem?_mapIdx, Option.map_map]
    rfl
  show (((fgetsAll 10 127 file.length file).foldl (loadLine env)
    ⟨AllowedTable.empty, 0⟩).table.entries) = _
  rw [entries_foldl_loadLine, List.map_take, hscanned]
  show (([] : List (Block 32)) ++ _).take _ = _
  simp only [List.nil_append, Nat.zero_add]

end Loaded

/-! ## Exactness -/

/-- What a file must be for its table to hold its entries.  Of the pieces of at least 64 characters
that are not comments, the first ten begin entries, or scan to the measurement of one; and an entry
that begins in a later one repeats a measurement. -/
structure EntriesKept (env : ScanfEnv) (file : Bytes) : Prop where
  strays : ∀ q ∈ (scannedPieces env file).take maxAllowedEnclaves,
    (∃ m, BeginsEntry q.1 m) ∨ HasEntry file q.2
  dropped : ∀ q ∈ (scannedPieces env file).drop maxAllowedEnclaves, ∀ m, BeginsEntry q.1 m →
    ∃ kept ∈ (scannedPieces env file).take maxAllowedEnclaves, kept.2 = m

section Exact
variable {env : ScanfEnv} {file : Bytes} {m : Block 32}

/-- What a scanned piece is. -/
theorem mem_scannedPieces {q : Piece UInt8 × Block 32} (hq : q ∈ scannedPieces env file) :
    q.1 ∈ pieces 10 127 file ∧ ∃ k, q.2 = parseMrenclave env k (lineOf q.1.text) := by
  obtain ⟨k, hk, hget⟩ := List.mem_mapIdx.mp hq
  have hmem : ((pieces 10 127 file).filter fun p => scans p.text)[k] ∈ pieces 10 127 file :=
    List.mem_of_mem_filter (List.getElem_mem hk)
  rw [← hget]
  exact ⟨hmem, k, rfl⟩

/-- A piece that begins an entry is scanned, to the measurement of the entry. -/
theorem exists_scanned_of_hasEntry (h : HasEntry file m) :
    ∃ q ∈ scannedPieces env file, BeginsEntry q.1 m := by
  obtain ⟨p, hp, hbegins⟩ := hasEntry_iff.mp h
  have hfilter : p ∈ (pieces 10 127 file).filter fun p => scans p.text :=
    List.mem_filter.mpr ⟨hp, scans_of_decodeHex hbegins.2⟩
  obtain ⟨k, hk, rfl⟩ := List.getElem_of_mem hfilter
  exact ⟨_, List.mem_mapIdx.mpr ⟨k, hk, rfl⟩, hbegins⟩

theorem snd_of_beginsEntry {q : Piece UInt8 × Block 32} (hq : q ∈ scannedPieces env file)
    (h : BeginsEntry q.1 m) : q.2 = m := by
  obtain ⟨-, k, hk⟩ := mem_scannedPieces hq
  rw [hk, parseMrenclave_of_decodeHex env k h.2]

theorem hasEntry_of_beginsEntry {q : Piece UInt8 × Block 32} (hq : q ∈ scannedPieces env file)
    (h : BeginsEntry q.1 m) : HasEntry file m :=
  hasEntry_iff.mpr ⟨q.1, (mem_scannedPieces hq).1, h⟩

/-- A file with an entry switches the policy on. -/
theorem enabled_of_hasEntry (h : HasEntry file m) :
    (loadPolicyFromFile env (some file)).enabled = true := by
  obtain ⟨q, hq, -⟩ : ∃ q ∈ scannedPieces env file, BeginsEntry q.1 m :=
    exists_scanned_of_hasEntry h
  have hsome : 0 < (scannedPieces env file).length := List.length_pos_of_mem hq
  have hlen : 0 < (loadPolicyFromFile env (some file)).allowed.entries.length := by
    rw [entries_loadPolicyFromFile, List.length_map, List.length_take]
    exact lt_min (by decide) hsome
  exact decide_eq_true hlen

/-- What passes the check of an enabled policy. -/
theorem checkMrenclavePolicy_iff (h : (loadPolicyFromFile env (some file)).enabled = true) :
    (loadPolicyFromFile env (some file)).checkMrenclavePolicy m = true ↔
      ∃ q ∈ (scannedPieces env file).take maxAllowedEnclaves, q.2 = m := by
  rw [MrenclavePolicy.checkMrenclavePolicy, h, entries_loadPolicyFromFile]
  show (((scannedPieces env file).take maxAllowedEnclaves).map Prod.snd).any (fun a => a == m) =
    true ↔ _
  rw [List.any_map, List.any_eq_true]
  simp only [Function.comp_apply, beq_iff_eq]

theorem exact_of_entriesKept (h : ∃ m, HasEntry file m) (hkept : EntriesKept env file) :
    PolicyExact env file := by
  obtain ⟨m₀, hm₀⟩ := h
  have henabled : (loadPolicyFromFile env (some file)).enabled = true := enabled_of_hasEntry hm₀
  refine ⟨henabled, fun m => ?_⟩
  rw [checkMrenclavePolicy_iff henabled]
  constructor
  · rintro ⟨q, hq, rfl⟩
    rcases hkept.strays q hq with ⟨m, hbegins⟩ | hentry
    · rw [snd_of_beginsEntry (List.mem_of_mem_take hq) hbegins]
      exact hasEntry_of_beginsEntry (List.mem_of_mem_take hq) hbegins
    · exact hentry
  · intro hentry
    obtain ⟨q, hq, hbegins⟩ : ∃ q ∈ scannedPieces env file, BeginsEntry q.1 m :=
      exists_scanned_of_hasEntry hentry
    rw [← List.take_append_drop maxAllowedEnclaves (scannedPieces env file), List.mem_append] at hq
    rcases hq with htake | hdrop
    · exact ⟨q, htake, snd_of_beginsEntry (List.mem_of_mem_take htake) hbegins⟩
    · exact hkept.dropped q hdrop m hbegins

theorem entriesKept_of_exact (h : ∃ m, HasEntry file m) (hexact : PolicyExact env file) :
    EntriesKept env file := by
  obtain ⟨m₀, hm₀⟩ := h
  have henabled : (loadPolicyFromFile env (some file)).enabled = true := enabled_of_hasEntry hm₀
  constructor
  · intro q hq
    exact Or.inr ((hexact.2 q.2).mp ((checkMrenclavePolicy_iff henabled).mpr ⟨q, hq, rfl⟩))
  · intro q hq m hbegins
    have hentry := hasEntry_of_beginsEntry (List.mem_of_mem_drop hq) hbegins
    exact (checkMrenclavePolicy_iff henabled).mp ((hexact.2 m).mpr hentry)

/-- **The allow-list is parsed exactly** when no stray piece is scanned to a measurement without an
entry and no entry falls behind the tenth place. -/
theorem policyExact_iff (env : ScanfEnv) (file : Bytes) (h : ∃ m, HasEntry file m) :
    PolicyExact env file ↔ EntriesKept env file :=
  ⟨entriesKept_of_exact h, exact_of_entriesKept h⟩

end Exact

/-- A file with one entry. -/
def samplePolicyFile : Bytes := ascii "# workers\n" ++ List.replicate 64 49

/-- A library that does not convert `0x`, and a cleared `byte`. -/
def sampleScanfEnv : ScanfEnv := ⟨fun _ _ => 0, false⟩

theorem scannedPieces_samplePolicyFile : scannedPieces sampleScanfEnv samplePolicyFile =
    [(⟨true, List.replicate 64 49⟩, Block.fill 32 17)] := by
  decide +kernel

/-- Its entry passes, and nothing else does. -/
theorem samplePolicyFile_exact : PolicyExact sampleScanfEnv samplePolicyFile := by
  have hentry : HasEntry samplePolicyFile (Block.fill 32 17) :=
    ⟨List.replicate 64 49, by decide, by decide, by decide⟩
  refine (policyExact_iff sampleScanfEnv samplePolicyFile ⟨_, hentry⟩).mpr ⟨?_, ?_⟩
  · rw [scannedPieces_samplePolicyFile]
    intro q hq
    obtain rfl := List.mem_singleton.mp hq
    exact Or.inr hentry
  · rw [scannedPieces_samplePolicyFile]
    exact fun q hq => absurd hq List.not_mem_nil

/-- A comment of 191 characters, the last 64 of them digits, and an entry. -/
def longCommentFile : Bytes :=
  List.replicate 127 35 ++ (List.replicate 64 48 ++ 10 :: List.replicate 64 49)

/-- **The allow-list is not always parsed exactly**: the tail of a long comment admits a
measurement. -/
theorem longCommentFile_not_exact :
    ¬ ∀ (env : ScanfEnv) (file : Bytes), (∃ m, HasEntry file m) → PolicyExact env file := by
  intro hall
  have hentry : HasEntry longCommentFile (Block.fill 32 17) :=
    ⟨List.replicate 64 49, by decide +kernel, by decide, by decide⟩
  have hadmitted : (loadPolicyFromFile sampleScanfEnv (some longCommentFile)).checkMrenclavePolicy
      (Block.fill 32 0) = true := by
    decide +kernel
  have hnone : ¬ HasEntry longCommentFile (Block.fill 32 0) := by
    unfold HasEntry
    decide +kernel
  exact hnone (((hall sampleScanfEnv longCommentFile ⟨_, hentry⟩).2 _).mp hadmitted)

/-! ## The server behind the file -/

/-- The server with the allow-list of a file. -/
def ServeEnv.withPolicyFile (env : ServeEnv) (scan : ScanfEnv) (file : Bytes) : ServeEnv :=
  { env with checkMrenclavePolicy := (loadPolicyFromFile scan (some file)).checkMrenclavePolicy }

/-- **A measurement without an entry** is turned away, whatever else its request says. -/
theorem policyDenied_of_not_hasEntry {S : Sgx} {B : Bfibe} {env : ServeEnv} {scan : ScanfEnv}
    {file request : Bytes} {r : KeyRequest} {m : Block 32} (hkept : EntriesKept scan file)
    (hentries : ∃ m, HasEntry file m) (hrequest : readKeyRequest request = .ok r)
    (hbuild : env.simulation = false) (hquote : env.verifyQuoteDcap r.quote = some m)
    (hm : ¬ HasEntry file m) (k : Globals) :
    handleClient S B (env.withPolicyFile scan file) k request = (k, .error .policyDenied) := by
  have hexact := exact_of_entriesKept hentries hkept
  have hdenied : (env.withPolicyFile scan file).checkMrenclavePolicy m = false :=
    Bool.eq_false_iff.mpr fun h => hm ((hexact.2 m).mp h)
  have hsim : (env.withPolicyFile scan file).simulation = false := hbuild
  have hdcap : (env.withPolicyFile scan file).verifyQuoteDcap r.quote = some m := hquote
  rw [handleClient, hrequest]
  dsimp only
  rw [hsim, hdcap]
  dsimp only
  rw [hdenied]
  rfl

end Kms
end AsynCS
