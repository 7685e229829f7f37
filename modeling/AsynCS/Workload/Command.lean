import AsynCS.Lib.Decimal
import AsynCS.Lib.Json
import AsynCS.Lib.QuotedText

/-!
# The command of the representative workloads

`parse_command` finds the members of its command by searching for their quoted keys.

* `fieldValue`, `stringField`, `u64Field`, `parseCommand`.
* `FlatObject`, `CommandObject`: the JSON objects that a command can be, with their text.
* `fieldValue_text`: what the search for a key finds in such a text.
* `reads_iff`: the objects that are read as they are meant.
-/

namespace AsynCS
namespace Workload

/-! ## The parser -/

/-- `char::is_whitespace` -/
def isWhitespace (c : Char) : Bool :=
  (9 ≤ c.toNat && c.toNat ≤ 13) || c.toNat == 32 || c.toNat == 0x85 || c.toNat == 0xa0 ||
    c.toNat == 0x1680 || (0x2000 ≤ c.toNat && c.toNat ≤ 0x200a) || c.toNat == 0x2028 ||
    c.toNat == 0x2029 || c.toNat == 0x202f || c.toNat == 0x205f || c.toNat == 0x3000

/-- `trim_start` -/
def trimStart (t : Text) : Text := t.dropWhile isWhitespace

/-- `strip_prefix` with one character. -/
def stripPrefix (c : Char) (t : Text) : Option Text :=
  if t.head? = some c then some t.tail else none

/-- `field_value` -/
def fieldValue (input key : Text) : Except String Text := do
  let remainder ← orError (behindFirst (quoted '"' key) input) "missing field"
  let remainder ← orError (stripPrefix ':' (trimStart remainder)) "missing field separator"
  .ok (trimStart remainder)

/-- What is in front of the first quote. -/
def beforeQuote (t : Text) : Option Text := if '"' ∈ t then some (t.takeWhile (· != '"')) else none

/-- `string_field` -/
def stringField (input key : Text) : Except String Text := do
  let remainder ← fieldValue input key
  let remainder ← orError (stripPrefix '"' remainder) "invalid string field"
  let value ← orError (beforeQuote remainder) "unterminated string field"
  check ('\\' ∉ value) "escaped command strings are not supported"
  .ok value

/-- `digits.parse()` of ASCII digits into a `u64`. -/
def parseU64 (digits : Text) : Option UInt64 :=
  let value := Nat.ofDigitChars 10 digits 0
  if value < 2 ^ 64 then some (UInt64.ofNat value) else none

/-- `u64_field` -/
def u64Field (input key : Text) : Except String UInt64 := do
  let remainder ← fieldValue input key
  let digits := remainder.takeWhile Char.isDigit
  check (digits ≠ []) "invalid integer field"
  orError (parseU64 digits) "invalid integer field"

/-- `Command` -/
structure Command where
  logicalRequestId : Text
  ordinal : UInt64
  phase : String
  workloadCode : Char
  deriving DecidableEq

/-- The phase of a command. -/
def phaseOf (p : Text) : Option String :=
  if p = ['p'] then some "correctness_probe"
  else if p = ['m'] then some "measured"
  else none

/-- The code of a workload. -/
def workloadCodeOf (w : Text) : Option Char :=
  if w = ['d'] then some 'd'
  else if w = ['g'] then some 'g'
  else if w = ['s'] then some 's'
  else none

/-- `parse_command` -/
def parseCommand (input : Bytes) : Except String Command := do
  let text ← orError (utf8Decode input) "command is not utf8"
  let schema ← stringField text ['s']
  check (schema = ['v', '1']) "command schema mismatch"
  let phase ← orError (phaseOf (← stringField text ['p'])) "command phase mismatch"
  let workloadCode ← orError (workloadCodeOf (← stringField text ['w'])) "command workload mismatch"
  let logicalRequestId ← stringField text ['a']
  let ordinal ← u64Field text ['o']
  .ok ⟨logicalRequestId, ordinal, phase, workloadCode⟩

/-! ## The objects -/

/-- White space of JSON. -/
structure JsonSpace where
  text : Text
  blank : ∀ c ∈ text, c = ' ' ∨ c = '\t' ∨ c = '\n' ∨ c = '\r'

/-- A string of JSON without escapes. -/
structure PlainString where
  text : Text
  plain : ∀ c ∈ text, c ≠ '"' ∧ c ≠ '\\'

/-- A number or a literal of JSON. -/
structure Scalar where
  text : Text
  plain : ∀ c ∈ text, c.isAlphanum = true ∨ c = '+' ∨ c = '-' ∨ c = '.'

/-- A value that is no object and no array. -/
inductive FlatValue where
  | string (s : PlainString)
  | integer (n : ℕ)
  | scalar (s : Scalar)

/-- The text of a value. -/
def FlatValue.render : FlatValue → Text
  | string s => quoted '"' s.text
  | integer n => Nat.toDigits 10 n
  | scalar s => s.text

/-- A member with the white space around its parts. -/
structure Member where
  before : JsonSpace
  key : PlainString
  beforeColon : JsonSpace
  afterColon : JsonSpace
  value : FlatValue
  behind : JsonSpace

/-- The text behind the key of a member. -/
def Member.renderValue (m : Member) (rest : Text) : Text :=
  m.beforeColon.text ++ ':' :: (m.afterColon.text ++ (m.value.render ++ (m.behind.text ++ rest)))

/-- The text of a member. -/
def Member.render (m : Member) (rest : Text) : Text :=
  m.before.text ++ (quoted '"' m.key.text ++ m.renderValue rest)

/-- The members behind the first one, and the end of the object. -/
def renderRest (behind : JsonSpace) : List Member → Text
  | [] => '}' :: behind.text
  | m :: ms => ',' :: m.render (renderRest behind ms)

/-- A flat object of JSON with at least one member. -/
structure FlatObject where
  before : JsonSpace
  first : Member
  rest : List Member
  behind : JsonSpace
  distinct : ((first :: rest).map fun m => m.key.text).Nodup

namespace FlatObject

/-- The members. -/
def members (obj : FlatObject) : List Member := obj.first :: obj.rest

/-- The text of an object. -/
def render (obj : FlatObject) : Text :=
  obj.before.text ++ '{' :: obj.first.render (renderRest obj.behind obj.rest)

/-- The object has this member. -/
def Has (obj : FlatObject) (key : Text) (value : FlatValue) : Prop :=
  ∃ m ∈ obj.members, m.key.text = key ∧ m.value = value

end FlatObject

/-- An object with the members of a command. -/
structure CommandObject extends FlatObject where
  a : PlainString
  p : PlainString
  s : PlainString
  w : PlainString
  o : ℕ
  has_a : toFlatObject.Has ['a'] (.string a)
  has_p : toFlatObject.Has ['p'] (.string p)
  has_s : toFlatObject.Has ['s'] (.string s)
  has_w : toFlatObject.Has ['w'] (.string w)
  has_o : toFlatObject.Has ['o'] (.integer o)

/-- The command that an object means. -/
def CommandObject.command (c : CommandObject) : Option Command := do
  let phase ← phaseOf c.p.text
  let workloadCode ← workloadCodeOf c.w.text
  if c.s.text = ['v', '1'] ∧ c.o < 2 ^ 64 then
    some ⟨c.a.text, UInt64.ofNat c.o, phase, workloadCode⟩
  else none

/-- The object is read as it is meant: `parse_command` succeeds when it is a command, and then with
the values of its members. -/
def CommandObject.Reads (c : CommandObject) : Prop :=
  ∀ command, parseCommand (utf8 c.render) = .ok command ↔ c.command = some command

/-- A string in front of the member `key` is the text of the key. -/
def FlatObject.Shadowed (obj : FlatObject) (key : Text) : Prop :=
  ∃ before m behind, obj.members = before ++ m :: behind ∧ m.key.text = key ∧
    ∃ m' ∈ before, ∃ s, m'.value = .string s ∧ s.text = key

/-! ## The text of an object -/

/-- The members of an object, and its end. -/
def renderMembers (behind : JsonSpace) : List Member → Text
  | [] => []
  | m :: ms => m.render (renderRest behind ms)

theorem FlatObject.render_eq (obj : FlatObject) :
    obj.render = (obj.before.text ++ ['{']) ++ renderMembers obj.behind obj.members := by
  rw [FlatObject.render, List.append_assoc, List.singleton_append]
  rfl

theorem isWhitespace_of_blank {c : Char} (h : c = ' ' ∨ c = '\t' ∨ c = '\n' ∨ c = '\r') :
    isWhitespace c = true := by
  rcases h with rfl | rfl | rfl | rfl <;> decide

theorem quote_notMem_space (sp : JsonSpace) : '"' ∉ sp.text := by
  intro hmem
  have hblank := sp.blank _ hmem
  revert hblank
  decide

theorem quote_notMem_plain (s : PlainString) : '"' ∉ s.text := fun hmem => (s.plain _ hmem).1 rfl

theorem quote_notMem_scalar (s : Scalar) : '"' ∉ s.text := by
  intro hmem
  have hplain := s.plain _ hmem
  revert hplain
  decide

theorem quote_notMem_digits (n : ℕ) : '"' ∉ Nat.toDigits 10 n := by
  intro hmem
  have hdigit := Nat.isDigit_of_mem_toDigits (by decide) le_rfl hmem
  revert hdigit
  decide

/-- White space in front of a text is trimmed. -/
theorem trimStart_space (sp : JsonSpace) {c : Char} (hc : isWhitespace c = false) (t : Text) :
    trimStart (sp.text ++ c :: t) = c :: t := by
  have hblank : ∀ d ∈ sp.text, isWhitespace d = true := fun d hd =>
    isWhitespace_of_blank (sp.blank d hd)
  rw [trimStart, List.dropWhile_append_of_pos hblank,
    List.dropWhile_cons_of_neg (by rw [hc]; exact Bool.false_ne_true)]

/-- What is behind a value: the end of the object, or the next member. -/
theorem exists_renderRest (behind : JsonSpace) (ms : List Member) :
    ∃ c t, renderRest behind ms = c :: t ∧ (c = ',' ∨ c = '}') := by
  cases ms with
  | nil => exact ⟨_, _, rfl, Or.inr rfl⟩
  | cons m ms => exact ⟨_, _, rfl, Or.inl rfl⟩

theorem isWhitespace_of_digit {c : Char} (h : 48 ≤ c.toNat ∧ c.toNat ≤ 57) :
    isWhitespace c = false := by
  simp only [isWhitespace, Bool.or_eq_false_iff, Bool.and_eq_false_iff, decide_eq_false_iff_not,
    beq_eq_false_iff_ne]
  omega

/-- No digit follows a value. -/
theorem takeWhile_behind (behind end' : JsonSpace) (ms : List Member) :
    (behind.text ++ renderRest end' ms).takeWhile Char.isDigit = [] := by
  obtain ⟨c, t, hrest, hc⟩ := exists_renderRest end' ms
  rw [hrest]
  cases hsp : behind.text with
  | nil =>
    rw [List.nil_append]
    rcases hc with rfl | rfl <;> exact List.takeWhile_cons_of_neg (by decide)
  | cons d ds =>
    have hblank := behind.blank d (by rw [hsp]; exact List.mem_cons_self)
    rw [List.cons_append]
    rcases hblank with rfl | rfl | rfl | rfl <;> exact List.takeWhile_cons_of_neg (by decide)

/-! ## The search for a key -/

section Search
variable {x : Char}

/-- **A member** with the key ends the search. -/
theorem behindFirst_key {m : Member} (hm : m.key.text = [x]) (rest : Text) :
    behindFirst (quoted '"' [x]) (m.render rest) = some (m.renderValue rest) := by
  rw [Member.render, behindFirst_gap (quote_notMem_space m.before), hm, behindFirst_word]

/-- In front of the member with a key there is no other one with it. -/
theorem key_ne_of_mem_before {obj : FlatObject} {before behind : List Member} {m : Member}
    (hobj : obj.members = before ++ m :: behind) (hkey : m.key.text = [x]) :
    ∀ m' ∈ before, m'.key.text ≠ [x] := by
  intro m' hm' hkey'
  have hdistinct := obj.distinct
  rw [show obj.first :: obj.rest = obj.members from rfl, hobj, List.map_append, List.map_cons]
    at hdistinct
  exact (List.nodup_append.mp hdistinct).2.2 _ (List.mem_map_of_mem hm') _ List.mem_cons_self
    (hkey'.trans hkey.symm)

variable (hx : x.isAlpha = true)
include hx

theorem quote_notMem_letter : '"' ∉ [x] := by
  intro hmem
  obtain rfl := List.mem_singleton.mp hmem
  exact absurd hx (by decide)

/-- A letter does not follow white space and a sign of the syntax. -/
theorem not_prefix_space (sp : JsonSpace) {c : Char} (hc : c.isAlpha = false) (t : Text) :
    ¬ [x] ++ ['"'] <+: sp.text ++ c :: t := by
  have hne : ∀ d : Char, d.isAlpha = false → x ≠ d := by
    rintro d hd rfl
    exact absurd hx (by rw [hd]; exact Bool.false_ne_true)
  intro hprefix
  cases hsp : sp.text with
  | nil =>
    rw [hsp] at hprefix
    exact hne c hc (List.cons_prefix_cons.mp hprefix).1
  | cons d ds =>
    rw [hsp] at hprefix
    have hblank := sp.blank d (by rw [hsp]; exact List.mem_cons_self)
    have hd : d.isAlpha = false := by
      rcases hblank with rfl | rfl | rfl | rfl <;> decide
    exact hne d hd (List.cons_prefix_cons.mp hprefix).1

/-- The search passes another key. -/
theorem behindFirst_other {m : Member} (hm : m.key.text ≠ [x]) (rest : Text) :
    behindFirst (quoted '"' [x]) (m.render rest) =
      behindFirst (quoted '"' [x]) (m.value.render ++ (m.behind.text ++ rest)) := by
  have hcolon : '"' ∉ m.beforeColon.text ++ ':' :: m.afterColon.text := by
    rw [List.mem_append, List.mem_cons, not_or, not_or]
    exact ⟨quote_notMem_space _, by decide, quote_notMem_space _⟩
  have hvalue : m.renderValue rest = (m.beforeColon.text ++ ':' :: m.afterColon.text) ++
      (m.value.render ++ (m.behind.text ++ rest)) := by
    rw [Member.renderValue, List.append_assoc, List.cons_append]
  have hnext : ¬ [x] ++ ['"'] <+: m.renderValue rest :=
    not_prefix_space hx m.beforeColon (by decide) _
  rw [Member.render, behindFirst_gap (quote_notMem_space m.before),
    behindFirst_quoted (quote_notMem_plain m.key) (quote_notMem_letter hx) hm hnext, hvalue,
    behindFirst_gap hcolon]

/-- **A string** that is the text of the key ends the search. -/
theorem behindFirst_shadow {m : Member} (hm : m.key.text ≠ [x]) {s : PlainString}
    (hs : m.value = .string s) (hx' : s.text = [x]) (rest : Text) :
    behindFirst (quoted '"' [x]) (m.render rest) = some (m.behind.text ++ rest) := by
  rw [behindFirst_other hx hm, hs, FlatValue.render, hx', behindFirst_word]

/-- The search passes every other member. -/
theorem behindFirst_pass {m : Member} (hm : m.key.text ≠ [x])
    (hv : ∀ s, m.value = .string s → s.text ≠ [x]) (behind : JsonSpace) (ms : List Member) :
    behindFirst (quoted '"' [x]) (m.render (renderRest behind ms)) =
      behindFirst (quoted '"' [x]) (renderRest behind ms) := by
  obtain ⟨c, t, hrest, hc⟩ := exists_renderRest behind ms
  have hletter : c.isAlpha = false := by
    rcases hc with rfl | rfl <;> decide
  rw [behindFirst_other hx hm]
  cases hvalue : m.value with
  | string s =>
    rw [FlatValue.render, behindFirst_quoted (quote_notMem_plain s) (quote_notMem_letter hx)
      (hv s hvalue) (by rw [hrest]; exact not_prefix_space hx _ hletter _),
      behindFirst_gap (quote_notMem_space _)]
  | integer n =>
    rw [FlatValue.render, behindFirst_gap (quote_notMem_digits n),
      behindFirst_gap (quote_notMem_space _)]
  | scalar s =>
    rw [FlatValue.render, behindFirst_gap (quote_notMem_scalar s),
      behindFirst_gap (quote_notMem_space _)]

/-- The search goes on to the first member with the key, or with a string that is its text. -/
theorem behindFirst_members {before : List Member}
    (hbefore : ∀ m ∈ before, m.key.text ≠ [x] ∧ ∀ s, m.value = .string s → s.text ≠ [x])
    (behind : JsonSpace) (m : Member) (ms : List Member) :
    behindFirst (quoted '"' [x]) (renderMembers behind (before ++ m :: ms)) =
      behindFirst (quoted '"' [x]) (m.render (renderRest behind ms)) := by
  induction before with
  | nil => rfl
  | cons m' before ih =>
    obtain ⟨hkey, hvalue⟩ := hbefore m' List.mem_cons_self
    obtain ⟨first, rest, hlist⟩ : ∃ first rest, before ++ m :: ms = first :: rest :=
      List.exists_cons_of_ne_nil (by simp)
    have hcomma : renderRest behind (before ++ m :: ms) =
        [','] ++ renderMembers behind (before ++ m :: ms) := by
      rw [hlist]
      rfl
    show behindFirst _ (m'.render (renderRest behind (before ++ m :: ms))) = _
    rw [behindFirst_pass hx hkey hvalue, hcomma, behindFirst_gap (by decide),
      ih fun m'' hm'' => hbefore m'' (List.mem_cons_of_mem m' hm'')]

/-- **The search in an object.**  Behind members without the key and without a string that is its
text, the search ends in the next one. -/
theorem behindFirst_render {obj : FlatObject} {before behind : List Member} {m : Member}
    (hobj : obj.members = before ++ m :: behind)
    (hbefore : ∀ m ∈ before, m.key.text ≠ [x] ∧ ∀ s, m.value = .string s → s.text ≠ [x]) :
    behindFirst (quoted '"' [x]) obj.render =
      behindFirst (quoted '"' [x]) (m.render (renderRest obj.behind behind)) := by
  have hopen : '"' ∉ obj.before.text ++ ['{'] := by
    rw [List.mem_append, not_or]
    exact ⟨quote_notMem_space _, by decide⟩
  rw [obj.render_eq, behindFirst_gap hopen, hobj, behindFirst_members hx hbefore]

/-- **A key that is not shadowed**: what is found begins with the value of its member. -/
theorem fieldValue_of_not_shadowed {obj : FlatObject} (h : ¬ obj.Shadowed [x]) {value : FlatValue}
    (hvalue : obj.Has [x] value) {c : Char} {t : Text} (hrender : value.render = c :: t)
    (hc : isWhitespace c = false) :
    ∃ behind : JsonSpace, ∃ ms : List Member, fieldValue obj.render [x] =
      .ok (value.render ++ (behind.text ++ renderRest obj.behind ms)) := by
  obtain ⟨m, hm, hkey, rfl⟩ := hvalue
  obtain ⟨before, behind, hobj⟩ := List.append_of_mem hm
  have hbefore : ∀ m' ∈ before, m'.key.text ≠ [x] ∧ ∀ s, m'.value = .string s → s.text ≠ [x] := by
    intro m' hm'
    exact ⟨key_ne_of_mem_before hobj hkey m' hm', fun s hs htext =>
      h ⟨before, m, behind, hobj, hkey, m', hm', s, hs, htext⟩⟩
  refine ⟨m.behind, behind, ?_⟩
  rw [fieldValue, behindFirst_render hx hobj hbefore, behindFirst_key hkey]
  show (orError (stripPrefix ':' (trimStart (m.renderValue _))) _ >>= _) = _
  rw [Member.renderValue, trimStart_space _ (by decide)]
  show Except.ok (trimStart (m.afterColon.text ++ (m.value.render ++ _))) = _
  rw [hrender, List.cons_append, trimStart_space _ hc]

/-- **A shadowed key** is not followed by a colon. -/
theorem fieldValue_of_shadowed {obj : FlatObject} (h : obj.Shadowed [x]) :
    fieldValue obj.render [x] = .error "missing field separator" := by
  obtain ⟨before, m, behind, hobj, hkey, m', hm', s, hs, htext⟩ := h
  -- the first of the strings in front of the key that are its text
  classical
  obtain ⟨first, hfind⟩ : ∃ first, before.find?
      (fun m => decide (∃ s, m.value = .string s ∧ s.text = [x])) = some first :=
    Option.isSome_iff_exists.mp
      (List.find?_isSome.mpr ⟨m', hm', decide_eq_true ⟨s, hs, htext⟩⟩)
  obtain ⟨hfirst, before', behind', hbefore, hpass⟩ := List.find?_eq_some_iff_append.mp hfind
  obtain ⟨s', hs', htext'⟩ := of_decide_eq_true hfirst
  have hkeys := key_ne_of_mem_before hobj hkey
  have hobj' : obj.members = before' ++ first :: (behind' ++ m :: behind) := by
    rw [hobj, hbefore, List.append_assoc, List.cons_append]
  have hskip : ∀ m'' ∈ before', m''.key.text ≠ [x] ∧
      ∀ s, m''.value = .string s → s.text ≠ [x] := by
    intro m'' hm''
    refine ⟨hkeys m'' (by rw [hbefore]; exact List.mem_append_left _ hm''), fun s hs htext => ?_⟩
    have hnot := hpass m'' hm''
    rw [Bool.not_eq_true', decide_eq_false_iff_not] at hnot
    exact hnot ⟨s, hs, htext⟩
  have hfirstKey : first.key.text ≠ [x] :=
    hkeys first (by rw [hbefore]; exact List.mem_append_right _ List.mem_cons_self)
  obtain ⟨c, t, hrest, hc⟩ := exists_renderRest obj.behind (behind' ++ m :: behind)
  have hblank : isWhitespace c = false := by
    rcases hc with rfl | rfl <;> decide
  have hcolon : stripPrefix ':' (c :: t) = none := by
    rcases hc with rfl | rfl <;> rfl
  rw [fieldValue, behindFirst_render hx hobj' hskip, behindFirst_shadow hx hfirstKey hs' htext',
    hrest]
  show (orError (stripPrefix ':' (trimStart (first.behind.text ++ c :: t))) _ >>= _) = _
  rw [trimStart_space _ hblank, hcolon]
  rfl

/-- **A string member** is read exactly when its key is not shadowed. -/
theorem stringField_eq_ok_iff {obj : FlatObject} {s : PlainString} (hs : obj.Has [x] (.string s))
    {value : Text} :
    stringField obj.render [x] = .ok value ↔ ¬ obj.Shadowed [x] ∧ value = s.text := by
  by_cases h : obj.Shadowed [x]
  · rw [stringField, fieldValue_of_shadowed hx h, error_bind]
    exact ⟨fun hok => absurd hok (by simp), fun hok => absurd h hok.1⟩
  · obtain ⟨behind, ms, hfield⟩ := fieldValue_of_not_shadowed hx h hs
      (c := '"') (t := s.text ++ ['"']) rfl (by decide)
    have hvalue : FlatValue.render (.string s) ++ (behind.text ++ renderRest obj.behind ms) =
        '"' :: (s.text ++ '"' :: (behind.text ++ renderRest obj.behind ms)) := by
      rw [FlatValue.render, quoted, List.cons_append, List.append_assoc, List.singleton_append]
    have hquote : beforeQuote (s.text ++ '"' :: (behind.text ++ renderRest obj.behind ms)) =
        some s.text := by
      have htake : ∀ c ∈ s.text, (c != '"') = true := fun c hc => bne_iff_ne.mpr (s.plain c hc).1
      rw [beforeQuote, if_pos (List.mem_append_right _ List.mem_cons_self),
        List.takeWhile_append_of_pos htake, List.takeWhile_cons_of_neg (by decide),
        List.append_nil]
    have hplain : '\\' ∉ s.text := fun hmem => (s.plain _ hmem).2 rfl
    rw [stringField, hfield, hvalue]
    show (orError (beforeQuote (s.text ++ '"' :: _)) _ >>= _) = _ ↔ _
    rw [hquote, orError_some, ok_bind, check, if_pos hplain, ok_bind, Except.ok.injEq]
    exact ⟨fun heq => ⟨h, heq.symm⟩, fun heq => heq.2.symm⟩

/-- **The number** is read exactly when its key is not shadowed and it fits. -/
theorem u64Field_eq_ok_iff {obj : FlatObject} {n : ℕ} (hn : obj.Has [x] (.integer n))
    {value : UInt64} :
    u64Field obj.render [x] = .ok value ↔
      ¬ obj.Shadowed [x] ∧ n < 2 ^ 64 ∧ value = UInt64.ofNat n := by
  by_cases h : obj.Shadowed [x]
  · rw [u64Field, fieldValue_of_shadowed hx h, error_bind]
    exact ⟨fun hok => absurd hok (by simp), fun hok => absurd h hok.1⟩
  · have hdigit : ∀ c ∈ Nat.toDigits 10 n, c.isDigit = true := fun c hc =>
      Nat.isDigit_of_mem_toDigits (by decide) le_rfl hc
    obtain ⟨d, ds, hdigits⟩ := List.exists_cons_of_ne_nil (Nat.toDigits_ne_nil (n := n) (b := 10))
    have hblank : isWhitespace d = false :=
      isWhitespace_of_digit (digit_of_mem_toDigits (by rw [hdigits]; exact List.mem_cons_self))
    obtain ⟨behind, ms, hfield⟩ := fieldValue_of_not_shadowed hx h hn hdigits hblank
    have htake : (FlatValue.render (.integer n) ++
        (behind.text ++ renderRest obj.behind ms)).takeWhile Char.isDigit =
          Nat.toDigits 10 n := by
      rw [FlatValue.render, List.takeWhile_append_of_pos hdigit, takeWhile_behind, List.append_nil]
    have hparse : parseU64 (Nat.toDigits 10 n) =
        if n < 2 ^ 64 then some (UInt64.ofNat n) else none := by
      rw [parseU64, Nat.ofDigitChars_ten_toDigits]
    rw [u64Field, hfield, ok_bind]
    dsimp only
    rw [htake, check, if_pos Nat.toDigits_ne_nil, ok_bind, orError_eq_ok_iff, hparse]
    by_cases hfits : n < 2 ^ 64
    · rw [if_pos hfits, Option.some.injEq]
      exact ⟨fun heq => ⟨h, hfits, heq.symm⟩, fun heq => heq.2.2.symm⟩
    · rw [if_neg hfits]
      exact ⟨fun heq => absurd heq (by simp), fun heq => absurd heq.2.1 hfits⟩

end Search

/-! ## Commands -/

/-- The keys of a command. -/
def commandKeys : List Text := [['s'], ['p'], ['w'], ['a'], ['o']]

/-- **What `parse_command` accepts** of the objects with the members of a command: those that mean
one and have no key that is shadowed. -/
theorem parseCommand_eq_ok_iff {c : CommandObject} {command : Command} :
    parseCommand (utf8 c.render) = .ok command ↔
      (∀ key ∈ commandKeys, ¬ c.Shadowed key) ∧ c.command = some command := by
  have hdecode : utf8Decode (utf8 c.render) = some c.render := utf8Decode_eq_some_iff.mpr rfl
  simp only [parseCommand, hdecode, orError_some, ok_bind, bind_eq_ok_iff, check_eq_ok_iff,
    orError_eq_ok_iff, stringField_eq_ok_iff (show 's'.isAlpha = true by decide) c.has_s,
    stringField_eq_ok_iff (show 'p'.isAlpha = true by decide) c.has_p,
    stringField_eq_ok_iff (show 'w'.isAlpha = true by decide) c.has_w,
    stringField_eq_ok_iff (show 'a'.isAlpha = true by decide) c.has_a,
    u64Field_eq_ok_iff (show 'o'.isAlpha = true by decide) c.has_o, Except.ok.injEq,
    CommandObject.command, Option.bind_eq_bind, Option.bind_eq_some_iff,
    Option.ite_none_right_eq_some, Option.some.injEq]
  constructor
  · rintro ⟨_, ⟨hs, rfl⟩, _, hschema, _, ⟨hp, rfl⟩, phase, hphase, _, ⟨hw, rfl⟩, code, hcode,
      _, ⟨ha, rfl⟩, _, ⟨ho, hfits, rfl⟩, rfl⟩
    refine ⟨?_, phase, hphase, code, hcode, ⟨hschema, hfits⟩, rfl⟩
    intro key hkey
    simp only [commandKeys, List.mem_cons, List.not_mem_nil, or_false] at hkey
    rcases hkey with rfl | rfl | rfl | rfl | rfl <;> assumption
  · rintro ⟨hkeys, phase, hphase, code, hcode, ⟨hschema, hfits⟩, rfl⟩
    exact ⟨_, ⟨hkeys _ (by decide), rfl⟩, (), hschema, _, ⟨hkeys _ (by decide), rfl⟩, phase, hphase,
      _, ⟨hkeys _ (by decide), rfl⟩, code, hcode, _, ⟨hkeys _ (by decide), rfl⟩, _,
      ⟨hkeys _ (by decide), hfits, rfl⟩, rfl⟩

/-- **Which objects are read as they are meant**: those that mean no command, and those in which no
string in front of a member of the command is the text of its key. -/
theorem reads_iff (c : CommandObject) :
    c.Reads ↔ (c.command ≠ none → ∀ key ∈ commandKeys, ¬ c.Shadowed key) := by
  constructor
  · intro hreads hcommand
    obtain ⟨command, hsome⟩ := Option.ne_none_iff_exists'.mp hcommand
    exact (parseCommand_eq_ok_iff.mp ((hreads command).mpr hsome)).1
  · intro h command
    rw [parseCommand_eq_ok_iff]
    constructor
    · exact fun hok => hok.2
    · intro hsome
      exact ⟨h (by rw [hsome]; exact Option.some_ne_none command), hsome⟩

/-! ## Objects as they are sent -/

theorem plain_filter (t : Text) :
    ∀ c ∈ t.filter (fun c => c != '"' && c != '\\'), c ≠ '"' ∧ c ≠ '\\' := by
  intro c hc
  have hkept := (List.mem_filter.mp hc).2
  rw [Bool.and_eq_true, bne_iff_ne, bne_iff_ne] at hkept
  exact hkept

/-- The string of a text without quotes and escapes. -/
def PlainString.ofText (t : Text) : PlainString := ⟨_, plain_filter t⟩

theorem blank_nil : ∀ c ∈ ([] : Text), c = ' ' ∨ c = '\t' ∨ c = '\n' ∨ c = '\r' :=
  fun _ hc => absurd hc List.not_mem_nil

/-- No white space. -/
def JsonSpace.none : JsonSpace := ⟨[], blank_nil⟩

/-- A member without white space. -/
def Member.compact (key : Text) (value : FlatValue) : Member :=
  ⟨.none, .ofText key, .none, .none, value, .none⟩

section Compact
variable (a p s w : PlainString) (o : ℕ)

/-- The members of a command in the order of their keys. -/
def compactMembers : List Member :=
  [.compact ['o'] (.integer o), .compact ['p'] (.string p), .compact ['s'] (.string s),
    .compact ['w'] (.string w)]

theorem compact_distinct : ((Member.compact ['a'] (.string a) :: compactMembers p s w o).map
    fun m => m.key.text).Nodup := by
  show ([['a'], ['o'], ['p'], ['s'], ['w']] : List Text).Nodup
  decide

/-- A command without white space, its members in the order of their keys. -/
def compactObject : FlatObject :=
  ⟨.none, .compact ['a'] (.string a), compactMembers p s w o, .none, compact_distinct a p s w o⟩

theorem compact_has_a : (compactObject a p s w o).Has ['a'] (.string a) :=
  ⟨_, List.mem_cons_self, rfl, rfl⟩

theorem compact_has_o : (compactObject a p s w o).Has ['o'] (.integer o) :=
  ⟨_, List.mem_cons_of_mem _ List.mem_cons_self, rfl, rfl⟩

theorem compact_has_p : (compactObject a p s w o).Has ['p'] (.string p) :=
  ⟨_, List.mem_cons_of_mem _ (List.mem_cons_of_mem _ List.mem_cons_self), rfl, rfl⟩

theorem compact_has_s : (compactObject a p s w o).Has ['s'] (.string s) :=
  ⟨_, List.mem_cons_of_mem _ (List.mem_cons_of_mem _ (List.mem_cons_of_mem _
    List.mem_cons_self)), rfl, rfl⟩

theorem compact_has_w : (compactObject a p s w o).Has ['w'] (.string w) :=
  ⟨_, List.mem_cons_of_mem _ (List.mem_cons_of_mem _ (List.mem_cons_of_mem _
    (List.mem_cons_of_mem _ List.mem_cons_self))), rfl, rfl⟩

/-- The command of `compactObject`. -/
def CommandObject.compact : CommandObject where
  toFlatObject := compactObject a p s w o
  a := a
  p := p
  s := s
  w := w
  o := o
  has_a := compact_has_a a p s w o
  has_p := compact_has_p a p s w o
  has_s := compact_has_s a p s w o
  has_w := compact_has_w a p s w o
  has_o := compact_has_o a p s w o

end Compact

/-- A command with the request id `p`. -/
def shadowedCommand : CommandObject :=
  .compact (.ofText ['p']) (.ofText ['m']) (.ofText ['v', '1']) (.ofText ['d']) 1

example : shadowedCommand.render =
    "\x7b\"a\":\"p\",\"o\":1,\"p\":\"m\",\"s\":\"v1\",\"w\":\"d\"\x7d".toList := by
  decide

/-- **Not every command is read**: the request id `p` is taken for the key of the phase. -/
theorem shadowedCommand_not_read : ¬ ∀ c : CommandObject, c.Reads := by
  intro hall
  have hcommand : shadowedCommand.command =
      some ⟨['p'], 1, "measured", 'd'⟩ := by decide
  have hshadowed : shadowedCommand.Shadowed ['p'] :=
    ⟨[.compact ['a'] (.string (.ofText ['p'])), .compact ['o'] (.integer 1)],
      .compact ['p'] (.string (.ofText ['m'])), _, rfl, rfl,
      _, List.mem_cons_self, _, rfl, rfl⟩
  have hok := (hall shadowedCommand _).mpr hcommand
  exact (parseCommand_eq_ok_iff.mp hok).1 ['p'] (by decide) hshadowed

end Workload
end AsynCS
