import AsynCS.OpenWhisk.Invoker
import AsynCS.Proxy.Handlers

/-!
# Records as JSON documents

The database keeps a record as a document whose bytes are base64 text.

* `b64encode`: `base64.b64encode`, with `b64decode_b64encode`.
* `Document`, `documentOf`, `resultOf`: what `put_if_absent` writes and `get` reads;
  `resultOf_documentOf`.
-/

namespace AsynCS
namespace OpenWhisk

/-! ## Base64 -/

/-- The base64 characters of some bytes. -/
def b64text (b : Bytes) : Text := (Worker.base64Chars b).map fun x => Char.ofNat x.toNat

/-- `base64.b64encode(b).decode('utf-8')` -/
def b64encode (b : Bytes) : PyStr := PyStr.ofText (b64text b)

/-- The character of six bits is ASCII, it is not the pad, and it is read back. -/
theorem base64Bits_base64Char (n : ℕ) :
    Char.ofNat (Worker.base64Char n).toNat ≠ '=' ∧
      (Char.ofNat (Worker.base64Char n).toNat).toNat < 128 ∧
      Proxy.base64Bits (Char.ofNat (Worker.base64Char n).toNat) = some (n % 64) := by
  have hall : ∀ m < 64, Char.ofNat (Worker.base64Char m).toNat ≠ '=' ∧
      (Char.ofNat (Worker.base64Char m).toNat).toNat < 128 ∧
      Proxy.base64Bits (Char.ofNat (Worker.base64Char m).toNat) = some m := by decide +kernel
  have hmod : Worker.base64Char n = Worker.base64Char (n % 64) := by
    rw [Worker.base64Char, Worker.base64Char, Nat.mod_mod]
  rw [hmod]
  exact hall _ (Nat.mod_lt n (by decide))

/-- A character of the alphabet. -/
def sextet (n : ℕ) : Char := Char.ofNat (Worker.base64Char n).toNat

/-- Reading the four characters of a group. -/
theorem a2bBase64_sextet (left pads n : ℕ) (rest : Text) :
    Proxy.a2bBase64 0 left pads (sextet n :: rest) = Proxy.a2bBase64 1 (n % 64) 0 rest ∧
    Proxy.a2bBase64 1 left pads (sextet n :: rest) =
      (Proxy.a2bBase64 2 (n % 64 % 16) 0 rest).map (UInt8.ofNat (left * 4 + n % 64 / 16) :: ·) ∧
    Proxy.a2bBase64 2 left pads (sextet n :: rest) =
      (Proxy.a2bBase64 3 (n % 64 % 4) 0 rest).map (UInt8.ofNat (left * 16 + n % 64 / 4) :: ·) ∧
    Proxy.a2bBase64 3 left pads (sextet n :: rest) =
      (Proxy.a2bBase64 0 0 0 rest).map (UInt8.ofNat (left * 64 + n % 64) :: ·) := by
  obtain ⟨hpad, -, hbits⟩ := base64Bits_base64Char n
  refine ⟨?_, ?_, ?_, ?_⟩ <;> simp only [Proxy.a2bBase64, sextet, if_neg hpad, hbits]

/-- The first byte is in the first two characters, and so on. -/
theorem ofNat_quad (a b c : UInt8) {triple : ℕ}
    (h : triple = a.toNat * 65536 + b.toNat * 256 + c.toNat) :
    UInt8.ofNat (triple / 262144 % 64 * 4 + triple / 4096 % 64 / 16) = a ∧
      UInt8.ofNat (triple / 4096 % 64 % 16 * 16 + triple / 64 % 64 / 4) = b ∧
      UInt8.ofNat (triple / 64 % 64 % 4 * 64 + triple % 64) = c := by
  have ha : a.toNat < 256 := a.toNat_lt
  have hb : b.toNat < 256 := b.toNat_lt
  have hc : c.toNat < 256 := c.toNat_lt
  have h₁ : triple / 262144 % 64 * 4 + triple / 4096 % 64 / 16 = a.toNat := by omega
  have h₂ : triple / 4096 % 64 % 16 * 16 + triple / 64 % 64 / 4 = b.toNat := by omega
  have h₃ : triple / 64 % 64 % 4 * 64 + triple % 64 = c.toNat := by omega
  rw [h₁, h₂, h₃, UInt8.ofNat_toNat, UInt8.ofNat_toNat, UInt8.ofNat_toNat]
  exact ⟨rfl, rfl, rfl⟩

/-- The characters of some bytes are read back. -/
theorem a2bBase64_b64text (b : Bytes) : Proxy.a2bBase64 0 0 0 (b64text b) = some b := by
  induction b using Worker.base64Chars.induct with
  | case1 => rfl
  | case2 a =>
    set triple := a.toNat * 65536 + 0 * 256 + 0 with htriple
    obtain ⟨ha, -, -⟩ := ofNat_quad a 0 0 htriple
    have htext : b64text [a] =
        sextet (triple / 262144) :: sextet (triple / 4096) :: ['=', '='] := rfl
    rw [htext, (a2bBase64_sextet ..).1, (a2bBase64_sextet ..).2.1, ha]
    rfl
  | case3 a b =>
    set triple := a.toNat * 65536 + b.toNat * 256 + 0 with htriple
    obtain ⟨ha, hb, -⟩ := ofNat_quad a b 0 htriple
    have htext : b64text [a, b] =
        sextet (triple / 262144) :: sextet (triple / 4096) :: sextet (triple / 64) :: ['='] := rfl
    rw [htext, (a2bBase64_sextet ..).1, (a2bBase64_sextet ..).2.1, (a2bBase64_sextet ..).2.2.1,
      ha, hb]
    rfl
  | case4 a b c rest ih =>
    set triple := a.toNat * 65536 + b.toNat * 256 + c.toNat with htriple
    obtain ⟨ha, hb, hc⟩ := ofNat_quad a b c htriple
    have htext : b64text (a :: b :: c :: rest) =
        sextet (triple / 262144) :: sextet (triple / 4096) :: sextet (triple / 64) ::
          sextet triple :: b64text rest := rfl
    rw [htext, (a2bBase64_sextet ..).1, (a2bBase64_sextet ..).2.1, (a2bBase64_sextet ..).2.2.1,
      (a2bBase64_sextet ..).2.2.2, ih, ha, hb, hc]
    rfl

theorem ascii_base64Chars (b : Bytes) : ∀ x ∈ Worker.base64Chars b, x.toNat < 128 := by
  have hquad : ∀ n, (Worker.base64Char n).toNat < 128 := by
    intro n
    have hall : ∀ m < 64, (Worker.base64Char m).toNat < 128 := by decide +kernel
    rw [Worker.base64Char, ← Nat.mod_mod n 64]
    exact hall _ (Nat.mod_lt n (by decide))
  have hpad : ∀ x ∈ ascii "==", x.toNat < 128 := by
    intro x hx
    rcases List.mem_pair.mp (show x ∈ [61, 61] from hx) with rfl | rfl <;> decide
  have hquads : ∀ a b c, ∀ x ∈ Worker.base64Quad a b c, x.toNat < 128 := by
    intro a b c x hx
    simp only [Worker.base64Quad, List.mem_cons, List.not_mem_nil, or_false] at hx
    rcases hx with rfl | rfl | rfl | rfl <;> exact hquad _
  induction b using Worker.base64Chars.induct with
  | case1 => exact fun x hx => absurd hx List.not_mem_nil
  | case2 a =>
    intro x hx
    rcases List.mem_append.mp hx with hx | hx
    · exact hquads a 0 0 x (List.mem_of_mem_take hx)
    · exact hpad x hx
  | case3 a b =>
    intro x hx
    rcases List.mem_append.mp hx with hx | hx
    · exact hquads a b 0 x (List.mem_of_mem_take hx)
    · exact hpad x (List.mem_of_mem_take (i := 1) hx)
  | case4 a b c rest ih =>
    intro x hx
    rcases List.mem_append.mp hx with hx | hx
    · exact hquads a b c x hx
    · exact ih x hx

/-- **Base64** is read back. -/
theorem b64decode_b64encode (b : Bytes) : Proxy.b64decode (b64encode b) = some b := by
  have hascii : (b64text b).all (fun c => decide (c.toNat < 128)) = true := by
    rw [List.all_eq_true]
    intro c hc
    obtain ⟨x, hx, rfl⟩ := List.mem_map.mp hc
    have hlt := ascii_base64Chars b x hx
    rw [decide_eq_true_eq, Char.toNat_ofNat, if_pos (by left; omega)]
    exact hlt
  rw [Proxy.b64decode, b64encode, PyStr.toText_eq_some_iff.mpr rfl]
  exact (if_pos hascii).trans (a2bBase64_b64text b)

/-! ## Documents -/

/-- The JSON document of a record; its id is the RID. -/
structure Document where
  ct : PyStr
  cOut : PyStr
  timestamp : PyStr

/-- The document that `put_if_absent` writes. -/
def documentOf (result : ConfidentialResult) : Document where
  ct := b64encode result.ct
  cOut := b64encode result.cOut
  timestamp := result.timestamp

/-- The record that `get` makes of a document. -/
def resultOf (rid : PyStr) (doc : Document) : Option ConfidentialResult := do
  let ct ← Proxy.b64decode doc.ct
  let cOut ← Proxy.b64decode doc.cOut
  some ⟨rid, ct, cOut, doc.timestamp⟩

/-- A document is read as the record it was written for. -/
theorem resultOf_documentOf (result : ConfidentialResult) :
    resultOf result.rid (documentOf result) = some result := by
  simp only [resultOf, documentOf, b64decode_b64encode]
  rfl

end OpenWhisk
end AsynCS
