import AsynCS.Lib.BitFields
import AsynCS.Lib.Framing
import AsynCS.Lib.Proc

/-!
# Readers that keep an offset

A C parser keeps a 32-bit offset into a buffer of 32-bit size, and checks each read against what
is left.

* `Buffer32`, `Touch`, `View`: a buffer, a read of its bytes, a pointer into it with a length.
* `OffsetReader`: a reader whose state is the offset and whose log is what it touches.
* `readU32Be`, `takeView`: the two checked reads; `touchView`: a `memcmp` or `memcpy` of a view.
* `ReadsAs`: reading at the offset is reading the bytes behind it, inside the buffer.
  `ReadsAs.bind` and its companions follow the text of a reader.
-/

namespace AsynCS

open Proc

/-! ## Buffers -/

/-- A buffer whose size fits 32 bits. -/
abbrev Buffer32 := {b : Bytes // b.length < 2 ^ 32}

/-- The size of a buffer. -/
def Buffer32.size (b : Buffer32) : UInt32 := UInt32.ofNat b.1.length

theorem Buffer32.toNat_size (b : Buffer32) : b.size.toNat = b.1.length :=
  UInt32.toNat_ofNat_of_lt' b.2

/-- A read of bytes: the first of them, and how many. -/
structure Touch where
  offset : ℕ
  length : ℕ
  deriving DecidableEq

/-- The bytes are bytes of the buffer. -/
def Touch.Inside (b : Buffer32) (t : Touch) : Prop := t.offset + t.length ≤ b.1.length

/-- A pointer into a buffer, with a length. -/
structure View where
  offset : UInt32
  length : UInt32

namespace View

/-- The bytes of a view. -/
def bytes (b : Buffer32) (v : View) : Bytes := (b.1.drop v.offset.toNat).take v.length.toNat

/-- A read of the first bytes of a view. -/
def touch (v : View) (n : ℕ) : Touch := ⟨v.offset.toNat, n⟩

/-- The view ends inside the buffer. -/
def Inside (b : Buffer32) (v : View) : Prop := v.offset.toNat + v.length.toNat ≤ b.1.length

theorem length_bytes {b : Buffer32} {v : View} (h : v.Inside b) :
    (v.bytes b).length = v.length.toNat := by
  unfold Inside at h
  rw [bytes, List.length_take, List.length_drop]
  omega

theorem touch_inside {b : Buffer32} {v : View} (h : v.Inside b) {n : ℕ} (hn : n ≤ v.length.toNat) :
    (v.touch n).Inside b := by
  unfold Inside at h
  show v.offset.toNat + n ≤ b.1.length
  omega

end View

/-! ## Readers -/

/-- A reader with an offset. -/
abbrev OffsetReader := Proc Touch UInt32

/-- `((uint32_t)p[0] << 24) | ((uint32_t)p[1] << 16) | ((uint32_t)p[2] << 8) | p[3]` -/
def wordBe (x y z w : UInt8) : UInt32 :=
  (x.toUInt32 <<< 24) ||| (y.toUInt32 <<< 16) ||| (z.toUInt32 <<< 8) ||| w.toUInt32

theorem toNat_wordBe (x y z w : UInt8) :
    (wordBe x y z w).toNat = x.toNat * 16777216 + y.toNat * 65536 + z.toNat * 256 + w.toNat := by
  have hx := x.toNat_lt
  have hy := y.toNat_lt
  have hz := z.toNat_lt
  have hw := w.toNat_lt
  have h24 : (x.toUInt32 <<< 24).toNat = x.toNat * 16777216 :=
    toNat_shiftLeft_of_lt (by decide) (by simp; omega)
  have hyzw := toNat_pack3 (a := y.toUInt32) (b := z.toUInt32) (c := w.toUInt32) (by simpa using hy)
    (by simpa using hz) (by simpa using hw)
  simp only [UInt8.toNat_toUInt32] at hyzw
  rw [wordBe, UInt32.or_assoc, UInt32.or_assoc, ← UInt32.or_assoc (y.toUInt32 <<< 16),
    toNat_or_of_dvd (k := 24) (by omega) (by omega), h24, hyzw]
  omega

/-- `read_u32_be` -/
def readU32Be (b : Buffer32) : OffsetReader UInt32 := do
  let offset ← get
  require (decide (offset ≤ b.size ∧ 4 ≤ b.size - offset)) (pure ())
  emit ⟨offset.toNat, 4⟩
  modify (· + 4)
  let p := b.1.drop offset.toNat
  pure (wordBe (p.getD 0 0) (p.getD 1 0) (p.getD 2 0) (p.getD 3 0))

/-- `take_bytes` -/
def takeView (b : Buffer32) (length : UInt32) : OffsetReader View := do
  let offset ← get
  require (decide (offset ≤ b.size ∧ length ≤ b.size - offset)) (pure ())
  modify (· + length)
  pure ⟨offset, length⟩

/-- `bytes_equal_literal`, where a difference ends the reader. -/
def requireLiteral (b : Buffer32) (v : View) (literal : Bytes) : OffsetReader Unit := do
  require (decide (v.length.toNat = literal.length)) (pure ())
  emit (v.touch literal.length)
  require (v.bytes b == literal) (pure ())

/-! ## Reading what is behind the offset -/

/-- At the offset `s` a reader reads as `f` reads what is behind `s`, and touches nothing
outside. -/
structure ReadsAs {α β : Type} (b : Buffer32) (q : OffsetReader α) (g : α → β)
    (f : Bytes → Option (β × Bytes)) (s : UInt32) : Prop where
  inside : ∀ t ∈ (q s).log, t.Inside b
  gives : ∀ {s' : UInt32} {a : α}, Gives q s a s' →
    s'.toNat ≤ b.1.length ∧ f (b.1.drop s.toNat) = some (g a, b.1.drop s'.toNat)
  stops : (q s).value = none → f (b.1.drop s.toNat) = none

variable {α β γ δ : Type} {b : Buffer32}

/-- The test of both reads. -/
theorem fits_iff {s n : UInt32} :
    (s ≤ b.size ∧ n ≤ b.size - s) ↔ s.toNat + n.toNat ≤ b.1.length := by
  rw [UInt32.le_iff_toNat_le, UInt32.le_iff_toNat_le, ← b.toNat_size]
  constructor
  · rintro ⟨hs, hn⟩
    rw [UInt32.toNat_sub_of_le _ _ hs] at hn
    omega
  · intro h
    have hs : s ≤ b.size := UInt32.le_iff_toNat_le.mpr (by omega)
    refine ⟨by omega, ?_⟩
    rw [UInt32.toNat_sub_of_le _ _ hs]
    omega

/-- An offset that moves inside the buffer does not wrap. -/
theorem toNat_add_of_fits {s n : UInt32} (h : s.toNat + n.toNat ≤ b.1.length) :
    (s + n).toNat = s.toNat + n.toNat := by
  have hb := b.2
  rw [UInt32.toNat_add, Nat.mod_eq_of_lt (by omega)]

namespace ReadsAs

theorem pure {s : UInt32} (hs : s.toNat ≤ b.1.length) (a : α) (g : α → β) :
    ReadsAs b (Pure.pure a : OffsetReader α) g (fun input => some (g a, input)) s := by
  refine ⟨fun _ h => absurd h List.not_mem_nil, ?_, fun h => absurd h (by simp)⟩
  intro s' a' h
  obtain ⟨rfl, rfl⟩ := gives_pure.mp h
  exact ⟨hs, rfl⟩

theorem bind {q : OffsetReader α} {k : α → OffsetReader γ} {g : α → β} {h : γ → δ}
    {f : Bytes → Option (β × Bytes)} {f' : β × Bytes → Option (δ × Bytes)} {s : UInt32}
    (hq : ReadsAs b q g f s)
    (hk : ∀ a s', s'.toNat ≤ b.1.length → Gives q s a s' →
      ReadsAs b (k a) h (fun rest => f' (g a, rest)) s') :
    ReadsAs b (q >>= k) h (fun input => (f input).bind f') s := by
  refine ⟨?_, ?_, ?_⟩
  · intro t ht
    rcases emits_bind.mp ht with ht | ⟨a, s₁, ha, ht⟩
    · exact hq.inside t ht
    · exact (hk a s₁ (hq.gives ha).1 ha).inside t ht
  · intro s' c hc
    obtain ⟨a, s₁, ha, hc⟩ := gives_bind.mp hc
    obtain ⟨hs₁, hf⟩ := hq.gives ha
    obtain ⟨hs', hf'⟩ := (hk a s₁ hs₁ ha).gives hc
    refine ⟨hs', ?_⟩
    rw [hf]
    exact hf'
  · intro hnone
    show (f _).bind _ = none
    cases hv : (q s).value with
    | none =>
      rw [hq.stops hv]
      rfl
    | some a =>
      have ha : Gives q s a (q s).state := ⟨hv, rfl⟩
      obtain ⟨hs₁, hf⟩ := hq.gives ha
      rw [bind_of_some hv] at hnone
      rw [hf]
      exact (hk a _ hs₁ ha).stops hnone

/-- A test between the reads. -/
theorem require {c : Bool} {q : OffsetReader α} {g : α → β} {f : Bytes → Option (β × Bytes)}
    {s : UInt32} (hq : c = true → ReadsAs b q g f s) :
    ReadsAs b (Proc.require c (Pure.pure ()) >>= fun _ => q) g
      (fun input => if c = true then f input else none) s := by
  cases c with
  | true =>
    have hq' := hq rfl
    exact ⟨hq'.inside, hq'.gives, hq'.stops⟩
  | false =>
    refine ⟨fun _ h => absurd h List.not_mem_nil, ?_, fun _ => rfl⟩
    intro s' a h
    obtain ⟨_, _, h, -⟩ := gives_bind.mp h
    exact absurd (gives_require.mp h).1 (by decide)

/-- A read of bytes that are inside. -/
theorem emit {t : Touch} (ht : t.Inside b) {q : OffsetReader α} {g : α → β}
    {f : Bytes → Option (β × Bytes)} {s : UInt32} (hq : ReadsAs b q g f s) :
    ReadsAs b (Proc.emit t >>= fun _ => q) g f s := by
  refine ⟨?_, hq.gives, hq.stops⟩
  intro t' ht'
  rcases List.mem_cons.mp ht' with rfl | ht'
  · exact ht
  · exact hq.inside t' ht'

end ReadsAs

theorem exists_four_bytes {l : Bytes} (h : 4 ≤ l.length) :
    ∃ x y z w rest, l = x :: y :: z :: w :: rest := by
  rcases l with _ | ⟨x, _ | ⟨y, _ | ⟨z, _ | ⟨w, rest⟩⟩⟩⟩
  all_goals first
    | exact ⟨x, y, z, w, rest, rfl⟩
    | exact absurd h (by simp)

theorem readU32be_eq_none {l : Bytes} (h : l.length < 4) : readU32be l = none := by
  rcases l with _ | ⟨x, _ | ⟨y, _ | ⟨z, _ | ⟨w, rest⟩⟩⟩⟩
  all_goals first
    | rfl
    | (exfalso; simp only [List.length_cons] at h; omega)

/-- **`read_u32_be`** reads a 32-bit value. -/
theorem readsAs_readU32Be (b : Buffer32) (s : UInt32) :
    ReadsAs b (readU32Be b) UInt32.toNat readU32be s := by
  have hfits : ∀ s : UInt32, (s ≤ b.size ∧ 4 ≤ b.size - s) ↔ s.toNat + 4 ≤ b.1.length :=
    fun s => fits_iff (n := 4)
  have hshort : ∀ s : UInt32, ¬ (s ≤ b.size ∧ 4 ≤ b.size - s) →
      readU32Be b s = ⟨[], s, none⟩ := by
    intro s hs
    unfold readU32Be
    rw [bind_of_some (value_get s)]
    show (⟨_, _, _⟩ : Outcome _ _ _) = _
    rw [decide_eq_false hs]
    rfl
  have hlong : ∀ s : UInt32, (s ≤ b.size ∧ 4 ≤ b.size - s) → ∃ v : UInt32,
      readU32Be b s = ⟨[⟨s.toNat, 4⟩], s + 4, some v⟩ ∧
        readU32be (b.1.drop s.toNat) = some (v.toNat, b.1.drop (s + 4).toNat) := by
    intro s hs
    have hle := (hfits s).mp hs
    have hadd : (s + 4).toNat = s.toNat + 4 := toNat_add_of_fits (n := 4) hle
    obtain ⟨x, y, z, w, rest, hdrop⟩ : ∃ x y z w rest, b.1.drop s.toNat = x :: y :: z :: w :: rest := by
      refine exists_four_bytes ?_
      rw [List.length_drop]
      omega
    have hrest : b.1.drop (s + 4).toNat = rest := by
      rw [hadd, ← List.drop_drop, hdrop]
      rfl
    refine ⟨wordBe x y z w, ?_, ?_⟩
    · unfold readU32Be
      rw [bind_of_some (value_get s)]
      show (⟨_, _, _⟩ : Outcome _ _ _) = _
      rw [decide_eq_true hs, hdrop]
      rfl
    · rw [hrest, hdrop, toNat_wordBe]
      rfl
  refine ⟨?_, ?_, ?_⟩
  · intro t ht
    by_cases hs : s ≤ b.size ∧ 4 ≤ b.size - s
    · obtain ⟨v, hrun, -⟩ := hlong s hs
      rw [hrun] at ht
      obtain rfl := List.mem_singleton.mp ht
      exact (hfits s).mp hs
    · rw [hshort s hs] at ht
      exact absurd ht List.not_mem_nil
  · rintro s' v ⟨hv, rfl⟩
    by_cases hs : s ≤ b.size ∧ 4 ≤ b.size - s
    · obtain ⟨v', hrun, hread⟩ := hlong s hs
      have hle := (hfits s).mp hs
      rw [hrun] at hv ⊢
      obtain rfl := Option.some.inj hv
      refine ⟨?_, hread⟩
      show (s + 4).toNat ≤ _
      rw [toNat_add_of_fits (n := 4) hle]
      exact hle
    · rw [hshort s hs] at hv
      cases hv
  · intro hnone
    by_cases hs : s ≤ b.size ∧ 4 ≤ b.size - s
    · obtain ⟨v, hrun, -⟩ := hlong s hs
      rw [hrun] at hnone
      cases hnone
    · rw [hfits] at hs
      refine readU32be_eq_none ?_
      rw [List.length_drop]
      omega

/-- **`take_bytes`** takes the next bytes. -/
theorem readsAs_takeView (length : UInt32) {s : UInt32} (hsize : s.toNat ≤ b.1.length) :
    ReadsAs b (takeView b length) (View.bytes b) (takeBytes length.toNat) s := by
  have hrun : takeView b length s =
      if s ≤ b.size ∧ length ≤ b.size - s then ⟨[], s + length, some ⟨s, length⟩⟩
      else ⟨[], s, none⟩ := by
    unfold takeView
    rw [bind_of_some (value_get s)]
    show (⟨_, _, _⟩ : Outcome _ _ _) = _
    by_cases hs : s ≤ b.size ∧ length ≤ b.size - s
    · rw [decide_eq_true hs, if_pos hs]
      rfl
    · rw [decide_eq_false hs, if_neg hs]
      rfl
  refine ⟨?_, ?_, ?_⟩
  · intro t ht
    rw [hrun] at ht
    split at ht <;> exact absurd ht List.not_mem_nil
  · rintro s' v ⟨hv, rfl⟩
    rw [hrun] at hv ⊢
    by_cases hs : s ≤ b.size ∧ length ≤ b.size - s
    · rw [if_pos hs] at hv ⊢
      obtain rfl := Option.some.inj hv
      have hle := fits_iff.mp hs
      have hadd := toNat_add_of_fits hle
      refine ⟨?_, ?_⟩
      · show (s + length).toNat ≤ _
        rw [hadd]
        exact hle
      · refine takeBytes_eq_some_iff.mpr ⟨?_, View.length_bytes hle⟩
        show _ = (b.1.drop s.toNat).take length.toNat ++ b.1.drop (s + length).toNat
        rw [hadd, ← List.drop_drop, List.take_append_drop]
    · rw [if_neg hs] at hv
      cases hv
  · intro hnone
    rw [hrun] at hnone
    by_cases hs : s ≤ b.size ∧ length ≤ b.size - s
    · rw [if_pos hs] at hnone
      cases hnone
    · rw [fits_iff] at hs
      unfold takeBytes
      rw [if_pos]
      rw [List.length_drop]
      omega

/-- `take_bytes` gives what is at the offset, inside the buffer, and moves the offset behind it. -/
theorem gives_takeView {length : UInt32} {s s' : UInt32} {v : View} :
    Gives (takeView b length) s v s' ↔
      v = ⟨s, length⟩ ∧ s' = s + length ∧ View.Inside b ⟨s, length⟩ := by
  simp only [takeView, gives_bind, gives_get, gives_require, gives_modify, gives_pure,
    decide_eq_true_eq]
  constructor
  · rintro ⟨_, _, ⟨rfl, rfl⟩, _, _, ⟨hle, rfl⟩, _, _, rfl, rfl, rfl⟩
    exact ⟨rfl, rfl, fits_iff.mp hle⟩
  · rintro ⟨rfl, rfl, hle⟩
    exact ⟨_, _, ⟨rfl, rfl⟩, (), _, ⟨fits_iff.mpr hle, rfl⟩, (), _, rfl, rfl, rfl⟩

theorem inside_of_takeView {length : UInt32} {s s' : UInt32} {v : View}
    (h : Gives (takeView b length) s v s') : v.Inside b := by
  obtain ⟨rfl, -, hle⟩ := gives_takeView.mp h
  exact hle

/-- What `bytes_equal_literal` touches and answers. -/
theorem requireLiteral_apply {v : View} (hv : v.Inside b) (literal : Bytes) (s : UInt32) :
    requireLiteral b v literal s =
      ⟨if v.length.toNat = literal.length then [v.touch literal.length] else [], s,
        if v.bytes b = literal then some () else none⟩ := by
  have hlength := View.length_bytes hv
  unfold requireLiteral
  by_cases hl : v.length.toNat = literal.length
  · rw [decide_eq_true hl, if_pos hl]
    by_cases hbytes : v.bytes b = literal
    · rw [if_pos hbytes, beq_iff_eq.mpr hbytes]
      rfl
    · rw [if_neg hbytes, beq_eq_false_iff_ne.mpr hbytes]
      rfl
  · have hbytes : v.bytes b ≠ literal := by
      rintro rfl
      exact hl hlength.symm
    rw [decide_eq_false hl, if_neg hl, if_neg hbytes]
    rfl

/-- **A literal** is compared inside. -/
theorem ReadsAs.literal {v : View} (hv : v.Inside b) {literal : Bytes} {q : OffsetReader α}
    {g : α → β} {f : Bytes → Option (β × Bytes)} {s : UInt32} (hq : ReadsAs b q g f s) :
    ReadsAs b (requireLiteral b v literal >>= fun _ => q) g
      (fun input => if v.bytes b = literal then f input else none) s := by
  have hrun := requireLiteral_apply hv literal s
  have hinside : ∀ t ∈ (requireLiteral b v literal s).log, t.Inside b := by
    intro t ht
    rw [hrun] at ht
    split at ht
    · rename_i hl
      obtain rfl := List.mem_singleton.mp ht
      exact View.touch_inside hv hl.ge
    · exact absurd ht List.not_mem_nil
  by_cases hbytes : v.bytes b = literal
  · have hgives : Gives (requireLiteral b v literal) s () s := by
      rw [Gives, hrun, if_pos hbytes]
      exact ⟨rfl, rfl⟩
    have happly := bind_of_some (f := fun _ => q) hgives.1
    rw [hgives.2] at happly
    simp only [if_pos hbytes]
    refine ⟨fun t ht => ?_, fun {s' a} h => ?_, fun h => ?_⟩
    · rw [happly] at ht
      rcases List.mem_append.mp ht with ht | ht
      · exact hinside t ht
      · exact hq.inside t ht
    · rw [Gives, happly] at h
      exact hq.gives h
    · rw [happly] at h
      exact hq.stops h
  · have hnone : (requireLiteral b v literal s).value = none := by rw [hrun, if_neg hbytes]
    have happly := bind_of_none (f := fun _ => q) hnone
    simp only [if_neg hbytes]
    refine ⟨fun t ht => ?_, fun {s' a} h => ?_, fun _ => rfl⟩
    · rw [happly] at ht
      exact hinside t ht
    · rw [Gives, happly] at h
      exact absurd h.1 (by simp)

end AsynCS
