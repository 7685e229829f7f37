import AsynCS.Lib.Text

/-!
# JSON values, and chains of checks on them

* `JsValue`: a value; an object is the list of its entries.
* `get`, `HasKeys`: what a reader asks of an object, with `get_of_mem`.
* `check`, `orError`: the links of a chain of checks, with `bind_eq_ok_iff`, `check_eq_ok_iff`
  and `orError_eq_ok_iff`.
-/

namespace AsynCS

/-- A JSON value.  Of the entries of an object that have one key, the first counts. -/
inductive JsValue where
  | null
  | boolean (value : Bool)
  | number (value : ℚ)
  | string (value : Text)
  | array (elements : List JsValue)
  | object (fields : List (Text × JsValue))

namespace JsValue

/-- The entries of an object. -/
abbrev Fields := List (Text × JsValue)

def asObject : JsValue → Option Fields
  | object fields => some fields
  | _ => none

def asString : JsValue → Option Text
  | string value => some value
  | _ => none

def asBoolean : JsValue → Option Bool
  | boolean value => some value
  | _ => none

def asNumber : JsValue → Option ℚ
  | number value => some value
  | _ => none

@[simp] theorem asObject_eq_some_iff {v : JsValue} {fields : Fields} :
    v.asObject = some fields ↔ v = object fields := by
  cases v <;> simp [asObject]

@[simp] theorem asString_eq_some_iff {v : JsValue} {t : Text} :
    v.asString = some t ↔ v = string t := by
  cases v <;> simp [asString]

namespace Fields

/-- The value under a key. -/
def get (fields : Fields) (key : Text) : Option JsValue := List.lookup key fields

/-- The keys of the entries are the given ones. -/
def HasKeys (fields : Fields) (keys : List Text) : Prop :=
  (∀ entry ∈ fields, entry.1 ∈ keys) ∧ ∀ key ∈ keys, key ∈ fields.map Prod.fst

instance (fields : Fields) (keys : List Text) : Decidable (fields.HasKeys keys) :=
  inferInstanceAs (Decidable (_ ∧ _))

/-- Entries with keys of their own are found. -/
theorem get_of_mem {fields : Fields} (hnodup : (fields.map Prod.fst).Nodup) {key : Text}
    {value : JsValue} (hm : (key, value) ∈ fields) : fields.get key = some value := by
  induction fields with
  | nil => exact absurd hm List.not_mem_nil
  | cons entry fields ih =>
    obtain ⟨hnew, hnodup⟩ := List.nodup_cons.mp hnodup
    unfold get
    rcases List.mem_cons.mp hm with rfl | hm
    · exact List.lookup_cons_self
    · have hne : key ≠ entry.1 := by
        rintro rfl
        exact hnew (List.mem_map.mpr ⟨_, hm, rfl⟩)
      rw [List.lookup_cons, beq_eq_false_iff_ne.mpr hne]
      exact ih hnodup hm

/-- A key that no entry has is not found. -/
theorem get_eq_none {fields : Fields} {key : Text} (h : key ∉ fields.map Prod.fst) :
    fields.get key = none := by
  induction fields with
  | nil => rfl
  | cons entry fields ih =>
    obtain ⟨hne, hrest⟩ := List.ne_and_not_mem_of_not_mem_cons h
    unfold get
    rw [List.lookup_cons, beq_eq_false_iff_ne.mpr hne]
    exact ih hrest

/-- What is found is the value of an entry. -/
theorem mem_of_get {fields : Fields} {key : Text} {value : JsValue}
    (h : fields.get key = some value) : (key, value) ∈ fields := by
  obtain ⟨before, behind, rfl, -⟩ := List.lookup_eq_some_iff.mp h
  exact List.mem_append_right before List.mem_cons_self

theorem HasKeys.refl (fields : Fields) : fields.HasKeys (fields.map Prod.fst) :=
  ⟨fun _ hm => List.mem_map_of_mem hm, fun _ hm => hm⟩

/-- What keys an object has depends on no order. -/
theorem HasKeys.of_perm {fields : Fields} {keys : List Text}
    (h : (fields.map Prod.fst).Perm keys) : fields.HasKeys keys :=
  ⟨fun _ hm => h.subset (List.mem_map_of_mem hm), fun _ hm => h.symm.subset hm⟩

theorem hasKeys_singleton (key : Text) (value : JsValue) :
    HasKeys [(key, value)] [key] :=
  HasKeys.refl [(key, value)]

/-- Two descriptions of the keys of one object agree. -/
theorem HasKeys.mem_iff {fields : Fields} {keys keys' : List Text} (h : fields.HasKeys keys)
    (h' : fields.HasKeys keys') (key : Text) : key ∈ keys ↔ key ∈ keys' := by
  have hsub : ∀ {ks ks' : List Text}, fields.HasKeys ks → fields.HasKeys ks' →
      key ∈ ks → key ∈ ks' := by
    intro ks ks' hks hks' hm
    obtain ⟨entry, hentry, rfl⟩ := List.mem_map.mp (hks.2 key hm)
    exact hks'.1 entry hentry
  exact ⟨hsub h h', hsub h' h⟩

end Fields
end JsValue

/-! ## Chains of checks -/

variable {ε α β : Type}

/-- `Either.cond`: go on when the condition holds. -/
def check (condition : Prop) [Decidable condition] (error : ε) : Except ε Unit :=
  if condition then .ok () else .error error

/-- Go on with the value, when there is one. -/
def orError (value : Option α) (error : ε) : Except ε α := value.elim (.error error) .ok

@[simp] theorem check_eq_ok_iff {condition : Prop} [Decidable condition] {error : ε} {u : Unit} :
    check condition error = .ok u ↔ condition := by
  unfold check
  split <;> simp [*]

@[simp] theorem orError_eq_ok_iff {value : Option α} {error : ε} {a : α} :
    orError value error = .ok a ↔ value = some a := by
  cases value <;> simp [orError]

@[simp] theorem orError_some (a : α) (error : ε) : orError (some a) error = .ok a := rfl

@[simp] theorem ok_bind (a : α) (f : α → Except ε β) : (Except.ok a >>= f) = f a := rfl

@[simp] theorem error_bind (error : ε) (f : α → Except ε β) :
    (Except.error error >>= f) = .error error := rfl

/-- **Chains**: what comes out of one came through its first link. -/
theorem bind_eq_ok_iff {x : Except ε α} {f : α → Except ε β} {b : β} :
    (x >>= f) = .ok b ↔ ∃ a, x = .ok a ∧ f a = .ok b := by
  cases x <;> simp [bind, Except.bind]

/-- An error of a chain is the error of its first link, or of what goes on. -/
theorem bind_eq_error_iff {x : Except ε α} {f : α → Except ε β} {error : ε} :
    (x >>= f) = .error error ↔ x = .error error ∨ ∃ a, x = .ok a ∧ f a = .error error := by
  cases x <;> simp [bind, Except.bind]

@[simp] theorem check_eq_error_iff {condition : Prop} [Decidable condition] {error error' : ε} :
    check condition error = .error error' ↔ ¬ condition ∧ error = error' := by
  unfold check
  split <;> simp [*]

/-- Renaming the error of a link does not touch what goes on. -/
@[simp] theorem mapError_eq_ok_iff {δ : Type} {x : Except ε α} {f : ε → δ} {a : α} :
    x.mapError f = .ok a ↔ x = .ok a := by
  cases x <;> simp [Except.mapError]

end AsynCS
