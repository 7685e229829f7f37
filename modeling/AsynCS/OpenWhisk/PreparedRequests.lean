import AsynCS.OpenWhisk.TargetBoundContent

/-!
# Prepared requests, and what the scheduler will accept of them

`C1BackendPressurePreparedRequests` reads the requests of a run from a directory: a manifest, and
one JSON object a line.

* `validateActionParams`: what the parameters of a request must be, for its profile.
* `loadUnsafe`, `load`: the whole directory; `load` turns what is thrown into a `Left`.
* `validateActionParams_eq_ok_iff`: for the reusable profile it accepts what `sourceInput` of the
  scheduler accepts, with the request id of its envelope.
* `loadUnsafe_eq_ok`: the rows that are loaded.
* `prepared_requests_agree`: both, and that `load` throws nothing that is not fatal.
-/

namespace AsynCS
namespace OpenWhisk

/-! ## Exceptions -/

/-- What the Java virtual machine throws.  `NonFatal` matches the first kind. -/
inductive Throwable where
  | nonFatal (message : Option Text) (simpleName : Text)
  | fatal (simpleName : Text)
  deriving DecidableEq

/-- `deserializationError` -/
def deserializationError (parts : List Text) : Throwable :=
  .nonFatal (some parts.flatten) "DeserializationException".toList

/-- `case NonFatal(_) => throw handler` -/
def rethrowNonFatal {α : Type} (handler : Throwable) : Except Throwable α → Except Throwable α
  | .ok a => .ok a
  | .error (.nonFatal _ _) => .error handler
  | .error (.fatal simpleName) => .error (.fatal simpleName)

@[simp] theorem rethrowNonFatal_eq_ok_iff {α : Type} {handler : Throwable}
    {x : Except Throwable α} {a : α} : rethrowNonFatal handler x = .ok a ↔ x = .ok a := by
  rcases x with (_ | _) | _ <;> simp [rethrowNonFatal]

/-- What the libraries and the file system answer.  A line of a file may fail to be read. -/
structure Host where
  resolve : Text → Text → Except Throwable Text
  isRegularFile : Text → Bool
  readAllBytes : Text → Except Throwable Bytes
  newString : Bytes → Text
  readLines : Text → List (Except Throwable Text)
  sha256 : Bytes → Bytes
  parseJson : Text → Except Throwable JsValue
  compactPrint : JsValue → Text

namespace PreparedRequests

open TargetBoundActivationContent (rootField sourceInputField sourceInput onlyField decodeText
  requestIdHashOf)

/-! ## Fields of an object -/

/-- `asJsObject` -/
def asJsObject (value : JsValue) : Except Throwable JsValue.Fields :=
  orError value.asObject (deserializationError ["JSON object expected".toList])

/-- `BigDecimal.intValue`: the fraction is dropped, and the low 32 bits are left. -/
def intValue (q : ℚ) : ℤ := (q.num.tdiv q.den).bmod (2 ^ 32)

/-- `BigDecimal.doubleValue` is zero: the nearest double is, with ties to it. -/
def isDoubleZero (q : ℚ) : Bool := |q| * 2 ^ 1075 ≤ 1

/-- Whether a value is a double and zero.  `null` is a NaN. -/
def doubleZero : JsValue → Option Bool
  | .number q => some (isDoubleZero q)
  | .null => some false
  | _ => none

section Fields

variable (H : Host)

/-- A conversion, or its error. -/
def convertTo {α : Type} (typeName jsName : Text) (value : JsValue) (result : Option α) :
    Except Throwable α :=
  orError result (deserializationError ["Expected ".toList, typeName, " as ".toList, jsName,
    ", but got ".toList, H.compactPrint value])

/-- The value of a field that must be there. -/
def requiredField (fields : JsValue.Fields) (name : Text) : Except Throwable JsValue :=
  orError (fields.get name) (deserializationError [name, " is required".toList])

/-- `requiredString` -/
def requiredString (fields : JsValue.Fields) (name : Text) : Except Throwable Text := do
  let value ← requiredField fields name
  convertTo H "String".toList "JsString".toList value value.asString

/-- `requiredInt` -/
def requiredInt (fields : JsValue.Fields) (name : Text) : Except Throwable ℤ := do
  let value ← requiredField fields name
  convertTo H "Int".toList "JsNumber".toList value (value.asNumber.map intValue)

/-- `requiredObject` -/
def requiredObject (fields : JsValue.Fields) (name : Text) : Except Throwable JsValue.Fields := do
  let value ← requiredField fields name
  asJsObject value

/-- Whether `convertTo[Double]` is zero. -/
def convertToZero (value : JsValue) : Except Throwable Bool :=
  convertTo H "Double".toList "JsNumber".toList value (doubleZero value)

end Fields

/-! ## The parameters of a request -/

def asyncsProfile : Text := "asyncs".toList

def reusableConcurrencyProfile : Text := "reusable-concurrency".toList

/-- An error that names its row. -/
def rowError (ordinal : ℕ) (message : Text) : Throwable :=
  deserializationError ["prepared request row ".toList, Nat.toDigits 10 ordinal, message]

section Validate

variable (H : Host)

/-- The envelope of an input.  The handler catches its own error as well. -/
def decodeInput (ordinal : ℕ) (encoded : Text) : Except Throwable ProtectedEnvelopeV1 :=
  rethrowNonFatal (rowError ordinal " has invalid base64 INPUT".toList) <| do
    let bytes ← orError (base64Decode encoded)
      (.nonFatal none "IllegalArgumentException".toList)
    (ProtectedEnvelopeV1.decode bytes).mapError fun message =>
      rowError ordinal (" has an invalid INPUT envelope: ".toList ++ message)

/-- The parameters of the asynchronous profile. -/
def validateAsyncs (ordinal : ℕ) (logicalRequestId : Text) (actionParams : JsValue.Fields) :
    Except Throwable Unit := do
  let actionRequestId ← requiredString H actionParams "logical_request_id".toList
  check (actionRequestId = logicalRequestId)
    (rowError ordinal " action logical_request_id does not match".toList)
  let attemptId ← requiredString H actionParams "attempt_id".toList
  check (attemptId = ['1']) (rowError ordinal " attempt_id must be 1".toList)

/-- The parameters of the reusable profile. -/
def validateReusable (ordinal : ℕ) (expectedRid : Text) (actionParams : JsValue.Fields) :
    Except Throwable Unit := do
  check (actionParams.HasKeys [rootField])
    (rowError ordinal " must contain only the reusable protected-input root".toList)
  let value ← orError (actionParams.get rootField)
    (.nonFatal (some ("key not found: ".toList ++ rootField)) "NoSuchElementException".toList)
  let root ← asJsObject value
  check (root.HasKeys [sourceInputField])
    (rowError ordinal " must contain only sourceProtectedInputEnvelope".toList)
  let encoded ← requiredString H root sourceInputField
  let envelope ← decodeInput ordinal encoded
  check (envelope.1.kind = .input ∧ envelope.1.direction = .sourceToGateway ∧
      envelope.1.correlationKind = .requestId ∧ requestIdHashOf envelope = expectedRid)
    (rowError ordinal " does not match the reusable INPUT/RID contract".toList)

/-- `validateActionParams` -/
def validateActionParams (profile : Text) (ordinal : ℕ) (logicalRequestId expectedRid : Text)
    (actionParams : JsValue.Fields) : Except Throwable Unit :=
  if profile = asyncsProfile then validateAsyncs H ordinal logicalRequestId actionParams
  else if profile = reusableConcurrencyProfile then
    validateReusable H ordinal expectedRid actionParams
  else
    .error (deserializationError ["prepared request profile is unsupported: ".toList, profile])

end Validate

/-! ## The directory -/

/-- `C1BackendPressurePreparedRequest` -/
structure PreparedRequest where
  ordinal : ℕ
  logicalRequestId : Text
  expectedRid : Text
  actionParams : JsValue.Fields

/-- `schemaVersions` -/
def schemaVersion (profile : Text) : Except Throwable Text :=
  if profile = asyncsProfile then .ok "c1-asyncs-premeasurement-requests-v1".toList
  else if profile = reusableConcurrencyProfile then
    .ok "c1-reusable-concurrency-premeasurement-requests-v1".toList
  else
    .error (deserializationError ["prepared request profile is unsupported: ".toList, profile])

/-- An `Int` in decimal. -/
def intText (n : ℤ) : Text :=
  if n < 0 then '-' :: Nat.toDigits 10 n.natAbs else Nat.toDigits 10 n.natAbs

section Load

variable (H : Host)

/-- A row of the requests. -/
def readRow (profile : Text) (ordinal : ℕ) (line : Text) : Except Throwable PreparedRequest := do
  let value ← H.parseJson line
  let fields ← asJsObject value
  let rowOrdinal ← requiredInt H fields "ordinal".toList
  let logicalRequestId ← requiredString H fields "logical_request_id".toList
  check (rowOrdinal = ordinal ∧ logicalRequestId = Nat.toDigits 10 ordinal)
    (rowError ordinal " is out of order".toList)
  let actionParams ← requiredObject fields "action_params".toList
  let expectedRid ← requiredString H fields "expected_rid".toList
  validateActionParams H profile ordinal logicalRequestId expectedRid actionParams
  .ok ⟨ordinal, logicalRequestId, expectedRid, actionParams⟩

/-- The loop over the lines. -/
def readRows (profile : Text) :
    ℕ → List PreparedRequest → List (Except Throwable Text) →
      Except Throwable (List PreparedRequest)
  | _, rows, [] => .ok rows
  | ordinal, rows, readLine :: lines => do
    let line ← readLine
    let row ← readRow H profile ordinal line
    readRows profile (ordinal + 1) (rows ++ [row]) lines

/-- The checks of the manifest that come before the requests are opened. -/
def checkManifest (manifest : JsValue.Fields) (expectedCount : ℤ) (expectedWorkloadId : Text)
    (profile : Text) : Except Throwable Unit := do
  let version ← schemaVersion profile
  let manifestVersion ← requiredString H manifest "schema_version".toList
  check (manifestVersion = version)
    (deserializationError ["prepared request schema_version must be ".toList, version])
  let count ← requiredInt H manifest "configured_request_count".toList
  check (count = expectedCount)
    (deserializationError ["prepared request count must equal planned_logical_requests=".toList,
      intText expectedCount])
  let zero ← ((manifest.get "failure_probability".toList).map (convertToZero H)).getD (.ok false)
  check (zero = true)
    (deserializationError ["prepared request failure_probability must be 0".toList])
  let workload ← requiredObject manifest "workload".toList
  let workloadId ← requiredString H workload "workload_id".toList
  check (workloadId = expectedWorkloadId)
    (deserializationError ["prepared request workload_id must be ".toList, expectedWorkloadId])

/-- `loadUnsafe` -/
def loadUnsafe (sourceDirectory : Text) (expectedCount : ℤ) (expectedWorkloadId profile : Text) :
    Except Throwable (List PreparedRequest) := do
  let manifestPath ← H.resolve sourceDirectory "manifest.json".toList
  check (H.isRegularFile manifestPath = true)
    (deserializationError ["prepared request manifest is not ready: ".toList, manifestPath])
  let manifestBytes ← H.readAllBytes manifestPath
  let manifestValue ← H.parseJson (H.newString manifestBytes)
  let manifest ← asJsObject manifestValue
  checkManifest H manifest expectedCount expectedWorkloadId profile
  let requestsFile ← requiredString H manifest "requests_file".toList
  let requestsPath ← H.resolve sourceDirectory requestsFile
  check (H.isRegularFile requestsPath = true)
    (deserializationError ["prepared request data is missing: ".toList, requestsPath])
  let expectedSha256 ← requiredString H manifest "requests_sha256".toList
  let requestBytes ← H.readAllBytes requestsPath
  check (InvokerReactive.hexOf (H.sha256 requestBytes) = expectedSha256)
    (deserializationError ["prepared request data sha256 does not match manifest".toList])
  let result ← readRows H profile 1 [] (H.readLines requestsPath)
  check ((result.length : ℤ) = expectedCount)
    (deserializationError ["prepared request rows=".toList, Nat.toDigits 10 result.length,
      " must equal planned_logical_requests=".toList, intText expectedCount])
  .ok result

/-- `load`: a `Right` or a `Left`, unless something fatal is thrown. -/
def load (sourceDirectory : Text) (expectedCount : ℤ) (expectedWorkloadId profile : Text) :
    Except Throwable (Except Text (List PreparedRequest)) :=
  match loadUnsafe H sourceDirectory expectedCount expectedWorkloadId profile with
  | .ok rows => .ok (.ok rows)
  | .error (.nonFatal message simpleName) => .ok (.error (message.getD simpleName))
  | .error (.fatal simpleName) => .error (.fatal simpleName)

end Load

/-! ## What the links let through -/

variable {H : Host}

theorem asJsObject_eq_ok_iff {value : JsValue} {fields : JsValue.Fields} :
    asJsObject value = .ok fields ↔ value = .object fields := by
  rw [asJsObject, orError_eq_ok_iff, JsValue.asObject_eq_some_iff]

theorem requiredString_eq_ok_iff {fields : JsValue.Fields} {name t : Text} :
    requiredString H fields name = .ok t ↔ fields.get name = some (.string t) := by
  unfold requiredString requiredField convertTo
  simp only [bind_eq_ok_iff, orError_eq_ok_iff, JsValue.asString_eq_some_iff]
  constructor
  · rintro ⟨value, hvalue, rfl⟩
    exact hvalue
  · exact fun h => ⟨_, h, rfl⟩

theorem decodeInput_eq_ok_iff {ordinal : ℕ} {encoded : Text} {envelope : ProtectedEnvelopeV1} :
    decodeInput ordinal encoded = .ok envelope ↔
      base64Decode encoded = some envelope.bytes := by
  unfold decodeInput
  simp only [rethrowNonFatal_eq_ok_iff, bind_eq_ok_iff, orError_eq_ok_iff, mapError_eq_ok_iff,
    ProtectedEnvelopeV1.decode_eq_ok_iff]
  constructor
  · rintro ⟨bytes, hbytes, rfl⟩
    exact hbytes
  · exact fun h => ⟨_, h, rfl⟩

/-- The one field of an object with that one field. -/
theorem onlyField_object_eq_some_iff {fields : JsValue.Fields} {field : Text} {value : JsValue} :
    onlyField (some (.object fields)) field = some value ↔
      fields.HasKeys [field] ∧ fields.get field = some value := by
  show (if fields.HasKeys [field] then fields.get field else none) = some value ↔ _
  split <;> simp [*]

/-- **The contract of a protected input**, in a form that both validators are compared with. -/
structure Carries (actionParams : JsValue.Fields) (envelope : ProtectedEnvelopeV1) : Prop where
  contract : ∃ (root : JsValue.Fields) (encoded : Text), actionParams.HasKeys [rootField] ∧
    actionParams.get rootField = some (.object root) ∧ root.HasKeys [sourceInputField] ∧
    root.get sourceInputField = some (.string encoded) ∧
    base64Decode encoded = some envelope.bytes
  kind : envelope.1.kind = .input
  direction : envelope.1.direction = .sourceToGateway
  correlationKind : envelope.1.correlationKind = .requestId

/-- What the scheduler accepts. -/
theorem sourceInput_eq_ok_iff {actionParams : JsValue.Fields} {envelope : ProtectedEnvelopeV1} :
    sourceInput (some (.object actionParams)) = .ok envelope ↔ Carries actionParams envelope := by
  unfold sourceInput TargetBoundActivationContent.requireEnvelope
  simp only [bind_eq_ok_iff, orError_eq_ok_iff, onlyField_object_eq_some_iff, check_eq_ok_iff,
    JsValue.asObject_eq_some_iff, Option.bind_eq_some_iff, JsValue.asString_eq_some_iff,
    TargetBoundActivationContent.decodeText_eq_ok_iff, Except.ok.injEq]
  constructor
  · rintro ⟨_, ⟨hkeys, hget⟩, root, rfl, encoded, ⟨_, ⟨hrootKeys, hrootGet⟩, rfl⟩, e, hdecode, -,
      ⟨-, hdirection, -, hkind, hcorrelation⟩, rfl⟩
    exact ⟨⟨root, encoded, hkeys, hget, hrootKeys, hrootGet, hdecode⟩, hkind, hdirection,
      hcorrelation⟩
  · rintro ⟨⟨root, encoded, hkeys, hget, hrootKeys, hrootGet, hdecode⟩, hkind, hdirection,
      hcorrelation⟩
    exact ⟨_, ⟨hkeys, hget⟩, root, rfl, encoded, ⟨_, ⟨hrootKeys, hrootGet⟩, rfl⟩, envelope,
      hdecode, (), ⟨(), hdirection, (), hkind, hcorrelation⟩, rfl⟩

/-- What the validator of the prepared requests accepts. -/
theorem validateReusable_eq_ok_iff {ordinal : ℕ} {expectedRid : Text}
    {actionParams : JsValue.Fields} {u : Unit} :
    validateReusable H ordinal expectedRid actionParams = .ok u ↔
      ∃ envelope, Carries actionParams envelope ∧ expectedRid = requestIdHashOf envelope := by
  unfold validateReusable
  simp only [bind_eq_ok_iff, orError_eq_ok_iff, check_eq_ok_iff, asJsObject_eq_ok_iff,
    requiredString_eq_ok_iff, decodeInput_eq_ok_iff]
  constructor
  · rintro ⟨-, hkeys, _, hget, root, rfl, -, hrootKeys, encoded, hrootGet, envelope, hdecode, hkind,
      hdirection, hcorrelation, hrid⟩
    exact ⟨envelope, ⟨⟨root, encoded, hkeys, hget, hrootKeys, hrootGet, hdecode⟩, hkind, hdirection,
      hcorrelation⟩, hrid.symm⟩
  · rintro ⟨envelope, ⟨⟨root, encoded, hkeys, hget, hrootKeys, hrootGet, hdecode⟩, hkind,
      hdirection, hcorrelation⟩, hrid⟩
    exact ⟨(), hkeys, _, hget, root, rfl, (), hrootKeys, encoded, hrootGet, envelope, hdecode,
      hkind, hdirection, hcorrelation, hrid.symm⟩

/-- An input that is written as the contract says carries its envelope. -/
theorem carries_encodeBase64 {envelope : ProtectedEnvelopeV1} (hkind : envelope.1.kind = .input)
    (hdirection : envelope.1.direction = .sourceToGateway)
    (hcorrelation : envelope.1.correlationKind = .requestId) :
    Carries [(rootField, .object [(sourceInputField,
      .string (TargetBoundActivationContent.encodeBase64 envelope.bytes))])] envelope :=
  ⟨⟨_, _, JsValue.Fields.hasKeys_singleton _ _, List.lookup_cons_self,
    JsValue.Fields.hasKeys_singleton _ _, List.lookup_cons_self, base64Decode_b64text _⟩,
    hkind, hdirection, hcorrelation⟩

/-- **The two validators** accept the same inputs of the reusable profile; the expected request id
is the correlation hash. -/
theorem validateActionParams_eq_ok_iff {ordinal : ℕ} {logicalRequestId expectedRid : Text}
    {actionParams : JsValue.Fields} :
    validateActionParams H reusableConcurrencyProfile ordinal logicalRequestId expectedRid
        actionParams = .ok () ↔
      ∃ envelope, sourceInput (some (.object actionParams)) = .ok envelope ∧
        expectedRid = requestIdHashOf envelope := by
  have hne : reusableConcurrencyProfile ≠ asyncsProfile := by decide
  rw [validateActionParams, if_neg hne, if_pos rfl, validateReusable_eq_ok_iff]
  simp only [sourceInput_eq_ok_iff]

/-! ## The rows that are loaded -/

/-- A row at its place. -/
structure Checked (H : Host) (profile : Text) (ordinal : ℕ) (row : PreparedRequest) : Prop where
  ordinal_eq : row.ordinal = ordinal
  logicalRequestId_eq : row.logicalRequestId = Nat.toDigits 10 ordinal
  valid : validateActionParams H profile ordinal row.logicalRequestId row.expectedRid
    row.actionParams = .ok ()

/-- Rows with the ordinals from 1 on, each of them checked. -/
def InOrder (H : Host) (profile : Text) (rows : List PreparedRequest) : Prop :=
  ∀ i row, rows[i]? = some row → Checked H profile (i + 1) row

theorem readRow_checked {profile : Text} {ordinal : ℕ} {line : Text} {row : PreparedRequest}
    (h : readRow H profile ordinal line = .ok row) : Checked H profile ordinal row := by
  unfold readRow at h
  simp only [bind_eq_ok_iff, check_eq_ok_iff, Except.ok.injEq] at h
  obtain ⟨_, -, _, -, _, -, logicalRequestId, -, -, ⟨-, hid⟩, actionParams, -, expectedRid, -, _,
    hvalid, rfl⟩ := h
  exact ⟨rfl, hid, hvalid⟩

theorem InOrder.snoc {profile : Text} {rows : List PreparedRequest} {row : PreparedRequest}
    (hrows : InOrder H profile rows) (hrow : Checked H profile (rows.length + 1) row) :
    InOrder H profile (rows ++ [row]) := by
  intro i row' hget
  rcases Nat.lt_or_ge i rows.length with hlt | hge
  · rw [List.getElem?_append_left hlt] at hget
    exact hrows i row' hget
  · rw [List.getElem?_append_right hge, List.getElem?_singleton] at hget
    split at hget
    · next heq =>
      have hi : i = rows.length := by omega
      rw [hi, ← Option.some.inj hget]
      exact hrow
    · exact absurd hget (by simp)

/-- The loop keeps the rows in order. -/
theorem readRows_inOrder {profile : Text} {lines : List (Except Throwable Text)}
    {rows result : List PreparedRequest} (hrows : InOrder H profile rows)
    (h : readRows H profile (rows.length + 1) rows lines = .ok result) :
    InOrder H profile result := by
  induction lines generalizing rows with
  | nil =>
    rw [readRows, Except.ok.injEq] at h
    exact h ▸ hrows
  | cons readLine lines ih =>
    rw [readRows] at h
    simp only [bind_eq_ok_iff] at h
    obtain ⟨line, -, row, hrow, hrest⟩ := h
    refine ih (hrows.snoc (readRow_checked hrow)) ?_
    rw [List.length_append, List.length_singleton]
    exact hrest

theorem loadUnsafe_eq_ok {sourceDirectory : Text} {expectedCount : ℤ}
    {expectedWorkloadId profile : Text} {rows : List PreparedRequest}
    (h : loadUnsafe H sourceDirectory expectedCount expectedWorkloadId profile = .ok rows) :
    (rows.length : ℤ) = expectedCount ∧ InOrder H profile rows := by
  unfold loadUnsafe at h
  simp only [bind_eq_ok_iff, check_eq_ok_iff, Except.ok.injEq] at h
  obtain ⟨_, -, -, -, _, -, _, -, _, -, -, -, _, -, _, -, -, -, _, -, _, -, -, -, result, hresult,
    -, hcount, rfl⟩ := h
  have hempty : InOrder H profile [] := by simp [InOrder]
  exact ⟨hcount, readRows_inOrder hempty hresult⟩

/-- What `load` returns and does not throw. -/
theorem load_cases (H : Host) (sourceDirectory : Text) (expectedCount : ℤ)
    (expectedWorkloadId profile : Text) :
    (∀ rows, load H sourceDirectory expectedCount expectedWorkloadId profile = .ok (.ok rows) →
      loadUnsafe H sourceDirectory expectedCount expectedWorkloadId profile = .ok rows) ∧
    ∀ message simpleName, load H sourceDirectory expectedCount expectedWorkloadId profile ≠
      .error (.nonFatal message simpleName) := by
  unfold load
  rcases loadUnsafe H sourceDirectory expectedCount expectedWorkloadId profile with (_ | _) | _ <;>
    simp

/-- **The prepared requests.**  The validator of the reusable profile agrees with the scheduler, and
`load` returns as many rows as expected, in order and checked, and throws nothing that is not
fatal. -/
theorem prepared_requests_agree (H : Host) :
    (∀ ordinal logicalRequestId expectedRid actionParams,
      validateActionParams H reusableConcurrencyProfile ordinal logicalRequestId expectedRid
          actionParams = .ok () ↔
        ∃ envelope, sourceInput (some (.object actionParams)) = .ok envelope ∧
          expectedRid = requestIdHashOf envelope) ∧
    ∀ sourceDirectory expectedCount expectedWorkloadId profile,
      (∀ rows, load H sourceDirectory expectedCount expectedWorkloadId profile = .ok (.ok rows) →
        (rows.length : ℤ) = expectedCount ∧ InOrder H profile rows) ∧
      ∀ message simpleName, load H sourceDirectory expectedCount expectedWorkloadId profile ≠
        .error (.nonFatal message simpleName) := by
  refine ⟨fun _ _ _ _ => validateActionParams_eq_ok_iff, ?_⟩
  intro sourceDirectory expectedCount expectedWorkloadId profile
  obtain ⟨hright, hthrow⟩ := load_cases H sourceDirectory expectedCount expectedWorkloadId profile
  exact ⟨fun rows h => loadUnsafe_eq_ok (hright rows h), hthrow⟩

end PreparedRequests
end OpenWhisk
end AsynCS
