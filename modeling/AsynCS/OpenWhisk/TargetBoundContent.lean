import AsynCS.Lib.Decimal
import AsynCS.OpenWhisk.InvokerReactive
import AsynCS.OpenWhisk.ProtectedEnvelope

/-!
# The content of a target-bound activation, and its result

`TargetBoundActivationContent` is the JSON contract that an activation carries: the source INPUT
before dispatch, the target dispatch behind it, and the target result on the way back.

* `base64Decode`: `Base64.getDecoder`, with `base64Decode_b64text`.
* `sourceInput`, `targetDispatch`, `parseTargetDispatch`, `targetResult`, `parseTargetResult`.
* `parseTargetDispatch_targetDispatch`: a dispatch that is written is read back, and
  `parseTargetDispatch_spec`: what a dispatch that is read satisfies.
* `parseTargetResult_targetResult_iff`: the results that are read back.
* `sourceInput_targetDispatch`: a dispatch is no source INPUT.
-/

namespace AsynCS
namespace OpenWhisk

/-! ## Base64 -/

/-- The byte of two characters at the end. -/
def base64Pair (a b : Char) : Option Bytes := do
  let x ← Proxy.base64Bits a
  let y ← Proxy.base64Bits b
  some [UInt8.ofNat (x * 4 + y / 16)]

/-- The bytes of three characters at the end. -/
def base64Triple (a b c : Char) : Option Bytes := do
  let x ← Proxy.base64Bits a
  let y ← Proxy.base64Bits b
  let z ← Proxy.base64Bits c
  some [UInt8.ofNat (x * 4 + y / 16), UInt8.ofNat (y % 16 * 16 + z / 4)]

/-- The bytes of a group. -/
def base64Group (a b c d : Char) : Option Bytes := do
  let x ← Proxy.base64Bits a
  let y ← Proxy.base64Bits b
  let z ← Proxy.base64Bits c
  let w ← Proxy.base64Bits d
  some [UInt8.ofNat (x * 4 + y / 16), UInt8.ofNat (y % 16 * 16 + z / 4),
    UInt8.ofNat (z % 4 * 64 + w)]

/-- `Base64.getDecoder.decode`, or `none` for the `IllegalArgumentException`.  The last group may
lack its padding, but not a part of it. -/
def base64Decode : Text → Option Bytes
  | [] => some []
  | [_] => none
  | [a, b] => base64Pair a b
  | [a, b, c] => base64Triple a b c
  | a :: b :: c :: d :: rest =>
    if d = '=' then
      if rest = [] then if c = '=' then base64Pair a b else base64Triple a b c else none
    else do
      let group ← base64Group a b c d
      let bytes ← base64Decode rest
      some (group ++ bytes)

theorem base64Bits_sextet (n : ℕ) : Proxy.base64Bits (sextet n) = some (n % 64) :=
  (base64Bits_base64Char n).2.2

theorem sextet_ne_pad (n : ℕ) : sextet n ≠ '=' := (base64Bits_base64Char n).1

/-- **Base64** is read back. -/
theorem base64Decode_b64text (b : Bytes) : base64Decode (b64text b) = some b := by
  induction b using Worker.base64Chars.induct with
  | case1 => rfl
  | case2 a =>
    set triple := a.toNat * 65536 + 0 * 256 + 0 with htriple
    obtain ⟨ha, -, -⟩ := ofNat_quad a 0 0 htriple
    have htext : b64text [a] =
        sextet (triple / 262144) :: sextet (triple / 4096) :: ['=', '='] := rfl
    rw [htext, base64Decode, if_pos rfl, if_pos rfl, if_pos rfl, base64Pair, base64Bits_sextet,
      base64Bits_sextet]
    show some [_] = _
    rw [ha]
  | case3 a b =>
    set triple := a.toNat * 65536 + b.toNat * 256 + 0 with htriple
    obtain ⟨ha, hb, -⟩ := ofNat_quad a b 0 htriple
    have htext : b64text [a, b] =
        sextet (triple / 262144) :: sextet (triple / 4096) :: sextet (triple / 64) :: ['='] := rfl
    rw [htext, base64Decode, if_pos rfl, if_pos rfl, if_neg (sextet_ne_pad _), base64Triple,
      base64Bits_sextet, base64Bits_sextet, base64Bits_sextet]
    show some [_, _] = _
    rw [ha, hb]
  | case4 a b c rest ih =>
    set triple := a.toNat * 65536 + b.toNat * 256 + c.toNat with htriple
    obtain ⟨ha, hb, hc⟩ := ofNat_quad a b c htriple
    have htext : b64text (a :: b :: c :: rest) =
        sextet (triple / 262144) :: sextet (triple / 4096) :: sextet (triple / 64) ::
          sextet triple :: b64text rest := rfl
    rw [htext, base64Decode, if_neg (sextet_ne_pad _), base64Group, base64Bits_sextet,
      base64Bits_sextet, base64Bits_sextet, base64Bits_sextet, ih]
    show some (_ :: _ :: _ :: rest) = _
    rw [ha, hb, hc]

/-! ## Revisions and errors -/

/-- `DocRevision`: a text that may be null. -/
structure DocRevision where
  rev : Option Text
  deriving DecidableEq

/-- `DocRevision.empty` -/
def DocRevision.empty : DocRevision := ⟨none⟩

/-- `TargetReencryptionError` -/
structure TargetReencryptionError where
  targetReencryptionError : Text
  deriving DecidableEq

/-- An error of the given parts. -/
def reencryptionError (parts : List Text) : TargetReencryptionError := ⟨parts.flatten⟩

namespace TargetBoundActivationContent

/-! ## The contract -/

def rootField : Text := "__ow_reusable_target_bound_v1".toList
def sourceInputField : Text := "sourceProtectedInputEnvelope".toList
def targetInputField : Text := "targetProtectedInputEnvelope".toList
def targetCodeField : Text := "targetProtectedCodeEnvelope".toList
def targetBindingField : Text := "targetBindingId".toList
def sourceBindingField : Text := "sourceBindingId".toList
def exactRevisionField : Text := "exactActionRevision".toList
def warmedField : Text := "warmed".toList
def workerCodeFetchField : Text := "workerCodeFetch".toList
def resultRootField : Text := "__ow_reusable_target_result_v1".toList
def targetResultField : Text := "targetProtectedResultEnvelope".toList
def requestIdHashField : Text := "requestIdHash".toList

/-- `TargetDispatch` -/
structure TargetDispatch where
  targetBindingId : Int64
  sourceBindingId : Int64
  exactRevision : DocRevision
  warmed : Bool
  targetInput : ProtectedEnvelopeV1
  targetCode : Option ProtectedEnvelopeV1

/-- `TargetResult` -/
structure TargetResult where
  sourceBindingId : Int64
  targetBindingId : Int64
  requestIdHash : Text
  targetEnvelope : ProtectedEnvelopeV1

/-! ## Links of the parsers -/

/-- `decodeBase64` -/
def decodeBase64 (value description : Text) : Except TargetReencryptionError Bytes :=
  orError (base64Decode value) (reencryptionError [description, " is not valid base64".toList])

/-- `encodeBase64` -/
def encodeBase64 (b : Bytes) : Text := b64text b

/-- The envelope in a text. -/
def decodeText (encoded description : Text) :
    Except TargetReencryptionError ProtectedEnvelopeV1 := do
  let bytes ← decodeBase64 encoded description
  (ProtectedEnvelopeV1.decode bytes).mapError fun message =>
    reencryptionError ["invalid ".toList, description, ": ".toList, message]

/-- `decodeEnvelope` -/
def decodeEnvelope (root : JsValue.Fields) (field description : Text) :
    Except TargetReencryptionError ProtectedEnvelopeV1 := do
  let encoded ← orError ((root.get field).bind JsValue.asString)
    (reencryptionError [description, " is missing".toList])
  decodeText encoded description

/-- `positiveLong` -/
def positiveLong (root : JsValue.Fields) (field : Text) :
    Except TargetReencryptionError Int64 := do
  let value ← orError ((root.get field).bind JsValue.asString)
    (reencryptionError [field, " is missing".toList])
  let parsed ← orError (parseLong value)
    (reencryptionError [field, " must be a decimal integer".toList])
  check (0 < parsed) (reencryptionError [field, " must be positive".toList])
  .ok parsed

/-- The fields of an object with one field. -/
def onlyField (content : Option JsValue) (field : Text) : Option JsValue :=
  (content.bind JsValue.asObject).bind fun fields =>
    if fields.HasKeys [field] then fields.get field else none

/-- `singleRoot` -/
def singleRoot (content : Option JsValue) (field description : Text) :
    Except TargetReencryptionError JsValue.Fields := do
  let value ← orError (onlyField content field)
    (reencryptionError [description, " must contain only its protected root".toList])
  orError value.asObject (reencryptionError [description, " root must be an object".toList])

/-- `requireEnvelope` -/
def requireEnvelope (envelope : ProtectedEnvelopeV1) (kind : ProtectedObjectKind)
    (correlationKind : ProtectedCorrelationKind) (description : Text) :
    Except TargetReencryptionError Unit := do
  check (envelope.1.direction = .sourceToGateway)
    (reencryptionError [description, " must use S2G direction".toList])
  check (envelope.1.kind = kind)
    (reencryptionError [description, " has the wrong object kind".toList])
  check (envelope.1.correlationKind = correlationKind)
    (reencryptionError [description, " has the wrong correlation kind".toList])

/-- The direction of an object at a target. -/
def expectedDirection (kind : ProtectedObjectKind) : ProtectedEnvelopeDirection :=
  if kind = .result then .targetToGateway else .gatewayToTarget

/-- What an object is correlated by. -/
def expectedCorrelationKind (kind : ProtectedObjectKind) : ProtectedCorrelationKind :=
  if kind = .code then .codeObject else .requestId

/-- `requireTargetEnvelope` -/
def requireTargetEnvelope (envelope : ProtectedEnvelopeV1) (kind : ProtectedObjectKind)
    (targetBindingId : Int64) (description : Text) : Except TargetReencryptionError Unit := do
  check (envelope.1.direction = expectedDirection kind)
    (reencryptionError [description, " has the wrong direction".toList])
  check (envelope.1.kind = kind)
    (reencryptionError [description, " has the wrong object kind".toList])
  check (envelope.1.bindingId = targetBindingId)
    (reencryptionError [description, " has the wrong target binding".toList])
  check (envelope.1.correlationKind = expectedCorrelationKind kind)
    (reencryptionError [description, " has the wrong correlation kind".toList])

/-! ## The three contents -/

/-- `sourceInput` -/
def sourceInput (content : Option JsValue) :
    Except TargetReencryptionError ProtectedEnvelopeV1 := do
  let value ← orError (onlyField content rootField) (reencryptionError
    ["target-bound activation must contain only the protected input contract".toList])
  let root ← orError value.asObject
    (reencryptionError ["target-bound source content root must be an object".toList])
  let encoded ← orError ((onlyField (some (.object root)) sourceInputField).bind JsValue.asString)
    (reencryptionError ["target-bound activation is missing its source-protected INPUT".toList])
  let envelope ← decodeText encoded "source-protected INPUT".toList
  requireEnvelope envelope .input .requestId "source-protected INPUT".toList
  .ok envelope

/-- The entries of a dispatch. -/
def dispatchFields (targetBindingId sourceBindingId : Int64) (exactRevision : DocRevision)
    (warmed : Bool) (targetInput : ProtectedEnvelopeV1)
    (targetCode : Option ProtectedEnvelopeV1) : JsValue.Fields :=
  [(targetBindingField, .string (longText targetBindingId)),
    (sourceBindingField, .string (longText sourceBindingId)),
    (exactRevisionField, exactRevision.rev.elim .null .string),
    (warmedField, .boolean warmed),
    (workerCodeFetchField, .boolean false),
    (targetInputField, .string (encodeBase64 targetInput.bytes))] ++
  targetCode.toList.map fun code => (targetCodeField, .string (encodeBase64 code.bytes))

/-- `targetDispatch` -/
def targetDispatch (targetBindingId sourceBindingId : Int64) (exactRevision : DocRevision)
    (warmed : Bool) (targetInput : ProtectedEnvelopeV1)
    (targetCode : Option ProtectedEnvelopeV1) : JsValue :=
  .object [(rootField, .object
    (dispatchFields targetBindingId sourceBindingId exactRevision warmed targetInput targetCode))]

/-- The CODE of a dispatch, when there is one. -/
def decodeCode (root : JsValue.Fields) :
    Except TargetReencryptionError (Option ProtectedEnvelopeV1) :=
  match root.get targetCodeField with
  | some _ => (decodeEnvelope root targetCodeField "target-protected CODE".toList).map some
  | none => .ok none

/-- The keys of a dispatch. -/
def dispatchKeys (hasCode : Bool) : List Text :=
  [targetBindingField, sourceBindingField, exactRevisionField, warmedField,
    workerCodeFetchField, targetInputField] ++ if hasCode then [targetCodeField] else []

/-- `parseTargetDispatch` -/
def parseTargetDispatch (content : Option JsValue) :
    Except TargetReencryptionError TargetDispatch := do
  let root ← singleRoot content rootField "target-bound dispatch".toList
  let targetBindingId ← positiveLong root targetBindingField
  let sourceBindingId ← positiveLong root sourceBindingField
  let exactRevision ← orError
    (((root.get exactRevisionField).bind JsValue.asString).filter (· ≠ []))
    (reencryptionError ["target-bound dispatch is missing its exact action revision".toList])
  let warmed ← orError ((root.get warmedField).bind JsValue.asBoolean)
    (reencryptionError ["target-bound dispatch is missing warmed state".toList])
  check ((root.get workerCodeFetchField).bind JsValue.asBoolean = some false)
    (reencryptionError ["target-bound dispatch must disable worker code fetch".toList])
  let input ← decodeEnvelope root targetInputField "target-protected INPUT".toList
  requireTargetEnvelope input .input targetBindingId "target-protected INPUT".toList
  let code ← decodeCode root
  code.elim (.ok ()) fun envelope =>
    requireTargetEnvelope envelope .code targetBindingId "target-protected CODE".toList
  check (root.HasKeys (dispatchKeys code.isSome))
    (reencryptionError ["target-bound dispatch contains unexpected fields".toList])
  check (warmed = code.isNone)
    (reencryptionError
      ["cold target-bound dispatch requires CODE and warm dispatch must omit it".toList])
  .ok ⟨targetBindingId, sourceBindingId, ⟨some exactRevision⟩, warmed, input, code⟩

/-- The keys of a result. -/
def resultKeys : List Text :=
  [sourceBindingField, targetBindingField, requestIdHashField, targetResultField]

/-- `targetResult` -/
def targetResult (result : TargetResult) : JsValue :=
  .object [(resultRootField, .object
    [(sourceBindingField, .string (longText result.sourceBindingId)),
      (targetBindingField, .string (longText result.targetBindingId)),
      (requestIdHashField, .string result.requestIdHash),
      (targetResultField, .string (encodeBase64 result.targetEnvelope.bytes))])]

/-- `matches("[0-9a-f]{64}")` -/
def isRequestIdHash (t : Text) : Bool :=
  t.length == 64 && t.all fun c => ('0' ≤ c ∧ c ≤ '9') ∨ ('a' ≤ c ∧ c ≤ 'f')

/-- `correlationHash.map(byte => f"${byte & 0xff}%02x").mkString` -/
def requestIdHashOf (envelope : ProtectedEnvelopeV1) : Text :=
  InvokerReactive.hexOf envelope.1.correlationHash.toList

/-- `parseTargetResult` -/
def parseTargetResult (result : Option JsValue) :
    Except TargetReencryptionError TargetResult := do
  let root ← singleRoot result resultRootField "target-bound result".toList
  check (root.HasKeys resultKeys)
    (reencryptionError ["target-bound result contains unexpected fields".toList])
  let sourceBindingId ← positiveLong root sourceBindingField
  let targetBindingId ← positiveLong root targetBindingField
  let requestIdHash ← orError
    (((root.get requestIdHashField).bind JsValue.asString).filter (isRequestIdHash ·))
    (reencryptionError ["target-bound result has an invalid request id hash".toList])
  let envelope ← decodeEnvelope root targetResultField "target-protected RESULT".toList
  requireTargetEnvelope envelope .result targetBindingId "target-protected RESULT".toList
  check (requestIdHashOf envelope = requestIdHash)
    (reencryptionError
      ["target-bound result request correlation does not match its envelope".toList])
  .ok ⟨sourceBindingId, targetBindingId, requestIdHash, envelope⟩

/-! ## What the links let through -/

theorem decodeText_eq_ok_iff {encoded description : Text} {envelope : ProtectedEnvelopeV1} :
    decodeText encoded description = .ok envelope ↔
      base64Decode encoded = some envelope.bytes := by
  unfold decodeText decodeBase64
  simp only [bind_eq_ok_iff, orError_eq_ok_iff, mapError_eq_ok_iff,
    ProtectedEnvelopeV1.decode_eq_ok_iff]
  constructor
  · rintro ⟨bytes, hbytes, rfl⟩
    exact hbytes
  · exact fun h => ⟨_, h, rfl⟩

theorem decodeEnvelope_eq_ok_iff {root : JsValue.Fields} {field description : Text}
    {envelope : ProtectedEnvelopeV1} :
    decodeEnvelope root field description = .ok envelope ↔
      ∃ encoded, root.get field = some (.string encoded) ∧
        base64Decode encoded = some envelope.bytes := by
  unfold decodeEnvelope
  simp only [bind_eq_ok_iff, orError_eq_ok_iff, Option.bind_eq_some_iff,
    JsValue.asString_eq_some_iff, decodeText_eq_ok_iff]
  constructor
  · rintro ⟨encoded, ⟨value, hvalue, rfl⟩, hdecode⟩
    exact ⟨encoded, hvalue, hdecode⟩
  · rintro ⟨encoded, hvalue, hdecode⟩
    exact ⟨encoded, ⟨_, hvalue, rfl⟩, hdecode⟩

theorem positiveLong_eq_ok_iff {root : JsValue.Fields} {field : Text} {n : Int64} :
    positiveLong root field = .ok n ↔
      ∃ t, root.get field = some (.string t) ∧ parseLong t = some n ∧ 0 < n := by
  unfold positiveLong
  simp only [bind_eq_ok_iff, orError_eq_ok_iff, Option.bind_eq_some_iff,
    JsValue.asString_eq_some_iff, check_eq_ok_iff, Except.ok.injEq]
  constructor
  · rintro ⟨t, ⟨value, hvalue, rfl⟩, m, hparse, -, hpos, rfl⟩
    exact ⟨t, hvalue, hparse, hpos⟩
  · rintro ⟨t, hvalue, hparse, hpos⟩
    exact ⟨t, ⟨_, hvalue, rfl⟩, n, hparse, (), hpos, rfl⟩

/-- An envelope that was written is read back. -/
theorem decodeEnvelope_encodeBase64 {root : JsValue.Fields} {field : Text}
    {envelope : ProtectedEnvelopeV1}
    (h : root.get field = some (.string (encodeBase64 envelope.bytes))) (description : Text) :
    decodeEnvelope root field description = .ok envelope :=
  decodeEnvelope_eq_ok_iff.mpr ⟨_, h, base64Decode_b64text _⟩

/-- A positive number that was written is read back. -/
theorem positiveLong_longText {root : JsValue.Fields} {field : Text} {n : Int64}
    (h : root.get field = some (.string (longText n))) (hpos : 0 < n) :
    positiveLong root field = .ok n :=
  positiveLong_eq_ok_iff.mpr ⟨_, h, parseLong_longText n, hpos⟩

/-- What is read as a positive number was the number that was written. -/
theorem eq_of_positiveLong_longText {root : JsValue.Fields} {field : Text} {n m : Int64}
    (h : root.get field = some (.string (longText n))) (hm : positiveLong root field = .ok m) :
    m = n := by
  obtain ⟨t, ht, hparse, -⟩ := positiveLong_eq_ok_iff.mp hm
  rw [h, Option.some.injEq, JsValue.string.injEq] at ht
  rw [← ht, parseLong_longText] at hparse
  exact (Option.some.inj hparse).symm

/-- An envelope for the target binding. -/
structure IsTargetEnvelope (envelope : ProtectedEnvelopeV1) (kind : ProtectedObjectKind)
    (targetBindingId : Int64) : Prop where
  direction_eq : envelope.1.direction = expectedDirection kind
  kind_eq : envelope.1.kind = kind
  bindingId_eq : envelope.1.bindingId = targetBindingId
  correlationKind_eq : envelope.1.correlationKind = expectedCorrelationKind kind

theorem requireTargetEnvelope_eq_ok_iff {envelope : ProtectedEnvelopeV1}
    {kind : ProtectedObjectKind} {targetBindingId : Int64} {description : Text} {u : Unit} :
    requireTargetEnvelope envelope kind targetBindingId description = .ok u ↔
      IsTargetEnvelope envelope kind targetBindingId := by
  unfold requireTargetEnvelope
  simp only [bind_eq_ok_iff, check_eq_ok_iff]
  constructor
  · rintro ⟨-, hdirection, -, hkind, -, hbinding, hcorrelation⟩
    exact ⟨hdirection, hkind, hbinding, hcorrelation⟩
  · intro h
    exact ⟨(), h.direction_eq, (), h.kind_eq, (), h.bindingId_eq, h.correlationKind_eq⟩

theorem onlyField_singleton (key : Text) (value : JsValue) :
    onlyField (some (.object [(key, value)])) key = some value := by
  show (if JsValue.Fields.HasKeys [(key, value)] [key] then _ else none) = _
  rw [if_pos (JsValue.Fields.hasKeys_singleton key value)]
  have hnodup : (List.map Prod.fst [(key, value)]).Nodup := List.nodup_singleton key
  exact JsValue.Fields.get_of_mem hnodup List.mem_cons_self

theorem singleRoot_object (key description : Text) (fields : JsValue.Fields) :
    singleRoot (some (.object [(key, .object fields)])) key description = .ok fields := by
  unfold singleRoot
  rw [onlyField_singleton]
  rfl

/-! ## The source INPUT -/

/-- What `sourceInput` accepts. -/
structure IsSourceInput (envelope : ProtectedEnvelopeV1) : Prop where
  direction_eq : envelope.1.direction = .sourceToGateway
  kind_eq : envelope.1.kind = .input
  correlationKind_eq : envelope.1.correlationKind = .requestId

theorem requireEnvelope_eq_ok_iff {envelope : ProtectedEnvelopeV1} {kind : ProtectedObjectKind}
    {correlationKind : ProtectedCorrelationKind} {description : Text} {u : Unit} :
    requireEnvelope envelope kind correlationKind description = .ok u ↔
      envelope.1.direction = .sourceToGateway ∧ envelope.1.kind = kind ∧
        envelope.1.correlationKind = correlationKind := by
  unfold requireEnvelope
  simp only [bind_eq_ok_iff, check_eq_ok_iff]
  constructor
  · rintro ⟨-, hdirection, -, hkind, hcorrelation⟩
    exact ⟨hdirection, hkind, hcorrelation⟩
  · rintro ⟨hdirection, hkind, hcorrelation⟩
    exact ⟨(), hdirection, (), hkind, hcorrelation⟩

theorem isSourceInput_of_sourceInput {content : Option JsValue} {envelope : ProtectedEnvelopeV1}
    (h : sourceInput content = .ok envelope) : IsSourceInput envelope := by
  unfold sourceInput at h
  simp only [bind_eq_ok_iff, requireEnvelope_eq_ok_iff, Except.ok.injEq] at h
  obtain ⟨-, -, -, -, -, -, envelope', -, -, ⟨hdirection, hkind, hcorrelation⟩, rfl⟩ := h
  exact ⟨hdirection, hkind, hcorrelation⟩

/-- The content that a source INPUT is submitted as. -/
def sourceContent (envelope : ProtectedEnvelopeV1) : JsValue :=
  .object [(rootField, .object
    [(sourceInputField, .string (encodeBase64 envelope.bytes))])]

/-- A source INPUT that is submitted is read. -/
theorem sourceInput_sourceContent {envelope : ProtectedEnvelopeV1} (h : IsSourceInput envelope) :
    sourceInput (some (sourceContent envelope)) = .ok envelope := by
  have hdecode : decodeText (encodeBase64 envelope.bytes) "source-protected INPUT".toList =
      .ok envelope := decodeText_eq_ok_iff.mpr (base64Decode_b64text _)
  have hrequire : requireEnvelope envelope .input .requestId "source-protected INPUT".toList =
      .ok () := requireEnvelope_eq_ok_iff.mpr ⟨h.direction_eq, h.kind_eq, h.correlationKind_eq⟩
  unfold sourceInput sourceContent
  rw [onlyField_singleton]
  simp only [orError_some, ok_bind, JsValue.asObject, onlyField_singleton, Option.bind_some,
    JsValue.asString, hdecode, hrequire]

/-- A dispatch has more fields than the contract of a source INPUT. -/
theorem sourceInput_targetDispatch (targetBindingId sourceBindingId : Int64)
    (exactRevision : DocRevision) (warmed : Bool) (targetInput : ProtectedEnvelopeV1)
    (targetCode : Option ProtectedEnvelopeV1) :
    sourceInput (some (targetDispatch targetBindingId sourceBindingId exactRevision warmed
      targetInput targetCode)) =
      .error (reencryptionError
        ["target-bound activation is missing its source-protected INPUT".toList]) := by
  set root := dispatchFields targetBindingId sourceBindingId exactRevision warmed targetInput
    targetCode with hroot
  have hkeys : ¬ root.HasKeys [sourceInputField] := by
    intro h
    have hm := h.1 _ List.mem_cons_self
    exact absurd (List.mem_singleton.mp hm)
      (show targetBindingField ≠ sourceInputField by decide)
  have honly : onlyField (some (.object root)) sourceInputField = none := by
    show (if root.HasKeys [sourceInputField] then root.get sourceInputField else none) = none
    exact if_neg hkeys
  unfold sourceInput targetDispatch
  rw [onlyField_singleton, ← hroot]
  simp only [orError_some, ok_bind, JsValue.asObject, honly]
  rfl

/-! ## The dispatch -/

/-- The keys of the entries of a dispatch are the keys of a dispatch. -/
theorem map_fst_dispatchFields (targetBindingId sourceBindingId : Int64)
    (exactRevision : DocRevision) (warmed : Bool) (targetInput : ProtectedEnvelopeV1)
    (targetCode : Option ProtectedEnvelopeV1) :
    (dispatchFields targetBindingId sourceBindingId exactRevision warmed targetInput
      targetCode).map Prod.fst = dispatchKeys targetCode.isSome := by
  cases targetCode <;> rfl

theorem nodup_dispatchKeys (hasCode : Bool) : (dispatchKeys hasCode).Nodup := by
  cases hasCode <;> decide

namespace TargetDispatch

/-- What the invoker may rely on. -/
structure Valid (d : TargetDispatch) : Prop where
  targetBindingId_pos : 0 < d.targetBindingId
  sourceBindingId_pos : 0 < d.sourceBindingId
  exactRevision_ne : ∃ rev, d.exactRevision = ⟨some rev⟩ ∧ rev ≠ []
  targetInput : IsTargetEnvelope d.targetInput .input d.targetBindingId
  targetCode : ∀ code, d.targetCode = some code → IsTargetEnvelope code .code d.targetBindingId
  warmed_eq : d.warmed = d.targetCode.isNone

/-- The content that a dispatch is written as. -/
def content (d : TargetDispatch) : JsValue :=
  targetDispatch d.targetBindingId d.sourceBindingId d.exactRevision d.warmed d.targetInput
    d.targetCode

end TargetDispatch

/-- **A dispatch is read back**. -/
theorem parseTargetDispatch_content {d : TargetDispatch} (h : d.Valid) :
    parseTargetDispatch (some d.content) = .ok d := by
  obtain ⟨targetBindingId, sourceBindingId, exactRevision, warmed, input, code⟩ := d
  obtain ⟨rev, rfl, hrev⟩ := h.exactRevision_ne
  set root := dispatchFields targetBindingId sourceBindingId ⟨some rev⟩ warmed input code with hroot
  have hkeys : root.map Prod.fst = dispatchKeys code.isSome := map_fst_dispatchFields ..
  have hget : ∀ {key value}, (key, value) ∈ root → root.get key = some value := by
    intro key value hm
    exact JsValue.Fields.get_of_mem (hkeys ▸ nodup_dispatchKeys _) hm
  have hcode : decodeCode root = .ok code := by
    unfold decodeCode
    cases code with
    | none =>
      rw [JsValue.Fields.get_eq_none (by rw [hkeys]; decide)]
    | some envelope =>
      have hg : root.get targetCodeField = some (.string (encodeBase64 envelope.bytes)) :=
        hget (by simp [hroot, dispatchFields])
      rw [hg]
      show Except.map some (decodeEnvelope ..) = _
      rw [decodeEnvelope_encodeBase64 hg]
      rfl
  have htarget : positiveLong root targetBindingField = .ok targetBindingId :=
    positiveLong_longText (hget (by simp [hroot, dispatchFields])) h.targetBindingId_pos
  have hsource : positiveLong root sourceBindingField = .ok sourceBindingId :=
    positiveLong_longText (hget (by simp [hroot, dispatchFields])) h.sourceBindingId_pos
  have hrevision : root.get exactRevisionField = some (.string rev) :=
    hget (by simp [hroot, dispatchFields])
  have hwarmed : root.get warmedField = some (.boolean warmed) :=
    hget (by simp [hroot, dispatchFields])
  have hfetch : root.get workerCodeFetchField = some (.boolean false) :=
    hget (by simp [hroot, dispatchFields])
  have htext : root.get targetInputField = some (.string (encodeBase64 input.bytes)) :=
    hget (by simp [hroot, dispatchFields])
  have hinput : decodeEnvelope root targetInputField "target-protected INPUT".toList =
      .ok input := decodeEnvelope_encodeBase64 htext _
  have hrequireCode : (code.elim (Except.ok ()) fun envelope =>
      requireTargetEnvelope envelope .code targetBindingId "target-protected CODE".toList) =
      .ok () := by
    cases code with
    | none => rfl
    | some envelope => exact requireTargetEnvelope_eq_ok_iff.mpr (h.targetCode envelope rfl)
  unfold parseTargetDispatch
  simp only [bind_eq_ok_iff, orError_eq_ok_iff, check_eq_ok_iff,
    requireTargetEnvelope_eq_ok_iff, Except.ok.injEq]
  exact ⟨root, singleRoot_object .., _, htarget, _, hsource, rev,
    by rw [hrevision]; exact Option.filter_some_pos (by simpa using hrev), warmed,
    by rw [hwarmed]; rfl, (), by rw [hfetch]; rfl, _, hinput, (), h.targetInput, _, hcode, (),
    hrequireCode, (), hkeys ▸ JsValue.Fields.HasKeys.refl root, (), h.warmed_eq, rfl⟩

/-- **What is read** is a dispatch that the invoker may rely on. -/
theorem valid_of_parseTargetDispatch {content : Option JsValue} {d : TargetDispatch}
    (h : parseTargetDispatch content = .ok d) : d.Valid := by
  unfold parseTargetDispatch at h
  simp only [bind_eq_ok_iff, orError_eq_ok_iff, check_eq_ok_iff, positiveLong_eq_ok_iff,
    requireTargetEnvelope_eq_ok_iff, Except.ok.injEq, Option.filter_eq_some_iff] at h
  obtain ⟨root, -, target, ⟨-, -, -, htarget⟩, source, ⟨-, -, -, hsource⟩, rev, ⟨-, hrev⟩,
    warmed, -, -, -, input, -, -, hinput, code, -, _, hcode, -, -, -, hwarmed, rfl⟩ := h
  refine ⟨htarget, hsource, ⟨rev, rfl, by simpa using hrev⟩, hinput, ?_, hwarmed⟩
  rintro envelope rfl
  exact requireTargetEnvelope_eq_ok_iff.mp hcode

theorem wellFormed_sampleInput :
    (EnvelopeFields.empty .input .gatewayToTarget 42 .requestId).WellFormed :=
  EnvelopeFields.wellFormed_empty .input .gatewayToTarget (by decide) .requestId

/-- A warm dispatch of source binding 7 for binding 42. -/
def sampleDispatch : TargetDispatch where
  targetBindingId := 42
  sourceBindingId := 7
  exactRevision := ⟨some "1-exact".toList⟩
  warmed := true
  targetInput := ⟨_, wellFormed_sampleInput⟩
  targetCode := none

theorem sampleDispatch_valid : sampleDispatch.Valid :=
  ⟨by decide, by decide, ⟨_, rfl, by decide⟩, ⟨rfl, rfl, rfl, rfl⟩,
    fun _ h => absurd h (by simp [sampleDispatch]), rfl⟩

/-! ## The result -/

theorem nodup_resultKeys : resultKeys.Nodup := by decide

namespace TargetResult

/-- What the finalizer may rely on. -/
structure Valid (r : TargetResult) : Prop where
  sourceBindingId_pos : 0 < r.sourceBindingId
  targetBindingId_pos : 0 < r.targetBindingId
  isRequestIdHash : isRequestIdHash r.requestIdHash = true
  targetEnvelope : IsTargetEnvelope r.targetEnvelope .result r.targetBindingId
  requestIdHash_eq : requestIdHashOf r.targetEnvelope = r.requestIdHash

end TargetResult

/-- The hash of an envelope has the form of a request id hash. -/
theorem isRequestIdHash_requestIdHashOf (envelope : ProtectedEnvelopeV1) :
    isRequestIdHash (requestIdHashOf envelope) = true := by
  have hdigit : ∀ n < 16, ('0' ≤ Char.ofNat (hexDigit n).toNat ∧
      Char.ofNat (hexDigit n).toNat ≤ '9') ∨
      ('a' ≤ Char.ofNat (hexDigit n).toNat ∧ Char.ofNat (hexDigit n).toNat ≤ 'f') := by decide
  unfold isRequestIdHash requestIdHashOf InvokerReactive.hexOf
  rw [Bool.and_eq_true, List.length_map, length_hexEncode, List.Vector.toList_length]
  refine ⟨rfl, List.all_eq_true.mpr fun c hc => decide_eq_true ?_⟩
  obtain ⟨x, hx, rfl⟩ := List.mem_map.mp hc
  obtain ⟨y, -, hy⟩ := List.mem_flatMap.mp hx
  have hlt : y.toNat < 256 := y.toNat_lt
  rcases List.mem_pair.mp hy with rfl | rfl
  · exact hdigit _ (by omega)
  · exact hdigit _ (by omega)

/-- **What is read** is a result that the finalizer may rely on. -/
theorem valid_of_parseTargetResult {content : Option JsValue} {r : TargetResult}
    (h : parseTargetResult content = .ok r) : r.Valid := by
  unfold parseTargetResult at h
  simp only [bind_eq_ok_iff, orError_eq_ok_iff, check_eq_ok_iff, positiveLong_eq_ok_iff,
    requireTargetEnvelope_eq_ok_iff, Except.ok.injEq, Option.filter_eq_some_iff] at h
  obtain ⟨root, -, -, -, source, ⟨-, -, -, hsource⟩, target, ⟨-, -, -, htarget⟩, hash,
    ⟨-, hhash⟩, envelope, -, -, henvelope, -, heq, rfl⟩ := h
  exact ⟨hsource, htarget, hhash, henvelope, heq⟩

/-- **A result is read back** when the finalizer may rely on it, and otherwise it is refused. -/
theorem parseTargetResult_targetResult_iff {r r' : TargetResult} :
    parseTargetResult (some (targetResult r)) = .ok r' ↔ r' = r ∧ r.Valid := by
  set root : JsValue.Fields := [(sourceBindingField, .string (longText r.sourceBindingId)),
    (targetBindingField, .string (longText r.targetBindingId)),
    (requestIdHashField, .string r.requestIdHash),
    (targetResultField, .string (encodeBase64 r.targetEnvelope.bytes))] with hroot
  have hnodup : (root.map Prod.fst).Nodup := nodup_resultKeys
  have hsource : root.get sourceBindingField = some (.string (longText r.sourceBindingId)) :=
    JsValue.Fields.get_of_mem hnodup (by simp [hroot])
  have htarget : root.get targetBindingField = some (.string (longText r.targetBindingId)) :=
    JsValue.Fields.get_of_mem hnodup (by simp [hroot])
  have hhash : root.get requestIdHashField = some (.string r.requestIdHash) :=
    JsValue.Fields.get_of_mem hnodup (by simp [hroot])
  have htext : root.get targetResultField =
      some (.string (encodeBase64 r.targetEnvelope.bytes)) :=
    JsValue.Fields.get_of_mem hnodup (by simp [hroot])
  have hkeys : root.HasKeys resultKeys := JsValue.Fields.HasKeys.refl root
  have hsingle : singleRoot (some (targetResult r)) resultRootField
      "target-bound result".toList = .ok root := singleRoot_object ..
  unfold parseTargetResult
  rw [hsingle]
  simp only [bind_eq_ok_iff, orError_eq_ok_iff, check_eq_ok_iff, requireTargetEnvelope_eq_ok_iff,
    Except.ok.injEq, Option.filter_eq_some_iff]
  constructor
  · rintro ⟨_, rfl, -, -, source, hs, target, ht, hash, ⟨hh, hmatches⟩, envelope, he, -,
      henvelope, -, heq, rfl⟩
    obtain ⟨-, -, -, hspos⟩ := positiveLong_eq_ok_iff.mp hs
    obtain ⟨-, -, -, htpos⟩ := positiveLong_eq_ok_iff.mp ht
    rw [decodeEnvelope_encodeBase64 htext, Except.ok.injEq] at he
    rw [hhash, Option.bind_some, JsValue.asString, Option.some.injEq] at hh
    have hs' := eq_of_positiveLong_longText hsource hs
    have ht' := eq_of_positiveLong_longText htarget ht
    subst hs' ht' he hh
    exact ⟨rfl, hspos, htpos, hmatches, henvelope, heq⟩
  · rintro ⟨rfl, h⟩
    exact ⟨root, rfl, (), hkeys, _, positiveLong_longText hsource h.sourceBindingId_pos, _,
      positiveLong_longText htarget h.targetBindingId_pos, r'.requestIdHash,
      ⟨by rw [hhash]; rfl, h.isRequestIdHash⟩, _, decodeEnvelope_encodeBase64 htext _, (),
      h.targetEnvelope, (), h.requestIdHash_eq, rfl⟩

end TargetBoundActivationContent
end OpenWhisk
end AsynCS
