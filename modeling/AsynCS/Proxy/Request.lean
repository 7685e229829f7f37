import AsynCS.Lib.Text
import AsynCS.WorkerApp.Command

/-!
# A request to the runtime proxy

`/run` takes a JSON object, checks its fields, writes five of them to files, and sends the
worker one line with the paths of these files.

* `Json`, `RunBody`: the object, as the handler looks at it.
* `requireField`, `acceptRun`: the checks, with the text of the first that fails, and
  `exists_acceptRun`: a request is what they let through and nothing less.
* `RuntimePaths`: the configured files, whose paths hold no whitespace.
* `tokens`, `commandLine`: the line; `invokeArgs`: what it is meant to say.
-/

namespace AsynCS
namespace Proxy

open WorkerApp

/-! ## Fields -/

/-- A JSON value; lists and objects are told apart from the rest only. -/
inductive Json where
  | null
  | bool (b : Bool)
  | int (n : ℤ)
  | float (q : ℚ)
  | str (s : PyStr)
  | container
  deriving DecidableEq

/-- The object under `value`. -/
abbrev RunBody := String → Option Json

/-- A Python string that is not empty. -/
abbrev NonemptyStr := {s : PyStr // s ≠ []}

/-- The string of a literal. -/
def lit (s : String) : PyStr := PyStr.ofText s.toList

/-- `_require_field`. -/
def requireField (value : RunBody) (key : String) : Except String NonemptyStr :=
  match value key with
  | none | some .null => .error ("Missing required field: " ++ key)
  | some (.str s) =>
    if h : s ≠ [] then .ok ⟨s, h⟩ else .error ("Missing required field: " ++ key)
  | some _ => .error ("Invalid type for field " ++ key ++ ": expected string")

theorem defaultLabel_ne_nil : lit "default_label" ≠ [] := by decide

/-- The `label`. -/
def labelField (value : RunBody) : Except String NonemptyStr :=
  match value "label" with
  | none => .ok ⟨lit "default_label", defaultLabel_ne_nil⟩
  | some (.str s) =>
    if h : s ≠ [] then .ok ⟨s, h⟩
    else .error "Invalid type for field label: expected non-empty string"
  | some _ => .error "Invalid type for field label: expected non-empty string"

/-- An `output_capacity_bytes` in range. -/
abbrev OutputCapacity := {n : ℕ // 0 < n ∧ n ≤ maxOutputCapacityBytes}

theorem defaultCapacity_inRange :
    0 < defaultOutputCapacityBytes ∧ defaultOutputCapacityBytes ≤ maxOutputCapacityBytes := by
  decide

/-- The `output_capacity_bytes`. -/
def capacityField (value : RunBody) : Except String OutputCapacity :=
  match value "output_capacity_bytes" with
  | none => .ok ⟨defaultOutputCapacityBytes, defaultCapacity_inRange⟩
  | some (.int (.ofNat n)) =>
    if h : 0 < n ∧ n ≤ maxOutputCapacityBytes then .ok ⟨n, h⟩
    else .error "Invalid output_capacity_bytes: expected integer in [1, 1048576]"
  | some _ => .error "Invalid output_capacity_bytes: expected integer in [1, 1048576]"

/-- The checks on `c5_result_json_bytes`. -/
def checkC5Fields (value : RunBody) : Except String Unit :=
  match value "c5_result_json_bytes" with
  | none | some .null => .ok ()
  | some size =>
    if value "c5_schema_version" ≠ some (.str (lit "c5-asyncs-request-v1")) then
      .error "C5 measured result requires c5-asyncs-request-v1"
    else if size = .int 4096 ∨ size = .float 4096 then .ok ()
    else .error "C5 measured result size must be 4096 bytes"

/-- A request that `run` goes on with. -/
structure RunRequest where
  fid : NonemptyStr
  encryptedInput : NonemptyStr
  cKFunc : NonemptyStr
  cKey : NonemptyStr
  pkU : NonemptyStr
  nonce : NonemptyStr
  profile : PyStr
  label : NonemptyStr
  outputCapacityBytes : OutputCapacity
  deriving DecidableEq

/-- The checks of `run`.  `resolved` is what `_resolve_crypto_metadata` makes of the object: the
id of its profile, or the text of the error. -/
def acceptRun (resolved : Except String PyStr) (value : RunBody) : Except String RunRequest := do
  let fid ← requireField value "FID"
  let encryptedInput ← requireField value "encrypted_input"
  let cKFunc ← requireField value "C_k_func"
  let cKey ← requireField value "C_key"
  let pkU ← requireField value "pkU"
  let nonce ← requireField value "nonce"
  let profile ← resolved
  let label ← labelField value
  let outputCapacityBytes ← capacityField value
  checkC5Fields value
  .ok ⟨fid, encryptedInput, cKFunc, cKey, pkU, nonce, profile, label, outputCapacityBytes⟩

/-- The object that spells out a request. -/
def RunRequest.body (req : RunRequest) : RunBody
  | "FID" => some (.str req.fid.1)
  | "encrypted_input" => some (.str req.encryptedInput.1)
  | "C_k_func" => some (.str req.cKFunc.1)
  | "C_key" => some (.str req.cKey.1)
  | "pkU" => some (.str req.pkU.1)
  | "nonce" => some (.str req.nonce.1)
  | "label" => some (.str req.label.1)
  | "output_capacity_bytes" => some (.int (.ofNat req.outputCapacityBytes.1))
  | _ => none

theorem requireField_of_str (value : RunBody) {key : String} (s : NonemptyStr)
    (h : value key = some (.str s.1)) : requireField value key = .ok s := by
  unfold requireField
  rw [h]
  exact dif_pos s.2

/-- **What is accepted.**  Every request is let through when it is spelled out, so its strings
are any that are not empty. -/
theorem exists_acceptRun (req : RunRequest) : acceptRun (.ok req.profile) req.body = .ok req := by
  have hlabel : labelField req.body = .ok req.label := dif_pos req.label.2
  have hcapacity : capacityField req.body = .ok req.outputCapacityBytes :=
    dif_pos req.outputCapacityBytes.2
  have hc5 : checkC5Fields req.body = .ok () := rfl
  unfold acceptRun
  rw [requireField_of_str req.body req.fid rfl,
    requireField_of_str req.body req.encryptedInput rfl,
    requireField_of_str req.body req.cKFunc rfl,
    requireField_of_str req.body req.cKey rfl,
    requireField_of_str req.body req.pkU rfl,
    requireField_of_str req.body req.nonce rfl, hlabel, hcapacity, hc5]
  rfl

/-! ## The line -/

/-- Whitespace of the worker's tokens. -/
def isSpaceChar (c : Char) : Bool := c == ' ' || (9 ≤ c.toNat && c.toNat ≤ 13)

/-- A configured path. -/
structure Path where
  text : Text
  nonempty : text ≠ []
  noSpace : ∀ c ∈ text, isSpaceChar c = false
  deriving DecidableEq

/-- The bytes of a path. -/
def Path.bytes (p : Path) : Bytes := utf8 p.text

/-- The five files that a handler writes. -/
inductive RequestFile where
  | input
  | cKFunc
  | cKey
  | pkU
  | nonce
  deriving DecidableEq

/-- `WASM_FILE`, and the paths of the request's files. -/
structure RuntimePaths where
  wasmFile : Path
  file : RequestFile → Path

/-- The tokens of `run`. -/
def tokens (paths : RuntimePaths) (req : RunRequest) : List PyStr :=
  [lit "invoke", req.fid.1, PyStr.ofText paths.wasmFile.text,
    PyStr.ofText (paths.file .input).text, lit "--label", req.label.1, lit "--keys",
    PyStr.ofText (paths.file .cKFunc).text, PyStr.ofText (paths.file .cKey).text,
    lit "--max-output-bytes", PyStr.ofText (Nat.toDigits 10 req.outputCapacityBytes.1),
    PyStr.ofText (paths.file .pkU).text, PyStr.ofText (paths.file .nonce).text]

/-- What `_invoke_sgx_worker` writes: it fails when a string cannot be encoded. -/
def commandLine (paths : RuntimePaths) (req : RunRequest) : Option Bytes :=
  PyStr.encode (List.intercalate (lit " ") (tokens paths req) ++ lit "\n")

/-- The arguments with this FID, label and capacity, and the configured paths. -/
def argsOf (paths : RuntimePaths) (fid label : Bytes) (capacity : ℕ) : InvokeArgs where
  fid := fid
  wasmFile := paths.wasmFile.bytes
  inputFile := (paths.file .input).bytes
  label := label
  cKFuncFile := (paths.file .cKFunc).bytes
  cKeyFile := (paths.file .cKey).bytes
  pkuFile := (paths.file .pkU).bytes
  nonceFile := (paths.file .nonce).bytes
  maxOutputBytes := capacity

/-- What the line is meant to say. -/
def invokeArgs (paths : RuntimePaths) (req : RunRequest) : Option InvokeArgs := do
  let fid ← req.fid.1.encode
  let label ← req.label.1.encode
  some (argsOf paths fid label req.outputCapacityBytes.1)

end Proxy
end AsynCS
