import AsynCS.Worker.Invocation
import AsynCS.WorkerApp.Command

/-!
# The files of an `invoke` command

`do_invoke` reads the package, the request, the two key ciphertexts and, when they are named, the
public key and the nonce, one file after the other; it checks the size of each as it is read, and
hands their parts to a run ECALL.

* `InvokeFile`, `InvokeFile.accepts`: the files, and the checks on their sizes.
* `namesKem`, `namesOne`: which of the last two files the command names.
* `readPlan`: which files are read, by which names, in order.
* `runKind`, `runArgs`: the ECALL and its arguments.
-/

namespace AsynCS
namespace WorkerApp

open Worker

/-- A file of an `invoke` command. -/
inductive InvokeFile where
  | wasm
  | input
  | cKFunc
  | cKey
  | pkU
  | nonce
  deriving DecidableEq

/-- `do_invoke` goes on after reading this content. -/
def InvokeFile.accepts : InvokeFile → Bytes → Bool
  | .wasm, content => 28 ≤ content.length
  | .input, content => 28 ≤ content.length
  | .cKFunc, content => 65 + 12 + 16 + 16 ≤ content.length
  | .cKey, content => 65 + 12 + 16 + 16 ≤ content.length
  | .pkU, content => content.length == 65
  | .nonce, content => content.length == 16

/-- The name that `fopen` gets of a path. -/
def fileName (path : Bytes) : CStr := CStr.ofBuffer path

/-- The command names files for the public key and the nonce. -/
def namesKem (args : InvokeArgs) : Bool := args.pkuFile != [] || args.nonceFile != []

/-- The command names a file for one of the two, and none for the other. -/
def namesOne (args : InvokeArgs) : Bool := (args.pkuFile != []) != (args.nonceFile != [])

/-- The files that every command reads. -/
def basePlan (args : InvokeArgs) : List (InvokeFile × CStr) :=
  [(.wasm, fileName args.wasmFile), (.input, fileName args.inputFile),
    (.cKFunc, fileName args.cKFuncFile), (.cKey, fileName args.cKeyFile)]

/-- The files of a command, in the order in which they are read. -/
def readPlan (args : InvokeArgs) : List (InvokeFile × CStr) :=
  basePlan args ++
  if namesKem args then
    [(.pkU, fileName args.pkuFile), (.nonce, fileName args.nonceFile)]
  else []

/-- The ECALL of a command. -/
def runKind (args : InvokeArgs) : RunKind := if namesKem args then .kem else .legacy

/-- The arguments of the ECALL: a package and a request are `iv || tag || ciphertext`, and a
command without a public key passes zeros. -/
def runArgs (args : InvokeArgs) (content : InvokeFile → Bytes) : RunArgs where
  encryptedWasm := (content .wasm).drop 28
  encryptedInput := (content .input).drop 28
  cKFunc := content .cKFunc
  cKey := content .cKey
  nonce := Block.ofBytes 16 (if namesKem args then content .nonce else [])
  pkU := Block.ofBytes 65 (if namesKem args then content .pkU else [])
  maxOutSize := args.maxOutputBytes
  wasmIv := Block.ofBytes 12 ((content .wasm).take 12)
  wasmMac := Block.ofBytes 16 (((content .wasm).drop 12).take 16)
  inputIv := Block.ofBytes 12 ((content .input).take 12)
  inputMac := Block.ofBytes 16 (((content .input).drop 12).take 16)
  invokeTrace := namesKem args

end WorkerApp
end AsynCS
