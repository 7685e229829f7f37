import AsynCS.Client.BfibeTool
import AsynCS.Client.Sdk

/-!
# The artifacts of an invocation

`worker_smoke_artifacts.py` encrypts a module and an input for one FID, wraps the two session keys
in the profile that it is given, and writes what an `invoke` command reads.  What it draws at random
is an argument, what the one-shot commands of the KMS write is the parameter `KmsDir`, and a function
that raises returns `none`.

* `buildArtifactPlan`: the package and the request, with the label and the RID.
* `KmsDir`, `runKmsPrintPubkey`, `runKmsBfibePublicParams`: what is asked of the KMS.
* `wrapSessionKeys`, `buildWorkerSmokeArtifacts`: the key ciphertexts of a profile, and the artifacts.

The metadata file and the paths are left out.
-/

namespace AsynCS
namespace Client
namespace WorkerSmokeArtifacts

/-! ## The plan -/

/-- `ArtifactPlan` -/
structure ArtifactPlan where
  fid : PyStr
  label : PyStr
  rid : PyStr
  aadPkg : Bytes
  aadReq : Bytes
  cFunc : Bytes
  cReq : Bytes
  deriving DecidableEq

/-- `build_artifact_plan`, with the nonces of its two encryptions. -/
def buildArtifactPlan (S : Sgx) (packageIv requestIv : Block 12) (fid : PyStr)
    (wasmBytes inputBytes kFunc kReq pkU nonce : Bytes) : Option ArtifactPlan :=
  if kFunc.length ≠ 16 then none
  else if kReq.length ≠ 16 then none
  else if pkU.length ≠ 65 ∨ pkU.take 1 ≠ [4] then none
  else do
    let aadPkg ← buildAadPkg fid
    let cFunc := AESGCMImpl.encrypt S packageIv (Block.ofBytes 16 kFunc) wasmBytes aadPkg
    let label := PyStr.hex (S.sha256 cFunc).toList
    let aadReq ← buildAadReq S fid nonce pkU
    let cReq := AESGCMImpl.encrypt S requestIv (Block.ofBytes 16 kReq) inputBytes aadReq
    let rid ← computeRid S fid cReq
    some ⟨fid, label, rid, aadPkg, aadReq, cFunc, cReq⟩

/-! ## The KMS -/

/-- The files that the one-shot commands of the KMS leave: the public key of an identity, and the
public parameters of the BF-IBE profile. -/
structure KmsDir where
  printPubkey : PyStr → Option Bytes
  bfibePublicParams : Option Bytes

/-- `run_kms_print_pubkey`. -/
def runKmsPrintPubkey (kms : KmsDir) (identity : PyStr) : Option Bytes := do
  let data ← kms.printPubkey identity
  if data.length ≠ 65 ∨ data.take 1 ≠ [4] then none else some data

/-- `run_kms_bfibe_public_params`. -/
def runKmsBfibePublicParams (kms : KmsDir) : Option Bytes := do
  let data ← kms.bfibePublicParams
  if data.length = 0 ∨ data.all (· == 0) then none else some data

/-! ## The artifacts -/

/-- The profiles of `get_crypto_profile`. -/
inductive CryptoProfile where
  | eccibe
  | bfibeMclBls12381
  | bfibePyEccBn128Demo
  deriving DecidableEq

/-- What one wrapping of a key by the BF-IBE tool draws, and whether OpenSSL works. -/
structure EnvelopeDraw where
  evp : Bool
  r : Bytes
  nonce : Bytes
  deriving DecidableEq

/-- What `build_worker_smoke_artifacts` draws. -/
structure SmokeDraw where
  kFunc : Block 16
  kReq : Block 16
  nonce : Block 16
  skU : Block 32
  packageIv : Block 12
  requestIv : Block 12
  functionKey : KeyDraw
  requestKey : KeyDraw
  functionEnvelope : EnvelopeDraw
  requestEnvelope : EnvelopeDraw
  deriving DecidableEq

/-- What `build_worker_smoke_artifacts` writes. -/
structure Artifacts where
  fid : PyStr
  label : PyStr
  rid : PyStr
  cFunc : Bytes
  cReq : Bytes
  cKFunc : Bytes
  cKey : Bytes
  pkU : Bytes
  skU : Bytes
  nonce : Bytes
  deriving DecidableEq

/-- `value or os.urandom(16)` -/
def orDrawn (value : Option Bytes) (drawn : Block 16) : Bytes :=
  match value with
  | none => drawn.toList
  | some b => if b = [] then drawn.toList else b

/-- `run_bfibe_mcl_client_tool`.  The purpose and the identity are arguments of a process, which hold
no NUL; the context and the key reach the tool in hexadecimal. -/
def runBfibeMclClientTool (S : Sgx) (M : Mcl) (draw : EnvelopeDraw) (mpk : Bytes)
    (purpose identity : PyStr) (aadContext plaintext : Bytes) : Option Bytes :=
  if ¬ (plaintext.length = 16 ∨ plaintext.length = 32) then none
  else do
    let purposeBytes ← purpose.encode
    let identityBytes ← identity.encode
    if 0 ∈ identityBytes then none
    else
      BfibeTool.encryptKeyEnvelope S M draw.evp mpk purposeBytes identityBytes aadContext plaintext
        draw.r draw.nonce

/-- The two key ciphertexts of a plan: for the function, and for the request. -/
def wrapSessionKeys (S : Sgx) (P : P256) (M : Mcl) (kms : KmsDir) (draw : SmokeDraw)
    (profile : CryptoProfile) (plan : ArtifactPlan) (kFunc kReq : Bytes) :
    Option (Bytes × Bytes) :=
  match profile with
  | .eccibe => do
    let fidPub ← runKmsPrintPubkey kms plan.fid
    let labelPub ← runKmsPrintPubkey kms plan.label
    let cKFunc ← encryptKeyCiphertextV1 S P draw.functionKey labelPub kFunc
    let cKey ← encryptKeyCiphertextV1 S P draw.requestKey fidPub kReq
    some (cKFunc, cKey)
  | .bfibeMclBls12381 => do
    let mpk ← runKmsBfibePublicParams kms
    let cKFunc ← runBfibeMclClientTool S M draw.functionEnvelope mpk (pyLit "function-key")
      (pyLit "label:" ++ plan.label) plan.aadPkg kFunc
    let cKey ← runBfibeMclClientTool S M draw.requestEnvelope mpk (pyLit "request-key")
      (pyLit "fid:" ++ plan.fid) plan.aadReq kReq
    some (cKFunc, cKey)
  | .bfibePyEccBn128Demo => none

/-- `build_worker_smoke_artifacts`. -/
def buildWorkerSmokeArtifacts (S : Sgx) (P : P256) (M : Mcl) (kms : KmsDir) (draw : SmokeDraw)
    (profile : CryptoProfile) (fid : PyStr) (wasmBytes inputBytes : Bytes)
    (kFunc kReq nonce : Option Bytes) : Option Artifacts := do
  let kFunc := orDrawn kFunc draw.kFunc
  let kReq := orDrawn kReq draw.kReq
  let nonce := orDrawn nonce draw.nonce
  let (pkU, skU) ← P256HKDFKEM.keygen P draw.skU
  let plan ← buildArtifactPlan S draw.packageIv draw.requestIv fid wasmBytes inputBytes kFunc kReq
    pkU nonce
  let (cKFunc, cKey) ← wrapSessionKeys S P M kms draw profile plan kFunc kReq
  some
    { fid := fid
      label := plan.label
      rid := plan.rid
      cFunc := plan.cFunc
      cReq := plan.cReq
      cKFunc := cKFunc
      cKey := cKey
      pkU := pkU
      skU := skU
      nonce := nonce }

end WorkerSmokeArtifacts
end Client
end AsynCS
