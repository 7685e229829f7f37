import AsynCS.Worker.State

/-!
# What a run hashes, authenticates and passes on

The strings that a run ECALL builds from its arguments and from the FID of its key slot.

* `fidToBytesOrStr`: an FID of 64 hexadecimal digits stands for its 32 bytes, and any other
  FID for its own text.  The source reads at most 128 bytes of it, the size of `g_worker_fid`.
* `aadPkg`, `aadReq`, `aadOut`: the associated data of a package, a request and an output,
  each behind a literal of three bytes; `buildAadPkg` and its companions add what can fail.
* `computeRidFromFidAndCReq`, `computeLabelFromCfunc`, `sha256Concat`, `deriveDklabelfunc`:
  the hashes.
* `base64Encode`: the argument of a module.
-/

namespace AsynCS
namespace Worker

/-! ## The FID -/

/-- `hex_nibble`. -/
def hexNibble (c : UInt8) : Option ℕ :=
  if 48 ≤ c ∧ c ≤ 57 then some (c.toNat - 48)
  else if 97 ≤ c ∧ c ≤ 102 then some (10 + (c.toNat - 97))
  else if 65 ≤ c ∧ c ≤ 70 then some (10 + (c.toNat - 65))
  else none

/-- The bytes that pairs of digits stand for. -/
def decodeHex : Bytes → Option Bytes
  | [] => some []
  | [_] => none
  | a :: b :: rest => do
    let hi ← hexNibble a
    let lo ← hexNibble b
    let decoded ← decodeHex rest
    some (UInt8.ofNat (hi * 16 + lo) :: decoded)

/-- `fid_to_bytes_or_str`. -/
def fidToBytesOrStr (fid : CStr) : Bytes :=
  let text := (fid.cut 128).bytes
  if text.length = 64 then (decodeHex text).getD text else text

/-! ## Associated data -/

/-- The associated data of a package. -/
def aadPkg (fid : CStr) : Bytes := ascii "PKG" ++ fidToBytesOrStr fid

/-- A field of 128 bytes keeps what the associated data depend on. -/
theorem aadPkg_cut (fid : CStr) : aadPkg (fid.cut 128) = aadPkg fid := by
  rw [aadPkg, aadPkg, fidToBytesOrStr, fidToBytesOrStr, CStr.cut_cut, Nat.min_self]

/-- The associated data of a request. -/
def aadReq (S : Sgx) (fid : CStr) (nonce : Block 16) (pkU : Block 65) : Bytes :=
  ascii "REQ" ++ fidToBytesOrStr fid ++ nonce.toList ++ (S.sha256 pkU.toList).toList

/-- The associated data of an output. -/
def aadOut (S : Sgx) (fid : CStr) (rid : Block 32) (pkU : Block 65) : Bytes :=
  ascii "OUT" ++ fidToBytesOrStr fid ++ rid.toList ++ (S.sha256 pkU.toList).toList

/-- `build_aad_pkg`. -/
def buildAadPkg (malloc : Bool) (fid : CStr) : Option Bytes :=
  if malloc then some (aadPkg fid) else none

/-- `build_aad_req`. -/
def buildAadReq (S : Sgx) (hash malloc : Bool) (fid : CStr) (nonce : Block 16) (pkU : Block 65) :
    Option Bytes :=
  if hash && malloc then some (aadReq S fid nonce pkU) else none

/-- `build_aad_out`. -/
def buildAadOut (S : Sgx) (hash malloc : Bool) (fid : CStr) (rid : Block 32) (pkU : Block 65) :
    Option Bytes :=
  if hash && malloc then some (aadOut S fid rid pkU) else none

theorem buildAadPkg_eq_some_iff {malloc : Bool} {fid : CStr} {aad : Bytes} :
    buildAadPkg malloc fid = some aad ↔ malloc = true ∧ aad = aadPkg fid := by
  cases malloc <;> simp [buildAadPkg, eq_comm]

theorem buildAadReq_eq_some_iff {S : Sgx} {hash malloc : Bool} {fid : CStr} {nonce : Block 16}
    {pkU : Block 65} {aad : Bytes} :
    buildAadReq S hash malloc fid nonce pkU = some aad ↔
      (hash = true ∧ malloc = true) ∧ aad = aadReq S fid nonce pkU := by
  cases hash <;> cases malloc <;> simp [buildAadReq, eq_comm]

theorem buildAadOut_eq_some_iff {S : Sgx} {hash malloc : Bool} {fid : CStr} {rid : Block 32}
    {pkU : Block 65} {aad : Bytes} :
    buildAadOut S hash malloc fid rid pkU = some aad ↔
      (hash = true ∧ malloc = true) ∧ aad = aadOut S fid rid pkU := by
  cases hash <;> cases malloc <;> simp [buildAadOut, eq_comm]

/-! ## Hashes -/

/-- `compute_rid_from_fid_and_c_req`. -/
def computeRidFromFidAndCReq (S : Sgx) (malloc hash : Bool) (fid : CStr) (cReq : Bytes) :
    Option (Block 32) :=
  if malloc then S.sha256Msg hash (some (fidToBytesOrStr fid ++ cReq)) else none

/-- What a pointer to an `[in]` buffer is in the enclave: NULL when the buffer is empty. -/
def inBuffer (data : Bytes) : Option Bytes := if data = [] then none else some data

theorem inBuffer_of_ne_nil {data : Bytes} (h : data ≠ []) : inBuffer data = some data :=
  if_neg h

/-- `compute_label_from_cfunc`. -/
def computeLabelFromCfunc (S : Sgx) (hash : Bool) (cFunc : Bytes) : Option (Block 32) :=
  S.sha256Msg hash (inBuffer cFunc)

/-- **The label of a package** is its hash; there is none for the empty package. -/
theorem computeLabelFromCfunc_eq_some_iff {S : Sgx} {hash : Bool} {cFunc : Bytes}
    {label : Block 32} :
    computeLabelFromCfunc S hash cFunc = some label ↔
      cFunc ≠ [] ∧ hash = true ∧ S.sha256 cFunc = label := by
  unfold computeLabelFromCfunc
  by_cases h : cFunc = []
  · simp [inBuffer, h, Sgx.sha256Msg]
  · rw [inBuffer_of_ne_nil h, Sgx.sha256Msg_eq_some_iff]
    simp [h]

/-- `sha256_concat`. -/
def sha256Concat (S : Sgx) (malloc hash : Bool) (a b : Bytes) : Option (Block 32) :=
  if malloc then S.sha256Msg hash (some (a ++ b)) else none

theorem sha256Concat_eq_some_iff {S : Sgx} {malloc hash : Bool} {a b : Bytes} {d : Block 32} :
    sha256Concat S malloc hash a b = some d ↔
      malloc = true ∧ hash = true ∧ S.sha256 (a ++ b) = d := by
  cases malloc <;> simp [sha256Concat, Sgx.sha256Msg_eq_some_iff]

/-! ## Base64 -/

/-- `base64_table` -/
def base64Table : Bytes :=
  ascii "ABCDEFGHIJKLMNOPQRSTUVWXYZabcdefghijklmnopqrstuvwxyz0123456789+/"

/-- The character of six bits. -/
def base64Char (n : ℕ) : UInt8 := base64Table.getD (n % 64) 0

/-- The four characters that the loop writes for three bytes. -/
def base64Quad (a b c : UInt8) : Bytes :=
  let triple := a.toNat * 65536 + b.toNat * 256 + c.toNat
  [base64Char (triple / 262144), base64Char (triple / 4096), base64Char (triple / 64),
    base64Char triple]

/-- The characters of `base64_encode`: missing bytes of the last group count as zero, and its
last characters are overwritten with padding. -/
def base64Chars : Bytes → Bytes
  | [] => []
  | [a] => (base64Quad a 0 0).take 2 ++ ascii "=="
  | [a, b] => (base64Quad a b 0).take 3 ++ ascii "="
  | a :: b :: c :: rest => base64Quad a b c ++ base64Chars rest

/-- `base64_encode`: NULL for no data or no memory. -/
def base64Encode (malloc : Bool) (data : Bytes) : Option Bytes :=
  if data = [] ∨ malloc = false then none else some (base64Chars data)

example : base64Chars (ascii "hello") = ascii "aGVsbG8=" := by decide

/-- The argument for a plaintext when memory suffices: its base64 text, or none when it is
empty. -/
def argumentOf (plaintext : Bytes) : Option Bytes :=
  if plaintext = [] then none else some (base64Chars plaintext)

theorem base64Encode_true (data : Bytes) : base64Encode true data = argumentOf data := by
  unfold base64Encode argumentOf
  simp

theorem base64Encode_nil (malloc : Bool) : base64Encode malloc [] = none := by
  simp [base64Encode]

/-- Encoding a plaintext gives its argument unless memory runs out. -/
theorem base64Encode_eq_argumentOf_iff {malloc : Bool} {data : Bytes} :
    base64Encode malloc data = argumentOf data ↔ data = [] ∨ malloc = true := by
  cases malloc with
  | true => simp [base64Encode_true]
  | false =>
    by_cases h : data = []
    · simp [h, base64Encode, argumentOf]
    · simp [h, base64Encode, argumentOf]

end Worker
end AsynCS
