import AsynCS.Client.Sdk

/-!
# When an FID identifies a deployed function

An FID hashes the tenant, the action and the version, one behind the other, and the hash of the
code.  Nothing marks where one name ends, so the FID determines the code and the three names
together, but not where they are cut.

* `Deployment`, `HashInjOn`: what is deployed, and SHA-256 without a collision on what it hashes.
* `fid_eq_some_iff`: the bytes that an FID hashes.
* `same_fid_iff`, `eq_of_same_fid`: what two deployments with one FID have in common.
-/

namespace AsynCS

/-- A string that is put behind another is encoded behind it. -/
theorem PyStr.encode_append_eq_some_iff {s t : PyStr} {b : Bytes} :
    (s ++ t).encode = some b ↔ ∃ a c, s.encode = some a ∧ t.encode = some c ∧ b = a ++ c := by
  simp only [PyStr.encode_eq_some_iff]
  constructor
  · rintro ⟨u, hu, rfl⟩
    obtain ⟨u₁, u₂, rfl, rfl, rfl⟩ := List.append_eq_map_iff.mp hu
    exact ⟨_, _, ⟨u₁, rfl, rfl⟩, ⟨u₂, rfl, rfl⟩, utf8_append u₁ u₂⟩
  · rintro ⟨a, c, ⟨u₁, rfl, rfl⟩, ⟨u₂, rfl, rfl⟩, rfl⟩
    exact ⟨u₁ ++ u₂, (List.map_append).symm, utf8_append u₁ u₂⟩

/-- An encoding determines its string. -/
theorem PyStr.eq_of_encode_eq {s t : PyStr} {b : Bytes} (hs : s.encode = some b)
    (ht : t.encode = some b) : s = t := by
  obtain ⟨u, rfl, hu⟩ := PyStr.encode_eq_some_iff.mp hs
  obtain ⟨v, rfl, hv⟩ := PyStr.encode_eq_some_iff.mp ht
  rw [utf8_injective (hu.trans hv.symm)]

namespace Client

/-- The arguments of `compute_fid`. -/
@[ext] structure Deployment where
  tenantId : PyStr
  actionName : PyStr
  version : PyStr
  codeWasm : Bytes
  deriving DecidableEq

namespace Deployment

/-- The FID of a deployment. -/
def fid (S : Sgx) (d : Deployment) : Option PyStr :=
  ClientSDK.computeFid S d.tenantId d.actionName d.version d.codeWasm

/-- The three names, one behind the other. -/
def names (d : Deployment) : PyStr := d.tenantId ++ d.actionName ++ d.version

/-- What is hashed for the FID of a deployment. -/
def hashed (S : Sgx) (d : Deployment) : Set Bytes :=
  {b | b = d.codeWasm ∨
    ∃ namesBytes, d.names.encode = some namesBytes ∧
      b = namesBytes ++ (S.sha256 d.codeWasm).toList}

end Deployment

/-- SHA-256 has no collision on what the deployments hash. -/
def HashInjOn (S : Sgx) (deployments : Set Deployment) : Prop :=
  Set.InjOn S.sha256 {b | ∃ d ∈ deployments, b ∈ d.hashed S}

section Fids
variable {S : Sgx} {d d₁ d₂ : Deployment} {f : PyStr}

/-- **An FID** is the hash of the names and of the hash of the code. -/
theorem fid_eq_some_iff : d.fid S = some f ↔ ∃ namesBytes, d.names.encode = some namesBytes ∧
    f = PyStr.hex (S.sha256 (namesBytes ++ (S.sha256 d.codeWasm).toList)).toList := by
  simp only [Deployment.fid, ClientSDK.computeFid, Deployment.names, Option.bind_eq_bind,
    Option.bind_eq_some_iff, PyStr.encode_append_eq_some_iff, Option.some.injEq]
  constructor
  · rintro ⟨tenant, htenant, action, haction, version, hversion, rfl⟩
    exact ⟨_, ⟨_, version, ⟨tenant, action, htenant, haction, rfl⟩, hversion, rfl⟩, rfl⟩
  · rintro ⟨_, ⟨_, version, ⟨tenant, action, htenant, haction, rfl⟩, hversion, rfl⟩, rfl⟩
    exact ⟨tenant, htenant, action, haction, version, hversion, rfl⟩

/-- The FID of a package is that of its deployment. -/
theorem fid_of_package {draw : FunctionDraw} {p : FunctionPackage}
    (h : ClientSDK.encryptFunctionCode S draw d.tenantId d.actionName d.version d.codeWasm =
      some p) : d.fid S = some p.fid := by
  simp only [ClientSDK.encryptFunctionCode, Option.bind_eq_bind, Option.bind_eq_some_iff,
    Option.some.injEq] at h
  obtain ⟨fid, hfid, aad, -, rfl⟩ := h
  exact hfid

/-- Deployments with one FID have one code and, put together, the same names. -/
theorem names_eq_of_same_fid (hS : HashInjOn S {d₁, d₂}) (h₁ : d₁.fid S = some f)
    (h₂ : d₂.fid S = some f) : d₁.names = d₂.names ∧ d₁.codeWasm = d₂.codeWasm := by
  obtain ⟨b₁, hnames₁, rfl⟩ := fid_eq_some_iff.mp h₁
  obtain ⟨b₂, hnames₂, hhex⟩ := fid_eq_some_iff.mp h₂
  have hraw : b₁ ++ (S.sha256 d₁.codeWasm).toList = b₂ ++ (S.sha256 d₂.codeWasm).toList :=
    hS ⟨d₁, .inl rfl, .inr ⟨b₁, hnames₁, rfl⟩⟩ ⟨d₂, .inr rfl, .inr ⟨b₂, hnames₂, rfl⟩⟩
      (PyStr.hex_toList_injective hhex)
  have hlen : (S.sha256 d₁.codeWasm).toList.length = (S.sha256 d₂.codeWasm).toList.length := by
    rw [List.Vector.toList_length, List.Vector.toList_length]
  obtain ⟨rfl, hmeasurement⟩ := List.append_inj' hraw hlen
  exact ⟨PyStr.eq_of_encode_eq hnames₁ hnames₂,
    hS ⟨d₁, .inl rfl, .inl rfl⟩ ⟨d₂, .inr rfl, .inl rfl⟩ (List.Vector.eq _ _ hmeasurement)⟩

/-- Names of the same lengths are cut in one way. -/
theorem eq_of_names_eq (hnames : d₁.names = d₂.names) (hcode : d₁.codeWasm = d₂.codeWasm)
    (htenant : d₁.tenantId.length = d₂.tenantId.length)
    (haction : d₁.actionName.length = d₂.actionName.length) : d₁ = d₂ := by
  obtain ⟨hpair, hversion⟩ := List.append_inj hnames (by
    rw [List.length_append, List.length_append, htenant, haction])
  obtain ⟨htenant', haction'⟩ := List.append_inj hpair htenant
  exact Deployment.ext htenant' haction' hversion hcode

/-- **What an FID identifies**: the code and the names put together; and the names themselves among
deployments that cut them at the same places. -/
theorem same_fid_iff (hS : HashInjOn S {d₁, d₂}) (h₁ : d₁.fid S = some f) :
    (d₂.fid S = some f ↔ d₁.names = d₂.names ∧ d₁.codeWasm = d₂.codeWasm) ∧
      (d₂.fid S = some f → d₁.tenantId.length = d₂.tenantId.length →
        d₁.actionName.length = d₂.actionName.length → d₁ = d₂) := by
  refine ⟨⟨names_eq_of_same_fid hS h₁, ?_⟩, fun h₂ htenant haction => ?_⟩
  · rintro ⟨hnames, hcode⟩
    rw [fid_eq_some_iff, ← hnames, ← hcode]
    exact fid_eq_some_iff.mp h₁
  · obtain ⟨hnames, hcode⟩ := names_eq_of_same_fid hS h₁ h₂
    exact eq_of_names_eq hnames hcode htenant haction

end Fids

/-! ## Names that are cut in two ways -/

/-- Tenant `a` with an action `b`. -/
def deploymentAB : Deployment := ⟨PyStr.ofText ['a'], PyStr.ofText ['b'], [], [1]⟩

/-- Tenant `ab` with an action without a name. -/
def deploymentAb : Deployment := ⟨PyStr.ofText ['a', 'b'], [], [], [1]⟩

theorem hashInjOn_sample : HashInjOn Sgx.sample {deploymentAB, deploymentAb} := by
  have hencode : PyStr.encode (PyStr.ofText ['a', 'b']) = some [97, 98] := rfl
  have hhashed : ∀ b, (∃ d ∈ ({deploymentAB, deploymentAb} : Set Deployment),
      b ∈ d.hashed Sgx.sample) → b = [1] ∨ b = [97, 98] ++ (Sgx.sample.sha256 [1]).toList := by
    rintro b ⟨d, rfl | rfl, rfl | ⟨names, hnames, rfl⟩⟩
    · exact Or.inl rfl
    · exact Or.inr (by rw [Option.some.inj (hnames.symm.trans hencode)]; rfl)
    · exact Or.inl rfl
    · exact Or.inr (by rw [Option.some.inj (hnames.symm.trans hencode)]; rfl)
  intro x hx y hy hxy
  rcases hhashed x hx with rfl | rfl <;> rcases hhashed y hy with rfl | rfl
  · rfl
  · exact absurd hxy (by decide)
  · exact absurd hxy (by decide)
  · rfl

/-- The two deployments have one FID, of the same names put together. -/
theorem deploymentAb_same_fid : deploymentAb.fid Sgx.sample = deploymentAB.fid Sgx.sample := by
  obtain ⟨f, hf⟩ : ∃ f, deploymentAB.fid Sgx.sample = some f :=
    ⟨_, fid_eq_some_iff.mpr ⟨[97, 98], rfl, rfl⟩⟩
  rw [hf]
  exact (same_fid_iff hashInjOn_sample hf).1.mpr ⟨rfl, rfl⟩

/-- **An FID does not identify the deployment**: tenant `a` with action `b`, and tenant `ab` with an
action without a name. -/
theorem not_forall_eq_of_same_fid :
    ¬ ∀ (S : Sgx) (d₁ d₂ : Deployment) (f : PyStr), HashInjOn S {d₁, d₂} →
      d₁.fid S = some f → d₂.fid S = some f → d₁ = d₂ := by
  intro hall
  have h₁ : ∃ f, deploymentAB.fid Sgx.sample = some f ∧ deploymentAb.fid Sgx.sample = some f :=
    ⟨_, fid_eq_some_iff.mpr ⟨[97, 98], rfl, rfl⟩, fid_eq_some_iff.mpr ⟨[97, 98], rfl, rfl⟩⟩
  obtain ⟨f, hAB, hAb⟩ := h₁
  have heq := hall Sgx.sample deploymentAB deploymentAb f hashInjOn_sample hAB hAb
  exact absurd (congrArg (fun d => d.actionName.length) heq) (by decide)

end Client
end AsynCS
