import AsynCS.Kms.Machine

/-!
# The master secret of the KMS across starts of the program

`main` reads `kms_data.sealed`, hands it to `ecall_init_kms`, and writes the file again when the
enclave sealed a new secret.  Everything on the way can fail, and most failures are not looked
at: a file that cannot be opened counts as absent, a blob that cannot be unsealed is replaced,
and a secret that could not be sealed or saved is used all the same.

* `SealedFile`, `StartEnv`: what the file holds, and what the platform does during one start.
* `readSealed`, `unsealMsk`, `sealMsk`, `initEnclave`, `saveSealed`, `kmsStart`: one start.  Its
  output is the secret under which it exported something or entered the server loop.
* `SecretKept`: a start that does so comes with the secret of every earlier one, which the file
  then holds.
* `KeepsSecret`: what is asked of a start; `secretKept_of_keepsSecret` is the run theorem.
-/

namespace AsynCS
namespace Kms

/-! ## One start -/

/-- What `kms_data.sealed` holds: a sealing, or something that unseals to nothing, such as a file
that was cut. -/
inductive SealedFile where
  | sealing (msk : Block 32)
  | torn
  deriving DecidableEq

/-- What a start is for. -/
inductive StartMode where
  | server
  | printPubkey
  | bfibePublicParams
  deriving DecidableEq

/-- The platform during a start: each call succeeds or fails. -/
structure StartEnv where
  mode : StartMode
  openRead : Bool
  readMalloc : Bool
  /-- `fread` reads all bytes -/
  read : Bool
  outMalloc : Bool
  /-- the ECALL itself -/
  ecall : Bool
  unsealMalloc : Bool
  unsealData : Bool
  /-- `sgx_read_rand` -/
  random : Block 32
  sealMalloc : Bool
  sealData : Bool
  /-- every `--bind-label` of a server start -/
  binds : Bool
  openWrite : Bool
  /-- `fwrite` and `fclose` write all bytes -/
  write : Bool
  /-- the export ECALL and the output file, or the socket of the server -/
  exports : Bool
  deriving DecidableEq

/-- Load Sealed Data: what `main` has read.  With no memory for it, reading writes to a NULL
pointer, and there is no value. -/
def readSealed (env : StartEnv) (file : Option SealedFile) : Option (Option SealedFile) :=
  match file with
  | none => some none
  | some content =>
    if !env.openRead then some none
    else if !env.readMalloc then none
    else some (some (if env.read then content else .torn))

/-- The master secret that `ecall_init_kms` unseals. -/
def unsealMsk (env : StartEnv) : Option SealedFile → Option (Block 32)
  | some (.sealing msk) => if env.unsealMalloc && env.unsealData then some msk else none
  | some .torn | none => none

/-- The new secret as `ecall_init_kms` hands it back. -/
def sealMsk (env : StartEnv) : Option SealedFile :=
  if env.outMalloc && env.sealMalloc && env.sealData then some (.sealing env.random) else none

/-- `ecall_init_kms` in a new enclave: its globals, and the blob in `out_sealed_data`. -/
def initEnclave (env : StartEnv) (sealedData : Option SealedFile) :
    Globals × Option SealedFile :=
  let k := ecallInitKms Globals.initial (unsealMsk env sealedData) env.random
  (k, if (unsealMsk env sealedData).isSome then none else sealMsk env)

/-- Save Sealed Data if generated. -/
def saveSealed (env : StartEnv) (out file : Option SealedFile) : Option SealedFile :=
  match out with
  | none => file
  | some content =>
    if !env.openWrite then file
    else some (if env.write then content else .torn)

/-- **One start**: the file behind it, and the secret under which it exported a public key or
public parameters, or entered the server loop. -/
def kmsStart (file : Option SealedFile) (env : StartEnv) :
    Option SealedFile × Option (Block 32) :=
  match readSealed env file with
  | none => (file, none)
  | some sealedData =>
    if !env.ecall then (file, none)
    else
      let (k, out) := initEnclave env sealedData
      if env.mode = .server ∧ env.binds = false then (file, none)
      else (saveSealed env out file, if env.exports then some k.msk else none)

/-- One recorded start. -/
abbrev StartRecord := Record (Option SealedFile) StartEnv (Option (Block 32))

/-! ## What a start does -/

/-- The file, if there is one, is read, and unsealed if it holds a sealing. -/
def StartEnv.unseals (env : StartEnv) : Bool :=
  env.openRead && env.readMalloc && env.read && env.unsealMalloc && env.unsealData

/-- A new secret is sealed and saved. -/
def StartEnv.saves (env : StartEnv) : Bool :=
  env.outMalloc && env.sealMalloc && env.sealData && env.openWrite && env.write

/-- **What is unsealed** is what the file holds. -/
theorem unsealMsk_readSealed {env : StartEnv} {file sealedData : Option SealedFile}
    (h : readSealed env file = some sealedData) {msk : Block 32} :
    unsealMsk env sealedData = some msk ↔ file = some (.sealing msk) ∧ env.unseals = true := by
  cases file with
  | none =>
    obtain rfl := Option.some.inj h
    simp [unsealMsk]
  | some content =>
    unfold readSealed at h
    cases hopen : env.openRead with
    | false =>
      simp only [hopen, Bool.not_false, if_true, Option.some.injEq] at h
      subst h
      simp [unsealMsk, StartEnv.unseals, hopen]
    | true =>
      cases hmalloc : env.readMalloc with
      | false => simp [hopen, hmalloc] at h
      | true =>
        simp only [hopen, hmalloc, Bool.not_true, Bool.false_eq_true, if_false,
          Option.some.injEq] at h
        subst h
        cases hread : env.read with
        | false => simp [unsealMsk, StartEnv.unseals, hread]
        | true =>
          cases content with
          | torn => simp [unsealMsk]
          | sealing m => simp [unsealMsk, StartEnv.unseals, hopen, hmalloc, hread, and_comm]

/-- What unsealing gives. -/
theorem initEnclave_of_unsealed {env : StartEnv} {sealedData : Option SealedFile} {msk : Block 32}
    (h : unsealMsk env sealedData = some msk) :
    (initEnclave env sealedData).1.msk = msk ∧ (initEnclave env sealedData).2 = none := by
  unfold initEnclave
  rw [h]
  exact ⟨rfl, rfl⟩

theorem initEnclave_of_not_unsealed {env : StartEnv} {sealedData : Option SealedFile}
    (h : unsealMsk env sealedData = none) :
    (initEnclave env sealedData).1.msk = env.random ∧
      (initEnclave env sealedData).2 = sealMsk env := by
  unfold initEnclave
  rw [h]
  exact ⟨rfl, rfl⟩

/-- The outcomes of a start: it ends early, or it goes on with a secret that it unsealed, or with
a new one. -/
theorem kmsStart_cases (file : Option SealedFile) (env : StartEnv) :
    kmsStart file env = (file, none) ∨
    (∃ msk, file = some (.sealing msk) ∧ env.unseals = true ∧
      kmsStart file env = (file, if env.exports then some msk else none)) ∨
    ((∀ msk, file = some (.sealing msk) → env.unseals = false) ∧
      kmsStart file env = (saveSealed env (sealMsk env) file,
        if env.exports then some env.random else none)) := by
  cases hread : readSealed env file with
  | none =>
    left
    rw [kmsStart, hread]
  | some sealedData =>
    by_cases hstop : env.ecall = false ∨ env.mode = .server ∧ env.binds = false
    · left
      rw [kmsStart, hread]
      rcases hstop with hecall | hbinds
      · simp only [hecall, Bool.not_false, if_true]
      · simp only [if_pos hbinds, ite_self]
    · rw [not_or] at hstop
      have hecall : env.ecall = true := by simpa using hstop.1
      have hrun : kmsStart file env = (saveSealed env (initEnclave env sealedData).2 file,
          if env.exports then some (initEnclave env sealedData).1.msk else none) := by
        rw [kmsStart, hread]
        simp only [hecall, Bool.not_true, Bool.false_eq_true, if_false, if_neg hstop.2]
      right
      rw [hrun]
      cases hunseal : unsealMsk env sealedData with
      | some msk =>
        obtain ⟨hmsk, hout⟩ := initEnclave_of_unsealed hunseal
        obtain ⟨hfile, hun⟩ := (unsealMsk_readSealed hread).mp hunseal
        exact .inl ⟨msk, hfile, hun, by rw [hmsk, hout]; rfl⟩
      | none =>
        obtain ⟨hmsk, hout⟩ := initEnclave_of_not_unsealed hunseal
        refine .inr ⟨fun msk hfile => ?_, by rw [hmsk, hout]⟩
        cases hun : env.unseals with
        | false => rfl
        | true =>
          rw [(unsealMsk_readSealed hread).mpr ⟨hfile, hun⟩] at hunseal
          exact absurd hunseal (by simp)

/-- A new secret that is saved is in the file. -/
theorem saveSealed_of_saves {env : StartEnv} (h : env.saves = true) (file : Option SealedFile) :
    saveSealed env (sealMsk env) file = some (.sealing env.random) := by
  simp only [StartEnv.saves, Bool.and_eq_true] at h
  obtain ⟨⟨⟨⟨hout, hmalloc⟩, hseal⟩, hopen⟩, hwrite⟩ := h
  simp [sealMsk, saveSealed, hout, hmalloc, hseal, hopen, hwrite]

/-! ## Sequences of starts -/

/-- **The secret is kept**: the last start, if it exported or entered the server loop, did so with
the secret of every earlier start that did, and the file holds a sealing of it. -/
def SecretKept (h : List StartRecord) (file : Option SealedFile) : Prop :=
  ∀ r t m, h = r :: t → r.output = some m → ∀ q ∈ t, ∀ m', q.output = some m' →
    m = m' ∧ file = some (.sealing m')

/-- **What is asked of a start.**  Once a secret is in use, the start reads and unseals the file,
or ends without having written or exported anything.  And a start that exports under a new secret
has saved it. -/
structure KeepsSecret (r : StartRecord) (t : List StartRecord) : Prop where
  later : (∃ q ∈ t, q.output ≠ none) →
    r.input.unseals = true ∨ kmsStart r.pre r.input = (r.pre, none)
  first : r.output ≠ none →
    (∃ msk, r.pre = some (.sealing msk) ∧ r.input.unseals = true) ∨ r.input.saves = true

/-- The file holds the secret of every start that exported. -/
def HoldsSecret (h : List StartRecord) (file : Option SealedFile) : Prop :=
  ∀ q ∈ h, ∀ m, q.output = some m → file = some (.sealing m)

/-- **One start** keeps what the file holds. -/
theorem holdsSecret_step {t : List StartRecord} {r : StartRecord} {file : Option SealedFile}
    (hstep : kmsStart r.pre r.input = (file, r.output)) (ht : HoldsSecret t r.pre)
    (hkeeps : KeepsSecret r t) : HoldsSecret (r :: t) file := by
  intro q hq m hm
  rcases kmsStart_cases r.pre r.input with hend | ⟨msk, hpre, -, hrun⟩ | ⟨hnot, hrun⟩
  · rw [hend] at hstep
    obtain ⟨rfl, hout⟩ := Prod.mk.inj hstep
    rcases List.mem_cons.mp hq with rfl | hq
    · rw [← hout] at hm
      exact absurd hm (by simp)
    · exact ht q hq m hm
  · rw [hrun] at hstep
    obtain ⟨rfl, hout⟩ := Prod.mk.inj hstep
    rcases List.mem_cons.mp hq with rfl | hq
    · rw [← hout] at hm
      split at hm
      · rw [← Option.some.inj hm, hpre]
      · exact absurd hm (by simp)
    · exact ht q hq m hm
  · rcases List.mem_cons.mp hq with rfl | hq
    · -- a new secret that is exported has been saved
      rw [hrun] at hstep
      obtain ⟨rfl, hout⟩ := Prod.mk.inj hstep
      rcases hkeeps.first (by rw [hm]; simp) with ⟨msk, hpre, hun⟩ | hsaves
      · rw [hnot msk hpre] at hun
        exact absurd hun Bool.false_ne_true
      · rw [← hout] at hm
        split at hm
        · rw [← Option.some.inj hm, saveSealed_of_saves hsaves]
        · exact absurd hm (by simp)
    · have hpre := ht q hq m hm
      rcases hkeeps.later ⟨q, hq, by rw [hm]; simp⟩ with hun | hidle
      · rw [hnot m hpre] at hun
        exact absurd hun Bool.false_ne_true
      · rw [hidle] at hstep
        rw [← (Prod.mk.inj hstep).1, hpre]

/-- **A whole sequence of starts.** -/
theorem holdsSecret_of_reach {h : List StartRecord} {file₀ file : Option SealedFile}
    (hr : Reach kmsStart file₀ h file) (hkeeps : ∀ r t, r :: t <:+ h → KeepsSecret r t) :
    HoldsSecret h file := by
  induction hr with
  | start => exact fun q hq => absurd hq List.not_mem_nil
  | step prior env ih =>
    refine holdsSecret_step rfl (ih fun r t hsub => ?_) (hkeeps _ _ (List.suffix_refl _))
    exact hkeeps r t (hsub.trans (List.suffix_cons _ _))

/-- **When the master secret is never lost**, whatever the directory held at first. -/
theorem secretKept_of_keepsSecret {file₀ : Option SealedFile} {h : List StartRecord}
    (hkeeps : ∀ r t, r :: t <:+ h → KeepsSecret r t) :
    Throughout kmsStart file₀ SecretKept h := by
  intro t' file hsub hr r t m ht hm q hq m' hm'
  subst ht
  have hholds := holdsSecret_of_reach hr fun r t hs => hkeeps r t (hs.trans hsub)
  have hlast := hholds r List.mem_cons_self m hm
  have hearlier := hholds q (List.mem_cons_of_mem r hq) m' hm'
  rw [hlast] at hearlier
  exact ⟨SealedFile.sealing.inj (Option.some.inj hearlier), hlast.trans hearlier⟩

/-- A server start on which nothing fails. -/
def soundStart (random : Block 32) : StartEnv where
  mode := .server
  openRead := true
  readMalloc := true
  read := true
  outMalloc := true
  ecall := true
  unsealMalloc := true
  unsealData := true
  random := random
  sealMalloc := true
  sealData := true
  binds := true
  openWrite := true
  write := true
  exports := true

/-- The history of a list of starts in an empty directory. -/
def startRun (starts : List StartEnv) : List StartRecord := (runOn kmsStart [] none starts).1

/-- Two starts on which nothing fails. -/
theorem soundStarts_keep :
    Throughout kmsStart none SecretKept
      (startRun [soundStart (Block.fill 32 1), soundStart (Block.fill 32 2)]) := by
  refine secretKept_of_keepsSecret fun r t hsub => ?_
  have hall : ∀ r ∈ startRun [soundStart (Block.fill 32 1), soundStart (Block.fill 32 2)],
      r.input.unseals = true ∧ r.input.saves = true := by decide
  obtain ⟨hun, hsaves⟩ := hall r (hsub.subset List.mem_cons_self)
  exact ⟨fun _ => .inl hun, fun _ => .inr hsaves⟩

/-- A start that fails to unseal what it has read. -/
def unsealingFails : StartEnv := { soundStart (Block.fill 32 2) with unsealData := false }

/-- **One failure to unseal** replaces the secret: the second start exports under another. -/
theorem not_forall_secretKept :
    ¬ ∀ (file₀ : Option SealedFile) (h : List StartRecord),
      Throughout kmsStart file₀ SecretKept h := by
  intro hall
  have hend := hall none (startRun [soundStart (Block.fill 32 1), unsealingFails]) _ _
    (List.suffix_refl _) (reach_runOn kmsStart _ Reach.start)
  have hsame := hend _ _ _ rfl rfl _ List.mem_cons_self _ rfl
  exact absurd hsame.1 (by decide +kernel)

end Kms
end AsynCS
