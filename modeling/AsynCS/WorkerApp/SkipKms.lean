import AsynCS.Lib.Runs
import AsynCS.Worker.BfibeSlot
import AsynCS.Worker.Provenance
import AsynCS.WorkerApp.DoInvoke

/-!
# Commands that skip the KMS

`do_invoke` asks the enclave whether it has a key for the FID, and goes on without the KMS when it
has.  The answer is one bit for two slots, the FID is compared as a truncated string, and neither
the label nor the profile of the request is looked at.

* `BroughtEcc`, `BroughtBfibe`, `Brought`: the exchange of a command loaded the keys of a slot.
* `SkipJustified`: the keys that a command without KMS uses were loaded by an earlier exchange for
  its own FID and label.
* `LoadsWhole`, `FindsItsOwn`: the condition on a command, in the run before it.
* `slotsBrought_of_reach`: where the keys of a loaded slot come from.
* `skipJustified_of_commands`: in a run whose commands meet the condition every skip is justified.
-/

namespace AsynCS
namespace WorkerApp

open Worker

/-! ## Runs of commands -/

/-- A call of `do_invoke`. -/
structure InvokeCall where
  env : InvokeEnv
  allowKmsCache : Bool
  args : InvokeArgs

/-- The FID of a call as the program reads it. -/
def InvokeCall.fid (c : InvokeCall) : CStr := CStr.ofBuffer c.args.fid

/-- The label of a call as the program reads it. -/
def InvokeCall.label (c : InvokeCall) : CStr := CStr.ofBuffer c.args.label

/-- The command carries a label: one without a label asks for `default_label`. -/
def InvokeCall.CarriesLabel (c : InvokeCall) : Prop := c.args.label ≠ ascii "default_label"

instance : DecidablePred InvokeCall.CarriesLabel := fun _ => inferInstanceAs (Decidable (_ ≠ _))

/-- One call on a worker. -/
def invokeStep (S : Sgx) (B : Bfibe) (g : Globals) (c : InvokeCall) : Globals × InvokeOutcome :=
  let o := doInvoke S B c.env c.allowKmsCache c.args g
  (o.enclave, o)

/-- A recorded call. -/
abbrev CommandRecord := Record Globals InvokeCall InvokeOutcome

variable {S : Sgx} {B : Bfibe}

/-! ## Where keys come from -/

/-- The eccibe load that an exchange makes. -/
def Handed.eccCall (env : InvokeEnv) (fid : CStr) : Handed → Option EccCall
  | .bfibeKeyRelease _ => none
  | .keysBatch dkf dklabel => some (.decryptKeysBatch env.unwrap env.unwrapLabel dkf dklabel fid)
  | .key blob => some (.decryptKey env.unwrap blob fid)

/-- The exchange of the call loaded the eccibe keys of the slot. -/
def BroughtEcc (S : Sgx) (r : CommandRecord) (slot : EccSlot) : Prop :=
  ∃ g c, generateQuote r.input.env.quote r.pre = .ready g ∧
    r.output.key.handed.bind (Handed.eccCall r.input.env r.input.fid) = some c ∧
    c.unwrappedKey S g.privateKey = some slot.workerKey ∧
    (slot.dklabelFromKms = true → c.unwrappedLabelKey S g.privateKey = some slot.workerDklabel)

/-- The exchange of the call loaded the BF-IBE keys of the slot. -/
def BroughtBfibe (S : Sgx) (r : CommandRecord) (slot : BfibeSlot) : Prop :=
  ∃ g release f, generateQuote r.input.env.quote r.pre = .ready g ∧
    r.output.key.handed = some (.bfibeKeyRelease release) ∧
    loadResult S r.input.env.load g release (some r.input.fid) = .imported f slot.keys

/-- The exchange of the call completed and loaded the keys of a profile. -/
structure Brought (S : Sgx) (r : CommandRecord) (useBfibe : Bool) (g : Globals) : Prop where
  completed : r.output.key.completed = true
  keys : if useBfibe then BroughtBfibe S r g.bfibe else BroughtEcc S r g.ecc

/-- **A skip is justified.**  A call that does not contact the KMS and runs a module with loaded
keys uses keys that an earlier exchange for its own FID and label loaded. -/
def SkipJustified (S : Sgx) (h : List CommandRecord) (r : CommandRecord) : Prop :=
  r.output.key.contacted = false → ∀ kind args, r.output.ran = some (kind, args) →
    keysLoaded r.pre args = true →
    ∃ e ∈ h, Brought S e args.useBfibeKeys r.pre ∧ e.input.fid = r.input.fid ∧
      (r.input.CarriesLabel → e.input.label = r.input.label)

/-! ## The condition -/

/-- An eccibe load replaces its slot as a whole or not at all: the one key of the legacy format
does not go beside a label key from the KMS, and two keys do not end after the first of them has
replaced another. -/
def EccLoadsWhole (S : Sgx) (g : Globals) : EccCall → Prop
  | .decryptKey env blob _ =>
    unwrapKey S env g.privateKey blob = none ∨ g.ecc.dklabelFromKms = false
  | .decryptKeysBatch env envLabel dkf dklabel _ =>
    unwrapKey S env g.privateKey dkf = none ∨
      unwrapKey S envLabel g.privateKey dklabel ≠ none ∨ g.ecc.keyLoaded = false ∨
      unwrapKey S env g.privateKey dkf = some g.ecc.workerKey

/-- A release that is refused leaves the keys of a loaded slot. -/
def BfibeLoadsWhole (S : Sgx) (env : LoadEnv) (g : Globals) (release : Bytes) (fid : CStr) : Prop :=
  g.bfibe.keyLoaded = true → LoadLeavesSlots S env g release (some fid)

/-- What an exchange hands over is loaded as a whole or not at all. -/
def Handed.LoadsWhole (S : Sgx) (env : InvokeEnv) (fid : CStr) (g : Globals) : Handed → Prop
  | .bfibeKeyRelease release => BfibeLoadsWhole S env.load g release fid
  | .keysBatch dkf dklabel =>
    EccLoadsWhole S g (.decryptKeysBatch env.unwrap env.unwrapLabel dkf dklabel fid)
  | .key blob => EccLoadsWhole S g (.decryptKey env.unwrap blob fid)

/-- The exchange of a call is loaded as a whole or not at all. -/
def LoadsWhole (S : Sgx) (r : CommandRecord) : Prop :=
  skipsKms r.input.env r.input.allowKmsCache r.input.fid r.pre = false →
  ∀ g handed, generateQuote r.input.env.quote r.pre = .ready g →
    (connectToKms (r.input.env.net r.input.fid r.input.label)).handed = some handed →
    handed.LoadsWhole S r.input.env r.input.fid g

/-- The slot of a profile answers `ecall_has_key` for an FID. -/
def slotHasKey (useBfibe : Bool) (g : Globals) (fid : CStr) : Bool :=
  if useBfibe then bfibeHasKey g.bfibe fid else eccHasKey g.ecc fid

/-- The FID of a slot that was loaded for the first FID is taken for the second. -/
def takenFor (useBfibe : Bool) (loaded fid : CStr) : Bool :=
  CStr.strncmpEq 128 (if useBfibe then (Field.store 127 loaded).str else (Field.store 128 loaded).str)
    fid

/-- The files of a call tell its profile. -/
def profileOf (c : InvokeCall) : Option Bool :=
  match readCommandFiles c.env c.args with
  | .error _ => none
  | .ok content => some (runArgs c.args content).useBfibeKeys

/-- What was handed over is for the slot of a profile. -/
def Handed.isFor (useBfibe : Bool) : Handed → Bool
  | .bfibeKeyRelease _ => useBfibe
  | .keysBatch _ _ => !useBfibe
  | .key _ => !useBfibe

/-- The exchange of the call loaded the slot of a profile. -/
def CommandRecord.loaded (useBfibe : Bool) (r : CommandRecord) : Bool :=
  r.output.key.completed && r.output.key.handed.any (Handed.isFor useBfibe)

/-- The latest call whose exchange loaded the slot of a profile. -/
def lastLoad (useBfibe : Bool) (h : List CommandRecord) : Option CommandRecord :=
  h.find? (CommandRecord.loaded useBfibe)

/-- A call that would skip the KMS finds its own keys: it is the slot of its own profile that
answered, and a latest load for an FID that is taken for the FID of the call was for the same FID
and the same label. -/
def FindsItsOwn (h : List CommandRecord) (r : CommandRecord) : Prop :=
  skipsKms r.input.env r.input.allowKmsCache r.input.fid r.pre = true →
    ∀ useBfibe, profileOf r.input = some useBfibe →
      (if useBfibe then r.pre.bfibe.keyLoaded else r.pre.ecc.keyLoaded) = true →
      slotHasKey useBfibe r.pre r.input.fid = true ∧
        ∀ e, lastLoad useBfibe h = some e → takenFor useBfibe e.input.fid r.input.fid = true →
          e.input.fid = r.input.fid ∧ (r.input.CarriesLabel → e.input.label = r.input.label)

/-! ## What a call does to the slots -/

/-- The slots of two states are the same. -/
def SameSlots (g g' : Globals) : Prop := g'.ecc = g.ecc ∧ g'.bfibe = g.bfibe

theorem sameSlots_createReport (env : ReportEnv) (g : Globals) :
    SameSlots g (ecallCreateReport env g).state := by
  have h := (frame_ecallCreateReport env).state g
  exact ⟨congrArg (fun p => p.1) h, congrArg (fun p => p.2.1) h⟩

/-- A quote moves no slot. -/
theorem sameSlots_generateQuote {env : QuoteEnv} {g g' : Globals}
    (h : generateQuote env g = .fails g' ∨ generateQuote env g = .ready g') : SameSlots g g' := by
  have hreported : SameSlots g
      (if env.reportCall then (ecallCreateReport env.report g).state else g) := by
    split
    · exact sameSlots_createReport env.report g
    · exact ⟨rfl, rfl⟩
  unfold generateQuote at h
  extract_lets reported at h
  have hout : ∀ o : QuoteOutcome, (o = .fails g' ∨ o = .ready g') →
      (o = .exits ∨ o = .fails g ∨ o = .fails reported ∨ o = .ready reported) → SameSlots g g' := by
    rintro o (rfl | rfl) (ho | ho | ho | ho)
    · exact absurd ho (by simp)
    · exact QuoteOutcome.fails.inj ho ▸ ⟨rfl, rfl⟩
    · exact QuoteOutcome.fails.inj ho ▸ hreported
    · exact absurd ho (by simp)
    · exact absurd ho (by simp)
    · exact absurd ho (by simp)
    · exact absurd ho (by simp)
    · exact QuoteOutcome.ready.inj ho ▸ hreported
  refine hout _ h ?_
  repeat' split
  all_goals simp

/-- The run of a call moves no slot. -/
theorem sameSlots_runFiles (env : InvokeEnv) (key : KeyPath) (kind : RunKind) (args : RunArgs)
    (g : Globals) : SameSlots g (runFiles S B env key kind args g).1 := by
  have hrun : SameSlots g (runEncryptedWasm kind S B env.run args (RunState.start g)).state.worker :=
    ⟨ecc_runEncryptedWasm kind env.run args _, bfibe_runEncryptedWasm kind env.run args _⟩
  unfold runFiles
  split
  · exact ⟨rfl, rfl⟩
  · dsimp only
    split
    · exact hrun
    · exact hrun

/-- The slots behind a call are those behind its key path. -/
theorem sameSlots_doInvoke (env : InvokeEnv) (allow : Bool) (args : InvokeArgs) (g : Globals) :
    SameSlots (keyPath S env allow (CStr.ofBuffer args.fid) (CStr.ofBuffer args.label) g).1
      (doInvoke S B env allow args g).enclave := by
  unfold doInvoke
  extract_lets path key asked before
  split
  · exact ⟨rfl, rfl⟩
  · split
    · exact ⟨rfl, rfl⟩
    · exact sameSlots_runFiles env key _ _ _

theorem key_doInvoke (env : InvokeEnv) (allow : Bool) (args : InvokeArgs) (g : Globals) :
    (doInvoke S B env allow args g).key =
      (keyPath S env allow (CStr.ofBuffer args.fid) (CStr.ofBuffer args.label) g).2 := by
  unfold doInvoke
  extract_lets path key asked before
  split
  · rfl
  · split
    · rfl
    · rfl

/-- **A key path** skips the KMS; or it gets nothing from it and moves no slot; or it hands
something to the enclave. -/
theorem keyPath_cases (env : InvokeEnv) (allow : Bool) (fid label : CStr) (g : Globals) :
    (skipsKms env allow fid g = true ∧
      keyPath S env allow fid label g = (g, KeyPath.without false false)) ∨
    ((keyPath S env allow fid label g).2.contacted = true ∧
      (keyPath S env allow fid label g).2.completed = false ∧
      SameSlots g (keyPath S env allow fid label g).1) ∨
    ∃ g' handed, skipsKms env allow fid g = false ∧ generateQuote env.quote g = .ready g' ∧
      (connectToKms (env.net fid label)).handed = some handed ∧
      (keyPath S env allow fid label g).1 = (handed.proc S env fid g').state ∧
      (keyPath S env allow fid label g).2.contacted = true ∧
      (keyPath S env allow fid label g).2.handed = some handed ∧
      (keyPath S env allow fid label g).2.completed = (handed.proc S env fid g').value.isSome := by
  unfold keyPath
  split
  · rename_i hskip
    exact Or.inl ⟨hskip, rfl⟩
  · rename_i hno
    refine Or.inr ?_
    split
    · exact Or.inl ⟨rfl, rfl, rfl, rfl⟩
    · rename_i g' hquote
      exact Or.inl ⟨rfl, rfl, sameSlots_generateQuote (Or.inl hquote)⟩
    · rename_i g' hquote
      unfold exchangeKeys
      extract_lets exchange
      split
      · exact Or.inl ⟨rfl, rfl, sameSlots_generateQuote (Or.inr hquote)⟩
      · rename_i handed hhanded
        exact Or.inr ⟨g', handed, Bool.eq_false_of_not_eq_true hno, hquote, hhanded, rfl, rfl, rfl,
          rfl⟩

/-! ## Where the keys of a loaded slot come from -/

theorem lastLoad_cons_of_loaded {useBfibe : Bool} {h : List CommandRecord} {r : CommandRecord}
    (hr : r.loaded useBfibe = true) : lastLoad useBfibe (r :: h) = some r := by
  rw [lastLoad, List.find?_cons, hr]

theorem lastLoad_cons_of_not {useBfibe : Bool} {h : List CommandRecord} {r : CommandRecord}
    (hr : r.loaded useBfibe = false) : lastLoad useBfibe (r :: h) = lastLoad useBfibe h := by
  rw [lastLoad, List.find?_cons, hr]
  rfl

theorem completed_of_lastLoad {useBfibe : Bool} {h : List CommandRecord} {e : CommandRecord}
    (he : lastLoad useBfibe h = some e) : e.output.key.completed = true := by
  have hloaded : e.loaded useBfibe = true := List.find?_some he
  exact (Bool.and_eq_true_iff.mp hloaded).1

theorem not_loaded_of_not_completed {r : CommandRecord} (h : r.output.key.completed = false)
    (useBfibe : Bool) : r.loaded useBfibe = false := by
  rw [CommandRecord.loaded, h, Bool.false_and]

/-- The keys of the eccibe slot were brought by the latest exchange that loaded it, and the slot has
the FID of that call. -/
def EccBrought (S : Sgx) (h : List CommandRecord) (g : Globals) : Prop :=
  g.ecc.keyLoaded = true → ∃ e, lastLoad false h = some e ∧ BroughtEcc S e g.ecc ∧
    g.ecc.workerFid = Field.store 128 e.input.fid

/-- The same of the slot of the BF-IBE profile. -/
def BfibeBrought (S : Sgx) (h : List CommandRecord) (g : Globals) : Prop :=
  g.bfibe.keyLoaded = true → ∃ e, lastLoad true h = some e ∧ BroughtBfibe S e g.bfibe ∧
    g.bfibe.fid = Field.store 127 e.input.fid

/-- Both slots are accounted for. -/
structure SlotsBrought (S : Sgx) (h : List CommandRecord) (g : Globals) : Prop where
  ecc : EccBrought S h g
  bfibe : BfibeBrought S h g

theorem EccBrought.cons {h : List CommandRecord} {g : Globals} {r : CommandRecord}
    (hb : EccBrought S h g) (hr : r.loaded false = false) : EccBrought S (r :: h) g := by
  intro hl
  rw [lastLoad_cons_of_not hr]
  exact hb hl

theorem BfibeBrought.cons {h : List CommandRecord} {g : Globals} {r : CommandRecord}
    (hb : BfibeBrought S h g) (hr : r.loaded true = false) : BfibeBrought S (r :: h) g := by
  intro hl
  rw [lastLoad_cons_of_not hr]
  exact hb hl

theorem SlotsBrought.congr {h : List CommandRecord} {g g' : Globals} (hs : SameSlots g g')
    (hb : SlotsBrought S h g) : SlotsBrought S h g' := by
  obtain ⟨hecc, hbfibe⟩ := hs
  constructor
  · rw [EccBrought, hecc]
    exact hb.ecc
  · rw [BfibeBrought, hbfibe]
    exact hb.bfibe

/-- A call whose exchange does not complete loads nothing. -/
theorem SlotsBrought.cons {h : List CommandRecord} {g : Globals} {r : CommandRecord}
    (hb : SlotsBrought S h g) (hr : r.output.key.completed = false) : SlotsBrought S (r :: h) g :=
  ⟨hb.ecc.cons (not_loaded_of_not_completed hr false),
    hb.bfibe.cons (not_loaded_of_not_completed hr true)⟩

theorem completed_eq (c : EccCall) (g : Globals) :
    (c.proc S g).value.isSome = ((eccStep S g c).2 == 0) := by
  show _ = (returnCode (c.proc S g).value == 0)
  cases (c.proc S g).value with
  | none => rfl
  | some u => rfl

/-- A call that makes an eccibe load was handed keys for that slot. -/
theorem loaded_of_eccCall {r : CommandRecord} {c : EccCall}
    (h : r.output.key.handed.bind (Handed.eccCall r.input.env r.input.fid) = some c) :
    r.loaded true = false ∧ r.loaded false = r.output.key.completed := by
  obtain ⟨handed, hhanded, hcall⟩ := Option.bind_eq_some_iff.mp h
  have hno : handed.isFor true = false ∧ handed.isFor false = true := by
    cases handed with
    | bfibeKeyRelease release => exact absurd hcall (by simp [Handed.eccCall])
    | keysBatch dkf dklabel => exact ⟨rfl, rfl⟩
    | key blob => exact ⟨rfl, rfl⟩
  simp only [CommandRecord.loaded, hhanded, Option.any_some, hno, Bool.and_false, Bool.and_true,
    and_self]

/-- An eccibe load by `r`. -/
theorem slotsBrought_of_ecc {h : List CommandRecord} {r : CommandRecord} {g : Globals}
    {c : EccCall} (hb : SlotsBrought S h g)
    (hquote : generateQuote r.input.env.quote r.pre = .ready g)
    (hhanded : r.output.key.handed.bind (Handed.eccCall r.input.env r.input.fid) = some c)
    (hcompleted : r.output.key.completed = (c.proc S g).value.isSome)
    (hfid : c.fid = r.input.fid) (hwhole : EccLoadsWhole S g c) :
    SlotsBrought S (r :: h) (c.proc S g).state := by
  obtain ⟨hother, hloaded⟩ := loaded_of_eccCall hhanded
  rw [completed_eq] at hcompleted
  have hstate : (c.proc S g).state = (eccStep S g c).1 := rfl
  have hbfibe : BfibeBrought S (r :: h) (c.proc S g).state := by
    rw [BfibeBrought, bfibe_eccCall c g]
    exact hb.bfibe.cons hother
  refine ⟨?_, hbfibe⟩
  rcases eccStep_cases (S := S) g c with ⟨-, hs⟩ | ⟨env, envLabel, dkf, dklabel, fid, key, rfl, hk,
    hl, hs⟩ | ⟨env, blob, fid, key, rfl, hk, hs⟩ |
    ⟨env, envLabel, dkf, dklabel, fid, key, label, rfl, hk, hl, hs⟩
  · rw [hs] at hcompleted
    rw [hstate, hs]
    exact (hb.cons hcompleted).ecc
  · -- the first key is written and the second refused
    simp only [EccCall.unwrappedKey, EccCall.unwrappedLabelKey] at hk hl
    simp only [EccLoadsWhole, hk, hl, ne_eq, not_true_eq_false, reduceCtorEq, false_or,
      Option.some.injEq] at hwhole
    rw [hs] at hcompleted
    rw [hstate, hs]
    rcases hwhole with hunloaded | rfl
    · intro hloaded
      exact absurd (hunloaded.symm.trans hloaded) (by decide)
    · exact ((hb.cons hcompleted).congr ⟨rfl, rfl⟩).ecc
  · simp only [EccCall.unwrappedKey] at hk
    simp only [EccLoadsWhole, hk, reduceCtorEq, false_or] at hwhole
    rw [hs] at hcompleted
    intro _
    rw [hstate, hs, storeWorkerFid_ecc]
    refine ⟨r, lastLoad_cons_of_loaded (hloaded.trans hcompleted), ⟨g, _, hquote, hhanded, hk, ?_⟩,
      congrArg (Field.store 128) hfid⟩
    intro hlabel
    exact absurd (hwhole.symm.trans hlabel) (by decide)
  · rw [hs] at hcompleted
    intro _
    rw [hstate, hs, storeWorkerFid_ecc]
    exact ⟨r, lastLoad_cons_of_loaded (hloaded.trans hcompleted),
      ⟨g, _, hquote, hhanded, hk, fun _ => hl⟩, congrArg (Field.store 128) hfid⟩

theorem ecc_storeBfibeFid (fid : CStr) (g : Globals) : (g.storeBfibeFid fid).ecc = g.ecc := by
  unfold Globals.storeBfibeFid
  split
  · rfl
  · rfl

/-- A BF-IBE load by `r`. -/
theorem slotsBrought_of_bfibe {h : List CommandRecord} {r : CommandRecord} {g : Globals}
    {release : Bytes} (hb : SlotsBrought S h g)
    (hquote : generateQuote r.input.env.quote r.pre = .ready g)
    (hhanded : r.output.key.handed = some (.bfibeKeyRelease release))
    (hcompleted : r.output.key.completed =
      (ecallLoadBfibeKeyRelease S r.input.env.load release (some r.input.fid) g).value.isSome)
    (hwhole : BfibeLoadsWhole S r.input.env.load g release r.input.fid) :
    SlotsBrought S (r :: h)
      (ecallLoadBfibeKeyRelease S r.input.env.load release (some r.input.fid) g).state := by
  have hload := load_cases (S := S) r.input.env.load g release (some r.input.fid)
  cases hr : loadResult S r.input.env.load g release (some r.input.fid) with
  | unread =>
    rw [hr] at hload
    obtain ⟨hvalue, hstate⟩ := Prod.mk.inj hload
    rw [hvalue] at hcompleted
    rw [hstate]
    exact hb.cons hcompleted
  | refused left =>
    rw [hr] at hload
    obtain ⟨hvalue, hstate⟩ := Prod.mk.inj hload
    rw [hvalue] at hcompleted
    rw [hstate]
    refine ⟨(hb.cons hcompleted).ecc, ?_⟩
    intro hloaded
    have hkeys := hwhole hloaded left hr
    have hsame : SameSlots g (g.setBfibeKeys left) := by
      refine ⟨rfl, ?_⟩
      rw [Globals.setBfibeKeys_bfibe, ← hkeys]
    exact ((hb.cons hcompleted).congr hsame).bfibe hloaded
  | imported f keys =>
    rw [hr] at hload
    obtain ⟨hvalue, hstate⟩ := Prod.mk.inj hload
    obtain rfl := Option.some.inj (fid_of_imported hr)
    rw [hvalue] at hcompleted
    have hloaded : ∀ useBfibe, r.loaded useBfibe = useBfibe := by
      intro useBfibe
      simp only [CommandRecord.loaded, hcompleted, hhanded, Option.any_some, Handed.isFor,
        Option.isSome_some, Bool.true_and]
    rw [hstate]
    constructor
    · rw [EccBrought, ecc_storeBfibeFid]
      exact hb.ecc.cons (hloaded false)
    · intro _
      rw [Globals.storeBfibeFid_bfibe, Globals.setBfibeKeys_bfibe]
      exact ⟨r, lastLoad_cons_of_loaded (hloaded true), ⟨g, release, _, hquote, hhanded, hr⟩, rfl⟩

/-- **Step.**  A call that loads what it gets as a whole keeps the slots accounted for. -/
theorem slotsBrought_step {h : List CommandRecord} {g : Globals} {c : InvokeCall}
    (hb : SlotsBrought S h g) (hwhole : LoadsWhole S ⟨g, c, (invokeStep S B g c).2⟩) :
    SlotsBrought S (⟨g, c, (invokeStep S B g c).2⟩ :: h) (invokeStep S B g c).1 := by
  have hkey : (invokeStep S B g c).2.key = (keyPath S c.env c.allowKmsCache c.fid c.label g).2 :=
    key_doInvoke c.env c.allowKmsCache c.args g
  refine SlotsBrought.congr (sameSlots_doInvoke c.env c.allowKmsCache c.args g) ?_
  rcases keyPath_cases (S := S) c.env c.allowKmsCache c.fid c.label g with ⟨-, hpath⟩ |
    ⟨-, hnot, hsame⟩ | ⟨g', handed, hno, hquote, hhanded, hstate, -, hgot, hcompleted⟩
  · have hnot : (invokeStep S B g c).2.key.completed = false := by
      rw [hkey, hpath]
      rfl
    have hstay : (keyPath S c.env c.allowKmsCache c.fid c.label g).1 = g := by rw [hpath]
    exact (hb.cons hnot).congr ⟨congrArg Globals.ecc hstay, congrArg Globals.bfibe hstay⟩
  · rw [← hkey] at hnot
    exact (hb.cons hnot).congr hsame
  · have hb' : SlotsBrought S h g' := hb.congr (sameSlots_generateQuote (Or.inr hquote))
    have hload := hwhole hno g' handed hquote hhanded
    rw [← hkey] at hgot hcompleted
    refine SlotsBrought.congr (g := (handed.proc S c.env c.fid g').state)
      ⟨congrArg Globals.ecc hstate, congrArg Globals.bfibe hstate⟩ ?_
    cases handed with
    | bfibeKeyRelease release => exact slotsBrought_of_bfibe hb' hquote hgot hcompleted hload
    | keysBatch dkf dklabel =>
      exact slotsBrought_of_ecc (c := .decryptKeysBatch c.env.unwrap c.env.unwrapLabel dkf dklabel
        c.fid) hb' hquote (by rw [hgot]; rfl) hcompleted rfl hload
    | key blob =>
      exact slotsBrought_of_ecc (c := .decryptKey c.env.unwrap blob c.fid) hb' hquote
        (by rw [hgot]; rfl) hcompleted rfl hload

/-- **The keys of a loaded slot**, in every run whose calls load what they get as a whole. -/
theorem slotsBrought_of_reach {h : List CommandRecord} {g : Globals}
    (hr : Reach (invokeStep S B) Globals.initial h g) (hc : ∀ r ∈ h, LoadsWhole S r) :
    SlotsBrought S h g := by
  induction hr with
  | start => exact ⟨fun hl => absurd hl (by decide), fun hl => absurd hl (by decide)⟩
  | step prior c ih =>
    exact slotsBrought_step (ih fun r hm => hc r (List.mem_cons_of_mem _ hm))
      (hc _ List.mem_cons_self)

/-! ## Skips -/

/-- The slot of a profile is loaded for an FID that is taken for the FID of the call. -/
theorem takenFor_of_slotHasKey {useBfibe : Bool} {g : Globals} {e fid : CStr}
    (h : slotHasKey useBfibe g fid = true)
    (hecc : useBfibe = false → g.ecc.workerFid = Field.store 128 e)
    (hbfibe : useBfibe = true → g.bfibe.fid = Field.store 127 e) :
    takenFor useBfibe e fid = true := by
  cases useBfibe with
  | false =>
    obtain ⟨-, heq⟩ := Bool.and_eq_true_iff.mp h
    rwa [hecc rfl] at heq
  | true =>
    obtain ⟨-, heq⟩ := Bool.and_eq_true_iff.mp h
    rwa [hbfibe rfl] at heq

/-- **The keys of a loaded slot**, by profile. -/
theorem SlotsBrought.brought {h : List CommandRecord} {g : Globals} (hb : SlotsBrought S h g)
    {useBfibe : Bool} (hl : (if useBfibe then g.bfibe.keyLoaded else g.ecc.keyLoaded) = true) :
    ∃ e, lastLoad useBfibe h = some e ∧ Brought S e useBfibe g ∧
      ∀ fid, slotHasKey useBfibe g fid = true → takenFor useBfibe e.input.fid fid = true := by
  cases useBfibe with
  | false =>
    obtain ⟨e, he, hkeys, hfid⟩ := hb.ecc hl
    exact ⟨e, he, ⟨completed_of_lastLoad he, hkeys⟩, fun fid hk =>
      takenFor_of_slotHasKey hk (fun _ => hfid) (by simp)⟩
  | true =>
    obtain ⟨e, he, hkeys, hfid⟩ := hb.bfibe hl
    exact ⟨e, he, ⟨completed_of_lastLoad he, hkeys⟩, fun fid hk =>
      takenFor_of_slotHasKey hk (by simp) (fun _ => hfid)⟩

/-- A call that does not contact the KMS skips it. -/
theorem skipsKms_of_not_contacted {env : InvokeEnv} {allow : Bool} {fid label : CStr} {g : Globals}
    (h : (keyPath S env allow fid label g).2.contacted = false) :
    skipsKms env allow fid g = true := by
  rcases keyPath_cases (S := S) env allow fid label g with ⟨hskip, -⟩ | ⟨hyes, -⟩ |
    ⟨g', handed, -, -, -, -, hyes, -⟩
  · exact hskip
  · exact absurd (h.symm.trans hyes) (by decide)
  · exact absurd (h.symm.trans hyes) (by decide)

/-- The files of a call that runs a module give the arguments of the run. -/
theorem profileOf_of_ran {c : InvokeCall} {g : Globals} {kind : RunKind} {args : RunArgs}
    (h : (invokeStep S B g c).2.ran = some (kind, args)) :
    profileOf c = some args.useBfibeKeys := by
  unfold profileOf
  simp only [invokeStep, doInvoke] at h
  split at h
  · exact absurd h (by simp)
  · cases hread : readCommandFiles c.env c.args with
    | error line =>
      rw [hread] at h
      exact absurd h (by simp)
    | ok content =>
      rw [hread] at h
      obtain ⟨-, rfl⟩ := Prod.mk.inj (Option.some.inj h)
      rfl

/-- **Skips are justified** in every run whose calls load what they get as a whole and, where they
skip the KMS, find their own keys. -/
theorem skipJustified_of_commands {h : List CommandRecord} {g : Globals}
    (hr : Reach (invokeStep S B) Globals.initial h g) (hwhole : ∀ r ∈ h, LoadsWhole S r)
    (hown : ∀ r t, r :: t <:+ h → FindsItsOwn t r) :
    ∀ r t, r :: t <:+ h → SkipJustified S t r := by
  intro r t hsub hnot kind args hran hloaded
  obtain ⟨later, rfl⟩ := hsub
  obtain ⟨s, hs⟩ := hr.tail
  obtain ⟨prior, hstep⟩ := Reach.cons_iff.mp hs
  have hout : r.output = (invokeStep S B r.pre r.input).2 := by rw [hstep]
  have hb : SlotsBrought S t r.pre := by
    refine slotsBrought_of_reach prior fun x hx => hwhole x ?_
    exact List.mem_append_right later (List.mem_cons_of_mem r hx)
  have hskip : skipsKms r.input.env r.input.allowKmsCache r.input.fid r.pre = true := by
    rw [hout, invokeStep, key_doInvoke] at hnot
    exact skipsKms_of_not_contacted hnot
  rw [hout] at hran
  obtain ⟨hhas, halike⟩ := hown r t ⟨later, rfl⟩ hskip args.useBfibeKeys (profileOf_of_ran hran)
    hloaded
  obtain ⟨e, he, hbrought, htaken⟩ := hb.brought hloaded
  exact ⟨e, List.mem_of_find?_eq_some he, hbrought, halike e he (htaken _ hhas)⟩

/-! ## Two commands for one FID -/

/-- Nothing fails, and the KMS sends two keys for the key pair of zeros. -/
def sampleInvokeEnv : InvokeEnv where
  hasKeyCall := true
  quote := ⟨true, 0, false, true, true, ⟨true, some (Block.fill 32 0, Block.fill 64 0), true⟩, true,
    true⟩
  quoteText := []
  net _ _ := ⟨true, [[true]], true,
    [.chunk ((sampleKeyBlob 0).bytes ++ (sampleKeyBlob 1).bytes)]⟩
  unwrap := ⟨true, true⟩
  unwrapLabel := ⟨true, true⟩
  load := ⟨true, true, true⟩
  file _ := some (List.replicate 109 0)
  runStatus := 0
  run := sampleRunEnv
  isOnCurve _ := true
  number _ := 0
  tscHz := 1
  calibrated := false

/-- A command for the FID `f` and a label. -/
def sampleInvokeCall (label : Bytes) : InvokeCall where
  env := sampleInvokeEnv
  allowKmsCache := true
  args := ⟨ascii "f", ascii "w", ascii "i", label, ascii "k", ascii "r", [], [], 4096⟩

/-- The record of a command for a label. -/
def sampleRecord (g : Globals) (label : Bytes) : CommandRecord :=
  ⟨g, sampleInvokeCall label,
    (invokeStep Sgx.sample Bfibe.sample g (sampleInvokeCall label)).2⟩

/-- The worker after the command for the label `L`. -/
def invokedWorker : Globals :=
  (invokeStep Sgx.sample Bfibe.sample Globals.initial (sampleInvokeCall (ascii "L"))).1

/-- The records of two commands, of which the first is for the label `L`. -/
def sampleCommands (label : Bytes) : List CommandRecord :=
  [sampleRecord invokedWorker label, sampleRecord Globals.initial (ascii "L")]

theorem reach_sampleCommands (label : Bytes) :
    ∃ g, Reach (invokeStep Sgx.sample Bfibe.sample) Globals.initial (sampleCommands label) g :=
  ⟨_, (Reach.start.step (sampleInvokeCall (ascii "L"))).step (sampleInvokeCall label)⟩

/-- A second command for the same label skips the KMS, and is justified. -/
theorem sameLabel_justified :
    (sampleRecord invokedWorker (ascii "L")).output.key.contacted = false ∧
      ∀ r t, r :: t <:+ sampleCommands (ascii "L") → SkipJustified Sgx.sample t r := by
  refine ⟨by decide +kernel, ?_⟩
  obtain ⟨g, hr⟩ := reach_sampleCommands (ascii "L")
  refine skipJustified_of_commands hr ?_ ?_
  · intro r hr hno g handed hquote hhanded
    rcases List.mem_cons.mp hr with rfl | hr
    · exact absurd hno (by decide +kernel)
    · obtain rfl := List.mem_singleton.mp hr
      obtain rfl := QuoteOutcome.ready.inj hquote
      obtain rfl : handed = .keysBatch (sampleKeyBlob 0) (sampleKeyBlob 1) := by
        refine Option.some.inj (hhanded.symm.trans ?_)
        decide +kernel
      exact Or.inr (Or.inl (by decide +kernel))
  · intro r t hsub hskip useBfibe hprofile _
    rcases List.suffix_cons_iff.mp hsub with heq | hsub
    · obtain ⟨rfl, rfl⟩ := List.cons.inj heq
      obtain rfl : useBfibe = false := by
        refine Option.some.inj (hprofile.symm.trans ?_)
        decide +kernel
      refine ⟨by decide +kernel, fun e he _ => ?_⟩
      obtain rfl := List.mem_singleton.mp (List.mem_of_find?_eq_some he)
      exact ⟨by decide +kernel, fun _ => by decide +kernel⟩
    · rcases List.suffix_cons_iff.mp hsub with heq | hsub
      · obtain ⟨rfl, rfl⟩ := List.cons.inj heq
        exact absurd hskip (by decide +kernel)
      · exact absurd (List.suffix_nil.mp hsub) (by simp)

/-- A second command for another label skips the KMS too, and runs with the keys of the first. -/
theorem otherLabel_not_justified :
    ¬ ∀ r t, r :: t <:+ sampleCommands (ascii "M") → SkipJustified Sgx.sample t r := by
  intro hall
  have hskip := hall (sampleRecord invokedWorker (ascii "M")) _ List.suffix_rfl (by decide +kernel)
  obtain ⟨⟨kind, args⟩, hran⟩ :
      ∃ ran, (sampleRecord invokedWorker (ascii "M")).output.ran = some ran :=
    Option.isSome_iff_exists.mp (by decide +kernel)
  have hprofile : profileOf (sampleInvokeCall (ascii "M")) = some args.useBfibeKeys :=
    profileOf_of_ran (S := Sgx.sample) (B := Bfibe.sample) (g := invokedWorker) hran
  have heccibe : args.useBfibeKeys = false := by
    refine Option.some.inj (hprofile.symm.trans ?_)
    decide +kernel
  obtain ⟨e, he, -, -, hlabel⟩ := hskip kind args hran (by
    rw [keysLoaded, heccibe]
    decide +kernel)
  obtain rfl := List.mem_singleton.mp he
  exact absurd (hlabel (by decide +kernel)) (by decide +kernel)

end WorkerApp
end AsynCS
