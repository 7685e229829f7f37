import AsynCS.Lib.ByteBuffer
import AsynCS.Lib.Ledger
import AsynCS.Protocol.KmsResponse

/-!
# What the KMS server does with a connection

`handle_client` allocates a buffer for the quote, one for the FID and one for the label, and each of
its returns frees what was allocated by hand.  The socket is closed on two of the returns only.

* `ConnectionEvent`, `readRequest`, `serveRequest`, `handleConnection`: the function with its
  allocations, replies and closes.
* `WellFormedRequest`, `gives_readRequest`: the byte streams that hold a whole request.
* `serveRequest_apply`: behind a whole request the function is `handleClient` with its cleanup.
* `freed_handleConnection`: the buffers are freed once each on every path.
* `Answered`, `answered_iff`: the connections that are answered and closed.
-/

namespace AsynCS
namespace Kms

open Proc

/-! ## The function with its effects -/

/-- The buffers of `handle_client`. -/
inductive RequestBuffer where
  | quote
  | fid
  | label
  deriving DecidableEq

/-- What happens while a connection is handled. -/
inductive ConnectionEvent where
  /-- `malloc` that succeeds -/
  | malloc (b : RequestBuffer)
  | free (b : RequestBuffer)
  /-- `send_all` or `send` of a reply -/
  | reply (r : ServerReply)
  /-- `close(client_socket)` -/
  | close
  deriving DecidableEq

/-- The enclave, and the bytes of the client that were not read yet. -/
structure Connection where
  enclave : Globals
  input : Bytes

/-- A part of `handle_client`. -/
abbrev Handler (α : Type) := Proc ConnectionEvent Connection α

/-- Free buffers, one after the other. -/
def freeAll : List RequestBuffer → Handler Unit
  | [] => pure ()
  | b :: bs => do
    emit (.free b)
    freeAll bs

/-- `read_exact`, for a caller that frees some buffers and returns when it fails. -/
def readOrFree (n : ℕ) (owned : List RequestBuffer) : Handler Bytes := do
  let c ← get
  let (field, rest) ← orStop (takeBytes n c.input) (freeAll owned)
  modify fun c => { c with input := rest }
  return field

/-- A length, for a caller that answers a bad one. -/
def readLength (bound : ℕ) (error : ServerError) (owned : List RequestBuffer) : Handler ℕ := do
  let word ← readOrFree 4 owned
  let len := ofLeBytes word
  require (!(len == 0 || bound < len)) do
    emit (.reply (.error error))
    freeAll owned
  return len

/-- `malloc` for a caller that frees some buffers and returns when it fails. -/
def mallocOrFree (malloc : RequestBuffer → Bool) (b : RequestBuffer) (owned : List RequestBuffer) :
    Handler Unit := do
  require (malloc b) (freeAll owned)
  emit (.malloc b)

/-- `handle_client` up to the whole request. -/
def readRequest (malloc : RequestBuffer → Bool) : Handler KeyRequest := do
  let quoteSize ← readLength (64 * 1024) .invalidQuoteSize []
  mallocOrFree malloc .quote []
  let quote ← readOrFree quoteSize [.quote]
  let fidLen ← readLength 4096 .invalidFidLen [.quote]
  mallocOrFree malloc .fid [.quote]
  let fid ← readOrFree fidLen [.quote, .fid]
  let labelLen ← readLength 128 .invalidLabelLen [.quote, .fid]
  mallocOrFree malloc .label [.quote, .fid]
  let label ← readOrFree labelLen [.quote, .fid, .label]
  let publicKey ← readOrFree 64 [.quote, .fid, .label]
  let cryptoProfileLen ← readLength 64 .invalidCryptoProfile [.quote, .fid, .label]
  let cryptoProfile ← readOrFree cryptoProfileLen [.quote, .fid, .label]
  return ⟨quote, CStr.ofBuffer fid, CStr.ofBuffer label, Block.ofBytes 64 publicKey,
    CStr.ofBuffer cryptoProfile⟩

/-- The end of `handle_client`. -/
def finishConnection : Handler Unit := do
  freeAll [.quote, .fid, .label]
  emit .close

/-- `ecall_verify_quote_for_fid`, with 0 for a quote that it verified. -/
def verifyInEnclave (env : ServeEnv) (r : KeyRequest) : Handler Int := do
  let c ← get
  let verified := if env.verifyCall then
      c.enclave.ecallVerifyQuoteForFid (some r.fid) (some r.quote)
    else (c.enclave, -1)
  modify fun c => { c with enclave := verified.1 }
  return verified.2

/-- The reply with the keys of a profile. -/
def sendRequested (S : Sgx) (B : Bfibe) (env : ServeEnv) (r : KeyRequest) : Handler Unit := do
  let c ← get
  emit (.reply (sendKeys S B env c.enclave r))

/-- `handle_client` behind the whole request. -/
def serveRequest (S : Sgx) (B : Bfibe) (env : ServeEnv) (r : KeyRequest) : Handler Unit := do
  if env.simulation then do
    let _ ← verifyInEnclave env r
    sendRequested S B env r
    finishConnection
  else
    match env.verifyQuoteDcap r.quote with
    | none => do
      emit (.reply (.error .dcapVerifyFailed))
      finishConnection
    | some mrenclave =>
      if !env.checkMrenclavePolicy mrenclave then do
        emit (.reply (.error .policyDenied))
        finishConnection
      else do
        let qret ← verifyInEnclave env r
        if qret ≠ 0 then do
          emit (.reply (.error .enclaveVerifyFailed))
          freeAll [.quote, .fid, .label]
          emit .close
        else do
          sendRequested S B env r
          finishConnection

/-- `handle_client`. -/
def handleConnection (S : Sgx) (B : Bfibe) (env : ServeEnv) (malloc : RequestBuffer → Bool) :
    Handler Unit := do
  let r ← readRequest malloc
  serveRequest S B env r

/-! ## Whole requests -/

/-- The fields of a request, of the sizes that the server takes. -/
structure RequestParts where
  quote : Bytes
  fid : Bytes
  label : Bytes
  publicKey : Block 64
  cryptoProfile : Bytes
  quote_size : 0 < quote.length ∧ quote.length ≤ 64 * 1024
  fid_size : 0 < fid.length ∧ fid.length ≤ 4096
  label_size : 0 < label.length ∧ label.length ≤ 128
  cryptoProfile_size : 0 < cryptoProfile.length ∧ cryptoProfile.length ≤ 64

/-- A request as the worker sends it. -/
def encodeRequest (p : RequestParts) : Bytes :=
  sizedPart p.quote ++ (sizedPart p.fid ++ (sizedPart p.label ++
    (p.publicKey.toList ++ sizedPart p.cryptoProfile)))

/-- The request of certain fields. -/
def requestOf (p : RequestParts) : KeyRequest :=
  ⟨p.quote, CStr.ofBuffer p.fid, CStr.ofBuffer p.label, p.publicKey, CStr.ofBuffer p.cryptoProfile⟩

/-- The stream begins with a whole request. -/
def WellFormedRequest (stream : Bytes) : Prop := ∃ p rest, stream = encodeRequest p ++ rest

section Reading
variable {owned : List RequestBuffer} {c c' : Connection}

theorem gives_readOrFree {n : ℕ} {field : Bytes} :
    Gives (readOrFree n owned) c field c' ↔
      c.input = field ++ c'.input ∧ field.length = n ∧ c'.enclave = c.enclave := by
  simp only [readOrFree, gives_bind, gives_get, gives_orStop, gives_modify, gives_pure]
  constructor
  · rintro ⟨_, _, ⟨rfl, rfl⟩, ⟨a, rest⟩, _, ⟨htake, rfl⟩, _, _, rfl, rfl, rfl⟩
    obtain ⟨hinput, hlength⟩ := takeBytes_eq_some_iff.mp htake
    exact ⟨hinput, hlength, rfl⟩
  · rintro ⟨hinput, hlength, henclave⟩
    refine ⟨c, c, ⟨rfl, rfl⟩, (field, c'.input), c,
      ⟨takeBytes_eq_some_iff.mpr ⟨hinput, hlength⟩, rfl⟩, (), _, rfl, rfl, ?_⟩
    rw [← henclave]

theorem gives_readLength {bound len : ℕ} {error : ServerError} (hbound : bound < 2 ^ 32) :
    Gives (readLength bound error owned) c len c' ↔
      c.input = leBytes 4 len ++ c'.input ∧ (0 < len ∧ len ≤ bound) ∧ c'.enclave = c.enclave := by
  simp only [readLength, gives_bind, gives_readOrFree, gives_require, gives_pure]
  constructor
  · rintro ⟨word, c₁, ⟨hinput, hlength, henclave⟩, _, _, ⟨htest, rfl⟩, rfl, rfl⟩
    rw [Bool.not_eq_true', Bool.or_eq_false_iff, beq_eq_false_iff_ne, decide_eq_false_iff_not]
      at htest
    refine ⟨?_, ⟨Nat.pos_of_ne_zero htest.1, Nat.le_of_not_lt htest.2⟩, henclave⟩
    rw [← hlength, leBytes_ofLeBytes]
    exact hinput
  · rintro ⟨hinput, ⟨hpositive, hle⟩, henclave⟩
    have hlen : ofLeBytes (leBytes 4 len) = len :=
      ofLeBytes_leBytes (lt_of_le_of_lt hle (lt_of_lt_of_le hbound (by norm_num)))
    refine ⟨leBytes 4 len, c', ⟨hinput, length_leBytes 4 len, henclave⟩, (), c', ⟨?_, rfl⟩,
      hlen.symm, rfl⟩
    rw [hlen, Bool.not_eq_true', Bool.or_eq_false_iff, beq_eq_false_iff_ne,
      decide_eq_false_iff_not]
    exact ⟨hpositive.ne', Nat.not_lt_of_le hle⟩

theorem gives_mallocOrFree {malloc : RequestBuffer → Bool} {b : RequestBuffer} {u : Unit} :
    Gives (mallocOrFree malloc b owned) c u c' ↔ malloc b = true ∧ c' = c := by
  simp only [mallocOrFree, gives_bind, gives_require, gives_emit]
  constructor
  · rintro ⟨_, _, ⟨hmalloc, rfl⟩, rfl⟩
    exact ⟨hmalloc, rfl⟩
  · rintro ⟨hmalloc, rfl⟩
    exact ⟨(), _, ⟨hmalloc, rfl⟩, rfl⟩

/-- **The whole request is read** when the stream begins with one and the allocations succeed. -/
theorem gives_readRequest {malloc : RequestBuffer → Bool} {r : KeyRequest} :
    Gives (readRequest malloc) c r c' ↔
      (∃ p, c.input = encodeRequest p ++ c'.input ∧ r = requestOf p) ∧
        (∀ b, malloc b = true) ∧ c'.enclave = c.enclave := by
  simp only [readRequest, gives_bind, gives_readLength (show 64 * 1024 < 2 ^ 32 by norm_num),
    gives_readLength (show 4096 < 2 ^ 32 by norm_num),
    gives_readLength (show 128 < 2 ^ 32 by norm_num),
    gives_readLength (show 64 < 2 ^ 32 by norm_num), gives_mallocOrFree, gives_readOrFree,
    gives_pure]
  constructor
  · rintro ⟨quoteSize, c₁, ⟨h₁, hquote, e₁⟩, _, _, ⟨hq, rfl⟩, quote, c₂, ⟨h₂, rfl, e₂⟩,
      fidLen, c₃, ⟨h₃, hfid, e₃⟩, _, _, ⟨hf, rfl⟩, fid, c₄, ⟨h₄, rfl, e₄⟩,
      labelLen, c₅, ⟨h₅, hlabel, e₅⟩, _, _, ⟨hl, rfl⟩, label, c₆, ⟨h₆, rfl, e₆⟩,
      publicKey, c₇, ⟨h₇, hkey, e₇⟩, profileLen, c₈, ⟨h₈, hprofile, e₈⟩,
      profile, c₉, ⟨h₉, rfl, e₉⟩, rfl, rfl⟩
    refine ⟨⟨⟨quote, fid, label, Block.ofBytes 64 publicKey, profile, hquote, hfid, hlabel,
      hprofile⟩, ?_, rfl⟩, ?_, ?_⟩
    · rw [h₁, h₂, h₃, h₄, h₅, h₆, h₇, h₈, h₉]
      simp only [encodeRequest, sizedPart, List.append_assoc, Block.toList_ofBytes hkey]
    · intro b
      cases b with
      | quote => exact hq
      | fid => exact hf
      | label => exact hl
    · rw [e₉, e₈, e₇, e₆, e₅, e₄, e₃, e₂, e₁]
  · rintro ⟨⟨p, hinput, rfl⟩, hmalloc, henclave⟩
    obtain ⟨quote, fid, label, publicKey, profile, hquote, hfid, hlabel, hprofile⟩ := p
    simp only [encodeRequest, sizedPart, List.append_assoc] at hinput
    refine ⟨quote.length, ⟨c.enclave, _⟩, ⟨hinput, hquote, rfl⟩, (), _, ⟨hmalloc .quote, rfl⟩,
      quote, ⟨c.enclave, _⟩, ⟨rfl, rfl, rfl⟩,
      fid.length, ⟨c.enclave, _⟩, ⟨rfl, hfid, rfl⟩, (), _, ⟨hmalloc .fid, rfl⟩,
      fid, ⟨c.enclave, _⟩, ⟨rfl, rfl, rfl⟩,
      label.length, ⟨c.enclave, _⟩, ⟨rfl, hlabel, rfl⟩, (), _, ⟨hmalloc .label, rfl⟩,
      label, ⟨c.enclave, _⟩, ⟨rfl, rfl, rfl⟩,
      publicKey.toList, ⟨c.enclave, _⟩, ⟨rfl, publicKey.toList_length, rfl⟩,
      profile.length, ⟨c.enclave, _⟩, ⟨rfl, hprofile, rfl⟩,
      profile, ⟨c.enclave, _⟩, ⟨rfl, rfl, rfl⟩, ?_, ?_⟩
    · rw [requestOf, Block.ofBytes_toList]
    · rw [← henclave]

end Reading

/-! ## The buffers -/

/-- The allocations of a connection. -/
def buffers : Ledger ConnectionEvent RequestBuffer where
  acquires
    | .malloc b => some b
    | .free _ => none
    | .reply _ => none
    | .close => none
  releases
    | .malloc _ => none
    | .free b => some b
    | .reply _ => none
    | .close => none

section Buffers
variable {malloc : RequestBuffer → Bool} {owned : List RequestBuffer}

theorem moves_freeAll (owned : List RequestBuffer) : buffers.Moves (freeAll owned) owned 0 := by
  induction owned with
  | nil => exact .pure ()
  | cons b owned ih =>
    have hfree : buffers.Moves (emit (.free b) : Handler Unit)
        (((b :: owned : List RequestBuffer)) : Multiset RequestBuffer) owned := by
      have hsplit : ((b :: owned : List RequestBuffer) : Multiset RequestBuffer) = owned + {b} := by
        rw [← Multiset.cons_coe, ← Multiset.singleton_add, add_comm]
      rw [hsplit]
      exact .emit_release rfl rfl
    exact hfree.bind fun _ => ih

theorem moves_readOrFree (n : ℕ) (owned : List RequestBuffer) :
    buffers.Moves (readOrFree n owned) owned owned :=
  Ledger.Moves.get.bind fun _ => (Ledger.Moves.orStop (moves_freeAll owned)).bind fun _ =>
    (Ledger.Moves.modify _).bind fun _ => .pure _

theorem moves_readLength (bound : ℕ) (error : ServerError) (owned : List RequestBuffer) :
    buffers.Moves (readLength bound error owned) owned owned := by
  have hreply : buffers.Moves (emit (.reply (.error error)) : Handler Unit) owned owned :=
    .emit_other rfl rfl
  exact (moves_readOrFree 4 owned).bind fun _ =>
    (Ledger.Moves.require (hreply.bind fun _ => moves_freeAll owned)).bind fun _ => .pure _

theorem moves_mallocOrFree (b : RequestBuffer) (owned : List RequestBuffer) :
    buffers.Moves (mallocOrFree malloc b owned) owned
      ((owned ++ [b] : List RequestBuffer) : Multiset RequestBuffer) := by
  have hmalloc : buffers.Moves (emit (.malloc b) : Handler Unit) owned
      ((owned ++ [b] : List RequestBuffer) : Multiset RequestBuffer) := by
    rw [← Multiset.coe_add]
    exact .emit_acquire rfl rfl
  exact (Ledger.Moves.require (moves_freeAll owned)).bind fun _ => hmalloc

/-- Every early return frees what was allocated; a whole request holds the three buffers. -/
theorem moves_readRequest : buffers.Moves (readRequest malloc) 0
    ([.quote, .fid, .label] : List RequestBuffer) :=
  (moves_readLength _ _ []).bind fun _ => (moves_mallocOrFree .quote []).bind fun _ =>
    (moves_readOrFree _ [.quote]).bind fun _ => (moves_readLength _ _ [.quote]).bind fun _ =>
      (moves_mallocOrFree .fid [.quote]).bind fun _ =>
        (moves_readOrFree _ [.quote, .fid]).bind fun _ =>
          (moves_readLength _ _ [.quote, .fid]).bind fun _ =>
            (moves_mallocOrFree .label [.quote, .fid]).bind fun _ =>
              (moves_readOrFree _ [.quote, .fid, .label]).bind fun _ =>
                (moves_readOrFree _ [.quote, .fid, .label]).bind fun _ =>
                  (moves_readLength _ _ [.quote, .fid, .label]).bind fun _ =>
                    (moves_readOrFree _ [.quote, .fid, .label]).bind fun _ => .pure _

end Buffers

/-! ## The end of a connection -/

section Serving
variable {S : Sgx} {B : Bfibe} {env : ServeEnv}

/-- What a whole request leads to, behind its reply. -/
def finishLog : List ConnectionEvent := [.free .quote, .free .fid, .free .label, .close]

theorem finishConnection_apply (c : Connection) : finishConnection c = ⟨finishLog, c, some ()⟩ := rfl

theorem verifyInEnclave_value (env : ServeEnv) (r : KeyRequest) (c : Connection) :
    (verifyInEnclave env r c).value = some (if env.verifyCall then
      c.enclave.ecallVerifyQuoteForFid (some r.fid) (some r.quote) else (c.enclave, -1)).2 :=
  rfl

/-- **A whole request** gets one reply, that of `handle_client`, and then its buffers are freed and
the socket is closed. -/
theorem serveRequest_apply {stream : Bytes} {r : KeyRequest}
    (h : readKeyRequest stream = .ok r) (c : Connection) :
    serveRequest S B env r c =
      ⟨.reply (handleClient S B env c.enclave stream).2 :: finishLog,
        { c with enclave := (handleClient S B env c.enclave stream).1 }, some ()⟩ := by
  rw [handleClient, h]
  dsimp only
  unfold serveRequest
  by_cases hsim : env.simulation = true
  · rw [if_pos hsim, if_pos hsim]
    rfl
  · rw [if_neg hsim, if_neg hsim]
    cases env.verifyQuoteDcap r.quote with
    | none => rfl
    | some mrenclave =>
      by_cases hpolicy : (!env.checkMrenclavePolicy mrenclave) = true
      · dsimp only
        rw [if_pos hpolicy, if_pos hpolicy]
        rfl
      · dsimp only
        rw [if_neg hpolicy, if_neg hpolicy]
        by_cases hverify : (if env.verifyCall then
            c.enclave.ecallVerifyQuoteForFid (some r.fid) (some r.quote)
          else (c.enclave, -1)).2 ≠ 0
        · rw [bind_of_some (verifyInEnclave_value env r c), if_pos hverify, if_pos hverify]
          rfl
        · rw [bind_of_some (verifyInEnclave_value env r c), if_neg hverify, if_neg hverify]
          rfl

theorem moves_finishConnection :
    buffers.Moves finishConnection ([.quote, .fid, .label] : List RequestBuffer) 0 :=
  (moves_freeAll _).bind fun _ => .emit_other rfl rfl

theorem moves_reply (reply : ServerReply) (owned : Multiset RequestBuffer) :
    buffers.Moves (emit (.reply reply) : Handler Unit) owned owned :=
  .emit_other rfl rfl

theorem moves_verifyInEnclave (r : KeyRequest) (owned : Multiset RequestBuffer) :
    buffers.Moves (verifyInEnclave env r) owned owned :=
  Ledger.Moves.get.bind fun _ => (Ledger.Moves.modify _).bind fun _ => .pure _

theorem moves_sendRequested (r : KeyRequest) (owned : Multiset RequestBuffer) :
    buffers.Moves (sendRequested S B env r) owned owned :=
  Ledger.Moves.get.bind fun _ => moves_reply _ _

/-- Both builds free the three buffers whatever the verdicts are. -/
theorem moves_serveRequest (r : KeyRequest) :
    buffers.Moves (serveRequest S B env r) ([.quote, .fid, .label] : List RequestBuffer) 0 := by
  unfold serveRequest
  split
  · exact (moves_verifyInEnclave r _).bind fun _ =>
      (moves_sendRequested r _).bind fun _ => moves_finishConnection
  · cases env.verifyQuoteDcap r.quote with
    | none => exact (moves_reply _ _).bind fun _ => moves_finishConnection
    | some mrenclave =>
      dsimp only
      split
      · exact (moves_reply _ _).bind fun _ => moves_finishConnection
      · refine (moves_verifyInEnclave r _).bind fun qret => ?_
        split
        · exact (moves_reply _ _).bind fun _ => moves_finishConnection
        · exact (moves_sendRequested r _).bind fun _ => moves_finishConnection

end Serving

/-! ## Each buffer at most once -/

section Frames
variable {A : ConnectionEvent → Prop} (hfree : ∀ b, A (.free b))
include hfree

theorem frame_freeAll (owned : List RequestBuffer) :
    Frame (Keeps Connection.enclave) A (freeAll owned) := by
  induction owned with
  | nil => exact .pure ()
  | cons b owned ih => exact (Frame.emit (hfree b)).bind fun _ => ih

theorem frame_readOrFree (n : ℕ) (owned : List RequestBuffer) :
    Frame (Keeps Connection.enclave) A (readOrFree n owned) := by
  have htaken : ∀ rest, Frame (Keeps Connection.enclave) A
      (modify fun c => { c with input := rest } : Handler Unit) :=
    fun _ => Frame.modify fun _ => rfl
  exact Frame.get.bind fun _ => (Frame.orStop (frame_freeAll hfree owned)).bind fun taken =>
    (htaken taken.2).bind fun _ => .pure _

theorem frame_readLength (hreply : ∀ reply, A (.reply reply)) (bound : ℕ) (error : ServerError)
    (owned : List RequestBuffer) :
    Frame (Keeps Connection.enclave) A (readLength bound error owned) :=
  (frame_readOrFree hfree 4 owned).bind fun _ =>
    (Frame.require ((Frame.emit (hreply _)).bind fun _ => frame_freeAll hfree owned)).bind
      fun _ => .pure _

theorem frame_mallocOrFree {malloc : RequestBuffer → Bool} (hmalloc : ∀ b, A (.malloc b))
    (b : RequestBuffer) (owned : List RequestBuffer) :
    Frame (Keeps Connection.enclave) A (mallocOrFree malloc b owned) :=
  (Frame.require (frame_freeAll hfree owned)).bind fun _ => Frame.emit (hmalloc b)

/-- Before the whole request is there, the socket is not closed. -/
theorem frame_readRequest {malloc : RequestBuffer → Bool} (hreply : ∀ reply, A (.reply reply))
    (hmalloc : ∀ b, A (.malloc b)) :
    Frame (Keeps Connection.enclave) A (readRequest malloc) :=
  (frame_readLength hfree hreply _ _ _).bind fun _ =>
    (frame_mallocOrFree hfree hmalloc _ _).bind fun _ =>
      (frame_readOrFree hfree _ _).bind fun _ => (frame_readLength hfree hreply _ _ _).bind fun _ =>
        (frame_mallocOrFree hfree hmalloc _ _).bind fun _ =>
          (frame_readOrFree hfree _ _).bind fun _ =>
            (frame_readLength hfree hreply _ _ _).bind fun _ =>
              (frame_mallocOrFree hfree hmalloc _ _).bind fun _ =>
                (frame_readOrFree hfree _ _).bind fun _ =>
                  (frame_readOrFree hfree _ _).bind fun _ =>
                    (frame_readLength hfree hreply _ _ _).bind fun _ =>
                      (frame_readOrFree hfree _ _).bind fun _ => .pure _

theorem frame_serveRequest (S : Sgx) (B : Bfibe) (env : ServeEnv)
    (hreply : ∀ reply, A (.reply reply)) (hclose : A .close) (r : KeyRequest) :
    Frame (Maintains fun _ => True) A (serveRequest S B env r) := by
  have hfreeAll : Frame (Maintains fun _ : Connection => True) A
      (freeAll [.quote, .fid, .label]) :=
    (frame_freeAll hfree _).mono (fun _ _ _ => id) fun _ => id
  have hfinish : Frame (Maintains fun _ => True) A finishConnection :=
    hfreeAll.bind fun _ => .emit hclose
  have hverify : Frame (Maintains fun _ => True) A (verifyInEnclave env r) :=
    Frame.get.bind fun _ => (Frame.modify fun _ => id).bind fun _ => .pure _
  have hsend : Frame (Maintains fun _ => True) A (sendRequested S B env r) :=
    Frame.get.bind fun _ => .emit (hreply _)
  unfold serveRequest
  refine .ite (hverify.bind fun _ => hsend.bind fun _ => hfinish) ?_
  cases env.verifyQuoteDcap r.quote with
  | none => exact (Frame.emit (hreply _)).bind fun _ => hfinish
  | some mrenclave =>
    exact .ite ((Frame.emit (hreply _)).bind fun _ => hfinish) <| hverify.bind fun _ =>
      .ite ((Frame.emit (hreply _)).bind fun _ => hfinish) (hsend.bind fun _ => hfinish)

end Frames

section Draws
variable {malloc : RequestBuffer → Bool} {owned : List RequestBuffer}

theorem draws_readOrFree {n : ℕ} : buffers.Draws (readOrFree n owned) [] :=
  .nothing (frame_readOrFree (fun _ => rfl) n owned).log

theorem draws_readLength {bound : ℕ} {error : ServerError} :
    buffers.Draws (readLength bound error owned) [] :=
  .nothing (frame_readLength (fun _ => rfl) (fun _ => rfl) bound error owned).log

theorem draws_mallocOrFree {b : RequestBuffer} :
    buffers.Draws (mallocOrFree malloc b owned) [b] := by
  have hrequire : buffers.Draws (require (malloc b) (freeAll owned) : Handler Unit) [] :=
    .nothing (Frame.require (frame_freeAll (A := fun e => buffers.acquires e = none)
      (fun _ => rfl) owned)).log
  exact hrequire.bind fun _ => .emit rfl

theorem draws_readRequest : buffers.Draws (readRequest malloc) [.quote, .fid, .label] :=
  draws_readLength.bind fun _ => draws_mallocOrFree.bind fun _ => draws_readOrFree.bind fun _ =>
    draws_readLength.bind fun _ => draws_mallocOrFree.bind fun _ => draws_readOrFree.bind fun _ =>
      draws_readLength.bind fun _ => draws_mallocOrFree.bind fun _ =>
        draws_readOrFree.bind fun _ => draws_readOrFree.bind fun _ =>
          draws_readLength.bind fun _ => draws_readOrFree.bind fun _ =>
            .nothing fun _ _ h => absurd h List.not_mem_nil

end Draws

/-- **The buffers are freed on every path**, each once. -/
theorem freed_handleConnection (S : Sgx) (B : Bfibe) (env : ServeEnv)
    (malloc : RequestBuffer → Bool) (c : Connection) :
    buffers.released (handleConnection S B env malloc c).log =
        buffers.acquired (handleConnection S B env malloc c).log ∧
      (buffers.acquired (handleConnection S B env malloc c).log).Nodup := by
  have hmoves : buffers.Moves (handleConnection S B env malloc) 0 0 :=
    moves_readRequest.bind fun r => moves_serveRequest r
  have hserve (r : KeyRequest) : buffers.Draws (serveRequest S B env r) [] :=
    .nothing (frame_serveRequest (A := fun e => buffers.acquires e = none) (fun _ => rfl) S B env
      (fun _ => rfl) rfl r).log
  have hdraws : buffers.Draws (handleConnection S B env malloc) [.quote, .fid, .label] :=
    draws_readRequest.bind hserve
  exact ⟨hmoves.released_eq c, hdraws.nodup (by decide) c⟩

/-! ## A whole request -/

theorem readSized_sizedPart {bound : ℕ} {error : ServerError} {field : Bytes}
    (hsize : 0 < field.length ∧ field.length ≤ bound) (hbound : bound < 2 ^ 32) (rest : Bytes) :
    readSized bound error (sizedPart field ++ rest) = .ok (field, rest) := by
  have hlen : ofLeBytes (leBytes 4 field.length) = field.length :=
    ofLeBytes_leBytes (lt_of_le_of_lt hsize.2 (lt_of_lt_of_le hbound (by norm_num)))
  have hword : readU32 (sizedPart field ++ rest) = .ok (field.length, field ++ rest) := by
    rw [readU32, readExact, sizedPart, List.append_assoc, takeBytes_append (length_leBytes 4 _)]
    show Except.ok (ofLeBytes (leBytes 4 field.length), field ++ rest) = _
    rw [hlen]
  have hfield : readExact field.length (field ++ rest) = .ok (field, rest) := by
    rw [readExact, takeBytes_append rfl]
  have haccepted : ¬ (field.length = 0 ∨ bound < field.length) := by omega
  rw [readSized, hword]
  show (if field.length = 0 ∨ bound < field.length then _
    else readExact field.length (field ++ rest)) = _
  rw [if_neg haccepted]
  exact hfield

theorem readKeyRequest_encodeRequest (p : RequestParts) (rest : Bytes) :
    readKeyRequest (encodeRequest p ++ rest) = .ok (requestOf p) := by
  have hkey (b : Bytes) : readExact 64 (p.publicKey.toList ++ b) = .ok (p.publicKey.toList, b) := by
    rw [readExact, takeBytes_append p.publicKey.toList_length]
  simp only [readKeyRequest, encodeRequest, List.append_assoc]
  rw [readSized_sizedPart p.quote_size (by norm_num)]
  show (readSized 4096 .invalidFidLen _ >>= _ : Except (Option ServerError) KeyRequest) = _
  rw [readSized_sizedPart p.fid_size (by norm_num)]
  show (readSized 128 .invalidLabelLen _ >>= _ : Except (Option ServerError) KeyRequest) = _
  rw [readSized_sizedPart p.label_size (by norm_num)]
  show (readExact 64 _ >>= _ : Except (Option ServerError) KeyRequest) = _
  rw [hkey]
  show (readSized 64 .invalidCryptoProfile _ >>= _ : Except (Option ServerError) KeyRequest) = _
  rw [readSized_sizedPart p.cryptoProfile_size (by norm_num)]
  show Except.ok _ = _
  rw [requestOf, Block.ofBytes_toList]

theorem logsAtEnd_readOrFree {n : ℕ} {owned : List RequestBuffer} :
    LogsAtEnd (readOrFree n owned) [] :=
  LogsAtEnd.get.bind fun _ => LogsAtEnd.orStop.bind fun _ =>
    (LogsAtEnd.modify _).bind fun _ => .pure _

theorem logsAtEnd_readLength {bound : ℕ} {error : ServerError} {owned : List RequestBuffer} :
    LogsAtEnd (readLength bound error owned) [] :=
  logsAtEnd_readOrFree.bind fun _ => LogsAtEnd.require.bind fun _ => .pure _

theorem logsAtEnd_mallocOrFree {malloc : RequestBuffer → Bool} {b : RequestBuffer}
    {owned : List RequestBuffer} : LogsAtEnd (mallocOrFree malloc b owned) [.malloc b] :=
  LogsAtEnd.require.bind fun _ => .emit _

theorem logsAtEnd_readRequest {malloc : RequestBuffer → Bool} :
    LogsAtEnd (readRequest malloc) [.malloc .quote, .malloc .fid, .malloc .label] :=
  logsAtEnd_readLength.bind fun _ => logsAtEnd_mallocOrFree.bind fun _ =>
    logsAtEnd_readOrFree.bind fun _ => logsAtEnd_readLength.bind fun _ =>
      logsAtEnd_mallocOrFree.bind fun _ => logsAtEnd_readOrFree.bind fun _ =>
        logsAtEnd_readLength.bind fun _ => logsAtEnd_mallocOrFree.bind fun _ =>
          logsAtEnd_readOrFree.bind fun _ => logsAtEnd_readOrFree.bind fun _ =>
            logsAtEnd_readLength.bind fun _ => logsAtEnd_readOrFree.bind fun _ => .pure _

/-- The log of a connection that brings a whole request. -/
theorem handleConnection_log {S : Sgx} {B : Bfibe} {env : ServeEnv}
    {malloc : RequestBuffer → Bool} (hmalloc : ∀ b, malloc b = true) (k : Globals)
    (p : RequestParts) (rest : Bytes) :
    (handleConnection S B env malloc ⟨k, encodeRequest p ++ rest⟩).log =
      [.malloc .quote, .malloc .fid, .malloc .label,
        .reply (handleClient S B env k (encodeRequest p ++ rest)).2] ++ finishLog := by
  obtain ⟨hvalue, hstate⟩ : Gives (readRequest malloc) ⟨k, encodeRequest p ++ rest⟩ (requestOf p)
      ⟨k, rest⟩ := gives_readRequest.mpr ⟨⟨p, rfl, rfl⟩, hmalloc, rfl⟩
  rw [handleConnection, bind_of_some hvalue, logsAtEnd_readRequest _ _ hvalue, hstate,
    serveRequest_apply (readKeyRequest_encodeRequest p rest)]
  rfl

/-! ## Answered and closed -/

/-- The reply of an event. -/
def ConnectionEvent.replyOf : ConnectionEvent → Option ServerReply
  | .malloc _ => none
  | .free _ => none
  | .reply r => some r
  | .close => none

/-- What the client is sent. -/
def sent (log : List ConnectionEvent) : Bytes :=
  (log.filterMap ConnectionEvent.replyOf).flatMap ServerReply.bytes

/-- One reply, before any close. -/
def RepliesOnce (log : List ConnectionEvent) : Prop :=
  ∃ before after : List ConnectionEvent, ∃ reply, log = before ++ .reply reply :: after ∧
    (before ++ after).filterMap ConnectionEvent.replyOf = [] ∧ .close ∉ before

/-- A connection with a certain log is answered and closed: the buffers are freed once each, the
socket is closed once, a request that is whole up to the field that is rejected gets one reply, and
a client that sent a whole request reads the reply to the end of the stream. -/
structure Answered (stream : Bytes) (log : List ConnectionEvent) : Prop where
  freed : buffers.released log = buffers.acquired log ∧ (buffers.acquired log).Nodup
  closed : log.count .close = 1
  replied : readKeyRequest stream ≠ .error none → RepliesOnce log
  readsToEnd : WellFormedRequest stream → .close ∈ log ∧
    ∀ events, Delivers events (sent log) → WorkerApp.readKmsResponse events = some (sent log)

/-- A reply fits the buffer of the worker. -/
theorem length_bytes_le {reply : ServerReply} (h : Sendable reply) :
    reply.bytes.length ≤ WorkerApp.kmsResponseMaxLen := by
  cases reply with
  | closed => decide
  | error e => cases e <;> decide
  | keys dkf dklabel timing =>
    show ((dkf.bytes ++ dklabel.bytes) ++ timing.bytes).length ≤ 4120
    simp only [List.length_append, KeyBlob.length_bytes, KmsTimingTrailer.length_bytes]
    omega
  | release release timing =>
    have hrelease := (h release timing rfl).1
    show (release ++ timing.bytes).length ≤ 4120
    rw [List.length_append, KmsTimingTrailer.length_bytes]
    omega

/-- The socket is closed only behind a whole request. -/
theorem wellFormed_of_closed {S : Sgx} {B : Bfibe} {env : ServeEnv}
    {malloc : RequestBuffer → Bool} {k : Globals} {stream : Bytes}
    (h : .close ∈ (handleConnection S B env malloc ⟨k, stream⟩).log) :
    WellFormedRequest stream ∧ ∀ b, malloc b = true := by
  have hread : ¬ Emits (readRequest malloc) ⟨k, stream⟩ .close :=
    (frame_readRequest (A := fun e => e ≠ .close) (fun _ => by simp) (fun _ => by simp)
      (fun _ => by simp)).not_emits fun hne => hne rfl
  obtain hfirst | ⟨r, c, hgives, -⟩ := emits_bind.mp h
  · exact absurd hfirst hread
  · obtain ⟨⟨p, hinput, -⟩, hmalloc, -⟩ := gives_readRequest.mp hgives
    exact ⟨⟨p, c.input, hinput⟩, hmalloc⟩

/-- **A connection is answered and closed** exactly when the client sends a whole request and the
server has memory for it. -/
theorem answered_iff (S : Sgx) (B : Bfibe) (env : ServeEnv) (malloc : RequestBuffer → Bool)
    (k : Globals) (stream : Bytes) :
    Answered stream (handleConnection S B env malloc ⟨k, stream⟩).log ↔
      WellFormedRequest stream ∧ ∀ b, malloc b = true := by
  constructor
  · intro h
    have hclose : 0 < (handleConnection S B env malloc ⟨k, stream⟩).log.count .close := by
      rw [h.closed]
      exact Nat.one_pos
    exact wellFormed_of_closed (List.count_pos_iff.mp hclose)
  · rintro ⟨⟨p, rest, rfl⟩, hmalloc⟩
    have hfreed := freed_handleConnection S B env malloc ⟨k, encodeRequest p ++ rest⟩
    rw [handleConnection_log hmalloc] at hfreed ⊢
    have hfits := length_bytes_le (handleClient_sendable (S := S) (B := B) env k
      (encodeRequest p ++ rest))
    refine ⟨hfreed, rfl, fun _ => ⟨[.malloc .quote, .malloc .fid, .malloc .label], finishLog, _,
      rfl, rfl, by decide⟩, fun _ => ⟨by simp [finishLog], fun events hevents => ?_⟩⟩
    refine readUpTo_of_delivers hevents ?_
    show (_ ++ []).length ≤ _
    rw [List.append_nil]
    exact hfits

/-- **A connection is not always answered and closed**: a quote of size 0 gets its reply, and the
socket stays open. -/
theorem zero_quote_size_not_answered :
    ¬ ∀ (S : Sgx) (B : Bfibe) (env : ServeEnv) (malloc : RequestBuffer → Bool) (k : Globals)
      (stream : Bytes), Answered stream (handleConnection S B env malloc ⟨k, stream⟩).log := by
  intro hall
  have hclosed := (hall Sgx.sample Bfibe.sample sampleServeEnv (fun _ => true) Globals.initial
    [0, 0, 0, 0]).closed
  exact absurd hclosed (by decide)

end Kms
end AsynCS
