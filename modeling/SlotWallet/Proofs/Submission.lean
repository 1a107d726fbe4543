import SlotWallet.Proofs.Base58
import SlotWallet.Proofs.Client
import SlotWallet.Proofs.Signed
import SlotWallet.Wallet

/-!
# A transfer is submitted once or not at all

A transfer asks for a blockhash and then depends on the answer alone
(`submission`): it either ends there or makes one more call, whose text holds the
message over that blockhash and its signature. Framing cannot fail in between,
since a compiled message is much shorter than a frame may be.
-/

namespace SlotWallet

-- ---------------------------------------------------------------------------
-- Answers
-- ---------------------------------------------------------------------------

namespace Client

/-- An answer offers a blockhash: at its place is a text that denotes it. -/
def Offers (result : Json) (hash : Blockhash) : Prop :=
  ∃ text, result.path? ["value", "blockhash"] = some (.string text) ∧
    Text.trim text.toList = Base58.encodeChars hash.bytes

inductive OffersNone (result : Json) : ProtocolFault → Prop
  | missing : result.path? ["value", "blockhash"] = none →
      OffersNone result (.missingField "value.blockhash")
  | other {value : Json} : result.path? ["value", "blockhash"] = some value →
      (∀ text, value ≠ .string text) → OffersNone result .blockhashNotText
  | malformed {text : String} {fault : InputFault} :
      result.path? ["value", "blockhash"] = some (.string text) →
      Base58.decodeFixed 32 text = .error fault → OffersNone result (.badBlockhash fault)

theorem readBlockhash_of_none {result : Json}
    (h : result.path? ["value", "blockhash"] = none) :
    readBlockhash result = .error (.protocol (.missingField "value.blockhash")) := by
  rw [readBlockhash, field, h]
  rfl

theorem readBlockhash_of_other {result value : Json}
    (h : result.path? ["value", "blockhash"] = some value) (hvalue : ∀ text, value ≠ .string text) :
    readBlockhash result = .error (.protocol .blockhashNotText) := by
  rw [readBlockhash, field, h]
  cases value with
  | string text => exact absurd rfl (hvalue text)
  | _ => rfl

theorem readBlockhash_of_text {result : Json} {text : String}
    (h : result.path? ["value", "blockhash"] = some (.string text)) :
    readBlockhash result = (Base58.decodeFixed 32 text).mapError
      fun fault => WalletError.protocol (.badBlockhash fault) := by
  obtain ⟨read, hread⟩ : ∃ read, Base58.decodeFixed 32 text = read := ⟨_, rfl⟩
  have hfield : field result ["value", "blockhash"] = .ok (.string text) := by
    rw [field, h]
    rfl
  rw [readBlockhash, hfield]
  simp only [bind, Except.bind, hread]
  cases read <;> rfl

theorem readBlockhash_ok {result : Json} {hash : Blockhash} :
    readBlockhash result = .ok hash ↔ Offers result hash := by
  constructor
  · intro h
    cases hpath : result.path? ["value", "blockhash"] with
    | none => simp [readBlockhash_of_none hpath] at h
    | some value =>
      by_cases hvalue : ∃ text, value = .string text
      · obtain ⟨text, rfl⟩ := hvalue
        rw [readBlockhash_of_text hpath, mapError_ok, Base58.decodeFixed_ok] at h
        exact ⟨text, hpath, h⟩
      · rw [readBlockhash_of_other hpath fun text ht => hvalue ⟨text, ht⟩] at h
        contradiction
  · rintro ⟨text, hpath, htext⟩
    rw [readBlockhash_of_text hpath, mapError_ok]
    exact Base58.decodeFixed_ok.mpr htext

theorem readBlockhash_error {result : Json} {e : WalletError} :
    readBlockhash result = .error e ↔ ∃ fault, OffersNone result fault ∧ e = .protocol fault := by
  constructor
  · intro h
    cases hpath : result.path? ["value", "blockhash"] with
    | none =>
      rw [readBlockhash_of_none hpath] at h
      exact ⟨_, .missing hpath, (Except.error.inj h).symm⟩
    | some value =>
      by_cases hvalue : ∃ text, value = .string text
      · obtain ⟨text, rfl⟩ := hvalue
        rw [readBlockhash_of_text hpath] at h
        obtain ⟨fault, htext, rfl⟩ := mapError_error.mp h
        exact ⟨_, .malformed hpath htext, rfl⟩
      · have hother : ∀ text, value ≠ .string text := fun text ht => hvalue ⟨text, ht⟩
        rw [readBlockhash_of_other hpath hother] at h
        exact ⟨_, .other hpath hother, (Except.error.inj h).symm⟩
  · rintro ⟨fault, hfault, rfl⟩
    cases hfault with
    | missing hpath => exact readBlockhash_of_none hpath
    | other hpath hvalue => exact readBlockhash_of_other hpath hvalue
    | malformed hpath htext => rw [readBlockhash_of_text hpath, htext]; rfl

theorem nonEmptyText_of_text {expected text : String} (h : text ≠ "") :
    nonEmptyText expected (.string text) = .ok text := by
  rw [nonEmptyText, if_neg h]
  rfl

theorem nonEmptyText_of_other {expected : String} {answer : Json}
    (h : ∀ text, text ≠ "" → answer ≠ .string text) :
    nonEmptyText expected answer = .error (.protocol (.notText expected answer)) := by
  cases answer with
  | string text =>
    have hempty : text = "" := Decidable.byContradiction fun hne => h text hne rfl
    rw [nonEmptyText, if_pos hempty]
    rfl
  | _ => rfl

theorem nonEmptyText_ok {expected text : String} {answer : Json} :
    nonEmptyText expected answer = .ok text ↔ answer = .string text ∧ text ≠ "" := by
  by_cases htext : ∃ found, found ≠ "" ∧ answer = .string found
  · obtain ⟨found, hne, rfl⟩ := htext
    rw [nonEmptyText_of_text hne]
    simp only [Except.ok.injEq, Json.string.injEq]
    constructor
    · rintro rfl
      exact ⟨rfl, hne⟩
    · rintro ⟨rfl, -⟩
      rfl
  · rw [nonEmptyText_of_other fun text hne h => htext ⟨text, hne, h⟩]
    simp only [reduceCtorEq, false_iff]
    rintro ⟨h, hne⟩
    exact htext ⟨text, hne, h⟩

theorem nonEmptyText_error {expected : String} {answer : Json} {e : WalletError} :
    nonEmptyText expected answer = .error e ↔
      (∀ text, text ≠ "" → answer ≠ .string text) ∧ e = .protocol (.notText expected answer) := by
  constructor
  · intro h
    have hother : ∀ text, text ≠ "" → answer ≠ .string text := by
      rintro text hne rfl
      rw [nonEmptyText_of_text hne] at h
      contradiction
    rw [nonEmptyText_of_other hother] at h
    exact ⟨hother, (Except.error.inj h).symm⟩
  · rintro ⟨hother, rfl⟩
    exact nonEmptyText_of_other hother

section Methods

variable {σ : Type} [Transport σ] [ScriptedTransport σ]

theorem latestBlockhash_run (s : σ) :
    runFrom latestBlockhash s =
      (ScriptedTransport.reply s 0 >>= readBlockhash,
        Transport.after s [.asked latestBlockhashCall]) :=
  ScriptedTransport.runFrom_method latestBlockhashCall readBlockhash s

theorem sendTransfer_run {t : SignedTransfer} {encoded : String} (h : t.base64 = .ok encoded)
    (s : σ) :
    runFrom (sendTransfer t) s =
      (ScriptedTransport.reply s 0 >>= nonEmptyText "transaction signature",
        Transport.after s [.asked (sendCall encoded)]) := by
  rw [sendTransfer, runFrom_lift_bind, h]
  exact ScriptedTransport.runFrom_method (sendCall encoded) (nonEmptyText "transaction signature") s

end Methods

end Client

-- ---------------------------------------------------------------------------
-- Transfers
-- ---------------------------------------------------------------------------

namespace Wallet

open Client

variable (keys : KeyPair) (recipient : PublicKey) (lamports : UInt64) (memo : Option Memo)

/-- The message to submit under a first answer: over the blockhash that it offers. -/
def Submits (first : Except WalletError Json) (compiled : WireBuffer) : Prop :=
  ∃ result hash, first = .ok result ∧ Offers result hash ∧
    TransferRequest.compile ⟨recipient, lamports, hash, memo⟩ keys.publicKey = .ok compiled

/-- The error of the first step that fails, by what the node answers. -/
inductive FirstFailure (first second : Except WalletError Json) : WalletError → Prop
  | unanswered {e : WalletError} : first = .error e → FirstFailure first second e
  | noBlockhash {result : Json} {fault : ProtocolFault} :
      first = .ok result → OffersNone result fault → FirstFailure first second (.protocol fault)
  | refused {result : Json} {hash : Blockhash} {fault : InputFault} :
      first = .ok result → Offers result hash →
      TransferRequest.compile ⟨recipient, lamports, hash, memo⟩ keys.publicKey = .error fault →
      FirstFailure first second (.invalidInput fault)
  | unsent {compiled : WireBuffer} {e : WalletError} :
      Submits keys recipient lamports memo first compiled → second = .error e →
      FirstFailure first second e
  | unnamed {compiled : WireBuffer} {answer : Json} :
      Submits keys recipient lamports memo first compiled → second = .ok answer →
      (∀ text, text ≠ "" → answer ≠ .string text) →
      FirstFailure first second (.protocol (.notText "transaction signature" answer))

def submission (first : Except WalletError Json) : Except WalletError SignedTransfer := do
  let hash ← first >>= readBlockhash
  (SignedTransfer.ofRequest keys ⟨recipient, lamports, hash, memo⟩).mapError .invalidInput

def submissionCalls (first : Except WalletError Json) : List Call :=
  match submission keys recipient lamports memo first with
  | .ok t => [sendCall (Base64.encode t.framed)]
  | .error _ => []

def outcome (first second : Except WalletError Json) : Except WalletError String := do
  let _ ← submission keys recipient lamports memo first
  second >>= nonEmptyText "transaction signature"

variable {keys recipient lamports memo}
variable {first second : Except WalletError Json}

theorem submission_ok {t : SignedTransfer} :
    submission keys recipient lamports memo first = .ok t ↔
      ∃ compiled, Submits keys recipient lamports memo first compiled ∧
        t = ⟨keys.sign compiled.bytes, compiled⟩ := by
  simp only [submission, bind_ok, mapError_ok, SignedTransfer.ofRequest, readBlockhash_ok, pure_ok]
  constructor
  · rintro ⟨hash, ⟨result, hfirst, hhash⟩, compiled, hcompiled, rfl⟩
    exact ⟨compiled, ⟨result, hash, hfirst, hhash, hcompiled⟩, rfl⟩
  · rintro ⟨compiled, ⟨result, hash, hfirst, hhash, hcompiled⟩, rfl⟩
    exact ⟨hash, ⟨result, hfirst, hhash⟩, compiled, hcompiled, rfl⟩

theorem Submits.submission_eq {compiled : WireBuffer}
    (h : Submits keys recipient lamports memo first compiled) :
    submission keys recipient lamports memo first = .ok ⟨keys.sign compiled.bytes, compiled⟩ :=
  submission_ok.mpr ⟨compiled, h, rfl⟩

theorem length_submissionCalls_le :
    (submissionCalls keys recipient lamports memo first).length ≤ 1 := by
  unfold submissionCalls
  split
  · exact Nat.le_refl 1
  · exact Nat.zero_le 1

theorem mem_submissionCalls {call : Call} :
    call ∈ submissionCalls keys recipient lamports memo first ↔
      ∃ compiled, Submits keys recipient lamports memo first compiled ∧
        call = sendCall (Base64.encode
          (SignedTransfer.framed ⟨keys.sign compiled.bytes, compiled⟩)) := by
  unfold submissionCalls
  constructor
  · intro h
    split at h
    · rename_i t ht
      obtain ⟨compiled, hcompiled, rfl⟩ := submission_ok.mp ht
      exact ⟨compiled, hcompiled, List.mem_singleton.mp h⟩
    · contradiction
  · rintro ⟨compiled, hcompiled, rfl⟩
    rw [hcompiled.submission_eq]
    exact List.mem_singleton_self _

theorem outcome_ok {signature : String} :
    outcome keys recipient lamports memo first second = .ok signature ↔
      submissionCalls keys recipient lamports memo first ≠ [] ∧
        second = .ok (.string signature) ∧ signature ≠ "" := by
  unfold submissionCalls
  simp only [outcome, bind_ok, nonEmptyText_ok]
  constructor
  · rintro ⟨t, ht, answer, hanswer, rfl, hne⟩
    rw [ht]
    exact ⟨List.cons_ne_nil _ _, hanswer, hne⟩
  · rintro ⟨hcalls, hanswer, hne⟩
    split at hcalls
    · rename_i t ht
      exact ⟨t, ht, .string signature, hanswer, rfl, hne⟩
    · contradiction

theorem outcome_error {e : WalletError} :
    outcome keys recipient lamports memo first second = .error e ↔
      FirstFailure keys recipient lamports memo first second e := by
  constructor
  · intro h
    obtain h | ⟨t, ht, h⟩ := bind_error.mp h
    · simp only [submission, SignedTransfer.ofRequest, bind_error, bind_ok, mapError_error,
        readBlockhash_ok, readBlockhash_error] at h
      obtain (hfirst | ⟨result, hfirst, fault, hnone, rfl⟩) |
        ⟨hash, ⟨result, hfirst, hhash⟩, fault, hfault | ⟨compiled, -, hpure⟩, rfl⟩ := h
      · exact .unanswered hfirst
      · exact .noBlockhash hfirst hnone
      · exact .refused hfirst hhash hfault
      · -- a compiled transfer is signed
        contradiction
    · obtain ⟨compiled, hcompiled, -⟩ := submission_ok.mp ht
      obtain hsecond | ⟨answer, hsecond, hanswer⟩ := bind_error.mp h
      · exact .unsent hcompiled hsecond
      · obtain ⟨hother, rfl⟩ := nonEmptyText_error.mp hanswer
        exact .unnamed hcompiled hsecond hother
  · intro h
    refine bind_error.mpr ?_
    cases h with
    | unanswered hfirst =>
      refine .inl (bind_error.mpr (.inl ?_))
      exact bind_error.mpr (.inl hfirst)
    | noBlockhash hfirst hnone =>
      refine .inl (bind_error.mpr (.inl ?_))
      exact bind_error.mpr (.inr ⟨_, hfirst, readBlockhash_error.mpr ⟨_, hnone, rfl⟩⟩)
    | refused hfirst hhash hfault =>
      have hread := bind_ok.mpr ⟨_, hfirst, readBlockhash_ok.mpr hhash⟩
      refine .inl (bind_error.mpr (.inr ⟨_, hread, ?_⟩))
      exact mapError_error.mpr ⟨_, bind_error.mpr (.inl hfault), rfl⟩
    | unsent hcompiled hsecond =>
      refine .inr ⟨_, hcompiled.submission_eq, ?_⟩
      exact bind_error.mpr (.inl hsecond)
    | unnamed hcompiled hsecond hother =>
      refine .inr ⟨_, hcompiled.submission_eq, ?_⟩
      exact bind_error.mpr (.inr ⟨_, hsecond, nonEmptyText_of_other hother⟩)

variable (keys recipient lamports memo)

theorem runFrom_sendTransfer {σ : Type} [Transport σ] [ScriptedTransport σ] (s : σ) :
    runFrom (sendTransfer keys recipient lamports memo) s =
      (outcome keys recipient lamports memo (ScriptedTransport.reply s 0)
          (ScriptedTransport.reply s 1),
        Transport.after s ((latestBlockhashCall ::
          submissionCalls keys recipient lamports memo (ScriptedTransport.reply s 0)).map
            .asked)) := by
  rw [sendTransfer, runFrom_bind, latestBlockhash_run]
  cases hhash : ScriptedTransport.reply s 0 >>= readBlockhash with
  | error e =>
    have hnone : submission keys recipient lamports memo (ScriptedTransport.reply s 0) =
        .error e := by
      rw [submission, hhash]
      rfl
    rw [submissionCalls, outcome, hnone]
    rfl
  | ok hash =>
    have hsome : submission keys recipient lamports memo (ScriptedTransport.reply s 0) =
        (SignedTransfer.ofRequest keys ⟨recipient, lamports, hash, memo⟩).mapError
          .invalidInput := by
      rw [submission, hhash]
      rfl
    rw [submissionCalls, outcome, hsome]
    change runFrom (lift _ >>= Client.sendTransfer) (Transport.after s _) = _
    rw [runFrom_lift_bind]
    cases htransfer : SignedTransfer.ofRequest keys ⟨recipient, lamports, hash, memo⟩ with
    | error fault => rfl
    | ok t =>
      -- nothing can fail between the signature and the second call
      have hbase64 := SignedTransfer.base64_of_ofRequest htransfer
      have hreply := ScriptedTransport.reply_after_calls s [latestBlockhashCall] 0
      change runFrom (Client.sendTransfer _) _ = _
      rw [Client.sendTransfer_run hbase64, Transport.after_after]
      rw [List.map_singleton] at hreply
      rw [hreply]
      rfl

theorem sendTransfer_run (node : ScriptedNode) :
    runFrom (sendTransfer keys recipient lamports memo) node =
      (outcome keys recipient lamports memo (node.reply 0) (node.reply 1),
        node.after (latestBlockhashCall ::
          submissionCalls keys recipient lamports memo (node.reply 0))) := by
  rw [runFrom_sendTransfer, ScriptedNode.after_asked]
  rfl

/-- A transfer asks for a blockhash and submits, at most once, the signed message over
the blockhash that it is answered, if there is such a message. Its result is the
signature that the node reports then, or the error of the first step that fails. -/
theorem submits_once (node : ScriptedNode) :
    ∃ result sent,
      runFrom (sendTransfer keys recipient lamports memo) node =
        (result, node.after (latestBlockhashCall :: sent)) ∧
      sent.length ≤ 1 ∧
      (∀ call, call ∈ sent ↔
        ∃ compiled, Submits keys recipient lamports memo (node.reply 0) compiled ∧
          call = ⟨"sendTransaction", .array
            [.string (Base64.encode (CompactLength.encode 1 ++
              (keys.sign compiled.bytes).bytes ++ compiled.bytes)),
            .object [("encoding", .string "base64")]]⟩) ∧
      (∀ signature, result = .ok signature ↔
        sent ≠ [] ∧ node.reply 1 = .ok (.string signature) ∧ signature ≠ "") ∧
      ∀ e, result = .error e ↔
        FirstFailure keys recipient lamports memo (node.reply 0) (node.reply 1) e := by
  refine ⟨_, _, sendTransfer_run keys recipient lamports memo node, length_submissionCalls_le,
    ?_, fun signature => outcome_ok, fun e => outcome_error⟩
  intro call
  exact mem_submissionCalls

end Wallet

end SlotWallet
