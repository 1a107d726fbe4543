import SlotWallet.Proofs.Polling
import SlotWallet.Proofs.Submission

/-!
# What a method makes of its answer

Whatever the transport does, a method makes one call (`Method.run_eq`). Of the answer it accepts
one shape and gives the value there (`Accepts`); an answer of any other shape is a protocol
failure that tells what is wrong with it (`Refuses`).
-/

namespace SlotWallet

-- ---------------------------------------------------------------------------
-- Members and elements
-- ---------------------------------------------------------------------------

namespace Json

def Has (value : Json) (key : String) (member : Json) : Prop :=
  ∃ members, value = .object members ∧ members.lookup key = some member

variable {value member : Json} {key : String}

theorem get?_eq_some : value.get? key = some member ↔ value.Has key member := by
  cases value with
  | object members => simp [get?, Has]
  | _ => simp [get?, Has]

theorem get?_eq_none : value.get? key = none ↔ ∀ member, ¬value.Has key member := by
  simp only [← get?_eq_some, Option.eq_none_iff_forall_ne_some, ne_eq]

theorem path?_pair {key' : String} :
    value.path? [key, key'] = some member ↔
      ∃ inner, value.Has key inner ∧ inner.Has key' member := by
  simp only [path?, List.foldl_cons, List.foldl_nil, Option.bind_some, Option.bind_eq_some_iff,
    get?_eq_some]

theorem at?_zero {entry : Json} :
    value.at? 0 = some entry ↔ ∃ rest, value = .array (entry :: rest) := by
  cases value with
  | array elements => cases elements <;> simp [at?]
  | _ => simp [at?]

end Json

namespace Client

variable {α σ : Type}

-- ---------------------------------------------------------------------------
-- Readings
-- ---------------------------------------------------------------------------

theorem readBalance_of_has {result value : Json} (h : result.Has "value" value) :
    readBalance result =
      match value with
      | .int n =>
        if 0 ≤ n ∧ n < UInt64.size then .ok (UInt64.ofNat n.toNat)
        else .error (.protocol .balanceNotUnsigned)
      | _ => .error (.protocol .balanceNotUnsigned) := by
  have hfield : field result ["value"] = .ok value := by
    simp [field, Json.path?, Json.get?_eq_some.mpr h, pure, Except.pure]
  rw [readBalance, hfield]
  simp only [bind, Except.bind]
  cases value <;> rfl

theorem readBalance_of_none {result : Json} (h : ∀ value, ¬result.Has "value" value) :
    readBalance result = .error (.protocol (.missingField "value")) := by
  have hnone : result.path? ["value"] = none := by simp [Json.path?, Json.get?_eq_none.mpr h]
  rw [readBalance, field, hnone]
  rfl

theorem readBalance_ok {result : Json} {lamports : UInt64} :
    readBalance result = .ok lamports ↔ result.Has "value" (.int lamports.toNat) := by
  constructor
  · intro h
    by_cases hhas : ∃ value, result.Has "value" value
    · obtain ⟨value, hvalue⟩ := hhas
      rw [readBalance_of_has hvalue] at h
      cases value with
      | int n =>
        dsimp only at h
        split at h
        · rename_i hn
          cases h
          have hback : ((UInt64.ofNat n.toNat).toNat : Int) = n := by
            rw [UInt64.toNat_ofNat_of_lt' (by omega)]
            omega
          rwa [hback]
        · contradiction
      | _ => contradiction
    · rw [readBalance_of_none (not_exists.mp hhas)] at h
      contradiction
  · intro h
    have hsize := lamports.toNat_lt_size
    rw [readBalance_of_has h]
    dsimp only
    rw [if_pos (by omega), Int.toNat_natCast, UInt64.ofNat_toNat]

def NoBalance (result : Json) (fault : ProtocolFault) : Prop :=
  (fault = .missingField "value" ∧ ∀ value, ¬result.Has "value" value) ∨
    (fault = .balanceNotUnsigned ∧ ∃ value, result.Has "value" value ∧
      ∀ n : Nat, n < 2 ^ 64 → value ≠ .int n)

theorem readBalance_error {result : Json} {e : WalletError} :
    readBalance result = .error e ↔ ∃ fault, NoBalance result fault ∧ e = .protocol fault := by
  constructor
  · intro h
    by_cases hhas : ∃ value, result.Has "value" value
    · obtain ⟨value, hvalue⟩ := hhas
      have hnot : ∀ n : Nat, n < 2 ^ 64 → value ≠ .int n := by
        rintro n hn rfl
        have hread : readBalance result = .ok (UInt64.ofNat n) :=
          readBalance_ok.mpr (by rwa [UInt64.toNat_ofNat_of_lt' hn])
        rw [hread] at h
        contradiction
      refine ⟨_, .inr ⟨rfl, value, hvalue, hnot⟩, ?_⟩
      rw [readBalance_of_has hvalue] at h
      cases value with
      | int n =>
        dsimp only at h
        split at h
        · contradiction
        · exact (Except.error.inj h).symm
      | _ => exact (Except.error.inj h).symm
    · have hnone := not_exists.mp hhas
      rw [readBalance_of_none hnone] at h
      exact ⟨_, .inl ⟨rfl, hnone⟩, (Except.error.inj h).symm⟩
  · rintro ⟨fault, ⟨rfl, hnone⟩ | ⟨rfl, value, hvalue, hnot⟩, rfl⟩
    · exact readBalance_of_none hnone
    · rw [readBalance_of_has hvalue]
      cases value with
      | int n =>
        dsimp only
        rw [if_neg]
        rintro ⟨hn, hsize⟩
        have hlimit : n.toNat < UInt64.size := by omega
        exact hnot n.toNat (by simp only [UInt64.size] at hlimit; omega)
          (by rw [Int.toNat_of_nonneg hn])
      | _ => rfl

theorem readStatus_ok_iff {result entry : Json} :
    readStatus result = .ok entry ↔ ∃ rest, result.Has "value" (.array (entry :: rest)) := by
  simp only [readStatus_ok, Json.get?_eq_some, Json.at?_zero]
  constructor
  · rintro ⟨_, hvalue, rest, rfl⟩
    exact ⟨rest, hvalue⟩
  · rintro ⟨rest, hvalue⟩
    exact ⟨_, hvalue, rest, rfl⟩

theorem readStatus_error {result : Json} {e : WalletError} :
    readStatus result = .error e ↔ (∀ entry rest, ¬result.Has "value" (.array (entry :: rest))) ∧
      e = .protocol (.missingField "value[0]") := by
  constructor
  · intro h
    refine ⟨fun entry rest hvalue => ?_, ?_⟩
    · rw [readStatus_ok_iff.mpr ⟨rest, hvalue⟩] at h
      contradiction
    · unfold readStatus at h
      split at h
      · contradiction
      · exact (Except.error.inj h).symm
  · rintro ⟨hnone, rfl⟩
    unfold readStatus
    split
    · rename_i entry hentry
      have hread : readStatus result = .ok entry := by rw [readStatus, hentry]; rfl
      obtain ⟨rest, hvalue⟩ := readStatus_ok_iff.mp hread
      exact absurd hvalue (hnone entry rest)
    · rfl

-- ---------------------------------------------------------------------------
-- Methods
-- ---------------------------------------------------------------------------

/-- What can be asked of a node. A transfer is submitted as it was compiled and signed. -/
inductive Method : Type → Type
  | latestBlockhash : Method Blockhash
  | balance (address : PublicKey) : Method UInt64
  | requestAirdrop (address : PublicKey) (lamports : UInt64) : Method String
  | signatureStatus (signature : String) : Method Json
  | sendTransfer {keys : KeyPair} {request : TransferRequest} (t : SignedTransfer)
      (signed : SignedTransfer.ofRequest keys request = .ok t) : Method String

namespace Method

def run [Transport σ] : Method α → Client σ α
  | .latestBlockhash => Client.latestBlockhash
  | .balance address => Client.balance address
  | .requestAirdrop address lamports => Client.requestAirdrop address lamports
  | .signatureStatus signature => Client.signatureStatus signature
  | .sendTransfer t _ => Client.sendTransfer t

def call : Method α → Call
  | .latestBlockhash => latestBlockhashCall
  | .balance address => balanceCall address
  | .requestAirdrop address lamports => airdropCall address lamports
  | .signatureStatus signature => statusCall signature
  | .sendTransfer t _ => sendCall (Base64.encode t.framed)

def read : Method α → Json → Except WalletError α
  | .latestBlockhash => readBlockhash
  | .balance _ => readBalance
  | .requestAirdrop .. => nonEmptyText "airdrop signature"
  | .signatureStatus _ => readStatus
  | .sendTransfer .. => nonEmptyText "transaction signature"

/-- The one shape of an answer to a method, and the value that it gives. -/
def Accepts : Method α → Json → α → Prop
  | .latestBlockhash, result, hash => ∃ value text, result.Has "value" value ∧
      value.Has "blockhash" (.string text) ∧ Text.trim text.toList = Base58.encodeChars hash.bytes
  | .balance _, result, lamports => result.Has "value" (.int lamports.toNat)
  | .requestAirdrop .., result, signature => result = .string signature ∧ signature ≠ ""
  | .signatureStatus _, result, entry => ∃ rest, result.Has "value" (.array (entry :: rest))
  | .sendTransfer .., result, signature => result = .string signature ∧ signature ≠ ""

def Refuses : Method α → Json → ProtocolFault → Prop
  | .latestBlockhash, result, fault => OffersNone result fault
  | .balance _, result, fault => NoBalance result fault
  | .requestAirdrop .., result, fault =>
    (∀ text, text ≠ "" → result ≠ .string text) ∧ fault = .notText "airdrop signature" result
  | .signatureStatus _, result, fault =>
    (∀ entry rest, ¬result.Has "value" (.array (entry :: rest))) ∧ fault = .missingField "value[0]"
  | .sendTransfer .., result, fault =>
    (∀ text, text ≠ "" → result ≠ .string text) ∧ fault = .notText "transaction signature" result

theorem run_eq [Transport σ] (m : Method α) :
    (m.run : Client σ α) = (do lift (m.read (← ask m.call))) := by
  cases m with
  | sendTransfer t signed =>
    change Client.sendTransfer t = _
    rw [Client.sendTransfer, SignedTransfer.base64_of_ofRequest signed]
    rfl
  | _ => rfl

theorem read_ok {m : Method α} {result : Json} {value : α} :
    m.read result = .ok value ↔ m.Accepts result value := by
  cases m with
  | latestBlockhash =>
    refine readBlockhash_ok.trans ?_
    simp only [Offers, Accepts, Json.path?_pair]
    constructor
    · rintro ⟨text, ⟨inner, hvalue, hhash⟩, htext⟩
      exact ⟨inner, text, hvalue, hhash, htext⟩
    · rintro ⟨inner, text, hvalue, hhash, htext⟩
      exact ⟨text, ⟨inner, hvalue, hhash⟩, htext⟩
  | balance => exact readBalance_ok
  | requestAirdrop => exact nonEmptyText_ok
  | signatureStatus => exact readStatus_ok_iff
  | sendTransfer => exact nonEmptyText_ok

theorem read_error {m : Method α} {result : Json} {e : WalletError} :
    m.read result = .error e ↔ ∃ fault, m.Refuses result fault ∧ e = .protocol fault := by
  have hone {p : Prop} {fault : ProtocolFault} :
      (p ∧ e = .protocol fault) ↔ ∃ cause, (p ∧ cause = fault) ∧ e = .protocol cause := by
    simp
  cases m with
  | latestBlockhash => exact readBlockhash_error
  | balance => exact readBalance_error
  | requestAirdrop => exact nonEmptyText_error.trans hone
  | signatureStatus => exact readStatus_error.trans hone
  | sendTransfer => exact nonEmptyText_error.trans hone

/-- A method makes its one call and nothing else, through any transport. A call that fails is
passed on as it is. An answer of the accepted shape gives its value, and every other answer is a
protocol failure. -/
theorem asks_once [Transport σ] (m : Method α) (s : σ) :
    let answer := (Transport.call s m.call).1
    let run := runFrom m.run (⟨s, []⟩ : Recorded σ)
    run.2.events = [.asked m.call] ∧ run.2.transport = (Transport.call s m.call).2 ∧
    (∀ e, answer = .error e → run.1 = .error e) ∧
    ∀ result, answer = .ok result →
      (∀ value, run.1 = .ok value ↔ m.Accepts result value) ∧
      ∀ e, run.1 = .error e ↔ ∃ fault, m.Refuses result fault ∧ e = .protocol fault := by
  intro answer run
  have hrun : run = (answer >>= m.read, ⟨(Transport.call s m.call).2, [.asked m.call]⟩) := by
    change runFrom (m.run : Client (Recorded σ) α) _ = _
    rw [run_eq, runFrom_read]
    rfl
  rw [hrun]
  refine ⟨rfl, rfl, fun e he => ?_, fun result hresult => ?_⟩
  · rw [he]
    rfl
  · rw [hresult]
    exact ⟨fun value => read_ok, fun e => read_error⟩

end Method

end Client

end SlotWallet
