import SlotWallet.Command.Send
import SlotWallet.Proofs.Base58Form
import SlotWallet.Proofs.Command

/-!
# What is shown of a transfer

A plan is shown line by line, and what is shown tells the transfer: no other sender,
recipient, amount or memo looks the same (`details_inj`). An address ends with its line,
an amount with the first blank behind it, and a memo stands between marks.
-/

namespace SlotWallet

-- ---------------------------------------------------------------------------
-- Texts on one line
-- ---------------------------------------------------------------------------

theorem append_mark_inj {mark : Char} {text text' rest rest' : List Char} (hmark : mark ∉ text)
    (hmark' : mark ∉ text') (h : text ++ mark :: rest = text' ++ mark :: rest') :
    text = text' ∧ rest = rest' := by
  induction text generalizing text' with
  | nil =>
    cases text' with
    | nil => exact ⟨rfl, List.tail_eq_of_cons_eq h⟩
    | cons c text' =>
      obtain rfl : mark = c := List.head_eq_of_cons_eq h
      exact absurd List.mem_cons_self hmark'
  | cons c text ih =>
    cases text' with
    | nil =>
      obtain rfl : c = mark := List.head_eq_of_cons_eq h
      exact absurd List.mem_cons_self hmark
    | cons c' text' =>
      obtain rfl : c = c' := List.head_eq_of_cons_eq h
      obtain ⟨rfl, rfl⟩ := ih (List.not_mem_of_not_mem_cons hmark)
        (List.not_mem_of_not_mem_cons hmark') (List.tail_eq_of_cons_eq h)
      exact ⟨rfl, rfl⟩

theorem Host.toList_unlines_cons (text : String) (rest : List String) :
    (Host.unlines (text :: rest)).toList = text.toList ++ '\n' :: (Host.unlines rest).toList := by
  simp [Host.unlines]

theorem Base58.newline_notMem_encodeChars (bytes : Bytes) : '\n' ∉ encodeChars bytes :=
  fun h => absurd (mem_alphabet_of_mem_encodeChars h) (by decide)

theorem PublicKey.address_line_inj {key key' : PublicKey} {rest rest' : List Char}
    (h : key.address.toList ++ '\n' :: rest = key'.address.toList ++ '\n' :: rest') :
    key = key' ∧ rest = rest' := by
  simp only [address, Base58.encode, String.toList_ofList] at h
  obtain ⟨hchars, hrest⟩ := append_mark_inj (Base58.newline_notMem_encodeChars key.bytes)
    (Base58.newline_notMem_encodeChars key'.bytes) h
  exact ⟨FixedBytes.ext_bytes (Base58.encodeChars_inj hchars), hrest⟩

namespace Amount

theorem toList_toString (n : UInt64) : (toString n).toList = Nat.toDigits 10 n.toNat := by
  change (Nat.repr n.toNat).toList = _
  rw [Nat.repr_eq_ofList_toDigits, String.toList_ofList]

theorem blank_notMem_toDigits (n : Nat) : ' ' ∉ Nat.toDigits 10 n := by
  intro h
  exact absurd (Nat.isDigit_of_mem_toDigits (by decide) (by decide) h) (by decide)

theorem toString_blank_inj {n n' : UInt64} {rest rest' : List Char}
    (h : (toString n).toList ++ ' ' :: rest = (toString n').toList ++ ' ' :: rest') :
    n = n' ∧ rest = rest' := by
  rw [toList_toString, toList_toString] at h
  obtain ⟨hdigits, hrest⟩ := append_mark_inj (blank_notMem_toDigits _) (blank_notMem_toDigits _) h
  have hvalue := congrArg (Nat.ofDigitChars 10 · 0) hdigits
  rw [Nat.ofDigitChars_ten_toDigits, Nat.ofDigitChars_ten_toDigits] at hvalue
  exact ⟨UInt64.toNat_inj.mp hvalue, hrest⟩

end Amount

namespace Command

def memoLine : Option Memo → String
  | some memo => "  Memo:      '" ++ memo.text ++ "'"
  | none => "  Memo:      (none)"

def detailLines (slot : Slot) (p : Plan) : List String :=
  [s!"Using wallet stored in {slot.name}.",
    "",
    "Transaction details:",
    "  From:      " ++ p.key.publicKey.address,
    "  To:        " ++ p.recipient.address,
    s!"  Amount:    {p.lamports} lamports (" ++ Amount.format p.lamports ++ ")",
    memoLine p.memo,
    ""]

def details (slot : Slot) (p : Plan) : String := Host.unlines (detailLines slot p)

theorem showPlan_run (slot : Slot) (p : Plan) (host : Host) :
    runFrom (showPlan slot p) host = (.ok (), host.print (details slot p)) := by
  rw [details, ← Host.printLines_eq]
  simp only [showPlan, runFrom_bind_ok (runFrom_line _ _), detailLines, Host.printLines,
    List.foldl_cons, List.foldl_nil]
  cases p.memo <;> rfl

/-- A memo is shown between marks, so that none of them looks like no memo. -/
theorem memoLine_inj {memo memo' : Option Memo}
    (h : (memoLine memo).toList = (memoLine memo').toList) : memo = memo' := by
  have hnone : ∀ m : Memo, (memoLine none).toList ≠ (memoLine (some m)).toList := by
    intro m heq
    simp [memoLine] at heq
  cases memo with
  | none =>
    cases memo' with
    | none => rfl
    | some m => exact absurd h (hnone m)
  | some m =>
    cases memo' with
    | none => exact absurd h.symm (hnone m)
    | some m' =>
      simp only [memoLine, String.toList_append, List.append_cancel_left_eq,
        List.append_cancel_right_eq, Memo.text, String.toList_ofList, List.append_assoc] at h
      cases m
      cases m'
      cases h
      rfl

/-- What is shown tells the transfer. -/
theorem details_inj {slot : Slot} {p p' : Plan} (h : details slot p = details slot p') :
    p.key.publicKey = p'.key.publicKey ∧ p.recipient = p'.recipient ∧
      p.lamports = p'.lamports ∧ p.memo = p'.memo := by
  have hchars := congrArg String.toList h
  simp only [details, detailLines, Host.toList_unlines_cons, String.toList_append,
    List.append_assoc, List.append_cancel_left_eq, List.cons.injEq, true_and] at hchars
  obtain ⟨hfrom, hchars⟩ := PublicKey.address_line_inj hchars
  simp only [List.append_cancel_left_eq] at hchars
  obtain ⟨hto, hchars⟩ := PublicKey.address_line_inj hchars
  simp only [List.append_cancel_left_eq] at hchars
  obtain ⟨hlamports, -⟩ := Amount.toString_blank_inj hchars
  -- with the amounts the rest of their line is the same
  simp only [hlamports, List.append_cancel_left_eq, List.cons.injEq, true_and] at hchars
  exact ⟨hfrom, hto, hlamports, memoLine_inj (List.append_cancel_right hchars)⟩

end Command

end SlotWallet
