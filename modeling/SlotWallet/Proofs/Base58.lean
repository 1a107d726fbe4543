import Mathlib.Data.Nat.Digits.Lemmas
import SlotWallet.Proofs.Success
import SlotWallet.Transfer.Message

/-!
# Base58 texts denote one byte string

Both directions of base58 change the base of a list of digits and keep the zeros in
front. Such a change is undone by the change back (`rebase_rebase`), so a text is
read exactly when it is the written form of what is read (`decodeChars_ok`).
-/

namespace SlotWallet.Base58

-- ---------------------------------------------------------------------------
-- Changes of base
-- ---------------------------------------------------------------------------

def horner (base : Nat) (ds : List Nat) : Nat := ds.foldl (fun n d => base * n + d) 0

/-- The digits in another base of what some digits say, behind as many zeros. -/
def rebase (base base' : Nat) (ds : List Nat) : List Nat :=
  ds.takeWhile (· == 0) ++ (Nat.digits base' (horner base ds)).reverse

theorem horner_eq_ofDigits (base : Nat) (ds : List Nat) :
    horner base ds = Nat.ofDigits base ds.reverse := by
  rw [Nat.ofDigits_eq_foldr, List.foldr_reverse, horner]
  simp [Nat.add_comm]

theorem horner_append_of_zeros {base : Nat} {zeros ds : List Nat} (h : ∀ d ∈ zeros, d = 0) :
    horner base (zeros ++ ds) = horner base ds := by
  rw [List.eq_replicate_of_mem h, horner_eq_ofDigits, horner_eq_ofDigits, List.reverse_append,
    List.reverse_replicate, Nat.ofDigits_append_replicate_zero]

theorem horner_digits (base n : Nat) : horner base (Nat.digits base n).reverse = n := by
  rw [horner_eq_ofDigits, List.reverse_reverse, Nat.ofDigits_digits]

theorem mem_takeWhile_zero {ds : List Nat} : ∀ d ∈ ds.takeWhile (· == 0), d = 0 := by
  intro d hd
  simpa using List.all_eq_true.mp List.all_takeWhile d hd

theorem takeWhile_digits (base n : Nat) : (Nat.digits base n).reverse.takeWhile (· == 0) = [] := by
  rcases Nat.eq_zero_or_pos n with rfl | hn
  · simp
  have hne : Nat.digits base n ≠ [] := Nat.digits_ne_nil_iff_ne_zero.mpr hn.ne'
  obtain ⟨front, hfront⟩ :
      ∃ front, Nat.digits base n = front ++ [(Nat.digits base n).getLast hne] :=
    ⟨_, (List.dropLast_append_getLast hne).symm⟩
  rw [hfront, List.reverse_append, List.reverse_singleton, List.singleton_append,
    List.takeWhile_cons_of_neg]
  simpa using Nat.getLast_digit_ne_zero base hn.ne'

theorem takeWhile_rebase (base base' : Nat) (ds : List Nat) :
    (rebase base base' ds).takeWhile (· == 0) = ds.takeWhile (· == 0) := by
  rw [rebase, List.takeWhile_append_of_pos fun d hd => beq_iff_eq.mpr (mem_takeWhile_zero d hd),
    takeWhile_digits, List.append_nil]

theorem horner_rebase (base base' : Nat) (ds : List Nat) :
    horner base' (rebase base base' ds) = horner base ds := by
  rw [rebase, horner_append_of_zeros mem_takeWhile_zero, horner_digits]

theorem digits_horner {base : Nat} {ds : List Nat} (hbase : 1 < base) (h : ∀ d ∈ ds, d < base) :
    Nat.digits base (horner base ds) = (ds.dropWhile (· == 0)).reverse := by
  have hsplit := List.takeWhile_append_dropWhile (p := (· == 0)) (l := ds)
  have hvalue : horner base ds = Nat.ofDigits base (ds.dropWhile (· == 0)).reverse := by
    rw [← hsplit, horner_append_of_zeros mem_takeWhile_zero, horner_eq_ofDigits, hsplit]
  rw [hvalue]
  refine Nat.digits_ofDigits base hbase _ ?_ ?_
  · intro d hd
    exact h d (List.dropWhile_subset _ (List.mem_reverse.mp hd))
  · intro hne
    rw [List.getLast_reverse]
    simpa using List.head_dropWhile_not (· == 0) (List.reverse_eq_nil_iff.not.mp hne)

/-- Digits are the zeros in front and the digits of what they say. -/
theorem rebase_self {base : Nat} {ds : List Nat} (hbase : 1 < base) (h : ∀ d ∈ ds, d < base) :
    rebase base base ds = ds := by
  rw [rebase, digits_horner hbase h, List.reverse_reverse, List.takeWhile_append_dropWhile]

theorem rebase_rebase {base base' : Nat} {ds : List Nat} (hbase : 1 < base)
    (h : ∀ d ∈ ds, d < base) : rebase base' base (rebase base base' ds) = ds := by
  rw [rebase, takeWhile_rebase, horner_rebase]
  exact rebase_self hbase h

theorem rebase_lt {base base' d : Nat} {ds : List Nat} (hbase : 1 < base')
    (hd : d ∈ rebase base base' ds) : d < base' := by
  rw [rebase, List.mem_append] at hd
  rcases hd with hzero | hdigit
  · rw [mem_takeWhile_zero d hzero]
    exact Nat.lt_trans Nat.zero_lt_one hbase
  · exact Nat.digits_lt_base hbase (List.mem_reverse.mp hdigit)

theorem eq_map_digits {α : Type} {base : Nat} {write : Nat → List α} {symbol : Nat → α}
    (hbase : 1 < base)
    (hwrite : ∀ n, write n = if n = 0 then [] else write (n / base) ++ [symbol (n % base)])
    (n : Nat) : write n = (Nat.digits base n).reverse.map symbol := by
  induction n using Nat.strongRecOn with
  | ind n ih =>
    rw [hwrite]
    split
    · rename_i hzero
      simp [hzero]
    · rename_i hpos
      have hpos := Nat.pos_of_ne_zero hpos
      rw [ih (n / base) (Nat.div_lt_self hpos hbase), Nat.digits_def' hbase hpos,
        List.reverse_cons, List.map_append, List.map_singleton]

-- ---------------------------------------------------------------------------
-- The digits of a text
-- ---------------------------------------------------------------------------

theorem digitValue?_digit {d : Nat} (h : d < 58) : digitValue? (digit d) = some d := by
  revert d
  decide

theorem digitValue?_eq_some {c : Char} {d : Nat} :
    digitValue? c = some d ↔ c = digit d ∧ d < 58 := by
  constructor
  · intro h
    obtain ⟨hlt, hc, -⟩ := List.idxOf?_eq_some_iff.mp h
    refine ⟨?_, hlt⟩
    rw [digit, List.getD_eq_getElem?_getD, List.getElem?_eq_getElem hlt, hc, Option.getD_some]
  · rintro ⟨rfl, h⟩
    exact digitValue?_digit h

theorem digits_ok {position : Nat} {text : List Char} {ds : List Nat} :
    digits position text = .ok ds ↔ text = ds.map digit ∧ ∀ d ∈ ds, d < 58 := by
  induction text generalizing position ds with
  | nil => cases ds <;> simp [digits]
  | cons c rest ih =>
    rw [digits]
    cases hc : digitValue? c with
    | none =>
      simp only [reduceCtorEq, false_iff, not_and]
      rintro htext hlt
      cases ds with
      | nil => simp at htext
      | cons d ds =>
        obtain ⟨rfl, -⟩ := List.cons.inj htext
        rw [digitValue?_digit (hlt d List.mem_cons_self)] at hc
        contradiction
    | some d =>
      obtain ⟨rfl, hd⟩ := digitValue?_eq_some.mp hc
      rw [map_ok]
      constructor
      · rintro ⟨tail, htail, rfl⟩
        obtain ⟨rfl, hlt⟩ := ih.mp htail
        exact ⟨rfl, List.forall_mem_cons.mpr ⟨hd, hlt⟩⟩
      · rintro ⟨htext, hlt⟩
        cases ds with
        | nil => simp at htext
        | cons d' tail =>
          obtain ⟨hsame, htail⟩ := List.cons.inj htext
          obtain ⟨hd', htail'⟩ := List.forall_mem_cons.mp hlt
          have hvalue := digitValue?_digit hd'
          rw [← hsame, digitValue?_digit hd] at hvalue
          cases hvalue
          exact ⟨tail, ih.mpr ⟨htail, htail'⟩, rfl⟩

-- ---------------------------------------------------------------------------
-- Texts and bytes
-- ---------------------------------------------------------------------------

theorem ofNat_eq (n : Nat) : ofNat n = (Nat.digits 58 n).reverse.map digit :=
  eq_map_digits (by decide) (fun n => by rw [ofNat]) n

theorem bytesOfNat_eq (n : Nat) : bytesOfNat n = (Nat.digits 256 n).reverse.map UInt8.ofNat :=
  eq_map_digits (by decide) (fun n => by rw [bytesOfNat]) n

theorem map_ofNat_toNat (bytes : Bytes) : (bytes.map UInt8.toNat).map UInt8.ofNat = bytes := by
  simp [Function.comp_def]

theorem map_toNat_ofNat {ns : List Nat} (h : ∀ n ∈ ns, n < 256) :
    (ns.map UInt8.ofNat).map UInt8.toNat = ns := by
  rw [List.map_map]
  refine (List.map_congr_left fun n hn => ?_).trans (List.map_id _)
  exact UInt8.toNat_ofNat_of_lt' (h n hn)

theorem toNat_lt (bytes : Bytes) : ∀ n ∈ bytes.map UInt8.toNat, n < 256 := by
  intro n hn
  obtain ⟨b, -, rfl⟩ := List.mem_map.mp hn
  exact b.toNat_lt

theorem takeWhile_map_toNat (bytes : Bytes) :
    (bytes.map UInt8.toNat).takeWhile (· == 0) = (bytes.takeWhile (· == 0)).map UInt8.toNat := by
  rw [List.takeWhile_map]
  congr 2
  funext b
  exact Bool.eq_iff_iff.mpr (by simpa using UInt8.toNat_inj (b := 0))

theorem encodeChars_eq (bytes : Bytes) :
    encodeChars bytes = (rebase 256 58 (bytes.map UInt8.toNat)).map digit := by
  have hvalue : horner 256 (bytes.map UInt8.toNat) = Bytes.bigEndian bytes := by
    rw [horner, List.foldl_map, Bytes.bigEndian]
  have hzeros : ((bytes.map UInt8.toNat).takeWhile (· == 0)).map digit =
      (bytes.takeWhile (· == 0)).map fun _ => '1' := by
    rw [takeWhile_map_toNat, List.map_map]
    refine List.map_congr_left fun b hb => ?_
    have hzero : b.toNat = 0 := mem_takeWhile_zero _ (by
      rw [takeWhile_map_toNat]
      exact List.mem_map_of_mem hb)
    rw [Function.comp_apply, hzero]
    rfl
  rw [rebase, List.map_append, hvalue, hzeros, encodeChars, ofNat_eq]

theorem decodeChars_of_digits {text : List Char} {ds : List Nat} (h : digits 0 text = .ok ds) :
    decodeChars text = .ok ((rebase 58 256 ds).map UInt8.ofNat) := by
  have hzeros : (ds.takeWhile (· == 0)).map UInt8.ofNat =
      (ds.takeWhile (· == 0)).map fun _ => 0 := by
    refine List.map_congr_left fun d hd => ?_
    rw [mem_takeWhile_zero d hd]
    rfl
  rw [decodeChars, h, rebase, List.map_append, hzeros, ← bytesOfNat_eq]
  rfl

theorem decodeChars_ok {text : List Char} {bytes : Bytes} :
    decodeChars text = .ok bytes ↔ text = encodeChars bytes := by
  constructor
  · intro h
    obtain ⟨ds, hds, -⟩ := bind_ok.mp h
    obtain ⟨htext, hlt⟩ := digits_ok.mp hds
    rw [decodeChars_of_digits hds] at h
    cases h
    rw [encodeChars_eq, map_toNat_ofNat fun d => rebase_lt (by decide),
      rebase_rebase (by decide) hlt, htext]
  · rintro rfl
    have hds : digits 0 (encodeChars bytes) = .ok (rebase 256 58 (bytes.map UInt8.toNat)) :=
      digits_ok.mpr ⟨encodeChars_eq bytes, fun d => rebase_lt (by decide)⟩
    rw [decodeChars_of_digits hds, rebase_rebase (by decide) (toNat_lt bytes), map_ofNat_toNat]

theorem encodeChars_inj {bytes bytes' : Bytes} (h : encodeChars bytes = encodeChars bytes') :
    bytes = bytes' := by
  have hread := decodeChars_ok.mpr h
  rw [decodeChars_ok.mpr rfl] at hread
  exact Except.ok.inj hread

theorem decodeFixed_ok {n : Nat} {text : String} {a : FixedBytes n} :
    decodeFixed n text = .ok a ↔ Text.trim text.toList = encodeChars a.bytes := by
  rw [decodeFixed, bind_ok, ← decodeChars_ok]
  constructor
  · rintro ⟨bytes, hbytes, h⟩
    split at h
    · rename_i a' ha
      cases h
      rw [hbytes, FixedBytes.ofBytes?_eq_some_iff.mp ha]
    · contradiction
  · intro h
    refine ⟨a.bytes, h, ?_⟩
    rw [FixedBytes.ofBytes?_bytes]
    rfl

theorem decodeFixed_memoProgramAddress : decodeFixed 32 memoProgramAddress = .ok memoProgram := by
  rw [decodeFixed_ok]
  have h := congrArg String.toList encode_memoProgram
  rw [encode, String.toList_ofList] at h
  rw [h]
  decide

end SlotWallet.Base58
