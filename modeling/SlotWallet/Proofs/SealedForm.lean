import Mathlib.Logic.ExistsUnique
import SlotWallet.Proofs.SealedSeed

/-!
# Which byte forms open

Reading a byte form and opening what was read fails in one way only. It succeeds
exactly where the form has the one length and version and ends in the tag of the
bytes before it (`Genuine`). So those bytes leave a single tag that is accepted, and a
form whose version or tag was altered is refused.
-/

namespace SlotWallet.SealedSeed

variable {form password : Bytes} {iterations : UInt32} {s : SealedSeed}

-- ---------------------------------------------------------------------------
-- Reading
-- ---------------------------------------------------------------------------

theorem exists_eq_toBytes (hlength : form.length = 125) (hversion : form.head? = some 1) :
    ∃ s : SealedSeed, form = s.toBytes := by
  cases form with
  | nil => contradiction
  | cons v body =>
    have hv : v = version := Option.some.inj hversion
    have hbody : body.length = 124 := Nat.succ.inj hlength
    refine ⟨⟨⟨body.take 16, by simp [hbody]⟩, ⟨(body.drop 16).take 12, by simp [hbody]⟩,
      ⟨(body.drop 28).take 64, by simp [hbody]⟩, ⟨body.drop 92, by simp [hbody]⟩⟩, ?_⟩
    show v :: body = version :: (body.take 16 ++ (body.drop 16).take 12 ++
      (body.drop 28).take 64 ++ body.drop 92)
    have hnonce : (body.drop 16).drop 12 = body.drop 28 := List.drop_drop
    have hciphertext : (body.drop 28).drop 64 = body.drop 92 := List.drop_drop
    rw [hv, List.append_assoc, List.append_assoc, ← hciphertext, List.take_append_drop,
      ← hnonce, List.take_append_drop, List.take_append_drop]

theorem length_of_ofBytes (h : ofBytes form = .ok s) : form.length = 125 ∧ form.head? = some 1 := by
  unfold ofBytes ofBytes? at h
  cases form with
  | nil => contradiction
  | cons v body =>
    by_cases hbody : v = version ∧ body.length = 124
    · exact ⟨congrArg Nat.succ hbody.2, congrArg some hbody.1⟩
    · simp only [dif_neg hbody] at h
      contradiction

theorem ofBytes_ok : ofBytes form = .ok s ↔ form = s.toBytes := by
  constructor
  · intro h
    obtain ⟨hlength, hversion⟩ := length_of_ofBytes h
    obtain ⟨t, rfl⟩ := exists_eq_toBytes hlength hversion
    rw [ofBytes_toBytes] at h
    exact congrArg toBytes (Except.ok.inj h)
  · rintro rfl
    exact ofBytes_toBytes s

theorem ofBytes_error {e : WalletError} (h : ofBytes form = .error e) : e = .crypto := by
  unfold ofBytes at h
  split at h
  · contradiction
  · exact (Except.error.inj h).symm

theorem drop_salt (s : SealedSeed) :
    s.toBytes.drop 17 = s.nonce.bytes ++ (s.ciphertext.bytes ++ s.tag.bytes) := by
  simp [toBytes, s.salt.length_eq]

theorem drop_nonce (s : SealedSeed) : s.toBytes.drop 29 = s.ciphertext.bytes ++ s.tag.bytes := by
  rw [show 29 = 17 + 12 from rfl, ← List.drop_drop, drop_salt]
  simp [s.nonce.length_eq]

theorem drop_ciphertext (s : SealedSeed) : s.toBytes.drop 93 = s.tag.bytes := by
  rw [show 93 = 29 + 64 from rfl, ← List.drop_drop, drop_nonce]
  simp [s.ciphertext.length_eq]

-- ---------------------------------------------------------------------------
-- Opening
-- ---------------------------------------------------------------------------

def heldSeed (s : SealedSeed) (password : Bytes) (iterations : UInt32) : Seed :=
  (s.ciphertext.xor
    (subkey (masterKey password s.salt iterations) encryptionLabel s.nonce)).firstHalf

def expectedTag (s : SealedSeed) (password : Bytes) (iterations : UInt32) : FixedBytes 32 :=
  computeTag (masterKey password s.salt iterations) s.nonce s.ciphertext

theorem openSeed_eq (s : SealedSeed) (password : Bytes) (iterations : UInt32) :
    s.openSeed password iterations =
      if password ≠ [] ∧ iterations ≠ 0 ∧ s.expectedTag password iterations = s.tag then
        .ok (s.heldSeed password iterations)
      else .error .crypto := by
  by_cases hrefused : password = [] ∨ iterations = 0
  · have hnot : ¬(password ≠ [] ∧ iterations ≠ 0 ∧
        s.expectedTag password iterations = s.tag) := by
      rintro ⟨hp, hi, -⟩
      exact hrefused.elim hp hi
    rw [if_neg hnot, openSeed, openBytes, if_pos hrefused]
    rfl
  · obtain ⟨hp, hi⟩ := not_or.mp hrefused
    by_cases htag : s.expectedTag password iterations = s.tag
    · rw [if_pos ⟨hp, hi, htag⟩, openSeed, openBytes, if_neg hrefused]
      simp only [expectedTag] at htag
      rw [if_pos htag]
      rfl
    · rw [if_neg fun h => htag h.2.2, openSeed, openBytes, if_neg hrefused]
      simp only [expectedTag] at htag
      rw [if_neg htag]
      rfl

theorem openSeed_ok {seed : Seed} :
    s.openSeed password iterations = .ok seed ↔
      password ≠ [] ∧ iterations ≠ 0 ∧ s.expectedTag password iterations = s.tag ∧
        seed = s.heldSeed password iterations := by
  rw [openSeed_eq]
  split
  · rename_i h
    simp [h, eq_comm]
  · rename_i h
    simp only [reduceCtorEq, false_iff]
    rintro ⟨hp, hi, htag, -⟩
    exact h ⟨hp, hi, htag⟩

-- ---------------------------------------------------------------------------
-- Forms
-- ---------------------------------------------------------------------------

def openForm (form password : Bytes) (iterations : UInt32) : Except WalletError Seed := do
  (← ofBytes form).openSeed password iterations

section Parts

variable (form password : Bytes) (iterations : UInt32)

def formSalt : Bytes := (form.drop 1).take 16

def formNonce : Bytes := (form.drop 17).take 12

def formCiphertext : Bytes := (form.drop 29).take 64

def formTag : Bytes := form.drop 93

def formMaster : Bytes := (Hmac.pbkdf2 password (formSalt form) iterations.toNat).toBytes

def formSigned : Bytes :=
  let tagKey := (Hmac.sign (formMaster form password iterations)
    ([0x4d, 0x41, 0x43] ++ formNonce form)).toBytes
  (Hmac.sign tagKey (formNonce form ++ formCiphertext form)).toBytes

def formPlaintext : Bytes :=
  let encryptionKey := (Hmac.sign (formMaster form password iterations)
    ([0x45, 0x4e, 0x43] ++ formNonce form)).toBytes
  (formCiphertext form).zipWith (· ^^^ ·) encryptionKey

/-- What it takes for a byte form to open. -/
structure Genuine : Prop where
  length_eq : form.length = 125
  version_eq : form.head? = some 1
  password_ne : password ≠ []
  iterations_ne : iterations ≠ 0
  tag_eq : formTag form = (formSigned form password iterations).take 32

end Parts

theorem formSalt_toBytes (s : SealedSeed) : formSalt s.toBytes = s.salt.bytes := by
  simp [formSalt, toBytes, s.salt.length_eq]

theorem formNonce_toBytes (s : SealedSeed) : formNonce s.toBytes = s.nonce.bytes := by
  rw [formNonce, drop_salt]
  simp [s.nonce.length_eq]

theorem formCiphertext_toBytes (s : SealedSeed) :
    formCiphertext s.toBytes = s.ciphertext.bytes := by
  rw [formCiphertext, drop_nonce]
  simp [s.ciphertext.length_eq]

theorem formSigned_toBytes (s : SealedSeed) :
    (formSigned s.toBytes password iterations).take 32 =
      (s.expectedTag password iterations).bytes := by
  simp only [formSigned, formMaster, formSalt_toBytes, formNonce_toBytes, formCiphertext_toBytes]
  rfl

theorem formPlaintext_toBytes (s : SealedSeed) :
    (formPlaintext s.toBytes password iterations).take 32 =
      (s.heldSeed password iterations).bytes := by
  simp only [formPlaintext, formMaster, formSalt_toBytes, formNonce_toBytes, formCiphertext_toBytes]
  rfl

theorem genuine_toBytes :
    Genuine s.toBytes password iterations ↔
      password ≠ [] ∧ iterations ≠ 0 ∧ s.expectedTag password iterations = s.tag := by
  constructor
  · rintro ⟨-, -, hp, hi, htag⟩
    rw [formTag, drop_ciphertext, formSigned_toBytes] at htag
    exact ⟨hp, hi, (FixedBytes.ext_bytes htag).symm⟩
  · rintro ⟨hp, hi, htag⟩
    refine ⟨s.length_toBytes, rfl, hp, hi, ?_⟩
    rw [formTag, drop_ciphertext, formSigned_toBytes, htag]

theorem openForm_ok {seed : Seed} :
    openForm form password iterations = .ok seed ↔
      Genuine form password iterations ∧
        seed.bytes = (formPlaintext form password iterations).take 32 := by
  constructor
  · intro h
    obtain ⟨s, hs, hopen⟩ := bind_ok.mp h
    obtain rfl := ofBytes_ok.mp hs
    obtain ⟨hp, hi, htag, rfl⟩ := openSeed_ok.mp hopen
    exact ⟨genuine_toBytes.mpr ⟨hp, hi, htag⟩, (formPlaintext_toBytes s).symm⟩
  · rintro ⟨hgenuine, hseed⟩
    obtain ⟨s, rfl⟩ := exists_eq_toBytes hgenuine.length_eq hgenuine.version_eq
    obtain ⟨hp, hi, htag⟩ := genuine_toBytes.mp hgenuine
    rw [formPlaintext_toBytes] at hseed
    exact bind_ok.mpr ⟨s, ofBytes_toBytes s,
      openSeed_ok.mpr ⟨hp, hi, htag, FixedBytes.ext_bytes hseed⟩⟩

theorem openForm_error {e : WalletError} (h : openForm form password iterations = .error e) :
    e = .crypto := by
  obtain hread | ⟨s, -, hopen⟩ := bind_error.mp h
  · exact ofBytes_error hread
  · rw [openSeed_eq] at hopen
    split at hopen
    · contradiction
    · exact (Except.error.inj hopen).symm

theorem openForm_of_not_genuine (h : ¬Genuine form password iterations) :
    openForm form password iterations = .error .crypto := by
  cases hopen : openForm form password iterations with
  | ok seed => exact absurd (openForm_ok.mp hopen).1 h
  | error e => rw [openForm_error hopen]

theorem exists_openForm (h : Genuine form password iterations) :
    ∃ seed, openForm form password iterations = .ok seed := by
  obtain ⟨s, rfl⟩ := exists_eq_toBytes h.length_eq h.version_eq
  exact ⟨s.heldSeed password iterations,
    openForm_ok.mpr ⟨h, (formPlaintext_toBytes s).symm⟩⟩

-- ---------------------------------------------------------------------------
-- Altered forms
-- ---------------------------------------------------------------------------

/-- The bytes between the version and the tag, on which the tag depends. -/
def formBody (form : Bytes) : Bytes := (form.drop 1).take 92

theorem formSigned_congr {form' : Bytes} (h : formBody form' = formBody form) :
    formSigned form' password iterations = formSigned form password iterations := by
  have hsalt : ∀ f : Bytes, formSalt f = (formBody f).take 16 := fun f => by
    simp [formSalt, formBody, List.take_take]
  have hnonce : ∀ f : Bytes, formNonce f = ((formBody f).drop 16).take 12 := fun f => by
    simp [formNonce, formBody, List.drop_take, List.take_take]
  have hciphertext : ∀ f : Bytes, formCiphertext f = (formBody f).drop 28 := fun f => by
    simp [formCiphertext, formBody, List.drop_take]
  simp only [formSigned, formMaster, hsalt, hnonce, hciphertext, h]

theorem form_eq (h : form.head? = some 1) : form = 1 :: (formBody form ++ formTag form) := by
  cases form with
  | nil => contradiction
  | cons v rest =>
    have hv : v = 1 := Option.some.inj h
    have hrest : formBody (v :: rest) ++ formTag (v :: rest) = rest := List.take_append_drop 92 rest
    rw [hrest, hv]

/-- Between the version and the tag there is nothing that two genuine forms with one
body could differ in. -/
theorem eq_of_genuine {form' : Bytes} (h : Genuine form password iterations)
    (h' : Genuine form' password iterations) (hbody : formBody form' = formBody form) :
    form' = form := by
  have htag : formTag form' = formTag form := by
    rw [h'.tag_eq, h.tag_eq, formSigned_congr hbody]
  rw [form_eq h'.version_eq, form_eq h.version_eq, hbody, htag]

theorem formBody_append (head : FixedBytes 93) (tag : FixedBytes 32) :
    formBody (head.bytes ++ tag.bytes) = formBody head.bytes := by
  rw [formBody, List.drop_append_of_le_length (by rw [head.length_eq]; decide),
    List.take_append_of_le_length (by simp [head.length_eq])]
  rfl

theorem formTag_append (head : FixedBytes 93) (tag : FixedBytes 32) :
    formTag (head.bytes ++ tag.bytes) = tag.bytes := by
  simp [formTag, head.length_eq]

theorem head?_append (head : FixedBytes 93) (tag : FixedBytes 32) :
    (head.bytes ++ tag.bytes).head? = head.bytes.head? := by
  obtain ⟨bytes, hlength⟩ := head
  cases bytes with
  | nil => contradiction
  | cons v rest => rfl

theorem genuine_append {head : FixedBytes 93} {tag : FixedBytes 32} :
    Genuine (head.bytes ++ tag.bytes) password iterations ↔
      (head.bytes.head? = some 1 ∧ password ≠ [] ∧ iterations ≠ 0) ∧
        tag.bytes = (formSigned head.bytes password iterations).take 32 := by
  have hsigned : formSigned (head.bytes ++ tag.bytes) password iterations =
      formSigned head.bytes password iterations := formSigned_congr (formBody_append head tag)
  constructor
  · intro h
    have htag := h.tag_eq
    rw [formTag_append, hsigned] at htag
    exact ⟨⟨head?_append head tag ▸ h.version_eq, h.password_ne, h.iterations_ne⟩, htag⟩
  · rintro ⟨⟨hversion, hp, hi⟩, htag⟩
    refine ⟨?_, (head?_append head tag).trans hversion, hp, hi, ?_⟩
    · rw [List.length_append, head.length_eq, tag.length_eq]
    · rw [formTag_append, hsigned, htag]

theorem existsUnique_tag (head : FixedBytes 93) (password : Bytes) (iterations : UInt32) :
    (∃! tag : FixedBytes 32, ∃ seed, openForm (head.bytes ++ tag.bytes) password iterations =
      .ok seed) ↔ head.bytes.head? = some 1 ∧ password ≠ [] ∧ iterations ≠ 0 := by
  constructor
  · rintro ⟨tag, ⟨seed, hopen⟩, -⟩
    exact (genuine_append.mp (openForm_ok.mp hopen).1).1
  · intro hallowed
    refine ⟨⟨(formSigned head.bytes password iterations).take 32, rfl⟩, ?_, ?_⟩
    · exact exists_openForm (genuine_append.mpr ⟨hallowed, rfl⟩)
    · rintro tag ⟨seed, hopen⟩
      exact FixedBytes.ext_bytes (genuine_append.mp (openForm_ok.mp hopen).1).2

/-- A byte form opens or fails in one way. It opens exactly if it is genuine, and then
to the seed it holds; so one tag goes with the bytes before it, no other version and
no other tag are accepted in its place, and what is refused looks the same whatever
it is and whatever the password. -/
theorem opens_iff_genuine (form password : Bytes) (iterations : UInt32) :
    ((∃ seed, openForm form password iterations = .ok seed) ∨
      openForm form password iterations = .error .crypto) ∧
    (∀ seed, openForm form password iterations = .ok seed ↔
      Genuine form password iterations ∧
        seed.bytes = (formPlaintext form password iterations).take 32) ∧
    (∀ head : FixedBytes 93,
      (∃! tag : FixedBytes 32, ∃ seed, openForm (head.bytes ++ tag.bytes) password iterations =
        .ok seed) ↔ head.bytes.head? = some 1 ∧ password ≠ [] ∧ iterations ≠ 0) ∧
    (∀ altered : Bytes, Genuine form password iterations → formBody altered = formBody form →
      altered ≠ form → openForm altered password iterations = .error .crypto) ∧
    ∀ (form' password' : Bytes) (iterations' : UInt32), ¬Genuine form password iterations →
      ¬Genuine form' password' iterations' →
        openForm form password iterations = openForm form' password' iterations' := by
  refine ⟨?_, fun seed => openForm_ok, fun head => existsUnique_tag head password iterations,
    ?_, ?_⟩
  · by_cases h : Genuine form password iterations
    · exact .inl (exists_openForm h)
    · exact .inr (openForm_of_not_genuine h)
  · intro altered h hbody hne
    exact openForm_of_not_genuine fun haltered => hne (eq_of_genuine h haltered hbody)
  · intro form' password' iterations' h h'
    rw [openForm_of_not_genuine h, openForm_of_not_genuine h']

end SlotWallet.SealedSeed
