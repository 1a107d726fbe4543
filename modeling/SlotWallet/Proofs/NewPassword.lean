import SlotWallet.Command.Create
import SlotWallet.Proofs.Command

/-!
# A new password is confirmed

The answers at the prompts for a new password are read from the left: an empty one is passed
over alone, and one that the next does not repeat is passed over with it. The first that is
neither is the password (`newPassword_confirmed`).
-/

namespace SlotWallet

def Host.prompted (host : Host) (prompt : String) : Host := (host.print prompt).nextPassword

namespace Command

-- ---------------------------------------------------------------------------
-- Prompts
-- ---------------------------------------------------------------------------

def askedTwice (host : Host) : Host :=
  (host.prompted "Enter password: ").prompted "Confirm password: "

/-- The loop of prompts, with no bound on its rounds: what it comes to and the host that it
leaves. A round is begun again after a complaint, and a prompt without an answer fails. -/
inductive Reads : Host → Except CommandError String × Host → Prop
  | unanswered {host : Host} : host.passwords = [] →
      Reads host (.error .noPassword, host.prompted "Enter password: ")
  | empty {host : Host} {rest : List String} {outcome : Except CommandError String × Host} :
      host.passwords = "" :: rest →
      Reads ((host.prompted "Enter password: ").complain "Password must not be empty") outcome →
      Reads host outcome
  | unconfirmed {host : Host} {password : String} : host.passwords = [password] → password ≠ "" →
      Reads host (.error .noPassword, askedTwice host)
  | differing {host : Host} {first second : String} {rest : List String}
      {outcome : Except CommandError String × Host} :
      host.passwords = first :: second :: rest → first ≠ "" → first ≠ second →
      Reads ((askedTwice host).complain "Passwords do not match") outcome →
      Reads host outcome
  | confirmed {host : Host} {password : String} {rest : List String} :
      host.passwords = password :: password :: rest → password ≠ "" →
      Reads host (.ok password, askedTwice host)

section

variable {host : Host} {prompt answer : String} {rest : List String}

theorem askPassword_nil (h : host.passwords = []) :
    runFrom (askPassword prompt) host = (.error .noPassword, host.prompted prompt) := by
  rw [runFrom_askPassword, h, Host.prompted]

theorem askPassword_cons (h : host.passwords = answer :: rest) :
    runFrom (askPassword prompt) host = (.ok answer, host.prompted prompt) := by
  rw [runFrom_askPassword, h, Host.prompted]

@[simp] theorem passwords_complain (text : String) :
    (host.complain text).passwords = host.passwords := rfl

@[simp] theorem passwords_prompted : (host.prompted prompt).passwords = host.passwords.tail := rfl

@[simp] theorem passwords_askedTwice : (askedTwice host).passwords = host.passwords.tail.tail := rfl

end

/-- There is one try more than there are answers, so the prompts fail before the tries end. -/
theorem newPasswordWithin_reads (tries : Nat) (host : Host) (h : host.passwords.length < tries) :
    Reads host (runFrom (newPasswordWithin tries) host) := by
  induction tries generalizing host with
  | zero => contradiction
  | succ tries ih =>
    unfold newPasswordWithin
    cases hanswers : host.passwords with
    | nil =>
      rw [runFrom_bind_error (askPassword_nil hanswers)]
      exact .unanswered hanswers
    | cons first rest =>
      rw [hanswers, List.length_cons] at h
      rw [runFrom_bind_ok (askPassword_cons hanswers)]
      have hrest : (host.prompted "Enter password: ").passwords = rest := by
        simp [hanswers]
      by_cases hempty : first = ""
      · subst hempty
        rw [if_pos rfl, runFrom_bind_ok (runFrom_complain _ _)]
        apply Reads.empty hanswers
        apply ih
        simpa [hanswers] using h
      rw [if_neg hempty]
      cases rest with
      | nil =>
        rw [runFrom_bind_error (askPassword_nil hrest)]
        exact .unconfirmed hanswers hempty
      | cons second rest =>
        rw [runFrom_bind_ok (askPassword_cons hrest)]
        by_cases hsame : first = second
        · subst hsame
          rw [if_pos rfl]
          exact .confirmed hanswers hempty
        · rw [if_neg hsame, runFrom_bind_ok (runFrom_complain _ _)]
          apply Reads.differing hanswers hempty hsame
          apply ih
          simp [hanswers] at h ⊢
          omega

theorem newPassword_reads (host : Host) : Reads host (runFrom newPassword host) :=
  newPasswordWithin_reads (host.passwords.length + 1) host (Nat.lt_succ_self _)

-- ---------------------------------------------------------------------------
-- Answers
-- ---------------------------------------------------------------------------

/-- Answers that are passed over: an empty one alone, any other together with one that does not
repeat it. -/
inductive PassedOver : List String → Prop
  | nil : PassedOver []
  | empty {answers : List String} : PassedOver answers → PassedOver ("" :: answers)
  | differing {first second : String} {answers : List String} : first ≠ "" → first ≠ second →
      PassedOver answers → PassedOver (first :: second :: answers)

/-- Behind answers that are passed over comes a password, and the same once more. -/
def GivenTwice (answers : List String) (password : String) (rest : List String) : Prop :=
  ∃ passed, PassedOver passed ∧ password ≠ "" ∧ answers = passed ++ password :: password :: rest

section

variable {first second password : String} {answers rest : List String}

theorem not_givenTwice_nil : ¬GivenTwice [] password rest := by
  rintro ⟨passed, -, -, h⟩
  simp at h

theorem not_givenTwice_single (h : first ≠ "") : ¬GivenTwice [first] password rest := by
  rintro ⟨passed, hpassed, -, hanswers⟩
  cases hpassed <;> simp_all

theorem givenTwice_empty :
    GivenTwice ("" :: answers) password rest ↔ GivenTwice answers password rest := by
  constructor
  · rintro ⟨passed, hpassed, hne, hanswers⟩
    cases hpassed with
    | nil => simp_all
    | empty hpassed => exact ⟨_, hpassed, hne, by simpa using hanswers⟩
    | differing hfirst _ _ => simp_all
  · rintro ⟨passed, hpassed, hne, rfl⟩
    exact ⟨_, .empty hpassed, hne, rfl⟩

theorem givenTwice_differing (hfirst : first ≠ "") (hsecond : first ≠ second) :
    GivenTwice (first :: second :: answers) password rest ↔ GivenTwice answers password rest := by
  constructor
  · rintro ⟨passed, hpassed, hne, hanswers⟩
    cases hpassed with
    | nil => simp_all
    | empty hpassed => simp_all
    | differing _ _ hpassed => exact ⟨_, hpassed, hne, by simp_all⟩
  · rintro ⟨passed, hpassed, hne, rfl⟩
    exact ⟨_, .differing hfirst hsecond hpassed, hne, rfl⟩

theorem givenTwice_twice (hfirst : first ≠ "") :
    GivenTwice (first :: first :: answers) password rest ↔ password = first ∧ rest = answers := by
  constructor
  · rintro ⟨passed, hpassed, hne, hanswers⟩
    cases hpassed with
    | nil => simp_all
    | empty _ => simp_all
    | differing _ hdiffer _ =>
      simp only [List.cons_append, List.cons.injEq] at hanswers
      obtain ⟨rfl, rfl, -⟩ := hanswers
      contradiction
  · rintro ⟨rfl, rfl⟩
    exact ⟨[], .nil, hfirst, rfl⟩

end

namespace Reads

variable {host : Host} {outcome : Except CommandError String × Host}

theorem ok_iff (h : Reads host outcome) (password : String) (rest : List String) :
    outcome.1 = .ok password ∧ outcome.2.passwords = rest ↔
      GivenTwice host.passwords password rest := by
  induction h with
  | unanswered hanswers => simp [hanswers, not_givenTwice_nil]
  | empty hanswers _ ih => simpa [hanswers, givenTwice_empty] using ih
  | unconfirmed hanswers hne => simp [hanswers, not_givenTwice_single hne]
  | differing hanswers hne hdiffer _ ih =>
    simpa [hanswers, givenTwice_differing hne hdiffer] using ih
  | confirmed hanswers hne => simp [hanswers, givenTwice_twice hne, eq_comm]

theorem error_eq {e : CommandError} (h : Reads host outcome) (herror : outcome.1 = .error e) :
    e = .noPassword ∧ outcome.2.passwords = [] := by
  induction h with
  | unanswered hanswers => simp_all
  | empty _ _ ih => exact ih herror
  | unconfirmed hanswers _ => simp_all
  | differing _ _ _ _ ih => exact ih herror
  | confirmed _ _ => contradiction

end Reads

/-- Whatever the answers, the prompts for a new password come to an end. They give a password
exactly if it is confirmed behind answers that are passed over, and leave what is behind it.
Otherwise they use up all answers and fail for want of another. -/
theorem newPassword_confirmed (host : Host) :
    ∃ result next, runFrom newPassword host = (result, next) ∧ Reads host (result, next) ∧
      (∀ password rest, result = .ok password ∧ next.passwords = rest ↔
        GivenTwice host.passwords password rest) ∧
      ((∀ password rest, ¬GivenTwice host.passwords password rest) ↔
        result = .error .noPassword ∧ next.passwords = []) := by
  obtain ⟨result, next, hrun⟩ : ∃ result next, runFrom newPassword host = (result, next) :=
    ⟨_, _, rfl⟩
  have hreads : Reads host (result, next) := hrun ▸ newPassword_reads host
  refine ⟨result, next, hrun, hreads, hreads.ok_iff, ?_⟩
  constructor
  · intro hnone
    cases result with
    | error e =>
      obtain ⟨rfl, hleft⟩ := hreads.error_eq rfl
      exact ⟨rfl, hleft⟩
    | ok password =>
      have hgiven := (hreads.ok_iff password next.passwords).mp ⟨rfl, rfl⟩
      exact absurd hgiven (hnone password next.passwords)
  · rintro ⟨rfl, -⟩ password rest hgiven
    obtain ⟨hok, -⟩ := (hreads.ok_iff password rest).mpr hgiven
    contradiction

end Command

end SlotWallet
