import SlotWallet.Entropy

/-!
# When a computation succeeds

The laws by which the success of a computation is read as the success of its
steps, for results, for computations that draw from the random source, and for those
that may fail over a state.
-/

namespace SlotWallet

section Results

variable {ε ε' α β : Type}

theorem bind_ok {x : Except ε α} {f : α → Except ε β} {b : β} :
    x >>= f = .ok b ↔ ∃ a, x = .ok a ∧ f a = .ok b := by
  cases x <;> simp [bind, Except.bind]

theorem bind_error {x : Except ε α} {f : α → Except ε β} {e : ε} :
    x >>= f = .error e ↔ x = .error e ∨ ∃ a, x = .ok a ∧ f a = .error e := by
  cases x <;> simp [bind, Except.bind]

theorem pure_ok {a b : α} : (pure a : Except ε α) = .ok b ↔ a = b := by
  simp [pure, Except.pure]

theorem map_ok {x : Except ε α} {f : α → β} {b : β} :
    x.map f = .ok b ↔ ∃ a, x = .ok a ∧ f a = b := by
  cases x <;> simp [Except.map]

theorem mapError_ok {x : Except ε α} {f : ε → ε'} {a : α} : x.mapError f = .ok a ↔ x = .ok a := by
  cases x with
  | error e => exact ⟨nofun, nofun⟩
  | ok a' =>
    change Except.ok a' = Except.ok a ↔ _
    simp

theorem mapError_error {x : Except ε α} {f : ε → ε'} {e' : ε'} :
    x.mapError f = .error e' ↔ ∃ e, x = .error e ∧ f e = e' := by
  cases x with
  | error e =>
    change Except.error (f e) = Except.error e' ↔ _
    simp
  | ok a => exact ⟨nofun, nofun⟩

theorem exists_ok {x : Except ε α} (h : x.isOk = true) : ∃ a, x = .ok a := by
  cases x with
  | error e => contradiction
  | ok a => exact ⟨a, rfl⟩

end Results

theorem run_bind {ε σ α β : Type} (x : ExceptT ε (StateM σ) α) (f : α → ExceptT ε (StateM σ) β)
    (s : σ) :
    (x >>= f).run.run s = match x.run.run s with
      | (.ok a, next) => (f a).run.run next
      | (.error e, next) => (.error e, next) := by
  obtain ⟨result, next, hx⟩ : ∃ result next, x.run.run s = (result, next) := ⟨_, _, rfl⟩
  rw [hx, ExceptT.run_bind, StateT.run_bind, hx]
  cases result <;> rfl

namespace Drawing

variable {α β : Type} {source rest : Bytes}

theorem bind_ok {x : Drawing α} {f : α → Drawing β} {b : β} :
    (x >>= f) source = .ok (b, rest) ↔
      ∃ a middle, x source = .ok (a, middle) ∧ f a middle = .ok (b, rest) := by
  simp only [bind, StateT.bind, Except.bind]
  cases x source with
  | error e => simp
  | ok drawn =>
    constructor
    · intro h
      exact ⟨drawn.1, drawn.2, rfl, h⟩
    · rintro ⟨a, middle, ha, hf⟩
      cases ha
      exact hf

theorem pure_ok {a b : α} :
    (pure a : Drawing α) source = .ok (b, rest) ↔ a = b ∧ source = rest := by
  change Except.ok (a, source) = Except.ok (b, rest) ↔ _
  simp

end Drawing

theorem draw_ok {n : Nat} {source rest : Bytes} {bytes : FixedBytes n} :
    draw n source = .ok (bytes, rest) ↔ source = bytes.bytes ++ rest := by
  constructor
  · intro h
    unfold draw at h
    split at h
    · rename_i taken ht
      cases h
      rw [← FixedBytes.ofBytes?_eq_some_iff.mp ht, List.take_append_drop]
    · contradiction
  · rintro rfl
    exact draw_append bytes rest

end SlotWallet
