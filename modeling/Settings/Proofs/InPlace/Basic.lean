/-
Settings/Proofs/InPlace/Basic.lean

Computations that change a state as they go.  Where one fails, the state is
left as it was at that moment: nothing is taken back.  That a failure changes
nothing is then something to be proved, about every place where the
computation can fail.

`outcome m s` is what `m` gives and the state that it leaves.  A computation
does all or nothing where

    outcome m s  =  wholly s (f s)

for a function `f` that returns a new state if it succeeds.  Three rules lead
to such equations.  What comes before a step that does all or nothing must not
change anything (`outcome_lift_bind`), and what follows it must not fail
(`outcome_bind_wholly`); and a part of the state can be lent to a computation
that does all or nothing with it (`outcome_lend`).
-/

namespace Settings

/-- A computation that changes a state in place. -/
abbrev InPlace (σ ε α : Type) := ExceptT ε (StateM σ) α

namespace InPlace

variable {σ τ ε δ α β : Type}

/-- What a computation gives, and the state that it leaves. -/
def outcome (m : InPlace σ ε α) (s : σ) : Except ε α × σ := m.run.run s

/-! ### Results -/

@[simp] theorem ok_bind (a : α) (f : α → Except ε β) : (Except.ok a >>= f) = f a := rfl

@[simp] theorem map_map {γ : Type} (r : Except ε α) (f : α → β) (g : β → γ) :
    (r.map f).map g = r.map fun a => g (f a) := by
  cases r <;> rfl

theorem exists_of_bind_eq_ok {r : Except ε α} {f : α → Except ε β} {b : β}
    (h : (r >>= f) = .ok b) : ∃ a, r = .ok a ∧ f a = .ok b := by
  cases r with
  | error e => cases h
  | ok a => exact ⟨a, rfl, h⟩

theorem exists_of_map_eq_ok {r : Except ε α} {f : α → β} {b : β} (h : r.map f = .ok b) :
    ∃ a, r = .ok a ∧ f a = b := by
  cases r with
  | error e => cases h
  | ok a => exact ⟨a, rfl, Except.ok.inj h⟩

/-- Computations that are the same up to what is made of their results fail alike
or succeed alike. -/
theorem cases_of_map_eq {β γ : Type} {r : Except ε α} {r' : Except ε β} {f : α → γ} {g : β → γ}
    (h : r.map f = r'.map g) :
    (∃ e, r = .error e ∧ r' = .error e) ∨ ∃ a b, r = .ok a ∧ r' = .ok b ∧ f a = g b := by
  cases r with
  | error e =>
    cases r' with
    | error e' => exact .inl ⟨e, rfl, congrArg Except.error (Except.error.inj h).symm⟩
    | ok b => cases h
  | ok a =>
    cases r' with
    | error e' => cases h
    | ok b => exact .inr ⟨a, b, rfl, rfl, Except.ok.inj h⟩

/-! ### Steps -/

@[simp] theorem outcome_pure (a : α) (s : σ) :
    outcome (pure a : InPlace σ ε α) s = (.ok a, s) := rfl

@[simp] theorem outcome_get (s : σ) : outcome (get : InPlace σ ε σ) s = (.ok s, s) := rfl

@[simp] theorem outcome_set (s t : σ) :
    outcome (set t : InPlace σ ε PUnit) s = (.ok ⟨⟩, t) := rfl

@[simp] theorem outcome_lift (r : Except ε α) (s : σ) :
    outcome (liftM r : InPlace σ ε α) s = (r, s) := rfl

/-- A failure ends the computation, and leaves the state that there is. -/
@[simp] theorem outcome_bind (m : InPlace σ ε α) (f : α → InPlace σ ε β) (s : σ) :
    outcome (m >>= f) s =
      match outcome m s with
      | (.ok a, t) => outcome (f a) t
      | (.error e, t) => (.error e, t) := by
  show (match outcome m s with | (r, t) => outcome (ExceptT.mk (ExceptT.bindCont f r)) t) = _
  rcases outcome m s with ⟨r | a, t⟩ <;> rfl

@[simp] theorem outcome_map (f : α → β) (m : InPlace σ ε α) (s : σ) :
    outcome (f <$> m) s = ((outcome m s).1.map f, (outcome m s).2) := by
  show outcome (m >>= fun a => pure (f a)) s = _
  rw [outcome_bind]
  rcases outcome m s with ⟨r | a, t⟩ <;> rfl

@[simp] theorem outcome_adapt (f : ε → δ) (m : InPlace σ ε α) (s : σ) :
    outcome (ExceptT.adapt f m : InPlace σ δ α) s
      = ((outcome m s).1.mapError f, (outcome m s).2) := rfl

/-! ### All or nothing -/

/-- What comes out, and what is left, where success gives a new state and
failure keeps the old one. -/
def wholly (s : σ) : Except ε (σ × α) → Except ε α × σ
  | .ok (t, a) => (.ok a, t)
  | .error e => (.error e, s)

variable {s t : σ} {r : Except ε (σ × α)}

@[simp] theorem wholly_ok (s t : σ) (a : α) :
    wholly s (.ok (t, a) : Except ε (σ × α)) = (.ok a, t) := rfl

@[simp] theorem wholly_error (s : σ) (e : ε) :
    wholly s (.error e : Except ε (σ × α)) = (.error e, s) := rfl

/-- A failure changes nothing. -/
theorem eq_of_wholly_eq_error {e : ε} (h : wholly s r = (.error e, t)) : t = s := by
  cases r with
  | error e' => exact (congrArg Prod.snd h).symm
  | ok p => cases congrArg Prod.fst h

theorem wholly_eq_ok_iff {a : α} : wholly s r = (.ok a, t) ↔ r = .ok (t, a) := by
  cases r with
  | error e => simp
  | ok p =>
    obtain ⟨t', a'⟩ := p
    simp [and_comm]

/-- What follows a step that does all or nothing must not fail. -/
theorem outcome_bind_wholly {m : InPlace σ ε α} {f : α → InPlace σ ε β} {b : α → σ → β}
    {u : α → σ → σ} (hm : outcome m s = wholly s r)
    (hf : ∀ a t, outcome (f a) t = (.ok (b a t), u a t)) :
    outcome (m >>= f) s = wholly s (r.map fun p => (u p.2 p.1, b p.2 p.1)) := by
  rw [outcome_bind, hm]
  cases r with
  | error e => rfl
  | ok p => exact hf p.2 p.1

/-- Other answers. -/
theorem outcome_map_wholly {m : InPlace σ ε α} (f : α → β) (hm : outcome m s = wholly s r) :
    outcome (f <$> m) s = wholly s (r.map fun p => (p.1, f p.2)) := by
  rw [outcome_map, hm]
  cases r <;> rfl

/-- What comes before it must not change anything. -/
theorem outcome_lift_bind {p : Except ε α} {f : α → InPlace σ ε β}
    {g : α → Except ε (σ × β)} (hf : ∀ a, outcome (f a) s = wholly s (g a)) :
    outcome (liftM p >>= f) s = wholly s (p >>= g) := by
  rw [outcome_bind, outcome_lift]
  cases p with
  | error e => rfl
  | ok a => exact hf a

/-- Other errors. -/
theorem outcome_adapt_wholly {m : InPlace σ ε α} (f : ε → δ) (hm : outcome m s = wholly s r) :
    outcome (ExceptT.adapt f m : InPlace σ δ α) s = wholly s (r.mapError f) := by
  rw [outcome_adapt, hm]
  cases r <;> rfl

/-! ### Lending a part -/

/-- Runs a computation on a part of the state.  The part is put back as the
computation leaves it, also where that fails. -/
def lend (part : τ) (back : τ → σ) (m : InPlace τ ε α) : InPlace σ ε α := do
  let (result, part) := outcome m part
  set (back part)
  result

/-- Where the part is left alone, all is. -/
theorem outcome_lend {part : τ} {back : τ → σ} {m : InPlace τ ε α} {r : Except ε (τ × α)}
    (hback : back part = s) (hm : outcome m part = wholly part r) :
    outcome (lend part back m) s = wholly s (r.map fun p => (back p.1, p.2)) := by
  rw [lend, hm]
  cases r with
  | error e =>
    rw [← hback]
    rfl
  | ok p => rfl

end InPlace

end Settings
