import Mathlib.Logic.Basic

/-!
# Raising — pre- and postconditions for programs that keep state and raise exceptions

A program that raises still leaves its state behind, so a triple has two postconditions, one for
each way out. This file gives

* what the run of a sequence is made of,
* the triple and one rule for each way to build a program,
* the case of an assertion that a program keeps on both ways out.
-/

/-- A result that came out of two parts came out of both. -/
theorem Except.ok_of_bind {ε α β : Type} {x : Except ε α} {f : α → Except ε β} {b : β}
    (h : (x >>= f) = .ok b) : ∃ a, x = .ok a ∧ f a = .ok b := by
  cases x with
  | error e => cases h
  | ok a => exact ⟨a, rfl, h⟩

/-- A program over a state, which an exception does not undo. -/
abbrev Raising (σ ε α : Type) := ExceptT ε (StateM σ) α

namespace Raising

variable {σ ε α β : Type}

/-- What comes after a first part that returned. -/
theorem run_bind_of_ok {x : Raising σ ε α} {f : α → Raising σ ε β} {a : α} {s s' : σ}
    (h : x.run.run s = (.ok a, s')) : (x >>= f).run.run s = (f a).run.run s' := by
  rw [ExceptT.run_bind, StateT.run_bind, h]
  rfl

/-- A first part that raises skips the rest and leaves its state. -/
theorem run_bind_of_error {x : Raising σ ε α} {f : α → Raising σ ε β} {e : ε} {s s' : σ}
    (h : x.run.run s = (.error e, s')) : (x >>= f).run.run s = (.error e, s') := by
  rw [ExceptT.run_bind, StateT.run_bind, h]
  rfl

/-- A program that returned has returned from its first part and then from the rest. -/
theorem ok_of_bind {x : Raising σ ε α} {f : α → Raising σ ε β} {b : β} {s s' : σ}
    (h : (x >>= f).run.run s = (.ok b, s')) :
    ∃ a middle, x.run.run s = (.ok a, middle) ∧ (f a).run.run middle = (.ok b, s') := by
  rcases hrun : x.run.run s with ⟨result, middle⟩
  cases result with
  | ok a =>
      rw [run_bind_of_ok hrun] at h
      exact ⟨a, middle, rfl, h⟩
  | error e =>
      rw [run_bind_of_error hrun] at h
      cases h

/-- From a state with `P`, returning ends with `Q` and raising with `E`. -/
def Ensures (P : σ → Prop) (x : Raising σ ε α) (Q : α → σ → Prop) (E : ε → σ → Prop) : Prop :=
  ∀ s, P s →
    match x.run.run s with
    | (.ok a, s') => Q a s'
    | (.error e, s') => E e s'

variable {P P' : σ → Prop} {Q Q' : α → σ → Prop} {E E' : ε → σ → Prop} {x : Raising σ ε α}

namespace Ensures

theorem pure {a : α} (h : ∀ s, P s → Q a s) : Ensures P (Pure.pure a : Raising σ ε α) Q E :=
  h

theorem raise {e : ε} (h : ∀ s, P s → E e s) : Ensures P (throw e : Raising σ ε α) Q E :=
  h

theorem bind {R : α → σ → Prop} {f : α → Raising σ ε β} {Q : β → σ → Prop}
    (hx : Ensures P x R E) (hf : ∀ a, Ensures (R a) (f a) Q E) : Ensures P (x >>= f) Q E := by
  intro s hs
  have hfirst := hx s hs
  rcases hrun : x.run.run s with ⟨result, s'⟩
  rw [hrun] at hfirst
  cases result with
  | ok a =>
      -- A first part that returns hands its state on.
      rw [run_bind_of_ok hrun]
      exact hf a s' hfirst
  | error e =>
      rw [run_bind_of_error hrun]
      exact hfirst

theorem run_tryCatch (handler : ε → Raising σ ε α) (s : σ) :
    (tryCatch x handler).run.run s =
      match x.run.run s with
      | (.ok a, s') => (.ok a, s')
      | (.error e, s') => (handler e).run.run s' := by
  have hbind : (tryCatch x handler).run =
      x.run >>= fun result => match result with
        | .ok a => Pure.pure (.ok a)
        | .error e => (handler e).run := rfl
  rw [hbind, StateT.run_bind]
  rcases x.run.run s with ⟨result, s'⟩
  cases result <;> rfl

/-- A handler starts from the state the exception left. -/
theorem rescue {R : ε → σ → Prop} {handler : ε → Raising σ ε α} (hx : Ensures P x Q R)
    (hhandler : ∀ e, Ensures (R e) (handler e) Q E) : Ensures P (tryCatch x handler) Q E := by
  intro s hs
  have hfirst := hx s hs
  rcases hrun : x.run.run s with ⟨result, s'⟩
  rw [hrun] at hfirst
  cases result with
  | ok a =>
      have hrest : (tryCatch x handler).run.run s = (.ok a, s') := by
        rw [run_tryCatch, hrun]
      rw [hrest]
      exact hfirst
  | error e =>
      -- The handler sees whatever was done before the exception.
      have hrest : (tryCatch x handler).run.run s = (handler e).run.run s' := by
        rw [run_tryCatch, hrun]
      rw [hrest]
      exact hhandler e s' hfirst

theorem mono (h : Ensures P x Q E) (hP : ∀ s, P' s → P s) (hQ : ∀ a s, Q a s → Q' a s)
    (hE : ∀ e s, E e s → E' e s) : Ensures P' x Q' E' := by
  intro s hs
  have hx := h s (hP s hs)
  rcases hrun : x.run.run s with ⟨result, s'⟩
  rw [hrun] at hx
  cases result with
  | ok a => exact hQ a s' hx
  | error e => exact hE e s' hx

theorem get : Ensures P (MonadState.get : Raising σ ε σ) (fun a s => P s ∧ a = s) E :=
  fun _ hs => ⟨hs, rfl⟩

theorem set {s' : σ} : Ensures (fun _ => P s') (MonadStateOf.set s' : Raising σ ε PUnit)
    (fun _ => P) E :=
  fun _ hs => hs

/-- What does not depend on the state is not changed by running. -/
theorem const (p : Prop) : Ensures (fun _ => p) x (fun _ _ => p) fun _ _ => True := by
  intro s hp
  rcases x.run.run s with ⟨result, s'⟩
  cases result with
  | ok a => exact hp
  | error e => trivial

/-- A program whose run from one state is known. -/
theorem of_run_ok {a : α} {s s' : σ} (hrun : x.run.run s = (.ok a, s')) (h : Q a s') :
    Ensures (fun start => start = s) x Q E := by
  rintro start rfl
  rw [hrun]
  exact h

/-- What a run from one state does. -/
theorem run (h : Ensures P x Q E) {s : σ} (hs : P s) :
    (∃ a s', x.run.run s = (.ok a, s') ∧ Q a s') ∨
      ∃ e s', x.run.run s = (.error e, s') ∧ E e s' := by
  have hx := h s hs
  rcases hrun : x.run.run s with ⟨result, s'⟩
  rw [hrun] at hx
  cases result with
  | ok a => exact Or.inl ⟨a, s', rfl, hx⟩
  | error e => exact Or.inr ⟨e, s', rfl, hx⟩

end Ensures

/-! ## Programs that keep an assertion -/

/-- The program keeps `P` on both ways out, and raises only exceptions with `R`. -/
def Keeps (P : σ → Prop) (R : ε → Prop) (x : Raising σ ε α) : Prop :=
  Ensures P x (fun _ => P) fun e s => P s ∧ R e

variable {R R' : ε → Prop}

namespace Keeps

theorem pure (a : α) : Keeps P R (Pure.pure a : Raising σ ε α) :=
  Ensures.pure fun _ hs => hs

theorem raise {e : ε} (he : R e) : Keeps P R (throw e : Raising σ ε α) :=
  Ensures.raise fun _ hs => ⟨hs, he⟩

theorem bind {f : α → Raising σ ε β} (hx : Keeps P R x) (hf : ∀ a, Keeps P R (f a)) :
    Keeps P R (x >>= f) :=
  Ensures.bind hx hf

/-- Replacing exceptions keeps the assertion. -/
theorem rescue {handler : ε → ε} (hx : Keeps P R x) (hhandler : ∀ e, R e → R' (handler e)) :
    Keeps P R' (tryCatch x fun e => throw (handler e)) :=
  Ensures.rescue hx fun e => Ensures.raise fun _ hs => ⟨hs.1, hhandler e hs.2⟩

theorem mono (hx : Keeps P R x) (hR : ∀ e, R e → R' e) : Keeps P R' x :=
  Ensures.mono hx (fun _ hs => hs) (fun _ _ hs => hs) fun e _ hs => ⟨hs.1, hR e hs.2⟩

theorem any (hx : Keeps P R x) : Keeps P (fun _ => True) x :=
  hx.mono fun _ _ => trivial

end Keeps

-- A specification is used through the rules above.
attribute [irreducible] Ensures

end Raising
