import Mathlib.Order.Defs.Unbundled

/-!
# VpnPanel.Lib.Eff

Computations over a state that may raise an exception and *keep* the state
they had reached when it was raised: what was already done to the world stays
done.  `Eff σ ε α` is `ExceptT ε (StateM σ) α`, and `exec` gives the outcome
together with the final state.

Besides the equations of `exec`, the module has three rule sets: `Within R x`
says that the state after `x`, returned or raised, is `R`-related to the state
before.  It composes along `bind` for a preorder `R`; the frame condition "`x`
leaves `f` alone" (`Keeps`) is the instance used most.  `Spec P x Q E` is a
triple with a postcondition for each way to end, `Returns x` says that `x` does
not raise, and `Yields Q x` that what it returns, if it does, satisfies `Q`.
-/

universe u

/-- A computation over a state that keeps the state when it raises. -/
abbrev Eff (σ ε α : Type) := ExceptT ε (StateM σ) α

namespace Eff

variable {σ ε α β : Type}

/-- Outcome and final state. -/
def exec (x : Eff σ ε α) (s : σ) : Except ε α × σ := Id.run (StateT.run (ExceptT.run x) s)

/-- Change the state. -/
def update (f : σ → σ) : Eff σ ε Unit := modify f

/-- Read the state. -/
def read : Eff σ ε σ := get

/-- Raise an exception. -/
def raise (e : ε) : Eff σ ε α := throw e

/-- An outcome that does not depend on the state. -/
def ofExcept : Except ε α → Eff σ ε α
  | .ok a => pure a
  | .error e => raise e

/-- `try: x` with a handler for the exceptions that satisfy `p`. -/
def catching (p : ε → Bool) (x : Eff σ ε α) (handler : ε → Eff σ ε α) : Eff σ ε α :=
  ExceptT.mk fun s => match x.exec s with
    | (.ok a, s') => (.ok a, s')
    | (.error e, s') => if p e then (handler e).exec s' else (.error e, s')

/-- A transaction around `x`: it is committed when `x` returns, and when `x`
raises one of the exceptions `kept` tells; otherwise, and when the commit
raises, it is rolled back. -/
def transaction (kept : ε → Bool) (commit : Option ε) (x : Eff σ ε α) : Eff σ ε α :=
  ExceptT.mk fun s =>
    match x.exec s, commit with
    | (.ok a, s'), none => (.ok a, s')
    | (.error e, s'), none => if kept e then (.error e, s') else (.error e, s)
    | (.ok _, _), some e => (.error e, s)
    | (.error e, _), some e' => if kept e then (.error e', s) else (.error e, s)

/-! ## the equations of `exec` -/

@[simp] theorem exec_pure (a : α) (s : σ) : (pure a : Eff σ ε α).exec s = (.ok a, s) := rfl

@[simp] theorem exec_raise (e : ε) (s : σ) : (raise e : Eff σ ε α).exec s = (.error e, s) := rfl

@[simp] theorem exec_update (f : σ → σ) (s : σ) :
    (update f : Eff σ ε Unit).exec s = (.ok (), f s) := rfl

@[simp] theorem exec_read (s : σ) : (read : Eff σ ε σ).exec s = (.ok s, s) := rfl

@[simp] theorem exec_ofExcept (r : Except ε α) (s : σ) : (ofExcept r).exec s = (r, s) := by
  cases r <;> rfl

theorem exec_bind (x : Eff σ ε α) (f : α → Eff σ ε β) (s : σ) :
    (x >>= f).exec s = match x.exec s with
      | (.ok a, s') => (f a).exec s'
      | (.error e, s') => (.error e, s') := by
  change (StateT.bind (ExceptT.run x) (ExceptT.bindCont f)) s = _
  unfold StateT.bind
  change ExceptT.bindCont f (x.exec s).1 (x.exec s).2 = _
  cases x.exec s with
  | mk r s' => cases r <;> rfl

theorem exec_bind_ok {x : Eff σ ε α} {f : α → Eff σ ε β} {s s' : σ} {a : α}
    (h : x.exec s = (.ok a, s')) : (x >>= f).exec s = (f a).exec s' := by
  rw [exec_bind, h]

theorem exec_bind_error {x : Eff σ ε α} {f : α → Eff σ ε β} {s s' : σ} {e : ε}
    (h : x.exec s = (.error e, s')) : (x >>= f).exec s = (.error e, s') := by
  rw [exec_bind, h]

@[simp] theorem ofExcept_ok_bind (a : α) (f : α → Eff σ ε β) : ofExcept (.ok a) >>= f = f a :=
  pure_bind a f

theorem exec_catching (p : ε → Bool) (x : Eff σ ε α) (handler : ε → Eff σ ε α) (s : σ) :
    (catching p x handler).exec s = match x.exec s with
      | (.ok a, s') => (.ok a, s')
      | (.error e, s') => if p e then (handler e).exec s' else (.error e, s') := by
  rfl

theorem exec_transaction (kept : ε → Bool) (commit : Option ε) (x : Eff σ ε α) (s : σ) :
    (transaction kept commit x).exec s = match x.exec s, commit with
      | (.ok a, s'), none => (.ok a, s')
      | (.error e, s'), none => if kept e then (.error e, s') else (.error e, s)
      | (.ok _, _), some e => (.error e, s)
      | (.error e, _), some e' => if kept e then (.error e', s) else (.error e, s) := by
  rfl

/-- A transaction that commits ends as its computation does. -/
theorem exec_transaction_none (kept : ε → Bool) (x : Eff σ ε α) (s : σ) :
    ((transaction kept none x).exec s).1 = (x.exec s).1 := by
  rw [exec_transaction]
  cases hx : x.exec s with
  | mk r s' =>
      cases r with
      | ok a => rfl
      | error e => by_cases hkept : kept e = true <;> simp [hkept]

/-- A transaction returns when its computation returns and the commit goes
through. -/
theorem exec_transaction_eq_ok_iff {kept : ε → Bool} {commit : Option ε} {x : Eff σ ε α} {s : σ}
    {a : α} : ((transaction kept commit x).exec s).1 = .ok a ↔
      commit = none ∧ (x.exec s).1 = .ok a := by
  rw [exec_transaction]
  cases hx : x.exec s with
  | mk r s' =>
      cases r <;> cases commit <;> simp only [reduceCtorEq, false_and, true_and] <;> split <;> simp

/-- A computation of two parts returned: so did both parts. -/
theorem exec_bind_eq_ok {x : Eff σ ε α} {f : α → Eff σ ε β} {s t : σ} {b : β}
    (h : (x >>= f).exec s = (.ok b, t)) :
    ∃ a s', x.exec s = (.ok a, s') ∧ (f a).exec s' = (.ok b, t) := by
  rw [exec_bind] at h
  cases hx : x.exec s with
  | mk r s' =>
      cases r with
      | ok a =>
          rw [hx] at h
          exact ⟨a, s', rfl, h⟩
      | error e =>
          rw [hx] at h
          cases h

/-- A computation of two parts raised: in the first part, or in the second
after the first returned. -/
theorem exec_bind_eq_error {x : Eff σ ε α} {f : α → Eff σ ε β} {s t : σ} {e : ε}
    (h : (x >>= f).exec s = (.error e, t)) :
    x.exec s = (.error e, t) ∨
      ∃ a s', x.exec s = (.ok a, s') ∧ (f a).exec s' = (.error e, t) := by
  rw [exec_bind] at h
  cases hx : x.exec s with
  | mk r s' =>
      cases r with
      | ok a =>
          rw [hx] at h
          exact Or.inr ⟨a, s', rfl, h⟩
      | error e' =>
          rw [hx] at h
          have he : e' = e ∧ s' = t := by simpa using h
          exact Or.inl (by rw [he.1, he.2])

/-! ## what a computation does to the state -/

/-- The final state is `R`-related to the initial one, whatever the outcome. -/
def Within (R : σ → σ → Prop) (x : Eff σ ε α) : Prop := ∀ s, R s (x.exec s).2

section Within

variable {R : σ → σ → Prop} [IsPreorder σ R]

theorem Within.pure (a : α) : Within R (pure a : Eff σ ε α) := fun s => refl_of R s

theorem Within.raise (e : ε) : Within R (raise e : Eff σ ε α) := fun s => refl_of R s

theorem Within.ofExcept (r : Except ε α) : Within R (ofExcept r : Eff σ ε α) := fun s => by
  rw [exec_ofExcept]
  exact refl_of R s

theorem Within.read : Within R (read : Eff σ ε σ) := fun s => refl_of R s

omit [IsPreorder σ R] in
theorem Within.update {f : σ → σ} (h : ∀ s, R s (f s)) : Within R (update f : Eff σ ε Unit) := h

theorem Within.bind {x : Eff σ ε α} {f : α → Eff σ ε β} (hx : Within R x)
    (hf : ∀ a, Within R (f a)) : Within R (x >>= f) := by
  intro s
  have hxs := hx s
  rw [exec_bind]
  cases h : x.exec s with
  | mk r s' =>
      rw [h] at hxs
      cases r with
      | ok a => exact trans_of R hxs (hf a s')
      | error e => exact hxs

theorem Within.catching {p : ε → Bool} {x : Eff σ ε α} {handler : ε → Eff σ ε α}
    (hx : Within R x) (hh : ∀ e, Within R (handler e)) : Within R (catching p x handler) := by
  intro s
  have hxs := hx s
  rw [exec_catching]
  cases h : x.exec s with
  | mk r s' =>
      rw [h] at hxs
      cases r with
      | ok a => exact hxs
      | error e =>
          by_cases hp : p e = true
          · simpa [hp] using trans_of R hxs (hh e s')
          · simpa [hp] using hxs

omit [IsPreorder σ R] in
/-- What the relation says of the two ends of an execution. -/
theorem Within.of_exec {x : Eff σ ε α} (hx : Within R x) {s t : σ} {r : Except ε α}
    (h : x.exec s = (r, t)) : R s t := by
  have hs := hx s
  rwa [h] at hs

end Within

/-- The states that agree on a component. -/
def SameAt {τ : Type u} (f : σ → τ) (s t : σ) : Prop := f t = f s

instance {τ : Type u} (f : σ → τ) : IsPreorder σ (SameAt f) where
  refl _ := rfl
  trans _ _ _ h h' := h'.trans h

/-- `x` leaves the component `f` of the state alone. -/
abbrev Keeps {τ : Type u} (f : σ → τ) (x : Eff σ ε α) : Prop := Within (SameAt f) x

/-- What follows leaves the component alone: it is as the first part left it. -/
theorem snd_exec_bind {τ : Type u} {g : σ → τ} {x : Eff σ ε α} {f : α → Eff σ ε β}
    (hf : ∀ a, Keeps g (f a)) (s : σ) : g ((x >>= f).exec s).2 = g (x.exec s).2 := by
  rw [exec_bind]
  cases hx : x.exec s with
  | mk r s' =>
      cases r with
      | ok a => exact hf a s'
      | error e => rfl

/-! ## pre- and postconditions -/

/-- From a state with `P`, `x` returns with `Q` or raises with `E`. -/
def Spec (P : σ → Prop) (x : Eff σ ε α) (Q : α → σ → Prop) (E : ε → σ → Prop) : Prop :=
  ∀ s, P s → match x.exec s with
    | (.ok a, s') => Q a s'
    | (.error e, s') => E e s'

section Spec

variable {P : σ → Prop} {Q : α → σ → Prop} {E : ε → σ → Prop}

theorem Spec.ok {x : Eff σ ε α} (h : Spec P x Q E) {s s' : σ} {a : α} (hs : P s)
    (hx : x.exec s = (.ok a, s')) : Q a s' := by
  have hspec := h s hs
  rwa [hx] at hspec

theorem Spec.error {x : Eff σ ε α} (h : Spec P x Q E) {s s' : σ} {e : ε} (hs : P s)
    (hx : x.exec s = (.error e, s')) : E e s' := by
  have hspec := h s hs
  rwa [hx] at hspec

theorem Spec.pure {a : α} (h : ∀ s, P s → Q a s) : Spec P (pure a : Eff σ ε α) Q E := h

theorem Spec.raise {e : ε} (h : ∀ s, P s → E e s) : Spec P (raise e : Eff σ ε α) Q E := h

theorem Spec.update {f : σ → σ} {Q : Unit → σ → Prop} (h : ∀ s, P s → Q () (f s)) :
    Spec P (update f : Eff σ ε Unit) Q E := h

theorem Spec.read {Q : σ → σ → Prop} (h : ∀ s, P s → Q s s) :
    Spec P (read : Eff σ ε σ) Q E := h

theorem Spec.ofExcept {r : Except ε α} (hok : ∀ a, r = .ok a → ∀ s, P s → Q a s)
    (herr : ∀ e, r = .error e → ∀ s, P s → E e s) : Spec P (ofExcept r : Eff σ ε α) Q E := by
  intro s hs
  rw [exec_ofExcept]
  cases r with
  | ok a => exact hok a rfl s hs
  | error e => exact herr e rfl s hs

theorem Spec.bind {R : β → σ → Prop} {x : Eff σ ε β} {f : β → Eff σ ε α} (hx : Spec P x R E)
    (hf : ∀ b, Spec (R b) (f b) Q E) : Spec P (x >>= f) Q E := by
  intro s hs
  have hxs := hx s hs
  rw [exec_bind]
  cases h : x.exec s with
  | mk r s' =>
      rw [h] at hxs
      cases r with
      | ok b => exact hf b s' hxs
      | error e => exact hxs

theorem Spec.catching {F : ε → σ → Prop} {p : ε → Bool} {x : Eff σ ε α}
    {handler : ε → Eff σ ε α} (hx : Spec P x Q F)
    (hhandler : ∀ e, p e = true → Spec (F e) (handler e) Q E)
    (hpass : ∀ e, p e = false → ∀ s, F e s → E e s) : Spec P (catching p x handler) Q E := by
  intro s hs
  have hxs := hx s hs
  rw [exec_catching]
  cases h : x.exec s with
  | mk r s' =>
      rw [h] at hxs
      cases r with
      | ok a => exact hxs
      | error e =>
          cases hp : p e with
          | true => simpa [hp] using hhandler e hp s' hxs
          | false => simpa [hp] using hpass e hp s' hxs

theorem Spec.mono {P' : σ → Prop} {Q' : α → σ → Prop} {E' : ε → σ → Prop} {x : Eff σ ε α}
    (h : Spec P x Q E) (hP : ∀ s, P' s → P s) (hQ : ∀ a s, Q a s → Q' a s)
    (hE : ∀ e s, E e s → E' e s) : Spec P' x Q' E' := by
  intro s hs
  have hspec := h s (hP s hs)
  cases hx : x.exec s with
  | mk r s' =>
      rw [hx] at hspec
      cases r with
      | ok a => exact hQ a s' hspec
      | error e => exact hE e s' hspec

/-- Two specifications of one computation. -/
theorem Spec.and {Q' : α → σ → Prop} {E' : ε → σ → Prop} {x : Eff σ ε α} (h : Spec P x Q E)
    (h' : Spec P x Q' E') :
    Spec P x (fun a s => Q a s ∧ Q' a s) (fun e s => E e s ∧ E' e s) := by
  intro s hs
  have hspec := h s hs
  have hspec' := h' s hs
  cases hx : x.exec s with
  | mk r s' =>
      rw [hx] at hspec hspec'
      cases r <;> exact ⟨hspec, hspec'⟩

/-- A property of the state that the relation keeps. -/
theorem Within.spec {R : σ → σ → Prop} {x : Eff σ ε α} (h : Within R x)
    (hR : ∀ s s', R s s' → P s → P s') : Spec P x (fun _ => P) (fun _ => P) := by
  intro s hs
  have hrel := h s
  cases hx : x.exec s with
  | mk r s' =>
      rw [hx] at hrel
      cases r <;> exact hR s s' hrel hs

end Spec

/-! ## computations that do not raise -/

/-- `x` raises from no state. -/
def Returns (x : Eff σ ε α) : Prop := ∀ s e s', x.exec s ≠ (.error e, s')

theorem Returns.pure (a : α) : Returns (pure a : Eff σ ε α) := by
  intro s e s'
  simp

theorem Returns.update (f : σ → σ) : Returns (update f : Eff σ ε Unit) := by
  intro s e s'
  simp

theorem Returns.read : Returns (read : Eff σ ε σ) := by
  intro s e s'
  simp

theorem Returns.bind {x : Eff σ ε α} {f : α → Eff σ ε β} (hx : Returns x)
    (hf : ∀ a, Returns (f a)) : Returns (x >>= f) := by
  intro s e s' h
  obtain h | ⟨a, s₁, -, h⟩ := exec_bind_eq_error h
  · exact hx s e s' h
  · exact hf a s₁ e s' h

theorem Returns.catching {p : ε → Bool} {x : Eff σ ε α} {handler : ε → Eff σ ε α}
    (hx : Returns x) : Returns (catching p x handler) := by
  intro s e s' h
  rw [exec_catching] at h
  cases hexec : x.exec s with
  | mk r s₁ =>
      rw [hexec] at h
      cases r with
      | ok a => cases h
      | error e₁ => exact hx s e₁ s₁ hexec

/-! ## what is returned -/

/-- What `x` returns satisfies `Q`. -/
def Yields (Q : α → Prop) (x : Eff σ ε α) : Prop := ∀ s a s', x.exec s = (.ok a, s') → Q a

theorem Yields.any (x : Eff σ ε α) : Yields (fun _ => True) x := fun _ _ _ _ => trivial

theorem Yields.pure {Q : α → Prop} {a : α} (h : Q a) : Yields Q (pure a : Eff σ ε α) := by
  intro s b s' hb
  obtain ⟨rfl, -⟩ : a = b ∧ s = s' := by simpa using hb
  exact h

theorem Yields.ofExcept {Q : α → Prop} {r : Except ε α} (h : ∀ a, r = .ok a → Q a) :
    Yields Q (ofExcept r : Eff σ ε α) := by
  intro s a s' ha
  rw [exec_ofExcept] at ha
  exact h a (congrArg Prod.fst ha)

theorem Yields.bind {R : β → Prop} {Q : α → Prop} {x : Eff σ ε β} {f : β → Eff σ ε α}
    (hx : Yields R x) (hf : ∀ b, R b → Yields Q (f b)) : Yields Q (x >>= f) := by
  intro s a s' h
  obtain ⟨b, s₁, hb, ha⟩ := exec_bind_eq_ok h
  exact hf b (hx s b s₁ hb) s₁ a s' ha

end Eff
