import VpnPanel.Lib.Eff

/-!
# VpnPanel.Lib.Finally

`try` with `finally`, and computations that see one component of the state.

An outcome of a computation may be that it never comes back.  Such an exception
unwinds nothing: no handler and no `finally` runs.  `unwinds` tells the
exceptions that do.

`Settled unwinds R x` says that the state after `x` is `R`-related to the one
before whenever `x` comes back.  It composes along `bind`; a resource that is
acquired and released is a computation that is settled as a whole and in none of
its parts, so that it is shown by a `Spec` from a fixed state.
-/

namespace Eff

variable {σ τ ε α β : Type}

/-! ## `finally` -/

/-- `try: x` with `finally: cleanup`.  What the cleanup raises takes the place of
the outcome. -/
def ensuring (unwinds : ε → Bool) (x : Eff σ ε α) (cleanup : Eff σ ε Unit) : Eff σ ε α :=
  ExceptT.mk fun s => match x.exec s with
    | (.ok a, s') => (cleanup >>= fun _ => pure a).exec s'
    | (.error e, s') =>
        if unwinds e then (cleanup >>= fun _ => raise e).exec s' else (.error e, s')

theorem exec_ensuring (unwinds : ε → Bool) (x : Eff σ ε α) (cleanup : Eff σ ε Unit) (s : σ) :
    (ensuring unwinds x cleanup).exec s = match x.exec s with
      | (.ok a, s') => (cleanup >>= fun _ => pure a).exec s'
      | (.error e, s') =>
          if unwinds e then (cleanup >>= fun _ => raise e).exec s' else (.error e, s') := by
  rfl

theorem Spec.ensuring {unwinds : ε → Bool} {P : σ → Prop} {Q R : α → σ → Prop}
    {E F : ε → σ → Prop} {x : Eff σ ε α} {cleanup : Eff σ ε Unit} (hx : Spec P x R F)
    (hok : ∀ a, Spec (R a) cleanup (fun _ => Q a) E)
    (herror : ∀ e, unwinds e = true → Spec (F e) cleanup (fun _ => E e) E)
    (hpass : ∀ e, unwinds e = false → ∀ s, F e s → E e s) :
    Spec P (ensuring unwinds x cleanup) Q E := by
  intro s hs
  have hxs := hx s hs
  rw [exec_ensuring]
  cases h : x.exec s with
  | mk r s' =>
      rw [h] at hxs
      cases r with
      | ok a => exact (hok a).bind (fun _ => Spec.pure fun _ hq => hq) s' hxs
      | error e =>
          cases hu : unwinds e with
          | true =>
              simp only [hu, if_true]
              exact (herror e hu).bind (Q := Q) (fun _ => Spec.raise fun _ he => he) s' hxs
          | false => simpa [hu] using hpass e hu s' hxs

/-- What the cleanup establishes holds whenever the computation comes back. -/
theorem Spec.ensuring_of_cleanup {unwinds : ε → Bool} {P S T : σ → Prop} {x : Eff σ ε α}
    {cleanup : Eff σ ε Unit} (hx : Spec P x (fun _ => S) fun e s => unwinds e = true → S s)
    (hcleanup : Spec S cleanup (fun _ => T) fun _ => T) :
    Spec P (Eff.ensuring unwinds x cleanup) (fun _ => T) fun e s => unwinds e = true → T s := by
  have hlate (e : ε) : Spec (fun s => unwinds e = true → S s) cleanup
      (fun _ s => unwinds e = true → T s)
      fun e' s => unwinds e = true → unwinds e' = true → T s := by
    intro s hs
    cases hu : unwinds e with
    | false =>
        cases cleanup.exec s with
        | mk r s' =>
            cases r <;> exact fun hu' => absurd hu' Bool.false_ne_true
    | true =>
        have hspec := hcleanup s (hs hu)
        cases h : cleanup.exec s with
        | mk r s' =>
            rw [h] at hspec
            cases r with
            | ok u => exact fun _ => hspec
            | error e' => exact fun _ _ => hspec
  refine hx.ensuring (fun _ => hcleanup.mono (fun _ h => h) (fun _ _ h => h) fun _ _ h _ => h)
    (fun e hu => (hlate e).mono (fun _ h => h) (fun _ _ h => h) fun _ _ h => h hu)
    fun e hu s _ hu' => ?_
  rw [hu] at hu'
  cases hu'

/-! ## a component of the state -/

/-- A computation on the component that `get` reads and `set` writes. -/
def onPart (get : σ → τ) (set : τ → σ → σ) (x : Eff τ ε α) : Eff σ ε α :=
  ExceptT.mk fun s => ((x.exec (get s)).1, set (x.exec (get s)).2 s)

theorem exec_onPart (get : σ → τ) (set : τ → σ → σ) (x : Eff τ ε α) (s : σ) :
    (onPart get set x).exec s = ((x.exec (get s)).1, set (x.exec (get s)).2 s) := by
  rfl

theorem Spec.onPart {get : σ → τ} {set : τ → σ → σ} {x : Eff τ ε α} {P : σ → Prop}
    {Q : α → σ → Prop} {E : ε → σ → Prop}
    (h : ∀ s, P s → Spec (· = get s) x (fun a t => Q a (set t s)) fun e t => E e (set t s)) :
    Spec P (onPart get set x) Q E := by
  intro s hs
  have hxs := h s hs (get s) rfl
  rw [exec_onPart]
  cases hx : x.exec (get s) with
  | mk r t =>
      rw [hx] at hxs
      cases r <;> exact hxs

/-! ## computations that come back -/

/-- The state after `x`, if it comes back, is `R`-related to the one before. -/
def Settled (unwinds : ε → Bool) (R : σ → σ → Prop) (x : Eff σ ε α) : Prop :=
  ∀ s, Spec (· = s) x (fun _ s' => R s s') fun e s' => unwinds e = true → R s s'

section Settled

variable {unwinds : ε → Bool} {R : σ → σ → Prop}

theorem Settled.of_within {x : Eff σ ε α} (h : Within R x) : Settled unwinds R x := by
  rintro s s rfl
  have hs := h s
  cases hx : x.exec s with
  | mk r s' =>
      rw [hx] at hs
      cases r with
      | ok a => exact hs
      | error e => exact fun _ => hs

/-- What is known of its outcome. -/
theorem Settled.of_exec {x : Eff σ ε α} (h : Settled unwinds R x) {s s' : σ} {a : α}
    (hx : x.exec s = (.ok a, s')) : R s s' := (h s).ok rfl hx

variable [IsPreorder σ R]

/-- From a state that `R` leads to. -/
theorem Settled.after {x : Eff σ ε α} (h : Settled unwinds R x) (s : σ) :
    Spec (R s) x (fun _ s' => R s s') fun e s' => unwinds e = true → R s s' := by
  intro s₁ hs
  have hspec := h s₁ s₁ rfl
  cases hx : x.exec s₁ with
  | mk r s' =>
      rw [hx] at hspec
      cases r with
      | ok a => exact trans_of R hs hspec
      | error e => exact fun hu => trans_of R hs (hspec hu)

theorem Settled.bind {x : Eff σ ε α} {f : α → Eff σ ε β} (hx : Settled unwinds R x)
    (hf : ∀ a, Settled unwinds R (f a)) : Settled unwinds R (x >>= f) := by
  intro s
  exact (hx s).bind fun a => (hf a).after s

theorem Settled.catching {p : ε → Bool} {x : Eff σ ε α} {handler : ε → Eff σ ε α}
    (hx : Settled unwinds R x) (hp : ∀ e, p e = true → unwinds e = true)
    (hh : ∀ e, Settled unwinds R (handler e)) : Settled unwinds R (catching p x handler) := by
  intro s
  refine (hx s).catching (fun e he => ?_) fun e _ s' h => h
  exact ((hh e).after s).mono (fun s' h => h (hp e he)) (fun _ _ h => h) fun _ _ h => h

end Settled

end Eff
