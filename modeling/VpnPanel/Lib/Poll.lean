import VpnPanel.Lib.Eff
import Mathlib.Data.Nat.Basic
import Mathlib.Order.RelClasses

/-!
# VpnPanel.Lib.Poll

Computations against a clock, and the loop `while now < deadline: body`.

A `Timed` computation has the time as its state: what it runs takes time, and
so does waiting.  Three properties bound the time and compose along `bind`:

* `Forward x` — the clock does not go back;
* `Advances x` — it goes on by one tick at least when `x` returns;
* `Lasts d x` — it goes forward, by `d` ticks at most.

`Gives n x t Q` is what `x` is known to return, and how soon, from a time on.

`poll deadline body d` repeats `body` until it gives a result, raises, or the
deadline has passed.  The value `d` is carried from round to round.  Every
round advances, so there are no more rounds than ticks, and `poll` counts them
down; `spec_poll` is the invariant rule, which also tells that a loop without
a result has reached its deadline.  `lasts_poll` bounds the time and
`gives_poll` is the rule for progress.  `pollFor` sets the deadline itself.
-/

/-- A computation whose state is the time. -/
abbrev Timed (ε α : Type) := Eff Nat ε α

namespace Timed

variable {ε α β δ : Type}

/-- `time.monotonic()`. -/
def now : Timed ε Nat := Eff.read

/-- Let `d` ticks pass. -/
def sleep (d : Nat) : Timed ε Unit := Eff.update (· + d)

@[simp] theorem exec_now (t : Nat) : (now : Timed ε Nat).exec t = (.ok t, t) := rfl

@[simp] theorem exec_sleep (d t : Nat) : (sleep d : Timed ε Unit).exec t = (.ok (), t + d) := rfl

/-! ## how the clock moves -/

/-- The clock does not go back. -/
abbrev Forward (x : Timed ε α) : Prop := Eff.Within (· ≤ ·) x

theorem forward_sleep (d : Nat) : Forward (sleep d : Timed ε Unit) := fun t => Nat.le_add_right t d

theorem forward_ite {c : Prop} [Decidable c] {x y : Timed ε α} (hx : Forward x)
    (hy : Forward y) : Forward (if c then x else y) := by
  by_cases hc : c
  · rwa [if_pos hc]
  · rwa [if_neg hc]

/-- When it returns, the clock has gone on. -/
def Advances (x : Timed ε α) : Prop := ∀ t a t', x.exec t = (.ok a, t') → t < t'

theorem Advances.bind {x : Timed ε α} {f : α → Timed ε β} (hx : Advances x)
    (hf : ∀ a, Forward (f a)) : Advances (x >>= f) := by
  intro t b t' h
  obtain ⟨a, s, ha, hb⟩ := Eff.exec_bind_eq_ok h
  have hlt : t < s := hx t a s ha
  have hle : s ≤ t' := (hf a).of_exec hb
  omega

/-- The clock goes forward, by `d` at most. -/
def Lasts (d : Nat) (x : Timed ε α) : Prop := ∀ t, t ≤ (x.exec t).2 ∧ (x.exec t).2 ≤ t + d

section Lasts

variable {m n : Nat}

theorem Lasts.forward {x : Timed ε α} (h : Lasts n x) : Forward x := fun t => (h t).1

theorem Lasts.mono {x : Timed ε α} (h : Lasts m x) (hle : m ≤ n) : Lasts n x := by
  intro t
  have ht := h t
  omega

theorem Lasts.pure (a : α) : Lasts 0 (pure a : Timed ε α) := fun t => ⟨Nat.le_refl t, Nat.le_refl t⟩

theorem Lasts.raise (e : ε) : Lasts 0 (Eff.raise e : Timed ε α) :=
  fun t => ⟨Nat.le_refl t, Nat.le_refl t⟩

theorem Lasts.now : Lasts 0 (now : Timed ε Nat) := fun t => ⟨Nat.le_refl t, Nat.le_refl t⟩

theorem Lasts.sleep : Lasts n (sleep n : Timed ε Unit) :=
  fun t => ⟨Nat.le_add_right t n, Nat.le_refl (t + n)⟩

theorem Lasts.bind {x : Timed ε α} {f : α → Timed ε β} (hx : Lasts m x)
    (hf : ∀ a, Lasts n (f a)) : Lasts (m + n) (x >>= f) := by
  intro t
  have hxt := hx t
  rw [Eff.exec_bind]
  cases h : x.exec t with
  | mk r t' =>
      rw [h] at hxt
      cases r with
      | ok a =>
          have hft := hf a t'
          show t ≤ ((f a).exec t').2 ∧ ((f a).exec t').2 ≤ t + (m + n)
          omega
      | error e =>
          show t ≤ t' ∧ t' ≤ t + (m + n)
          omega

theorem Lasts.catching {p : ε → Bool} {x : Timed ε α} {handler : ε → Timed ε α}
    (hx : Lasts m x) (hh : ∀ e, Lasts n (handler e)) :
    Lasts (m + n) (Eff.catching p x handler) := by
  intro t
  have hxt := hx t
  rw [Eff.exec_catching]
  cases h : x.exec t with
  | mk r t' =>
      rw [h] at hxt
      cases r with
      | ok a =>
          show t ≤ t' ∧ t' ≤ t + (m + n)
          omega
      | error e =>
          have hht := hh e t'
          by_cases hp : p e = true
          · simp only [hp]
            show t ≤ ((handler e).exec t').2 ∧ ((handler e).exec t').2 ≤ t + (m + n)
            omega
          · simp only [hp]
            show t ≤ t' ∧ t' ≤ t + (m + n)
            omega

/-- Two ways on. -/
theorem Lasts.ite {c : Prop} [Decidable c] {x y : Timed ε α} (hx : Lasts m x) (hy : Lasts n y) :
    Lasts (max m n) (if c then x else y) := by
  by_cases hc : c
  · rw [if_pos hc]
    exact hx.mono (Nat.le_max_left m n)
  · rw [if_neg hc]
    exact hy.mono (Nat.le_max_right m n)

end Lasts

/-- From `t`, `x` returns within `n` ticks a value that satisfies `Q`. -/
def Gives (n : Nat) (x : Timed ε α) (t : Nat) (Q : α → Prop) : Prop :=
  ∃ a t', x.exec t = (.ok a, t') ∧ t ≤ t' ∧ t' ≤ t + n ∧ Q a

section Gives

variable {m n t : Nat} {Q : α → Prop} {R : β → Prop}

theorem Gives.pure {a : α} (h : Q a) : Gives 0 (pure a : Timed ε α) t Q :=
  ⟨a, t, rfl, Nat.le_refl t, Nat.le_refl t, h⟩

theorem Gives.sleep : Gives n (sleep n : Timed ε Unit) t fun _ => True :=
  ⟨(), t + n, rfl, Nat.le_add_right t n, Nat.le_refl _, trivial⟩

theorem Gives.bind {x : Timed ε α} {f : α → Timed ε β} (hx : Gives m x t Q)
    (hf : ∀ a t', Q a → t ≤ t' → Gives n (f a) t' R) : Gives (m + n) (x >>= f) t R := by
  obtain ⟨a, s, hxs, hts, hsm, hQ⟩ := hx
  obtain ⟨b, t', hfs, hst, htn, hR⟩ := hf a s hQ hts
  exact ⟨b, t', by rw [Eff.exec_bind_ok hxs, hfs], by omega, by omega, hR⟩

theorem Gives.mono {P : α → Prop} {x : Timed ε α} (h : Gives m x t P) (hle : m ≤ n)
    (hQ : ∀ a, P a → Q a) : Gives n x t Q := by
  obtain ⟨a, t', hx, ht, hm, hP⟩ := h
  exact ⟨a, t', hx, ht, by omega, hQ a hP⟩

end Gives

/-! ## the loop -/

/-- At most `fuel` rounds. -/
def rounds (deadline : Nat) (body : δ → Timed ε (δ ⊕ α)) : Nat → δ → Timed ε (δ ⊕ α)
  | 0, d => pure (.inl d)
  | fuel + 1, d => do
      let t ← now
      if t < deadline then do
        let r ← body d
        r.elim (rounds deadline body fuel) fun a => pure (.inr a)
      else pure (.inl d)

/-- `while now < deadline: body`.  A round gives a result, which ends the loop,
or a value for the next round; without a result the last value is left. -/
def poll (deadline : Nat) (body : δ → Timed ε (δ ⊕ α)) (d : δ) : Timed ε (δ ⊕ α) := do
  let t ← now
  rounds deadline body (deadline - t) d

section Poll

variable {deadline : Nat} {body : δ → Timed ε (δ ⊕ α)}

theorem exec_rounds_succ (fuel : Nat) (d : δ) {t : Nat} (ht : t < deadline) :
    (rounds deadline body (fuel + 1) d).exec t =
      (body d >>= Sum.elim (rounds deadline body fuel) fun a => pure (.inr a)).exec t := by
  rw [rounds, Eff.exec_bind_ok (exec_now t), if_pos ht]

theorem exec_rounds_of_le (fuel : Nat) (d : δ) {t : Nat} (ht : deadline ≤ t) :
    (rounds deadline body fuel d).exec t = (.ok (.inl d), t) := by
  cases fuel with
  | zero => rfl
  | succ fuel =>
      rw [rounds, Eff.exec_bind_ok (exec_now t), if_neg (Nat.not_lt.mpr ht), Eff.exec_pure]

theorem forward_rounds (hbody : ∀ d, Forward (body d)) (fuel : Nat) (d : δ) :
    Forward (rounds deadline body fuel d) := by
  induction fuel generalizing d with
  | zero => exact Eff.Within.pure _
  | succ fuel ih =>
      have hround : Forward (body d >>= Sum.elim (rounds deadline body fuel) fun a =>
          pure (.inr a)) := by
        refine Eff.Within.bind (hbody d) fun r => ?_
        cases r with
        | inl d' => exact ih d'
        | inr a => exact Eff.Within.pure _
      exact Eff.Within.bind Eff.Within.read fun t => forward_ite hround (Eff.Within.pure _)

theorem forward_poll (hbody : ∀ d, Forward (body d)) (d : δ) : Forward (poll deadline body d) :=
  Eff.Within.bind Eff.Within.read fun t => forward_rounds hbody (deadline - t) d

variable {I : δ → Nat → Prop} {Q : α → Nat → Prop} {E : ε → Nat → Prop}

/-- What a round that starts before the deadline establishes. -/
def Round (deadline : Nat) (body : δ → Timed ε (δ ⊕ α)) (I : δ → Nat → Prop)
    (Q : α → Nat → Prop) (E : ε → Nat → Prop) : Prop :=
  ∀ d, Eff.Spec (fun t => t < deadline ∧ I d t) (body d)
    (fun r t => r.elim (fun d' => I d' t) fun a => Q a t) E

theorem spec_rounds (hadv : ∀ d, Advances (body d)) (hround : Round deadline body I Q E)
    (fuel : Nat) (d : δ) :
    Eff.Spec (fun t => deadline ≤ t + fuel ∧ I d t) (rounds deadline body fuel d)
      (fun r t => r.elim (fun d' => deadline ≤ t ∧ I d' t) fun a => Q a t) E := by
  induction fuel generalizing d with
  | zero => exact Eff.Spec.pure fun t ht => ht
  | succ fuel ih =>
      rintro t ⟨hfuel, hI⟩
      by_cases ht : t < deadline
      · rw [exec_rounds_succ fuel d ht, Eff.exec_bind]
        have hspec := hround d t ⟨ht, hI⟩
        cases hx : (body d).exec t with
        | mk r t' =>
            rw [hx] at hspec
            cases r with
            | error e => exact hspec
            | ok r =>
                cases r with
                | inr a => exact hspec
                | inl d' =>
                    have hleft : deadline ≤ t' + fuel := by
                      have hlt : t < t' := hadv d t _ t' hx
                      omega
                    exact ih d' t' ⟨hleft, hspec⟩
      · rw [exec_rounds_of_le _ d (Nat.not_lt.mp ht)]
        exact ⟨Nat.not_lt.mp ht, hI⟩

/-- **Invariant rule.**  What every round keeps holds at the end of the loop,
and without a result the deadline has passed. -/
theorem spec_poll (hadv : ∀ d, Advances (body d)) (hround : Round deadline body I Q E) (d : δ) :
    Eff.Spec (I d) (poll deadline body d)
      (fun r t => r.elim (fun d' => deadline ≤ t ∧ I d' t) fun a => Q a t) E := by
  intro t hI
  rw [poll, Eff.exec_bind_ok (exec_now t)]
  have hfuel : deadline ≤ t + (deadline - t) := by omega
  exact spec_rounds hadv hround (deadline - t) d t ⟨hfuel, hI⟩

/-- A first round with a result. -/
theorem exec_poll_of_round (body : δ → Timed ε (δ ⊕ α)) (d : δ) {a : α} {t t' : Nat}
    (ht : t < deadline) (hx : (body d).exec t = (.ok (.inr a), t')) :
    (poll deadline body d).exec t = (.ok (.inr a), t') := by
  obtain ⟨fuel, hfuel⟩ : ∃ fuel, deadline - t = fuel + 1 := ⟨deadline - t - 1, by omega⟩
  rw [poll, Eff.exec_bind_ok (exec_now t), hfuel, exec_rounds_succ fuel d ht,
    Eff.exec_bind_ok hx]
  rfl

variable (deadline) in
/-- **Time.**  The last round starts before the deadline. -/
theorem lasts_poll {n : Nat} (hadv : ∀ d, Advances (body d)) (hbody : ∀ d, Lasts n (body d))
    (d : δ) (t : Nat) : t ≤ ((poll deadline body d).exec t).2 ∧
      ((poll deadline body d).exec t).2 ≤ max t (deadline + n) := by
  have hround : Round deadline body (fun _ s => t ≤ s ∧ s ≤ max t (deadline + n))
      (fun _ s => t ≤ s ∧ s ≤ max t (deadline + n))
      (fun _ s => t ≤ s ∧ s ≤ max t (deadline + n)) := by
    rintro d s ⟨hs, hts, -⟩
    have hlast := hbody d s
    cases hx : (body d).exec s with
    | mk r s' =>
        rw [hx] at hlast
        have hle : t ≤ s' ∧ s' ≤ max t (deadline + n) := by
          have hlast' : s ≤ s' ∧ s' ≤ s + n := hlast
          omega
        cases r with
        | error e => exact hle
        | ok r => cases r <;> exact hle
  have hspec := spec_poll hadv hround d t ⟨Nat.le_refl t, le_max_left t _⟩
  cases hx : (poll deadline body d).exec t with
  | mk r t' =>
      rw [hx] at hspec
      cases r with
      | error e => exact hspec
      | ok r =>
          cases r with
          | inl d' => exact hspec.2
          | inr a => exact hspec

/-- **Progress.**  A loop whose rounds return within `n` ticks, with a result
when they start at `ready` or later, has a result if it starts late enough, or
if a round can still start after the last one without. -/
theorem gives_poll {ready n t : Nat} (d : δ) (hadv : ∀ d, Advances (body d))
    (hbody : ∀ d s, t ≤ s → s < deadline →
      Gives n (body d) s fun r => ready ≤ s → r.isRight = true)
    (hstart : t < deadline) :
    Gives (deadline - t + n) (poll deadline body d) t
      fun r => ready ≤ t ∨ ready + n ≤ deadline → r.isRight = true := by
  have hround : Round deadline body
      (fun _ s => t ≤ s ∧ s ≤ deadline + n ∧ (ready ≤ t ∨ ready + n ≤ deadline → s < deadline))
      (fun _ s => t ≤ s ∧ s ≤ deadline + n) fun _ _ => False := by
    rintro d s ⟨hs, hts, -, -⟩
    obtain ⟨r, s', hx, hle, hlast, hready⟩ := hbody d s hts hs
    rw [hx]
    cases r with
    | inr a => exact ⟨hts.trans hle, by omega⟩
    | inl d' =>
        have hearly : ¬ ready ≤ s := fun h => Bool.false_ne_true (hready h)
        exact ⟨hts.trans hle, by omega, fun h => by omega⟩
  have hspec := spec_poll hadv hround d t ⟨Nat.le_refl t, by omega, fun _ => hstart⟩
  cases hx : (poll deadline body d).exec t with
  | mk r t' =>
      rw [hx] at hspec
      cases r with
      | error e => exact hspec.elim
      | ok r =>
          cases r with
          | inl d' =>
              obtain ⟨hdeadline, hle, hlast, hgoal⟩ := hspec
              exact ⟨.inl d', t', hx, hle, by omega,
                fun h => absurd (hgoal h) (Nat.not_lt.mpr hdeadline)⟩
          | inr a =>
              obtain ⟨hle, hlast⟩ := hspec
              exact ⟨.inr a, t', hx, hle, by omega, fun _ => rfl⟩

/-- The loop with a deadline `span` ticks from now, which the rounds may look
at. -/
def pollFor (span : Nat) (body : Nat → δ → Timed ε (δ ⊕ α)) (d : δ) : Timed ε (δ ⊕ α) := do
  let t ← now
  poll (t + span) (body (t + span)) d

theorem exec_pollFor (span : Nat) (body : Nat → δ → Timed ε (δ ⊕ α)) (d : δ) (t : Nat) :
    (pollFor span body d).exec t = (poll (t + span) (body (t + span)) d).exec t := by
  rw [pollFor, Eff.exec_bind_ok (exec_now t)]

/-- The invariant rule from a time on. -/
theorem spec_pollFor (span t : Nat) {body : Nat → δ → Timed ε (δ ⊕ α)}
    (hadv : ∀ deadline d, Advances (body deadline d))
    (hround : Round (t + span) (body (t + span)) I Q E) (d : δ) :
    Eff.Spec (fun s => s = t ∧ I d s) (pollFor span body d)
      (fun r s => r.elim (fun d' => t + span ≤ s ∧ I d' s) fun a => Q a s) E := by
  rintro s ⟨rfl, hI⟩
  rw [exec_pollFor]
  exact spec_poll (hadv (s + span)) hround d s hI

theorem lasts_pollFor (span : Nat) {n : Nat} {body : Nat → δ → Timed ε (δ ⊕ α)}
    (hadv : ∀ deadline d, Advances (body deadline d))
    (hbody : ∀ deadline d, Lasts n (body deadline d)) (d : δ) :
    Lasts (span + n) (pollFor span body d) := by
  intro t
  have hloop := lasts_poll (t + span) (hadv (t + span)) (hbody (t + span)) d t
  rw [exec_pollFor]
  omega

end Poll

end Timed
