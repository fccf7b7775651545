import VpnPanel.Lib.Eff

/-!
# VpnPanel.Lib.Process

A sequential program cut into the steps between which other programs can run.

A step takes a stage and the shared state to the next stage or to the
program's outcome.  `runToEnd` takes the steps without interference, and
`Computes` says that this ends as a program given in one piece ends.
-/

namespace Process

variable {κ σ ρ : Type}

/-- What a step leads to. -/
inductive Result (κ σ ρ : Type) where
  | next (stage : κ) (state : σ)
  | done (outcome : ρ) (state : σ)

namespace Result

/-- The shared state after the step. -/
def state : Result κ σ ρ → σ
  | next _ s => s
  | done _ s => s

@[simp] theorem state_next (k : κ) (s : σ) : (next k s : Result κ σ ρ).state = s := rfl

@[simp] theorem state_done (r : ρ) (s : σ) : (done r s : Result κ σ ρ).state = s := rfl

/-- The stage after the step, if the program goes on. -/
def stage? : Result κ σ ρ → Option κ
  | next k _ => some k
  | done _ _ => none

@[simp] theorem stage?_next (k : κ) (s : σ) : (next k s : Result κ σ ρ).stage? = some k := rfl

@[simp] theorem stage?_done (r : ρ) (s : σ) : (done r s : Result κ σ ρ).stage? = none := rfl

end Result

/-- Take steps until the program ends, at most `fuel` of them. -/
def runToEnd (step : κ → σ → Result κ σ ρ) : Nat → κ → σ → Option (ρ × σ)
  | 0, _, _ => none
  | fuel + 1, k, s =>
      match step k s with
      | .next k' s' => runToEnd step fuel k' s'
      | .done r s' => some (r, s')

/-! ## steps that compute a program -/

variable {ε α : Type} {step : κ → σ → Result κ σ (Except ε α)}

/-- The steps from a stage end, within `fuel`, as the program `x` ends. -/
def Computes (step : κ → σ → Result κ σ (Except ε α)) (fuel : Nat) (k : κ) (s : σ)
    (x : Eff σ ε α) : Prop :=
  runToEnd step fuel k s = some (x.exec s)

variable {fuel : Nat} {k : κ} {s : σ} {x y : Eff σ ε α}

/-- The last step. -/
theorem computes_done (r : Except ε α) (s' : σ) (hstep : step k s = .done r s')
    (hx : x.exec s = (r, s')) : Computes step (fuel + 1) k s x := by
  rw [Computes, runToEnd, hstep, hx]

/-- A step that leaves `y` to be computed. -/
theorem computes_next (k' : κ) (s' : σ) (hstep : step k s = .next k' s') (hx : x.exec s = y.exec s')
    (h : Computes step fuel k' s' y) : Computes step (fuel + 1) k s x := by
  rw [Computes, runToEnd, hstep, hx]
  exact h

end Process
