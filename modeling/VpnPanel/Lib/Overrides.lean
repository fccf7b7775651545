import Mathlib.Logic.Basic
import Mathlib.Tactic.TypeStar

/-!
# VpnPanel.Lib.Overrides

Records of fields, and lists of overrides of them: the last override of a field
wins.

* `apply_append` — overrides one after the other;
* `apply_eq_apply_iff` — when overrides of two records agree.
-/

namespace Overrides

variable {φ β : Type*} [DecidableEq φ]

/-- The last override of a field. -/
def last? : List (φ × β) → φ → Option β
  | [], _ => none
  | o :: os, f => (last? os f).or (if o.1 = f then some o.2 else none)

/-- A record with overrides. -/
def apply (base : φ → β) (os : List (φ × β)) (f : φ) : β := (last? os f).getD (base f)

theorem last?_append (os os' : List (φ × β)) (f : φ) :
    last? (os ++ os') f = (last? os' f).or (last? os f) := by
  induction os with
  | nil => simp [last?]
  | cons o os ih => simp [last?, ih, Option.or_assoc]

theorem apply_cons (base : φ → β) (o : φ × β) (os : List (φ × β)) :
    apply base (o :: os) = apply (fun f => if o.1 = f then o.2 else base f) os := by
  funext f
  simp only [apply, last?]
  cases last? os f with
  | some b => rfl
  | none =>
      by_cases h : o.1 = f
      · simp [h]
      · simp [h]

theorem apply_append (base : φ → β) (os os' : List (φ × β)) :
    apply base (os ++ os') = apply (apply base os) os' := by
  funext f
  unfold apply
  rw [last?_append]
  cases last? os' f with
  | some b => rfl
  | none => rfl

/-- Overrides of two records agree exactly when the other fields do. -/
theorem apply_eq_apply_iff {base base' : φ → β} {os : List (φ × β)} :
    apply base os = apply base' os ↔ ∀ f, last? os f = none → base f = base' f := by
  constructor
  · intro h f hf
    have happly := congrFun h f
    simpa [apply, hf] using happly
  · intro h
    funext f
    unfold apply
    cases hf : last? os f with
    | some b => rfl
    | none => exact h f hf

/-- A record has its overrides exactly when it has each. -/
theorem eq_apply_iff {base : φ → β} {os : List (φ × β)} :
    base = apply base os ↔ ∀ f b, last? os f = some b → base f = b := by
  constructor
  · intro h f b hf
    have happly := congrFun h f
    simpa [apply, hf] using happly
  · intro h
    funext f
    unfold apply
    cases hf : last? os f with
    | some b => exact h f b hf
    | none => rfl

end Overrides
