import Mathlib.Tactic.TypeStar

/-!
# VpnPanel.Lib.Run

Runs of a deterministic labelled machine `step : σ → α → σ`.

A machine is total: an action that is not enabled leaves the state alone, so a
run is any list of actions and every state reached is `run step s as`.  The
rules below package the induction on the list once:

* `run_invariant` — what every step preserves holds after every run;
* `run_invariant_of_meets` — the same for runs whose steps all meet a
  condition on the state before the step and the action;
* `always_iff_meets` — what holds all along a run, exactly when its steps meet a
  condition;
* `run_rel_of_meets` — a reflexive and transitive relation that every such
  step respects holds between the first and the last state of the run;
* `run_trace_invariant` — an invariant of the state and of the events the run
  has emitted so far (`trace`).
-/

namespace Machine

variable {σ α : Type*}

/-- The state after the actions `as`, taken in order from `s`. -/
def run (step : σ → α → σ) (s : σ) : List α → σ
  | [] => s
  | a :: as => run step (step s a) as

/-- Every step of the run meets `C`, a condition on the state before the step
and the action taken there. -/
def Meets (step : σ → α → σ) (C : σ → α → Prop) : σ → List α → Prop
  | _, [] => True
  | s, a :: as => C s a ∧ Meets step C (step s a) as

variable {step : σ → α → σ} {C D : σ → α → Prop} {I : σ → Prop}

@[simp] theorem run_nil (s : σ) : run step s [] = s := rfl

@[simp] theorem run_cons (s : σ) (a : α) (as : List α) :
    run step s (a :: as) = run step (step s a) as := rfl

theorem run_append (s : σ) (as bs : List α) :
    run step s (as ++ bs) = run step (run step s as) bs := by
  induction as generalizing s with
  | nil => rfl
  | cons a as ih => exact ih (step s a)

@[simp] theorem meets_nil (s : σ) : Meets step C s [] := trivial

@[simp] theorem meets_cons (s : σ) (a : α) (as : List α) :
    Meets step C s (a :: as) ↔ C s a ∧ Meets step C (step s a) as := Iff.rfl

theorem meets_append (s : σ) (as bs : List α) :
    Meets step C s (as ++ bs) ↔ Meets step C s as ∧ Meets step C (run step s as) bs := by
  induction as generalizing s with
  | nil => simp
  | cons a as ih => simp [ih, and_assoc]

/-- A run meets a condition when each of its steps does. -/
theorem meets_iff (s : σ) (as : List α) :
    Meets step C s as ↔ ∀ bs a cs, as = bs ++ a :: cs → C (run step s bs) a := by
  constructor
  · rintro h bs a cs rfl
    exact ((meets_append s bs (a :: cs)).mp h).2.1
  · intro h
    induction as generalizing s with
    | nil => trivial
    | cons a as ih =>
        exact ⟨h [] a as rfl, ih (step s a) fun bs b cs heq => h (a :: bs) b cs (by rw [heq]; rfl)⟩

theorem meets_of_forall (h : ∀ s a, C s a) (s : σ) (as : List α) : Meets step C s as := by
  induction as generalizing s with
  | nil => trivial
  | cons a as ih => exact ⟨h s a, ih (step s a)⟩

/-- A condition on a step can be decided along a run. -/
instance decidableMeets [∀ s a, Decidable (C s a)] (s : σ) :
    (as : List α) → Decidable (Meets step C s as)
  | [] => .isTrue trivial
  | a :: as =>
      have := decidableMeets (step s a) as
      inferInstanceAs (Decidable (C s a ∧ Meets step C (step s a) as))

/-- A run that meets `C` meets whatever `C` implies. -/
theorem Meets.mono (himp : ∀ s a, C s a → D s a) {s : σ} {as : List α}
    (hC : Meets step C s as) : Meets step D s as := by
  induction as generalizing s with
  | nil => trivial
  | cons a as ih => exact ⟨himp s a hC.1, ih hC.2⟩

/-- What the actions of a run are, whatever the states. -/
theorem Meets.and_of_mem {P : α → Prop} {s : σ} {as : List α} (hC : Meets step C s as)
    (hP : ∀ a ∈ as, P a) : Meets step (fun s a => C s a ∧ P a) s as := by
  induction as generalizing s with
  | nil => trivial
  | cons a as ih =>
      obtain ⟨ha, has⟩ := hC
      exact ⟨⟨ha, hP a List.mem_cons_self⟩, ih has fun b hb => hP b (List.mem_cons_of_mem a hb)⟩

/-- **Invariant rule.**  What every step that meets `C` preserves holds after
every run whose steps meet `C`. -/
theorem run_invariant_of_meets (hstep : ∀ s a, I s → C s a → I (step s a)) {s : σ} {as : List α}
    (hI : I s) (hC : Meets step C s as) : I (run step s as) := by
  induction as generalizing s with
  | nil => exact hI
  | cons a as ih =>
      obtain ⟨ha, has⟩ := hC
      exact ih (hstep s a hI ha) has

/-- **Invariant rule**, for steps that need no condition. -/
theorem run_invariant (hstep : ∀ s a, I s → I (step s a)) {s : σ} (hI : I s) (as : List α) :
    I (run step s as) :=
  run_invariant_of_meets (C := fun _ _ => True) (fun s a h _ => hstep s a h) hI
    (meets_of_forall (fun _ _ => trivial) s as)

/-- **Exactness rule.**  Where, of the steps that meet `H`, those that keep `P`
are exactly those that meet `C`, `P` holds all along a run of such steps exactly
when every step meets `C`. -/
theorem always_iff_meets {P : σ → Prop} {H : σ → α → Prop}
    (hstep : ∀ s a, I s → P s → H s a → I (step s a))
    (hexact : ∀ s a, I s → P s → H s a → (P (step s a) ↔ C s a)) {s : σ} (hI : I s) (hP : P s)
    {as : List α} (hH : Meets step H s as) :
    (∀ bs, bs <+: as → P (run step s bs)) ↔ Meets step C s as := by
  induction as generalizing s with
  | nil =>
      constructor
      · exact fun _ => trivial
      · rintro - bs hbs
        rwa [List.prefix_nil.mp hbs]
  | cons a as ih =>
      obtain ⟨ha, has⟩ := hH
      have hI' := hstep s a hI hP ha
      rw [meets_cons, ← hexact s a hI hP ha]
      constructor
      · intro h
        have hfst : P (step s a) := h [a] (by simp)
        refine ⟨hfst, (ih hI' hfst has).mp fun bs hbs => ?_⟩
        exact h (a :: bs) (List.cons_prefix_cons.mpr ⟨rfl, hbs⟩)
      · rintro ⟨hfst, hrest⟩ bs hbs
        cases bs with
        | nil => exact hP
        | cons b bs =>
            obtain ⟨rfl, htail⟩ := List.cons_prefix_cons.mp hbs
            exact (ih hI' hfst has).mpr hrest bs htail

/-- **Relation rule.**  A reflexive and transitive relation between the state
before and the state after every step holds between the ends of the run. -/
theorem run_rel_of_meets {R : σ → σ → Prop} (hrefl : ∀ s, R s s)
    (htrans : ∀ {s t u}, R s t → R t u → R s u)
    (hstep : ∀ s a, I s → C s a → I (step s a))
    (hrel : ∀ s a, I s → C s a → R s (step s a)) {s : σ} {as : List α}
    (hI : I s) (hC : Meets step C s as) : R s (run step s as) := by
  induction as generalizing s with
  | nil => exact hrefl s
  | cons a as ih =>
      obtain ⟨ha, has⟩ := hC
      exact htrans (hrel s a hI ha) (ih (hstep s a hI ha) has)

/-! ## events -/

/-- The events the steps of a run emit, in order. -/
def trace {β : Type*} (step : σ → α → σ) (emit : σ → α → Option β) (s : σ) : List α → List β
  | [] => []
  | a :: as => (emit s a).toList ++ trace step emit (step s a) as

variable {β : Type*} {emit : σ → α → Option β}

theorem trace_append (s : σ) (as bs : List α) :
    trace step emit s (as ++ bs) = trace step emit s as ++ trace step emit (run step s as) bs := by
  induction as generalizing s with
  | nil => rfl
  | cons a as ih => simp [trace, ih]

/-- **Invariant rule**, for the state and the events emitted on the way to it. -/
theorem run_trace_invariant {J : σ → List β → Prop}
    (hstep : ∀ s es a, J s es → J (step s a) (es ++ (emit s a).toList)) {s : σ} {es : List β}
    (hJ : J s es) (as : List α) : J (run step s as) (es ++ trace step emit s as) := by
  induction as generalizing s es with
  | nil => simpa [trace] using hJ
  | cons a as ih =>
      have hrest := ih (hstep s es a hJ)
      simpa [trace, List.append_assoc] using hrest

end Machine
