import VpnPanel.Lib.Run
import Mathlib.Logic.Function.Basic
import Mathlib.Data.List.Basic

/-!
# VpnPanel.Lib.Counter

A shared counter that sessions increment in two accesses: a session reads the
value and later writes one more than it has read.

`value_run_eq_iff` says which interleavings count every write: those in which
no other write falls between a session's read and its own write
(`Undisturbed`).  A write that is disturbed loses an increment for good.
-/

namespace Counter

variable {κ : Type*} [DecidableEq κ]

/-- An access to the counter by a session. -/
inductive Access (κ : Type*) where
  | read (k : κ)
  | write (k : κ)

/-- The counter, and what the sessions that have not written yet have read. -/
structure Register (κ : Type*) where
  value : Nat
  loaded : κ → Option Nat

/-- One access; a session that has read nothing writes nothing. -/
def Register.access (s : Register κ) : Access κ → Register κ
  | .read k => { s with loaded := Function.update s.loaded k (some s.value) }
  | .write k =>
      match s.loaded k with
      | some n => { value := n + 1, loaded := Function.update s.loaded k none }
      | none => s

/-- The counter after the accesses. -/
abbrev run (s : Register κ) (es : List (Access κ)) : Register κ := Machine.run Register.access s es

/-- Sessions write what they have read. -/
abbrev Paired (s : Register κ) (es : List (Access κ)) : Prop :=
  Machine.Meets Register.access (fun s e => ∀ k, e = .write k → s.loaded k ≠ none) s es

omit [DecidableEq κ] in
/-- The number of writes. -/
def writes (es : List (Access κ)) : Nat :=
  (es.filter fun | .write _ => true | .read _ => false).length

omit [DecidableEq κ] in
/-- Between the read of a session and its write there is no write. -/
def Undisturbed (es : List (Access κ)) : Prop :=
  ∀ before k after, es = before ++ .write k :: after →
    ∃ earlier between, before = earlier ++ .read k :: between ∧ ∀ k', Access.write k' ∉ between

/-! ## fresh reads -/

omit [DecidableEq κ] in
/-- Every write is by a session in `fresh`, to which reads add and which a write
empties. -/
def AllFresh : (fresh : κ → Prop) → List (Access κ) → Prop
  | _, [] => True
  | fresh, .read k :: es => AllFresh (fun k' => k' = k ∨ fresh k') es
  | fresh, .write k :: es => fresh k ∧ AllFresh (fun _ => False) es

omit [DecidableEq κ] in
/-- Freshness in terms of the list: a session is fresh at first, or has read
since the last write. -/
theorem allFresh_iff (fresh : κ → Prop) (es : List (Access κ)) :
    AllFresh fresh es ↔ ∀ before k after, es = before ++ .write k :: after →
      (fresh k ∧ ∀ k', Access.write k' ∉ before) ∨
        ∃ earlier between, before = earlier ++ .read k :: between ∧
          ∀ k', Access.write k' ∉ between := by
  induction es generalizing fresh with
  | nil => simp [AllFresh]
  | cons e es ih =>
      cases e with
      | read k =>
          rw [AllFresh, ih]
          constructor
          · rintro h before k' after heq
            cases before with
            | nil => cases heq
            | cons e before =>
                obtain ⟨rfl, rfl⟩ : e = .read k ∧ es = before ++ .write k' :: after := by
                  simpa [eq_comm] using heq
                obtain ⟨rfl | hk', hno⟩ | ⟨earlier, between, rfl, hno⟩ := h before k' after rfl
                · exact Or.inr ⟨[], before, rfl, hno⟩
                · exact Or.inl ⟨hk', by simpa using hno⟩
                · exact Or.inr ⟨.read k :: earlier, between, rfl, hno⟩
          · intro h before k' after heq
            subst heq
            obtain ⟨hk', hno⟩ | ⟨earlier, between, hbefore, hno⟩ :=
              h (.read k :: before) k' after rfl
            · exact Or.inl ⟨Or.inr hk', by simpa using hno⟩
            · cases earlier with
              | nil =>
                  obtain ⟨rfl, rfl⟩ : k = k' ∧ before = between := by simpa using hbefore
                  exact Or.inl ⟨Or.inl rfl, hno⟩
              | cons e earlier =>
                  obtain ⟨rfl, rfl⟩ : .read k = e ∧ before = earlier ++ .read k' :: between := by
                    simpa using hbefore
                  exact Or.inr ⟨earlier, between, rfl, hno⟩
      | write k =>
          rw [AllFresh, ih]
          constructor
          · rintro ⟨hk, h⟩ before k' after heq
            cases before with
            | nil =>
                obtain ⟨rfl, rfl⟩ : k = k' ∧ es = after := by simpa using heq
                exact Or.inl ⟨hk, by simp⟩
            | cons e before =>
                obtain ⟨rfl, rfl⟩ : e = .write k ∧ es = before ++ .write k' :: after := by
                  simpa [eq_comm] using heq
                obtain ⟨hk', -⟩ | ⟨earlier, between, rfl, hno⟩ := h before k' after rfl
                · exact hk'.elim
                · exact Or.inr ⟨.write k :: earlier, between, rfl, hno⟩
          · intro h
            constructor
            · obtain ⟨hk, -⟩ | ⟨earlier, between, hnil, -⟩ := h [] k es rfl
              · exact hk
              · cases earlier <;> cases hnil
            · intro before k' after heq
              subst heq
              obtain ⟨-, hno⟩ | ⟨earlier, between, hbefore, hno⟩ :=
                h (.write k :: before) k' after rfl
              · exact absurd List.mem_cons_self (hno k)
              · cases earlier with
                | nil => cases hbefore
                | cons e earlier =>
                    obtain ⟨rfl, rfl⟩ : .write k = e ∧ before = earlier ++ .read k' :: between := by
                      simpa using hbefore
                    exact Or.inr ⟨earlier, between, rfl, hno⟩

omit [DecidableEq κ] in
theorem undisturbed_iff_allFresh (es : List (Access κ)) :
    Undisturbed es ↔ AllFresh (fun _ => False) es := by
  rw [allFresh_iff]
  constructor
  · intro h before k after heq
    exact Or.inr (h before k after heq)
  · intro h before k after heq
    obtain ⟨hk, -⟩ | hread := h before k after heq
    · exact hk.elim
    · exact hread

/-! ## the counter and the number of writes -/

omit [DecidableEq κ] in
/-- What the sessions have read, against `base`, the value a counter without
loss would have: a fresh session has read the value, any other has read less
than `base`. -/
structure Bounded (s : Register κ) (fresh : κ → Prop) (base : Nat) : Prop where
  value : s.value ≤ base
  current : ∀ k n, s.loaded k = some n → fresh k → n = s.value
  stale : ∀ k n, s.loaded k = some n → ¬ fresh k → n < base

variable {s : Register κ} {fresh : κ → Prop} {base : Nat}

theorem Bounded.read (h : Bounded s fresh base) (k : κ) :
    Bounded (s.access (.read k)) (fun k' => k' = k ∨ fresh k') base where
  value := h.value
  current k' n hn hk' := by
    by_cases hkk : k' = k
    · simpa [Register.access, hkk, eq_comm] using hn
    · simp only [Register.access, Function.update_of_ne hkk] at hn
      exact h.current k' n hn (hk'.resolve_left hkk)
  stale k' n hn hk' := by
    obtain ⟨hkk, hk'⟩ := not_or.mp hk'
    simp only [Register.access, Function.update_of_ne hkk] at hn
    exact h.stale k' n hn hk'

theorem Bounded.write (h : Bounded s fresh base) {k : κ} {n : Nat} (hn : s.loaded k = some n) :
    Bounded (s.access (.write k)) (fun _ => False) (base + 1) ∧
      ((s.access (.write k)).value = base + 1 ↔ s.value = base ∧ fresh k) := by
  have haccess : s.access (.write k) =
      { value := n + 1, loaded := Function.update s.loaded k none } := by
    simp [Register.access, hn]
  have hle (k' : κ) (m : Nat) (hm : s.loaded k' = some m) : m ≤ base := by
    by_cases hk' : fresh k'
    · rw [h.current k' m hm hk']
      exact h.value
    · exact Nat.le_of_lt (h.stale k' m hm hk')
  rw [haccess]
  constructor
  · constructor
    · exact Nat.succ_le_succ (hle k n hn)
    · intro k' m _ hk'
      exact hk'.elim
    · intro k' m hm _
      by_cases hkk : k' = k
      · simp [hkk] at hm
      · exact Nat.lt_succ_of_le (hle k' m (by simpa [hkk] using hm))
  · by_cases hk : fresh k
    · have hval := h.current k n hn hk
      simp [hval, hk]
    · have hlt := h.stale k n hn hk
      simp only [hk, and_false, iff_false]
      omega

/-- A run loses no write exactly when it starts without a loss and all its
writes are fresh. -/
theorem value_run_eq_iff_of_bounded {es : List (Access κ)} (h : Bounded s fresh base)
    (hpaired : Paired s es) :
    (run s es).value = base + writes es ↔ s.value = base ∧ AllFresh fresh es := by
  induction es generalizing s fresh base with
  | nil => simp [run, writes, AllFresh]
  | cons e es ih =>
      obtain ⟨he, hes⟩ := hpaired
      cases e with
      | read k =>
          have hread := ih (h.read k) hes
          simpa [run, writes, AllFresh, Register.access] using hread
      | write k =>
          obtain ⟨n, hn⟩ := Option.ne_none_iff_exists'.mp (he k rfl)
          obtain ⟨hbound, hval⟩ := h.write hn
          have hwrite := ih hbound hes
          have hcount : base + writes (.write k :: es) = base + 1 + writes es := by
            simp [writes]
            omega
          rw [hcount, AllFresh]
          show (run (s.access (.write k)) es).value = _ ↔ _
          rw [hwrite, hval]
          tauto

/-- **Which interleavings count every write.** -/
theorem value_run_eq_iff {es : List (Access κ)} (hnone : ∀ k, s.loaded k = none)
    (hpaired : Paired s es) :
    (run s es).value = s.value + writes es ↔ Undisturbed es := by
  have hbound : Bounded s (fun _ => False) s.value := by
    constructor
    · exact Nat.le_refl _
    · intro k n hn
      simp [hnone] at hn
    · intro k n hn
      simp [hnone] at hn
  rw [value_run_eq_iff_of_bounded hbound hpaired, undisturbed_iff_allFresh]
  simp

end Counter
