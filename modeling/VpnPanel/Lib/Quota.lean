import Mathlib.Logic.Function.Basic
import Mathlib.Data.List.Basic
import Mathlib.Data.List.Count

/-!
# VpnPanel.Lib.Quota

A limiter with a counter for each key: a hit is admitted while the counter of
its key is below the limit, and then counted, or not.  The hits are of any type
`η`, with a key and a mark.

* `length_admitted_le` — hits with one key, the first of them counted, are
  admitted up to the limit, whatever other hits there are;
* `oneKey_of_length_admitted_le` — no others keep to the limit where all
  counters start at zero;
* `verdicts_of_key` — the verdicts on the hits with one key.
-/

namespace Quota

variable {κ η : Type*} [DecidableEq κ]

/-- A limiter of the hits. -/
structure Limiter (κ η : Type*) where
  limit : Nat
  key : η → κ
  counted : η → Bool

namespace Limiter

variable (l : Limiter κ η)

/-- One hit. -/
def step (table : κ → Nat) (h : η) : κ → Nat :=
  if l.counted h then Function.update table (l.key h) (table (l.key h) + 1) else table

/-- The counters after the hits. -/
abbrev run (table : κ → Nat) (hs : List η) : κ → Nat := hs.foldl l.step table

/-- The hits that are admitted. -/
def admitted (table : κ → Nat) : List η → List η
  | [] => []
  | h :: hs =>
      if table (l.key h) < l.limit then h :: admitted (l.step table h) hs
      else admitted (l.step table h) hs

/-- The hits, each with whether it is admitted. -/
def verdicts (table : κ → Nat) : List η → List (η × Bool)
  | [] => []
  | h :: hs => (h, decide (table (l.key h) < l.limit)) :: verdicts (l.step table h) hs

variable {l} {table table' : κ → Nat} {hs : List η} {h : η} {k : κ}

theorem step_le (l : Limiter κ η) (table : κ → Nat) (h : η) (k : κ) :
    table k ≤ l.step table h k := by
  unfold step
  split
  · by_cases hk : k = l.key h
    · simp [hk]
    · simp [hk]
  · exact Nat.le_refl _

theorem step_of_ne (hne : k ≠ l.key h) : l.step table h k = table k := by
  unfold step
  split
  · simp [hne]
  · rfl

theorem step_of_counted (hcounted : l.counted h = true) (table : κ → Nat) :
    l.step table h (l.key h) = table (l.key h) + 1 := by
  simp [step, hcounted]

theorem step_le_succ (l : Limiter κ η) (table : κ → Nat) (h : η) (k : κ) :
    l.step table h k ≤ table k + 1 := by
  unfold step
  split
  · by_cases hk : k = l.key h
    · simp [hk]
    · simp [hk]
  · exact Nat.le_succ _

theorem admitted_sublist (l : Limiter κ η) (table : κ → Nat) (hs : List η) :
    (l.admitted table hs).Sublist hs := by
  induction hs generalizing table with
  | nil => exact List.Sublist.refl []
  | cons h hs ih =>
      rw [admitted]
      split
      · exact (ih _).cons_cons h
      · exact (ih _).cons h

/-! ## up to the limit -/

/-- **Hits with one key** are admitted `n` times at most, where the counter has
the limit up to `n` and the first `n` of them are counted. -/
theorem length_admitted_le (p : η → Bool) {n : Nat} (hkey : ∀ h ∈ hs, p h = true → l.key h = k)
    (hcounted : ∀ h ∈ (hs.filter p).take n, l.counted h = true) (hn : l.limit ≤ table k + n) :
    ((l.admitted table hs).filter p).length ≤ n := by
  induction hs generalizing table n with
  | nil => simp [admitted]
  | cons h hs ih =>
      have hrest : ∀ h' ∈ hs, p h' = true → l.key h' = k := fun h' hmem =>
        hkey h' (List.mem_cons_of_mem _ hmem)
      have hle := step_le l table h k
      rw [admitted]
      cases hp : p h with
      | false =>
          rw [List.filter_cons_of_neg (by simp [hp])] at hcounted
          have hlen : ((l.admitted (l.step table h) hs).filter p).length ≤ n :=
            ih hrest hcounted (by omega)
          split
          · simpa [hp] using hlen
          · exact hlen
      | true =>
          obtain rfl := hkey h List.mem_cons_self hp
          rw [List.filter_cons_of_pos hp] at hcounted
          split
          · next hlt =>
            cases n with
            | zero => omega
            | succ n =>
                rw [List.take_succ_cons] at hcounted
                have hstep := step_of_counted (hcounted h List.mem_cons_self) table
                have hlen : ((l.admitted (l.step table h) hs).filter p).length ≤ n :=
                  ih hrest (fun h' hmem => hcounted h' (List.mem_cons_of_mem _ hmem)) (by omega)
                simpa [hp] using hlen
          · have hlen : ((l.admitted (l.step table h) hs).filter p).length ≤ 0 :=
              ih hrest (by simp) (by omega)
            omega

/-! ## beyond it -/

/-- The counters of other keys do not matter. -/
theorem admitted_congr (heq : ∀ h ∈ hs, table (l.key h) = table' (l.key h)) :
    l.admitted table hs = l.admitted table' hs := by
  induction hs generalizing table table' with
  | nil => rfl
  | cons h hs ih =>
      have hh := heq h List.mem_cons_self
      have hrest : l.admitted (l.step table h) hs = l.admitted (l.step table' h) hs := by
        refine ih fun h' hmem => ?_
        by_cases hk : l.key h' = l.key h
        · rw [hk]
          simp [step, hh]
          split <;> simp [hh]
        · rw [step_of_ne hk, step_of_ne hk]
          exact heq h' (List.mem_cons_of_mem _ hmem)
      rw [admitted, admitted, hh, hrest]

/-- The admitted hits with some of the keys are those admitted alone. -/
theorem admitted_filter (l : Limiter κ η) (table : κ → Nat) (hs : List η) (p : κ → Bool) :
    (l.admitted table hs).filter (fun h => p (l.key h)) =
      l.admitted table (hs.filter fun h => p (l.key h)) := by
  induction hs generalizing table with
  | nil => rfl
  | cons h hs ih =>
      rw [admitted]
      cases hp : p (l.key h) with
      | true =>
          rw [List.filter_cons_of_pos (by simpa using hp), admitted]
          split
          · rw [List.filter_cons_of_pos (by simpa using hp), ih]
          · exact ih _
      | false =>
          rw [List.filter_cons_of_neg (by simp [hp])]
          have hrest : l.admitted (l.step table h) (hs.filter fun h => p (l.key h)) =
              l.admitted table (hs.filter fun h => p (l.key h)) := by
            refine admitted_congr fun h' hmem => step_of_ne ?_
            intro hk
            have hp' := (List.mem_filter.mp hmem).2
            simp only [hk, hp] at hp'
            cases hp'
          split
          · rw [List.filter_cons_of_neg (by simp [hp]), ih, hrest]
          · rw [ih, hrest]

theorem admitted_append (l : Limiter κ η) (table : κ → Nat) (hs hs' : List η) :
    l.admitted table (hs ++ hs') = l.admitted table hs ++ l.admitted (l.run table hs) hs' := by
  induction hs generalizing table with
  | nil => rfl
  | cons h hs ih =>
      rw [List.cons_append, admitted, admitted, ih]
      split <;> rfl

/-- Hits up to the limit are admitted. -/
theorem admitted_eq_self (hle : ∀ k, table k + hs.length ≤ l.limit) : l.admitted table hs = hs := by
  induction hs generalizing table with
  | nil => rfl
  | cons h hs ih =>
      have hlt : table (l.key h) < l.limit := by
        have hk := hle (l.key h)
        rw [List.length_cons] at hk
        omega
      have hrest : ∀ k, l.step table h k + hs.length ≤ l.limit := by
        intro k
        have hk := hle k
        have hstep := step_le_succ l table h k
        rw [List.length_cons] at hk
        omega
      rw [admitted, if_pos hlt, ih hrest]

/-- The counter of a key. -/
theorem run_apply (k : κ) :
    l.run table hs k = table k + hs.countP fun h => l.key h = k && l.counted h := by
  induction hs generalizing table with
  | nil => rfl
  | cons h hs ih =>
      show l.run (l.step table h) hs k = _
      rw [ih, List.countP_cons]
      by_cases hk : l.key h = k
      · subst hk
        cases hc : l.counted h with
        | true =>
            rw [step_of_counted hc]
            simp
            omega
        | false => simp [step, hc]
      · rw [step_of_ne (Ne.symm hk)]
        simp [hk]

/-- Where no hit is admitted, the counters are at the limit. -/
theorem limit_le_of_admitted_eq_nil (hnil : l.admitted table hs = []) :
    ∀ h ∈ hs, l.limit ≤ table (l.key h) := by
  induction hs generalizing table with
  | nil => simp
  | cons h hs ih =>
      rw [admitted] at hnil
      by_cases hlt : table (l.key h) < l.limit
      · simp [hlt] at hnil
      · rw [if_neg hlt] at hnil
        intro h' hmem
        obtain rfl | hmem := List.mem_cons.mp hmem
        · omega
        · by_cases hk : l.key h' = l.key h
          · rw [hk]
            omega
          · have hle := ih hnil h' hmem
            rwa [step_of_ne hk] at hle

/-- **More hits than the limit** are admitted, from counters at zero, unless
they have one key and the first of them are counted. -/
theorem oneKey_of_length_admitted_le (hpos : 0 < l.limit) (hzero : ∀ k, table k = 0)
    (hlong : l.limit < hs.length) (hle : (l.admitted table hs).length ≤ l.limit) :
    (∃ k, ∀ h ∈ hs, l.key h = k) ∧ ∀ h ∈ hs.take l.limit, l.counted h = true := by
  have htake : (hs.take l.limit).length = l.limit := List.length_take_of_le (by omega)
  have hfirst : l.admitted table (hs.take l.limit) = hs.take l.limit :=
    admitted_eq_self fun k => by rw [hzero, htake]; omega
  have hsplit := admitted_append l table (hs.take l.limit) (hs.drop l.limit)
  rw [List.take_append_drop, hfirst] at hsplit
  -- nothing is admitted after the first hits
  have hnil : l.admitted (l.run table (hs.take l.limit)) (hs.drop l.limit) = [] := by
    rw [hsplit, List.length_append, htake] at hle
    exact List.length_eq_zero_iff.mp (by omega)
  have hall : ∀ h ∈ hs.drop l.limit, ∀ h' ∈ hs.take l.limit,
      l.key h' = l.key h ∧ l.counted h' = true := by
    intro h hmem
    have hfull := limit_le_of_admitted_eq_nil hnil h hmem
    rw [run_apply, hzero, Nat.zero_add] at hfull
    have hcount : (hs.take l.limit).countP (fun h' => l.key h' = l.key h && l.counted h') =
        (hs.take l.limit).length := Nat.le_antisymm List.countP_le_length (by omega)
    simpa using List.countP_eq_length.mp hcount
  obtain ⟨first, hfirst⟩ : ∃ first, first ∈ hs.take l.limit :=
    List.exists_mem_of_length_pos (by omega)
  obtain ⟨later, hlater⟩ : ∃ later, later ∈ hs.drop l.limit :=
    List.exists_mem_of_length_pos (by rw [List.length_drop]; omega)
  refine ⟨⟨l.key first, fun h hmem => ?_⟩, fun h hmem => (hall later hlater h hmem).2⟩
  rw [← List.take_append_drop l.limit hs] at hmem
  obtain hmem | hmem := List.mem_append.mp hmem
  · rw [(hall later hlater h hmem).1, (hall later hlater first hfirst).1]
  · exact (hall h hmem first hfirst).1.symm

/-! ## hits with one key -/

/-- **The verdicts on the hits with one key** that are all counted: those the
counter has room for are admitted, the later ones are not. -/
theorem verdicts_of_key (table : κ → Nat)
    (hcounted : ∀ h ∈ hs, l.key h = k → l.counted h = true) {n : Nat}
    (hn : hs.countP (fun h => l.key h = k) = n) :
    ((l.verdicts table hs).filter fun v => l.key v.1 = k).map Prod.snd =
      List.replicate (min n (l.limit - table k)) true ++
        List.replicate (n - (l.limit - table k)) false := by
  induction hs generalizing table n with
  | nil =>
      subst hn
      simp [verdicts]
  | cons h hs ih =>
      have hrest : ∀ h' ∈ hs, l.key h' = k → l.counted h' = true := fun h' hmem =>
        hcounted h' (List.mem_cons_of_mem _ hmem)
      rw [verdicts]
      by_cases hk : l.key h = k
      · obtain rfl := hk
        rw [List.countP_cons_of_pos (by simp)] at hn
        obtain ⟨n, rfl⟩ : ∃ m, n = m + 1 := ⟨_, hn.symm⟩
        rw [List.filter_cons_of_pos (by simp), List.map_cons, ih _ hrest (Nat.succ.inj hn),
          step_of_counted (hcounted h List.mem_cons_self rfl)]
        by_cases hlt : table (l.key h) < l.limit
        · have hroom : min (n + 1) (l.limit - table (l.key h)) =
              min n (l.limit - (table (l.key h) + 1)) + 1 := by omega
          have hover : n + 1 - (l.limit - table (l.key h)) =
              n - (l.limit - (table (l.key h) + 1)) := by omega
          rw [hroom, hover, List.replicate_succ]
          simp [hlt]
        · have hfull : l.limit - table (l.key h) = 0 := by omega
          have hfull' : l.limit - (table (l.key h) + 1) = 0 := by omega
          rw [hfull, hfull']
          simp [hlt, List.replicate_succ]
      · rw [List.countP_cons_of_neg (by simpa using hk)] at hn
        rw [List.filter_cons_of_neg (by simpa using hk), ih _ hrest hn, step_of_ne (Ne.symm hk)]

end Limiter

end Quota
