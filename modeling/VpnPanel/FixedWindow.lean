import VpnPanel.CountedAttempts
import VpnPanel.Lib.Quota

/-!
# VpnPanel.FixedWindow

What `PostgresRateLimiter.check_and_increment` admits of a sequence of
committed calls with one limit and one window length.

Calls are counted by the text `scope:identifier`.  `keysLimited`: of the calls
with one such text in one aligned window the first `limit` are admitted, and
any time shorter than a window sees at most twice as many.  Two pairs of a
scope and an identifier have one text only where a scope has a colon
(`key_injective`); the two scopes of the panel have none.
-/

namespace VpnPanel

/-- A call of `check_and_increment`, with its time in microseconds. -/
structure RateCall where
  scope : String
  identifier : String
  now : Nat
  deriving DecidableEq, Repr

/-- The text a call is counted under. -/
def RateCall.key (call : RateCall) : String := call.scope ++ ":" ++ call.identifier

/-- The start of the aligned window of a call. -/
def RateCall.window (windowSeconds : Nat) (call : RateCall) : Nat :=
  call.now / 1000000 / windowSeconds * windowSeconds

/-- `check_and_increment` on the committed entries. -/
def RateCall.check (limit windowSeconds : Nat) (call : RateCall) (rates : RateTable) :
    Except PyErr Unit × RateTable :=
  let entry := rateKey call.scope call.identifier windowSeconds call.now
  let rates := RateTable.increment rates entry
  (checkCount (rates entry) limit, rates)

/-- The calls one after the other, each with its outcome; a refused call has
been counted all the same. -/
def outcomes (limit windowSeconds : Nat) :
    RateTable → List RateCall → List (RateCall × Except PyErr Unit)
  | _, [] => []
  | rates, call :: calls =>
      let r := call.check limit windowSeconds rates
      (call, r.1) :: outcomes limit windowSeconds r.2 calls

/-- Of the calls that meet `p` the first `limit` are admitted, and no others. -/
def FirstAdmitted (limit windowSeconds : Nat) (calls : List RateCall) (p : RateCall → Bool) :
    Prop :=
  ((outcomes limit windowSeconds (fun _ => 0) calls).filter fun o => p o.1).map
      (fun o => o.2.isOk) =
    List.replicate (min (calls.countP p) limit) true ++
      List.replicate (calls.countP p - limit) false

/-- The admitted calls among those that meet `p`. -/
def admittedCount (limit windowSeconds : Nat) (calls : List RateCall) (p : RateCall → Bool) : Nat :=
  (outcomes limit windowSeconds (fun _ => 0) calls).countP fun o => p o.1 && o.2.isOk

/-- For every scope and identifier: of the calls in one aligned window the first
`limit` are admitted, and any time shorter than a window sees at most twice as
many. -/
def PairsLimited (limit windowSeconds : Nat) (calls : List RateCall) : Prop :=
  ∀ scope identifier,
    (∀ w, FirstAdmitted limit windowSeconds calls fun call =>
      (call.scope = scope && call.identifier = identifier) && call.window windowSeconds = w) ∧
    ∀ a b, b < a + windowSeconds * 1000000 →
      admittedCount limit windowSeconds calls (fun call =>
        (call.scope = scope && call.identifier = identifier) && a ≤ call.now && call.now ≤ b) ≤
        2 * limit

instance (limit windowSeconds : Nat) (calls : List RateCall) (p : RateCall → Bool) :
    Decidable (FirstAdmitted limit windowSeconds calls p) :=
  inferInstanceAs (Decidable (_ = _))

/-! ## the limiter of the calls -/

/-- The limiter the calls go through. -/
def callLimiter (limit windowSeconds : Nat) : Quota.Limiter RateKey RateCall where
  limit := limit
  key := fun call => rateKey call.scope call.identifier windowSeconds call.now
  counted := fun _ => true

variable {limit windowSeconds : Nat} {calls : List RateCall}

theorem exec_checkAndIncrement (call : RateCall) (s : ShareStore) :
    (checkAndIncrement (rateKey call.scope call.identifier windowSeconds call.now) limit).exec s =
      ((call.check limit windowSeconds s.rates).1,
        { s with rates := (call.check limit windowSeconds s.rates).2 }) := by
  simp [checkAndIncrement, RateCall.check, Eff.exec_bind]

theorem exec_checkLogin_call (call : RateCall) (s : LoginStore) :
    (checkLogin (rateKey call.scope call.identifier windowSeconds call.now) limit).exec s =
      ((call.check limit windowSeconds s.rates).1,
        { s with rates := (call.check limit windowSeconds s.rates).2 }) := by
  simp [checkLogin, RateCall.check, Eff.exec_bind]

theorem snd_check (call : RateCall) (rates : RateTable) :
    (call.check limit windowSeconds rates).2 =
      (callLimiter limit windowSeconds).step rates call := by
  funext key
  by_cases hkey : key = rateKey call.scope call.identifier windowSeconds call.now
  · simp [RateCall.check, RateTable.increment, Quota.Limiter.step, callLimiter, hkey]
  · simp [RateCall.check, RateTable.increment, Quota.Limiter.step, callLimiter, hkey]

theorem isOk_check (call : RateCall) (rates : RateTable) :
    (call.check limit windowSeconds rates).1.isOk =
      decide (rates ((callLimiter limit windowSeconds).key call) < limit) := by
  have hcount : (call.check limit windowSeconds rates).1 =
      checkCount (rates ((callLimiter limit windowSeconds).key call) + 1) limit := by
    simp [RateCall.check, RateTable.increment, callLimiter]
  rw [hcount]
  by_cases hlt : rates ((callLimiter limit windowSeconds).key call) < limit
  · rw [checkCount_eq_ok_iff.mpr hlt, decide_eq_true hlt]
    rfl
  · rw [checkCount, if_pos (by omega), decide_eq_false hlt]
    rfl

/-- The outcomes are the verdicts of the limiter. -/
theorem map_outcomes (rates : RateTable) (calls : List RateCall) :
    (outcomes limit windowSeconds rates calls).map (fun o => (o.1, o.2.isOk)) =
      (callLimiter limit windowSeconds).verdicts rates calls := by
  induction calls generalizing rates with
  | nil => rfl
  | cons call calls ih =>
      rw [outcomes, List.map_cons, ih, Quota.Limiter.verdicts, snd_check, isOk_check]
      rfl

/-! ## one entry -/

theorem rateKey_eq_iff {call : RateCall} {key : String} {w : Nat} :
    rateKey call.scope call.identifier windowSeconds call.now = ⟨key, w⟩ ↔
      call.key = key ∧ call.window windowSeconds = w := by
  simp [rateKey, RateCall.key, RateCall.window]

/-- **The calls of one entry**: the first `limit` are admitted. -/
theorem firstAdmitted_entry (limit windowSeconds : Nat) (calls : List RateCall) (key : String)
    (w : Nat) : FirstAdmitted limit windowSeconds calls fun call =>
      call.key = key && call.window windowSeconds = w := by
  have hentry : ∀ call : RateCall, (decide (call.key = key) && decide
      (call.window windowSeconds = w)) =
        decide ((callLimiter limit windowSeconds).key call = ⟨key, w⟩) := by
    intro call
    rw [← Bool.decide_and, decide_eq_decide]
    exact rateKey_eq_iff.symm
  have hcount : calls.countP (fun call => (callLimiter limit windowSeconds).key call =
      (⟨key, w⟩ : RateKey)) = _ := rfl
  have hverdicts := Quota.Limiter.verdicts_of_key (fun _ => 0) (fun _ _ _ => rfl) hcount
  rw [← map_outcomes, List.filter_map, List.map_map] at hverdicts
  unfold FirstAdmitted
  simp only [hentry]
  exact hverdicts

/-- The calls of one entry that are admitted are `limit` at most. -/
theorem admittedCount_entry_le (limit windowSeconds : Nat) (calls : List RateCall) (key : String)
    (w : Nat) : admittedCount limit windowSeconds calls (fun call =>
      call.key = key && call.window windowSeconds = w) ≤ limit := by
  have hfirst := congrArg (List.count true) (firstAdmitted_entry limit windowSeconds calls key w)
  rw [List.count_append, List.count_replicate_self, List.count_replicate, if_neg (by simp),
    List.count_eq_countP, List.countP_map, List.countP_filter] at hfirst
  have hcount : admittedCount limit windowSeconds calls (fun call =>
      call.key = key && call.window windowSeconds = w) = min (calls.countP fun call =>
        call.key = key && call.window windowSeconds = w) limit + 0 := by
    rw [admittedCount, ← hfirst]
    refine List.countP_congr fun o _ => ?_
    simp [and_comm]
  rw [hcount, Nat.add_zero]
  exact Nat.min_le_right _ _

/-! ## any time shorter than a window -/

/-- Times less than a window apart are in one window or in two that follow
each other. -/
theorem window_eq_or {windowSeconds a b now : Nat} (ha : a ≤ now) (hb : now ≤ b)
    (hab : b < a + windowSeconds * 1000000) :
    now / 1000000 / windowSeconds = a / 1000000 / windowSeconds ∨
      now / 1000000 / windowSeconds = a / 1000000 / windowSeconds + 1 := by
  obtain hzero | hpos := Nat.eq_zero_or_pos windowSeconds
  · subst hzero
    omega
  have hle : a / 1000000 / windowSeconds ≤ now / 1000000 / windowSeconds :=
    Nat.div_le_div_right (Nat.div_le_div_right ha)
  have hlt : now / 1000000 ≤ a / 1000000 + windowSeconds := by omega
  have hge : now / 1000000 / windowSeconds ≤ a / 1000000 / windowSeconds + 1 := by
    rw [← Nat.add_div_right _ hpos]
    exact Nat.div_le_div_right hlt
  omega

theorem countP_le_add {α : Type} {p q r : α → Bool} {l : List α}
    (h : ∀ a ∈ l, p a = true → q a = true ∨ r a = true) :
    l.countP p ≤ l.countP q + l.countP r := by
  induction l with
  | nil => simp
  | cons a l ih =>
      have hrest := ih fun b hb => h b (List.mem_cons_of_mem _ hb)
      have ha := h a List.mem_cons_self
      rw [List.countP_cons, List.countP_cons, List.countP_cons]
      cases hp : p a with
      | false =>
          simp
          omega
      | true =>
          obtain hq | hr := ha hp
          · simp [hq]
            omega
          · simp [hr]
            omega

/-- **Twice the limit**, in any time shorter than a window. -/
theorem admittedCount_interval_le (limit windowSeconds : Nat) (calls : List RateCall)
    (key : String) {a b : Nat} (hab : b < a + windowSeconds * 1000000) :
    admittedCount limit windowSeconds calls (fun call =>
      call.key = key && a ≤ call.now && call.now ≤ b) ≤ 2 * limit := by
  have hfirst := admittedCount_entry_le limit windowSeconds calls key
    (a / 1000000 / windowSeconds * windowSeconds)
  have hsecond := admittedCount_entry_le limit windowSeconds calls key
    ((a / 1000000 / windowSeconds + 1) * windowSeconds)
  have hsplit : admittedCount limit windowSeconds calls (fun call =>
      call.key = key && a ≤ call.now && call.now ≤ b) ≤
      admittedCount limit windowSeconds calls (fun call => call.key = key &&
        call.window windowSeconds = a / 1000000 / windowSeconds * windowSeconds) +
      admittedCount limit windowSeconds calls (fun call => call.key = key &&
        call.window windowSeconds = (a / 1000000 / windowSeconds + 1) * windowSeconds) := by
    unfold admittedCount
    refine countP_le_add fun o _ ho => ?_
    simp only [Bool.and_eq_true, decide_eq_true_eq] at ho ⊢
    obtain ⟨⟨⟨hkey, ha⟩, hb⟩, hok⟩ := ho
    obtain heq | heq := window_eq_or ha hb hab
    · exact Or.inl ⟨⟨hkey, by rw [RateCall.window, heq]⟩, hok⟩
    · exact Or.inr ⟨⟨hkey, by rw [RateCall.window, heq]⟩, hok⟩
  omega

/-! ## scopes and identifiers -/

/-- A list up to its first `a`. -/
theorem append_cons_inj {α : Type} {a : α} {s s' t t' : List α} (hs : a ∉ s) (hs' : a ∉ s')
    (heq : s ++ a :: t = s' ++ a :: t') : s = s' ∧ t = t' := by
  induction s generalizing s' with
  | nil =>
      cases s' with
      | nil => exact ⟨rfl, (List.cons.inj heq).2⟩
      | cons b s' => exact absurd (List.mem_cons.mpr (Or.inl (List.cons.inj heq).1)) hs'
  | cons b s ih =>
      cases s' with
      | nil => exact absurd (List.mem_cons.mpr (Or.inl (List.cons.inj heq).1.symm)) hs
      | cons b' s' =>
          obtain ⟨rfl, hrest⟩ := List.cons.inj heq
          obtain ⟨rfl, ht⟩ := ih (fun hmem => hs (List.mem_cons_of_mem _ hmem))
            (fun hmem => hs' (List.mem_cons_of_mem _ hmem)) hrest
          exact ⟨rfl, ht⟩

/-- Scopes without a colon can be read off the key. -/
theorem key_injective {scope scope' identifier identifier' : String}
    (hscope : ':' ∉ scope.toList) (hscope' : ':' ∉ scope'.toList)
    (heq : scope ++ ":" ++ identifier = scope' ++ ":" ++ identifier') :
    scope = scope' ∧ identifier = identifier' := by
  have hlist : scope.toList ++ ':' :: identifier.toList =
      scope'.toList ++ ':' :: identifier'.toList := by
    have heq := congrArg String.toList heq
    rw [String.toList_append, String.toList_append, String.toList_append, String.toList_append,
      List.append_assoc, List.append_assoc] at heq
    exact heq
  obtain ⟨hs, hi⟩ := append_cons_inj hscope hscope' hlist
  exact ⟨String.toList_inj.mp hs, String.toList_inj.mp hi⟩

/-- Of calls whose scopes have no colon, those of a scope and an identifier are
those of a key, or none. -/
theorem pair_cases (hscopes : ∀ call ∈ calls, ':' ∉ call.scope.toList)
    (scope identifier : String) :
    (∀ call ∈ calls, (decide (call.scope = scope) && decide (call.identifier = identifier)) =
        decide (call.key = scope ++ ":" ++ identifier)) ∨
      ∀ call ∈ calls, (decide (call.scope = scope) && decide (call.identifier = identifier)) =
        false := by
  by_cases hcolon : ':' ∈ scope.toList
  · refine Or.inr fun call hmem => ?_
    have hne : call.scope ≠ scope := fun heq => hscopes call hmem (heq ▸ hcolon)
    simp [hne]
  · refine Or.inl fun call hmem => ?_
    rw [← Bool.decide_and, decide_eq_decide]
    refine ⟨fun ⟨hscope, hidentifier⟩ => ?_, key_injective (hscopes call hmem) hcolon⟩
    rw [RateCall.key, hscope, hidentifier]

theorem map_fst_outcomes (rates : RateTable) (calls : List RateCall) :
    (outcomes limit windowSeconds rates calls).map Prod.fst = calls := by
  induction calls generalizing rates with
  | nil => rfl
  | cons call calls ih => rw [outcomes, List.map_cons, ih]

theorem mem_of_mem_outcomes {rates : RateTable} {o : RateCall × Except PyErr Unit}
    (h : o ∈ outcomes limit windowSeconds rates calls) : o.1 ∈ calls := by
  have hmem : o.1 ∈ (outcomes limit windowSeconds rates calls).map Prod.fst :=
    List.mem_map_of_mem h
  rwa [map_fst_outcomes] at hmem

theorem firstAdmitted_congr {p q : RateCall → Bool} (heq : ∀ call ∈ calls, p call = q call) :
    FirstAdmitted limit windowSeconds calls p ↔ FirstAdmitted limit windowSeconds calls q := by
  have hfilter : (outcomes limit windowSeconds (fun _ => 0) calls).filter (fun o => p o.1) =
      (outcomes limit windowSeconds (fun _ => 0) calls).filter fun o => q o.1 :=
    List.filter_congr fun o ho => heq o.1 (mem_of_mem_outcomes ho)
  have hcount : calls.countP p = calls.countP q :=
    List.countP_congr fun call hmem => by rw [heq call hmem]
  rw [FirstAdmitted, FirstAdmitted, hfilter, hcount]

theorem admittedCount_congr {p q : RateCall → Bool} (heq : ∀ call ∈ calls, p call = q call) :
    admittedCount limit windowSeconds calls p = admittedCount limit windowSeconds calls q :=
  List.countP_congr fun o ho => by rw [heq o.1 (mem_of_mem_outcomes ho)]

theorem pairsLimited (hscopes : ∀ call ∈ calls, ':' ∉ call.scope.toList) :
    PairsLimited limit windowSeconds calls := by
  intro scope identifier
  obtain hpair | hpair := pair_cases hscopes scope identifier
  · constructor
    · intro w
      have hentry := firstAdmitted_entry limit windowSeconds calls (scope ++ ":" ++ identifier) w
      exact (firstAdmitted_congr fun call hmem => by rw [hpair call hmem]).mpr hentry
    · intro a b hab
      have hle := admittedCount_interval_le limit windowSeconds calls
        (scope ++ ":" ++ identifier) hab
      have hcount : admittedCount limit windowSeconds calls (fun call =>
          (call.scope = scope && call.identifier = identifier) && a ≤ call.now && call.now ≤ b) =
          _ := admittedCount_congr fun call hmem => by rw [hpair call hmem]
      omega
  · have hnone : FirstAdmitted limit windowSeconds calls (fun _ => false) := by
      simp [FirstAdmitted]
    have hzero : admittedCount limit windowSeconds calls (fun _ => false) = 0 := by
      simp [admittedCount]
    constructor
    · intro w
      exact (firstAdmitted_congr fun call hmem => by
        rw [hpair call hmem, Bool.false_and]).mpr hnone
    · intro a b hab
      have hcount : admittedCount limit windowSeconds calls (fun call =>
          (call.scope = scope && call.identifier = identifier) && a ≤ call.now && call.now ≤ b) =
          admittedCount limit windowSeconds calls (fun _ => false) :=
        admittedCount_congr fun call hmem => by
          rw [hpair call hmem, Bool.false_and, Bool.false_and]
      omega

/-- **The fixed-window limit**, for every sequence of committed calls. -/
theorem keysLimited (limit windowSeconds : Nat) (calls : List RateCall) :
    (∀ key w, FirstAdmitted limit windowSeconds calls fun call =>
      call.key = key && call.window windowSeconds = w) ∧
    (∀ key a b, b < a + windowSeconds * 1000000 →
      admittedCount limit windowSeconds calls (fun call =>
        call.key = key && a ≤ call.now && call.now ≤ b) ≤ 2 * limit) ∧
    ((∀ call ∈ calls, ':' ∉ call.scope.toList) → PairsLimited limit windowSeconds calls) :=
  ⟨fun key w => firstAdmitted_entry limit windowSeconds calls key w,
    fun key _ _ hab => admittedCount_interval_le limit windowSeconds calls key hab, pairsLimited⟩

/-- A scope with a colon: a call for `b:c` in scope `a` refuses the one for `c`
in scope `a:b`. -/
theorem not_pairsLimited_of_colon :
    ¬ PairsLimited 1 60 [⟨"a", "b:c", 0⟩, ⟨"a:b", "c", 0⟩] := by
  intro h
  have hfirst := (h "a:b" "c").1 0
  revert hfirst
  decide

end VpnPanel
