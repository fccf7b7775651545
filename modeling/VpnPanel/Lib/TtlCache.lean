import Mathlib.Logic.Function.Basic

/-!
# VpnPanel.Lib.TtlCache

A cache of answers that are slow to get, each kept for a time that depends on the
answer.  A reader holds a row it has read, looks its key up, and where there is no fresh
entry asks; the entry it leaves is dated from when it began to ask.

The rows change while readers and entries hold them, and the cache is not told.  It is
coherent, `Coherent`, when what it answered for a row was asked for the same row, and not
longer ago than it may be kept.  `Sound` is the invariant behind it: what is fresh, and
what readers hold, is `current`.  Every operation keeps it, and so does a change of what
is current that leaves alone all that the cache is `Watching` (`Sound.change`).
-/

/-- A reader: the row it has read, and since when it asks for an answer. -/
structure TtlReader (R : Type*) where
  row : R
  asking : Option Nat := none

/-- An answer that was asked for. -/
structure TtlAsked (R V : Type*) where
  row : R
  started : Nat
  finished : Nat
  value : V

/-- An answer out of the cache. -/
structure TtlAnswer (R V : Type*) where
  row : R
  at_ : Nat
  value : V

/-- The cache with its readers and the clock; `asked` and `answers` record what was
asked and what was answered without asking. -/
structure TtlCache (I K R V : Type*) where
  entries : K → Option (Nat × V)
  readers : I → Option (TtlReader R)
  clock : Nat
  asked : List (TtlAsked R V)
  answers : List (TtlAnswer R V)

namespace TtlCache

variable {I K R V : Type*}

/-! ## operations -/

def empty : TtlCache I K R V where
  entries _ := none
  readers _ := none
  clock := 0
  asked := []
  answers := []

variable (key : R → K) (ttl : V → Nat) (s : TtlCache I K R V)

/-- A reader has read a row. -/
def read [DecidableEq I] (i : I) (row : R) : TtlCache I K R V :=
  match s.readers i with
  | none => { s with readers := Function.update s.readers i (some { row := row }) }
  | some _ => s

/-- The entry of a row, if it may still be used. -/
def lookup (row : R) : Option V :=
  match s.entries (key row) with
  | some (cachedAt, value) =>
      if (s.clock : Int) - cachedAt < ttl value then some value else none
  | none => none

/-- A reader looks its row up: it has its answer, or begins to ask. -/
def call [DecidableEq I] (i : I) : TtlCache I K R V :=
  match s.readers i with
  | some { row := row, asking := none } =>
      match lookup key ttl s row with
      | some value =>
          { s with
            readers := Function.update s.readers i none
            answers := s.answers ++ [⟨row, s.clock, value⟩] }
      | none =>
          { s with
            readers := Function.update s.readers i (some { row := row, asking := some s.clock }) }
  | _ => s

/-- A reader that asks has its answer, and leaves it in the cache. -/
def finish [DecidableEq I] [DecidableEq K] (i : I) (value : V) : TtlCache I K R V :=
  match s.readers i with
  | some { row := row, asking := some started } =>
      { s with
        entries := Function.update s.entries (key row) (some (started, value))
        readers := Function.update s.readers i none
        asked := s.asked ++ [⟨row, started, s.clock, value⟩] }
  | _ => s

/-- Time passes. -/
def elapse (d : Nat) : TtlCache I K R V := { s with clock := s.clock + d }

/-! ## coherence -/

variable (same : R → R → Prop)

/-- The answer was asked for the same row, and may be kept until then. -/
def Backed (asked : List (TtlAsked R V)) (a : TtlAnswer R V) : Prop :=
  ∃ q ∈ asked, same q.row a.row ∧ q.value = a.value ∧ q.finished ≤ a.at_ ∧
    a.at_ < q.started + ttl q.value

/-- **Coherence**: every answer out of the cache is backed. -/
def Coherent : Prop := ∀ a ∈ s.answers, Backed ttl same s.asked a

/-- The cache has a fresh entry under the key, or a reader holds a row of it. -/
def Watching (k : K) : Prop :=
  (∃ cachedAt value, s.entries k = some (cachedAt, value) ∧ s.clock < cachedAt + ttl value) ∨
    ∃ i r, s.readers i = some r ∧ key r.row = k

/-- The invariant: `current` tells the rows that are still as they were read. -/
structure Sound (current : R → Prop) : Prop where
  /-- An entry was asked for, and while it is fresh for a row that is current. -/
  entry : ∀ k cachedAt value, s.entries k = some (cachedAt, value) →
    ∃ q ∈ s.asked, key q.row = k ∧ q.started = cachedAt ∧ q.value = value ∧
      q.finished ≤ s.clock ∧ (s.clock < cachedAt + ttl value → current q.row)
  reader : ∀ i r, s.readers i = some r → current r.row
  coherent : Coherent ttl s same

section Rules

variable {key : R → K} {ttl : V → Nat} {s : TtlCache I K R V} {same : R → R → Prop}
  {current : R → Prop}

theorem sound_empty : Sound key ttl (empty : TtlCache I K R V) same current where
  entry k cachedAt value h := by simp [empty] at h
  reader i r h := by simp [empty] at h
  coherent a ha := by simp [empty] at ha

theorem Backed.mono {asked : List (TtlAsked R V)} {a : TtlAnswer R V}
    (h : Backed ttl same asked a) (q : TtlAsked R V) : Backed ttl same (asked ++ [q]) a := by
  obtain ⟨p, hp, hrest⟩ := h
  exact ⟨p, List.mem_append_left _ hp, hrest⟩

/-- What one reader becomes. -/
theorem reader_update [DecidableEq I] {readers : I → Option (TtlReader R)}
    {x : Option (TtlReader R)} (h : ∀ j r, readers j = some r → current r.row)
    (hx : ∀ r, x = some r → current r.row) (i j : I) (r : TtlReader R)
    (hr : Function.update readers i x j = some r) : current r.row := by
  by_cases hji : j = i
  · subst hji
    rw [Function.update_self] at hr
    exact hx r hr
  · rw [Function.update_of_ne hji] at hr
    exact h j r hr

theorem Sound.read [DecidableEq I] (h : Sound key ttl s same current) {row : R}
    (hrow : current row) (i : I) : Sound key ttl (s.read i row) same current := by
  unfold TtlCache.read
  split
  · refine ⟨h.entry, reader_update h.reader ?_ i, h.coherent⟩
    rintro r ⟨rfl⟩
    exact hrow
  · exact h

/-- What is looked up was asked for a row that is still current. -/
theorem Sound.lookup (h : Sound key ttl s same current) {row : R} {value : V}
    (hvalue : TtlCache.lookup key ttl s row = some value) :
    ∃ q ∈ s.asked, key q.row = key row ∧ current q.row ∧ q.value = value ∧
      q.finished ≤ s.clock ∧ s.clock < q.started + ttl q.value := by
  unfold TtlCache.lookup at hvalue
  split at hvalue
  · next cachedAt v hentry =>
    split at hvalue
    · next hfresh =>
      obtain rfl := Option.some.inj hvalue
      obtain ⟨q, hq, hkey, rfl, rfl, hfinished, hcurrent⟩ := h.entry _ _ _ hentry
      have hlt : s.clock < q.started + ttl q.value := by omega
      exact ⟨q, hq, hkey, hcurrent hlt, rfl, hfinished, hlt⟩
    · contradiction
  · contradiction

/-- **A call keeps the invariant** where the current rows of a key are the same. -/
theorem Sound.call [DecidableEq I] (h : Sound key ttl s same current)
    (hsame : ∀ r r', current r → current r' → key r = key r' → same r r') (i : I) :
    Sound key ttl (s.call key ttl i) same current := by
  unfold TtlCache.call
  split
  · next row hi =>
    have hrow : current row := h.reader i _ hi
    split
    · next value hvalue =>
      refine ⟨h.entry, reader_update h.reader (fun r hr => by cases hr) i, ?_⟩
      intro a ha
      obtain ha | ha := List.mem_append.mp ha
      · exact h.coherent a ha
      · obtain rfl := List.mem_singleton.mp ha
        obtain ⟨q, hq, hkey, hcurrent, hv, hfinished, hlt⟩ := h.lookup hvalue
        exact ⟨q, hq, hsame q.row row hcurrent hrow hkey, hv, hfinished, hlt⟩
    · refine ⟨h.entry, reader_update h.reader ?_ i, h.coherent⟩
      rintro r ⟨rfl⟩
      exact hrow
  · exact h

/-- **An answer keeps the invariant**: it is for a row that is still current. -/
theorem Sound.finish [DecidableEq I] [DecidableEq K] (h : Sound key ttl s same current) (i : I)
    (value : V) : Sound key ttl (s.finish key i value) same current := by
  unfold TtlCache.finish
  split
  · next row started hi =>
    have hrow : current row := h.reader i _ hi
    refine ⟨?_, reader_update h.reader (fun r hr => by cases hr) i,
      fun a ha => (h.coherent a ha).mono _⟩
    intro k cachedAt v hk
    dsimp only at hk
    by_cases hkey : k = key row
    · subst hkey
      rw [Function.update_self, Option.some.injEq, Prod.mk.injEq] at hk
      obtain ⟨rfl, rfl⟩ := hk
      exact ⟨⟨row, started, s.clock, value⟩, by simp, rfl, rfl, rfl, Nat.le_refl _, fun _ => hrow⟩
    · rw [Function.update_of_ne hkey] at hk
      obtain ⟨q, hq, hrest⟩ := h.entry k cachedAt v hk
      exact ⟨q, List.mem_append_left _ hq, hrest⟩
  · exact h

theorem Sound.elapse (h : Sound key ttl s same current) (d : Nat) :
    Sound key ttl (s.elapse d) same current where
  entry k cachedAt value hk := by
    obtain ⟨q, hq, hkey, hstarted, hvalue, hfinished, hcurrent⟩ := h.entry k cachedAt value hk
    have hclock : (s.elapse d).clock = s.clock + d := rfl
    exact ⟨q, hq, hkey, hstarted, hvalue, by omega, fun hlt => hcurrent (by omega)⟩
  reader := h.reader
  coherent := h.coherent

/-- **A change behind the back of the cache** keeps the invariant when the cache watches
none of the rows that are no longer current. -/
theorem Sound.change {current' : R → Prop} (h : Sound key ttl s same current)
    (hchange : ∀ row, current row → Watching key ttl s (key row) → current' row) :
    Sound key ttl s same current' where
  entry k cachedAt value hk := by
    obtain ⟨q, hq, hkey, hstarted, hvalue, hfinished, hcurrent⟩ := h.entry k cachedAt value hk
    refine ⟨q, hq, hkey, hstarted, hvalue, hfinished, fun hlt => ?_⟩
    exact hchange q.row (hcurrent hlt) (.inl ⟨cachedAt, value, hkey ▸ hk, hlt⟩)
  reader i r hr := hchange r.row (h.reader i r hr) (.inr ⟨i, r, hr, rfl⟩)
  coherent := h.coherent

end Rules

end TtlCache
