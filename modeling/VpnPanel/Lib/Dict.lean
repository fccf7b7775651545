import Mathlib.Data.List.Basic
import Mathlib.Data.List.Nodup

/-!
# VpnPanel.Lib.Dict

Insertion-ordered dictionaries with distinct keys, as a language runtime with
ordered maps keeps them.  Assigning to a present key keeps its position,
assigning to a new key appends.

A dictionary filled from a list of pairs answers with the *last* pair of a key
(`get?_ofPairs`); `lastWins` is that reading of the list itself, with the
lemmas that let a proof move along the list instead of along the dictionary.
-/

universe u v

variable {κ : Type u} {ν : Type v}

/-- The value of the last pair with key `k`. -/
def lastWins [DecidableEq κ] (k : κ) : List (κ × ν) → Option ν
  | [] => none
  | (k', v) :: ps => (lastWins k ps).or (if k' = k then some v else none)

section LastWins

variable [DecidableEq κ]

@[simp] theorem lastWins_nil (k : κ) : lastWins k ([] : List (κ × ν)) = none := rfl

theorem lastWins_cons (k k' : κ) (v : ν) (ps : List (κ × ν)) :
    lastWins k ((k', v) :: ps) = (lastWins k ps).or (if k' = k then some v else none) := rfl

theorem lastWins_append (k : κ) (ps qs : List (κ × ν)) :
    lastWins k (ps ++ qs) = (lastWins k qs).or (lastWins k ps) := by
  induction ps with
  | nil => simp
  | cons p ps ih =>
      obtain ⟨k', v⟩ := p
      rw [List.cons_append, lastWins_cons, lastWins_cons, ih, Option.or_assoc]

/-- No pair has the key exactly when nothing is found. -/
theorem lastWins_eq_none_iff {k : κ} {ps : List (κ × ν)} :
    lastWins k ps = none ↔ ∀ p ∈ ps, p.1 ≠ k := by
  induction ps with
  | nil => simp
  | cons p ps ih =>
      obtain ⟨k', v⟩ := p
      by_cases hk : k' = k <;> simp [lastWins_cons, ih, hk]

/-- What is left out has other keys. -/
theorem lastWins_map_filter {α : Type*} {k : κ} {g : α → κ × ν} {q : α → Bool} {xs : List α}
    (h : ∀ x ∈ xs, q x = false → (g x).1 ≠ k) :
    lastWins k ((xs.filter q).map g) = lastWins k (xs.map g) := by
  induction xs with
  | nil => rfl
  | cons x xs ih =>
      obtain ⟨hx, hxs⟩ := List.forall_mem_cons.mp h
      rw [List.map_cons, show g x = ((g x).1, (g x).2) from rfl, lastWins_cons]
      cases hq : q x with
      | true =>
          rw [List.filter_cons_of_pos hq, List.map_cons, show g x = ((g x).1, (g x).2) from rfl,
            lastWins_cons, ih hxs]
      | false =>
          rw [List.filter_cons_of_neg (by simp [hq]), ih hxs, if_neg (hx hq), Option.or_none]

theorem mem_of_lastWins {k : κ} {v : ν} {ps : List (κ × ν)} (h : lastWins k ps = some v) :
    (k, v) ∈ ps := by
  induction ps with
  | nil => simp at h
  | cons p ps ih =>
      obtain ⟨k', w⟩ := p
      rw [lastWins_cons] at h
      cases hps : lastWins k ps with
      | some u =>
          have hu : u = v := by simpa [hps] using h
          exact List.mem_cons_of_mem _ (ih (hps.trans (congrArg some hu)))
      | none =>
          rw [hps, Option.none_or] at h
          split at h
          · next hk =>
            cases h
            rw [hk]
            exact List.mem_cons_self
          · contradiction

/-- Pairs with one value. -/
theorem lastWins_map_const {k : κ} {v w : ν} {ks : List κ} :
    lastWins k (ks.map fun l => (l, v)) = some w ↔ k ∈ ks ∧ w = v := by
  constructor
  · intro h
    obtain ⟨l, hl, heq⟩ := List.mem_map.mp (mem_of_lastWins h)
    obtain ⟨rfl, rfl⟩ := Prod.mk.inj heq
    exact ⟨hl, rfl⟩
  · rintro ⟨hk, rfl⟩
    cases h : lastWins k (ks.map fun l => (l, w)) with
    | none => exact absurd rfl (lastWins_eq_none_iff.mp h (k, w) (List.mem_map.mpr ⟨k, hk, rfl⟩))
    | some u =>
        obtain ⟨l, -, heq⟩ := List.mem_map.mp (mem_of_lastWins h)
        rw [(Prod.mk.inj heq).2]

end LastWins

/-- An insertion-ordered dictionary; the keys of its entries are distinct. -/
structure Dict (κ : Type u) (ν : Type v) where
  entries : List (κ × ν)
  nodup : (entries.map Prod.fst).Nodup

namespace Dict

/-- Assign a key in a list of entries. -/
def setEntries [DecidableEq κ] (k : κ) (v : ν) : List (κ × ν) → List (κ × ν)
  | [] => [(k, v)]
  | (k', w) :: ps => if k' = k then (k, v) :: ps else (k', w) :: setEntries k v ps

/-- The first entry with a key. -/
def findEntry [DecidableEq κ] (k : κ) : List (κ × ν) → Option ν
  | [] => none
  | (k', w) :: ps => if k' = k then some w else findEntry k ps

variable [DecidableEq κ]

theorem mem_keys_setEntries {k k' : κ} {v : ν} {ps : List (κ × ν)} :
    k' ∈ (setEntries k v ps).map Prod.fst ↔ k' = k ∨ k' ∈ ps.map Prod.fst := by
  induction ps with
  | nil => simp [setEntries]
  | cons p ps ih =>
      obtain ⟨l, w⟩ := p
      by_cases hl : l = k
      · simp [setEntries, hl]
      · simp only [setEntries, hl, if_false, List.map_cons, List.mem_cons, ih]
        tauto

theorem nodup_setEntries {k : κ} {v : ν} {ps : List (κ × ν)} (h : (ps.map Prod.fst).Nodup) :
    ((setEntries k v ps).map Prod.fst).Nodup := by
  induction ps with
  | nil => simp [setEntries]
  | cons p ps ih =>
      obtain ⟨l, w⟩ := p
      rw [List.map_cons, List.nodup_cons] at h
      by_cases hl : l = k
      · subst hl
        simpa [setEntries] using h
      · simp only [setEntries, hl, if_false, List.map_cons, List.nodup_cons]
        refine ⟨?_, ih h.2⟩
        rw [mem_keys_setEntries]
        rintro (rfl | hmem)
        · exact hl rfl
        · exact h.1 hmem

theorem findEntry_setEntries (k k' : κ) (v : ν) (ps : List (κ × ν)) :
    findEntry k' (setEntries k v ps) = if k = k' then some v else findEntry k' ps := by
  induction ps with
  | nil => rfl
  | cons p ps ih =>
      obtain ⟨l, w⟩ := p
      by_cases hl : l = k
      · subst hl
        by_cases hk : l = k' <;> simp [setEntries, findEntry, hk]
      · by_cases hk : l = k'
        · subst hk
          simp [setEntries, findEntry, hl, Ne.symm hl]
        · simp [setEntries, findEntry, hl, hk, ih]

theorem mem_setEntries {k : κ} {v : ν} {p : κ × ν} {ps : List (κ × ν)}
    (h : p ∈ setEntries k v ps) : p = (k, v) ∨ p ∈ ps := by
  induction ps with
  | nil => simpa [setEntries] using h
  | cons q ps ih =>
      obtain ⟨l, w⟩ := q
      by_cases hl : l = k
      · simp only [setEntries, hl, if_true, List.mem_cons] at h
        exact h.imp_right (List.mem_cons_of_mem _)
      · simp only [setEntries, hl, if_false, List.mem_cons] at h
        rcases h with rfl | h
        · exact Or.inr List.mem_cons_self
        · exact (ih h).imp_right (List.mem_cons_of_mem _)

/-- The empty dictionary. -/
def empty : Dict κ ν := ⟨[], List.nodup_nil⟩

/-- `d[k] = v`. -/
def set (d : Dict κ ν) (k : κ) (v : ν) : Dict κ ν :=
  ⟨setEntries k v d.entries, nodup_setEntries d.nodup⟩

/-- `d.get(k)`. -/
def get? (d : Dict κ ν) (k : κ) : Option ν := findEntry k d.entries

/-- The dictionary of the entries whose keys satisfy `p`. -/
def filter (d : Dict κ ν) (p : κ → Bool) : Dict κ ν :=
  ⟨d.entries.filter fun e => p e.1, d.nodup.sublist (List.filter_sublist.map Prod.fst)⟩

/-- Assign the pairs in order. -/
def setAll (d : Dict κ ν) : List (κ × ν) → Dict κ ν
  | [] => d
  | (k, v) :: ps => (d.set k v).setAll ps

/-- The dictionary of a list of pairs. -/
def ofPairs (ps : List (κ × ν)) : Dict κ ν := (empty : Dict κ ν).setAll ps

@[simp] theorem get?_empty (k : κ) : (empty : Dict κ ν).get? k = none := rfl

@[simp] theorem get?_set (d : Dict κ ν) (k k' : κ) (v : ν) :
    (d.set k v).get? k' = if k = k' then some v else d.get? k' :=
  findEntry_setEntries k k' v d.entries

theorem findEntry_filter (p : κ → Bool) (k : κ) (ps : List (κ × ν)) :
    findEntry k (ps.filter fun e => p e.1) = if p k then findEntry k ps else none := by
  induction ps with
  | nil => simp [findEntry]
  | cons e ps ih =>
      obtain ⟨l, w⟩ := e
      by_cases hl : l = k
      · subst hl
        by_cases hp : p l = true
        · simp [findEntry, hp]
        · simp [hp, ih]
      · by_cases hp : p l = true <;> simp [findEntry, hp, hl, ih]

@[simp] theorem get?_filter (d : Dict κ ν) (p : κ → Bool) (k : κ) :
    (d.filter p).get? k = if p k then d.get? k else none := findEntry_filter p k d.entries

theorem mem_set {d : Dict κ ν} {k : κ} {v : ν} {p : κ × ν} (h : p ∈ (d.set k v).entries) :
    p = (k, v) ∨ p ∈ d.entries := mem_setEntries h

theorem get?_setAll (d : Dict κ ν) (ps : List (κ × ν)) (k : κ) :
    (d.setAll ps).get? k = (lastWins k ps).or (d.get? k) := by
  induction ps generalizing d with
  | nil => simp [setAll]
  | cons p ps ih =>
      obtain ⟨k', v⟩ := p
      rw [setAll, ih, get?_set, lastWins_cons, Option.or_assoc]
      by_cases hk : k' = k <;> simp [hk]

/-- **The last pair of a key wins.** -/
theorem get?_ofPairs (ps : List (κ × ν)) (k : κ) : (ofPairs ps).get? k = lastWins k ps := by
  rw [ofPairs, get?_setAll, get?_empty, Option.or_none]

theorem mem_of_mem_setAll {d : Dict κ ν} {ps : List (κ × ν)} {p : κ × ν}
    (h : p ∈ (d.setAll ps).entries) : p ∈ d.entries ∨ p ∈ ps := by
  induction ps generalizing d with
  | nil => exact Or.inl h
  | cons q ps ih =>
      obtain ⟨k, v⟩ := q
      rcases ih h with h | h
      · rcases mem_set h with rfl | h
        · exact Or.inr List.mem_cons_self
        · exact Or.inl h
      · exact Or.inr (List.mem_cons_of_mem _ h)

/-- Every entry of `ofPairs` is one of the pairs. -/
theorem mem_of_mem_ofPairs {ps : List (κ × ν)} {p : κ × ν} (h : p ∈ (ofPairs ps).entries) :
    p ∈ ps := by
  rcases mem_of_mem_setAll h with h | h
  · simp [empty] at h
  · exact h

/-- Reading the entries by "last wins" is `get?`: the keys are distinct. -/
theorem lastWins_entries (d : Dict κ ν) (k : κ) : lastWins k d.entries = d.get? k := by
  obtain ⟨ps, hnd⟩ := d
  induction ps with
  | nil => rfl
  | cons p ps ih =>
      obtain ⟨l, w⟩ := p
      rw [List.map_cons, List.nodup_cons] at hnd
      have hps : lastWins k ps = findEntry k ps := ih hnd.2
      rw [lastWins_cons, hps]
      by_cases hl : l = k
      · subst hl
        have hnone : findEntry l ps = none := by
          rw [← hps, lastWins_eq_none_iff]
          intro p hp hkey
          exact hnd.1 (List.mem_map.mpr ⟨p, hp, hkey⟩)
        simp [get?, findEntry, hnone]
      · simp [get?, findEntry, hl]

/-- A key is there when it has a value. -/
theorem mem_keys_iff {d : Dict κ ν} {k : κ} :
    k ∈ d.entries.map Prod.fst ↔ (d.get? k).isSome = true := by
  obtain ⟨ps, hnd⟩ := d
  induction ps with
  | nil => simp [get?, findEntry]
  | cons p ps ih =>
      obtain ⟨l, w⟩ := p
      have hps := ih (List.nodup_cons.mp hnd).2
      simp only [get?] at hps
      by_cases hl : l = k
      · simp [get?, findEntry, hl]
      · simp only [List.map_cons, List.mem_cons, get?, findEntry, hl, if_false, Ne.symm hl,
          false_or, hps]

theorem findEntry_eq_none_iff {k : κ} {ps : List (κ × ν)} :
    findEntry k ps = none ↔ ∀ p ∈ ps, p.1 ≠ k := by
  induction ps with
  | nil => simp [findEntry]
  | cons p ps ih =>
      obtain ⟨l, w⟩ := p
      by_cases hl : l = k <;> simp [findEntry, hl, ih]

theorem mem_of_findEntry {k : κ} {v : ν} {ps : List (κ × ν)} (h : findEntry k ps = some v) :
    (k, v) ∈ ps := by
  induction ps with
  | nil => simp [findEntry] at h
  | cons p ps ih =>
      obtain ⟨l, w⟩ := p
      by_cases hl : l = k
      · simp only [findEntry, hl, if_true, Option.some.injEq] at h
        simp [hl, h]
      · simp only [findEntry, hl, if_false] at h
        exact List.mem_cons_of_mem _ (ih h)

/-- The entries of a dictionary are the pairs it assigns. -/
theorem mem_entries_iff {d : Dict κ ν} {k : κ} {v : ν} :
    (k, v) ∈ d.entries ↔ d.get? k = some v := by
  constructor
  · intro hmem
    have hkey : k ∈ d.entries.map Prod.fst := List.mem_map.mpr ⟨(k, v), hmem, rfl⟩
    obtain ⟨w, hw⟩ := Option.isSome_iff_exists.mp (mem_keys_iff.mp hkey)
    have heq := List.inj_on_of_nodup_map d.nodup hmem (mem_of_findEntry hw) rfl
    rw [hw, (Prod.mk.inj heq).2]
  · exact fun h => mem_of_findEntry h

theorem findEntry_append (k : κ) (ps qs : List (κ × ν)) :
    findEntry k (ps ++ qs) = (findEntry k ps).or (findEntry k qs) := by
  induction ps with
  | nil => simp [findEntry]
  | cons p ps ih =>
      obtain ⟨l, w⟩ := p
      by_cases hl : l = k <;> simp [findEntry, hl, ih]

/-! ## keys that are compared through a function -/

section MapKeys

variable {κ' : Type*} [DecidableEq κ'] {f : κ → κ'}

theorem findEntry_mapKeys {k : κ} {ps : List (κ × ν)} (h : ∀ p ∈ ps, f p.1 = f k → p.1 = k) :
    findEntry (f k) (ps.map fun p => (f p.1, p.2)) = findEntry k ps := by
  induction ps with
  | nil => rfl
  | cons p ps ih =>
      obtain ⟨hp, hps⟩ := List.forall_mem_cons.mp h
      by_cases hk : p.1 = k
      · simp [findEntry, hk]
      · have hf : f p.1 ≠ f k := fun heq => hk (hp heq)
        simp [findEntry, hk, hf, ih hps]

theorem lastWins_mapKeys {k : κ} {ps : List (κ × ν)} (h : ∀ p ∈ ps, f p.1 = f k → p.1 = k) :
    lastWins (f k) (ps.map fun p => (f p.1, p.2)) = lastWins k ps := by
  induction ps with
  | nil => rfl
  | cons p ps ih =>
      obtain ⟨l, v⟩ := p
      obtain ⟨hp, hps⟩ := List.forall_mem_cons.mp h
      rw [List.map_cons, lastWins_cons, lastWins_cons, ih hps]
      by_cases hk : l = k
      · simp [hk]
      · have hf : f l ≠ f k := fun heq => hk (hp heq)
        simp [hk, hf]

/-- Where `f` keeps the keys apart, a dictionary read through it is the list
read through it. -/
theorem findEntry_mapKeys_ofPairs {ps : List (κ × ν)}
    (h : ∀ p ∈ ps, ∀ q ∈ ps, f p.1 = f q.1 → p.1 = q.1) (k : κ') :
    findEntry k ((ofPairs ps).entries.map fun p => (f p.1, p.2)) =
      lastWins k (ps.map fun p => (f p.1, p.2)) := by
  by_cases hk : ∃ p ∈ ps, f p.1 = k
  · obtain ⟨p, hp, rfl⟩ := hk
    rw [findEntry_mapKeys fun q hq => h q (mem_of_mem_ofPairs hq) p hp,
      lastWins_mapKeys fun q hq => h q hq p hp]
    exact get?_ofPairs ps p.1
  · have hnone : ∀ p ∈ ps, f p.1 ≠ k := fun p hp heq => hk ⟨p, hp, heq⟩
    have hlist : lastWins k (ps.map fun p => (f p.1, p.2)) = none := by
      rw [lastWins_eq_none_iff]
      intro e he
      obtain ⟨p, hp, rfl⟩ := List.mem_map.mp he
      exact hnone p hp
    rw [hlist, findEntry_eq_none_iff]
    intro e he
    obtain ⟨p, hp, rfl⟩ := List.mem_map.mp he
    exact hnone p (mem_of_mem_ofPairs hp)

end MapKeys

end Dict
