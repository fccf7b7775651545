import VpnPanel.Lib.PyVal

/-!
# VpnPanel.Lib.PyPos

Positions in a value: which child of which child, items of lists and entries of
dictionaries counted from zero.

* `at?` — the value at a position;
* `mapStrings` — every string replaced by a function of its position and
  itself, all else kept;
* `at?_mapStrings`, `mapStrings_mapStrings`, `mapStrings_congr` — its laws.
-/

namespace PyVal

/-- What a container holds. -/
def children : PyVal → List PyVal
  | list xs => xs
  | dict kvs => kvs.map Prod.snd
  | _ => []

/-- The value at a position. -/
def at? : List Nat → PyVal → Option PyVal
  | [], v => some v
  | n :: pos, v => (v.children[n]?).bind (at? pos)

mutual
/-- Replace every string by what `g` makes of its position and itself. -/
def mapStrings (g : List Nat → String → String) : PyVal → PyVal
  | str s => str (g [] s)
  | list xs => list (mapItems g 0 xs)
  | dict kvs => dict (mapEntries g 0 kvs)
  | none => none
  | bool b => bool b
  | int i => int i
  | float r => float r

/-- The items of a list, the first of them at position `n`. -/
def mapItems (g : List Nat → String → String) (n : Nat) : List PyVal → List PyVal
  | [] => []
  | x :: xs => mapStrings (fun pos => g (n :: pos)) x :: mapItems g (n + 1) xs

/-- The entries of a dictionary. -/
def mapEntries (g : List Nat → String → String) (n : Nat) :
    List (String × PyVal) → List (String × PyVal)
  | [] => []
  | (k, v) :: kvs => (k, mapStrings (fun pos => g (n :: pos)) v) :: mapEntries g (n + 1) kvs
end

variable {g g' : List Nat → String → String}

/-! ## children -/

theorem getElem?_mapItems (g : List Nat → String → String) (n i : Nat) (xs : List PyVal) :
    (mapItems g n xs)[i]? = xs[i]?.map (mapStrings fun pos => g ((n + i) :: pos)) := by
  induction xs generalizing n i with
  | nil => simp [mapItems]
  | cons x xs ih =>
      cases i with
      | zero => simp [mapItems]
      | succ i =>
          have hpos : n + 1 + i = n + (i + 1) := by omega
          simp [mapItems, ih, hpos]

theorem length_mapItems (g : List Nat → String → String) (n : Nat) (xs : List PyVal) :
    (mapItems g n xs).length = xs.length := by
  induction xs generalizing n with
  | nil => rfl
  | cons x xs ih => simp [mapItems, ih]

theorem map_snd_mapEntries (g : List Nat → String → String) (n : Nat)
    (kvs : List (String × PyVal)) :
    (mapEntries g n kvs).map Prod.snd = mapItems g n (kvs.map Prod.snd) := by
  induction kvs generalizing n with
  | nil => rfl
  | cons kv kvs ih => simp [mapEntries, mapItems, ih]

theorem map_fst_mapEntries (g : List Nat → String → String) (n : Nat)
    (kvs : List (String × PyVal)) : (mapEntries g n kvs).map Prod.fst = kvs.map Prod.fst := by
  induction kvs generalizing n with
  | nil => rfl
  | cons kv kvs ih => simp [mapEntries, ih]

theorem mapEntries_append (g : List Nat → String → String) (n : Nat)
    (kvs lws : List (String × PyVal)) :
    mapEntries g n (kvs ++ lws) = mapEntries g n kvs ++ mapEntries g (n + kvs.length) lws := by
  induction kvs generalizing n with
  | nil => rfl
  | cons kv kvs ih =>
      have hpos : n + 1 + kvs.length = n + (kvs.length + 1) := by omega
      simp [mapEntries, ih, hpos]

theorem children_mapStrings (v : PyVal) : (v.mapStrings g).children = mapItems g 0 v.children := by
  cases v with
  | dict kvs => exact map_snd_mapEntries g 0 kvs
  | list xs => simp [mapStrings, children]
  | none | bool _ | int _ | float _ | str _ => simp [mapStrings, children, mapItems]

theorem at?_mapStrings (v : PyVal) (pos : List Nat) :
    (v.mapStrings g).at? pos = (v.at? pos).map (mapStrings fun q => g (pos ++ q)) := by
  induction pos generalizing v g with
  | nil => rfl
  | cons n pos ih =>
      rw [at?, at?, children_mapStrings, getElem?_mapItems]
      cases v.children[n]? with
      | none => rfl
      | some c => simpa using ih c

/-! ## laws -/

mutual
theorem mapStrings_mapStrings (g g' : List Nat → String → String) :
    (v : PyVal) → (v.mapStrings g).mapStrings g' = v.mapStrings fun pos s => g' pos (g pos s)
  | str _ => by simp [mapStrings]
  | list xs => by simp [mapStrings, mapItems_mapItems g g' 0 xs]
  | dict kvs => by simp [mapStrings, mapEntries_mapEntries g g' 0 kvs]
  | none | bool _ | int _ | float _ => by simp [mapStrings]

theorem mapItems_mapItems (g g' : List Nat → String → String) (n : Nat) :
    (xs : List PyVal) →
      mapItems g' n (mapItems g n xs) = mapItems (fun pos s => g' pos (g pos s)) n xs
  | [] => rfl
  | x :: xs => by
      rw [mapItems, mapItems, mapItems, mapStrings_mapStrings, mapItems_mapItems]

theorem mapEntries_mapEntries (g g' : List Nat → String → String) (n : Nat) :
    (kvs : List (String × PyVal)) →
      mapEntries g' n (mapEntries g n kvs) = mapEntries (fun pos s => g' pos (g pos s)) n kvs
  | [] => rfl
  | (k, v) :: kvs => by
      rw [mapEntries, mapEntries, mapEntries, mapStrings_mapStrings, mapEntries_mapEntries]
end

mutual
/-- Only the strings at their positions matter. -/
theorem mapStrings_congr (g g' : List Nat → String → String) :
    (v : PyVal) → (∀ pos s, v.at? pos = some (str s) → g pos s = g' pos s) →
      v.mapStrings g = v.mapStrings g'
  | str s, h => by
      have hs := h [] s rfl
      simp [mapStrings, hs]
  | list xs, h => by
      have hitems := mapItems_congr g g' 0 xs fun i x hx pos s hs => by
        rw [Nat.zero_add]
        exact h (i :: pos) s (by simp [at?, children, hx, hs])
      simp [mapStrings, hitems]
  | dict kvs, h => by
      have hentries := mapEntries_congr g g' 0 kvs fun i kv hkv pos s hs => by
        rw [Nat.zero_add]
        exact h (i :: pos) s (by simp [at?, children, hkv, hs])
      simp [mapStrings, hentries]
  | none, _ | bool _, _ | int _, _ | float _, _ => by simp [mapStrings]

theorem mapItems_congr (g g' : List Nat → String → String) (n : Nat) :
    (xs : List PyVal) → (∀ (i : Nat) (x : PyVal), xs[i]? = some x → ∀ pos s,
      x.at? pos = some (str s) → g ((n + i) :: pos) s = g' ((n + i) :: pos) s) →
      mapItems g n xs = mapItems g' n xs
  | [], _ => rfl
  | x :: xs, h => by
      have hx := mapStrings_congr (fun pos => g (n :: pos)) (fun pos => g' (n :: pos)) x
        fun pos s hs => h 0 x rfl pos s hs
      have hxs := mapItems_congr g g' (n + 1) xs fun i y hy pos s hs => by
        have hpos : n + 1 + i = n + (i + 1) := by omega
        rw [hpos]
        exact h (i + 1) y (by simpa using hy) pos s hs
      rw [mapItems, mapItems, hx, hxs]

theorem mapEntries_congr (g g' : List Nat → String → String) (n : Nat) :
    (kvs : List (String × PyVal)) → (∀ (i : Nat) (kv : String × PyVal), kvs[i]? = some kv →
      ∀ pos s, kv.2.at? pos = some (str s) → g ((n + i) :: pos) s = g' ((n + i) :: pos) s) →
      mapEntries g n kvs = mapEntries g' n kvs
  | [], _ => rfl
  | (k, v) :: kvs, h => by
      have hv := mapStrings_congr (fun pos => g (n :: pos)) (fun pos => g' (n :: pos)) v
        fun pos s hs => h 0 (k, v) rfl pos s hs
      have hkvs := mapEntries_congr g g' (n + 1) kvs fun i kv hkv pos s hs => by
        have hpos : n + 1 + i = n + (i + 1) := by omega
        rw [hpos]
        exact h (i + 1) kv (by simpa using hkv) pos s hs
      rw [mapEntries, mapEntries, hv, hkvs]
end

mutual
theorem mapStrings_id : (v : PyVal) → v.mapStrings (fun _ s => s) = v
  | list xs => by simp [mapStrings, mapItems_id 0 xs]
  | dict kvs => by simp [mapStrings, mapEntries_id 0 kvs]
  | str _ | none | bool _ | int _ | float _ => by simp [mapStrings]

theorem mapItems_id (n : Nat) : (xs : List PyVal) → mapItems (fun _ s => s) n xs = xs
  | [] => rfl
  | x :: xs => by rw [mapItems, mapStrings_id, mapItems_id]

theorem mapEntries_id (n : Nat) :
    (kvs : List (String × PyVal)) → mapEntries (fun _ s => s) n kvs = kvs
  | [] => rfl
  | (k, v) :: kvs => by rw [mapEntries, mapStrings_id, mapEntries_id]
end

/-- Strings that keep what they are. -/
theorem mapStrings_eq_self {v : PyVal} (h : ∀ pos s, v.at? pos = some (str s) → g pos s = s) :
    v.mapStrings g = v := by
  rw [mapStrings_congr g (fun _ s => s) v h, mapStrings_id]

/-! ## assigned entries -/

/-- The function that is `f` inside the child `n` and `g` elsewhere. -/
def inside (n : Nat) (f g : List Nat → String → String) : List Nat → String → String
  | [] => g []
  | m :: pos => if m = n then f pos else g (m :: pos)

theorem inside_here (n : Nat) (f g : List Nat → String → String) :
    (fun pos => inside n f g (n :: pos)) = f := by
  funext pos
  simp [inside]

theorem inside_elsewhere {n m : Nat} (hne : m ≠ n) (f g : List Nat → String → String) :
    (fun pos => inside n f g (m :: pos)) = fun pos => g (m :: pos) := by
  funext pos
  simp [inside, hne]

theorem mapEntries_inside_of_lt {n m : Nat} (hlt : m < n) (f g : List Nat → String → String)
    (kvs : List (String × PyVal)) : mapEntries (inside m f g) n kvs = mapEntries g n kvs := by
  induction kvs generalizing n with
  | nil => rfl
  | cons kv kvs ih =>
      obtain ⟨k, v⟩ := kv
      rw [mapEntries, mapEntries, inside_elsewhere (by omega), ih (by omega)]

/-- The index of a key, or of the entry that would be added for it. -/
def keyIndex (key : String) : List (String × PyVal) → Nat
  | [] => 0
  | (k, _) :: kvs => if k = key then 0 else keyIndex key kvs + 1

/-- Another value assigned under a key of a dictionary with other strings. -/
theorem setKey_mapEntries (key : String) (v : PyVal) (f g : List Nat → String → String) (n : Nat)
    (kvs : List (String × PyVal)) : setKey key (v.mapStrings f) (mapEntries g n kvs) =
      mapEntries (inside (n + keyIndex key kvs) f g) n (setKey key v kvs) := by
  induction kvs generalizing n with
  | nil => simp [mapEntries, setKey, keyIndex, inside_here]
  | cons kv kvs ih =>
      obtain ⟨k, w⟩ := kv
      rw [mapEntries, setKey, setKey, keyIndex]
      by_cases hk : k = key
      · rw [if_pos hk, if_pos hk, if_pos hk, mapEntries]
        simp only [Nat.add_zero, inside_here, mapEntries_inside_of_lt (Nat.lt_succ_self n)]
      · have hindex : n + (keyIndex key kvs + 1) = n + 1 + keyIndex key kvs := by omega
        rw [if_neg hk, if_neg hk, if_neg hk, mapEntries, hindex, inside_elsewhere (by omega), ih]

/-! ## strings -/

/-- The string at a position. -/
def stringAt (v : PyVal) (pos : List Nat) : Option String :=
  match v.at? pos with
  | some (str s) => some s
  | _ => Option.none

theorem stringAt_eq_some_iff {v : PyVal} {pos : List Nat} {s : String} :
    v.stringAt pos = some s ↔ v.at? pos = some (str s) := by
  unfold stringAt
  split
  · next t ht => simp [ht]
  · next hno => exact iff_of_false nofun fun h => hno s h

theorem stringAt_mapStrings (g : List Nat → String → String) (v : PyVal) (pos : List Nat) :
    (v.mapStrings g).stringAt pos = (v.stringAt pos).map (g pos) := by
  unfold stringAt
  rw [at?_mapStrings]
  cases hv : v.at? pos with
  | none => rfl
  | some w =>
      cases w with
      | str s => simp [mapStrings]
      | none | bool _ | int _ | float _ | list _ | dict _ => simp [mapStrings]

end PyVal
