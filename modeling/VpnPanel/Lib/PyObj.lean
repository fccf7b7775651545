import VpnPanel.Lib.PyPos
import Mathlib.Data.List.Induction

/-!
# VpnPanel.Lib.PyObj

Values as `json.loads` and `yaml.safe_load` return them.  YAML has more than
JSON: keys that are not strings, tuples, dates and other objects, a container
inside itself, and one container in several places.

* `PyObj` — the values, and `toJson?`, the JSON document a value is equal to;
* `jsonColumn` — what a column that stores JSON makes of a value;
* `mapStrings` — every string replaced by a function of its position and itself.
-/

/-- A key of a dictionary. -/
inductive PyKey where
  | str (s : String)
  | none
  | bool (b : Bool)
  | int (i : Int)
  | float (repr : String)
  /-- A date, a time or bytes. -/
  | other (typeName repr : String)
  deriving DecidableEq, Repr

/-- A value a loader returns. -/
inductive PyObj where
  | none
  | bool (b : Bool)
  | int (i : Int)
  | float (repr : String)
  | str (s : String)
  | list (xs : List PyObj)
  | tuple (xs : List PyObj)
  | dict (kvs : List (PyKey × PyObj))
  /-- A date, a time, bytes or a set. -/
  | other (typeName repr : String)
  /-- One of the containers this stands in. -/
  | enclosing
  deriving Repr, Inhabited

namespace PyObj

/-- `isinstance(data, dict)`. -/
def isDict : PyObj → Bool
  | dict _ => true
  | _ => false

/-- `bool(data)` of a dictionary. -/
def nonEmptyDict : PyObj → Bool
  | dict kvs => !kvs.isEmpty
  | _ => false

/-! ## JSON -/

/-- Whether a float is one JSON has. -/
def finite (repr : String) : Bool := repr ≠ "nan" && repr ≠ "inf" && repr ≠ "-inf"

mutual
/-- The JSON document a value is equal to. -/
def toJson? : PyObj → Option PyVal
  | none => some .none
  | bool b => some (.bool b)
  | int i => some (.int i)
  | float r => if finite r then some (.float r) else Option.none
  | str s => some (.str s)
  | list xs => (itemsJson? xs).map .list
  | dict kvs =>
      (entriesJson? kvs).bind fun entries =>
        if (entries.map Prod.fst).Nodup then some (.dict entries) else Option.none
  | tuple _ | other _ _ | enclosing => Option.none

def itemsJson? : List PyObj → Option (List PyVal)
  | [] => some []
  | x :: xs => do
      let v ← toJson? x
      let vs ← itemsJson? xs
      some (v :: vs)

def entriesJson? : List (PyKey × PyObj) → Option (List (String × PyVal))
  | [] => some []
  | (.str k, x) :: kvs => do
      let v ← toJson? x
      let entries ← entriesJson? kvs
      some ((k, v) :: entries)
  | _ :: _ => Option.none
end

/-- What `json.dumps` makes of a key. -/
def columnKey : PyKey → Except PyErr String
  | .str s => .ok s
  | .none => .ok "null"
  | .bool b => .ok (if b then "true" else "false")
  | .int i => .ok (toString i)
  | .float r => .ok r
  | .other typeName _ =>
      .error ⟨.typeError, "keys must be str, int, float, bool or None, not " ++ typeName⟩

/-- Entries read in their order: under one key the last stays. -/
def ofEntries (entries : List (String × PyVal)) : List (String × PyVal) :=
  entries.foldl (fun kvs kv => PyVal.setKey kv.1 kv.2 kvs) []

mutual
/-- What is read back from a JSON column after a value is written to it. -/
def jsonColumn : PyObj → Except PyErr PyVal
  | none => .ok .none
  | bool b => .ok (.bool b)
  | int i => .ok (.int i)
  | float r =>
      if finite r then .ok (.float r)
      else .error ⟨.databaseError, "invalid input syntax for type json"⟩
  | str s => .ok (.str s)
  | list xs => (itemsColumn xs).map .list
  | tuple xs => (itemsColumn xs).map .list
  | dict kvs => (entriesColumn kvs).map fun entries => .dict (ofEntries entries)
  | other typeName _ =>
      .error ⟨.typeError, "Object of type " ++ typeName ++ " is not JSON serializable"⟩
  | enclosing => .error ⟨.valueError, "Circular reference detected"⟩

def itemsColumn : List PyObj → Except PyErr (List PyVal)
  | [] => .ok []
  | x :: xs => do
      let v ← jsonColumn x
      let vs ← itemsColumn xs
      .ok (v :: vs)

def entriesColumn : List (PyKey × PyObj) → Except PyErr (List (String × PyVal))
  | [] => .ok []
  | (k, x) :: kvs => do
      let key ← columnKey k
      let v ← jsonColumn x
      let entries ← entriesColumn kvs
      .ok ((key, v) :: entries)
end

/-- Keys that differ all stay, in their order. -/
theorem ofEntries_of_nodup {entries : List (String × PyVal)}
    (hnodup : (entries.map Prod.fst).Nodup) : ofEntries entries = entries := by
  have hset {k : String} {v : PyVal} {kvs : List (String × PyVal)} (hk : k ∉ kvs.map Prod.fst) :
      PyVal.setKey k v kvs = kvs ++ [(k, v)] := by
    induction kvs with
    | nil => rfl
    | cons kv kvs ih =>
        obtain ⟨k', w⟩ := kv
        have hne : k' ≠ k := fun heq => hk (by simp [heq])
        rw [PyVal.setKey, if_neg hne, ih fun hmem => hk (by simpa using Or.inr hmem)]
        rfl
  have hfold (kvs entries : List (String × PyVal))
      (hnodup : ((kvs ++ entries).map Prod.fst).Nodup) :
      entries.foldl (fun kvs kv => PyVal.setKey kv.1 kv.2 kvs) kvs = kvs ++ entries := by
    induction entries generalizing kvs with
    | nil => simp
    | cons kv entries ih =>
        have hk : kv.1 ∉ kvs.map Prod.fst := by
          rw [List.map_append, List.nodup_append] at hnodup
          exact fun hmem => hnodup.2.2 _ hmem _ (by simp) rfl
        rw [List.foldl_cons, hset hk, ih _ (by simpa using hnodup), List.append_assoc]
        rfl
  exact hfold [] entries hnodup

mutual
/-- A JSON document goes through the column. -/
theorem jsonColumn_of_toJson? : (x : PyObj) → {v : PyVal} → x.toJson? = some v →
    x.jsonColumn = .ok v
  | none, v, h | bool _, v, h | int _, v, h | str _, v, h => by
      simp only [toJson?, Option.some.injEq] at h
      simp [jsonColumn, h]
  | float r, v, h => by
      simp only [toJson?] at h
      split at h
      · next hfinite =>
        rw [jsonColumn, if_pos hfinite, Option.some.inj h]
      · cases h
  | list xs, v, h => by
      obtain ⟨vs, hvs, rfl⟩ := Option.map_eq_some_iff.mp h
      rw [jsonColumn, itemsColumn_of_itemsJson? xs hvs]
      rfl
  | dict kvs, v, h => by
      obtain ⟨entries, hentries, h⟩ := Option.bind_eq_some_iff.mp h
      split at h
      · next hnodup =>
        rw [jsonColumn, entriesColumn_of_entriesJson? kvs hentries, ← Option.some.inj h]
        show Except.ok (PyVal.dict (ofEntries entries)) = _
        rw [ofEntries_of_nodup hnodup]
      · cases h
  | tuple _, v, h | other _ _, v, h | enclosing, v, h => by
      simp [toJson?] at h

theorem itemsColumn_of_itemsJson? : (xs : List PyObj) → {vs : List PyVal} →
    itemsJson? xs = some vs → itemsColumn xs = .ok vs
  | [], vs, h => by
      rw [itemsColumn, Option.some.inj h]
  | x :: xs, vs, h => by
      obtain ⟨v, hv, h⟩ := Option.bind_eq_some_iff.mp h
      obtain ⟨rest, hrest, h⟩ := Option.bind_eq_some_iff.mp h
      rw [itemsColumn, jsonColumn_of_toJson? x hv, itemsColumn_of_itemsJson? xs hrest,
        ← Option.some.inj h]
      rfl

theorem entriesColumn_of_entriesJson? : (kvs : List (PyKey × PyObj)) →
    {entries : List (String × PyVal)} → entriesJson? kvs = some entries →
      entriesColumn kvs = .ok entries
  | [], entries, h => by
      rw [entriesColumn, Option.some.inj h]
  | (.str k, x) :: kvs, entries, h => by
      obtain ⟨v, hv, h⟩ := Option.bind_eq_some_iff.mp h
      obtain ⟨rest, hrest, h⟩ := Option.bind_eq_some_iff.mp h
      rw [entriesColumn, jsonColumn_of_toJson? x hv, entriesColumn_of_entriesJson? kvs hrest,
        ← Option.some.inj h]
      rfl
  | (.none, _) :: _, _, h | (.bool _, _) :: _, _, h | (.int _, _) :: _, _, h
  | (.float _, _) :: _, _, h | (.other _ _, _) :: _, _, h => by
      simp [entriesJson?] at h
end

/-! ## positions -/

/-- What a container holds. -/
def children : PyObj → List PyObj
  | list xs => xs
  | tuple xs => xs
  | dict kvs => kvs.map Prod.snd
  | _ => []

/-- The value at a position. -/
def at? : List Nat → PyObj → Option PyObj
  | [], x => some x
  | n :: pos, x => (x.children[n]?).bind (at? pos)

mutual
/-- Replace every string by what `g` makes of its position and itself. -/
def mapStrings (g : List Nat → String → String) : PyObj → PyObj
  | str s => str (g [] s)
  | list xs => list (mapItems g 0 xs)
  | tuple xs => tuple (mapItems g 0 xs)
  | dict kvs => dict (mapEntries g 0 kvs)
  | none => none
  | bool b => bool b
  | int i => int i
  | float r => float r
  | other typeName repr => other typeName repr
  | enclosing => enclosing

def mapItems (g : List Nat → String → String) (n : Nat) : List PyObj → List PyObj
  | [] => []
  | x :: xs => mapStrings (fun pos => g (n :: pos)) x :: mapItems g (n + 1) xs

def mapEntries (g : List Nat → String → String) (n : Nat) :
    List (PyKey × PyObj) → List (PyKey × PyObj)
  | [] => []
  | (k, x) :: kvs => (k, mapStrings (fun pos => g (n :: pos)) x) :: mapEntries g (n + 1) kvs
end

theorem getElem?_mapItems (g : List Nat → String → String) (n i : Nat) (xs : List PyObj) :
    (mapItems g n xs)[i]? = xs[i]?.map (mapStrings fun pos => g ((n + i) :: pos)) := by
  induction xs generalizing n i with
  | nil => simp [mapItems]
  | cons x xs ih =>
      cases i with
      | zero => simp [mapItems]
      | succ i =>
          have hpos : n + 1 + i = n + (i + 1) := by omega
          simp [mapItems, ih, hpos]

theorem getElem?_mapEntries (g : List Nat → String → String) (n i : Nat)
    (kvs : List (PyKey × PyObj)) : (mapEntries g n kvs)[i]? =
      kvs[i]?.map fun kv => (kv.1, kv.2.mapStrings fun pos => g ((n + i) :: pos)) := by
  induction kvs generalizing n i with
  | nil => simp [mapEntries]
  | cons kv kvs ih =>
      cases i with
      | zero => simp [mapEntries]
      | succ i =>
          have hpos : n + 1 + i = n + (i + 1) := by omega
          simp [mapEntries, ih, hpos]

theorem children_of_itemsJson? {xs : List PyObj} {vs : List PyVal} (h : itemsJson? xs = some vs) :
    xs.map toJson? = vs.map some := by
  induction xs generalizing vs with
  | nil => simp [← Option.some.inj h]
  | cons x xs ih =>
      obtain ⟨v, hv, h⟩ := Option.bind_eq_some_iff.mp h
      obtain ⟨rest, hrest, h⟩ := Option.bind_eq_some_iff.mp h
      rw [← Option.some.inj h, List.map_cons, List.map_cons, hv, ih hrest]

theorem children_of_entriesJson? {kvs : List (PyKey × PyObj)} {entries : List (String × PyVal)}
    (h : entriesJson? kvs = some entries) :
    (kvs.map Prod.snd).map toJson? = (entries.map Prod.snd).map some ∧
      kvs.map Prod.fst = (entries.map Prod.fst).map .str := by
  induction kvs generalizing entries with
  | nil => simp [← Option.some.inj h]
  | cons kv kvs ih =>
      obtain ⟨k, x⟩ := kv
      cases k with
      | str k =>
          obtain ⟨v, hv, h⟩ := Option.bind_eq_some_iff.mp h
          obtain ⟨rest, hrest, h⟩ := Option.bind_eq_some_iff.mp h
          obtain ⟨hchildren, hkeys⟩ := ih hrest
          rw [← Option.some.inj h]
          simp only [List.map_cons, hv, hchildren, hkeys, and_self]
      | none | bool _ | int _ | float _ | other _ _ => simp [entriesJson?] at h

/-- The children of a JSON document are the documents of the children. -/
theorem children_of_toJson? {x : PyObj} {v : PyVal} (h : x.toJson? = some v) :
    x.children.map toJson? = v.children.map some := by
  cases x with
  | list xs =>
      obtain ⟨vs, hvs, rfl⟩ := Option.map_eq_some_iff.mp h
      exact children_of_itemsJson? hvs
  | dict kvs =>
      obtain ⟨entries, hentries, h⟩ := Option.bind_eq_some_iff.mp h
      split at h
      · rw [← Option.some.inj h]
        exact (children_of_entriesJson? hentries).1
      · cases h
  | float r =>
      simp only [toJson?] at h
      split at h
      · rw [← Option.some.inj h]
        rfl
      · cases h
  | none | bool _ | int _ | str _ =>
      rw [← Option.some.inj h]
      rfl
  | tuple _ | other _ _ | enclosing => cases h

/-- What stands at a position of a JSON document. -/
theorem at?_of_toJson? {x : PyObj} {v : PyVal} (h : x.toJson? = some v) (pos : List Nat) :
    (x.at? pos).map toJson? = (v.at? pos).map some := by
  induction pos generalizing x v with
  | nil => exact congrArg some h
  | cons n pos ih =>
      have hchild : (x.children[n]?).map toJson? = (v.children[n]?).map some := by
        rw [← List.getElem?_map, ← List.getElem?_map, children_of_toJson? h]
      rw [at?, PyVal.at?]
      cases hx : x.children[n]? with
      | none =>
          rw [hx, Option.map_none, eq_comm, Option.map_eq_none_iff] at hchild
          rw [hchild]
          rfl
      | some c =>
          rw [hx, Option.map_some, eq_comm, Option.map_eq_some_iff] at hchild
          obtain ⟨w, hw, hc⟩ := hchild
          rw [hw]
          exact ih hc.symm

theorem toJson?_eq_str_iff {x : PyObj} {s : String} : x.toJson? = some (.str s) ↔ x = str s := by
  cases x with
  | float r => simp [toJson?, Option.ite_none_right_eq_some]
  | dict kvs => simp [toJson?, Option.bind_eq_some_iff, Option.ite_none_right_eq_some]
  | none | bool _ | int _ | str _ | list _ | tuple _ | other _ _ | enclosing => simp [toJson?]

/-- The strings of a JSON document. -/
theorem at?_eq_str_iff {x : PyObj} {v : PyVal} (h : x.toJson? = some v) {pos : List Nat}
    {s : String} : x.at? pos = some (str s) ↔ v.at? pos = some (.str s) := by
  have hat := at?_of_toJson? h pos
  constructor
  · intro hx
    rw [hx, Option.map_some, eq_comm, Option.map_eq_some_iff] at hat
    obtain ⟨w, hw, heq⟩ := hat
    rw [hw, heq]
    rfl
  · intro hv
    rw [hv, Option.map_some, Option.map_eq_some_iff] at hat
    obtain ⟨y, hy, heq⟩ := hat
    rw [hy, toJson?_eq_str_iff.mp heq]

mutual
/-- Replaced strings of a JSON document. -/
theorem toJson?_mapStrings (g : List Nat → String → String) :
    (x : PyObj) → (x.mapStrings g).toJson? = x.toJson?.map (PyVal.mapStrings g)
  | none | bool _ | int _ | str _ => by simp [mapStrings, toJson?, PyVal.mapStrings]
  | float r => by
      rw [mapStrings, toJson?]
      split <;> simp [PyVal.mapStrings]
  | list xs => by
      simp only [mapStrings, toJson?, itemsJson?_mapItems g 0 xs, Option.map_map]
      congr 1
  | dict kvs => by
      simp only [mapStrings, toJson?, entriesJson?_mapEntries g 0 kvs]
      cases entriesJson? kvs with
      | none => rfl
      | some entries =>
          simp only [Option.map_some, Option.bind_some, PyVal.map_fst_mapEntries]
          split <;> simp [PyVal.mapStrings]
  | tuple _ | other _ _ | enclosing => by simp [mapStrings, toJson?]

theorem itemsJson?_mapItems (g : List Nat → String → String) (n : Nat) : (xs : List PyObj) →
    itemsJson? (mapItems g n xs) = (itemsJson? xs).map (PyVal.mapItems g n)
  | [] => by simp [mapItems, itemsJson?, PyVal.mapItems]
  | x :: xs => by
      rw [mapItems, itemsJson?, itemsJson?, toJson?_mapStrings, itemsJson?_mapItems]
      cases x.toJson? with
      | none => rfl
      | some v => cases itemsJson? xs <;> simp [PyVal.mapItems]

theorem entriesJson?_mapEntries (g : List Nat → String → String) (n : Nat) :
    (kvs : List (PyKey × PyObj)) →
      entriesJson? (mapEntries g n kvs) = (entriesJson? kvs).map (PyVal.mapEntries g n)
  | [] => by simp [mapEntries, entriesJson?, PyVal.mapEntries]
  | (.str k, x) :: kvs => by
      rw [mapEntries, entriesJson?, entriesJson?, toJson?_mapStrings, entriesJson?_mapEntries]
      cases x.toJson? with
      | none => rfl
      | some v => cases entriesJson? kvs <;> simp [PyVal.mapEntries]
  | (.none, _) :: _ | (.bool _, _) :: _ | (.int _, _) :: _ | (.float _, _) :: _
  | (.other _ _, _) :: _ => by simp [mapEntries, entriesJson?]
end

/-! ## equality -/

mutual
/-- A JSON document that is `==` to it with other strings has them. -/
theorem mapStrings_eq_of_pyEq (g : List Nat → String → String) : (x : PyObj) → {v : PyVal} →
    x.toJson? = some v → (v.mapStrings g).pyEq v = true → v.mapStrings g = v
  | str s, v, h, heq => by
      obtain rfl : PyVal.str s = v := Option.some.inj h
      simpa [PyVal.mapStrings, PyVal.pyEq, PyVal.scalarEq, PyVal.numKey] using heq
  | list xs, v, h, heq => by
      obtain ⟨vs, hvs, rfl⟩ := Option.map_eq_some_iff.mp h
      rw [PyVal.mapStrings, mapItems_eq_of_pyEq g 0 xs hvs heq]
  | dict kvs, v, h, heq => by
      obtain ⟨entries, hentries, h⟩ := Option.bind_eq_some_iff.mp h
      split at h
      · next hnodup =>
        rw [← Option.some.inj h] at heq ⊢
        simp only [PyVal.mapStrings, PyVal.pyEq, Bool.and_eq_true] at heq
        rw [PyVal.mapStrings, mapEntries_eq_of_pyEq g 0 kvs hentries
          (fun k v hmem => PyVal.lookupKey_of_mem hnodup hmem) heq.2]
      · cases h
  | none, v, h, _ | bool _, v, h, _ | int _, v, h, _ => by
      rw [← Option.some.inj h, PyVal.mapStrings]
  | float r, v, h, _ => by
      simp only [toJson?] at h
      split at h
      · rw [← Option.some.inj h, PyVal.mapStrings]
      · cases h
  | tuple _, v, h, _ | other _ _, v, h, _ | enclosing, v, h, _ => by
      simp [toJson?] at h

theorem mapItems_eq_of_pyEq (g : List Nat → String → String) (n : Nat) : (xs : List PyObj) →
    {vs : List PyVal} → itemsJson? xs = some vs →
      PyVal.pyEqList (PyVal.mapItems g n vs) vs = true → PyVal.mapItems g n vs = vs
  | [], vs, h, _ => by
      rw [← Option.some.inj h, PyVal.mapItems]
  | x :: xs, vs, h, heq => by
      obtain ⟨v, hv, h⟩ := Option.bind_eq_some_iff.mp h
      obtain ⟨rest, hrest, h⟩ := Option.bind_eq_some_iff.mp h
      rw [← Option.some.inj h] at heq ⊢
      simp only [PyVal.mapItems, PyVal.pyEqList, Bool.and_eq_true] at heq
      rw [PyVal.mapItems, mapStrings_eq_of_pyEq _ x hv heq.1,
        mapItems_eq_of_pyEq g (n + 1) xs hrest heq.2]

theorem mapEntries_eq_of_pyEq (g : List Nat → String → String) (n : Nat) :
    (kvs : List (PyKey × PyObj)) → {entries all : List (String × PyVal)} →
      entriesJson? kvs = some entries →
      (∀ k v, (k, v) ∈ entries → PyVal.lookupKey k all = some v) →
      PyVal.pyEqDict (PyVal.mapEntries g n entries) all = true →
        PyVal.mapEntries g n entries = entries
  | [], entries, _, h, _, _ => by
      rw [← Option.some.inj h, PyVal.mapEntries]
  | (.str k, x) :: kvs, entries, all, h, hall, heq => by
      obtain ⟨v, hv, h⟩ := Option.bind_eq_some_iff.mp h
      obtain ⟨rest, hrest, h⟩ := Option.bind_eq_some_iff.mp h
      rw [← Option.some.inj h] at heq hall ⊢
      simp only [PyVal.mapEntries, PyVal.pyEqDict, hall k v (by simp), Bool.and_eq_true] at heq
      rw [PyVal.mapEntries, mapStrings_eq_of_pyEq _ x hv heq.1,
        mapEntries_eq_of_pyEq g (n + 1) kvs hrest
          (fun k' v' hmem => hall k' v' (List.mem_cons_of_mem _ hmem)) heq.2]
  | (.none, _) :: _, _, _, h, _, _ | (.bool _, _) :: _, _, _, h, _, _
  | (.int _, _) :: _, _, _, h, _, _ | (.float _, _) :: _, _, _, h, _, _
  | (.other _ _, _) :: _, _, _, h, _, _ => by
      simp [entriesJson?] at h
end

/-! ## positions in the column -/

/-- The `n`th key of the column has the value of the entry `m`; the others have
theirs. -/
def assignPos (n m : Nat) (σ : List Nat → List Nat) : List Nat → List Nat
  | [] => σ []
  | k :: pos => if k = n then m :: pos else σ (k :: pos)

/-- Entries with other strings, read in their order. -/
theorem exists_ofEntriesPos (entries : List (String × PyVal)) :
    ∃ σ : List Nat → List Nat, ∀ g, ofEntries (PyVal.mapEntries g 0 entries) =
      PyVal.mapEntries (fun pos => g (σ pos)) 0 (ofEntries entries) := by
  induction entries using List.reverseRecOn with
  | nil => exact ⟨id, fun g => rfl⟩
  | append_singleton entries kv ih =>
      obtain ⟨σ, hσ⟩ := ih
      obtain ⟨key, v⟩ := kv
      refine ⟨assignPos (PyVal.keyIndex key (ofEntries entries)) entries.length σ, fun g => ?_⟩
      have hset (es : List (String × PyVal)) (w : PyVal) :
          ofEntries (es ++ [(key, w)]) = PyVal.setKey key w (ofEntries es) := by
        simp [ofEntries]
      rw [PyVal.mapEntries_append, Nat.zero_add, PyVal.mapEntries, PyVal.mapEntries, hset, hset, hσ,
        PyVal.setKey_mapEntries, Nat.zero_add]
      congr 1
      funext pos
      cases pos with
      | nil => rfl
      | cons n rest =>
          by_cases hn : n = PyVal.keyIndex key (ofEntries entries) <;>
            simp [PyVal.inside, assignPos, hn]

/-- The positions of a first child at `n`, and of the later ones. -/
def childPos (n : Nat) (σ τ : List Nat → List Nat) : List Nat → List Nat
  | [] => []
  | m :: pos => if m = n then n :: σ pos else τ (m :: pos)

theorem childPos_here (n : Nat) (σ τ : List Nat → List Nat) (g : List Nat → String → String) :
    (fun pos => g (childPos n σ τ (n :: pos))) = fun pos => g (n :: σ pos) := by
  funext pos
  simp [childPos]

theorem childPos_later {n m : Nat} (hlt : n < m) (σ τ : List Nat → List Nat)
    (g : List Nat → String → String) :
    (fun pos => g (childPos n σ τ (m :: pos))) = fun pos => g (τ (m :: pos)) := by
  funext pos
  simp [childPos, Nat.ne_of_gt hlt]

theorem mapItems_childPos {n m : Nat} (hlt : n < m) (σ τ : List Nat → List Nat)
    (g : List Nat → String → String) (xs : List PyVal) :
    PyVal.mapItems (fun pos => g (childPos n σ τ pos)) m xs =
      PyVal.mapItems (fun pos => g (τ pos)) m xs := by
  induction xs generalizing m with
  | nil => rfl
  | cons x xs ih =>
      rw [PyVal.mapItems, PyVal.mapItems, childPos_later hlt, ih (Nat.lt_succ_of_lt hlt)]

theorem mapEntries_childPos {n m : Nat} (hlt : n < m) (σ τ : List Nat → List Nat)
    (g : List Nat → String → String) (kvs : List (String × PyVal)) :
    PyVal.mapEntries (fun pos => g (childPos n σ τ pos)) m kvs =
      PyVal.mapEntries (fun pos => g (τ pos)) m kvs := by
  induction kvs generalizing m with
  | nil => rfl
  | cons kv kvs ih =>
      obtain ⟨k, v⟩ := kv
      rw [PyVal.mapEntries, PyVal.mapEntries, childPos_later hlt, ih (Nat.lt_succ_of_lt hlt)]

mutual
/-- What the column makes of a value with other strings: each stands where the
string it replaces stands. -/
theorem exists_columnPos : (x : PyObj) → ∃ σ : List Nat → List Nat, ∀ g,
    (x.mapStrings g).jsonColumn = x.jsonColumn.map (PyVal.mapStrings fun pos => g (σ pos))
  | none | bool _ | int _ | other _ _ | enclosing =>
      ⟨id, fun g => by simp [mapStrings, jsonColumn, Except.map, PyVal.mapStrings]⟩
  | str s => ⟨id, fun g => by simp [mapStrings, jsonColumn, Except.map, PyVal.mapStrings]⟩
  | float r => by
      refine ⟨id, fun g => ?_⟩
      rw [mapStrings, jsonColumn]
      split <;> simp [Except.map, PyVal.mapStrings]
  | list xs => by
      obtain ⟨σ, hσ⟩ := exists_itemsPos 0 xs
      refine ⟨σ, fun g => ?_⟩
      rw [mapStrings, jsonColumn, jsonColumn, hσ]
      cases itemsColumn xs <;> simp [Except.map, PyVal.mapStrings]
  | tuple xs => by
      obtain ⟨σ, hσ⟩ := exists_itemsPos 0 xs
      refine ⟨σ, fun g => ?_⟩
      rw [mapStrings, jsonColumn, jsonColumn, hσ]
      cases itemsColumn xs <;> simp [Except.map, PyVal.mapStrings]
  | dict kvs => by
      obtain ⟨σ, hσ⟩ := exists_entriesPos 0 kvs
      cases hentries : entriesColumn kvs with
      | error e =>
          refine ⟨id, fun g => ?_⟩
          rw [mapStrings, jsonColumn, jsonColumn, hσ, hentries]
          rfl
      | ok entries =>
          obtain ⟨τ, hτ⟩ := exists_ofEntriesPos entries
          refine ⟨fun pos => σ (τ pos), fun g => ?_⟩
          rw [mapStrings, jsonColumn, jsonColumn, hσ, hentries]
          simp [Except.map, PyVal.mapStrings, hτ]

theorem exists_itemsPos (n : Nat) : (xs : List PyObj) → ∃ σ : List Nat → List Nat, ∀ g,
    itemsColumn (mapItems g n xs) =
      (itemsColumn xs).map (PyVal.mapItems (fun pos => g (σ pos)) n)
  | [] => ⟨id, fun g => by simp [mapItems, itemsColumn, Except.map, PyVal.mapItems]⟩
  | x :: xs => by
      obtain ⟨σ, hσ⟩ := exists_columnPos x
      obtain ⟨τ, hτ⟩ := exists_itemsPos (n + 1) xs
      refine ⟨childPos n σ τ, fun g => ?_⟩
      rw [mapItems, itemsColumn, itemsColumn, hσ, hτ]
      cases x.jsonColumn with
      | error e => rfl
      | ok v =>
          cases itemsColumn xs with
          | error e => rfl
          | ok vs =>
              simp only [Except.map, Except.ok_bind_eq, PyVal.mapItems, childPos_here,
                mapItems_childPos (Nat.lt_succ_self n)]

theorem exists_entriesPos (n : Nat) : (kvs : List (PyKey × PyObj)) →
    ∃ σ : List Nat → List Nat, ∀ g, entriesColumn (mapEntries g n kvs) =
      (entriesColumn kvs).map (PyVal.mapEntries (fun pos => g (σ pos)) n)
  | [] => ⟨id, fun g => by simp [mapEntries, entriesColumn, Except.map, PyVal.mapEntries]⟩
  | (k, x) :: kvs => by
      obtain ⟨σ, hσ⟩ := exists_columnPos x
      obtain ⟨τ, hτ⟩ := exists_entriesPos (n + 1) kvs
      refine ⟨childPos n σ τ, fun g => ?_⟩
      rw [mapEntries, entriesColumn, entriesColumn, hσ, hτ]
      cases columnKey k with
      | error e => rfl
      | ok key =>
          cases x.jsonColumn with
          | error e => rfl
          | ok v =>
              cases entriesColumn kvs with
              | error e => rfl
              | ok entries =>
                  simp only [Except.map, Except.ok_bind_eq, PyVal.mapEntries, childPos_here,
                    mapEntries_childPos (Nat.lt_succ_self n)]
end

end PyObj
