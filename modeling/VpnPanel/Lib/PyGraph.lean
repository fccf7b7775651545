import VpnPanel.Lib.PyObj

/-!
# VpnPanel.Lib.PyGraph

Values with the identities of their containers.  An alias of a YAML text puts
one container in several places, or inside itself, and what is assigned in a
container is assigned wherever it stands.

* `PyGraph` — containers and a value that refers to them; `Slot` — the places
  values are assigned to;
* `textAt`, `map` — the strings, and the graph with others;
* `tree` — what a reader of the value sees, and `slotAt`, the slot of each of
  its positions;
* `Single` — no container stands in two places;
* `ofVal` — the graph of a value whose containers stand in one place each.
-/

/-- A value in a container: a scalar, or another container by its identity. -/
inductive PyRef where
  | none
  | bool (b : Bool)
  | int (i : Int)
  | float (repr : String)
  | str (s : String)
  /-- A date, a time, bytes or a set. -/
  | other (typeName repr : String)
  | container (id : Nat)
  deriving DecidableEq, Repr

inductive PyCell where
  | list (xs : List PyRef)
  | tuple (xs : List PyRef)
  | dict (kvs : List (PyKey × PyRef))
  deriving DecidableEq, Repr

/-- A value with its containers, each at its identity.  An identity without a
container stands for an empty list; no loader makes one. -/
structure PyGraph where
  cells : List PyCell
  root : PyRef
  deriving DecidableEq, Repr

/-- What a value is assigned to. -/
inductive Slot where
  /-- The value as a whole. -/
  | root
  | item (container index : Nat)
  deriving DecidableEq, Repr

namespace PyRef

def string? : PyRef → Option String
  | str s => some s
  | _ => Option.none

def container? : PyRef → Option Nat
  | container id => some id
  | _ => Option.none

def mapString (f : String → String) : PyRef → PyRef
  | str s => str (f s)
  | r => r

/-- A scalar; a container is one this stands in. -/
def scalar : PyRef → PyObj
  | none => .none
  | bool b => .bool b
  | int i => .int i
  | float r => .float r
  | str s => .str s
  | other typeName repr => .other typeName repr
  | container _ => .enclosing

@[simp] theorem string?_mapString (f : String → String) (r : PyRef) :
    (r.mapString f).string? = r.string?.map f := by
  cases r <;> rfl

theorem string?_eq_some_iff {r : PyRef} {s : String} : r.string? = some s ↔ r = str s := by
  cases r <;> simp [string?]

@[simp] theorem mapString_mapString (f f' : String → String) (r : PyRef) :
    (r.mapString f).mapString f' = r.mapString fun s => f' (f s) := by
  cases r <;> rfl

@[simp] theorem mapString_id (r : PyRef) : r.mapString (fun s => s) = r := by
  cases r <;> rfl

theorem mapString_congr {f f' : String → String} {r : PyRef}
    (h : ∀ s, r.string? = some s → f s = f' s) : r.mapString f = r.mapString f' := by
  cases r with
  | str s => exact congrArg str (h s rfl)
  | none | bool _ | int _ | float _ | other _ _ | container _ => rfl

end PyRef

namespace PyCell

/-- What a container holds. -/
def refs : PyCell → List PyRef
  | list xs => xs
  | tuple xs => xs
  | dict kvs => kvs.map Prod.snd

/-- Every value replaced by what a function makes of its index and itself. -/
def mapRefs (f : Nat → PyRef → PyRef) : PyCell → PyCell
  | list xs => list (xs.mapIdx f)
  | tuple xs => tuple (xs.mapIdx f)
  | dict kvs => dict (kvs.mapIdx fun k kv => (kv.1, f k kv.2))

/-- `current[index] = value` of a list, or under the key of a dictionary that
stands at the index. -/
def assign (index : Nat) (value : PyRef) (cell : PyCell) : PyCell :=
  cell.mapRefs fun k r => if k = index then value else r

/-- The value of a container, given those of what it holds. -/
def toObj (value : PyRef → PyObj) : PyCell → PyObj
  | list xs => .list (xs.map value)
  | tuple xs => .tuple (xs.map value)
  | dict kvs => .dict (kvs.map fun kv => (kv.1, value kv.2))

@[simp] theorem refs_mapRefs (f : Nat → PyRef → PyRef) (cell : PyCell) :
    (cell.mapRefs f).refs = cell.refs.mapIdx f := by
  cases cell with
  | list xs | tuple xs => rfl
  | dict kvs =>
      apply List.ext_getElem?
      intro k
      simp [mapRefs, refs, Function.comp_def]

@[simp] theorem mapRefs_mapRefs (f f' : Nat → PyRef → PyRef) (cell : PyCell) :
    (cell.mapRefs f).mapRefs f' = cell.mapRefs fun k r => f' k (f k r) := by
  cases cell <;> simp [mapRefs, List.mapIdx_mapIdx, Function.comp_def]

theorem mapRefs_congr {f f' : Nat → PyRef → PyRef} {cell : PyCell}
    (h : ∀ k r, cell.refs[k]? = some r → f k r = f' k r) : cell.mapRefs f = cell.mapRefs f' := by
  cases cell with
  | list xs =>
      refine congrArg list (List.ext_getElem? fun k => ?_)
      rw [List.getElem?_mapIdx, List.getElem?_mapIdx]
      exact Option.map_congr fun r hr => h k r hr
  | tuple xs =>
      refine congrArg tuple (List.ext_getElem? fun k => ?_)
      rw [List.getElem?_mapIdx, List.getElem?_mapIdx]
      exact Option.map_congr fun r hr => h k r hr
  | dict kvs =>
      refine congrArg dict (List.ext_getElem? fun k => ?_)
      rw [List.getElem?_mapIdx, List.getElem?_mapIdx]
      refine Option.map_congr fun kv hkv => ?_
      rw [h k kv.2 (by simp [refs, List.getElem?_map, hkv])]

theorem mapIdx_self {α : Type} (xs : List α) : xs.mapIdx (fun _ x => x) = xs :=
  List.mapIdx_eq_iff.mpr fun i => by simp

theorem mapRefs_id (cell : PyCell) : cell.mapRefs (fun _ r => r) = cell := by
  cases cell with
  | list xs | tuple xs | dict kvs => simp [mapRefs, mapIdx_self]

end PyCell

namespace PyGraph

/-- The container of an identity. -/
def cell (g : PyGraph) (id : Nat) : PyCell := g.cells.getD id (.list [])

/-- What is assigned to a slot. -/
def refAt (g : PyGraph) : Slot → Option PyRef
  | .root => some g.root
  | .item id index => (g.cell id).refs[index]?

theorem refAt_root (g : PyGraph) : g.refAt .root = some g.root := rfl

/-- The string in a slot. -/
def textAt (g : PyGraph) (slot : Slot) : Option String := (g.refAt slot).bind PyRef.string?

/-- Every string replaced by what a function makes of its slot and itself. -/
def map (f : Slot → String → String) (g : PyGraph) : PyGraph where
  cells := g.cells.mapIdx fun id c => c.mapRefs fun k r => r.mapString (f (.item id k))
  root := g.root.mapString (f .root)

/-- Another value in a slot. -/
def assign (slot : Slot) (value : PyRef) (g : PyGraph) : PyGraph :=
  match slot with
  | .root => { g with root := value }
  | .item id index => { g with cells := g.cells.modify id (PyCell.assign index value) }

variable {g : PyGraph} {f f' : Slot → String → String}

/-! ## the strings -/

@[simp] theorem cell_map (f : Slot → String → String) (g : PyGraph) (id : Nat) :
    (g.map f).cell id = (g.cell id).mapRefs fun k r => r.mapString (f (.item id k)) := by
  unfold cell map
  rw [List.getD_eq_getElem?_getD, List.getD_eq_getElem?_getD, List.getElem?_mapIdx]
  cases g.cells[id]? with
  | none => rfl
  | some c => rfl

@[simp] theorem refAt_map (f : Slot → String → String) (g : PyGraph) (slot : Slot) :
    (g.map f).refAt slot = (g.refAt slot).map (PyRef.mapString (f slot)) := by
  cases slot with
  | root => rfl
  | item id index => simp [refAt, List.getElem?_mapIdx]

theorem textAt_map (f : Slot → String → String) (g : PyGraph) (slot : Slot) :
    (g.map f).textAt slot = (g.textAt slot).map (f slot) := by
  unfold textAt
  rw [refAt_map]
  cases g.refAt slot with
  | none => rfl
  | some r => simp

theorem textAt_eq_some_iff {slot : Slot} {s : String} :
    g.textAt slot = some s ↔ g.refAt slot = some (.str s) := by
  simp only [textAt, Option.bind_eq_some_iff, PyRef.string?_eq_some_iff]
  constructor
  · rintro ⟨r, hr, rfl⟩
    exact hr
  · exact fun hr => ⟨_, hr, rfl⟩

theorem map_map (f f' : Slot → String → String) (g : PyGraph) :
    (g.map f).map f' = g.map fun slot s => f' slot (f slot s) := by
  simp [map, List.mapIdx_mapIdx, Function.comp_def]

/-- The containers of a graph, by their identities. -/
theorem cells_mapIdx_congr {f f' : Nat → PyCell → PyCell}
    (h : ∀ id, id < g.cells.length → f id (g.cell id) = f' id (g.cell id)) :
    g.cells.mapIdx f = g.cells.mapIdx f' := by
  apply List.ext_getElem?
  intro id
  rw [List.getElem?_mapIdx, List.getElem?_mapIdx]
  refine Option.map_congr fun c hc => ?_
  obtain ⟨hlt, -⟩ := List.getElem?_eq_some_iff.mp hc
  have hcell : g.cell id = c := by rw [cell, List.getD_eq_getElem?_getD, hc, Option.getD_some]
  rw [← hcell]
  exact h id hlt

theorem map_congr (f f' : Slot → String → String) (g : PyGraph)
    (h : ∀ slot s, g.textAt slot = some s → f slot s = f' slot s) : g.map f = g.map f' := by
  unfold map
  rw [cells_mapIdx_congr fun id _ => PyCell.mapRefs_congr fun k r hr =>
      PyRef.mapString_congr fun s hs => h (.item id k) s (by
        rw [textAt_eq_some_iff, refAt, hr, PyRef.string?_eq_some_iff.mp hs]),
    PyRef.mapString_congr fun s hs => h .root s (by
        rw [textAt_eq_some_iff, refAt, PyRef.string?_eq_some_iff.mp hs])]

theorem map_id (g : PyGraph) : g.map (fun _ s => s) = g := by
  simp [map, PyCell.mapRefs_id, PyCell.mapIdx_self]

/-- A string assigned in the slot of another. -/
theorem assign_eq_map {slot : Slot} {s : String} (hs : g.textAt slot = some s) (s' : String) :
    g.assign slot (.str s') = g.map fun q t => if q = slot then s' else t := by
  have hslot := textAt_eq_some_iff.mp hs
  cases slot with
  | root =>
      have hroot : g.root = .str s := Option.some.inj hslot
      have hcells : (g.map fun q t => if q = .root then s' else t).cells = g.cells := by
        simp [map, PyCell.mapRefs_id, PyCell.mapIdx_self]
      have hmap : (g.map fun q t => if q = .root then s' else t).root = .str s' := by
        simp [map, hroot, PyRef.mapString]
      rw [assign, ← hcells, ← hmap]
  | item id index =>
      have hroot : (g.map fun q t => if q = .item id index then s' else t).root = g.root := by
        simp [map]
      have hcells : (g.map fun q t => if q = .item id index then s' else t).cells =
          g.cells.modify id (PyCell.assign index (.str s')) := by
        apply List.ext_getElem?
        intro j
        rw [map, List.getElem?_mapIdx, List.getElem?_modify]
        cases hc : g.cells[j]? with
        | none => rfl
        | some c =>
            have hcell : g.cell j = c := by
              rw [cell, List.getD_eq_getElem?_getD, hc, Option.getD_some]
            rw [Option.map_eq_map, Option.map_some, Option.map_some]
            by_cases hj : id = j
            · subst hj
              rw [if_pos rfl]
              refine congrArg some (PyCell.mapRefs_congr fun k r hr => ?_)
              by_cases hk : k = index
              · subst hk
                obtain rfl : r = .str s := by
                  rw [refAt, hcell, hr] at hslot
                  exact Option.some.inj hslot
                simp [PyRef.mapString]
              · simp [hk]
            · have hne (k : Nat) : Slot.item j k ≠ .item id index := by
                simp [Ne.symm hj]
              simp only [if_neg hj, if_neg (hne _), PyRef.mapString_id, PyCell.mapRefs_id]
      rw [assign, ← hcells, ← hroot]

/-! ## what a reader sees -/

/-- The value a reference stands for, up to a number of containers inside each
other. -/
def unfold (g : PyGraph) : Nat → PyRef → PyObj
  | fuel + 1, .container id => (g.cell id).toObj (g.unfold fuel)
  | _, r => r.scalar

/-- The value.  Where it goes deeper than it has containers, one of them stands
inside itself. -/
def tree (g : PyGraph) : PyObj := g.unfold g.cells.length g.root

/-- The slot a position leads to, from the value `r` in the slot `here`. -/
def slotFrom (g : PyGraph) : Slot → PyRef → List Nat → Slot
  | here, .container id, k :: pos =>
      match (g.cell id).refs[k]? with
      | some r => g.slotFrom (.item id k) r pos
      | none => here
  | here, _, _ => here

/-- The slot of a position. -/
def slotAt (g : PyGraph) (pos : List Nat) : Slot := g.slotFrom .root g.root pos

@[simp] theorem scalar_mapString (f : String → String) (r : PyRef) :
    (r.mapString f).scalar = r.scalar.mapStrings fun _ s => f s := by
  cases r <;> simp [PyRef.mapString, PyRef.scalar, PyObj.mapStrings]

theorem slotFrom_cons {here : Slot} {id k : Nat} {r : PyRef} (hr : (g.cell id).refs[k]? = some r)
    (pos : List Nat) :
    g.slotFrom here (.container id) (k :: pos) = g.slotFrom (.item id k) r pos := by
  rw [slotFrom, hr]

theorem slotFrom_nil (here : Slot) (r : PyRef) : g.slotFrom here r [] = here := by
  cases r <;> rfl

theorem unfold_container (fuel id : Nat) :
    g.unfold (fuel + 1) (.container id) = (g.cell id).toObj (g.unfold fuel) := rfl

/-- A reader sees the new strings. -/
theorem unfold_map (f : Slot → String → String) (g : PyGraph) (fuel : Nat) (here : Slot)
    (r : PyRef) : (g.map f).unfold fuel (r.mapString (f here)) =
      (g.unfold fuel r).mapStrings fun pos s => f (g.slotFrom here r pos) s := by
  induction fuel generalizing here r with
  | zero =>
      cases r <;> simp [unfold, PyRef.mapString, PyRef.scalar, PyObj.mapStrings, slotFrom_nil]
  | succ fuel ih =>
      cases r with
      | none | bool _ | int _ | float _ | other _ _ | str _ =>
          simp [unfold, PyRef.mapString, PyRef.scalar, PyObj.mapStrings, slotFrom_nil]
      | container id =>
          have hitem {k : Nat} {r : PyRef} (hr : (g.cell id).refs[k]? = some r) :
              (g.map f).unfold fuel (r.mapString (f (.item id k))) =
                (g.unfold fuel r).mapStrings fun pos s =>
                  f (g.slotFrom here (.container id) (k :: pos)) s := by
            simp only [ih, slotFrom_cons hr]
          have hsame : (PyRef.container id).mapString (f here) = .container id := rfl
          rw [hsame, unfold_container, unfold_container, cell_map]
          cases hcell : g.cell id with
          | list xs =>
              rw [hcell] at hitem
              simp only [PyCell.mapRefs, PyCell.toObj, PyObj.mapStrings, PyObj.list.injEq]
              apply List.ext_getElem?
              intro k
              simp only [List.getElem?_map, List.getElem?_mapIdx, PyObj.getElem?_mapItems,
                Option.map_map, Nat.zero_add]
              exact Option.map_congr fun r hr => hitem hr
          | tuple xs =>
              rw [hcell] at hitem
              simp only [PyCell.mapRefs, PyCell.toObj, PyObj.mapStrings, PyObj.tuple.injEq]
              apply List.ext_getElem?
              intro k
              simp only [List.getElem?_map, List.getElem?_mapIdx, PyObj.getElem?_mapItems,
                Option.map_map, Nat.zero_add]
              exact Option.map_congr fun r hr => hitem hr
          | dict kvs =>
              rw [hcell] at hitem
              simp only [PyCell.mapRefs, PyCell.toObj, PyObj.mapStrings, PyObj.dict.injEq]
              apply List.ext_getElem?
              intro k
              simp only [List.getElem?_map, List.getElem?_mapIdx, PyObj.getElem?_mapEntries,
                Option.map_map, Nat.zero_add]
              refine Option.map_congr fun kv hkv => ?_
              simp only [Function.comp_apply,
                hitem (k := k) (r := kv.2) (by simp [PyCell.refs, List.getElem?_map, hkv])]

/-- A reader of a graph with other strings sees them at the positions of their
slots. -/
theorem tree_map (f : Slot → String → String) (g : PyGraph) :
    (g.map f).tree = g.tree.mapStrings fun pos s => f (g.slotAt pos) s := by
  have hlength : (g.map f).cells.length = g.cells.length := by simp [map]
  rw [tree, hlength]
  exact unfold_map f g g.cells.length .root g.root

/-- What stands inside a value is inside its container. -/
theorem unfold_child {fuel k : Nat} {r : PyRef} {y : PyObj}
    (h : (g.unfold fuel r).children[k]? = some y) :
    ∃ id fuel' r', r = .container id ∧ (g.cell id).refs[k]? = some r' ∧ g.unfold fuel' r' = y := by
  cases fuel with
  | zero => cases r <;> simp [unfold, PyRef.scalar, PyObj.children] at h
  | succ fuel =>
      cases r with
      | container id =>
          have hchildren : (g.unfold (fuel + 1) (.container id)).children =
              (g.cell id).refs.map (g.unfold fuel) := by
            rw [unfold_container]
            cases g.cell id <;> simp [PyCell.toObj, PyObj.children, PyCell.refs]
          rw [hchildren, List.getElem?_map] at h
          obtain ⟨r', hr', hy⟩ := Option.map_eq_some_iff.mp h
          exact ⟨id, fuel, r', rfl, hr', hy⟩
      | none | bool _ | int _ | float _ | str _ | other _ _ =>
          simp [unfold, PyRef.scalar, PyObj.children] at h

/-- What stands at a position is what its slot refers to. -/
theorem exists_refAt_slotFrom {fuel : Nat} {here : Slot} {r : PyRef} {pos : List Nat} {x : PyObj}
    (hr : g.refAt here = some r) (h : (g.unfold fuel r).at? pos = some x) :
    ∃ fuel' r', g.refAt (g.slotFrom here r pos) = some r' ∧ g.unfold fuel' r' = x := by
  induction pos generalizing fuel here r with
  | nil =>
      rw [slotFrom_nil]
      exact ⟨fuel, r, hr, Option.some.inj h⟩
  | cons k pos ih =>
      obtain ⟨y, hy, hx⟩ := Option.bind_eq_some_iff.mp h
      obtain ⟨id, fuel', r', rfl, hr', rfl⟩ := unfold_child hy
      rw [slotFrom_cons hr']
      exact ih hr' hx

theorem unfold_str (fuel : Nat) (s : String) : g.unfold fuel (.str s) = .str s := by
  cases fuel <;> rfl

theorem unfold_eq_str {fuel : Nat} {r : PyRef} {s : String} (h : g.unfold fuel r = .str s) :
    r = .str s := by
  cases r with
  | str t => rw [unfold_str] at h; rw [PyObj.str.inj h]
  | container id =>
      cases fuel with
      | zero => cases h
      | succ fuel =>
          rw [unfold_container] at h
          cases hcell : g.cell id <;> rw [hcell] at h <;> cases h
  | none | bool _ | int _ | float _ | other _ _ => cases fuel <;> cases h

/-- A string at a position is the one in its slot. -/
theorem textAt_slotAt {pos : List Nat} {s : String} (h : g.tree.at? pos = some (.str s)) :
    g.textAt (g.slotAt pos) = some s := by
  obtain ⟨fuel, r, hr, hx⟩ := exists_refAt_slotFrom g.refAt_root h
  have hstr := unfold_eq_str hx
  rw [textAt_eq_some_iff, ← hstr]
  exact hr

/-- The string in a slot stands at each of its positions. -/
theorem at?_of_textAt {pos : List Nat} {x : PyObj} {s : String} (hx : g.tree.at? pos = some x)
    (hs : g.textAt (g.slotAt pos) = some s) : x = .str s := by
  obtain ⟨fuel, r, hr, hx⟩ := exists_refAt_slotFrom g.refAt_root hx
  obtain rfl : r = .str s := Option.some.inj (hr.symm.trans (textAt_eq_some_iff.mp hs))
  rw [← hx, unfold_str]

/-! ## containers in one slot -/

/-- The container a slot refers to. -/
def holds (g : PyGraph) (slot : Slot) : Option Nat := (g.refAt slot).bind PyRef.container?

/-- Every container stands in one slot: there is no alias. -/
def Single (g : PyGraph) : Prop :=
  ∀ slot slot' id, g.holds slot = some id → g.holds slot' = some id → slot = slot'

/-- The slots of the value. -/
def slots (g : PyGraph) : List Slot :=
  .root :: (List.range g.cells.length).flatMap fun id =>
    (List.range (g.cell id).refs.length).map (.item id)

theorem mem_slots {slot : Slot} {id : Nat} (h : g.holds slot = some id) : slot ∈ g.slots := by
  obtain ⟨r, hr, -⟩ := Option.bind_eq_some_iff.mp h
  cases slot with
  | root => exact List.mem_cons_self
  | item c k =>
      obtain ⟨hk, -⟩ := List.getElem?_eq_some_iff.mp hr
      have hc : c < g.cells.length := by
        by_contra hc
        rw [cell, List.getD_eq_getElem?_getD, List.getElem?_eq_none (Nat.not_lt.mp hc)] at hk
        exact absurd hk (Nat.not_lt_zero k)
      refine List.mem_cons_of_mem _ (List.mem_flatMap.mpr ⟨c, List.mem_range.mpr hc, ?_⟩)
      exact List.mem_map.mpr ⟨k, List.mem_range.mpr hk, rfl⟩

instance (g : PyGraph) : Decidable g.Single :=
  decidable_of_iff (∀ slot ∈ g.slots, ∀ slot' ∈ g.slots,
      (g.holds slot).isSome = true → g.holds slot' = g.holds slot → slot = slot') <| by
    constructor
    · intro h slot slot' id hid hid'
      exact h slot (mem_slots hid) slot' (mem_slots hid') (by simp [hid]) (hid'.trans hid.symm)
    · intro h slot _ slot' _ hsome hsame
      obtain ⟨id, hid⟩ := Option.isSome_iff_exists.mp hsome
      exact h slot slot' id hid (hsame.trans hid)

/-- A position inside a value is in the container the slot before it refers to. -/
theorem holds_slotFrom {fuel k : Nat} {here : Slot} {r : PyRef} {pos : List Nat} {x : PyObj}
    (hr : g.refAt here = some r) (h : (g.unfold fuel r).at? (pos ++ [k]) = some x) :
    ∃ id, g.holds (g.slotFrom here r pos) = some id ∧
      g.slotFrom here r (pos ++ [k]) = .item id k := by
  induction pos generalizing fuel here r with
  | nil =>
      obtain ⟨y, hy, -⟩ := Option.bind_eq_some_iff.mp h
      obtain ⟨id, fuel', r', rfl, hr', -⟩ := unfold_child hy
      rw [slotFrom_nil, holds, hr]
      exact ⟨id, rfl, (slotFrom_cons hr' []).trans (slotFrom_nil _ r')⟩
  | cons n pos ih =>
      obtain ⟨y, hy, hx⟩ := Option.bind_eq_some_iff.mp h
      obtain ⟨id, fuel', r', rfl, hr', rfl⟩ := unfold_child hy
      rw [List.cons_append, slotFrom_cons hr', slotFrom_cons hr']
      exact ih hr' hx

/-- A value is at a position's beginning. -/
theorem at?_of_append {x y : PyObj} {pos rest : List Nat} (h : x.at? (pos ++ rest) = some y) :
    ∃ z, x.at? pos = some z := by
  induction pos generalizing x with
  | nil => exact ⟨x, rfl⟩
  | cons n pos ih =>
      obtain ⟨child, hchild, hrest⟩ := Option.bind_eq_some_iff.mp h
      obtain ⟨z, hz⟩ := ih hrest
      exact ⟨z, by rw [PyObj.at?, hchild, Option.bind_some, hz]⟩

/-- **Without aliases a slot has one position.** -/
theorem Single.slotAt_inj (hsingle : g.Single) {pos q : List Nat} {x y : PyObj}
    (hpos : g.tree.at? pos = some x) (hq : g.tree.at? q = some y)
    (h : g.slotAt pos = g.slotAt q) : pos = q := by
  have hroot : g.refAt .root = some g.root := rfl
  -- the last indices are those of one container, which is in one slot
  induction pos using List.reverseRecOn generalizing q x y with
  | nil =>
      cases q using List.reverseRecOn with
      | nil => rfl
      | append_singleton q k =>
          obtain ⟨id, -, hslot⟩ := holds_slotFrom hroot hq
          rw [slotAt, slotFrom_nil, slotAt, hslot] at h
          cases h
  | append_singleton pos k ih =>
      obtain ⟨id, hholds, hslot⟩ := holds_slotFrom hroot hpos
      obtain ⟨z, hz⟩ := at?_of_append hpos
      cases q using List.reverseRecOn with
      | nil =>
          rw [slotAt, hslot, slotAt, slotFrom_nil] at h
          cases h
      | append_singleton q k' =>
          obtain ⟨id', hholds', hslot'⟩ := holds_slotFrom hroot hq
          obtain ⟨z', hz'⟩ := at?_of_append hq
          rw [slotAt, hslot, slotAt, hslot'] at h
          obtain ⟨rfl, rfl⟩ := Slot.item.inj h
          rw [ih hz hz' (hsingle _ _ id hholds hholds')]

/-! ## the graph of a tree -/

mutual
/-- The containers of a value, with identities from `next` on. -/
def alloc : PyVal → Nat → PyRef × List PyCell
  | .none, _ => (.none, [])
  | .bool b, _ => (.bool b, [])
  | .int i, _ => (.int i, [])
  | .float r, _ => (.float r, [])
  | .str s, _ => (.str s, [])
  | .list xs, next =>
      let (refs, cells) := allocItems xs (next + 1)
      (.container next, .list refs :: cells)
  | .dict kvs, next =>
      let (refs, cells) := allocEntries kvs (next + 1)
      (.container next, .dict refs :: cells)

def allocItems : List PyVal → Nat → List PyRef × List PyCell
  | [], _ => ([], [])
  | x :: xs, next =>
      let (r, cells) := alloc x next
      let (refs, rest) := allocItems xs (next + cells.length)
      (r :: refs, cells ++ rest)

def allocEntries : List (String × PyVal) → Nat → List (PyKey × PyRef) × List PyCell
  | [], _ => ([], [])
  | (k, x) :: kvs, next =>
      let (r, cells) := alloc x next
      let (refs, rest) := allocEntries kvs (next + cells.length)
      ((.str k, r) :: refs, cells ++ rest)
end

/-- A value whose containers stand in one place each. -/
def ofVal (v : PyVal) : PyGraph :=
  let (root, cells) := alloc v 0
  ⟨cells, root⟩

/-- An alias: one container under two keys. -/
example : (PyGraph.mk [.dict [(.str "auth", .container 1), (.str "x", .container 1)],
    .dict [(.str "password", .str "s")]] (.container 0)).tree.toJson? =
      some (.dict [("auth", .dict [("password", .str "s")]),
        ("x", .dict [("password", .str "s")])]) := by decide +kernel

end PyGraph
