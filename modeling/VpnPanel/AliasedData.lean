import VpnPanel.FieldEncryption
import VpnPanel.Lib.PyGraph

/-!
# VpnPanel.AliasedData

`crypto/config_data.py` on values whose containers may stand in several places,
as `yaml.safe_load` makes them of a text with aliases.  `copy.deepcopy` gives a
value with the same containers, and an assignment changes a container wherever
it stands.

* `Aliased.encryptConfigDataFields`, `Aliased.decryptConfigDataFields` — the two
  functions;
* `graphPlaces` — graphs have their slots as places;
* `fieldEncryption` — what the two do, for every graph and list of paths;
* `Unshared`, `toJson?_sealedGraph` — where the encryption is that of the tree a
  reader sees;
* `decrypt_sealedGraph` — what is read of an encrypted value.
-/

namespace VpnPanel

namespace Aliased

/-- The child one part of a path leads to. -/
def childIndex (part : String) : PyCell → Option Nat
  | .list xs =>
      match PyVal.parseInt part with
      | .ok i => (listIndex xs.length i).toOption
      | .error _ => none
  | .dict kvs => (kvs.map Prod.fst).findIdx? (· = .str part)
  | .tuple _ => none

/-- The value under a key. -/
def lookup (key : String) : List (PyKey × PyRef) → Option PyRef
  | [] => none
  | (k, value) :: kvs => if k = .str key then some value else lookup key kvs

/-- One part of a path: `current[int(part)]` in a list, `current[part]`
otherwise. -/
def getPart (g : PyGraph) (part : String) (current : PyRef) : Except PyErr PyRef :=
  match current with
  | .container id =>
      match g.cell id with
      | .list xs => do
          let i ← PyVal.parseInt part
          let n ← listIndex xs.length i
          .ok (xs.getD n .none)
      | .dict kvs =>
          match lookup part kvs with
          | some child => .ok child
          | none => .error ⟨.keyError, "'" ++ part ++ "'"⟩
      | .tuple _ => .error ⟨.typeError, "tuple indices must be integers or slices, not str"⟩
  | .str _ => .error ⟨.typeError, "string indices must be integers, not 'str'"⟩
  | _ => .error ⟨.typeError, "object is not subscriptable"⟩

/-- `_get_by_path`. -/
def getByPath (g : PyGraph) : List String → PyRef → Except PyErr PyRef
  | [], current => .ok current
  | part :: parts, current => do
      let child ← getPart g part current
      getByPath g parts child

/-- The assignment at the last part of a path. -/
def setPart (part : String) (value current : PyRef) (g : PyGraph) : Except PyErr PyGraph :=
  match current with
  | .container id =>
      match g.cell id with
      | .list xs => do
          let i ← PyVal.parseInt part
          let n ← listIndex xs.length i
          .ok (g.assign (.item id n) value)
      | .dict kvs =>
          match (kvs.map Prod.fst).findIdx? (· = .str part) with
          | some n => .ok (g.assign (.item id n) value)
          | none => .ok { g with cells := g.cells.set id (.dict (kvs ++ [(.str part, value)])) }
      | .tuple _ => .error ⟨.typeError, "'tuple' object does not support item assignment"⟩
  | _ => .error ⟨.typeError, "object does not support item assignment"⟩

/-- `_set_by_path`.  `split` gives no path without parts; such a path stands for
the value as a whole. -/
def setByPath (value : PyRef) : List String → PyRef → PyGraph → Except PyErr PyGraph
  | [], _, g => .ok (g.assign .root value)
  | [last], current, g => setPart last value current g
  | part :: parts, current, g => do
      let child ← getPart g part current
      setByPath value parts child g

/-- One round of the loops of `decrypt_config_data_fields` and
`encrypt_config_data_fields`. -/
def replaceAt (f : String → Except PyErr String) (path : List String) (data : PyGraph) :
    Except PyErr PyGraph :=
  match getByPath data path data.root with
  | .error _ => .ok data
  | .ok (.str s) => if s = "" then .ok data else do
      let s' ← f s
      setByPath (.str s') path data.root data
  | .ok _ => .ok data

/-- `decrypt_config_data_fields`. -/
def decryptConfigDataFields (encryptor : FieldEncryptor) :
    List (List String) → PyGraph → Except PyErr PyGraph
  | [], data => .ok data
  | path :: paths, data => do
      let data' ← replaceAt encryptor.decrypt path data
      decryptConfigDataFields encryptor paths data'

/-- `encrypt_config_data_fields`; every path draws its own randomness. -/
def encryptConfigDataFields (encryptor : FieldEncryptor) (nonce : Nat) :
    List (List String) → PyGraph → Except PyErr PyGraph
  | [], data => .ok data
  | path :: paths, data => do
      let data' ← replaceAt (encryptor.encrypt nonce) path data
      encryptConfigDataFields encryptor (nonce + 1) paths data'

/-! ## where a path leads -/

/-- The slot a path leads to, from the value `current` in the slot `here`. -/
def locateFrom (g : PyGraph) : Slot → PyRef → List String → Option Slot
  | here, _, [] => some here
  | _, .container id, part :: parts => do
      let n ← childIndex part (g.cell id)
      let child ← (g.cell id).refs[n]?
      locateFrom g (.item id n) child parts
  | _, _, _ :: _ => none

/-- The slot a path leads to. -/
def locate (path : List String) (g : PyGraph) : Option Slot := locateFrom g .root g.root path

variable {g : PyGraph} {here slot : Slot} {part : String} {path : List String}
  {current child : PyRef}

theorem childIndex_mapRefs (f : Nat → PyRef → PyRef) (part : String) (cell : PyCell) :
    childIndex part (cell.mapRefs f) = childIndex part cell := by
  cases cell with
  | list xs => simp [PyCell.mapRefs, childIndex]
  | tuple xs => rfl
  | dict kvs =>
      have hkeys : (kvs.mapIdx fun k kv => (kv.1, f k kv.2)).map Prod.fst = kvs.map Prod.fst := by
        apply List.ext_getElem?
        intro k
        simp [Function.comp_def]
      simp only [PyCell.mapRefs, childIndex, hkeys]

theorem locateFrom_map (f : Slot → String → String) (path : List String) (here : Slot)
    (current : PyRef) : locateFrom (g.map f) here (current.mapString (f here)) path =
      locateFrom g here current path := by
  induction path generalizing here current with
  | nil => cases current <;> rfl
  | cons part parts ih =>
      cases current with
      | container id =>
          have hsame : (PyRef.container id).mapString (f here) = .container id := rfl
          simp only [hsame, locateFrom, PyGraph.cell_map, childIndex_mapRefs,
            PyCell.refs_mapRefs, List.getElem?_mapIdx]
          cases childIndex part (g.cell id) with
          | none => rfl
          | some n =>
              cases hc : (g.cell id).refs[n]? with
              | none => simp [hc]
              | some c => simpa only [hc, Option.map_some, Option.bind_eq_bind, Option.bind_some]
                  using ih (.item id n) c
      | none | bool _ | int _ | float _ | other _ _ | str _ => rfl

/-- Replaced strings do not change where a path leads. -/
theorem locate_map (f : Slot → String → String) (path : List String) (g : PyGraph) :
    locate path (g.map f) = locate path g :=
  locateFrom_map f path .root g.root

theorem lookup_eq_findIdx? (key : String) (kvs : List (PyKey × PyRef)) : lookup key kvs =
    ((kvs.map Prod.fst).findIdx? (· = .str key)).bind fun n => (kvs.map Prod.snd)[n]? := by
  induction kvs with
  | nil => rfl
  | cons kv kvs ih =>
      obtain ⟨k, value⟩ := kv
      rw [lookup, List.map_cons, List.findIdx?_cons]
      by_cases hk : k = .str key
      · simp [hk]
      · simp only [hk, if_false, decide_false, Bool.false_eq_true, ih]
        cases (kvs.map Prod.fst).findIdx? (· = .str key) <;> simp

/-- One part: what is read is the child at its index. -/
theorem getPart_eq_ok_iff : getPart g part current = .ok child ↔
    ∃ id n, current = .container id ∧ childIndex part (g.cell id) = some n ∧
      (g.cell id).refs[n]? = some child := by
  cases current with
  | container id =>
      simp only [getPart, PyRef.container.injEq, exists_and_left, exists_eq_left']
      generalize g.cell id = cell
      cases cell with
      | list xs =>
          simp only [childIndex, PyCell.refs]
          cases PyVal.parseInt part with
          | error e => simp
          | ok i =>
              cases hn : listIndex xs.length i with
              | error e => simp [hn, Except.toOption]
              | ok n =>
                  have hlt := listIndex_lt hn
                  simp [hn, Except.toOption, List.getD, hlt]
      | tuple xs => simp [childIndex]
      | dict kvs =>
          simp only [childIndex, PyCell.refs, lookup_eq_findIdx?]
          rw [← Option.bind_eq_some_iff]
          cases Option.bind _ _ <;> simp
  | none | bool _ | int _ | float _ | other _ _ | str _ => simp [getPart]

/-- What `_get_by_path` returns is the value in the path's slot. -/
theorem getByPath_eq_ok_iff (hhere : g.refAt here = some current) {r : PyRef} :
    getByPath g path current = .ok r ↔
      ∃ slot, locateFrom g here current path = some slot ∧ g.refAt slot = some r := by
  induction path generalizing here current with
  | nil => cases current <;> simp [getByPath, locateFrom, hhere]
  | cons part parts ih =>
      rw [getByPath, Except.bind_eq_ok_iff]
      constructor
      · rintro ⟨c, hc, hget⟩
        obtain ⟨id, n, rfl, hn, hchild⟩ := getPart_eq_ok_iff.mp hc
        have hrest := ih (show g.refAt (.item id n) = some c from hchild)
        obtain ⟨slot, hslot, hr⟩ := hrest.mp hget
        exact ⟨slot, by simp [locateFrom, hn, hchild, hslot], hr⟩
      · rintro ⟨slot, hslot, hr⟩
        cases current with
        | container id =>
            simp only [locateFrom, Option.bind_eq_bind, Option.bind_eq_some_iff] at hslot
            obtain ⟨n, hn, c, hchild, hrest⟩ := hslot
            have hget := ih (show g.refAt (.item id n) = some c from hchild)
            exact ⟨c, getPart_eq_ok_iff.mpr ⟨id, n, rfl, hn, hchild⟩,
              hget.mpr ⟨slot, hrest, hr⟩⟩
        | none | bool _ | int _ | float _ | other _ _ | str _ => simp [locateFrom] at hslot

/-- The last part: what is assigned is the slot it leads to. -/
theorem setPart_eq {id n : Nat} (hn : childIndex part (g.cell id) = some n) (value : PyRef) :
    setPart part value (.container id) g = .ok (g.assign (.item id n) value) := by
  simp only [setPart]
  generalize g.cell id = cell at hn ⊢
  cases cell with
  | list xs =>
      simp only [childIndex] at hn ⊢
      cases hi : PyVal.parseInt part with
      | error e => simp [hi] at hn
      | ok i =>
          rw [hi] at hn
          cases hm : listIndex xs.length i with
          | error e => simp [hm, Except.toOption] at hn
          | ok m =>
              obtain rfl : m = n := by simpa [hm, Except.toOption] using hn
              simp [hm]
  | tuple xs => simp [childIndex] at hn
  | dict kvs =>
      simp only [childIndex] at hn
      simp only [hn]

/-- What `_set_by_path` assigns is the path's slot. -/
theorem setByPath_eq (hpath : path ≠ []) (hslot : locateFrom g here current path = some slot)
    (value : PyRef) : setByPath value path current g = .ok (g.assign slot value) := by
  induction path generalizing here current with
  | nil => exact absurd rfl hpath
  | cons part parts ih =>
      cases current with
      | container id =>
          simp only [locateFrom, Option.bind_eq_bind, Option.bind_eq_some_iff] at hslot
          obtain ⟨n, hn, c, hchild, hrest⟩ := hslot
          cases parts with
          | nil =>
              obtain rfl : Slot.item id n = slot := by
                cases c <;> simpa [locateFrom] using hrest
              exact setPart_eq hn value
          | cons next rest =>
              rw [setByPath, getPart_eq_ok_iff.mpr ⟨id, n, rfl, hn, hchild⟩, Except.ok_bind_eq]
              · exact ih (by simp) hrest
              · simp
      | none | bool _ | int _ | float _ | other _ _ | str _ => simp [locateFrom] at hslot

/-! ## the rounds -/

theorem getByPath_str_iff {s : String} : getByPath g path g.root = .ok (.str s) ↔
    ∃ slot, locate path g = some slot ∧ g.textAt slot = some s := by
  rw [getByPath_eq_ok_iff g.refAt_root]
  simp only [locate, PyGraph.textAt_eq_some_iff]

/-- A round at a path that leads to no string, or to an empty one. -/
theorem replaceAt_none {f : String → Except PyErr String}
    (h : ∀ slot s, locate path g = some slot → g.textAt slot = some s → s = "") :
    replaceAt f path g = .ok g := by
  unfold replaceAt
  split
  · rfl
  · next s hget =>
    obtain ⟨slot, hslot, hs⟩ := getByPath_str_iff.mp hget
    rw [if_pos (h slot s hslot hs)]
  · rfl

/-- A round at a path that leads to another string. -/
theorem replaceAt_some {f : String → Except PyErr String} {s : String}
    (hslot : locate path g = some slot) (hs : g.textAt slot = some s) (hne : s ≠ "") :
    replaceAt f path g = (f s).map fun s' => g.map fun q t => if q = slot then s' else t := by
  unfold replaceAt
  simp only [getByPath_str_iff.mpr ⟨slot, hslot, hs⟩, if_neg hne]
  cases f s with
  | error e => rfl
  | ok s' =>
      have hset : setByPath (.str s') path g.root g = .ok (g.assign slot (.str s')) := by
        cases path with
        | nil =>
            obtain rfl : Slot.root = slot := by
              simpa [locate, locateFrom] using hslot
            rfl
        | cons part parts => exact setByPath_eq (by simp) hslot _
      rw [Except.ok_bind_eq, hset, PyGraph.assign_eq_map hs]
      rfl

end Aliased

/-- Graphs with their slots. -/
def graphPlaces : Places PyErr PyGraph (List String) Slot where
  text := PyGraph.textAt
  map := PyGraph.map
  text_map := PyGraph.textAt_map
  map_map := PyGraph.map_map
  map_congr := PyGraph.map_congr
  map_id := PyGraph.map_id
  locate := Aliased.locate
  locate_map := Aliased.locate_map
  replace := Aliased.replaceAt
  replace_none _ _ _ h := Aliased.replaceAt_none h
  replace_some _ _ _ _ _ hslot hs hne := Aliased.replaceAt_some hslot hs hne

namespace Aliased

theorem encryptConfigDataFields_eq (encryptor : FieldEncryptor) (nonce : Nat)
    (paths : List (List String)) (data : PyGraph) :
    encryptConfigDataFields encryptor nonce paths data =
      graphPlaces.sealAll encryptor.cipher nonce paths data := by
  induction paths generalizing nonce data with
  | nil => rfl
  | cons path paths ih =>
      rw [encryptConfigDataFields, Places.sealAll, encryptor.sealed_cipher]
      exact congrArg _ (funext fun data' => ih (nonce + 1) data')

theorem decryptConfigDataFields_eq (encryptor : FieldEncryptor) (paths : List (List String))
    (data : PyGraph) : decryptConfigDataFields encryptor paths data =
      graphPlaces.unsealAll encryptor.cipher paths data := by
  induction paths generalizing data with
  | nil => rfl
  | cons path paths ih =>
      rw [decryptConfigDataFields, Places.unsealAll]
      exact congrArg _ (funext ih)

/-- The value with a layer on each non-empty string for each path that leads to
its slot. -/
abbrev sealedGraph (encryptor : FieldEncryptor) (nonce : Nat) (paths : List (List String))
    (data : PyGraph) : PyGraph :=
  graphPlaces.sealedDocument encryptor.cipher nonce paths data

theorem encryptConfigDataFields_eq_ok_iff {encryptor : FieldEncryptor} {nonce : Nat}
    {paths : List (List String)} {data stored : PyGraph} :
    encryptConfigDataFields encryptor nonce paths data = .ok stored ↔
      graphPlaces.Writable encryptor.cipher paths data ∧
        sealedGraph encryptor nonce paths data = stored := by
  rw [encryptConfigDataFields_eq, Places.sealAll_eq_ok_iff]

end Aliased

/-- **Field encryption**, for every value, containers shared or inside themselves
included, every list of paths and every encryptor.  The encryption raises only
where a listed string cannot be encoded; what it returns decrypts to the value,
and differs from it in the listed non-empty strings, which are ciphertexts. -/
theorem fieldEncryption (encryptor : FieldEncryptor) (nonce : Nat) (paths : List (List String))
    (data : PyGraph) :
    ((∃ stored, Aliased.encryptConfigDataFields encryptor nonce paths data = .ok stored) ↔
      ∀ slot s, graphPlaces.Listed paths data slot → data.textAt slot = some s → s ≠ "" →
        encryptor.encodeError s = none) ∧
      ∀ stored, Aliased.encryptConfigDataFields encryptor nonce paths data = .ok stored →
        Aliased.decryptConfigDataFields encryptor paths stored = .ok data ∧
        (∃ g, stored = data.map g) ∧
        (∀ slot s, data.textAt slot = some s → graphPlaces.Listed paths data slot ∧ s ≠ "" →
          ∃ n t, stored.textAt slot = some (encryptor.token n t)) ∧
        ∀ slot s, data.textAt slot = some s → ¬ (graphPlaces.Listed paths data slot ∧ s ≠ "") →
          stored.textAt slot = some s := by
  have hwritable : graphPlaces.Writable encryptor.cipher paths data ↔
      ∀ slot s, graphPlaces.Listed paths data slot → data.textAt slot = some s → s ≠ "" →
        encryptor.encodeError s = none := by
    simp [Places.Writable, FieldEncryptor.cipher, graphPlaces]
  rw [← hwritable]
  simp only [Aliased.encryptConfigDataFields_eq_ok_iff, exists_and_left, exists_eq', and_true,
    true_and]
  rintro stored ⟨hw, rfl⟩
  refine ⟨?_, ⟨fun slot s =>
      encryptor.cipher.sealString (graphPlaces.layers data slot nonce paths) s, rfl⟩,
    fun slot s hs hlisted => ?_, fun slot s hs hnot => ?_⟩
  · rw [Aliased.decryptConfigDataFields_eq, Places.unsealAll_sealed hw]
  · exact Places.text_sealedDocument_of_listed hs hlisted.1 hlisted.2
  · exact Places.text_sealedDocument_of_not hs hnot

/-! ## what a reader sees -/

/-- Every container with a non-empty string a path leads to stands in one place.
-/
def Unshared (paths : List (List String)) (data : PyGraph) : Prop :=
  ∀ path ∈ paths, ∀ slot, Aliased.locate path data = some slot → ∀ pos q s, s ≠ "" →
    data.tree.at? pos = some (.str s) → data.tree.at? q = some (.str s) →
      data.slotAt pos = slot → data.slotAt q = slot → pos = q

/-- Without aliases no container does in two. -/
theorem unshared_of_single {data : PyGraph} (h : data.Single) (paths : List (List String)) :
    Unshared paths data := fun _ _ _ _ _ _ _ _ hpos hq hslot hslot' =>
  h.slotAt_inj hpos hq (hslot.trans hslot'.symm)

/-- The child one part of a path leads to, as a reader sees it. -/
def objChild (part : String) : PyObj → Option Nat
  | .list xs =>
      match PyVal.parseInt part with
      | .ok i => (listIndex xs.length i).toOption
      | .error _ => none
  | .dict kvs => (kvs.map Prod.fst).findIdx? (· = .str part)
  | _ => none

theorem objChild_toObj (part : String) (value : PyRef → PyObj) (cell : PyCell) :
    objChild part (cell.toObj value) = Aliased.childIndex part cell := by
  cases cell with
  | list xs => simp [PyCell.toObj, objChild, Aliased.childIndex]
  | tuple xs => rfl
  | dict kvs => simp [PyCell.toObj, objChild, Aliased.childIndex, Function.comp_def]

theorem objChild_of_toJson? {x : PyObj} {v : PyVal} (h : x.toJson? = some v) (part : String) :
    objChild part x = childPos part v := by
  cases x with
  | list xs =>
      obtain ⟨vs, hvs, rfl⟩ := Option.map_eq_some_iff.mp h
      have hlength := congrArg List.length (PyObj.children_of_itemsJson? hvs)
      simp only [List.length_map] at hlength
      cases hint : PyVal.parseInt part with
      | error e => simp only [objChild, childPos, hint]
      | ok i => simp only [objChild, childPos, hint, hlength]
  | dict kvs =>
      obtain ⟨entries, hentries, h⟩ := Option.bind_eq_some_iff.mp h
      split at h
      · rw [← Option.some.inj h, objChild, childPos, (PyObj.children_of_entriesJson? hentries).2,
          List.findIdx?_map]
        congr 1
        funext k
        simp
      · cases h
  | float r =>
      simp only [PyObj.toJson?] at h
      split at h
      · rw [← Option.some.inj h]
        rfl
      · cases h
  | none | bool _ | int _ | str _ =>
      rw [← Option.some.inj h]
      rfl
  | tuple _ | other _ _ | enclosing => cases h

/-- Whether all that are counted are counted by the stricter predicate. -/
theorem countP_le_iff {α : Type} {p q : α → Bool} {xs : List α} (h : ∀ a ∈ xs, p a → q a) :
    xs.countP q ≤ xs.countP p ↔ ∀ a ∈ xs, q a → p a := by
  constructor
  · intro hle a ha hq
    by_contra hp
    obtain ⟨before, after, rfl⟩ := List.append_of_mem ha
    have hbefore : before.countP p ≤ before.countP q :=
      List.countP_mono_left fun b hb => h b (by simp [hb])
    have hafter : after.countP p ≤ after.countP q :=
      List.countP_mono_left fun b hb => h b (by simp [hb])
    rw [List.countP_append, List.countP_append, List.countP_cons_of_pos hq,
      List.countP_cons_of_neg hp] at hle
    omega
  · exact fun himp => List.countP_mono_left himp

section Tree

variable {encryptor : FieldEncryptor} {nonce : Nat} {paths : List (List String)}
  {data : PyGraph} {v : PyVal}

/-- In a value of JSON a path leads to the slot of the position it leads to. -/
theorem locateFrom_unfold {fuel : Nat} {r : PyRef} (h : (data.unfold fuel r).toJson? = some v)
    (here : Slot) (path : List String) :
    Aliased.locateFrom data here r path = (locate path v).map (data.slotFrom here r) := by
  induction path generalizing fuel here r v with
  | nil => cases r <;> simp [Aliased.locateFrom, locate, PyGraph.slotFrom_nil]
  | cons part parts ih =>
      cases r with
      | container id =>
          cases fuel with
          | zero => cases h
          | succ fuel =>
              rw [PyGraph.unfold_container] at h
              have hchild : Aliased.childIndex part (data.cell id) = childPos part v := by
                rw [← objChild_toObj part (data.unfold fuel), objChild_of_toJson? h]
              have hchildren : ((data.cell id).refs.map (data.unfold fuel)).map PyObj.toJson? =
                  v.children.map some := by
                rw [← PyObj.children_of_toJson? h]
                cases data.cell id <;> simp [PyCell.toObj, PyObj.children, PyCell.refs]
              rw [Aliased.locateFrom, locate, hchild]
              cases childPos part v with
              | none => rfl
              | some n =>
                  have hn := congrArg (fun xs => xs[n]?) hchildren
                  simp only [List.getElem?_map] at hn
                  cases hr : (data.cell id).refs[n]? with
                  | none =>
                      rw [hr, Option.map_none, Option.map_none, eq_comm,
                        Option.map_eq_none_iff] at hn
                      simp [hr, hn]
                  | some r' =>
                      rw [hr, Option.map_some, Option.map_some, eq_comm,
                        Option.map_eq_some_iff] at hn
                      obtain ⟨w, hw, hc⟩ := hn
                      simp only [hr, hw, Option.bind_eq_bind, Option.bind_some, ih hc.symm]
                      cases locate parts w with
                      | none => rfl
                      | some pos => simp [PyGraph.slotFrom_cons hr]
      | none | bool _ | int _ | float _ | other _ _ | str _ =>
          have hv : childPos part v = none := by
            rw [← objChild_of_toJson? h]
            cases fuel <;> rfl
          simp [Aliased.locateFrom, locate, hv]

theorem locate_tree (h : data.tree.toJson? = some v) (path : List String) :
    Aliased.locate path data = (locate path v).map data.slotAt :=
  locateFrom_unfold h .root path

/-- A reader of an encrypted value sees a layer on a string for each path that
leads to its slot. -/
theorem tree_sealedGraph (encryptor : FieldEncryptor) (nonce : Nat) (paths : List (List String))
    (data : PyGraph) : (Aliased.sealedGraph encryptor nonce paths data).tree =
      data.tree.mapStrings fun pos s =>
        encryptor.cipher.sealString (graphPlaces.layers data (data.slotAt pos) nonce paths) s :=
  PyGraph.tree_map (fun slot s =>
    encryptor.cipher.sealString (graphPlaces.layers data slot nonce paths) s) data

/-- A path leads to the slot of a string if it leads to one of the places the
string stands in. -/
theorem locate_slotAt_iff (h : data.tree.toJson? = some v) {pos : List Nat} {s : String}
    (hs : v.stringAt pos = some s) (path : List String) :
    Aliased.locate path data = some (data.slotAt pos) ↔
      ∃ q, locate path v = some q ∧ v.stringAt q = some s ∧ data.slotAt q = data.slotAt pos := by
  have hat := (PyObj.at?_eq_str_iff h).mpr (PyVal.stringAt_eq_some_iff.mp hs)
  rw [locate_tree h, Option.map_eq_some_iff]
  constructor
  · rintro ⟨q, hq, hslot⟩
    obtain ⟨w, hw⟩ := exists_at?_of_locate hq
    have hobj := PyObj.at?_of_toJson? h q
    rw [hw, Option.map_some, Option.map_eq_some_iff] at hobj
    obtain ⟨x, hx, -⟩ := hobj
    obtain rfl : x = .str s :=
      PyGraph.at?_of_textAt hx (by rw [hslot]; exact PyGraph.textAt_slotAt hat)
    exact ⟨q, hq, PyVal.stringAt_eq_some_iff.mpr ((PyObj.at?_eq_str_iff h).mp hx), hslot⟩
  · rintro ⟨q, hq, -, hslot⟩
    exact ⟨q, hq, hslot⟩

/-- Where no container with a listed string is shared, a path leads to a string's
slot only if it leads to the string. -/
theorem unshared_iff (h : data.tree.toJson? = some v) : Unshared paths data ↔
    ∀ path ∈ paths, ∀ pos s, v.stringAt pos = some s → s ≠ "" →
      Aliased.locate path data = some (data.slotAt pos) → locate path v = some pos := by
  constructor
  · intro hunshared path hpath pos s hs hne hgraph
    obtain ⟨q, hq, hqs, hslot⟩ := (locate_slotAt_iff h hs path).mp hgraph
    rw [hq, hunshared path hpath (data.slotAt pos) hgraph q pos s hne
      ((PyObj.at?_eq_str_iff h).mpr (PyVal.stringAt_eq_some_iff.mp hqs))
      ((PyObj.at?_eq_str_iff h).mpr (PyVal.stringAt_eq_some_iff.mp hs)) hslot rfl]
  · intro honly path hpath slot hgraph pos q s hne hpos hq hposSlot hqSlot
    have htree {r : List Nat} (hr : data.tree.at? r = some (.str s))
        (hslot : data.slotAt r = slot) : locate path v = some r :=
      honly path hpath r s (PyVal.stringAt_eq_some_iff.mpr ((PyObj.at?_eq_str_iff h).mp hr)) hne
        (by rw [hgraph, hslot])
    exact Option.some.inj ((htree hpos hposSlot).symm.trans (htree hq hqSlot))

/-- Where no container with a listed string is shared, the layers are those of
the tree. -/
theorem layers_of_unshared (h : data.tree.toJson? = some v) {pos : List Nat} {s : String}
    (hs : v.stringAt pos = some s) (hne : s ≠ "") (nonce : Nat)
    (hunshared : Unshared paths data) :
    graphPlaces.layers data (data.slotAt pos) nonce paths =
      treePlaces.layers v pos nonce paths := by
  have honly := (unshared_iff h).mp hunshared
  clear hunshared
  induction paths generalizing nonce with
  | nil => rfl
  | cons path paths ih =>
      have hleads : graphPlaces.locate path data = some (data.slotAt pos) ↔
          treePlaces.locate path v = some pos := by
        constructor
        · exact honly path (by simp) pos s hs hne
        · intro hpos
          exact (locate_tree h path).trans (congrArg (Option.map data.slotAt) hpos)
      rw [Places.layers, Places.layers,
        ih (nonce + 1) fun path' hpath' => honly path' (List.mem_cons_of_mem _ hpath')]
      by_cases hpos : treePlaces.locate path v = some pos
      · rw [if_pos hpos, if_pos (hleads.mpr hpos)]
      · rw [if_neg hpos, if_neg fun hgraph => hpos (hleads.mp hgraph)]
/-- **The encryption of a value whose containers with listed strings stand in one
place each** is the encryption of the tree a reader sees. -/
theorem toJson?_sealedGraph (h : data.tree.toJson? = some v) (nonce : Nat)
    (hunshared : Unshared paths data) :
    (Aliased.sealedGraph encryptor nonce paths data).tree.toJson? =
      some (sealedDocument encryptor nonce paths v) := by
  rw [tree_sealedGraph, PyObj.toJson?_mapStrings, h, Option.map_some]
  refine congrArg some (PyVal.mapStrings_congr _ _ v fun pos s hs => ?_)
  by_cases hne : s = ""
  · simp [hne, Cipher.sealString]
  · rw [layers_of_unshared h (PyVal.stringAt_eq_some_iff.mpr hs) hne nonce hunshared]

/-- Strings that can be written can be written in the tree. -/
theorem writable_tree (h : data.tree.toJson? = some v)
    (hwritable : graphPlaces.Writable encryptor.cipher paths data) :
    treePlaces.Writable encryptor.cipher paths v := by
  rintro pos s ⟨path, hpath, hpos⟩ hs hne
  have hslot : graphPlaces.locate path data = some (data.slotAt pos) :=
    (locate_tree h path).trans (congrArg (Option.map data.slotAt) hpos)
  have hat := (PyObj.at?_eq_str_iff h).mpr (PyVal.stringAt_eq_some_iff.mp hs)
  exact hwritable (data.slotAt pos) s ⟨path, hpath, hslot⟩ (PyGraph.textAt_slotAt hat) hne

/-- Where no container with a listed string is shared, the encryption is that of
the tree. -/
theorem encrypt_tree_of_unshared (h : data.tree.toJson? = some v) (hunshared : Unshared paths data)
    {encrypted : PyGraph}
    (henc : Aliased.encryptConfigDataFields encryptor nonce paths data = .ok encrypted) :
    ∃ stored, encrypted.tree.toJson? = some stored ∧
      encryptConfigDataFields encryptor nonce paths v = .ok stored := by
  obtain ⟨hwritable, rfl⟩ := Aliased.encryptConfigDataFields_eq_ok_iff.mp henc
  exact ⟨_, toJson?_sealedGraph h nonce hunshared,
    encryptConfigDataFields_eq_ok_iff.mpr ⟨writable_tree h hwritable, rfl⟩⟩

/-- **What is read of an encrypted value** of JSON, as its reader sees it: the
layers of the paths that lead to a string come off, so it is the value where no
container with a listed string is shared. -/
theorem decrypt_sealedGraph (hlong : encryptor.cipher.Lengthens) (h : data.tree.toJson? = some v)
    (hwritable : graphPlaces.Writable encryptor.cipher paths data) (nonce : Nat) :
    ∃ stored g, (Aliased.sealedGraph encryptor nonce paths data).tree.toJson? = some stored ∧
      decryptConfigDataFields encryptor paths stored = .ok (v.mapStrings g) ∧
      (v.mapStrings g = v ↔ Unshared paths data) := by
  have hleads {path : List String} {pos : List Nat} (hpos : locate path v = some pos) :
      Aliased.locate path data = some (data.slotAt pos) := by
    rw [locate_tree h, hpos, Option.map_some]
  obtain ⟨rest, hrest, hreveal⟩ := Places.unsealAll_layers (c := encryptor.cipher) paths v
    (fun pos => graphPlaces.layers data (data.slotAt pos) nonce paths) (writable_tree h hwritable)
      fun pos => by
      rw [Places.length_layers]
      exact List.countP_mono_left fun path _ hpath =>
        decide_eq_true (hleads (of_decide_eq_true hpath))
  refine ⟨v.mapStrings fun pos s =>
      encryptor.cipher.sealString (graphPlaces.layers data (data.slotAt pos) nonce paths) s,
    fun pos s => encryptor.cipher.sealString (rest pos) s, ?_, ?_, ?_⟩
  · rw [tree_sealedGraph, PyObj.toJson?_mapStrings, h, Option.map_some]
  · rw [decryptConfigDataFields_eq]
    exact hreveal
  · have hcount (pos : List Nat) : rest pos = [] ↔ ∀ path ∈ paths,
        Aliased.locate path data = some (data.slotAt pos) → locate path v = some pos := by
      have hle := countP_le_iff (p := fun path => decide (treePlaces.locate path v = some pos))
        (q := fun path => decide (graphPlaces.locate path data = some (data.slotAt pos)))
        fun path (_ : path ∈ paths) hpath => decide_eq_true (hleads (of_decide_eq_true hpath))
      simp only [decide_eq_true_eq] at hle
      rw [← List.length_eq_zero_iff, hrest, Places.length_layers, Nat.sub_eq_zero_iff_le]
      exact hle
    rw [unshared_iff h]
    constructor
    · intro hsame path hpath pos s hs hne
      have hstring := PyVal.stringAt_mapStrings
        (fun pos s => encryptor.cipher.sealString (rest pos) s) v pos
      rw [hsame, hs, Option.map_some] at hstring
      exact (hcount pos).mp ((Cipher.sealString_eq_self_iff hlong hne).mp
        (Option.some.inj hstring).symm) path hpath
    · intro honly
      refine PyVal.mapStrings_eq_self fun pos s hs => ?_
      by_cases hne : s = ""
      · simp [hne, Cipher.sealString]
      · exact (Cipher.sealString_eq_self_iff hlong hne).mpr ((hcount pos).mpr fun path hpath =>
          honly path hpath pos s (PyVal.stringAt_eq_some_iff.mpr hs) hne)

end Tree

end VpnPanel
