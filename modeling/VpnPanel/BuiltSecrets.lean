import VpnPanel.BuiltDocuments

/-!
# VpnPanel.BuiltSecrets

What a document says, and where a built one says its secrets.

* `OnlyAt` — what is looked for stands where the paths lead, and nowhere else;
* `not_plainText_of_onlyAt` — then it is not said by the document without the
  strings the encryption reaches;
* `BuildText` — the texts a build is given beside the secrets it chooses;
* `onlyAt_buildXrayReality`, `onlyAt_buildHysteria2` — a secret that none of
  these gives away is said where the encryption reaches it only.
-/

namespace VpnPanel

/-! ## what a document says -/

/-- A scalar a server can take for a secret. -/
def isSecret : PyVal → Bool
  | .str s => s ≠ ""
  | .bool _ | .int _ | .float _ => true
  | .none | .list _ | .dict _ => false

/-- A scalar or a key of a document says what `shows` looks for. -/
inductive PlainText (shows : String → Prop) (doc : PyVal) : Prop where
  | scalar (pos : List Nat) (v : PyVal) (hat : doc.at? pos = some v) (hsecret : isSecret v = true)
      (hshows : shows v.toStr)
  | key (pos : List Nat) (kvs : List (String × PyVal)) (hat : doc.at? pos = some (.dict kvs))
      (key : String) (hkey : key ∈ kvs.map Prod.fst) (hshows : shows key)

mutual
/-- The texts of the scalars and the keys of a document. -/
def texts : PyVal → List String
  | .list xs => itemTexts xs
  | .dict kvs => entryTexts kvs
  | .str s => if s = "" then [] else [s]
  | .none => []
  | .bool b => [(PyVal.bool b).toStr]
  | .int i => [(PyVal.int i).toStr]
  | .float r => [(PyVal.float r).toStr]

def itemTexts : List PyVal → List String
  | [] => []
  | x :: xs => texts x ++ itemTexts xs

def entryTexts : List (String × PyVal) → List String
  | [] => []
  | (k, x) :: kvs => k :: texts x ++ entryTexts kvs
end

theorem texts_of_isSecret {v : PyVal} (h : isSecret v = true) : texts v = [v.toStr] := by
  cases v with
  | str s =>
      have hne : s ≠ "" := by simpa [isSecret] using h
      rw [texts, if_neg hne]
      rfl
  | none | list _ | dict _ => cases h
  | bool _ | int _ | float _ => rfl

theorem mem_itemTexts {t : String} {xs : List PyVal} :
    t ∈ itemTexts xs ↔ ∃ x ∈ xs, t ∈ texts x := by
  induction xs with
  | nil => simp [itemTexts]
  | cons x xs ih => simp [itemTexts, ih]

theorem mem_entryTexts {t : String} {kvs : List (String × PyVal)} :
    t ∈ entryTexts kvs ↔ t ∈ kvs.map Prod.fst ∨ ∃ x ∈ kvs.map Prod.snd, t ∈ texts x := by
  induction kvs with
  | nil => simp [entryTexts]
  | cons kv kvs ih =>
      simp only [entryTexts, List.mem_append, List.mem_cons, ih, List.map_cons,
        exists_eq_or_imp]
      tauto

/-- The texts of what stands in a document are texts of it. -/
theorem mem_texts_of_at? {t : String} {pos : List Nat} {doc v : PyVal}
    (h : doc.at? pos = some v) (ht : t ∈ texts v) : t ∈ texts doc := by
  induction pos generalizing doc with
  | nil => rwa [Option.some.inj h]
  | cons n pos ih =>
      obtain ⟨c, hc, h⟩ := Option.bind_eq_some_iff.mp h
      have hmem := List.mem_of_getElem? hc
      have htext := ih h
      cases doc with
      | list xs => exact mem_itemTexts.mpr ⟨c, hmem, htext⟩
      | dict kvs => exact mem_entryTexts.mpr (Or.inr ⟨c, hmem, htext⟩)
      | none | bool _ | int _ | float _ | str _ => cases hmem

/-- What a document says is among its texts. -/
theorem exists_text_of_plainText {shows : String → Prop} {doc : PyVal}
    (h : PlainText shows doc) : ∃ t ∈ texts doc, shows t := by
  obtain ⟨pos, v, hat, hsecret, hshows⟩ | ⟨pos, kvs, hat, key, hkey, hshows⟩ := h
  · exact ⟨_, mem_texts_of_at? hat (by simp [texts_of_isSecret hsecret]), hshows⟩
  · exact ⟨key, mem_texts_of_at? hat (mem_entryTexts.mpr (Or.inl hkey)), hshows⟩

section Strings

variable {served : PyVal} {g : List Nat → String → String}

/-- The scalars of a document with other strings. -/
theorem at?_mapStrings_secret {pos : List Nat} {w : PyVal}
    (h : (served.mapStrings g).at? pos = some w) (hsecret : isSecret w = true) :
    (∃ s, served.stringAt pos = some s ∧ w = .str (g pos s)) ∨
      served.at? pos = some w ∧ served.stringAt pos = none := by
  rw [PyVal.at?_mapStrings, Option.map_eq_some_iff] at h
  obtain ⟨v, hv, rfl⟩ := h
  cases v with
  | str s => exact Or.inl ⟨s, PyVal.stringAt_eq_some_iff.mpr hv, by simp [PyVal.mapStrings]⟩
  | none | list _ | dict _ => simp [PyVal.mapStrings, isSecret] at hsecret
  | bool _ | int _ | float _ =>
      exact Or.inr ⟨by rw [hv]; simp [PyVal.mapStrings], by simp [PyVal.stringAt, hv]⟩

theorem at?_mapStrings_of_none {pos : List Nat} {w : PyVal} (h : served.at? pos = some w)
    (hsecret : isSecret w = true) (hnone : served.stringAt pos = none) :
    (served.mapStrings g).at? pos = some w := by
  rw [PyVal.at?_mapStrings, h, Option.map_some]
  cases w with
  | str s => simp [PyVal.stringAt, h] at hnone
  | none | list _ | dict _ => cases hsecret
  | bool _ | int _ | float _ => simp [PyVal.mapStrings]

/-- The keys of a document with other strings. -/
theorem at?_mapStrings_dict {pos : List Nat} {keys : List String} :
    (∃ kvs, (served.mapStrings g).at? pos = some (.dict kvs) ∧ kvs.map Prod.fst = keys) ↔
      ∃ kvs, served.at? pos = some (.dict kvs) ∧ kvs.map Prod.fst = keys := by
  rw [PyVal.at?_mapStrings]
  cases served.at? pos with
  | none => simp
  | some v => cases v <;> simp [PyVal.mapStrings, PyVal.map_fst_mapEntries]

end Strings

/-! ## where a document says it -/

/-- What `shows` looks for stands in strings the paths lead to, and nowhere
else. -/
structure OnlyAt (shows : String → Prop) (paths : List (List String)) (doc : PyVal) : Prop where
  scalar : ∀ pos v, doc.at? pos = some v → isSecret v = true → shows v.toStr →
    (∃ s, v = .str s) ∧ treePlaces.Listed paths doc pos
  key : ∀ pos kvs, doc.at? pos = some (.dict kvs) → ∀ key ∈ kvs.map Prod.fst, ¬ shows key

/-- What is left of the paths that lead through the `n`-th child. -/
def restsAt (v : PyVal) (n : Nat) (paths : List (List String)) : List (List String) :=
  paths.filterMap fun path => match path with
    | [] => none
    | part :: rest => if childPos part v = some n then some rest else none

/-- What is left of the paths that begin with a key. -/
def restsOf (k : String) (paths : List (List String)) : List (List String) :=
  paths.filterMap fun path => match path with
    | [] => none
    | part :: rest => if part = k then some rest else none

section OnlyAt

variable {shows : String → Prop} {paths paths' : List (List String)} {rest : List String}
  {v v' w x : PyVal} {k : String} {n : Nat}

theorem mem_restsAt : rest ∈ restsAt v n paths ↔
    ∃ part, part :: rest ∈ paths ∧ childPos part v = some n := by
  simp only [restsAt, List.mem_filterMap]
  constructor
  · rintro ⟨path, hpath, h⟩
    cases path with
    | nil => cases h
    | cons part path =>
        simp only [Option.ite_none_right_eq_some, Option.some.injEq] at h
        obtain ⟨hn, rfl⟩ := h
        exact ⟨part, hpath, hn⟩
  · rintro ⟨part, hpath, hn⟩
    exact ⟨part :: rest, hpath, if_pos hn⟩

theorem mem_restsOf : rest ∈ restsOf k paths ↔ k :: rest ∈ paths := by
  simp only [restsOf, List.mem_filterMap]
  constructor
  · rintro ⟨path, hpath, h⟩
    cases path with
    | nil => cases h
    | cons part path =>
        simp only [Option.ite_none_right_eq_some, Option.some.injEq] at h
        obtain ⟨rfl, rfl⟩ := h
        exact hpath
  · intro hpath
    exact ⟨k :: rest, hpath, if_pos rfl⟩

theorem OnlyAt.mono (h : OnlyAt shows paths v) (hpaths : ∀ path ∈ paths, path ∈ paths') :
    OnlyAt shows paths' v := by
  refine ⟨fun pos w hat hsecret hshows => ?_, h.key⟩
  obtain ⟨hstr, path, hpath, hlocate⟩ := h.scalar pos w hat hsecret hshows
  exact ⟨hstr, path, hpaths path hpath, hlocate⟩

/-- A document that does not say it. -/
theorem OnlyAt.of_nil (h : OnlyAt shows [] v) : OnlyAt shows paths v :=
  h.mono fun _ hpath => by cases hpath

theorem onlyAt_of_texts (h : ∀ t ∈ texts v, ¬ shows t) : OnlyAt shows [] v := by
  constructor
  · intro pos w hat hsecret hshows
    exact absurd hshows (h _ (mem_texts_of_at? hat (by simp [texts_of_isSecret hsecret])))
  · intro pos kvs hat key hkey
    exact h key (mem_texts_of_at? hat (mem_entryTexts.mpr (Or.inl hkey)))

/-- The string itself is what a path leads to. -/
theorem onlyAt_str (h : [] ∈ paths) (s : String) : OnlyAt shows paths (.str s) := by
  constructor
  · intro pos w hat hsecret hshows
    cases pos with
    | nil => exact ⟨⟨s, (Option.some.inj hat).symm⟩, [], h, rfl⟩
    | cons n pos => cases hat
  · intro pos kvs hat key hkey
    cases pos with
    | nil => cases hat
    | cons n pos => cases hat

/-- What a child says. -/
theorem OnlyAt.child (h : OnlyAt shows paths v) (hx : v.children[n]? = some x) :
    OnlyAt shows (restsAt v n paths) x := by
  have hat (pos : List Nat) : v.at? (n :: pos) = x.at? pos := by
    rw [PyVal.at?, hx, Option.bind_some]
  constructor
  · intro pos w hw hsecret hshows
    obtain ⟨hstr, path, hpath, hlocate⟩ := h.scalar (n :: pos) w ((hat pos).trans hw) hsecret hshows
    change locate path v = some (n :: pos) at hlocate
    cases path with
    | nil => cases hlocate
    | cons part path =>
        simp only [locate, Option.bind_eq_bind, Option.bind_eq_some_iff, Option.some.injEq,
          List.cons.injEq] at hlocate
        obtain ⟨m, hm, c, hc, pos', hpos', rfl, rfl⟩ := hlocate
        obtain rfl : x = c := Option.some.inj (hx.symm.trans hc)
        exact ⟨hstr, path, mem_restsAt.mpr ⟨part, hpath, hm⟩, hpos'⟩
  · intro pos kvs hw
    exact h.key (n :: pos) kvs ((hat pos).trans hw)

/-- What a container says is what its keys and its children say. -/
theorem onlyAt_of_children (hkeys : ∀ kvs, v = .dict kvs → ∀ key ∈ kvs.map Prod.fst, ¬ shows key)
    (hscalar : isSecret v = false)
    (hchildren : ∀ n x, v.children[n]? = some x → OnlyAt shows (restsAt v n paths) x) :
    OnlyAt shows paths v := by
  constructor
  · intro pos w hat hsecret hshows
    cases pos with
    | nil =>
        rw [← Option.some.inj hat, hscalar] at hsecret
        cases hsecret
    | cons n pos =>
        obtain ⟨x, hx, hat⟩ := Option.bind_eq_some_iff.mp hat
        obtain ⟨hstr, path, hpath, hlocate⟩ := (hchildren n x hx).scalar pos w hat hsecret hshows
        obtain ⟨part, hpath, hn⟩ := mem_restsAt.mp hpath
        change locate path x = some pos at hlocate
        refine ⟨hstr, part :: path, hpath, ?_⟩
        change locate (part :: path) v = some (n :: pos)
        simp [locate, hn, hx, hlocate]
  · intro pos kvs hat key hkey
    cases pos with
    | nil => exact hkeys kvs (Option.some.inj hat) key hkey
    | cons n pos =>
        obtain ⟨x, hx, hat⟩ := Option.bind_eq_some_iff.mp hat
        exact (hchildren n x hx).key pos kvs hat key hkey

/-! ## in a dictionary -/

variable {kvs : List (String × PyVal)}

theorem getElem?_setKey (k : String) (x : PyVal) (kvs : List (String × PyVal)) (n : Nat) :
    ((PyVal.setKey k x kvs).map Prod.snd)[n]? =
      if n = PyVal.keyIndex k kvs then some x else (kvs.map Prod.snd)[n]? := by
  induction kvs generalizing n with
  | nil => cases n <;> simp [PyVal.setKey, PyVal.keyIndex]
  | cons kv kvs ih =>
      obtain ⟨l, y⟩ := kv
      by_cases hl : l = k
      · cases n <;> simp [PyVal.setKey, PyVal.keyIndex, hl]
      · cases n <;> simp [PyVal.setKey, PyVal.keyIndex, hl, ih]

theorem mem_keys_setKey {l : String} :
    l ∈ (PyVal.setKey k x kvs).map Prod.fst ↔ l = k ∨ l ∈ kvs.map Prod.fst := by
  induction kvs with
  | nil => simp [PyVal.setKey]
  | cons kv kvs ih =>
      obtain ⟨l', y⟩ := kv
      by_cases hl : l' = k
      · simp [PyVal.setKey, hl]
      · simp only [PyVal.setKey, if_neg hl, List.map_cons, List.mem_cons, ih]
        tauto

theorem childPos_setKey (k l : String) (x : PyVal) (kvs : List (String × PyVal)) :
    childPos l (.dict (PyVal.setKey k x kvs)) =
      if l = k then some (PyVal.keyIndex k kvs) else childPos l (.dict kvs) := by
  simp only [childPos]
  induction kvs with
  | nil =>
      by_cases hl : l = k
      · simp [PyVal.setKey, PyVal.keyIndex, hl]
      · simp [PyVal.setKey, hl, Ne.symm hl]
  | cons kv kvs ih =>
      obtain ⟨l', y⟩ := kv
      by_cases hk : l' = k
      · subst hk
        by_cases hl : l = l'
        · simp [PyVal.setKey, PyVal.keyIndex, hl, List.findIdx?_cons]
        · simp [PyVal.setKey, hl, List.findIdx?_cons]
      · simp only [PyVal.setKey, if_neg hk, List.map_cons, List.findIdx?_cons, PyVal.keyIndex, ih]
        by_cases hl : l = k
        · subst hl
          simp [hk]
        · simp [hl]

theorem keyIndex_of_childPos (h : childPos k (.dict kvs) = some n) :
    PyVal.keyIndex k kvs = n := by
  simp only [childPos] at h
  induction kvs generalizing n with
  | nil => cases h
  | cons kv kvs ih =>
      obtain ⟨l, y⟩ := kv
      rw [List.map_cons, List.findIdx?_cons] at h
      by_cases hl : l = k
      · simpa [PyVal.keyIndex, hl] using h
      · simp only [hl, decide_false, Bool.false_eq_true, if_false, Option.map_eq_some_iff] at h
        obtain ⟨m, hm, rfl⟩ := h
        simp [PyVal.keyIndex, hl, ih hm]

/-- The key of a child is the only one that leads to it. -/
theorem eq_of_childPos {l : String} (hk : childPos k (.dict kvs) = some n)
    (hl : childPos l (.dict kvs) = some n) : l = k := by
  obtain ⟨_, hkey, -⟩ := List.findIdx?_eq_some_iff_getElem.mp hk
  obtain ⟨_, hkey', -⟩ := List.findIdx?_eq_some_iff_getElem.mp hl
  simp only [decide_eq_true_eq] at hkey hkey'
  rw [← hkey, ← hkey']

/-- What stands under a key. -/
theorem OnlyAt.item (h : OnlyAt shows paths v) (hx : v.item k = .ok x) :
    OnlyAt shows (restsOf k paths) x := by
  obtain ⟨kvs, rfl, hlook⟩ := PyVal.item_eq_ok_iff.mp hx
  rw [lookupKey_eq_findIdx?] at hlook
  obtain ⟨n, hn, hchild⟩ := Option.bind_eq_some_iff.mp hlook
  refine (h.child hchild).mono fun rest hrest => ?_
  obtain ⟨part, hpart, hpos⟩ := mem_restsAt.mp hrest
  rw [eq_of_childPos hn hpos] at hpart
  exact mem_restsOf.mpr hpart

/-- Another value under a key. -/
theorem OnlyAt.setItem (h : OnlyAt shows paths v) (hset : v.setItem k x = .ok v')
    (hkey : ¬ shows k) (hx : OnlyAt shows (restsOf k paths) x) : OnlyAt shows paths v' := by
  cases v with
  | dict kvs =>
      obtain rfl := Except.ok.inj hset
      refine onlyAt_of_children ?_ rfl fun n y hy => ?_
      · rintro kvs' heq key hmem
        obtain rfl := PyVal.dict.inj heq
        obtain rfl | hmem := mem_keys_setKey.mp hmem
        · exact hkey
        · exact h.key [] kvs rfl key hmem
      · change ((PyVal.setKey k x kvs).map Prod.snd)[n]? = some y at hy
        rw [getElem?_setKey] at hy
        split at hy
        · next hn =>
          obtain rfl := Option.some.inj hy
          refine hx.mono fun rest hrest => mem_restsAt.mpr ⟨k, mem_restsOf.mp hrest, ?_⟩
          rw [childPos_setKey, if_pos rfl, hn]
        · next hn =>
          refine (h.child hy).mono fun rest hrest => ?_
          obtain ⟨part, hpart, hpos⟩ := mem_restsAt.mp hrest
          refine mem_restsAt.mpr ⟨part, hpart, ?_⟩
          rw [childPos_setKey, if_neg ?_, hpos]
          rintro rfl
          exact hn (keyIndex_of_childPos hpos).symm
  | none | bool _ | int _ | float _ | str _ | list _ => cases hset

theorem OnlyAt.modifyItem {f : PyVal → Except PyErr PyVal} (h : OnlyAt shows paths v)
    (hmodify : v.modifyItem k f = .ok v') (hkey : ¬ shows k)
    (hf : ∀ x x', OnlyAt shows (restsOf k paths) x → f x = .ok x' →
      OnlyAt shows (restsOf k paths) x') : OnlyAt shows paths v' := by
  obtain ⟨x, hx, hmodify⟩ := Except.bind_eq_ok_iff.mp hmodify
  obtain ⟨x', hx', hset⟩ := Except.bind_eq_ok_iff.mp hmodify
  exact h.setItem hset hkey (hf x x' (h.item hx) hx')

theorem OnlyAt.get {d : PyVal} (h : OnlyAt shows paths v) (hd : OnlyAt shows (restsOf k paths) d)
    (hx : v.get k d = .ok x) : OnlyAt shows (restsOf k paths) x := by
  cases v with
  | dict kvs =>
      obtain rfl := Except.ok.inj hx
      cases hlook : PyVal.lookupKey k kvs with
      | none => exact hd
      | some y => exact h.item (PyVal.item_eq_ok_iff.mpr ⟨kvs, rfl, hlook⟩)
  | none | bool _ | int _ | float _ | str _ | list _ => cases hx

/-! ## in a list -/

/-- The items of a list that does not say it. -/
theorem OnlyAt.items {xs : List PyVal} (h : OnlyAt shows [] (.list xs)) :
    ∀ x ∈ xs, OnlyAt shows [] x := by
  intro x hx
  obtain ⟨n, hn⟩ := List.mem_iff_getElem?.mp hx
  exact h.child hn

theorem onlyAt_list {xs : List PyVal} (h : ∀ x ∈ xs, OnlyAt shows [] x) :
    OnlyAt shows paths (.list xs) := by
  refine onlyAt_of_children (fun kvs heq => by cases heq) rfl fun n x hx => ?_
  exact (h x (List.mem_of_getElem? hx)).of_nil

/-- The first item, where a path leads to the `0`-th. -/
theorem onlyAt_list_first {xs : List PyVal} (hx : OnlyAt shows (restsOf "0" paths) x)
    (h : ∀ y ∈ xs, OnlyAt shows [] y) : OnlyAt shows paths (.list (x :: xs)) := by
  refine onlyAt_of_children (fun kvs heq => by cases heq) rfl fun n y hy => ?_
  cases n with
  | zero =>
      obtain rfl := Option.some.inj hy
      refine hx.mono fun rest hrest => mem_restsAt.mpr ⟨"0", mem_restsOf.mp hrest, ?_⟩
      have hparse : PyVal.parseInt "0" = .ok 0 := by decide
      simp [childPos, hparse, listIndex, Except.toOption]
  | succ n => exact (h y (List.mem_of_getElem? hy)).of_nil

/-- A document that says it where the paths lead only does not say it without
these strings. -/
theorem not_plainText_of_onlyAt (h : OnlyAt shows paths v) :
    ¬ PlainText shows (treePlaces.blank paths v) := by
  rintro (⟨pos, w, hat, hsecret, hshows⟩ | ⟨pos, kvs, hat, key, hkey, hshows⟩)
  · obtain ⟨s, hs, rfl⟩ | ⟨hw, hnone⟩ := at?_mapStrings_secret hat hsecret
    · have hv := PyVal.stringAt_eq_some_iff.mp hs
      split at hsecret
      · next hnil =>
        rw [if_pos hnil] at hshows
        exact Places.layers_eq_nil_iff.mp hnil (h.scalar pos _ hv hsecret hshows).2
      · cases hsecret
    · obtain ⟨⟨s, rfl⟩, -⟩ := h.scalar pos w hw hsecret hshows
      rw [PyVal.stringAt_eq_some_iff.mpr hw] at hnone
      cases hnone
  · obtain ⟨kvs', hat', hkeys⟩ := at?_mapStrings_dict.mp ⟨kvs, hat, rfl⟩
    exact h.key pos kvs' hat' key (hkeys ▸ hkey) hshows

end OnlyAt

/-! ## inside a template -/

/-- The first inbound has the tag. -/
def TagFirst (tag : String) (doc : PyVal) : Prop :=
  ∃ inbound rest, doc.item "inbounds" = .ok (.list (inbound :: rest)) ∧
    inbound.get "tag" = .ok (.str tag)

/-- The first inbound of the list is the tagged one exactly when no other stands
before it. -/
theorem tagFirst_iff {tag : String} {doc inbound : PyVal} {before after : List PyVal}
    (hdoc : doc.item "inbounds" = .ok (.list (before ++ inbound :: after)))
    (hsplit : TagSplit tag (before ++ inbound :: after) before inbound after) :
    TagFirst tag doc ↔ before = [] := by
  constructor
  · rintro ⟨first, rest, hitem, htag⟩
    cases before with
    | nil => rfl
    | cons x before =>
        obtain ⟨rfl, -⟩ : x = first ∧ before ++ inbound :: after = rest := by
          simpa [hdoc] using hitem
        obtain ⟨t, ht, hne⟩ := hsplit.others x List.mem_cons_self
        obtain rfl : t = .str tag := Except.ok.inj (ht.symm.trans htag)
        simp [PyVal.isStr] at hne
  · rintro rfl
    exact ⟨inbound, after, hdoc, hsplit.tagged⟩

/-- A value of a document. -/
def Inside (doc v : PyVal) : Prop := ∃ pos, doc.at? pos = some v

theorem Inside.child {doc v x : PyVal} {n : Nat} (h : Inside doc v)
    (hx : v.children[n]? = some x) : Inside doc x := by
  obtain ⟨pos, hpos⟩ := h
  refine ⟨pos ++ [n], ?_⟩
  induction pos generalizing doc with
  | nil =>
      obtain rfl := Option.some.inj hpos
      simp [PyVal.at?, hx]
  | cons m pos ih =>
      obtain ⟨c, hc, hpos⟩ := Option.bind_eq_some_iff.mp hpos
      rw [List.cons_append, PyVal.at?, hc, Option.bind_some, ih hpos]

theorem Inside.item {doc v x : PyVal} {k : String} (h : Inside doc v) (hx : v.item k = .ok x) :
    Inside doc x := by
  obtain ⟨kvs, rfl, hlook⟩ := PyVal.item_eq_ok_iff.mp hx
  rw [lookupKey_eq_findIdx?] at hlook
  obtain ⟨n, -, hchild⟩ := Option.bind_eq_some_iff.mp hlook
  exact h.child hchild

/-! ## what a build is given -/

/-- The keys that the builders of documents with secrets set. -/
def builderKeys : List String :=
  ["inbounds", "port", "listen", "streamSettings", "realitySettings", "shortIds", "privateKey",
    "dest", "serverNames", "settings", "clients", "id", "auth", "password", "tls", "cert", "key",
    "sni", "obfs", "type", "salamander"]

/-- What a Reality build is given beside the key. -/
inductive RealityText (env : BuildEnv) (ps : VpnProfileSettings) (req : BuildRequest)
    (template : PyVal) : String → Prop where
  | template (t : String) (h : t ∈ texts template) : RealityText env ps req template t
  | key (t : String) (h : t ∈ builderKeys) : RealityText env ps req template t
  | port (port : Nat) : RealityText env ps req template (PyVal.int port).toStr
  | listen (t : String) (h : ps.listenAddress = some t) : RealityText env ps req template t
  | clientId (t : String) (h : t ∈ texts (chooseClientId env req)) :
      RealityText env ps req template t
  | shortId (t : String) (h : t ∈ itemTexts (chooseShortIds env req)) :
      RealityText env ps req template t
  | chosenDest (t : String) (h : t ∈ ps.realityDestHosts) : RealityText env ps req template t
  | keptDest (t : String) (h : (req.previous.bind PreviousSecrets.realityDest) = some t) :
      RealityText env ps req template t
  | serverName (t : String) (names : List PyVal)
      (h : req.previous.bind PreviousSecrets.realityServerNames = some names)
      (ht : t ∈ itemTexts names) : RealityText env ps req template t
  /-- The host of a `dest`. -/
  | host (t : String) (h : RealityText env ps req template t) :
      RealityText env ps req template (destHostname t)
  /-- The host of what the template has for a `dest`. -/
  | templateHost (dest : PyVal) (h : Inside template dest) :
      RealityText env ps req template (destHostname dest.toStr)

/-- What a Hysteria2 build is given beside the passwords. -/
inductive HysteriaText (crypto : Crypto) (settings : PanelSettings) (env : BuildEnv)
    (ps : VpnProfileSettings) (req : BuildRequest) (configId : ConfigId) (template : PyVal) :
    String → Prop where
  | template (t : String) (h : t ∈ texts template) :
      HysteriaText crypto settings env ps req configId template t
  | key (t : String) (h : t ∈ builderKeys) :
      HysteriaText crypto settings env ps req configId template t
  | listen (port : Nat) :
      HysteriaText crypto settings env ps req configId template (":" ++ toString port)
  | sni : HysteriaText crypto settings env ps req configId template
      (tlsServerName settings ps req.sharePublicHost)
  /-- A path of the certificate, as it is built. -/
  | builtPath (tls : TlsMaterial) (t : String)
      (h : resolveTls crypto env ps req.previous (tlsServerName settings ps req.sharePublicHost)
        req.policy.rotateTls "hysteria" = .ok tls) (ht : t = tls.certFile ∨ t = tls.keyFile) :
      HysteriaText crypto settings env ps req configId template t
  /-- A path of the certificate, as it is installed. -/
  | installedPath (t : String)
      (h : t = (certBase settings .hysteria2 ps configId).render ++ "/" ++
          orStr (ps.certPrefix.getD "") "cert" ++ "-cert.pem" ∨
        t = (certBase settings .hysteria2 ps configId).render ++ "/" ++
          orStr (ps.certPrefix.getD "") "cert" ++ "-key.pem") :
      HysteriaText crypto settings env ps req configId template t

/-- The texts a build is given beside the secrets it chooses. -/
def BuildText (crypto : Crypto) (settings : PanelSettings) (env : BuildEnv)
    (ps : VpnProfileSettings) (req : BuildRequest) (configId : ConfigId) (template : PyVal) :
    ConfigProfile → String → Prop
  | .xrayReality => RealityText env ps req.stripHost template
  | .hysteria2 => HysteriaText crypto settings env ps req.stripHost configId template
  | .xrayGrpc | .xrayXhttp => fun _ => False

/-- The secrets a build puts into its document. -/
def chosenSecrets (crypto : Crypto) (env : BuildEnv) (req : BuildRequest) :
    ConfigProfile → List String
  | .xrayReality => [(chooseRealityKeys crypto env req).1]
  | .hysteria2 =>
      [keptOr (req.previous.bind fun previous => nonEmpty previous.password)
          req.policy.rotateAuth env.authPassword,
        keptOr (req.previous.bind fun previous => nonEmpty previous.obfsPassword)
          req.policy.rotateObfs env.obfsPassword]
  | .xrayGrpc | .xrayXhttp => []

/-! ## what the builders write -/

section Written

variable {shows : String → Prop} {paths : List (List String)}

theorem onlyAt_of_not_shows {s : String} (h : ¬ shows s) : OnlyAt shows paths (.str s) := by
  refine OnlyAt.of_nil (onlyAt_of_texts fun t ht => ?_)
  by_cases hs : s = ""
  · simp [texts, hs] at ht
  · obtain rfl : t = s := by simpa [texts, hs] using ht
    exact h

theorem onlyAt_setListen {inbound inbound' : PyVal} {port : Nat} {listenAddress : Option String}
    (h : OnlyAt shows [] inbound) (hset : setListen inbound port listenAddress = .ok inbound')
    (hkeys : ∀ k ∈ builderKeys, ¬ shows k) (hport : ¬ shows (PyVal.int port).toStr)
    (haddress : ∀ address, listenAddress = some address → ¬ shows address) :
    OnlyAt shows [] inbound' := by
  obtain ⟨inbound₁, hset₁, hset⟩ := Except.bind_eq_ok_iff.mp hset
  have hint : OnlyAt shows [] (.int port) := onlyAt_of_texts fun t ht => by
    obtain rfl : t = (PyVal.int port).toStr := by simpa [texts] using ht
    exact hport
  have h₁ := h.setItem hset₁ (hkeys _ (by decide)) hint
  split at hset
  · next address haddr =>
    have hsome := (nonEmpty_eq_some_iff.mp haddr).1
    exact h₁.setItem hset (hkeys _ (by decide)) (onlyAt_of_not_shows (haddress _ hsome))
  · rwa [← Except.ok.inj hset]

theorem onlyAt_setIds {clientId : PyVal} {items items' : List PyVal}
    (h : ∀ x ∈ items, OnlyAt shows [] x) (hset : setIds clientId items = .ok items')
    (hkey : ¬ shows "id") (hid : OnlyAt shows [] clientId) : ∀ x ∈ items', OnlyAt shows [] x := by
  induction items generalizing items' with
  | nil =>
      obtain rfl := Except.ok.inj hset
      exact h
  | cons client rest ih =>
      obtain ⟨client', hclient, hset⟩ := Except.bind_eq_ok_iff.mp hset
      obtain ⟨rest', hrest, hset⟩ := Except.bind_eq_ok_iff.mp hset
      obtain rfl := Except.ok.inj hset
      rw [List.forall_mem_cons] at h ⊢
      exact ⟨h.1.setItem hclient hkey hid, ih h.2 hrest⟩

/-- The clients, whose ids can be set. -/
theorem OnlyAt.clients {clients clientId : PyVal} {items items' : List PyVal}
    (h : OnlyAt shows [] clients) (hiter : clients.iter = .ok items)
    (hset : setIds clientId items = .ok items') : ∀ x ∈ items, OnlyAt shows [] x := by
  cases clients with
  | list xs =>
      obtain rfl := Except.ok.inj hiter
      exact h.items
  | dict kvs =>
      obtain rfl := Except.ok.inj hiter
      intro x hx
      obtain ⟨kv, hkv, rfl⟩ := List.mem_map.mp hx
      exact onlyAt_of_not_shows (h.key [] kvs rfl _ (List.mem_map_of_mem hkv))
  | str s =>
      obtain rfl := Except.ok.inj hiter
      cases hs : s.toList with
      | nil => simp
      | cons c cs =>
          rw [hs] at hset
          cases hset
  | none | bool _ | int _ | float _ => cases hiter

/-- The client ids are elsewhere. -/
theorem onlyAt_setClientId {inbound inbound' clientId : PyVal} (h : OnlyAt shows paths inbound)
    (hset : setClientId inbound clientId = .ok inbound') (haway : restsOf "settings" paths = [])
    (hkeys : ∀ k ∈ builderKeys, ¬ shows k) (hid : OnlyAt shows [] clientId) :
    OnlyAt shows paths inbound' := by
  have hempty {kvs : List (String × PyVal)} (hnil : kvs = []) : OnlyAt shows [] (.dict kvs) :=
    onlyAt_of_texts fun t ht => by simp [hnil, texts, entryTexts] at ht
  have hemptyList : OnlyAt shows [] (.list []) := onlyAt_list fun x hx => by cases hx
  obtain ⟨settings, hsettings, hset⟩ := Except.bind_eq_ok_iff.mp hset
  obtain ⟨clients, hclients, hset⟩ := Except.bind_eq_ok_iff.mp hset
  obtain ⟨items, hiter, hset⟩ := Except.bind_eq_ok_iff.mp hset
  obtain ⟨items', hids, hset⟩ := Except.bind_eq_ok_iff.mp hset
  have hs : OnlyAt shows [] settings := by
    have hs := h.get (hempty rfl).of_nil hsettings
    rwa [haway] at hs
  have hc : OnlyAt shows [] clients := hs.get hemptyList.of_nil hclients
  have hi := onlyAt_setIds (hc.clients hiter hids) hids (hkeys _ (by decide)) hid
  split at hset
  · rwa [← Except.ok.inj hset]
  · obtain ⟨settings', hset₁, hset⟩ := Except.bind_eq_ok_iff.mp hset
    refine h.setItem hset (hkeys _ (by decide)) ?_
    rw [haway]
    exact hs.setItem hset₁ (hkeys _ (by decide)) (onlyAt_list hi)

/-- A value that is not the default stands under its key. -/
theorem item_of_get {v w : PyVal} {k : String} (h : v.get k = .ok w) (htruthy : w.truthy = true) :
    v.item k = .ok w := by
  cases v with
  | dict kvs =>
      cases hlook : PyVal.lookupKey k kvs with
      | none =>
          obtain rfl : PyVal.none = w := by simpa [PyVal.get, hlook] using h
          cases htruthy
      | some y =>
          obtain rfl : y = w := by simpa [PyVal.get, hlook] using h
          exact PyVal.item_eq_ok_iff.mpr ⟨kvs, rfl, hlook⟩
  | none | bool _ | int _ | float _ | str _ | list _ => cases h

/-- The names of a Reality section, from its own `dest` or the template's. -/
theorem onlyAt_pinServerNames {reality reality' : PyVal} (h : OnlyAt shows paths reality)
    (hpin : pinServerNames reality = .ok reality') (hkeys : ∀ k ∈ builderKeys, ¬ shows k)
    (hhost : ∀ dest, reality.get "dest" = .ok dest → dest.truthy = true →
      ¬ shows (destHostname dest.toStr)) : OnlyAt shows paths reality' := by
  obtain ⟨dest, hdest, hpin⟩ := Except.bind_eq_ok_iff.mp hpin
  simp only at hpin
  split at hpin
  · next hne =>
    refine h.setItem hpin (hkeys _ (by decide)) (onlyAt_list fun x hx => ?_)
    obtain rfl := List.mem_singleton.mp hx
    refine onlyAt_of_not_shows ?_
    cases htruthy : dest.truthy with
    | true =>
        rw [PyVal.orElse, if_pos htruthy]
        exact hhost dest hdest htruthy
    | false =>
        rw [PyVal.orElse, htruthy] at hne
        exact absurd rfl hne
  · rwa [← Except.ok.inj hpin]

theorem onlyAt_setDest {env : BuildEnv} {ps : VpnProfileSettings} {req : BuildRequest}
    {template reality reality' : PyVal} (h : OnlyAt shows paths reality)
    (hset : setDest env ps req reality = .ok reality')
    (hgiven : ∀ t, RealityText env ps req template t → ¬ shows t)
    (htemplate : ∀ dest, reality.get "dest" = .ok dest → dest.truthy = true →
      Inside template dest) : OnlyAt shows paths reality' := by
  have hkeys : ∀ k ∈ builderKeys, ¬ shows k := fun k hk => hgiven k (.key k hk)
  -- the section after a `dest` is assigned
  have hassigned {dest : String} {reality₁ : PyVal} (hdest : RealityText env ps req template dest)
      (hset₁ : reality.setItem "dest" (.str dest) = .ok reality₁) :
      OnlyAt shows paths reality₁ ∧ ∀ reality₂, pinServerNames reality₁ = .ok reality₂ →
        OnlyAt shows paths reality₂ := by
    have h₁ := h.setItem hset₁ (hkeys _ (by decide)) (onlyAt_of_not_shows (hgiven _ hdest))
    refine ⟨h₁, fun reality₂ hpin => onlyAt_pinServerNames h₁ hpin hkeys fun d hd _ => ?_⟩
    obtain rfl : PyVal.str dest = d := by
      rw [PyVal.get_of_setItem hset₁] at hd
      exact Except.ok.inj hd
    exact hgiven _ (.host dest hdest)
  unfold setDest at hset
  split at hset
  · next dest hprevious hrotate =>
    obtain ⟨reality₁, hset₁, hset⟩ := Except.bind_eq_ok_iff.mp hset
    obtain ⟨previous, hreq, hdest⟩ := Option.bind_eq_some_iff.mp hprevious
    have hkeptDest := Option.bind_eq_some_iff.mpr
      ⟨previous, hreq, (nonEmpty_eq_some_iff.mp hdest).1⟩
    obtain ⟨h₁, hpin⟩ := hassigned (.keptDest dest hkeptDest) hset₁
    split at hset
    · next name names hnames =>
      refine h₁.setItem hset (hkeys _ (by decide)) (onlyAt_list fun x hx => ?_)
      refine onlyAt_of_texts fun t ht => hgiven t ?_
      exact .serverName t _ hnames (mem_itemTexts.mpr ⟨x, hx, ht⟩)
    · exact hpin _ hset
  · simp only [Except.ok_bind_eq] at hset
    split at hset
    · next dest hchoice =>
      obtain ⟨reality₁, hset₁, hset⟩ := Except.bind_eq_ok_iff.mp hset
      exact (hassigned (.chosenDest dest (randomChoice_mem hchoice)) hset₁).2 _ hset
    · exact onlyAt_pinServerNames h hset hkeys fun dest hdest htruthy =>
        hgiven _ (.templateHost dest (htemplate dest hdest htruthy))

/-- The first inbound, when it is the tagged one. -/
theorem onlyAt_modifyInbound {α : Type} {template config : PyVal} {tag : String}
    {f : PyVal → Except PyErr (PyVal × α)} {a : α}
    (h : modifyInbound template tag f = .ok (config, a)) (hfirst : TagFirst tag template)
    (htemplate : OnlyAt shows [] template) (hkey : ¬ shows "inbounds")
    (hf : ∀ inbound inbound', Inside template inbound → OnlyAt shows [] inbound →
      f inbound = .ok (inbound', a) →
      OnlyAt shows (restsOf "0" (restsOf "inbounds" paths)) inbound') :
    OnlyAt shows paths config := by
  obtain ⟨first, rest, hitem, htag⟩ := hfirst
  obtain ⟨inbounds, hget, h⟩ := Except.bind_eq_ok_iff.mp h
  obtain ⟨items, hiter, h⟩ := Except.bind_eq_ok_iff.mp h
  obtain ⟨⟨items', b⟩, hmodify, h⟩ := Except.bind_eq_ok_iff.mp h
  obtain ⟨changed, hset, h⟩ := Except.bind_eq_ok_iff.mp h
  obtain ⟨rfl, rfl⟩ : changed = config ∧ b = a := by simpa using h
  obtain rfl : PyVal.list (first :: rest) = inbounds := by
    rw [PyVal.get_of_item hitem] at hget
    exact Except.ok.inj hget
  obtain rfl := Except.ok.inj hiter
  obtain ⟨before, inbound, inbound', after, hsplit, hinbound, rfl⟩ := modifyTag_spec hmodify
  have hbefore : before = [] := by
    rw [hsplit.eq] at hitem
    exact (tagFirst_iff hitem (hsplit.eq ▸ hsplit)).mp ⟨first, rest, by rw [hitem, hsplit.eq], htag⟩
  subst hbefore
  obtain ⟨rfl, rfl⟩ : first = inbound ∧ rest = after := by simpa using hsplit.eq
  have hlist : OnlyAt shows [] (.list (first :: rest)) := htemplate.item hitem
  have hinside : Inside template first :=
    (Inside.item ⟨[], rfl⟩ hitem).child (n := 0) rfl
  refine htemplate.of_nil.setItem hset hkey ?_
  exact onlyAt_list_first (hf _ _ hinside (hlist.items _ List.mem_cons_self) hinbound)
    fun y hy => hlist.items y (List.mem_cons_of_mem _ hy)

/-- The key of a built Reality document stands in the first inbound only. -/
theorem onlyAt_buildXrayReality {crypto : Crypto} {env : BuildEnv} {ps : VpnProfileSettings}
    {req : BuildRequest} {template : PyVal} {result : BuildResult}
    (h : buildXrayReality crypto env ps req template = .ok result)
    (hfirst : TagFirst ps.inboundTag template)
    (hgiven : ∀ t, RealityText env ps req template t → ¬ shows t) :
    OnlyAt shows (sensitiveFields .xrayReality) result.configData := by
  have hkeys : ∀ k ∈ builderKeys, ¬ shows k := fun k hk => hgiven k (.key k hk)
  obtain ⟨port, -, h⟩ := Except.bind_eq_ok_iff.mp h
  simp only at h
  obtain ⟨⟨config, u⟩, hmodify, h⟩ := Except.bind_eq_ok_iff.mp h
  rw [← Except.ok.inj h]
  refine onlyAt_modifyInbound hmodify hfirst (onlyAt_of_texts fun t ht => hgiven t (.template t ht))
    (hkeys _ (by decide)) fun inbound inbound' hinside hinbound hf => ?_
  obtain ⟨inbound₁, hlisten, hf⟩ := Except.bind_eq_ok_iff.mp hf
  obtain ⟨inbound₂, hstream, hf⟩ := Except.bind_eq_ok_iff.mp hf
  obtain ⟨inbound₃, hclient, hf⟩ := Except.bind_eq_ok_iff.mp hf
  obtain rfl : inbound₃ = inbound' := by simpa using hf
  have h₁ := onlyAt_setListen hinbound hlisten hkeys (hgiven _ (.port port))
    fun address haddress => hgiven _ (.listen address haddress)
  have hid : OnlyAt shows [] (chooseClientId env req) :=
    onlyAt_of_texts fun t ht => hgiven t (.clientId t ht)
  refine onlyAt_setClientId ?_ hclient rfl hkeys hid
  -- the section, in the template and on its way to the document
  obtain ⟨stream, hstreamItem, hstream⟩ := Except.bind_eq_ok_iff.mp hstream
  obtain ⟨stream', hreality, hstream⟩ := Except.bind_eq_ok_iff.mp hstream
  obtain ⟨reality, hrealityItem, hreality⟩ := Except.bind_eq_ok_iff.mp hreality
  obtain ⟨reality', hset, hreality⟩ := Except.bind_eq_ok_iff.mp hreality
  obtain ⟨reality₁, hshort, hset⟩ := Except.bind_eq_ok_iff.mp hset
  obtain ⟨reality₂, hkey, hdest⟩ := Except.bind_eq_ok_iff.mp hset
  have hs : OnlyAt shows [] stream := h₁.item hstreamItem
  have hr : OnlyAt shows [] reality := hs.item hrealityItem
  have hstreamInside : Inside template stream := hinside.item (by
    rw [← (setListen_sameAt (k := "streamSettings") hlisten (by decide) (by decide)).item]
    exact hstreamItem)
  have hrealityInside : Inside template reality := hstreamInside.item hrealityItem
  have hshortIds : OnlyAt shows [] (.list (chooseShortIds env req)) :=
    onlyAt_of_texts fun t ht => hgiven t (.shortId t ht)
  have hr₁ := hr.setItem hshort (hkeys _ (by decide)) hshortIds
  have hr₂ : OnlyAt shows [["privateKey"]] reality₂ :=
    hr₁.of_nil.setItem hkey (hkeys _ (by decide)) (onlyAt_str (List.mem_singleton.mpr rfl) _)
  have hr' : OnlyAt shows [["privateKey"]] reality' := by
    refine onlyAt_setDest hr₂ hdest hgiven fun dest hget htruthy => ?_
    rw [PyVal.get_of_setItem hkey, if_neg (by decide), PyVal.get_of_setItem hshort,
      if_neg (by decide)] at hget
    exact hrealityInside.item (item_of_get hget htruthy)
  have hs' : OnlyAt shows [["realitySettings", "privateKey"]] stream' :=
    hs.of_nil.setItem hreality (hkeys _ (by decide)) hr'
  exact h₁.of_nil.setItem hstream (hkeys _ (by decide)) hs'

/-- The passwords of a built Hysteria2 document stand in their fields only. -/
theorem onlyAt_buildHysteria2 {crypto : Crypto} {settings : PanelSettings} {env : BuildEnv}
    {ps : VpnProfileSettings} {req : BuildRequest} {configId : ConfigId} {template : PyVal}
    {result : BuildResult} (h : buildHysteria2 crypto settings env ps req template = .ok result)
    (hgiven : ∀ t, HysteriaText crypto settings env ps req configId template t → ¬ shows t) :
    OnlyAt shows (sensitiveFields .hysteria2) result.configData := by
  have hkeys : ∀ k ∈ builderKeys, ¬ shows k := fun k hk => hgiven k (.key k hk)
  have htemplate : OnlyAt shows [] template :=
    onlyAt_of_texts fun t ht => hgiven t (.template t ht)
  obtain ⟨port, -, h⟩ := Except.bind_eq_ok_iff.mp h
  simp only at h
  obtain ⟨tls, hresolve, h⟩ := Except.bind_eq_ok_iff.mp h
  obtain ⟨config₁, hlisten, h⟩ := Except.bind_eq_ok_iff.mp h
  obtain ⟨config₂, hauth, h⟩ := Except.bind_eq_ok_iff.mp h
  obtain ⟨config₃, htls, h⟩ := Except.bind_eq_ok_iff.mp h
  obtain ⟨config₄, hobfs, h⟩ := Except.bind_eq_ok_iff.mp h
  rw [← Except.ok.inj h]
  have h₁ : OnlyAt shows (sensitiveFields .hysteria2) config₁ :=
    htemplate.of_nil.setItem hlisten (hkeys _ (by decide))
      (onlyAt_of_not_shows (hgiven _ (.listen port)))
  have h₂ : OnlyAt shows (sensitiveFields .hysteria2) config₂ :=
    h₁.modifyItem hauth (hkeys _ (by decide)) fun auth auth' ha hset =>
      ha.setItem hset (hkeys _ (by decide)) (onlyAt_str (List.mem_singleton.mpr rfl) _)
  have h₃ : OnlyAt shows (sensitiveFields .hysteria2) config₃ := by
    refine h₂.modifyItem htls (hkeys _ (by decide)) fun section' changed hs hset => ?_
    obtain ⟨section₁, hcert, hset⟩ := Except.bind_eq_ok_iff.mp hset
    obtain ⟨section₂, hkey, hset⟩ := Except.bind_eq_ok_iff.mp hset
    have hs₁ := hs.setItem hcert (hkeys _ (by decide))
      (onlyAt_of_not_shows (hgiven _ (.builtPath tls _ hresolve (Or.inl rfl))))
    have hs₂ := hs₁.setItem hkey (hkeys _ (by decide))
      (onlyAt_of_not_shows (hgiven _ (.builtPath tls _ hresolve (Or.inr rfl))))
    exact hs₂.setItem hset (hkeys _ (by decide)) (onlyAt_of_not_shows (hgiven _ .sni))
  refine h₃.setItem hobfs (hkeys _ (by decide)) ?_
  have hempty {paths : List (List String)} : OnlyAt shows paths (.dict []) :=
    (onlyAt_of_texts fun t ht => by simp [texts, entryTexts] at ht).of_nil
  have hpassword {s : String} :
      OnlyAt shows [["password"]] (.dict [("password", .str s)]) :=
    hempty.setItem rfl (hkeys "password" (by decide)) (onlyAt_str (List.mem_singleton.mpr rfl) s)
  have htype : OnlyAt shows [["salamander", "password"]] (.dict [("type", .str "salamander")]) :=
    hempty.setItem rfl (hkeys "type" (by decide))
      (onlyAt_of_not_shows (hgiven _ (.key "salamander" (by decide))))
  exact htype.setItem rfl (hkeys "salamander" (by decide)) hpassword

/-- The paths of the certificates do not say a password either. -/
theorem onlyAt_written {settings : PanelSettings} {ps : VpnProfileSettings} {configId : ConfigId}
    {crypto : Crypto} {env : BuildEnv} {req : BuildRequest} {template doc : PyVal}
    {result : BuildResult} (hps : settings.profileSettings .hysteria2 = .ok ps)
    (h : OnlyAt shows (sensitiveFields .hysteria2) result.configData)
    (hwritten : Written settings .hysteria2 configId result doc)
    (hgiven : ∀ t, HysteriaText crypto settings env ps req configId template t → ¬ shows t) :
    OnlyAt shows (sensitiveFields .hysteria2) doc := by
  have hkeys : ∀ k ∈ builderKeys, ¬ shows k := fun k hk => hgiven k (.key k hk)
  cases hwritten with
  | asBuilt hfiles hdoc => rwa [hdoc]
  | withPaths ps' hps' hfiles hdoc =>
      obtain rfl : ps = ps' := Except.ok.inj (hps.symm.trans hps')
      obtain ⟨tls, hget, hdoc⟩ := Except.bind_eq_ok_iff.mp hdoc
      obtain ⟨tls₁, hcert, hdoc⟩ := Except.bind_eq_ok_iff.mp hdoc
      obtain ⟨tls₂, hkey, hdoc⟩ := Except.bind_eq_ok_iff.mp hdoc
      have hempty : OnlyAt shows (restsOf "tls" (sensitiveFields .hysteria2)) (.dict []) :=
        (onlyAt_of_texts fun t ht => by simp [texts, entryTexts] at ht).of_nil
      have ht := h.get hempty hget
      have ht₁ := ht.setItem hcert (hkeys _ (by decide))
        (onlyAt_of_not_shows (hgiven _ (.installedPath _ (Or.inl rfl))))
      have ht₂ := ht₁.setItem hkey (hkeys _ (by decide))
        (onlyAt_of_not_shows (hgiven _ (.installedPath _ (Or.inr rfl))))
      exact h.setItem hdoc (hkeys _ (by decide)) ht₂

end Written

end VpnPanel
