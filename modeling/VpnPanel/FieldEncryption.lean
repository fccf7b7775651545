import VpnPanel.ConfigData
import VpnPanel.Lib.Layers
import VpnPanel.Lib.PyPos

/-!
# VpnPanel.FieldEncryption

`encrypt_config_data_fields` and `decrypt_config_data_fields` for any list of
paths.

A path leads to a position (`locate`), and still does after strings elsewhere or
at that very position were replaced: a container stays one, with its keys and
its length.  So documents have their positions as places (`treePlaces`), the
encryption puts one layer on a non-empty string for each path that leads to it
(`encryptConfigDataFields_eq_ok_iff`), and the decryption takes as many off
(`decrypt_of_encrypt`), whatever the paths have in common.
-/

namespace VpnPanel

/-! ## where a path leads -/

/-- The child one part of a path leads to. -/
def childPos (part : String) : PyVal → Option Nat
  | .list xs =>
      match PyVal.parseInt part with
      | .ok i => (listIndex xs.length i).toOption
      | .error _ => none
  | .dict kvs => (kvs.map Prod.fst).findIdx? (· = part)
  | _ => none

/-- The position a path leads to. -/
def locate : List String → PyVal → Option (List Nat)
  | [], _ => some []
  | part :: parts, v => do
      let n ← childPos part v
      let child ← v.children[n]?
      let pos ← locate parts child
      some (n :: pos)

theorem childPos_mapStrings (g : List Nat → String → String) (part : String) (v : PyVal) :
    childPos part (v.mapStrings g) = childPos part v := by
  cases v with
  | list xs => simp [PyVal.mapStrings, childPos, PyVal.length_mapItems]
  | dict kvs => simp [PyVal.mapStrings, childPos, PyVal.map_fst_mapEntries]
  | none | bool _ | int _ | float _ | str _ => simp [PyVal.mapStrings, childPos]

/-- Replaced strings do not change where a path leads. -/
@[simp] theorem locate_mapStrings (g : List Nat → String → String) (path : List String)
    (v : PyVal) : locate path (v.mapStrings g) = locate path v := by
  induction path generalizing v g with
  | nil => rfl
  | cons part parts ih =>
      simp only [locate, childPos_mapStrings, PyVal.children_mapStrings, PyVal.getElem?_mapItems]
      cases childPos part v with
      | none => rfl
      | some n =>
          cases hc : v.children[n]? with
          | none => simp [hc]
          | some c => simp [hc, ih]

theorem exists_at?_of_locate {path : List String} {v : PyVal} {pos : List Nat}
    (h : locate path v = some pos) : ∃ w, v.at? pos = some w := by
  induction path generalizing v pos with
  | nil => exact ⟨v, by rw [← Option.some.inj h]; rfl⟩
  | cons part parts ih =>
      simp only [locate, Option.bind_eq_bind, Option.bind_eq_some_iff, Option.some.injEq] at h
      obtain ⟨n, -, child, hchild, pos, hpos, rfl⟩ := h
      obtain ⟨w, hw⟩ := ih hpos
      exact ⟨w, by rw [PyVal.at?, hchild, Option.bind_some, hw]⟩

theorem listIndex_lt {len n : Nat} {i : Int} (h : listIndex len i = .ok n) : n < len := by
  unfold listIndex at h
  split at h <;> split at h <;> simp_all <;> omega

theorem lookupKey_eq_findIdx? (key : String) (kvs : List (String × PyVal)) :
    PyVal.lookupKey key kvs =
      ((kvs.map Prod.fst).findIdx? (· = key)).bind fun n => (kvs.map Prod.snd)[n]? := by
  induction kvs with
  | nil => rfl
  | cons kv kvs ih =>
      obtain ⟨k, v⟩ := kv
      rw [PyVal.lookupKey, List.map_cons, List.findIdx?_cons]
      by_cases hk : k = key
      · simp [hk]
      · simp only [hk, if_false, decide_false, Bool.false_eq_true, ih]
        cases (kvs.map Prod.fst).findIdx? (· = key) <;> simp

/-- One part: what is read is the child at its position. -/
theorem getPart_eq_ok_iff {part : String} {v w : PyVal} :
    getPart part v = .ok w ↔ ∃ n, childPos part v = some n ∧ v.children[n]? = some w := by
  cases v with
  | list xs =>
      simp only [getPart, childPos, PyVal.children]
      cases PyVal.parseInt part with
      | error e => simp
      | ok i =>
          cases hn : listIndex xs.length i with
          | error e => simp [hn, Except.toOption]
          | ok n =>
              have hlt := listIndex_lt hn
              simp [hn, Except.toOption, List.getD, hlt]
  | dict kvs =>
      simp only [getPart, PyVal.item_eq_ok_iff, PyVal.dict.injEq, childPos, PyVal.children]
      constructor
      · rintro ⟨kvs', rfl, hlook⟩
        rw [lookupKey_eq_findIdx?] at hlook
        exact Option.bind_eq_some_iff.mp hlook
      · intro hpos
        refine ⟨kvs, rfl, ?_⟩
        rw [lookupKey_eq_findIdx?]
        exact Option.bind_eq_some_iff.mpr hpos
  | none | bool _ | int _ | float _ | str _ => simp [getPart, PyVal.item, childPos]

/-- What `_get_by_path` returns is the value at the path's position. -/
theorem getByPath_eq_ok_iff_locate {path : List String} {v w : PyVal} :
    getByPath path v = .ok w ↔ ∃ pos, locate path v = some pos ∧ v.at? pos = some w := by
  induction path generalizing v with
  | nil => simp [getByPath, locate, PyVal.at?]
  | cons part parts ih =>
      rw [getByPath, Except.bind_eq_ok_iff]
      constructor
      · rintro ⟨c, hc, hget⟩
        obtain ⟨n, hn, hchild⟩ := getPart_eq_ok_iff.mp hc
        obtain ⟨pos, hpos, hat⟩ := ih.mp hget
        exact ⟨n :: pos, by simp [locate, hn, hchild, hpos], by simp [PyVal.at?, hchild, hat]⟩
      · rintro ⟨pos, hpos, hat⟩
        simp only [locate, Option.bind_eq_bind, Option.bind_eq_some_iff, Option.some.injEq] at hpos
        obtain ⟨n, hn, c, hchild, pos, hrest, rfl⟩ := hpos
        rw [PyVal.at?, hchild, Option.bind_some] at hat
        exact ⟨c, getPart_eq_ok_iff.mpr ⟨n, hn, hchild⟩, ih.mpr ⟨pos, hrest, hat⟩⟩

/-! ## one round -/

/-- The string at a position replaced. -/
def replaceString (pos : List Nat) (s' : String) (v : PyVal) : PyVal :=
  v.mapStrings fun q s => if q = pos then s' else s

/-- Inside the `n`-th of the children counted from `n`. -/
theorem mapStrings_here (n : Nat) (pos : List Nat) (s' : String) (c : PyVal) :
    (c.mapStrings fun q s => if n :: q = n :: pos then s' else s) = replaceString pos s' c := by
  simp [replaceString]

theorem mapStrings_elsewhere {n m : Nat} (hne : n ≠ m) (pos : List Nat) (s' : String) (c : PyVal) :
    (c.mapStrings fun q s => if n :: q = m :: pos then s' else s) = c := by
  refine PyVal.mapStrings_eq_self fun q s _ => ?_
  simp [hne]

theorem mapItems_later {n m : Nat} (hlt : m < n) (pos : List Nat) (s' : String)
    (xs : List PyVal) :
    PyVal.mapItems (fun q s => if q = m :: pos then s' else s) n xs = xs := by
  induction xs generalizing n with
  | nil => rfl
  | cons x xs ih => rw [PyVal.mapItems, mapStrings_elsewhere (by omega), ih (by omega)]

theorem mapEntries_later {n m : Nat} (hlt : m < n) (pos : List Nat) (s' : String)
    (kvs : List (String × PyVal)) :
    PyVal.mapEntries (fun q s => if q = m :: pos then s' else s) n kvs = kvs := by
  induction kvs generalizing n with
  | nil => rfl
  | cons kv kvs ih =>
      obtain ⟨k, v⟩ := kv
      rw [PyVal.mapEntries, mapStrings_elsewhere (by omega), ih (by omega)]

/-- An assigned item. -/
theorem set_eq_mapItems {xs : List PyVal} {n : Nat} {c : PyVal} (hc : xs[n]? = some c)
    (off : Nat) (pos : List Nat) (s' : String) :
    xs.set n (replaceString pos s' c) =
      PyVal.mapItems (fun q s => if q = (off + n) :: pos then s' else s) off xs := by
  induction xs generalizing n off with
  | nil => simp at hc
  | cons x xs ih =>
      cases n with
      | zero =>
          obtain rfl : x = c := by simpa using hc
          rw [Nat.add_zero, PyVal.mapItems, mapStrings_here, mapItems_later (Nat.lt_succ_self off)]
          rfl
      | succ n =>
          have hpos : off + (n + 1) = off + 1 + n := by omega
          rw [List.set_cons_succ, ih (by simpa using hc) (off + 1), hpos, PyVal.mapItems,
            mapStrings_elsewhere (by omega)]

/-- An assigned entry. -/
theorem setKey_eq_mapEntries {key : String} {kvs : List (String × PyVal)} {n : Nat} {c : PyVal}
    (hn : (kvs.map Prod.fst).findIdx? (· = key) = some n) (hc : (kvs.map Prod.snd)[n]? = some c)
    (off : Nat) (pos : List Nat) (s' : String) :
    PyVal.setKey key (replaceString pos s' c) kvs =
      PyVal.mapEntries (fun q s => if q = (off + n) :: pos then s' else s) off kvs := by
  induction kvs generalizing n off with
  | nil => simp at hc
  | cons kv kvs ih =>
      obtain ⟨k, v⟩ := kv
      rw [List.map_cons, List.findIdx?_cons] at hn
      by_cases hk : k = key
      · obtain rfl : 0 = n := by simpa [hk] using hn
        obtain rfl : v = c := by simpa using hc
        rw [Nat.add_zero, PyVal.mapEntries, mapStrings_here,
          mapEntries_later (Nat.lt_succ_self off), PyVal.setKey, if_pos hk]
      · simp only [hk, decide_false, Bool.false_eq_true, if_false, Option.map_eq_some_iff] at hn
        obtain ⟨n, hn, rfl⟩ := hn
        have hpos : off + (n + 1) = off + 1 + n := by omega
        rw [PyVal.setKey, if_neg hk, ih hn (by simpa using hc) (off + 1), hpos, PyVal.mapEntries,
          mapStrings_elsewhere (by omega)]

/-- One part: the assigned child is the child at its position. -/
theorem putPart_eq {part : String} {v c : PyVal} {n : Nat} (hn : childPos part v = some n)
    (hc : v.children[n]? = some c) (pos : List Nat) (s' : String) :
    putPart part (replaceString pos s' c) v = .ok (replaceString (n :: pos) s' v) := by
  cases v with
  | list xs =>
      simp only [childPos] at hn
      simp only [putPart]
      cases hi : PyVal.parseInt part with
      | error e => simp [hi] at hn
      | ok i =>
          rw [hi] at hn
          obtain ⟨m, hm⟩ : ∃ m, listIndex xs.length i = .ok m := by
            cases hm : listIndex xs.length i with
            | error e => simp [hm, Except.toOption] at hn
            | ok m => exact ⟨m, rfl⟩
          obtain rfl : m = n := by simpa [hm, Except.toOption] using hn
          have hset : xs.set m (replaceString pos s' c) =
              PyVal.mapItems (fun q s => if q = (0 + m) :: pos then s' else s) 0 xs :=
            set_eq_mapItems hc 0 pos s'
          rw [Nat.zero_add] at hset
          simp only [Except.ok_bind_eq, hm, hset]
          simp [replaceString, PyVal.mapStrings]
  | dict kvs =>
      have hset := setKey_eq_mapEntries hn hc 0 pos s'
      rw [Nat.zero_add] at hset
      simp only [putPart, hset]
      simp [replaceString, PyVal.mapStrings]
  | none | bool _ | int _ | float _ | str _ => simp [childPos] at hn

/-- What `_set_by_path` makes of a string: the string at the path's position is
another. -/
theorem setByPath_str {path : List String} {v : PyVal} {pos : List Nat} {s : String}
    (hpos : locate path v = some pos) (hs : v.at? pos = some (.str s)) (s' : String) :
    setByPath path (.str s') v = .ok (replaceString pos s' v) := by
  induction path generalizing v pos with
  | nil =>
      obtain rfl : [] = pos := Option.some.inj hpos
      obtain rfl : v = .str s := Option.some.inj hs
      simp [setByPath, replaceString, PyVal.mapStrings]
  | cons part parts ih =>
      simp only [locate, Option.bind_eq_bind, Option.bind_eq_some_iff, Option.some.injEq] at hpos
      obtain ⟨n, hn, c, hchild, pos, hrest, rfl⟩ := hpos
      rw [PyVal.at?, hchild, Option.bind_some] at hs
      have hpart := getPart_eq_ok_iff.mpr ⟨n, hn, hchild⟩
      rw [setByPath, hpart, Except.ok_bind_eq, ih hrest hs, Except.ok_bind_eq]
      exact putPart_eq hn hchild pos s'

/-- A round at a path that leads to no string, or to an empty one. -/
theorem replaceAt_none {f : String → Except PyErr String} {path : List String} {v : PyVal}
    (h : ∀ pos s, locate path v = some pos → v.stringAt pos = some s → s = "") :
    replaceAt f path v = .ok v := by
  unfold replaceAt
  split
  · rfl
  · next s hget =>
    obtain ⟨pos, hpos, hs⟩ := getByPath_eq_ok_iff_locate.mp hget
    rw [if_pos (h pos s hpos (PyVal.stringAt_eq_some_iff.mpr hs))]
  · rfl

/-- A round at a path that leads to another string. -/
theorem replaceAt_some {f : String → Except PyErr String} {path : List String} {v : PyVal}
    {pos : List Nat} {s : String} (hpos : locate path v = some pos)
    (hs : v.stringAt pos = some s) (hne : s ≠ "") :
    replaceAt f path v = (f s).map fun s' => replaceString pos s' v := by
  have hat := PyVal.stringAt_eq_some_iff.mp hs
  unfold replaceAt
  simp only [getByPath_eq_ok_iff_locate.mpr ⟨pos, hpos, hat⟩, if_neg hne]
  cases f s with
  | error e => rfl
  | ok s' => exact setByPath_str hpos hat s'

/-! ## all rounds -/

/-- Trees with their positions. -/
def treePlaces : Places PyErr PyVal (List String) (List Nat) where
  text := PyVal.stringAt
  map g v := v.mapStrings g
  text_map := PyVal.stringAt_mapStrings
  map_map g g' v := PyVal.mapStrings_mapStrings g g' v
  map_congr g g' v h := PyVal.mapStrings_congr g g' v fun pos s hs =>
    h pos s (PyVal.stringAt_eq_some_iff.mpr hs)
  map_id := PyVal.mapStrings_id
  locate := locate
  locate_map := locate_mapStrings
  replace := replaceAt
  replace_none _ _ _ h := replaceAt_none h
  replace_some _ _ _ _ _ hpos hs hne := replaceAt_some hpos hs hne

/-- What seals the fields. -/
def FieldEncryptor.cipher (encryptor : FieldEncryptor) : Cipher PyErr where
  refusal plaintext := (encryptor.encodeError plaintext).map unicodeEncodeError
  token := encryptor.token
  reveal := encryptor.decrypt
  token_ne_empty := encryptor.token_ne_empty
  refusal_token nonce plaintext _ := by rw [encryptor.encodeError_token]; rfl
  reveal_token nonce plaintext h := encryptor.decrypt_token nonce plaintext (by simpa using h)

variable {encryptor : FieldEncryptor} {nonce : Nat} {paths : List (List String)}
  {data stored : PyVal}

theorem FieldEncryptor.sealed_cipher (encryptor : FieldEncryptor) (nonce : Nat) :
    encryptor.cipher.sealed nonce = encryptor.encrypt nonce := by
  funext plaintext
  cases hencode : encryptor.encodeError plaintext <;>
    simp [Cipher.sealed, cipher, encrypt, hencode]

theorem encryptConfigDataFields_eq (encryptor : FieldEncryptor) (nonce : Nat)
    (paths : List (List String)) (data : PyVal) :
    encryptConfigDataFields encryptor nonce paths data =
      treePlaces.sealAll encryptor.cipher nonce paths data := by
  induction paths generalizing nonce data with
  | nil => rfl
  | cons path paths ih =>
      rw [encryptConfigDataFields, Places.sealAll, encryptor.sealed_cipher]
      exact congrArg _ (funext fun data' => ih (nonce + 1) data')

theorem decryptConfigDataFields_eq (encryptor : FieldEncryptor) (paths : List (List String))
    (data : PyVal) : decryptConfigDataFields encryptor paths data =
      treePlaces.unsealAll encryptor.cipher paths data := by
  induction paths generalizing data with
  | nil => rfl
  | cons path paths ih =>
      rw [decryptConfigDataFields, Places.unsealAll]
      exact congrArg _ (funext ih)

/-- The document with a layer on each non-empty string for each path that leads
to it. -/
abbrev sealedDocument (encryptor : FieldEncryptor) (nonce : Nat) (paths : List (List String))
    (data : PyVal) : PyVal :=
  treePlaces.sealedDocument encryptor.cipher nonce paths data

/-- **What the encryption does**: a layer on a string for each path that leads
to it, and nothing else. -/
theorem encryptConfigDataFields_eq_ok_iff :
    encryptConfigDataFields encryptor nonce paths data = .ok stored ↔
      treePlaces.Writable encryptor.cipher paths data ∧
        sealedDocument encryptor nonce paths data = stored := by
  rw [encryptConfigDataFields_eq, Places.sealAll_eq_ok_iff]

/-- **Stored documents decrypt to the document they were made from.** -/
theorem decrypt_of_encrypt (h : encryptConfigDataFields encryptor nonce paths data = .ok stored) :
    decryptConfigDataFields encryptor paths stored = .ok data := by
  rw [encryptConfigDataFields_eq] at h
  rw [decryptConfigDataFields_eq, Places.unsealAll_of_sealAll h]

end VpnPanel
