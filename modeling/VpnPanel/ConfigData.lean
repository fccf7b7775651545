import VpnPanel.Inbound

/-!
# VpnPanel.ConfigData

Field encryption of config documents: `crypto/config_data.py` and
`ProfileConfigBuilder.sensitive_fields`.

A dotted path is followed through dictionaries by key and through lists by
`int(part)`; a path that does not lead anywhere is skipped, and only non-empty
strings are replaced.
-/

namespace VpnPanel

/-- `FieldEncryptor`.  Fernet tokens are randomized, so a token is made with the
random part as an argument.  Strings stand for Python's, which may have lone
surrogates; `encode` raises on such a string.  The laws are Fernet's: a token is
ASCII, is not empty, and decrypts, under the key it was made with, to the
plaintext. -/
structure FieldEncryptor where
  /-- The message of the `UnicodeEncodeError` of `plaintext.encode("utf-8")`. -/
  encodeError : String → Option String
  /-- `Fernet.encrypt` of an encoded plaintext. -/
  token : Nat → String → String
  decrypt : String → Except PyErr String
  token_ne_empty : ∀ nonce plaintext, token nonce plaintext ≠ ""
  encodeError_token : ∀ nonce plaintext, encodeError (token nonce plaintext) = none
  decrypt_token : ∀ nonce plaintext, encodeError plaintext = none →
    decrypt (token nonce plaintext) = .ok plaintext

/-- A `UnicodeEncodeError`, which is a `ValueError`. -/
def unicodeEncodeError (msg : String) : PyErr := ⟨.valueError, msg⟩

/-- `FieldEncryptor.encrypt`. -/
def FieldEncryptor.encrypt (encryptor : FieldEncryptor) (nonce : Nat) (plaintext : String) :
    Except PyErr String :=
  match encryptor.encodeError plaintext with
  | some msg => .error (unicodeEncodeError msg)
  | none => .ok (encryptor.token nonce plaintext)

theorem FieldEncryptor.encrypt_eq_ok_iff {encryptor : FieldEncryptor} {nonce : Nat}
    {plaintext token : String} : encryptor.encrypt nonce plaintext = .ok token ↔
      encryptor.encodeError plaintext = none ∧ encryptor.token nonce plaintext = token := by
  unfold encrypt
  cases encryptor.encodeError plaintext <;> simp

/-- An encryptor to run examples with: its tokens start as Fernet's do. -/
def FieldEncryptor.sample : FieldEncryptor where
  encodeError _ := none
  token _ plaintext := "gAAAAA" ++ plaintext
  decrypt token := .ok (String.ofList (token.toList.drop 6))
  token_ne_empty _ plaintext h := by
    have hlen := congrArg String.length h
    simp at hlen
  encodeError_token _ _ := rfl
  decrypt_token _ plaintext _ := by simp

/-! ## paths -/

/-- `xs[i]` as a position: negative indices count from the end. -/
def listIndex (len : Nat) (i : Int) : Except PyErr Nat :=
  if 0 ≤ i then
    if i.toNat < len then .ok i.toNat else .error ⟨.indexError, "list index out of range"⟩
  else
    if 0 ≤ i + len then .ok (i + len).toNat
    else .error ⟨.indexError, "list index out of range"⟩

/-- One part of a path: `current[int(part)]` in a list, `current[part]`
otherwise. -/
def getPart (part : String) (current : PyVal) : Except PyErr PyVal :=
  match current with
  | .list xs => do
      let i ← PyVal.parseInt part
      let n ← listIndex xs.length i
      .ok (xs.getD n .none)
  | v => v.item part

/-- `current[part] = value`, as the changed container. -/
def putPart (part : String) (value : PyVal) (current : PyVal) : Except PyErr PyVal :=
  match current with
  | .list xs => do
      let i ← PyVal.parseInt part
      let n ← listIndex xs.length i
      .ok (.list (xs.set n value))
  | .dict kvs => .ok (.dict (PyVal.setKey part value kvs))
  | v => .error ⟨.typeError, "'" ++ v.typeName ++ "' object does not support item assignment"⟩

/-- `_get_by_path`. -/
def getByPath : List String → PyVal → Except PyErr PyVal
  | [], v => .ok v
  | part :: parts, v => do
      let child ← getPart part v
      getByPath parts child

/-- `_set_by_path`, as the changed document. -/
def setByPath : List String → PyVal → PyVal → Except PyErr PyVal
  | [], value, _ => .ok value
  | part :: parts, value, v => do
      let child ← getPart part v
      let child' ← setByPath parts value child
      putPart part child' v

/-- One round of the loops of `decrypt_config_data_fields` and
`encrypt_config_data_fields`. -/
def replaceAt (f : String → Except PyErr String) (path : List String) (data : PyVal) :
    Except PyErr PyVal :=
  match getByPath path data with
  | .error _ => .ok data
  | .ok (.str s) => if s = "" then .ok data else do
      let s' ← f s
      setByPath path (.str s') data
  | .ok _ => .ok data

/-- `decrypt_config_data_fields`. -/
def decryptConfigDataFields (encryptor : FieldEncryptor) :
    List (List String) → PyVal → Except PyErr PyVal
  | [], data => .ok data
  | path :: paths, data => do
      let data' ← replaceAt encryptor.decrypt path data
      decryptConfigDataFields encryptor paths data'

/-- `encrypt_config_data_fields`; every path draws its own randomness. -/
def encryptConfigDataFields (encryptor : FieldEncryptor) (nonce : Nat) :
    List (List String) → PyVal → Except PyErr PyVal
  | [], data => .ok data
  | path :: paths, data => do
      let data' ← replaceAt (encryptor.encrypt nonce) path data
      encryptConfigDataFields encryptor (nonce + 1) paths data'

/-- `ProfileConfigBuilder.sensitive_fields`, the paths split at their dots. -/
def sensitiveFields : ConfigProfile → List (List String)
  | .hysteria2 => [["auth", "password"], ["obfs", "salamander", "password"]]
  | .xrayReality => [["inbounds", "0", "streamSettings", "realitySettings", "privateKey"]]
  | .xrayGrpc => []
  | .xrayXhttp => []

/-! ## one round -/

/-- Assigning a part that can be read: the new value is read back, and the old
one can be put back. -/
theorem exists_putPart {part : String} {v c : PyVal} (h : getPart part v = .ok c) (c' : PyVal) :
    ∃ v', putPart part c' v = .ok v' ∧ getPart part v' = .ok c' ∧ putPart part c v' = .ok v := by
  cases v with
  | list xs =>
      obtain ⟨i, hi, h⟩ := Except.bind_eq_ok_iff.mp h
      obtain ⟨n, hn, h⟩ := Except.bind_eq_ok_iff.mp h
      have hlt : n < xs.length := by
        simp only [listIndex] at hn
        split at hn <;> split at hn <;> simp_all <;> omega
      have hc : xs[n] = c := by simpa [List.getD, hlt] using h
      refine ⟨.list (xs.set n c'), ?_, ?_, ?_⟩
      · simp [putPart, hi, hn]
      · simp [getPart, hi, hn, List.getD, hlt]
      · simp [putPart, hi, hn, ← hc]
  | dict kvs =>
      have hlook : PyVal.lookupKey part kvs = some c := by
        simp only [getPart, PyVal.item] at h
        split at h
        · next w hw => rw [hw, Except.ok.inj h]
        · contradiction
      refine ⟨.dict (PyVal.setKey part c' kvs), rfl, ?_, ?_⟩
      · simp [getPart, PyVal.item, PyVal.lookupKey_setKey]
      · simp [putPart, PyVal.setKey_setKey, PyVal.setKey_of_lookupKey hlook]
  | none | bool _ | int _ | float _ | str _ => simp [getPart, PyVal.item] at h

/-- The same along a path. -/
theorem exists_setByPath {path : List String} {v w : PyVal} (h : getByPath path v = .ok w)
    (w' : PyVal) :
    ∃ v', setByPath path w' v = .ok v' ∧ getByPath path v' = .ok w' ∧
      setByPath path w v' = .ok v := by
  induction path generalizing v with
  | nil =>
      have hv : v = w := by simpa [getByPath] using h
      exact ⟨w', rfl, rfl, by rw [hv]; rfl⟩
  | cons part parts ih =>
      obtain ⟨c, hc, h⟩ := Except.bind_eq_ok_iff.mp h
      obtain ⟨c', hset, hget, hback⟩ := ih h
      obtain ⟨v', hput, hget', hback'⟩ := exists_putPart hc c'
      refine ⟨v', ?_, ?_, ?_⟩
      · simp [setByPath, hc, hset, hput]
      · simp [getByPath, hget', hget]
      · simp [setByPath, hget', hback, hback']

/-- In a dictionary, a round works inside the value of the path's first key. -/
theorem replaceAt_dict (f : String → Except PyErr String) (key : String) (path : List String)
    {kvs : List (String × PyVal)} {c : PyVal} (h : PyVal.lookupKey key kvs = some c) :
    replaceAt f (key :: path) (.dict kvs) =
      (replaceAt f path c).map fun c' => .dict (PyVal.setKey key c' kvs) := by
  have hpart : getPart key (.dict kvs) = .ok c := by simp [getPart, PyVal.item, h]
  have hsame : PyVal.setKey key c kvs = kvs := PyVal.setKey_of_lookupKey h
  cases hget : getByPath path c with
  | error e => simp [replaceAt, getByPath, hpart, hget, Except.map, hsame]
  | ok w =>
      cases w with
      | str s =>
          by_cases hs : s = ""
          · simp [replaceAt, getByPath, hpart, hget, hs, Except.map, hsame]
          · cases hf : f s with
            | error e => simp [replaceAt, getByPath, hpart, hget, hs, hf, Except.map]
            | ok s' =>
                obtain ⟨c', hset, -, -⟩ := exists_setByPath hget (.str s')
                simp [replaceAt, getByPath, setByPath, hpart, hget, hs, hf, hset, putPart,
                  Except.map]
      | none | bool _ | int _ | float _ | list _ | dict _ =>
          simp [replaceAt, getByPath, hpart, hget, Except.map, hsame]

/-- A first key the dictionary does not have leads nowhere. -/
theorem replaceAt_dict_none (f : String → Except PyErr String) (key : String)
    (path : List String) {kvs : List (String × PyVal)} (h : PyVal.lookupKey key kvs = none) :
    replaceAt f (key :: path) (.dict kvs) = .ok (.dict kvs) := by
  simp [replaceAt, getByPath, getPart, PyVal.item, h]

/-- A first part that is no number leads nowhere outside dictionaries. -/
theorem replaceAt_not_dict (f : String → Except PyErr String) (key : String)
    (path : List String) {v : PyVal} (hkey : (PyVal.parseInt key).toOption = none)
    (hv : v.isDict = false) : replaceAt f (key :: path) v = .ok v := by
  cases v with
  | dict kvs => simp [PyVal.isDict] at hv
  | list xs =>
      cases hint : PyVal.parseInt key with
      | ok i => simp [hint, Except.toOption] at hkey
      | error e => simp [replaceAt, getByPath, getPart, hint]
  | none | bool _ | int _ | float _ | str _ => simp [replaceAt, getByPath, getPart, PyVal.item]

/-- A round at a key that is no number changes the value under the key, or
nothing. -/
theorem replaceAt_key {f : String → Except PyErr String} {key : String} {path : List String}
    {v v' : PyVal} (hkey : (PyVal.parseInt key).toOption = none)
    (h : replaceAt f (key :: path) v = .ok v') :
    v' = v ∨ ∃ c c', v.item key = .ok c ∧ replaceAt f path c = .ok c' ∧
      v.setItem key c' = .ok v' := by
  cases hv : v.isDict with
  | false =>
      rw [replaceAt_not_dict f key path hkey hv] at h
      exact Or.inl (Except.ok.inj h).symm
  | true =>
      obtain ⟨kvs, rfl⟩ : ∃ kvs, v = .dict kvs := by
        cases v <;> simp_all [PyVal.isDict]
      cases hk : PyVal.lookupKey key kvs with
      | none =>
          rw [replaceAt_dict_none f key path hk] at h
          exact Or.inl (Except.ok.inj h).symm
      | some c =>
          rw [replaceAt_dict f key path hk] at h
          cases hc : replaceAt f path c with
          | error e => simp [hc, Except.map] at h
          | ok c' =>
              rw [hc] at h
              exact Or.inr ⟨c, c', PyVal.item_eq_ok_iff.mpr ⟨kvs, rfl, hk⟩, hc, h⟩

/-- A round at keys that are no numbers leaves all that is not at its path. -/
theorem sameBut_of_replaceAt {f : String → Except PyErr String} {path : List String}
    {v v' : PyVal} (hpath : ∀ key ∈ path, (PyVal.parseInt key).toOption = none)
    (h : replaceAt f path v = .ok v') : v.SameBut path v' := by
  induction path generalizing v v' with
  | nil => trivial
  | cons key path ih =>
      obtain ⟨hkey, hpath⟩ := List.forall_mem_cons.mp hpath
      obtain rfl | ⟨c, c', hc, hreplace, hset⟩ := replaceAt_key hkey h
      · exact PyVal.SameBut.refl _ _
      · refine ⟨fun k' hne => PyVal.sameAt_of_setItem hset hne, fun w' hw' => ⟨c, hc, ?_⟩⟩
        rw [PyVal.item_self_of_setItem hset] at hw'
        obtain rfl : c' = w' := Except.ok.inj hw'
        exact ih hpath hreplace

/-- In a list, a round at `0` works inside the first value. -/
theorem replaceAt_zero (f : String → Except PyErr String) (path : List String) (x : PyVal)
    (rest : List PyVal) :
    replaceAt f ("0" :: path) (.list (x :: rest)) =
      (replaceAt f path x).map fun x' => .list (x' :: rest) := by
  have hzero : PyVal.parseInt "0" = .ok 0 := by decide
  have hpart : getPart "0" (.list (x :: rest)) = .ok x := by
    simp [getPart, hzero, listIndex]
  have hput (x' : PyVal) : putPart "0" x' (.list (x :: rest)) = .ok (.list (x' :: rest)) := by
    simp [putPart, hzero, listIndex]
  cases hget : getByPath path x with
  | error e => simp [replaceAt, getByPath, hpart, hget, Except.map]
  | ok w =>
      cases w with
      | str s =>
          by_cases hs : s = ""
          · simp [replaceAt, getByPath, hpart, hget, hs, Except.map]
          · cases hf : f s with
            | error e => simp [replaceAt, getByPath, hpart, hget, hs, hf, Except.map]
            | ok s' =>
                obtain ⟨x', hset, -, -⟩ := exists_setByPath hget (.str s')
                simp [replaceAt, getByPath, setByPath, hpart, hget, hs, hf, hset, hput, Except.map]
      | none | bool _ | int _ | float _ | list _ | dict _ =>
          simp [replaceAt, getByPath, hpart, hget, Except.map]

/-- A list a round at `0` has made: as it was, or its first value changed. -/
theorem list_of_replaceAt_zero {f : String → Except PyErr String} {path : List String} {v : PyVal}
    {items' : List PyVal} (h : replaceAt f ("0" :: path) v = .ok (.list items')) :
    v = .list items' ∨ ∃ x x' rest, v = .list (x :: rest) ∧ items' = x' :: rest ∧
      replaceAt f path x = .ok x' := by
  cases v with
  | list items =>
      cases items with
      | nil =>
          have hsame : replaceAt f ("0" :: path) (.list []) = .ok (.list []) := by
            have hzero : PyVal.parseInt "0" = .ok 0 := by decide
            simp [replaceAt, getByPath, getPart, hzero, listIndex]
          rw [hsame] at h
          exact Or.inl (Except.ok.inj h)
      | cons x rest =>
          rw [replaceAt_zero] at h
          cases hx : replaceAt f path x with
          | error e => simp [hx, Except.map] at h
          | ok x' =>
              rw [hx] at h
              have hlist : x' :: rest = items' := PyVal.list.inj (Except.ok.inj h)
              exact Or.inr ⟨x, x', rest, rfl, hlist.symm, hx⟩
  | dict kvs =>
      cases hk : PyVal.lookupKey "0" kvs with
      | none =>
          rw [replaceAt_dict_none f "0" path hk] at h
          cases h
      | some c =>
          rw [replaceAt_dict f "0" path hk] at h
          cases hc : replaceAt f path c with
          | error e => simp [hc, Except.map] at h
          | ok c' => simp [hc, Except.map] at h
  | none | bool _ | int _ | float _ | str _ =>
      simp [replaceAt, getByPath, getPart, PyVal.item] at h

/-- A round below the first inbound changes no other, and of that one nothing
that is not at its path. -/
theorem findInbound_of_replaceAt {f : String → Except PyErr String} {path : List String}
    {v v' inbound' : PyVal} {tag : String} {key : String} (hne : key ≠ "tag")
    (hpath : ∀ k ∈ key :: path, (PyVal.parseInt k).toOption = none)
    (h : replaceAt f ("inbounds" :: "0" :: key :: path) v = .ok v')
    (hfind : findInbound v' tag = .ok inbound') :
    ∃ inbound, findInbound v tag = .ok inbound ∧ inbound.SameBut (key :: path) inbound' := by
  obtain rfl | ⟨c, c', hc, hreplace, hset⟩ := replaceAt_key (by decide) h
  · exact ⟨inbound', hfind, PyVal.SameBut.refl _ _⟩
  · obtain ⟨items', before, after, hitems', hsplit⟩ := findInbound_eq_ok_iff.mp hfind
    rw [PyVal.item_self_of_setItem hset] at hitems'
    obtain rfl : c' = .list items' := Except.ok.inj hitems'
    have hfindTag : findTag tag items' = .ok inbound' :=
      findTag_eq_ok_iff.mpr ⟨before, after, hsplit⟩
    obtain ⟨items, rfl, hfound⟩ : ∃ items, c = .list items ∧ ∃ inbound,
        findTag tag items = .ok inbound ∧ inbound.SameBut (key :: path) inbound' := by
      obtain rfl | ⟨x, x', rest, rfl, rfl, hx⟩ := list_of_replaceAt_zero hreplace
      · exact ⟨items', rfl, inbound', hfindTag, PyVal.SameBut.refl _ _⟩
      · have hsame := sameBut_of_replaceAt hpath hx
        refine ⟨x :: rest, rfl, ?_⟩
        obtain ⟨t, ht, hfindTag⟩ := Except.bind_eq_ok_iff.mp hfindTag
        rw [(hsame.1 "tag" hne).get] at ht
        simp only [findTag, ht, Except.ok_bind_eq]
        split at hfindTag
        · next htag =>
          obtain rfl : x' = inbound' := Except.ok.inj hfindTag
          exact ⟨x, by rw [if_pos htag], hsame⟩
        · next htag =>
          exact ⟨inbound', by rw [if_neg htag]; exact hfindTag, PyVal.SameBut.refl _ _⟩
    obtain ⟨inbound, hinbound, hsame⟩ := hfound
    obtain ⟨before, after, hsplit⟩ := findTag_eq_ok_iff.mp hinbound
    exact ⟨inbound, findInbound_eq_ok_iff.mpr ⟨items, before, after, hc, hsplit⟩, hsame⟩

end VpnPanel
