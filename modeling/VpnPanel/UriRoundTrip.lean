import VpnPanel.UpdateConfigData
import VpnPanel.ResolveShare
import VpnPanel.Lib.UriText

/-!
# VpnPanel.UriRoundTrip

A share URI read back: its text is split by the generic delimiters of a URI and
its parts are percent-decoded.  Some of the values go through `quote`, the
others stand in the text as they are.

* `ShareUri.RoundTrips` — the parts are the values, and the text is one line;
* `roundTrips_iff` — a URI round-trips where its raw values hold no delimiter;
* `shareUris_roundTrip_iff` — which values these are, for each profile.
-/

namespace VpnPanel

open UriText

/-! ## quoting -/

/-- What `quote` writes for a character. -/
def quoteChar (safe : List Char) (c : Char) : List Char :=
  if unreserved c || safe.contains c then [c]
  else (String.singleton c).toUTF8.toList.flatMap escapeByte

theorem toList_quote (s : String) (safe : List Char) :
    (quote s safe).toList = s.toList.flatMap (quoteChar safe) := by
  rw [quote, String.toList_ofList]
  rfl

theorem hexValue_hexDigit : ∀ n < 16, hexValue (hexDigit n) = some n := by decide

theorem escape?_escapeByte (b : UInt8) :
    escape? '%' (hexDigit (b.toNat / 16)) (hexDigit (b.toNat % 16)) = some b := by
  have hb := b.toNat_lt
  rw [escape?, if_pos rfl, hexValue_hexDigit _ (by omega), hexValue_hexDigit _ (by omega)]
  show some (UInt8.ofNat (16 * (b.toNat / 16) + b.toNat % 16)) = some b
  rw [Nat.div_add_mod, UInt8.ofNat_toNat]

theorem percentDecode_escapeBytes (bytes : List UInt8) (cs : List Char) :
    percentDecode (bytes.flatMap escapeByte ++ cs) = bytes ++ percentDecode cs := by
  induction bytes with
  | nil => rfl
  | cons b bytes ih =>
      rw [List.flatMap_cons, List.append_assoc, escapeByte]
      show percentDecode ('%' :: _ :: _ :: (bytes.flatMap escapeByte ++ cs)) = _
      rw [percentDecode_escape (escape?_escapeByte b), ih]
      rfl

theorem toList_loop (bytes : ByteArray) (i : Nat) (acc : List UInt8) :
    ByteArray.toList.loop bytes i acc = acc.reverse ++ bytes.data.toList.drop i := by
  induction i, acc using ByteArray.toList.loop.induct bytes with
  | case1 i acc hlt ih =>
      have hi : i < bytes.data.toList.length := hlt
      have hget : bytes.get! i = bytes.data.toList[i] := getElem!_pos bytes.data i hlt
      rw [ByteArray.toList.loop, if_pos hlt, ih, hget, List.reverse_cons, List.append_assoc,
        List.singleton_append, ← List.drop_eq_getElem_cons hi]
  | case2 i acc hge =>
      have hi : bytes.data.toList.length ≤ i := Nat.not_lt.mp hge
      rw [ByteArray.toList.loop, if_neg hge, List.drop_eq_nil_of_le hi, List.append_nil]

theorem toUTF8_singleton (c : Char) :
    (String.singleton c).toUTF8.toList = String.utf8EncodeChar c := by
  rw [String.toUTF8_eq_toByteArray, String.toByteArray_singleton, List.utf8Encode_singleton,
    ByteArray.toList, toList_loop, List.toList_data_toByteArray]
  rfl

/-- A quoted character is read back. -/
theorem percentDecode_quoteChar {safe : List Char} (hsafe : '%' ∉ safe) (c : Char)
    (cs : List Char) :
    percentDecode (quoteChar safe c ++ cs) = String.utf8EncodeChar c ++ percentDecode cs := by
  unfold quoteChar
  split
  · rename_i hkeep
    have hne : c ≠ '%' := by
      rintro rfl
      have hunreserved : unreserved '%' = false := by decide
      simp [hunreserved, hsafe] at hkeep
    exact percentDecode_cons_of_ne hne cs
  · rw [toUTF8_singleton, percentDecode_escapeBytes]

/-- **Unquoting.** -/
theorem decoded?_quote (s : String) {safe : List Char} (hsafe : '%' ∉ safe) :
    decoded? (quote s safe).toList = some s := by
  rw [decoded?_eq_some_iff, toList_quote]
  exact percentDecode_flatMap (percentDecode_quoteChar hsafe) s.toList

/-- The characters of a quoted text. -/
theorem of_mem_quote {s : String} {safe : List Char} {c : Char} (h : c ∈ (quote s safe).toList) :
    unreserved c = true ∨ c ∈ safe ∨ c = '%' := by
  have hdigit : ∀ n < 16, unreserved (hexDigit n) = true := by decide
  rw [toList_quote] at h
  obtain ⟨d, -, hc⟩ := List.mem_flatMap.mp h
  unfold quoteChar at hc
  split at hc
  · rename_i hkeep
    obtain rfl := List.mem_singleton.mp hc
    simpa [or_assoc] using Or.imp_right Or.inl (by simpa using hkeep)
  · obtain ⟨b, -, hc⟩ := List.mem_flatMap.mp hc
    have hb := b.toNat_lt
    have hhi := hdigit (b.toNat / 16) (by omega)
    have hlo := hdigit (b.toNat % 16) (by omega)
    simp only [escapeByte, List.mem_cons, List.not_mem_nil, or_false] at hc
    obtain rfl | rfl | rfl := hc
    · exact Or.inr (Or.inr rfl)
    · exact Or.inl hhi
    · exact Or.inl hlo

/-! ## the parts of a share URI -/

/-- A value as it stands in the text. -/
def written (quoted : Bool) (value : String) : List Char :=
  (if quoted then quote value [] else value).toList

/-- The parts a URI is rendered from. -/
def ShareUri.parts (u : ShareUri) : Parts where
  scheme := u.scheme.toList
  userinfo := written u.userQuoted u.user
  host := u.host.toList
  port := (toString u.port).toList
  path := []
  query := renderPairs (u.params.map fun p => (p.name.toList, written p.quoted p.value))
  fragment := (quote u.label ['/']).toList

theorem ShareUri.parts_fragment (u : ShareUri) :
    u.parts.fragment = (quote u.label ['/']).toList := by
  rw [ShareUri.parts]

theorem toList_render (u : ShareUri) : u.render.toList = u.parts.render := by
  have hparam (p : UriParam) :
      p.render.toList = Pair.render (p.name.toList, written p.quoted p.value) := by
    simp [UriParam.render, Pair.render, written]
  have hquery : (String.intercalate "&" (u.params.map UriParam.render)).toList = u.parts.query := by
    simp [ShareUri.parts, renderPairs, String.toList_intercalate, List.map_map, Function.comp_def,
      hparam]
  simp only [ShareUri.render, String.toList_append, hquery]
  simp [ShareUri.parts, Parts.render, Parts.tail, written]

/-! ## the property -/

def lineBreak (c : Char) : Bool := c = '\n' || c = '\r'

def OneLine (cs : List Char) : Prop := ∀ c ∈ cs, lineBreak c = false

instance (cs : List Char) : Decidable (OneLine cs) := List.decidableBAll _ cs

@[simp] theorem oneLine_cons {c : Char} {cs : List Char} :
    OneLine (c :: cs) ↔ lineBreak c = false ∧ OneLine cs := List.forall_mem_cons

@[simp] theorem oneLine_append {xs ys : List Char} :
    OneLine (xs ++ ys) ↔ OneLine xs ∧ OneLine ys := List.forall_mem_append

theorem oneLine_renderPairs {pairs : List Pair} :
    OneLine (renderPairs pairs) ↔ ∀ pair ∈ pairs, OneLine pair.1 ∧ OneLine pair.2 := by
  have hequals : lineBreak '=' = false := by decide
  have hamp : lineBreak '&' = false := by decide
  induction pairs with
  | nil => simp [renderPairs, OneLine]
  | cons pair pairs ih =>
      cases pairs with
      | nil => simp [Pair.render, hequals]
      | cons next pairs =>
          have hnext : OneLine (renderPairs (next :: pairs)) ↔
              ∀ pair ∈ next :: pairs, OneLine pair.1 ∧ OneLine pair.2 := ih
          rw [renderPairs_cons_cons, oneLine_append, oneLine_cons, hnext, Pair.render,
            oneLine_append, oneLine_cons, List.forall_mem_cons (l := next :: pairs)]
          simp only [hequals, hamp, true_and]

/-- What was encoded, got back from the parts. -/
structure ShareUri.ReadBack (u : ShareUri) (p : Parts) : Prop where
  scheme : decoded? p.scheme = some u.scheme
  user : decoded? p.userinfo = some u.user
  host : decoded? p.host = some u.host
  port : p.port = (toString u.port).toList
  path : p.path = []
  params : (queryPairs p.query).map (fun pair => (decoded? pair.1, decoded? pair.2)) =
    u.params.map fun param => (some param.name, some param.value)
  label : decoded? p.fragment = some u.label

/-- Splitting the text and decoding the parts gives back what was encoded, and
the text is one line. -/
structure ShareUri.RoundTrips (u : ShareUri) : Prop where
  readBack : ∃ p, split u.render.toList = some p ∧ u.ReadBack p
  oneLine : OneLine u.render.toList

/-- A raw text that decodes to itself. -/
structure IsRaw (s : String) : Prop where
  noEscape : hasEscape s.toList = false
  oneLine : OneLine s.toList

/-- A user that may stand in the text as it is. -/
def RawUser (s : String) : Prop := IsUser s.toList ∧ IsRaw s

/-- A host that may. -/
def RawHost (s : String) : Prop := IsAuthorityHost s.toList ∧ IsRaw s

/-- A value of a parameter that may. -/
def RawValue (s : String) : Prop := IsValue s.toList ∧ IsRaw s

/-- Every raw part may stand where it does. -/
structure ShareUri.Clean (u : ShareUri) : Prop where
  user : u.userQuoted = false → RawUser u.user
  host : RawHost u.host
  params : ∀ p ∈ u.params, p.quoted = false → RawValue p.value

/-- A word of the builders' own. -/
def IsWord (s : String) : Prop := ∀ c ∈ s.toList, unreserved c = true

instance (s : String) : Decidable (IsWord s) := List.decidableBAll _ s.toList

/-- The scheme and the names of the parameters are words, and there are some. -/
structure ShareUri.Regular (u : ShareUri) : Prop where
  scheme : IsWord u.scheme
  names : ∀ p ∈ u.params, IsWord p.name
  params : u.params ≠ []

/-! ## words and quoted texts -/

theorem delimiter_free {c : Char} (h : unreserved c = true ∨ c = '%') :
    endsAuthority c = false ∧ endsPair c = false ∧ lineBreak c = false ∧ c ≠ ':' ∧ c ≠ '=' := by
  have hspecial : ['/', '?', '#', '&', '\n', '\r', ':', '='].all
      (fun d => !unreserved d && d ≠ '%') = true := by decide
  have hne : ∀ d ∈ ['/', '?', '#', '&', '\n', '\r', ':', '='], c ≠ d := by
    intro d hd hcd
    have hd := List.all_eq_true.mp hspecial d hd
    subst hcd
    obtain h | h := h
    · simp [h] at hd
    · simp [h] at hd
  simp only [List.forall_mem_cons, List.not_mem_nil, IsEmpty.forall_iff, implies_true] at hne
  simp [endsAuthority, endsPair, lineBreak, hne]

theorem isWord_raw {s : String} (h : IsWord s) : IsRaw s where
  noEscape := by
    refine not_hasEscape_of_not_mem fun hmem => ?_
    have hpercent : unreserved '%' = false := by decide
    rw [h _ hmem] at hpercent
    cases hpercent
  oneLine c hc := (delimiter_free (Or.inl (h c hc))).2.2.1

theorem rawValue_of_isWord {s : String} (h : IsWord s) : RawValue s :=
  ⟨fun c hc => (delimiter_free (Or.inl (h c hc))).2.1, isWord_raw h⟩

theorem isName_of_isWord {s : String} (h : IsWord s) : IsName s.toList := fun c hc =>
  have hfree := delimiter_free (Or.inl (h c hc))
  ⟨hfree.2.1, hfree.2.2.2.2⟩

theorem IsRaw.decoded {s : String} (h : IsRaw s) : decoded? s.toList = some s :=
  decoded?_toList_iff.mpr h.noEscape

theorem quote_free {s : String} {c : Char} (h : c ∈ (quote s []).toList) :
    endsAuthority c = false ∧ endsPair c = false ∧ lineBreak c = false ∧ c ≠ ':' ∧ c ≠ '=' :=
  delimiter_free (by simpa using of_mem_quote h)

variable {quoted : Bool} {value : String}

theorem isUser_written (h : quoted = false → RawUser value) : IsUser (written quoted value) := by
  cases quoted with
  | false => exact (h rfl).1
  | true => exact fun c hc => (quote_free hc).1

theorem isValue_written (h : quoted = false → RawValue value) : IsValue (written quoted value) := by
  cases quoted with
  | false => exact (h rfl).1
  | true => exact fun c hc => (quote_free hc).2.1

theorem decoded?_written (h : quoted = false → IsRaw value) :
    decoded? (written quoted value) = some value := by
  cases quoted with
  | false => exact (h rfl).decoded
  | true => exact decoded?_quote value (by simp)

theorem oneLine_written (h : quoted = false → IsRaw value) : OneLine (written quoted value) := by
  cases quoted with
  | false => exact (h rfl).oneLine
  | true => exact fun c hc => (quote_free hc).2.2.1

/-- The text of a port. -/
theorem of_mem_toString_port {port : Int} {c : Char} (h : c ∈ (toString port).toList) :
    c.isDigit = true ∨ c = '-' := by
  rw [Int.toString_eq_repr] at h
  cases port with
  | ofNat n =>
      rw [Int.repr, Nat.toList_repr] at h
      exact Or.inl (Nat.isDigit_of_mem_toDigits (by decide) (by decide) h)
  | negSucc n =>
      rw [Int.repr, String.toList_append, Nat.toList_repr] at h
      obtain h | h := List.mem_append.mp h
      · exact Or.inr (by simpa using h)
      · exact Or.inl (Nat.isDigit_of_mem_toDigits (by decide) (by decide) h)

theorem port_free {port : Int} {c : Char} (h : c ∈ (toString port).toList) :
    unreserved c = true ∧ c ≠ '@' ∧ c ≠ ']' := by
  obtain h | rfl := of_mem_toString_port h
  · refine ⟨?_, ?_, ?_⟩
    · simp [unreserved, Char.isAlphanum, h]
    · rintro rfl
      revert h
      decide
    · rintro rfl
      revert h
      decide
  · decide

theorem ShareUri.Regular.parts {u : ShareUri} (h : u.Regular) : u.parts.Regular where
  scheme := fun hmem => (delimiter_free (Or.inl (h.scheme _ hmem))).2.2.2.1 rfl
  port c hc := by
    obtain ⟨hfree, hne⟩ := port_free hc
    exact ⟨(delimiter_free (Or.inl hfree)).1, hne⟩

/-! ## raw values -/

section RoundTrip

variable {u : ShareUri} {p : Parts}

theorem decoded?_ne_of_truncated {cs : List Char} {s : String} (h : Truncated cs s.toList) :
    decoded? cs ≠ some s :=
  fun hdec => not_percentDecode_of_truncated h (decoded?_eq_some_iff.mp hdec)

/-- The pairs the query is rendered from. -/
def ShareUri.pairs (u : ShareUri) : List Pair :=
  u.params.map fun p => (p.name.toList, written p.quoted p.value)

theorem isName_of_mem_pairs (hu : u.Regular) : ∀ pair ∈ u.pairs, IsName pair.1 := by
  intro pair hpair
  obtain ⟨param, hparam, rfl⟩ := List.mem_map.mp hpair
  exact isName_of_isWord (hu.names param hparam)

/-- The user is whole where it is read back. -/
theorem isUser_of_readBack (hu : u.Regular) (hsplit : split u.parts.render = some p)
    (h : u.ReadBack p) : IsUser u.parts.userinfo := by
  obtain huser | htrunc := isUser_or_truncated hu.parts hsplit
  · exact huser
  · cases hq : u.userQuoted with
    | true => exact isUser_written (by simp [hq])
    | false =>
        have hraw : u.parts.userinfo = u.user.toList := by simp [ShareUri.parts, written, hq]
        rw [hraw] at htrunc
        exact absurd h.user (decoded?_ne_of_truncated htrunc)

/-- And so is the host. -/
theorem isAuthorityHost_of_readBack (hu : u.Regular) (hsplit : split u.parts.render = some p)
    (h : u.ReadBack p) : IsAuthorityHost u.parts.host := by
  obtain hhost | htrunc :=
    isAuthorityHost_or_truncated hu.parts (isUser_of_readBack hu hsplit h) hsplit
  · exact hhost
  · exact absurd h.host (decoded?_ne_of_truncated htrunc)

/-- And the values of the parameters. -/
theorem isValue_of_readBack (hu : u.Regular) (hsplit : split u.parts.render = some p)
    (h : u.ReadBack p) : ∀ pair ∈ u.pairs, IsValue pair.2 := by
  have hparts := split_render hu.parts (isUser_of_readBack hu hsplit h)
    (isAuthorityHost_of_readBack hu hsplit h)
  have hread : queryPairs ((renderPairs u.pairs ++ '#' :: u.parts.fragment).takeWhile (· ≠ '#')) =
      queryPairs p.query := by
    rw [Option.some.inj (hsplit.symm.trans hparts)]
    rfl
  refine isValue_of_queryPairs (isName_of_mem_pairs hu) hread ?_
  have hmap := h.params
  rw [← List.forall₂_eq_eq_eq, List.forall₂_map_left_iff, List.forall₂_map_right_iff] at hmap
  rw [ShareUri.pairs, List.forall₂_map_left_iff]
  refine hmap.flip.imp fun param got hgot hvalue htrunc => ?_
  -- a value that is cut is raw
  cases hq : param.quoted with
  | true => exact hvalue (isValue_written (by simp [hq]))
  | false =>
      have hraw : written param.quoted param.value = param.value.toList := by simp [written, hq]
      rw [hraw] at htrunc
      exact decoded?_ne_of_truncated htrunc (congrArg Prod.snd hgot)

/-- The parts that are read where nothing is cut. -/
theorem split_parts (hu : u.Regular) (huser : IsUser u.parts.userinfo)
    (hhost : IsAuthorityHost u.parts.host) (hvalue : ∀ pair ∈ u.pairs, IsValue pair.2) :
    split u.parts.render = some u.parts ∧ queryPairs u.parts.query = u.pairs := by
  have hpairs : ∀ pair ∈ u.pairs, IsName pair.1 ∧ IsValue pair.2 := fun pair hpair =>
    ⟨isName_of_mem_pairs hu pair hpair, hvalue pair hpair⟩
  have hhash := forall_ne_of_not_mem (not_mem_renderPairs hpairs)
  have hne : u.pairs ≠ [] := by simpa [ShareUri.pairs] using hu.params
  refine ⟨?_, queryPairs_renderPairs hne hpairs⟩
  rw [split_render hu.parts huser hhost]
  have hquery : u.parts.query = renderPairs u.pairs := rfl
  have hpath : u.parts.path = [] := rfl
  rw [hquery, takeWhile_append_cons hhash (by decide), dropWhile_append_cons hhash (by decide),
    List.drop_succ_cons, List.drop_zero, ← hquery, ← hpath]

/-- A text is one line where its parts are. -/
theorem oneLine_render_iff (hu : u.Regular) :
    OneLine u.render.toList ↔ OneLine u.parts.userinfo ∧ OneLine u.host.toList ∧
      ∀ param ∈ u.params, OneLine (written param.quoted param.value) := by
  have hscheme : OneLine u.parts.scheme := (isWord_raw hu.scheme).oneLine
  have hport : OneLine u.parts.port := fun c hc =>
    (delimiter_free (Or.inl (port_free hc).1)).2.2.1
  have hfragment : OneLine u.parts.fragment := fun c hc => by
    rw [u.parts_fragment] at hc
    obtain h | h | h := of_mem_quote hc
    · exact (delimiter_free (Or.inl h)).2.2.1
    · rw [List.mem_singleton.mp h]
      decide
    · exact (delimiter_free (Or.inr h)).2.2.1
  have hquery : OneLine u.parts.query ↔
      ∀ param ∈ u.params, OneLine (written param.quoted param.value) := by
    have hpairs : OneLine u.parts.query ↔ ∀ pair ∈ u.pairs, OneLine pair.1 ∧ OneLine pair.2 :=
      oneLine_renderPairs
    rw [hpairs, ShareUri.pairs, List.forall_mem_map]
    exact forall₂_congr fun param hparam =>
      and_iff_right (isWord_raw (hu.names param hparam)).oneLine
  have hmarks : OneLine [':', '/', '@', '?', '#'] := by decide
  simp only [oneLine_cons] at hmarks
  rw [toList_render, Parts.render, Parts.tail]
  simp only [oneLine_append, oneLine_cons, hmarks, hscheme, hport, hfragment, hquery, true_and,
    and_true]
  rfl

/-- **A URI round-trips** where its raw parts may stand in the text as they are. -/
theorem roundTrips_iff (hu : u.Regular) : u.RoundTrips ↔ u.Clean := by
  constructor
  · intro h
    obtain ⟨p, hsplit, hread⟩ := h.readBack
    rw [toList_render] at hsplit
    have huser := isUser_of_readBack hu hsplit hread
    have hhost := isAuthorityHost_of_readBack hu hsplit hread
    have hvalue := isValue_of_readBack hu hsplit hread
    obtain ⟨hparts, hpairs⟩ := split_parts hu huser hhost hvalue
    obtain rfl := Option.some.inj (hparts.symm.trans hsplit)
    obtain ⟨luser, lhost, lparams⟩ := (oneLine_render_iff hu).mp h.oneLine
    refine ⟨fun hq => ?_, ⟨hhost, decoded?_toList_iff.mp hread.host, lhost⟩,
      fun param hparam hq => ?_⟩
    · have hraw : u.parts.userinfo = u.user.toList := by simp [ShareUri.parts, written, hq]
      have hdec := hread.user
      rw [hraw] at huser luser hdec
      exact ⟨huser, decoded?_toList_iff.mp hdec, luser⟩
    · have hraw : written param.quoted param.value = param.value.toList := by simp [written, hq]
      have hmap := hread.params
      rw [hpairs, ShareUri.pairs, List.map_map, List.map_inj_left] at hmap
      have hdec := congrArg Prod.snd (hmap param hparam)
      have hval := hvalue _ (List.mem_map_of_mem hparam)
      have hline := lparams param hparam
      simp only [Function.comp_apply, hraw] at hdec hval hline
      exact ⟨hval, decoded?_toList_iff.mp hdec, hline⟩
  · intro h
    have huser : IsUser u.parts.userinfo := isUser_written h.user
    have hvalue : ∀ pair ∈ u.pairs, IsValue pair.2 := by
      rw [ShareUri.pairs, List.forall_mem_map]
      exact fun param hparam => isValue_written (h.params param hparam)
    obtain ⟨hparts, hpairs⟩ := split_parts hu huser h.host.1 hvalue
    have hlabel : decoded? u.parts.fragment = some u.label := by
      rw [u.parts_fragment, decoded?_quote u.label (by decide)]
    refine ⟨⟨u.parts, by rw [toList_render, hparts], ?_⟩, (oneLine_render_iff hu).mpr ⟨?_, ?_, ?_⟩⟩
    · refine ⟨(isWord_raw hu.scheme).decoded, decoded?_written fun hq => (h.user hq).2,
        h.host.2.decoded, rfl, rfl, ?_, hlabel⟩
      rw [hpairs, ShareUri.pairs, List.map_map, List.map_inj_left]
      intro param hparam
      have hname := (isWord_raw (hu.names param hparam)).decoded
      have hdec := decoded?_written fun hq => (h.params param hparam hq).2
      simp [hname, hdec]
    · exact oneLine_written fun hq => (h.user hq).2
    · exact h.host.2.oneLine
    · exact fun param hparam => oneLine_written fun hq => (h.params param hparam hq).2

end RoundTrip

/-! ## what the builders copy -/

/-- The pin of a secure URI may stand in it. -/
def RawPin (secure : Bool) (certFingerprint : String) : Prop :=
  secure = true → RawValue (pinHex certFingerprint)

/-- The client id may. -/
def RawClientId (configData : PyVal) (tag : String) : Prop :=
  ∀ inbound client clientId, findInbound configData tag = .ok inbound →
    firstClient inbound = .ok client → client.item "id" = .ok clientId → RawUser clientId.toStr

/-- The flow may. -/
def RawFlow (configData : PyVal) (tag : String) : Prop :=
  ∀ inbound client flow, findInbound configData tag = .ok inbound →
    firstClient inbound = .ok client →
    client.get "flow" (.str "xtls-rprx-vision") = .ok flow → RawValue flow.toStr

/-- The short id may. -/
def RawShortId (configData : PyVal) (tag : String) : Prop :=
  ∀ inbound stream reality shortIds shortId, findInbound configData tag = .ok inbound →
    inbound.item "streamSettings" = .ok stream → stream.item "realitySettings" = .ok reality →
    reality.item "shortIds" = .ok shortIds → shortIds.first = .ok shortId →
    RawValue shortId.toStr

/-- Everything the builder of a profile copies into a URI may stand there. -/
def RawParts (profile : ConfigProfile) (configData : PyVal)
    (host publicKey certFingerprint tag : String) (secure : Bool) : Prop :=
  RawHost host ∧ match profile with
    | .hysteria2 => RawPin secure certFingerprint
    | .xrayReality =>
        RawClientId configData tag ∧ RawFlow configData tag ∧ RawValue publicKey ∧
          RawShortId configData tag
    | .xrayXhttp | .xrayGrpc => RawClientId configData tag ∧ RawPin secure certFingerprint

/-- The names of parameters are words, and `raw` says that their raw values may
stand in the query. -/
structure RawParams (params : List UriParam) (raw : Prop) : Prop where
  names : ∀ p ∈ params, IsWord p.name
  values : (∀ p ∈ params, p.quoted = false → RawValue p.value) ↔ raw

section RawParams

variable {params rest : List UriParam} {raw rawRest : Prop} {name value : String}

theorem rawParams_nil : RawParams [] True := ⟨by simp, by simp⟩

theorem RawParams.append (h : RawParams params raw) (hrest : RawParams rest rawRest) :
    RawParams (params ++ rest) (raw ∧ rawRest) := by
  refine ⟨List.forall_mem_append.mpr ⟨h.names, hrest.names⟩, ?_⟩
  rw [List.forall_mem_append, h.values, hrest.values]

theorem RawParams.plain (hname : IsWord name) (h : RawParams params raw) :
    RawParams (plain name value :: params) (RawValue value ∧ raw) := by
  refine ⟨List.forall_mem_cons.mpr ⟨hname, h.names⟩, ?_⟩
  rw [List.forall_mem_cons, h.values]
  simp [VpnPanel.plain]

theorem RawParams.word (hname : IsWord name) (hvalue : IsWord value) (h : RawParams params raw) :
    RawParams (VpnPanel.plain name value :: params) raw := by
  have hraw := rawValue_of_isWord hvalue
  have hplain : RawParams (VpnPanel.plain name value :: params) (RawValue value ∧ raw) :=
    h.plain hname
  simpa [hraw] using hplain

theorem RawParams.escaped (hname : IsWord name) (h : RawParams params raw) :
    RawParams (escaped name value :: params) raw := by
  refine ⟨List.forall_mem_cons.mpr ⟨hname, h.names⟩, ?_⟩
  rw [List.forall_mem_cons, h.values]
  simp [VpnPanel.escaped]

theorem RawParams.congr {raw' : Prop} (h : RawParams params raw) (hraw : raw ↔ raw') :
    RawParams params raw' := ⟨h.names, h.values.trans hraw⟩

theorem rawValue_empty : RawValue "" := rawValue_of_isWord (by decide)

/-- The pin, where there is one. -/
theorem rawParams_pin {name pin : String} (hname : IsWord name) :
    RawParams (if pin ≠ "" then [VpnPanel.plain name pin] else []) (RawValue pin) := by
  by_cases hpin : pin = ""
  · rw [if_neg (by simpa using hpin), hpin]
    exact rawParams_nil.congr (by simp [rawValue_empty])
  · rw [if_pos hpin]
    exact (rawParams_nil.plain hname).congr (and_iff_left trivial)

theorem rawParams_pinParams (secure : Bool) (certFingerprint : String) :
    RawParams (pinParams secure certFingerprint) (RawPin secure certFingerprint) := by
  cases secure with
  | false =>
      exact (rawParams_nil.word (by decide) (by decide)).congr (by simp [RawPin])
  | true => exact (rawParams_pin (by decide)).congr (by simp [RawPin])

theorem rawParams_hysteriaTail (secure : Bool) (certFingerprint : String) :
    RawParams (hysteriaTail secure certFingerprint) (RawPin secure certFingerprint) := by
  cases secure with
  | false =>
      exact (rawParams_nil.word (by decide) (by decide)).congr (by simp [RawPin])
  | true =>
      have hinsecure : RawParams [VpnPanel.plain "insecure" "0"] True :=
        rawParams_nil.word (by decide) (by decide)
      exact ((rawParams_pin (by decide)).append hinsecure).congr (by simp [RawPin])

theorem rawParams_obfsParams {configData : PyVal} (h : obfsParams configData = .ok params) :
    RawParams params True := by
  obtain ⟨obfs, -, h⟩ := Except.bind_eq_ok_iff.mp h
  obtain ⟨kind, -, h⟩ := Except.bind_eq_ok_iff.mp h
  split at h
  · obtain ⟨salamander, -, h⟩ := Except.bind_eq_ok_iff.mp h
    obtain ⟨password, -, h⟩ := Except.bind_eq_ok_iff.mp h
    split at h
    · cases h
      exact (rawParams_nil.escaped (by decide)).word (by decide) (by decide)
    · cases h
      exact rawParams_nil
  · cases h
    exact rawParams_nil

end RawParams

theorem ShareUri.clean_iff {u : ShareUri} {raw : Prop} (h : RawParams u.params raw) :
    u.Clean ↔ (u.userQuoted = false → RawUser u.user) ∧ RawHost u.host ∧ raw := by
  rw [← h.values]
  exact ⟨fun hu => ⟨hu.user, hu.host, hu.params⟩, fun hu => ⟨hu.1, hu.2.1, hu.2.2⟩⟩

section Builders

variable {rnd : Nat} {inbound clientId configData : PyVal} {host publicKey certFingerprint : String}
  {tag label : String} {port : Int} {secure : Bool} {publicPort : Option Nat} {uri : ShareUri}

theorem isWord_vless : IsWord "vless" := by decide

theorem isWord_hysteria2 : IsWord "hysteria2" := by decide

theorem clean_buildRealityUri
    (h : buildRealityUri rnd inbound clientId host port publicKey label = .ok uri) :
    uri.Regular ∧ ∃ stream reality shortIds shortId client flow,
      inbound.item "streamSettings" = .ok stream ∧ stream.item "realitySettings" = .ok reality ∧
      reality.item "shortIds" = .ok shortIds ∧ shortIds.first = .ok shortId ∧
      firstClient inbound = .ok client ∧
      client.get "flow" (.str "xtls-rprx-vision") = .ok flow ∧
      (uri.Clean ↔ RawUser clientId.toStr ∧ RawHost host ∧ RawValue flow.toStr ∧
        RawValue publicKey ∧ RawValue shortId.toStr) := by
  obtain ⟨stream, hstream, h⟩ := Except.bind_eq_ok_iff.mp h
  obtain ⟨reality, hreality, h⟩ := Except.bind_eq_ok_iff.mp h
  obtain ⟨shortIds, hshortIds, h⟩ := Except.bind_eq_ok_iff.mp h
  obtain ⟨shortId, hshortId, h⟩ := Except.bind_eq_ok_iff.mp h
  obtain ⟨client, hclient, h⟩ := Except.bind_eq_ok_iff.mp h
  obtain ⟨flow, hflow, h⟩ := Except.bind_eq_ok_iff.mp h
  obtain ⟨sni, hsni, h⟩ := Except.bind_eq_ok_iff.mp h
  obtain rfl := Except.ok.inj h
  have hsniParams : RawParams (if sni ≠ "" then [escaped "sni" sni] else []) True := by
    split
    · exact rawParams_nil.escaped (by decide)
    · exact rawParams_nil
  have hfixed : RawParams [plain "type" "tcp", plain "security" "reality",
      plain "flow" flow.toStr, plain "fp" "chrome", plain "pbk" publicKey,
      plain "sid" shortId.toStr] (RawValue flow.toStr ∧ RawValue publicKey ∧
        RawValue shortId.toStr ∧ True) :=
    (((((rawParams_nil.plain (by decide)).plain (by decide)).word (by decide) (by decide)).plain
      (by decide)).word (by decide) (by decide)).word (by decide) (by decide)
  have hparams := hfixed.append hsniParams
  refine ⟨⟨isWord_vless, hparams.names, by simp⟩, stream, reality, shortIds, shortId, client, flow,
    hstream, hreality, hshortIds, hshortId, hclient, hflow, ?_⟩
  rw [ShareUri.clean_iff hparams]
  simp

theorem clean_buildXhttpUri
    (h : buildXhttpUri inbound clientId host port certFingerprint label secure = .ok uri) :
    uri.Regular ∧ (uri.Clean ↔ RawUser clientId.toStr ∧ RawHost host ∧
      RawPin secure certFingerprint) := by
  obtain ⟨stream, -, h⟩ := Except.bind_eq_ok_iff.mp h
  obtain ⟨xhttp, -, h⟩ := Except.bind_eq_ok_iff.mp h
  obtain ⟨tlsSettings, -, h⟩ := Except.bind_eq_ok_iff.mp h
  obtain ⟨xhost, -, h⟩ := Except.bind_eq_ok_iff.mp h
  obtain ⟨path, -, h⟩ := Except.bind_eq_ok_iff.mp h
  obtain ⟨mode, -, h⟩ := Except.bind_eq_ok_iff.mp h
  obtain ⟨serverName, -, h⟩ := Except.bind_eq_ok_iff.mp h
  obtain rfl := Except.ok.inj h
  have hfixed (sni : String) : RawParams [plain "type" "xhttp", plain "security" "tls",
      escaped "host" xhost.toStr, escaped "path" path.toStr, escaped "mode" mode.toStr,
      plain "fp" "chrome", escaped "sni" sni] True :=
    ((((((rawParams_nil.escaped (by decide)).word (by decide) (by decide)).escaped
      (by decide)).escaped (by decide)).escaped (by decide)).word (by decide)
        (by decide)).word (by decide) (by decide)
  have hparams := (hfixed (serverName.orElse (.str host)).toStr).append
    (rawParams_pinParams secure certFingerprint)
  refine ⟨⟨isWord_vless, hparams.names, by simp⟩, ?_⟩
  rw [ShareUri.clean_iff hparams]
  simp

theorem clean_buildGrpcUri
    (h : buildGrpcUri inbound clientId host port certFingerprint label secure = .ok uri) :
    uri.Regular ∧ (uri.Clean ↔ RawUser clientId.toStr ∧ RawHost host ∧
      RawPin secure certFingerprint) := by
  obtain ⟨stream, -, h⟩ := Except.bind_eq_ok_iff.mp h
  obtain ⟨tls, -, h⟩ := Except.bind_eq_ok_iff.mp h
  obtain ⟨grpc, -, h⟩ := Except.bind_eq_ok_iff.mp h
  obtain ⟨serverName, -, h⟩ := Except.bind_eq_ok_iff.mp h
  obtain ⟨serviceName, -, h⟩ := Except.bind_eq_ok_iff.mp h
  obtain rfl := Except.ok.inj h
  have hfixed (sni : String) : RawParams [plain "type" "grpc", plain "security" "tls",
      escaped "serviceName" serviceName.toStr, plain "fp" "chrome", escaped "sni" sni] True :=
    ((((rawParams_nil.escaped (by decide)).word (by decide) (by decide)).escaped
      (by decide)).word (by decide) (by decide)).word (by decide) (by decide)
  have hparams := (hfixed (serverName.orElse (.str host)).toStr).append
    (rawParams_pinParams secure certFingerprint)
  refine ⟨⟨isWord_vless, hparams.names, by simp⟩, ?_⟩
  rw [ShareUri.clean_iff hparams]
  simp

theorem clean_buildHysteria2Uri
    (h : buildHysteria2Uri configData host certFingerprint label secure publicPort = .ok uri) :
    uri.Regular ∧ (uri.Clean ↔ RawHost host ∧ RawPin secure certFingerprint) := by
  rw [buildHysteria2Uri_chain] at h
  obtain ⟨port, -, h⟩ := Except.bind_eq_ok_iff.mp h
  obtain ⟨auth, -, h⟩ := Except.bind_eq_ok_iff.mp h
  obtain ⟨password, -, h⟩ := Except.bind_eq_ok_iff.mp h
  obtain ⟨sni, -, h⟩ := Except.bind_eq_ok_iff.mp h
  obtain ⟨obfs, hobfs, h⟩ := Except.bind_eq_ok_iff.mp h
  cases password with
  | str pass =>
      obtain rfl := Except.ok.inj h
      have hsni : RawParams [escaped "sni" sni.toStr] True := rawParams_nil.escaped (by decide)
      have hparams := (hsni.append (rawParams_obfsParams hobfs)).append
        (rawParams_hysteriaTail secure certFingerprint)
      refine ⟨⟨isWord_hysteria2, hparams.names, by simp⟩, ?_⟩
      rw [ShareUri.clean_iff hparams]
      simp
  | _ => cases h

theorem rawClientId_iff {client : PyVal} (hinbound : findInbound configData tag = .ok inbound)
    (hclient : firstClient inbound = .ok client) (hid : client.item "id" = .ok clientId) :
    RawClientId configData tag ↔ RawUser clientId.toStr := by
  constructor
  · exact fun h => h inbound client clientId hinbound hclient hid
  · intro h inbound' client' clientId' hinbound' hclient' hid'
    obtain rfl := Except.ok.inj (hinbound.symm.trans hinbound')
    obtain rfl := Except.ok.inj (hclient.symm.trans hclient')
    obtain rfl := Except.ok.inj (hid.symm.trans hid')
    exact h

theorem rawFlow_iff {client flow : PyVal} (hinbound : findInbound configData tag = .ok inbound)
    (hclient : firstClient inbound = .ok client)
    (hflow : client.get "flow" (.str "xtls-rprx-vision") = .ok flow) :
    RawFlow configData tag ↔ RawValue flow.toStr := by
  constructor
  · exact fun h => h inbound client flow hinbound hclient hflow
  · intro h inbound' client' flow' hinbound' hclient' hflow'
    obtain rfl := Except.ok.inj (hinbound.symm.trans hinbound')
    obtain rfl := Except.ok.inj (hclient.symm.trans hclient')
    obtain rfl := Except.ok.inj (hflow.symm.trans hflow')
    exact h

theorem rawShortId_iff {stream reality shortIds shortId : PyVal}
    (hinbound : findInbound configData tag = .ok inbound)
    (hstream : inbound.item "streamSettings" = .ok stream)
    (hreality : stream.item "realitySettings" = .ok reality)
    (hshortIds : reality.item "shortIds" = .ok shortIds) (hshortId : shortIds.first = .ok shortId) :
    RawShortId configData tag ↔ RawValue shortId.toStr := by
  constructor
  · exact fun h => h inbound stream reality shortIds shortId hinbound hstream hreality hshortIds
      hshortId
  · intro h inbound' stream' reality' shortIds' shortId' hinbound' hstream' hreality' hshortIds'
      hshortId'
    obtain rfl := Except.ok.inj (hinbound.symm.trans hinbound')
    obtain rfl := Except.ok.inj (hstream.symm.trans hstream')
    obtain rfl := Except.ok.inj (hreality.symm.trans hreality')
    obtain rfl := Except.ok.inj (hshortIds.symm.trans hshortIds')
    obtain rfl := Except.ok.inj (hshortId.symm.trans hshortId')
    exact h

/-- The URI of a document, and when its raw parts may stand in it. -/
theorem clean_buildShareUris {profile : ConfigProfile}
    (h : buildShareUris rnd profile configData host publicKey certFingerprint tag secure
      publicPort = .ok [uri]) :
    uri.Regular ∧
      (uri.Clean ↔ RawParts profile configData host publicKey certFingerprint tag secure) := by
  by_cases hprofile : profile = .hysteria2
  · subst hprofile
    obtain ⟨built, hbuilt, h⟩ := Except.bind_eq_ok_iff.mp h
    obtain ⟨rfl⟩ : built = uri := by simpa using h
    exact clean_buildHysteria2Uri hbuilt
  · rw [buildShareUris_xray hprofile] at h
    obtain ⟨inbound, hinbound, h⟩ := Except.bind_eq_ok_iff.mp h
    obtain ⟨port, -, h⟩ := Except.bind_eq_ok_iff.mp h
    obtain ⟨client, hclient, h⟩ := Except.bind_eq_ok_iff.mp h
    obtain ⟨clientId, hid, h⟩ := Except.bind_eq_ok_iff.mp h
    obtain ⟨built, hbuilt, h⟩ := Except.bind_eq_ok_iff.mp h
    obtain ⟨rfl⟩ : built = uri := by simpa using h
    have hclientId := rawClientId_iff hinbound hclient hid
    cases profile with
    | hysteria2 => exact absurd rfl hprofile
    | xrayReality =>
        obtain ⟨hregular, stream, reality, shortIds, shortId, client', flow, hstream, hreality,
          hshortIds, hshortId, hclient', hflow, hclean⟩ := clean_buildRealityUri hbuilt
        refine ⟨hregular, ?_⟩
        rw [hclean, RawParts, hclientId, rawFlow_iff hinbound hclient' hflow,
          rawShortId_iff hinbound hstream hreality hshortIds hshortId]
        exact and_left_comm
    | xrayXhttp =>
        obtain ⟨hregular, hclean⟩ := clean_buildXhttpUri hbuilt
        refine ⟨hregular, ?_⟩
        rw [hclean, RawParts, hclientId]
        exact and_left_comm
    | xrayGrpc =>
        obtain ⟨hregular, hclean⟩ := clean_buildGrpcUri hbuilt
        refine ⟨hregular, ?_⟩
        rw [hclean, RawParts, hclientId]
        exact and_left_comm

end Builders

/-! ## the response -/

/-- The lines of a text, each ended by a line feed. -/
def bodyLines (body : String) : List String :=
  ((body.toList.splitOn '\n').dropLast).map String.ofList

/-- A response has one line for each text of one line. -/
theorem bodyLines_shareBody {texts : List String}
    (h : ∀ text ∈ texts, text ≠ "" ∧ OneLine text.toList) :
    bodyLines (shareBody texts) = texts := by
  cases texts with
  | nil => decide
  | cons text texts =>
      have hfeed : ∀ cs ∈ (text :: texts).map String.toList, '\n' ∉ cs := by
        rw [List.forall_mem_map]
        intro t ht hmem
        have hbreak := (h t ht).2 _ hmem
        revert hbreak
        decide
      have hne : String.intercalate "\n" (text :: texts) ≠ "" := by
        have htext := (h text List.mem_cons_self).1
        cases texts with
        | nil => simpa using htext
        | cons next texts =>
            rw [String.intercalate_cons_cons, String.append_assoc]
            simp [htext]
      have hlist : (shareBody (text :: texts)).toList =
          ['\n'].intercalate ((text :: texts).map String.toList) ++ '\n' :: [] := by
        rw [shareBody, if_neg hne, String.toList_append, String.toList_intercalate]
        rfl
      rw [bodyLines, hlist, List.splitOn_append_cons_self,
        List.splitOn_intercalate _ hfeed (by simp), List.splitOn_nil, List.dropLast_concat,
        List.map_map]
      simp [Function.comp_def]

/-- **Share URIs are read back** where everything that is copied raw into them
may stand there, and only there. -/
theorem shareUris_roundTrip_iff {rnd : Nat} {profile : ConfigProfile} {configData : PyVal}
    {host publicKey certFingerprint tag : String} {secure : Bool} {publicPort : Option Nat}
    {uris : List ShareUri}
    (h : buildShareUris rnd profile configData host publicKey certFingerprint tag secure
      publicPort = .ok uris) :
    ((∀ uri ∈ uris, uri.RoundTrips) ∧
        bodyLines (shareBody (uris.map ShareUri.render)) = uris.map ShareUri.render) ↔
      RawParts profile configData host publicKey certFingerprint tag secure := by
  obtain ⟨uri, rfl⟩ := buildShareUris_singleton h
  obtain ⟨hregular, hclean⟩ := clean_buildShareUris h
  rw [List.forall_mem_singleton, roundTrips_iff hregular, ← hclean]
  refine and_iff_left_of_imp fun hu => bodyLines_shareBody ?_
  have hline := ((roundTrips_iff hregular).mpr hu).oneLine
  have hne : uri.render ≠ "" := by
    intro hempty
    have hlist := congrArg String.toList hempty
    rw [toList_render] at hlist
    simp [Parts.render] at hlist
  simpa using And.intro hne hline

/-- A Reality document of one client. -/
def flowDocument (flow : String) : PyVal :=
  .dict [("inbounds", .list [.dict [("tag", .str "vless"), ("port", .int 443),
    ("settings", .dict [("clients", .list [.dict [("id", .str "client"), ("flow", .str flow)]])]),
    ("streamSettings", .dict [("realitySettings", .dict [("dest", .str "a.example:443"),
      ("shortIds", .list [.str "0a"])])])]])]

/-- The URI of such a document. -/
theorem buildShareUris_flowDocument (flow : String) :
    ∃ uris, buildShareUris 0 .xrayReality (flowDocument flow) "vpn.example" "pbk" "" "vless" true
      none = .ok uris := ⟨_, rfl⟩

/-- What it copies raw besides the flow may stand there. -/
theorem rawParts_flowDocument_iff {flow : String} :
    RawParts .xrayReality (flowDocument flow) "vpn.example" "pbk" "" "vless" true ↔
      RawValue flow := by
  have hhost : RawHost "vpn.example" :=
    ⟨by decide, by decide, by decide⟩
  have hid : RawClientId (flowDocument flow) "vless" ↔ RawUser (PyVal.str "client").toStr :=
    rawClientId_iff rfl rfl rfl
  have hflow : RawFlow (flowDocument flow) "vless" ↔ RawValue (PyVal.str flow).toStr :=
    rawFlow_iff rfl rfl rfl
  have hshortId : RawShortId (flowDocument flow) "vless" ↔ RawValue (PyVal.str "0a").toStr :=
    rawShortId_iff rfl rfl rfl rfl rfl
  have hclient : RawUser "client" := ⟨by decide, isWord_raw (by decide)⟩
  have hwords : RawValue "pbk" ∧ RawValue "0a" :=
    ⟨rawValue_of_isWord (by decide), rawValue_of_isWord (by decide)⟩
  simp only [RawParts, hid, hflow, hshortId, PyVal.toStr, hhost, hclient, hwords, true_and,
    and_true]

/-- A flow without delimiters. -/
theorem roundTrips_of_plainFlow :
    RawValue "xtls-rprx-vision" ∧ ∃ uris,
      buildShareUris 0 .xrayReality (flowDocument "xtls-rprx-vision") "vpn.example" "pbk" "" "vless"
        true none = .ok uris ∧
      (∀ uri ∈ uris, uri.RoundTrips) ∧
      bodyLines (shareBody (uris.map ShareUri.render)) = uris.map ShareUri.render := by
  have hflow : RawValue "xtls-rprx-vision" := rawValue_of_isWord (by decide)
  obtain ⟨uris, huris⟩ := buildShareUris_flowDocument "xtls-rprx-vision"
  exact ⟨hflow, uris, huris,
    (shareUris_roundTrip_iff huris).mpr (rawParts_flowDocument_iff.mpr hflow)⟩

/-- The flow of an edited document with an ampersand. -/
theorem not_roundTrips_of_ampersand :
    (Submission.configData (.ofVal (flowDocument "none&sid=ff"))).parse .xrayReality =
        .ok (.ofVal (flowDocument "none&sid=ff")) ∧
      ∃ uris,
        buildShareUris 0 .xrayReality (flowDocument "none&sid=ff") "vpn.example" "pbk" "" "vless"
          true none = .ok uris ∧
        ¬ ∀ uri ∈ uris, uri.RoundTrips := by
  obtain ⟨uris, huris⟩ := buildShareUris_flowDocument "none&sid=ff"
  refine ⟨rfl, uris, huris, ?_⟩
  obtain ⟨uri, rfl⟩ := buildShareUris_singleton huris
  obtain ⟨hregular, hclean⟩ := clean_buildShareUris huris
  rw [List.forall_mem_singleton, roundTrips_iff hregular, hclean, rawParts_flowDocument_iff]
  intro hflow
  have hamp := hflow.1 '&' (by decide)
  revert hamp
  decide

end VpnPanel
