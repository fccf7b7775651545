import Mathlib.Data.List.Basic
import Mathlib.Data.List.TakeWhile

/-!
# VpnPanel.Lib.UriText

The generic reading of a URI: its parts by the characters that delimit them,
the pairs of its query and percent-decoding.  A decoded part is a list of
bytes, or the string these are the UTF-8 form of.

* `split_render` — the parts of a text without stray delimiters are read back;
* `isUser_or_truncated`, `isAuthorityHost_or_truncated` and `isValue_of_queryPairs` —
  with a stray delimiter one of them is read back truncated;
* `eq_of_percentDecode` — a piece of a text decodes to the text only where it
  is all of it and holds no escape.
-/

namespace UriText

/-! ## bytes -/

/-- The UTF-8 form. -/
def utf8 (cs : List Char) : List UInt8 := cs.flatMap String.utf8EncodeChar

@[simp] theorem utf8_nil : utf8 [] = [] := rfl

@[simp] theorem utf8_cons (c : Char) (cs : List Char) :
    utf8 (c :: cs) = String.utf8EncodeChar c ++ utf8 cs := rfl

theorem length_utf8EncodeChar_pos (c : Char) : 0 < (String.utf8EncodeChar c).length := by
  rw [String.length_utf8EncodeChar]
  exact Char.utf8Size_pos c

theorem length_utf8_le_of_sublist {xs ys : List Char} (h : xs.Sublist ys) :
    (utf8 xs).length ≤ (utf8 ys).length := by
  induction h with
  | slnil => exact Nat.le_refl _
  | cons c _ ih => simp only [utf8_cons, List.length_append]; omega
  | cons_cons c _ ih => simp only [utf8_cons, List.length_append]; omega

/-- A sublist with as many bytes is the whole list. -/
theorem eq_of_sublist_of_length_utf8 {xs ys : List Char} (h : xs.Sublist ys)
    (hlen : (utf8 ys).length ≤ (utf8 xs).length) : xs = ys := by
  induction h with
  | slnil => rfl
  | cons c hsub ih =>
      have hle := length_utf8_le_of_sublist hsub
      have hpos := length_utf8EncodeChar_pos c
      simp only [utf8_cons, List.length_append] at hlen
      omega
  | cons_cons c _ ih =>
      simp only [utf8_cons, List.length_append] at hlen
      rw [ih (by omega)]

/-- The string the bytes are the UTF-8 form of. -/
def text? (bytes : List UInt8) : Option String := String.fromUTF8? bytes.toByteArray

theorem toByteArray_eq (s : String) : s.toByteArray = (utf8 s.toList).toByteArray := by
  conv_lhs => rw [← String.ofList_toList (s := s)]
  rw [String.toByteArray_ofList]
  rfl

theorem text?_eq_some_iff {bytes : List UInt8} {s : String} :
    text? bytes = some s ↔ bytes = utf8 s.toList := by
  have hinj : bytes.toByteArray = s.toByteArray ↔ bytes = utf8 s.toList := by
    rw [toByteArray_eq]
    exact ⟨fun h => by simpa using congrArg (fun b : ByteArray => b.data.toList) h,
      fun h => by rw [h]⟩
  rw [← hinj, text?, String.fromUTF8?]
  split
  · rename_i hvalid
    rw [Option.some.injEq, ← String.toByteArray_inj]
    rfl
  · rename_i hvalid
    simp only [reduceCtorEq, false_iff]
    intro h
    exact hvalid (h ▸ s.isValidUTF8)

/-! ## percent-decoding -/

def hexValue (c : Char) : Option Nat :=
  if '0' ≤ c ∧ c ≤ '9' then some (c.toNat - 48)
  else if 'A' ≤ c ∧ c ≤ 'F' then some (c.toNat - 55)
  else if 'a' ≤ c ∧ c ≤ 'f' then some (c.toNat - 87)
  else none

/-- The byte three characters are the escape of. -/
def escape? (c a b : Char) : Option UInt8 :=
  if c = '%' then do
    let hi ← hexValue a
    let lo ← hexValue b
    some (UInt8.ofNat (16 * hi + lo))
  else none

/-- The bytes of a text: an escape stands for its byte, any other character for
its UTF-8 form. -/
def percentDecode : List Char → List UInt8
  | c :: a :: b :: cs =>
      match escape? c a b with
      | some byte => byte :: percentDecode cs
      | none => String.utf8EncodeChar c ++ percentDecode (a :: b :: cs)
  | cs => utf8 cs

/-- Whether a text holds an escape. -/
def hasEscape : List Char → Bool
  | c :: a :: b :: cs => (escape? c a b).isSome || hasEscape (a :: b :: cs)
  | _ => false

/-- A decoded part. -/
def decoded? (cs : List Char) : Option String := text? (percentDecode cs)

theorem escape?_of_ne {c : Char} (h : c ≠ '%') (a b : Char) : escape? c a b = none := if_neg h

theorem percentDecode_cons_of_ne {c : Char} (h : c ≠ '%') (cs : List Char) :
    percentDecode (c :: cs) = String.utf8EncodeChar c ++ percentDecode cs := by
  rcases cs with _ | ⟨a, _ | ⟨b, cs⟩⟩
  · rfl
  · rfl
  · rw [percentDecode, escape?_of_ne h]

theorem percentDecode_escape {c a b : Char} {byte : UInt8} (h : escape? c a b = some byte)
    (cs : List Char) : percentDecode (c :: a :: b :: cs) = byte :: percentDecode cs := by
  rw [percentDecode, h]

/-- A text written character by character, each so that it is read back. -/
theorem percentDecode_flatMap {f : Char → List Char}
    (hf : ∀ c cs, percentDecode (f c ++ cs) = String.utf8EncodeChar c ++ percentDecode cs)
    (cs : List Char) : percentDecode (cs.flatMap f) = utf8 cs := by
  induction cs with
  | nil => rfl
  | cons c cs ih => rw [List.flatMap_cons, hf, ih, utf8_cons]

theorem percentDecode_of_not_hasEscape {cs : List Char} (h : hasEscape cs = false) :
    percentDecode cs = utf8 cs := by
  induction cs using percentDecode.induct with
  | case1 c a b cs byte hbyte ih => simp [hasEscape, hbyte] at h
  | case2 c a b cs hnone ih =>
      rw [hasEscape, hnone] at h
      rw [percentDecode, hnone, utf8_cons, ← ih (by simpa using h)]
  | case3 cs hshort => rw [percentDecode]; exact hshort

theorem not_hasEscape_of_not_mem {cs : List Char} (h : '%' ∉ cs) : hasEscape cs = false := by
  induction cs using percentDecode.induct with
  | case1 c a b cs byte hbyte ih =>
      have hne : c ≠ '%' := by grind
      simp [escape?_of_ne hne] at hbyte
  | case2 c a b cs hnone ih =>
      rw [hasEscape, hnone, ih (by grind)]
      rfl
  | case3 cs hshort => rw [hasEscape]; exact hshort

/-- Decoding shortens a text where it holds an escape, and only there. -/
theorem length_percentDecode (cs : List Char) :
    (percentDecode cs).length ≤ (utf8 cs).length ∧
      (hasEscape cs = true → (percentDecode cs).length < (utf8 cs).length) := by
  induction cs using percentDecode.induct with
  | case1 c a b cs byte hbyte ih =>
      have hc := length_utf8EncodeChar_pos c
      have ha := length_utf8EncodeChar_pos a
      have hlt : (percentDecode (c :: a :: b :: cs)).length <
          (utf8 (c :: a :: b :: cs)).length := by
        rw [percentDecode_escape hbyte]
        simp only [utf8_cons, List.length_append, List.length_cons]
        have hle := ih.1
        omega
      exact ⟨Nat.le_of_lt hlt, fun _ => hlt⟩
  | case2 c a b cs hnone ih =>
      rw [hasEscape, percentDecode, hnone, utf8_cons]
      simp only [Option.isSome_none, Bool.false_or, List.length_append]
      exact ⟨Nat.add_le_add_left ih.1 _, fun h => Nat.add_lt_add_left (ih.2 h) _⟩
  | case3 cs hshort =>
      rw [percentDecode, hasEscape]
      · exact ⟨Nat.le_refl _, fun h => absurd h (by simp)⟩
      · exact hshort
      · exact hshort

/-- **A piece of a text** decodes to the text only where it is all of it and holds
no escape. -/
theorem eq_of_percentDecode {xs ys : List Char} (hsub : xs.Sublist ys)
    (h : percentDecode xs = utf8 ys) : xs = ys ∧ hasEscape ys = false := by
  obtain ⟨hle, hlt⟩ := length_percentDecode xs
  have hxs : xs = ys := eq_of_sublist_of_length_utf8 hsub (by rw [← h]; exact hle)
  subst hxs
  refine ⟨rfl, ?_⟩
  cases hesc : hasEscape xs with
  | false => rfl
  | true =>
      have hshort := hlt hesc
      rw [h] at hshort
      exact absurd hshort (Nat.lt_irrefl _)

theorem decoded?_eq_some_iff {cs : List Char} {s : String} :
    decoded? cs = some s ↔ percentDecode cs = utf8 s.toList := text?_eq_some_iff

/-- A text is its own decoding where it holds no escape. -/
theorem decoded?_toList_iff {s : String} :
    decoded? s.toList = some s ↔ hasEscape s.toList = false := by
  rw [decoded?_eq_some_iff]
  exact ⟨fun h => (eq_of_percentDecode (List.Sublist.refl _) h).2, percentDecode_of_not_hasEscape⟩

/-! ## cutting a text at a character -/

/-- A piece of a text that is not all of it. -/
def Truncated (xs ys : List Char) : Prop := xs.Sublist ys ∧ xs ≠ ys

/-- A truncated text does not decode to the whole. -/
theorem not_percentDecode_of_truncated {xs ys : List Char} (h : Truncated xs ys) :
    percentDecode xs ≠ utf8 ys :=
  fun hdec => h.2 (eq_of_percentDecode h.1 hdec).1

/-- A text that lacks a character at least. -/
theorem Truncated.of_sublist {xs ys : List Char} {c : Char} {zs : List Char}
    (h : xs.Sublist (ys ++ zs)) : Truncated xs (ys ++ c :: zs) := by
  have hlen := h.length_le
  refine ⟨h.trans ((List.sublist_cons_self c zs).append_left ys), fun heq => ?_⟩
  rw [heq, List.length_append, List.length_append, List.length_cons] at hlen
  omega

theorem Truncated.of_append_cons {xs ys : List Char} {c : Char} {zs : List Char}
    (h : xs.Sublist ys) : Truncated xs (ys ++ c :: zs) :=
  Truncated.of_sublist (h.trans (List.sublist_append_left _ _))

variable {p : Char → Bool}

theorem takeWhile_append_cons {xs : List Char} {c : Char} (hxs : ∀ x ∈ xs, p x = true)
    (hc : p c = false) (ys : List Char) : (xs ++ c :: ys).takeWhile p = xs := by
  rw [List.takeWhile_append_of_pos hxs, List.takeWhile_cons_of_neg (by simp [hc]), List.append_nil]

theorem dropWhile_append_cons {xs : List Char} {c : Char} (hxs : ∀ x ∈ xs, p x = true)
    (hc : p c = false) (ys : List Char) : (xs ++ c :: ys).dropWhile p = c :: ys := by
  rw [List.dropWhile_append_of_pos hxs, List.dropWhile_cons_of_neg (by simp [hc])]

/-- A text is cut at its first character without the property. -/
theorem all_or_cut (p : Char → Bool) (xs : List Char) :
    (∀ x ∈ xs, p x = true) ∨
      ∃ pre c post, xs = pre ++ c :: post ∧ (∀ x ∈ pre, p x = true) ∧ p c = false := by
  induction xs with
  | nil => exact Or.inl (by simp)
  | cons x xs ih =>
      cases hx : p x with
      | false => exact Or.inr ⟨[], x, xs, rfl, by simp, hx⟩
      | true =>
          obtain hall | ⟨pre, c, post, rfl, hpre, hc⟩ := ih
          · exact Or.inl (by simpa [hx] using hall)
          · exact Or.inr ⟨x :: pre, c, post, rfl, by simpa [hx] using hpre, hc⟩

/-! ## the authority -/

/-- The text before the last `@`; nothing where there is none. -/
def beforeLastAt (cs : List Char) : List Char :=
  ((cs.reverse.dropWhile (· ≠ '@')).drop 1).reverse

/-- The text after the last `@`; all of it where there is none. -/
def afterLastAt (cs : List Char) : List Char := (cs.reverse.takeWhile (· ≠ '@')).reverse

theorem forall_ne_of_not_mem {c : Char} {cs : List Char} (h : c ∉ cs) :
    ∀ x ∈ cs, decide (x ≠ c) = true := by
  intro x hx
  have hne : x ≠ c := fun he => h (he ▸ hx)
  simpa using hne

theorem beforeLastAt_append {xs : List Char} {ys : List Char} (h : '@' ∉ ys) :
    beforeLastAt (xs ++ '@' :: ys) = xs := by
  have hys := forall_ne_of_not_mem (List.mem_reverse.not.mpr h)
  have hrev : (xs ++ '@' :: ys).reverse = ys.reverse ++ '@' :: xs.reverse := by simp
  rw [beforeLastAt, hrev, dropWhile_append_cons hys (by decide)]
  simp

theorem afterLastAt_append {xs : List Char} {ys : List Char} (h : '@' ∉ ys) :
    afterLastAt (xs ++ '@' :: ys) = ys := by
  have hys := forall_ne_of_not_mem (List.mem_reverse.not.mpr h)
  have hrev : (xs ++ '@' :: ys).reverse = ys.reverse ++ '@' :: xs.reverse := by simp
  rw [afterLastAt, hrev, takeWhile_append_cons hys (by decide), List.reverse_reverse]

theorem beforeLastAt_sublist (cs : List Char) : (beforeLastAt cs).Sublist cs := by
  rw [← List.reverse_sublist, beforeLastAt, List.reverse_reverse]
  exact (List.drop_sublist _ _).trans (List.dropWhile_suffix _).sublist

/-- A text with an `@` has a last one. -/
theorem exists_last_at {cs : List Char} (h : '@' ∈ cs) :
    ∃ pre post, cs = pre ++ '@' :: post ∧ '@' ∉ post := by
  obtain ⟨as, bs, heq, has⟩ := List.eq_append_cons_of_mem (List.mem_reverse.mpr h)
  refine ⟨bs.reverse, as.reverse, ?_, by simpa using has⟩
  rw [← List.reverse_reverse cs, heq]
  simp

/-- What follows the last `@` follows any other. -/
theorem afterLastAt_sublist (xs ys : List Char) : (afterLastAt (xs ++ '@' :: ys)).Sublist ys := by
  by_cases h : '@' ∈ ys
  · obtain ⟨pre, post, rfl, hpost⟩ := exists_last_at h
    have hassoc : xs ++ '@' :: (pre ++ '@' :: post) = (xs ++ '@' :: pre) ++ '@' :: post := by simp
    rw [hassoc, afterLastAt_append hpost]
    exact (List.sublist_cons_self _ _).trans (List.sublist_append_right _ _)
  · rw [afterLastAt_append h]

/-- What may follow a host: nothing, or a colon and the port. -/
def splitPort (host : List Char) : List Char → Option (List Char × List Char)
  | [] => some (host, [])
  | c :: port => if c = ':' then some (host, port) else none

/-- Host and port of an authority: a host in brackets ends with them, any other
at the first colon. -/
def splitHost (cs : List Char) : Option (List Char × List Char) :=
  if cs.head? = some '[' then
    match cs.dropWhile (· ≠ ']') with
    | [] => none
    | c :: rest => splitPort (cs.takeWhile (· ≠ ']') ++ [c]) rest
  else splitPort (cs.takeWhile (· ≠ ':')) (cs.dropWhile (· ≠ ':'))

/-- A text that is read as a host without a port. -/
def IsHost (cs : List Char) : Prop := splitHost cs = some (cs, [])

instance (cs : List Char) : Decidable (IsHost cs) := inferInstanceAs (Decidable (_ = _))

theorem splitPort_eq_some {host rest x y : List Char} (h : splitPort host rest = some (x, y)) :
    x = host ∧ (rest = [] ∧ y = [] ∨ rest = ':' :: y) := by
  cases rest with
  | nil =>
      cases h
      exact ⟨rfl, Or.inl ⟨rfl, rfl⟩⟩
  | cons c port =>
      by_cases hc : c = ':'
      · rw [splitPort, if_pos hc] at h
        cases h
        exact ⟨rfl, Or.inr (by rw [hc])⟩
      · rw [splitPort, if_neg hc] at h
        cases h

theorem head?_append_colon {host port : List Char} :
    (host ++ ':' :: port).head? = some '[' ↔ host.head? = some '[' := by
  cases host with
  | nil => simp
  | cons c cs => simp

/-- A host in brackets. -/
theorem splitHost_bracket {inner : List Char} (h : inner.head? = some '[') (hinner : ']' ∉ inner)
    (rest : List Char) :
    splitHost (inner ++ ']' :: rest) = splitPort (inner ++ [']']) rest := by
  have hhead : (inner ++ ']' :: rest).head? = some '[' := by
    cases inner with
    | nil => simp at h
    | cons c cs => simpa using h
  have hall := forall_ne_of_not_mem hinner
  rw [splitHost, if_pos hhead, dropWhile_append_cons hall (by decide),
    takeWhile_append_cons hall (by decide)]

/-- Any other host. -/
theorem splitHost_plain {host : List Char} (h : host.head? ≠ some '[') (hhost : ':' ∉ host)
    (port : List Char) : splitHost (host ++ ':' :: port) = some (host, port) := by
  have hall := forall_ne_of_not_mem hhost
  rw [splitHost, if_neg (head?_append_colon.not.mpr h), dropWhile_append_cons hall (by decide),
    takeWhile_append_cons hall (by decide)]
  rfl

theorem isHost_bracket {inner : List Char} (h : inner.head? = some '[') (hinner : ']' ∉ inner) :
    IsHost (inner ++ [']']) := splitHost_bracket h hinner []

theorem isHost_plain {host : List Char} (h : host.head? ≠ some '[') (hhost : ':' ∉ host) :
    IsHost host := by
  have hall := forall_ne_of_not_mem hhost
  rw [IsHost, splitHost, if_neg h, List.takeWhile_eq_self_iff.mpr hall,
    List.dropWhile_eq_nil_iff.mpr hall]
  rfl

theorem head?_of_append_cons {pre : List Char} {c : Char} {post : List Char} (hc : c ≠ '[')
    (h : (pre ++ c :: post).head? = some '[') : pre.head? = some '[' := by
  cases pre with
  | nil => exact absurd (by simpa using h) hc
  | cons d ds => simpa using h

/-- What is read as the host is the host or a piece of it. -/
theorem isHost_or_truncated {host port x y : List Char} (hport : ']' ∉ port)
    (h : splitHost (host ++ ':' :: port) = some (x, y)) : IsHost host ∨ Truncated x host := by
  by_cases hhead : host.head? = some '['
  · obtain hall | ⟨inner, c, rest, rfl, hinner, hc⟩ := all_or_cut (· ≠ ']') host
    · -- without a closing bracket nothing is read
      have hnone : (host ++ ':' :: port).dropWhile (· ≠ ']') = [] := by
        rw [List.dropWhile_eq_nil_iff]
        intro d hd
        obtain hd | hd := List.mem_append.mp hd
        · exact hall d hd
        · have hne : d ≠ ']' := by grind
          simpa using hne
      rw [splitHost, if_pos (head?_append_colon.mpr hhead), hnone] at h
      cases h
    · obtain rfl : c = ']' := by simpa using hc
      have hin : ']' ∉ inner := fun hmem => by simpa using hinner _ hmem
      have hhead' := head?_of_append_cons (by decide) hhead
      rw [List.append_assoc, List.cons_append, splitHost_bracket hhead' hin] at h
      obtain ⟨rfl, -⟩ := splitPort_eq_some h
      cases rest with
      | nil => exact Or.inl (isHost_bracket hhead' hin)
      | cons d ds =>
          refine Or.inr ?_
          have hcut : inner ++ ']' :: d :: ds = (inner ++ [']']) ++ d :: ds := by simp
          rw [hcut]
          exact Truncated.of_append_cons (List.Sublist.refl _)
  · obtain hall | ⟨pre, c, post, rfl, hpre, hc⟩ := all_or_cut (· ≠ ':') host
    · have hin : ':' ∉ host := fun hmem => by simpa using hall _ hmem
      exact Or.inl (isHost_plain hhead hin)
    · obtain rfl : c = ':' := by simpa using hc
      rw [splitHost, if_neg (head?_append_colon.not.mpr hhead), List.append_assoc,
        List.cons_append, takeWhile_append_cons hpre hc] at h
      obtain ⟨rfl, -⟩ := splitPort_eq_some h
      exact Or.inr (Truncated.of_append_cons (List.Sublist.refl _))

/-- A host is read up to the colon before the port. -/
theorem splitHost_append {host port : List Char} (h : IsHost host) :
    splitHost (host ++ ':' :: port) = some (host, port) := by
  by_cases hhead : host.head? = some '['
  · obtain hall | ⟨inner, c, rest, rfl, hinner, hc⟩ := all_or_cut (· ≠ ']') host
    · rw [IsHost, splitHost, if_pos hhead, List.dropWhile_eq_nil_iff.mpr hall] at h
      cases h
    · obtain rfl : c = ']' := by simpa using hc
      have hin : ']' ∉ inner := fun hmem => by simpa using hinner _ hmem
      have hhead' := head?_of_append_cons (by decide) hhead
      rw [IsHost, splitHost_bracket hhead' hin] at h
      obtain ⟨heq, -⟩ := splitPort_eq_some h
      obtain rfl : rest = [] := by simpa using heq
      rw [List.append_assoc, List.cons_append, List.nil_append, splitHost_bracket hhead' hin]
      rfl
  · have hin : ':' ∉ host := by
      intro hmem
      obtain ⟨pre, post, rfl, hpre⟩ := List.eq_append_cons_of_mem hmem
      rw [IsHost, splitHost, if_neg hhead,
        takeWhile_append_cons (forall_ne_of_not_mem hpre) (by decide)] at h
      obtain ⟨heq, -⟩ := splitPort_eq_some h
      simp at heq
    exact splitHost_plain hhead hin port

/-- A host is a piece of the text it is read from. -/
theorem splitHost_sublist {cs x y : List Char} (h : splitHost cs = some (x, y)) :
    x.Sublist cs := by
  by_cases hhead : cs.head? = some '['
  · obtain hall | ⟨inner, c, rest, rfl, hinner, hc⟩ := all_or_cut (· ≠ ']') cs
    · rw [splitHost, if_pos hhead, List.dropWhile_eq_nil_iff.mpr hall] at h
      cases h
    · rw [splitHost, if_pos hhead, dropWhile_append_cons hinner hc,
        takeWhile_append_cons hinner hc] at h
      obtain ⟨rfl, -⟩ := splitPort_eq_some h
      obtain rfl : c = ']' := by simpa using hc
      exact List.Sublist.append_left (by simp) inner
  · rw [splitHost, if_neg hhead] at h
    obtain ⟨rfl, -⟩ := splitPort_eq_some h
    exact (List.takeWhile_prefix _).sublist

/-- The host before a port is read as a piece of that host. -/
theorem sublist_of_splitHost {host port x y : List Char} (hport : ']' ∉ port)
    (h : splitHost (host ++ ':' :: port) = some (x, y)) : x.Sublist host := by
  obtain hhost | htrunc := isHost_or_truncated hport h
  · rw [splitHost_append hhost] at h
    cases h
    exact List.Sublist.refl _
  · exact htrunc.1

/-! ## the parts of a URI -/

/-- The parts, none of them decoded; one that is absent is empty. -/
structure Parts where
  scheme : List Char
  userinfo : List Char
  host : List Char
  port : List Char
  path : List Char
  query : List Char
  fragment : List Char
  deriving DecidableEq, Repr

/-- The characters an authority ends at. -/
def endsAuthority (c : Char) : Bool := c = '/' || c = '?' || c = '#'

/-- The characters a path ends at. -/
def endsPath (c : Char) : Bool := c = '?' || c = '#'

/-- The parts of what follows the `//`. -/
def splitTail (scheme rest : List Char) : Option Parts :=
  let authority := rest.takeWhile (!endsAuthority ·)
  let pathOn := rest.dropWhile (!endsAuthority ·)
  let queryOn := pathOn.dropWhile (!endsPath ·)
  (splitHost (afterLastAt authority)).map fun (host, port) =>
    { scheme
      userinfo := beforeLastAt authority
      host, port
      path := pathOn.takeWhile (!endsPath ·)
      query := (queryOn.takeWhile (· ≠ '#')).drop 1
      fragment := (queryOn.dropWhile (· ≠ '#')).drop 1 }

/-- The parts of a text. -/
def split (text : List Char) : Option Parts :=
  match text.dropWhile (· ≠ ':') with
  | _ :: '/' :: '/' :: rest => splitTail (text.takeWhile (· ≠ ':')) rest
  | _ => none

/-- What follows the `//`. -/
def Parts.tail (p : Parts) : List Char :=
  p.userinfo ++ '@' :: (p.host ++ ':' :: (p.port ++ '?' :: (p.query ++ '#' :: p.fragment)))

/-- The text of a URI without a path. -/
def Parts.render (p : Parts) : List Char := p.scheme ++ ':' :: '/' :: '/' :: p.tail

/-- A scheme and a port as any URI has them. -/
structure Parts.Regular (p : Parts) : Prop where
  scheme : ':' ∉ p.scheme
  port : ∀ c ∈ p.port, endsAuthority c = false ∧ c ≠ '@' ∧ c ≠ ']'

/-- A user no delimiter stands in. -/
def IsUser (cs : List Char) : Prop := ∀ c ∈ cs, endsAuthority c = false

instance (cs : List Char) : Decidable (IsUser cs) := List.decidableBAll _ cs

/-- A host no delimiter stands in. -/
def IsAuthorityHost (cs : List Char) : Prop :=
  (∀ c ∈ cs, endsAuthority c = false ∧ c ≠ '@') ∧ IsHost cs

instance (cs : List Char) : Decidable (IsAuthorityHost cs) :=
  have := List.decidableBAll (fun c => endsAuthority c = false ∧ c ≠ '@') cs
  inferInstanceAs (Decidable (_ ∧ _))

variable {q r : Parts}

theorem split_render_eq (h : r.Regular) : split r.render = splitTail r.scheme r.tail := by
  have hscheme := forall_ne_of_not_mem h.scheme
  unfold split Parts.render
  rw [dropWhile_append_cons hscheme (by decide), takeWhile_append_cons hscheme (by decide)]
  rfl

/-- The parts of the authority. -/
theorem splitTail_authority {scheme rest authority : List Char}
    (hauthority : rest.takeWhile (!endsAuthority ·) = authority)
    (h : splitTail scheme rest = some q) :
    q.userinfo = beforeLastAt authority ∧
      splitHost (afterLastAt authority) = some (q.host, q.port) := by
  subst hauthority
  obtain ⟨⟨host, port⟩, hsplit, rfl⟩ := Option.map_eq_some_iff.mp h
  exact ⟨rfl, hsplit⟩

/-- The user is read back, or a piece of it. -/
theorem isUser_or_truncated (h : r.Regular) (hq : split r.render = some q) :
    IsUser r.userinfo ∨ Truncated q.userinfo r.userinfo := by
  rw [split_render_eq h] at hq
  obtain hall | ⟨pre, c, post, heq, hpre, hc⟩ := all_or_cut (!endsAuthority ·) r.userinfo
  · exact Or.inl fun c hc => by simpa using hall c hc
  · refine Or.inr ?_
    have htail : r.tail.takeWhile (!endsAuthority ·) = pre := by
      rw [Parts.tail, heq, List.append_assoc, List.cons_append, takeWhile_append_cons hpre hc]
    rw [(splitTail_authority htail hq).1, heq]
    exact Truncated.of_append_cons (beforeLastAt_sublist pre)

/-- The authority of a rendered URI. -/
theorem authority_of_isUser (h : r.Regular) (huser : IsUser r.userinfo)
    (hhost : ∀ c ∈ r.host, endsAuthority c = false) :
    r.tail.takeWhile (!endsAuthority ·) = r.userinfo ++ '@' :: (r.host ++ ':' :: r.port) ∧
      r.tail.dropWhile (!endsAuthority ·) = '?' :: (r.query ++ '#' :: r.fragment) := by
  have hall : ∀ c ∈ r.userinfo ++ '@' :: (r.host ++ ':' :: r.port),
      (!endsAuthority c) = true := by
    intro c hc
    have hport := h.port c
    have hat : endsAuthority '@' = false := rfl
    have hcolon : endsAuthority ':' = false := rfl
    grind [IsUser]
  have htail : r.tail = (r.userinfo ++ '@' :: (r.host ++ ':' :: r.port)) ++
      '?' :: (r.query ++ '#' :: r.fragment) := by simp [Parts.tail]
  rw [htail]
  exact ⟨takeWhile_append_cons hall rfl _, dropWhile_append_cons hall rfl _⟩

/-- After a user without delimiters the host is read back, or a piece of it. -/
theorem isAuthorityHost_or_truncated (h : r.Regular) (huser : IsUser r.userinfo)
    (hq : split r.render = some q) : IsAuthorityHost r.host ∨ Truncated q.host r.host := by
  rw [split_render_eq h] at hq
  have hbracket : ']' ∉ r.port := fun hmem => (h.port _ hmem).2.2 rfl
  obtain hall | ⟨pre, c, post, heq, hpre, hc⟩ := all_or_cut (!endsAuthority ·) r.host
  · have hends : ∀ c ∈ r.host, endsAuthority c = false := fun c hc => by simpa using hall c hc
    have hsplit := (splitTail_authority (authority_of_isUser h huser hends).1 hq).2
    have hat : '@' ∉ ':' :: r.port := by
      have hport := h.port '@'
      grind
    by_cases hmem : '@' ∈ r.host
    · -- what is read as the host begins after the last `@`
      obtain ⟨pre, post, heq, hpost⟩ := exists_last_at hmem
      have hauthority : r.userinfo ++ '@' :: (r.host ++ ':' :: r.port) =
          (r.userinfo ++ '@' :: pre) ++ '@' :: (post ++ ':' :: r.port) := by simp [heq]
      have hlast : '@' ∉ post ++ ':' :: r.port := by grind
      rw [hauthority, afterLastAt_append hlast] at hsplit
      have hsub := sublist_of_splitHost hbracket hsplit
      rw [heq]
      exact Or.inr (Truncated.of_sublist (hsub.trans (List.sublist_append_right _ _)))
    · have hlast : '@' ∉ r.host ++ ':' :: r.port := by grind
      rw [afterLastAt_append hlast] at hsplit
      obtain hhost | htrunc := isHost_or_truncated hbracket hsplit
      · exact Or.inl ⟨fun c hc => ⟨hends c hc, fun hce => hmem (hce ▸ hc)⟩, hhost⟩
      · exact Or.inr htrunc
  · -- the authority ends within the host
    have htail : r.tail = (r.userinfo ++ '@' :: pre) ++
        c :: (post ++ ':' :: (r.port ++ '?' :: (r.query ++ '#' :: r.fragment))) := by
      simp [Parts.tail, heq]
    have hclear : ∀ d ∈ r.userinfo ++ '@' :: pre, (!endsAuthority d) = true := by
      have hat : endsAuthority '@' = false := rfl
      grind [IsUser]
    have hsplit := (splitTail_authority (by rw [htail, takeWhile_append_cons hclear hc]) hq).2
    have hsub := (splitHost_sublist hsplit).trans (afterLastAt_sublist r.userinfo pre)
    rw [heq]
    exact Or.inr (Truncated.of_append_cons hsub)

/-- **The parts are read back** where no delimiter stands in user and host; the
query ends at its first `#`. -/
theorem split_render (h : r.Regular) (huser : IsUser r.userinfo)
    (hhost : IsAuthorityHost r.host) :
    split r.render = some { r with
      path := []
      query := (r.query ++ '#' :: r.fragment).takeWhile (· ≠ '#')
      fragment := ((r.query ++ '#' :: r.fragment).dropWhile (· ≠ '#')).drop 1 } := by
  obtain ⟨htake, hdrop⟩ := authority_of_isUser h huser fun c hc => (hhost.1 c hc).1
  have hat : '@' ∉ r.host ++ ':' :: r.port := by
    intro hmem
    have hport := h.port '@'
    have hhost := hhost.1 '@'
    grind
  rw [split_render_eq h, splitTail, htake, hdrop, afterLastAt_append hat, beforeLastAt_append hat,
    splitHost_append hhost.2]
  rfl

/-! ## the query -/

/-- A name and a value, not decoded. -/
abbrev Pair := List Char × List Char

/-- The pairs of a query: between `&`, name and value at the first `=`. -/
def queryPairs (query : List Char) : List Pair :=
  (query.splitOn '&').map fun piece =>
    (piece.takeWhile (· ≠ '='), (piece.dropWhile (· ≠ '=')).drop 1)

def Pair.render (pair : Pair) : List Char := pair.1 ++ '=' :: pair.2

/-- The query of some pairs. -/
def renderPairs (pairs : List Pair) : List Char := ['&'].intercalate (pairs.map Pair.render)

def endsPair (c : Char) : Bool := c = '&' || c = '#'

/-- A value no delimiter stands in. -/
def IsValue (cs : List Char) : Prop := ∀ c ∈ cs, endsPair c = false

instance (cs : List Char) : Decidable (IsValue cs) := List.decidableBAll _ cs

/-- A name as any query has them. -/
def IsName (cs : List Char) : Prop := ∀ c ∈ cs, endsPair c = false ∧ c ≠ '='

@[simp] theorem renderPairs_singleton (pair : Pair) : renderPairs [pair] = pair.render := by
  simp [renderPairs]

theorem renderPairs_cons_cons (pair next : Pair) (pairs : List Pair) :
    renderPairs (pair :: next :: pairs) = pair.render ++ '&' :: renderPairs (next :: pairs) := by
  simp [renderPairs, List.intercalate_cons_cons]

theorem exists_renderPairs_cons (pair : Pair) (pairs : List Pair) :
    ∃ more, renderPairs (pair :: pairs) = pair.render ++ more := by
  cases pairs with
  | nil => exact ⟨[], by simp⟩
  | cons next pairs => exact ⟨_, renderPairs_cons_cons pair next pairs⟩

theorem pair_of_piece {name : List Char} (hname : IsName name) (value : List Char) :
    ((name ++ '=' :: value).takeWhile (· ≠ '='),
      ((name ++ '=' :: value).dropWhile (· ≠ '=')).drop 1) = (name, value) := by
  have hall := forall_ne_of_not_mem (c := '=') fun hmem => (hname _ hmem).2 rfl
  rw [takeWhile_append_cons hall (by decide), dropWhile_append_cons hall (by decide)]
  rfl

theorem not_mem_piece {name value : List Char} (hname : IsName name) (hvalue : IsValue value) :
    '&' ∉ name ++ '=' :: value := by
  have hamp : endsPair '&' = true := rfl
  grind [IsName, IsValue]

/-- A single pair. -/
theorem queryPairs_single {name value : List Char} (hname : IsName name) (hvalue : IsValue value) :
    queryPairs (name ++ '=' :: value) = [(name, value)] := by
  rw [queryPairs, List.splitOn_eq_singleton (not_mem_piece hname hvalue), List.map_singleton,
    pair_of_piece hname]

/-- A pair and what follows it. -/
theorem queryPairs_cons {name value : List Char} (hname : IsName name) (hvalue : IsValue value)
    (rest : List Char) :
    queryPairs (name ++ '=' :: (value ++ '&' :: rest)) = (name, value) :: queryPairs rest := by
  have hassoc : name ++ '=' :: (value ++ '&' :: rest) = (name ++ '=' :: value) ++ '&' :: rest := by
    simp
  rw [hassoc, queryPairs,
    List.splitOn_append_cons_self_of_not_mem (not_mem_piece hname hvalue), List.map_cons,
    pair_of_piece hname]
  rfl

/-- **The pairs are read back** where no delimiter stands in a value. -/
theorem queryPairs_renderPairs {pairs : List Pair} (hne : pairs ≠ [])
    (h : ∀ pair ∈ pairs, IsName pair.1 ∧ IsValue pair.2) :
    queryPairs (renderPairs pairs) = pairs := by
  induction pairs with
  | nil => exact absurd rfl hne
  | cons pair pairs ih =>
      obtain ⟨hname, hvalue⟩ := h pair List.mem_cons_self
      cases pairs with
      | nil => rw [renderPairs_singleton, Pair.render, queryPairs_single hname hvalue]
      | cons next pairs =>
          rw [renderPairs_cons_cons, Pair.render, List.append_assoc, List.cons_append,
            queryPairs_cons hname hvalue,
            ih (by simp) fun pair hpair => h pair (List.mem_cons_of_mem _ hpair)]

/-- No `#` stands in a query without delimiters in its values. -/
theorem not_mem_renderPairs {pairs : List Pair}
    (h : ∀ pair ∈ pairs, IsName pair.1 ∧ IsValue pair.2) : '#' ∉ renderPairs pairs := by
  have hhash : endsPair '#' = true := rfl
  induction pairs with
  | nil => simp [renderPairs]
  | cons pair pairs ih =>
      obtain ⟨hname, hvalue⟩ := h pair List.mem_cons_self
      have hpair : '#' ∉ pair.render := by
        unfold Pair.render
        grind [IsName, IsValue]
      have hrest := ih fun pair hpair => h pair (List.mem_cons_of_mem _ hpair)
      cases pairs with
      | nil => simpa using hpair
      | cons next pairs =>
          rw [renderPairs_cons_cons]
          grind

theorem forall_ne_hash {name value : List Char} (hname : IsName name) (hvalue : IsValue value) :
    ∀ c ∈ name ++ '=' :: value, decide (c ≠ '#') = true := by
  have hhash : endsPair '#' = true := rfl
  simp only [decide_eq_true_eq]
  grind [IsName, IsValue]

/-- **A value with a delimiter is truncated**: where none is, none of them holds
one. -/
theorem isValue_of_queryPairs {pairs read : List Pair} {fragment : List Char}
    (hname : ∀ pair ∈ pairs, IsName pair.1)
    (hread : queryPairs ((renderPairs pairs ++ '#' :: fragment).takeWhile (· ≠ '#')) = read)
    (h : List.Forall₂ (fun pair got => ¬ IsValue pair.2 → ¬ Truncated got.2 pair.2) pairs read) :
    ∀ pair ∈ pairs, IsValue pair.2 := by
  induction h with
  | nil => simp
  | @cons pair got pairs read hgot hrest ih =>
      have hpair := hname pair List.mem_cons_self
      obtain hall | ⟨pre, c, post, heq, hpre, hc⟩ := all_or_cut (!endsPair ·) pair.2
      · have hvalue : IsValue pair.2 := fun c hc => by simpa using hall c hc
        have hmore : ∀ pair ∈ pairs, IsValue pair.2 := by
          cases pairs with
          | nil => simp
          | cons next pairs =>
              have htext : renderPairs (pair :: next :: pairs) ++ '#' :: fragment =
                  (pair.1 ++ '=' :: pair.2) ++
                    '&' :: (renderPairs (next :: pairs) ++ '#' :: fragment) := by
                simp [renderPairs_cons_cons, Pair.render]
              rw [htext, List.takeWhile_append_of_pos (forall_ne_hash hpair hvalue),
                List.takeWhile_cons_of_pos (by decide), List.append_assoc, List.cons_append,
                queryPairs_cons hpair hvalue] at hread
              exact ih (fun pair h => hname pair (List.mem_cons_of_mem _ h))
                (List.cons.inj hread).2
        exact List.forall_mem_cons.mpr ⟨hvalue, hmore⟩
      · -- the first pair that is read ends at the delimiter
        obtain ⟨more, hmore⟩ := exists_renderPairs_cons pair pairs
        have hvalue : IsValue pre := fun c hc => by simpa using hpre c hc
        have hgot' : got.2 = pre := by
          have htext : renderPairs (pair :: pairs) ++ '#' :: fragment =
              (pair.1 ++ '=' :: pre) ++ c :: (post ++ (more ++ '#' :: fragment)) := by
            simp [hmore, Pair.render, heq]
          have hends : c = '&' ∨ c = '#' := by
            unfold endsPair at hc
            grind
          rw [htext] at hread
          obtain rfl | rfl := hends
          · rw [List.takeWhile_append_of_pos (forall_ne_hash hpair hvalue),
              List.takeWhile_cons_of_pos (by decide), List.append_assoc, List.cons_append,
              queryPairs_cons hpair hvalue] at hread
            rw [← (List.cons.inj hread).1]
          · rw [takeWhile_append_cons (forall_ne_hash hpair hvalue) (by decide),
              queryPairs_single hpair hvalue] at hread
            rw [← (List.cons.inj hread).1]
        have hcut : ¬ IsValue pair.2 := by
          intro hall
          have hends := hall c (by simp [heq])
          simp [hends] at hc
        refine absurd ?_ (hgot hcut)
        rw [hgot', heq]
        exact Truncated.of_append_cons (List.Sublist.refl _)

end UriText
