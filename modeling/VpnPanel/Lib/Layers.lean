import VpnPanel.Lib.PyVal

/-!
# VpnPanel.Lib.Layers

Strings sealed where paths lead to, layer by layer.

A document has strings at places, and a path leads to at most one place,
whatever the strings are.  One round replaces the non-empty string a path leads
to; sealing makes a round for each path of a list, and unsealing one for each
path again.  So a string gets a layer for each path that leads to it, and the
layers come off, whatever the paths have in common.

* `Cipher` — how a string is sealed and unsealed;
* `Places` — documents, their places and a round;
* `sealAll_eq_ok_iff`, `unsealAll_layers` — what the rounds of a list of paths
  do;
* `unsealAll_sealed` — the document comes back.
-/

/-- What seals strings.  A string that cannot be written raises. -/
structure Cipher (ε : Type) where
  /-- The error of a string that cannot be written. -/
  refusal : String → Option ε
  /-- The sealed string, made with a random part. -/
  token : Nat → String → String
  reveal : String → Except ε String
  token_ne_empty : ∀ nonce s, token nonce s ≠ ""
  refusal_token : ∀ nonce s, refusal s = none → refusal (token nonce s) = none
  reveal_token : ∀ nonce s, refusal s = none → reveal (token nonce s) = .ok s

namespace Cipher

variable {ε : Type} (c : Cipher ε)

def sealed (nonce : Nat) (s : String) : Except ε String :=
  match c.refusal s with
  | some e => .error e
  | none => .ok (c.token nonce s)

/-- A string sealed once for each of the random parts; the empty string is
left. -/
def sealString (nonces : List Nat) (s : String) : String :=
  if s = "" then s else nonces.foldl (fun t nonce => c.token nonce t) s

variable {c} {nonces : List Nat} {s : String}

theorem sealString_ne_empty (hs : s ≠ "") : c.sealString nonces s ≠ "" := by
  rw [sealString, if_neg hs]
  induction nonces generalizing s with
  | nil => exact hs
  | cons nonce nonces ih => exact ih (c.token_ne_empty nonce s)

theorem sealString_cons {nonce : Nat} (hs : s ≠ "") :
    c.sealString (nonce :: nonces) s = c.sealString nonces (c.token nonce s) := by
  simp [sealString, hs, c.token_ne_empty]

/-- The last layer. -/
theorem sealString_getLast (hne : nonces ≠ []) (hs : s ≠ "") :
    c.sealString nonces s =
      c.token (nonces.getLast hne) (c.sealString nonces.dropLast s) := by
  have hsplit := List.dropLast_append_getLast hne
  calc c.sealString nonces s
      = (nonces.dropLast ++ [nonces.getLast hne]).foldl (fun t n => c.token n t) s := by
        rw [hsplit, sealString, if_neg hs]
    _ = c.token (nonces.getLast hne) (c.sealString nonces.dropLast s) := by
        rw [List.foldl_append, sealString, if_neg hs]
        rfl

/-- A sealed string can be written. -/
theorem refusal_sealString (hw : c.refusal s = none) :
    c.refusal (c.sealString nonces s) = none := by
  have hfold (nonces : List Nat) : ∀ t : String, c.refusal t = none →
      c.refusal (nonces.foldl (fun t nonce => c.token nonce t) t) = none := by
    induction nonces with
    | nil => exact fun t ht => ht
    | cons nonce nonces ih => exact fun t ht => ih _ (c.refusal_token nonce t ht)
  unfold sealString
  split
  · exact hw
  · exact hfold nonces s hw

theorem sealed_eq_ok (nonce : Nat) (hw : c.refusal s = none) :
    c.sealed nonce s = .ok (c.token nonce s) := by
  rw [sealed, hw]

/-- The last layer comes off. -/
theorem reveal_sealString (hne : nonces ≠ []) (hs : s ≠ "") (hw : c.refusal s = none) :
    c.reveal (c.sealString nonces s) = .ok (c.sealString nonces.dropLast s) := by
  rw [sealString_getLast hne hs, c.reveal_token _ _ (refusal_sealString hw)]

/-- Sealed strings are longer than what they seal. -/
def Lengthens (c : Cipher ε) : Prop := ∀ nonce s, s.length < (c.token nonce s).length

/-- A string with a layer is another. -/
theorem sealString_eq_self_iff (hlong : c.Lengthens) (hs : s ≠ "") :
    c.sealString nonces s = s ↔ nonces = [] := by
  have hlonger (nonces : List Nat) : ∀ t : String,
      t.length + nonces.length ≤ (nonces.foldl (fun t n => c.token n t) t).length := by
    induction nonces with
    | nil => simp
    | cons nonce nonces ih =>
        intro t
        have hfirst := hlong nonce t
        have hrest := ih (c.token nonce t)
        rw [List.foldl_cons, List.length_cons]
        omega
  constructor
  · intro heq
    have hlength := hlonger nonces s
    rw [sealString, if_neg hs] at heq
    rw [heq] at hlength
    exact List.length_eq_zero_iff.mp (by omega)
  · intro hnil
    rw [hnil, sealString]
    exact ite_self s

end Cipher

/-- Documents with strings at places that paths lead to. -/
structure Places (ε D Path Place : Type) [DecidableEq Place] where
  /-- The string at a place. -/
  text : D → Place → Option String
  /-- Every string replaced by what a function makes of its place and itself. -/
  map : (Place → String → String) → D → D
  text_map : ∀ g d p, text (map g d) p = (text d p).map (g p)
  map_map : ∀ g g' d, map g' (map g d) = map (fun p s => g' p (g p s)) d
  map_congr : ∀ g g' d, (∀ p s, text d p = some s → g p s = g' p s) → map g d = map g' d
  map_id : ∀ d, map (fun _ s => s) d = d
  /-- The place a path leads to. -/
  locate : Path → D → Option Place
  locate_map : ∀ g path d, locate path (map g d) = locate path d
  /-- A round. -/
  replace : (String → Except ε String) → Path → D → Except ε D
  replace_none : ∀ f path d, (∀ p s, locate path d = some p → text d p = some s → s = "") →
    replace f path d = .ok d
  replace_some : ∀ f path d p s, locate path d = some p → text d p = some s → s ≠ "" →
    replace f path d = (f s).map fun s' => map (fun q t => if q = p then s' else t) d

namespace Places

variable {ε D Path Place : Type} [DecidableEq Place] (P : Places ε D Path Place) (c : Cipher ε)

/-- A round that seals for each of the paths; each draws its own random part. -/
def sealAll (nonce : Nat) : List Path → D → Except ε D
  | [], d => .ok d
  | path :: paths, d => do
      let d' ← P.replace (c.sealed nonce) path d
      sealAll (nonce + 1) paths d'

/-- A round that unseals for each of the paths. -/
def unsealAll : List Path → D → Except ε D
  | [], d => .ok d
  | path :: paths, d => do
      let d' ← P.replace c.reveal path d
      unsealAll paths d'

/-- The random parts of the paths that lead to a place, in order. -/
def layers (d : D) (p : Place) : Nat → List Path → List Nat
  | _, [] => []
  | nonce, path :: paths =>
      if P.locate path d = some p then nonce :: layers d p (nonce + 1) paths
      else layers d p (nonce + 1) paths

/-- The document with a layer on each non-empty string for each path that leads
to it. -/
def sealedDocument (nonce : Nat) (paths : List Path) (d : D) : D :=
  P.map (fun p s => c.sealString (P.layers d p nonce paths) s) d

/-- The document without the strings the paths lead to. -/
def blank (paths : List Path) (d : D) : D :=
  P.map (fun p s => if P.layers d p 0 paths = [] then s else "") d

/-- One of the paths leads to the place. -/
def Listed (paths : List Path) (d : D) (p : Place) : Prop :=
  ∃ path ∈ paths, P.locate path d = some p

/-- The strings the paths lead to can be written. -/
def Writable (paths : List Path) (d : D) : Prop :=
  ∀ p s, P.Listed paths d p → P.text d p = some s → s ≠ "" → c.refusal s = none

variable {P c} {d d' : D} {p : Place} {s : String} {paths : List Path} {nonce : Nat}

/-- Strings that keep what they are. -/
theorem map_eq_self {g : Place → String → String}
    (h : ∀ p s, P.text d p = some s → g p s = s) : P.map g d = d := by
  rw [P.map_congr g (fun _ s => s) d h, P.map_id]

/-! ## layers -/

@[simp] theorem layers_map (g : Place → String → String) (d : D) (p : Place) (nonce : Nat)
    (paths : List Path) : P.layers (P.map g d) p nonce paths = P.layers d p nonce paths := by
  induction paths generalizing nonce with
  | nil => rfl
  | cons path paths ih => simp [layers, ih, P.locate_map]

theorem length_layers (d : D) (p : Place) (nonce : Nat) (paths : List Path) :
    (P.layers d p nonce paths).length = paths.countP fun path => P.locate path d = some p := by
  induction paths generalizing nonce with
  | nil => rfl
  | cons path paths ih =>
      rw [layers, List.countP_cons]
      split <;> simp_all

theorem layers_eq_nil_iff : P.layers d p nonce paths = [] ↔ ¬ P.Listed paths d p := by
  rw [← List.length_eq_zero_iff, length_layers, List.countP_eq_zero]
  simp [Listed]

theorem text_sealedDocument (hs : P.text d p = some s) :
    P.text (P.sealedDocument c nonce paths d) p =
      some (c.sealString (P.layers d p nonce paths) s) := by
  rw [sealedDocument, P.text_map, hs, Option.map_some]

/-- A listed string is sealed. -/
theorem text_sealedDocument_of_listed (hs : P.text d p = some s) (hlisted : P.Listed paths d p)
    (hne : s ≠ "") : ∃ n t, P.text (P.sealedDocument c nonce paths d) p = some (c.token n t) := by
  have hlayers : P.layers d p nonce paths ≠ [] := fun hnil => layers_eq_nil_iff.mp hnil hlisted
  exact ⟨_, _, by rw [text_sealedDocument hs, Cipher.sealString_getLast hlayers hne]⟩

/-- The other strings are left. -/
theorem text_sealedDocument_of_not (hs : P.text d p = some s)
    (hnot : ¬ (P.Listed paths d p ∧ s ≠ "")) :
    P.text (P.sealedDocument c nonce paths d) p = some s := by
  rw [text_sealedDocument hs, Cipher.sealString]
  split
  · rfl
  · next hne =>
    have hnil : P.layers d p nonce paths = [] :=
      layers_eq_nil_iff.mpr fun hlisted => hnot ⟨hlisted, hne⟩
    rw [hnil]
    rfl

/-! ## sealing -/

/-- A round on strings that can be written puts a layer on the one its path
leads to. -/
theorem sealed_round (path : Path)
    (hwritable : ∀ p s, P.locate path d = some p → P.text d p = some s → s ≠ "" →
      c.refusal s = none) :
    P.replace (c.sealed nonce) path d = .ok (P.map (fun p s =>
      if P.locate path d = some p ∧ s ≠ "" then c.token nonce s else s) d) := by
  by_cases hsome : ∃ p s, P.locate path d = some p ∧ P.text d p = some s ∧ s ≠ ""
  · obtain ⟨p, s, hp, hs, hne⟩ := hsome
    rw [P.replace_some _ _ _ p s hp hs hne, Cipher.sealed_eq_ok nonce (hwritable p s hp hs hne),
      Except.map]
    refine congrArg Except.ok (P.map_congr _ _ d fun q t ht => ?_)
    by_cases hq : q = p
    · subst hq
      obtain rfl : s = t := Option.some.inj (hs.symm.trans ht)
      rw [if_pos rfl, if_pos ⟨hp, hne⟩]
    · rw [if_neg hq, if_neg fun hand => hq (Option.some.inj (hand.1.symm.trans hp))]
  · have hempty : ∀ p s, P.locate path d = some p → P.text d p = some s → s = "" := by
      intro p s hp hs
      by_contra hne
      exact hsome ⟨p, s, hp, hs, hne⟩
    rw [P.replace_none _ _ _ hempty, map_eq_self]
    exact fun p s hs => if_neg fun hand => hand.2 (hempty p s hand.1 hs)

/-- **What sealing does**: a layer on a string for each path that leads to it,
and nothing else; it raises where such a string cannot be written. -/
theorem sealAll_eq_ok_iff :
    P.sealAll c nonce paths d = .ok d' ↔
      P.Writable c paths d ∧ P.sealedDocument c nonce paths d = d' := by
  induction paths generalizing nonce d with
  | nil =>
      have hid : P.sealedDocument c nonce [] d = d :=
        map_eq_self fun p s _ => by simp [layers, Cipher.sealString]
      simp [sealAll, hid, Writable, Listed]
  | cons path paths ih =>
      have hround (hhead : ∀ p s, P.locate path d = some p → P.text d p = some s → s ≠ "" →
          c.refusal s = none) :
          P.sealAll c nonce (path :: paths) d = .ok d' ↔ P.Writable c (path :: paths) d ∧
            P.sealedDocument c nonce (path :: paths) d = d' := by
        rw [sealAll, sealed_round path hhead, Except.ok_bind_eq, ih]
        refine and_congr ⟨fun h p s hlisted hs hne => ?_, fun h p s hlisted hs hne => ?_⟩ ?_
        · -- the round has sealed the string of the first path
          obtain ⟨path', hmem, hp⟩ := hlisted
          obtain rfl | hmem := List.mem_cons.mp hmem
          · exact hhead p s hp hs hne
          · by_cases hfirst : P.locate path d = some p
            · exact hhead p s hfirst hs hne
            · refine h p s ⟨path', hmem, by rw [P.locate_map, hp]⟩ ?_ hne
              rw [P.text_map, hs, Option.map_some, if_neg fun hand => hfirst hand.1]
        · obtain ⟨path', hmem, hp⟩ := hlisted
          rw [P.locate_map] at hp
          rw [P.text_map, Option.map_eq_some_iff] at hs
          obtain ⟨t, ht, rfl⟩ := hs
          split
          · next hand => exact c.refusal_token _ _ (hhead p t hand.1 ht hand.2)
          · next hnot =>
            rw [if_neg hnot] at hne
            exact h p t ⟨path', List.mem_cons_of_mem _ hmem, hp⟩ ht hne
        · rw [sealedDocument, P.map_map, sealedDocument]
          refine Eq.congr_left (P.map_congr _ _ d fun p s _ => ?_)
          simp only [layers_map, layers]
          by_cases hs : s = ""
          · simp [hs, Cipher.sealString]
          · by_cases hp : P.locate path d = some p
            · rw [if_pos ⟨hp, hs⟩, if_pos hp, Cipher.sealString_cons hs]
            · rw [if_neg (fun hand => hp hand.1), if_neg hp]
      by_cases hhead : ∀ p s, P.locate path d = some p → P.text d p = some s → s ≠ "" →
          c.refusal s = none
      · exact hround hhead
      · push Not at hhead
        obtain ⟨p, s, hp, hs, hne, hraises⟩ := hhead
        refine iff_of_false ?_ fun h => hraises (h.1 p s ⟨path, by simp, hp⟩ hs hne)
        obtain ⟨e, he⟩ := Option.ne_none_iff_exists'.mp hraises
        rw [sealAll, P.replace_some _ _ _ p s hp hs hne, Cipher.sealed, he]
        intro h
        cases h

/-! ## unsealing -/

/-- The layers that are left after the round of a path. -/
def peel (P : Places ε D Path Place) (d : D) (path : Path) (nonces : Place → List Nat)
    (p : Place) : List Nat :=
  if P.locate path d = some p then (nonces p).dropLast else nonces p

/-- A round that unseals takes the last layer off. -/
theorem reveal_round (path : Path) (nonces : Place → List Nat)
    (hne : ∀ p s, P.locate path d = some p → P.text d p = some s → s ≠ "" →
      nonces p ≠ [] ∧ c.refusal s = none) :
    P.replace c.reveal path (P.map (fun p s => c.sealString (nonces p) s) d) =
      .ok (P.map (fun p s => c.sealString (P.peel d path nonces p) s) d) := by
  by_cases hsome : ∃ p s, P.locate path d = some p ∧ P.text d p = some s ∧ s ≠ ""
  · obtain ⟨p, s, hp, hs, hs'⟩ := hsome
    obtain ⟨hlayers, hwritable⟩ := hne p s hp hs hs'
    rw [P.replace_some _ _ _ p (c.sealString (nonces p) s) (by rw [P.locate_map, hp])
      (by rw [P.text_map, hs, Option.map_some]) (Cipher.sealString_ne_empty hs'),
      Cipher.reveal_sealString hlayers hs' hwritable, Except.map, P.map_map]
    refine congrArg Except.ok (P.map_congr _ _ d fun q t ht => ?_)
    by_cases hq : q = p
    · subst hq
      obtain rfl : s = t := Option.some.inj (hs.symm.trans ht)
      rw [if_pos rfl, peel, if_pos hp]
    · rw [if_neg hq, peel, if_neg fun hq' => hq (Option.some.inj (hq'.symm.trans hp))]
  · have hempty : ∀ p s, P.locate path d = some p → P.text d p = some s → s = "" := by
      intro p s hp hs
      by_contra hne
      exact hsome ⟨p, s, hp, hs, hne⟩
    rw [P.replace_none]
    · refine congrArg Except.ok (P.map_congr _ _ d fun p s hs => ?_)
      unfold peel
      split
      · next hp => simp [hempty p s hp hs, Cipher.sealString]
      · rfl
    · intro p s hp hs
      rw [P.locate_map] at hp
      rw [P.text_map, Option.map_eq_some_iff] at hs
      obtain ⟨t, ht, rfl⟩ := hs
      simp [hempty p t hp ht, Cipher.sealString]

/-- **What unsealing does** to strings with enough layers: one comes off for each
path that leads to the string. -/
theorem unsealAll_layers (paths : List Path) (d : D) (nonces : Place → List Nat)
    (hwritable : P.Writable c paths d)
    (hlen : ∀ p, (paths.countP fun path => P.locate path d = some p) ≤ (nonces p).length) :
    ∃ rest : Place → List Nat,
      (∀ p, (rest p).length =
        (nonces p).length - paths.countP fun path => P.locate path d = some p) ∧
      P.unsealAll c paths (P.map (fun p s => c.sealString (nonces p) s) d) =
        .ok (P.map (fun p s => c.sealString (rest p) s) d) := by
  induction paths generalizing nonces with
  | nil => exact ⟨nonces, fun p => by simp, rfl⟩
  | cons path paths ih =>
      have hne : ∀ p s, P.locate path d = some p → P.text d p = some s → s ≠ "" →
          nonces p ≠ [] ∧ c.refusal s = none := by
        intro p s hp hs hs'
        refine ⟨fun hnil => ?_, hwritable p s ⟨path, by simp, hp⟩ hs hs'⟩
        have hcount := hlen p
        rw [hnil, List.countP_cons_of_pos (by simpa using hp)] at hcount
        simp at hcount
      have hpeel : ∀ p, (P.peel d path nonces p).length =
          (nonces p).length - if P.locate path d = some p then 1 else 0 := by
        intro p
        unfold peel
        split
        · rw [List.length_dropLast]
        · rw [Nat.sub_zero]
      obtain ⟨rest, hrest, hreveal⟩ := ih (P.peel d path nonces)
        (fun p s hlisted => hwritable p s
          (hlisted.imp fun _ h => ⟨List.mem_cons_of_mem _ h.1, h.2⟩)) fun p => by
        have hcount := hlen p
        rw [List.countP_cons] at hcount
        rw [hpeel]
        by_cases hp : P.locate path d = some p
        · simp only [hp, decide_true, if_true] at hcount ⊢
          omega
        · simp only [hp, decide_false, Bool.false_eq_true, if_false] at hcount ⊢
          omega
      refine ⟨rest, fun p => ?_, ?_⟩
      · rw [hrest, hpeel, List.countP_cons]
        by_cases hp : P.locate path d = some p
        · simp only [hp, decide_true, if_true]
          omega
        · simp only [hp, decide_false, Bool.false_eq_true, if_false]
          omega
      · rw [unsealAll, reveal_round path nonces hne, Except.ok_bind_eq]
        exact hreveal

/-- **The document comes back**: all layers come off. -/
theorem unsealAll_sealed (hwritable : P.Writable c paths d) :
    P.unsealAll c paths (P.sealedDocument c nonce paths d) = .ok d := by
  obtain ⟨rest, hrest, hreveal⟩ := unsealAll_layers paths d
    (fun p => P.layers d p nonce paths) hwritable fun p => Nat.le_of_eq (length_layers ..).symm
  rw [sealedDocument, hreveal]
  refine congrArg Except.ok (map_eq_self fun p s _ => ?_)
  have hnil : rest p = [] := List.length_eq_zero_iff.mp (by rw [hrest, length_layers, Nat.sub_self])
  simp [hnil, Cipher.sealString]

theorem unsealAll_of_sealAll (h : P.sealAll c nonce paths d = .ok d') :
    P.unsealAll c paths d' = .ok d := by
  obtain ⟨hwritable, rfl⟩ := sealAll_eq_ok_iff.mp h
  exact unsealAll_sealed hwritable

end Places
