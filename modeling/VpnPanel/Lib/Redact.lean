import VpnPanel.Lib.PyPos

/-!
# VpnPanel.Lib.Redact

Redaction of a document: the values of hidden keys are replaced by a mark, whatever they
are and however deep they stand, and all else is kept.

* `redact_eq_redact_iff` — two documents are redacted to the same one exactly when they
  differ in nothing but values of hidden keys (`AgreeBut`);
* `at?_redact` — what stands at a position no hidden key is above;
* `redact_redact` — a redacted document is redacted already;
* `redact_eq_self` — a document without hidden keys is kept.
-/

namespace PyVal

/-! ## redaction -/

mutual
/-- Replace the values of hidden keys by `mark`. -/
def redact (hidden : String → Bool) (mark : PyVal) : PyVal → PyVal
  | dict kvs => dict (redactEntries hidden mark kvs)
  | list xs => list (redactItems hidden mark xs)
  | none => none
  | bool b => bool b
  | int i => int i
  | float r => float r
  | str s => str s

def redactItems (hidden : String → Bool) (mark : PyVal) : List PyVal → List PyVal
  | [] => []
  | x :: xs => redact hidden mark x :: redactItems hidden mark xs

def redactEntries (hidden : String → Bool) (mark : PyVal) :
    List (String × PyVal) → List (String × PyVal)
  | [] => []
  | (k, v) :: kvs =>
      (k, if hidden k then mark else redact hidden mark v) :: redactEntries hidden mark kvs
end

mutual
/-- The two differ in nothing but values of hidden keys. -/
inductive AgreeBut (hidden : String → Bool) : PyVal → PyVal → Prop
  | same (v : PyVal) : AgreeBut hidden v v
  | list {xs ys : List PyVal} (h : AgreeItems hidden xs ys) :
      AgreeBut hidden (.list xs) (.list ys)
  | dict {kvs lws : List (String × PyVal)} (h : AgreeEntries hidden kvs lws) :
      AgreeBut hidden (.dict kvs) (.dict lws)

inductive AgreeItems (hidden : String → Bool) : List PyVal → List PyVal → Prop
  | nil : AgreeItems hidden [] []
  | cons {x y : PyVal} {xs ys : List PyVal} (h : AgreeBut hidden x y)
      (hs : AgreeItems hidden xs ys) : AgreeItems hidden (x :: xs) (y :: ys)

inductive AgreeEntries (hidden : String → Bool) :
    List (String × PyVal) → List (String × PyVal) → Prop
  | nil : AgreeEntries hidden [] []
  | hide {k : String} {kvs lws : List (String × PyVal)} (v w : PyVal) (h : hidden k = true)
      (hs : AgreeEntries hidden kvs lws) : AgreeEntries hidden ((k, v) :: kvs) ((k, w) :: lws)
  | keep {k : String} {v w : PyVal} {kvs lws : List (String × PyVal)} (h : AgreeBut hidden v w)
      (hs : AgreeEntries hidden kvs lws) : AgreeEntries hidden ((k, v) :: kvs) ((k, w) :: lws)
end

section Laws

variable {hidden : String → Bool} {mark : PyVal}

/-! ## two documents -/

mutual
/-- Documents that agree but below hidden keys are redacted to the same one. -/
theorem redact_of_agreeBut {v w : PyVal} (h : AgreeBut hidden v w) :
    redact hidden mark v = redact hidden mark w :=
  match h with
  | .same _ => rfl
  | .list h => by rw [redact, redact, redactItems_of_agree h]
  | .dict h => by rw [redact, redact, redactEntries_of_agree h]

theorem redactItems_of_agree {xs ys : List PyVal} (h : AgreeItems hidden xs ys) :
    redactItems hidden mark xs = redactItems hidden mark ys :=
  match h with
  | .nil => rfl
  | .cons h hs => by
      rw [redactItems, redactItems, redact_of_agreeBut h, redactItems_of_agree hs]

theorem redactEntries_of_agree {kvs lws : List (String × PyVal)}
    (h : AgreeEntries hidden kvs lws) :
    redactEntries hidden mark kvs = redactEntries hidden mark lws :=
  match h with
  | .nil => rfl
  | .hide _ _ h hs => by
      rw [redactEntries, redactEntries, if_pos h, if_pos h, redactEntries_of_agree hs]
  | .keep h hs => by
      rw [redactEntries, redactEntries, redact_of_agreeBut h, redactEntries_of_agree hs]
end

mutual
/-- Redaction tells apart all that does not stand below a hidden key. -/
theorem agreeBut_of_redact : (v w : PyVal) →
    redact hidden mark v = redact hidden mark w → AgreeBut hidden v w
  | dict kvs, w, h => by
      cases w with
      | dict lws =>
          have hentries : redactEntries hidden mark kvs = redactEntries hidden mark lws := by
            simpa [redact] using h
          exact .dict (agreeEntries_of_redact kvs lws hentries)
      | _ => simp [redact] at h
  | list xs, w, h => by
      cases w with
      | list ys =>
          have hitems : redactItems hidden mark xs = redactItems hidden mark ys := by
            simpa [redact] using h
          exact .list (agreeItems_of_redact xs ys hitems)
      | _ => simp [redact] at h
  | none, w, h => by cases w <;> simp_all [redact, AgreeBut.same]
  | bool b, w, h => by cases w <;> simp_all [redact, AgreeBut.same]
  | int i, w, h => by cases w <;> simp_all [redact, AgreeBut.same]
  | float r, w, h => by cases w <;> simp_all [redact, AgreeBut.same]
  | str s, w, h => by cases w <;> simp_all [redact, AgreeBut.same]

theorem agreeItems_of_redact : (xs ys : List PyVal) →
    redactItems hidden mark xs = redactItems hidden mark ys → AgreeItems hidden xs ys
  | [], ys, h => by
      cases ys with
      | nil => exact .nil
      | cons y ys => simp [redactItems] at h
  | x :: xs, ys, h => by
      cases ys with
      | nil => simp [redactItems] at h
      | cons y ys =>
          rw [redactItems, redactItems, List.cons.injEq] at h
          exact .cons (agreeBut_of_redact x y h.1) (agreeItems_of_redact xs ys h.2)

theorem agreeEntries_of_redact : (kvs lws : List (String × PyVal)) →
    redactEntries hidden mark kvs = redactEntries hidden mark lws → AgreeEntries hidden kvs lws
  | [], lws, h => by
      cases lws with
      | nil => exact .nil
      | cons lw lws => simp [redactEntries] at h
  | (k, v) :: kvs, lws, h => by
      cases lws with
      | nil => simp [redactEntries] at h
      | cons lw lws =>
          obtain ⟨l, w⟩ := lw
          rw [redactEntries, redactEntries, List.cons.injEq, Prod.mk.injEq] at h
          obtain ⟨⟨rfl, hvalue⟩, hrest⟩ := h
          have hrest := agreeEntries_of_redact kvs lws hrest
          by_cases hk : hidden k = true
          · exact .hide v w hk hrest
          · rw [if_neg hk, if_neg hk] at hvalue
            exact .keep (agreeBut_of_redact v w hvalue) hrest
end

/-- **Redaction and nothing else.** -/
theorem redact_eq_redact_iff {v w : PyVal} :
    redact hidden mark v = redact hidden mark w ↔ AgreeBut hidden v w :=
  ⟨agreeBut_of_redact v w, redact_of_agreeBut⟩

/-! ## one document -/

mutual
theorem redact_redact (hidden : String → Bool) (mark : PyVal) :
    (v : PyVal) → redact hidden mark (redact hidden mark v) = redact hidden mark v
  | dict kvs => by rw [redact, redact, redactEntries_redactEntries]
  | list xs => by rw [redact, redact, redactItems_redactItems]
  | none | bool _ | int _ | float _ | str _ => by simp [redact]

theorem redactItems_redactItems (hidden : String → Bool) (mark : PyVal) :
    (xs : List PyVal) →
      redactItems hidden mark (redactItems hidden mark xs) = redactItems hidden mark xs
  | [] => rfl
  | x :: xs => by rw [redactItems, redactItems, redact_redact, redactItems_redactItems]

theorem redactEntries_redactEntries (hidden : String → Bool) (mark : PyVal) :
    (kvs : List (String × PyVal)) →
      redactEntries hidden mark (redactEntries hidden mark kvs) = redactEntries hidden mark kvs
  | [] => rfl
  | (k, v) :: kvs => by
      rw [redactEntries, redactEntries, redactEntries_redactEntries]
      by_cases hk : hidden k = true
      · rw [if_pos hk, if_pos hk]
      · rw [if_neg hk, if_neg hk, redact_redact]
end

/-- The keys of a dictionary. -/
def keys : PyVal → List String
  | dict kvs => kvs.map Prod.fst
  | _ => []

theorem redactItems_eq_map (xs : List PyVal) :
    redactItems hidden mark xs = xs.map (redact hidden mark) := by
  induction xs with
  | nil => rfl
  | cons x xs ih => rw [redactItems, ih, List.map_cons]

theorem redactEntries_eq_map (kvs : List (String × PyVal)) :
    redactEntries hidden mark kvs =
      kvs.map fun kv => (kv.1, if hidden kv.1 then mark else redact hidden mark kv.2) := by
  induction kvs with
  | nil => rfl
  | cons kv kvs ih => rw [redactEntries, ih, List.map_cons]

theorem keys_redact (v : PyVal) : (redact hidden mark v).keys = v.keys := by
  cases v with
  | dict kvs => simp [redact, keys, redactEntries_eq_map]
  | _ => simp [redact, keys]

theorem length_children_redact (v : PyVal) :
    (redact hidden mark v).children.length = v.children.length := by
  cases v with
  | dict kvs => simp [redact, children, redactEntries_eq_map]
  | list xs => simp [redact, children, redactItems_eq_map]
  | _ => simp [redact, children]

theorem typeName_redact (v : PyVal) : (redact hidden mark v).typeName = v.typeName := by
  cases v <;> simp [redact, typeName]

/-! ## positions -/

/-- No hidden key stands above the position. -/
def shown (hidden : String → Bool) : List Nat → PyVal → Bool
  | [], _ => true
  | n :: pos, dict kvs => (kvs[n]?).any fun kv => !hidden kv.1 && shown hidden pos kv.2
  | n :: pos, list xs => (xs[n]?).any (shown hidden pos)
  | _ :: _, _ => false

/-- **What stands at a position no hidden key is above** is what stood there, redacted. -/
theorem at?_redact {pos : List Nat} {v : PyVal} (h : shown hidden pos v = true) :
    (redact hidden mark v).at? pos = (v.at? pos).map (redact hidden mark) := by
  induction pos generalizing v with
  | nil => rfl
  | cons n pos ih =>
      cases v with
      | dict kvs =>
          obtain ⟨kv, hkv, hrest⟩ := (Option.any_eq_true _ _).mp h
          rw [Bool.and_eq_true, Bool.not_eq_true'] at hrest
          rw [at?, at?, redact, children, children, redactEntries_eq_map, List.map_map,
            List.getElem?_map, List.getElem?_map, hkv]
          simpa [hrest.1] using ih hrest.2
      | list xs =>
          obtain ⟨x, hx, hrest⟩ := (Option.any_eq_true _ _).mp h
          rw [at?, at?, redact, children, children, redactItems_eq_map, List.getElem?_map, hx]
          exact ih hrest
      | _ => simp [shown] at h

/-- No key in a document is hidden. -/
def NoneHidden (hidden : String → Bool) (v : PyVal) : Prop :=
  ∀ pos w, v.at? pos = some w → ∀ k ∈ w.keys, hidden k = false

mutual
/-- A document without hidden keys is kept. -/
theorem redact_eq_self : (v : PyVal) → NoneHidden hidden v → redact hidden mark v = v
  | dict kvs, h => by
      rw [redact, redactEntries_eq_self kvs]
      · intro k hk
        exact h [] (dict kvs) rfl k hk
      · intro i kv hkv pos w hw
        exact h (i :: pos) w (by simp [at?, children, hkv, hw])
  | list xs, h => by
      rw [redact, redactItems_eq_self xs]
      intro i x hx pos w hw
      exact h (i :: pos) w (by simp [at?, children, hx, hw])
  | none, _ | bool _, _ | int _, _ | float _, _ | str _, _ => by simp [redact]

theorem redactItems_eq_self : (xs : List PyVal) →
    (∀ (i : Nat) (x : PyVal), xs[i]? = some x → NoneHidden hidden x) →
      redactItems hidden mark xs = xs
  | [], _ => rfl
  | x :: xs, h => by
      rw [redactItems, redact_eq_self x (h 0 x rfl),
        redactItems_eq_self xs fun i y hy => h (i + 1) y (by simpa using hy)]

theorem redactEntries_eq_self : (kvs : List (String × PyVal)) →
    (∀ k ∈ kvs.map Prod.fst, hidden k = false) →
      (∀ (i : Nat) (kv : String × PyVal), kvs[i]? = some kv → NoneHidden hidden kv.2) →
        redactEntries hidden mark kvs = kvs
  | [], _, _ => rfl
  | (k, v) :: kvs, hkeys, h => by
      have hk : ¬ hidden k = true := by simp [hkeys k (by simp)]
      rw [redactEntries, if_neg hk, redact_eq_self v (h 0 (k, v) rfl),
        redactEntries_eq_self kvs (fun l hl => hkeys l (by simp at hl ⊢; exact .inr hl))
          fun i kv hkv => h (i + 1) kv (by simpa using hkv)]
end

/-- The second document has a value where the first has one with no hidden key above it:
of its type, with its keys in their order and as many items, and the same if no key in it
is hidden. -/
def KeptIn (hidden : String → Bool) (v v' : PyVal) : Prop :=
  ∀ pos w, shown hidden pos v = true → v.at? pos = some w →
    ∃ w', v'.at? pos = some w' ∧ w'.typeName = w.typeName ∧ w'.keys = w.keys ∧
      w'.children.length = w.children.length ∧ (NoneHidden hidden w → w' = w)

/-- **All else is kept.** -/
theorem keptIn_redact (v : PyVal) : KeptIn hidden v (redact hidden mark v) := by
  intro pos w hshown hw
  refine ⟨redact hidden mark w, ?_, typeName_redact w, keys_redact w, length_children_redact w,
    redact_eq_self w⟩
  rw [at?_redact hshown, hw]
  rfl

end Laws

end PyVal
