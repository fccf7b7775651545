import VpnPanel.Lib.PyVal

/-!
# VpnPanel.Lib.TwoRuns

Two runs of computations that may fail, side by side.

* `Except.Related R` — where both runs return, what they return is related by
  `R`, with a rule for sequences;
* `PyVal.AgreeAt keys path` — two values read the same under the keys, at the
  end of the path, with a rule for each way a value is read and changed.
-/

namespace Except

variable {ε α β α' β' : Type}

/-- Where both runs return, what they return is related. -/
def Related (R : α → β → Prop) (x : Except ε α) (y : Except ε β) : Prop :=
  ∀ a b, x = .ok a → y = .ok b → R a b

variable {R : α → β → Prop} {S : α' → β' → Prop}

theorem Related.ok {a : α} {b : β} (h : R a b) : Related R (.ok a : Except ε α) (.ok b) := by
  rintro _ _ ⟨⟩ ⟨⟩
  exact h

theorem Related.error_left (e : ε) (y : Except ε β) : Related R (.error e) y := by
  rintro _ _ ⟨⟩

/-- Two sequences: the first parts related by `R`, and the rests on related
values. -/
theorem Related.bind {x : Except ε α} {y : Except ε β} {f : α → Except ε α'}
    {g : β → Except ε β'} (hx : Related R x y)
    (hf : ∀ a b, R a b → Related S (f a) (g b)) : Related S (x >>= f) (y >>= g) := by
  intro a' b' ha' hb'
  obtain ⟨a, ha, ha'⟩ := Except.bind_eq_ok_iff.mp ha'
  obtain ⟨b, hb, hb'⟩ := Except.bind_eq_ok_iff.mp hb'
  exact hf a b (hx a b ha hb) a' b' ha' hb'

theorem Related.of_eq {x y : Except ε α} (h : x = y) : Related Eq x y := by
  rintro a b rfl rfl
  exact Except.ok.inj h

/-- Parts of which nothing is needed. -/
theorem Related.trivial (x : Except ε α) (y : Except ε β) :
    Related (fun _ _ => True) x y := fun _ _ _ _ => True.intro

theorem Related.and {R' : α → β → Prop} {x : Except ε α} {y : Except ε β} (h : Related R x y)
    (h' : Related R' x y) : Related (fun a b => R a b ∧ R' a b) x y :=
  fun a b ha hb => ⟨h a b ha hb, h' a b ha hb⟩

end Except

open Except (Related)

namespace PyVal

/-- The values read the same under the keys, at the end of the path. -/
def AgreeAt (keys : List String) : List String → PyVal → PyVal → Prop
  | [], v, w => ∀ k ∈ keys, v.SameAt w k
  | k :: ks, v, w => v.SameAt w k ∨
      ∃ a b, v.item k = .ok a ∧ w.item k = .ok b ∧ AgreeAt keys ks a b

variable {keys ks : List String} {k k' : String} {v w x y : PyVal}

theorem AgreeAt.refl (keys path : List String) (v : PyVal) : AgreeAt keys path v v := by
  cases path with
  | nil => exact fun k _ => SameAt.refl v k
  | cons k ks => exact Or.inl (SameAt.refl v k)

/-- What is read at the end of the path is the same. -/
theorem AgreeAt.itemAt {path : List String} (h : AgreeAt keys path v w) (hk : k ∈ keys) :
    PyVal.itemAt (path ++ [k]) w = PyVal.itemAt (path ++ [k]) v := by
  induction path generalizing v w with
  | nil => simp [PyVal.itemAt, (h k hk).item]
  | cons k' ks ih =>
      obtain hsame | ⟨a, b, ha, hb, hrest⟩ := h
      · simp [PyVal.itemAt, hsame.item]
      · rw [List.cons_append, itemAt_cons ha, itemAt_cons hb, ih hrest]

/-- The keys that lead into a value. -/
def firstKeys (keys : List String) : List String → List String
  | [] => keys
  | k :: _ => [k]

theorem SameAt.symm (h : v.SameAt w k) : w.SameAt v k where
  item := h.item.symm
  get d := (h.get d).symm

/-- Changes away from the path. -/
theorem AgreeAt.of_sameAt {path : List String} {v' w' : PyVal} (h : AgreeAt keys path v w)
    (hv : ∀ k ∈ firstKeys keys path, v.SameAt v' k)
    (hw : ∀ k ∈ firstKeys keys path, w.SameAt w' k) : AgreeAt keys path v' w' := by
  cases path with
  | nil => exact fun k hk => ((hv k hk).symm.trans (h k hk)).trans (hw k hk)
  | cons k ks =>
      have hv := hv k List.mem_cons_self
      have hw := hw k List.mem_cons_self
      obtain h | ⟨a, b, ha, hb, hrest⟩ := h
      · exact Or.inl ((hv.symm.trans h).trans hw)
      · exact Or.inr ⟨a, b, by rw [hv.item, ha], by rw [hw.item, hb], hrest⟩

theorem related_setItem_away {path : List String} (h : AgreeAt keys path v w)
    (hk : k ∉ firstKeys keys path) (x y : PyVal) :
    Related (AgreeAt keys path) (v.setItem k x) (w.setItem k y) := by
  have hne (k' : String) (hk' : k' ∈ firstKeys keys path) : k ≠ k' :=
    (ne_of_mem_of_not_mem hk' hk).symm
  intro v' w' hv hw
  exact h.of_sameAt (fun k' hk' => sameAt_of_setItem hv (hne k' hk'))
    fun k' hk' => sameAt_of_setItem hw (hne k' hk')

theorem related_modifyItem_away {path : List String} {f g : PyVal → Except PyErr PyVal}
    (h : AgreeAt keys path v w) (hk : k ∉ firstKeys keys path) :
    Related (AgreeAt keys path) (v.modifyItem k f) (w.modifyItem k g) := by
  refine (Related.trivial _ _).bind fun a b _ => (Related.trivial _ _).bind fun a' b' _ => ?_
  exact related_setItem_away h hk a' b'

/-- Reading along the path. -/
theorem AgreeAt.related_item (h : AgreeAt keys (k :: ks) v w) :
    Related (AgreeAt keys ks) (v.item k) (w.item k) := by
  intro a b ha hb
  obtain hsame | ⟨a', b', ha', hb', hrest⟩ := h
  · rw [hsame.item, ha] at hb
    obtain rfl := Except.ok.inj hb
    exact AgreeAt.refl keys ks a
  · rw [ha] at ha'
    rw [hb] at hb'
    rwa [Except.ok.inj ha', Except.ok.inj hb']

/-- Assignments, along the path, of values that agree on the rest of it. -/
theorem related_setItem_along (h : AgreeAt keys ks x y) (v w : PyVal) :
    Related (AgreeAt keys (k :: ks)) (v.setItem k x) (w.setItem k y) :=
  fun _ _ hv hw => Or.inr ⟨x, y, item_self_of_setItem hv, item_self_of_setItem hw, h⟩

/-- Changes along the path. -/
theorem related_modifyItem_along {f g : PyVal → Except PyErr PyVal}
    (h : AgreeAt keys (k :: ks) v w)
    (hf : ∀ a b, AgreeAt keys ks a b → Related (AgreeAt keys ks) (f a) (g b)) :
    Related (AgreeAt keys (k :: ks)) (v.modifyItem k f) (w.modifyItem k g) := by
  refine h.related_item.bind fun a b hab => (hf a b hab).bind fun a' b' hab' => ?_
  exact related_setItem_along hab' v w

/-- Assignments at the end of the path: of one value, if the key is read. -/
theorem related_setItem_last (h : AgreeAt keys [] v w) (hxy : k ∈ keys → x = y) :
    Related (AgreeAt keys []) (v.setItem k x) (w.setItem k y) := by
  intro v' w' hv hw k' hk'
  by_cases hkk : k = k'
  · subst hkk
    refine ⟨?_, fun d => ?_⟩
    · rw [item_self_of_setItem hv, item_self_of_setItem hw, hxy hk']
    · rw [get_of_item (item_self_of_setItem hv), get_of_item (item_self_of_setItem hw), hxy hk']
  · have hsame := (sameAt_of_setItem hv hkk).symm.trans (h k' hk')
    exact hsame.trans (sameAt_of_setItem hw hkk)

end PyVal
