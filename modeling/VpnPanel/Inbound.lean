import VpnPanel.Settings

/-!
# VpnPanel.Inbound

Reading a config document: `find_inbound` of `template_loader.py` and
`listening_port` of `config_builder.py`.
-/

namespace VpnPanel

/-- The loop of `find_inbound`: the first inbound with the tag. -/
def findTag (tag : String) : List PyVal → Except PyErr PyVal
  | [] => .error ⟨.keyError, "'Inbound tag not found: " ++ tag ++ "'"⟩
  | inbound :: rest => do
      let t ← inbound.get "tag"
      if t.isStr tag then .ok inbound else findTag tag rest

/-- `find_inbound`. -/
def findInbound (config : PyVal) (tag : String) : Except PyErr PyVal := do
  let inbounds ← config.get "inbounds" (.list [])
  let items ← inbounds.iter
  findTag tag items

/-- `int(str(config_data["listen"]).lstrip(":"))`. -/
def hysteriaPort (configData : PyVal) : Except PyErr Int := do
  let listen ← configData.item "listen"
  PyVal.parseInt (PyStr.lstripChar ':' listen.toStr)

/-- `listening_port`. -/
def listeningPort (profile : ConfigProfile) (configData : PyVal) (ps : VpnProfileSettings) :
    Except PyErr Int :=
  match profile with
  | .hysteria2 => hysteriaPort configData
  | _ => do
      let inbound ← findInbound configData ps.inboundTag
      let port ← inbound.item "port"
      port.toInt

/-- The tag of the inbound `find_inbound` returns. -/
theorem get_tag_of_findTag {tag : String} {items : List PyVal} {inbound : PyVal}
    (h : findTag tag items = .ok inbound) : inbound.get "tag" = .ok (.str tag) := by
  induction items with
  | nil => simp [findTag] at h
  | cons x rest ih =>
      cases hx : x.get "tag" with
      | error e => simp [findTag, hx, bind, Except.bind] at h
      | ok t =>
          by_cases ht : t.isStr tag = true
          · have hxi : x = inbound := by
              simpa [findTag, hx, ht, bind, Except.bind] using h
            rw [← hxi, hx, PyVal.isStr_iff.mp ht]
          · exact ih (by simpa [findTag, hx, ht, bind, Except.bind] using h)

/-! ## the tagged inbound among the others -/

/-- The inbounds around the first that has the tag. -/
structure TagSplit (tag : String) (items before : List PyVal) (inbound : PyVal)
    (after : List PyVal) : Prop where
  eq : items = before ++ inbound :: after
  others : ∀ x ∈ before, ∃ t, x.get "tag" = .ok t ∧ t.isStr tag = false
  tagged : inbound.get "tag" = .ok (.str tag)

/-- `find_inbound` finds the inbound with only others before it. -/
theorem findTag_eq_ok_iff {tag : String} {items : List PyVal} {inbound : PyVal} :
    findTag tag items = .ok inbound ↔ ∃ before after, TagSplit tag items before inbound after := by
  constructor
  · intro h
    have htagged := get_tag_of_findTag h
    induction items with
    | nil => simp [findTag] at h
    | cons x rest ih =>
        obtain ⟨t, ht, h⟩ := Except.bind_eq_ok_iff.mp h
        split at h
        · obtain rfl : x = inbound := Except.ok.inj h
          exact ⟨[], rest, rfl, by simp, htagged⟩
        · next hne =>
          obtain ⟨before, after, hsplit⟩ := ih h
          refine ⟨x :: before, after, by rw [hsplit.eq]; rfl, ?_, htagged⟩
          intro y hy
          obtain rfl | hy := List.mem_cons.mp hy
          · exact ⟨t, ht, by simpa using hne⟩
          · exact hsplit.others y hy
  · rintro ⟨before, after, rfl, hothers, htagged⟩
    induction before with
    | nil => simp [findTag, htagged, PyVal.isStr]
    | cons x before ih =>
        obtain ⟨t, ht, hne⟩ := hothers x List.mem_cons_self
        have hrest := ih fun y hy => hothers y (List.mem_cons_of_mem _ hy)
        simp only [List.cons_append, findTag, ht, Except.ok_bind_eq, hne, Bool.false_eq_true,
          if_false]
        exact hrest

/-- A document in which `find_inbound` finds something has a list of
inbounds. -/
theorem findInbound_eq_ok_iff {config inbound : PyVal} {tag : String} :
    findInbound config tag = .ok inbound ↔ ∃ items before after,
      config.item "inbounds" = .ok (.list items) ∧ TagSplit tag items before inbound after := by
  constructor
  · intro h
    obtain ⟨inbounds, hget, h⟩ := Except.bind_eq_ok_iff.mp h
    obtain ⟨items, hiter, h⟩ := Except.bind_eq_ok_iff.mp h
    obtain ⟨before, after, hsplit⟩ := findTag_eq_ok_iff.mp h
    -- what a dictionary or a string yields has no tags
    have hlist : inbounds = .list items := by
      have hmem : ∀ x, x ∈ items → inbounds ≠ .list items → ∃ s, x = .str s := by
        intro x hx hne
        cases inbounds with
        | list xs =>
            simp only [PyVal.iter, Except.ok.injEq] at hiter
            exact absurd (by rw [hiter]) hne
        | dict kvs =>
            simp only [PyVal.iter, Except.ok.injEq] at hiter
            subst hiter
            obtain ⟨kv, -, hkv⟩ := List.mem_map.mp hx
            exact ⟨_, hkv.symm⟩
        | str s =>
            simp only [PyVal.iter, Except.ok.injEq] at hiter
            subst hiter
            obtain ⟨c, -, hc⟩ := List.mem_map.mp hx
            exact ⟨_, hc.symm⟩
        | none | bool _ | int _ | float _ => simp [PyVal.iter] at hiter
      by_contra hne
      obtain ⟨s, hs⟩ := hmem inbound (by rw [hsplit.eq]; simp) hne
      have htagged := hsplit.tagged
      rw [hs] at htagged
      simp [PyVal.get] at htagged
    refine ⟨items, before, after, ?_, hsplit⟩
    cases config with
    | dict kvs =>
        simp only [PyVal.get_dict, Except.ok.injEq] at hget
        cases hk : PyVal.lookupKey "inbounds" kvs with
        | none =>
            have hnil : items = [] := by
              rw [hk, Option.getD_none, hlist] at hget
              simpa [eq_comm] using hget
            have heq := hsplit.eq
            simp [hnil] at heq
        | some v =>
            rw [hk, Option.getD_some, hlist] at hget
            simp [PyVal.item, hk, hget]
    | none | bool _ | int _ | float _ | str _ | list _ => simp [PyVal.get] at hget
  · rintro ⟨items, before, after, hitem, hsplit⟩
    obtain ⟨kvs, rfl, hk⟩ := PyVal.item_eq_ok_iff.mp hitem
    simp only [findInbound, PyVal.get_dict, hk, Option.getD_some, Except.ok_bind_eq,
      PyVal.iter_list]
    exact findTag_eq_ok_iff.mpr ⟨before, after, hsplit⟩

end VpnPanel
