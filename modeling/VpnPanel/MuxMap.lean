import VpnPanel.NginxShared443

/-!
# VpnPanel.MuxMap

What nginx makes of the map that `render_shared_443_stream_conf` writes.

nginx compares the keys of a map without regard to the case of ASCII letters,
and refuses a map in which two are equal.  `routesAsReference_iff`: the map is
accepted, and routes as the lists say, exactly when the names are distinct in
that sense, none of them is `default` and there is at least one.
-/

namespace VpnPanel

open PyStr (asciiLower)

/-- The names of the panel, stripped. -/
def panelNames (panelSnis : List String) : List String :=
  (panelSnis.map PyStr.strip).filter (· ≠ "")

/-- The routes with a name and a backend, stripped. -/
def namedRoutes (routes : List (String × String)) : List (String × String) :=
  (routes.map fun r => (PyStr.strip r.1, PyStr.strip r.2)).filter fun r => r.1 ≠ "" && r.2 ≠ ""

/-- Pairs with their keys as nginx compares them. -/
def lowerKeys (pairs : List (String × String)) : List (String × String) :=
  pairs.map fun p => (asciiLower p.1, p.2)

namespace SharedConf

/-- The source keys of the map, in order. -/
def keys (conf : SharedConf) : List String := conf.lines.map Prod.fst ++ ["default"]

/-- nginx accepts the keys. -/
def Accepted (conf : SharedConf) : Prop := (conf.keys.map asciiLower).Nodup

instance (conf : SharedConf) : Decidable conf.Accepted := inferInstanceAs (Decidable (List.Nodup _))

/-- The backend an accepted map selects for a server name. -/
def backendOf (conf : SharedConf) (name : String) : String :=
  (Dict.findEntry (asciiLower name) (lowerKeys conf.lines)).getD conf.panelBackend

end SharedConf

/-- The routing the lists stand for: a panel name goes to the panel, any other
name to the backend of its last route, everything else to the panel. -/
def referenceBackend (panelSnis : List String) (panelBackend : String)
    (routes : List (String × String)) (name : String) : String :=
  if asciiLower name ∈ (panelNames panelSnis).map asciiLower then panelBackend
  else (lastWins (asciiLower name) (lowerKeys (namedRoutes routes))).getD panelBackend

/-- The map is accepted, and routes as the lists say. -/
def RoutesAsReference (panelSnis : List String) (panelBackend : String)
    (routes : List (String × String)) : Prop :=
  let conf := renderShared443StreamConf panelSnis panelBackend routes
  conf.Accepted ∧ ∀ name, conf.backendOf name = referenceBackend panelSnis panelBackend routes name

/-- There are names, none of them is `default`, and two that nginx takes for
one are names of one route list, spelled alike. -/
structure DistinctNames (panelSnis : List String) (routes : List (String × String)) : Prop where
  some_name : panelNames panelSnis ≠ [] ∨ keptRoutes panelSnis routes ≠ []
  panel : ((panelNames panelSnis).map asciiLower).Nodup
  spelled : ∀ r ∈ keptRoutes panelSnis routes, ∀ r' ∈ keptRoutes panelSnis routes,
    asciiLower r.1 = asciiLower r'.1 → r.1 = r'.1
  apart : ∀ name ∈ panelNames panelSnis, ∀ r ∈ keptRoutes panelSnis routes,
    asciiLower name ≠ asciiLower r.1
  no_default : "default" ∉ (panelNames panelSnis).map asciiLower ∧
    ∀ r ∈ keptRoutes panelSnis routes, asciiLower r.1 ≠ "default"

section

variable {panelSnis : List String} {panelBackend : String} {routes : List (String × String)}

/-! ## the lines of the map -/

theorem keptRoutes_eq (panelSnis : List String) (routes : List (String × String)) :
    keptRoutes panelSnis routes =
      (namedRoutes routes).filter fun r => !(panelNames panelSnis).contains r.1 := by
  rw [keptRoutes, namedRoutes, List.filter_filter]
  congr 1
  funext r
  rw [Bool.and_comm]
  rfl

/-- The lines of the routes. -/
def routeLines (panelSnis : List String) (routes : List (String × String)) :
    List (String × String) := (Dict.ofPairs (keptRoutes panelSnis routes)).entries

theorem mem_keys_routeLines {name : String} :
    name ∈ (routeLines panelSnis routes).map Prod.fst ↔
      ∃ r ∈ keptRoutes panelSnis routes, r.1 = name := by
  rw [routeLines, Dict.mem_keys_iff, Dict.get?_ofPairs, Option.isSome_iff_ne_none, Ne,
    lastWins_eq_none_iff]
  simp

/-- The lines: those of the panel and those of the routes, or the default. -/
theorem lines_render :
    (renderShared443StreamConf panelSnis panelBackend routes).lines =
      let lines := (panelNames panelSnis).map (fun sni => (sni, panelBackend)) ++
        routeLines panelSnis routes
      if lines = [] then [("default", panelBackend)] else lines := rfl

/-- A map with at least one name. -/
theorem lines_of_some_name
    (h : panelNames panelSnis ≠ [] ∨ keptRoutes panelSnis routes ≠ []) :
    (renderShared443StreamConf panelSnis panelBackend routes).lines =
      (panelNames panelSnis).map (fun sni => (sni, panelBackend)) ++
        routeLines panelSnis routes := by
  rw [lines_render]
  refine if_neg fun hnil => ?_
  obtain ⟨hpanel, hroutes⟩ := List.append_eq_nil_iff.mp hnil
  obtain h | h := h
  · exact h (List.map_eq_nil_iff.mp hpanel)
  · obtain ⟨r, hr⟩ := List.exists_mem_of_ne_nil _ h
    have hmem := mem_keys_routeLines.mpr ⟨r, hr, rfl⟩
    rw [hroutes] at hmem
    cases hmem

theorem lines_of_no_name (hpanel : panelNames panelSnis = [])
    (hroutes : keptRoutes panelSnis routes = []) :
    (renderShared443StreamConf panelSnis panelBackend routes).lines =
      [("default", panelBackend)] := by
  rw [lines_render, routeLines, hpanel, hroutes]
  rfl

/-- The keys of a map with at least one name. -/
theorem keys_of_some_name
    (h : panelNames panelSnis ≠ [] ∨ keptRoutes panelSnis routes ≠ []) :
    (renderShared443StreamConf panelSnis panelBackend routes).keys =
      panelNames panelSnis ++ (routeLines panelSnis routes).map Prod.fst ++ ["default"] := by
  rw [SharedConf.keys, lines_of_some_name h, List.map_append, List.map_map]
  congr 2
  exact List.map_id _

/-! ## when it is accepted -/

/-- Distinct names stay distinct when they are lowered, if no two are spelled
alike but for their case. -/
theorem nodup_map_iff_of_nodup {names : List String} (h : names.Nodup) :
    (names.map asciiLower).Nodup ↔
      ∀ a ∈ names, ∀ b ∈ names, asciiLower a = asciiLower b → a = b :=
  List.nodup_map_iff_inj_on h

/-- nginx accepts the map exactly when the names are distinct. -/
theorem accepted_iff :
    (renderShared443StreamConf panelSnis panelBackend routes).Accepted ↔
      DistinctNames panelSnis routes := by
  by_cases hsome : panelNames panelSnis ≠ [] ∨ keptRoutes panelSnis routes ≠ []
  · have hkeys : ((routeLines panelSnis routes).map Prod.fst).Nodup :=
      (Dict.ofPairs (keptRoutes panelSnis routes)).nodup
    have hmem (r : String × String) (hr : r ∈ keptRoutes panelSnis routes) :
        r.1 ∈ (routeLines panelSnis routes).map Prod.fst := mem_keys_routeLines.mpr ⟨r, hr, rfl⟩
    have hdefault : ["default"].map asciiLower = ["default"] := by decide
    rw [SharedConf.Accepted, keys_of_some_name hsome, List.map_append, List.map_append, hdefault,
      List.nodup_append, List.nodup_append, nodup_map_iff_of_nodup hkeys]
    constructor
    · rintro ⟨⟨hpanel, hroutes, hapart⟩, -, hdefault⟩
      refine ⟨hsome, hpanel, ?_, ?_, ?_, ?_⟩
      · exact fun r hr r' hr' => hroutes r.1 (hmem r hr) r'.1 (hmem r' hr')
      · exact fun name hname r hr => hapart _ (List.mem_map_of_mem hname) _
          (List.mem_map_of_mem (hmem r hr))
      · exact fun hin => hdefault _ (List.mem_append_left _ hin) _ List.mem_cons_self rfl
      · exact fun r hr => hdefault _ (List.mem_append_right _ (List.mem_map_of_mem (hmem r hr))) _
          List.mem_cons_self
    · intro h
      refine ⟨⟨h.panel, ?_, ?_⟩, List.nodup_singleton _, ?_⟩
      · intro a ha b hb
        obtain ⟨r, hr, rfl⟩ := mem_keys_routeLines.mp ha
        obtain ⟨r', hr', rfl⟩ := mem_keys_routeLines.mp hb
        exact h.spelled r hr r' hr'
      · intro a ha b hb
        obtain ⟨name, hname, rfl⟩ := List.mem_map.mp ha
        obtain ⟨key, hkey, rfl⟩ := List.mem_map.mp hb
        obtain ⟨r, hr, rfl⟩ := mem_keys_routeLines.mp hkey
        exact h.apart name hname r hr
      · intro a ha b hb
        obtain rfl := List.mem_singleton.mp hb
        obtain ha | ha := List.mem_append.mp ha
        · rintro rfl
          exact h.no_default.1 ha
        · obtain ⟨key, hkey, rfl⟩ := List.mem_map.mp ha
          obtain ⟨r, hr, rfl⟩ := mem_keys_routeLines.mp hkey
          exact h.no_default.2 r hr
  · -- without a name the default stands there twice
    refine iff_of_false ?_ fun h => hsome h.some_name
    push Not at hsome
    rw [SharedConf.Accepted, SharedConf.keys, lines_of_no_name hsome.1 hsome.2]
    show ¬ (["default", "default"].map asciiLower).Nodup
    decide

/-! ## where it routes -/

/-- An accepted map routes as the lists say. -/
theorem backendOf_render (h : DistinctNames panelSnis routes) (name : String) :
    (renderShared443StreamConf panelSnis panelBackend routes).backendOf name =
      referenceBackend panelSnis panelBackend routes name := by
  rw [SharedConf.backendOf, lines_of_some_name h.some_name, lowerKeys, List.map_append,
    Dict.findEntry_append, referenceBackend]
  by_cases hpanel : asciiLower name ∈ (panelNames panelSnis).map asciiLower
  · rw [if_pos hpanel]
    -- whatever line of the panel is found has the backend of the panel
    cases hfound : Dict.findEntry (asciiLower name)
        (((panelNames panelSnis).map fun sni => (sni, panelBackend)).map
          fun p => (asciiLower p.1, p.2)) with
    | none =>
        obtain ⟨sni, hsni, heq⟩ := List.mem_map.mp hpanel
        refine absurd heq (Dict.findEntry_eq_none_iff.mp hfound (asciiLower sni, panelBackend) ?_)
        exact List.mem_map.mpr ⟨(sni, panelBackend), List.mem_map.mpr ⟨sni, hsni, rfl⟩, rfl⟩
    | some backend =>
        obtain ⟨p, hp, heq⟩ := List.mem_map.mp (Dict.mem_of_findEntry hfound)
        obtain ⟨sni, -, rfl⟩ := List.mem_map.mp hp
        obtain ⟨-, rfl⟩ := Prod.mk.inj heq
        rfl
  · have hnone : Dict.findEntry (asciiLower name)
        (((panelNames panelSnis).map fun sni => (sni, panelBackend)).map
          fun p => (asciiLower p.1, p.2)) = none := by
      rw [Dict.findEntry_eq_none_iff]
      intro p hp heq
      obtain ⟨q, hq, rfl⟩ := List.mem_map.mp hp
      obtain ⟨sni, hsni, rfl⟩ := List.mem_map.mp hq
      exact hpanel (List.mem_map.mpr ⟨sni, hsni, heq⟩)
    rw [if_neg hpanel, hnone, Option.none_or, routeLines,
      Dict.findEntry_mapKeys_ofPairs fun r hr r' hr' => h.spelled r hr r' hr']
    -- the routes that are left out have names of the panel
    have hleftOut : ∀ r ∈ namedRoutes routes, (!(panelNames panelSnis).contains r.1) = false →
        asciiLower r.1 ≠ asciiLower name := by
      intro r _ hr heq
      refine hpanel (List.mem_map.mpr ⟨r.1, ?_, heq⟩)
      simpa using hr
    rw [keptRoutes_eq, lowerKeys, lastWins_map_filter hleftOut]
    rfl

/-- **When the map is accepted and routes as the lists say.** -/
theorem routesAsReference_iff (panelSnis : List String) (panelBackend : String)
    (routes : List (String × String)) :
    RoutesAsReference panelSnis panelBackend routes ↔ DistinctNames panelSnis routes := by
  constructor
  · exact fun h => accepted_iff.mp h.1
  · exact fun h => ⟨accepted_iff.mpr h, backendOf_render h⟩

/-- Without names the default stands twice, and names that differ in case only
stand both. -/
theorem not_routesAsReference :
    ¬ RoutesAsReference [] "127.0.0.1:8443" [] ∧
      ¬ RoutesAsReference ["vpn.example.com"] "127.0.0.1:8443"
        [("VPN.example.com", "127.0.0.1:2083")] := by
  constructor
  · intro h
    obtain hnil | hnil := (accepted_iff.mp h.1).some_name
    · exact hnil rfl
    · exact hnil rfl
  · intro h
    exact (accepted_iff.mp h.1).apart "vpn.example.com" (by decide)
      ("VPN.example.com", "127.0.0.1:2083") (by decide) (by decide)

end

end VpnPanel
