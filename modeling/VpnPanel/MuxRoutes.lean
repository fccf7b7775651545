import VpnPanel.NginxShared443
import VpnPanel.Lifecycle

/-!
# VpnPanel.MuxRoutes

The routes of the xHTTP and gRPC profiles: `_routes_for_mux_profile` reads the
live configs in the order of their ids, takes each backend once and lets the
last route of a host win.  The config that was just written comes last, and is
among the live configs already.

* `newRoutes` — the routes the loop sets;
* `Sets` — a config that sets a route, by what was read before it;
* `injectedWins_iff` — when the host of the written config has its backend.
-/

namespace VpnPanel

section

variable (settings : PanelSettings) (key : ConfigProfile) (ps : VpnProfileSettings)

/-- The backend of a live config, if it has one. -/
def liveBackend (data : PyVal) : Except PyErr (Option String) :=
  match findInbound data ps.inboundTag with
  | .error _ => .ok none
  | .ok inbound => inboundBackend inbound ps.listenAddress

/-- The routes the loop sets, in order. -/
def newRoutes (seen : List String) : List PyVal → Except PyErr (List (String × String))
  | [] => .ok []
  | data :: rest => do
      let backend ← liveBackend ps data
      match backend with
      | none => newRoutes seen rest
      | some backend =>
          if backend ∈ seen then newRoutes seen rest
          else do
            let host ← routeHost settings key ps data
            if host = "" then newRoutes seen rest
            else do
              let routes ← newRoutes (backend :: seen) rest
              .ok ((host, backend) :: routes)

/-- The loop assigns these routes in order. -/
theorem collectTlsRoutes_eq (byHost : Dict String String) (seen : List String)
    (docs : List PyVal) :
    collectTlsRoutes settings key ps byHost seen docs =
      (newRoutes settings key ps seen docs).map byHost.setAll := by
  induction docs generalizing byHost seen with
  | nil => rfl
  | cons data rest ih =>
      rw [collectTlsRoutes, newRoutes, liveBackend]
      cases hinbound : findInbound data ps.inboundTag with
      | error e => exact ih byHost seen
      | ok inbound =>
          cases hbackend : inboundBackend inbound ps.listenAddress with
          | error e => simp [hbackend, Except.map]
          | ok backend =>
              cases backend with
              | none => simpa [hbackend] using ih byHost seen
              | some backend =>
                  by_cases hseen : backend ∈ seen
                  · simpa [hbackend, hseen] using ih byHost seen
                  · cases hhost : routeHost settings key ps data with
                    | error e => simp [hbackend, hseen, Except.map]
                    | ok host =>
                        by_cases hblank : host = ""
                        · simpa [hbackend, hseen, hblank] using ih byHost seen
                        · have hrest := ih (byHost.set host backend) (backend :: seen)
                          cases hroutes : newRoutes settings key ps (backend :: seen) rest with
                          | error e =>
                              simpa [hbackend, hseen, hblank, hroutes, Except.map] using hrest
                          | ok routes =>
                              simpa [hbackend, hseen, hblank, hroutes, Except.map, Dict.setAll]
                                using hrest

/-- A config with this backend and a host. -/
def Takes (data : PyVal) (backend : String) : Prop :=
  liveBackend ps data = .ok (some backend) ∧
    ∃ host, routeHost settings key ps data = .ok host ∧ host ≠ ""

/-- A config that sets a route: neither seen before nor taken by a config
before it is its backend. -/
structure Sets (seen : List String) (before : List PyVal) (data : PyVal) (host backend : String) :
    Prop where
  listens : liveBackend ps data = .ok (some backend)
  named : routeHost settings key ps data = .ok host
  named_ne : host ≠ ""
  unseen : backend ∉ seen
  untaken : ∀ e ∈ before, ¬ Takes settings key ps e backend

/-- A config that can be read: its backend, and, where no config before it has
taken that, its host. -/
def Readable (seen : List String) (before : List PyVal) (data : PyVal) : Prop :=
  ∃ backend, liveBackend ps data = .ok backend ∧ ∀ b, backend = some b →
    b ∈ seen ∨ (∃ e ∈ before, Takes settings key ps e b) ∨
      ∃ host, routeHost settings key ps data = .ok host

/-- After these configs no route of the host is set. -/
def Unset (seen : List String) (before docs : List PyVal) (host : String) : Prop :=
  ∀ mid data post backend, docs = mid ++ data :: post →
    ¬ Sets settings key ps seen (before ++ mid) data host backend

/-- A config sets this route, and none after it another one of the host. -/
def SetLast (seen : List String) (docs : List PyVal) (host backend : String) : Prop :=
  ∃ before data after, docs = before ++ data :: after ∧
    Sets settings key ps seen before data host backend ∧
      Unset settings key ps seen (before ++ [data]) after host

end

section

variable {settings : PanelSettings} {key : ConfigProfile} {ps : VpnProfileSettings}
  {seen : List String} {data : PyVal} {rest : List PyVal} {host backend : String}

theorem Takes.unique {b b' : String} (h : Takes settings key ps data b)
    (h' : Takes settings key ps data b') : b = b' := by
  have heq := h.1.symm.trans h'.1
  simpa using heq

/-! ## one config more -/

/-- What follows a config that takes no new backend is read as without it. -/
theorem sets_cons_of_seen (h : ∀ b, Takes settings key ps data b → b ∈ seen)
    {before : List PyVal} {data' : PyVal} :
    Sets settings key ps seen (data :: before) data' host backend ↔
      Sets settings key ps seen before data' host backend := by
  constructor
  · intro hsets
    exact ⟨hsets.listens, hsets.named, hsets.named_ne, hsets.unseen,
      fun e he => hsets.untaken e (List.mem_cons_of_mem _ he)⟩
  · intro hsets
    refine ⟨hsets.listens, hsets.named, hsets.named_ne, hsets.unseen, fun e he htakes => ?_⟩
    obtain rfl | he := List.mem_cons.mp he
    · exact hsets.unseen (h _ htakes)
    · exact hsets.untaken e he htakes

/-- What follows a config that takes a backend is read with that seen. -/
theorem sets_cons_of_takes {b : String} (h : Takes settings key ps data b) {before : List PyVal}
    {data' : PyVal} :
    Sets settings key ps seen (data :: before) data' host backend ↔
      Sets settings key ps (b :: seen) before data' host backend := by
  constructor
  · intro hsets
    refine ⟨hsets.listens, hsets.named, hsets.named_ne, fun hmem => ?_,
      fun e he => hsets.untaken e (List.mem_cons_of_mem _ he)⟩
    obtain rfl | hmem := List.mem_cons.mp hmem
    · exact hsets.untaken data List.mem_cons_self h
    · exact hsets.unseen hmem
  · intro hsets
    refine ⟨hsets.listens, hsets.named, hsets.named_ne,
      fun hmem => hsets.unseen (List.mem_cons_of_mem _ hmem), fun e he htakes => ?_⟩
    obtain rfl | he := List.mem_cons.mp he
    · obtain rfl := h.unique htakes
      exact hsets.unseen List.mem_cons_self
    · exact hsets.untaken e he htakes

theorem unset_cons_of_seen (h : ∀ b, Takes settings key ps data b → b ∈ seen)
    {before docs : List PyVal} :
    Unset settings key ps seen (data :: before) docs host ↔
      Unset settings key ps seen before docs host := by
  simp only [Unset, List.cons_append, sets_cons_of_seen h]

theorem unset_cons_of_takes {b : String} (h : Takes settings key ps data b)
    {before docs : List PyVal} :
    Unset settings key ps seen (data :: before) docs host ↔
      Unset settings key ps (b :: seen) before docs host := by
  simp only [Unset, List.cons_append, sets_cons_of_takes h]

/-- A config sets no route of the host, and neither does one after it. -/
theorem unset_nil_cons :
    Unset settings key ps seen [] (data :: rest) host ↔
      (∀ backend, ¬ Sets settings key ps seen [] data host backend) ∧
        Unset settings key ps seen [data] rest host := by
  constructor
  · intro h
    refine ⟨fun backend => h [] data rest backend rfl, fun mid data' post backend heq => ?_⟩
    exact h (data :: mid) data' post backend (by rw [heq]; rfl)
  · rintro ⟨hdata, hrest⟩ mid data' post backend heq
    cases mid with
    | nil =>
        obtain ⟨rfl, -⟩ := List.cons.inj heq
        exact hdata backend
    | cons x mid =>
        obtain ⟨rfl, htail⟩ := List.cons.inj heq
        exact hrest mid data' post backend htail

/-- The route is set by the first config, or by one after it. -/
theorem setLast_cons :
    SetLast settings key ps seen (data :: rest) host backend ↔
      Sets settings key ps seen [] data host backend ∧
          Unset settings key ps seen [data] rest host ∨
        ∃ before data' after, rest = before ++ data' :: after ∧
          Sets settings key ps seen (data :: before) data' host backend ∧
            Unset settings key ps seen (data :: (before ++ [data'])) after host := by
  constructor
  · rintro ⟨before, data', after, heq, hsets, hunset⟩
    cases before with
    | nil =>
        obtain ⟨rfl, rfl⟩ := List.cons.inj heq
        exact Or.inl ⟨hsets, hunset⟩
    | cons x before =>
        obtain ⟨rfl, htail⟩ := List.cons.inj heq
        exact Or.inr ⟨before, data', after, htail, hsets, hunset⟩
  · rintro (⟨hsets, hunset⟩ | ⟨before, data', after, heq, hsets, hunset⟩)
    · exact ⟨[], data, rest, rfl, hsets, hunset⟩
    · exact ⟨data :: before, data', after, by rw [heq]; rfl, hsets, hunset⟩

theorem readable_cons_of_seen (h : ∀ b, Takes settings key ps data b → b ∈ seen)
    {before : List PyVal} {data' : PyVal} :
    Readable settings key ps seen (data :: before) data' ↔
      Readable settings key ps seen before data' := by
  have hiff (b : String) :
      (b ∈ seen ∨ (∃ e ∈ data :: before, Takes settings key ps e b)) ↔
        (b ∈ seen ∨ ∃ e ∈ before, Takes settings key ps e b) := by
    constructor
    · rintro (hmem | ⟨e, he, htakes⟩)
      · exact Or.inl hmem
      · obtain rfl | he := List.mem_cons.mp he
        · exact Or.inl (h b htakes)
        · exact Or.inr ⟨e, he, htakes⟩
    · rintro (hmem | ⟨e, he, htakes⟩)
      · exact Or.inl hmem
      · exact Or.inr ⟨e, List.mem_cons_of_mem _ he, htakes⟩
  simp only [Readable, ← or_assoc, hiff]

theorem readable_cons_of_takes {b : String} (h : Takes settings key ps data b)
    {before : List PyVal} {data' : PyVal} :
    Readable settings key ps seen (data :: before) data' ↔
      Readable settings key ps (b :: seen) before data' := by
  have hiff (b' : String) :
      (b' ∈ seen ∨ (∃ e ∈ data :: before, Takes settings key ps e b')) ↔
        (b' ∈ b :: seen ∨ ∃ e ∈ before, Takes settings key ps e b') := by
    constructor
    · rintro (hmem | ⟨e, he, htakes⟩)
      · exact Or.inl (List.mem_cons_of_mem _ hmem)
      · obtain rfl | he := List.mem_cons.mp he
        · exact Or.inl (by rw [htakes.unique h]; exact List.mem_cons_self)
        · exact Or.inr ⟨e, he, htakes⟩
    · rintro (hmem | ⟨e, he, htakes⟩)
      · obtain rfl | hmem := List.mem_cons.mp hmem
        · exact Or.inr ⟨data, List.mem_cons_self, h⟩
        · exact Or.inl hmem
      · exact Or.inr ⟨e, List.mem_cons_of_mem _ he, htakes⟩
  simp only [Readable, ← or_assoc, hiff]

theorem setLast_cons_of_seen (h : ∀ b, Takes settings key ps data b → b ∈ seen) :
    SetLast settings key ps seen (data :: rest) host backend ↔
      SetLast settings key ps seen rest host backend := by
  have hnot : ¬ Sets settings key ps seen [] data host backend := fun hsets =>
    hsets.unseen (h _ ⟨hsets.listens, host, hsets.named, hsets.named_ne⟩)
  rw [setLast_cons, SetLast]
  simp only [hnot, false_and, false_or, sets_cons_of_seen h, unset_cons_of_seen h]

theorem setLast_cons_of_sets {host' b : String}
    (h : Sets settings key ps seen [] data host' b) :
    SetLast settings key ps seen (data :: rest) host backend ↔
      (host' = host ∧ b = backend ∧ Unset settings key ps (b :: seen) [] rest host) ∨
        SetLast settings key ps (b :: seen) rest host backend := by
  have htakes : Takes settings key ps data b := ⟨h.listens, host', h.named, h.named_ne⟩
  have hself : Sets settings key ps seen [] data host backend ↔ host' = host ∧ b = backend := by
    constructor
    · intro hsets
      refine ⟨?_, ?_⟩
      · simpa using h.named.symm.trans hsets.named
      · simpa using h.listens.symm.trans hsets.listens
    · rintro ⟨rfl, rfl⟩
      exact h
  rw [setLast_cons, SetLast]
  simp only [hself, unset_cons_of_takes htakes, sets_cons_of_takes htakes, and_assoc]

/-! ## the loop -/

/-- A step of the loop that returned. -/
theorem newRoutes_cons {routes : List (String × String)}
    (h : newRoutes settings key ps seen (data :: rest) = .ok routes) :
    ((∀ b, Takes settings key ps data b → b ∈ seen) ∧
        newRoutes settings key ps seen rest = .ok routes) ∨
      ∃ host b tail, Sets settings key ps seen [] data host b ∧
        newRoutes settings key ps (b :: seen) rest = .ok tail ∧ routes = (host, b) :: tail := by
  obtain ⟨backend, hbackend, h⟩ := Except.bind_eq_ok_iff.mp h
  have htaken (b : String) (htakes : Takes settings key ps data b) : backend = some b :=
    Except.ok.inj (hbackend.symm.trans htakes.1)
  cases backend with
  | none => exact Or.inl ⟨fun b htakes => by simpa using htaken b htakes, h⟩
  | some backend =>
      simp only at h
      split at h
      · next hseen =>
        refine Or.inl ⟨fun b htakes => ?_, h⟩
        rw [← Option.some.inj (htaken b htakes)]
        exact hseen
      · next hseen =>
        obtain ⟨host, hhost, h⟩ := Except.bind_eq_ok_iff.mp h
        split at h
        · next hblank =>
          refine Or.inl ⟨fun b htakes => ?_, h⟩
          obtain ⟨-, host', hhost', hne⟩ := htakes
          rw [← Except.ok.inj (hhost.symm.trans hhost')] at hne
          exact absurd hblank hne
        · next hblank =>
          obtain ⟨tail, htail, h⟩ := Except.bind_eq_ok_iff.mp h
          exact Or.inr ⟨host, backend, tail, ⟨hbackend, hhost, hblank, hseen, by simp⟩, htail,
            (Except.ok.inj h).symm⟩

/-- What a dictionary of the routes says of a host. -/
theorem lastWins_newRoutes {docs : List PyVal} {routes : List (String × String)}
    (h : newRoutes settings key ps seen docs = .ok routes) :
    (lastWins host routes = none ↔ Unset settings key ps seen [] docs host) ∧
      ∀ backend, lastWins host routes = some backend ↔
        SetLast settings key ps seen docs host backend := by
  induction docs generalizing seen routes with
  | nil =>
      cases h
      constructor
      · simp [Unset]
      · simp [SetLast]
  | cons data rest ih =>
      obtain ⟨hseen, hrest⟩ | ⟨host', b, tail, hsets, hrest, rfl⟩ := newRoutes_cons h
      · obtain ⟨hnone, hsome⟩ := ih hrest
        have hnot : ∀ backend, ¬ Sets settings key ps seen [] data host backend :=
          fun backend hs => hs.unseen (hseen _ ⟨hs.listens, host, hs.named, hs.named_ne⟩)
        refine ⟨?_, fun backend => ?_⟩
        · rw [hnone, unset_nil_cons, unset_cons_of_seen hseen, and_iff_right hnot]
        · rw [hsome, setLast_cons_of_seen hseen]
      · obtain ⟨hnone, hsome⟩ := ih hrest
        have htakes : Takes settings key ps data b :=
          ⟨hsets.listens, host', hsets.named, hsets.named_ne⟩
        rw [lastWins_cons]
        refine ⟨?_, fun backend => ?_⟩
        · rw [Option.or_eq_none_iff, hnone, unset_nil_cons, unset_cons_of_takes htakes, and_comm]
          refine and_congr_left fun _ => ?_
          constructor
          · intro hne backend hs
            have heq : host' = host := by simpa using hsets.named.symm.trans hs.named
            simp [heq] at hne
          · intro hnot
            refine if_neg ?_
            rintro rfl
            exact hnot b hsets
        · rw [Option.or_eq_some_iff, hsome, hnone, setLast_cons_of_sets hsets, or_comm]
          refine or_congr ?_ Iff.rfl
          constructor
          · rintro ⟨hunset, hif⟩
            split at hif
            · next heq => exact ⟨heq, Option.some.inj hif, hunset⟩
            · cases hif
          · rintro ⟨rfl, rfl, hunset⟩
            exact ⟨hunset, if_pos rfl⟩

/-- Every config of a list can be read at its place. -/
theorem forall_readable_cons :
    (∀ before data' after, data :: rest = before ++ data' :: after →
        Readable settings key ps seen before data') ↔
      Readable settings key ps seen [] data ∧ ∀ before data' after,
        rest = before ++ data' :: after →
          Readable settings key ps seen (data :: before) data' := by
  constructor
  · intro h
    refine ⟨h [] data rest rfl, fun before data' after heq => ?_⟩
    exact h (data :: before) data' after (by rw [heq]; rfl)
  · rintro ⟨hdata, hrest⟩ before data' after heq
    cases before with
    | nil =>
        obtain ⟨rfl, -⟩ := List.cons.inj heq
        exact hdata
    | cons x before =>
        obtain ⟨rfl, htail⟩ := List.cons.inj heq
        exact hrest before data' after htail

theorem readable_of_newRoutes {routes : List (String × String)}
    (h : newRoutes settings key ps seen (data :: rest) = .ok routes) :
    Readable settings key ps seen [] data := by
  obtain ⟨backend, hbackend, h⟩ := Except.bind_eq_ok_iff.mp h
  refine ⟨backend, hbackend, ?_⟩
  rintro b rfl
  simp only at h
  split at h
  · next hseen => exact Or.inl hseen
  · obtain ⟨host, hhost, -⟩ := Except.bind_eq_ok_iff.mp h
    exact Or.inr (Or.inr ⟨host, hhost⟩)

/-- A config that can be read takes no new backend, or sets a route. -/
theorem Readable.cases (h : Readable settings key ps seen [] data) (rest : List PyVal) :
    ((∀ b, Takes settings key ps data b → b ∈ seen) ∧
        newRoutes settings key ps seen (data :: rest) = newRoutes settings key ps seen rest) ∨
      ∃ host b, Sets settings key ps seen [] data host b ∧
        newRoutes settings key ps seen (data :: rest) =
          (newRoutes settings key ps (b :: seen) rest).map ((host, b) :: ·) := by
  obtain ⟨backend, hbackend, hread⟩ := h
  have htaken (b : String) (htakes : Takes settings key ps data b) : backend = some b :=
    Except.ok.inj (hbackend.symm.trans htakes.1)
  cases backend with
  | none =>
      refine Or.inl ⟨fun b htakes => by simpa using htaken b htakes, ?_⟩
      rw [newRoutes, hbackend]
      rfl
  | some b =>
      by_cases hseen : b ∈ seen
      · refine Or.inl ⟨fun b' htakes => ?_, by simp [newRoutes, hbackend, hseen]⟩
        rw [← Option.some.inj (htaken b' htakes)]
        exact hseen
      · obtain hmem | ⟨e, he, -⟩ | ⟨host, hhost⟩ := hread b rfl
        · exact absurd hmem hseen
        · cases he
        · by_cases hblank : host = ""
          · refine Or.inl ⟨fun b' htakes => ?_, by simp [newRoutes, hbackend, hhost, hblank]⟩
            obtain ⟨-, host', hhost', hne⟩ := htakes
            exact absurd ((Except.ok.inj (hhost'.symm.trans hhost)).trans hblank) hne
          · refine Or.inr ⟨host, b, ⟨hbackend, hhost, hblank, hseen, by simp⟩, ?_⟩
            cases hrest : newRoutes settings key ps (b :: seen) rest with
            | error e => simp [newRoutes, hbackend, hseen, hhost, hblank, hrest, Except.map]
            | ok routes => simp [newRoutes, hbackend, hseen, hhost, hblank, hrest, Except.map]

/-- The loop returns exactly when every config it comes to can be read. -/
theorem exists_newRoutes_iff {docs : List PyVal} :
    (∃ routes, newRoutes settings key ps seen docs = .ok routes) ↔
      ∀ before data after, docs = before ++ data :: after →
        Readable settings key ps seen before data := by
  induction docs generalizing seen with
  | nil => simp [newRoutes]
  | cons data rest ih =>
      rw [forall_readable_cons]
      by_cases hread : Readable settings key ps seen [] data
      · obtain ⟨hseen, heq⟩ | ⟨host, b, hsets, heq⟩ := hread.cases rest
        · simp only [heq, ih, hread, true_and, readable_cons_of_seen hseen]
        · have htakes : Takes settings key ps data b :=
            ⟨hsets.listens, host, hsets.named, hsets.named_ne⟩
          simp only [heq, hread, true_and, readable_cons_of_takes htakes, ← ih]
          cases newRoutes settings key ps (b :: seen) rest <;> simp [Except.map]
      · simp only [hread, false_and, iff_false]
        rintro ⟨routes, hroutes⟩
        exact hread (readable_of_newRoutes hroutes)

/-- A config after the loop, with a backend that was taken, changes nothing. -/
theorem newRoutes_append {x : PyVal} {docs : List PyVal}
    (htakes : Takes settings key ps x backend) (h : backend ∈ seen ∨ x ∈ docs) :
    newRoutes settings key ps seen (docs ++ [x]) = newRoutes settings key ps seen docs := by
  obtain ⟨hbackend, host, hhost, hne⟩ := id htakes
  induction docs generalizing seen with
  | nil =>
      have hseen : backend ∈ seen := by simpa using h
      simp [newRoutes, hbackend, hseen]
  | cons data rest ih =>
      rw [List.cons_append, newRoutes, newRoutes]
      cases hdata : liveBackend ps data with
      | error e => rfl
      | ok taken =>
          have hlater : x = data ∨ backend ∈ seen ∨ x ∈ rest := by
            obtain hseen | hmem := h
            · exact Or.inr (Or.inl hseen)
            · exact (List.mem_cons.mp hmem).imp_right Or.inr
          cases taken with
          | none =>
              refine ih (hlater.resolve_left ?_)
              rintro rfl
              simp [hbackend] at hdata
          | some b =>
              have hself (heq : x = data) : b = backend := by
                rw [← heq, hbackend] at hdata
                simpa using hdata.symm
              by_cases hb : b ∈ seen
              · have hrest : backend ∈ seen ∨ x ∈ rest := by
                  obtain heq | h := hlater
                  · exact Or.inl (hself heq ▸ hb)
                  · exact h
                simpa [hb] using ih hrest
              · have hrest : backend ∈ b :: seen ∨ x ∈ rest := by
                  obtain heq | hseen | hrest := hlater
                  · simp [hself heq]
                  · exact Or.inl (List.mem_cons_of_mem _ hseen)
                  · exact Or.inr hrest
                cases hname : routeHost settings key ps data with
                | error e => simp [hb]
                | ok name =>
                    by_cases hblank : name = ""
                    · -- such a config sets no route, so it is not this one
                      have hother : x ≠ data := by
                        rintro rfl
                        exact hne ((Except.ok.inj (hhost.symm.trans hname)).trans hblank)
                      simpa [hb, hblank] using ih (hlater.resolve_left hother)
                    · simp [hb, hblank, ih hrest]

/-- The loop over the live configs and the one written last. -/
theorem mem_tlsRoutes_iff {glob : Glob} {injected : PyVal} {live : List PyVal}
    (hlive : loadLiveConfigsForProfile settings glob key = .ok live)
    (hmem : injected ∈ live) (htakes : Takes settings key ps injected backend) {h b : String} :
    (∃ routes, tlsRoutes settings glob key ps (some injected) = .ok routes ∧
        (h, b) ∈ routes) ↔
      ∃ routes, newRoutes settings key ps [] live = .ok routes ∧ lastWins h routes = some b := by
  rw [tlsRoutes, hlive]
  simp only [Except.ok_bind_eq, Option.toList_some, collectTlsRoutes_eq,
    newRoutes_append htakes (Or.inr hmem)]
  cases newRoutes settings key ps [] live with
  | error e => simp [Except.map]
  | ok routes => simp [Except.map, Dict.mem_entries_iff, Dict.get?_setAll]

/-- A TLS host of the config is the host it is routed under. -/
theorem routeHost_of_tlsHost {data : PyVal} {host : String}
    (h : tlsHostFromConfig key data ps = .ok (some host)) :
    routeHost settings key ps data = .ok host := by
  rw [routeHost, h]
  rfl

theorem strip_of_strip {v : PyVal} {s : String} (h : v.strip = .ok s) : PyStr.strip s = s := by
  cases v with
  | str t =>
      obtain rfl := Except.ok.inj h
      exact PyStr.strip_strip t
  | _ => cases h

/-- A TLS host is stripped and not blank. -/
theorem tlsHost_spec {data : PyVal} {host : String}
    (h : tlsHostFromConfig key data ps = .ok (some host)) :
    PyStr.strip host = host ∧ host ≠ "" := by
  have hnonEmpty {s : String} (hstrip : PyStr.strip s = s)
      (hs : (if s ≠ "" then some s else none) = some host) :
      PyStr.strip host = host ∧ host ≠ "" := by
    split at hs
    · next hne =>
      obtain rfl := Option.some.inj hs
      exact ⟨hstrip, hne⟩
    · cases hs
  have htls (hkey : key ≠ .hysteria2) : PyStr.strip host = host ∧ host ≠ "" := by
    rw [tlsHostFromConfig.eq_2 _ _ _ hkey] at h
    split at h
    · simp at h
    · obtain ⟨stream, -, h⟩ := Except.bind_eq_ok_iff.mp h
      obtain ⟨tls, -, h⟩ := Except.bind_eq_ok_iff.mp h
      obtain ⟨serverName, -, h⟩ := Except.bind_eq_ok_iff.mp h
      obtain ⟨name, hname, h⟩ := Except.bind_eq_ok_iff.mp h
      split at h
      · next hne =>
        obtain rfl := Option.some.inj (Except.ok.inj h)
        exact ⟨strip_of_strip hname, hne⟩
      · obtain ⟨xhttp, -, h⟩ := Except.bind_eq_ok_iff.mp h
        obtain ⟨xhost, -, h⟩ := Except.bind_eq_ok_iff.mp h
        obtain ⟨name, hname, h⟩ := Except.bind_eq_ok_iff.mp h
        exact hnonEmpty (strip_of_strip hname) (Except.ok.inj h)
  by_cases hkey : key = .hysteria2
  · subst hkey
    obtain ⟨tls, -, h⟩ := Except.bind_eq_ok_iff.mp h
    obtain ⟨sni, -, h⟩ := Except.bind_eq_ok_iff.mp h
    obtain ⟨name, hname, h⟩ := Except.bind_eq_ok_iff.mp h
    exact hnonEmpty (strip_of_strip hname) (Except.ok.inj h)
  · exact htls hkey

end

/-- **The written config and its host.**  It is among the live configs, so the
loop skips it when it comes last: its host has its backend exactly when the
configs can be read, the first config with that backend is routed under that
host, and no later one with a backend of its own is. -/
theorem injectedWins_iff (settings : PanelSettings) (glob : Glob) (key : ConfigProfile)
    (ps : VpnProfileSettings) (injected : PyVal) (live : List PyVal) (h b : String)
    (hkey : key = .xrayXhttp ∨ key = .xrayGrpc) (hps : settings.profiles key = some ps)
    (hshared : shared443Enabled ps = true)
    (hlive : loadLiveConfigsForProfile settings glob key = .ok live) (hmem : injected ∈ live)
    (hbackend : liveBackend ps injected = .ok (some b))
    (hhost : tlsHostFromConfig key injected ps = .ok (some h)) :
    (∃ routes, routesForMuxProfile settings glob key (some injected) = .ok routes ∧
        (h, b) ∈ routes) ↔
      (∀ before data after, live = before ++ data :: after →
        Readable settings key ps [] before data) ∧ SetLast settings key ps [] live h b := by
  have htls : routesForMuxProfile settings glob key (some injected) =
      tlsRoutes settings glob key ps (some injected) := by
    have hne : key ≠ .xrayReality := by
      rintro rfl
      simp at hkey
    simp [routesForMuxProfile, hps, hshared, hne]
  have htakes : Takes settings key ps injected b :=
    ⟨hbackend, h, routeHost_of_tlsHost hhost, (tlsHost_spec hhost).2⟩
  rw [htls, mem_tlsRoutes_iff hlive hmem htakes, ← exists_newRoutes_iff]
  constructor
  · rintro ⟨routes, hroutes, hlast⟩
    exact ⟨⟨routes, hroutes⟩, ((lastWins_newRoutes hroutes).2 b).mp hlast⟩
  · rintro ⟨⟨routes, hroutes⟩, hlast⟩
    exact ⟨routes, hroutes, ((lastWins_newRoutes hroutes).2 b).mpr hlast⟩

/-- A profile behind the mux. -/
def muxProfile : VpnProfileSettings :=
  { sampleProfile with sharePublicPort := some 443, listenAddress := some "127.0.0.1" }

/-- An installation with the xHTTP profile behind the mux. -/
def muxSettings : PanelSettings where
  systemd := { perConfig := true }
  profiles := fun
    | .xrayXhttp => some muxProfile
    | _ => none

/-- A live config: an inbound on `port` for the TLS host `host`. -/
def muxConfig (port : Int) (host : String) : PyVal :=
  .dict [("inbounds", .list [.dict [("tag", .str "vless"), ("port", .int port),
    ("streamSettings", .dict [("tlsSettings", .dict [("serverName", .str host)])])]])]

/-- Two live configs with hosts of their own: the first sets the route. -/
theorem setLast_of_hosts :
    let first := muxConfig 2083 "a.example.com"
    let second := muxConfig 2084 "b.example.com"
    let glob : Glob := fun _ _ => [some first, some second]
    (∃ routes, routesForMuxProfile muxSettings glob .xrayXhttp (some first) = .ok routes ∧
        ("a.example.com", "127.0.0.1:2083") ∈ routes) ∧
      SetLast muxSettings .xrayXhttp muxProfile [] [first, second]
        "a.example.com" "127.0.0.1:2083" := by
  intro first second glob
  have hroutes : ∃ routes, routesForMuxProfile muxSettings glob .xrayXhttp (some first) =
      .ok routes ∧ ("a.example.com", "127.0.0.1:2083") ∈ routes :=
    ⟨[("a.example.com", "127.0.0.1:2083"), ("b.example.com", "127.0.0.1:2084")], rfl, by simp⟩
  have hiff := injectedWins_iff muxSettings glob .xrayXhttp muxProfile first [first, second]
    "a.example.com" "127.0.0.1:2083" (Or.inl rfl) rfl rfl rfl (by simp) rfl rfl
  exact ⟨hroutes, (hiff.mp hroutes).2⟩

/-- The config just written comes first on disk, and another live config of
its host after it: the host has the backend of the other. -/
theorem not_injectedWins_of_laterConfig :
    let injected := muxConfig 2083 "vpn.example.com"
    let other := muxConfig 2084 "vpn.example.com"
    let glob : Glob := fun _ _ => [some injected, some other]
    loadLiveConfigsForProfile muxSettings glob .xrayXhttp = .ok [injected, other] ∧
      liveBackend muxProfile injected = .ok (some "127.0.0.1:2083") ∧
      tlsHostFromConfig .xrayXhttp injected muxProfile = .ok (some "vpn.example.com") ∧
      ¬ ∃ routes, routesForMuxProfile muxSettings glob .xrayXhttp (some injected) = .ok routes ∧
        ("vpn.example.com", "127.0.0.1:2083") ∈ routes := by
  intro injected other glob
  have hroutes : routesForMuxProfile muxSettings glob .xrayXhttp (some injected) =
      .ok [("vpn.example.com", "127.0.0.1:2084")] := rfl
  refine ⟨rfl, rfl, rfl, ?_⟩
  rintro ⟨routes, hok, hmem⟩
  rw [hroutes] at hok
  cases hok
  simp at hmem

end VpnPanel
