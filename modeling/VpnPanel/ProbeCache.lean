import VpnPanel.RowLocks
import VpnPanel.VpnConnectivity
import VpnPanel.Lib.TtlCache

/-!
# VpnPanel.ProbeCache

The cache of the connectivity probe, `probe_config_connectivity`, beside the lifecycle.

A status request reads the snapshot of a version and probes it in a thread of its own;
meanwhile edits and builds commit.  The cache is keyed by config and version: a build
makes a new version, an edit rewrites the one there is, and neither tells the cache.

* `ProbePanel.step` — the panel's process: the lifecycle, the status requests and the
  monotonic clock, in any order;
* `EditsUnwatched` — no edit rewrites a version that a fresh entry or a status request is
  about;
* `coherent_of_editsUnwatched` — then what the cache answers for a snapshot was probed
  for the same port and document, and not too long ago.
-/

namespace VpnPanel

/-- `VpnConnectivityProbe`. -/
structure VpnConnectivityProbe where
  reachable : Option Bool
  detail : Option String := none
  deriving DecidableEq, Repr

/-- `connectivity_probe_enabled` and `connectivity_probe_cache_seconds`. -/
structure ProbeSettings where
  enabled : Bool := true
  cacheSeconds : Nat := 60

/-- `cache_key`. -/
def cacheKey (snapshot : ConfigVersionSnapshot) : ConfigId × Nat :=
  (snapshot.configId, snapshot.version)

/-- How long a result may be used, in microseconds: `success_ttl` and `failure_ttl`. -/
def probeTtl (ps : ProbeSettings) (probe : VpnConnectivityProbe) : Nat :=
  let successTtl := ps.cacheSeconds
  let failureTtl := min 15 successTtl
  (if probe.reachable = some true then successTtl else failureTtl) * 1000000

/-- The panel's process, with `_CACHE` and its status requests. -/
structure ProbePanel where
  world : World
  cache : TtlCache RequestId (ConfigId × Nat) ConfigVersionSnapshot VpnConnectivityProbe

/-- What can happen. -/
inductive ProbeAction where
  | lifecycle (a : Action)
  /-- A status request reads the snapshot of a version. -/
  | read (i : RequestId) (c : ConfigId) (v : Nat)
  /-- It calls `probe_config_connectivity`. -/
  | probe (i : RequestId)
  /-- The probe it had to make is over. -/
  | probed (i : RequestId) (outcome : VpnConnectivityProbe)
  | elapse (d : Nat)

namespace ProbePanel

def init (host : Host) : ProbePanel := ⟨World.init host, TtlCache.empty⟩

/-- A status request reads a snapshot. -/
def readSnapshot (p : ProbePanel) (i : RequestId) (c : ConfigId) (v : Nat) : ProbePanel :=
  match getVersionSnapshot p.world.db c v with
  | some snapshot => { p with cache := p.cache.read i snapshot }
  | none => p

/-- `probe_config_connectivity` up to the probe; with the probe switched off, the cache
is not used. -/
def probeConfigConnectivity (ps : ProbeSettings) (p : ProbePanel) (i : RequestId) : ProbePanel :=
  if ps.enabled then { p with cache := p.cache.call cacheKey (probeTtl ps) i } else p

/-- One step. -/
def step (ctx : Ctx) (ps : ProbeSettings) (p : ProbePanel) : ProbeAction → ProbePanel
  | .lifecycle a => { p with world := VpnPanel.step ctx p.world a }
  | .read i c v => p.readSnapshot i c v
  | .probe i => p.probeConfigConnectivity ps i
  | .probed i outcome => { p with cache := p.cache.finish cacheKey i outcome }
  | .elapse d => { p with cache := p.cache.elapse d }

end ProbePanel

/-- A run of the panel's process from an installation without configs. -/
abbrev runProbes (ctx : Ctx) (ps : ProbeSettings) (host : Host) (as : List ProbeAction) :
    ProbePanel := Machine.run (ProbePanel.step ctx ps) (ProbePanel.init host) as

/-! ## snapshots that are current -/

/-- Snapshots of one version with one port and document. -/
structure SameSnapshot (s s' : ConfigVersionSnapshot) : Prop where
  configId : s.configId = s'.configId
  version : s.version = s'.version
  port : s.port = s'.port
  configData : s.configData = s'.configData

/-- The version is stored with the port and the document of the snapshot. -/
def IsCurrent (db : Db) (s : ConfigVersionSnapshot) : Prop :=
  ∃ row, db.versions s.configId s.version = some row ∧ row.port = s.port ∧
    row.configData = s.configData

theorem isCurrent_of_getVersionSnapshot {db : Db} {c : ConfigId} {v : Nat}
    {s : ConfigVersionSnapshot} (h : getVersionSnapshot db c v = some s) : IsCurrent db s := by
  unfold getVersionSnapshot at h
  split at h
  · next config row hconfig hrow =>
    obtain rfl := Option.some.inj h
    exact ⟨row, hrow, rfl, rfl⟩
  · contradiction

/-- The current snapshots of a key are the same. -/
theorem sameSnapshot_of_isCurrent {db : Db} {s s' : ConfigVersionSnapshot} (h : IsCurrent db s)
    (h' : IsCurrent db s') (hkey : cacheKey s = cacheKey s') : SameSnapshot s s' := by
  obtain ⟨hc, hv⟩ := Prod.mk.inj hkey
  obtain ⟨row, hrow, hport, hdata⟩ := h
  obtain ⟨row', hrow', hport', hdata'⟩ := h'
  rw [hc, hv, hrow'] at hrow
  obtain rfl := Option.some.inj hrow
  exact ⟨hc, hv, hport.symm.trans hport', hdata.symm.trans hdata'⟩

/-! ## edits -/

/-- A step that commits an edit leaves the port and the document of the version as they
were, or nothing watches the version: no entry for it is fresh, and no status request
holds a snapshot of it. -/
def EditsUnwatched (ps : ProbeSettings) (p : ProbePanel) : ProbeAction → Prop
  | .lifecycle (.advance r env) => env.committed = none → ∀ plan loaded row,
      p.world.requests r = some (.editing (.committing plan loaded)) →
      p.world.db.versions plan.configId plan.version = some row →
      ((plan.update loaded row).port = row.port ∧
        (plan.update loaded row).configData = row.configData) ∨
      ¬ p.cache.Watching cacheKey (probeTtl ps) (plan.configId, plan.version)
  | _ => True

section Steps

variable {ctx : Ctx} {ps : ProbeSettings} {p : ProbePanel}

/-- What a step of the lifecycle leaves current, of what the cache watches. -/
theorem isCurrent_of_step {a : Action} (hsound : Sound p.world)
    (hedits : EditsUnwatched ps p (.lifecycle a)) {s : ConfigVersionSnapshot}
    (h : IsCurrent p.world.db s)
    (hwatching : p.cache.Watching cacheKey (probeTtl ps) (cacheKey s)) :
    IsCurrent (step ctx p.world a).db s := by
  obtain heq | hstep : step ctx p.world a = p.world ∨ Step ctx p.world a (step ctx p.world a) :=
    step_cases a
  · rwa [heq]
  obtain ⟨row, hrow, hport, hdata⟩ := h
  obtain hsame | ⟨r, env, plan, loaded, rfl, hr, hdb, -, hcom⟩ |
    ⟨e, env, x, built, -, he, hstage, hdb, -, -, -⟩ := versions_eq_of_step hstep
  · exact ⟨row, by rw [hsame, hrow], hport, hdata⟩
  · by_cases hkey : s.configId = plan.configId ∧ s.version = plan.version
    · -- the version the edit rewrites
      obtain ⟨hc, hv⟩ := hkey
      rw [hc, hv] at hrow
      rw [cacheKey, hc, hv] at hwatching
      obtain ⟨hport', hdata'⟩ := (hedits hcom plan loaded row hr hrow).resolve_right
        (not_not_intro hwatching)
      refine ⟨plan.update loaded row, ?_,
        hport'.trans hport, hdata'.trans hdata⟩
      simp [hdb, commitEdit, hc, hv, hrow]
    · refine ⟨row, ?_, hport, hdata⟩
      simp [hdb, commitEdit, hkey, hrow]
  · -- a build commits a version that was not stored
    obtain ⟨n, hn⟩ := hsound.numbered x.payload.configId
    have htarget := hsound.target_of_committing he hstage hn
    have hne : ¬ (s.configId = x.payload.configId ∧ s.version = x.payload.targetVersion) := by
      rintro ⟨hc, hv⟩
      rw [hc] at hrow
      have hcounted := (hn.counted s.version).mp (by simp [hrow])
      omega
    refine ⟨row, ?_, hport, hdata⟩
    simp [hdb, commitBuild, Db.setVersion, hne, hrow]

/-- The lifecycle is sound, and the cache is for the rows as they stand. -/
structure CacheSound (ps : ProbeSettings) (p : ProbePanel) : Prop where
  world : Sound p.world
  cache : p.cache.Sound cacheKey (probeTtl ps) SameSnapshot (IsCurrent p.world.db)

theorem cacheSound_init (host : Host) : CacheSound ps (ProbePanel.init host) where
  world := sound_init host
  cache := TtlCache.sound_empty

theorem cacheSound_step (a : ProbeAction) (h : CacheSound ps p) (hedits : EditsUnwatched ps p a) :
    CacheSound ps (ProbePanel.step ctx ps p a) := by
  obtain ⟨hworld, hcache⟩ := h
  cases a with
  | lifecycle a =>
      refine ⟨sound_step p.world a hworld, hcache.change fun s hs hwatching => ?_⟩
      exact isCurrent_of_step hworld hedits hs hwatching
  | read i c v =>
      show CacheSound ps (p.readSnapshot i c v)
      unfold ProbePanel.readSnapshot
      split
      · next s hs => exact ⟨hworld, hcache.read (isCurrent_of_getVersionSnapshot hs) i⟩
      · exact ⟨hworld, hcache⟩
  | probe i =>
      show CacheSound ps (p.probeConfigConnectivity ps i)
      unfold ProbePanel.probeConfigConnectivity
      split
      · exact ⟨hworld, hcache.call (fun _ _ => sameSnapshot_of_isCurrent) i⟩
      · exact ⟨hworld, hcache⟩
  | probed i outcome => exact ⟨hworld, hcache.finish i outcome⟩
  | elapse d => exact ⟨hworld, hcache.elapse d⟩

end Steps

/-- **The cache is coherent** in a run whose edits rewrite no version that is watched:
every result it returned for a snapshot was obtained by a probe of the same config,
version, port and document, that began less than the result's time to live before. -/
theorem coherent_of_editsUnwatched (ctx : Ctx) (ps : ProbeSettings) (host : Host)
    (as : List ProbeAction)
    (h : Machine.Meets (ProbePanel.step ctx ps) (EditsUnwatched ps) (ProbePanel.init host) as) :
    (runProbes ctx ps host as).cache.Coherent (probeTtl ps) SameSnapshot := by
  have hsound : CacheSound ps (runProbes ctx ps host as) :=
    Machine.run_invariant_of_meets (fun p a hI hC => cacheSound_step a hI hC)
      (cacheSound_init host) h
  exact hsound.cache.coherent

/-! ## runs -/

/-- Config 0 has its first version; status request 0 reads it and probes it. -/
def probedFirst : List ProbeAction :=
  firstVersion.map .lifecycle ++
    [.read 0 0 1, .probe 0, .elapse 2000000, .probed 0 ⟨some true, some "via vpn.example:443"⟩]

/-- Status request 1 reads the version and calls the probe. -/
def probedAgain : List ProbeAction := [.read 1 0 1, .probe 1]

/-- An edit of config 0 moves its inbound. -/
def editPort : List ProbeAction :=
  .lifecycle (.edit 1 0 (.configData (.ofVal (sampleConfigData 8443)))) ::
    List.replicate 8 (.lifecycle (.advance 1 {}))

/-- A request that commits no edit rewrites nothing. -/
theorem editsUnwatched_of_not_editing {ps : ProbeSettings} {p : ProbePanel} {r : RequestId}
    {env : RequestEnv}
    (h : ∀ plan loaded, p.world.requests r ≠ some (.editing (.committing plan loaded))) :
    EditsUnwatched ps p (.lifecycle (.advance r env)) :=
  fun _ plan loaded _ hr => absurd hr (h plan loaded)

/-- Without an edit, the second request has the result of the first. -/
theorem coherent_of_probedAgain :
    (runProbes Ctx.sample {} Host.blank (probedFirst ++ probedAgain)).cache.answers.map
        (fun a => (a.row.port, a.at_, a.value.reachable)) = [(443, 2000000, some true)] ∧
      (runProbes Ctx.sample {} Host.blank (probedFirst ++ probedAgain)).cache.Coherent
        (probeTtl {}) SameSnapshot := by
  refine ⟨by decide, coherent_of_editsUnwatched Ctx.sample {} Host.blank _ ?_⟩
  refine ⟨trivial, editsUnwatched_of_not_editing ?_, editsUnwatched_of_not_editing ?_, trivial,
    trivial, trivial, trivial, trivial, trivial, trivial, trivial, trivial, trivial, trivial,
    trivial, trivial, trivial, trivial, trivial, trivial⟩
  · rintro plan loaded ⟨⟩
  · rintro plan loaded ⟨⟩

/-- **An edit does not tell the cache.**  The second request has read the version with the
port the edit gave it, and has the result of a probe of the old one. -/
theorem not_coherent_of_editPort :
    ¬ (runProbes Ctx.sample {} Host.blank (probedFirst ++ editPort ++ probedAgain)).cache.Coherent
      (probeTtl {}) SameSnapshot := by
  intro h
  have hanswers : (runProbes Ctx.sample {} Host.blank
      (probedFirst ++ editPort ++ probedAgain)).cache.answers.map (·.row.port) = [8443] := by
    decide
  have hasked : (runProbes Ctx.sample {} Host.blank
      (probedFirst ++ editPort ++ probedAgain)).cache.asked.map (·.row.port) = [443] := by
    decide
  obtain ⟨a, hport, ha⟩ : ∃ a, a.row.port = 8443 ∧ a ∈ (runProbes Ctx.sample {} Host.blank
      (probedFirst ++ editPort ++ probedAgain)).cache.answers := by
    obtain ⟨a, ha, hport⟩ := List.mem_map.mp (hanswers ▸ List.mem_singleton_self (8443 : Int))
    exact ⟨a, hport, ha⟩
  obtain ⟨q, hq, hsame, -⟩ := h a ha
  have hold : q.row.port = 443 := by
    have hmem := List.mem_map_of_mem (f := fun q => q.row.port) hq
    rw [hasked] at hmem
    exact List.mem_singleton.mp hmem
  have hnew := hsame.port.trans hport
  omega

end VpnPanel
