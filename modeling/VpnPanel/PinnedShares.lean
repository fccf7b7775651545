import VpnPanel.ShareValidity
import VpnPanel.RowLocks

/-!
# VpnPanel.PinnedShares

A pinned link resolves to the same URIs as long as it is valid.

What a pinned link resolves to is a function of its row and of the snapshot of
its version (`shareUris`).  Only the commit of an edit of the config changes
that snapshot (`snapshot_of_step`), whatever else happens, so the URIs are
those of the first resolution, but for what `random.choice` draws when a
Reality document names no destination host.
-/

namespace VpnPanel

/-- The step commits an edit of the config. -/
def CommitsEdit (w : World) (c : ConfigId) : Action → Prop
  | .advance r env => env.committed = none ∧
      ∃ plan loaded, w.requests r = some (.editing (.committing plan loaded)) ∧ plan.configId = c
  | _ => False

/-- No step of a run commits an edit of the config. -/
abbrev NoEdit (ctx : ShareCtx) (c : ConfigId) (p : Panel) (as : List PanelAction) : Prop :=
  Machine.Meets (Panel.step ctx)
    (fun p a => ∀ a', a = .lifecycle a' → ¬ CommitsEdit p.world c a') p as

/-! ## the snapshot of a version -/

section Snapshots

variable {ctx : Ctx} {w w' : World} {a : Action} {c : ConfigId} {v : Nat}

/-- What a snapshot reads of the config's row never changes. -/
theorem row_of_config (hstep : Step ctx w a w') {row : VpnConfigModel}
    (hrow : w.db.configs c = some row) :
    ∃ row', w'.db.configs c = some row' ∧ row'.profile = row.profile ∧ row'.name = row.name ∧
      row'.sharePublicHost = row.sharePublicHost := by
  obtain ⟨row', hrow'⟩ := configs_mono hstep hrow
  refine ⟨row', hrow', ?_⟩
  obtain ⟨-, -, hnone, -⟩ | ⟨row₀, hrow₀, hchange⟩ := row_of_step hstep hrow'
  · rw [hnone] at hrow
    contradiction
  · obtain rfl : row = row₀ := Option.some.inj (hrow.symm.trans hrow₀)
    cases hchange <;> exact ⟨rfl, rfl, rfl⟩

/-- A stored version is changed by the commits of edits of its config only. -/
theorem version_of_step (hsound : Sound w) (hstep : Step ctx w a w') (hno : ¬ CommitsEdit w c a)
    (hstored : (w.db.versions c v).isSome = true) : w'.db.versions c v = w.db.versions c v := by
  obtain hsame | ⟨r, env, plan, loaded, rfl, hr, hdb, -, hcom⟩ |
    ⟨e, env, x, row, rfl, he, hstage, hdb, -, -⟩ := versions_eq_of_step hstep
  · rw [hsame]
  · have hne : c ≠ plan.configId := by
      rintro rfl
      exact hno ⟨hcom, plan, loaded, hr, rfl⟩
    simp [hdb, commitEdit, hne]
  · -- a build commits a version that is not there
    have hne : ¬(c = x.payload.configId ∧ v = x.payload.targetVersion) := by
      rintro ⟨rfl, rfl⟩
      have habsent := hsound.absent e x row he hstage
      rw [Db.hasVersion, hstored] at habsent
      contradiction
    simp [hdb, commitBuild, Db.setVersion, hne]

/-- **Frame.**  The snapshot of a stored version is changed by the commits of
edits of its config only. -/
theorem snapshot_of_step (hsound : Sound w) (hstep : Step ctx w a w') (hno : ¬ CommitsEdit w c a)
    {snapshot : ConfigVersionSnapshot} (h : getVersionSnapshot w.db c v = some snapshot) :
    getVersionSnapshot w'.db c v = some snapshot := by
  unfold getVersionSnapshot at h ⊢
  cases hrow : w.db.getModel c with
  | none => simp [hrow] at h
  | some row =>
      cases hversion : w.db.versions c v with
      | none => simp [hrow, hversion] at h
      | some vrow =>
          obtain ⟨row', hrow', hprofile, hname, hhost⟩ := row_of_config hstep hrow
          have hversion' := version_of_step hsound hstep hno (by rw [hversion]; rfl)
          have hmodel : w'.db.getModel c = some row' := hrow'
          rw [hmodel, hversion', hversion]
          simpa [hrow, hversion, hprofile, hname, hhost] using h

end Snapshots

/-- The same along a run of the panel. -/
theorem snapshot_of_run {ctx : ShareCtx} {p : Panel} {as : List PanelAction} {c : ConfigId}
    {v : Nat} {snapshot : ConfigVersionSnapshot} (hsound : Sound p.world)
    (hno : NoEdit ctx c p as) (h : getVersionSnapshot p.world.db c v = some snapshot) :
    getVersionSnapshot (Machine.run (Panel.step ctx) p as).world.db c v = some snapshot := by
  refine (Machine.run_invariant_of_meets (I := fun p : Panel =>
    Sound p.world ∧ getVersionSnapshot p.world.db c v = some snapshot) ?_ ⟨hsound, h⟩ hno).2
  rintro p a ⟨hsound, h⟩ hno
  cases a with
  | share a =>
      show Sound (p.share ctx a).world ∧ getVersionSnapshot (p.share ctx a).world.db c v = _
      rw [world_share]
      exact ⟨hsound, h⟩
  | lifecycle a =>
      refine ⟨sound_step p.world a hsound, ?_⟩
      obtain heq | hstep : step ctx.toCtx p.world a = p.world ∨
          Step ctx.toCtx p.world a (step ctx.toCtx p.world a) := step_cases a
      · show getVersionSnapshot (step ctx.toCtx p.world a).db c v = _
        rw [heq, h]
      · exact snapshot_of_step hsound hstep (hno a rfl) h

/-! ## what `random.choice` draws -/

/-- The host the `dest` of a Reality section names. -/
def realityDestHost (reality : PyVal) : Except PyErr String := do
  let dest ← reality.get "dest"
  .ok (destHostname (dest.orElse (.str "")).toStr)

/-- The host the `dest` of a Reality document names. -/
def documentDestHost (tag : String) (configData : PyVal) : Except PyErr String := do
  let inbound ← findInbound configData tag
  let stream ← inbound.item "streamSettings"
  let reality ← stream.item "realitySettings"
  realityDestHost reality

/-- The document of a snapshot, as it is served. -/
def ConfigVersionSnapshot.configPlain (ctx : Ctx) (snapshot : ConfigVersionSnapshot) :
    Except PyErr PyVal :=
  decryptConfigDataFields ctx.encryptor (sensitiveFields snapshot.profile) snapshot.configData

/-- A Reality snapshot names a destination host. -/
def NamesDest (ctx : Ctx) (snapshot : ConfigVersionSnapshot) : Prop :=
  snapshot.profile = .xrayReality → ∀ ps configPlain,
    ctx.settings.profiles .xrayReality = some ps → snapshot.configPlain ctx = .ok configPlain →
    documentDestHost ps.inboundTag configPlain ≠ .ok ""

/-- Where `dest` names a host, no server name is drawn. -/
theorem realityShareSni_rnd {reality : PyVal} (h : realityDestHost reality ≠ .ok "")
    (rnd rnd' : Nat) : realityShareSni rnd reality = realityShareSni rnd' reality := by
  unfold realityDestHost at h
  unfold realityShareSni
  cases hdest : reality.get "dest" with
  | error e => simp
  | ok dest =>
      have hhost : destHostname (dest.orElse (.str "")).toStr ≠ "" := by simpa [hdest] using h
      simp [hhost]

theorem buildRealityUri_rnd {inbound : PyVal}
    (h : ∀ stream reality, inbound.item "streamSettings" = .ok stream →
      stream.item "realitySettings" = .ok reality → realityDestHost reality ≠ .ok "")
    (rnd rnd' : Nat) (clientId : PyVal) (host : String) (port : Int) (publicKey label : String) :
    buildRealityUri rnd inbound clientId host port publicKey label =
      buildRealityUri rnd' inbound clientId host port publicKey label := by
  cases hstream : inbound.item "streamSettings" with
  | error e => simp only [buildRealityUri, hstream, Except.error_bind_eq]
  | ok stream =>
      cases hreality : stream.item "realitySettings" with
      | error e =>
          simp only [buildRealityUri, hstream, hreality, Except.ok_bind_eq, Except.error_bind_eq]
      | ok reality =>
          have hsni := realityShareSni_rnd (h stream reality hstream hreality) rnd rnd'
          simp only [buildRealityUri, hstream, hreality, Except.ok_bind_eq, hsni]

theorem buildShareUris_rnd {profile : ConfigProfile} {configData : PyVal} {tag : String}
    (h : profile = .xrayReality → documentDestHost tag configData ≠ .ok "") (rnd rnd' : Nat)
    (host publicKey certFingerprint : String) (secure : Bool) (publicPort : Option Nat) :
    buildShareUris rnd profile configData host publicKey certFingerprint tag secure publicPort =
      buildShareUris rnd' profile configData host publicKey certFingerprint tag secure
        publicPort := by
  cases profile with
  | xrayReality =>
      have hdest := h rfl
      unfold documentDestHost at hdest
      cases hinbound : findInbound configData tag with
      | error e => simp only [buildShareUris, hinbound, Except.error_bind_eq]
      | ok inbound =>
          have hnamed : ∀ stream reality, inbound.item "streamSettings" = .ok stream →
              stream.item "realitySettings" = .ok reality → realityDestHost reality ≠ .ok "" := by
            intro stream reality hstream hreality
            simpa [hinbound, hstream, hreality] using hdest
          have huri := buildRealityUri_rnd hnamed rnd rnd'
          simp only [buildShareUris, hinbound, Except.ok_bind_eq, huri]
  | xrayGrpc | xrayXhttp | hysteria2 => simp only [buildShareUris]

/-- What a snapshot that names its destination gives does not depend on what
is drawn. -/
theorem urisForSnapshot_rnd {ctx : Ctx} {snapshot : ConfigVersionSnapshot}
    (h : NamesDest ctx snapshot) (draw draw' : ConfigId → Nat) (secure : Bool) :
    urisForSnapshot ctx draw secure snapshot = urisForSnapshot ctx draw' secure snapshot := by
  cases hplain : decryptConfigDataFields ctx.encryptor (sensitiveFields snapshot.profile)
    snapshot.configData with
  | error e => simp only [urisForSnapshot, hplain, Except.error_bind_eq]
  | ok configPlain =>
      cases hps : ctx.settings.profiles snapshot.profile with
      | none =>
          simp only [urisForSnapshot, hplain, buildClientUris, PanelSettings.profileSettings, hps,
            Except.ok_bind_eq, Except.error_bind_eq]
      | some ps =>
          have huris := buildShareUris_rnd
            (fun hprofile => h hprofile ps configPlain (hprofile ▸ hps) hplain)
            (draw snapshot.configId) (draw' snapshot.configId)
          simp only [urisForSnapshot, hplain, buildClientUris, PanelSettings.profileSettings, hps,
            Except.ok_bind_eq, huris]

/-! ## resolving again -/

/-- The snapshots of a link name their destinations. -/
def DestNamed (ctx : ShareCtx) (p : Panel) (share : ShareTokenModel) : Prop :=
  ∀ snapshots, sharedSnapshots ctx p.world.db p.order share = .ok snapshots →
    ∀ snapshot ∈ snapshots, NamesDest ctx.toCtx snapshot

/-- The snapshot of a pinned link that has one. -/
theorem sharedSnapshots_pinned {ctx : ShareCtx} {db : Db} {order : List ConfigId}
    {share : ShareTokenModel} {c : ConfigId} (hc : share.configId = some c)
    {snapshots : List ConfigVersionSnapshot}
    (h : sharedSnapshots ctx db order share = .ok snapshots) :
    ∃ v snapshot, share.configVersion = some v ∧ getVersionSnapshot db c v = some snapshot ∧
      snapshots = [snapshot] := by
  unfold sharedSnapshots at h
  simp only [hc] at h
  cases hv : share.configVersion with
  | none => simp [hv] at h
  | some v =>
      cases hsnapshot : getVersionSnapshot db c v with
      | none => simp [hv, hsnapshot] at h
      | some snapshot =>
          refine ⟨v, snapshot, rfl, hsnapshot, ?_⟩
          simpa [hv, hsnapshot, eq_comm] using h

/-- What a pinned link stands for is changed by the commits of edits of its
config only. -/
theorem sharedSnapshots_of_run {ctx : ShareCtx} {p : Panel} {as : List PanelAction}
    {share : ShareTokenModel} {c : ConfigId} (hc : share.configId = some c)
    (hsound : Sound p.world) (hno : NoEdit ctx c p as) {snapshots : List ConfigVersionSnapshot}
    (h : sharedSnapshots ctx p.world.db p.order share = .ok snapshots) :
    sharedSnapshots ctx (Machine.run (Panel.step ctx) p as).world.db
      (Machine.run (Panel.step ctx) p as).order share = .ok snapshots := by
  obtain ⟨v, snapshot, hv, hsnapshot, rfl⟩ := sharedSnapshots_pinned hc h
  have hsnapshot' := snapshot_of_run hsound hno hsnapshot
  simp [sharedSnapshots, hc, hv, hsnapshot']

theorem urisForSnapshots_rnd {ctx : Ctx} {snapshots : List ConfigVersionSnapshot}
    (h : ∀ snapshot ∈ snapshots, NamesDest ctx snapshot) (draw draw' : ConfigId → Nat)
    (secure : Bool) :
    urisForSnapshots ctx draw secure snapshots = urisForSnapshots ctx draw' secure snapshots := by
  induction snapshots with
  | nil => rfl
  | cons snapshot rest ih =>
      have hfst := urisForSnapshot_rnd (h snapshot List.mem_cons_self) draw draw' secure
      have hrest := ih fun s hs => h s (List.mem_cons_of_mem _ hs)
      simp only [urisForSnapshots, hfst, hrest]

/-- **A pinned link resolves to the same URIs.**  Once a link that is pinned to
a version, and names the destination of a Reality document, has resolved to
some URIs, every admitted resolution of it while it is valid returns these
URIs, whatever happened in between other than the commit of an edit of its
config. -/
theorem pinned_uris (ctx : ShareCtx) (host : Host) (before after : List PanelAction)
    (rawToken : String) (share : ShareTokenModel) (c : ConfigId) (uris : List String)
    (env env' : ResolveEnv) (clientIp clientIp' : String)
    (hlink : (runPanel ctx host before).IsLink ctx.toCtx rawToken share)
    (hc : share.configId = some c) (hdest : DestNamed ctx (runPanel ctx host before) share)
    (huris : (runPanel ctx host before).resolve ctx env rawToken clientIp = .ok uris)
    (hno : NoEdit ctx c (runPanel ctx host before) after)
    (hvalid : (runPanel ctx host (before ++ after)).Passes ctx.toCtx rawToken
      (runPanel ctx host (before ++ after)).world.now)
    (hadmits : (runPanel ctx host (before ++ after)).Admits ctx clientIp')
    (hcommitted : env'.committed = none) :
    (runPanel ctx host (before ++ after)).resolve ctx env' rawToken clientIp' = .ok uris := by
  obtain ⟨share', hlink', hsame⟩ := isLink_run hlink after
  rw [← Machine.run_append] at hlink'
  obtain ⟨-, -, hshared⟩ := (resolveShareRoute_eq_ok_iff _ _ _ _).mp huris
  refine (resolveShareRoute_eq_ok_iff _ _ _ _).mpr ⟨hadmits, hcommitted, ?_⟩
  -- the first resolution found the link, and its snapshot
  obtain ⟨found, hfound, hshared⟩ := Except.bind_eq_ok_iff.mp hshared
  obtain rfl : found = share :=
    Option.some.inj ((validShare_eq_ok_iff.mp hfound).1.symm.trans hlink)
  obtain ⟨snapshots, hsnapshots, hshared⟩ := Except.bind_eq_ok_iff.mp hshared
  have hsound : Sound (runPanel ctx host before).world := by
    rw [world_runPanel]
    exact sound_run ctx.toCtx host _
  have hsnapshots' := sharedSnapshots_of_run hc hsound hno hsnapshots
  rw [← Machine.run_append] at hsnapshots'
  -- so does the second
  obtain ⟨found', hfound'⟩ := hvalid
  obtain rfl : found' = share' :=
    Option.some.inj ((validShare_eq_ok_iff.mp hfound').1.symm.trans hlink')
  refine Except.bind_eq_ok_iff.mpr ⟨found', hfound', ?_⟩
  rw [shareUris_of_link hsame]
  refine Except.bind_eq_ok_iff.mpr ⟨snapshots, hsnapshots', ?_⟩
  rw [urisForSnapshots_rnd (hdest snapshots hsnapshots) env'.rnd env.rnd]
  exact hshared

/-- A link to a Reality document, after a regenerate was requested and another
link created. -/
theorem pinned_uris_of_regenerate :
    (runPanel ShareCtx.reality Host.blank (pinnedReality "dest.example:443" ++
      [.lifecycle (.regenerate 1 0), .share (.create 1 1 "other" 0 {}),
        .share (.advance 1 {})])).resolve ShareCtx.reality { rnd := fun _ => 1 } "token" "ip" =
      .ok ["vless://client@127.0.0.1:443?type=tcp&security=reality&flow=xtls-rprx-vision&" ++
        "fp=chrome&pbk=pbk&sid=0a&sni=dest.example#Reality-Dynamic"] := by
  refine pinned_uris ShareCtx.reality Host.blank (pinnedReality "dest.example:443") _ "token" _ 0
    _ {} _ "ip" _ rfl rfl ?_ (by decide +kernel) ?_ ⟨_, rfl⟩ (by rfl) rfl
  · rintro snapshots hsnapshots snapshot hmem - ps configPlain hps hplain
    obtain ⟨v, found, hv, hfound, rfl⟩ := sharedSnapshots_pinned rfl hsnapshots
    obtain rfl : snapshot = found := by simpa using hmem
    cases hv
    cases hfound
    cases hps
    cases hplain
    decide +kernel
  · simp [Machine.Meets, CommitsEdit]

/-- A `dest` that is not empty, but names a port only, leaves the server name
to `random.choice`. -/
theorem not_pinned_of_portOnlyDest :
    (runPanel ShareCtx.reality Host.blank (pinnedReality ":443")).resolve ShareCtx.reality
      { rnd := fun _ => 0 } "token" "ip" =
      .ok ["vless://client@127.0.0.1:443?type=tcp&security=reality&flow=xtls-rprx-vision&" ++
        "fp=chrome&pbk=pbk&sid=0a&sni=a.example#Reality-Dynamic"] ∧
    (runPanel ShareCtx.reality Host.blank (pinnedReality ":443")).resolve ShareCtx.reality
      { rnd := fun _ => 1 } "token" "ip" =
      .ok ["vless://client@127.0.0.1:443?type=tcp&security=reality&flow=xtls-rprx-vision&" ++
        "fp=chrome&pbk=pbk&sid=0a&sni=b.example#Reality-Dynamic"] := by
  constructor <;> decide +kernel

end VpnPanel
