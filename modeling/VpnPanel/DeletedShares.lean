import VpnPanel.PinnedShares
import VpnPanel.DeletedConfigs
import Mathlib.Data.Set.Finite.Basic
import Mathlib.Data.Fintype.EquivFin

/-!
# VpnPanel.DeletedShares

Links to deleted configs.

The link for all configs reads the configs that are active
(`listCurrentVersionSnapshots`), a pinned link reads its version whether the
config is deleted or not (`getVersionSnapshot`).  So a URI of a deleted config
is served exactly by the valid links that are pinned to it
(`servesDeleted_iff`), and `deletedUnserved_iff` says which steps of a run
bring that about.
-/

namespace VpnPanel

/-- Resolving a token returns a URI of a config. -/
def Panel.Serves (ctx : ShareCtx) (p : Panel) (rawToken : String) (c : ConfigId) : Prop :=
  ∃ env clientIp uris share snapshots snapshot own,
    p.resolve ctx env rawToken clientIp = .ok uris ∧
    p.IsLink ctx.toCtx rawToken share ∧
    sharedSnapshots ctx p.world.db p.order share = .ok snapshots ∧
    snapshot ∈ snapshots ∧ snapshot.configId = c ∧
    urisForSnapshot ctx.toCtx env.rnd share.secure snapshot = .ok own ∧ ∃ uri ∈ own, uri ∈ uris

/-- Some token resolves to a URI of a deleted config. -/
def Panel.ServesDeleted (ctx : ShareCtx) (p : Panel) : Prop :=
  ∃ c, p.world.db.deleted c ∧ ∃ rawToken, p.Serves ctx rawToken c

/-- In no state of a run a token resolves to a URI of a deleted config. -/
def DeletedUnserved (ctx : ShareCtx) (host : Host) (as : List PanelAction) : Prop :=
  ∀ bs, bs <+: as → ¬ (runPanel ctx host bs).ServesDeleted ctx

/-- A link is valid, and the URIs of what it stands for can be built. -/
def Panel.Yields (ctx : ShareCtx) (p : Panel) (share : ShareTokenModel) : Prop :=
  share.valid p.world.now = true ∧
    ∃ rnd uris, shareUris ctx rnd p.world.db p.order share = .ok uris

/-- No link that is pinned to the config yields URIs. -/
def Panel.Unpinned (ctx : ShareCtx) (p : Panel) (c : ConfigId) : Prop :=
  ∀ share ∈ p.tokens, share.configId = some c → ¬ p.Yields ctx share

/-- The step commits the delete of the config. -/
def CommitsDelete (w : World) (c : ConfigId) : Action → Prop
  | .advance r env => env.committed = none ∧ w.requests r = some (.deleteCommitting c) ∧
      w.lockFree c (.request r) = true
  | _ => False

/-- What the steps must not do: delete a config some link is pinned to, store
a document that serves the links pinned to a deleted config, or pin a link to
a deleted config. -/
def KeepsUnserved (ctx : ShareCtx) (p : Panel) : PanelAction → Prop
  | .lifecycle a => ∀ c, (CommitsDelete p.world c a → p.Unpinned ctx c) ∧
      (CommitsEdit p.world c a → p.world.db.deleted c → (p.lifecycle ctx a).Unpinned ctx c)
  | .share (.advance r env) => ∀ rawToken row c, p.shares r = some (.creating rawToken row) →
      env.committed = none → (∃ tokens, p.tokens.insert row = .ok tokens) →
      row.configId = some c → p.world.db.deleted c → ¬ p.Yields ctx row
  | .share _ => True

/-! ## reachable panels -/

/-- The version of a pinned link is stored. -/
def ShareTokenModel.PinStored (db : Db) (row : ShareTokenModel) : Prop :=
  ∀ c v, row.configId = some c → row.configVersion = some v → (db.versions c v).isSome = true

/-- What holds in every reachable panel. -/
structure PanelSound (ctx : ShareCtx) (p : Panel) : Prop where
  world : Sound p.world
  links : LinksSound ctx.toCtx p
  recorded : ∃ history, Recorded ctx.toCtx p history
  rows : ∀ row ∈ p.tokens, row.PinStored p.world.db
  creating : ∀ r rawToken row, p.shares r = some (.creating rawToken row) →
    row.PinStored p.world.db
  rates : {key | p.rates key ≠ 0}.Finite

theorem pinStored_of_link {db : Db} {row row' : ShareTokenModel} (h : row'.link = row.link)
    (hrow : row.PinStored db) : row'.PinStored db := by
  intro c v hc hv
  have hc' : row'.link.configId = some c := hc
  have hv' : row'.link.configVersion = some v := hv
  rw [h] at hc' hv'
  exact hrow c v hc' hv'

/-- The rows requests plan pin versions that are stored. -/
theorem pinStored_of_createShareLink {ctx : Ctx} {w : World} {now : Nat} {id : ShareId}
    {rawToken : String} {c : ConfigId} {req : ShareRequest} {row : ShareTokenModel}
    (hsound : Sound w) (h : createShareLink ctx now w.db id rawToken c req = .ok row) :
    row.PinStored w.db := by
  obtain ⟨expiration, config, version, -, hconfig, hversion, -, rfl⟩ := of_createShareLink h
  rintro c' v' hc hv
  cases hc
  cases hv
  obtain ⟨n, hn⟩ := hsound.numbered c
  have hc := (Db.getActive_eq_some_iff.mp hconfig).1
  exact (hn.counted version).mpr (hn.current config version hc hversion)

theorem finite_increment {rates : RateTable} (h : {key | rates key ≠ 0}.Finite) (key : RateKey) :
    {key' | RateTable.increment rates key key' ≠ 0}.Finite := by
  refine (h.insert key).subset fun key' hkey' => ?_
  by_cases hsame : key' = key
  · exact Or.inl hsame
  · exact Or.inr (by simpa [RateTable.increment, hsame] using hkey')

section Steps

variable {ctx : ShareCtx} {p p' : Panel}

theorem panelSound_init (ctx : ShareCtx) (host : Host) : PanelSound ctx (Panel.init host) where
  world := sound_init host
  links := linksSound_init ctx.toCtx host
  recorded := ⟨[], recorded_init ctx.toCtx host⟩
  rows := by simp [Panel.init]
  creating := by simp [Panel.init]
  rates := by simp [Panel.init]

theorem rates_of_step {a : ShareAction} (hstep : ShareStep ctx p a p') :
    p'.rates = p.rates ∨ ∃ key, p'.rates = RateTable.increment p.rates key := by
  cases hstep with
  | refused r env stage rates hr haccess hstage hrates => exact hrates
  | resolved r env key id uris access hr hcom => exact Or.inr ⟨key, rfl⟩
  | _ => exact Or.inl rfl

theorem panelSound_share {a : ShareAction} (hstep : ShareStep ctx p a p')
    (hworld : p'.world = p.world) (hrecorded : ∃ history, Recorded ctx.toCtx p' history)
    (h : PanelSound ctx p) : PanelSound ctx p' where
  world := by rw [hworld]; exact h.world
  links := linksSound_share hstep h.links
  recorded := hrecorded
  rows row' hrow' := by
    rw [hworld]
    obtain ⟨row, hrow, hlink⟩ | ⟨r, rawToken, hr⟩ := row_of_tokens hstep hrow'
    · exact pinStored_of_link hlink (h.rows row hrow)
    · exact h.creating r rawToken row' hr
  creating r rawToken row hr' := by
    rw [hworld]
    cases stage_of_step hstep hr' with
    | same _ _ hr => exact h.creating r rawToken row hr
    | create id _ c req _ hrow => exact pinStored_of_createShareLink h.world hrow
    | createAll id _ req _ hrow =>
        obtain ⟨expiration, -, rfl⟩ := of_createAllShareLinks hrow
        intro c v hc
        cases hc
  rates := by
    obtain hsame | ⟨key, hkey⟩ := rates_of_step hstep
    · rw [hsame]
      exact h.rates
    · rw [hkey]
      exact finite_increment h.rates key

theorem panelSound_step (p : Panel) (a : PanelAction) (h : PanelSound ctx p) :
    PanelSound ctx (p.step ctx a) := by
  obtain ⟨history, hrecorded⟩ := h.recorded
  have hrecorded' := recorded_step h.links hrecorded a
  cases a with
  | share a =>
      obtain ⟨heq, -⟩ | hstep := share_cases ctx p a
      · show PanelSound ctx (p.share ctx a)
        rwa [heq]
      · exact panelSound_share hstep (world_share a) ⟨_, hrecorded'⟩ h
  | lifecycle a =>
      have hmono {row : ShareTokenModel} (hrow : row.PinStored p.world.db) :
          row.PinStored (step ctx.toCtx p.world a).db := by
        obtain heq | hstep : step ctx.toCtx p.world a = p.world ∨
          Step ctx.toCtx p.world a (step ctx.toCtx p.world a) := step_cases a
        · rwa [heq]
        · exact fun c v hc hv => versions_mono hstep (hrow c v hc hv)
      exact {
        world := sound_step p.world a h.world
        links := linksSound_step h.links (.lifecycle a)
        recorded := ⟨_, hrecorded'⟩
        rows := fun row hrow => hmono (h.rows row hrow)
        creating := fun r rawToken row hr => hmono (h.creating r rawToken row hr)
        rates := h.rates }

end Steps

/-! ## what is served -/

/-- The URIs of a snapshot are one. -/
theorem urisForSnapshot_singleton {ctx : Ctx} {rnd : ConfigId → Nat} {secure : Bool}
    {snapshot : ConfigVersionSnapshot} {own : List String}
    (h : urisForSnapshot ctx rnd secure snapshot = .ok own) : ∃ uri, own = [uri] := by
  obtain ⟨configPlain, -, h⟩ := Except.bind_eq_ok_iff.mp h
  obtain ⟨uris, huris, h⟩ := Except.bind_eq_ok_iff.mp h
  obtain ⟨ps, -, huris⟩ := Except.bind_eq_ok_iff.mp huris
  obtain ⟨uri, rfl⟩ := buildShareUris_singleton huris
  exact ⟨uri.render, (Except.ok.inj h).symm⟩

/-- The snapshots of the link for all configs are of configs that are not
deleted. -/
theorem not_deleted_of_mem {ctx : ShareCtx} {db : Db} {order : List ConfigId}
    {share : ShareTokenModel} (hall : share.configId = none)
    {snapshots : List ConfigVersionSnapshot}
    (h : sharedSnapshots ctx db order share = .ok snapshots) {snapshot : ConfigVersionSnapshot}
    (hmem : snapshot ∈ snapshots) : ¬ db.deleted snapshot.configId := by
  have hlisted : snapshot ∈ listCurrentVersionSnapshots db order := by
    simp only [sharedSnapshots, hall] at h
    split at h
    · contradiction
    · rw [← Except.ok.inj h, sortSnapshots, List.mem_mergeSort] at hmem
      exact hmem
  obtain ⟨c, -, hc⟩ := List.mem_filterMap.mp hlisted
  split at hc
  · next config hconfig =>
    split at hc
    · obtain ⟨v, -, hsnapshot⟩ := Option.bind_eq_some_iff.mp hc
      obtain ⟨hrow, hactive⟩ := Db.getActive_eq_some_iff.mp hconfig
      have hid : snapshot.configId = c := configId_of_getVersionSnapshot hsnapshot
      rintro ⟨row, hrow', hinactive⟩
      rw [hid, hrow] at hrow'
      rw [← Option.some.inj hrow', hactive] at hinactive
      contradiction
    · contradiction
  · contradiction

/-- The limiter admits some client. -/
theorem exists_admits {ctx : ShareCtx} {p : Panel} (h : PanelSound ctx p) :
    ∃ clientIp, p.Admits ctx clientIp := by
  have hinj : Function.Injective (shareRateKey ctx p.world.now) := by
    intro ip ip' heq
    have hkey := congrArg RateKey.key heq
    simpa [shareRateKey, rateKey] using hkey
  obtain ⟨key, ⟨clientIp, rfl⟩, hkey⟩ :=
    (Set.infinite_range_of_injective hinj).exists_notMem_finite h.rates
  refine ⟨clientIp, ?_⟩
  have hzero : p.rates (shareRateKey ctx p.world.now clientIp) = 0 := by simpa using hkey
  have hlimit : 0 < ctx.shareRule.requests := RateLimitRule.requests_pos _
  simp [Panel.Admits, checkCount, hzero]
  omega

/-- **What is served of deleted configs.**  In a reachable panel a token
resolves to a URI of a deleted config exactly when a valid link is pinned to
the config and its URIs can be built. -/
theorem servesDeleted_iff {ctx : ShareCtx} {p : Panel} (h : PanelSound ctx p) :
    p.ServesDeleted ctx ↔ ∃ c, p.world.db.deleted c ∧ ¬ p.Unpinned ctx c := by
  unfold Panel.ServesDeleted
  refine exists_congr fun c => and_congr_right fun hdeleted => ?_
  unfold Panel.Unpinned
  push Not
  constructor
  · rintro ⟨rawToken, env, clientIp, uris, share, snapshots, snapshot, own, huris, hlink,
      hsnapshots, hmem, rfl, -, -⟩
    obtain ⟨-, -, hshared⟩ := (resolveShareRoute_eq_ok_iff _ _ _ _).mp huris
    obtain ⟨found, hfound, hshared⟩ := Except.bind_eq_ok_iff.mp hshared
    obtain ⟨hfound, hvalid⟩ := validShare_eq_ok_iff.mp hfound
    obtain rfl : found = share := Option.some.inj (hfound.symm.trans hlink)
    refine ⟨found, (ShareTable.of_byHash hfound).1, ?_, hvalid, env.rnd, uris, hshared⟩
    cases hc : found.configId with
    | none => exact absurd hdeleted (not_deleted_of_mem hc hsnapshots hmem)
    | some c =>
        obtain ⟨v, snapshot', -, hsnapshot', rfl⟩ := sharedSnapshots_pinned hc hsnapshots
        rw [List.mem_singleton.mp hmem, configId_of_getVersionSnapshot hsnapshot']
  · rintro ⟨share, hshare, hc, hvalid, rnd, uris, huris⟩
    obtain ⟨history, hrecorded⟩ := h.recorded
    obtain ⟨rawToken, -, hhash, -⟩ := hrecorded.row share hshare
    obtain ⟨found, hlink⟩ := ShareTable.byHash_isSome hshare hhash
    obtain ⟨hmem, hhash'⟩ := ShareTable.of_byHash hlink
    obtain rfl : found = share := h.links.hashes hmem hshare (hhash'.trans hhash.symm)
    obtain ⟨clientIp, hadmits⟩ := exists_admits h
    obtain ⟨snapshots, hsnapshots, hshared⟩ := Except.bind_eq_ok_iff.mp huris
    obtain ⟨v, snapshot, -, hsnapshot, rfl⟩ := sharedSnapshots_pinned hc hsnapshots
    obtain ⟨own, hown, hshared⟩ := Except.bind_eq_ok_iff.mp hshared
    obtain ⟨uri, rfl⟩ := urisForSnapshot_singleton hown
    refine ⟨rawToken, { rnd := rnd }, clientIp, uris, found, [snapshot], snapshot, [uri], ?_, hlink,
      hsnapshots, by simp, configId_of_getVersionSnapshot hsnapshot, hown, uri, by simp, ?_⟩
    · refine (resolveShareRoute_eq_ok_iff _ _ _ _).mpr ⟨hadmits, rfl, ?_⟩
      exact Except.bind_eq_ok_iff.mpr ⟨found, validShare_eq_ok_iff.mpr ⟨hlink, hvalid⟩, huris⟩
    · rw [← Except.ok.inj hshared]
      simp

/-! ## what a step changes -/

/-- Nothing is served of a deleted config. -/
def Panel.Unserved (ctx : ShareCtx) (p : Panel) : Prop :=
  ∀ c, p.world.db.deleted c → p.Unpinned ctx c

/-- The clock does not go back. -/
theorem now_le_of_step {ctx : Ctx} {w w' : World} {a : Action} (hstep : Step ctx w a w') :
    w.now ≤ w'.now := by
  cases hstep <;> simp

/-- A link that is valid was valid before. -/
theorem valid_of_valid {row row' : ShareTokenModel} {t t' : Nat} (hlink : row'.link = row.link)
    (hrevoked : row'.revokedAt = none → row.revokedAt = none) (ht : t ≤ t')
    (hwell : row.WellFormed) (h : row'.valid t' = true) : row.valid t = true := by
  obtain ⟨hnot, halive⟩ := (valid_iff (wellFormed_of_link hlink hwell) t').mp h
  rw [expiration_of_link hlink] at halive
  exact (valid_iff hwell t).mpr ⟨hrevoked hnot, halive.mono ht⟩

section Exact

variable {ctx : ShareCtx} {p : Panel} {a : Action} {c : ConfigId} {share : ShareTokenModel}

/-- What a pinned link stands for depends on the snapshot of its version
only. -/
theorem shareUris_pinned {db db' : Db} {order order' : List ConfigId}
    (hc : share.configId = some c)
    (h : ∀ v, share.configVersion = some v → getVersionSnapshot db' c v = getVersionSnapshot db c v)
    (rnd : ConfigId → Nat) :
    shareUris ctx rnd db' order' share = shareUris ctx rnd db order share := by
  have hsame : sharedSnapshots ctx db' order' share = sharedSnapshots ctx db order share := by
    unfold sharedSnapshots
    simp only [hc]
    cases hv : share.configVersion with
    | none => rfl
    | some v => simp only [h v hv]
  rw [shareUris, shareUris, hsame]

/-- A step that commits no edit of the config leaves the URIs of the links
pinned to it alone. -/
theorem shareUris_of_step (hsound : PanelSound ctx p) (hshare : share ∈ p.tokens)
    (hc : share.configId = some c) (hno : ¬ CommitsEdit p.world c a)
    (hstep : Step ctx.toCtx p.world a (step ctx.toCtx p.world a)) (rnd : ConfigId → Nat) :
    shareUris ctx rnd (p.lifecycle ctx a).world.db (p.lifecycle ctx a).order share =
      shareUris ctx rnd p.world.db p.order share := by
  refine shareUris_pinned hc (fun v hv => ?_) rnd
  obtain ⟨snapshot, hsnapshot⟩ : ∃ snapshot, getVersionSnapshot p.world.db c v = some snapshot := by
    have hstored := hsound.rows share hshare c v hc hv
    obtain ⟨row, hrow⟩ := hsound.world.owned.versions c v hstored
    obtain ⟨vrow, hvrow⟩ := Option.isSome_iff_exists.mp hstored
    have hmodel : p.world.db.getModel c = some row := hrow
    simp [getVersionSnapshot, hmodel, hvrow]
  rw [hsnapshot]
  exact snapshot_of_step hsound.world hstep hno hsnapshot

/-- Nothing more is served of a config whose row and versions a step of the
lifecycle leaves alone. -/
theorem unpinned_of_step (hsound : PanelSound ctx p) (hno : ¬ CommitsEdit p.world c a)
    (hstep : Step ctx.toCtx p.world a (step ctx.toCtx p.world a)) (h : p.Unpinned ctx c) :
    (p.lifecycle ctx a).Unpinned ctx c := by
  rintro share hshare hc ⟨hvalid, rnd, uris, huris⟩
  refine h share hshare hc ⟨?_, rnd, uris, ?_⟩
  · exact valid_of_valid rfl id (now_le_of_step hstep) (hsound.links.wellFormed share hshare) hvalid
  · rw [← huris, shareUris_of_step hsound hshare hc hno hstep rnd]

/-- A delete's commit does not move the clock. -/
theorem unpinned_of_commitsDelete (hsound : PanelSound ctx p) (hdel : CommitsDelete p.world c a)
    (hstep : Step ctx.toCtx p.world a (step ctx.toCtx p.world a))
    (h : (p.lifecycle ctx a).Unpinned ctx c) : p.Unpinned ctx c := by
  cases a with
  | advance r env =>
      obtain ⟨hcom, hr, hlock⟩ := hdel
      have hno : ¬ CommitsEdit p.world c (.advance r env) := by
        rintro ⟨-, plan, loaded, hedit, -⟩
        cases hr.symm.trans hedit
      have hnow : (p.lifecycle ctx (.advance r env)).world.now = p.world.now := by
        simp [Panel.lifecycle, step, World.advance, hr, World.deleteCommit, hlock, hcom]
      rintro share hshare hc ⟨hvalid, rnd, uris, huris⟩
      refine h share hshare hc ⟨by rwa [hnow], rnd, uris, ?_⟩
      rw [shareUris_of_step hsound hshare hc hno hstep rnd, huris]
  | _ => exact absurd hdel id

/-- The config of a pinned link that yields URIs is there. -/
theorem row_of_yields (hc : share.configId = some c) (h : p.Yields ctx share) :
    ∃ row, p.world.db.configs c = some row := by
  obtain ⟨-, rnd, uris, huris⟩ := h
  obtain ⟨snapshots, hsnapshots, -⟩ := Except.bind_eq_ok_iff.mp huris
  obtain ⟨v, snapshot, -, hsnapshot, -⟩ := sharedSnapshots_pinned hc hsnapshots
  cases hmodel : p.world.db.getModel c with
  | none => simp [getVersionSnapshot, hmodel] at hsnapshot
  | some row => exact ⟨row, hmodel⟩

/-- The commit of a delete of a config that is there. -/
theorem deleted_of_commitsDelete {ctx : Ctx} {w : World} (hdel : CommitsDelete w c a)
    (hrow : ∃ row, w.db.configs c = some row) : (step ctx w a).db.deleted c := by
  obtain ⟨row, hrow⟩ := hrow
  cases a with
  | advance r env =>
      obtain ⟨hcom, hr, hlock⟩ := hdel
      refine ⟨softDelete w.now row, ?_, rfl⟩
      simp [step, World.advance, hr, World.deleteCommit, hlock, hcom, hrow]
  | _ => exact absurd hdel id

/-- A config that a step deletes. -/
theorem commitsDelete_of_step {ctx : Ctx} {w w' : World} (hstep : Step ctx w a w')
    (h : w'.db.deleted c) : w.db.deleted c ∨ CommitsDelete w c a := by
  obtain ⟨row', hrow', hinactive⟩ := h
  obtain ⟨-, -, -, -, -, -, -, hnew⟩ | ⟨row, hrow, hchange⟩ := row_of_step hstep hrow'
  · rw [hnew] at hinactive
    contradiction
  · cases hchange with
    | deleted r env row hr hlock hcom => exact Or.inr ⟨hcom, hr, hlock⟩
    | _ => exact Or.inl ⟨_, hrow, hinactive⟩

/-- A commit is that of an edit or that of a delete. -/
theorem not_commitsEdit_of_commitsDelete {w : World} {c' : ConfigId}
    (hdel : CommitsDelete w c a) : ¬ CommitsEdit w c' a := by
  cases a with
  | advance r env =>
      rintro ⟨-, plan, loaded, hedit, -⟩
      cases hdel.2.1.symm.trans hedit
  | _ => exact id

/-- A step of the lifecycle leaves the panel alone or is a `Step`. -/
theorem lifecycle_cases (ctx : ShareCtx) (p : Panel) (a : Action) :
    p.lifecycle ctx a = p ∨ Step ctx.toCtx p.world a (step ctx.toCtx p.world a) := by
  obtain heq | hstep : step ctx.toCtx p.world a = p.world ∨
    Step ctx.toCtx p.world a (step ctx.toCtx p.world a) := step_cases a
  · refine Or.inl ?_
    unfold Panel.lifecycle
    rw [heq]
    cases a with
    | create r c name protocol profile policy host =>
        cases hc : p.world.db.configs c <;> simp [hc]
    | _ => rfl
  · exact Or.inr hstep

/-- **Exactly these steps of the lifecycle keep everything unserved.** -/
theorem unserved_lifecycle (hsound : PanelSound ctx p) (h : p.Unserved ctx) (a : Action) :
    (p.lifecycle ctx a).Unserved ctx ↔ KeepsUnserved ctx p (.lifecycle a) := by
  constructor
  · intro h' c
    constructor
    · intro hdel share hshare hc hyields
      have hdeleted : (step ctx.toCtx p.world a).db.deleted c :=
        deleted_of_commitsDelete hdel (row_of_yields hc hyields)
      have hunpinned := h' c hdeleted
      obtain heq | hstep := lifecycle_cases ctx p a
      · rw [heq] at hunpinned
        exact hunpinned share hshare hc hyields
      · exact unpinned_of_commitsDelete hsound hdel hstep hunpinned share hshare hc hyields
    · rintro - hdeleted
      refine h' c ?_
      obtain heq | hstep := lifecycle_cases ctx p a
      · rwa [heq]
      · exact deleted_step hstep hdeleted
  · rintro hkeeps c hdeleted
    obtain heq | hstep := lifecycle_cases ctx p a
    · rw [heq] at hdeleted ⊢
      exact h c hdeleted
    · by_cases hedit : CommitsEdit p.world c a
      · refine (hkeeps c).2 hedit ?_
        obtain hold | hdel := commitsDelete_of_step hstep hdeleted
        · exact hold
        · exact absurd hedit (not_commitsEdit_of_commitsDelete hdel)
      · refine unpinned_of_step hsound hedit hstep ?_
        obtain hold | hdel := commitsDelete_of_step hstep hdeleted
        · exact h c hold
        · exact (hkeeps c).1 hdel

end Exact

/-- A row after a step of the share links is a row before, that was not
revoked if it is not, or the row of a create that commits. -/
theorem old_or_created {ctx : ShareCtx} {p p' : Panel} {a : ShareAction}
    (hstep : ShareStep ctx p a p') {row' : ShareTokenModel} (hrow' : row' ∈ p'.tokens) :
    (∃ row ∈ p.tokens, row'.link = row.link ∧ (row'.revokedAt = none → row.revokedAt = none)) ∨
      ∃ r env rawToken, a = .advance r env ∧ p.shares r = some (.creating rawToken row') ∧
        env.committed = none ∧ p.tokens.insert row' = .ok p'.tokens := by
  have hupdated {id : ShareId} {change : ShareTokenModel → ShareTokenModel}
      (hchange : ∀ row, (change row).link = row.link)
      (hrevoked : ∀ row, (change row).revokedAt = none → row.revokedAt = none)
      (hmem : row' ∈ p.tokens.update id change) :
      ∃ row ∈ p.tokens, row'.link = row.link ∧ (row'.revokedAt = none → row.revokedAt = none) := by
    obtain ⟨row, hrow, rfl⟩ := ShareTable.mem_update.mp hmem
    refine ⟨row, hrow, ShareTable.link_updateRow hchange id row, ?_⟩
    unfold ShareTable.updateRow
    split
    · exact hrevoked row
    · exact fun h => h
  cases hstep with
  | created r env rawToken row tokens hr hcom hins =>
      obtain ⟨rfl, -⟩ := ShareTable.of_insert hins
      obtain hold | hnew := List.mem_append.mp hrow'
      · exact Or.inl ⟨row', hold, rfl, id⟩
      · obtain rfl : row' = row := by simpa using hnew
        exact Or.inr ⟨r, env, rawToken, rfl, hr, hcom, hins⟩
  | revoked r env id hr hcom =>
      exact Or.inl (hupdated (link_revoke p.world.now) (by simp [ShareTokenModel.revoke]) hrow')
  | resolved r env key id uris access hr hcom =>
      cases access with
      | none => exact Or.inl ⟨row', hrow', rfl, fun h => h⟩
      | some access =>
          exact Or.inl (hupdated (link_recordAccess access.2 access.1) (fun row h => h) hrow')
  | _ => exact Or.inl ⟨row', hrow', rfl, id⟩

/-- **Exactly these steps of the share links keep everything unserved.** -/
theorem unserved_share {ctx : ShareCtx} {p : Panel} (hsound : PanelSound ctx p)
    (h : p.Unserved ctx) (a : ShareAction) :
    (p.share ctx a).Unserved ctx ↔ KeepsUnserved ctx p (.share a) := by
  have hworld : (p.share ctx a).world = p.world := world_share a
  have horder : (p.share ctx a).order = p.order := order_share a
  have hyields (share : ShareTokenModel) :
      (p.share ctx a).Yields ctx share ↔ p.Yields ctx share := by
    rw [Panel.Yields, Panel.Yields, hworld, horder]
  unfold Panel.Unserved
  rw [hworld]
  constructor
  · intro h'
    cases a with
    | advance r env =>
        rintro rawToken row c hr hcom ⟨tokens, hins⟩ hc hdeleted
        rw [← hyields]
        refine h' c hdeleted row ?_ hc
        obtain ⟨rfl, -⟩ := ShareTable.of_insert hins
        simp [Panel.share, Panel.advance, hr, Panel.commitCreate, hcom, hins]
    | _ => trivial
  · rintro hkeeps c hdeleted row' hrow' hc
    rw [hyields]
    obtain ⟨heq, -⟩ | hstep := share_cases ctx p a
    · rw [heq] at hrow'
      exact h c hdeleted row' hrow' hc
    · obtain ⟨row, hrow, hlink, hrevoked⟩ | ⟨r, env, rawToken, rfl, hr, hcom, hins⟩ :=
        old_or_created hstep hrow'
      · rintro ⟨hvalid, rnd, uris, huris⟩
        have hc' : row.configId = some c := by
          have hsame : row'.link.configId = row.link.configId := by rw [hlink]
          exact hsame.symm.trans hc
        refine h c hdeleted row hrow hc' ⟨?_, rnd, uris, ?_⟩
        · exact valid_of_valid hlink hrevoked le_rfl (hsound.links.wellFormed row hrow) hvalid
        · rw [← shareUris_of_link hlink, huris]
      · exact hkeeps rawToken row' c hr hcom ⟨_, hins⟩ hc hdeleted

/-- **When deleted configs stay unserved.**  In no state of a run a token
resolves to a URI of a deleted config, exactly when no delete commits while a
link that yields URIs is pinned to its config, no edit of a deleted config
commits a document that yields URIs for a link pinned to it, and no link that
yields URIs is pinned to a config after its delete. -/
theorem deletedUnserved_iff (ctx : ShareCtx) (host : Host) (as : List PanelAction) :
    DeletedUnserved ctx host as ↔
      Machine.Meets (Panel.step ctx) (KeepsUnserved ctx) (Panel.init host) as := by
  have hunserved {p : Panel} (hp : PanelSound ctx p) : ¬ p.ServesDeleted ctx ↔ p.Unserved ctx := by
    rw [servesDeleted_iff hp]
    simp [Panel.Unserved]
  have hinit : (Panel.init host).Unserved ctx := by
    rintro c - share hshare
    simp [Panel.init] at hshare
  have hexact (p : Panel) (a : PanelAction) (hp : PanelSound ctx p) (h : p.Unserved ctx)
      (_ : True) : (Panel.step ctx p a).Unserved ctx ↔ KeepsUnserved ctx p a := by
    cases a with
    | lifecycle a => exact unserved_lifecycle hp h a
    | share a => exact unserved_share hp h a
  rw [← Machine.always_iff_meets (fun p a hp _ _ => panelSound_step p a hp) hexact
    (panelSound_init ctx host) hinit (Machine.meets_of_forall (fun _ _ => trivial) _ as)]
  refine forall_congr' fun bs => imp_congr_right fun _ => ?_
  exact hunserved (Machine.run_invariant panelSound_step (panelSound_init ctx host) bs)

/-- The config of a pinned link is deleted. -/
def deletedWhilePinned : List PanelAction :=
  pinnedLink ++
    ([.delete 1 0, .advance 1 {}, .advance 1 {}, .advance 1 {}] : List Action).map .lifecycle

/-- **The link of a deleted config still resolves** to the config's URI. -/
theorem not_deletedUnserved_of_deletedWhilePinned :
    ¬ DeletedUnserved ShareCtx.sample Host.blank deletedWhilePinned ∧
      (runPanel ShareCtx.sample Host.blank deletedWhilePinned).resolve ShareCtx.sample {} "token"
        "ip" =
        .ok ["vless://client@127.0.0.1:443?type=xhttp&security=tls&host=127.0.0.1&path=%2F&" ++
          "mode=stream-up&fp=chrome&sni=127.0.0.1#XHTTP-Dynamic"] := by
  constructor
  · intro h
    have hsound : PanelSound ShareCtx.sample
        (runPanel ShareCtx.sample Host.blank deletedWhilePinned) :=
      Machine.run_invariant panelSound_step (panelSound_init ShareCtx.sample Host.blank) _
    refine h deletedWhilePinned (List.prefix_refl _) ((servesDeleted_iff hsound).mpr ⟨0, ?_, ?_⟩)
    · exact ⟨_, rfl, by decide +kernel⟩
    · intro hunpinned
      refine hunpinned _ List.mem_cons_self rfl ⟨by decide +kernel, fun _ => 0, _, rfl⟩
  · decide +kernel

end VpnPanel
