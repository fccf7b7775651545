import VpnPanel.GivenDocuments
import VpnPanel.BuiltDocuments
import VpnPanel.DeletedShares

/-!
# VpnPanel.ServableEdits

Which stored versions the share links can serve.

An edit accepts any non-empty object and keeps the port of the version when
`listening_port` raises, while the builders of the URIs index into the document.
`shareable` documents are those the builders return for; a version is servable
when its document is shareable and has the port of the row.
`servesAll_run_iff`: along a run whose committed edits are plain, all versions
and links are served as the documents they were given say, exactly when every
edit that commits leaves its version servable and every build that commits
stores a shareable document.
-/

namespace VpnPanel

open Except (isOk_bind_congr isOk_bind_same isOk_iff)

/-! ## which documents have URIs -/

section Uris

theorem isOk_get (v d d' : PyVal) (k : String) : (v.get k d).isOk = (v.get k d').isOk := by
  cases v <;> rfl

theorem isOk_buildRealityUri (rnd rnd' : Nat) (inbound clientId : PyVal) (host host' : String)
    (port port' : Int) (publicKey publicKey' label : String) :
    (buildRealityUri rnd inbound clientId host port publicKey label).isOk =
      (buildRealityUri rnd' inbound clientId host' port' publicKey' label).isOk := by
  refine isOk_bind_same fun stream _ => isOk_bind_same fun reality _ => ?_
  refine isOk_bind_same fun shortIds _ => isOk_bind_same fun shortId _ => ?_
  refine isOk_bind_same fun client _ => isOk_bind_same fun flow _ => ?_
  refine isOk_bind_congr ?_ fun _ _ _ _ => rfl
  refine isOk_bind_same fun dest _ => ?_
  simp only
  split
  · rfl
  · exact isOk_bind_same fun _ _ => isOk_bind_same fun _ _ => rfl

theorem isOk_buildXhttpUri (inbound clientId : PyVal) (host host' : String) (port port' : Int)
    (certFingerprint certFingerprint' label : String) (secure secure' : Bool) :
    (buildXhttpUri inbound clientId host port certFingerprint label secure).isOk =
      (buildXhttpUri inbound clientId host' port' certFingerprint' label secure').isOk := by
  refine isOk_bind_same fun stream _ => isOk_bind_same fun xhttp _ => isOk_bind_same fun tls _ => ?_
  refine isOk_bind_congr (isOk_get _ _ _ _) fun _ _ _ _ => ?_
  refine isOk_bind_same fun _ _ => isOk_bind_same fun _ _ => isOk_bind_same fun _ _ => rfl

theorem isOk_buildGrpcUri (inbound clientId : PyVal) (host host' : String) (port port' : Int)
    (certFingerprint certFingerprint' label : String) (secure secure' : Bool) :
    (buildGrpcUri inbound clientId host port certFingerprint label secure).isOk =
      (buildGrpcUri inbound clientId host' port' certFingerprint' label secure').isOk := by
  refine isOk_bind_same fun stream _ => isOk_bind_same fun tls _ => isOk_bind_same fun grpc _ => ?_
  refine isOk_bind_same fun _ _ => isOk_bind_same fun _ _ => rfl

theorem isOk_buildHysteria2Uri (configData : PyVal)
    (host host' certFingerprint certFingerprint' label : String) (secure secure' : Bool)
    (publicPort : Option Nat) :
    (buildHysteria2Uri configData host certFingerprint label secure publicPort).isOk =
      (buildHysteria2Uri configData host' certFingerprint' label secure' publicPort).isOk := by
  unfold buildHysteria2Uri
  simp only
  split
  all_goals
    refine isOk_bind_same fun port _ => isOk_bind_same fun auth _ => ?_
    refine isOk_bind_same fun password _ => isOk_bind_same fun topSni _ => ?_
    split
    · refine isOk_bind_same fun sni _ => isOk_bind_same fun obfs _ => ?_
      cases password <;> rfl
    · refine isOk_bind_same fun tls _ => isOk_bind_same fun tlsSni _ => ?_
      refine isOk_bind_congr rfl fun sni sni' _ _ => isOk_bind_same fun obfs _ => ?_
      cases password <;> rfl

/-- Whether the URIs of a document can be built depends on the document
only. -/
theorem isOk_buildShareUris (rnd rnd' : Nat) (profile : ConfigProfile) (configData : PyVal)
    (host host' publicKey publicKey' certFingerprint certFingerprint' tag : String)
    (secure secure' : Bool) (publicPort : Option Nat) :
    (buildShareUris rnd profile configData host publicKey certFingerprint tag secure
      publicPort).isOk =
      (buildShareUris rnd' profile configData host' publicKey' certFingerprint' tag secure'
        publicPort).isOk := by
  by_cases hprofile : profile = .hysteria2
  · subst hprofile
    exact isOk_bind_congr (isOk_buildHysteria2Uri _ _ _ _ _ _ _ _ _) fun _ _ _ _ => rfl
  · rw [buildShareUris_xray hprofile, buildShareUris_xray hprofile]
    refine isOk_bind_same fun inbound _ => isOk_bind_same fun port _ => ?_
    refine isOk_bind_same fun client _ => isOk_bind_same fun clientId _ => ?_
    refine isOk_bind_congr ?_ fun _ _ _ _ => rfl
    cases profile with
    | hysteria2 => exact absurd rfl hprofile
    | xrayReality => exact isOk_buildRealityUri _ _ _ _ _ _ _ _ _ _ _
    | xrayXhttp => exact isOk_buildXhttpUri _ _ _ _ _ _ _ _ _ _ _
    | xrayGrpc => exact isOk_buildGrpcUri _ _ _ _ _ _ _ _ _ _ _

end Uris

/-- The builder of the profile returns URIs for the document. -/
def Shareable (settings : PanelSettings) (profile : ConfigProfile) (doc : PyVal) : Prop :=
  (buildClientUris 0 settings profile doc "" "" true none).isOk = true

theorem shareable_iff {settings : PanelSettings} {profile : ConfigProfile} {doc : PyVal}
    (rnd : Nat) (publicKey certFingerprint : String) (secure : Bool)
    (sharePublicHost : Option String) :
    Shareable settings profile doc ↔ ∃ uris, buildClientUris rnd settings profile doc publicKey
      certFingerprint secure sharePublicHost = .ok uris := by
  rw [← isOk_iff, Shareable]
  refine Eq.congr_left (isOk_bind_same fun ps _ => ?_)
  exact isOk_buildShareUris _ _ _ _ _ _ _ _ _ _ _ _ _ _

/-! ## servable versions -/

/-- The URIs of a version's document can be built. -/
def RowShareable (ctx : Ctx) (profile : ConfigProfile) (row : VpnConfigVersionModel) : Prop :=
  ∃ doc, row.document ctx profile = .ok doc ∧ Shareable ctx.settings profile doc

/-- The port of a version is the one its document makes the service listen on. -/
def RowListens (ctx : Ctx) (profile : ConfigProfile) (row : VpnConfigVersionModel) : Prop :=
  ∃ ps doc, ctx.settings.profileSettings profile = .ok ps ∧ row.document ctx profile = .ok doc ∧
    listeningPort profile doc ps = .ok row.port

/-- A version whose service and links agree with its document. -/
structure Servable (ctx : Ctx) (profile : ConfigProfile) (row : VpnConfigVersionModel) : Prop where
  listens : RowListens ctx profile row
  shareable : RowShareable ctx profile row

/-- An edit that changes the document: `listening_port` and the builder of the
URIs return for it, and a port that the edit need not write is still there. -/
def EditServable (ctx : Ctx) (profile : ConfigProfile) (plan : EditPlan)
    (loaded row : VpnConfigVersionModel) : Prop :=
  sameJson loaded.configData plan.encrypted.tree = false →
    Shareable ctx.settings profile plan.parsed ∧
    (∃ ps port, ctx.settings.profileSettings profile = .ok ps ∧
      listeningPort profile plan.parsed ps = .ok port) ∧
    (plan.port = loaded.port → row.port = loaded.port)

section Rows

variable {ctx : Ctx} {profile : ConfigProfile}

/-- **Exactly these plain edits keep a version servable.** -/
theorem servable_edit_iff {w : World} {plan : EditPlan} {loaded row : VpnConfigVersionModel}
    (hprofile : plan.profile = profile) (hdrafted : Drafted ctx w plan.toEditDraft)
    (hflushed : Flushed plan) (hplain : EditPlain profile plan loaded row)
    (h : Servable ctx profile row) :
    Servable ctx profile (plan.update loaded row) ↔ EditServable ctx profile plan loaded row := by
  have hdoc := document_of_editPlain hdrafted hflushed hprofile hplain
  subst hprofile
  have hport : (plan.update loaded row).port = netChange loaded.port plan.port row.port := rfl
  cases hleft : sameJson loaded.configData plan.encrypted.tree with
  | true =>
      -- the row has the document, and so its port
      obtain ⟨ps, doc, hps, hrow, hlistens⟩ := h.listens
      obtain ⟨doc', hrow', hshareable⟩ := h.shareable
      have hsame : plan.stored = row.configData := (hplain.2 hleft).symm
      have hparsed : row.document ctx plan.profile = .ok plan.parsed := by
        rw [VpnConfigVersionModel.document, ← hsame, hflushed.decrypt_stored hdrafted hplain.1]
      obtain rfl : plan.parsed = doc := Except.ok.inj (hparsed.symm.trans hrow)
      obtain rfl : plan.parsed = doc' := Except.ok.inj (hparsed.symm.trans hrow')
      have hkept : plan.port = row.port := hflushed.port hdrafted hps hlistens
      have hrowPort : (plan.update loaded row).port = row.port := by
        rw [hport, netChange, hkept]
        exact ite_self _
      refine iff_of_true ⟨⟨ps, plan.parsed, hps, hdoc, ?_⟩, plan.parsed, hdoc, hshareable⟩ ?_
      · rw [hrowPort, hlistens]
      · intro hwritten
        rw [hleft] at hwritten
        cases hwritten
  | false =>
      simp only [EditServable, hleft, true_implies]
      constructor
      · rintro ⟨⟨ps, doc, hps, hdoc', hlistens⟩, doc', hdoc'', hshareable⟩
        obtain rfl : plan.parsed = doc := Except.ok.inj (hdoc.symm.trans hdoc')
        obtain rfl : plan.parsed = doc' := Except.ok.inj (hdoc.symm.trans hdoc'')
        refine ⟨hshareable, ⟨ps, _, hps, hlistens⟩, fun hkept => ?_⟩
        have hplanned := hflushed.port hdrafted hps hlistens
        have hnet : (plan.update loaded row).port = row.port := by
          rw [hport, netChange, if_pos hkept.symm]
        rw [← hnet, ← hplanned, hkept]
      · rintro ⟨hshareable, ⟨ps, port, hps, hlistens⟩, hkept⟩
        refine ⟨⟨ps, plan.parsed, hps, hdoc, ?_⟩, plan.parsed, hdoc, hshareable⟩
        rw [hport, hlistens, ← hflushed.port hdrafted hps hlistens, netChange]
        split
        · next hwrites => rw [hkept hwrites.symm, hwrites]
        · rfl

/-- The port of a result is that of its document. -/
def ResultListens (ctx : Ctx) (profile : ConfigProfile) (result : BuildResult) : Prop :=
  ∃ ps, ctx.settings.profileSettings profile = .ok ps ∧
    listeningPort profile result.configData ps = .ok result.port

theorem resultListens_of_build {w : World} {a : Action} {p : Payload} {env : TaskEnv}
    {result : BuildResult} (h : BuildsDocuments ctx w a p env result) :
    ResultListens ctx p.profile result := by
  obtain ⟨e, x, h', -, -, -, rfl, hx⟩ := h
  obtain ⟨ps, built, port, hps, -, hport, hresult, hwritten⟩ := written_of_buildDocuments hx
  refine ⟨ps, hps, ?_⟩
  rw [hwritten.listeningPort hport, hresult]

theorem rowListens_of_insertVersion {env : TaskEnv} {p : Payload} {result : BuildResult} {db : Db}
    {row : VpnConfigVersionModel} (h : ResultListens ctx p.profile result)
    (hinsert : insertVersion ctx env p result db = .ok row) : RowListens ctx p.profile row := by
  obtain ⟨ps, hps, hport⟩ := h
  refine ⟨ps, result.configData, hps, document_of_insertVersion hinsert, ?_⟩
  rw [hport, (versionRow_spec (versionRow_of_insertVersion hinsert)).2.2.1]

end Rows

section Steps

variable {ctx : Ctx} {w w' : World} {a : Action}

/-- **Step.**  Exactly these steps keep all versions servable. -/
theorem servable_step_iff
    (hversioned : Versioned (RowListens ctx) (ResultListens ctx) w) (hready : EditsReady ctx w)
    (h : Stored (Servable ctx) w) (hplain : AtEditCommit EditPlain w a) :
    Stored (Servable ctx) (step ctx w a) ↔
      AtEditCommit (EditServable ctx) w a ∧ AtBuildCommit (RowShareable ctx) w a := by
  have hlistens := hversioned.carries.atBuildCommit a
  have hbuild : AtBuildCommit (Servable ctx) w a ↔ AtBuildCommit (RowShareable ctx) w a := by
    cases a with
    | work e env =>
        constructor
        · exact fun hnew hcom x row he hstage => (hnew hcom x row he hstage).shareable
        · exact fun hnew hcom x row he hstage =>
            ⟨hlistens hcom x row he hstage, hnew hcom x row he hstage⟩
    | _ => exact Iff.rfl
  rw [← hbuild]
  refine stored_step_iff hversioned.sound hversioned.profiled h ?_
  intro r env plan loaded config row ha hr hcom hconfig hrow hservable
  have hdrafted := hready.drafted r _ _ hr rfl
  subst ha
  exact servable_edit_iff (hdrafted.profile_eq hconfig) hdrafted (hready.flushed r _ plan hr rfl)
    (hplain hcom plan loaded config row hr hconfig hrow) hservable

end Steps

/-! ## what links resolve to -/

section Resolutions

variable {ctx : ShareCtx} {p : Panel}

/-- What a resolution may raise. -/
def Refused (exc : PyErr) : Prop := exc = rateLimitExceeded ∨ exc = shareNotFound

/-- The URIs of a document, with the keys and the host of a snapshot. -/
def documentUris (ctx : Ctx) (rnd : ConfigId → Nat) (secure : Bool)
    (snapshot : ConfigVersionSnapshot) (doc : PyVal) : Except PyErr (List String) := do
  let uris ← buildClientUris (rnd snapshot.configId) ctx.settings snapshot.profile doc
    snapshot.publicKey snapshot.certFingerprint secure snapshot.sharePublicHost
  .ok (uris.map ShareUri.render)

/-- The panel serves the documents its versions were given. -/
structure Panel.ServesAll (ctx : ShareCtx) (given : Given) (p : Panel) : Prop where
  /-- The stored ports are those of the documents. -/
  listens : ∀ c config v row, p.world.db.configs c = some config →
    p.world.db.versions c v = some row → ∃ ps doc, given c v = some doc ∧
      ctx.settings.profileSettings config.profile = .ok ps ∧
      listeningPort config.profile doc ps = .ok row.port
  /-- A link pinned to a stored version stands for the URIs of its document. -/
  pinned : ∀ c v share rnd, (p.world.db.versions c v).isSome = true → share.configId = some c →
    share.configVersion = some v → ∃ snapshot doc own,
      getVersionSnapshot p.world.db c v = some snapshot ∧ given c v = some doc ∧
      documentUris ctx.toCtx rnd share.secure snapshot doc = .ok own ∧
      shareUris ctx rnd p.world.db p.order share = .ok own
  /-- A link for all configs stands for the URIs of each. -/
  all : ∀ share rnd, share.configId = none →
    listCurrentVersionSnapshots p.world.db p.order ≠ [] →
    ∃ uris, shareUris ctx rnd p.world.db p.order share = .ok uris ∧
      ∀ snapshot ∈ listCurrentVersionSnapshots p.world.db p.order, ∃ doc own,
        given snapshot.configId snapshot.version = some doc ∧
        documentUris ctx.toCtx rnd share.secure snapshot doc = .ok own ∧ own ⊆ uris
  /-- A valid token resolves to what its link stands for. -/
  resolves : ∀ env rawToken clientIp share, env.committed = none → p.Admits ctx clientIp →
    p.IsLink ctx.toCtx rawToken share → share.valid p.world.now = true →
    p.resolve ctx env rawToken clientIp = shareUris ctx env.rnd p.world.db p.order share
  /-- Resolving a token raises nothing but a refusal. -/
  raises : ∀ env rawToken clientIp exc, env.committed = none →
    p.resolve ctx env rawToken clientIp = .error exc → Refused exc
  /-- Nor does a resolution among other requests. -/
  steps : ∀ env r stage exc s, env.committed = none → p.shares r = some (.resolving stage) →
    resolveStep ctx env p.world.now stage p.store = .done (.error exc) s → Refused exc

/-- What the route answers where the commit goes through. -/
theorem resolve_of_committed {env : ResolveEnv} (hcom : env.committed = none)
    (rawToken clientIp : String) :
    p.resolve ctx env rawToken clientIp = (do
      checkCount (p.rates (shareRateKey ctx p.world.now clientIp) + 1) ctx.shareRule.requests
      sharedUris ctx env.rnd p.world.now p.store rawToken) := by
  rw [Panel.resolve, resolveShareRoute, hcom, Eff.exec_transaction_none, exec_resolveShare]
  unfold sharedUris
  cases hcount : checkCount (p.rates (shareRateKey ctx p.world.now clientIp) + 1)
      ctx.shareRule.requests with
  | error exc => simp [Panel.store, hcount]
  | ok u =>
      cases hvalid : validShare ctx.toCtx p.world.now p.tokens rawToken with
      | error exc => simp [Panel.store, hcount, hvalid]
      | ok share =>
          cases huris : shareUris ctx env.rnd p.world.db p.order share <;>
            simp [Panel.store, hcount, hvalid, huris]

theorem isRefusal_iff {exc : PyErr} : isRefusal exc = true ↔ Refused exc := by
  simp [isRefusal, Refused]

theorem refused_of_checkCount {count limit : Nat} {exc : PyErr}
    (h : checkCount count limit = .error exc) : Refused exc := by
  unfold checkCount at h
  split at h
  · exact Or.inl (Except.error.inj h).symm
  · cases h

theorem refused_of_validShare {now : Nat} {tokens : ShareTable} {rawToken : String} {exc : PyErr}
    (h : validShare ctx.toCtx now tokens rawToken = .error exc) : Refused exc := by
  unfold validShare at h
  repeat' split at h
  all_goals first | exact Or.inr (Except.error.inj h).symm | cases h

/-- The URIs of a snapshot can be built exactly when its document can be shared. -/
theorem urisForSnapshot_eq_ok_iff {snapshot : ConfigVersionSnapshot} {ctx : Ctx}
    (rnd : ConfigId → Nat) (secure : Bool) :
    (∃ own, urisForSnapshot ctx rnd secure snapshot = .ok own) ↔
      ∃ doc, decryptConfigDataFields ctx.encryptor (sensitiveFields snapshot.profile)
          snapshot.configData = .ok doc ∧
        Shareable ctx.settings snapshot.profile doc := by
  constructor
  · rintro ⟨own, hown⟩
    obtain ⟨doc, hdoc, hown⟩ := Except.bind_eq_ok_iff.mp hown
    obtain ⟨uris, huris, -⟩ := Except.bind_eq_ok_iff.mp hown
    exact ⟨doc, hdoc, (shareable_iff _ _ _ _ _).mpr ⟨uris, huris⟩⟩
  · rintro ⟨doc, hdoc, hshareable⟩
    obtain ⟨uris, huris⟩ := (shareable_iff (rnd snapshot.configId) snapshot.publicKey
      snapshot.certFingerprint secure snapshot.sharePublicHost).mp hshareable
    exact ⟨uris.map ShareUri.render, by simp [urisForSnapshot, hdoc, huris]⟩

/-- The same for the snapshot of a version. -/
theorem urisForSnapshot_iff {db : Db} {c : ConfigId} {v : Nat} {snapshot : ConfigVersionSnapshot}
    {config : VpnConfigModel} {row : VpnConfigVersionModel} (hconfig : db.configs c = some config)
    (hrow : db.versions c v = some row) (h : getVersionSnapshot db c v = some snapshot)
    (rnd : ConfigId → Nat) (secure : Bool) :
    (∃ own, urisForSnapshot ctx.toCtx rnd secure snapshot = .ok own) ↔
      RowShareable ctx.toCtx config.profile row := by
  have hmodel : db.getModel c = some config := hconfig
  rw [getVersionSnapshot, hmodel, hrow] at h
  rw [urisForSnapshot_eq_ok_iff, ← Option.some.inj h]
  rfl

/-- A snapshot of the link for all configs is one of a stored version. -/
theorem exists_of_mem_current {db : Db} {order : List ConfigId} {snapshot : ConfigVersionSnapshot}
    (h : snapshot ∈ listCurrentVersionSnapshots db order) :
    ∃ c v, getVersionSnapshot db c v = some snapshot := by
  obtain ⟨c, -, hc⟩ := List.mem_filterMap.mp h
  repeat' split at hc
  · obtain ⟨v, -, hsnapshot⟩ := Option.bind_eq_some_iff.mp hc
    exact ⟨c, v, hsnapshot⟩
  all_goals contradiction

/-- The URIs of a version are those of the document it was given. -/
theorem urisForSnapshot_of_tracks {given : Given} (htracks : Tracks ctx.toCtx p.world given)
    {c : ConfigId} {v : Nat} {snapshot : ConfigVersionSnapshot}
    (h : getVersionSnapshot p.world.db c v = some snapshot) (rnd : ConfigId → Nat)
    (secure : Bool) : ∃ doc, given snapshot.configId snapshot.version = some doc ∧
      given c v = some doc ∧ urisForSnapshot ctx.toCtx rnd secure snapshot =
        documentUris ctx.toCtx rnd secure snapshot doc := by
  unfold getVersionSnapshot at h
  split at h
  · next config row hconfig hrow =>
    obtain ⟨doc, hgiven, hdoc⟩ := htracks c config v row hconfig hrow
    rw [← Option.some.inj h]
    refine ⟨doc, hgiven, hgiven, ?_⟩
    have hplain : decryptConfigDataFields ctx.toCtx.encryptor (sensitiveFields config.profile)
        row.configData = .ok doc := hdoc
    simp only [urisForSnapshot, hplain, Except.ok_bind_eq, documentUris]
  · contradiction

/-- A snapshot is one of rows that are there. -/
theorem rows_of_getVersionSnapshot {db : Db} {c : ConfigId} {v : Nat}
    {snapshot : ConfigVersionSnapshot} (h : getVersionSnapshot db c v = some snapshot) :
    ∃ config row, db.configs c = some config ∧ db.versions c v = some row := by
  unfold getVersionSnapshot at h
  split at h
  · next config row hconfig hrow => exact ⟨config, row, hconfig, hrow⟩
  · contradiction

/-- What the link for all configs stands for. -/
theorem sharedSnapshots_all (ctx : ShareCtx) {db : Db} {order : List ConfigId}
    {share : ShareTokenModel}
    (hall : share.configId = none) (hne : listCurrentVersionSnapshots db order ≠ []) :
    sharedSnapshots ctx db order share =
      .ok (sortSnapshots ctx.lower (listCurrentVersionSnapshots db order)) := by
  have hsorted : sortSnapshots ctx.lower (listCurrentVersionSnapshots db order) ≠ [] := by
    rw [sortSnapshots, ← List.length_pos_iff, List.length_mergeSort]
    exact List.length_pos_iff.mpr hne
  simp [sharedSnapshots, hall, hsorted]

/-- A link that stands for nothing is not found. -/
theorem error_of_sharedSnapshots {db : Db} {order : List ConfigId} {share : ShareTokenModel}
    {exc : PyErr} (h : sharedSnapshots ctx db order share = .error exc) : exc = shareNotFound := by
  unfold sharedSnapshots at h
  simp only at h
  repeat' split at h
  all_goals first | exact (Except.error.inj h).symm | cases h

/-- What a link stands for are snapshots of stored versions. -/
theorem exists_of_mem_shared {db : Db} {order : List ConfigId} {share : ShareTokenModel}
    {snapshots : List ConfigVersionSnapshot} {snapshot : ConfigVersionSnapshot}
    (h : sharedSnapshots ctx db order share = .ok snapshots) (hmem : snapshot ∈ snapshots) :
    ∃ c v, getVersionSnapshot db c v = some snapshot := by
  cases hc : share.configId with
  | some c =>
      obtain ⟨v, found, -, hfound, rfl⟩ := sharedSnapshots_pinned hc h
      rw [List.mem_singleton.mp hmem]
      exact ⟨c, v, hfound⟩
  | none =>
      by_cases hne : listCurrentVersionSnapshots db order = []
      · simp [sharedSnapshots, hc, hne, sortSnapshots] at h
      · rw [sharedSnapshots_all ctx hc hne] at h
        rw [← Except.ok.inj h, sortSnapshots, List.mem_mergeSort] at hmem
        exact exists_of_mem_current hmem

theorem urisForSnapshots_of_all (ctx : ShareCtx) {rnd : ConfigId → Nat} {secure : Bool}
    {snapshots : List ConfigVersionSnapshot}
    (h : ∀ snapshot ∈ snapshots, ∃ own, urisForSnapshot ctx.toCtx rnd secure snapshot = .ok own) :
    ∃ uris, urisForSnapshots ctx.toCtx rnd secure snapshots = .ok uris ∧
      ∀ snapshot ∈ snapshots, ∃ own,
        urisForSnapshot ctx.toCtx rnd secure snapshot = .ok own ∧ own ⊆ uris := by
  induction snapshots with
  | nil => exact ⟨[], rfl, by simp⟩
  | cons snapshot rest ih =>
      obtain ⟨own, hown⟩ := h snapshot List.mem_cons_self
      obtain ⟨uris, huris, hrest⟩ := ih fun s hs => h s (List.mem_cons_of_mem _ hs)
      refine ⟨own ++ uris, by simp [urisForSnapshots, hown, huris], fun s hs => ?_⟩
      obtain rfl | hs := List.mem_cons.mp hs
      · exact ⟨own, hown, List.subset_append_left _ _⟩
      · obtain ⟨own', hown', hsub⟩ := hrest s hs
        exact ⟨own', hown', fun uri huri => List.mem_append_right own (hsub huri)⟩

/-- Resolutions that are refused. -/
def Panel.Refusing (p : Panel) : Prop :=
  ∀ r key exc, p.shares r = some (.resolving (.refusing key exc)) → Refused exc

theorem refusing_init (host : Host) : (Panel.init host).Refusing := by
  intro r key exc hr
  cases hr

theorem refusing_of_next {env : ResolveEnv} {now : Nat} {stage : ResolveStage} {s s' : ShareStore}
    {key : RateKey} {exc : PyErr}
    (h : resolveStep ctx env now stage s = .next (.refusing key exc) s') : Refused exc := by
  cases stage <;> simp only [resolveStep, refuse] at h <;> repeat' split at h
  all_goals first | cases h; exact isRefusal_iff.mp ‹_› | cases h

theorem refusing_step (ctx : ShareCtx) (h : p.Refusing) (a : PanelAction) :
    (p.step ctx a).Refusing := by
  intro r key exc hr'
  cases a with
  | lifecycle a => exact h r key exc hr'
  | share a =>
      obtain ⟨heq, -⟩ | hstep := share_cases ctx p a
      · exact h r key exc (heq ▸ hr')
      · cases stage_of_step hstep hr' with
        | same _ _ hr => exact h r key exc hr
        | resolveNext env stage _ hr hnext => exact refusing_of_next hnext

/-- What links stand for where every version is servable: the URIs, or
nothing. -/
theorem shareUris_of_stored (hstored : Stored (Servable ctx.toCtx) p.world)
    (share : ShareTokenModel) (rnd : ConfigId → Nat) :
    sharedSnapshots ctx p.world.db p.order share = .error shareNotFound ∨
      ∃ snapshots uris, sharedSnapshots ctx p.world.db p.order share = .ok snapshots ∧
        shareUris ctx rnd p.world.db p.order share = .ok uris ∧
        ∀ snapshot ∈ snapshots, ∃ own,
          urisForSnapshot ctx.toCtx rnd share.secure snapshot = .ok own ∧ own ⊆ uris := by
  have hone {c : ConfigId} {v : Nat} {snapshot : ConfigVersionSnapshot}
      (h : getVersionSnapshot p.world.db c v = some snapshot) :
      ∃ own, urisForSnapshot ctx.toCtx rnd share.secure snapshot = .ok own := by
    obtain ⟨config, row, hconfig, hrow⟩ := rows_of_getVersionSnapshot h
    exact (urisForSnapshot_iff hconfig hrow h rnd share.secure).mpr
      (hstored c config v row hconfig hrow).shareable
  cases hsnapshots : sharedSnapshots ctx p.world.db p.order share with
  | error exc => exact Or.inl (by rw [error_of_sharedSnapshots hsnapshots])
  | ok snapshots =>
      obtain ⟨uris, huris, hall⟩ := urisForSnapshots_of_all ctx fun snapshot hmem => by
        obtain ⟨c, v, hsnapshot⟩ := exists_of_mem_shared hsnapshots hmem
        exact hone hsnapshot
      exact Or.inr ⟨snapshots, uris, rfl, by rw [shareUris, hsnapshots]; exact huris, hall⟩

/-- Where links pinned to a version stand for its document, it is servable. -/
theorem Panel.ServesAll.servable {given : Given} (htracks : Tracks ctx.toCtx p.world given)
    (h : p.ServesAll ctx given) : Stored (Servable ctx.toCtx) p.world := by
  intro c config v row hconfig hrow
  obtain ⟨doc, hgiven, hdoc⟩ := htracks c config v row hconfig hrow
  obtain ⟨ps, doc', hgiven', hps, hlistens⟩ := h.listens c config v row hconfig hrow
  obtain rfl : doc = doc' := Option.some.inj (hgiven.symm.trans hgiven')
  refine ⟨⟨ps, doc, hps, hdoc, hlistens⟩, ?_⟩
  -- some link is pinned to the version
  let share : ShareTokenModel :=
    { id := 0, tokenHash := "", configId := some c, configVersion := some v, secure := true,
      isPermanent := true, expiresAt := none, createdAt := 0 }
  obtain ⟨snapshot, doc', own, hsnapshot, hgiven', hown, -⟩ :=
    h.pinned c v share (fun _ => 0) (by simp [hrow]) rfl rfl
  obtain ⟨doc'', -, hgiven'', huris⟩ :=
    urisForSnapshot_of_tracks htracks hsnapshot (fun _ => 0) share.secure
  obtain rfl : doc' = doc'' := Option.some.inj (hgiven'.symm.trans hgiven'')
  exact (urisForSnapshot_iff hconfig hrow hsnapshot _ _).mp ⟨own, huris.trans hown⟩

/-- A link pinned to a servable version stands for the URIs of its document. -/
theorem shareUris_of_pinned {given : Given} (hsound : Sound p.world)
    (htracks : Tracks ctx.toCtx p.world given) (hstored : Stored (Servable ctx.toCtx) p.world)
    {c : ConfigId} {v : Nat} {share : ShareTokenModel}
    (hsome : (p.world.db.versions c v).isSome = true) (hc : share.configId = some c)
    (hv : share.configVersion = some v) (rnd : ConfigId → Nat) : ∃ snapshot doc own,
      getVersionSnapshot p.world.db c v = some snapshot ∧ given c v = some doc ∧
      documentUris ctx.toCtx rnd share.secure snapshot doc = .ok own ∧
      shareUris ctx rnd p.world.db p.order share = .ok own := by
  obtain ⟨config, hconfig⟩ := hsound.owned.versions c v hsome
  obtain ⟨row, hrow⟩ := Option.isSome_iff_exists.mp hsome
  have hmodel : p.world.db.getModel c = some config := hconfig
  obtain ⟨snapshot, hsnapshot⟩ :
      ∃ snapshot, getVersionSnapshot p.world.db c v = some snapshot := by
    simp [getVersionSnapshot, hmodel, hrow]
  obtain ⟨own, hown⟩ := (urisForSnapshot_iff hconfig hrow hsnapshot rnd share.secure).mpr
    (hstored c config v row hconfig hrow).shareable
  obtain ⟨doc, -, hgiven, huris⟩ := urisForSnapshot_of_tracks htracks hsnapshot rnd share.secure
  refine ⟨snapshot, doc, own, hsnapshot, hgiven, huris.symm.trans hown, ?_⟩
  simp [shareUris, sharedSnapshots, hc, hv, hsnapshot, urisForSnapshots, hown]

/-- A link for all configs stands for the URIs of each. -/
theorem shareUris_of_all {given : Given} (htracks : Tracks ctx.toCtx p.world given)
    (hstored : Stored (Servable ctx.toCtx) p.world) {share : ShareTokenModel}
    (hall : share.configId = none) (hne : listCurrentVersionSnapshots p.world.db p.order ≠ [])
    (rnd : ConfigId → Nat) :
    ∃ uris, shareUris ctx rnd p.world.db p.order share = .ok uris ∧
      ∀ snapshot ∈ listCurrentVersionSnapshots p.world.db p.order, ∃ doc own,
        given snapshot.configId snapshot.version = some doc ∧
        documentUris ctx.toCtx rnd share.secure snapshot doc = .ok own ∧ own ⊆ uris := by
  have hsnapshots := sharedSnapshots_all ctx hall hne
  obtain hnone | ⟨snapshots, uris, hsome, huris, hown⟩ := shareUris_of_stored hstored share rnd
  · rw [hsnapshots] at hnone
    cases hnone
  · obtain rfl := Except.ok.inj (hsnapshots.symm.trans hsome)
    refine ⟨uris, huris, fun snapshot hmem => ?_⟩
    obtain ⟨c, v, hsnapshot⟩ := exists_of_mem_current hmem
    obtain ⟨own, hown, hsub⟩ := hown snapshot (by rwa [sortSnapshots, List.mem_mergeSort])
    obtain ⟨doc, hgiven, -, huris⟩ :=
      urisForSnapshot_of_tracks htracks hsnapshot rnd share.secure
    exact ⟨doc, own, hgiven, huris.symm.trans hown, hsub⟩

/-- Where every version is servable a link has nothing to raise but a refusal. -/
theorem refused_of_shareUris (hstored : Stored (Servable ctx.toCtx) p.world)
    {share : ShareTokenModel} {rnd : ConfigId → Nat} {exc : PyErr}
    (h : shareUris ctx rnd p.world.db p.order share = .error exc) : Refused exc := by
  obtain hnone | ⟨-, uris, -, huris, -⟩ := shareUris_of_stored hstored share rnd
  · rw [shareUris, hnone] at h
    exact Or.inr (Except.error.inj h).symm
  · rw [huris] at h
    cases h

/-- Nor has the resolution of a token. -/
theorem refused_of_resolve (hstored : Stored (Servable ctx.toCtx) p.world) {env : ResolveEnv}
    {rawToken clientIp : String} {exc : PyErr} (hcom : env.committed = none)
    (h : p.resolve ctx env rawToken clientIp = .error exc) : Refused exc := by
  rw [resolve_of_committed hcom] at h
  cases hcount : checkCount (p.rates (shareRateKey ctx p.world.now clientIp) + 1)
      ctx.shareRule.requests with
  | error exc' =>
      rw [hcount] at h
      exact Except.error.inj h ▸ refused_of_checkCount hcount
  | ok u =>
      rw [hcount, Except.ok_bind_eq, sharedUris] at h
      cases hvalid : validShare ctx.toCtx p.world.now p.store.tokens rawToken with
      | error exc' =>
          rw [hvalid] at h
          exact Except.error.inj h ▸ refused_of_validShare hvalid
      | ok share =>
          rw [hvalid] at h
          exact refused_of_shareUris hstored h

/-- A stage that refuses ends with what it was refused for. -/
theorem error_of_refuse {key : RateKey} {exc exc' : PyErr} {s s' : ShareStore}
    (h : refuse key exc s = .done (.error exc') s') : exc = exc' := by
  unfold refuse at h
  split at h <;> cases h
  rfl

/-- Nor has a stage of a resolution. -/
theorem refused_of_resolveStep (hstored : Stored (Servable ctx.toCtx) p.world)
    (hrefusing : p.Refusing) {env : ResolveEnv} {r : RequestId} {stage : ResolveStage}
    {exc : PyErr} {s : ShareStore} (hcom : env.committed = none)
    (hr : p.shares r = some (.resolving stage))
    (h : resolveStep ctx env p.world.now stage p.store = .done (.error exc) s) :
    Refused exc := by
  cases stage with
  | limiting rawToken clientIp =>
      simp only [resolveStep] at h
      split at h
      · cases h
      · next hcount => exact error_of_refuse h ▸ refused_of_checkCount hcount
  | checking key rawToken =>
      simp only [resolveStep] at h
      split at h
      · cases h
      · next hvalid => exact error_of_refuse h ▸ refused_of_validShare hvalid
  | selecting key share =>
      simp only [resolveStep] at h
      split at h
      · cases h
      · next huris => exact error_of_refuse h ▸ refused_of_shareUris hstored huris
  | accessing key id uris => cases h
  | committing key id uris access =>
      simp only [resolveStep, hcom] at h
      cases h
  | refusing key exc' =>
      simp only [resolveStep, hcom] at h
      cases h
      exact hrefusing r key _ hr

/-- **What a panel serves is what its versions are.** -/
theorem servesAll_iff {given : Given} (hsound : Sound p.world) (hrefusing : p.Refusing)
    (htracks : Tracks ctx.toCtx p.world given) :
    p.ServesAll ctx given ↔ Stored (Servable ctx.toCtx) p.world := by
  refine ⟨fun h => h.servable htracks, fun hstored => ?_⟩
  constructor
  · intro c config v row hconfig hrow
    obtain ⟨doc, hgiven, hdoc⟩ := htracks c config v row hconfig hrow
    obtain ⟨ps, doc', hps, hdoc', hlistens⟩ := (hstored c config v row hconfig hrow).listens
    obtain rfl : doc = doc' := Except.ok.inj (hdoc.symm.trans hdoc')
    exact ⟨ps, doc, hgiven, hps, hlistens⟩
  · intro c v share rnd hsome hc hv
    exact shareUris_of_pinned hsound htracks hstored hsome hc hv rnd
  · exact fun share rnd hall hne => shareUris_of_all htracks hstored hall hne rnd
  · intro env rawToken clientIp share hcom hadmits hlink hvalid
    have hcount : checkCount (p.rates (shareRateKey ctx p.world.now clientIp) + 1)
        ctx.shareRule.requests = .ok () := hadmits
    have hshare : validShare ctx.toCtx p.world.now p.tokens rawToken = .ok share :=
      validShare_eq_ok_iff.mpr ⟨hlink, hvalid⟩
    rw [resolve_of_committed hcom, hcount]
    simp [sharedUris, Panel.store, hshare]
  · exact fun env rawToken clientIp exc hcom h => refused_of_resolve hstored hcom h
  · exact fun env r stage exc s hcom hr h => refused_of_resolveStep hstored hrefusing hcom hr h

end Resolutions

/-! ## runs -/

/-- A panel with the documents its versions were given. -/
structure Record where
  panel : Panel
  given : Given

def Record.init (host : Host) : Record := ⟨.init host, .none⟩

def Record.step (ctx : ShareCtx) (t : Record) (a : PanelAction) : Record where
  panel := t.panel.step ctx a
  given :=
    match a with
    | .lifecycle a => t.given.step ctx.toCtx t.panel.world a
    | .share _ => t.given

/-- A run of the panel. -/
def runRecord (ctx : ShareCtx) (host : Host) (as : List PanelAction) : Record :=
  Machine.run (Record.step ctx) (.init host) as

theorem panel_runRecord (ctx : ShareCtx) (host : Host) (as : List PanelAction) :
    (runRecord ctx host as).panel = runPanel ctx host as := by
  have hrun (as : List PanelAction) : ∀ t : Record,
      (Machine.run (Record.step ctx) t as).panel = Machine.run (Panel.step ctx) t.panel as := by
    induction as with
    | nil => exact fun t => rfl
    | cons a as ih => exact fun t => ih (t.step ctx a)
  exact hrun as (.init host)

/-- An edit that commits has a plain document, and where the column is left the
row has it. -/
def CommitsPlain (t : Record) : PanelAction → Prop
  | .lifecycle a => AtEditCommit EditPlain t.panel.world a
  | .share _ => True

/-- What keeps everything served: an edit that commits leaves its version
servable, a build that commits stores a document whose URIs can be built. -/
def KeepsServable (ctx : ShareCtx) (t : Record) : PanelAction → Prop
  | .lifecycle a => AtEditCommit (EditServable ctx.toCtx) t.panel.world a ∧
      AtBuildCommit (RowShareable ctx.toCtx) t.panel.world a
  | .share _ => True

/-- What holds along a run in which everything is served. -/
structure RecordReady (ctx : ShareCtx) (t : Record) : Prop where
  versioned : Versioned (RowListens ctx.toCtx) (ResultListens ctx.toCtx) t.panel.world
  edits : EditsReady ctx.toCtx t.panel.world
  refusing : t.panel.Refusing
  tracks : Tracks ctx.toCtx t.panel.world t.given

theorem recordReady_init (ctx : ShareCtx) (host : Host) : RecordReady ctx (Record.init host) where
  versioned := versioned_init _ _ host
  edits := editsReady_init ctx.toCtx host
  refusing := refusing_init host
  tracks := tracks_init ctx.toCtx host

theorem RecordReady.servesAll_iff {ctx : ShareCtx} {t : Record} (h : RecordReady ctx t) :
    t.panel.ServesAll ctx t.given ↔ Stored (Servable ctx.toCtx) t.panel.world :=
  VpnPanel.servesAll_iff h.versioned.sound h.refusing h.tracks

theorem recordReady_step {ctx : ShareCtx} {t : Record} (h : RecordReady ctx t) (a : PanelAction)
    (hplain : CommitsPlain t a) : RecordReady ctx (t.step ctx a) := by
  have hrefusing := refusing_step ctx h.refusing a
  cases a with
  | share a =>
      have hworld : (t.panel.share ctx a).world = t.panel.world := world_share a
      refine ⟨?_, ?_, hrefusing, ?_⟩
      · change Versioned _ _ (t.panel.share ctx a).world
        rw [hworld]
        exact h.versioned
      · change EditsReady _ (t.panel.share ctx a).world
        rw [hworld]
        exact h.edits
      · change Tracks _ (t.panel.share ctx a).world t.given
        rw [hworld]
        exact h.tracks
  | lifecycle a =>
      have hversioned : Versioned (RowListens ctx.toCtx) (ResultListens ctx.toCtx)
          (step ctx.toCtx t.panel.world a) :=
        versioned_step h.versioned (fun _ _ _ => resultListens_of_build)
          fun _ _ _ _ _ => rowListens_of_insertVersion
      have hdocumented : AtBuildCommit (Documented ctx.toCtx) t.panel.world a := by
        have hlistens := h.versioned.carries.atBuildCommit a
        cases a with
        | work e env =>
            intro hcom x row he hstage
            obtain ⟨ps, doc, -, hdoc, -⟩ := hlistens hcom x row he hstage
            exact ⟨doc, hdoc⟩
        | _ => trivial
      refine ⟨hversioned, ?_, hrefusing, tracks_step h.versioned.sound h.versioned.profiled h.edits
        hplain hdocumented h.tracks⟩
      change EditsReady _ (step ctx.toCtx t.panel.world a)
      obtain heq | hstep : step ctx.toCtx t.panel.world a = t.panel.world ∨
          Step ctx.toCtx t.panel.world a (step ctx.toCtx t.panel.world a) := step_cases a
      · rw [heq]
        exact h.edits
      · exact editsReady_step h.edits hstep

/-- **When everything is served.**  Along a run whose committed edits are plain,
the stored ports are those of the documents the versions were given, the links
resolve to the URIs of these documents and no resolution raises anything but a
refusal, in every state, exactly when every edit that commits has a document
`listening_port` and the builder of the URIs return for, and every build that
commits one the builder of the URIs returns for. -/
theorem servesAll_run_iff (ctx : ShareCtx) (host : Host) (as : List PanelAction)
    (hplain : Machine.Meets (Record.step ctx) CommitsPlain (Record.init host) as) :
    (∀ bs, bs <+: as →
      (runRecord ctx host bs).panel.ServesAll ctx (runRecord ctx host bs).given) ↔
      Machine.Meets (Record.step ctx) (KeepsServable ctx) (Record.init host) as := by
  have hinit : (Record.init host).panel.ServesAll ctx (Record.init host).given :=
    (recordReady_init ctx host).servesAll_iff.mpr (stored_init host)
  refine Machine.always_iff_meets (I := RecordReady ctx)
    (P := fun t => t.panel.ServesAll ctx t.given) ?_ ?_ (recordReady_init ctx host) hinit hplain
  · exact fun t a h _ hplain => recordReady_step h a hplain
  · intro t a h hserves hplain
    have hstored := h.servesAll_iff.mp hserves
    rw [(recordReady_step h a hplain).servesAll_iff]
    cases a with
    | share a =>
        change Stored _ (t.panel.share ctx a).world ↔ True
        rw [world_share]
        exact iff_true_intro hstored
    | lifecycle a => exact servable_step_iff h.versioned h.edits hstored hplain

/-- Config 0 is built and shared, and then its document edited. -/
def editedLink (document : PyVal) : List PanelAction :=
  let actions : List Action :=
    .edit 1 0 (.configData (.ofVal document)) :: List.replicate 8 (.advance 1 {})
  pinnedLink ++ actions.map .lifecycle

/-- An edit writes a plain document of xHTTP that can be shared, with another
port. -/
def editShares (profile : ConfigProfile) (plan : EditPlan) (loaded _ : VpnConfigVersionModel) :
    Bool :=
  plan.profile = .xrayXhttp && plan.document.tree.toJson?.isSome &&
    !sameJson loaded.configData plan.encrypted.tree &&
    (buildClientUris 0 ShareCtx.sample.settings profile plan.parsed "" "" true none).isOk &&
    (do let ps ← ShareCtx.sample.settings.profileSettings profile
        listeningPort profile plan.parsed ps).isOk &&
    plan.port ≠ loaded.port

/-- The document of a row can be shared. -/
def rowShares (profile : ConfigProfile) (row : VpnConfigVersionModel) : Bool :=
  (do let doc ← row.document ShareCtx.sample.toCtx profile
      buildClientUris 0 ShareCtx.sample.settings profile doc "" "" true none).isOk

/-- What a run is checked for. -/
def shares (t : Record) : PanelAction → Bool
  | .lifecycle (.advance r _) => editCheck editShares t.panel.world r
  | .lifecycle (.work e _) => buildCheck rowShares t.panel.world e
  | _ => true

theorem commitsPlain_of_shares {t : Record} {a : PanelAction} (h : shares t a = true) :
    CommitsPlain t a := by
  cases a with
  | share a => trivial
  | lifecycle a =>
      cases a with
      | advance r env =>
          refine atEditCommit_of_check (b := editShares)
            (fun profile plan loaded row hchecks => ?_) h
          simp only [editShares, Bool.and_eq_true, decide_eq_true_eq, Bool.not_eq_true'] at hchecks
          obtain ⟨⟨⟨⟨⟨hprofile, hjson⟩, hwritten⟩, -⟩, -⟩, -⟩ := hchecks
          obtain ⟨v, hv⟩ := Option.isSome_iff_exists.mp hjson
          refine ⟨plainDocument_of_noFields (by rw [hprofile]; rfl) hv, fun hleft => ?_⟩
          rw [hwritten] at hleft
          cases hleft
      | _ => trivial

theorem keepsServable_of_shares {t : Record} {a : PanelAction} (h : shares t a = true) :
    KeepsServable ShareCtx.sample t a := by
  cases a with
  | share a => trivial
  | lifecycle a =>
      cases a with
      | advance r env =>
          refine ⟨atEditCommit_of_check (b := editShares)
            (fun profile plan loaded row hchecks hwritten => ?_) h, trivial⟩
          simp only [editShares, Bool.and_eq_true, decide_eq_true_eq] at hchecks
          obtain ⟨⟨⟨-, hshareable⟩, hport⟩, hmoved⟩ := hchecks
          obtain ⟨port, hport⟩ := isOk_iff.mp hport
          obtain ⟨ps, hps, hlistens⟩ := Except.bind_eq_ok_iff.mp hport
          exact ⟨hshareable, ⟨ps, port, hps, hlistens⟩, fun hkept => absurd hkept hmoved⟩
      | work e env =>
          refine ⟨trivial, atBuildCommit_of_check (b := rowShares)
            (fun profile row hchecks => ?_) h⟩
          obtain ⟨uris, huris⟩ := isOk_iff.mp hchecks
          obtain ⟨doc, hdoc, huris⟩ := Except.bind_eq_ok_iff.mp huris
          exact ⟨doc, hdoc, isOk_iff.mpr ⟨uris, huris⟩⟩
      | _ => exact ⟨trivial, trivial⟩

/-- An edit that moves the port. -/
theorem servesAll_of_movedPort :
    (runRecord ShareCtx.sample Host.blank (editedLink (shareableConfigData 8443))).panel.ServesAll
      ShareCtx.sample
      (runRecord ShareCtx.sample Host.blank (editedLink (shareableConfigData 8443))).given := by
  have hchecks : Machine.Meets (Record.step ShareCtx.sample)
      (fun t a => shares t a = true) (Record.init Host.blank)
      (editedLink (shareableConfigData 8443)) := by decide +kernel
  exact (servesAll_run_iff ShareCtx.sample Host.blank _
    (hchecks.mono fun _ _ => commitsPlain_of_shares)).mpr
    (hchecks.mono fun _ _ => keepsServable_of_shares) _ (List.prefix_refl _)

/-- A document whose inbound is renamed and moved to another port. -/
def renamedInbound : PyVal :=
  .dict [("inbounds", .list [.dict [("tag", .str "renamed"), ("port", .int 8443),
    ("settings", .dict [("clients", .list [.dict [("id", .str "client")]])]),
    ("streamSettings", .dict [("xhttpSettings", .dict [])])]])]

/-- **An edit that is accepted leaves the link of its config broken**, and the
port of the version that was there. -/
theorem not_servesAll_of_renamedInbound :
    ¬ (runRecord ShareCtx.sample Host.blank (editedLink renamedInbound)).panel.ServesAll
        ShareCtx.sample (runRecord ShareCtx.sample Host.blank (editedLink renamedInbound)).given ∧
      (runRecord ShareCtx.sample Host.blank (editedLink renamedInbound)).panel.resolve
        ShareCtx.sample {} "token" "ip" =
          .error ⟨.keyError, "'Inbound tag not found: vless'"⟩ ∧
      ((runRecord ShareCtx.sample Host.blank (editedLink renamedInbound)).panel.world.db.versions
        0 1).map (·.port) = some 443 := by
  have hraised : (runRecord ShareCtx.sample Host.blank (editedLink renamedInbound)).panel.resolve
      ShareCtx.sample {} "token" "ip" =
        .error ⟨.keyError, "'Inbound tag not found: vless'"⟩ := by decide +kernel
  refine ⟨fun h => ?_, hraised, by decide +kernel⟩
  obtain hlimit | hnone := h.raises {} "token" "ip" _ rfl hraised
  · cases hlimit
  · cases hnone

end VpnPanel
