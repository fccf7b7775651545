import VpnPanel.StoredVersions
import VpnPanel.BuiltDocuments

/-!
# VpnPanel.KeyRecords

The key of a Reality version stands in three places: in the document, in the
column `private_key`, and as its public half in the column `public_key`.
`keyRecords_iff`: in every state of a run they agree for all versions, exactly
when every edit that commits leaves the private key of the document as it was.
-/

namespace VpnPanel

/-- The private key of a version's document, decrypted. -/
def VpnConfigVersionModel.documentKey (ctx : Ctx) (tag : String) (row : VpnConfigVersionModel) :
    Except PyErr PyVal := do
  let doc ← row.document ctx .xrayReality
  realityPrivateKey tag doc

/-- A consistent key record: the private key of the tagged inbound, the column
`private_key` and the column `public_key` belong together. -/
def KeyRecord (ctx : Ctx) (crypto : Crypto) (profile : ConfigProfile)
    (row : VpnConfigVersionModel) : Prop :=
  profile = .xrayReality → ∃ ps key, ctx.settings.profileSettings .xrayReality = .ok ps ∧
    row.documentKey ctx ps.inboundTag = .ok (.str key) ∧
    ctx.encryptor.decrypt row.privateKey = .ok key ∧ row.publicKey = crypto.publicKey key

/-- The same of a result that is not stored yet. -/
def KeyResult (ctx : Ctx) (crypto : Crypto) (profile : ConfigProfile) (result : BuildResult) :
    Prop :=
  profile = .xrayReality → ∃ ps, ctx.settings.profileSettings .xrayReality = .ok ps ∧
    realityPrivateKey ps.inboundTag result.configData = .ok (.str result.privateKey) ∧
    result.privateKey ≠ "" ∧ result.publicKey = crypto.publicKey result.privateKey

/-- An edit leaves the private key of a Reality document as it was. -/
def KeepsKey (ctx : Ctx) (profile : ConfigProfile) (plan : EditPlan)
    (loaded row : VpnConfigVersionModel) : Prop :=
  profile = .xrayReality → ∀ ps, ctx.settings.profileSettings .xrayReality = .ok ps →
    (plan.update loaded row).documentKey ctx ps.inboundTag =
      row.documentKey ctx ps.inboundTag

section

variable {ctx : Ctx} {crypto : Crypto}

/-! ## edits -/

/-- An edit does not touch the columns of the key. -/
theorem keyRecord_edit_iff {profile : ConfigProfile} {plan : EditPlan}
    {loaded row : VpnConfigVersionModel} (h : KeyRecord ctx crypto profile row) :
    KeyRecord ctx crypto profile (plan.update loaded row) ↔
      KeepsKey ctx profile plan loaded row := by
  constructor
  · intro h' hprofile ps hps
    obtain ⟨ps₁, key, hps₁, hdoc, hprivate, -⟩ := h hprofile
    obtain ⟨ps₂, key', hps₂, hdoc', hprivate', -⟩ := h' hprofile
    obtain rfl : ps = ps₁ := Except.ok.inj (hps.symm.trans hps₁)
    obtain rfl : ps = ps₂ := Except.ok.inj (hps.symm.trans hps₂)
    have hkey : key' = key := Except.ok.inj (hprivate'.symm.trans hprivate)
    rw [hdoc', hdoc, hkey]
  · intro hkeeps hprofile
    obtain ⟨ps, key, hps, hdoc, hprivate, hpublic⟩ := h hprofile
    exact ⟨ps, key, hps, by rw [hkeeps hprofile ps hps, hdoc], hprivate, hpublic⟩

/-! ## builds -/

/-- The row of a result. -/
theorem keyRecord_of_insertVersion {env : TaskEnv} {p : Payload} {result : BuildResult} {db : Db}
    {row : VpnConfigVersionModel} (h : KeyResult ctx crypto p.profile result)
    (hinsert : insertVersion ctx env p result db = .ok row) :
    KeyRecord ctx crypto p.profile row := by
  intro hprofile
  obtain ⟨ps, hps, hkey, hne, hpublic⟩ := h hprofile
  have hdoc := document_of_insertVersion hinsert
  rw [hprofile] at hdoc
  obtain ⟨-, hsealed, -, hpublic', -⟩ := versionRow_spec (versionRow_of_insertVersion hinsert)
  rw [encryptPrivateKey, if_pos hne] at hsealed
  obtain ⟨hencode, htoken⟩ := FieldEncryptor.encrypt_eq_ok_iff.mp hsealed
  refine ⟨ps, result.privateKey, hps, ?_, ?_, ?_⟩
  · simp [VpnConfigVersionModel.documentKey, hdoc, hkey]
  · rw [← htoken, ctx.encryptor.decrypt_token _ _ hencode]
  · rw [hpublic', hpublic]

/-- The secrets of a version carry a pair of keys that belong together. -/
def PreviousSecrets.Paired (crypto : Crypto) (previous : PreviousSecrets) : Prop :=
  ∀ privateKey publicKey, nonEmpty previous.privateKey = some privateKey →
    nonEmpty previous.publicKey = some publicKey → publicKey = crypto.publicKey privateKey

/-- The keys that are chosen belong together: new ones, or a pair that does. -/
theorem chooseRealityKeys_paired (env : BuildEnv) {req : BuildRequest}
    (h : ∀ previous, req.previous = some previous → previous.Paired crypto) :
    (chooseRealityKeys crypto env req).2 =
      crypto.publicKey (chooseRealityKeys crypto env req).1 := by
  unfold chooseRealityKeys
  split
  · next privateKey publicKey hprivate hpublic =>
    split
    · rfl
    · obtain ⟨previous, hprevious, hprivate⟩ := Option.bind_eq_some_iff.mp hprivate
      rw [hprevious, Option.bind_some] at hpublic
      exact h previous hprevious privateKey publicKey hprivate hpublic
  · rfl

/-- What a Reality regenerate takes over from a consistent version. -/
theorem paired_of_previousVersion {db : Db} {p : Payload} {config : VpnConfigModel}
    {previous : PreviousVersion} (hconfig : db.configs p.configId = some config)
    (hprofile : config.profile = .xrayReality)
    (hstored : ∀ v row, db.versions p.configId v = some row →
      KeyRecord ctx crypto config.profile row)
    (h : previousVersion ctx db p = .ok (some previous)) : previous.secrets.Paired crypto := by
  obtain ⟨config', row, privatePlain, hconfig', hrow, hplain, -, -, hsecrets⟩ :=
    previousVersion_spec h
  obtain rfl : config = config' := Option.some.inj (hconfig.symm.trans hconfig')
  rw [hprofile] at hsecrets
  obtain ⟨inbounds, -, hsecrets⟩ := Except.bind_eq_ok_iff.mp hsecrets
  obtain ⟨items, -, hsecrets⟩ := Except.bind_eq_ok_iff.mp hsecrets
  obtain ⟨found, -, hsecrets⟩ := Except.bind_eq_ok_iff.mp hsecrets
  obtain ⟨ps, key, -, -, hprivate, hpublic⟩ := hstored _ row hrow hprofile
  intro privateKey publicKey hk hpk
  rw [← Except.ok.inj hsecrets] at hk hpk
  obtain ⟨hk, hne⟩ := nonEmpty_eq_some_iff.mp hk
  obtain ⟨hpk, -⟩ := nonEmpty_eq_some_iff.mp hpk
  obtain rfl : privatePlain = privateKey := by simpa using hk
  obtain rfl : row.publicKey = publicKey := by simpa using hpk
  have hdecrypt : ctx.encryptor.decrypt row.privateKey = .ok privatePlain := by
    unfold VpnConfigVersionModel.privatePlain at hplain
    split at hplain
    · exact hplain
    · exact absurd (Except.ok.inj hplain).symm hne
  rw [hpublic, Except.ok.inj (hprivate.symm.trans hdecrypt)]

/-- A Reality build on consistent versions makes a consistent result. -/
theorem keyResult_of_build {w : World} {a : Action} {p : Payload} {env : TaskEnv}
    {result : BuildResult} (h : Versioned (KeyRecord ctx crypto) (KeyResult ctx crypto) w)
    (hstored : Stored (KeyRecord ctx crypto) w) (hhonest : BuildsHonestly ctx crypto w a)
    (hbuild : BuildsDocuments ctx w a p env result) : KeyResult ctx crypto p.profile result := by
  intro hreality
  obtain ⟨e, x, h', rfl, he, hstage, rfl, hx⟩ := hbuild
  obtain ⟨benv, usedPorts, req, hreq, hbuilt⟩ := hhonest x he hstage
  obtain ⟨ps, built, port, hps, hok, -, hresult, hwritten⟩ := written_of_buildDocuments hx
  have hflight : InFlight w x.payload := .execution e x he rfl
  obtain ⟨config, hconfig⟩ := h.sound.owned.inFlight x.payload hflight
  have hprofile : config.profile = .xrayReality := by
    rw [← h.profiled x.payload config hflight hconfig, hreality]
  rw [hok, hreality] at hbuilt
  rw [hreality] at hps hwritten
  unfold build at hbuilt
  rw [hps] at hbuilt
  rw [Except.ok_bind_eq] at hbuilt
  obtain ⟨template, -, hbuilt⟩ := Except.bind_eq_ok_iff.mp hbuilt.symm
  have hspec := buildXrayReality_spec hbuilt
  have hprevious (secrets : PreviousSecrets) (hsecrets : req.stripHost.previous = some secrets) :
      secrets.Paired crypto := by
    rw [req.stripHost_previous] at hsecrets
    obtain ⟨previous, hversion, rfl⟩ := previous_of_buildRequest hreq hsecrets
    exact paired_of_previousVersion hconfig hprofile (fun v row => hstored _ _ v row hconfig)
      hversion
  have hpaired := chooseRealityKeys_paired benv hprevious
  have hkeys := hspec.keys
  refine ⟨ps, hps, ?_, ?_, ?_⟩
  · rw [hwritten.eq_of_noFiles hspec.extraFiles, hresult]
    exact hspec.stored
  · rw [hresult]
    exact hspec.privateKey_ne
  · rw [hresult]
    have hpublic : built.publicKey = (chooseRealityKeys crypto benv req.stripHost).2 :=
      congrArg Prod.snd hkeys
    have hprivate : built.privateKey = (chooseRealityKeys crypto benv req.stripHost).1 :=
      congrArg Prod.fst hkeys
    rw [hpublic, hprivate, hpaired]

end

/-- **When the keys of all versions agree.**  In every state of a run every
stored Reality version is a consistent key record, exactly when every edit that
commits leaves the private key of the document as it was. -/
theorem keyRecords_iff (ctx : Ctx) (crypto : Crypto) (host : Host) (as : List Action)
    (h : Machine.Meets (step ctx) (BuildsHonestly ctx crypto) (World.init host) as) :
    (∀ bs, bs <+: as → Stored (KeyRecord ctx crypto) (runFrom ctx host bs)) ↔
      Machine.Meets (step ctx) (AtEditCommit (KeepsKey ctx)) (World.init host) as :=
  stored_iff (fun _ _ _ _ _ => keyResult_of_build)
    (fun _ _ _ _ _ => keyRecord_of_insertVersion) (fun _ _ _ _ => keyRecord_edit_iff) h

/-- A Reality config and its first version. -/
def realityFirst : List Action :=
  [.create 0 0 "c" .xray .xrayReality none none, .advance 0 { publish := .accepted 0 },
    .advance 0 {}, .deliver 0 0] ++
    List.replicate 8 (.work 0 (realityBuildEnv (realityTemplate []))) ++ [.finish 0]

/-- The document of that version with another private key. -/
def realityDocument (privateKey : String) : PyVal :=
  .dict [("inbounds", .list [.dict [("tag", .str "vless"), ("port", .int 443),
    ("settings", .dict [("clients", .list [.dict [("id", .str "uuid")]])]),
    ("streamSettings", .dict [("realitySettings", .dict [("dest", .str "b.example:443"),
      ("shortIds", .list [.str "0a"]), ("privateKey", .str privateKey),
      ("serverNames", .list [.str "b.example"])])])]])]

/-- The config is built, and then the document edited. -/
def realityEdited (privateKey : String) : List Action :=
  realityFirst ++ .edit 1 0 (.configData (.ofVal (realityDocument privateKey))) ::
    List.replicate 8 (.advance 1 {})

/-- Whether a build is what the builder makes of the sample template. -/
def buildsSample (w : World) : Action → Bool
  | .work e env =>
      match w.executions e with
      | some ⟨_, payload, .building⟩ =>
          payload.profile = .xrayReality &&
            match buildRequest Ctx.allProfiles w.db [] payload with
            | .ok req => env.built = build Crypto.sample Ctx.allProfiles.settings
                (BuildEnv.sample (realityTemplate [])) req .xrayReality
            | .error _ => false
      | _ => true
  | _ => true

theorem build_of_buildsSample {w : World} {e : ExecutionId} {env : TaskEnv} {x : Execution}
    (he : w.executions e = some x) (hstage : x.stage = .building)
    (h : buildsSample w (.work e env) = true) : x.payload.profile = .xrayReality ∧
      ∃ req, buildRequest Ctx.allProfiles w.db [] x.payload = .ok req ∧
        env.built = build Crypto.sample Ctx.allProfiles.settings
          (BuildEnv.sample (realityTemplate [])) req .xrayReality := by
  obtain ⟨task, payload, stage⟩ := x
  obtain rfl : stage = .building := hstage
  simp only [buildsSample, he, Bool.and_eq_true, decide_eq_true_eq] at h
  obtain ⟨hprofile, h⟩ := h
  cases hreq : buildRequest Ctx.allProfiles w.db [] payload with
  | error e => simp [hreq] at h
  | ok req =>
      simp only [hreq, decide_eq_true_eq] at h
      exact ⟨hprofile, req, rfl, h⟩

theorem buildsHonestly_of_buildsSample {w : World} {a : Action} (h : buildsSample w a = true) :
    BuildsHonestly Ctx.allProfiles Crypto.sample w a := by
  cases a with
  | work e env =>
      intro x he hstage
      obtain ⟨hprofile, req, hreq, hbuilt⟩ := build_of_buildsSample he hstage h
      exact ⟨BuildEnv.sample (realityTemplate []), [], req, hreq, hprofile ▸ hbuilt⟩
  | _ => trivial

/-- Whether an edit leaves the key of the document. -/
def keepsSampleKey (_ : ConfigProfile) (plan : EditPlan) (loaded row : VpnConfigVersionModel) :
    Bool :=
  (plan.update loaded row).documentKey Ctx.allProfiles "vless" =
    row.documentKey Ctx.allProfiles "vless"

def editsKeepKey (w : World) : Action → Bool
  | .advance r _ => editCheck keepsSampleKey w r
  | _ => true

theorem keepsKey_of_editsKeepKey {w : World} {a : Action} (h : editsKeepKey w a = true) :
    AtEditCommit (KeepsKey Ctx.allProfiles) w a := by
  cases a with
  | advance r env =>
      refine atEditCommit_of_check (b := keepsSampleKey)
        (fun profile plan loaded row hkeeps _ ps hps => ?_) h
      cases hps
      exact of_decide_eq_true hkeeps
  | _ => trivial

/-- Both hold all along the run with the key that was built. -/
theorem realityEdited_checks :
    Machine.Meets (step Ctx.allProfiles)
      (fun w a => buildsSample w a = true ∧ editsKeepKey w a = true) (World.init Host.blank)
      (realityEdited "x25519") := by
  decide +kernel

/-- An edit that leaves the key alone. -/
theorem keyRecords_of_editedDest :
    Stored (KeyRecord Ctx.allProfiles Crypto.sample)
      (runFrom Ctx.allProfiles Host.blank (realityEdited "x25519")) :=
  (keyRecords_iff Ctx.allProfiles Crypto.sample Host.blank (realityEdited "x25519")
    (realityEdited_checks.mono fun _ _ h => buildsHonestly_of_buildsSample h.1)).mpr
    (realityEdited_checks.mono fun _ _ h => keepsKey_of_editsKeepKey h.2) _ (List.prefix_refl _)

/-- An edit of the key leaves the columns as they were. -/
theorem not_keyRecords_of_editedKey :
    Machine.Meets (step Ctx.allProfiles) (BuildsHonestly Ctx.allProfiles Crypto.sample)
        (World.init Host.blank) (realityEdited "other") ∧
      ¬ Stored (KeyRecord Ctx.allProfiles Crypto.sample)
        (runFrom Ctx.allProfiles Host.blank (realityEdited "other")) := by
  have hbuilds : Machine.Meets (step Ctx.allProfiles) (fun w a => buildsSample w a = true)
      (World.init Host.blank) (realityEdited "other") := by
    decide +kernel
  refine ⟨hbuilds.mono fun _ _ h => buildsHonestly_of_buildsSample h, fun h => ?_⟩
  have hconfig : ((runFrom Ctx.allProfiles Host.blank (realityEdited "other")).db.configs 0).map
      (·.profile) = some .xrayReality := by decide +kernel
  have hkeys : ((runFrom Ctx.allProfiles Host.blank (realityEdited "other")).db.versions 0 1).map
      (fun row => (row.documentKey Ctx.allProfiles "vless",
        Ctx.allProfiles.encryptor.decrypt row.privateKey)) =
        some (.ok (.str "other"), .ok "x25519") := by decide +kernel
  obtain ⟨config, hconfig, hprofile⟩ := Option.map_eq_some_iff.mp hconfig
  obtain ⟨row, hrow, hkeys⟩ := Option.map_eq_some_iff.mp hkeys
  obtain ⟨hdocument, hcolumn⟩ := Prod.mk.inj hkeys
  obtain ⟨ps, key, hps, hdoc, hprivate, -⟩ := h 0 config 1 row hconfig hrow hprofile
  cases hps
  have hother : PyVal.str "other" = .str key := Except.ok.inj (hdocument.symm.trans hdoc)
  have hfirst : "x25519" = key := Except.ok.inj (hcolumn.symm.trans hprivate)
  rw [← hfirst] at hother
  exact absurd hother (by decide)

end VpnPanel
