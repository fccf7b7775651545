import VpnPanel.CurrentVersion
import VpnPanel.HostSteps
import VpnPanel.ServedDocument

/-!
# VpnPanel.LiveDocuments

Whether the live file of an active config is the document of its current
version.

A build and an edit write the live file first and commit afterwards.  The row
lock keeps two of them apart, so with an edit that commits what it has
written, and a build of a version that is not stored yet, the file and the row
move together.  What breaks them apart is a check that is out of date when
the writing starts, the shortcut for a stored version, which changes the row
without the file, and an edit whose document the column does not have: not one
of JSON, encrypted in more places than a path leads to, or `==` to the one that
is there.
-/

namespace VpnPanel

/-- The document of a version row, with the sensitive fields decrypted. -/
def VpnConfigVersionModel.document (ctx : Ctx) (profile : ConfigProfile)
    (row : VpnConfigVersionModel) : Except PyErr PyVal :=
  decryptConfigDataFields ctx.encryptor (sensitiveFields profile) row.configData

/-- The live file of a config holds `doc`. -/
def LiveFile (ctx : Ctx) (profile : ConfigProfile) (c : ConfigId) (doc : PyVal) (h : Host) :
    Prop :=
  ∃ ps, ctx.settings.profiles profile = some ps ∧
    h.live.get? (liveConfigPath profile c ps.configFilename ctx.settings.systemd) = some (some doc)

/-- The live file of a config is the document of its current version. -/
def Agrees (ctx : Ctx) (w : World) (c : ConfigId) (row : VpnConfigModel) : Prop :=
  ∃ v vrow doc, row.currentVersion = some v ∧ w.db.versions c v = some vrow ∧
    vrow.document ctx row.profile = .ok doc ∧ LiveFile ctx row.profile c doc w.host

/-- With live files, that of a config that is active is the document of its
current version, unless a session is writing the config. -/
def LiveAgrees (ctx : Ctx) (w : World) : Prop :=
  ctx.settings.systemd.perConfig = true →
    ∀ c row, w.db.configs c = some row → row.status = .active → w.locks c = none →
      Agrees ctx w c row

/-- A document of JSON in which every container with a sensitive string stands in
one place. -/
def PlainDocument (profile : ConfigProfile) (data : PyGraph) : Prop :=
  (∃ v, data.tree.toJson? = some v) ∧ Unshared (sensitiveFields profile) data

/-- Without sensitive fields every document of JSON is plain. -/
theorem plainDocument_of_noFields {profile : ConfigProfile} {data : PyGraph} {v : PyVal}
    (hfields : sensitiveFields profile = []) (hv : data.tree.toJson? = some v) :
    PlainDocument profile data := by
  refine ⟨⟨v, hv⟩, ?_⟩
  rw [hfields]
  intro path hpath
  cases hpath

/-- A document of JSON without aliases is plain. -/
theorem plainDocument_of_single {profile : ConfigProfile} {data : PyGraph} {v : PyVal}
    (hsingle : data.Single) (hv : data.tree.toJson? = some v) : PlainDocument profile data :=
  ⟨⟨v, hv⟩, unshared_of_single hsingle _⟩

/-- An edit writes a plain document, while its version is current and, if the
column is left because the loaded document is `==` to the new one, while the row
has the new one; from then on nothing fails. -/
def EditStage.Orderly (ctx : Ctx) (w : World) (env : EditEnv) : EditStage → Prop
  | writing plan loaded =>
      env.faults = Faults.none ∧ w.db.currentVersion plan.configId = some plan.version ∧
        PlainDocument plan.profile plan.document ∧
        ∀ vrow, w.db.versions plan.configId plan.version = some vrow →
          sameJson loaded.configData plan.encrypted.tree = true →
            vrow.configData = plan.stored
  | restarting _ _ => env.faults = Faults.none
  | syncing plan _ => env.faults = Faults.none ∧ (plan.profile.isMux = true →
      ∀ e, sharedConf ctx.settings w.host.glob plan.parsed ≠ .error e)
  | answering _ _ => env.answered = none
  | committing _ _ => env.committed = none
  | _ => True

/-- A build writes while its version is not stored; a shortcut that commits
finds the config active and leaves its current version; edits are orderly and
nothing is deleted. -/
def Orderly (ctx : Ctx) (w : World) : Action → Prop
  | .work e env => ∀ x, w.executions e = some x →
      match x.stage with
      | .building => w.db.hasVersion x.payload.configId x.payload.targetVersion = false
      | .marking loaded =>
          env.committed = none → w.lockFree x.payload.configId (.execution e) = true →
            loaded.status = .active ∧
              (loaded.currentVersion = some x.payload.targetVersion ∨
                w.db.currentVersion x.payload.configId = some x.payload.targetVersion)
      | _ => True
  | .advance r env => ∀ stage, w.requests r = some (.editing stage) →
      stage.Orderly ctx w env.toEditEnv
  | .delete _ _ => False
  | _ => True

/-! ## what is written -/

section Files

variable {ctx : Ctx} {profile : ConfigProfile} {c : ConfigId} {doc : PyVal}

theorem LiveFile.of_same {h h' : Host} (hfile : LiveFile ctx profile c doc h)
    (hsame : SameLive c h h') : LiveFile ctx profile c doc h' := by
  obtain ⟨ps, hps, hget⟩ := hfile
  exact ⟨ps, hps, by rw [hsame _ rfl, hget]⟩

/-- With per-config units the served document is the live file. -/
theorem LiveFile.of_served {ps : VpnProfileSettings} {h : Host}
    (hper : ctx.settings.systemd.perConfig = true) (hps : ctx.settings.profiles profile = some ps)
    (hserved : served ctx.settings ps profile c h = some doc) : LiveFile ctx profile c doc h := by
  rw [served, if_pos hper] at hserved
  exact ⟨ps, hps, Option.join_eq_some_iff.mp hserved⟩

theorem profiles_of_profileSettings {ps : VpnProfileSettings}
    (h : ctx.settings.profileSettings profile = .ok ps) :
    ctx.settings.profiles profile = some ps := by
  unfold PanelSettings.profileSettings at h
  split at h
  · next hps => rw [hps, Except.ok.inj h]
  · contradiction

/-- The documents of an edit. -/
theorem liveFile_of_writeDocuments {env : EditEnv} {plan : EditPlan} {h h' : Host}
    (hper : ctx.settings.systemd.perConfig = true)
    (hx : (writeDocuments ctx.settings env.faults env.timestamp plan.profile plan.configId
      plan.result).exec h = (.ok doc, h')) :
    LiveFile ctx plan.profile plan.configId plan.parsed h' := by
  obtain ⟨ps, h₁, hps, -⟩ := Eff.exec_bind_eq_ok hx
  rw [Eff.exec_ofExcept] at hps
  have hps := congrArg Prod.fst hps
  obtain ⟨hserves, hsame⟩ := (spec_writeDocuments hps (Or.inl hper) env.timestamp plan.result).ok
    ⟨rfl, rfl⟩ hx
  rw [hsame rfl] at hserves
  exact .of_served hper (profiles_of_profileSettings hps) hserves.doc

/-- The documents of a build. -/
theorem liveFile_of_buildDocuments {env : TaskEnv} {p : Payload} {result : BuildResult}
    {h h' : Host} (hper : ctx.settings.systemd.perConfig = true)
    (hx : (buildDocuments ctx env p).exec h = (.ok result, h')) :
    LiveFile ctx p.profile p.configId result.configData h' := by
  obtain ⟨ps, h₁, hps, -⟩ := Eff.exec_bind_eq_ok hx
  rw [Eff.exec_ofExcept] at hps
  have hps := congrArg Prod.fst hps
  have hserves := (spec_buildDocuments hps (Or.inl hper)).ok ⟨rfl, rfl⟩ hx
  exact .of_served hper (profiles_of_profileSettings hps) hserves.doc

/-- The row of a build holds its document. -/
theorem document_of_insertVersion {env : TaskEnv} {p : Payload} {result : BuildResult} {db : Db}
    {row : VpnConfigVersionModel} (h : insertVersion ctx env p result db = .ok row) :
    row.document ctx p.profile = .ok result.configData := by
  exact decrypt_of_encrypt (versionRow_spec (versionRow_of_insertVersion h)).1

end Files

/-! ## what does not fail -/

section Unfailing

variable {ctx : Ctx} {profile : ConfigProfile} {c : ConfigId} {ps : VpnProfileSettings}

/-- A call without a fault does its work. -/
theorem returns_attempt (op : HostOp) (effect : Host → Host) :
    Eff.Returns (attempt Faults.none op effect) := Eff.Returns.update effect

theorem returns_attemptStart (op : HostOp) (name : ServiceName) (effect : Host → Host) :
    Eff.Returns (attemptStart Faults.none op name effect) := Eff.Returns.update effect

/-- Without faults the documents of an edit are written. -/
theorem returns_writeDocuments {timestamp : Nat} {result : BuildResult}
    (hps : ctx.settings.profileSettings profile = .ok ps) (hfiles : result.extraFiles = []) :
    Eff.Returns (writeDocuments ctx.settings Faults.none timestamp profile c result) := by
  unfold writeDocuments
  rw [hps, Eff.ofExcept_ok_bind]
  have hcerts : installCerts ctx.settings Faults.none timestamp profile ps c result =
      pure result.configData := by
    simp [installCerts, hfiles]
  have hprepare : Eff.Returns
      (prepareDocuments ctx.settings Faults.none timestamp profile ps c result) := by
    unfold prepareDocuments
    rw [hcerts]
    have hrest : Eff.Returns (do
        let configData ← (pure result.configData : HostM PyVal)
        attempt Faults.none .serialize id
        attempt Faults.none .writeArchive fun h => h.setArchive c ps.configFilename configData
        pure configData) :=
      Eff.Returns.bind (Eff.Returns.pure _) fun _ => Eff.Returns.bind (returns_attempt _ _)
        fun _ => Eff.Returns.bind (returns_attempt _ _) fun _ => Eff.Returns.pure _
    refine Eff.Returns.bind (returns_attempt _ _) fun _ => ?_
    split
    · exact Eff.Returns.bind (returns_attempt _ _) fun _ => hrest
    · exact hrest
  refine Eff.Returns.bind hprepare fun _ => Eff.Returns.bind ?_ fun _ => Eff.Returns.pure _
  unfold writeServed
  split
  · exact returns_attempt _ _
  · split
    · exact Eff.Returns.bind (returns_attempt _ _) fun _ => returns_attempt _ _
    · exact Eff.Returns.pure _

theorem returns_restartService {name : String}
    (hps : ctx.settings.profileSettings profile = .ok ps) :
    Eff.Returns (restartService ctx.settings Faults.none profile c name) := by
  unfold restartService
  rw [hps, Eff.ofExcept_ok_bind]
  split
  · unfold installConfigUnit
    refine Eff.Returns.bind Eff.Returns.read fun h => ?_
    refine Eff.Returns.bind (Eff.Returns.catching (returns_attempt _ _)) fun _ => ?_
    refine Eff.Returns.bind (returns_attempt _ _) fun _ => ?_
    have hstart (effect : Host → Host) : Eff.Returns (do
        attemptStart Faults.none .restart (configServiceName ctx.settings.systemd c) effect
        attemptStart Faults.none .waitReady (configServiceName ctx.settings.systemd c) id) :=
      Eff.Returns.bind (returns_attemptStart _ _ _) fun _ => returns_attemptStart _ _ _
    split
    · exact Eff.Returns.bind (returns_attempt _ _) fun _ => hstart _
    · exact hstart _
  · exact Eff.Returns.bind (returns_attemptStart _ _ _) fun _ => returns_attemptStart _ _ _

/-- Without faults the mux fails only where its routes cannot be collected. -/
theorem returns_syncMux {doc : PyVal} {h h' : Host} {e : PyErr}
    (hconf : profile.isMux = true → ∀ e, sharedConf ctx.settings h.glob doc ≠ .error e) :
    (syncMux ctx.settings Faults.none profile doc).exec h ≠ (.error e, h') := by
  unfold syncMux
  split
  · next hmux =>
    cases hx : sharedConf ctx.settings h.glob doc with
    | error e' => exact absurd hx (hconf hmux e')
    | ok conf =>
        rw [syncRealityShared443, Eff.exec_bind_ok (Eff.exec_read h), hx, Eff.ofExcept_ok_bind]
        cases conf with
        | none => exact Eff.Returns.pure _ h e h'
        | some conf =>
            exact Eff.Returns.bind (returns_attempt _ _) (fun _ => returns_attempt _ _) h e h'
  · exact Eff.Returns.pure _ h e h'

end Unfailing

/-! ## the invariant -/

/-- What an edit has settled on. -/
def EditStage.draft? : EditStage → Option EditDraft
  | planning _ _ => none
  | selecting draft | flushing draft _ => some draft
  | writing plan _ | restarting plan _ | syncing plan _ | answering plan _
  | committing plan _ => some plan.toEditDraft

/-- What an edit has flushed. -/
def EditStage.plan? : EditStage → Option EditPlan
  | planning _ _ | selecting _ | flushing _ _ => none
  | writing plan _ | restarting plan _ | syncing plan _ | answering plan _
  | committing plan _ => some plan

/-- What an edit has written and not committed. -/
def EditStage.written : EditStage → Option (EditPlan × VpnConfigVersionModel)
  | restarting plan loaded | syncing plan loaded | answering plan loaded
  | committing plan loaded => some (plan, loaded)
  | _ => none

/-- A build has written `doc` and not committed it. -/
def TaskStage.Wrote (ctx : Ctx) (profile : ConfigProfile) (doc : PyVal) : TaskStage → Prop
  | restarting result | syncing result | inserting result => result.configData = doc
  | committing row => row.document ctx profile = .ok doc
  | _ => False

/-- A build has written its document and not committed. -/
def TaskStage.hasWritten : TaskStage → Bool
  | restarting _ | syncing _ | inserting _ | committing _ => true
  | _ => false

theorem EditStage.holdsLock_of_written {stage : EditStage} {plan : EditPlan}
    {loaded : VpnConfigVersionModel} (h : stage.written = some (plan, loaded)) :
    stage.holdsLock = true ∧ stage.configId = plan.configId := by
  cases stage <;> simp_all [EditStage.written, EditStage.holdsLock, EditStage.configId]

theorem TaskStage.holdsLock_of_hasWritten {stage : TaskStage} (h : stage.hasWritten = true) :
    stage.holdsLock = true := by
  cases stage <;> simp_all [TaskStage.hasWritten, TaskStage.holdsLock]

/-- An edit that has settled on its draft. -/
structure Drafted (ctx : Ctx) (w : World) (draft : EditDraft) : Prop where
  profile : ∃ row, w.db.configs draft.configId = some row ∧ draft.profile = row.profile
  port : ∃ ps old, ctx.settings.profiles draft.profile = some ps ∧
    draft.port = documentPort draft.profile ps old draft.document
  encrypted : ∃ nonce, Aliased.encryptConfigDataFields ctx.encryptor nonce
    (sensitiveFields draft.profile) draft.document = .ok draft.encrypted

/-- An edit that has flushed its documents. -/
structure Flushed (plan : EditPlan) : Prop where
  parsed : plan.document.tree.jsonColumn = .ok plan.parsed
  stored : plan.encrypted.tree.jsonColumn = .ok plan.stored

/-- What the column has of a plain document is its encryption. -/
theorem Flushed.decrypt_stored {ctx : Ctx} {w : World} {plan : EditPlan} (h : Flushed plan)
    (hdrafted : Drafted ctx w plan.toEditDraft)
    (hplain : PlainDocument plan.profile plan.document) :
    decryptConfigDataFields ctx.encryptor (sensitiveFields plan.profile) plan.stored =
      .ok plan.parsed := by
  obtain ⟨⟨v, hv⟩, hunshared⟩ := hplain
  obtain ⟨nonce, henc⟩ := hdrafted.encrypted
  obtain ⟨stored, hstored, htree⟩ := encrypt_tree_of_unshared hv hunshared henc
  have hparsed : plan.parsed = v :=
    Except.ok.inj (h.parsed.symm.trans (PyObj.jsonColumn_of_toJson? _ hv))
  have hcolumn : plan.stored = stored :=
    Except.ok.inj (h.stored.symm.trans (PyObj.jsonColumn_of_toJson? _ hstored))
  rw [hparsed, hcolumn]
  exact decrypt_of_encrypt htree

/-- The port of a flushed document, if it has one. -/
theorem Flushed.port {ctx : Ctx} {w : World} {plan : EditPlan} (h : Flushed plan)
    (hdrafted : Drafted ctx w plan.toEditDraft) {ps : VpnProfileSettings} {port : Int}
    (hps : ctx.settings.profileSettings plan.profile = .ok ps)
    (hport : listeningPort plan.profile plan.parsed ps = .ok port) : plan.port = port := by
  obtain ⟨ps', old, hps', hplan⟩ := hdrafted.port
  have hsettings : ctx.settings.profileSettings plan.profile = .ok ps' := by
    simp [PanelSettings.profileSettings, hps']
  obtain rfl : ps = ps' := Except.ok.inj (hps.symm.trans hsettings)
  rw [hplan, documentPort, h.parsed]
  simp only [hport]

/-- What the edits in flight have settled on. -/
structure EditsReady (ctx : Ctx) (w : World) : Prop where
  drafted : ∀ r stage draft, w.requests r = some (.editing stage) →
    stage.draft? = some draft → Drafted ctx w draft
  flushed : ∀ r stage plan, w.requests r = some (.editing stage) → stage.plan? = some plan →
    Flushed plan

theorem editsReady_init (ctx : Ctx) (host : Host) : EditsReady ctx (World.init host) where
  drafted r stage draft hr := by simp [World.init] at hr
  flushed r stage plan hr := by simp [World.init] at hr

/-- An edit that has written and not committed. -/
structure Edited (ctx : Ctx) (w : World) (plan : EditPlan) (loaded : VpnConfigVersionModel) :
    Prop where
  live : LiveFile ctx plan.profile plan.configId plan.parsed w.host
  current : w.db.currentVersion plan.configId = some plan.version
  plain : PlainDocument plan.profile plan.document
  stored : ∃ vrow, w.db.versions plan.configId plan.version = some vrow ∧
    (sameJson loaded.configData plan.encrypted.tree = true → vrow.configData = plan.stored)

/-- A build that has written and not committed. -/
structure Built (ctx : Ctx) (w : World) (x : Execution) : Prop where
  absent : w.db.hasVersion x.payload.configId x.payload.targetVersion = false
  live : ∃ doc, x.stage.Wrote ctx x.payload.profile doc ∧
    LiveFile ctx x.payload.profile x.payload.configId doc w.host

/-- The live file of config `c` is that of its current version while it is
active and no edit is between its write and its commit. -/
def Settled (ctx : Ctx) (w : World) (c : ConfigId) : Prop :=
  ∀ row, w.db.configs c = some row → row.status = .active →
    (∀ r stage, w.requests r = some (.editing stage) → stage.configId = c →
      stage.written = none) → Agrees ctx w c row

/-- What holds along an orderly run. -/
structure Coherent (ctx : Ctx) (w : World) : Prop where
  profile : ∀ p row, InFlight w p → w.db.configs p.configId = some row → p.profile = row.profile
  ready : EditsReady ctx w
  notBusy : ∀ r c loaded, w.requests r = some (.regeneratePrepared c loaded) →
    loaded.status.busy = false
  undeleted : ∀ r c profile, w.requests r ≠ some (.deleting c profile)
  inactive : ∀ p row, InFlight w p → w.db.hasVersion p.configId p.targetVersion = false →
    w.db.configs p.configId = some row → row.status ≠ .active
  edited : ∀ r stage plan loaded, w.requests r = some (.editing stage) →
    stage.written = some (plan, loaded) → Edited ctx w plan loaded
  built : ∀ e x, w.executions e = some x → x.stage.hasWritten = true → Built ctx w x
  settled : ∀ c, Settled ctx w c

theorem coherent_init (ctx : Ctx) (host : Host) : Coherent ctx (World.init host) where
  profile p row _ hrow := by simp [World.init, Db.empty] at hrow
  ready := editsReady_init ctx host
  notBusy r c loaded hr := by simp [World.init] at hr
  undeleted r c profile := by simp [World.init]
  inactive p row _ _ hrow := by simp [World.init, Db.empty] at hrow
  edited r stage plan loaded hr := by simp [World.init] at hr
  built e x he := by simp [World.init] at he
  settled c row hrow := by simp [World.init, Db.empty] at hrow

section Steps

variable {ctx : Ctx} {w w' : World} {a : Action}

/-- An edit keeps the draft it has settled on. -/
theorem EditMove.draft_cases {env : EditEnv} {s s' : Store} {stage stage' : EditStage}
    {draft : EditDraft} (hmove : EditMove ctx env s stage stage' s')
    (hdraft : stage'.draft? = some draft) :
    stage.draft? = some draft ∨ ∃ c submitted, planEdit ctx env s.db c submitted = .ok draft := by
  cases hmove with
  | plan c submitted draft₀ h =>
      obtain rfl : draft₀ = draft := Option.some.inj hdraft
      exact Or.inr ⟨c, submitted, h⟩
  | flush draft₀ loaded plan h =>
      obtain rfl : plan.toEditDraft = draft := Option.some.inj hdraft
      exact Or.inl (by rw [EditStage.draft?, (EditDraft.flush_spec h).1])
  | _ => exact Or.inl hdraft

/-- An edit keeps the plan it has flushed. -/
theorem EditMove.plan_cases {env : EditEnv} {s s' : Store} {stage stage' : EditStage}
    {plan : EditPlan} (hmove : EditMove ctx env s stage stage' s')
    (hplan : stage'.plan? = some plan) :
    stage.plan? = some plan ∨ ∃ (draft : EditDraft) (loaded : VpnConfigVersionModel),
      draft.flush loaded = .ok plan := by
  cases hmove with
  | plan c submitted draft h => cases hplan
  | select draft loaded h => cases hplan
  | flush draft loaded plan₀ h =>
      obtain rfl : plan₀ = plan := Option.some.inj hplan
      exact Or.inr ⟨draft, loaded, h⟩
  | _ => exact Or.inl hplan

theorem Drafted.step {draft : EditDraft} (h : Drafted ctx w draft) (hstep : Step ctx w a w') :
    Drafted ctx w' draft where
  profile := by
    obtain ⟨row, hrow, hprofile⟩ := h.profile
    obtain ⟨row', hrow'⟩ := configs_mono hstep hrow
    exact ⟨row', hrow', by rw [hprofile, profile_of_step hstep hrow hrow']⟩
  port := h.port
  encrypted := h.encrypted

/-- Edits keep to what they have settled on. -/
theorem editsReady_step (h : EditsReady ctx w) (hstep : Step ctx w a w') : EditsReady ctx w' where
  drafted r stage' draft hr' hdraft := by
    obtain hr | ⟨c, submitted, rfl⟩ | ⟨env, stage, s, -, hr, -, hmove, -, -⟩ :=
      edit_of_step hstep hr'
    · exact (h.drafted r stage' draft hr hdraft).step hstep
    · contradiction
    · obtain hdraft | ⟨c, submitted, hplanned⟩ := hmove.draft_cases hdraft
      · exact (h.drafted r stage draft hr hdraft).step hstep
      · obtain ⟨rfl, config, ps, snapshot, hactive, hprofile, hps, -, -, -, henc, hport⟩ :=
          planEdit_spec hplanned
        have hrow := (Db.getActive_eq_some_iff.mp hactive).1
        have hnow : Drafted ctx w draft :=
          ⟨⟨config, hrow, hprofile⟩, ⟨ps, snapshot.port, hprofile ▸ hps, hport⟩, env.nonce, henc⟩
        exact hnow.step hstep
  flushed r stage' plan hr' hplan := by
    obtain hr | ⟨c, submitted, rfl⟩ | ⟨env, stage, s, -, hr, -, hmove, -, -⟩ :=
      edit_of_step hstep hr'
    · exact h.flushed r stage' plan hr hplan
    · contradiction
    · obtain hplan | ⟨draft, loaded, hflush⟩ := hmove.plan_cases hplan
      · exact h.flushed r stage plan hr hplan
      · obtain ⟨rfl, hparsed, hstored, -⟩ := EditDraft.flush_spec hflush
        exact ⟨hparsed, hstored⟩

/-- No delete begins. -/
theorem Coherent.undeleted_step (h : Coherent ctx w) (hstep : Step ctx w a w')
    (horderly : Orderly ctx w a) (r : RequestId) (c : ConfigId) (profile : ConfigProfile) :
    w'.requests r ≠ some (.deleting c profile) := by
  intro hr'
  have hold := h.undeleted r c profile
  cases hstep with
  | delete r₀ c₀ config hr hc => exact horderly
  | publish r₀ env p t stage hr ht hstage =>
      obtain ⟨-, rfl⟩ | ⟨-, rfl⟩ := hstage
      all_goals
        simp [Function.update_apply] at *
        grind
  | deleteUnit r₀ env c₀ profile₀ host out stage hr hx hstage =>
      exact absurd hr (h.undeleted r₀ c₀ profile₀)
  | _ =>
      simp [Function.update_apply] at *
      grind

/-- A config is active because it was, in the same version, or because a build
of it has committed. -/
theorem Coherent.active_of_step (h : Coherent ctx w) (hstep : Step ctx w a w')
    (horderly : Orderly ctx w a) {c : ConfigId} {row' : VpnConfigModel}
    (hrow' : w'.db.configs c = some row') (hactive : row'.status = .active) :
    (∃ row, w.db.configs c = some row ∧ row.status = .active ∧
        row'.currentVersion = row.currentVersion) ∨
      ∃ e x vrow, w.executions e = some x ∧ x.payload.configId = c ∧
        x.stage = .committing vrow ∧ w'.db = commitBuild w.now x.payload vrow w.db ∧
        w'.host = w.host := by
  obtain ⟨-, -, -, -, -, -, hpending, -⟩ | ⟨row, hrow, hchange⟩ := row_of_step hstep hrow'
  · rw [hpending] at hactive
    contradiction
  · cases hchange with
    | prepared r env loaded row p hr hact hcur hc hr' =>
        rw [prepareRegenerate_status (h.notBusy r c loaded hr)] at hactive
        contradiction
    | marked e env row x loaded he hc hstage hcom hlock hgone =>
        have hkeeps := horderly x he
        rw [hstage] at hkeeps
        obtain ⟨hloaded, hcur⟩ := hkeeps hcom (hc ▸ hlock)
        refine Or.inl ⟨row, hrow, ?_, ?_⟩
        · simpa [markActive_status, hloaded] using hactive
        · rw [markActive_currentVersion]
          split
          · rfl
          · next hne =>
            obtain hsame | hcurrent := hcur
            · exact absurd hsame hne
            · rw [hc, Db.currentVersion, hrow] at hcurrent
              exact hcurrent.symm
    | built e env row x vrow he hc hstage hcom hdb hhost hgone =>
        exact Or.inr ⟨e, x, vrow, he, hc, hstage, hdb, hhost⟩
    | failed e env row x exc loaded he hc hstage hlock hgone =>
        rw [markFailed_status] at hactive
        split at hactive
        · exact Or.inl ⟨row, hrow, hactive, rfl⟩
        · contradiction
    | _ => exact Or.inl ⟨_, hrow, hactive, rfl⟩

/-! ## the writers keep out of each other's way -/

/-- An edit past its write and another session do not hold the lock of one
config. -/
theorem RowLocked.edit_unique {r r' : RequestId} {stage stage' : EditStage} (h : RowLocked w)
    (hr : w.requests r = some (.editing stage)) (hr' : w.requests r' = some (.editing stage'))
    (hc : stage.configId = stage'.configId) (hholds : stage.holdsLock = true)
    (hholds' : stage'.holdsLock = true) : r = r' := by
  have hlock := h.edit r stage hr hholds
  rw [hc, h.edit r' stage' hr' hholds'] at hlock
  exact (Holder.request.inj (Option.some.inj hlock)).symm

theorem RowLocked.not_edit_and_execution {r : RequestId} {stage : EditStage} {e : ExecutionId}
    {x : Execution} (h : RowLocked w) (hr : w.requests r = some (.editing stage))
    (he : w.executions e = some x) (hc : stage.configId = x.payload.configId)
    (hholds : stage.holdsLock = true) (hholds' : x.stage.holdsLock = true) : False := by
  have hlock := h.edit r stage hr hholds
  rw [hc, h.execution e x he hholds'] at hlock
  cases hlock

/-- While the target of a payload is not stored, its config is not active. -/
theorem Coherent.inactive_step (h : Coherent ctx w) (hsound : Sound w) (hstep : Step ctx w a w')
    (horderly : Orderly ctx w a) {p : Payload} {row' : VpnConfigModel} (hp : InFlight w' p)
    (habsent : w'.db.hasVersion p.configId p.targetVersion = false)
    (hrow' : w'.db.configs p.configId = some row') : row'.status ≠ .active := by
  intro hactive
  obtain hp | ⟨-, row₀, hrow₀, -, hpending⟩ | ⟨r, loaded, row, v, hr, -, -, -, -, hrow₀⟩ :=
    inFlight_of_step hstep hp
  · have habsent₀ : w.db.hasVersion p.configId p.targetVersion = false := by
      by_contra hstored
      have hmono := versions_mono hstep (Bool.eq_true_of_not_eq_false hstored)
      rw [Db.hasVersion, hmono] at habsent
      contradiction
    obtain ⟨row, hrow, hactive₀, -⟩ | ⟨e, x, vrow, he, hc, hstage, hdb, -⟩ :=
      h.active_of_step hstep horderly hrow' hactive
    · exact h.inactive p row hp habsent₀ hrow hactive₀
    · -- a build has stored the version after the last, and no target is beyond it
      obtain ⟨n, hn⟩ := hsound.numbered x.payload.configId
      have htarget := hsound.target_of_committing he hstage hn
      have hbound := hn.targets p hp hc.symm
      have hne : p.targetVersion ≠ x.payload.targetVersion := by
        intro heq
        rw [Db.hasVersion, hdb, ← hc, heq] at habsent
        simp [commitBuild] at habsent
      have hstored := (hn.counted p.targetVersion).mpr (by omega)
      rw [hc] at hstored
      rw [Db.hasVersion, hstored] at habsent₀
      contradiction
  · obtain rfl : row₀ = row' := Option.some.inj (hrow₀.symm.trans hrow')
    rw [hpending] at hactive
    contradiction
  · rw [← Option.some.inj (hrow₀.symm.trans hrow'),
      prepareRegenerate_status (h.notBusy r _ loaded hr)] at hactive
    contradiction

/-- An edit comes to have written by its write. -/
theorem EditMove.written_cases {env : EditEnv} {s s' : Store} {stage stage' : EditStage}
    {plan : EditPlan} {loaded : VpnConfigVersionModel}
    (hmove : EditMove ctx env s stage stage' s') (hwritten : stage'.written = some (plan, loaded)) :
    (stage.written = some (plan, loaded) ∧ s'.host.live = s.host.live) ∨
      stage = .writing plan loaded ∧ ∃ doc, (writeDocuments ctx.settings env.faults env.timestamp
        plan.profile plan.configId plan.result).exec s.host = (.ok doc, s'.host) := by
  cases hmove with
  | write plan₀ loaded₀ h' doc hx =>
      obtain ⟨rfl, rfl⟩ : plan₀ = plan ∧ loaded₀ = loaded := by
        simpa [EditStage.written] using hwritten
      exact Or.inr ⟨rfl, doc, hx⟩
  | restart plan₀ loaded₀ h' hx => exact Or.inl ⟨hwritten, keeps_live_restartService.of_exec hx⟩
  | sync plan₀ loaded₀ h' hx => exact Or.inl ⟨hwritten, keeps_live_syncMux.of_exec hx⟩
  | answer plan₀ loaded₀ hans => exact Or.inl ⟨hwritten, rfl⟩
  | _ => simp [EditStage.written] at hwritten

/-- Others do not disturb an edit that has written. -/
theorem Coherent.edited_of_same (h : Coherent ctx w) (hsound : Sound w) (hstep : Step ctx w a w')
    {r : RequestId} {stage : EditStage} {plan : EditPlan} {loaded : VpnConfigVersionModel}
    (hr : w.requests r = some (.editing stage)) (hwritten : stage.written = some (plan, loaded))
    (hr' : w'.requests r = some (.editing stage)) : Edited ctx w' plan loaded := by
  have hedited := h.edited r stage plan loaded hr hwritten
  obtain ⟨hholds, hc⟩ := EditStage.holdsLock_of_written hwritten
  have hlock := hsound.locked.edit r stage hr hholds
  rw [hc] at hlock
  have hnoBuild {e : ExecutionId} {x : Execution} (he : w.executions e = some x)
      (hx : x.payload.configId = plan.configId) (hstage : x.stage.holdsLock = true) : False :=
    hsound.locked.not_edit_and_execution hr he (hc.trans hx.symm) hholds hstage
  refine ⟨?_, ?_, hedited.plain, ?_⟩
  · cases liveChange_of_step hstep plan.configId with
    | same a hsame => exact hedited.live.of_same hsame
    | built e env x he hx hstage hdb => exact absurd (by rw [hstage]; rfl) (hnoBuild he hx)
    | edited r₀ env plan₀ loaded₀ hr₀ hc₀ hnext =>
        obtain rfl := hsound.locked.edit_unique hr hr₀ (hc.trans hc₀.symm) hholds rfl
        rw [hr] at hr₀
        cases hr₀
        contradiction
    | removed r₀ env profile hr₀ => exact absurd hr₀ (h.undeleted r₀ _ profile)
  · obtain ⟨row, hrow, hcur⟩ := Db.currentVersion_eq_some_iff.mp hedited.current
    obtain ⟨row', hrow'⟩ := configs_mono hstep hrow
    obtain ⟨hnone, -⟩ | ⟨row₀, hrow₀, hsame | ⟨e, env, x, -, he, hx, -, hstage⟩⟩ :=
      current_of_step hstep hrow'
    · rw [hnone] at hrow
      contradiction
    · obtain rfl : row = row₀ := Option.some.inj (hrow.symm.trans hrow₀)
      exact Db.currentVersion_eq_some_iff.mpr ⟨row', hrow', hsame.trans hcur⟩
    · obtain ⟨loaded₀, -, -, hfree, -⟩ | ⟨vrow, hcommitting, -⟩ := hstage
      · simp [World.lockFree, hlock] at hfree
      · exact absurd (by rw [hcommitting]; rfl) (hnoBuild he hx)
  · obtain ⟨vrow, hvrow, hstored⟩ := hedited.stored
    refine ⟨vrow, ?_, hstored⟩
    obtain hsame | ⟨r₀, env, plan₀, loaded₀, -, hr₀, hdb, hgone, -⟩ |
      ⟨e, env, x, vrow₀, -, he, hstage, hdb, -, -⟩ := versions_eq_of_step hstep
    · rw [hsame, hvrow]
    · have hne : plan.configId ≠ plan₀.configId := by
        intro hc₀
        obtain rfl := hsound.locked.edit_unique hr hr₀ (hc.trans hc₀) hholds rfl
        rw [hgone] at hr'
        contradiction
      simpa [hdb, commitEdit, hne] using hvrow
    · have hne : plan.configId ≠ x.payload.configId := fun hx =>
        hnoBuild he hx.symm (by rw [hstage]; rfl)
      simpa [hdb, commitBuild, Db.setVersion, hne] using hvrow

/-- An edit that has written was orderly when it did. -/
theorem Coherent.edited_step (hper : ctx.settings.systemd.perConfig = true)
    (h : Coherent ctx w) (hsound : Sound w) (hstep : Step ctx w a w')
    (horderly : Orderly ctx w a) {r : RequestId} {stage' : EditStage} {plan : EditPlan}
    {loaded : VpnConfigVersionModel} (hr' : w'.requests r = some (.editing stage'))
    (hwritten : stage'.written = some (plan, loaded)) : Edited ctx w' plan loaded := by
  obtain hr | ⟨c, submitted, rfl⟩ | ⟨env, stage, s, rfl, hr, -, hmove, hdb, hhost⟩ :=
    edit_of_step hstep hr'
  · exact h.edited_of_same hsound hstep hr hwritten hr'
  · contradiction
  · obtain ⟨hwritten₀, hlive⟩ | ⟨rfl, doc, hx⟩ := hmove.written_cases hwritten
    · obtain ⟨hfile, hcur, hplain, hstored⟩ := h.edited r stage plan loaded hr hwritten₀
      refine ⟨hfile.of_same (.of_eq (by rw [hhost, hlive]; rfl)), ?_, hplain, ?_⟩
      · rw [hdb, hcur]
      · rw [hdb]
        exact hstored
    · obtain ⟨-, hcur, hplain, hsame⟩ := horderly (.writing plan loaded) hr
      obtain ⟨row, hrow, hcurrent⟩ := Db.currentVersion_eq_some_iff.mp hcur
      obtain ⟨n, hn⟩ := hsound.numbered plan.configId
      obtain ⟨vrow, hvrow⟩ := Option.isSome_iff_exists.mp
        ((hn.counted plan.version).mpr (hn.current row plan.version hrow hcurrent))
      refine ⟨?_, by rw [hdb, hcur], hplain, vrow, by rw [hdb, hvrow], hsame vrow hvrow⟩
      rw [hhost]
      exact liveFile_of_writeDocuments hper hx

/-- A build comes to have written by its documents. -/
theorem TaskMove.hasWritten_cases {env : TaskEnv} {p : Payload} {s s' : Store}
    {stage stage' : TaskStage} (hmove : TaskMove ctx env p s stage stage' s')
    (hwritten : stage'.hasWritten = true) :
    (stage.hasWritten = true ∧ s'.host.live = s.host.live ∧
        ∀ doc, stage.Wrote ctx p.profile doc → stage'.Wrote ctx p.profile doc) ∨
      stage = .building ∧ ∃ result, stage' = .restarting result ∧
        (buildDocuments ctx env p).exec s.host = (.ok result, s'.host) := by
  cases hmove with
  | build h' result hx => exact Or.inr ⟨rfl, result, rfl, hx⟩
  | restart h' result hx =>
      exact Or.inl ⟨rfl, keeps_live_restartService.of_exec hx, fun _ hwrote => hwrote⟩
  | sync h' result hx => exact Or.inl ⟨rfl, keeps_live_syncMux.of_exec hx, fun _ hwrote => hwrote⟩
  | insert result row hins =>
      refine Or.inl ⟨rfl, rfl, ?_⟩
      rintro doc rfl
      exact document_of_insertVersion hins
  | missing stage hstage hnone =>
      obtain rfl | rfl := hstage <;> simp [TaskStage.hasWritten] at hwritten
  | rollback stage e hstage hcom => simp [TaskStage.hasWritten] at hwritten
  | _ => simp [TaskStage.hasWritten] at hwritten

/-- Others do not disturb a build that has written. -/
theorem Coherent.built_of_same (h : Coherent ctx w) (hsound : Sound w) (hstep : Step ctx w a w')
    {e : ExecutionId} {x : Execution} (he : w.executions e = some x)
    (hwritten : x.stage.hasWritten = true) (he' : w'.executions e = some x) : Built ctx w' x := by
  obtain ⟨habsent, doc, hwrote, hfile⟩ := h.built e x he hwritten
  have hholds := TaskStage.holdsLock_of_hasWritten hwritten
  refine ⟨?_, doc, hwrote, ?_⟩
  · obtain hsame | ⟨e₀, x₀, vrow, he₀, hstage, hdb, hgone⟩ := versions_of_step hstep
    · rw [Db.hasVersion, hsame]
      exact habsent
    · have hne : x.payload.configId ≠ x₀.payload.configId := by
        intro hc
        obtain rfl := hsound.locked.execution_unique he he₀ hc hholds (by rw [hstage]; rfl)
        rw [hgone] at he'
        contradiction
      simpa [hdb, commitBuild, Db.hasVersion, Db.setVersion, hne] using habsent
  · cases liveChange_of_step hstep x.payload.configId with
    | same a hsame => exact hfile.of_same hsame
    | built e₀ env x₀ he₀ hc hstage hdb =>
        obtain rfl := hsound.locked.execution_unique he he₀ hc.symm hholds (by rw [hstage]; rfl)
        obtain rfl : x = x₀ := Option.some.inj (he.symm.trans he₀)
        rw [hstage] at hwritten
        contradiction
    | edited r env plan loaded hr hc hnext =>
        exact (hsound.locked.not_edit_and_execution hr he hc rfl hholds).elim
    | removed r env profile hr => exact absurd hr (h.undeleted r _ profile)

/-- A build writes while its version is not stored. -/
theorem Coherent.built_step (hper : ctx.settings.systemd.perConfig = true)
    (h : Coherent ctx w) (hsound : Sound w) (hstep : Step ctx w a w')
    (horderly : Orderly ctx w a) {e : ExecutionId} {x' : Execution}
    (he' : w'.executions e = some x') (hwritten : x'.stage.hasWritten = true) :
    Built ctx w' x' := by
  obtain he | ⟨t, task, -, -, rfl⟩ | ⟨env, x, s, rfl, he, -, hp, hmove, hdb, hhost⟩ :=
    execution_of_step hstep he'
  · exact h.built_of_same hsound hstep he hwritten he'
  · contradiction
  · rw [← hp] at hmove
    obtain ⟨hwritten₀, hlive, hwrote⟩ | ⟨hbuilding, result, hresult, hx⟩ :=
      hmove.hasWritten_cases hwritten
    · obtain ⟨habsent, doc, hdoc, hfile⟩ := h.built e x he hwritten₀
      rw [← hp] at habsent hdoc hfile
      refine ⟨by rw [hdb, habsent], doc, hwrote doc hdoc, hfile.of_same (.of_eq ?_)⟩
      rw [hhost, hlive]
      rfl
    · have habsent := horderly x he
      rw [hbuilding] at habsent
      refine ⟨?_, result.configData, by rw [hresult]; rfl, ?_⟩
      · rw [hdb, hp]
        exact habsent
      · rw [hhost]
        exact liveFile_of_buildDocuments hper hx

/-! ## the commits -/

/-- What the commit of an edit leaves of its config. -/
theorem Edited.agrees {plan : EditPlan} {loaded : VpnConfigVersionModel} {row' : VpnConfigModel}
    (h : Edited ctx w plan loaded) (hdrafted : Drafted ctx w plan.toEditDraft)
    (hflushed : Flushed plan) (hdb : w'.db = commitEdit w.now plan loaded w.db)
    (hhost : w'.host = w.host) (hrow' : w'.db.configs plan.configId = some row') :
    Agrees ctx w' plan.configId row' := by
  obtain ⟨row, hrow, hcur⟩ := Db.currentVersion_eq_some_iff.mp h.current
  obtain ⟨vrow, hvrow, hsame⟩ := h.stored
  obtain rfl : touch w.now row = row' := by simpa [hdb, commitEdit, hrow] using hrow'
  obtain ⟨row₀, hrow₀, hprofile⟩ := hdrafted.profile
  obtain rfl : row = row₀ := Option.some.inj (hrow.symm.trans hrow₀)
  have hprofile' : (touch w.now row).profile = plan.profile := hprofile.symm
  refine ⟨plan.version, plan.update loaded vrow, plan.parsed, hcur,
    by simp [hdb, commitEdit, hvrow], ?_, ?_⟩
  · have hdata : (plan.update loaded vrow).configData = plan.stored := by
      rw [EditPlan.update, updateVersionConfigData]
      split
      · next hleft => exact hsame hleft
      · rfl
    rw [VpnConfigVersionModel.document, hdata, hprofile',
      hflushed.decrypt_stored hdrafted h.plain]
  · rw [hprofile', hhost]
    exact h.live

/-- What the commit of a build leaves of its config. -/
theorem Built.agrees {x : Execution} {vrow : VpnConfigVersionModel} {row' : VpnConfigModel}
    (h : Built ctx w x) (hstage : x.stage = .committing vrow)
    (hprofile : x.payload.profile = row'.profile)
    (hdb : w'.db = commitBuild w.now x.payload vrow w.db) (hhost : w'.host = w.host)
    (hrow' : w'.db.configs x.payload.configId = some row') :
    Agrees ctx w' x.payload.configId row' := by
  obtain ⟨doc, hwrote, hfile⟩ := h.live
  rw [hstage] at hwrote
  obtain ⟨row, -, rfl⟩ : ∃ row, w.db.configs x.payload.configId = some row ∧
      markBuilt w.now x.payload.targetVersion row = row' := by
    simpa [hdb, commitBuild] using hrow'
  refine ⟨x.payload.targetVersion, vrow, doc, by simp, by simp [hdb, commitBuild], ?_, ?_⟩
  · rw [← hprofile]
    exact hwrote
  · rw [← hprofile, hhost]
    exact hfile

/-- An orderly edit does not fail from its write on. -/
theorem EditStage.Orderly.not_error {env : EditEnv} {now : Nat} {stage : EditStage}
    {plan : EditPlan} {loaded : VpnConfigVersionModel} {s : Store} {e : PyErr}
    (h : stage.Orderly ctx w env) (hdrafted : Drafted ctx w plan.toEditDraft)
    (hstage : stage = .writing plan loaded ∨ stage.written = some (plan, loaded)) :
    ¬ EditEnd ctx env now w.store stage (.error e) s := by
  obtain ⟨ps, -, hps, -⟩ := hdrafted.port
  have hps' : ctx.settings.profileSettings plan.profile = .ok ps := by
    simp [PanelSettings.profileSettings, hps]
  intro hend
  cases hend with
  | writeFail plan₀ loaded₀ h' e hx =>
      obtain ⟨rfl, rfl⟩ : plan₀ = plan ∧ loaded₀ = loaded := by
        simpa [EditStage.written] using hstage
      obtain ⟨hfaults, -⟩ := h
      rw [hfaults] at hx
      exact returns_writeDocuments hps' rfl _ _ _ hx
  | restartFail plan₀ loaded₀ h' e hx =>
      obtain ⟨rfl, rfl⟩ : plan₀ = plan ∧ loaded₀ = loaded := by
        simpa [EditStage.written] using hstage
      have hfaults : env.faults = Faults.none := h
      rw [hfaults] at hx
      exact returns_restartService hps' _ _ _ hx
  | syncFail plan₀ loaded₀ h' e hx =>
      obtain ⟨hfaults, hconf⟩ := h
      rw [hfaults] at hx
      exact returns_syncMux hconf hx
  | answerFail plan₀ loaded₀ e hans =>
      have hno : env.answered = none := h
      rw [hno] at hans
      contradiction
  | commitFail plan₀ loaded₀ e hcom =>
      have hno : env.committed = none := h
      rw [hno] at hcom
      contradiction
  | _ => simp [EditStage.written] at hstage

/-- An edit that has written and is not between write and commit any more has
committed. -/
theorem Coherent.committed_of_written (h : Coherent ctx w) (hstep : Step ctx w a w')
    (horderly : Orderly ctx w a) {r : RequestId} {stage : EditStage} {plan : EditPlan}
    {loaded : VpnConfigVersionModel} (hr : w.requests r = some (.editing stage))
    (hwritten : stage.written = some (plan, loaded))
    (hdone : ∀ stage', w'.requests r = some (.editing stage') →
      stage'.configId = plan.configId → stage'.written = none) :
    w'.db = commitEdit w.now plan loaded w.db ∧ w'.host = w.host := by
  have hc := (EditStage.holdsLock_of_written hwritten).2
  have hdraft : stage.draft? = some plan.toEditDraft := by
    cases stage <;> simp_all [EditStage.written, EditStage.draft?]
  obtain hr' | ⟨env, stage', s, rfl, hmove, hr'⟩ | ⟨env, out, s, rfl, hend, hdb, hhost⟩ :=
    editing_of_step hstep hr
  · rw [hdone stage hr' hc] at hwritten
    contradiction
  · have hnone := hdone stage' hr' (hmove.configId_eq.trans hc)
    cases hmove <;> simp [EditStage.written] at hwritten hnone
  · cases out with
    | error e =>
        exact absurd hend ((horderly stage hr).not_error (h.ready.drafted r stage _ hr hdraft)
          (Or.inr hwritten))
    | ok u =>
        cases hend with
        | committed plan₀ loaded₀ hcom =>
            obtain ⟨rfl, rfl⟩ : plan₀ = plan ∧ loaded₀ = loaded := by
              simpa [EditStage.written] using hwritten
            exact ⟨hdb, hhost⟩

theorem Agrees.of_same {c : ConfigId} {row row' : VpnConfigModel} (h : Agrees ctx w c row)
    (hcur : row'.currentVersion = row.currentVersion) (hprofile : row'.profile = row.profile)
    (hversions : w'.db.versions c = w.db.versions c) (hlive : SameLive c w.host w'.host) :
    Agrees ctx w' c row' := by
  obtain ⟨v, vrow, doc, hv, hvrow, hdoc, hfile⟩ := h
  refine ⟨v, vrow, doc, hcur.trans hv, by rw [hversions, hvrow], by rw [hprofile, hdoc], ?_⟩
  rw [hprofile]
  exact hfile.of_same hlive

/-- A step that neither commits an edit of an active config nor a build leaves
its live file and version rows alone. -/
theorem Coherent.settled_step (h : Coherent ctx w) (hsound : Sound w) (hstep : Step ctx w a w')
    (horderly : Orderly ctx w a) (c : ConfigId) : Settled ctx w' c := by
  intro row' hrow' hactive hnone
  have hbuilt {e : ExecutionId} {x : Execution} {vrow : VpnConfigVersionModel}
      (he : w.executions e = some x) (hc : x.payload.configId = c)
      (hstage : x.stage = .committing vrow)
      (hdb : w'.db = commitBuild w.now x.payload vrow w.db) (hhost : w'.host = w.host) :
      Agrees ctx w' c row' := by
    subst hc
    obtain ⟨row, hrow⟩ := hsound.owned.inFlight x.payload (.execution e x he rfl)
    refine (h.built e x he (by rw [hstage]; rfl)).agrees hstage ?_ hdb hhost hrow'
    rw [h.profile x.payload row (.execution e x he rfl) hrow, profile_of_step hstep hrow hrow']
  by_cases hwriting : ∃ r stage plan loaded, w.requests r = some (.editing stage) ∧
      stage.written = some (plan, loaded) ∧ plan.configId = c
  · -- an edit has written: this step is its commit
    obtain ⟨r, stage, plan, loaded, hr, hwritten, rfl⟩ := hwriting
    obtain ⟨hdb, hhost⟩ := h.committed_of_written hstep horderly hr hwritten fun st hst hc =>
      hnone r st hst hc
    have hplan : stage.plan? = some plan ∧ stage.draft? = some plan.toEditDraft := by
      cases stage <;> simp_all [EditStage.written, EditStage.plan?, EditStage.draft?]
    exact (h.edited r stage plan loaded hr hwritten).agrees (h.ready.drafted r stage _ hr hplan.2)
      (h.ready.flushed r stage plan hr hplan.1) hdb hhost hrow'
  · obtain ⟨row, hrow, hactive₀, hcur⟩ | ⟨e, x, vrow, he, hc, hstage, hdb, hhost⟩ :=
      h.active_of_step hstep horderly hrow' hactive
    · have hagrees := h.settled c row hrow hactive₀ fun r stage hr hc => by
        by_contra hwritten
        obtain ⟨⟨plan, loaded⟩, hwritten⟩ := Option.ne_none_iff_exists'.mp hwritten
        exact hwriting ⟨r, stage, plan, loaded, hr, hwritten,
          (EditStage.holdsLock_of_written hwritten).2.symm.trans hc⟩
      have hprofile := profile_of_step hstep hrow hrow'
      -- the version rows, unless a build has committed
      by_cases hversions : w'.db.versions c = w.db.versions c
      · cases liveChange_of_step hstep c with
        | same a hsame => exact hagrees.of_same hcur hprofile hversions hsame
        | built e env x he hc hstage hdb =>
            subst hc
            have habsent := horderly x he
            rw [hstage] at habsent
            exact absurd hactive₀ (h.inactive x.payload row (.execution e x he rfl) habsent hrow)
        | edited r env plan loaded hr hc hnext =>
            obtain hr' | ⟨e, s, hend⟩ := hnext
            · have hwritten := hnone r _ hr' hc
              contradiction
            · exact absurd hend ((horderly _ hr).not_error (h.ready.drafted r _ _ hr rfl)
                (Or.inl rfl))
        | removed r env profile hr => exact absurd hr (h.undeleted r c profile)
      · obtain hsame | ⟨r, env, plan, loaded, -, hr, hdb, -⟩ |
          ⟨e, env, x, vrow, -, he, hstage, hdb, -, hhost, -⟩ := versions_eq_of_step hstep
        · exact absurd (by rw [hsame]) hversions
        · have hne : c ≠ plan.configId := by
            rintro rfl
            exact hwriting ⟨r, _, plan, loaded, hr, rfl, rfl⟩
          refine absurd ?_ hversions
          funext v
          simp [hdb, commitEdit, hne]
        · by_cases hc : x.payload.configId = c
          · exact hbuilt he hc hstage hdb hhost
          · refine absurd ?_ hversions
            funext v
            simp [hdb, commitBuild, Db.setVersion, Ne.symm hc]
    · exact hbuilt he hc hstage hdb hhost

theorem coherent_of_step (hper : ctx.settings.systemd.perConfig = true) (hsound : Sound w)
    (hstep : Step ctx w a w') (horderly : Orderly ctx w a) (h : Coherent ctx w) :
    Coherent ctx w' where
  profile := profiled_step hsound hstep h.profile
  ready := editsReady_step h.ready hstep
  notBusy r c loaded hr := by
    obtain hold | hbusy := prepared_of_step hstep hr
    · exact h.notBusy r c loaded hold
    · exact hbusy
  undeleted := h.undeleted_step hstep horderly
  inactive _ _ hp habsent hrow := h.inactive_step hsound hstep horderly hp habsent hrow
  edited _ _ _ _ hr hwritten := h.edited_step hper hsound hstep horderly hr hwritten
  built _ _ he hwritten := h.built_step hper hsound hstep horderly he hwritten
  settled := h.settled_step hsound hstep horderly

end Steps

/-- **Live files agree in orderly runs.**  After every run in which builds
start to write while their version is not stored, edits start to write plain
documents while their version is current, shortcuts change neither status nor
current version, no edit fails once it has begun to write and nothing is
deleted, the live file of every active config that no session is writing is the
document of its current version. -/
theorem liveAgrees_of_orderly (ctx : Ctx) (host : Host) (as : List Action)
    (h : Machine.Meets (step ctx) (Orderly ctx) (World.init host) as) :
    LiveAgrees ctx (runFrom ctx host as) := by
  intro hper c row hrow hactive hfree
  have hinv := Machine.run_invariant_of_meets (I := fun w => Sound w ∧ Coherent ctx w)
    (fun w a hI hC => step_induction (I := fun w => Sound w ∧ Coherent ctx w)
      (fun w a w' hstep hI hC => ⟨sound_of_step hstep hI.1,
        coherent_of_step hper hI.1 hstep hC hI.2⟩) w a hI hC)
    ⟨sound_init host, coherent_init ctx host⟩ h
  refine hinv.2.settled c row hrow hactive fun r stage hr hc => ?_
  by_contra hwritten
  obtain ⟨⟨plan, loaded⟩, hwritten⟩ := Option.ne_none_iff_exists'.mp hwritten
  have hlock := hinv.1.locked.edit r stage hr (EditStage.holdsLock_of_written hwritten).1
  rw [hc, hfree] at hlock
  contradiction

/-- The first version of a config and an edit of its document. -/
def orderlyEdit : List Action :=
  firstVersion ++ .edit 1 0 (.configData (.ofVal (sampleConfigData 8443))) ::
    List.replicate 8 (.advance 1 {})

/-- It is orderly: its live file agrees. -/
theorem liveAgrees_of_orderlyEdit :
    LiveAgrees Ctx.sample (runFrom Ctx.sample Host.blank orderlyEdit) := by
  refine liveAgrees_of_orderly _ _ _ ⟨trivial, ?_, ?_, trivial, ?_, ?_, ?_, ?_, ?_, ?_, ?_, ?_,
    trivial, trivial, ?_, ?_, ?_, ?_, ?_, ?_, ?_, ?_, trivial⟩
  -- the create, then the eight steps of the build
  · rintro stage ⟨⟩
  · rintro stage ⟨⟩
  · rintro x ⟨⟩
    trivial
  · rintro x ⟨⟩
    trivial
  · rintro x ⟨⟩
    trivial
  · rintro x ⟨⟩
    rfl
  · rintro x ⟨⟩
    trivial
  · rintro x ⟨⟩
    trivial
  · rintro x ⟨⟩
    trivial
  · rintro x ⟨⟩
    trivial
  -- the eight steps of the edit
  · rintro stage ⟨⟩
    trivial
  · rintro stage ⟨⟩
    trivial
  · rintro stage ⟨⟩
    trivial
  · rintro stage ⟨⟩
    refine ⟨rfl, by decide, plainDocument_of_noFields rfl (v := sampleConfigData 8443) rfl, ?_⟩
    rintro vrow ⟨⟩ hsame
    exact absurd hsame (by decide)
  · rintro stage ⟨⟩
    rfl
  · rintro stage ⟨⟩
    exact ⟨rfl, fun _ e he => by cases he⟩
  · rintro stage ⟨⟩
    rfl
  · rintro stage ⟨⟩
    rfl

/-- Version 1 is built and its task's end is not reported; version 2 is built
with another document; then the first task is delivered again. -/
def staleShortcut : List Action :=
  let build (r : RequestId) (e : ExecutionId) (t : TaskId) (port : Int) : List Action :=
    [.advance r { publish := .accepted t }, .advance r {}, .deliver e t] ++
      List.replicate 8 (.work e (sampleBuild port))
  [.create 0 0 "c" .xray .xrayXhttp none none] ++ build 0 0 0 443 ++
    [.regenerate 1 0, .advance 1 {}, .advance 1 {}] ++ build 1 1 1 8443 ++
    .deliver 2 0 :: List.replicate 3 (.work 2 (sampleBuild 443))

/-- **A late shortcut leaves the live file of another version.** -/
theorem not_liveAgrees_of_staleShortcut :
    ¬ LiveAgrees Ctx.sample (runFrom Ctx.sample Host.blank staleShortcut) := by
  intro h
  have hrow : ((runFrom Ctx.sample Host.blank staleShortcut).db.configs 0).map
      (fun row => (row.status, row.currentVersion, row.profile)) =
        some (.active, some 1, .xrayXhttp) := by decide
  have hversion : ((runFrom Ctx.sample Host.blank staleShortcut).db.versions 0 1).map
      (VpnConfigVersionModel.document Ctx.sample .xrayXhttp) =
        some (.ok (sampleConfigData 443)) := rfl
  have hlive : (runFrom Ctx.sample Host.blank staleShortcut).host.live.get?
      (liveConfigPath .xrayXhttp 0 "config.json" Ctx.sample.settings.systemd) =
        some (some (sampleConfigData 8443)) := rfl
  obtain ⟨row, hrow, heq⟩ := Option.map_eq_some_iff.mp hrow
  obtain ⟨hactive, hcur, hprofile⟩ : row.status = .active ∧ row.currentVersion = some 1 ∧
      row.profile = .xrayXhttp := by simpa using heq
  obtain ⟨v, vrow, doc, hv, hvrow, hdoc, ps, hps, hfile⟩ := h rfl 0 row hrow hactive rfl
  rw [hcur] at hv
  cases hv
  rw [hprofile] at hdoc hps hfile
  cases hps
  rw [hvrow] at hversion
  have hstored : vrow.document Ctx.sample .xrayXhttp = .ok (sampleConfigData 443) := by
    simpa using hversion
  rw [hstored] at hdoc
  have hsame : some (some (sampleConfigData 8443)) = some (some doc) := hlive.symm.trans hfile
  rw [← Except.ok.inj hdoc] at hsame
  exact absurd hsame (by decide)

end VpnPanel
