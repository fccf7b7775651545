import VpnPanel.ConfigTask
import VpnPanel.AliasedData

/-!
# VpnPanel.UpdateConfigData

The edit of a config's document: `UpdateConfigDataUseCase.execute` of
`update_config_data.py` and the commit of its route.

* `checkEdit`, `planEdit` — the reads and checks, up to the document to store;
* `updateConfigData` — the request, start to end;
* `editStep` — the same in the steps between which other processes run;
* `runToEnd_editStep` — without interference the steps compute the request.
-/

namespace VpnPanel

open Process (Result Computes computes_done computes_next)

inductive ConfigFormat where
  | json
  | yaml
  deriving DecidableEq, Repr

/-- `format_for_profile`. -/
def formatForProfile : ConfigProfile → ConfigFormat
  | .hysteria2 => .yaml
  | _ => .json

/-- What a client submits: a text, with the format it names and the outcome of
`json.loads` or `yaml.safe_load` on the stripped text, or an object. -/
inductive Submission where
  | content (text : String) (format : Option ConfigFormat)
      (loads : ConfigFormat → Except PyErr PyGraph)
  | configData (data : PyGraph)

def invalidConfigData (msg : String) : PyErr := ⟨.other "InvalidConfigData", msg⟩

def configNotFoundError : PyErr := ⟨.other "ConfigNotFound", ""⟩

/-- `isinstance(data, dict) and data`. -/
def isDocument (data : PyGraph) : Bool := data.tree.isDict && data.tree.nonEmptyDict

/-- `parse_config_content`. -/
def parseConfigContent (text : String) (loaded : Except PyErr PyGraph) : Except PyErr PyGraph :=
  if PyStr.strip text = "" then .error (invalidConfigData "Empty document")
  else match loaded with
    | .error e => .error (invalidConfigData ("Syntax error: " ++ e.msg))
    | .ok data =>
        if isDocument data then .ok data
        else .error (invalidConfigData "Root must be a non-empty object")

/-- The submitted document. -/
def Submission.parse (profile : ConfigProfile) : Submission → Except PyErr PyGraph
  | content text format loads =>
      parseConfigContent text (loads (format.getD (formatForProfile profile)))
  | configData data =>
      if isDocument data then .ok data
      else .error (invalidConfigData "Provide content or config_data object")

/-- What an edit has settled on before it stores anything. -/
structure EditDraft where
  configId : ConfigId
  profile : ConfigProfile
  /-- The version that was current when the edit read the config. -/
  version : Nat
  name : String
  document : PyGraph
  /-- The document with its fields encrypted. -/
  encrypted : PyGraph
  port : Int
  publicKey : String
  certFingerprint : String

/-- The draft of an edit with what the column makes of its documents.  The files
are written from the document itself; the server and the panel read them as the
column has it (a tuple is a list there, and a key a string). -/
structure EditPlan extends EditDraft where
  parsed : PyVal
  stored : PyVal

/-- What the surroundings of an edit decide. -/
structure EditEnv where
  faults : Faults := Faults.none
  timestamp : Nat := 0
  nonce : Nat := 0
  /-- An error of the audit log or of the answer's serialization. -/
  answered : Option PyErr := none
  /-- An error of the commit. -/
  committed : Option PyErr := none

/-- The port an edit stores: `listening_port` of the document, or the port of the
version.  Of a document the column does not take nothing is stored. -/
def documentPort (profile : ConfigProfile) (ps : VpnProfileSettings) (old : Int)
    (document : PyGraph) : Int :=
  match document.tree.jsonColumn with
  | .error _ => old
  | .ok parsed =>
      match listeningPort profile parsed ps with
      | .ok port => port
      | .error _ => old

/-- What an edit has read and checked. -/
structure EditCheck where
  config : VpnConfigModel
  version : Nat
  /-- The row of the version. -/
  snapshot : VpnConfigVersionModel
  settings : VpnProfileSettings
  document : PyGraph

/-- `execute` up to the document. -/
def checkEdit (ctx : Ctx) (db : Db) (c : ConfigId) (submitted : Submission) :
    Except PyErr EditCheck :=
  match db.getActive c with
  | none => .error configNotFoundError
  | some config =>
  match config.currentVersion with
  | none => .error configNotFoundError
  | some version =>
  if config.status.busy then
    .error (invalidConfigData "Config is busy; wait until status is active/failed")
  else
  match db.versions c version with
  | none => .error ⟨.other "ConfigDataUnavailable", "Current version not found"⟩
  | some snapshot =>
  match ctx.settings.profiles config.profile with
  | none => .error (invalidConfigData ("Unknown profile: " ++ config.profile.value))
  | some ps => do
      let document ← submitted.parse config.profile
      .ok { config := config, version := version, snapshot := snapshot, settings := ps,
            document := document }

/-- What an edit makes of what it has read and of the encrypted document. -/
def EditCheck.draft (check : EditCheck) (c : ConfigId) (encrypted : PyGraph) : EditDraft where
  configId := c
  profile := check.config.profile
  version := check.version
  name := check.config.name
  document := check.document
  encrypted := encrypted
  port := documentPort check.config.profile check.settings check.snapshot.port check.document
  publicKey := check.snapshot.publicKey
  certFingerprint := check.snapshot.certFingerprint

/-- `execute` up to `update_version_config_data`. -/
def planEdit (ctx : Ctx) (env : EditEnv) (db : Db) (c : ConfigId) (submitted : Submission) :
    Except PyErr EditDraft := do
  let check ← checkEdit ctx db c submitted
  let encrypted ← Aliased.encryptConfigDataFields ctx.encryptor env.nonce
    (sensitiveFields check.config.profile) check.document
  .ok (check.draft c encrypted)

/-- Whether the `port` column, an `Integer`, has a number. -/
def fitsInteger (port : Int) : Bool := -2147483648 ≤ port && port < 2147483648

/-- The flush of `update_version_config_data`, after the row was loaded. -/
def EditDraft.flush (draft : EditDraft) (loaded : VpnConfigVersionModel) :
    Except PyErr EditPlan := do
  let parsed ← draft.document.tree.jsonColumn
  let stored ← draft.encrypted.tree.jsonColumn
  if draft.port = loaded.port ∨ fitsInteger draft.port then
    .ok { draft with parsed := parsed, stored := stored }
  else .error ⟨.databaseError, "value out of int32 range"⟩

/-- What an edit makes of the row of its version. -/
def EditPlan.update (plan : EditPlan) (loaded current : VpnConfigVersionModel) :
    VpnConfigVersionModel :=
  updateVersionConfigData plan.encrypted.tree plan.stored plan.port loaded current

/-- The `BuildResult` an edit hands to `write_files`. -/
def EditPlan.result (plan : EditPlan) : BuildResult where
  configData := plan.parsed
  port := plan.port
  privateKey := ""
  publicKey := plan.publicKey
  certFingerprint := plan.certFingerprint

/-- The rows `update_version_config_data` selects: the config, if it is not
deleted, and the version. -/
def selectVersion (db : Db) (c : ConfigId) (v : Nat) : Except PyErr VpnConfigVersionModel :=
  match db.getActive c with
  | none => .error (configNotFound c)
  | some _ =>
      match db.versions c v with
      | none => .error ⟨.valueError, "Version not found: " ++ uuidStr c ++ " v" ++ toString v⟩
      | some row => .ok row

/-- What the commit of an edit makes of the tables. -/
def commitEdit (now : Nat) (plan : EditPlan) (loaded : VpnConfigVersionModel) (db : Db) : Db :=
  (db.updateVersion plan.configId plan.version (plan.update loaded)).updateConfig
    plan.configId (touch now)

/-- The selects of `update_version_config_data`. -/
def selectPlanned (draft : EditDraft) : Eff Store PyErr VpnConfigVersionModel := do
  let s ← Eff.read
  Eff.ofExcept (selectVersion s.db draft.configId draft.version)

/-- `UpdateConfigDataUseCase.execute` and the commit of its route. -/
def updateConfigData (ctx : Ctx) (env : EditEnv) (now : Nat) (c : ConfigId)
    (submitted : Submission) : Eff Store PyErr Unit := do
  let s ← Eff.read
  let draft ← Eff.ofExcept (planEdit ctx env s.db c submitted)
  let loaded ← selectPlanned draft
  let plan ← Eff.ofExcept (draft.flush loaded)
  let _ ← onHost (writeDocuments ctx.settings env.faults env.timestamp plan.profile c plan.result)
  onHost (restartService ctx.settings env.faults plan.profile c plan.name)
  onHost (syncMux ctx.settings env.faults plan.profile plan.parsed)
  match env.answered with
  | some e => Eff.raise e
  | none => commit env.committed (commitEdit now plan loaded)

/-! ## the steps -/

/-- Where an edit stands. -/
inductive EditStage where
  | planning (c : ConfigId) (submitted : Submission)
  /-- The rows are to be selected. -/
  | selecting (draft : EditDraft)
  /-- The rows are selected and changed; the flush is next. -/
  | flushing (draft : EditDraft) (loaded : VpnConfigVersionModel)
  | writing (plan : EditPlan) (loaded : VpnConfigVersionModel)
  | restarting (plan : EditPlan) (loaded : VpnConfigVersionModel)
  | syncing (plan : EditPlan) (loaded : VpnConfigVersionModel)
  | answering (plan : EditPlan) (loaded : VpnConfigVersionModel)
  | committing (plan : EditPlan) (loaded : VpnConfigVersionModel)

/-- A block of host work of an edit as a step; the session is rolled back when
it raises. -/
def editHostStep {α : Type} (x : HostM α) (s : Store) (next : EditStage) :
    Result EditStage Store (Except PyErr Unit) :=
  match x.exec s.host with
  | (.ok _, h) => .next next { s with host := h }
  | (.error e, h) => .done (.error e) { s with host := h }

/-- One step of an edit. -/
def editStep (ctx : Ctx) (env : EditEnv) (now : Nat) (stage : EditStage) (s : Store) :
    Result EditStage Store (Except PyErr Unit) :=
  match stage with
  | .planning c submitted =>
      match planEdit ctx env s.db c submitted with
      | .ok draft => .next (.selecting draft) s
      | .error e => .done (.error e) s
  | .selecting draft =>
      match selectVersion s.db draft.configId draft.version with
      | .ok loaded => .next (.flushing draft loaded) s
      | .error e => .done (.error e) s
  | .flushing draft loaded =>
      match draft.flush loaded with
      | .ok plan => .next (.writing plan loaded) s
      | .error e => .done (.error e) s
  | .writing plan loaded =>
      editHostStep (writeDocuments ctx.settings env.faults env.timestamp plan.profile
        plan.configId plan.result) s (.restarting plan loaded)
  | .restarting plan loaded =>
      editHostStep (restartService ctx.settings env.faults plan.profile plan.configId plan.name) s
        (.syncing plan loaded)
  | .syncing plan loaded =>
      editHostStep (syncMux ctx.settings env.faults plan.profile plan.parsed) s
        (.answering plan loaded)
  | .answering plan loaded =>
      match env.answered with
      | some e => .done (.error e) s
      | none => .next (.committing plan loaded) s
  | .committing plan loaded =>
      match env.committed with
      | some e => .done (.error e) s
      | none => .done (.ok ()) (s.mapDb (commitEdit now plan loaded))

/-! ## the steps compute the request -/

/-- What is parsed is an object that is not empty. -/
theorem isDocument_of_parse {profile : ConfigProfile} {submitted : Submission} {data : PyGraph}
    (h : submitted.parse profile = .ok data) : isDocument data = true := by
  cases submitted with
  | content text format loads =>
      simp only [Submission.parse, parseConfigContent] at h
      split at h
      · cases h
      · split at h
        · cases h
        · split at h
          · next hdocument => rwa [← Except.ok.inj h]
          · cases h
  | configData data' =>
      simp only [Submission.parse] at h
      split at h
      · next hdocument => rwa [← Except.ok.inj h]
      · cases h

/-- What an edit has read: the current version of the config as it stands, and
a profile with settings. -/
theorem checkEdit_spec {ctx : Ctx} {db : Db} {c : ConfigId} {submitted : Submission}
    {check : EditCheck} (h : checkEdit ctx db c submitted = .ok check) :
    db.getActive c = some check.config ∧ check.config.currentVersion = some check.version ∧
      db.versions c check.version = some check.snapshot ∧
      ctx.settings.profiles check.config.profile = some check.settings ∧
      submitted.parse check.config.profile = .ok check.document := by
  unfold checkEdit at h
  repeat' split at h
  all_goals try contradiction
  next config hconfig _ version hversion _ _ snapshot hsnapshot _ ps hps =>
    obtain ⟨document, hparse, h⟩ := Except.bind_eq_ok_iff.mp h
    rw [← Except.ok.inj h]
    exact ⟨hconfig, hversion, hsnapshot, hps, hparse⟩

/-- What an edit has settled on: what it has read, with the encryption of the
submitted document. -/
theorem planEdit_eq_ok_iff {ctx : Ctx} {env : EditEnv} {db : Db} {c : ConfigId}
    {submitted : Submission} {draft : EditDraft} :
    planEdit ctx env db c submitted = .ok draft ↔ ∃ check encrypted,
      checkEdit ctx db c submitted = .ok check ∧
      Aliased.encryptConfigDataFields ctx.encryptor env.nonce
        (sensitiveFields check.config.profile) check.document = .ok encrypted ∧
      check.draft c encrypted = draft := by
  simp only [planEdit, Except.bind_eq_ok_iff, Except.ok.injEq, ← exists_and_left]

/-- What an edit has settled on: the current version of the config as it
stands, a profile with settings, and the encryption of the submitted document. -/
theorem planEdit_spec {ctx : Ctx} {env : EditEnv} {db : Db} {c : ConfigId}
    {submitted : Submission} {draft : EditDraft}
    (h : planEdit ctx env db c submitted = .ok draft) :
    draft.configId = c ∧ ∃ config ps snapshot, db.getActive c = some config ∧
      draft.profile = config.profile ∧ ctx.settings.profiles config.profile = some ps ∧
      config.currentVersion = some draft.version ∧
      db.versions c draft.version = some snapshot ∧
      submitted.parse draft.profile = .ok draft.document ∧
      Aliased.encryptConfigDataFields ctx.encryptor env.nonce (sensitiveFields draft.profile)
        draft.document = .ok draft.encrypted ∧
      draft.port = documentPort draft.profile ps snapshot.port draft.document := by
  obtain ⟨check, encrypted, hcheck, henc, rfl⟩ := planEdit_eq_ok_iff.mp h
  obtain ⟨hconfig, hversion, hsnapshot, hps, hparse⟩ := checkEdit_spec hcheck
  exact ⟨rfl, check.config, check.settings, check.snapshot, hconfig, rfl, hps, hversion,
    hsnapshot, hparse, henc, rfl⟩

/-- A draft is about the config it was made for. -/
theorem planEdit_configId {ctx : Ctx} {env : EditEnv} {db : Db} {c : ConfigId}
    {submitted : Submission} {draft : EditDraft}
    (h : planEdit ctx env db c submitted = .ok draft) : draft.configId = c :=
  (planEdit_spec h).1

/-- What the flush adds to a draft. -/
theorem EditDraft.flush_spec {draft : EditDraft} {loaded : VpnConfigVersionModel}
    {plan : EditPlan} (h : draft.flush loaded = .ok plan) :
    plan.toEditDraft = draft ∧ draft.document.tree.jsonColumn = .ok plan.parsed ∧
      draft.encrypted.tree.jsonColumn = .ok plan.stored ∧
      (draft.port = loaded.port ∨ fitsInteger draft.port = true) := by
  obtain ⟨parsed, hparsed, h⟩ := Except.bind_eq_ok_iff.mp h
  obtain ⟨stored, hstored, h⟩ := Except.bind_eq_ok_iff.mp h
  split at h
  · next hfits =>
    rw [← Except.ok.inj h]
    exact ⟨rfl, hparsed, hstored, hfits⟩
  · contradiction

/-- The flush of documents the column takes. -/
theorem EditDraft.flush_of_columns (draft : EditDraft) {parsed stored : PyVal}
    (hparsed : draft.document.tree.jsonColumn = .ok parsed)
    (hstored : draft.encrypted.tree.jsonColumn = .ok stored) (loaded : VpnConfigVersionModel) :
    draft.flush loaded = if draft.port = loaded.port ∨ fitsInteger draft.port then
        .ok { draft with parsed := parsed, stored := stored }
      else .error ⟨.databaseError, "value out of int32 range"⟩ := by
  simp only [EditDraft.flush, hparsed, hstored, Except.ok_bind_eq]

/-- What an edit that runs alone settles on. -/
def SettlesOn (ctx : Ctx) (env : EditEnv) (db : Db) (c : ConfigId) (submitted : Submission)
    (plan : EditPlan) : Prop :=
  ∃ draft loaded, planEdit ctx env db c submitted = .ok draft ∧
    selectVersion db draft.configId draft.version = .ok loaded ∧ draft.flush loaded = .ok plan

section Implements

variable {ctx : Ctx} {env : EditEnv} {now : Nat}

theorem computes_editHost {α : Type} {fuel : Nat} {stage next : EditStage} {s : Store}
    {x : HostM α} {y : Eff Store PyErr Unit}
    (hstep : editStep ctx env now stage s = editHostStep x s next)
    (h : ∀ h, Computes (editStep ctx env now) (fuel + 1) next { s with host := h } y) :
    Computes (editStep ctx env now) (fuel + 2) stage s (onHost x >>= fun _ => y) := by
  cases hx : x.exec s.host with
  | mk r h' =>
      cases r with
      | ok a =>
          exact computes_next next ⟨s.db, h'⟩ (by rw [hstep, editHostStep, hx])
            (Eff.exec_bind_ok (a := a) (by rw [exec_onHost, hx])) (h h')
      | error e =>
          exact computes_done (.error e) ⟨s.db, h'⟩
            (by rw [hstep, editHostStep, hx]) (Eff.exec_bind_error (by rw [exec_onHost, hx]))

/-- **The steps compute the request.** -/
theorem runToEnd_editStep (c : ConfigId) (submitted : Submission) (s : Store) :
    Process.runToEnd (editStep ctx env now) 8 (.planning c submitted) s =
      some ((updateConfigData ctx env now c submitted).exec s) := by
  change Computes (editStep ctx env now) 8 _ s _
  unfold updateConfigData
  cases hplan : planEdit ctx env s.db c submitted with
  | error e =>
      exact computes_done (.error e) s (by simp only [editStep, hplan])
        (by simp [Eff.exec_bind, hplan])
  | ok draft =>
      obtain rfl := planEdit_configId hplan
      refine computes_next (y := selectPlanned draft >>= fun loaded => _) (.selecting draft) s
        (by simp only [editStep, hplan])
        (by rw [Eff.exec_bind_ok (Eff.exec_read s), hplan]; rfl) ?_
      cases hsel : selectVersion s.db draft.configId draft.version with
      | error e =>
          exact computes_done (.error e) s (by simp only [editStep, hsel])
            (by simp [selectPlanned, Eff.exec_bind, hsel])
      | ok loaded =>
          refine computes_next (.flushing draft loaded) s
            (by simp only [editStep, hsel])
            (Eff.exec_bind_ok (a := loaded) (by simp [selectPlanned, Eff.exec_bind, hsel])) ?_
          cases hflush : draft.flush loaded with
          | error e =>
              exact computes_done (.error e) s (by simp only [editStep, hflush])
                (by simp [Eff.exec_bind])
          | ok plan =>
          have hconfig : plan.configId = draft.configId := by rw [(EditDraft.flush_spec hflush).1]
          refine computes_next (.writing plan loaded) s (by simp only [editStep, hflush])
            (Eff.exec_bind_ok (a := plan) (by simp)) ?_
          rw [← hconfig]
          refine computes_editHost rfl fun h₁ => ?_
          refine computes_editHost rfl fun h₂ => computes_editHost rfl fun h₃ => ?_
          cases hans : env.answered with
          | some e => exact computes_done _ _ (by simp only [editStep, hans]) rfl
          | none =>
              refine computes_next (.committing plan loaded) _
                (by simp only [editStep, hans]) rfl ?_
              cases hcom : env.committed with
              | some e => exact computes_done _ _ (by simp only [editStep, hcom]) rfl
              | none => exact computes_done _ _ (by simp only [editStep, hcom]) rfl

end Implements

end VpnPanel
