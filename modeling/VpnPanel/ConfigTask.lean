import VpnPanel.Repository
import VpnPanel.ConfigData
import VpnPanel.Lib.Process

/-!
# VpnPanel.ConfigTask

A worker's execution of a config task: `_run_config_task` of
`config_task.py` with `build_and_persist_version` of `config_build.py`.

* `runConfigTask` — the function, start to end;
* `taskStep` — the same, one database statement, commit or block of host work
  at a time, which is how it runs beside other processes;
* `runToEnd_taskStep` — without interference the steps compute the function.

What the builder reads and chooses is not modelled here: `TaskEnv` says what
the part of `build_and_persist_version` before the service is stopped raised,
and what `ProfileConfigBuilder.build` returned or raised.
-/

namespace VpnPanel

open Process (Result Computes computes_done computes_next)

/-- `WorkerContext`, with the hash that `cert_fingerprint_for_keys` falls back
to. -/
structure Ctx where
  settings : PanelSettings
  encryptor : FieldEncryptor
  sha256Hex : String → String

/-- The payload of a config task. -/
structure Payload where
  configId : ConfigId
  profile : ConfigProfile
  name : String
  targetVersion : Nat
  deriving DecidableEq, Repr

/-- The tables and the machine, as every process sees them. -/
structure Store where
  db : Db
  host : Host

def Store.mapDb (s : Store) (f : Db → Db) : Store := { s with db := f s.db }

@[simp] theorem Store.mapDb_db (s : Store) (f : Db → Db) : (s.mapDb f).db = f s.db := rfl

@[simp] theorem Store.mapDb_host (s : Store) (f : Db → Db) : (s.mapDb f).host = s.host := rfl

/-- What the surroundings of an execution decide. -/
structure TaskEnv where
  faults : Faults := Faults.none
  timestamp : Nat := 0
  /-- Policy, previous version and secrets: what reading them raised. -/
  prepared : Except PyErr Unit := .ok ()
  /-- The outcome of `builder.build`. -/
  built : Except PyErr BuildResult
  nonce : Nat := 0
  /-- An error of the `INSERT`, besides the unique constraint. -/
  inserted : Option PyErr := none
  /-- An error of the final commit. -/
  committed : Option PyErr := none

/-! ## build_and_persist_version -/

/-- `build_and_persist_version` up to the stop of the running service. -/
def prepareBuild (ctx : Ctx) (env : TaskEnv) (p : Payload) : HostM Unit := do
  let _ ← Eff.ofExcept (ctx.settings.profileSettings p.profile)
  Eff.ofExcept env.prepared
  if p.targetVersion > 1 && ctx.settings.systemd.perConfig then
    stopConfigUnit env.faults p.configId ctx.settings.systemd

/-- The build, and `write_files` up to the served file. -/
def buildDocuments (ctx : Ctx) (env : TaskEnv) (p : Payload) : HostM BuildResult := do
  let ps ← Eff.ofExcept (ctx.settings.profileSettings p.profile)
  let result ← Eff.ofExcept env.built
  let port ← Eff.ofExcept (listeningPort p.profile result.configData ps)
  let configData ← writeDocuments ctx.settings env.faults env.timestamp p.profile p.configId
    { result with port := port }
  pure { result with port := port, configData := configData }

/-- `cert_fingerprint_for_keys`. -/
def certFingerprintForKeys (ctx : Ctx) (publicKey explicit : String) : String :=
  if explicit ≠ "" then explicit else ctx.sha256Hex publicKey

/-- `encrypt(result.private_key)`, or `""` where there is none. -/
def encryptPrivateKey (encryptor : FieldEncryptor) (nonce : Nat) (privateKey : String) :
    Except PyErr String :=
  if privateKey ≠ "" then encryptor.encrypt nonce privateKey else .ok ""

/-- The row `build_and_persist_version` inserts. -/
def versionRow (ctx : Ctx) (env : TaskEnv) (p : Payload) (result : BuildResult) :
    Except PyErr VpnConfigVersionModel := do
  let stored ← encryptConfigDataFields ctx.encryptor env.nonce (sensitiveFields p.profile)
    result.configData
  let privateKey ← encryptPrivateKey ctx.encryptor
    (env.nonce + (sensitiveFields p.profile).length) result.privateKey
  .ok {
    port := result.port
    privateKey := privateKey
    publicKey := result.publicKey
    certFingerprint := certFingerprintForKeys ctx result.publicKey result.certFingerprint
    configData := stored }

/-- What the row says of the result. -/
theorem versionRow_spec {ctx : Ctx} {env : TaskEnv} {p : Payload} {result : BuildResult}
    {row : VpnConfigVersionModel} (h : versionRow ctx env p result = .ok row) :
    encryptConfigDataFields ctx.encryptor env.nonce (sensitiveFields p.profile)
        result.configData = .ok row.configData ∧
      encryptPrivateKey ctx.encryptor (env.nonce + (sensitiveFields p.profile).length)
        result.privateKey = .ok row.privateKey ∧
      row.port = result.port ∧ row.publicKey = result.publicKey ∧
      row.certFingerprint =
        certFingerprintForKeys ctx result.publicKey result.certFingerprint := by
  obtain ⟨stored, hstored, h⟩ := Except.bind_eq_ok_iff.mp h
  obtain ⟨privateKey, hkey, h⟩ := Except.bind_eq_ok_iff.mp h
  rw [← Except.ok.inj h]
  exact ⟨hstored, hkey, rfl, rfl, rfl⟩

def uniqueViolation : PyErr := ⟨.databaseError, "duplicate key value violates unique constraint " ++
  "\"uq_vpn_config_versions_config_version\""⟩

/-- `insert_version`: the row, flushed but not committed. -/
def insertVersion (ctx : Ctx) (env : TaskEnv) (p : Payload) (result : BuildResult) (db : Db) :
    Except PyErr VpnConfigVersionModel := do
  let row ← versionRow ctx env p result
  match env.inserted with
  | some e => .error e
  | none => if db.hasVersion p.configId p.targetVersion then .error uniqueViolation else .ok row

/-- The row that is inserted. -/
theorem versionRow_of_insertVersion {ctx : Ctx} {env : TaskEnv} {p : Payload} {result : BuildResult}
    {db : Db} {row : VpnConfigVersionModel} (h : insertVersion ctx env p result db = .ok row) :
    versionRow ctx env p result = .ok row := by
  obtain ⟨row', hrow, h⟩ := Except.bind_eq_ok_iff.mp h
  split at h
  · contradiction
  · split at h
    · contradiction
    · rw [hrow, Except.ok.inj h]

def configNotFound (c : ConfigId) : PyErr := ⟨.valueError, "Config not found: " ++ uuidStr c⟩

/-! ## the function -/

/-- Host work inside a computation on the store. -/
def onHost {α : Type} (x : HostM α) : Eff Store PyErr α :=
  ExceptT.mk fun s => ((x.exec s.host).1, { s with host := (x.exec s.host).2 })

/-- `_get_model(config_id, active_only=False)`, which must find the row. -/
def selectModel (c : ConfigId) : Eff Store PyErr VpnConfigModel := do
  let s ← Eff.read
  match s.db.getModel c with
  | some row => pure row
  | none => Eff.raise (configNotFound c)

/-- A commit that makes `f` of the tables, or raises and rolls back. -/
def commit (failure : Option PyErr) (f : Db → Db) : Eff Store PyErr Unit :=
  match failure with
  | some e => Eff.raise e
  | none => Eff.update fun s => s.mapDb f

/-- What the commit of a build makes of the tables. -/
def commitBuild (now : Nat) (p : Payload) (row : VpnConfigVersionModel) (db : Db) : Db :=
  (db.setVersion p.configId p.targetVersion row).updateConfig p.configId
    (markBuilt now p.targetVersion)

/-- `insert_version` as a statement of the session. -/
def insertRow (ctx : Ctx) (env : TaskEnv) (p : Payload) (result : BuildResult) :
    Eff Store PyErr VpnConfigVersionModel := do
  let s ← Eff.read
  Eff.ofExcept (insertVersion ctx env p result s.db)

/-- `build_and_persist_version`; returns the row it inserted. -/
def buildAndPersistVersion (ctx : Ctx) (env : TaskEnv) (p : Payload) :
    Eff Store PyErr VpnConfigVersionModel := do
  onHost (prepareBuild ctx env p)
  let result ← onHost (buildDocuments ctx env p)
  onHost (restartService ctx.settings env.faults p.profile p.configId p.name)
  onHost (syncMux ctx.settings env.faults p.profile result.configData)
  insertRow ctx env p result

/-- The `try` block of `_run_config_task`. -/
def tryConfigTask (ctx : Ctx) (env : TaskEnv) (now : Nat) (p : Payload) : Eff Store PyErr Unit := do
  let s ← Eff.read
  if s.db.hasVersion p.configId p.targetVersion then
    let loaded ← selectModel p.configId
    commit env.committed fun db =>
      db.updateConfig p.configId (markActive now p.targetVersion loaded)
  else
    let _ ← selectModel p.configId
    let row ← buildAndPersistVersion ctx env p
    commit env.committed (commitBuild now p row)

/-- Its `except` block: a session of its own marks the config failed. -/
def failConfigTask (now : Nat) (p : Payload) (exc : PyErr) : Eff Store PyErr Unit := do
  let loaded ← selectModel p.configId
  commit none fun db => db.updateConfig p.configId (markFailed now exc.msg loaded)
  Eff.raise exc

/-- `_run_config_task`. -/
def runConfigTask (ctx : Ctx) (env : TaskEnv) (now : Nat) (p : Payload) : Eff Store PyErr Unit :=
  Eff.catching (fun _ => true) (tryConfigTask ctx env now p) (failConfigTask now p)

/-! ## the steps -/

/-- Where an execution stands. -/
inductive TaskStage where
  /-- `has_version` is next. -/
  | start
  /-- The version is there; `mark_active` is next. -/
  | loading
  /-- `mark_active` has loaded the row; the commit is next. -/
  | marking (loaded : VpnConfigModel)
  /-- The version is not there; `mark_processing` is next. -/
  | processing
  | preparing
  | building
  | restarting (result : BuildResult)
  | syncing (result : BuildResult)
  | inserting (result : BuildResult)
  | committing (row : VpnConfigVersionModel)
  /-- Rolled back; `mark_failed` is next. -/
  | failing (exc : PyErr)
  /-- `mark_failed` has loaded the row; the commit is next. -/
  | markingFailed (exc : PyErr) (loaded : VpnConfigModel)

/-- A block of host work as a step. -/
def hostStep {α : Type} (x : HostM α) (s : Store) (next : α → TaskStage) :
    Result TaskStage Store (Except PyErr Unit) :=
  match x.exec s.host with
  | (.ok a, h) => .next (next a) { s with host := h }
  | (.error e, h) => .next (.failing e) { s with host := h }

/-- One step of an execution. -/
def taskStep (ctx : Ctx) (env : TaskEnv) (now : Nat) (p : Payload) (stage : TaskStage)
    (s : Store) : Result TaskStage Store (Except PyErr Unit) :=
  match stage with
  | .start =>
      if s.db.hasVersion p.configId p.targetVersion then .next .loading s else .next .processing s
  | .loading =>
      match s.db.getModel p.configId with
      | some loaded => .next (.marking loaded) s
      | none => .next (.failing (configNotFound p.configId)) s
  | .marking loaded =>
      match env.committed with
      | some e => .next (.failing e) s
      | none => .done (.ok ()) (s.mapDb fun db =>
          db.updateConfig p.configId (markActive now p.targetVersion loaded))
  | .processing =>
      match s.db.getModel p.configId with
      | some _ => .next .preparing s
      | none => .next (.failing (configNotFound p.configId)) s
  | .preparing => hostStep (prepareBuild ctx env p) s fun _ => .building
  | .building => hostStep (buildDocuments ctx env p) s .restarting
  | .restarting result =>
      hostStep (restartService ctx.settings env.faults p.profile p.configId p.name) s
        fun _ => .syncing result
  | .syncing result =>
      hostStep (syncMux ctx.settings env.faults p.profile result.configData) s
        fun _ => .inserting result
  | .inserting result =>
      match insertVersion ctx env p result s.db with
      | .ok row => .next (.committing row) s
      | .error e => .next (.failing e) s
  | .committing row =>
      match env.committed with
      | some e => .next (.failing e) s
      | none => .done (.ok ()) (s.mapDb (commitBuild now p row))
  | .failing exc =>
      match s.db.getModel p.configId with
      | some loaded => .next (.markingFailed exc loaded) s
      | none => .done (.error (configNotFound p.configId)) s
  | .markingFailed exc loaded =>
      .done (.error exc) (s.mapDb fun db =>
        db.updateConfig p.configId (markFailed now exc.msg loaded))

/-! ## the steps compute the function -/

@[simp] theorem exec_onHost {α : Type} (x : HostM α) (s : Store) :
    (onHost x).exec s = ((x.exec s.host).1, { s with host := (x.exec s.host).2 }) := rfl

/-- Host work does nothing to the tables. -/
theorem of_exec_onHost {α : Type} {x : HostM α} {s s' : Store} {r : Except PyErr α}
    (h : (onHost x).exec s = (r, s')) : x.exec s.host = (r, s'.host) ∧ s'.db = s.db := by
  rw [exec_onHost] at h
  obtain ⟨rfl, rfl⟩ : (x.exec s.host).1 = r ∧ Store.mk s.db (x.exec s.host).2 = s' := by
    simpa using h
  exact ⟨rfl, rfl⟩

theorem exec_selectModel_some {c : ConfigId} {s : Store} {row : VpnConfigModel}
    (h : s.db.getModel c = some row) : (selectModel c).exec s = (.ok row, s) := by
  simp [selectModel, Eff.exec_bind, h]

theorem exec_selectModel_none {c : ConfigId} {s : Store} (h : s.db.getModel c = none) :
    (selectModel c).exec s = (.error (configNotFound c), s) := by
  simp [selectModel, Eff.exec_bind, h]

theorem exec_commit_none (f : Db → Db) (s : Store) :
    (commit none f).exec s = (.ok (), s.mapDb f) := rfl

theorem exec_commit_some (e : PyErr) (f : Db → Db) (s : Store) :
    (commit (some e) f).exec s = (.error e, s) := rfl

theorem exec_insertRow (ctx : Ctx) (env : TaskEnv) (p : Payload) (result : BuildResult)
    (s : Store) : (insertRow ctx env p result).exec s =
      (insertVersion ctx env p result s.db, s) := by
  simp [insertRow, Eff.exec_bind]

/-- The `try` block for a version that is not stored is its build. -/
theorem exec_tryConfigTask_build {ctx : Ctx} {env : TaskEnv} {now : Nat} {p : Payload} {s : Store}
    {row : VpnConfigModel} (hrow : s.db.getModel p.configId = some row)
    (habsent : s.db.hasVersion p.configId p.targetVersion = false) :
    (tryConfigTask ctx env now p).exec s = (do
      let row ← buildAndPersistVersion ctx env p
      commit env.committed (commitBuild now p row)).exec s := by
  rw [tryConfigTask, Eff.exec_bind_ok (Eff.exec_read s), habsent]
  exact Eff.exec_bind_ok (exec_selectModel_some hrow)

/-- The `except` block for a config that is found. -/
theorem exec_failConfigTask_some {now : Nat} {p : Payload} {e : PyErr} {s : Store}
    {row : VpnConfigModel} (hrow : s.db.getModel p.configId = some row) :
    (failConfigTask now p e).exec s =
      (.error e, s.mapDb fun db => db.updateConfig p.configId (markFailed now e.msg row)) :=
  Eff.exec_bind_ok (exec_selectModel_some hrow)

section Implements

variable (ctx : Ctx) (env : TaskEnv) (now : Nat) (p : Payload)

/-- What is left of the `try` block, under the `except` block. -/
def guarded (x : Eff Store PyErr Unit) : Eff Store PyErr Unit :=
  Eff.catching (fun _ => true) x (failConfigTask now p)

variable {ctx env now p}

theorem exec_guarded_ok {x : Eff Store PyErr Unit} {s s' : Store}
    (h : x.exec s = (.ok (), s')) : (guarded now p x).exec s = (.ok (), s') := by
  rw [guarded, Eff.exec_catching, h]

theorem exec_guarded_error {x : Eff Store PyErr Unit} {s s' : Store} {e : PyErr}
    (h : x.exec s = (.error e, s')) :
    (guarded now p x).exec s = (failConfigTask now p e).exec s' := by
  rw [guarded, Eff.exec_catching, h]
  simp

theorem computes_failing (fuel : Nat) (exc : PyErr) (s : Store) :
    Computes (taskStep ctx env now p) (fuel + 2) (.failing exc) s (failConfigTask now p exc) := by
  cases h : s.db.getModel p.configId with
  | none =>
      exact computes_done _ s (by simp only [taskStep, h])
        (Eff.exec_bind_error (exec_selectModel_none h))
  | some loaded =>
      exact computes_next (.markingFailed exc loaded) s (by simp only [taskStep, h])
        (Eff.exec_bind_ok (exec_selectModel_some h)) (computes_done _ _ rfl rfl)

/-- A step that raises goes on with the `except` block. -/
theorem computes_of_error {fuel : Nat} {stage : TaskStage} {s : Store} {e : PyErr}
    {x : Eff Store PyErr Unit} (s' : Store)
    (hstep : taskStep ctx env now p stage s = .next (.failing e) s')
    (hx : x.exec s = (.error e, s')) :
    Computes (taskStep ctx env now p) (fuel + 3) stage s (guarded now p x) :=
  computes_next _ s' hstep (exec_guarded_error hx) (computes_failing fuel e s')

/-- A step that returns goes on with the rest of the block. -/
theorem computes_of_next {α : Type} {fuel : Nat} {stage : TaskStage} {s : Store} {a : α}
    {x : Eff Store PyErr α} {f : α → Eff Store PyErr Unit} (stage' : TaskStage) (s' : Store)
    (hstep : taskStep ctx env now p stage s = .next stage' s')
    (hx : x.exec s = (.ok a, s'))
    (h : Computes (taskStep ctx env now p) fuel stage' s' (guarded now p (f a))) :
    Computes (taskStep ctx env now p) (fuel + 1) stage s (guarded now p (x >>= f)) :=
  computes_next stage' s' hstep
    (by rw [guarded, guarded, Eff.exec_catching, Eff.exec_catching, Eff.exec_bind_ok hx]) h

/-- The same for a block of host work, whatever it does. -/
theorem computes_of_host {α : Type} {fuel : Nat} {stage : TaskStage} {s : Store} {x : HostM α}
    {next : α → TaskStage} {f : α → Eff Store PyErr Unit}
    (hstep : taskStep ctx env now p stage s = hostStep x s next)
    (h : ∀ a h, Computes (taskStep ctx env now p) (fuel + 2) (next a) { s with host := h }
      (guarded now p (f a))) :
    Computes (taskStep ctx env now p) (fuel + 3) stage s (guarded now p (onHost x >>= f)) := by
  cases hx : x.exec s.host with
  | mk r h' =>
      cases r with
      | ok a =>
          exact computes_of_next (next a) { s with host := h' } (by rw [hstep, hostStep, hx])
            (by rw [exec_onHost, hx]) (h a h')
      | error e =>
          exact computes_of_error { s with host := h' } (by rw [hstep, hostStep, hx])
            (Eff.exec_bind_error (by rw [exec_onHost, hx]))

/-- The commit at the end of either branch. -/
theorem computes_commit {fuel : Nat} {stage : TaskStage} {s : Store} {f : Db → Db}
    (hstep : taskStep ctx env now p stage s = match env.committed with
      | some e => .next (.failing e) s
      | none => .done (.ok ()) (s.mapDb f)) :
    Computes (taskStep ctx env now p) (fuel + 3) stage s
      (guarded now p (commit env.committed f)) := by
  cases hc : env.committed with
  | some e => exact computes_of_error s (by rw [hstep, hc]) (exec_commit_some e f s)
  | none =>
      rw [hc] at hstep
      exact computes_done _ _ hstep (exec_guarded_ok (exec_commit_none f s))

/-- The steps of a build compute `build_and_persist_version` and its commit. -/
theorem computes_build (s : Store) :
    Computes (taskStep ctx env now p) 8 .preparing s (guarded now p do
      let row ← buildAndPersistVersion ctx env p
      commit env.committed (commitBuild now p row)) := by
  simp only [buildAndPersistVersion, bind_assoc]
  refine computes_of_host rfl fun _ h₁ => ?_
  refine computes_of_host rfl fun result h₂ => ?_
  refine computes_of_host rfl fun _ h₃ => ?_
  refine computes_of_host rfl fun _ h₄ => ?_
  cases hins : insertVersion ctx env p result s.db with
  | error e =>
      exact computes_of_error (e := e) ⟨s.db, h₄⟩ (by simp only [taskStep, hins])
        (Eff.exec_bind_error (by rw [exec_insertRow, hins]))
  | ok row =>
      exact computes_of_next (.committing row) ⟨s.db, h₄⟩
        (by simp only [taskStep, hins]) (by rw [exec_insertRow, hins]) (computes_commit rfl)

/-- **The steps compute the function.**  Run without interference, the steps of
an execution end as `_run_config_task` ends and leave what it leaves. -/
theorem runToEnd_taskStep (s : Store) :
    Process.runToEnd (taskStep ctx env now p) 10 .start s =
      some ((runConfigTask ctx env now p).exec s) := by
  change Computes (taskStep ctx env now p) 10 .start s (guarded now p (tryConfigTask ctx env now p))
  unfold tryConfigTask
  by_cases hver : s.db.hasVersion p.configId p.targetVersion = true
  · -- the version is there: `mark_active` only
    refine computes_of_next (a := s) .loading s (by simp [taskStep, hver]) rfl ?_
    simp only [hver, if_true]
    cases hmodel : s.db.getModel p.configId with
    | none =>
        exact computes_of_error s (by simp only [taskStep, hmodel])
          (Eff.exec_bind_error (exec_selectModel_none hmodel))
    | some loaded =>
        exact computes_of_next (.marking loaded) s (by simp only [taskStep, hmodel])
          (exec_selectModel_some hmodel) (computes_commit rfl)
  · refine computes_of_next (a := s) .processing s (by simp [taskStep, hver]) rfl ?_
    simp only [hver]
    cases hmodel : s.db.getModel p.configId with
    | none =>
        exact computes_of_error s (by simp only [taskStep, hmodel])
          (Eff.exec_bind_error (exec_selectModel_none hmodel))
    | some loaded =>
        exact computes_of_next .preparing s (by simp only [taskStep, hmodel])
          (exec_selectModel_some hmodel) (computes_build s)

end Implements

end VpnPanel
