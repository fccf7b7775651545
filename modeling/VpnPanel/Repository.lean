import VpnPanel.WriteFiles
import VpnPanel.Lib.PyObj

/-!
# VpnPanel.Repository

The rows of `vpn_configs` and `vpn_config_versions` and the repository calls of
the config lifecycle: `models.py` and `repositories/vpn_config.py`.

A session loads a row, changes attributes and writes, at its flush, the columns
whose value differs from the loaded one (`netChange`).  Sessions are isolated
at read committed: each `SELECT` sees the rows as last committed, and the
`UPDATE` of a flush applies to the row as it stands then.  A call that changes
a row is therefore a function of the row that was loaded and of the row that
is written.
-/

namespace VpnPanel

abbrev TaskId := Nat

/-- A row of `vpn_configs`. -/
structure VpnConfigModel where
  name : String
  protocol : VpnProtocolType
  profile : ConfigProfile
  status : ConfigStatus
  currentVersion : Option Nat
  lastTaskId : Option TaskId := none
  errorMessage : Option String := none
  regeneratePolicy : Option RegeneratePolicy := none
  sharePublicHost : Option String := none
  isActive : Bool := true
  updatedAt : Nat
  deriving DecidableEq, Repr

/-- A row of `vpn_config_versions`, less its key. -/
structure VpnConfigVersionModel where
  port : Int
  privateKey : String
  publicKey : String
  certFingerprint : String
  configData : PyVal
  deriving DecidableEq, Repr

/-- The committed tables.  `versions` is keyed by `(config_id, version)`, the
unique constraint of its table. -/
structure Db where
  configs : ConfigId → Option VpnConfigModel
  versions : ConfigId → Nat → Option VpnConfigVersionModel

namespace Db

def empty : Db := ⟨fun _ => none, fun _ _ => none⟩

def setConfig (db : Db) (c : ConfigId) (row : VpnConfigModel) : Db :=
  { db with configs := fun c' => if c' = c then some row else db.configs c' }

def setVersion (db : Db) (c : ConfigId) (v : Nat) (row : VpnConfigVersionModel) : Db :=
  { db with versions := fun c' v' => if c' = c ∧ v' = v then some row else db.versions c' v' }

/-- The `UPDATE` of one row; nothing happens when there is none. -/
def updateConfig (db : Db) (c : ConfigId) (change : VpnConfigModel → VpnConfigModel) : Db :=
  match db.configs c with
  | some row => db.setConfig c (change row)
  | none => db

/-- The `UPDATE` of one version row. -/
def updateVersion (db : Db) (c : ConfigId) (v : Nat)
    (change : VpnConfigVersionModel → VpnConfigVersionModel) : Db :=
  match db.versions c v with
  | some row => db.setVersion c v (change row)
  | none => db

/-- `_get_model(config_id, active_only=False)`. -/
def getModel (db : Db) (c : ConfigId) : Option VpnConfigModel := db.configs c

/-- `_get_model(config_id)`, `get_by_id(config_id)`: deleted rows are not
seen. -/
def getActive (db : Db) (c : ConfigId) : Option VpnConfigModel :=
  (db.configs c).filter VpnConfigModel.isActive

/-- `has_version`. -/
def hasVersion (db : Db) (c : ConfigId) (v : Nat) : Bool := (db.versions c v).isSome

@[simp] theorem setConfig_versions (db : Db) (c : ConfigId) (row : VpnConfigModel) :
    (db.setConfig c row).versions = db.versions := rfl

@[simp] theorem setVersion_configs (db : Db) (c : ConfigId) (v : Nat)
    (row : VpnConfigVersionModel) : (db.setVersion c v row).configs = db.configs := rfl

@[simp] theorem setConfig_configs_self (db : Db) (c : ConfigId) (row : VpnConfigModel) :
    (db.setConfig c row).configs c = some row := by simp [setConfig]

theorem setConfig_configs_ne (db : Db) {c c' : ConfigId} (row : VpnConfigModel) (h : c' ≠ c) :
    (db.setConfig c row).configs c' = db.configs c' := by simp [setConfig, h]

@[simp] theorem setVersion_versions_self (db : Db) (c : ConfigId) (v : Nat)
    (row : VpnConfigVersionModel) : (db.setVersion c v row).versions c v = some row := by
  simp [setVersion]

theorem setVersion_versions_ne (db : Db) {c c' : ConfigId} {v v' : Nat}
    (row : VpnConfigVersionModel) (h : c' ≠ c ∨ v' ≠ v) :
    (db.setVersion c v row).versions c' v' = db.versions c' v' := by
  have hne : ¬(c' = c ∧ v' = v) := by tauto
  simp [setVersion, hne]

@[simp] theorem updateConfig_versions (db : Db) (c : ConfigId)
    (change : VpnConfigModel → VpnConfigModel) :
    (db.updateConfig c change).versions = db.versions := by
  unfold updateConfig
  split <;> rfl

@[simp] theorem updateConfig_configs (db : Db) (c c' : ConfigId)
    (change : VpnConfigModel → VpnConfigModel) :
    (db.updateConfig c change).configs c' =
      if c' = c then (db.configs c).map change else db.configs c' := by
  unfold updateConfig
  split <;> rename_i h
  · by_cases hc : c' = c
    · subst hc
      simp [h]
    · simp [setConfig_configs_ne db _ hc, hc]
  · by_cases hc : c' = c
    · subst hc
      simp [h]
    · simp [hc]

@[simp] theorem updateVersion_configs (db : Db) (c : ConfigId) (v : Nat)
    (change : VpnConfigVersionModel → VpnConfigVersionModel) :
    (db.updateVersion c v change).configs = db.configs := by
  unfold updateVersion
  split <;> rfl

@[simp] theorem updateVersion_versions (db : Db) (c c' : ConfigId) (v v' : Nat)
    (change : VpnConfigVersionModel → VpnConfigVersionModel) :
    (db.updateVersion c v change).versions c' v' =
      if c' = c ∧ v' = v then (db.versions c v).map change else db.versions c' v' := by
  unfold updateVersion
  split <;> rename_i h
  · by_cases hcv : c' = c ∧ v' = v
    · obtain ⟨rfl, rfl⟩ := hcv
      simp [h]
    · simp [setVersion, hcv]
  · by_cases hcv : c' = c ∧ v' = v
    · obtain ⟨rfl, rfl⟩ := hcv
      simp [h]
    · simp [hcv]

/-- A row after an `UPDATE` is an old row, changed or not. -/
theorem exists_of_updateConfig {db : Db} {c c' : ConfigId}
    {change : VpnConfigModel → VpnConfigModel} {row' : VpnConfigModel}
    (h : (db.updateConfig c change).configs c' = some row') :
    ∃ row, db.configs c' = some row ∧ (row' = row ∨ (c' = c ∧ row' = change row)) := by
  rw [updateConfig_configs] at h
  split at h
  · next hc =>
    subst hc
    obtain ⟨row, hrow, rfl⟩ := Option.map_eq_some_iff.mp h
    exact ⟨row, hrow, Or.inr ⟨rfl, rfl⟩⟩
  · exact ⟨row', h, Or.inl rfl⟩

theorem getActive_eq_some_iff {db : Db} {c : ConfigId} {row : VpnConfigModel} :
    db.getActive c = some row ↔ db.configs c = some row ∧ row.isActive = true := by
  simp [getActive, Option.filter_eq_some_iff]

end Db

/-! ## changes of a config row -/

/-- What a column holds after a session that loaded `loaded` and assigned
`assigned` has written the row: only a changed value is written. -/
def netChange {α : Type} [DecidableEq α] (loaded assigned current : α) : α :=
  if loaded = assigned then current else assigned

/-- `create_pending`. -/
def createPending (name : String) (protocol : VpnProtocolType) (profile : ConfigProfile)
    (policy : RegeneratePolicy) (sharePublicHost : Option String) (now : Nat) : VpnConfigModel where
  name := name
  protocol := protocol
  profile := profile
  status := .pending
  currentVersion := none
  regeneratePolicy := some policy
  sharePublicHost := if stripOr sharePublicHost = "" then none else some (stripOr sharePublicHost)
  updatedAt := now

/-- `mark_processing`; it is flushed before anything else happens, so the row
that is written is the one that was loaded. -/
def markProcessing (now : Nat) (row : VpnConfigModel) : VpnConfigModel :=
  { row with status := .processing, errorMessage := none, updatedAt := now }

/-- `mark_active`. -/
def markActive (now version : Nat) (loaded current : VpnConfigModel) : VpnConfigModel :=
  { current with
    status := netChange loaded.status .active current.status
    currentVersion := netChange loaded.currentVersion (some version) current.currentVersion
    errorMessage := netChange loaded.errorMessage none current.errorMessage
    updatedAt := now }

/-- What a build that ends well makes of the row: `mark_processing`, flushed,
then `mark_active`. -/
def markBuilt (now version : Nat) (row : VpnConfigModel) : VpnConfigModel :=
  markActive now version (markProcessing now row) (markProcessing now row)

/-- `mark_failed`. -/
def markFailed (now : Nat) (message : String) (loaded current : VpnConfigModel) :
    VpnConfigModel :=
  { current with
    status := netChange loaded.status .failed current.status
    errorMessage := netChange loaded.errorMessage
      (some (String.ofList (message.toList.take 2000))) current.errorMessage
    updatedAt := now }

/-- The row after `prepare_regenerate`. -/
def prepareRegenerate (now : Nat) (loaded current : VpnConfigModel) : VpnConfigModel :=
  { current with
    status := netChange loaded.status .pending current.status
    errorMessage := netChange loaded.errorMessage none current.errorMessage
    updatedAt := now }

/-- `set_last_task_id`. -/
def setLastTaskId (now : Nat) (task : TaskId) (current : VpnConfigModel) : VpnConfigModel :=
  { current with lastTaskId := some task, updatedAt := now }

/-- `soft_delete`. -/
def softDelete (now : Nat) (current : VpnConfigModel) : VpnConfigModel :=
  { current with isActive := false, updatedAt := now }

/-- What `update_regenerate_policy` writes. -/
def updateRegeneratePolicy (now : Nat) (policy : RegeneratePolicy)
    (loaded current : VpnConfigModel) : VpnConfigModel :=
  { current with
    regeneratePolicy := netChange loaded.regeneratePolicy (some policy) current.regeneratePolicy
    updatedAt := now }

/-- What `update_version_config_data` does to the config's row. -/
def touch (now : Nat) (current : VpnConfigModel) : VpnConfigModel :=
  { current with updatedAt := now }

/-- Whether a JSON column takes an assigned value for the one it has: the values
are compared with `==`. -/
def sameJson (loaded : PyVal) (assigned : PyObj) : Bool :=
  match assigned.toJson? with
  | some value => loaded.pyEq value
  | none => false

/-- What `update_version_config_data` does to the version's row: `configData` is
what the column makes of the assigned value. -/
def updateVersionConfigData (assigned : PyObj) (configData : PyVal) (port : Int)
    (loaded current : VpnConfigVersionModel) : VpnConfigVersionModel :=
  { current with
    configData := if sameJson loaded.configData assigned then current.configData else configData
    port := netChange loaded.port port current.port }

/-! ## what the changes keep -/

@[simp] theorem markBuilt_status (now version : Nat) (row : VpnConfigModel) :
    (markBuilt now version row).status = .active := by
  simp [markBuilt, markActive, markProcessing, netChange]

@[simp] theorem markBuilt_currentVersion (now version : Nat) (row : VpnConfigModel) :
    (markBuilt now version row).currentVersion = some version := by
  by_cases h : row.currentVersion = some version <;>
    simp [markBuilt, markActive, markProcessing, netChange, h]

/-- A shortcut that writes the version it was asked for, or leaves what another
session put there. -/
theorem markActive_currentVersion (now version : Nat) (loaded current : VpnConfigModel) :
    (markActive now version loaded current).currentVersion =
      if loaded.currentVersion = some version then current.currentVersion else some version := rfl

theorem markActive_status (now version : Nat) (loaded current : VpnConfigModel) :
    (markActive now version loaded current).status =
      if loaded.status = .active then current.status else .active := rfl

theorem markFailed_status (now : Nat) (message : String) (loaded current : VpnConfigModel) :
    (markFailed now message loaded current).status =
      if loaded.status = .failed then current.status else .failed := rfl

/-- `mark_failed` on the row that was loaded. -/
theorem markFailed_self (now : Nat) (message : String) (row : VpnConfigModel) :
    markFailed now message row row =
      { row with
        status := .failed
        errorMessage := some (String.ofList (message.toList.take 2000))
        updatedAt := now } := by
  simp only [markFailed, netChange]
  congr 1
  · split <;> simp_all
  · split <;> simp_all

theorem prepareRegenerate_status {now : Nat} {loaded current : VpnConfigModel}
    (h : loaded.status.busy = false) :
    (prepareRegenerate now loaded current).status = .pending := by
  have hne : loaded.status ≠ .pending := by
    intro hp
    simp [ConfigStatus.busy, hp] at h
  simp [prepareRegenerate, netChange, hne]

end VpnPanel
