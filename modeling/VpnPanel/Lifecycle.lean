import VpnPanel.UpdateConfigData
import VpnPanel.Lib.Run
import Mathlib.Logic.Function.Basic

/-!
# VpnPanel.Lifecycle

The whole system: API requests, worker executions and the broker, taking steps
in any order.

* `create_config.py`, `regenerate_config.py`, `configs.py` (delete and policy
  change) — one stage for each statement, commit or call to the broker;
* the edit of `VpnPanel.UpdateConfigData` and the execution of
  `VpnPanel.ConfigTask`, step by step;
* the broker, of which only at-least-once delivery is assumed: a task may be
  delivered, also while it is being executed, until the broker has finished
  it, and that is possible only after an execution has ended.

An `UPDATE` that has been flushed locks the row of its config until the
session ends (`locks`); a step that would have to wait is not taken.  `step`
is total: an action that is not possible leaves the world alone.
-/

namespace VpnPanel

open Process (Result)

abbrev RequestId := Nat

abbrev ExecutionId := Nat

/-- A published task. -/
structure Task where
  payload : Payload
  /-- An execution has ended, and its end was reported or not. -/
  executed : Bool := false
  /-- The broker will not deliver it again. -/
  finished : Bool := false
  deriving DecidableEq, Repr

/-- Where an API request stands. -/
inductive RequestStage where
  /-- A regenerate that has passed the checks of `execute`. -/
  | regenerateChecked (c : ConfigId)
  /-- A regenerate that has passed the checks of `prepare_regenerate`. -/
  | regeneratePrepared (c : ConfigId) (loaded : VpnConfigModel)
  /-- A create or regenerate that has committed `pending`. -/
  | publishing (p : Payload)
  /-- A create or regenerate whose task is published. -/
  | published (c : ConfigId) (task : TaskId)
  | editing (stage : EditStage)
  /-- A delete that has found its config. -/
  | deleting (c : ConfigId) (profile : ConfigProfile)
  /-- A delete that has removed the unit; `soft_delete` is next. -/
  | deleteSelecting (c : ConfigId)
  /-- `soft_delete` has loaded the row; the commit is next. -/
  | deleteCommitting (c : ConfigId)
  /-- A policy change that has read the config and settled on the new policy. -/
  | policyRead (c : ConfigId) (policy : RegeneratePolicy)
  /-- `update_regenerate_policy` has loaded the row; the commit is next. -/
  | policySelected (c : ConfigId) (policy : RegeneratePolicy) (loaded : VpnConfigModel)

/-- A worker's execution of a task. -/
structure Execution where
  task : TaskId
  payload : Payload
  stage : TaskStage

/-- A session that holds a row lock. -/
inductive Holder where
  | request (r : RequestId)
  | execution (e : ExecutionId)
  deriving DecidableEq, Repr

/-- The state of the system. -/
structure World where
  db : Db
  host : Host
  tasks : TaskId → Option Task
  requests : RequestId → Option RequestStage
  executions : ExecutionId → Option Execution
  locks : ConfigId → Option Holder
  now : Nat

namespace World

/-- An installation without configs. -/
def init (host : Host) : World where
  db := Db.empty
  host := host
  tasks _ := none
  requests _ := none
  executions _ := none
  locks _ := none
  now := 0

def store (w : World) : Store := ⟨w.db, w.host⟩

@[simps] def setStore (w : World) (s : Store) : World := { w with db := s.db, host := s.host }

@[simps] def mapDb (w : World) (f : Db → Db) : World := { w with db := f w.db }

@[simps] def setHost (w : World) (h : Host) : World := { w with host := h }

@[simps] def setTask (w : World) (t : TaskId) (task : Task) : World :=
  { w with tasks := Function.update w.tasks t (some task) }

@[simps] def setRequest (w : World) (r : RequestId) (stage : Option RequestStage) : World :=
  { w with requests := Function.update w.requests r stage }

@[simps] def setExecution (w : World) (e : ExecutionId) (x : Option Execution) : World :=
  { w with executions := Function.update w.executions e x }

/-- Whether a session can write the row of a config without waiting. -/
def lockFree (w : World) (c : ConfigId) (me : Holder) : Bool :=
  w.locks c = none || w.locks c = some me

/-- The lock of a config after a step of a session. -/
@[simps] def relock (w : World) (c : ConfigId) (me : Holder) (holds : Bool) : World :=
  { w with
    locks := Function.update w.locks c
      (if holds then some me else if w.locks c = some me then none else w.locks c) }

@[simp] theorem store_db (w : World) : w.store.db = w.db := rfl

@[simp] theorem store_host (w : World) : w.store.host = w.host := rfl

end World

/-! ## locks -/

/-- The stages in which an execution holds the lock of its config. -/
def TaskStage.holdsLock : TaskStage → Bool
  | preparing | building | restarting _ | syncing _ | inserting _ | committing _ => true
  | _ => false

/-- The stages whose step writes the row of the config. -/
def TaskStage.takesLock : TaskStage → Bool
  | marking _ | processing | markingFailed _ _ => true
  | _ => false

namespace EditStage

/-- The config an edit is about. -/
def configId : EditStage → ConfigId
  | planning c _ => c
  | selecting draft | flushing draft _ => draft.configId
  | writing plan _ | restarting plan _ | syncing plan _ | answering plan _
  | committing plan _ => plan.configId

/-- The stages in which an edit holds the lock of its config. -/
def holdsLock : EditStage → Bool
  | writing _ _ | restarting _ _ | syncing _ _ | answering _ _ | committing _ _ => true
  | _ => false

/-- The stages whose step writes the row of the config. -/
def takesLock : EditStage → Bool
  | flushing _ _ => true
  | _ => false

end EditStage

/-! ## requests -/

/-- How `publish_task` ends: the task is stored or not, and the call returns
or raises. -/
inductive Publish where
  | accepted (t : TaskId)
  | rejected
  | lost (t : TaskId)

/-- What the surroundings of a request's step decide. -/
structure RequestEnv extends EditEnv where
  publish : Publish := .rejected
  undeletable : Undeletable := none

/-- `remove_config_unit` as `DeleteConfigUseCase.execute` calls it. -/
def deleteUnit (ctx : Ctx) (env : RequestEnv) (c : ConfigId) (profile : ConfigProfile) :
    HostM Unit :=
  if ctx.settings.systemd.perConfig then do
    let _ ← Eff.ofExcept (ctx.settings.profileSettings profile)
    removeConfigUnit env.faults env.undeletable profile c ctx.settings.systemd
  else pure ()

namespace World

variable (ctx : Ctx) (w : World)

/-- `prepare_regenerate` up to its flush. -/
def regeneratePrepare (r : RequestId) (c : ConfigId) : World :=
  match w.db.getActive c with
  | none => w.setRequest r none
  | some loaded =>
      if loaded.currentVersion = none || loaded.status.busy then w.setRequest r none
      else w.setRequest r (some (.regeneratePrepared c loaded))

/-- The flush of `prepare_regenerate`, `get_regenerate_context` and the commit
that publishes `pending`. -/
def regenerateCommit (env : RequestEnv) (r : RequestId) (c : ConfigId)
    (loaded : VpnConfigModel) : World :=
  if !w.lockFree c (.request r) then w
  else if env.committed.isSome then w.setRequest r none
  else
    match w.db.getActive c with
    | none => w.setRequest r none
    | some row =>
        match row.currentVersion with
        | none => w.setRequest r none
        | some v =>
            (w.mapDb fun db => db.updateConfig c (prepareRegenerate w.now loaded)).setRequest r
              (some (.publishing ⟨c, row.profile, row.name, v + 1⟩))

/-- `publish_task`. -/
def publishTask (env : RequestEnv) (r : RequestId) (p : Payload) : World :=
  match env.publish with
  | .accepted t =>
      if (w.tasks t).isSome then w
      else (w.setTask t { payload := p }).setRequest r (some (.published p.configId t))
  | .rejected => w.setRequest r none
  | .lost t => if (w.tasks t).isSome then w else (w.setTask t { payload := p }).setRequest r none

/-- `set_last_task_id` and the second commit. -/
def finishRequest (env : RequestEnv) (r : RequestId) (c : ConfigId) (t : TaskId) : World :=
  if !w.lockFree c (.request r) then w
  else if env.committed.isSome || (w.db.getActive c).isNone then w.setRequest r none
  else (w.mapDb fun db => db.updateConfig c (setLastTaskId w.now t)).setRequest r none

/-- A step of an edit. -/
def advanceEdit (env : RequestEnv) (r : RequestId) (stage : EditStage) : World :=
  if stage.takesLock && !w.lockFree stage.configId (.request r) then w
  else
    match editStep ctx env.toEditEnv w.now stage w.store with
    | .next stage' s =>
        ((w.setStore s).setRequest r (some (.editing stage'))).relock stage.configId (.request r)
          stage'.holdsLock
    | .done _ s =>
        ((w.setStore s).setRequest r none).relock stage.configId (.request r) false

/-- `remove_config_unit` of a delete. -/
def deleteUnitStep (env : RequestEnv) (r : RequestId) (c : ConfigId) (profile : ConfigProfile) :
    World :=
  match (deleteUnit ctx env c profile).exec w.host with
  | (.ok _, h) => (w.setHost h).setRequest r (some (.deleteSelecting c))
  | (.error _, h) => (w.setHost h).setRequest r none

/-- `soft_delete` up to its flush. -/
def deleteSelect (r : RequestId) (c : ConfigId) : World :=
  if (w.db.getActive c).isSome then w.setRequest r (some (.deleteCommitting c))
  else w.setRequest r none

/-- The commit of a delete. -/
def deleteCommit (env : RequestEnv) (r : RequestId) (c : ConfigId) : World :=
  if !w.lockFree c (.request r) then w
  else if env.committed.isSome then w.setRequest r none
  else (w.mapDb fun db => db.updateConfig c (softDelete w.now)).setRequest r none

/-- `update_regenerate_policy` up to its flush. -/
def policySelect (r : RequestId) (c : ConfigId) (policy : RegeneratePolicy) : World :=
  match w.db.getActive c with
  | none => w.setRequest r none
  | some loaded => w.setRequest r (some (.policySelected c policy loaded))

/-- The flush and the commit of a policy change. -/
def policyCommit (env : RequestEnv) (r : RequestId) (c : ConfigId) (policy : RegeneratePolicy)
    (loaded : VpnConfigModel) : World :=
  if !w.lockFree c (.request r) then w
  else if env.committed.isSome then w.setRequest r none
  else
    (w.mapDb fun db => db.updateConfig c (updateRegeneratePolicy w.now policy loaded)).setRequest r
      none

/-- The next step of a request. -/
def advance (env : RequestEnv) (r : RequestId) : World :=
  match w.requests r with
  | none => w
  | some (.regenerateChecked c) => w.regeneratePrepare r c
  | some (.regeneratePrepared c loaded) => w.regenerateCommit env r c loaded
  | some (.publishing p) => w.publishTask env r p
  | some (.published c t) => w.finishRequest env r c t
  | some (.editing stage) => w.advanceEdit ctx env r stage
  | some (.deleting c profile) => w.deleteUnitStep ctx env r c profile
  | some (.deleteSelecting c) => w.deleteSelect r c
  | some (.deleteCommitting c) => w.deleteCommit env r c
  | some (.policyRead c policy) => w.policySelect r c policy
  | some (.policySelected c policy loaded) => w.policyCommit env r c policy loaded

/-- `CreateConfigUseCase.execute` up to its first commit; `c` is the UUID the
row is given. -/
def create (r : RequestId) (c : ConfigId) (name : String) (protocol : VpnProtocolType)
    (profile : ConfigProfile) (policy : Option RegeneratePolicy) (sharePublicHost : Option String) :
    World :=
  match ctx.settings.profiles profile with
  | none => w
  | some ps =>
      if (w.requests r).isSome || (w.db.configs c).isSome then w
      else
        (w.mapDb fun db => db.setConfig c (createPending name protocol profile
          (policy.getD (RegeneratePolicy.forProfile profile (some ps))) sharePublicHost
          w.now)).setRequest r (some (.publishing ⟨c, profile, name, 1⟩))

/-- The first checks of `RegenerateConfigUseCase.execute`. -/
def regenerate (r : RequestId) (c : ConfigId) : World :=
  match w.requests r, w.db.getActive c with
  | none, some config =>
      if config.currentVersion = none || config.status.busy then w
      else w.setRequest r (some (.regenerateChecked c))
  | _, _ => w

/-- A new edit. -/
def edit (r : RequestId) (c : ConfigId) (submitted : Submission) : World :=
  if (w.requests r).isSome then w else w.setRequest r (some (.editing (.planning c submitted)))

/-- `get_by_id` of `DeleteConfigUseCase.execute`. -/
def delete (r : RequestId) (c : ConfigId) : World :=
  match w.requests r, w.db.getActive c with
  | none, some config => w.setRequest r (some (.deleting c config.profile))
  | _, _ => w

/-- `UpdateRegeneratePolicyUseCase.execute` up to the policy it stores. -/
def patchPolicy (r : RequestId) (c : ConfigId) (overrides : List (PolicyFlag × Bool)) : World :=
  match w.requests r, w.db.getActive c with
  | none, some config =>
      let base := RegeneratePolicy.fromStored config.regeneratePolicy config.profile
        (ctx.settings.profiles config.profile)
      w.setRequest r (some (.policyRead c (base.modelCopy overrides)))
  | _, _ => w

/-! ## the broker and the workers -/

/-- A worker pulls a task. -/
def deliver (e : ExecutionId) (t : TaskId) : World :=
  match w.executions e, w.tasks t with
  | none, some task =>
      if task.finished then w
      else w.setExecution e (some ⟨t, task.payload, .start⟩)
  | _, _ => w

/-- A worker reports the end of an execution. -/
def report (t : TaskId) : World :=
  match w.tasks t with
  | some task => w.setTask t { task with executed := true }
  | none => w

@[simp] theorem report_db (t : TaskId) : (w.report t).db = w.db := by
  unfold report
  split <;> rfl

@[simp] theorem report_host (t : TaskId) : (w.report t).host = w.host := by
  unfold report
  split <;> rfl

@[simp] theorem report_requests (t : TaskId) : (w.report t).requests = w.requests := by
  unfold report
  split <;> rfl

@[simp] theorem report_executions (t : TaskId) : (w.report t).executions = w.executions := by
  unfold report
  split <;> rfl

@[simp] theorem report_locks (t : TaskId) : (w.report t).locks = w.locks := by
  unfold report
  split <;> rfl

@[simp] theorem report_now (t : TaskId) : (w.report t).now = w.now := by
  unfold report
  split <;> rfl

@[simp] theorem report_tasks (t t' : TaskId) :
    (w.report t).tasks t' =
      if t' = t then (w.tasks t).map fun task => { task with executed := true }
      else w.tasks t' := by
  unfold report
  split <;> rename_i h <;> by_cases ht : t' = t <;> simp [h, ht]

/-- The next step of an execution. -/
def work (env : TaskEnv) (e : ExecutionId) : World :=
  match w.executions e with
  | none => w
  | some x =>
      if x.stage.takesLock && !w.lockFree x.payload.configId (.execution e) then w
      else
        match taskStep ctx env w.now x.payload x.stage w.store with
        | .next stage s =>
            ((w.setStore s).setExecution e (some { x with stage := stage })).relock
              x.payload.configId (.execution e) stage.holdsLock
        | .done _ s =>
            (((w.setStore s).setExecution e none).relock x.payload.configId (.execution e)
              false).report x.task

/-- The worker process dies: its session is rolled back. -/
def crash (e : ExecutionId) : World :=
  match w.executions e with
  | none => w
  | some x => (w.setExecution e none).relock x.payload.configId (.execution e) false

/-- The broker is done with a task. -/
def finish (t : TaskId) : World :=
  match w.tasks t with
  | some task => if task.executed then w.setTask t { task with finished := true } else w
  | none => w

end World

/-- What can happen. -/
inductive Action where
  | create (r : RequestId) (c : ConfigId) (name : String) (protocol : VpnProtocolType)
      (profile : ConfigProfile) (policy : Option RegeneratePolicy)
      (sharePublicHost : Option String)
  | regenerate (r : RequestId) (c : ConfigId)
  | edit (r : RequestId) (c : ConfigId) (submitted : Submission)
  | delete (r : RequestId) (c : ConfigId)
  | patchPolicy (r : RequestId) (c : ConfigId) (overrides : List (PolicyFlag × Bool))
  | advance (r : RequestId) (env : RequestEnv)
  | deliver (e : ExecutionId) (t : TaskId)
  | work (e : ExecutionId) (env : TaskEnv)
  | crash (e : ExecutionId)
  | finish (t : TaskId)
  | tick

/-- One step of the system. -/
def step (ctx : Ctx) (w : World) : Action → World
  | .create r c name protocol profile policy sharePublicHost =>
      w.create ctx r c name protocol profile policy sharePublicHost
  | .regenerate r c => w.regenerate r c
  | .edit r c submitted => w.edit r c submitted
  | .delete r c => w.delete r c
  | .patchPolicy r c overrides => w.patchPolicy ctx r c overrides
  | .advance r env => w.advance ctx env r
  | .deliver e t => w.deliver e t
  | .work e env => w.work ctx env e
  | .crash e => w.crash e
  | .finish t => w.finish t
  | .tick => { w with now := w.now + 1 }

/-- The settings of the profile of `Ctx.sample`. -/
def sampleProfile : VpnProfileSettings :=
  { serviceName := "xray", configFilename := "config.json", inboundTag := "vless" }

/-- An installation with one profile, to run examples on. -/
def Ctx.sample : Ctx where
  settings := {
    systemd := { perConfig := true }
    profiles := fun
      | .xrayXhttp => some sampleProfile
      | _ => none }
  encryptor := FieldEncryptor.sample
  sha256Hex _ := ""

/-- A document for it, with an inbound on `port`. -/
def sampleConfigData (port : Int) : PyVal :=
  .dict [("inbounds", .list [.dict [("tag", .str "vless"), ("port", .int port)]])]

/-- A build that returns such a document. -/
def sampleBuild (port : Int) : TaskEnv where
  built := .ok
    { configData := sampleConfigData port, port := port, privateKey := "", publicKey := "" }

/-- A build whose template is missing. -/
def failingBuild : TaskEnv where
  built := .error ⟨.osError, "Template not found: config.json"⟩

/-- Config 0 is created, its first version built and the task finished. -/
def firstVersion : List Action :=
  [.create 0 0 "c" .xray .xrayXhttp none none, .advance 0 { publish := .accepted 0 },
    .advance 0 {}, .deliver 0 0] ++ List.replicate 8 (.work 0 (sampleBuild 443)) ++ [.finish 0]

/-- A run from an installation without configs. -/
abbrev runFrom (ctx : Ctx) (host : Host) (as : List Action) : World :=
  Machine.run (step ctx) (World.init host) as

/-- The sample installation after the first version of config 0. -/
def firstStore : Store := (runFrom Ctx.sample Host.blank firstVersion).store

end VpnPanel
