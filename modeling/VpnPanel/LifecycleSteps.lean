import VpnPanel.Lifecycle

/-!
# VpnPanel.LifecycleSteps

What one step of the system can do, said once: `Step` has a constructor for
each way an action changes the world, with its guards and the world it leads
to, and `step_cases` shows that `step` does nothing else.  `TaskMove` and
`TaskEnd`, `EditMove` and `EditEnd` are the same for the steps of an execution
and of an edit.
-/

namespace VpnPanel

open Process (Result)

/-! ## executions -/

/-- A step after which an execution goes on. -/
inductive TaskMove (ctx : Ctx) (env : TaskEnv) (p : Payload) (s : Store) :
    TaskStage → TaskStage → Store → Prop where
  | stored (h : s.db.hasVersion p.configId p.targetVersion = true) :
      TaskMove ctx env p s .start .loading s
  | absent (h : s.db.hasVersion p.configId p.targetVersion = false) :
      TaskMove ctx env p s .start .processing s
  | load (loaded : VpnConfigModel) (h : s.db.configs p.configId = some loaded) :
      TaskMove ctx env p s .loading (.marking loaded) s
  | lock (row : VpnConfigModel) (h : s.db.configs p.configId = some row) :
      TaskMove ctx env p s .processing .preparing s
  | prepare (h' : Host) (h : (prepareBuild ctx env p).exec s.host = (.ok (), h')) :
      TaskMove ctx env p s .preparing .building ⟨s.db, h'⟩
  | prepareFail (h' : Host) (e : PyErr)
      (h : (prepareBuild ctx env p).exec s.host = (.error e, h')) :
      TaskMove ctx env p s .preparing (.failing e) ⟨s.db, h'⟩
  | build (h' : Host) (result : BuildResult)
      (h : (buildDocuments ctx env p).exec s.host = (.ok result, h')) :
      TaskMove ctx env p s .building (.restarting result) ⟨s.db, h'⟩
  | buildFail (h' : Host) (e : PyErr)
      (h : (buildDocuments ctx env p).exec s.host = (.error e, h')) :
      TaskMove ctx env p s .building (.failing e) ⟨s.db, h'⟩
  | restart (h' : Host) (result : BuildResult)
      (h : (restartService ctx.settings env.faults p.profile p.configId p.name).exec s.host =
        (.ok (), h')) :
      TaskMove ctx env p s (.restarting result) (.syncing result) ⟨s.db, h'⟩
  | restartFail (h' : Host) (e : PyErr) (result : BuildResult)
      (h : (restartService ctx.settings env.faults p.profile p.configId p.name).exec s.host =
        (.error e, h')) :
      TaskMove ctx env p s (.restarting result) (.failing e) ⟨s.db, h'⟩
  | sync (h' : Host) (result : BuildResult)
      (h : (syncMux ctx.settings env.faults p.profile result.configData).exec s.host =
        (.ok (), h')) :
      TaskMove ctx env p s (.syncing result) (.inserting result) ⟨s.db, h'⟩
  | syncFail (h' : Host) (e : PyErr) (result : BuildResult)
      (h : (syncMux ctx.settings env.faults p.profile result.configData).exec s.host =
        (.error e, h')) :
      TaskMove ctx env p s (.syncing result) (.failing e) ⟨s.db, h'⟩
  | insert (result : BuildResult) (row : VpnConfigVersionModel)
      (h : insertVersion ctx env p result s.db = .ok row) :
      TaskMove ctx env p s (.inserting result) (.committing row) s
  | insertFail (result : BuildResult) (e : PyErr)
      (h : insertVersion ctx env p result s.db = .error e) :
      TaskMove ctx env p s (.inserting result) (.failing e) s
  | missing (stage : TaskStage) (hstage : stage = .loading ∨ stage = .processing)
      (h : s.db.configs p.configId = none) :
      TaskMove ctx env p s stage (.failing (configNotFound p.configId)) s
  | rollback (stage : TaskStage) (e : PyErr)
      (hstage : (∃ loaded, stage = .marking loaded) ∨ ∃ row, stage = .committing row)
      (h : env.committed = some e) : TaskMove ctx env p s stage (.failing e) s
  | failLoad (exc : PyErr) (loaded : VpnConfigModel)
      (h : s.db.configs p.configId = some loaded) :
      TaskMove ctx env p s (.failing exc) (.markingFailed exc loaded) s

/-- A step that ends an execution. -/
inductive TaskEnd (env : TaskEnv) (now : Nat) (p : Payload) (s : Store) :
    TaskStage → Except PyErr Unit → Store → Prop where
  | marked (loaded : VpnConfigModel) (h : env.committed = none) :
      TaskEnd env now p s (.marking loaded) (.ok ())
        (s.mapDb fun db => db.updateConfig p.configId (markActive now p.targetVersion loaded))
  | built (row : VpnConfigVersionModel) (h : env.committed = none) :
      TaskEnd env now p s (.committing row) (.ok ()) (s.mapDb (commitBuild now p row))
  | failed (exc : PyErr) (loaded : VpnConfigModel) :
      TaskEnd env now p s (.markingFailed exc loaded) (.error exc)
        (s.mapDb fun db => db.updateConfig p.configId (markFailed now exc.msg loaded))
  | lost (exc : PyErr) (h : s.db.configs p.configId = none) :
      TaskEnd env now p s (.failing exc) (.error (configNotFound p.configId)) s

section Tasks

variable {ctx : Ctx} {env : TaskEnv} {now : Nat} {p : Payload} {stage stage' : TaskStage}
  {s s' : Store}

theorem hostStep_next {α : Type} {x : HostM α} {next : α → TaskStage}
    (h : hostStep x s next = .next stage' s') :
    (∃ a, x.exec s.host = (.ok a, s'.host) ∧ stage' = next a ∧ s'.db = s.db) ∨
      ∃ e, x.exec s.host = (.error e, s'.host) ∧ stage' = .failing e ∧ s'.db = s.db := by
  unfold hostStep at h
  split at h
  · next a h' hx =>
    obtain ⟨rfl, rfl⟩ : next a = stage' ∧ (⟨s.db, h'⟩ : Store) = s' := by simpa using h
    exact Or.inl ⟨a, hx, rfl, rfl⟩
  · next e h' hx =>
    obtain ⟨rfl, rfl⟩ : TaskStage.failing e = stage' ∧ (⟨s.db, h'⟩ : Store) = s' := by
      simpa using h
    exact Or.inr ⟨e, hx, rfl, rfl⟩

theorem hostStep_not_done {α : Type} {x : HostM α} {next : α → TaskStage}
    {out : Except PyErr Unit} : hostStep x s next ≠ .done out s' := by
  unfold hostStep
  split <;> simp

/-- **Every step after which an execution goes on is a `TaskMove`.** -/
theorem taskMove_of_next (h : taskStep ctx env now p stage s = .next stage' s') :
    TaskMove ctx env p s stage stage' s' := by
  obtain ⟨db', host'⟩ := s'
  cases stage with
  | start =>
      simp only [taskStep] at h
      split at h
      · next hver =>
        cases h
        exact .stored hver
      · next hver =>
        cases h
        exact .absent (by simpa using hver)
  | loading =>
      simp only [taskStep] at h
      split at h
      · next loaded hmodel =>
        cases h
        exact .load loaded hmodel
      · next hmodel =>
        cases h
        exact .missing _ (Or.inl rfl) hmodel
  | marking loaded =>
      simp only [taskStep] at h
      split at h
      · next e hcom =>
        cases h
        exact .rollback _ e (Or.inl ⟨loaded, rfl⟩) hcom
      · cases h
  | processing =>
      simp only [taskStep] at h
      split at h
      · next row hmodel =>
        cases h
        exact .lock row hmodel
      · next hmodel =>
        cases h
        exact .missing _ (Or.inr rfl) hmodel
  | preparing =>
      obtain ⟨a, hx, rfl, rfl⟩ | ⟨e, hx, rfl, rfl⟩ := hostStep_next h
      · exact .prepare _ hx
      · exact .prepareFail _ e hx
  | building =>
      obtain ⟨a, hx, rfl, rfl⟩ | ⟨e, hx, rfl, rfl⟩ := hostStep_next h
      · exact .build _ a hx
      · exact .buildFail _ e hx
  | restarting result =>
      obtain ⟨a, hx, rfl, rfl⟩ | ⟨e, hx, rfl, rfl⟩ := hostStep_next h
      · exact .restart _ result hx
      · exact .restartFail _ e result hx
  | syncing result =>
      obtain ⟨a, hx, rfl, rfl⟩ | ⟨e, hx, rfl, rfl⟩ := hostStep_next h
      · exact .sync _ result hx
      · exact .syncFail _ e result hx
  | inserting result =>
      simp only [taskStep] at h
      split at h
      · next row hins =>
        cases h
        exact .insert result row hins
      · next e hins =>
        cases h
        exact .insertFail result e hins
  | committing row =>
      simp only [taskStep] at h
      split at h
      · next e hcom =>
        cases h
        exact .rollback _ e (Or.inr ⟨row, rfl⟩) hcom
      · cases h
  | failing exc =>
      simp only [taskStep] at h
      split at h
      · next loaded hmodel =>
        cases h
        exact .failLoad exc loaded hmodel
      · cases h
  | markingFailed exc loaded =>
      simp only [taskStep] at h
      cases h

/-- **Every step that ends an execution is a `TaskEnd`.** -/
theorem taskEnd_of_done {out : Except PyErr Unit}
    (h : taskStep ctx env now p stage s = .done out s') : TaskEnd env now p s stage out s' := by
  cases stage with
  | start =>
      simp only [taskStep] at h
      split at h <;> cases h
  | loading | processing =>
      simp only [taskStep] at h
      split at h <;> cases h
  | marking loaded =>
      simp only [taskStep] at h
      split at h
      · cases h
      · next hcom =>
        cases h
        exact .marked loaded hcom
  | preparing | building | restarting _ | syncing _ => exact absurd h hostStep_not_done
  | inserting result =>
      simp only [taskStep] at h
      split at h <;> cases h
  | committing row =>
      simp only [taskStep] at h
      split at h
      · cases h
      · next hcom =>
        cases h
        exact .built row hcom
  | failing exc =>
      simp only [taskStep] at h
      split at h
      · cases h
      · next hmodel =>
        cases h
        exact .lost exc hmodel
  | markingFailed exc loaded =>
      simp only [taskStep] at h
      cases h
      exact .failed exc loaded

/-- No step but the last commits anything. -/
theorem TaskMove.db_eq (h : TaskMove ctx env p s stage stage' s') : s'.db = s.db := by
  cases h <;> rfl

/-- The last step does nothing to the machine. -/
theorem TaskEnd.host_eq {out : Except PyErr Unit} (h : TaskEnd env now p s stage out s') :
    s'.host = s.host := by
  cases h <;> rfl

end Tasks

/-! ## edits -/

/-- A step after which an edit goes on. -/
inductive EditMove (ctx : Ctx) (env : EditEnv) (s : Store) :
    EditStage → EditStage → Store → Prop where
  | plan (c : ConfigId) (submitted : Submission) (draft : EditDraft)
      (h : planEdit ctx env s.db c submitted = .ok draft) :
      EditMove ctx env s (.planning c submitted) (.selecting draft) s
  | select (draft : EditDraft) (loaded : VpnConfigVersionModel)
      (h : selectVersion s.db draft.configId draft.version = .ok loaded) :
      EditMove ctx env s (.selecting draft) (.flushing draft loaded) s
  | flush (draft : EditDraft) (loaded : VpnConfigVersionModel) (plan : EditPlan)
      (h : draft.flush loaded = .ok plan) :
      EditMove ctx env s (.flushing draft loaded) (.writing plan loaded) s
  | write (plan : EditPlan) (loaded : VpnConfigVersionModel) (h' : Host) (doc : PyVal)
      (h : (writeDocuments ctx.settings env.faults env.timestamp plan.profile plan.configId
        plan.result).exec s.host = (.ok doc, h')) :
      EditMove ctx env s (.writing plan loaded) (.restarting plan loaded) ⟨s.db, h'⟩
  | restart (plan : EditPlan) (loaded : VpnConfigVersionModel) (h' : Host)
      (h : (restartService ctx.settings env.faults plan.profile plan.configId plan.name).exec
        s.host = (.ok (), h')) :
      EditMove ctx env s (.restarting plan loaded) (.syncing plan loaded) ⟨s.db, h'⟩
  | sync (plan : EditPlan) (loaded : VpnConfigVersionModel) (h' : Host)
      (h : (syncMux ctx.settings env.faults plan.profile plan.parsed).exec s.host =
        (.ok (), h')) :
      EditMove ctx env s (.syncing plan loaded) (.answering plan loaded) ⟨s.db, h'⟩
  | answer (plan : EditPlan) (loaded : VpnConfigVersionModel) (h : env.answered = none) :
      EditMove ctx env s (.answering plan loaded) (.committing plan loaded) s

/-- A step that ends an edit: its commit, or an exception. -/
inductive EditEnd (ctx : Ctx) (env : EditEnv) (now : Nat) (s : Store) :
    EditStage → Except PyErr Unit → Store → Prop where
  | committed (plan : EditPlan) (loaded : VpnConfigVersionModel) (h : env.committed = none) :
      EditEnd ctx env now s (.committing plan loaded) (.ok ())
        (s.mapDb (commitEdit now plan loaded))
  | planFail (c : ConfigId) (submitted : Submission) (e : PyErr)
      (h : planEdit ctx env s.db c submitted = .error e) :
      EditEnd ctx env now s (.planning c submitted) (.error e) s
  | selectFail (draft : EditDraft) (e : PyErr)
      (h : selectVersion s.db draft.configId draft.version = .error e) :
      EditEnd ctx env now s (.selecting draft) (.error e) s
  | flushFail (draft : EditDraft) (loaded : VpnConfigVersionModel) (e : PyErr)
      (h : draft.flush loaded = .error e) :
      EditEnd ctx env now s (.flushing draft loaded) (.error e) s
  | writeFail (plan : EditPlan) (loaded : VpnConfigVersionModel) (h' : Host) (e : PyErr)
      (h : (writeDocuments ctx.settings env.faults env.timestamp plan.profile plan.configId
        plan.result).exec s.host = (.error e, h')) :
      EditEnd ctx env now s (.writing plan loaded) (.error e) ⟨s.db, h'⟩
  | restartFail (plan : EditPlan) (loaded : VpnConfigVersionModel) (h' : Host) (e : PyErr)
      (h : (restartService ctx.settings env.faults plan.profile plan.configId plan.name).exec
        s.host = (.error e, h')) :
      EditEnd ctx env now s (.restarting plan loaded) (.error e) ⟨s.db, h'⟩
  | syncFail (plan : EditPlan) (loaded : VpnConfigVersionModel) (h' : Host) (e : PyErr)
      (h : (syncMux ctx.settings env.faults plan.profile plan.parsed).exec s.host =
        (.error e, h')) :
      EditEnd ctx env now s (.syncing plan loaded) (.error e) ⟨s.db, h'⟩
  | answerFail (plan : EditPlan) (loaded : VpnConfigVersionModel) (e : PyErr)
      (h : env.answered = some e) :
      EditEnd ctx env now s (.answering plan loaded) (.error e) s
  | commitFail (plan : EditPlan) (loaded : VpnConfigVersionModel) (e : PyErr)
      (h : env.committed = some e) :
      EditEnd ctx env now s (.committing plan loaded) (.error e) s

section Edits

variable {ctx : Ctx} {env : EditEnv} {now : Nat} {stage stage' : EditStage} {s s' : Store}

theorem editHostStep_next {α : Type} {x : HostM α} {next : EditStage}
    (h : editHostStep x s next = .next stage' s') :
    ∃ a, x.exec s.host = (.ok a, s'.host) ∧ stage' = next ∧ s'.db = s.db := by
  unfold editHostStep at h
  split at h
  · next a h' hx =>
    obtain ⟨rfl, rfl⟩ : next = stage' ∧ (⟨s.db, h'⟩ : Store) = s' := by simpa using h
    exact ⟨a, hx, rfl, rfl⟩
  · cases h

theorem editHostStep_done {α : Type} {x : HostM α} {next : EditStage} {out : Except PyErr Unit}
    (h : editHostStep x s next = .done out s') :
    ∃ e, x.exec s.host = (.error e, s'.host) ∧ out = .error e ∧ s'.db = s.db := by
  unfold editHostStep at h
  split at h
  · cases h
  · next e h' hx =>
    obtain ⟨rfl, rfl⟩ : Except.error e = out ∧ (⟨s.db, h'⟩ : Store) = s' := by simpa using h
    exact ⟨e, hx, rfl, rfl⟩

/-- **Every step after which an edit goes on is an `EditMove`.** -/
theorem editMove_of_next (h : editStep ctx env now stage s = .next stage' s') :
    EditMove ctx env s stage stage' s' := by
  obtain ⟨db', host'⟩ := s'
  cases stage with
  | planning c submitted =>
      simp only [editStep] at h
      split at h
      · next draft hplan =>
        cases h
        exact .plan c submitted draft hplan
      · cases h
  | selecting draft =>
      simp only [editStep] at h
      split at h
      · next loaded hsel =>
        cases h
        exact .select draft loaded hsel
      · cases h
  | flushing draft loaded =>
      simp only [editStep] at h
      split at h
      · next plan hflush =>
        cases h
        exact .flush draft loaded plan hflush
      · cases h
  | writing plan loaded =>
      obtain ⟨doc, hx, rfl, rfl⟩ := editHostStep_next h
      exact .write plan loaded _ doc hx
  | restarting plan loaded =>
      obtain ⟨_, hx, rfl, rfl⟩ := editHostStep_next h
      exact .restart plan loaded _ hx
  | syncing plan loaded =>
      obtain ⟨_, hx, rfl, rfl⟩ := editHostStep_next h
      exact .sync plan loaded _ hx
  | answering plan loaded =>
      simp only [editStep] at h
      split at h
      · cases h
      · next hans =>
        cases h
        exact .answer plan loaded hans
  | committing plan loaded =>
      simp only [editStep] at h
      split at h <;> cases h

/-- **Every step that ends an edit is an `EditEnd`.** -/
theorem editEnd_of_done {out : Except PyErr Unit}
    (h : editStep ctx env now stage s = .done out s') : EditEnd ctx env now s stage out s' := by
  obtain ⟨db', host'⟩ := s'
  cases stage with
  | planning c submitted =>
      simp only [editStep] at h
      split at h
      · cases h
      · next e hplan =>
        cases h
        exact .planFail c submitted e hplan
  | selecting draft =>
      simp only [editStep] at h
      split at h
      · cases h
      · next e hsel =>
        cases h
        exact .selectFail draft e hsel
  | flushing draft loaded =>
      simp only [editStep] at h
      split at h
      · cases h
      · next e hflush =>
        cases h
        exact .flushFail draft loaded e hflush
  | writing plan loaded =>
      obtain ⟨e, hx, rfl, rfl⟩ := editHostStep_done h
      exact .writeFail plan loaded _ e hx
  | restarting plan loaded =>
      obtain ⟨e, hx, rfl, rfl⟩ := editHostStep_done h
      exact .restartFail plan loaded _ e hx
  | syncing plan loaded =>
      obtain ⟨e, hx, rfl, rfl⟩ := editHostStep_done h
      exact .syncFail plan loaded _ e hx
  | answering plan loaded =>
      simp only [editStep] at h
      split at h
      · next e hans =>
        cases h
        exact .answerFail plan loaded e hans
      · cases h
  | committing plan loaded =>
      simp only [editStep] at h
      split at h
      · next e hcom =>
        cases h
        exact .commitFail plan loaded e hcom
      · next hcom =>
        cases h
        exact .committed plan loaded hcom

/-- No step but the commit changes the tables. -/
theorem EditMove.db_eq (h : EditMove ctx env s stage stage' s') : s'.db = s.db := by
  cases h <;> rfl

/-- An edit stays with its config. -/
theorem EditMove.configId_eq (h : EditMove ctx env s stage stage' s') :
    stage'.configId = stage.configId := by
  cases h with
  | plan c submitted draft hplan => exact planEdit_configId hplan
  | flush draft loaded plan hflush =>
      obtain ⟨rfl, -⟩ := EditDraft.flush_spec hflush
      rfl
  | _ => rfl

end Edits

/-! ## the system -/

/-- The request an action is about. -/
def Action.request : Action → Option RequestId
  | .create r _ _ _ _ _ _ | .regenerate r _ | .edit r _ _ | .delete r _ | .patchPolicy r _ _
  | .advance r _ => some r
  | _ => none

/-- The task an action may publish. -/
def Action.publishes : Action → Option TaskId
  | .advance _ env =>
      match env.publish with
      | .accepted t | .lost t => some t
      | .rejected => none
  | _ => none

/-- The execution an action is about. -/
def Action.executes : Action → Option ExecutionId
  | .deliver e _ | .work e _ | .crash e => some e
  | _ => none

/-- What an action does to the world when it does anything. -/
inductive Step (ctx : Ctx) (w : World) : Action → World → Prop where
  | create (r : RequestId) (c : ConfigId) (name : String) (protocol : VpnProtocolType)
      (profile : ConfigProfile) (policy : Option RegeneratePolicy)
      (sharePublicHost : Option String) (ps : VpnProfileSettings)
      (hprofile : ctx.settings.profiles profile = some ps)
      (hr : w.requests r = none) (hc : w.db.configs c = none) :
      Step ctx w (.create r c name protocol profile policy sharePublicHost)
        ((w.mapDb fun db => db.setConfig c (createPending name protocol profile
          (policy.getD (RegeneratePolicy.forProfile profile (some ps))) sharePublicHost
          w.now)).setRequest r (some (.publishing ⟨c, profile, name, 1⟩)))
  | regenerate (r : RequestId) (c : ConfigId) (config : VpnConfigModel)
      (hr : w.requests r = none) (hc : w.db.getActive c = some config)
      (hcur : config.currentVersion ≠ none) (hbusy : config.status.busy = false) :
      Step ctx w (.regenerate r c) (w.setRequest r (some (.regenerateChecked c)))
  | edit (r : RequestId) (c : ConfigId) (submitted : Submission) (hr : w.requests r = none) :
      Step ctx w (.edit r c submitted) (w.setRequest r (some (.editing (.planning c submitted))))
  | delete (r : RequestId) (c : ConfigId) (config : VpnConfigModel)
      (hr : w.requests r = none) (hc : w.db.getActive c = some config) :
      Step ctx w (.delete r c) (w.setRequest r (some (.deleting c config.profile)))
  /-- A request ends without an effect; at publishing because the broker did not
  store the task. -/
  | drop (r : RequestId) (env : RequestEnv) (stage : RequestStage)
      (hr : w.requests r = some stage) (hedit : ∀ st, stage ≠ .editing st)
      (hpub : ∀ p, stage = .publishing p → env.publish = .rejected) :
      Step ctx w (.advance r env) (w.setRequest r none)
  | regeneratePrepare (r : RequestId) (env : RequestEnv) (c : ConfigId) (loaded : VpnConfigModel)
      (hr : w.requests r = some (.regenerateChecked c)) (hc : w.db.getActive c = some loaded)
      (hcur : loaded.currentVersion ≠ none) (hbusy : loaded.status.busy = false) :
      Step ctx w (.advance r env) (w.setRequest r (some (.regeneratePrepared c loaded)))
  | regenerateCommit (r : RequestId) (env : RequestEnv) (c : ConfigId)
      (loaded row : VpnConfigModel) (v : Nat)
      (hr : w.requests r = some (.regeneratePrepared c loaded))
      (hlock : w.lockFree c (.request r) = true) (hc : w.db.getActive c = some row)
      (hcur : row.currentVersion = some v) :
      Step ctx w (.advance r env)
        ((w.mapDb fun db => db.updateConfig c (prepareRegenerate w.now loaded)).setRequest r
          (some (.publishing ⟨c, row.profile, row.name, v + 1⟩)))
  /-- The task is stored; the request goes on, or has lost the answer. -/
  | publish (r : RequestId) (env : RequestEnv) (p : Payload) (t : TaskId)
      (stage : Option RequestStage) (hr : w.requests r = some (.publishing p))
      (ht : w.tasks t = none)
      (hstage : (env.publish = .accepted t ∧ stage = some (.published p.configId t)) ∨
        (env.publish = .lost t ∧ stage = none)) :
      Step ctx w (.advance r env) ((w.setTask t { payload := p }).setRequest r stage)
  | finishRequest (r : RequestId) (env : RequestEnv) (c : ConfigId) (t : TaskId)
      (hr : w.requests r = some (.published c t)) (hlock : w.lockFree c (.request r) = true) :
      Step ctx w (.advance r env)
        ((w.mapDb fun db => db.updateConfig c (setLastTaskId w.now t)).setRequest r none)
  | editNext (r : RequestId) (env : RequestEnv) (stage stage' : EditStage) (s : Store)
      (hr : w.requests r = some (.editing stage))
      (hlock : stage.takesLock = true → w.lockFree stage.configId (.request r) = true)
      (hmove : EditMove ctx env.toEditEnv w.store stage stage' s) :
      Step ctx w (.advance r env)
        (((w.setStore s).setRequest r (some (.editing stage'))).relock stage.configId
          (.request r) stage'.holdsLock)
  | editDone (r : RequestId) (env : RequestEnv) (stage : EditStage) (s : Store)
      (out : Except PyErr Unit) (hr : w.requests r = some (.editing stage))
      (hend : EditEnd ctx env.toEditEnv w.now w.store stage out s) :
      Step ctx w (.advance r env)
        (((w.setStore s).setRequest r none).relock stage.configId (.request r) false)
  | deleteUnit (r : RequestId) (env : RequestEnv) (c : ConfigId) (profile : ConfigProfile)
      (h : Host) (out : Except PyErr Unit) (stage : Option RequestStage)
      (hr : w.requests r = some (.deleting c profile))
      (hx : (VpnPanel.deleteUnit ctx env c profile).exec w.host = (out, h))
      (hstage : stage = some (.deleteSelecting c) ∨ stage = none) :
      Step ctx w (.advance r env) ((w.setHost h).setRequest r stage)
  | deleteSelect (r : RequestId) (env : RequestEnv) (c : ConfigId) (row : VpnConfigModel)
      (hr : w.requests r = some (.deleteSelecting c)) (hc : w.db.getActive c = some row) :
      Step ctx w (.advance r env) (w.setRequest r (some (.deleteCommitting c)))
  | deleteCommit (r : RequestId) (env : RequestEnv) (c : ConfigId)
      (hr : w.requests r = some (.deleteCommitting c))
      (hlock : w.lockFree c (.request r) = true) (hcom : env.committed = none) :
      Step ctx w (.advance r env)
        ((w.mapDb fun db => db.updateConfig c (softDelete w.now)).setRequest r none)
  | patchPolicy (r : RequestId) (c : ConfigId) (overrides : List (PolicyFlag × Bool))
      (config : VpnConfigModel) (policy : RegeneratePolicy)
      (hr : w.requests r = none) (hc : w.db.getActive c = some config) :
      Step ctx w (.patchPolicy r c overrides) (w.setRequest r (some (.policyRead c policy)))
  | policySelect (r : RequestId) (env : RequestEnv) (c : ConfigId) (policy : RegeneratePolicy)
      (loaded : VpnConfigModel)
      (hr : w.requests r = some (.policyRead c policy)) (hc : w.db.getActive c = some loaded) :
      Step ctx w (.advance r env) (w.setRequest r (some (.policySelected c policy loaded)))
  | policyCommit (r : RequestId) (env : RequestEnv) (c : ConfigId) (policy : RegeneratePolicy)
      (loaded : VpnConfigModel) (hr : w.requests r = some (.policySelected c policy loaded))
      (hlock : w.lockFree c (.request r) = true) (hcom : env.committed = none) :
      Step ctx w (.advance r env)
        ((w.mapDb fun db =>
          db.updateConfig c (updateRegeneratePolicy w.now policy loaded)).setRequest r none)
  | deliver (e : ExecutionId) (t : TaskId) (task : Task) (he : w.executions e = none)
      (ht : w.tasks t = some task) (hfin : task.finished = false) :
      Step ctx w (.deliver e t) (w.setExecution e (some ⟨t, task.payload, .start⟩))
  | taskNext (e : ExecutionId) (env : TaskEnv) (x : Execution) (stage : TaskStage) (s : Store)
      (he : w.executions e = some x)
      (hlock : x.stage.takesLock = true → w.lockFree x.payload.configId (.execution e) = true)
      (hmove : TaskMove ctx env x.payload w.store x.stage stage s) :
      Step ctx w (.work e env)
        (((w.setStore s).setExecution e (some { x with stage := stage })).relock
          x.payload.configId (.execution e) stage.holdsLock)
  | taskDone (e : ExecutionId) (env : TaskEnv) (x : Execution) (out : Except PyErr Unit)
      (s : Store) (he : w.executions e = some x)
      (hlock : x.stage.takesLock = true → w.lockFree x.payload.configId (.execution e) = true)
      (hend : TaskEnd env w.now x.payload w.store x.stage out s) :
      Step ctx w (.work e env)
        ((((w.setStore s).setExecution e none).relock x.payload.configId (.execution e)
          false).report x.task)
  | crash (e : ExecutionId) (x : Execution) (he : w.executions e = some x) :
      Step ctx w (.crash e)
        ((w.setExecution e none).relock x.payload.configId (.execution e) false)
  | finish (t : TaskId) (task : Task) (ht : w.tasks t = some task) (hex : task.executed = true) :
      Step ctx w (.finish t) (w.setTask t { task with finished := true })
  | tick : Step ctx w .tick { w with now := w.now + 1 }

section System

variable {ctx : Ctx} {w : World}

theorem step_advance_cases (r : RequestId) (env : RequestEnv) :
    step ctx w (.advance r env) = w ∨
      Step ctx w (.advance r env) (step ctx w (.advance r env)) := by
  simp only [step, World.advance]
  cases hr : w.requests r with
  | none => exact Or.inl rfl
  | some stage =>
      cases stage with
      | regenerateChecked c =>
          simp only [World.regeneratePrepare]
          split
          · exact Or.inr (.drop r env _ hr (by simp) (by simp))
          · next loaded hc =>
            split
            · exact Or.inr (.drop r env _ hr (by simp) (by simp))
            · next hno =>
              simp only [Bool.or_eq_true, decide_eq_true_eq, not_or, Bool.not_eq_true] at hno
              exact Or.inr (.regeneratePrepare r env c loaded hr hc hno.1 hno.2)
      | regeneratePrepared c loaded =>
          simp only [World.regenerateCommit]
          split
          · exact Or.inl rfl
          · next hlock =>
            split
            · exact Or.inr (.drop r env _ hr (by simp) (by simp))
            · split
              · exact Or.inr (.drop r env _ hr (by simp) (by simp))
              · next row hc =>
                split
                · exact Or.inr (.drop r env _ hr (by simp) (by simp))
                · next v hcur =>
                  exact Or.inr (.regenerateCommit r env c loaded row v hr (by simpa using hlock)
                    hc hcur)
      | publishing p =>
          simp only [World.publishTask]
          split
          · next t hpub =>
            split
            · exact Or.inl rfl
            · next ht =>
              exact Or.inr (.publish r env p t _ hr (by simpa using ht) (Or.inl ⟨hpub, rfl⟩))
          · next hpub => exact Or.inr (.drop r env _ hr (by simp) fun _ _ => hpub)
          · next t hpub =>
            split
            · exact Or.inl rfl
            · next ht =>
              exact Or.inr (.publish r env p t _ hr (by simpa using ht) (Or.inr ⟨hpub, rfl⟩))
      | published c t =>
          simp only [World.finishRequest]
          split
          · exact Or.inl rfl
          · next hlock =>
            split
            · exact Or.inr (.drop r env _ hr (by simp) (by simp))
            · exact Or.inr (.finishRequest r env c t hr (by simpa using hlock))
      | editing stage =>
          simp only [World.advanceEdit]
          split
          · exact Or.inl rfl
          · next hlock =>
            have hfree (ht : stage.takesLock = true) :
                w.lockFree stage.configId (.request r) = true := by simpa [ht] using hlock
            split
            · next stage' s hstep =>
              exact Or.inr (.editNext r env stage stage' s hr hfree (editMove_of_next hstep))
            · next out s hstep =>
              exact Or.inr (.editDone r env stage s out hr (editEnd_of_done hstep))
      | deleting c profile =>
          simp only [World.deleteUnitStep]
          split
          · next u h hx => exact Or.inr (.deleteUnit r env c profile h _ _ hr hx (Or.inl rfl))
          · next e h hx => exact Or.inr (.deleteUnit r env c profile h _ _ hr hx (Or.inr rfl))
      | deleteSelecting c =>
          simp only [World.deleteSelect]
          split
          · next hsome =>
            obtain ⟨row, hc⟩ := Option.isSome_iff_exists.mp hsome
            exact Or.inr (.deleteSelect r env c row hr hc)
          · exact Or.inr (.drop r env _ hr (by simp) (by simp))
      | deleteCommitting c =>
          simp only [World.deleteCommit]
          split
          · exact Or.inl rfl
          · next hlock =>
            split
            · exact Or.inr (.drop r env _ hr (by simp) (by simp))
            · next hcom =>
              exact Or.inr (.deleteCommit r env c hr (by simpa using hlock) (by simpa using hcom))
      | policyRead c policy =>
          simp only [World.policySelect]
          split
          · exact Or.inr (.drop r env _ hr (by simp) (by simp))
          · next loaded hc => exact Or.inr (.policySelect r env c policy loaded hr hc)
      | policySelected c policy loaded =>
          simp only [World.policyCommit]
          split
          · exact Or.inl rfl
          · next hlock =>
            split
            · exact Or.inr (.drop r env _ hr (by simp) (by simp))
            · next hcom =>
              exact Or.inr (.policyCommit r env c policy loaded hr (by simpa using hlock)
                (by simpa using hcom))

theorem step_work_cases (e : ExecutionId) (env : TaskEnv) :
    step ctx w (.work e env) = w ∨ Step ctx w (.work e env) (step ctx w (.work e env)) := by
  simp only [step, World.work]
  cases he : w.executions e with
  | none => exact Or.inl rfl
  | some x =>
      simp only
      split
      · exact Or.inl rfl
      · next hlock =>
        have hfree (ht : x.stage.takesLock = true) :
            w.lockFree x.payload.configId (.execution e) = true := by simpa [ht] using hlock
        split
        · next stage s hstep =>
          exact Or.inr (.taskNext e env x stage s he hfree (taskMove_of_next hstep))
        · next out s hstep =>
          exact Or.inr (.taskDone e env x out s he hfree (taskEnd_of_done hstep))

/-- **A step leaves the world alone or is a `Step`.** -/
theorem step_cases (a : Action) : step ctx w a = w ∨ Step ctx w a (step ctx w a) := by
  cases a with
  | create r c name protocol profile policy sharePublicHost =>
      simp only [step, World.create]
      split
      · exact Or.inl rfl
      · next ps hprofile =>
        split
        · exact Or.inl rfl
        · next hno =>
          simp only [Bool.or_eq_true, not_or, Bool.not_eq_true, Option.isSome_eq_false_iff,
            Option.isNone_iff_eq_none] at hno
          exact Or.inr (.create r c name protocol profile policy sharePublicHost ps hprofile
            hno.1 hno.2)
  | regenerate r c =>
      simp only [step, World.regenerate]
      split
      · next config hr hc =>
        split
        · exact Or.inl rfl
        · next hno =>
          simp only [Bool.or_eq_true, decide_eq_true_eq, not_or, Bool.not_eq_true] at hno
          exact Or.inr (.regenerate r c config hr hc hno.1 hno.2)
      · exact Or.inl rfl
  | edit r c submitted =>
      simp only [step, World.edit]
      split
      · exact Or.inl rfl
      · next hr => exact Or.inr (.edit r c submitted (by simpa using hr))
  | delete r c =>
      simp only [step, World.delete]
      split
      · next config hr hc => exact Or.inr (.delete r c config hr hc)
      · exact Or.inl rfl
  | patchPolicy r c overrides =>
      simp only [step, World.patchPolicy]
      split
      · next config hr hc => exact Or.inr (.patchPolicy r c overrides config _ hr hc)
      · exact Or.inl rfl
  | advance r env => exact step_advance_cases r env
  | deliver e t =>
      simp only [step, World.deliver]
      split
      · next task he ht =>
        split
        · exact Or.inl rfl
        · next hfin => exact Or.inr (.deliver e t task he ht (by simpa using hfin))
      · exact Or.inl rfl
  | work e env => exact step_work_cases e env
  | crash e =>
      simp only [step, World.crash]
      split
      · exact Or.inl rfl
      · next x he => exact Or.inr (.crash e x he)
  | finish t =>
      simp only [step, World.finish]
      split
      · next task ht =>
        split
        · next hex => exact Or.inr (.finish t task ht hex)
        · exact Or.inl rfl
      · exact Or.inl rfl
  | tick => exact Or.inr .tick

/-- Where an execution stands after a step: where it stood, at its start, or
one `TaskMove` further. -/
theorem execution_of_step {w' : World} {a : Action} {e : ExecutionId} {x' : Execution}
    (hstep : Step ctx w a w') (he' : w'.executions e = some x') :
    w.executions e = some x' ∨
      (∃ t task, w.tasks t = some task ∧ task.finished = false ∧
        x' = ⟨t, task.payload, .start⟩) ∨
      ∃ env x s, a = .work e env ∧ w.executions e = some x ∧ x'.task = x.task ∧
        x'.payload = x.payload ∧ TaskMove ctx env x.payload w.store x.stage x'.stage s ∧
        w'.db = w.db ∧ w'.host = s.host := by
  cases hstep with
  | deliver e₀ t task he ht hfin =>
      by_cases hee : e = e₀
      · subst hee
        have hx : x' = ⟨t, task.payload, .start⟩ := by simpa [eq_comm] using he'
        exact Or.inr (Or.inl ⟨t, task, ht, hfin, hx⟩)
      · exact Or.inl (by simpa [hee] using he')
  | taskNext e₀ env x stage s he hlock hmove =>
      by_cases hee : e = e₀
      · subst hee
        obtain rfl : { x with stage := stage } = x' := by simpa using he'
        exact Or.inr (Or.inr ⟨env, x, s, rfl, he, rfl, rfl, hmove, hmove.db_eq, rfl⟩)
      · exact Or.inl (by simpa [hee] using he')
  | taskDone e₀ env x out s he hlock hend =>
      by_cases hee : e = e₀
      · simp [hee] at he'
      · exact Or.inl (by simpa [hee] using he')
  | crash e₀ x he =>
      by_cases hee : e = e₀
      · simp [hee] at he'
      · exact Or.inl (by simpa [hee] using he')
  | _ => exact Or.inl he'

/-- Where an edit stands after a step: where it stood, at its start, or one
`EditMove` further. -/
theorem edit_of_step {w' : World} {a : Action} {r : RequestId} {stage' : EditStage}
    (hstep : Step ctx w a w') (hr' : w'.requests r = some (.editing stage')) :
    w.requests r = some (.editing stage') ∨
      (∃ c submitted, stage' = .planning c submitted) ∨
      ∃ env stage s, a = .advance r env ∧ w.requests r = some (.editing stage) ∧
        (stage.takesLock = true → w.lockFree stage.configId (.request r) = true) ∧
        EditMove ctx env.toEditEnv w.store stage stage' s ∧ w'.db = w.db ∧ w'.host = s.host := by
  cases hstep with
  | edit r₀ c submitted hr =>
      by_cases hrr : r = r₀
      · subst hrr
        have hstage : stage' = .planning c submitted := by simpa [eq_comm] using hr'
        exact Or.inr (Or.inl ⟨c, submitted, hstage⟩)
      · exact Or.inl (by simpa [hrr] using hr')
  | editNext r₀ env stage stage₁ s hr hlock hmove =>
      by_cases hrr : r = r₀
      · subst hrr
        obtain rfl : stage₁ = stage' := by simpa using hr'
        exact Or.inr (Or.inr ⟨env, stage, s, rfl, hr, hlock, hmove, hmove.db_eq, rfl⟩)
      · exact Or.inl (by simpa [hrr] using hr')
  | publish r₀ env p t stage hr ht hstage =>
      by_cases hrr : r = r₀
      · subst hrr
        obtain ⟨-, rfl⟩ | ⟨-, rfl⟩ := hstage <;> simp at hr'
      · exact Or.inl (by simpa [hrr] using hr')
  | deleteUnit r₀ env c profile h out stage hr hx hstage =>
      by_cases hrr : r = r₀
      · subst hrr
        obtain rfl | rfl := hstage <;> simp at hr'
      · exact Or.inl (by simpa [hrr] using hr')
  | _ =>
      refine Or.inl ?_
      simp [Function.update_apply] at *
      grind

/-- An edit stays where it stands, takes a step, or ends. -/
theorem editing_of_step {w' : World} {a : Action} {r : RequestId} {stage : EditStage}
    (hstep : Step ctx w a w') (hr : w.requests r = some (.editing stage)) :
    w'.requests r = some (.editing stage) ∨
      (∃ env stage' s, a = .advance r env ∧ EditMove ctx env.toEditEnv w.store stage stage' s ∧
        w'.requests r = some (.editing stage')) ∨
      ∃ env out s, a = .advance r env ∧
        EditEnd ctx env.toEditEnv w.now w.store stage out s ∧ w'.db = s.db ∧ w'.host = s.host := by
  cases hstep with
  | editNext r₀ env stage₀ stage' s hr₀ hlock hmove =>
      by_cases hrr : r = r₀
      · subst hrr
        obtain rfl : stage = stage₀ := by simpa using hr.symm.trans hr₀
        exact Or.inr (Or.inl ⟨env, stage', s, rfl, hmove, by simp⟩)
      · exact Or.inl (by simpa [hrr] using hr)
  | editDone r₀ env stage₀ s out hr₀ hend =>
      by_cases hrr : r = r₀
      · subst hrr
        obtain rfl : stage = stage₀ := by simpa using hr.symm.trans hr₀
        exact Or.inr (Or.inr ⟨env, out, s, rfl, hend, rfl, rfl⟩)
      · exact Or.inl (by simpa [hrr] using hr)
  | drop r₀ env stage₀ hr₀ hedit hpub =>
      have hrr : r ≠ r₀ := by
        rintro rfl
        exact hedit stage (Option.some.inj (hr₀.symm.trans hr))
      exact Or.inl (by simpa [hrr] using hr)
  | _ =>
      refine Or.inl ?_
      simp [Function.update_apply] at *
      grind

/-- How a step changes the row of a config. -/
inductive RowChange (w w' : World) (c : ConfigId) :
    Action → VpnConfigModel → VpnConfigModel → Prop where
  | same (a : Action) (row : VpnConfigModel) : RowChange w w' c a row row
  | touched (r : RequestId) (env : RequestEnv) (row : VpnConfigModel) (plan : EditPlan)
      (loaded : VpnConfigVersionModel)
      (hr : w.requests r = some (.editing (.committing plan loaded)))
      (hc : plan.configId = c) : RowChange w w' c (.advance r env) row (touch w.now row)
  | prepared (r : RequestId) (env : RequestEnv) (loaded row : VpnConfigModel) (p : Payload)
      (hr : w.requests r = some (.regeneratePrepared c loaded)) (hactive : row.isActive = true)
      (hcur : row.currentVersion.map (· + 1) = some p.targetVersion) (hc : p.configId = c)
      (hr' : w'.requests r = some (.publishing p)) :
      RowChange w w' c (.advance r env) row (prepareRegenerate w.now loaded row)
  | published (r : RequestId) (env : RequestEnv) (row : VpnConfigModel) (t : TaskId)
      (hr : w.requests r = some (.published c t)) :
      RowChange w w' c (.advance r env) row (setLastTaskId w.now t row)
  | deleted (r : RequestId) (env : RequestEnv) (row : VpnConfigModel)
      (hr : w.requests r = some (.deleteCommitting c))
      (hlock : w.lockFree c (.request r) = true) (hcom : env.committed = none) :
      RowChange w w' c (.advance r env) row (softDelete w.now row)
  | policySet (r : RequestId) (env : RequestEnv) (row loaded : VpnConfigModel)
      (policy : RegeneratePolicy) (hr : w.requests r = some (.policySelected c policy loaded)) :
      RowChange w w' c (.advance r env) row (updateRegeneratePolicy w.now policy loaded row)
  | marked (e : ExecutionId) (env : TaskEnv) (row : VpnConfigModel) (x : Execution)
      (loaded : VpnConfigModel) (he : w.executions e = some x) (hc : x.payload.configId = c)
      (hstage : x.stage = .marking loaded) (hcom : env.committed = none)
      (hlock : w.lockFree c (.execution e) = true) (hgone : w'.executions e = none) :
      RowChange w w' c (.work e env) row (markActive w.now x.payload.targetVersion loaded row)
  | built (e : ExecutionId) (env : TaskEnv) (row : VpnConfigModel) (x : Execution)
      (vrow : VpnConfigVersionModel) (he : w.executions e = some x) (hc : x.payload.configId = c)
      (hstage : x.stage = .committing vrow) (hcom : env.committed = none)
      (hdb : w'.db = commitBuild w.now x.payload vrow w.db) (hhost : w'.host = w.host)
      (hgone : w'.executions e = none) :
      RowChange w w' c (.work e env) row (markBuilt w.now x.payload.targetVersion row)
  | failed (e : ExecutionId) (env : TaskEnv) (row : VpnConfigModel) (x : Execution) (exc : PyErr)
      (loaded : VpnConfigModel) (he : w.executions e = some x) (hc : x.payload.configId = c)
      (hstage : x.stage = .markingFailed exc loaded)
      (hlock : w.lockFree c (.execution e) = true) (hgone : w'.executions e = none) :
      RowChange w w' c (.work e env) row (markFailed w.now exc.msg loaded row)

/-- The row of a config after a step: that of a create, or the row before,
changed in one of these ways. -/
theorem row_of_step {w' : World} {a : Action} {c : ConfigId} {row' : VpnConfigModel}
    (hstep : Step ctx w a w') (hrow' : w'.db.configs c = some row') :
    (∃ r p, w.db.configs c = none ∧ w'.requests r = some (.publishing p) ∧ p.configId = c ∧
        row'.currentVersion = none ∧ row'.status = .pending ∧ row'.isActive = true) ∨
      ∃ row, w.db.configs c = some row ∧ RowChange w w' c a row row' := by
  cases hstep with
  | create r c' name protocol profile policy host ps hprofile hr hc =>
      by_cases hcc : c = c'
      · subst hcc
        have hrow : createPending name protocol profile
            (policy.getD (RegeneratePolicy.forProfile profile (some ps))) host w.now = row' := by
          simpa using hrow'
        exact Or.inl ⟨r, ⟨c, profile, name, 1⟩, hc, by simp, rfl, by rw [← hrow]; rfl,
          by rw [← hrow]; rfl, by rw [← hrow]; rfl⟩
      · exact Or.inr ⟨row', by simpa [Db.setConfig_configs_ne _ _ hcc] using hrow', .same _ _⟩
  | editNext r env stage stage' s hr hlock hmove =>
      exact Or.inr ⟨row', by simpa [hmove.db_eq] using hrow', .same _ _⟩
  | editDone r env stage s out hr hend =>
      cases hend with
      | committed plan loaded hcom =>
          obtain ⟨row, hrow, rfl | ⟨rfl, rfl⟩⟩ := Db.exists_of_updateConfig hrow'
          · exact Or.inr ⟨_, by simpa using hrow, .same _ _⟩
          · exact Or.inr ⟨row, by simpa using hrow, .touched r env row plan loaded hr rfl⟩
      | _ => exact Or.inr ⟨row', by simpa using hrow', .same _ _⟩
  | regenerateCommit r env c' loaded row v hr hlock hc hcur =>
      obtain ⟨old, hold, rfl | ⟨rfl, rfl⟩⟩ := Db.exists_of_updateConfig hrow'
      · exact Or.inr ⟨_, hold, .same _ _⟩
      · obtain ⟨hrow, hactive⟩ := Db.getActive_eq_some_iff.mp hc
        obtain rfl : old = row := Option.some.inj (hold.symm.trans hrow)
        exact Or.inr ⟨old, hold, .prepared r env loaded old ⟨c, old.profile, old.name, v + 1⟩ hr
          hactive (by simp [hcur]) rfl (by simp)⟩
  | finishRequest r env c' t hr hlock =>
      obtain ⟨old, hold, rfl | ⟨rfl, rfl⟩⟩ := Db.exists_of_updateConfig hrow'
      · exact Or.inr ⟨_, hold, .same _ _⟩
      · exact Or.inr ⟨old, hold, .published r env old t hr⟩
  | deleteCommit r env c' hr hlock hcom =>
      obtain ⟨old, hold, rfl | ⟨rfl, rfl⟩⟩ := Db.exists_of_updateConfig hrow'
      · exact Or.inr ⟨_, hold, .same _ _⟩
      · exact Or.inr ⟨old, hold, .deleted r env old hr hlock hcom⟩
  | policyCommit r env c' policy loaded hr hlock hcom =>
      obtain ⟨old, hold, rfl | ⟨rfl, rfl⟩⟩ := Db.exists_of_updateConfig hrow'
      · exact Or.inr ⟨_, hold, .same _ _⟩
      · exact Or.inr ⟨old, hold, .policySet r env old loaded policy hr⟩
  | taskNext e env x stage s he hlock hmove =>
      exact Or.inr ⟨row', by simpa [hmove.db_eq] using hrow', .same _ _⟩
  | taskDone e env x out s he hlock hend =>
      obtain ⟨task, payload, stage⟩ := x
      rw [World.report_db] at hrow'
      cases hend with
      | marked loaded hcom =>
          obtain ⟨row, hrow, rfl | ⟨rfl, rfl⟩⟩ := Db.exists_of_updateConfig hrow'
          · exact Or.inr ⟨_, hrow, .same _ _⟩
          · exact Or.inr ⟨row, hrow,
            .marked e env row _ loaded he rfl rfl hcom (hlock rfl) (by simp)⟩
      | built vrow hcom =>
          obtain ⟨row, hrow, rfl | ⟨rfl, rfl⟩⟩ := Db.exists_of_updateConfig hrow'
          · exact Or.inr ⟨_, hrow, .same _ _⟩
          · exact Or.inr ⟨row, hrow, .built e env row _ vrow he rfl rfl hcom (by simp) (by simp)
            (by simp)⟩
      | failed exc loaded =>
          obtain ⟨row, hrow, rfl | ⟨rfl, rfl⟩⟩ := Db.exists_of_updateConfig hrow'
          · exact Or.inr ⟨_, hrow, .same _ _⟩
          · exact Or.inr ⟨row, hrow, .failed e env row _ exc loaded he rfl rfl (hlock rfl)
              (by simp)⟩
      | lost exc hnone => exact Or.inr ⟨row', by simpa using hrow', .same _ _⟩
  | _ => exact Or.inr ⟨row', by simpa using hrow', .same _ _⟩

/-- Config rows stay. -/
theorem configs_mono {w' : World} {a : Action} (hstep : Step ctx w a w') {c : ConfigId}
    {row : VpnConfigModel} (h : w.db.configs c = some row) :
    ∃ row', w'.db.configs c = some row' := by
  have hupdate (c₀ : ConfigId) (change : VpnConfigModel → VpnConfigModel) :
      ∃ row', (w.db.updateConfig c₀ change).configs c = some row' := by
    by_cases hc : c = c₀
    · subst hc
      exact ⟨change row, by simp [h]⟩
    · exact ⟨row, by simp [hc, h]⟩
  cases hstep with
  | create r c' name protocol profile policy host ps hprofile hr hc =>
      have hne : c ≠ c' := by
        rintro rfl
        rw [hc] at h
        contradiction
      exact ⟨row, by simpa [Db.setConfig_configs_ne _ _ hne] using h⟩
  | editNext r env stage stage' s hr hlock hmove => exact ⟨row, by simpa [hmove.db_eq] using h⟩
  | editDone r env stage s out hr hend =>
      cases hend with
      | committed plan loaded hcom =>
          simpa [commitEdit, h] using hupdate plan.configId (touch w.now)
      | _ => exact ⟨row, by simpa using h⟩
  | regenerateCommit r env c' loaded row v hr hlock hc hcur => exact hupdate c' _
  | finishRequest r env c' t hr hlock => exact hupdate c' _
  | deleteCommit r env c' hr hlock hcom => exact hupdate c' _
  | policyCommit r env c' policy loaded hr hlock hcom => exact hupdate c' _
  | taskNext e env x stage s he hlock hmove => exact ⟨row, by simpa [hmove.db_eq] using h⟩
  | taskDone e env x out s he hlock hend =>
      obtain ⟨task, payload, stage⟩ := x
      rw [World.report_db]
      cases hend with
      | marked loaded hcom => exact hupdate payload.configId _
      | built vrow hcom =>
          simpa [commitBuild] using hupdate payload.configId (markBuilt w.now payload.targetVersion)
      | failed exc loaded => exact hupdate payload.configId _
      | lost exc hnone => exact ⟨row, by simpa using h⟩
  | _ => exact ⟨row, by simpa using h⟩

/-- How a step changes a task. -/
inductive TaskChange (ctx : Ctx) (w w' : World) (t : TaskId) : Action → Task → Task → Prop where
  | same (a : Action) (task : Task) : TaskChange ctx w w' t a task task
  | reported (e : ExecutionId) (env : TaskEnv) (task : Task) (x : Execution)
      (out : Except PyErr Unit) (s : Store) (he : w.executions e = some x) (hx : x.task = t)
      (hend : TaskEnd env w.now x.payload w.store x.stage out s) (hdb : w'.db = s.db) :
      TaskChange ctx w w' t (.work e env) task { task with executed := true }
  | finished (task : Task) (hex : task.executed = true) :
      TaskChange ctx w w' t (.finish t) task { task with finished := true }

/-- A task after a step: a new one, or the task before, changed in one of these
ways. -/
theorem task_of_step {w' : World} {a : Action} {t : TaskId} {task' : Task}
    (hstep : Step ctx w a w') (ht' : w'.tasks t = some task') :
    (∃ r p, w.tasks t = none ∧ w.requests r = some (.publishing p) ∧
        (w'.requests r = some (.published p.configId t) ∨ w'.requests r = none) ∧
        a.publishes = some t ∧ task' = { payload := p }) ∨
      ∃ task, w.tasks t = some task ∧ TaskChange ctx w w' t a task task' := by
  cases hstep with
  | publish r env p t₀ stage hr ht hstage =>
      by_cases htt : t = t₀
      · subst htt
        have htask : task' = { payload := p } := by simpa [eq_comm] using ht'
        refine Or.inl ⟨r, p, ht, hr, ?_, ?_, htask⟩
        · obtain ⟨-, rfl⟩ | ⟨-, rfl⟩ := hstage <;> simp
        · obtain ⟨hpub, -⟩ | ⟨hpub, -⟩ := hstage <;> simp [Action.publishes, hpub]
      · exact Or.inr ⟨task', by simpa [htt] using ht', .same _ _⟩
  | taskDone e env x out s he hlock hend =>
      rw [World.report_tasks] at ht'
      split at ht'
      · next htt =>
        obtain ⟨task, htask, rfl⟩ := Option.map_eq_some_iff.mp ht'
        exact Or.inr ⟨task, by simpa [htt] using htask,
          .reported e env task x out s he htt.symm hend (by simp)⟩
      · exact Or.inr ⟨task', by simpa using ht', .same _ _⟩
  | finish t₀ task ht hex =>
      by_cases htt : t = t₀
      · subst htt
        obtain rfl : { task with finished := true } = task' := by simpa using ht'
        exact Or.inr ⟨task, ht, .finished task hex⟩
      · exact Or.inr ⟨task', by simpa [htt] using ht', .same _ _⟩
  | _ => exact Or.inr ⟨task', ht', .same _ _⟩

/-- Tasks stay, with their payloads. -/
theorem tasks_mono {w' : World} {a : Action} {t : TaskId} {task : Task} (hstep : Step ctx w a w')
    (ht : w.tasks t = some task) :
    ∃ task', w'.tasks t = some task' ∧ task'.payload = task.payload := by
  cases hstep with
  | publish r env p t₀ stage hr ht₀ hstage =>
      have hne : t ≠ t₀ := by
        rintro rfl
        rw [ht₀] at ht
        contradiction
      exact ⟨task, by simpa [hne] using ht, rfl⟩
  | taskDone e env x out s he hlock hend =>
      by_cases htt : t = x.task
      · subst htt
        exact ⟨{ task with executed := true }, by simp [ht], rfl⟩
      · exact ⟨task, by simpa [htt] using ht, rfl⟩
  | finish t₀ task₀ ht₀ hex =>
      by_cases htt : t = t₀
      · subst htt
        obtain rfl : task₀ = task := Option.some.inj (ht₀.symm.trans ht)
        exact ⟨{ task₀ with finished := true }, by simp, rfl⟩
      · exact ⟨task, by simpa [htt] using ht, rfl⟩
  | _ => exact ⟨task, ht, rfl⟩

/-- A request at publishing stays there, publishes, or is refused by the
broker. -/
theorem publishing_of_step {w' : World} {a : Action} {r : RequestId} {p : Payload}
    (hstep : Step ctx w a w') (hr : w.requests r = some (.publishing p)) :
    w'.requests r = some (.publishing p) ∨
      (∃ t, w.tasks t = none ∧ w'.tasks t = some { payload := p } ∧
        w'.executions = w.executions) ∨
      ∃ env, a = .advance r env ∧ env.publish = .rejected := by
  cases hstep with
  | publish r₀ env p₀ t stage hr₀ ht hstage =>
      by_cases hrr : r = r₀
      · subst hrr
        obtain rfl : p = p₀ := by simpa using hr.symm.trans hr₀
        exact Or.inr (Or.inl ⟨t, ht, by simp, rfl⟩)
      · exact Or.inl (by simpa [hrr] using hr)
  | drop r₀ env stage hr₀ hedit hpub =>
      by_cases hrr : r = r₀
      · subst hrr
        exact Or.inr (Or.inr ⟨env, rfl, hpub p (Option.some.inj (hr₀.symm.trans hr))⟩)
      · exact Or.inl (by simpa [hrr] using hr)
  | _ =>
      refine Or.inl ?_
      simp [Function.update_apply] at *
      grind

/-- Where a request about to publish comes from: a create, or a regenerate of
the config as it stands. -/
theorem publishing_cases {w' : World} {a : Action} {r : RequestId} {p : Payload}
    (hstep : Step ctx w a w') (hr' : w'.requests r = some (.publishing p)) :
    w.requests r = some (.publishing p) ∨
      (w.db.configs p.configId = none ∧ p.targetVersion = 1 ∧ w'.db.versions = w.db.versions ∧
        ∃ row', w'.db.configs p.configId = some row' ∧ row'.profile = p.profile ∧
          row'.status = .pending) ∨
      ∃ loaded row v, w.requests r = some (.regeneratePrepared p.configId loaded) ∧
        w.db.configs p.configId = some row ∧ row.currentVersion = some v ∧
        p.targetVersion = v + 1 ∧ p.profile = row.profile ∧ w'.db.versions = w.db.versions ∧
        w'.db.configs p.configId = some (prepareRegenerate w.now loaded row) := by
  cases hstep with
  | create r₀ c name protocol profile policy host ps hprofile hr hc =>
      by_cases hrr : r = r₀
      · subst hrr
        obtain rfl : ⟨c, profile, name, 1⟩ = p := by simpa using hr'
        exact Or.inr (Or.inl ⟨hc, rfl, by simp, _, by simp; rfl, rfl, rfl⟩)
      · exact Or.inl (by simpa [hrr] using hr')
  | regenerateCommit r₀ env c loaded row v hr hlock hc hcur =>
      by_cases hrr : r = r₀
      · subst hrr
        obtain rfl : ⟨c, row.profile, row.name, v + 1⟩ = p := by simpa using hr'
        obtain ⟨hrow, -⟩ := Db.getActive_eq_some_iff.mp hc
        exact Or.inr (Or.inr ⟨loaded, row, v, hr, hrow, hcur, rfl, rfl, by simp, by simp [hrow]⟩)
      · exact Or.inl (by simpa [hrr] using hr')
  | publish r₀ env p₀ t stage hr ht hstage =>
      by_cases hrr : r = r₀
      · subst hrr
        obtain ⟨-, rfl⟩ | ⟨-, rfl⟩ := hstage <;> simp at hr'
      · exact Or.inl (by simpa [hrr] using hr')
  | deleteUnit r₀ env c profile h out stage hr hx hstage =>
      by_cases hrr : r = r₀
      · subst hrr
        obtain rfl | rfl := hstage <;> simp at hr'
      · exact Or.inl (by simpa [hrr] using hr')
  | _ =>
      refine Or.inl ?_
      simp [Function.update_apply] at *
      grind

/-- A regenerate that has passed its checks has found the config not busy. -/
theorem prepared_of_step {w' : World} {a : Action} {r : RequestId} {c : ConfigId}
    {loaded : VpnConfigModel} (hstep : Step ctx w a w')
    (hr' : w'.requests r = some (.regeneratePrepared c loaded)) :
    w.requests r = some (.regeneratePrepared c loaded) ∨ loaded.status.busy = false := by
  cases hstep <;> simp [Function.update_apply] at * <;> grind

/-- An execution that has ended was reported. -/
theorem executed_of_gone {w' : World} {e : ExecutionId} {env : TaskEnv} {x : Execution}
    {task' : Task} (hstep : Step ctx w (.work e env) w') (he : w.executions e = some x)
    (hgone : w'.executions e = none) (ht' : w'.tasks x.task = some task') :
    task'.executed = true := by
  cases hstep with
  | taskNext e env x' stage s he' hlock hmove => simp at hgone
  | taskDone e env x' out s he' hlock hend =>
      obtain rfl : x = x' := Option.some.inj (he.symm.trans he')
      rw [World.report_tasks, if_pos rfl] at ht'
      obtain ⟨task, -, rfl⟩ := Option.map_eq_some_iff.mp ht'
      rfl

/-- An invariant of every `Step` is an invariant of `step`. -/
theorem step_induction {I : World → Prop} {C : World → Action → Prop}
    (h : ∀ w a w', Step ctx w a w' → I w → C w a → I w') (w : World) (a : Action) (hI : I w)
    (hC : C w a) : I (step ctx w a) := by
  obtain heq | hstep : step ctx w a = w ∨ Step ctx w a (step ctx w a) := step_cases a
  · rw [heq]
    exact hI
  · exact h w a _ hstep hI hC

end System

/-! ## what a run names -/

section Named

variable {ctx : Ctx}

/-- A request no action is about is left alone. -/
theorem step_requests_of_ne (w : World) {a : Action} {r : RequestId} (h : a.request ≠ some r) :
    (step ctx w a).requests r = w.requests r := by
  obtain heq | hstep : step ctx w a = w ∨ Step ctx w a (step ctx w a) := step_cases a
  · rw [heq]
  · generalize step ctx w a = w' at hstep
    cases hstep <;> simp [Action.request, Function.update_apply] at * <;> grind

/-- An execution no action is about is left alone. -/
theorem step_executions_of_ne (w : World) {a : Action} {e : ExecutionId}
    (h : a.executes ≠ some e) : (step ctx w a).executions e = w.executions e := by
  obtain heq | hstep : step ctx w a = w ∨ Step ctx w a (step ctx w a) := step_cases a
  · rw [heq]
  · generalize step ctx w a = w' at hstep
    cases hstep <;> simp [Action.executes, Function.update_apply] at * <;> grind

/-- A task no action publishes is not there. -/
theorem step_tasks_of_ne {w : World} {a : Action} {t : TaskId} (h : a.publishes ≠ some t)
    (ht : w.tasks t = none) : (step ctx w a).tasks t = none := by
  obtain heq | hstep : step ctx w a = w ∨ Step ctx w a (step ctx w a) := step_cases a
  · rw [heq, ht]
  · cases ht' : (step ctx w a).tasks t with
    | none => rfl
    | some task' =>
        obtain ⟨r, p, -, -, -, hpub, -⟩ | ⟨task, hold, -⟩ := task_of_step hstep ht'
        · exact absurd hpub h
        · rw [ht] at hold
          contradiction

/-- After a run, only the requests it names can be there. -/
theorem requests_eq_none_of_run {host : Host} {as : List Action} {r : RequestId}
    (h : r ∉ as.filterMap Action.request) : (runFrom ctx host as).requests r = none := by
  refine Machine.run_invariant_of_meets (I := fun w : World => w.requests r = none)
    (C := fun _ a => a.request ≠ some r) (fun w a hI hC => ?_) rfl ?_
  · rw [step_requests_of_ne w hC, hI]
  · rw [Machine.meets_iff]
    rintro bs a cs rfl hr
    exact h (List.mem_filterMap.mpr ⟨a, by simp, hr⟩)

/-- After a run, only the executions it names can be there. -/
theorem executions_eq_none_of_run {host : Host} {as : List Action} {e : ExecutionId}
    (h : e ∉ as.filterMap Action.executes) : (runFrom ctx host as).executions e = none := by
  refine Machine.run_invariant_of_meets (I := fun w : World => w.executions e = none)
    (C := fun _ a => a.executes ≠ some e) (fun w a hI hC => ?_) rfl ?_
  · rw [step_executions_of_ne w hC, hI]
  · rw [Machine.meets_iff]
    rintro bs a cs rfl he
    exact h (List.mem_filterMap.mpr ⟨a, by simp, he⟩)

/-- After a run, only the tasks it names can be there. -/
theorem tasks_eq_none_of_run {host : Host} {as : List Action} {t : TaskId}
    (h : t ∉ as.filterMap Action.publishes) : (runFrom ctx host as).tasks t = none := by
  refine Machine.run_invariant_of_meets (I := fun w : World => w.tasks t = none)
    (C := fun _ a => a.publishes ≠ some t) (fun w a hI hC => step_tasks_of_ne hC hI) rfl ?_
  rw [Machine.meets_iff]
  rintro bs a cs rfl ht
  exact h (List.mem_filterMap.mpr ⟨a, by simp, ht⟩)

end Named

end VpnPanel
