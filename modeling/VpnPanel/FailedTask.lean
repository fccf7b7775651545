import VpnPanel.ServedDocument
import VpnPanel.Lifecycle

/-!
# VpnPanel.FailedTask

What an execution that fails to build the next version of a running config
leaves behind.

The tables are as they were but for the config's `failed`.  The machine is
not rolled back: with per-config units the service is stopped before the
build, and the served document is replaced before the version is stored.
`FailedBuild` says, by the part that raised, what is served and what the
service is doing afterwards.
-/

namespace VpnPanel

/-- The service as the stop before a build leaves it: stopped, unless there are
no per-config units or `systemctl stop` failed. -/
def AfterStop (settings : PanelSettings) (faults : Faults) (state state' : ServiceState) : Prop :=
  state' = .stopped ∨
    state' = state ∧ (settings.systemd.perConfig = false ∨ ∃ f, faults .stop = some f)

/-- What a failed build of `p` leaves of a service that ran on `doc`, by the
part that raised. -/
inductive FailedBuild (ctx : Ctx) (env : TaskEnv) (p : Payload) (ps : VpnProfileSettings)
    (doc : PyVal) (h : Host) (e : PyErr) (h' : Host) : Prop where
  /-- Policy, previous version, secrets, or the stop itself. -/
  | preparing (state : ServiceState) (hx : (prepareBuild ctx env p).exec h = (.error e, h'))
      (hserves : Serves ctx.settings ps p.profile p.configId (some doc) state h')
      (hstate : state = .running (some doc) ∨ state = .stopped)
  /-- The build, or the files up to the served one, which may be replaced only
  by its own write. -/
  | building (h₁ : Host) (doc' : PyVal) (state : ServiceState)
      (hprepared : (prepareBuild ctx env p).exec h = (.ok (), h₁))
      (hx : (buildDocuments ctx env p).exec h₁ = (.error e, h'))
      (hserves : Serves ctx.settings ps p.profile p.configId (some doc') state h')
      (hdoc : doc' = doc ∨ ∃ f, env.faults .writeLive = some f ∨ env.faults .writeActive = some f)
      (hstate : AfterStop ctx.settings env.faults (.running (some doc)) state)
  /-- The unit, the restart, or the wait for the service. -/
  | restarting (h₁ h₂ : Host) (result : BuildResult) (state : ServiceState)
      (hprepared : (prepareBuild ctx env p).exec h = (.ok (), h₁))
      (hbuilt : (buildDocuments ctx env p).exec h₁ = (.ok result, h₂))
      (hserves : Serves ctx.settings ps p.profile p.configId (some result.configData) state h')
      (hstate : AfterStop ctx.settings env.faults (.running (some doc)) state ∨
        ∃ f, (env.faults .restart = some f ∨ env.faults .waitReady = some f) ∧ state = f.service)
  /-- The mux, the insert or the commit. -/
  | finishing (h₁ h₂ : Host) (result : BuildResult)
      (hprepared : (prepareBuild ctx env p).exec h = (.ok (), h₁))
      (hbuilt : (buildDocuments ctx env p).exec h₁ = (.ok result, h₂))
      (hserves : Serves ctx.settings ps p.profile p.configId (some result.configData)
        (.running (some result.configData)) h')

section Rules

variable {ctx : Ctx} {env : TaskEnv} {p : Payload} {ps : VpnProfileSettings}
  {doc : Option PyVal} {state : ServiceState}

/-- The stop before a build. -/
theorem spec_stopConfigUnit {faults : Faults} {settings : PanelSettings} {profile : ConfigProfile}
    {c : ConfigId} (hper : settings.systemd.perConfig = true) :
    Eff.Spec (Serves settings ps profile c doc state) (stopConfigUnit faults c settings.systemd)
      (fun _ h => ∃ state', Serves settings ps profile c doc state' h ∧
        AfterStop settings faults state state')
      (fun _ h => ∃ state', Serves settings ps profile c doc state' h ∧
        (state' = state ∨ state' = .stopped)) := by
  have hname : servingName settings ps c = configServiceName settings.systemd c := by
    simp [servingName, hper]
  have hset {h : Host} (hserves : Serves settings ps profile c doc state h) :
      Serves settings ps profile c doc .stopped
        (h.setService (configServiceName settings.systemd c) .stopped) :=
    ⟨hserves.doc, by simp [hname, Host.setService]⟩
  refine Eff.Spec.catching (F := fun _ h => (∃ f, faults .stop = some f) ∧
    (Serves settings ps profile c doc state h ∨ Serves settings ps profile c doc .stopped h)) ?_
    (fun e _ => Eff.Spec.pure ?_) fun e _ h hleft => ?_
  · exact spec_attempt (fun _ h hserves => ⟨_, hset hserves, Or.inl rfl⟩)
      fun f hf h hserves => ⟨⟨⟨f, hf⟩, Or.inl hserves⟩, ⟨f, hf⟩, Or.inr (hset hserves)⟩
  · rintro h ⟨hf, hserves | hserves⟩
    · exact ⟨state, hserves, Or.inr ⟨rfl, Or.inr hf⟩⟩
    · exact ⟨.stopped, hserves, Or.inl rfl⟩
  · obtain ⟨-, hserves | hserves⟩ := hleft
    · exact ⟨state, hserves, Or.inl rfl⟩
    · exact ⟨.stopped, hserves, Or.inr rfl⟩

theorem spec_prepareBuild (hps : ctx.settings.profileSettings p.profile = .ok ps)
    (htarget : 1 < p.targetVersion) :
    Eff.Spec (Serves ctx.settings ps p.profile p.configId doc state) (prepareBuild ctx env p)
      (fun _ h => ∃ state', Serves ctx.settings ps p.profile p.configId doc state' h ∧
        AfterStop ctx.settings env.faults state state')
      (fun _ h => ∃ state', Serves ctx.settings ps p.profile p.configId doc state' h ∧
        (state' = state ∨ state' = .stopped)) := by
  unfold prepareBuild
  rw [hps, Eff.ofExcept_ok_bind]
  refine Eff.Spec.bind (R := fun _ => Serves ctx.settings ps p.profile p.configId doc state)
    (Eff.Spec.ofExcept (fun _ _ h hserves => hserves)
      fun _ _ h hserves => ⟨state, hserves, Or.inl rfl⟩) fun _ => ?_
  cases hper : ctx.settings.systemd.perConfig with
  | true =>
      simp only [htarget, decide_true, Bool.and_self, if_true]
      exact spec_stopConfigUnit hper
  | false =>
      simp only [Bool.and_false, Bool.false_eq_true, if_false]
      exact Eff.Spec.pure fun h hserves => ⟨state, hserves, Or.inr ⟨rfl, Or.inl hper⟩⟩

/-- What a build that raises has done, its commit included. -/
theorem failedBuild_of_error {s s' : Store} {now : Nat} {d : PyVal} {e : PyErr}
    (hps : ctx.settings.profileSettings p.profile = .ok ps) (htarget : 1 < p.targetVersion)
    (hserves : Serves ctx.settings ps p.profile p.configId (some d) (.running (some d)) s.host)
    (hx : (do
      let row ← buildAndPersistVersion ctx env p
      commit env.committed (commitBuild now p row)).exec s = (.error e, s')) :
    s'.db = s.db ∧ FailedBuild ctx env p ps d s.host e s'.host := by
  have hfile := hasServedFile_of_served hserves.doc
  simp only [buildAndPersistVersion, bind_assoc] at hx
  obtain hx | ⟨_, s₁, hprepared, hx⟩ := Eff.exec_bind_eq_error hx
  · obtain ⟨hx, hdb⟩ := of_exec_onHost hx
    obtain ⟨state, hserves', hstate⟩ := (spec_prepareBuild hps htarget).error hserves hx
    exact ⟨hdb, .preparing state hx hserves' hstate⟩
  obtain ⟨hprepared, hdb₁⟩ := of_exec_onHost hprepared
  obtain ⟨state, hserves₁, hstop⟩ := (spec_prepareBuild hps htarget).ok hserves hprepared
  obtain hx | ⟨result, s₂, hbuilt, hx⟩ := Eff.exec_bind_eq_error hx
  · obtain ⟨hx, hdb⟩ := of_exec_onHost hx
    obtain hold | ⟨⟨new, hnew⟩, hf⟩ := (spec_buildDocuments hps hfile).error hserves₁ hx
    · exact ⟨hdb.trans hdb₁, .building s₁.host d state hprepared hx hold (Or.inl rfl) hstop⟩
    · exact ⟨hdb.trans hdb₁, .building s₁.host new state hprepared hx hnew (Or.inr hf) hstop⟩
  obtain ⟨hbuilt, hdb₂⟩ := of_exec_onHost hbuilt
  have hserves₂ := (spec_buildDocuments hps hfile).ok hserves₁ hbuilt
  obtain hx | ⟨_, s₃, hrestarted, hx⟩ := Eff.exec_bind_eq_error hx
  · obtain ⟨hx, hdb⟩ := of_exec_onHost hx
    have hdb' : s'.db = s.db := hdb.trans (hdb₂.trans hdb₁)
    obtain hold | ⟨f, hf, hleft⟩ := (spec_restartService hps p.name).error hserves₂ hx
    · exact ⟨hdb', .restarting s₁.host s₂.host result state hprepared hbuilt hold (Or.inl hstop)⟩
    · exact ⟨hdb', .restarting s₁.host s₂.host result f.service hprepared hbuilt hleft
        (Or.inr ⟨f, hf, rfl⟩)⟩
  obtain ⟨hrestarted, hdb₃⟩ := of_exec_onHost hrestarted
  have hserves₃ := (spec_restartService hps p.name).ok hserves₂ hrestarted
  have hdb₃' : s₃.db = s.db := hdb₃.trans (hdb₂.trans hdb₁)
  -- from here on nothing touches what is served
  obtain hx | ⟨_, s₄, hsynced, hx⟩ := Eff.exec_bind_eq_error hx
  · obtain ⟨hx, hdb⟩ := of_exec_onHost hx
    have hsame := keeps_serving_syncMux.of_exec hx
    exact ⟨hdb.trans hdb₃', .finishing s₁.host s₂.host result hprepared hbuilt
      (hserves₃.congr hsame)⟩
  obtain ⟨hsynced, hdb₄⟩ := of_exec_onHost hsynced
  have hserves₄ := hserves₃.congr (keeps_serving_syncMux.of_exec hsynced)
  have hend : s' = s₄ := by
    obtain hx | ⟨row, s₅, hinserted, hx⟩ := Eff.exec_bind_eq_error hx
    · rw [exec_insertRow] at hx
      exact (congrArg Prod.snd hx).symm
    · rw [exec_insertRow] at hinserted
      obtain rfl : s₄ = s₅ := congrArg Prod.snd hinserted
      cases hcom : env.committed with
      | none =>
          rw [hcom, exec_commit_none] at hx
          cases hx
      | some e' =>
          rw [hcom, exec_commit_some] at hx
          exact (congrArg Prod.snd hx).symm
  rw [hend]
  exact ⟨hdb₄.trans hdb₃', .finishing s₁.host s₂.host result hprepared hbuilt hserves₄⟩

end Rules

/-- **A failed execution.**  Executing the task for version `n + 1` of a config
that runs on the document of version `n` fails: of the tables only the status
(`failed`), the error message and `updated_at` of its row have changed, and
the machine is as `FailedBuild` says. -/
theorem failedBuild_of_runConfigTask {ctx : Ctx} {env : TaskEnv} {now : Nat} {p : Payload}
    {ps : VpnProfileSettings} {s s' : Store} {row : VpnConfigModel} {n : Nat} {doc : PyVal}
    {e : PyErr} (hps : ctx.settings.profiles p.profile = some ps)
    (hrow : s.db.configs p.configId = some row) (hn : 1 ≤ n) (htarget : p.targetVersion = n + 1)
    (habsent : s.db.hasVersion p.configId p.targetVersion = false)
    (hserves : Serves ctx.settings ps p.profile p.configId (some doc) (.running (some doc)) s.host)
    (hx : (runConfigTask ctx env now p).exec s = (.error e, s')) :
    s'.db = s.db.setConfig p.configId
        { row with
          status := .failed
          errorMessage := some (String.ofList (e.msg.toList.take 2000))
          updatedAt := now } ∧
      FailedBuild ctx env p ps doc s.host e s'.host := by
  have hps' : ctx.settings.profileSettings p.profile = .ok ps := by
    simp [PanelSettings.profileSettings, hps]
  rw [runConfigTask, Eff.exec_catching, exec_tryConfigTask_build hrow habsent] at hx
  cases hbuild : (do
      let row ← buildAndPersistVersion ctx env p
      commit env.committed (commitBuild now p row)).exec s with
  | mk r s₁ =>
      rw [hbuild] at hx
      cases r with
      | ok u => cases hx
      | error exc =>
          obtain ⟨hdb, hfailed⟩ := failedBuild_of_error hps' (by omega) hserves hbuild
          -- the `except` block
          have hrow₁ : s₁.db.configs p.configId = some row := by rw [hdb, hrow]
          change (failConfigTask now p exc).exec s₁ = (.error e, s') at hx
          rw [exec_failConfigTask_some hrow₁] at hx
          obtain ⟨rfl, rfl⟩ : exc = e ∧ (s₁.mapDb fun db => db.updateConfig p.configId
              (markFailed now exc.msg row)) = s' := by simpa using hx
          refine ⟨?_, hfailed⟩
          simp [hdb, Db.updateConfig, hrow, markFailed_self]

/-- The task that regenerates config 0 after its first version. -/
def nextTask : Payload := ⟨0, .xrayXhttp, "c", 2⟩

/-- The service runs on a live file with this document. -/
def RunsOn (port : Int) (h : Host) : Prop :=
  Serves Ctx.sample.settings sampleProfile .xrayXhttp 0 (some (sampleConfigData port))
    (.running (some (sampleConfigData port))) h

theorem runsOn_firstStore : RunsOn 443 firstStore.host := ⟨rfl, rfl⟩

/-- The theorem for a missing template. -/
theorem failedBuild_of_failingBuild :
    FailedBuild Ctx.sample failingBuild nextTask sampleProfile (sampleConfigData 443)
      firstStore.host ⟨.osError, "Template not found: config.json"⟩
      ((runConfigTask Ctx.sample failingBuild 0 nextTask).exec firstStore).2.host := by
  have hps : Ctx.sample.settings.profiles nextTask.profile = some sampleProfile := rfl
  have hx : (runConfigTask Ctx.sample failingBuild 0 nextTask).exec firstStore =
      (.error ⟨.osError, "Template not found: config.json"⟩,
        ((runConfigTask Ctx.sample failingBuild 0 nextTask).exec firstStore).2) := rfl
  exact (failedBuild_of_runConfigTask hps rfl (le_refl 1) rfl rfl runsOn_firstStore hx).2

/-- A build that ends in an error of the insert. -/
def failingInsert : TaskEnv :=
  { sampleBuild 8443 with inserted := some ⟨.databaseError, "connection lost"⟩ }

/-- **A failed execution does not leave the old version running.**  With the
template missing the service is stopped; with the insert failing it runs on the
new document. -/
theorem not_runsOn_after_failure :
    RunsOn 443 firstStore.host ∧
      ¬ RunsOn 443 ((runConfigTask Ctx.sample failingBuild 0 nextTask).exec firstStore).2.host ∧
      RunsOn 8443
        ((runConfigTask Ctx.sample failingInsert 0 nextTask).exec firstStore).2.host := by
  refine ⟨⟨rfl, rfl⟩, fun h => ?_, ⟨rfl, rfl⟩⟩
  have hstopped : ((runConfigTask Ctx.sample failingBuild 0 nextTask).exec
      firstStore).2.host.services (servingName Ctx.sample.settings sampleProfile 0) = .stopped :=
        rfl
  have hrunning := h.state
  rw [hstopped] at hrunning
  contradiction

end VpnPanel
