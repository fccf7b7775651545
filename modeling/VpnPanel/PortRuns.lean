import VpnPanel.PortRotation

/-!
# VpnPanel.PortRuns

The ports of the current versions over runs of create and regenerate tasks,
executed one at a time.

The versions stored for other configs tell `pick_port` what to stay away from, and
the sockets what is bound.  Three ways to a port go past the stored versions:
`Unchecked`.  `portsDistinct_iff`: the ports of the current versions differ in every
state of a run exactly when no task takes the port of another config in one of them.
-/

namespace VpnPanel

/-! ## the ports of the current versions -/

/-- Whether a config is served over UDP. -/
def transport (db : Db) (c : ConfigId) : Option Bool :=
  (db.configs c).map fun config => config.profile.udp

/-- The port of the current version of a config that is not deleted. -/
def currentPort (db : Db) (c : ConfigId) : Option Int := do
  let config ← db.getActive c
  let version ← config.currentVersion
  let row ← db.versions c version
  some row.port

/-- The ports of the current versions of two configs with one transport differ. -/
def PortsDistinct (db : Db) : Prop :=
  ∀ c d, c ≠ d → transport db c = transport db d →
    ∀ port, currentPort db c = some port → currentPort db d ≠ some port

/-! ## runs -/

/-- The tables and the machine, the tasks that were published, and the ports the
services of the configs are bound to. -/
structure PortWorld where
  store : Store
  tasks : List Payload
  bound : ConfigId → Option Int
  now : Nat

/-- What the surroundings of an execution decide. -/
structure PortTask where
  env : TaskEnv
  benv : BuildEnv
  /-- What `list_used_ports` returns. -/
  usedPorts : List Int
  /-- The port the config's own service is bound to while the sockets are tried. -/
  own : Option Int
  /-- The port it is bound to when the execution has failed. -/
  left : Option Int

/-- A request, or the execution of a task. -/
inductive PortAction where
  | create (c : ConfigId) (name : String) (protocol : VpnProtocolType) (profile : ConfigProfile)
      (policy : RegeneratePolicy) (sharePublicHost : Option String)
  | regenerate (c : ConfigId)
  | setPolicy (c : ConfigId) (policy : RegeneratePolicy)
  | delete (c : ConfigId)
  | execute (p : Payload) (x : PortTask)

namespace PortWorld

variable (ctx : Ctx) (w : PortWorld)

/-- An installation without configs. -/
def init (host : Host) : PortWorld := ⟨⟨Db.empty, host⟩, [], fun _ => none, 0⟩

def mapDb (f : Db → Db) : PortWorld := { w with store := w.store.mapDb f }

def publish (p : Payload) : PortWorld := { w with tasks := p :: w.tasks }

def setBound (c : ConfigId) (port : Option Int) : PortWorld :=
  { w with bound := Function.update w.bound c port }

/-- `CreateConfigUseCase.execute`. -/
def create (c : ConfigId) (name : String) (protocol : VpnProtocolType) (profile : ConfigProfile)
    (policy : RegeneratePolicy) (sharePublicHost : Option String) : PortWorld :=
  if (ctx.settings.profiles profile).isNone || (w.store.db.configs c).isSome then w
  else
    (w.mapDb fun db =>
      db.setConfig c (createPending name protocol profile policy sharePublicHost w.now)).publish
      ⟨c, profile, name, 1⟩

/-- `RegenerateConfigUseCase.execute`. -/
def regenerate (c : ConfigId) : PortWorld :=
  match w.store.db.getActive c with
  | none => w
  | some config =>
      match config.currentVersion with
      | none => w
      | some v =>
          if config.status.busy then w
          else
            (w.mapDb fun db => db.updateConfig c (prepareRegenerate w.now config)).publish
              ⟨c, config.profile, config.name, v + 1⟩

/-- `UpdateRegeneratePolicyUseCase.execute`. -/
def setPolicy (c : ConfigId) (policy : RegeneratePolicy) : PortWorld :=
  match w.store.db.getActive c with
  | none => w
  | some config =>
      w.mapDb fun db => db.updateConfig c (updateRegeneratePolicy w.now policy config)

/-- `DeleteConfigUseCase.execute`; it stops a service of the config's own. -/
def delete (c : ConfigId) : PortWorld :=
  if (w.store.db.getActive c).isNone then w
  else
    (w.mapDb fun db => db.updateConfig c (softDelete w.now)).setBound c
      (if ctx.settings.systemd.perConfig then none else w.bound c)

/-- `_run_config_task`.  A build that succeeds leaves the service bound to the port
of its version. -/
def execute (p : Payload) (x : PortTask) : PortWorld :=
  let outcome := (runConfigTask ctx x.env w.now p).exec w.store
  let after := { w with store := outcome.2 }
  if w.store.db.hasVersion p.configId p.targetVersion then after
  else
    after.setBound p.configId (match outcome.1 with
      | .ok _ => (outcome.2.db.versions p.configId p.targetVersion).map fun row => row.port
      | .error _ => x.left)

/-- One request or one execution of a published task; a task may be executed more
than once. -/
def step (w : PortWorld) : PortAction → PortWorld
  | .create c name protocol profile policy host =>
      w.create ctx c name protocol profile policy host
  | .regenerate c => w.regenerate c
  | .setPolicy c policy => w.setPolicy c policy
  | .delete c => w.delete ctx c
  | .execute p x => if p ∈ w.tasks then w.execute ctx p x else w

end PortWorld

/-! ## what is assumed of an execution -/

/-- What is built is what the builder makes of the tables, as far as it gets. -/
def BuiltFrom (ctx : Ctx) (crypto : Crypto) (db : Db) (p : Payload) (x : PortTask) : Prop :=
  match buildRequest ctx db x.usedPorts p with
  | .error e => x.env.prepared = .error e
  | .ok req => x.env.built = build crypto ctx.settings x.benv req p.profile

/-- A port is available when no service with the transport is bound to it. -/
def Probed (w : PortWorld) (p : Payload) (x : PortTask) : Prop :=
  ∀ port : Nat, x.benv.available port = true ↔
    ∀ d, transport w.store.db d = some p.profile.udp →
      Function.update w.bound p.configId x.own d ≠ some (port : Int)

/-- An execution of a build: the tables and the sockets are read as they are. -/
structure Executes (ctx : Ctx) (crypto : Crypto) (w : PortWorld) (p : Payload) (x : PortTask) :
    Prop where
  used : ListsUsedPorts w.store.db p.configId x.usedPorts
  built : BuiltFrom ctx crypto w.store.db p x
  probed : Probed w p x

/-- What is assumed of a step: what is built is built from what is there. -/
def FaithfulStep (ctx : Ctx) (crypto : Crypto) (w : PortWorld) : PortAction → Prop
  | .execute p x => w.store.db.hasVersion p.configId p.targetVersion = false →
      Executes ctx crypto w p x
  | _ => True

/-- A service is stopped by a regenerate, if configs have services of their own. -/
def Stops (ctx : Ctx) (p : Payload) : Prop :=
  ctx.settings.systemd.perConfig = true ∧ 1 < p.targetVersion

/-- In a build the service of the config stays bound to its port until it is stopped. -/
def StaysBound (ctx : Ctx) (w : PortWorld) : PortAction → Prop
  | .execute p x => w.store.db.hasVersion p.configId p.targetVersion = false →
      (x.own = w.bound p.configId ∨ x.own = none ∧ Stops ctx p) ∧
        (x.left = w.bound p.configId ∨ Stops ctx p)
  | _ => True

/-! ## the ways past the check -/

/-- The ways to a port that is not compared with the stored versions of other configs,
of which `d` is one. -/
inductive Unchecked (ctx : Ctx) (w : PortWorld) (p : Payload) (x : PortTask) (d : ConfigId) :
    Int → Prop where
  /-- The version is stored already: its task is executed again. -/
  | again (row : VpnConfigVersionModel)
      (hrow : w.store.db.versions p.configId p.targetVersion = some row) :
      Unchecked ctx w p x d row.port
  /-- A candidate is preferred that is not the port the config has: the public port of
  Hysteria2, or the port of a version that is not the current one. -/
  | preferred (ps : VpnProfileSettings) (req : BuildRequest) (port : Nat)
      (hnew : w.store.db.hasVersion p.configId p.targetVersion = false)
      (hps : ctx.settings.profileSettings p.profile = .ok ps)
      (hreq : buildRequest ctx w.store.db x.usedPorts p = .ok req)
      (hport : preferredPort ps req p.profile = some (port : Int))
      (hcandidate : port ∈ ps.portCandidates)
      (hown : currentPort w.store.db p.configId ≠ some (port : Int)) :
      Unchecked ctx w p x d (port : Int)
  /-- All candidates are blocked, one of them is drawn, and the service of the other
  config is not bound to it. -/
  | exhausted (ps : VpnProfileSettings) (req : BuildRequest) (port : Nat)
      (hnew : w.store.db.hasVersion p.configId p.targetVersion = false)
      (hps : ctx.settings.profileSettings p.profile = .ok ps)
      (hreq : buildRequest ctx w.store.db x.usedPorts p = .ok req)
      (hall : ∀ q ∈ ps.portCandidates, (q : Int) ∈ blockedPorts ctx.settings req p.profile)
      (hpick : pickedPort ctx.settings x.benv ps req p.profile = .ok port)
      (hunbound : w.bound d ≠ some (port : Int)) :
      Unchecked ctx w p x d (port : Int)

/-- A task that succeeds takes no port of another config unchecked. -/
def TakesNoOther (ctx : Ctx) (w : PortWorld) : PortAction → Prop
  | .execute p x => p ∈ w.tasks → (w.store.db.getActive p.configId).isSome →
      ((runConfigTask ctx x.env w.now p).exec w.store).1 = .ok () →
      ∀ d, d ≠ p.configId → transport w.store.db d = some p.profile.udp →
        ∀ port, currentPort w.store.db d = some port → ¬ Unchecked ctx w p x d port
  | _ => True

/-! ## ports under changes of the tables -/

theorem currentPort_eq_some_iff {db : Db} {c : ConfigId} {port : Int} :
    currentPort db c = some port ↔ ∃ config v row, db.getActive c = some config ∧
      config.currentVersion = some v ∧ db.versions c v = some row ∧ row.port = port := by
  simp [currentPort, Option.bind_eq_some_iff]

/-- A change of one config's row that leaves alone what its port depends on. -/
structure KeepsPort (change : VpnConfigModel → VpnConfigModel) : Prop where
  isActive : ∀ row, (change row).isActive = row.isActive
  currentVersion : ∀ row, (change row).currentVersion = row.currentVersion

theorem currentPort_updateConfig {change : VpnConfigModel → VpnConfigModel} (h : KeepsPort change)
    (db : Db) (c d : ConfigId) : currentPort (db.updateConfig c change) d = currentPort db d := by
  unfold currentPort Db.getActive
  rw [Db.updateConfig_configs, Db.updateConfig_versions]
  by_cases hd : d = c
  · subst hd
    rw [if_pos rfl]
    cases hrow : db.configs d with
    | none => rfl
    | some row =>
        cases hactive : row.isActive <;> simp [Option.filter, h.isActive, hactive, h.currentVersion]
  · rw [if_neg hd]

theorem currentPort_updateConfig_ne (change : VpnConfigModel → VpnConfigModel) (db : Db)
    {c d : ConfigId} (hd : d ≠ c) :
    currentPort (db.updateConfig c change) d = currentPort db d := by
  unfold currentPort Db.getActive
  rw [Db.updateConfig_configs, Db.updateConfig_versions, if_neg hd]

theorem transport_updateConfig {change : VpnConfigModel → VpnConfigModel}
    (h : ∀ row, (change row).profile = row.profile) (db : Db) (c d : ConfigId) :
    transport (db.updateConfig c change) d = transport db d := by
  unfold transport
  rw [Db.updateConfig_configs]
  by_cases hd : d = c
  · subst hd
    rw [if_pos rfl, Option.map_map]
    congr 1
    funext row
    simp [h]
  · rw [if_neg hd]

/-- Whether the ports still differ after a change of one config. -/
theorem portsDistinct_change_iff {db db' : Db} {c : ConfigId}
    (htransport : ∀ d, transport db' d = transport db d)
    (hothers : ∀ d, d ≠ c → currentPort db' d = currentPort db d) (h : PortsDistinct db) :
    PortsDistinct db' ↔ ∀ d, d ≠ c → transport db d = transport db c →
      ∀ port, currentPort db d = some port → currentPort db' c ≠ some port := by
  constructor
  · intro h' d hd hsame port hport
    rw [← htransport d, ← htransport c] at hsame
    rw [← hothers d hd] at hport
    exact h' d c hd hsame port hport
  · intro hc d e hne hsame port hport
    rw [htransport, htransport] at hsame
    by_cases hd : d = c
    · subst hd
      rw [hothers e hne.symm]
      exact fun he => hc e hne.symm hsame.symm port he hport
    · rw [hothers d hd] at hport
      by_cases he : e = c
      · subst he
        exact hc d hd hsame port hport
      · rw [hothers e he]
        exact h d e hne hsame port hport

/-! ## the outcome of an execution -/

/-- What an execution has done to the tables, by how it ends. -/
inductive TaskOutcome (ctx : Ctx) (env : TaskEnv) (now : Nat) (p : Payload) (db : Db) :
    Except PyErr Unit → Db → Prop where
  | failed (e : PyErr) (change : VpnConfigModel → VpnConfigModel) (hkeeps : KeepsPort change)
      (hprofile : ∀ row, (change row).profile = row.profile) :
      TaskOutcome ctx env now p db (.error e) (db.updateConfig p.configId change)
  | again (loaded : VpnConfigModel) (hstored : db.hasVersion p.configId p.targetVersion = true)
      (hloaded : db.configs p.configId = some loaded) :
      TaskOutcome ctx env now p db (.ok ())
        (db.updateConfig p.configId (markActive now p.targetVersion loaded))
  | built (row : VpnConfigVersionModel) (ps : VpnProfileSettings) (result : BuildResult)
      (hnew : db.hasVersion p.configId p.targetVersion = false)
      (hps : ctx.settings.profileSettings p.profile = .ok ps)
      (hprepared : env.prepared = .ok ()) (hbuilt : env.built = .ok result)
      (hport : listeningPort p.profile result.configData ps = .ok row.port) :
      TaskOutcome ctx env now p db (.ok ()) (commitBuild now p row db)

section Outcome

variable {ctx : Ctx} {env : TaskEnv} {now : Nat} {p : Payload}

/-- An execution that was prepared had nothing raise before. -/
theorem prepared_of_prepareBuild {h h' : Host}
    (hx : (prepareBuild ctx env p).exec h = (.ok (), h')) :
    env.prepared = .ok () := by
  obtain ⟨ps, s₁, -, hx⟩ := Eff.exec_bind_eq_ok hx
  obtain ⟨u, s₂, hprepared, -⟩ := Eff.exec_bind_eq_ok hx
  rw [Eff.exec_ofExcept] at hprepared
  exact (Prod.mk.inj hprepared).1

/-- What was built listens on the port that is stored. -/
theorem built_of_buildDocuments {h h' : Host} {result : BuildResult}
    (hx : (buildDocuments ctx env p).exec h = (.ok result, h')) :
    ∃ ps built, ctx.settings.profileSettings p.profile = .ok ps ∧ env.built = .ok built ∧
      listeningPort p.profile built.configData ps = .ok result.port := by
  obtain ⟨ps, s₁, hps, hx⟩ := Eff.exec_bind_eq_ok hx
  obtain ⟨built, s₂, hbuilt, hx⟩ := Eff.exec_bind_eq_ok hx
  obtain ⟨port, s₃, hport, hx⟩ := Eff.exec_bind_eq_ok hx
  obtain ⟨configData, s₄, -, hx⟩ := Eff.exec_bind_eq_ok hx
  rw [Eff.exec_ofExcept] at hps hbuilt hport
  have hresult := Except.ok.inj (Prod.mk.inj hx).1
  refine ⟨ps, built, (Prod.mk.inj hps).1, (Prod.mk.inj hbuilt).1, ?_⟩
  rw [(Prod.mk.inj hport).1, ← hresult]

/-- The build of an execution and its commit. -/
theorem outcome_of_build {s s' : Store} {r : Except PyErr Unit}
    (hnew : s.db.hasVersion p.configId p.targetVersion = false)
    (hx : (do
      let row ← buildAndPersistVersion ctx env p
      commit env.committed (commitBuild now p row)).exec s = (r, s')) :
    (∃ e, r = .error e ∧ s'.db = s.db) ∨ r = .ok () ∧ TaskOutcome ctx env now p s.db r s'.db := by
  cases r with
  | error e =>
      refine Or.inl ⟨e, rfl, ?_⟩
      simp only [buildAndPersistVersion, bind_assoc] at hx
      obtain hx | ⟨_, s₁, hprepared, hx⟩ := Eff.exec_bind_eq_error hx
      · exact (of_exec_onHost hx).2
      obtain hx | ⟨result, s₂, hbuilt, hx⟩ := Eff.exec_bind_eq_error hx
      · exact (of_exec_onHost hx).2.trans (of_exec_onHost hprepared).2
      have hdb₂ := (of_exec_onHost hbuilt).2.trans (of_exec_onHost hprepared).2
      obtain hx | ⟨_, s₃, hrestarted, hx⟩ := Eff.exec_bind_eq_error hx
      · exact (of_exec_onHost hx).2.trans hdb₂
      have hdb₃ := (of_exec_onHost hrestarted).2.trans hdb₂
      obtain hx | ⟨_, s₄, hsynced, hx⟩ := Eff.exec_bind_eq_error hx
      · exact (of_exec_onHost hx).2.trans hdb₃
      have hdb₄ := (of_exec_onHost hsynced).2.trans hdb₃
      obtain hx | ⟨row, s₅, hinserted, hx⟩ := Eff.exec_bind_eq_error hx
      · rw [exec_insertRow] at hx
        rw [← (Prod.mk.inj hx).2, hdb₄]
      · rw [exec_insertRow] at hinserted
        rw [← (Prod.mk.inj hinserted).2] at hx
        cases hcommitted : env.committed with
        | some exc =>
            rw [hcommitted, exec_commit_some] at hx
            rw [← (Prod.mk.inj hx).2, hdb₄]
        | none =>
            rw [hcommitted, exec_commit_none] at hx
            cases (Prod.mk.inj hx).1
  | ok u =>
      refine Or.inr ⟨rfl, ?_⟩
      simp only [buildAndPersistVersion, bind_assoc] at hx
      obtain ⟨_, s₁, hprepared, hx⟩ := Eff.exec_bind_eq_ok hx
      obtain ⟨result, s₂, hbuilt, hx⟩ := Eff.exec_bind_eq_ok hx
      obtain ⟨_, s₃, hrestarted, hx⟩ := Eff.exec_bind_eq_ok hx
      obtain ⟨_, s₄, hsynced, hx⟩ := Eff.exec_bind_eq_ok hx
      obtain ⟨row, s₅, hinserted, hx⟩ := Eff.exec_bind_eq_ok hx
      obtain ⟨hprepared, hdb₁⟩ := of_exec_onHost hprepared
      obtain ⟨hbuilt, hdb₂⟩ := of_exec_onHost hbuilt
      obtain ⟨-, hdb₃⟩ := of_exec_onHost hrestarted
      obtain ⟨-, hdb₄⟩ := of_exec_onHost hsynced
      have hdb : s₄.db = s.db := hdb₄.trans (hdb₃.trans (hdb₂.trans hdb₁))
      rw [exec_insertRow] at hinserted
      obtain ⟨hrow, rfl⟩ := Prod.mk.inj hinserted
      obtain ⟨ps, built, hps, hbuilt, hport⟩ := built_of_buildDocuments hbuilt
      cases hcommitted : env.committed with
      | some exc =>
          rw [hcommitted, exec_commit_some] at hx
          cases (Prod.mk.inj hx).1
      | none =>
          rw [hcommitted, exec_commit_none] at hx
          rw [← (Prod.mk.inj hx).2, Store.mapDb_db, hdb]
          refine .built row ps built hnew hps (prepared_of_prepareBuild hprepared) hbuilt ?_
          rw [(versionRow_spec (versionRow_of_insertVersion hrow)).2.2.1, hport]

theorem outcome_of_failConfigTask {s s' : Store} {e : PyErr} {r : Except PyErr Unit}
    (hx : (failConfigTask now p e).exec s = (r, s')) : TaskOutcome ctx env now p s.db r s'.db := by
  cases hrow : s.db.getModel p.configId with
  | some row =>
      rw [exec_failConfigTask_some hrow] at hx
      obtain ⟨rfl, rfl⟩ := Prod.mk.inj hx
      exact .failed e _ ⟨fun _ => rfl, fun _ => rfl⟩ fun _ => rfl
  | none =>
      have hfail : (failConfigTask now p e).exec s = (.error (configNotFound p.configId), s) :=
        Eff.exec_bind_error (exec_selectModel_none hrow)
      have hsame : s.db.updateConfig p.configId id = s.db := by
        have hnone : s.db.configs p.configId = none := hrow
        rw [Db.updateConfig, hnone]
      rw [hfail] at hx
      obtain ⟨rfl, rfl⟩ := Prod.mk.inj hx
      have houtcome : TaskOutcome ctx env now p s.db (.error (configNotFound p.configId))
          (s.db.updateConfig p.configId id) :=
        .failed _ id ⟨fun _ => rfl, fun _ => rfl⟩ fun _ => rfl
      rwa [hsame] at houtcome

/-- **What an execution does to the tables.** -/
theorem outcome_of_runConfigTask {s s' : Store} {r : Except PyErr Unit}
    (hx : (runConfigTask ctx env now p).exec s = (r, s')) :
    TaskOutcome ctx env now p s.db r s'.db := by
  have hguard {r₁ : Except PyErr Unit} {s₁ : Store}
      (htry : (tryConfigTask ctx env now p).exec s = (r₁, s₁))
      (hends : (∃ e, r₁ = .error e ∧ s₁.db = s.db) ∨
        r₁ = .ok () ∧ TaskOutcome ctx env now p s.db r₁ s₁.db) :
      TaskOutcome ctx env now p s.db r s'.db := by
    rw [runConfigTask, Eff.exec_catching, htry] at hx
    obtain ⟨e, rfl, hdb⟩ | ⟨rfl, houtcome⟩ := hends
    · rw [← hdb]
      exact outcome_of_failConfigTask hx
    · obtain ⟨rfl, rfl⟩ := Prod.mk.inj hx
      exact houtcome
  cases hrow : s.db.getModel p.configId with
  | none =>
      have htry : (tryConfigTask ctx env now p).exec s =
        (.error (configNotFound p.configId), s) := by
        rw [tryConfigTask, Eff.exec_bind_ok (Eff.exec_read s)]
        split
        · exact Eff.exec_bind_error (exec_selectModel_none hrow)
        · exact Eff.exec_bind_error (exec_selectModel_none hrow)
      exact hguard htry (Or.inl ⟨_, rfl, rfl⟩)
  | some row =>
      cases hstored : s.db.hasVersion p.configId p.targetVersion with
      | true =>
          have htry : (tryConfigTask ctx env now p).exec s = (commit env.committed fun db =>
              db.updateConfig p.configId (markActive now p.targetVersion row)).exec s := by
            rw [tryConfigTask, Eff.exec_bind_ok (Eff.exec_read s), hstored]
            exact Eff.exec_bind_ok (exec_selectModel_some hrow)
          cases hcommitted : env.committed with
          | some e =>
              rw [hcommitted, exec_commit_some] at htry
              exact hguard htry (Or.inl ⟨e, rfl, rfl⟩)
          | none =>
              rw [hcommitted, exec_commit_none] at htry
              exact hguard htry (Or.inr ⟨rfl, .again row hstored hrow⟩)
      | false =>
          cases hbuild : (do
              let row ← buildAndPersistVersion ctx env p
              commit env.committed (commitBuild now p row)).exec s with
          | mk r₁ s₁ =>
              exact hguard ((exec_tryConfigTask_build hrow hstored).trans hbuild)
                (outcome_of_build hstored hbuild)

end Outcome

/-! ## what an execution makes current -/

section Current

variable {ctx : Ctx} {crypto : Crypto} {w : PortWorld} {p : Payload} {x : PortTask} {d : ConfigId}
  {port : Int}

theorem transport_outcome {env : TaskEnv} {now : Nat} {db db' : Db} {r : Except PyErr Unit}
    (h : TaskOutcome ctx env now p db r db') (c : ConfigId) : transport db' c = transport db c := by
  cases h with
  | failed e change hkeeps hprofile => exact transport_updateConfig hprofile db _ c
  | again loaded hstored hloaded =>
      have hprofile (row : VpnConfigModel) :
          (markActive now p.targetVersion loaded row).profile = row.profile := rfl
      exact transport_updateConfig hprofile db _ c
  | built row ps result hnew hps hprepared hbuilt hport =>
      have hprofile (row : VpnConfigModel) :
          (markBuilt now p.targetVersion row).profile = row.profile := rfl
      rw [commitBuild, transport_updateConfig hprofile]
      rfl

theorem currentPort_outcome_ne {env : TaskEnv} {now : Nat} {db db' : Db} {r : Except PyErr Unit}
    (h : TaskOutcome ctx env now p db r db') {c : ConfigId} (hc : c ≠ p.configId) :
    currentPort db' c = currentPort db c := by
  cases h with
  | failed e change hkeeps hprofile => exact currentPort_updateConfig_ne _ db hc
  | again loaded hstored hloaded => exact currentPort_updateConfig_ne _ db hc
  | built row ps result hnew hps hprepared hbuilt hport =>
      have hversions (v : Nat) : (db.setVersion p.configId p.targetVersion row).versions c v =
          db.versions c v := db.setVersion_versions_ne row (Or.inl hc)
      have hsame : currentPort (db.setVersion p.configId p.targetVersion row) c =
          currentPort db c := by
        unfold currentPort
        simp only [hversions]
        rfl
      rw [commitBuild, currentPort_updateConfig_ne _ _ hc, hsame]

/-- An execution that fails leaves the port as it was. -/
theorem currentPort_outcome_error {env : TaskEnv} {now : Nat} {db db' : Db} {e : PyErr}
    (h : TaskOutcome ctx env now p db (.error e) db') :
    currentPort db' p.configId = currentPort db p.configId := by
  cases h with
  | failed e change hkeeps hprofile => exact currentPort_updateConfig hkeeps db _ _

/-- A config that is not deleted, after its row was changed. -/
theorem currentPort_changed {db : Db} {c : ConfigId} {config : VpnConfigModel} {v : Nat}
    {row : VpnConfigVersionModel} {change : VpnConfigModel → VpnConfigModel}
    (hconfig : db.getActive c = some config) (hactive : (change config).isActive = config.isActive)
    (hcurrent : (change config).currentVersion = some v) (hrow : db.versions c v = some row) :
    currentPort (db.updateConfig c change) c = some row.port := by
  obtain ⟨hfound, hisActive⟩ := Db.getActive_eq_some_iff.mp hconfig
  refine currentPort_eq_some_iff.mpr ⟨change config, v, row, ?_, hcurrent, ?_, rfl⟩
  · rw [Db.getActive_eq_some_iff, Db.updateConfig_configs, if_pos rfl, hfound, hactive]
    exact ⟨rfl, hisActive⟩
  · rw [Db.updateConfig_versions, hrow]

/-- A deleted config has no port afterwards either. -/
theorem currentPort_outcome_deleted {env : TaskEnv} {now : Nat} {db db' : Db}
    {r : Except PyErr Unit} (h : TaskOutcome ctx env now p db r db')
    (hdeleted : db.getActive p.configId = none) : currentPort db' p.configId = none := by
  have hnone (change : VpnConfigModel → VpnConfigModel)
      (hactive : ∀ row, (change row).isActive = row.isActive) (db₁ : Db)
      (hconfigs : db₁.configs = db.configs) :
      currentPort (db₁.updateConfig p.configId change) p.configId = none := by
    have hfilter : (db₁.updateConfig p.configId change).getActive p.configId = none := by
      rw [Db.getActive, Option.filter_eq_none_iff] at hdeleted ⊢
      rw [Db.updateConfig_configs, if_pos rfl, hconfigs]
      intro row' hrow'
      obtain ⟨row, hrow, rfl⟩ := Option.map_eq_some_iff.mp hrow'
      rw [hactive]
      exact hdeleted row hrow
    rw [currentPort, hfilter]
    rfl
  cases h with
  | failed e change hkeeps hprofile => exact hnone change hkeeps.isActive db rfl
  | again loaded hstored hloaded =>
      exact hnone (markActive now p.targetVersion loaded) (fun _ => rfl) db rfl
  | built row ps result hnew hps hprepared hbuilt hport =>
      exact hnone (markBuilt now p.targetVersion) (fun _ => rfl)
        (db.setVersion p.configId p.targetVersion row) rfl

/-- The port that is picked is the port that is stored. -/
theorem picked_of_built {row : VpnConfigVersionModel} {ps : VpnProfileSettings}
    {result : BuildResult} (hps : ctx.settings.profileSettings p.profile = .ok ps)
    (hprepared : x.env.prepared = .ok ()) (hbuilt : x.env.built = .ok result)
    (hport : listeningPort p.profile result.configData ps = .ok row.port)
    (hfrom : BuiltFrom ctx crypto w.store.db p x) :
    ∃ req port, buildRequest ctx w.store.db x.usedPorts p = .ok req ∧
      pickedPort ctx.settings x.benv ps req p.profile = .ok port ∧ row.port = (port : Int) := by
  unfold BuiltFrom at hfrom
  cases hreq : buildRequest ctx w.store.db x.usedPorts p with
  | error e =>
      rw [hreq] at hfrom
      rw [hfrom] at hprepared
      cases hprepared
  | ok req =>
      rw [hreq] at hfrom
      obtain ⟨port, hpick, hlisten⟩ := port_of_build hps (hfrom.symm.trans hbuilt)
      rw [hport] at hlisten
      exact ⟨req, port, rfl, hpick, Except.ok.inj hlisten⟩

/-- What is in use elsewhere is blocked. -/
theorem mem_blockedPorts_of_used {req : BuildRequest} {usedPorts : List Int}
    (hreq : buildRequest ctx w.store.db usedPorts p = .ok req) (h : port ∈ usedPorts) :
    port ∈ blockedPorts ctx.settings req p.profile := by
  have hexclude : port ∈ req.excludePorts := by
    obtain ⟨ps, -, hreq⟩ := Except.bind_eq_ok_iff.mp hreq
    split at hreq
    · contradiction
    · obtain ⟨previous, -, hreq⟩ := Except.bind_eq_ok_iff.mp hreq
      obtain ⟨⟨sni, serviceName⟩, -, hreq⟩ := Except.bind_eq_ok_iff.mp hreq
      rw [← Except.ok.inj hreq]
      dsimp only
      split <;> simp [h]
  cases hprofile : p.profile with
  | hysteria2 => exact List.mem_cons_of_mem _ hexclude
  | _ => exact hexclude

/-- **The ways to the port of another config.**  A build takes it exactly when it
takes it unchecked. -/
theorem built_port_iff {row : VpnConfigVersionModel} {ps : VpnProfileSettings}
    {result : BuildResult} (hnew : w.store.db.hasVersion p.configId p.targetVersion = false)
    (hps : ctx.settings.profileSettings p.profile = .ok ps)
    (hprepared : x.env.prepared = .ok ()) (hbuilt : x.env.built = .ok result)
    (hport : listeningPort p.profile result.configData ps = .ok row.port)
    (hexecutes : Executes ctx crypto w p x) (hdistinct : PortsDistinct w.store.db)
    (hmine : transport w.store.db p.configId = some p.profile.udp) (hd : d ≠ p.configId)
    (hsame : transport w.store.db d = some p.profile.udp)
    (hcurrent : currentPort w.store.db d = some port) :
    row.port = port ↔ Unchecked ctx w p x d port := by
  obtain ⟨req, picked, hreq, hpick, hrow⟩ :=
    picked_of_built hps hprepared hbuilt hport hexecutes.built
  constructor
  · intro heq
    obtain rfl : (picked : Int) = port := hrow.symm.trans heq
    obtain ⟨hmem, hpreferred | ⟨havailable, hfree | hall⟩⟩ := pickPort_spec hpick
    · have hown : currentPort w.store.db p.configId ≠ some (picked : Int) :=
        hdistinct d p.configId hd (hsame.trans hmine.symm) _ hcurrent
      exact .preferred ps req picked hnew hps hreq hpreferred hmem hown
    · -- a port of a stored version of `d` is in use
      obtain ⟨config, v, found, -, -, hfound, hfoundPort⟩ := currentPort_eq_some_iff.mp hcurrent
      have hused : (picked : Int) ∈ x.usedPorts :=
        (hexecutes.used _).mpr ⟨d, hd, v, found, hfound, hfoundPort⟩
      exact absurd (mem_blockedPorts_of_used hreq hused) hfree
    · have hunbound := (hexecutes.probed picked).mp havailable d hsame
      rw [Function.update_of_ne hd] at hunbound
      exact .exhausted ps req picked hnew hps hreq hall hpick hunbound
  · intro hunchecked
    cases hunchecked with
    | again stored hstored => simp [Db.hasVersion, hstored] at hnew
    | preferred ps' req' taken _ hps' hreq' hpreferred hcandidate _ =>
        obtain rfl := Except.ok.inj (hps.symm.trans hps')
        obtain rfl := Except.ok.inj (hreq.symm.trans hreq')
        rw [pickedPort, hpreferred, pickPort_preferred hcandidate] at hpick
        rw [hrow, Except.ok.inj hpick]
    | exhausted ps' req' taken _ hps' hreq' _ hpick' _ =>
        obtain rfl := Except.ok.inj (hps.symm.trans hps')
        obtain rfl := Except.ok.inj (hreq.symm.trans hreq')
        rw [hrow, Except.ok.inj (hpick.symm.trans hpick')]

/-- Whether an execution takes the port of another config. -/
theorem takes_iff {db' : Db} (h : TaskOutcome ctx x.env w.now p w.store.db (.ok ()) db')
    (hexecutes : w.store.db.hasVersion p.configId p.targetVersion = false →
      Executes ctx crypto w p x) (hdistinct : PortsDistinct w.store.db)
    (hactive : (w.store.db.getActive p.configId).isSome)
    (hmine : transport w.store.db p.configId = some p.profile.udp) (hd : d ≠ p.configId)
    (hsame : transport w.store.db d = some p.profile.udp)
    (hcurrent : currentPort w.store.db d = some port) :
    currentPort db' p.configId = some port ↔ Unchecked ctx w p x d port := by
  obtain ⟨config, hconfig⟩ := Option.isSome_iff_exists.mp hactive
  cases h with
  | again loaded hstored hloaded =>
      obtain ⟨row, hrow⟩ := Option.isSome_iff_exists.mp hstored
      obtain rfl : config = loaded :=
        Option.some.inj ((Db.getActive_eq_some_iff.mp hconfig).1.symm.trans hloaded)
      have hcurrentVersion : (markActive w.now p.targetVersion config config).currentVersion =
          some p.targetVersion := by
        rw [markActive_currentVersion]
        split
        · assumption
        · rfl
      rw [currentPort_changed hconfig rfl hcurrentVersion hrow, Option.some.injEq]
      constructor
      · intro hport
        rw [← hport]
        exact .again row hrow
      · intro hunchecked
        cases hunchecked with
        | again row' hrow' => rw [Option.some.inj (hrow.symm.trans hrow')]
        | preferred _ _ _ hnew => simp [Db.hasVersion, hrow] at hnew
        | exhausted _ _ _ hnew => simp [Db.hasVersion, hrow] at hnew
  | built row ps result hnew hps hprepared hbuilt hport =>
      have hchanged : currentPort (commitBuild w.now p row w.store.db) p.configId =
          some row.port := by
        have hconfig' : (w.store.db.setVersion p.configId p.targetVersion row).getActive
            p.configId = some config := hconfig
        exact currentPort_changed hconfig' rfl (markBuilt_currentVersion _ _ _)
          (Db.setVersion_versions_self _ _ _ _)
      rw [hchanged, Option.some.injEq]
      exact built_port_iff hnew hps hprepared hbuilt hport (hexecutes hnew) hdistinct hmine hd hsame
        hcurrent

end Current

/-! ## steps -/

/-- A published task is for the transport of its config. -/
def Published (w : PortWorld) : Prop :=
  ∀ p ∈ w.tasks, transport w.store.db p.configId = some p.profile.udp

/-- What a step that is no execution does to transports and ports: a config may appear
or lose its port, and what is published is for a config that is there. -/
structure Quiet (w w' : PortWorld) : Prop where
  transport : ∀ c b, transport w.store.db c = some b → transport w'.store.db c = some b
  port : ∀ c port, currentPort w'.store.db c = some port → currentPort w.store.db c = some port
  tasks : ∀ p ∈ w'.tasks, p ∈ w.tasks ∨
    VpnPanel.transport w'.store.db p.configId = some p.profile.udp

section Steps

variable {ctx : Ctx} {crypto : Crypto} {w w' : PortWorld}

theorem Quiet.refl (w : PortWorld) : Quiet w w :=
  ⟨fun _ _ h => h, fun _ _ h => h, fun _ hp => Or.inl hp⟩

theorem Quiet.published (h : Quiet w w') (hpublished : Published w) : Published w' := by
  intro p hp
  obtain hold | hnew := h.tasks p hp
  · exact h.transport _ _ (hpublished p hold)
  · exact hnew

/-- A config with a port has a transport. -/
theorem transport_of_currentPort {db : Db} {c : ConfigId} {port : Int}
    (h : currentPort db c = some port) : ∃ b, transport db c = some b := by
  obtain ⟨config, v, row, hconfig, -⟩ := currentPort_eq_some_iff.mp h
  exact ⟨_, by rw [transport, (Db.getActive_eq_some_iff.mp hconfig).1, Option.map_some]⟩

theorem Quiet.distinct (h : Quiet w w') (hdistinct : PortsDistinct w.store.db) :
    PortsDistinct w'.store.db := by
  intro c d hne hsame port hc hd
  have hc' := h.port c port hc
  have hd' := h.port d port hd
  obtain ⟨b, hb⟩ := transport_of_currentPort hc'
  obtain ⟨b', hb'⟩ := transport_of_currentPort hd'
  rw [h.transport c b hb, h.transport d b' hb'] at hsame
  exact hdistinct c d hne (by rw [hb, hb', hsame]) port hc' hd'

/-- A change of a row that leaves profile and port alone, with a task for it or
without. -/
theorem Quiet.updateConfig (c : ConfigId) (change : VpnConfigModel → VpnConfigModel)
    (hprofile : ∀ row, (change row).profile = row.profile)
    (hport : ∀ d port, currentPort (w.store.db.updateConfig c change) d = some port →
      currentPort w.store.db d = some port)
    (hdb : w'.store.db = w.store.db.updateConfig c change)
    (htasks : ∀ p ∈ w'.tasks, p ∈ w.tasks ∨
      VpnPanel.transport w.store.db p.configId = some p.profile.udp) : Quiet w w' := by
  have htransport (d : ConfigId) :
      VpnPanel.transport w'.store.db d = VpnPanel.transport w.store.db d := by
    rw [hdb, transport_updateConfig hprofile]
  constructor
  · intro d b hb
    rw [htransport, hb]
  · intro d port hd
    rw [hdb] at hd
    exact hport d port hd
  · intro p hp
    rw [htransport]
    exact htasks p hp

theorem quiet_create (c : ConfigId) (name : String) (protocol : VpnProtocolType)
    (profile : ConfigProfile) (policy : RegeneratePolicy) (host : Option String) :
    Quiet w (w.create ctx c name protocol profile policy host) := by
  unfold PortWorld.create
  split
  · exact Quiet.refl w
  · next hfresh =>
    have hnone : w.store.db.configs c = none := by
      simp only [Bool.or_eq_true, not_or, Option.isSome_iff_ne_none] at hfresh
      exact not_not.mp hfresh.2
    let row := createPending name protocol profile policy host w.now
    have hother {d : ConfigId} (hd : d ≠ c) :
        (w.store.db.setConfig c row).configs d = w.store.db.configs d :=
      w.store.db.setConfig_configs_ne row hd
    constructor
    · intro d b hb
      have hd : d ≠ c := by
        rintro rfl
        rw [transport, hnone] at hb
        cases hb
      change transport (w.store.db.setConfig c row) d = some b
      rw [transport, hother hd]
      exact hb
    · intro d port hport
      obtain ⟨config, v, found, hconfig, hv, hfound, hfoundPort⟩ :=
        currentPort_eq_some_iff.mp hport
      obtain ⟨hconfig, hactive⟩ := Db.getActive_eq_some_iff.mp hconfig
      change (w.store.db.setConfig c row).configs d = some config at hconfig
      by_cases hd : d = c
      · subst hd
        rw [Db.setConfig_configs_self, Option.some.injEq] at hconfig
        rw [← hconfig] at hv
        cases hv
      · rw [hother hd] at hconfig
        exact currentPort_eq_some_iff.mpr
          ⟨config, v, found, Db.getActive_eq_some_iff.mpr ⟨hconfig, hactive⟩, hv, hfound,
            hfoundPort⟩
    · intro p hp
      obtain rfl | hp := List.mem_cons.mp hp
      · refine Or.inr ?_
        change transport (w.store.db.setConfig c row) c = some profile.udp
        rw [transport, Db.setConfig_configs_self]
        rfl
      · exact Or.inl hp

theorem quiet_regenerate (c : ConfigId) : Quiet w (w.regenerate c) := by
  unfold PortWorld.regenerate
  cases hconfig : w.store.db.getActive c with
  | none => exact Quiet.refl w
  | some config =>
      dsimp only
      cases hv : config.currentVersion with
      | none => exact Quiet.refl w
      | some v =>
          dsimp only
          cases hbusy : config.status.busy with
          | true => exact Quiet.refl w
          | false =>
              have hkeeps : KeepsPort (prepareRegenerate w.now config) :=
                ⟨fun _ => rfl, fun _ => rfl⟩
              refine Quiet.updateConfig c (prepareRegenerate w.now config) (fun _ => rfl)
                (fun d port hd => ?_) rfl fun p hp => ?_
              · rwa [currentPort_updateConfig hkeeps] at hd
              · obtain rfl | hp := List.mem_cons.mp hp
                · rw [transport, (Db.getActive_eq_some_iff.mp hconfig).1]
                  exact Or.inr rfl
                · exact Or.inl hp

theorem quiet_setPolicy (c : ConfigId) (policy : RegeneratePolicy) :
    Quiet w (w.setPolicy c policy) := by
  unfold PortWorld.setPolicy
  cases hconfig : w.store.db.getActive c with
  | none => exact Quiet.refl w
  | some config =>
      have hkeeps : KeepsPort (updateRegeneratePolicy w.now policy config) :=
        ⟨fun _ => rfl, fun _ => rfl⟩
      refine Quiet.updateConfig c (updateRegeneratePolicy w.now policy config) (fun _ => rfl)
        (fun d port hd => ?_) rfl fun p hp => Or.inl hp
      rwa [currentPort_updateConfig hkeeps] at hd

theorem quiet_delete (c : ConfigId) : Quiet w (w.delete ctx c) := by
  unfold PortWorld.delete
  split
  · exact Quiet.refl w
  · refine Quiet.updateConfig c (softDelete w.now) (fun _ => rfl) (fun d port hd => ?_) rfl
      fun p hp => Or.inl hp
    by_cases hne : d = c
    · subst hne
      obtain ⟨config, v, row, hconfig, -⟩ := currentPort_eq_some_iff.mp hd
      obtain ⟨hconfig, hactive⟩ := Db.getActive_eq_some_iff.mp hconfig
      rw [Db.updateConfig_configs, if_pos rfl] at hconfig
      obtain ⟨old, -, rfl⟩ := Option.map_eq_some_iff.mp hconfig
      cases hactive
    · rwa [currentPort_updateConfig_ne _ _ hne] at hd

theorem store_execute (p : Payload) (x : PortTask) :
    (w.execute ctx p x).store = ((runConfigTask ctx x.env w.now p).exec w.store).2 := by
  unfold PortWorld.execute
  split <;> rfl

theorem tasks_execute (p : Payload) (x : PortTask) : (w.execute ctx p x).tasks = w.tasks := by
  unfold PortWorld.execute
  split <;> rfl

theorem published_step (hpublished : Published w) (a : PortAction) :
    Published (PortWorld.step ctx w a) := by
  cases a with
  | create c name protocol profile policy host =>
      exact (quiet_create c name protocol profile policy host).published hpublished
  | regenerate c => exact (quiet_regenerate c).published hpublished
  | setPolicy c policy => exact (quiet_setPolicy c policy).published hpublished
  | delete c => exact (quiet_delete c).published hpublished
  | execute p x =>
      change Published (if p ∈ w.tasks then w.execute ctx p x else w)
      split
      · intro q hq
        rw [tasks_execute] at hq
        cases hx : (runConfigTask ctx x.env w.now p).exec w.store with
        | mk r s' =>
            rw [store_execute, hx, transport_outcome (outcome_of_runConfigTask hx)]
            exact hpublished q hq
      · exact hpublished

/-- An execution keeps the ports distinct exactly when it takes none unchecked. -/
theorem portsDistinct_execute_iff {p : Payload} {x : PortTask} (hp : p ∈ w.tasks)
    (hpublished : Published w) (hdistinct : PortsDistinct w.store.db)
    (hfaithful : FaithfulStep ctx crypto w (.execute p x)) :
    PortsDistinct (w.execute ctx p x).store.db ↔ TakesNoOther ctx w (.execute p x) := by
  have hmine := hpublished p hp
  rw [store_execute]
  cases hx : (runConfigTask ctx x.env w.now p).exec w.store with
  | mk r s' =>
      have houtcome := outcome_of_runConfigTask hx
      rw [portsDistinct_change_iff (transport_outcome houtcome)
        (fun d hd => currentPort_outcome_ne houtcome hd) hdistinct]
      have hr : ((runConfigTask ctx x.env w.now p).exec w.store).1 = r := by rw [hx]
      cases hactive : w.store.db.getActive p.configId with
      | none =>
          have hnone := currentPort_outcome_deleted houtcome hactive
          constructor
          · intro _ _ hsome
            rw [hactive] at hsome
            cases hsome
          · intro _ d _ _ port _ hport
            rw [hnone] at hport
            cases hport
      | some config =>
          have hsome : (w.store.db.getActive p.configId).isSome := by rw [hactive]; rfl
          cases r with
          | error e =>
              have hkept := currentPort_outcome_error houtcome
              constructor
              · intro _ _ _ hok
                rw [hr] at hok
                cases hok
              · intro _ d hd hsame port hport
                rw [hkept]
                exact hdistinct d p.configId hd hsame port hport
          | ok u =>
              constructor
              · intro h _ _ _ d hd hsame port hcurrent hunchecked
                exact h d hd (hsame.trans hmine.symm) port hcurrent
                  ((takes_iff houtcome hfaithful hdistinct hsome hmine hd hsame hcurrent).mpr
                    hunchecked)
              · intro h d hd hsame port hcurrent htaken
                have hsame' := hsame.trans hmine
                exact h hp hsome hr d hd hsame' port hcurrent
                  ((takes_iff houtcome hfaithful hdistinct hsome hmine hd hsame' hcurrent).mp
                    htaken)

/-- A step keeps the ports distinct exactly when it takes none unchecked. -/
theorem portsDistinct_step_iff (hpublished : Published w) (hdistinct : PortsDistinct w.store.db)
    {a : PortAction} (hfaithful : FaithfulStep ctx crypto w a) :
    PortsDistinct (PortWorld.step ctx w a).store.db ↔ TakesNoOther ctx w a := by
  cases a with
  | create c name protocol profile policy host =>
      exact iff_of_true ((quiet_create c name protocol profile policy host).distinct hdistinct)
        trivial
  | regenerate c => exact iff_of_true ((quiet_regenerate c).distinct hdistinct) trivial
  | setPolicy c policy => exact iff_of_true ((quiet_setPolicy c policy).distinct hdistinct) trivial
  | delete c => exact iff_of_true ((quiet_delete c).distinct hdistinct) trivial
  | execute p x =>
      change PortsDistinct (if p ∈ w.tasks then w.execute ctx p x else w).store.db ↔ _
      split
      · next hp => exact portsDistinct_execute_iff hp hpublished hdistinct hfaithful
      · next hp => exact iff_of_true hdistinct fun hmem => absurd hmem hp

end Steps

/-- **When the ports differ.**  In every state of a run of create and regenerate tasks
the ports of the current versions of two configs with one transport differ, exactly when
no task that succeeds takes the port of another config unchecked: because its version is
stored already, because a candidate is preferred that the config does not have, or
because all candidates are blocked and the other config's service does not run on it. -/
theorem portsDistinct_iff {ctx : Ctx} {crypto : Crypto} {host : Host} {as : List PortAction}
    (hfaithful : Machine.Meets (PortWorld.step ctx) (FaithfulStep ctx crypto)
      (PortWorld.init host) as) :
    (∀ bs, bs <+: as →
        PortsDistinct (Machine.run (PortWorld.step ctx) (PortWorld.init host) bs).store.db) ↔
      Machine.Meets (PortWorld.step ctx) (TakesNoOther ctx) (PortWorld.init host) as := by
  have hpublished : Published (PortWorld.init host) := fun p hp => by cases hp
  have hdistinct : PortsDistinct (PortWorld.init host).store.db := by
    intro c d _ _ port hc
    obtain ⟨config, v, row, hconfig, -⟩ := currentPort_eq_some_iff.mp hc
    cases hconfig
  exact Machine.always_iff_meets (I := Published)
    (P := fun w => PortsDistinct w.store.db)
    (fun w a hI _ _ => published_step hI a)
    (fun w a hI hP hH => portsDistinct_step_iff hI hP hH) hpublished hdistinct hfaithful

/-! ## two runs -/

/-- An installation with one candidate for all profiles. -/
def Ctx.onePort : Ctx :=
  { Ctx.sample with
    settings := { Ctx.sample.settings with
      profiles := fun _ => some { sampleProfile with portCandidates := [443] } } }

/-- The task of a new Reality config. -/
def firstTask (c : ConfigId) : Payload := ⟨c, .xrayReality, "c", 1⟩

/-- Its execution. -/
def firstBuild (ctx : Ctx) (usedPorts : List Int) (available : Nat → Bool) : PortTask where
  env :=
    { built := build Crypto.sample ctx.settings
        { BuildEnv.sample (realityTemplate []) with available := available }
        { excludePorts := usedPorts } .xrayReality }
  benv := { BuildEnv.sample (realityTemplate []) with available := available }
  usedPorts := usedPorts
  own := none
  left := none

/-- An execution that stops the service and does not find the template. -/
def missingTemplate : PortTask where
  env := failingBuild
  benv :=
    { BuildEnv.sample .none with
      template := .error ⟨.osError, "Template not found: config.json"⟩ }
  usedPorts := []
  own := none
  left := none

/-- A Reality config is created and built. -/
def builtConfig (ctx : Ctx) (c : ConfigId) (usedPorts : List Int) (available : Nat → Bool) :
    List PortAction :=
  [.create c "c" .xray .xrayReality {} none,
    .execute (firstTask c) (firstBuild ctx usedPorts available)]

/-- A second config is built while the service of the first one is stopped. -/
def stoppedThenBuilt : List PortAction :=
  builtConfig Ctx.onePort 0 [] (fun _ => true) ++
    [.regenerate 0, .execute ⟨0, .xrayReality, "c", 2⟩ missingTemplate] ++
    builtConfig Ctx.onePort 1 [443] fun _ => true

/-- A second config is built while the service of the first one runs. -/
def twoBuilt : List PortAction :=
  builtConfig Ctx.allProfiles 0 [] (fun _ => true) ++
    builtConfig Ctx.allProfiles 1 [443] fun port => port ≠ 443

/-- The only stored version is the first one of config 0. -/
theorem listsUsedPorts_of_first {db : Db} {row : VpnConfigVersionModel} {c : ConfigId}
    {usedPorts : List Int}
    (hversions : ∀ c' v, db.versions c' v = if c' = 0 ∧ v = 1 then some row else none)
    (hused : ∀ port, port ∈ usedPorts ↔ c ≠ 0 ∧ row.port = port) :
    ListsUsedPorts db c usedPorts := by
  intro port
  rw [hused]
  constructor
  · rintro ⟨hc, hport⟩
    exact ⟨0, hc.symm, 1, row, by rw [hversions, if_pos ⟨rfl, rfl⟩], hport⟩
  · rintro ⟨c', hne, v, found, hfound, hport⟩
    rw [hversions] at hfound
    split at hfound
    · next h =>
      obtain rfl := Option.some.inj hfound
      rw [h.1] at hne
      exact ⟨hne.symm, hport⟩
    · cases hfound

theorem listsUsedPorts_of_none {db : Db} (hversions : ∀ c v, db.versions c v = none)
    (c : ConfigId) : ListsUsedPorts db c [] := by
  intro port
  simp [hversions]

/-- With all ports available and no service of another config running. -/
theorem probed_of_unbound {w : PortWorld} {p : Payload} {x : PortTask}
    (havailable : ∀ port, x.benv.available port = true) (hown : x.own = none)
    (hbound : ∀ d, d ≠ p.configId → w.bound d = none) : Probed w p x := by
  intro port
  refine iff_of_true (havailable port) fun d _ => ?_
  by_cases hd : d = p.configId
  · rw [hd, Function.update_self, hown]
    simp
  · rw [Function.update_of_ne hd, hbound d hd]
    simp

/-- Two configs with two candidates. -/
theorem portsDistinct_of_twoBuilt :
    PortsDistinct (Machine.run (PortWorld.step Ctx.allProfiles) (PortWorld.init Host.blank)
      twoBuilt).store.db := by
  have hfaithful : Machine.Meets (PortWorld.step Ctx.allProfiles)
      (FaithfulStep Ctx.allProfiles Crypto.sample) (PortWorld.init Host.blank) twoBuilt := by
    refine ⟨trivial, fun _ => ?_, trivial, fun _ => ?_, trivial⟩
    · exact ⟨listsUsedPorts_of_none (fun _ _ => rfl) 0, rfl,
        probed_of_unbound (fun _ => rfl) rfl fun _ _ => rfl⟩
    · refine ⟨listsUsedPorts_of_first (fun _ _ => rfl) fun port => ?_, rfl, fun port => ?_⟩
      · change port ∈ [443] ↔ (1 : Nat) ≠ 0 ∧ (443 : Int) = port
        simp [eq_comm]
      · change decide (port ≠ 443) = true ↔ ∀ d, _ →
          Function.update (Function.update (fun _ => none) 0 (some 443)) 1 none d ≠
            some (port : Int)
        rw [decide_eq_true_eq]
        constructor
        · intro hport d _
          by_cases hone : d = 1
          · simp [hone]
          · by_cases hzero : d = 0
            · simp [hzero]
              omega
            · simp [hone, hzero]
        · intro h hport
          exact h 0 rfl (by simp [hport])
  refine (portsDistinct_iff hfaithful).mpr ?_ twoBuilt (List.prefix_refl _)
  refine ⟨trivial, fun _ _ _ d hd htransport => ?_, trivial,
    fun _ _ _ d _ _ port _ hunchecked => ?_,
    trivial⟩
  · have hzero : d ≠ 0 := hd
    have hnone : transport (Db.empty.setConfig 0
        (createPending "c" .xray .xrayReality {} none 0)) d = none := by
      rw [transport, Db.setConfig_configs_ne _ _ hzero]
      rfl
    exact absurd (htransport.symm.trans hnone) (by simp)
  · cases hunchecked with
    | again row hrow => cases hrow
    | preferred ps req port hnew hps hreq hpreferred =>
        cases hreq
        cases hpreferred
    | exhausted ps req port hnew hps hreq hall =>
        cases hps
        cases hreq
        have hblocked := hall 8443 (by decide)
        change (8443 : Int) ∈ [443] at hblocked
        simp at hblocked

/-- **A port is taken while its service is stopped.**  With one candidate, a regenerate
that fails after the stop leaves the port of its config to the next config. -/
theorem not_portsDistinct_of_stopped :
    Machine.Meets (PortWorld.step Ctx.onePort) (FaithfulStep Ctx.onePort Crypto.sample)
        (PortWorld.init Host.blank) stoppedThenBuilt ∧
      Machine.Meets (PortWorld.step Ctx.onePort) (StaysBound Ctx.onePort)
        (PortWorld.init Host.blank) stoppedThenBuilt ∧
      ¬ PortsDistinct (Machine.run (PortWorld.step Ctx.onePort) (PortWorld.init Host.blank)
        stoppedThenBuilt).store.db := by
  have hstops : Stops Ctx.onePort ⟨0, .xrayReality, "c", 2⟩ := ⟨rfl, by decide⟩
  refine ⟨⟨trivial, fun _ => ?_, trivial, fun _ => ?_, trivial, fun _ => ?_, trivial⟩,
    ⟨trivial, fun _ => ⟨Or.inl rfl, Or.inl rfl⟩, trivial,
      fun _ => ⟨Or.inr ⟨rfl, hstops⟩, Or.inr hstops⟩, trivial,
      fun _ => ⟨Or.inl rfl, Or.inl rfl⟩, trivial⟩, fun h => ?_⟩
  · exact ⟨listsUsedPorts_of_none (fun _ _ => rfl) 0, rfl,
      probed_of_unbound (fun _ => rfl) rfl fun _ _ => rfl⟩
  · exact ⟨listsUsedPorts_of_first (fun _ _ => rfl) fun _ => by simp [missingTemplate], rfl,
      probed_of_unbound (fun _ => rfl) rfl fun d hd => Function.update_of_ne hd _ _⟩
  · refine ⟨listsUsedPorts_of_first (fun _ _ => rfl) fun port => ?_, rfl,
      probed_of_unbound (fun _ => rfl) rfl fun d _ => ?_⟩
    · change port ∈ [443] ↔ (1 : Nat) ≠ 0 ∧ (443 : Int) = port
      simp [eq_comm]
    · by_cases hd : d = 0
      · subst hd
        rfl
      · exact (Function.update_of_ne hd _ _).trans (Function.update_of_ne hd _ _)
  · exact h 0 1 (by decide) rfl 443 rfl rfl

end VpnPanel
