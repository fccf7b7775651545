import VpnPanel.LifecycleSteps

/-!
# VpnPanel.HostSteps

What the steps of executions, edits and deletes can do to the machine, for
whatever one wants to know of it: a preorder on machines that the changes made
for one config stay within (`Allows`) is one that every step for that config
stays within.
-/

namespace VpnPanel

/-- What is done to the machine for config `c` stays within `R`. -/
structure Allows (settings : PanelSettings) (c : ConfigId) (R : Host → Host → Prop) : Prop where
  pem : ∀ h profile ps name entry, OwnEntry name entry →
    R h (h.setPem (certBase settings profile ps c) name entry)
  liveDir : ∀ h profile, R h (h.makeLiveDir (VpnPanel.liveDir profile settings.systemd) c)
  archive : ∀ h filename doc, R h (h.setArchive c filename doc)
  live : ∀ h profile filename doc,
    R h (h.setLive (liveConfigPath profile c filename settings.systemd) doc)
  active : settings.systemd.perConfig = false → ∀ h path doc, R h (h.setActive path doc)
  unit : ∀ h dir u, R h (h.setUnit dir (configServiceName settings.systemd c) (some u))
  enable : ∀ h, R h (h.setEnabled (configServiceName settings.systemd c) true)
  service : ∀ h state, R h (h.setService (configServiceName settings.systemd c) state)
  shared : settings.systemd.perConfig = false →
    ∀ h name state, R h (h.setService (.profile name) state)
  stream : ∀ h path conf, R h (h.setStreamConf path conf)

/-- What a delete does to the machine for config `c` stays within `R`. -/
structure AllowsDelete (settings : SystemdSettings) (c : ConfigId) (R : Host → Host → Prop) :
    Prop where
  stop : ∀ h, R h (h.setService (configServiceName settings c) .stopped)
  disable : ∀ h, R h (h.setEnabled (configServiceName settings c) false)
  unit : ∀ h dir, R h (h.setUnit dir (configServiceName settings c) none)
  live : ∀ h profile undeletable,
    R h (h.removeLiveDir (liveDir profile settings) c undeletable)

section Within

variable {ctx : Ctx} {R : Host → Host → Prop} [IsPreorder Host R]

theorem Allows.within_writeDocuments {c : ConfigId} {faults : Faults} {timestamp : Nat}
    {profile : ConfigProfile} {result : BuildResult} (h : Allows ctx.settings c R) :
    Eff.Within R (writeDocuments ctx.settings faults timestamp profile c result) := by
  unfold writeDocuments
  refine Eff.Within.bind (Eff.Within.ofExcept _) fun ps => ?_
  refine Eff.Within.bind (within_prepareDocuments (fun h' => h.liveDir h' profile)
    (fun h' => h.pem h' profile ps) h.archive) fun doc => ?_
  exact Eff.Within.bind (within_writeServed (fun h' => h.live h' profile _) h.active)
    fun _ => Eff.Within.pure _

theorem Allows.within_restartService {c : ConfigId} {faults : Faults} {profile : ConfigProfile}
    {name : String} (h : Allows ctx.settings c R) :
    Eff.Within R (restartService ctx.settings faults profile c name) :=
  VpnPanel.within_restartService h.unit h.enable h.service h.shared

theorem Allows.within_syncMux {c : ConfigId} {faults : Faults} {profile : ConfigProfile}
    {doc : PyVal} (h : Allows ctx.settings c R) :
    Eff.Within R (syncMux ctx.settings faults profile doc) :=
  VpnPanel.within_syncMux h.stream

theorem Allows.within_prepareBuild {env : TaskEnv} {p : Payload}
    (h : Allows ctx.settings p.configId R) : Eff.Within R (prepareBuild ctx env p) := by
  unfold prepareBuild
  refine Eff.Within.bind (Eff.Within.ofExcept _) fun _ => ?_
  refine Eff.Within.bind (Eff.Within.ofExcept _) fun _ => ?_
  split
  · exact within_stopConfigUnit fun h' => h.service h' _
  · exact Eff.Within.pure _

theorem Allows.within_buildDocuments {env : TaskEnv} {p : Payload}
    (h : Allows ctx.settings p.configId R) : Eff.Within R (buildDocuments ctx env p) := by
  unfold buildDocuments
  refine Eff.Within.bind (Eff.Within.ofExcept _) fun _ => ?_
  refine Eff.Within.bind (Eff.Within.ofExcept _) fun _ => ?_
  refine Eff.Within.bind (Eff.Within.ofExcept _) fun _ => ?_
  exact Eff.Within.bind h.within_writeDocuments fun _ => Eff.Within.pure _

/-- A step of an execution stays within what its config allows. -/
theorem Allows.taskMove {env : TaskEnv} {p : Payload} {s s' : Store} {stage stage' : TaskStage}
    (h : stage.holdsLock = true → Allows ctx.settings p.configId R)
    (hmove : TaskMove ctx env p s stage stage' s') : R s.host s'.host := by
  cases hmove with
  | prepare h' hx | prepareFail h' e hx => exact (h rfl).within_prepareBuild.of_exec hx
  | build h' result hx | buildFail h' e hx => exact (h rfl).within_buildDocuments.of_exec hx
  | restart h' result hx | restartFail h' e result hx =>
      exact (h rfl).within_restartService.of_exec hx
  | sync h' result hx | syncFail h' e result hx => exact (h rfl).within_syncMux.of_exec hx
  | _ => exact refl_of R _

/-- The steps of an edit before it writes do nothing to the machine. -/
def EditStage.writes : EditStage → Bool
  | writing _ _ | restarting _ _ | syncing _ _ => true
  | _ => false

theorem Allows.editMove {env : EditEnv} {s s' : Store} {stage stage' : EditStage}
    (h : stage.writes = true → Allows ctx.settings stage.configId R)
    (hmove : EditMove ctx env s stage stage' s') : R s.host s'.host := by
  cases hmove with
  | write plan loaded h' doc hx => exact (h rfl).within_writeDocuments.of_exec hx
  | restart plan loaded h' hx => exact (h rfl).within_restartService.of_exec hx
  | sync plan loaded h' hx => exact (h rfl).within_syncMux.of_exec hx
  | _ => exact refl_of R _

theorem Allows.editEnd {env : EditEnv} {now : Nat} {s s' : Store} {stage : EditStage}
    {out : Except PyErr Unit} (h : stage.writes = true → Allows ctx.settings stage.configId R)
    (hend : EditEnd ctx env now s stage out s') : R s.host s'.host := by
  cases hend with
  | writeFail plan loaded h' e hx => exact (h rfl).within_writeDocuments.of_exec hx
  | restartFail plan loaded h' e hx => exact (h rfl).within_restartService.of_exec hx
  | syncFail plan loaded h' e hx => exact (h rfl).within_syncMux.of_exec hx
  | _ => exact refl_of R _

theorem AllowsDelete.of_deleteUnit {env : RequestEnv} {c : ConfigId} {profile : ConfigProfile}
    {h₀ h' : Host} {r : Except PyErr Unit} (h : AllowsDelete ctx.settings.systemd c R)
    (hx : (deleteUnit ctx env c profile).exec h₀ = (r, h')) : R h₀ h' := by
  have hwithin : Eff.Within R (deleteUnit ctx env c profile) := by
    unfold deleteUnit
    split
    · exact Eff.Within.bind (Eff.Within.ofExcept _) fun _ =>
        within_removeConfigUnit h.stop h.disable h.unit fun h' => h.live h' profile _
    · exact Eff.Within.pure _
  exact hwithin.of_exec hx

/-- **A step stays within `R`** when the changes made for the config it is
about do. -/
theorem host_of_step {w w' : World} {a : Action} (hstep : Step ctx w a w')
    (hexec : ∀ e x, a.executes = some e → w.executions e = some x → x.stage.holdsLock = true →
      Allows ctx.settings x.payload.configId R)
    (hedit : ∀ r stage, a.request = some r → w.requests r = some (.editing stage) →
      stage.writes = true → Allows ctx.settings stage.configId R)
    (hdelete : ∀ r c profile, a.request = some r → w.requests r = some (.deleting c profile) →
      AllowsDelete ctx.settings.systemd c R) : R w.host w'.host := by
  cases hstep with
  | editNext r env stage stage' s hr hlock hmove =>
      exact Allows.editMove (hedit r stage rfl hr) hmove
  | editDone r env stage s out hr hend => exact Allows.editEnd (hedit r stage rfl hr) hend
  | deleteUnit r env c profile h out stage hr hx hstage =>
      exact (hdelete r c profile rfl hr).of_deleteUnit hx
  | taskNext e env x stage s he hlock hmove => exact Allows.taskMove (hexec e x rfl he) hmove
  | taskDone e env x out s he hlock hend =>
      rw [World.report_host]
      have heq : s.host = w.host := hend.host_eq
      simp only [World.relock_host, World.setExecution_host, World.setStore_host, heq]
      exact refl_of R _
  | _ => exact refl_of R _

end Within

/-! ## live files -/

/-- The live files of config `c` are the same. -/
def SameLive (c : ConfigId) (h h' : Host) : Prop :=
  ∀ key : LiveKey, key.configId = c → h'.live.get? key = h.live.get? key

instance (c : ConfigId) : IsPreorder Host (SameLive c) where
  refl _ _ _ := rfl
  trans _ _ _ h h' key hkey := (h' key hkey).trans (h key hkey)

theorem SameLive.of_eq {c : ConfigId} {h h' : Host} (heq : h'.live = h.live) : SameLive c h h' :=
  fun key _ => by rw [heq]

/-- What is done for another config leaves them alone. -/
theorem allows_sameLive {settings : PanelSettings} {c c' : ConfigId} (hne : c' ≠ c) :
    Allows settings c' (SameLive c) where
  pem _ _ _ _ _ _ := .of_eq rfl
  liveDir _ _ := .of_eq rfl
  archive _ _ _ := .of_eq rfl
  live h profile filename doc key hkey := by
    have hkey' : liveConfigPath profile c' filename settings.systemd ≠ key := by
      rintro rfl
      exact hne hkey
    simp [Host.setLive, hkey']
  active _ _ _ _ := .of_eq rfl
  unit _ _ _ := .of_eq rfl
  enable _ := .of_eq rfl
  service _ _ := .of_eq rfl
  shared _ _ _ _ := .of_eq rfl
  stream _ _ _ := .of_eq rfl

theorem allowsDelete_sameLive {systemd : SystemdSettings} {c c' : ConfigId} (hne : c' ≠ c) :
    AllowsDelete systemd c' (SameLive c) where
  stop _ := .of_eq rfl
  disable _ := .of_eq rfl
  unit _ _ := .of_eq rfl
  live h _ undeletable key hkey :=
    (live_removeLiveDir h _ c' undeletable key).resolve_right fun ⟨⟨_, hat⟩, _⟩ =>
      hne (hat.symm.trans hkey)

section Live

variable {ctx : Ctx}

theorem keeps_live_restartService {faults : Faults} {profile : ConfigProfile} {c : ConfigId}
    {name : String} : Eff.Keeps Host.live (restartService ctx.settings faults profile c name) :=
  within_restartService (fun _ _ _ => rfl) (fun _ => rfl) (fun _ _ => rfl) fun _ _ _ _ => rfl

theorem keeps_live_syncMux {faults : Faults} {profile : ConfigProfile} {doc : PyVal} :
    Eff.Keeps Host.live (syncMux ctx.settings faults profile doc) :=
  within_syncMux fun _ _ _ => rfl

theorem keeps_live_prepareBuild {env : TaskEnv} {p : Payload} :
    Eff.Keeps Host.live (prepareBuild ctx env p) := by
  unfold prepareBuild
  refine Eff.Within.bind (Eff.Within.ofExcept _) fun _ => ?_
  refine Eff.Within.bind (Eff.Within.ofExcept _) fun _ => ?_
  split
  · exact within_stopConfigUnit fun _ => rfl
  · exact Eff.Within.pure _

/-- Of the steps of an execution only the build replaces live files. -/
theorem live_of_taskMove {env : TaskEnv} {p : Payload} {s s' : Store} {stage stage' : TaskStage}
    (hmove : TaskMove ctx env p s stage stage' s') :
    stage = .building ∨ s'.host.live = s.host.live := by
  cases hmove with
  | prepare h' hx | prepareFail h' e hx => exact Or.inr (keeps_live_prepareBuild.of_exec hx)
  | build h' result hx | buildFail h' e hx => exact Or.inl rfl
  | restart h' result hx | restartFail h' e result hx =>
      exact Or.inr (keeps_live_restartService.of_exec hx)
  | sync h' result hx | syncFail h' e result hx => exact Or.inr (keeps_live_syncMux.of_exec hx)
  | _ => exact Or.inr rfl

/-- Of the steps of an edit only the write of its documents does. -/
theorem live_of_editMove {env : EditEnv} {s s' : Store} {stage stage' : EditStage}
    (hmove : EditMove ctx env s stage stage' s') :
    (∃ plan loaded, stage = .writing plan loaded ∧ stage' = .restarting plan loaded) ∨
      s'.host.live = s.host.live := by
  cases hmove with
  | write plan loaded h' doc hx => exact Or.inl ⟨plan, loaded, rfl, rfl⟩
  | restart plan loaded h' hx => exact Or.inr (keeps_live_restartService.of_exec hx)
  | sync plan loaded h' hx => exact Or.inr (keeps_live_syncMux.of_exec hx)
  | _ => exact Or.inr rfl

theorem live_of_editEnd {env : EditEnv} {now : Nat} {s s' : Store} {stage : EditStage}
    {out : Except PyErr Unit} (hend : EditEnd ctx env now s stage out s') :
    (∃ plan loaded e, stage = .writing plan loaded ∧ out = .error e) ∨
      s'.host.live = s.host.live := by
  cases hend with
  | writeFail plan loaded h' e hx => exact Or.inl ⟨plan, loaded, e, rfl, rfl⟩
  | restartFail plan loaded h' e hx => exact Or.inr (keeps_live_restartService.of_exec hx)
  | syncFail plan loaded h' e hx => exact Or.inr (keeps_live_syncMux.of_exec hx)
  | _ => exact Or.inr rfl

/-- What a step does to the live files of a config. -/
inductive LiveChange (ctx : Ctx) (w w' : World) (c : ConfigId) : Action → Prop where
  | same (a : Action) (h : SameLive c w.host w'.host) : LiveChange ctx w w' c a
  | built (e : ExecutionId) (env : TaskEnv) (x : Execution) (he : w.executions e = some x)
      (hc : x.payload.configId = c) (hstage : x.stage = .building) (hdb : w'.db = w.db) :
      LiveChange ctx w w' c (.work e env)
  | edited (r : RequestId) (env : RequestEnv) (plan : EditPlan) (loaded : VpnConfigVersionModel)
      (hr : w.requests r = some (.editing (.writing plan loaded))) (hc : plan.configId = c)
      (hnext : w'.requests r = some (.editing (.restarting plan loaded)) ∨
        ∃ e s, EditEnd ctx env.toEditEnv w.now w.store (.writing plan loaded) (.error e) s) :
      LiveChange ctx w w' c (.advance r env)
  | removed (r : RequestId) (env : RequestEnv) (profile : ConfigProfile)
      (hr : w.requests r = some (.deleting c profile)) : LiveChange ctx w w' c (.advance r env)

/-- The live files of a config change by a build, an edit or a delete of it. -/
theorem liveChange_of_step {w w' : World} {a : Action} (hstep : Step ctx w a w') (c : ConfigId) :
    LiveChange ctx w w' c a := by
  cases hstep with
  | editNext r env stage stage' s hr hlock hmove =>
      by_cases hc : stage.configId = c
      · obtain ⟨plan, loaded, rfl, rfl⟩ | hsame := live_of_editMove hmove
        · exact .edited r env plan loaded hr hc (Or.inl (by simp))
        · exact .same _ (.of_eq hsame)
      · exact .same _ (Allows.editMove (fun _ => allows_sameLive hc) hmove)
  | editDone r env stage s out hr hend =>
      by_cases hc : stage.configId = c
      · obtain ⟨plan, loaded, e, rfl, rfl⟩ | hsame := live_of_editEnd hend
        · exact .edited r env plan loaded hr hc (Or.inr ⟨e, s, hend⟩)
        · exact .same _ (.of_eq hsame)
      · exact .same _ (Allows.editEnd (fun _ => allows_sameLive hc) hend)
  | deleteUnit r env c' profile h out stage hr hx hstage =>
      by_cases hc : c' = c
      · subst hc
        exact .removed r env profile hr
      · exact .same _ ((allowsDelete_sameLive hc).of_deleteUnit hx)
  | taskNext e env x stage s he hlock hmove =>
      by_cases hc : x.payload.configId = c
      · obtain hbuilding | hsame := live_of_taskMove hmove
        · exact .built e env x he hc hbuilding (by simp [hmove.db_eq])
        · exact .same _ (.of_eq hsame)
      · exact .same _ (Allows.taskMove (fun _ => allows_sameLive hc) hmove)
  | taskDone e env x out s he hlock hend =>
      refine .same _ (.of_eq ?_)
      have heq : s.host = w.host := hend.host_eq
      simp [heq]
  | _ => exact .same _ (.of_eq rfl)

end Live

end VpnPanel
