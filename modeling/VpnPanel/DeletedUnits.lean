import VpnPanel.Lifecycle

/-!
# VpnPanel.DeletedUnits

What a delete leaves of a config's unit and live directory.

`remove_config_unit` returns at once when there is no unit file where it looks
for one.  A build that failed before its unit was written has left a live
directory all the same, and it stays.  Where there is a unit file, a directory
the process may not delete stays, since `rmtree` ignores its errors.
`leavesNothing_iff` says when a delete leaves nothing.
-/

namespace VpnPanel

/-- Neither the directory nor a file in it. -/
structure NoLiveDir (dir : String) (c : ConfigId) (h : Host) : Prop where
  absent : h.liveDirs dir c = false
  live : ∀ filename, h.live.get? ⟨dir, c, filename⟩ = none
  pems : ∀ name, h.pems (.live dir c) name = none

/-- Neither a unit file, the panel's or the wrapper's, nor the live directory. -/
structure NothingLeft (settings : SystemdSettings) (profile : ConfigProfile) (c : ConfigId)
    (h : Host) : Prop where
  unit : h.units settings.unitDir (configServiceName settings c) = none
  wrapperUnit : h.units wrapperUnitDir (configServiceName settings c) = none
  live : NoLiveDir (liveDir profile settings) c h

/-- `DeleteConfigUseCase.execute`. -/
def deleteConfig (ctx : Ctx) (env : RequestEnv) (now : Nat) (c : ConfigId) :
    Eff Store PyErr Unit := do
  let s ← Eff.read
  match s.db.getActive c with
  | none => Eff.raise configNotFoundError
  | some config => do
      onHost (deleteUnit ctx env c config.profile)
      let s ← Eff.read
      match s.db.getActive c with
      | none => Eff.raise configNotFoundError
      | some _ => commit env.committed fun db => db.updateConfig c (softDelete now)

/-! ## the unit -/

/-- The call raises something else than `CalledProcessError`. -/
def raisesPast (faults : Faults) (op : HostOp) : Bool :=
  match faults op with
  | some f => !f.err.isCalledProcessError
  | none => false

/-- `stop` or `disable` raises what `remove_config_unit` does not pass over. -/
def stopRaises (faults : Faults) : Bool := raisesPast faults .stop || raisesPast faults .disable

/-- The panel's own unlink is done. -/
def unlinks (faults : Faults) : Bool :=
  !stopRaises faults &&
    match faults .unlinkUnit with
    | some f => f.applied
    | none => true

/-- The wrapper is asked to remove the unit. -/
def asksWrapper (faults : Faults) : Bool :=
  stopRaises faults || (faults .unlinkUnit).isSome || (faults .daemonReload).isSome

/-- The `try` block of `remove_config_unit`. -/
def unlinkUnit (faults : Faults) (settings : SystemdSettings) (name : ServiceName) :
    HostM Unit := do
  Eff.catching PyErr.isCalledProcessError
    (attempt faults .stop fun h => h.setService name .stopped) fun _ => pure ()
  Eff.catching PyErr.isCalledProcessError
    (attempt faults .disable fun h => h.setEnabled name false) fun _ => pure ()
  attempt faults .unlinkUnit fun h => h.setUnit settings.unitDir name none
  attempt faults .daemonReload id

/-- When a delete that returns leaves nothing: there is a unit file where it
looks, which goes, where the wrapper keeps its units elsewhere there is none
left there, and the process may delete a live directory that is there; or there
is nothing to begin with. -/
def LeavesNothing (faults : Faults) (undeletable : Undeletable) (settings : SystemdSettings)
    (profile : ConfigProfile) (c : ConfigId) (h : Host) : Prop :=
  if (h.units settings.unitDir (configServiceName settings c)).isNone then
    h.units wrapperUnitDir (configServiceName settings c) = none ∧
      NoLiveDir (liveDir profile settings) c h
  else
    (settings.unitDir = wrapperUnitDir ∨ unlinks faults = true ∧
      (asksWrapper faults = true ∨ h.units wrapperUnitDir (configServiceName settings c) = none)) ∧
    (undeletable = none ∨ NoLiveDir (liveDir profile settings) c h)

variable {faults : Faults} {undeletable : Undeletable} {settings : SystemdSettings}
  {profile : ConfigProfile} {c : ConfigId} {h h' : Host}

/-- A call whose `CalledProcessError` is passed over, and that changes no unit
file. -/
theorem exec_passing (faults : Faults) (op : HostOp) (effect : Host → Host)
    (hunits : ∀ h, (effect h).units = h.units) (h : Host) :
    ∃ r h₁, (Eff.catching PyErr.isCalledProcessError (attempt faults op effect)
      fun _ => pure ()).exec h = (r, h₁) ∧ r.isOk = !raisesPast faults op ∧ h₁.units = h.units := by
  cases hop : faults op with
  | none =>
      refine ⟨_, _, by rw [Eff.exec_catching, exec_attempt_of_none hop], ?_, hunits h⟩
      simp [raisesPast, hop, Except.isOk, Except.toBool]
  | some f =>
      have hkept : (if f.applied then effect h else h).units = h.units := by
        split
        · exact hunits h
        · rfl
      cases hcalled : f.err.isCalledProcessError with
      | true =>
          refine ⟨.ok (), _, ?_, ?_, hkept⟩
          · rw [Eff.exec_catching, exec_attempt_of_fault hop]
            simp [hcalled]
          · simp [raisesPast, hop, hcalled, Except.isOk, Except.toBool]
      | false =>
          refine ⟨.error f.err, _, ?_, ?_, hkept⟩
          · rw [Eff.exec_catching, exec_attempt_of_fault hop]
            simp [hcalled]
          · simp [raisesPast, hop, hcalled, Except.isOk, Except.toBool]

/-- The files of the config, unit files apart, are the same. -/
def SameFiles (h h' : Host) : Prop :=
  h'.liveDirs = h.liveDirs ∧ h'.live = h.live ∧ h'.pems = h.pems

instance : IsPreorder Host SameFiles where
  refl _ := ⟨rfl, rfl, rfl⟩
  trans _ _ _ h h' := ⟨h'.1.trans h.1, h'.2.1.trans h.2.1, h'.2.2.trans h.2.2⟩

theorem NoLiveDir.congr {dir : String} (hsame : SameFiles h h') :
    NoLiveDir dir c h' ↔ NoLiveDir dir c h := by
  obtain ⟨hdirs, hlive, hpems⟩ := hsame
  constructor
  · exact fun ⟨habsent, hfiles, hcerts⟩ => ⟨by rw [← hdirs, habsent],
      fun filename => by rw [← hlive, hfiles], fun name => by rw [← hpems, hcerts]⟩
  · exact fun ⟨habsent, hfiles, hcerts⟩ => ⟨by rw [hdirs, habsent],
      fun filename => by rw [hlive, hfiles], fun name => by rw [hpems, hcerts]⟩

/-- Stopping the service and removing the unit leave the other files alone. -/
theorem within_unlinkUnit (faults : Faults) (settings : SystemdSettings) (name : ServiceName) :
    Eff.Within SameFiles (unlinkUnit faults settings name) := by
  have hpassing (op : HostOp) (effect : Host → Host) (hsame : ∀ h, SameFiles h (effect h)) :
      Eff.Within SameFiles (Eff.catching PyErr.isCalledProcessError (attempt faults op effect)
        fun _ => pure ()) := Eff.Within.catching (within_attempt hsame) fun _ => Eff.Within.pure _
  refine Eff.Within.bind (hpassing .stop _ fun _ => ⟨rfl, rfl, rfl⟩) fun _ => ?_
  refine Eff.Within.bind (hpassing .disable _ fun _ => ⟨rfl, rfl, rfl⟩) fun _ => ?_
  exact Eff.Within.bind (within_attempt fun _ => ⟨rfl, rfl, rfl⟩) fun _ =>
    within_attempt fun _ => ⟨rfl, rfl, rfl⟩

/-- The `try` block returns unless the wrapper is asked; the unit file is gone
or all unit files are as they were. -/
theorem exec_unlinkUnit (faults : Faults) (settings : SystemdSettings) (name : ServiceName)
    (h : Host) : ∃ r h₁, (unlinkUnit faults settings name).exec h = (r, h₁) ∧
      r.isOk = !asksWrapper faults ∧
      h₁.units = if unlinks faults then (h.setUnit settings.unitDir name none).units
        else h.units := by
  obtain ⟨r₁, h₁, hstop, hok₁, hunits₁⟩ := exec_passing faults .stop
    (fun h => h.setService name .stopped) (fun _ => rfl) h
  obtain ⟨r₂, h₂, hdisable, hok₂, hunits₂⟩ := exec_passing faults .disable
    (fun h => h.setEnabled name false) (fun _ => rfl) h₁
  cases r₁ with
  | error e =>
      have hraises : raisesPast faults .stop = true := by
        simpa [Except.isOk, Except.toBool] using hok₁
      refine ⟨_, _, Eff.exec_bind_error hstop, ?_, ?_⟩
      · simp [asksWrapper, stopRaises, hraises, Except.isOk, Except.toBool]
      · simp [unlinks, stopRaises, hraises, hunits₁]
  | ok u =>
      have hpast₁ : raisesPast faults .stop = false := by
        simpa [Except.isOk, Except.toBool] using hok₁
      cases r₂ with
      | error e =>
          have hraises : raisesPast faults .disable = true := by
            simpa [Except.isOk, Except.toBool] using hok₂
          refine ⟨_, _, (Eff.exec_bind_ok hstop).trans (Eff.exec_bind_error hdisable), ?_, ?_⟩
          · simp [asksWrapper, stopRaises, hraises, Except.isOk, Except.toBool]
          · simp [unlinks, stopRaises, hraises, hunits₂, hunits₁]
      | ok u =>
          have hpast₂ : raisesPast faults .disable = false := by
            simpa [Except.isOk, Except.toBool] using hok₂
          have hset : (h₂.setUnit settings.unitDir name none).units =
              (h.setUnit settings.unitDir name none).units := by
            simp only [Host.setUnit, hunits₂, hunits₁]
          have hrest : (unlinkUnit faults settings name).exec h = (do
              attempt faults .unlinkUnit fun h => h.setUnit settings.unitDir name none
              attempt faults .daemonReload id).exec h₂ := by
            rw [unlinkUnit, Eff.exec_bind_ok hstop, Eff.exec_bind_ok hdisable]
          rw [hrest]
          cases hunlink : faults .unlinkUnit with
          | some f =>
              refine ⟨_, _, Eff.exec_bind_error (exec_attempt_of_fault hunlink h₂), ?_, ?_⟩
              · simp [asksWrapper, hunlink, Except.isOk, Except.toBool]
              · cases happlied : f.applied with
                | true => simp [unlinks, stopRaises, hpast₁, hpast₂, hunlink, happlied, hset]
                | false =>
                    simp [unlinks, stopRaises, hpast₁, hpast₂, hunlink, happlied, hunits₂, hunits₁]
          | none =>
              rw [Eff.exec_bind_ok (exec_attempt_of_none hunlink h₂)]
              have hdone : unlinks faults = true := by
                simp [unlinks, stopRaises, hpast₁, hpast₂, hunlink]
              cases hreload : faults .daemonReload with
              | some f =>
                  refine ⟨_, _, exec_attempt_of_fault hreload _, ?_, ?_⟩
                  · simp [asksWrapper, hreload, Except.isOk, Except.toBool]
                  · rw [if_pos hdone]
                    split <;> exact hset
              | none =>
                  refine ⟨_, _, exec_attempt_of_none hreload _, ?_, ?_⟩
                  · simp [asksWrapper, stopRaises, hpast₁, hpast₂, hunlink, hreload, Except.isOk,
                      Except.toBool]
                  · rw [if_pos hdone]
                    exact hset

/-- `rmtree` leaves nothing of a directory that the process may delete, or that
is not there. -/
theorem noLiveDir_removeLiveDir_iff (h : Host) (dir : String) (c : ConfigId)
    (undeletable : Undeletable) :
    NoLiveDir dir c (h.removeLiveDir dir c undeletable) ↔
      undeletable = none ∨ NoLiveDir dir c h := by
  cases undeletable with
  | none =>
      refine iff_of_true ⟨?_, ?_, ?_⟩ (Or.inl rfl)
      · simp [Host.removeLiveDir]
      · intro filename
        simp [Host.removeLiveDir, Undeletable.deletes, Dict.get?_filter]
      · intro name
        simp [Host.removeLiveDir, Undeletable.deletes]
  | some stays =>
      rw [or_iff_right (by simp)]
      cases hthere : h.liveDirs dir c with
      | false =>
          -- nothing is deleted in a directory that is not there
          refine NoLiveDir.congr ⟨?_, ?_, ?_⟩
          · funext d c'
            simp [Host.removeLiveDir]
          · simp [Host.removeLiveDir, Undeletable.deletes, hthere, Dict.filter]
          · funext base name
            simp [Host.removeLiveDir, Undeletable.deletes, hthere]
      | true =>
          have hstays : (h.removeLiveDir dir c (some stays)).liveDirs dir c = true := by
            simp [Host.removeLiveDir, hthere]
          exact iff_of_false (fun hno => by simp [hno.absent] at hstays)
            fun hno => by simp [hno.absent] at hthere

/-- The `try` block and its `except`. -/
def removeUnit (faults : Faults) (settings : SystemdSettings) (name : ServiceName) :
    HostM Unit :=
  Eff.catching (fun e => e.isOSError || e.isCalledProcessError) (unlinkUnit faults settings name)
    fun _ => attempt faults .removeUnitWrapper fun h =>
      ((h.setService name .stopped).setEnabled name false).setUnit wrapperUnitDir name none

theorem exec_removeConfigUnit (h : Host) :
    (removeConfigUnit faults undeletable profile c settings).exec h =
      (if (h.units settings.unitDir (configServiceName settings c)).isNone then pure ()
      else do
        removeUnit faults settings (configServiceName settings c)
        Eff.update fun h => h.removeLiveDir (liveDir profile settings) c undeletable :
          HostM Unit).exec h := rfl

theorem within_removeUnit (faults : Faults) (settings : SystemdSettings) (name : ServiceName) :
    Eff.Within SameFiles (removeUnit faults settings name) :=
  Eff.Within.catching (within_unlinkUnit faults settings name) fun _ =>
    within_attempt fun _ => ⟨rfl, rfl, rfl⟩

/-- Where the panel's unlink is the last word, it has been done. -/
theorem unlinks_of_not_asksWrapper (h : asksWrapper faults = false) : unlinks faults = true := by
  simp only [asksWrapper, Bool.or_eq_false_iff] at h
  obtain ⟨⟨hstop, hnone⟩, -⟩ := h
  have hnone : faults .unlinkUnit = none := by simpa using hnone
  simp [unlinks, hstop, hnone]

/-- When the unit file is gone from both directories. -/
theorem unitsGone_iff {name : ServiceName} (hunit : h.units settings.unitDir name ≠ none)
    (hx : (removeUnit faults settings name).exec h = (.ok (), h')) :
    h'.units settings.unitDir name = none ∧ h'.units wrapperUnitDir name = none ↔
      settings.unitDir = wrapperUnitDir ∨ unlinks faults = true ∧
        (asksWrapper faults = true ∨ h.units wrapperUnitDir name = none) := by
  obtain ⟨r, h₁, hunlink, hok, hunits⟩ := exec_unlinkUnit faults settings name h
  rw [removeUnit, Eff.exec_catching, hunlink] at hx
  cases r with
  | ok u =>
      have hasks : asksWrapper faults = false := by
        simpa [Except.isOk, Except.toBool] using hok
      have hdone := unlinks_of_not_asksWrapper hasks
      obtain rfl : h₁ = h' := congrArg Prod.snd hx
      rw [if_pos hdone] at hunits
      rw [hunits]
      by_cases hdir : settings.unitDir = wrapperUnitDir
      · simp [Host.setUnit, hdir]
      · simp [Host.setUnit, hdir, hdone, hasks, Ne.symm hdir]
  | error e =>
      have hasks : asksWrapper faults = true := by
        simpa [Except.isOk, Except.toBool] using hok
      have hhandled : (e.isOSError || e.isCalledProcessError) = true := by
        by_contra hnot
        simp [hnot] at hx
      simp only [hhandled, if_true] at hx
      obtain ⟨-, rfl⟩ := exec_attempt_ok hx
      by_cases hdir : settings.unitDir = wrapperUnitDir
      · simp [Host.setUnit, hdir]
      · cases hdone : unlinks faults with
        | true =>
            rw [if_pos hdone] at hunits
            simp [Host.setUnit, Host.setEnabled, Host.setService, hunits, hasks]
        | false =>
            rw [if_neg (by simp [hdone])] at hunits
            simp [Host.setUnit, Host.setEnabled, Host.setService, hunits, hdir, hunit]

/-- What `remove_config_unit` leaves when it returns. -/
theorem nothingLeft_iff
    (hx : (removeConfigUnit faults undeletable profile c settings).exec h = (.ok (), h')) :
    NothingLeft settings profile c h' ↔
      LeavesNothing faults undeletable settings profile c h := by
  rw [exec_removeConfigUnit] at hx
  unfold LeavesNothing
  split at hx
  · next hnone =>
    cases hx
    rw [if_pos hnone]
    exact ⟨fun hleft => ⟨hleft.wrapperUnit, hleft.live⟩,
      fun ⟨hwrapper, hlive⟩ => ⟨Option.isNone_iff_eq_none.mp hnone, hwrapper, hlive⟩⟩
  · next hsome =>
    rw [if_neg hsome]
    obtain ⟨_, h₂, hremove, hdone⟩ := Eff.exec_bind_eq_ok hx
    cases hdone
    have hsame : SameFiles h h₂ := (within_removeUnit faults settings _).of_exec hremove
    have hlive : NoLiveDir (liveDir profile settings) c
          (h₂.removeLiveDir (liveDir profile settings) c undeletable) ↔
        undeletable = none ∨ NoLiveDir (liveDir profile settings) c h := by
      rw [noLiveDir_removeLiveDir_iff, NoLiveDir.congr hsame]
    have hunit : h.units settings.unitDir (configServiceName settings c) ≠ none := by
      simpa using hsome
    rw [← hlive, ← unitsGone_iff hunit hremove]
    exact ⟨fun ⟨hunit, hwrapper, hno⟩ => ⟨⟨hunit, hwrapper⟩, hno⟩,
      fun ⟨⟨hunit, hwrapper⟩, hno⟩ => ⟨hunit, hwrapper, hno⟩⟩

/-! ## the delete -/

/-- **A delete that returns leaves nothing** of the config's unit and live
directory exactly when `LeavesNothing` holds before it. -/
theorem leavesNothing_iff {ctx : Ctx} {env : RequestEnv} {now : Nat} {s s' : Store}
    {config : VpnConfigModel} (hper : ctx.settings.systemd.perConfig = true)
    (hconfig : s.db.getActive c = some config)
    (hx : (deleteConfig ctx env now c).exec s = (.ok (), s')) :
    NothingLeft ctx.settings.systemd config.profile c s'.host ↔
      LeavesNothing env.faults env.undeletable ctx.settings.systemd config.profile c s.host := by
  rw [deleteConfig, Eff.exec_bind_ok (Eff.exec_read s)] at hx
  simp only [hconfig] at hx
  obtain ⟨_, s₁, hunit, hx⟩ := Eff.exec_bind_eq_ok hx
  rw [Eff.exec_bind_ok (Eff.exec_read s₁)] at hx
  have hhost : s'.host = s₁.host := by
    split at hx
    · cases hx
    · cases hcommit : env.committed with
      | some e =>
          rw [hcommit, exec_commit_some] at hx
          cases hx
      | none =>
          rw [hcommit, exec_commit_none] at hx
          cases hx
          rfl
  rw [hhost]
  obtain ⟨hunit, -⟩ := of_exec_onHost hunit
  rw [deleteUnit, if_pos hper] at hunit
  obtain ⟨_, h₁, hsettings, hunit⟩ := Eff.exec_bind_eq_ok hunit
  rw [Eff.exec_ofExcept] at hsettings
  obtain rfl : s.host = h₁ := congrArg Prod.snd hsettings
  exact nothingLeft_iff hunit

/-- The theorem for the installation with one built config. -/
theorem leavesNothing_of_firstStore :
    NothingLeft Ctx.sample.settings.systemd .xrayXhttp 0
      ((deleteConfig Ctx.sample {} 0 0).exec firstStore).2.host := by
  have hx : (deleteConfig Ctx.sample {} 0 0).exec firstStore =
      (.ok (), ((deleteConfig Ctx.sample {} 0 0).exec firstStore).2) := rfl
  obtain ⟨config, hconfig, hprofile⟩ : ∃ config, firstStore.db.getActive 0 = some config ∧
      config.profile = .xrayXhttp := ⟨_, rfl, rfl⟩
  have hbefore : LeavesNothing Faults.none none Ctx.sample.settings.systemd config.profile 0
      firstStore.host := by
    have hunit : (firstStore.host.units Ctx.sample.settings.systemd.unitDir
        (configServiceName Ctx.sample.settings.systemd 0)).isNone = false := rfl
    rw [LeavesNothing, hunit]
    exact ⟨Or.inl rfl, Or.inl rfl⟩
  rw [← hprofile]
  exact (leavesNothing_iff rfl hconfig hx).mpr hbefore

/-- A build whose unit cannot be written, by the panel or by the wrapper. -/
def unwrittenUnit : TaskEnv :=
  { sampleBuild 443 with
    faults := fun
      | .writeUnit => some ⟨⟨.permissionError, "Permission denied"⟩, false, .stopped⟩
      | .writeUnitWrapper => some ⟨⟨.calledProcessError, "vpn-systemctl write-unit"⟩, false,
        .stopped⟩
      | _ => none }

/-- Config 0 is created and its build fails so. -/
def failedStore : Store :=
  (runFrom Ctx.sample Host.blank ([.create 0 0 "c" .xray .xrayXhttp none none,
    .advance 0 { publish := .accepted 0 }, .advance 0 {}, .deliver 0 0] ++
    List.replicate 8 (.work 0 unwrittenUnit))).store

/-- **A delete after a failed build** returns and leaves the live directory
with the config. -/
theorem not_nothingLeft_of_unwrittenUnit :
    ((deleteConfig Ctx.sample {} 0 0).exec failedStore).1 = .ok () ∧
      ¬ NothingLeft Ctx.sample.settings.systemd .xrayXhttp 0
        ((deleteConfig Ctx.sample {} 0 0).exec failedStore).2.host := by
  refine ⟨rfl, fun h => ?_⟩
  have hdir : ((deleteConfig Ctx.sample {} 0 0).exec failedStore).2.host.liveDirs
      (liveDir .xrayXhttp Ctx.sample.settings.systemd) 0 = true := rfl
  rw [h.live.absent] at hdir
  cases hdir

end VpnPanel
