import VpnPanel.Host

/-!
# VpnPanel.SystemdUnit

Per-config systemd units: `systemd_unit.py`.

`wrapperUnitDir` is where the root wrapper `vpn-systemctl` puts a unit when
the panel may not write the unit directory itself.  Restarting a service makes
it read the live file its unit names.
-/

namespace VpnPanel

def wrapperUnitDir : String := "/etc/systemd/system"

/-- `config_service_name`. -/
def configServiceName (settings : SystemdSettings) (configId : ConfigId) : ServiceName :=
  .config settings.servicePrefix configId

/-- `xray_config_dir` or `hysteria_config_dir`. -/
def liveDir (profile : ConfigProfile) (settings : SystemdSettings) : String :=
  match profile with
  | .hysteria2 => settings.hysteriaConfigDir
  | _ => settings.xrayConfigDir

/-- `live_config_path`. -/
def liveConfigPath (profile : ConfigProfile) (configId : ConfigId) (filename : String)
    (settings : SystemdSettings) : LiveKey :=
  ⟨liveDir profile settings, configId, filename⟩

/-- The values `install_config_unit` passes to `render_unit`. -/
def configUnit (profile : ConfigProfile) (configId : ConfigId) (filename configName : String)
    (settings : SystemdSettings) : UnitFile where
  description :=
    let name := PyStr.strip configName
    if name = "" then (configServiceName settings configId).render else name
  profile := profile
  binary := match profile with
    | .hysteria2 => settings.hysteriaBinary
    | _ => settings.xrayBinary
  configPath := liveConfigPath profile configId filename settings

/-- `render_unit`. -/
def UnitFile.render (u : UnitFile) : String :=
  let execStart := match u.profile with
    | .hysteria2 => u.binary ++ " server -c " ++ u.configPath.render
    | _ => u.binary ++ " run -config " ++ u.configPath.render
  "[Unit]\n" ++
    "Description=VPN " ++ u.description ++ " (" ++ u.profile.value ++ ")\n" ++
    "After=network-online.target\n" ++
    "Wants=network-online.target\n" ++
    "\n" ++
    "[Service]\n" ++
    "Type=simple\n" ++
    "ExecStart=" ++ execStart ++ "\n" ++
    "LimitNOFILE=1048576\n" ++
    "\n" ++
    "[Install]\n" ++
    "WantedBy=multi-user.target\n"

def Host.setUnit (h : Host) (dir : String) (name : ServiceName) (u : Option UnitFile) : Host :=
  { h with units := fun d n => if d = dir ∧ n = name then u else h.units d n }

def Host.setEnabled (h : Host) (name : ServiceName) (b : Bool) : Host :=
  { h with enabled := fun n => if n = name then b else h.enabled n }

/-- A service started on what stands in a live file. -/
def Host.startOn (h : Host) (name : ServiceName) (key : LiveKey) : Host :=
  h.setService name (.running (h.live.get? key).join)

/-- `install_config_unit`. -/
def installConfigUnit (faults : Faults) (profile : ConfigProfile) (configId : ConfigId)
    (filename configName : String) (settings : SystemdSettings) : HostM Unit := do
  let name := configServiceName settings configId
  let unit := configUnit profile configId filename configName settings
  let h ← Eff.read
  let firstInstall := (h.units settings.unitDir name).isNone
  Eff.catching PyErr.isPermissionError
    (attempt faults .writeUnit fun h => h.setUnit settings.unitDir name (some unit))
    fun _ => attempt faults .writeUnitWrapper fun h => h.setUnit wrapperUnitDir name (some unit)
  attempt faults .daemonReload id
  if firstInstall then attempt faults .enable fun h => h.setEnabled name true
  attemptStart faults .restart name fun h => h.startOn name unit.configPath
  attemptStart faults .waitReady name id

/-- `stop_config_unit`. -/
def stopConfigUnit (faults : Faults) (configId : ConfigId) (settings : SystemdSettings) :
    HostM Unit :=
  let name := configServiceName settings configId
  Eff.catching PyErr.isCalledProcessError
    (attempt faults .stop fun h => h.setService name .stopped)
    fun _ => pure ()

/-- What the process may not delete of a live directory: nothing, or the
directory and these of the names in it. -/
abbrev Undeletable := Option (String → Bool)

/-- Of a directory that is there the names that may not be deleted stay. -/
def Undeletable.deletes (undeletable : Undeletable) (there : Bool) (name : String) : Bool :=
  match undeletable with
  | none => true
  | some stays => there && !stays name

/-- `shutil.rmtree(live_dir, ignore_errors=True)`: what may not be deleted
stays, and nothing is said about it. -/
def Host.removeLiveDir (h : Host) (dir : String) (configId : ConfigId)
    (undeletable : Undeletable) : Host :=
  let deleted := undeletable.deletes (h.liveDirs dir configId)
  { h with
    liveDirs := fun d c => !(d = dir && c = configId && undeletable.isNone) && h.liveDirs d c
    live := h.live.filter fun k => !(k.dir = dir && k.configId = configId && deleted k.filename)
    pems := fun base name =>
      if base = .live dir configId && deleted name then none else h.pems base name }

/-- `remove_config_unit`. -/
def removeConfigUnit (faults : Faults) (undeletable : Undeletable) (profile : ConfigProfile)
    (configId : ConfigId) (settings : SystemdSettings) : HostM Unit := do
  let name := configServiceName settings configId
  let h ← Eff.read
  if (h.units settings.unitDir name).isNone then pure ()
  else do
    Eff.catching (fun e => e.isOSError || e.isCalledProcessError)
      (do
        Eff.catching PyErr.isCalledProcessError
          (attempt faults .stop fun h => h.setService name .stopped) fun _ => pure ()
        Eff.catching PyErr.isCalledProcessError
          (attempt faults .disable fun h => h.setEnabled name false) fun _ => pure ()
        attempt faults .unlinkUnit fun h => h.setUnit settings.unitDir name none
        attempt faults .daemonReload id)
      fun _ => attempt faults .removeUnitWrapper fun h =>
        ((h.setService name .stopped).setEnabled name false).setUnit wrapperUnitDir name none
    Eff.update fun h => h.removeLiveDir (liveDir profile settings) configId undeletable

/-! ## what `rmtree` leaves -/

section RemoveLiveDir

variable (h : Host) (dir : String) (configId : ConfigId) (undeletable : Undeletable)

/-- A live file stays as it is, or it is one of the directory and goes. -/
theorem live_removeLiveDir (key : LiveKey) :
    (h.removeLiveDir dir configId undeletable).live.get? key = h.live.get? key ∨
      (key.dir = dir ∧ key.configId = configId) ∧
        (h.removeLiveDir dir configId undeletable).live.get? key = none := by
  simp only [Host.removeLiveDir, Dict.get?_filter]
  split
  · exact Or.inl rfl
  · next hgone =>
    simp only [Bool.not_eq_true', Bool.not_eq_false, Bool.and_eq_true, decide_eq_true_eq] at hgone
    exact Or.inr ⟨hgone.1, rfl⟩

/-- A name in a certificate directory stays as it is, or the directory is the
live one and it goes. -/
theorem pems_removeLiveDir (base : CertBase) (name : String) :
    (h.removeLiveDir dir configId undeletable).pems base name = h.pems base name ∨
      base = .live dir configId ∧
        (h.removeLiveDir dir configId undeletable).pems base name = none := by
  simp only [Host.removeLiveDir]
  split
  · next hgone =>
    simp only [Bool.and_eq_true, decide_eq_true_eq] at hgone
    exact Or.inr ⟨hgone.1, rfl⟩
  · exact Or.inl rfl

end RemoveLiveDir

/-! ## what they can do to the machine

Each function stays within every preorder on machines that its own changes
stay within, wherever it fails. -/

section Within

variable {R : Host → Host → Prop} [IsPreorder Host R] {faults : Faults} {configId : ConfigId}
  {settings : SystemdSettings}

theorem within_installConfigUnit {profile : ConfigProfile} {filename configName : String}
    (hunit : ∀ h dir u, R h (h.setUnit dir (configServiceName settings configId) (some u)))
    (henable : ∀ h, R h (h.setEnabled (configServiceName settings configId) true))
    (hservice : ∀ h st, R h (h.setService (configServiceName settings configId) st)) :
    Eff.Within R (installConfigUnit faults profile configId filename configName settings) := by
  unfold installConfigUnit
  refine Eff.Within.bind Eff.Within.read fun h => ?_
  refine Eff.Within.bind (Eff.Within.catching (within_attempt fun h => hunit h _ _)
    fun _ => within_attempt fun h => hunit h _ _) fun _ => ?_
  refine Eff.Within.bind (within_attempt (refl_of R)) fun _ => ?_
  have hstart : Eff.Within R (do
      attemptStart faults .restart (configServiceName settings configId) fun h =>
        h.startOn (configServiceName settings configId)
          (configUnit profile configId filename configName settings).configPath
      attemptStart faults .waitReady (configServiceName settings configId) id) :=
    Eff.Within.bind (within_attemptStart (fun h => hservice h _) hservice) fun _ =>
      within_attemptStart (refl_of R) hservice
  split
  · exact Eff.Within.bind (within_attempt henable) fun _ => hstart
  · exact hstart

theorem within_stopConfigUnit
    (hservice : ∀ h, R h (h.setService (configServiceName settings configId) .stopped)) :
    Eff.Within R (stopConfigUnit faults configId settings) :=
  Eff.Within.catching (within_attempt hservice) fun _ => Eff.Within.pure _

theorem within_removeConfigUnit {undeletable : Undeletable} {profile : ConfigProfile}
    (hservice : ∀ h, R h (h.setService (configServiceName settings configId) .stopped))
    (hdisable : ∀ h, R h (h.setEnabled (configServiceName settings configId) false))
    (hunit : ∀ h dir, R h (h.setUnit dir (configServiceName settings configId) none))
    (hremove : ∀ h, R h (h.removeLiveDir (liveDir profile settings) configId undeletable)) :
    Eff.Within R (removeConfigUnit faults undeletable profile configId settings) := by
  unfold removeConfigUnit
  refine Eff.Within.bind Eff.Within.read fun h => ?_
  split
  · exact Eff.Within.pure _
  · refine Eff.Within.bind (Eff.Within.catching ?_ fun _ => ?_) fun _ =>
      Eff.Within.update hremove
    · refine Eff.Within.bind (Eff.Within.catching (within_attempt hservice)
        fun _ => Eff.Within.pure _) fun _ => ?_
      refine Eff.Within.bind (Eff.Within.catching (within_attempt hdisable)
        fun _ => Eff.Within.pure _) fun _ => ?_
      exact Eff.Within.bind (within_attempt fun h => hunit h _) fun _ =>
        within_attempt (refl_of R)
    · exact within_attempt fun h =>
        trans_of R (trans_of R (hservice h) (hdisable _)) (hunit _ _)

end Within

end VpnPanel
