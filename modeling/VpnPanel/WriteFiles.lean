import VpnPanel.SystemdUnit

/-!
# VpnPanel.WriteFiles

`ProfileConfigBuilder.write_files`, in the three parts between which another
process can run: the documents (`writeDocuments`), the service
(`restartService`) and the nginx mux (`syncRealityShared443`).

`write_files` changes the document it is given: with certificates of its own
it points the TLS settings at their files.  `writeDocuments` returns the
document it wrote.
-/

namespace VpnPanel

/-- `BuildResult`. -/
structure BuildResult where
  configData : PyVal
  port : Int
  privateKey : String
  publicKey : String
  certFingerprint : String := ""
  clientId : Option PyVal := none
  extraFiles : List (String × String) := []
  deriving DecidableEq, Repr, Inhabited

/-! ## certificate paths -/

/-- `certificates[0]["certificateFile"] = …` in the certificates of an
inbound; `none` when it has none. -/
def setCertificates (inbound : PyVal) (certFile keyFile : String) :
    Except PyErr (Option PyVal) := do
  let stream ← inbound.get "streamSettings" (.dict [])
  let tls ← stream.get "tlsSettings" (.dict [])
  let certificates ← tls.get "certificates"
  if certificates.truthy then
    let cert ← certificates.first
    let cert ← cert.setItem "certificateFile" (.str certFile)
    let cert ← cert.setItem "keyFile" (.str keyFile)
    let certificates := match certificates with
      | .list (_ :: rest) => .list (cert :: rest)
      | v => v
    let tls ← tls.setItem "certificates" certificates
    let stream ← stream.setItem "tlsSettings" tls
    let inbound ← inbound.setItem "streamSettings" stream
    .ok (some inbound)
  else .ok none

/-- The loop over the inbounds: the first with certificates is changed. -/
def setFirstCertificates (certFile keyFile : String) : List PyVal → Except PyErr (List PyVal)
  | [] => .ok []
  | inbound :: rest => do
      match ← setCertificates inbound certFile keyFile with
      | some inbound => .ok (inbound :: rest)
      | none => do
          let rest ← setFirstCertificates certFile keyFile rest
          .ok (inbound :: rest)

/-- `_apply_tls_cert_paths`, as the changed document. -/
def applyTlsCertPaths (profile : ConfigProfile) (configData : PyVal) (certFile keyFile : String) :
    Except PyErr PyVal :=
  match profile with
  | .hysteria2 => do
      let tls ← configData.get "tls" (.dict [])
      let tls ← tls.setItem "cert" (.str certFile)
      let tls ← tls.setItem "key" (.str keyFile)
      configData.setItem "tls" tls
  | .xrayGrpc | .xrayXhttp => do
      let inbounds ← configData.get "inbounds" (.list [])
      let items ← inbounds.iter
      let items ← setFirstCertificates certFile keyFile items
      if items.isEmpty then .ok configData else configData.setItem "inbounds" (.list items)
  | .xrayReality => .ok configData

/-! ## the documents -/

def Host.setPem (h : Host) (base : CertBase) (name : String) (entry : Option PemEntry) : Host :=
  { h with pems := fun b n => if b = base ∧ n = name then entry else h.pems b n }

/-- `live_path.parent.mkdir(parents=True, exist_ok=True)`. -/
def Host.makeLiveDir (h : Host) (dir : String) (configId : ConfigId) : Host :=
  { h with liveDirs := fun d c => (d = dir && c = configId) || h.liveDirs d c }

def Host.setArchive (h : Host) (configId : ConfigId) (filename : String) (doc : PyVal) : Host :=
  { h with archive := fun c f => if c = configId ∧ f = filename then some doc else h.archive c f }

def Host.setLive (h : Host) (key : LiveKey) (doc : PyVal) : Host :=
  { h with live := h.live.set key (some doc) }

def Host.setActive (h : Host) (path : String) (doc : PyVal) : Host :=
  { h with active := fun p => if p = path then some doc else h.active p }

/-- The loop over `result.extra_files`: a versioned file, and the stable name
pointed at it. -/
def installPems (faults : Faults) (base : CertBase) (namePrefix : String) (timestamp : Nat) :
    List (String × String) → HostM Unit
  | [] => pure ()
  | (kind, content) :: rest => do
      let versioned := namePrefix ++ "-" ++ kind ++ "-" ++ toString timestamp ++ ".pem"
      let body := if content.endsWith "\n" then content else content ++ "\n"
      attempt faults (.writePem kind) fun h => h.setPem base versioned (some (.file body))
      let stable := namePrefix ++ "-" ++ kind ++ ".pem"
      let h ← Eff.read
      if (h.pems base stable).isSome then
        attempt faults (.unlinkPem kind) fun h => h.setPem base stable none
      attempt faults (.symlinkPem kind) fun h => h.setPem base stable (some (.symlink versioned))
      installPems faults base namePrefix timestamp rest

/-- The directory `write_files` installs certificates in. -/
def certBase (settings : PanelSettings) (profile : ConfigProfile) (ps : VpnProfileSettings)
    (configId : ConfigId) : CertBase :=
  if settings.systemd.perConfig then .live (liveDir profile settings.systemd) configId
  else match ps.certDir with
    | some dir => .shared dir
    | none => .archive settings.configsPath configId

/-- The certificates of a result, and the document with their paths. -/
def installCerts (settings : PanelSettings) (faults : Faults) (timestamp : Nat)
    (profile : ConfigProfile) (ps : VpnProfileSettings) (configId : ConfigId)
    (result : BuildResult) : HostM PyVal :=
  if result.extraFiles.isEmpty then pure result.configData
  else do
    let base := certBase settings profile ps configId
    attempt faults .mkdirCerts id
    let namePrefix := orStr (ps.certPrefix.getD "") "cert"
    let configData ← Eff.ofExcept (applyTlsCertPaths profile result.configData
      (base.render ++ "/" ++ namePrefix ++ "-cert.pem")
      (base.render ++ "/" ++ namePrefix ++ "-key.pem"))
    installPems faults base namePrefix timestamp result.extraFiles
    pure configData

/-- The file the config's service reads is replaced: the live file, or the
profile's `active_config_path`. -/
def writeServed (settings : PanelSettings) (faults : Faults) (profile : ConfigProfile)
    (ps : VpnProfileSettings) (configId : ConfigId) (configData : PyVal) : HostM Unit :=
  if settings.systemd.perConfig then
    attempt faults .writeLive fun h =>
      h.setLive (liveConfigPath profile configId ps.configFilename settings.systemd) configData
  else match ps.activeConfigPath with
    | some path => do
        attempt faults .mkdirActive id
        attempt faults .writeActive fun h => h.setActive path configData
    | none => pure ()

/-- `write_files` before the served file: directories, certificates, archive. -/
def prepareDocuments (settings : PanelSettings) (faults : Faults) (timestamp : Nat)
    (profile : ConfigProfile) (ps : VpnProfileSettings) (configId : ConfigId)
    (result : BuildResult) : HostM PyVal := do
  attempt faults .mkdirArchive id
  if settings.systemd.perConfig then
    attempt faults .mkdirLive fun h => h.makeLiveDir (liveDir profile settings.systemd) configId
  let configData ← installCerts settings faults timestamp profile ps configId result
  attempt faults .serialize id
  attempt faults .writeArchive fun h => h.setArchive configId ps.configFilename configData
  pure configData

/-- `write_files` up to and including the served file. -/
def writeDocuments (settings : PanelSettings) (faults : Faults) (timestamp : Nat)
    (profile : ConfigProfile) (configId : ConfigId) (result : BuildResult) : HostM PyVal := do
  let ps ← Eff.ofExcept (settings.profileSettings profile)
  let configData ← prepareDocuments settings faults timestamp profile ps configId result
  writeServed settings faults profile ps configId configData
  pure configData

/-! ## the service and the mux -/

/-- The service a config runs in. -/
def servingName (settings : PanelSettings) (ps : VpnProfileSettings) (configId : ConfigId) :
    ServiceName :=
  if settings.systemd.perConfig then configServiceName settings.systemd configId
  else .profile ps.serviceName

/-- `reload_service` and `wait_for_service_ready` of a shared service. -/
def restartShared (faults : Faults) (ps : VpnProfileSettings) : HostM Unit := do
  attemptStart faults .restart (.profile ps.serviceName) fun h =>
    h.setService (.profile ps.serviceName)
      (.running (ps.activeConfigPath.bind fun path => h.active path))
  attemptStart faults .waitReady (.profile ps.serviceName) id

/-- `write_files` after the served file: the unit, or the shared service. -/
def restartService (settings : PanelSettings) (faults : Faults) (profile : ConfigProfile)
    (configId : ConfigId) (configName : String) : HostM Unit := do
  let ps ← Eff.ofExcept (settings.profileSettings profile)
  if settings.systemd.perConfig then
    installConfigUnit faults profile configId ps.configFilename configName settings.systemd
  else restartShared faults ps

/-- The profiles `write_files` syncs the mux for. -/
def ConfigProfile.isMux : ConfigProfile → Bool
  | .xrayReality | .xrayXhttp | .xrayGrpc => true
  | .hysteria2 => false

def Host.setStreamConf (h : Host) (path : String) (conf : SharedConf) : Host :=
  { h with streamConf := fun p => if p = path then some conf else h.streamConf p }

/-- `sync_reality_shared_443`. -/
def syncRealityShared443 (settings : PanelSettings) (faults : Faults) (configData : PyVal) :
    HostM Unit := do
  let h ← Eff.read
  let conf ← Eff.ofExcept (sharedConf settings h.glob configData)
  match conf with
  | none => pure ()
  | some (path, conf) => do
      attempt faults .writeStream fun h => h.setStreamConf path conf
      attempt faults .reloadNginx id

/-- `write_files` at its end. -/
def syncMux (settings : PanelSettings) (faults : Faults) (profile : ConfigProfile)
    (configData : PyVal) : HostM Unit :=
  if profile.isMux then syncRealityShared443 settings faults configData else pure ()

/-- `ProfileConfigBuilder.write_files`; returns the document it wrote. -/
def writeFiles (settings : PanelSettings) (faults : Faults) (timestamp : Nat)
    (profile : ConfigProfile) (configId : ConfigId) (result : BuildResult) (configName : String) :
    HostM PyVal := do
  let configData ← writeDocuments settings faults timestamp profile configId result
  restartService settings faults profile configId configName
  syncMux settings faults profile configData
  pure configData

/-! ## what the parts can do to the machine -/

section Within

variable {R : Host → Host → Prop} [IsPreorder Host R] {settings : PanelSettings} {faults : Faults}
  {timestamp : Nat} {profile : ConfigProfile} {ps : VpnProfileSettings} {configId : ConfigId}
  {result : BuildResult}

/-- A link leads to a version of the file it is the stable name of. -/
def OwnEntry (name : String) (entry : Option PemEntry) : Prop :=
  ∀ target, entry = some (.symlink target) → ∃ (stem : String) (timestamp : Nat),
    name = stem ++ ".pem" ∧ target = stem ++ "-" ++ toString timestamp ++ ".pem"

theorem ownEntry_file (name body : String) : OwnEntry name (some (.file body)) := by
  simp [OwnEntry]

theorem ownEntry_none (name : String) : OwnEntry name none := by
  simp [OwnEntry]

theorem within_installPems {base : CertBase} {namePrefix : String}
    (hpem : ∀ h name entry, OwnEntry name entry → R h (h.setPem base name entry))
    (files : List (String × String)) :
    Eff.Within R (installPems faults base namePrefix timestamp files) := by
  induction files with
  | nil => exact Eff.Within.pure _
  | cons file rest ih =>
      obtain ⟨kind, content⟩ := file
      unfold installPems
      refine Eff.Within.bind (within_attempt fun h => hpem h _ _ (ownEntry_file _ _)) fun _ => ?_
      refine Eff.Within.bind Eff.Within.read fun h => ?_
      have hown : OwnEntry (namePrefix ++ "-" ++ kind ++ ".pem")
          (some (.symlink (namePrefix ++ "-" ++ kind ++ "-" ++ toString timestamp ++ ".pem"))) := by
        intro target htarget
        cases htarget
        exact ⟨namePrefix ++ "-" ++ kind, timestamp, rfl, rfl⟩
      have hlink : Eff.Within R (do
          attempt faults (.symlinkPem kind) fun h =>
            h.setPem base (namePrefix ++ "-" ++ kind ++ ".pem")
              (some (.symlink (namePrefix ++ "-" ++ kind ++ "-" ++ toString timestamp ++ ".pem")))
          installPems faults base namePrefix timestamp rest) :=
        Eff.Within.bind (within_attempt fun h => hpem h _ _ hown) fun _ => ih
      split
      · exact Eff.Within.bind (within_attempt fun h => hpem h _ _ (ownEntry_none _)) fun _ => hlink
      · exact hlink

theorem within_prepareDocuments
    (hdir : ∀ h, R h (h.makeLiveDir (liveDir profile settings.systemd) configId))
    (hpem : ∀ h name entry, OwnEntry name entry →
      R h (h.setPem (certBase settings profile ps configId) name entry))
    (harchive : ∀ h filename doc, R h (h.setArchive configId filename doc)) :
    Eff.Within R (prepareDocuments settings faults timestamp profile ps configId result) := by
  unfold prepareDocuments
  refine Eff.Within.bind (within_attempt (refl_of R)) fun _ => ?_
  have hcerts : Eff.Within R
      (installCerts settings faults timestamp profile ps configId result) := by
    unfold installCerts
    split
    · exact Eff.Within.pure _
    · refine Eff.Within.bind (within_attempt (refl_of R)) fun _ => ?_
      refine Eff.Within.bind (Eff.Within.ofExcept _) fun _ => ?_
      exact Eff.Within.bind (within_installPems hpem _) fun _ => Eff.Within.pure _
  have hrest : Eff.Within R (do
      let configData ← installCerts settings faults timestamp profile ps configId result
      attempt faults .serialize id
      attempt faults .writeArchive fun h => h.setArchive configId ps.configFilename configData
      pure configData) := by
    refine Eff.Within.bind hcerts fun _ => ?_
    refine Eff.Within.bind (within_attempt (refl_of R)) fun _ => ?_
    exact Eff.Within.bind (within_attempt fun h => harchive h _ _) fun _ => Eff.Within.pure _
  split
  · exact Eff.Within.bind (within_attempt hdir) fun _ => hrest
  · exact hrest

theorem within_writeServed {configData : PyVal}
    (hlive : ∀ h doc, R h
      (h.setLive (liveConfigPath profile configId ps.configFilename settings.systemd) doc))
    (hactive : settings.systemd.perConfig = false → ∀ h path doc, R h (h.setActive path doc)) :
    Eff.Within R (writeServed settings faults profile ps configId configData) := by
  unfold writeServed
  split
  · exact within_attempt fun h => hlive h _
  · next hper =>
    split
    · refine Eff.Within.bind (within_attempt (refl_of R)) fun _ => ?_
      exact within_attempt fun h => hactive (by simpa using hper) h _ _
    · exact Eff.Within.pure _

theorem within_restartService {configName : String}
    (hunit : ∀ h dir u,
      R h (h.setUnit dir (configServiceName settings.systemd configId) (some u)))
    (henable : ∀ h, R h (h.setEnabled (configServiceName settings.systemd configId) true))
    (hservice : ∀ h st, R h (h.setService (configServiceName settings.systemd configId) st))
    (hshared : settings.systemd.perConfig = false →
      ∀ h name st, R h (h.setService (.profile name) st)) :
    Eff.Within R (restartService settings faults profile configId configName) := by
  unfold restartService
  refine Eff.Within.bind (Eff.Within.ofExcept _) fun ps => ?_
  split
  · exact within_installConfigUnit hunit henable hservice
  · next hper =>
    have hno : settings.systemd.perConfig = false := by simpa using hper
    exact Eff.Within.bind (within_attemptStart (fun h => hshared hno h _ _) (hshared hno · _))
      fun _ => within_attemptStart (refl_of R) (hshared hno · _)

theorem within_syncMux {configData : PyVal}
    (hconf : ∀ h path conf, R h (h.setStreamConf path conf)) :
    Eff.Within R (syncMux settings faults profile configData) := by
  unfold syncMux
  split
  · unfold syncRealityShared443
    refine Eff.Within.bind Eff.Within.read fun h => ?_
    refine Eff.Within.bind (Eff.Within.ofExcept _) fun conf => ?_
    split
    · exact Eff.Within.pure _
    · refine Eff.Within.bind (within_attempt fun h => hconf h _ _) fun _ => ?_
      exact within_attempt (refl_of R)
  · exact Eff.Within.pure _

end Within

end VpnPanel
