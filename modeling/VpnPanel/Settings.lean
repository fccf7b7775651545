import VpnPanel.Lib.PyVal

/-!
# VpnPanel.Settings

The value objects and the settings the lifecycle of a VPN config depends on:
`ConfigProfile`, `ConfigStatus`, `RegeneratePolicy`, and the parts of
`panel.yaml` that the worker, the config-data editor and the nginx mux read.

Paths are strings.  `vpn.profiles` is a dictionary keyed by profile value and
is only ever read with a profile's value as the key, so it is a partial
function on `ConfigProfile`.
-/

namespace VpnPanel

/-- `VpnProtocolType`. -/
inductive VpnProtocolType where
  | xray
  | hysteria2
  deriving DecidableEq, Repr

/-- `ConfigProfile`. -/
inductive ConfigProfile where
  | xrayReality
  | xrayGrpc
  | xrayXhttp
  | hysteria2
  deriving DecidableEq, Repr

namespace ConfigProfile

/-- `profile.value`. -/
def value : ConfigProfile → String
  | xrayReality => "xray-reality"
  | xrayGrpc => "xray-grpc"
  | xrayXhttp => "xray-xhttp"
  | hysteria2 => "hysteria2"

end ConfigProfile

/-- `ConfigStatus`. -/
inductive ConfigStatus where
  | pending
  | processing
  | active
  | failed
  deriving DecidableEq, Repr

/-- The statuses that refuse a regenerate request and an edit. -/
def ConfigStatus.busy (s : ConfigStatus) : Bool := s = .pending || s = .processing

/-- `SystemdSettings`. -/
structure SystemdSettings where
  perConfig : Bool := false
  unitDir : String := "/etc/systemd/system"
  servicePrefix : String := "vpn"
  xrayBinary : String := "/usr/local/bin/xray"
  hysteriaBinary : String := "/usr/local/bin/hysteria"
  xrayConfigDir : String := "/usr/local/etc/xray/configs"
  hysteriaConfigDir : String := "/usr/local/etc/hysteria/configs"
  deriving DecidableEq, Repr

/-- `VpnProfileSettings`. -/
structure VpnProfileSettings where
  serviceName : String
  configFilename : String
  inboundTag : String := ""
  portCandidates : List Nat := []
  activeConfigPath : Option String := none
  certDir : Option String := none
  certPrefix : Option String := none
  xhttpPaths : List String := []
  grpcSniHosts : List String := []
  grpcServiceNames : List String := []
  realityDestHosts : List String := []
  realityServerNames : List String := []
  sharePublicPort : Option Nat := none
  sharePublicHost : Option String := none
  listenAddress : Option String := none
  nginxStreamConf : Option String := none
  nginxPanelBackend : Option String := none
  tlsCertFile : Option String := none
  tlsKeyFile : Option String := none
  deriving DecidableEq, Repr

/-- `PanelSettings`: the port of the server, the paths, the `systemd` section
and the `vpn` section. -/
structure PanelSettings where
  serverPort : Nat := 8000
  configsPath : String := "/opt/vpn/configs"
  systemd : SystemdSettings
  publicHost : String := "127.0.0.1"
  publicHostAliases : List String := []
  profiles : ConfigProfile → Option VpnProfileSettings

/-- `settings.vpn.profiles[profile.value]`. -/
def PanelSettings.profileSettings (settings : PanelSettings) (profile : ConfigProfile) :
    Except PyErr VpnProfileSettings :=
  match settings.profiles profile with
  | some ps => .ok ps
  | none => .error ⟨.keyError, "'" ++ profile.value ++ "'"⟩

/-- `(candidate or "").strip()`. -/
def stripOr (candidate : Option String) : String := PyStr.strip (candidate.getD "")

/-! ## regenerate policy -/

/-- `RegeneratePolicy`: what a regenerate may change. -/
structure RegeneratePolicy where
  rotatePort : Bool := true
  rotateClientId : Bool := true
  rotateRealityKeys : Bool := true
  rotateShortIds : Bool := true
  rotateDest : Bool := true
  rotatePath : Bool := true
  rotateServiceName : Bool := false
  rotateTls : Bool := true
  rotateAuth : Bool := false
  rotateObfs : Bool := false
  deriving DecidableEq, Repr

/-- The flags of a policy. -/
inductive PolicyFlag where
  | port
  | clientId
  | realityKeys
  | shortIds
  | dest
  | path
  | serviceName
  | tls
  | auth
  | obfs
  deriving DecidableEq, Repr

/-- A policy with one flag set. -/
def RegeneratePolicy.set (policy : RegeneratePolicy) : PolicyFlag → Bool → RegeneratePolicy
  | .port, b => { policy with rotatePort := b }
  | .clientId, b => { policy with rotateClientId := b }
  | .realityKeys, b => { policy with rotateRealityKeys := b }
  | .shortIds, b => { policy with rotateShortIds := b }
  | .dest, b => { policy with rotateDest := b }
  | .path, b => { policy with rotatePath := b }
  | .serviceName, b => { policy with rotateServiceName := b }
  | .tls, b => { policy with rotateTls := b }
  | .auth, b => { policy with rotateAuth := b }
  | .obfs, b => { policy with rotateObfs := b }

/-- `base.model_copy(update=overrides)`. -/
def RegeneratePolicy.modelCopy (base : RegeneratePolicy) (overrides : List (PolicyFlag × Bool)) :
    RegeneratePolicy :=
  overrides.foldl (fun policy o => policy.set o.1 o.2) base

/-- `bool(path)` for an optional path: `Path("")` is `Path(".")`, so a path
that is there is true. -/
private def given (path : Option String) : Bool := path.isSome

/-- `RegeneratePolicy.for_profile`. -/
def RegeneratePolicy.forProfile (profile : ConfigProfile) (ps : Option VpnProfileSettings) :
    RegeneratePolicy :=
  let rotatePort := match ps with
    | some ps => !(profile = .hysteria2 &&
        ps.sharePublicPort.any fun p => ps.portCandidates.contains p)
    | none => true
  let rotateTls := match ps with
    | some ps => !(given ps.tlsCertFile && given ps.tlsKeyFile)
    | none => true
  match profile with
  | .xrayReality => { rotatePort }
  | .xrayXhttp =>
      { rotatePort, rotateRealityKeys := false, rotateShortIds := false, rotateDest := false,
        rotateTls }
  | .xrayGrpc =>
      { rotatePort, rotateRealityKeys := false, rotateShortIds := false, rotateDest := false,
        rotatePath := false, rotateTls }
  | .hysteria2 =>
      { rotatePort, rotateClientId := false, rotateRealityKeys := false, rotateShortIds := false,
        rotateDest := false, rotatePath := false, rotateTls }

/-- `RegeneratePolicy.from_stored`. -/
def RegeneratePolicy.fromStored (raw : Option RegeneratePolicy) (profile : ConfigProfile)
    (ps : Option VpnProfileSettings) : RegeneratePolicy :=
  raw.getD (RegeneratePolicy.forProfile profile ps)

end VpnPanel
