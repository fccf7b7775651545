import VpnPanel.WriteFiles
import VpnPanel.ClientUri
import VpnPanel.PortPicker

/-!
# VpnPanel.ConfigBuilder

The documents of new versions: `ProfileConfigBuilder.build` of
`config_builder.py` with its four builders, and what a regenerate takes over
from the version before (`previous_for_regenerate`).

* `Crypto` — the cryptography the builder calls;
* `BuildEnv` — what the surroundings of a build decide: the template, the
  sockets, the files, and everything that is drawn or generated;
* `resolveTls` — the certificate of the TLS profiles;
* `buildXrayReality`, `buildXrayGrpc`, `buildXrayXhttp`, `buildHysteria2`,
  `build`.
-/

namespace VpnPanel

/-- The cryptography of `crypto_utils.py` and `cryptography`.  Keys and
certificates are their texts. -/
structure Crypto where
  /-- The X25519 public key of a private key, both as `to_base64` gives them. -/
  publicKey : String → String
  /-- `cert_fingerprint_sha256`. -/
  certFingerprintSha256 : String → Except PyErr String
  /-- `cert_has_dns_san(cert_pem, required_name=name)`. -/
  certHasDnsSan : String → String → Bool
  /-- `cert_matches_private_key`. -/
  certMatchesPrivateKey : String → String → Bool

/-- What the surroundings of a build decide. -/
structure BuildEnv where
  /-- What finding and loading the template gives. -/
  template : Except PyErr PyVal
  /-- `is_port_available`, on the transport of the profile. -/
  available : Nat → Bool := fun _ => true
  /-- `path.is_file()`. -/
  isFile : String → Except PyErr Bool := fun _ => .ok false
  /-- `path.read_text(encoding="utf-8")`. -/
  readText : String → Except PyErr String := fun _ => .ok ""
  /-- The pair of key and certificate `generate_self_signed_cert` makes for the
  names. -/
  selfSigned : List String → Except PyErr (String × String)
  /-- `uuid.uuid4()`. -/
  uuid4 : String
  /-- `X25519PrivateKey.generate()`; its text is not empty. -/
  x25519PrivateKey : String
  x25519PrivateKey_ne : x25519PrivateKey ≠ ""
  /-- The three `secrets.token_hex(4)`. -/
  shortIds : List String
  /-- The two `generate_auth_password()`. -/
  authPassword : String
  obfsPassword : String
  /-- The positions `random.choice` draws. -/
  portDraw : Nat := 0
  destDraw : Nat := 0
  sniDraw : Nat := 0
  serviceNameDraw : Nat := 0
  pathDraw : Nat := 0

/-- `PreviousSecrets`. -/
structure PreviousSecrets where
  clientId : Option PyVal := none
  privateKey : Option String := none
  publicKey : Option String := none
  certFingerprint : Option String := none
  password : Option String := none
  obfsPassword : Option String := none
  shortIds : Option (List PyVal) := none
  realityDest : Option String := none
  realityServerNames : Option (List PyVal) := none
  xhttpPath : Option String := none
  grpcServiceName : Option String := none
  grpcSni : Option String := none
  deriving DecidableEq, Repr

/-- What `build` is called with. -/
structure BuildRequest where
  previous : Option PreviousSecrets := none
  excludePorts : List Int := []
  preferredPort : Option Int := none
  preferredGrpcSni : PyVal := .none
  preferredGrpcServiceName : PyVal := .none
  policy : RegeneratePolicy := {}
  sharePublicHost : Option String := none

/-- The request with its public host stripped, and without one that is blank. -/
def BuildRequest.stripHost (req : BuildRequest) : BuildRequest :=
  let host := stripOr req.sharePublicHost
  { req with sharePublicHost := if host = "" then none else some host }

namespace BuildRequest

variable (req : BuildRequest)

@[simp]
theorem stripHost_previous : req.stripHost.previous = req.previous := by rw [stripHost]

@[simp]
theorem stripHost_excludePorts : req.stripHost.excludePorts = req.excludePorts := by
  rw [stripHost]

@[simp]
theorem stripHost_preferredPort : req.stripHost.preferredPort = req.preferredPort := by
  rw [stripHost]

@[simp]
theorem stripHost_policy : req.stripHost.policy = req.policy := by rw [stripHost]

end BuildRequest

/-- A text that is there and not empty. -/
def nonEmpty (text : Option String) : Option String := text.filter (· ≠ "")

/-! ## changing documents -/

/-- The inbounds with the first that has the tag changed; `f` also returns
what the caller computes on the way. -/
def modifyTag {α : Type} (tag : String) (f : PyVal → Except PyErr (PyVal × α)) :
    List PyVal → Except PyErr (List PyVal × α)
  | [] => .error ⟨.keyError, "'Inbound tag not found: " ++ tag ++ "'"⟩
  | inbound :: rest => do
      let t ← inbound.get "tag"
      if t.isStr tag then
        let (inbound, a) ← f inbound
        .ok (inbound :: rest, a)
      else
        let (rest, a) ← modifyTag tag f rest
        .ok (inbound :: rest, a)

/-- The inbound `find_inbound` returns changed in place. -/
def modifyInbound {α : Type} (config : PyVal) (tag : String)
    (f : PyVal → Except PyErr (PyVal × α)) : Except PyErr (PyVal × α) := do
  let inbounds ← config.get "inbounds" (.list [])
  let items ← inbounds.iter
  let (items, a) ← modifyTag tag f items
  let config ← config.setItem "inbounds" (.list items)
  .ok (config, a)

/-- The loop of `set_client_id`. -/
def setIds (clientId : PyVal) : List PyVal → Except PyErr (List PyVal)
  | [] => .ok []
  | client :: rest => do
      let client ← client.setItem "id" clientId
      let rest ← setIds clientId rest
      .ok (client :: rest)

/-- `set_client_id`, on the inbound it finds. -/
def setClientId (inbound clientId : PyVal) : Except PyErr PyVal := do
  let settings ← inbound.get "settings" (.dict [])
  let clients ← settings.get "clients" (.list [])
  let items ← clients.iter
  let items ← setIds clientId items
  if items.isEmpty then .ok inbound
  else do
    let settings ← settings.setItem "clients" (.list items)
    inbound.setItem "settings" settings

/-- The port and the listen address of the inbound. -/
def setListen (inbound : PyVal) (port : Nat) (listenAddress : Option String) :
    Except PyErr PyVal := do
  let inbound ← inbound.setItem "port" (.int port)
  match nonEmpty listenAddress with
  | some address => inbound.setItem "listen" (.str address)
  | none => .ok inbound

/-! ## certificates -/

/-- `_tls_server_name`: the same choice as for the host of the URIs. -/
def tlsServerName (settings : PanelSettings) (ps : VpnProfileSettings)
    (sharePublicHost : Option String) : String :=
  effectiveShareHost settings ps sharePublicHost

/-- `generate_self_signed_cert`: the private key, the certificate and its
fingerprint. -/
def generateSelfSignedCert (crypto : Crypto) (env : BuildEnv) (dnsNames : List String) :
    Except PyErr (String × String × String) := do
  let names := (dnsNames.map PyStr.strip).filter (· ≠ "")
  if names.isEmpty then
    .error ⟨.valueError, "dns_names must contain at least one name for the certificate SAN"⟩
  else do
    let (privatePem, certPem) ← env.selfSigned names
    let fingerprint ← crypto.certFingerprintSha256 certPem
    .ok (privatePem, certPem, fingerprint)

/-- Both files of an external pair: their texts, if both are files. -/
def readPair (env : BuildEnv) (certPath keyPath : String) :
    Except PyErr (Option (String × String)) := do
  let certThere ← env.isFile certPath
  if !certThere then .ok none
  else do
    let keyThere ← env.isFile keyPath
    if !keyThere then .ok none
    else do
      let certPem ← env.readText certPath
      let privatePem ← env.readText keyPath
      .ok (some (certPem, privatePem))

/-- The `PermissionError` of `_load_external_tls`. -/
def cannotReadTls (certPath : String) (exc : PyErr) : PyErr :=
  ⟨.permissionError, "Cannot read profile TLS (" ++ certPath ++ "): " ++ exc.msg ++ ". " ++
    "vpn-worker needs read access to Let's Encrypt " ++
    "(group ssl-cert on live/archive + privkey), " ++
    "or enable «Self-signed TLS» in regenerate policy."⟩

/-- What a TLS profile is built with. -/
structure TlsMaterial where
  privatePem : String
  certPem : String
  fingerprint : String
  certFile : String
  keyFile : String
  extraFiles : List (String × String)
  deriving DecidableEq, Repr

/-- `_load_external_tls`. -/
def loadExternalTls (crypto : Crypto) (env : BuildEnv) (ps : VpnProfileSettings) :
    Except PyErr (Option TlsMaterial) :=
  match ps.tlsCertFile, ps.tlsKeyFile with
  | some certPath, some keyPath =>
      match readPair env certPath keyPath with
      | .error exc => .error (if exc.isOSError then cannotReadTls certPath exc else exc)
      | .ok none => .ok none
      | .ok (some (certPem, privatePem)) =>
          if crypto.certMatchesPrivateKey certPem privatePem then do
            let fingerprint ← crypto.certFingerprintSha256 certPem
            .ok (some ⟨privatePem, certPem, fingerprint, certPath, keyPath, []⟩)
          else .ok none
  | _, _ => .ok none

/-- `_try_reuse_tls`, for the first of the names. -/
def tryReuseTls (crypto : Crypto) (previous : Option PreviousSecrets) (primary : String) :
    Option (String × String × String) :=
  match previous with
  | none => none
  | some previous =>
      match nonEmpty previous.privateKey, nonEmpty previous.publicKey,
        nonEmpty previous.certFingerprint with
      | some privateKey, some publicKey, some fingerprint =>
          if crypto.certHasDnsSan publicKey primary &&
              crypto.certMatchesPrivateKey publicKey privateKey then
            some (privateKey, publicKey, fingerprint)
          else none
      | _, _, _ => none

/-- `_resolve_tls`. -/
def resolveTls (crypto : Crypto) (env : BuildEnv) (ps : VpnProfileSettings)
    (previous : Option PreviousSecrets) (dnsName : String) (rotateTls : Bool)
    (filePrefix : String) : Except PyErr TlsMaterial := do
  let external ← if rotateTls then .ok none else loadExternalTls crypto env ps
  match external with
  | some tls => .ok tls
  | none =>
      let certDir := ps.certDir.getD "/usr/local/etc/xray/certs"
      let filePrefix := orStr (ps.certPrefix.getD "") filePrefix
      let certFile := certDir ++ "/" ++ filePrefix ++ "-cert.pem"
      let keyFile := certDir ++ "/" ++ filePrefix ++ "-key.pem"
      let (privatePem, certPem, fingerprint) ←
        match if rotateTls then none else tryReuseTls crypto previous dnsName with
        | some pair => .ok pair
        | none => generateSelfSignedCert crypto env [dnsName]
      .ok ⟨privatePem, certPem, fingerprint, certFile, keyFile,
        [("cert", certPem), ("key", privatePem)]⟩

/-- The value of `certificates` in an inbound. -/
def certificatesOf (tls : TlsMaterial) : PyVal :=
  .list [.dict [("certificateFile", .str tls.certFile), ("keyFile", .str tls.keyFile)]]

/-- What a TLS profile's build returns. -/
def TlsMaterial.result (tls : TlsMaterial) (configData : PyVal) (port : Nat)
    (clientId : Option PyVal) : BuildResult where
  configData := configData
  port := port
  privateKey := tls.privatePem
  publicKey := tls.certPem
  certFingerprint := tls.fingerprint
  clientId := clientId
  extraFiles := tls.extraFiles

/-! ## the four builders -/

section Builders

variable (crypto : Crypto) (settings : PanelSettings) (env : BuildEnv) (ps : VpnProfileSettings)
  (req : BuildRequest)

/-- The client id of an xray profile. -/
def chooseClientId : PyVal :=
  match req.previous.bind PreviousSecrets.clientId with
  | some clientId =>
      if clientId.truthy && !req.policy.rotateClientId then clientId else .str env.uuid4
  | none => .str env.uuid4

/-- The key pair of a Reality version. -/
def chooseRealityKeys : String × String :=
  match req.previous.bind fun previous => nonEmpty previous.privateKey,
    req.previous.bind fun previous => nonEmpty previous.publicKey with
  | some privateKey, some publicKey =>
      if req.policy.rotateRealityKeys then
        (env.x25519PrivateKey, crypto.publicKey env.x25519PrivateKey)
      else (privateKey, publicKey)
  | _, _ => (env.x25519PrivateKey, crypto.publicKey env.x25519PrivateKey)

theorem chooseRealityKeys_stripHost :
    chooseRealityKeys crypto env req.stripHost = chooseRealityKeys crypto env req := by
  simp only [chooseRealityKeys, req.stripHost_previous, req.stripHost_policy]

/-- The short ids of a Reality version. -/
def chooseShortIds : List PyVal :=
  match req.previous.bind PreviousSecrets.shortIds with
  | some shortIds =>
      if !shortIds.isEmpty && !req.policy.rotateShortIds then shortIds
      else env.shortIds.map .str
  | none => env.shortIds.map .str

/-- `serverNames` of a Reality section: the host of its `dest`, if it names
one. -/
def pinServerNames (reality : PyVal) : Except PyErr PyVal := do
  let dest ← reality.get "dest"
  let destHost := destHostname (dest.orElse (.str "")).toStr
  if destHost ≠ "" then reality.setItem "serverNames" (.list [.str destHost]) else .ok reality

/-- `dest` and `serverNames` of a Reality section. -/
def setDest (reality : PyVal) : Except PyErr PyVal :=
  match req.previous.bind fun previous => nonEmpty previous.realityDest,
    req.policy.rotateDest with
  | some dest, false => do
      let reality ← reality.setItem "dest" (.str dest)
      match req.previous.bind PreviousSecrets.realityServerNames with
      | some (name :: names) => reality.setItem "serverNames" (.list (name :: names))
      | _ => pinServerNames reality
  | _, _ => do
      let reality ← match randomChoice env.destDraw ps.realityDestHosts with
        | some dest => reality.setItem "dest" (.str dest)
        | none => .ok reality
      pinServerNames reality

/-- `_build_xray_reality`. -/
def buildXrayReality (config : PyVal) : Except PyErr BuildResult := do
  let port ← pickPort env.available env.portDraw ps.portCandidates req.excludePorts false
    req.preferredPort
  let clientId := chooseClientId env req
  let keys := chooseRealityKeys crypto env req
  let (config, ()) ← modifyInbound config ps.inboundTag fun inbound => do
    let inbound ← setListen inbound port ps.listenAddress
    let inbound ← inbound.modifyItem "streamSettings" fun stream =>
      stream.modifyItem "realitySettings" fun reality => do
        let reality ← reality.setItem "shortIds" (.list (chooseShortIds env req))
        let reality ← reality.setItem "privateKey" (.str keys.1)
        setDest env ps req reality
    let inbound ← setClientId inbound clientId
    .ok (inbound, ())
  .ok { configData := config, port := port, privateKey := keys.1, publicKey := keys.2,
        clientId := some clientId }

/-- The server name of a gRPC version: what the section says afterwards, and
the name for the certificate. -/
def setGrpcServerName (tls : PyVal) : Except PyErr (PyVal × String) := do
  let tlsName := tlsServerName settings ps req.sharePublicHost
  let pinnedHost := stripOr ((nonEmpty req.sharePublicHost).or ps.sharePublicHost)
  if pinnedHost ≠ "" then
    let tls ← tls.setItem "serverName" (.str tlsName)
    .ok (tls, tlsName)
  else
    let previous : PyVal := match req.previous.bind PreviousSecrets.grpcSni with
      | some sni => .str sni
      | none => .none
    let keepSni := req.preferredGrpcSni.orElse previous
    match ps.grpcSniHosts.find? keepSni.isStr, randomChoice env.sniDraw ps.grpcSniHosts with
    | _, none => .ok (tls, tlsName)
    | found, some drawn =>
        let sni := if keepSni.truthy then found.getD drawn else drawn
        let tls ← tls.setItem "serverName" (.str sni)
        .ok (tls, sni)

/-- The service name of a gRPC version. -/
def setGrpcServiceName (grpc : PyVal) : Except PyErr PyVal :=
  let previous : PyVal := match req.previous.bind PreviousSecrets.grpcServiceName with
    | some name => .str name
    | none => .none
  let keepSvc := req.preferredGrpcServiceName.orElse previous
  match ps.grpcServiceNames.find? keepSvc.isStr,
    randomChoice env.serviceNameDraw ps.grpcServiceNames with
  | _, none => .ok grpc
  | found, some drawn =>
      let name :=
        if !req.policy.rotateServiceName && keepSvc.truthy then found.getD drawn else drawn
      grpc.setItem "serviceName" (.str name)

/-- `_build_xray_grpc`. -/
def buildXrayGrpc (config : PyVal) : Except PyErr BuildResult := do
  let port ← pickPort env.available env.portDraw ps.portCandidates req.excludePorts false
    req.preferredPort
  let clientId := chooseClientId env req
  let (config, tls) ← modifyInbound config ps.inboundTag fun inbound => do
    let inbound ← setListen inbound port ps.listenAddress
    let inbound ← setClientId inbound clientId
    let stream ← inbound.item "streamSettings"
    let tlsSettings ← stream.item "tlsSettings"
    let tlsSettings ← tlsSettings.setItem "alpn" (.list [.str "h2"])
    let tlsSettings ← tlsSettings.popItem "fingerprint"
    let (tlsSettings, tlsName) ← setGrpcServerName settings env ps req tlsSettings
    let stream ← stream.setItem "tlsSettings" tlsSettings
    let stream ← stream.modifyItem "grpcSettings" (setGrpcServiceName env ps req)
    let tls ← resolveTls crypto env ps req.previous tlsName req.policy.rotateTls "grpc"
    let tlsSettings ← tlsSettings.setItem "certificates" (certificatesOf tls)
    let stream ← stream.setItem "tlsSettings" tlsSettings
    let inbound ← inbound.setItem "streamSettings" stream
    .ok (inbound, tls)
  .ok (tls.result config port (some clientId))

/-- `xhttpSettings` of an xHTTP version. -/
def setXhttp (tlsName : String) (xhttp : PyVal) : Except PyErr PyVal := do
  let xhttp ← xhttp.setItem "host" (.str tlsName)
  let xhttp ← xhttp.setItem "mode" (.str "stream-up")
  match req.previous.bind fun previous => nonEmpty previous.xhttpPath, req.policy.rotatePath with
  | some path, false => xhttp.setItem "path" (.str path)
  | _, _ =>
      match randomChoice env.pathDraw ps.xhttpPaths with
      | some path => xhttp.setItem "path" (.str path)
      | none => .ok xhttp

/-- `_build_xray_xhttp`. -/
def buildXrayXhttp (config : PyVal) : Except PyErr BuildResult := do
  let port ← pickPort env.available env.portDraw ps.portCandidates req.excludePorts false
    req.preferredPort
  let clientId := chooseClientId env req
  let tlsName := tlsServerName settings ps req.sharePublicHost
  let (config, tls) ← modifyInbound config ps.inboundTag fun inbound => do
    let inbound ← setListen inbound port ps.listenAddress
    let inbound ← setClientId inbound clientId
    let stream ← inbound.item "streamSettings"
    let stream ← stream.setItem "security" (.str "tls")
    let stream ← stream.modifyItem "xhttpSettings" (setXhttp env ps req tlsName)
    let tls ← resolveTls crypto env ps req.previous tlsName req.policy.rotateTls "xhttp"
    let stream ← stream.setItem "tlsSettings" (.dict [("serverName", .str tlsName),
      ("alpn", .list [.str "h2", .str "http/1.1"]), ("certificates", certificatesOf tls)])
    let inbound ← inbound.setItem "streamSettings" stream
    .ok (inbound, tls)
  .ok (tls.result config port (some clientId))

/-- The preferred port of a Hysteria2 version: without one, the public port,
when it is a candidate. -/
def hysteriaPreferred : Option Int :=
  match req.preferredPort with
  | some port => some port
  | none => (ps.sharePublicPort.filter fun port => ps.portCandidates.contains port).map
      fun port : Nat => (port : Int)

/-- A password of the version before, if it is there and kept, or a new one. -/
def keptOr (previous : Option String) (rotate : Bool) (drawn : String) : String :=
  match previous, rotate with
  | some password, false => password
  | _, _ => drawn

/-- `_build_hysteria2`. -/
def buildHysteria2 (config : PyVal) : Except PyErr BuildResult := do
  let blocked := (settings.serverPort : Int) :: req.excludePorts
  let port ← pickPort env.available env.portDraw ps.portCandidates blocked true
    (hysteriaPreferred ps req)
  let password := keptOr (req.previous.bind fun previous => nonEmpty previous.password)
    req.policy.rotateAuth env.authPassword
  let obfsPassword := keptOr (req.previous.bind fun previous => nonEmpty previous.obfsPassword)
    req.policy.rotateObfs env.obfsPassword
  let tlsName := tlsServerName settings ps req.sharePublicHost
  let tls ← resolveTls crypto env ps req.previous tlsName req.policy.rotateTls "hysteria"
  let config ← config.setItem "listen" (.str (":" ++ toString port))
  let config ← config.modifyItem "auth" fun auth => auth.setItem "password" (.str password)
  let config ← config.modifyItem "tls" fun tlsSettings => do
    let tlsSettings ← tlsSettings.setItem "cert" (.str tls.certFile)
    let tlsSettings ← tlsSettings.setItem "key" (.str tls.keyFile)
    tlsSettings.setItem "sni" (.str tlsName)
  let config ← config.setItem "obfs" (.dict [("type", .str "salamander"),
    ("salamander", .dict [("password", .str obfsPassword)])])
  .ok (tls.result config port none)

/-- `build`. -/
def build (profile : ConfigProfile) : Except PyErr BuildResult := do
  let ps ← settings.profileSettings profile
  let config ← env.template
  match profile with
  | .xrayReality => buildXrayReality crypto env ps req.stripHost config
  | .xrayGrpc => buildXrayGrpc crypto settings env ps req.stripHost config
  | .xrayXhttp => buildXrayXhttp crypto settings env ps req.stripHost config
  | .hysteria2 => buildHysteria2 crypto settings env ps req.stripHost config

end Builders

end VpnPanel
