import VpnPanel.ResolveShare

/-!
# VpnPanel.VpnConnectivity

The connectivity probe, `vpn_connectivity.py`: the hosts it dials and the
client it starts for each.

A client is built as a record, `XrayClient` or `HysteriaClient`, whose
`document` is the config file.
-/

namespace VpnPanel

/-! ## the hosts -/

/-- `_probe_connect_hosts`. -/
def probeConnectHosts (settings : PanelSettings) (preferHost : Option String)
    (allowLoopback : Bool) : List String :=
  let prefer := stripOr preferHost
  let hosts := if prefer ≠ "" then [prefer] else []
  if !allowLoopback then hosts
  else
    [settings.publicHost, "127.0.0.1"].foldl (fun hosts candidate =>
      let value := PyStr.strip candidate
      if value ≠ "" && !hosts.contains value then hosts ++ [value] else hosts) hosts

/-- The names `_probe_dial_port` takes for this machine. -/
def isLoopback (host : String) : Bool := ["127.0.0.1", "::1", "localhost"].contains host

/-- `_probe_dial_port`. -/
def probeDialPort (snapshot : ConfigVersionSnapshot) (host : String) (settings : PanelSettings) :
    Int :=
  if isLoopback (PyStr.strip host) then snapshot.port
  else
    match (settings.profiles snapshot.profile).bind VpnProfileSettings.sharePublicPort with
    | some port => port
    | none => snapshot.port

/-- `_probe_allow_loopback`. -/
def probeAllowLoopback (snapshot : ConfigVersionSnapshot) (settings : PanelSettings) : Bool :=
  match settings.profiles snapshot.profile with
  | none => true
  | some ps =>
      if ps.sharePublicPort.any (· ≠ 0) then false
      else if stripOr ((snapshot.sharePublicHost.filter (· ≠ "")).or ps.sharePublicHost) ≠ "" then
        false
      else true

/-- `_probe_prefer_host`. -/
def probePreferHost (snapshot : ConfigVersionSnapshot) (settings : PanelSettings) :
    Option String :=
  if stripOr snapshot.sharePublicHost ≠ "" then some (stripOr snapshot.sharePublicHost)
  else
    let profileHost := stripOr ((settings.profiles snapshot.profile).bind
      VpnProfileSettings.sharePublicHost)
    if profileHost ≠ "" then some profileHost
    else if !probeAllowLoopback snapshot settings then none
    else if PyStr.strip settings.publicHost ≠ "" then some (PyStr.strip settings.publicHost)
    else none

/-- The hosts `_probe_via_xray` and `_probe_via_hysteria` go through, where the
binary is there: the latter gives up on a snapshot without a certificate. -/
def dialedHosts (snapshot : ConfigVersionSnapshot) (settings : PanelSettings) : List String :=
  if snapshot.profile = .hysteria2 && PyStr.strip snapshot.publicKey = "" then []
  else
    probeConnectHosts settings (probePreferHost snapshot settings)
      (probeAllowLoopback snapshot settings)

/-! ## the clients -/

/-- `_plaintext_config_data`. -/
def plaintextConfigData (ctx : Ctx) (snapshot : ConfigVersionSnapshot) : Except PyErr PyVal :=
  if snapshot.profile ≠ .hysteria2 then .ok snapshot.configData
  else decryptConfigDataFields ctx.encryptor (sensitiveFields snapshot.profile) snapshot.configData

/-- What the stream settings of an xray client hold for its profile; the flow is
a field of its user. -/
inductive XrayTransport where
  | reality (flow : PyVal) (serverName publicKey shortId : String)
  | grpc (serverName pin : String) (serviceName : PyVal)
  | xhttp (serverName : String) (alpn : List PyVal) (pin : String) (host path mode : PyVal)

/-- The client of `_build_xray_client_config`. -/
structure XrayClient where
  address : String
  port : Int
  id : String
  network : PyVal
  security : PyVal
  transport : XrayTransport

/-- The entry of a pin, where there is one. -/
def pinEntry (key pin : String) : List (String × PyVal) :=
  if pin ≠ "" then [(key, .str pin)] else []

namespace XrayClient

/-- The entry of `vnext[0]["users"]`. -/
def user (client : XrayClient) : PyVal :=
  .dict ([("id", .str client.id), ("encryption", .str "none")] ++
    match client.transport with
    | .reality flow _ _ _ => [("flow", flow)]
    | _ => [])

/-- `outbound["streamSettings"]`. -/
def streamSettings (client : XrayClient) : PyVal :=
  match client.transport with
  | .reality _ serverName publicKey shortId =>
      .dict [("network", client.network), ("security", client.security),
        ("realitySettings", .dict [("serverName", .str serverName),
          ("fingerprint", .str "chrome"), ("publicKey", .str publicKey),
          ("shortId", .str shortId)])]
  | .grpc serverName pin serviceName =>
      .dict [("network", client.network), ("security", .str "tls"),
        ("tlsSettings", .dict ([("serverName", .str serverName),
          ("fingerprint", .str "randomized")] ++ pinEntry "pinnedPeerCertSha256" pin)),
        ("grpcSettings", .dict [("serviceName", serviceName)])]
  | .xhttp serverName alpn pin host path mode =>
      .dict [("network", client.network), ("security", .str "tls"),
        ("tlsSettings", .dict ([("serverName", .str serverName),
          ("fingerprint", .str "chrome"), ("alpn", .list alpn)] ++
          pinEntry "pinnedPeerCertSha256" pin)),
        ("xhttpSettings", .dict [("host", host), ("path", path), ("mode", mode)])]

/-- The config file. -/
def document (client : XrayClient) (socksPort : Nat) : PyVal :=
  let vnext := .dict [("address", .str client.address), ("port", .int client.port),
    ("users", .list [client.user])]
  let outbound := .dict [("tag", .str "proxy"), ("protocol", .str "vless"),
    ("settings", .dict [("vnext", .list [vnext])]), ("streamSettings", client.streamSettings)]
  .dict [("log", .dict [("loglevel", .str "warning")]),
    ("inbounds", .list [.dict [("tag", .str "socks-in"), ("listen", .str "127.0.0.1"),
      ("port", .int socksPort), ("protocol", .str "socks"),
      ("settings", .dict [("udp", .bool true)])]]),
    ("outbounds", .list [outbound,
      .dict [("tag", .str "direct"), ("protocol", .str "freedom")]])]

end XrayClient

/-- `str(tls.get("serverName") or "").strip() or host`. -/
def probeSni (serverName : PyVal) (host : String) : String :=
  let sni := PyStr.strip (serverName.orElse (.str "")).toStr
  if sni ≠ "" then sni else host

/-- The branch of `_build_xray_client_config` for the profile. -/
def buildXrayTransport (rnd : Nat) (snapshot : ConfigVersionSnapshot) (host : String)
    (client stream : PyVal) : Except PyErr XrayTransport :=
  match snapshot.profile with
  | .xrayReality => do
      let reality ← stream.item "realitySettings"
      let flow ← client.get "flow" (.str "xtls-rprx-vision")
      let sni ← realityShareSni rnd reality
      let shortIds ← reality.item "shortIds"
      let shortId ← shortIds.first
      .ok (.reality flow sni snapshot.publicKey shortId.toStr)
  | .xrayGrpc => do
      let tls ← stream.item "tlsSettings"
      let grpc ← stream.item "grpcSettings"
      let serverName ← tls.get "serverName"
      let serviceName ← grpc.get "serviceName" (.str "")
      .ok (.grpc (probeSni serverName host) (pinHex snapshot.certFingerprint) serviceName)
  | .xrayXhttp => do
      let xhttp ← stream.item "xhttpSettings"
      let tlsSettings ← stream.get "tlsSettings"
      let tls := tlsSettings.orElse (.dict [])
      let serverName ← tls.get "serverName"
      let alpn ← tls.get "alpn"
      let alpn ← (alpn.orElse (.list [.str "h2", .str "http/1.1"])).iter
      let xhost ← xhttp.get "host" (.str host)
      let path ← xhttp.get "path" (.str "/")
      let mode ← xhttp.get "mode" (.str "stream-up")
      .ok (.xhttp (probeSni serverName host) alpn (pinHex snapshot.certFingerprint) xhost path
        mode)
  | .hysteria2 => .error ⟨.valueError, "Unsupported xray profile: " ++ snapshot.profile.value⟩

/-- `_build_xray_client_config` from the inbound it has found. -/
def xrayClientOf (rnd : Nat) (settings : PanelSettings) (snapshot : ConfigVersionSnapshot)
    (host : String) (inbound : PyVal) : Except PyErr XrayClient := do
  let client ← firstClient inbound
  let clientId ← client.item "id"
  let stream ← inbound.item "streamSettings"
  let network ← stream.item "network"
  let security ← stream.get "security" (.str "none")
  let transport ← buildXrayTransport rnd snapshot host client stream
  .ok ⟨host, probeDialPort snapshot host settings, clientId.toStr, network, security, transport⟩

/-- `_build_xray_client_config`, before it becomes a document. -/
def buildXrayClient (rnd : Nat) (ctx : Ctx) (snapshot : ConfigVersionSnapshot) (host : String) :
    Except PyErr XrayClient := do
  let ps ← ctx.settings.profileSettings snapshot.profile
  let configData ← plaintextConfigData ctx snapshot
  let inbound ← findInbound configData ps.inboundTag
  xrayClientOf rnd ctx.settings snapshot host inbound

/-- `_build_xray_client_config`. -/
def buildXrayClientConfig (rnd : Nat) (ctx : Ctx) (snapshot : ConfigVersionSnapshot)
    (host : String) (socksPort : Nat) : Except PyErr PyVal := do
  let client ← buildXrayClient rnd ctx snapshot host
  .ok (client.document socksPort)

/-- The client of `_build_hysteria_client_config`. -/
structure HysteriaClient where
  host : String
  port : Int
  auth : String
  sni : String
  pin : String
  obfsPassword : Option String

/-- The config file; `caPath` is where the certificate has been written. -/
def HysteriaClient.document (client : HysteriaClient) (socksPort : Nat)
    (caPath : Option String) : PyVal :=
  .dict ([("server", .str (client.host ++ ":" ++ toString client.port)),
    ("auth", .str client.auth),
    ("tls", .dict ([("sni", .str client.sni), ("insecure", .bool false)] ++
      caPath.toList.map (fun path => ("ca", .str path)) ++ pinEntry "pinSHA256" client.pin)),
    ("socks5", .dict [("listen", .str ("127.0.0.1:" ++ toString socksPort))]),
    ("log", .dict [("level", .str "warn")])] ++
    client.obfsPassword.toList.map fun password =>
      ("obfs", .dict [("type", .str "salamander"),
        ("salamander", .dict [("password", .str password)])]))

/-- The obfuscation password of a Hysteria2 document, where it is used. -/
def probeObfs (configData : PyVal) : Except PyErr (Option String) := do
  let obfsSection ← configData.get "obfs"
  let obfs := obfsSection.orElse (.dict [])
  let kind ← obfs.get "type" (.str "")
  if PyStr.asciiLower (PyStr.strip kind.toStr) = "salamander" then
    let salamander ← obfs.get "salamander"
    let password ← (salamander.orElse (.dict [])).get "password"
    if password.truthy then .ok (some password.toStr) else .ok none
  else .ok none

/-- `_build_hysteria_client_config`, before it becomes a document. -/
def buildHysteriaClient (ctx : Ctx) (snapshot : ConfigVersionSnapshot) (host : String) :
    Except PyErr HysteriaClient := do
  let configData ← plaintextConfigData ctx snapshot
  let auth ← configData.item "auth"
  let password ← auth.item "password"
  let topSni ← configData.get "sni"
  let sni ← if topSni.truthy then .ok topSni else do
    let tls ← configData.get "tls" (.dict [])
    let tlsSni ← tls.get "sni"
    .ok (tlsSni.orElse (.str host))
  let obfsPassword ← probeObfs configData
  .ok ⟨host, probeDialPort snapshot host ctx.settings, password.toStr, sni.toStr,
    pinHex snapshot.certFingerprint, obfsPassword⟩

/-- `_build_hysteria_client_config`. -/
def buildHysteriaClientConfig (ctx : Ctx) (snapshot : ConfigVersionSnapshot) (host : String)
    (socksPort : Nat) (caPath : Option String) : Except PyErr PyVal := do
  let client ← buildHysteriaClient ctx snapshot host
  .ok (client.document socksPort caPath)

end VpnPanel
