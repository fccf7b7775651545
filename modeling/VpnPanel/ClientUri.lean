import VpnPanel.Inbound

/-!
# VpnPanel.ClientUri

Share URIs: `client_uri.py`, and the choice of the host they name
(`ProfileConfigBuilder.build_client_uris`).

A URI is built as a record, `ShareUri`, whose `render` is the text; what a
client sees of a parameter is its value before quoting.  `random.choice` takes
the drawn position as an argument.
-/

namespace VpnPanel

/-! ## texts -/

/-- Characters `urllib.parse.quote` never escapes. -/
def unreserved (c : Char) : Bool :=
  c.isAlphanum || c = '_' || c = '.' || c = '-' || c = '~'

def hexDigit (n : Nat) : Char :=
  if n < 10 then Char.ofNat ('0'.toNat + n) else Char.ofNat ('A'.toNat + (n - 10))

/-- `%XX` for one byte. -/
def escapeByte (b : UInt8) : List Char := ['%', hexDigit (b.toNat / 16), hexDigit (b.toNat % 16)]

/-- `quote(s, safe)`. -/
def quote (s : String) (safe : List Char) : String :=
  String.ofList (s.toList.flatMap fun c =>
    if unreserved c || safe.contains c then [c]
    else (String.singleton c).toUTF8.toList.flatMap escapeByte)

/-- A query parameter: `quoted` says whether its value goes through `quote`. -/
structure UriParam where
  name : String
  value : String
  quoted : Bool
  deriving DecidableEq, Repr

def UriParam.render (p : UriParam) : String :=
  p.name ++ "=" ++ (if p.quoted then quote p.value [] else p.value)

/-- A share URI before it becomes text. -/
structure ShareUri where
  scheme : String
  user : String
  userQuoted : Bool
  host : String
  port : Int
  params : List UriParam
  label : String
  deriving DecidableEq, Repr

namespace ShareUri

/-- The URI's text. -/
def render (u : ShareUri) : String :=
  u.scheme ++ "://" ++ (if u.userQuoted then quote u.user [] else u.user) ++ "@" ++ u.host ++ ":" ++
    toString u.port ++ "?" ++ String.intercalate "&" (u.params.map UriParam.render) ++ "#" ++
    quote u.label ['/']

/-- The value of a parameter. -/
def param? (u : ShareUri) (name : String) : Option String :=
  (u.params.find? fun p => p.name = name).map UriParam.value

/-- The server name the client will send. -/
def sni? (u : ShareUri) : Option String := u.param? "sni"

end ShareUri

/-- A plain parameter. -/
def plain (name value : String) : UriParam := ⟨name, value, false⟩

/-- A parameter whose value is quoted. -/
def escaped (name value : String) : UriParam := ⟨name, value, true⟩

/-! ## the pieces -/

/-- `_SHARE_LABELS`. -/
def shareLabel : ConfigProfile → String
  | .xrayReality => "Reality-Dynamic"
  | .xrayXhttp => "XHTTP-Dynamic"
  | .xrayGrpc => "gRPC-Dynamic"
  | .hysteria2 => "Hysteria2-Dynamic"

/-- `dest_hostname`. -/
def destHostname (dest : String) : String :=
  let value := PyStr.strip dest
  if value = "" then ""
  else if value.toList.contains ':' && !(value.toList.head? = some '[') then
    PyStr.strip (String.ofList (PyStr.beforeLast ':' value.toList))
  else value

/-- `pick_server_name`; `rnd` is the position `random.choice` draws. -/
def pickServerName (rnd : Nat) (names : List PyVal) : String :=
  let candidates := (names.map fun name => PyStr.strip name.toStr).filter (· ≠ "")
  candidates.getD (rnd % candidates.length) ""

/-- `reality_share_sni`. -/
def realityShareSni (rnd : Nat) (reality : PyVal) : Except PyErr String := do
  let dest ← reality.get "dest"
  let host := destHostname (dest.orElse (.str "")).toStr
  if host ≠ "" then .ok host
  else do
    let serverNames ← reality.get "serverNames"
    let names ← (serverNames.orElse (.list [])).iter
    .ok (pickServerName rnd names)

/-- `_pin_hex`. -/
def pinHex (certFingerprint : String) : String :=
  String.ofList ((certFingerprint.toList.filter (· ≠ ':')).map Char.toUpper)

/-- The last parameters of the TLS profiles: the pin, or `insecure=1`. -/
def pinParams (secure : Bool) (certFingerprint : String) : List UriParam :=
  if secure then
    let pcs := pinHex certFingerprint
    if pcs ≠ "" then [plain "pcs" pcs] else []
  else [plain "insecure" "1"]

/-- `inbound["settings"]["clients"][0]`. -/
def firstClient (inbound : PyVal) : Except PyErr PyVal := do
  let settings ← inbound.item "settings"
  let clients ← settings.item "clients"
  clients.first

/-! ## one builder per profile -/

/-- `_build_reality_uri`. -/
def buildRealityUri (rnd : Nat) (inbound clientId : PyVal) (host : String) (port : Int)
    (publicKey label : String) : Except PyErr ShareUri := do
  let stream ← inbound.item "streamSettings"
  let reality ← stream.item "realitySettings"
  let shortIds ← reality.item "shortIds"
  let shortId ← shortIds.first
  let client ← firstClient inbound
  let flow ← client.get "flow" (.str "xtls-rprx-vision")
  let sni ← realityShareSni rnd reality
  let params :=
    [plain "type" "tcp", plain "security" "reality", plain "flow" flow.toStr,
      plain "fp" "chrome", plain "pbk" publicKey, plain "sid" shortId.toStr] ++
    (if sni ≠ "" then [escaped "sni" sni] else [])
  .ok ⟨"vless", clientId.toStr, false, host, port, params, label⟩

/-- `_build_xhttp_uri`. -/
def buildXhttpUri (inbound clientId : PyVal) (host : String) (port : Int)
    (certFingerprint label : String) (secure : Bool) : Except PyErr ShareUri := do
  let stream ← inbound.item "streamSettings"
  let xhttp ← stream.item "xhttpSettings"
  let tlsSettings ← stream.get "tlsSettings"
  let tls := tlsSettings.orElse (.dict [])
  let xhost ← xhttp.get "host" (.str host)
  let path ← xhttp.get "path" (.str "/")
  let mode ← xhttp.get "mode" (.str "stream-up")
  let serverName ← tls.get "serverName"
  let sni := serverName.orElse (.str host)
  let params :=
    [plain "type" "xhttp", plain "security" "tls", escaped "host" xhost.toStr,
      escaped "path" path.toStr, escaped "mode" mode.toStr, plain "fp" "chrome",
      escaped "sni" sni.toStr] ++ pinParams secure certFingerprint
  .ok ⟨"vless", clientId.toStr, false, host, port, params, label⟩

/-- `_build_grpc_uri`. -/
def buildGrpcUri (inbound clientId : PyVal) (host : String) (port : Int)
    (certFingerprint label : String) (secure : Bool) : Except PyErr ShareUri := do
  let stream ← inbound.item "streamSettings"
  let tls ← stream.item "tlsSettings"
  let grpc ← stream.item "grpcSettings"
  let serverName ← tls.get "serverName"
  let sni := serverName.orElse (.str host)
  let serviceName ← grpc.get "serviceName" (.str "")
  let params :=
    [plain "type" "grpc", plain "security" "tls", escaped "serviceName" serviceName.toStr,
      plain "fp" "chrome", escaped "sni" sni.toStr] ++ pinParams secure certFingerprint
  .ok ⟨"vless", clientId.toStr, false, host, port, params, label⟩

/-- The obfuscation parameters of a Hysteria2 URI. -/
def obfsParams (configData : PyVal) : Except PyErr (List UriParam) := do
  let obfsSection ← configData.get "obfs"
  let obfs := obfsSection.orElse (.dict [])
  let kind ← obfs.get "type" (.str "")
  if PyStr.asciiLower (PyStr.strip kind.toStr) = "salamander" then
    let salamander ← obfs.get "salamander"
    let password ← (salamander.orElse (.dict [])).get "password"
    if password.truthy then
      .ok [plain "obfs" "salamander", escaped "obfs-password" password.toStr]
    else .ok []
  else .ok []

/-- `_build_hysteria2_uri`. -/
def buildHysteria2Uri (configData : PyVal) (host certFingerprint label : String) (secure : Bool)
    (publicPort : Option Nat) : Except PyErr ShareUri := do
  let port ← match publicPort with
    | some (p + 1) => .ok ((p + 1 : Nat) : Int)
    | _ => hysteriaPort configData
  let auth ← configData.item "auth"
  let password ← auth.item "password"
  let topSni ← configData.get "sni"
  let sni ← if topSni.truthy then .ok topSni else do
    let tls ← configData.get "tls" (.dict [])
    let tlsSni ← tls.get "sni"
    .ok (tlsSni.orElse (.str host))
  let obfs ← obfsParams configData
  let tail :=
    if secure then
      let pin := pinHex certFingerprint
      (if pin ≠ "" then [plain "pinSHA256" pin] else []) ++ [plain "insecure" "0"]
    else [plain "insecure" "1"]
  match password with
  | .str pass =>
      .ok ⟨"hysteria2", pass, true, host, port, [escaped "sni" sni.toStr] ++ obfs ++ tail, label⟩
  | _ => .error ⟨.typeError, "quote_from_bytes() expected bytes"⟩

/-- `build_share_uris`. -/
def buildShareUris (rnd : Nat) (profile : ConfigProfile) (configData : PyVal) (host : String)
    (publicKey certFingerprint inboundTag : String) (secure : Bool) (publicPort : Option Nat) :
    Except PyErr (List ShareUri) :=
  let label := shareLabel profile
  match profile with
  | .hysteria2 => do
      let uri ← buildHysteria2Uri configData host certFingerprint label secure publicPort
      .ok [uri]
  | _ => do
      let inbound ← findInbound configData inboundTag
      let port ← match publicPort with
        | some (p + 1) => .ok ((p + 1 : Nat) : Int)
        | _ => do
            let p ← inbound.item "port"
            p.toInt
      let client ← firstClient inbound
      let clientId ← client.item "id"
      let uri ← match profile with
        | .xrayReality => buildRealityUri rnd inbound clientId host port publicKey label
        | .xrayXhttp => buildXhttpUri inbound clientId host port certFingerprint label secure
        | _ => buildGrpcUri inbound clientId host port certFingerprint label secure
      .ok [uri]

/-! ## the parts of the xray builders -/

/-- `int(public_port) if public_port else int(inbound["port"])`. -/
def sharePort (publicPort : Option Nat) (inbound : PyVal) : Except PyErr Int :=
  match publicPort with
  | some (p + 1) => .ok ((p + 1 : Nat) : Int)
  | _ => do
      let p ← inbound.item "port"
      p.toInt

/-- The builder of an xray profile. -/
def buildXrayUri (rnd : Nat) (profile : ConfigProfile) (inbound clientId : PyVal) (host : String)
    (port : Int) (publicKey certFingerprint : String) (secure : Bool) : Except PyErr ShareUri :=
  match profile with
  | .xrayReality => buildRealityUri rnd inbound clientId host port publicKey (shareLabel profile)
  | .xrayXhttp =>
      buildXhttpUri inbound clientId host port certFingerprint (shareLabel profile) secure
  | _ => buildGrpcUri inbound clientId host port certFingerprint (shareLabel profile) secure

theorem buildShareUris_xray {rnd : Nat} {profile : ConfigProfile} {configData : PyVal}
    {host publicKey certFingerprint tag : String} {secure : Bool} {publicPort : Option Nat}
    (h : profile ≠ .hysteria2) :
    buildShareUris rnd profile configData host publicKey certFingerprint tag secure publicPort =
      (do
        let inbound ← findInbound configData tag
        let port ← sharePort publicPort inbound
        let client ← firstClient inbound
        let clientId ← client.item "id"
        let uri ← buildXrayUri rnd profile inbound clientId host port publicKey certFingerprint
          secure
        .ok [uri]) := by
  cases profile with
  | hysteria2 => exact absurd rfl h
  | xrayReality | xrayGrpc | xrayXhttp =>
      cases hinbound : findInbound configData tag with
      | error e => simp [buildShareUris, hinbound]
      | ok inbound =>
          rcases publicPort with _ | _ | p <;>
            simp [buildShareUris, sharePort, buildXrayUri, hinbound]

/-! ## the parts of the Hysteria2 builder -/

/-- `config_data.get("sni") or config_data.get("tls", {}).get("sni") or host`. -/
def hysteriaSni (configData : PyVal) (host : String) : Except PyErr PyVal := do
  let topSni ← configData.get "sni"
  if topSni.truthy then .ok topSni
  else do
    let tls ← configData.get "tls" (.dict [])
    let tlsSni ← tls.get "sni"
    .ok (tlsSni.orElse (.str host))

theorem hysteriaSni_bind {β : Type} (configData : PyVal) (host : String)
    (f : PyVal → Except PyErr β) :
    (do
      let topSni ← configData.get "sni"
      if topSni.truthy then f topSni
      else do
        let tls ← configData.get "tls" (.dict [])
        let tlsSni ← tls.get "sni"
        f (tlsSni.orElse (.str host))) = hysteriaSni configData host >>= f := by
  unfold hysteriaSni
  cases configData.get "sni" with
  | error e => rfl
  | ok topSni =>
      simp only [Except.ok_bind_eq]
      split
      · rfl
      · cases configData.get "tls" (.dict []) with
        | error e => rfl
        | ok tls =>
            simp only [Except.ok_bind_eq]
            cases tls.get "sni" with
            | error e => rfl
            | ok tlsSni => rfl

/-- `int(public_port) if public_port else …` of a Hysteria2 document. -/
def hysteriaSharePort (publicPort : Option Nat) (configData : PyVal) : Except PyErr Int :=
  match publicPort with
  | some (p + 1) => .ok ((p + 1 : Nat) : Int)
  | _ => hysteriaPort configData

/-- The last parameters of a Hysteria2 URI. -/
def hysteriaTail (secure : Bool) (certFingerprint : String) : List UriParam :=
  if secure then
    let pin := pinHex certFingerprint
    (if pin ≠ "" then [plain "pinSHA256" pin] else []) ++ [plain "insecure" "0"]
  else [plain "insecure" "1"]

/-- A Hysteria2 URI in one chain. -/
theorem buildHysteria2Uri_chain (configData : PyVal) (host certFingerprint label : String)
    (secure : Bool) (publicPort : Option Nat) :
    buildHysteria2Uri configData host certFingerprint label secure publicPort = (do
      let port ← hysteriaSharePort publicPort configData
      let auth ← configData.item "auth"
      let password ← auth.item "password"
      let sni ← hysteriaSni configData host
      let obfs ← obfsParams configData
      match password with
      | .str pass => .ok ⟨"hysteria2", pass, true, host, port,
          [escaped "sni" sni.toStr] ++ obfs ++ hysteriaTail secure certFingerprint, label⟩
      | _ => .error ⟨.typeError, "quote_from_bytes() expected bytes"⟩) := by
  unfold buildHysteria2Uri hysteriaSharePort
  rcases publicPort with _ | _ | p
  all_goals
    refine bind_congr fun port => bind_congr fun auth => bind_congr fun password => ?_
    exact hysteriaSni_bind configData host _

/-! ## the URIs of a document -/

/-- There is one URI. -/
theorem buildShareUris_singleton {rnd : Nat} {profile : ConfigProfile} {configData : PyVal}
    {host publicKey certFingerprint tag : String} {secure : Bool} {publicPort : Option Nat}
    {uris : List ShareUri}
    (h : buildShareUris rnd profile configData host publicKey certFingerprint tag secure
      publicPort = .ok uris) : ∃ uri, uris = [uri] := by
  by_cases hprofile : profile = .hysteria2
  · subst hprofile
    obtain ⟨uri, -, h⟩ := Except.bind_eq_ok_iff.mp h
    exact ⟨uri, (Except.ok.inj h).symm⟩
  · rw [buildShareUris_xray hprofile] at h
    obtain ⟨inbound, -, h⟩ := Except.bind_eq_ok_iff.mp h
    obtain ⟨port, -, h⟩ := Except.bind_eq_ok_iff.mp h
    obtain ⟨client, -, h⟩ := Except.bind_eq_ok_iff.mp h
    obtain ⟨clientId, -, h⟩ := Except.bind_eq_ok_iff.mp h
    obtain ⟨uri, -, h⟩ := Except.bind_eq_ok_iff.mp h
    exact ⟨uri, (Except.ok.inj h).symm⟩

/-! ## the host of the URIs -/

/-- `ProfileConfigBuilder._effective_share_host`. -/
def effectiveShareHost (settings : PanelSettings) (ps : VpnProfileSettings)
    (sharePublicHost : Option String) : String :=
  let candidates := [stripOr sharePublicHost, stripOr ps.sharePublicHost,
    stripOr (some settings.publicHost)]
  (candidates.find? (· ≠ "")).getD "localhost"

/-- `ProfileConfigBuilder.build_client_uris`. -/
def buildClientUris (rnd : Nat) (settings : PanelSettings) (profile : ConfigProfile)
    (configData : PyVal) (publicKey certFingerprint : String) (secure : Bool)
    (sharePublicHost : Option String) : Except PyErr (List ShareUri) := do
  let ps ← settings.profileSettings profile
  let host := effectiveShareHost settings ps sharePublicHost
  buildShareUris rnd profile configData host publicKey certFingerprint ps.inboundTag secure
    ps.sharePublicPort

end VpnPanel
