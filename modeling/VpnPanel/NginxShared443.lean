import VpnPanel.ClientUri
import VpnPanel.Lib.Dict
import Mathlib.Data.List.Sort
import Mathlib.Data.List.Dedup

/-!
# VpnPanel.NginxShared443

The nginx stream mux on port 443: `nginx_shared_443.py`.

A client's TLS server name selects a backend.  The map is computed from the
panel's host names, the config that was just written (`configData`) and the
live config files of the other mux profiles; `sharedConf` is that computation,
the part of `sync_reality_shared_443` before nginx is touched.

* `realitySniHosts`, `tlsHostFromConfig` — the server names a document claims;
* `inboundBackend` — where its inbound listens;
* `routesForMuxProfile` — the routes of one profile;
* `renderShared443StreamConf` — the map file.
-/

namespace VpnPanel

def defaultStreamConf : String := "/etc/nginx/stream.d/vcp-shared-443.conf"

def defaultPanelBackend : String := "127.0.0.1:8443"

/-- `_MUX_PROFILES`. -/
def muxProfiles : List ConfigProfile := [.xrayReality, .xrayXhttp, .xrayGrpc]

/-- `a or b` for strings. -/
def orStr (a b : String) : String := if a = "" then b else a

/-- `shared_443_enabled`. -/
def shared443Enabled (ps : VpnProfileSettings) : Bool :=
  ps.sharePublicPort.getD 0 ≠ 0 && ps.listenAddress.getD "" ≠ ""

/-- `panel_sni_hosts`. -/
def panelSniHosts (settings : PanelSettings) : List String :=
  let add (hosts : List String) (candidate : String) : List String :=
    let value := PyStr.strip candidate
    if value ≠ "" && !hosts.contains value then hosts ++ [value] else hosts
  (settings.publicHost :: settings.publicHostAliases).foldl add []

/-! ## what a document claims -/

/-- The `realitySettings` that `reality_sni_hosts` reads. -/
def realitySection (ps : VpnProfileSettings) (configData : PyVal) : Except PyErr PyVal := do
  let inbound ← match findInbound configData (orStr ps.inboundTag "inbound-reality") with
    | .ok inbound => .ok inbound
    | .error _ => do
        let inbounds ← configData.get "inbounds"
        (inbounds.orElse (.list [.dict []])).first
  let stream ← inbound.get "streamSettings"
  let reality ← (stream.orElse (.dict [])).get "realitySettings"
  .ok (reality.orElse (.dict []))

/-- The stripped strings of a list, blank ones left out. -/
def stringNames (names : List PyVal) : List String :=
  names.filterMap fun name =>
    match name with
    | .str s => if PyStr.strip s ≠ "" then some (PyStr.strip s) else none
    | _ => none

/-- `reality_sni_hosts`. -/
def realitySniHosts (ps : VpnProfileSettings) (configData : PyVal) :
    Except PyErr (List String) := do
  let ofSettings := (ps.realityDestHosts.map destHostname).filter (· ≠ "") ++
    (ps.realityServerNames.map PyStr.strip).filter (· ≠ "")
  let reality ← realitySection ps configData
  let serverNames ← reality.get "serverNames"
  let names ← (serverNames.orElse (.list [])).iter
  let dest ← reality.get "dest"
  let ofDest := if dest.truthy then [destHostname dest.toStr].filter (· ≠ "") else []
  .ok ((ofSettings ++ stringNames names ++ ofDest).dedup.insertionSort (· ≤ ·))

/-- `_inbound_backend`; a boolean passes `isinstance(port, int)`. -/
def inboundBackend (inbound : PyVal) (fallbackListen : Option String) :
    Except PyErr (Option String) := do
  let port ← inbound.get "port"
  let listening : Bool := match port with
    | .int i => 1 ≤ i
    | .bool b => b
    | _ => false
  if listening then
    let listen ← inbound.get "listen"
    let listen := PyStr.strip
      (listen.orElse (.str (orStr (fallbackListen.getD "") "127.0.0.1"))).toStr
    let listen := if listen = "0.0.0.0" || listen = "::" || listen = "" then "127.0.0.1"
      else listen
    .ok (some (listen ++ ":" ++ port.toStr))
  else .ok none

/-- `_tls_host_from_config`. -/
def tlsHostFromConfig (profile : ConfigProfile) (data : PyVal) (ps : VpnProfileSettings) :
    Except PyErr (Option String) :=
  let nonEmpty (s : String) : Option String := if s ≠ "" then some s else none
  match profile with
  | .hysteria2 => do
      let tls ← data.get "tls"
      let sni ← (tls.orElse (.dict [])).get "sni"
      let host ← (sni.orElse (.str "")).strip
      .ok (nonEmpty host)
  | _ =>
    match findInbound data ps.inboundTag with
    | .error _ => .ok none
    | .ok inbound => do
        let streamSettings ← inbound.get "streamSettings"
        let stream := streamSettings.orElse (.dict [])
        let tls ← stream.get "tlsSettings"
        let serverName ← (tls.orElse (.dict [])).get "serverName"
        let host ← (serverName.orElse (.str "")).strip
        if host ≠ "" then .ok (some host)
        else do
          let xhttp ← stream.get "xhttpSettings"
          let xhost ← (xhttp.orElse (.dict [])).get "host"
          let host ← (xhost.orElse (.str "")).strip
          .ok (nonEmpty host)

/-- `_detect_mux_profile_key`. -/
def detectMuxProfileKey (settings : PanelSettings) (configData : PyVal) : Option ConfigProfile :=
  muxProfiles.find? fun key =>
    let tag := ((settings.profiles key).map VpnProfileSettings.inboundTag).getD ""
    tag ≠ "" && (findInbound configData tag).isOk

/-! ## the live config files -/

/-- What parsing the files below a directory gives, `glob dir name` for the
pattern `dir/*/name` in path order; `none` is a file that cannot be read or
parsed. -/
abbrev Glob := String → String → List (Option PyVal)

/-- The loop of `_load_live_configs_for_profile`. -/
def loadLive (tag : String) : List (Option PyVal) → Except PyErr (List PyVal)
  | [] => .ok []
  | none :: files => loadLive tag files
  | some data :: files =>
      if !data.isDict then loadLive tag files
      else if tag = "" then do
        let items ← loadLive tag files
        .ok (data :: items)
      else
        match findInbound data tag with
        | .ok _ => do
            let items ← loadLive tag files
            .ok (data :: items)
        | .error e => if e.isKeyError then loadLive tag files else .error e

/-- `_load_live_configs_for_profile`. -/
def loadLiveConfigsForProfile (settings : PanelSettings) (glob : Glob) (key : ConfigProfile) :
    Except PyErr (List PyVal) :=
  match settings.profiles key with
  | none => .ok []
  | some ps =>
      match key with
      | .hysteria2 => loadLive ps.inboundTag (glob settings.systemd.hysteriaConfigDir "config.yaml")
      | _ => loadLive ps.inboundTag (glob settings.systemd.xrayConfigDir "config.json")

/-! ## routes -/

/-- The host a TLS document is routed under: its own, else the profile's. -/
def routeHost (settings : PanelSettings) (key : ConfigProfile) (ps : VpnProfileSettings)
    (data : PyVal) : Except PyErr String := do
  let host ← tlsHostFromConfig key data ps
  match host with
  | some host => .ok host
  | none => .ok (PyStr.strip (orStr (ps.sharePublicHost.getD "") settings.publicHost))

/-- The loop over `live_items`: a backend is taken once, a host by the last
document that names it. -/
def collectTlsRoutes (settings : PanelSettings) (key : ConfigProfile) (ps : VpnProfileSettings)
    (byHost : Dict String String) (seen : List String) :
    List PyVal → Except PyErr (Dict String String)
  | [] => .ok byHost
  | data :: rest =>
      match findInbound data ps.inboundTag with
      | .error _ => collectTlsRoutes settings key ps byHost seen rest
      | .ok inbound => do
          let backend ← inboundBackend inbound ps.listenAddress
          match backend with
          | none => collectTlsRoutes settings key ps byHost seen rest
          | some backend =>
              if backend ∈ seen then collectTlsRoutes settings key ps byHost seen rest
              else
                match routeHost settings key ps data with
                | .error e => .error e
                | .ok host =>
                    if host = "" then collectTlsRoutes settings key ps byHost seen rest
                    else
                      collectTlsRoutes settings key ps (byHost.set host backend)
                        (backend :: seen) rest

/-- The Reality branch of `_routes_for_mux_profile`: one document only, the
injected one or the first on disk. -/
def realityRoutes (settings : PanelSettings) (glob : Glob) (ps : VpnProfileSettings)
    (injected : Option PyVal) : Except PyErr (List (String × String)) := do
  let data ← match injected with
    | some d => if d.truthy then .ok (some d) else do
        let items ← loadLiveConfigsForProfile settings glob .xrayReality
        .ok items.head?
    | none => do
        let items ← loadLiveConfigsForProfile settings glob .xrayReality
        .ok items.head?
  match data with
  | none => .ok []
  | some data =>
      match findInbound data ps.inboundTag with
      | .error _ => .ok []
      | .ok inbound => do
          let backend ← inboundBackend inbound ps.listenAddress
          match backend with
          | none => .ok []
          | some backend => do
              let hosts ← realitySniHosts ps data
              .ok (hosts.map fun sni => (sni, backend))

/-- The other branch: every document on disk, the injected one appended. -/
def tlsRoutes (settings : PanelSettings) (glob : Glob) (key : ConfigProfile)
    (ps : VpnProfileSettings) (injected : Option PyVal) :
    Except PyErr (List (String × String)) := do
  let live ← loadLiveConfigsForProfile settings glob key
  let byHost ← collectTlsRoutes settings key ps Dict.empty [] (live ++ injected.toList)
  .ok byHost.entries

/-- `_routes_for_mux_profile`. -/
def routesForMuxProfile (settings : PanelSettings) (glob : Glob) (key : ConfigProfile)
    (injected : Option PyVal) : Except PyErr (List (String × String)) :=
  match settings.profiles key with
  | none => .ok []
  | some ps =>
      if shared443Enabled ps then
        if key = .xrayReality then realityRoutes settings glob ps injected
        else tlsRoutes settings glob key ps injected
      else .ok []

/-! ## the map file -/

/-- The stream map: its `key backend;` lines and the default line after them. -/
structure SharedConf where
  lines : List (String × String)
  panelBackend : String
  deriving DecidableEq, Repr

namespace SharedConf

/-- The backend of a server name. -/
def lookup (conf : SharedConf) (sni : String) : String :=
  (Dict.findEntry sni conf.lines).getD conf.panelBackend

/-- The text of the file. -/
def render (conf : SharedConf) : String :=
  let mapBody := String.intercalate "\n"
    (conf.lines.map fun line => "    " ++ line.1 ++ " " ++ line.2 ++ ";")
  "# Managed by VpnControlPanel — do not edit by hand.\n" ++
    "# Updated automatically on Reality/xHTTP create/regenerate when share_public_port is set.\n" ++
    "\n" ++
    "map $ssl_preread_server_name $vcp_443_backend \x7b\n" ++
    mapBody ++ "\n" ++
    "    default " ++ conf.panelBackend ++ ";\n" ++
    "\x7d\n" ++
    "\n" ++
    "server \x7b\n" ++
    "    listen 443 reuseport;\n" ++
    "    listen [::]:443 reuseport;\n" ++
    "    proxy_pass $vcp_443_backend;\n" ++
    "    ssl_preread on;\n" ++
    "    proxy_connect_timeout 10s;\n" ++
    "    proxy_timeout 300s;\n" ++
    "\x7d\n"

end SharedConf

/-- The routes `render_shared_443_stream_conf` keeps, stripped. -/
def keptRoutes (panelSnis : List String) (routes : List (String × String)) :
    List (String × String) :=
  let panelSet := (panelSnis.map PyStr.strip).filter (· ≠ "")
  (routes.map fun r => (PyStr.strip r.1, PyStr.strip r.2)).filter fun r =>
    r.1 ≠ "" && r.2 ≠ "" && !panelSet.contains r.1

/-- `render_shared_443_stream_conf`. -/
def renderShared443StreamConf (panelSnis : List String) (panelBackend : String)
    (routes : List (String × String)) : SharedConf :=
  let panelLines := ((panelSnis.map PyStr.strip).filter (· ≠ "")).map fun sni =>
    (sni, panelBackend)
  let lines := panelLines ++ (Dict.ofPairs (keptRoutes panelSnis routes)).entries
  ⟨if lines = [] then [("default", panelBackend)] else lines, panelBackend⟩

/-! ## sync -/

/-- What `sync_reality_shared_443` injects into a profile: `configData` into
its own profile only. -/
def injectedFor (settings : PanelSettings) (configData : PyVal) (key : ConfigProfile) :
    Option PyVal :=
  if detectMuxProfileKey settings configData = some key then some configData else none

/-- The routes of the listed profiles, in order. -/
def muxRoutes (settings : PanelSettings) (glob : Glob) (configData : PyVal) :
    List ConfigProfile → Except PyErr (List (String × String))
  | [] => .ok []
  | key :: keys => do
      let routes ← routesForMuxProfile settings glob key (injectedFor settings configData key)
      let rest ← muxRoutes settings glob configData keys
      .ok (routes ++ rest)

/-- `sync_reality_shared_443` up to the write: the file and what goes into it,
`none` when the mux is off. -/
def sharedConf (settings : PanelSettings) (glob : Glob) (configData : PyVal) :
    Except PyErr (Option (String × SharedConf)) :=
  match settings.profiles .xrayReality with
  | none => .ok none
  | some reality =>
      if shared443Enabled reality then
        if panelSniHosts settings = [] then .ok none
        else do
          let panelBackend :=
            PyStr.strip (orStr (reality.nginxPanelBackend.getD "") defaultPanelBackend)
          let routes ← muxRoutes settings glob configData muxProfiles
          .ok (some (reality.nginxStreamConf.getD defaultStreamConf,
            renderShared443StreamConf (panelSniHosts settings) panelBackend routes))
      else .ok none

end VpnPanel
