import VpnPanel.VpnConnectivity
import VpnPanel.PinnedShares
import VpnPanel.ServableEdits

/-!
# VpnPanel.ProbedClient

The client of the connectivity probe against the share URI of the same
snapshot.

Both are read off one document by code of their own, so each is given a view,
`ClientView`: what it knows of the server.  `probesShared_iff`: the probe dials
the host of the URI, and where the host is not this machine its client has the
view of the URI for that host, exactly when the port of the version is that of
its document and the fields that only one side converts need no conversion.
-/

namespace VpnPanel

/-! ## what a client knows -/

/-- What a client knows of its server. -/
structure ClientView where
  port : Int
  /-- The client id, or the password. -/
  credential : String
  flow : Option PyVal
  serverName : String
  publicKey : Option String
  shortId : Option String
  host : Option PyVal
  path : Option PyVal
  mode : Option PyVal
  serviceName : Option PyVal
  obfsPassword : Option String
  pin : Option String
  deriving DecidableEq, Repr

/-- A pin, where there is one. -/
def pin? (pin : String) : Option String := if pin ≠ "" then some pin else none

/-- The view of a URI; a parameter is a text. -/
def ShareUri.view (uri : ShareUri) : ClientView where
  port := uri.port
  credential := uri.user
  flow := (uri.param? "flow").map .str
  serverName := uri.sni?.getD ""
  publicKey := uri.param? "pbk"
  shortId := uri.param? "sid"
  host := (uri.param? "host").map .str
  path := (uri.param? "path").map .str
  mode := (uri.param? "mode").map .str
  serviceName := (uri.param? "serviceName").map .str
  obfsPassword := uri.param? "obfs-password"
  pin := (uri.param? "pcs").or (uri.param? "pinSHA256")

/-- The view of an xray client. -/
def XrayClient.view (client : XrayClient) : ClientView :=
  match client.transport with
  | .reality flow serverName publicKey shortId =>
      ⟨client.port, client.id, some flow, serverName, some publicKey, some shortId, none, none,
        none, none, none, none⟩
  | .grpc serverName pin serviceName =>
      ⟨client.port, client.id, none, serverName, none, none, none, none, none, some serviceName,
        none, pin? pin⟩
  | .xhttp serverName _ pin host path mode =>
      ⟨client.port, client.id, none, serverName, none, none, some host, some path, some mode,
        none, none, pin? pin⟩

/-- The view of a Hysteria2 client. -/
def HysteriaClient.view (client : HysteriaClient) : ClientView :=
  ⟨client.port, client.auth, none, client.sni, none, none, none, none, none, none,
    client.obfsPassword, pin? client.pin⟩

/-- The view of the client the probe starts for a host. -/
def probeView (rnd : Nat) (ctx : Ctx) (snapshot : ConfigVersionSnapshot) (host : String) :
    Except PyErr ClientView :=
  if snapshot.profile = .hysteria2 then do
    let client ← buildHysteriaClient ctx snapshot host
    .ok client.view
  else do
    let client ← buildXrayClient rnd ctx snapshot host
    .ok client.view

/-- The secure URI of a snapshot's document for a host. -/
def secureUris (rnd : Nat) (ps : VpnProfileSettings) (snapshot : ConfigVersionSnapshot)
    (doc : PyVal) (host : String) : Except PyErr (List ShareUri) :=
  buildShareUris rnd snapshot.profile doc host snapshot.publicKey snapshot.certFingerprint
    ps.inboundTag true ps.sharePublicPort

/-- The probe describes the client of the share URI: without a fallback to this
machine it dials the host of the URI or none, and its client for any other host
than this machine has the view of the URI for that host. -/
structure ProbesShared (rnd : Nat) (ctx : Ctx) (ps : VpnProfileSettings)
    (snapshot : ConfigVersionSnapshot) (doc : PyVal) (uri : ShareUri) : Prop where
  hosts : probeAllowLoopback snapshot ctx.settings = false →
    dialedHosts snapshot ctx.settings = [] ∨ dialedHosts snapshot ctx.settings = [uri.host]
  client : ∀ host ∈ dialedHosts snapshot ctx.settings, isLoopback host = false →
    ∀ uri', secureUris rnd ps snapshot doc host = .ok [uri'] →
      ∀ view, probeView rnd ctx snapshot host = .ok view → view = uri'.view

/-! ## the condition -/

/-- A text. -/
def IsText (v : PyVal) : Prop := ∃ s, v = .str s

/-- A server name, if given, is not blank and has no blanks around it. -/
def Unpadded (serverName : PyVal) : Prop :=
  serverName.truthy = true → serverName.toStr ≠ "" ∧ PyStr.strip serverName.toStr = serverName.toStr

/-- The public port of the profile is dialed; if it has none, the port of the
version is that of its document. -/
def PortStored (ps : VpnProfileSettings) (snapshot : ConfigVersionSnapshot) (doc : PyVal) : Prop :=
  match ps.sharePublicPort with
  | some (_ + 1) => True
  | some 0 => listeningPort snapshot.profile doc ps = .ok 0
  | none => listeningPort snapshot.profile doc ps = .ok snapshot.port

/-- The inbound has what the probe reads and the URI does not. -/
def Probeable (profile : ConfigProfile) (inbound : PyVal) : Prop :=
  ∃ stream, inbound.item "streamSettings" = .ok stream ∧
    (∃ network, stream.item "network" = .ok network) ∧
    (profile = .xrayXhttp → ∃ tlsSettings alpn items, stream.get "tlsSettings" = .ok tlsSettings ∧
      (tlsSettings.orElse (.dict [])).get "alpn" = .ok alpn ∧
      (alpn.orElse (.list [.str "h2", .str "http/1.1"])).iter = .ok items)

/-- What only the probe strips is stripped, and what only the URI makes a text
of is one. -/
def TakenAsIs (profile : ConfigProfile) (inbound : PyVal) : Prop :=
  match profile with
  | .xrayReality => ∀ client, firstClient inbound = .ok client →
      ∀ flow, client.get "flow" (.str "") = .ok flow → IsText flow
  | .xrayGrpc => ∀ stream, inbound.item "streamSettings" = .ok stream →
      (∀ tls, stream.item "tlsSettings" = .ok tls →
        ∀ serverName, tls.get "serverName" = .ok serverName → Unpadded serverName) ∧
      ∀ grpc, stream.item "grpcSettings" = .ok grpc →
        ∀ serviceName, grpc.get "serviceName" (.str "") = .ok serviceName → IsText serviceName
  | .xrayXhttp => ∀ stream, inbound.item "streamSettings" = .ok stream →
      (∀ tls, stream.get "tlsSettings" = .ok tls → ∀ serverName,
        (tls.orElse (.dict [])).get "serverName" = .ok serverName → Unpadded serverName) ∧
      ∀ xhttp, stream.item "xhttpSettings" = .ok xhttp → ∀ key ∈ ["host", "path", "mode"],
        ∀ v, xhttp.get key (.str "") = .ok v → IsText v
  | .hysteria2 => True

/-- The document of the snapshot reads the same to both. -/
def ReadsSame (ctx : Ctx) (ps : VpnProfileSettings) (snapshot : ConfigVersionSnapshot)
    (doc : PyVal) : Prop :=
  (∃ host ∈ dialedHosts snapshot ctx.settings, isLoopback host = false) →
    if snapshot.profile = .hysteria2 then PortStored ps snapshot doc
    else ∀ inbound, findInbound doc ps.inboundTag = .ok inbound →
      Probeable snapshot.profile inbound →
        PortStored ps snapshot doc ∧ TakenAsIs snapshot.profile inbound

/-! ## the hosts -/

section Hosts

/-- A host name without blanks around it. -/
def Clean (host : String) : Prop := host ≠ "" ∧ PyStr.strip host = host

theorem clean_strip {s : String} (h : PyStr.strip s ≠ "") : Clean (PyStr.strip s) :=
  ⟨h, PyStr.strip_strip s⟩

theorem clean_of_mem_probeConnectHosts {settings : PanelSettings} {preferHost : Option String}
    {allowLoopback : Bool} {host : String}
    (h : host ∈ probeConnectHosts settings preferHost allowLoopback) : Clean host := by
  have hprefer : ∀ host ∈ (if stripOr preferHost ≠ "" then [stripOr preferHost] else []),
      Clean host := by
    intro host hmem
    split at hmem
    · next hne =>
      rw [List.mem_singleton.mp hmem]
      exact clean_strip hne
    · cases hmem
  unfold probeConnectHosts at h
  cases allowLoopback with
  | false => exact hprefer host h
  | true =>
      simp only [Bool.not_true, Bool.false_eq_true, if_false] at h
      -- every round of the loop adds a stripped name at most
      refine List.foldlRecOn (motive := fun hosts => ∀ host ∈ hosts, Clean host) _ _ hprefer
        (fun hosts hosts_clean candidate _ => ?_) host h
      intro host hmem
      split at hmem
      · next hne =>
        obtain hmem | hmem := List.mem_append.mp hmem
        · exact hosts_clean host hmem
        · rw [List.mem_singleton.mp hmem]
          simp only [Bool.and_eq_true, decide_eq_true_eq] at hne
          exact clean_strip hne.1
      · exact hosts_clean host hmem

theorem clean_of_mem_dialedHosts {snapshot : ConfigVersionSnapshot} {settings : PanelSettings}
    {host : String} (h : host ∈ dialedHosts snapshot settings) : Clean host := by
  unfold dialedHosts at h
  split at h
  · cases h
  · exact clean_of_mem_probeConnectHosts h

@[simp] theorem stripOr_none : stripOr none = "" := by decide

@[simp] theorem stripOr_some_stripOr (host : Option String) :
    stripOr (some (stripOr host)) = stripOr host := PyStr.strip_strip _

/-- Without a fallback to this machine no host is preferred but those the share
URIs prefer. -/
theorem stripOr_probePreferHost {snapshot : ConfigVersionSnapshot} {settings : PanelSettings}
    {ps : VpnProfileSettings} (hps : settings.profiles snapshot.profile = some ps)
    (h : probeAllowLoopback snapshot settings = false) :
    stripOr (probePreferHost snapshot settings) =
      if stripOr snapshot.sharePublicHost ≠ "" then stripOr snapshot.sharePublicHost
      else stripOr ps.sharePublicHost := by
  unfold probePreferHost
  simp only [hps, h, Option.bind_some, Bool.not_false, if_true]
  by_cases hown : stripOr snapshot.sharePublicHost = ""
  · by_cases hprofile : stripOr ps.sharePublicHost = ""
    · simp [hown, hprofile]
    · simp [hown, hprofile]
  · simp [hown]

/-- Without a fallback to this machine the probe dials the host of the share
URIs, or none. -/
theorem dialedHosts_of_not_allowLoopback {snapshot : ConfigVersionSnapshot}
    {settings : PanelSettings} {ps : VpnProfileSettings}
    (hps : settings.profiles snapshot.profile = some ps)
    (h : probeAllowLoopback snapshot settings = false) :
    dialedHosts snapshot settings = [] ∨
      dialedHosts snapshot settings =
        [effectiveShareHost settings ps snapshot.sharePublicHost] := by
  unfold dialedHosts
  split
  · exact Or.inl rfl
  · simp only [probeConnectHosts, h, stripOr_probePreferHost hps h, effectiveShareHost]
    by_cases hown : stripOr snapshot.sharePublicHost = ""
    · by_cases hprofile : stripOr ps.sharePublicHost = ""
      · simp [hown, hprofile]
      · simp [hown, hprofile]
    · simp [hown]

end Hosts

/-! ## the fields -/

section Fields

/-- Both sides name the same server exactly when stripping changes nothing. -/
theorem probeSni_eq_iff {serverName : PyVal} {host : String} (hhost : Clean host) :
    probeSni serverName host = (serverName.orElse (.str host)).toStr ↔ Unpadded serverName := by
  unfold probeSni Unpadded PyVal.orElse
  cases htruthy : serverName.truthy with
  | false =>
      have hempty : PyStr.strip "" = "" := by decide
      simp [hempty, PyVal.toStr]
  | true =>
      simp only [if_true, forall_const]
      by_cases hblank : PyStr.strip serverName.toStr = ""
      · -- a blank name is not the host
        constructor
        · intro h
          rw [if_neg (by simpa using hblank)] at h
          rw [← h, hhost.2] at hblank
          exact absurd hblank hhost.1
        · rintro ⟨hne, hstrip⟩
          exact absurd (hstrip.symm.trans hblank) hne
      · rw [if_pos hblank]
        constructor
        · intro h
          exact ⟨fun hempty => hblank (h.trans hempty), h⟩
        · exact fun h => h.2

/-- A value and its text are the same value exactly when it is a text. -/
theorem eq_str_toStr_iff {v : PyVal} : v = .str v.toStr ↔ IsText v := by
  constructor
  · intro h
    exact ⟨_, h⟩
  · rintro ⟨s, rfl⟩
    rfl

/-- A default that is a text does not matter to whether a value is one. -/
theorem isText_get {v : PyVal} {k s s' : String} {w w' : PyVal} (h : v.get k (.str s) = .ok w)
    (h' : v.get k (.str s') = .ok w') : IsText w ↔ IsText w' := by
  cases v with
  | dict kvs =>
      simp only [PyVal.get_dict, Except.ok.injEq] at h h'
      cases hk : PyVal.lookupKey k kvs with
      | none =>
          simp only [hk, Option.getD_none] at h h'
          exact ⟨fun _ => ⟨_, h'.symm⟩, fun _ => ⟨_, h.symm⟩⟩
      | some u =>
          simp only [hk, Option.getD_some] at h h'
          rw [← h, ← h']
  | none | bool _ | int _ | float _ | str _ | list _ => cases h

/-- What has one key has a `get`. -/
theorem get_of_get {v w d : PyVal} {k : String} (h : v.get k d = .ok w) (k' : String) (d' : PyVal) :
    ∃ w', v.get k' d' = .ok w' := by
  cases v with
  | dict kvs => exact ⟨_, rfl⟩
  | none | bool _ | int _ | float _ | str _ | list _ => cases h

end Fields

/-! ## the xray clients -/

section Xray

variable {rnd : Nat} {settings : PanelSettings} {snapshot : ConfigVersionSnapshot}
  {host label : String} {inbound client clientId stream network : PyVal} {port : Int}
  {uri : ShareUri}

/-- The client of an inbound whose fields can be read. -/
theorem xrayClientOf_eq {transport : XrayTransport} (hclient : firstClient inbound = .ok client)
    (hid : client.item "id" = .ok clientId) (hstream : inbound.item "streamSettings" = .ok stream)
    (hnetwork : stream.item "network" = .ok network)
    (htransport : buildXrayTransport rnd snapshot host client stream = .ok transport) :
    ∃ security, xrayClientOf rnd settings snapshot host inbound =
      .ok ⟨host, probeDialPort snapshot host settings, clientId.toStr, network, security,
        transport⟩ := by
  obtain ⟨security, hsecurity⟩ :=
    get_of_get (PyVal.get_of_item hnetwork .none) "security" (.str "none")
  refine ⟨security, ?_⟩
  simp [xrayClientOf, hclient, hid, hstream, hnetwork, hsecurity, htransport]

/-- Where the fields of an inbound can be read, all clients have the view of a
URI exactly when the one of these fields has. -/
theorem forall_view_iff {transport : XrayTransport} (hclient : firstClient inbound = .ok client)
    (hid : client.item "id" = .ok clientId) (hstream : inbound.item "streamSettings" = .ok stream)
    (hnetwork : stream.item "network" = .ok network)
    (htransport : buildXrayTransport rnd snapshot host client stream = .ok transport) :
    (∀ c, xrayClientOf rnd settings snapshot host inbound = .ok c → c.view = uri.view) ↔
      XrayClient.view ⟨host, probeDialPort snapshot host settings, clientId.toStr, .none, .none,
        transport⟩ = uri.view := by
  obtain ⟨security, hok⟩ : ∃ security, xrayClientOf rnd settings snapshot host inbound =
      .ok ⟨host, _, clientId.toStr, network, security, transport⟩ :=
    xrayClientOf_eq hclient hid hstream hnetwork htransport
  constructor
  · intro h
    have hview := h _ hok
    exact hview
  · intro h c hc
    rw [hok] at hc
    rw [← Except.ok.inj hc]
    exact h

/-- An inbound without a network has no client. -/
theorem not_client_of_network (hstream : inbound.item "streamSettings" = .ok stream)
    (hnetwork : ∀ network, stream.item "network" ≠ .ok network) :
    (∀ c, xrayClientOf rnd settings snapshot host inbound = .ok c → c.view = uri.view) ∧
      ¬ Probeable snapshot.profile inbound := by
  constructor
  · intro c hc
    obtain ⟨_, -, hc⟩ := Except.bind_eq_ok_iff.mp hc
    obtain ⟨_, -, hc⟩ := Except.bind_eq_ok_iff.mp hc
    obtain ⟨stream', hstream', hc⟩ := Except.bind_eq_ok_iff.mp hc
    obtain ⟨network, hok, -⟩ := Except.bind_eq_ok_iff.mp hc
    rw [hstream] at hstream'
    cases hstream'
    exact absurd hok (hnetwork network)
  · rintro ⟨stream', hstream', ⟨network, hok⟩, -⟩
    rw [hstream] at hstream'
    cases hstream'
    exact hnetwork network hok

/-- The client of a Reality inbound. -/
theorem reality_view_iff (hprofile : snapshot.profile = .xrayReality)
    (hclient : firstClient inbound = .ok client) (hid : client.item "id" = .ok clientId)
    (huri : buildRealityUri rnd inbound clientId host port snapshot.publicKey label = .ok uri) :
    (∀ c, xrayClientOf rnd settings snapshot host inbound = .ok c → c.view = uri.view) ↔
      (Probeable snapshot.profile inbound → probeDialPort snapshot host settings = port ∧
        TakenAsIs snapshot.profile inbound) := by
  obtain ⟨stream, hstream, huri⟩ := Except.bind_eq_ok_iff.mp huri
  obtain ⟨reality, hreality, huri⟩ := Except.bind_eq_ok_iff.mp huri
  obtain ⟨shortIds, hshortIds, huri⟩ := Except.bind_eq_ok_iff.mp huri
  obtain ⟨shortId, hshortId, huri⟩ := Except.bind_eq_ok_iff.mp huri
  obtain ⟨client', hclient', huri⟩ := Except.bind_eq_ok_iff.mp huri
  obtain rfl : client = client' := Except.ok.inj (hclient.symm.trans hclient')
  obtain ⟨flow, hflow, huri⟩ := Except.bind_eq_ok_iff.mp huri
  obtain ⟨sni, hsni, huri⟩ := Except.bind_eq_ok_iff.mp huri
  obtain rfl := Except.ok.inj huri
  by_cases hnetwork : ∃ network, stream.item "network" = .ok network
  · obtain ⟨network, hnetwork⟩ := hnetwork
    have htransport : buildXrayTransport rnd snapshot host client stream =
        .ok (.reality flow sni snapshot.publicKey shortId.toStr) := by
      simp [buildXrayTransport, hprofile, hreality, hflow, hsni, hshortIds, hshortId]
    have hprobeable : Probeable snapshot.profile inbound :=
      ⟨stream, hstream, ⟨network, hnetwork⟩, by simp [hprofile]⟩
    have htaken : TakenAsIs snapshot.profile inbound ↔ IsText flow := by
      rw [hprofile]
      obtain ⟨flow', hflow'⟩ := get_of_get hflow "flow" (.str "")
      simp [TakenAsIs, hclient, hflow', isText_get hflow hflow']
    rw [forall_view_iff hclient hid hstream hnetwork htransport, htaken, ← eq_str_toStr_iff]
    by_cases hs : sni = "" <;>
      simp [hprobeable, XrayClient.view, ShareUri.view, ShareUri.param?, ShareUri.sni?, plain,
        escaped, hs]
  · push Not at hnetwork
    obtain ⟨hall, hno⟩ := not_client_of_network hstream hnetwork
    exact iff_of_true hall fun h => absurd h hno

/-- The client of a gRPC inbound. -/
theorem grpc_view_iff (hprofile : snapshot.profile = .xrayGrpc) (hhost : Clean host)
    (hclient : firstClient inbound = .ok client) (hid : client.item "id" = .ok clientId)
    (huri : buildGrpcUri inbound clientId host port snapshot.certFingerprint label true =
      .ok uri) :
    (∀ c, xrayClientOf rnd settings snapshot host inbound = .ok c → c.view = uri.view) ↔
      (Probeable snapshot.profile inbound → probeDialPort snapshot host settings = port ∧
        TakenAsIs snapshot.profile inbound) := by
  obtain ⟨stream, hstream, huri⟩ := Except.bind_eq_ok_iff.mp huri
  obtain ⟨tls, htls, huri⟩ := Except.bind_eq_ok_iff.mp huri
  obtain ⟨grpc, hgrpc, huri⟩ := Except.bind_eq_ok_iff.mp huri
  obtain ⟨serverName, hserverName, huri⟩ := Except.bind_eq_ok_iff.mp huri
  obtain ⟨serviceName, hserviceName, huri⟩ := Except.bind_eq_ok_iff.mp huri
  obtain rfl := Except.ok.inj huri
  by_cases hnetwork : ∃ network, stream.item "network" = .ok network
  · obtain ⟨network, hnetwork⟩ := hnetwork
    have htransport : buildXrayTransport rnd snapshot host client stream =
        .ok (.grpc (probeSni serverName host) (pinHex snapshot.certFingerprint) serviceName) := by
      simp [buildXrayTransport, hprofile, htls, hgrpc, hserverName, hserviceName]
    have hprobeable : Probeable snapshot.profile inbound :=
      ⟨stream, hstream, ⟨network, hnetwork⟩, by simp [hprofile]⟩
    have htaken : TakenAsIs snapshot.profile inbound ↔
        Unpadded serverName ∧ IsText serviceName := by
      rw [hprofile]
      simp [TakenAsIs, hstream, htls, hgrpc, hserverName, hserviceName]
    rw [forall_view_iff hclient hid hstream hnetwork htransport, htaken,
      ← probeSni_eq_iff hhost, ← eq_str_toStr_iff]
    by_cases hpin : pinHex snapshot.certFingerprint = "" <;>
      simp [hprobeable, XrayClient.view, ShareUri.view, ShareUri.param?, ShareUri.sni?, plain,
        escaped, pinParams, pin?, hpin]
  · push Not at hnetwork
    obtain ⟨hall, hno⟩ := not_client_of_network hstream hnetwork
    exact iff_of_true hall fun h => absurd h hno

/-- The client of an xHTTP inbound. -/
theorem xhttp_view_iff (hprofile : snapshot.profile = .xrayXhttp) (hhost : Clean host)
    (hclient : firstClient inbound = .ok client) (hid : client.item "id" = .ok clientId)
    (huri : buildXhttpUri inbound clientId host port snapshot.certFingerprint label true =
      .ok uri) :
    (∀ c, xrayClientOf rnd settings snapshot host inbound = .ok c → c.view = uri.view) ↔
      (Probeable snapshot.profile inbound → probeDialPort snapshot host settings = port ∧
        TakenAsIs snapshot.profile inbound) := by
  obtain ⟨stream, hstream, huri⟩ := Except.bind_eq_ok_iff.mp huri
  obtain ⟨xhttp, hxhttp, huri⟩ := Except.bind_eq_ok_iff.mp huri
  obtain ⟨tls, htls, huri⟩ := Except.bind_eq_ok_iff.mp huri
  obtain ⟨xhost, hxhost, huri⟩ := Except.bind_eq_ok_iff.mp huri
  obtain ⟨path, hpath, huri⟩ := Except.bind_eq_ok_iff.mp huri
  obtain ⟨mode, hmode, huri⟩ := Except.bind_eq_ok_iff.mp huri
  obtain ⟨serverName, hserverName, huri⟩ := Except.bind_eq_ok_iff.mp huri
  obtain rfl := Except.ok.inj huri
  obtain ⟨alpn, halpn⟩ := get_of_get hserverName "alpn" .none
  by_cases hnetwork : ∃ network, stream.item "network" = .ok network
  · obtain ⟨network, hnetwork⟩ := hnetwork
    cases hitems : (alpn.orElse (.list [.str "h2", .str "http/1.1"])).iter with
    | error e =>
        have hfails : ∀ c, xrayClientOf rnd settings snapshot host inbound ≠ .ok c := by
          obtain ⟨security, hsecurity⟩ :=
            get_of_get (PyVal.get_of_item hnetwork .none) "security" (.str "none")
          simp [xrayClientOf, buildXrayTransport, hprofile, hclient, hid, hstream, hnetwork,
            hsecurity, hxhttp, htls, hserverName, halpn, hitems]
        refine iff_of_true (fun c hc => absurd hc (hfails c)) fun h => ?_
        obtain ⟨stream', hstream', -, hiter⟩ := h
        obtain rfl : stream = stream' := Except.ok.inj (hstream.symm.trans hstream')
        simp [htls, halpn, hitems, hprofile] at hiter
    | ok items =>
        have htransport : buildXrayTransport rnd snapshot host client stream =
            .ok (.xhttp (probeSni serverName host) items (pinHex snapshot.certFingerprint) xhost
              path mode) := by
          simp [buildXrayTransport, hprofile, hxhttp, htls, hserverName, halpn, hitems, hxhost,
            hpath, hmode]
        have hprobeable : Probeable snapshot.profile inbound :=
          ⟨stream, hstream, ⟨network, hnetwork⟩, fun _ => ⟨tls, alpn, items, htls, halpn, hitems⟩⟩
        have htaken : TakenAsIs snapshot.profile inbound ↔
            Unpadded serverName ∧ IsText xhost ∧ IsText path ∧ IsText mode := by
          rw [hprofile]
          obtain ⟨xhost', hxhost'⟩ := get_of_get hxhost "host" (.str "")
          obtain ⟨path', hpath'⟩ := get_of_get hpath "path" (.str "")
          obtain ⟨mode', hmode'⟩ := get_of_get hmode "mode" (.str "")
          simp [TakenAsIs, hstream, htls, hxhttp, hserverName, hxhost', hpath', hmode',
            isText_get hxhost hxhost', isText_get hpath hpath', isText_get hmode hmode']
        rw [forall_view_iff hclient hid hstream hnetwork htransport, htaken,
          ← probeSni_eq_iff hhost, ← eq_str_toStr_iff, ← eq_str_toStr_iff, ← eq_str_toStr_iff]
        by_cases hpin : pinHex snapshot.certFingerprint = "" <;>
          simp [hprobeable, XrayClient.view, ShareUri.view, ShareUri.param?, ShareUri.sni?, plain,
            escaped, pinParams, pin?, hpin]
  · push Not at hnetwork
    obtain ⟨hall, hno⟩ := not_client_of_network hstream hnetwork
    exact iff_of_true hall fun h => absurd h hno

/-- A private key is read by neither side. -/
theorem xrayClientOf_of_sameBut {inbound₀ reality : PyVal}
    (hprofile : snapshot.profile = .xrayReality)
    (h : inbound₀.SameBut ["streamSettings", "realitySettings", "privateKey"] inbound)
    (hstream : inbound.item "streamSettings" = .ok stream)
    (hreality : stream.item "realitySettings" = .ok reality) :
    xrayClientOf rnd settings snapshot host inbound₀ =
      xrayClientOf rnd settings snapshot host inbound := by
  obtain ⟨hinboundSame, hstreams⟩ := h
  obtain ⟨stream₀, hstream₀, hstreamSame, hrealities⟩ := hstreams stream hstream
  obtain ⟨reality₀, hreality₀, hrealitySame, -⟩ := hrealities reality hreality
  have hclient : firstClient inbound₀ = firstClient inbound := by
    unfold firstClient
    rw [(hinboundSame "settings" (by decide)).item]
  have hsni : realityShareSni rnd reality₀ = realityShareSni rnd reality := by
    unfold realityShareSni
    rw [(hrealitySame "dest" (by decide)).get, (hrealitySame "serverNames" (by decide)).get]
  have htransport (client : PyVal) : buildXrayTransport rnd snapshot host client stream₀ =
      buildXrayTransport rnd snapshot host client stream := by
    simp only [buildXrayTransport, hprofile, hreality₀, hreality, Except.ok_bind_eq, hsni,
      (hrealitySame "shortIds" (by decide)).item]
  simp only [xrayClientOf, hclient, hstream₀, hstream, Except.ok_bind_eq, htransport,
    (hstreamSame "network" (by decide)).item, (hstreamSame "security" (by decide)).get]

/-- The probe reads the stored document, in which the private key is encrypted;
its client is that of the decrypted one. -/
theorem buildXrayClient_eq {ctx : Ctx} {ps : VpnProfileSettings} {doc : PyVal}
    (hxray : snapshot.profile ≠ .hysteria2) (hps : ctx.settings.profiles snapshot.profile = some ps)
    (hdoc : snapshot.configPlain ctx = .ok doc)
    (hinbound : findInbound doc ps.inboundTag = .ok inbound)
    (hreality : snapshot.profile = .xrayReality → ∃ stream reality,
      inbound.item "streamSettings" = .ok stream ∧ stream.item "realitySettings" = .ok reality) :
    buildXrayClient rnd ctx snapshot host =
      xrayClientOf rnd ctx.settings snapshot host inbound := by
  have hbuild : buildXrayClient rnd ctx snapshot host = (do
      let inbound ← findInbound snapshot.configData ps.inboundTag
      xrayClientOf rnd ctx.settings snapshot host inbound) := by
    simp [buildXrayClient, PanelSettings.profileSettings, hps, plaintextConfigData, hxray]
  rw [hbuild]
  unfold ConfigVersionSnapshot.configPlain at hdoc
  cases hprofile : snapshot.profile with
  | hysteria2 => exact absurd hprofile hxray
  | xrayGrpc | xrayXhttp =>
      rw [hprofile] at hdoc
      obtain rfl : snapshot.configData = doc := Except.ok.inj hdoc
      rw [hinbound, Except.ok_bind_eq]
  | xrayReality =>
      rw [hprofile] at hdoc
      obtain ⟨doc', hreplace, hdoc⟩ := Except.bind_eq_ok_iff.mp hdoc
      obtain rfl : doc' = doc := Except.ok.inj hdoc
      obtain ⟨inbound₀, hinbound₀, hsame⟩ :=
        findInbound_of_replaceAt (by decide) (by decide) hreplace hinbound
      obtain ⟨stream, reality, hstream, hreality⟩ := hreality hprofile
      rw [hinbound₀, Except.ok_bind_eq]
      exact xrayClientOf_of_sameBut hprofile hsame hstream hreality

end Xray

/-! ## the port -/

/-- The port the probe dials is that of the URI exactly when the port of the
version is stored. -/
theorem probeDialPort_eq_iff {settings : PanelSettings} {ps : VpnProfileSettings}
    {snapshot : ConfigVersionSnapshot} {doc : PyVal} {host : String} {port : Int}
    (hps : settings.profiles snapshot.profile = some ps) (hhost : Clean host)
    (hother : isLoopback host = false)
    (hpublic : ∀ p : Nat, ps.sharePublicPort = some (p + 1) → port = (p + 1 : Nat))
    (hlistening : (∀ p, ps.sharePublicPort ≠ some (p + 1)) →
      listeningPort snapshot.profile doc ps = .ok port) :
    probeDialPort snapshot host settings = port ↔ PortStored ps snapshot doc := by
  simp only [probeDialPort, hhost.2, hother, hps, Option.bind_some, Bool.false_eq_true, if_false]
  unfold PortStored
  rcases hport : ps.sharePublicPort with _ | _ | p
  · simp only [hlistening (by simp [hport]), Except.ok.injEq]
    exact eq_comm
  · simp only [hlistening (by simp [hport]), Except.ok.injEq]
    exact eq_comm
  · simp [hpublic p hport]

/-! ## the two profiles' probes -/

section Probes

variable {rnd : Nat} {ctx : Ctx} {ps : VpnProfileSettings} {snapshot : ConfigVersionSnapshot}
  {doc : PyVal} {host : String} {uri : ShareUri}

/-- The client of an xray snapshot has the view of the URI for its host exactly
when the document is taken as it is. -/
theorem xray_probeView_iff (hxray : snapshot.profile ≠ .hysteria2)
    (hps : ctx.settings.profiles snapshot.profile = some ps)
    (hdoc : snapshot.configPlain ctx = .ok doc) (hhost : Clean host)
    (hother : isLoopback host = false) (huri : secureUris rnd ps snapshot doc host = .ok [uri]) :
    (∀ view, probeView rnd ctx snapshot host = .ok view → view = uri.view) ↔
      ∀ inbound, findInbound doc ps.inboundTag = .ok inbound →
        Probeable snapshot.profile inbound →
          PortStored ps snapshot doc ∧ TakenAsIs snapshot.profile inbound := by
  rw [secureUris, buildShareUris_xray hxray] at huri
  obtain ⟨inbound, hinbound, huri⟩ := Except.bind_eq_ok_iff.mp huri
  obtain ⟨port, hport, huri⟩ := Except.bind_eq_ok_iff.mp huri
  obtain ⟨client, hclient, huri⟩ := Except.bind_eq_ok_iff.mp huri
  obtain ⟨clientId, hid, huri⟩ := Except.bind_eq_ok_iff.mp huri
  obtain ⟨uri', hbuilt, huris⟩ := Except.bind_eq_ok_iff.mp huri
  obtain rfl : uri' = uri := by simpa using huris
  have hreality : snapshot.profile = .xrayReality → ∃ stream reality,
      inbound.item "streamSettings" = .ok stream ∧ stream.item "realitySettings" = .ok reality := by
    intro hprofile
    rw [hprofile] at hbuilt
    obtain ⟨stream, hstream, hbuilt⟩ := Except.bind_eq_ok_iff.mp hbuilt
    obtain ⟨reality, hreality, -⟩ := Except.bind_eq_ok_iff.mp hbuilt
    exact ⟨stream, reality, hstream, hreality⟩
  have hdial : probeDialPort snapshot host ctx.settings = port ↔ PortStored ps snapshot doc := by
    refine probeDialPort_eq_iff hps hhost hother (fun p hp => ?_) fun hno => ?_
    · rw [hp] at hport
      exact (Except.ok.inj hport).symm
    · have hlistening : listeningPort snapshot.profile doc ps =
          (do let p ← inbound.item "port"; p.toInt) := by
        cases hprofile : snapshot.profile with
        | hysteria2 => exact absurd hprofile hxray
        | xrayReality | xrayGrpc | xrayXhttp => simp [listeningPort, hinbound]
      rw [hlistening, ← hport]
      rcases hpublic : ps.sharePublicPort with _ | _ | p
      · rfl
      · rfl
      · exact absurd hpublic (hno p)
  have hview : (∀ view, probeView rnd ctx snapshot host = .ok view → view = uri'.view) ↔
      ∀ c, xrayClientOf rnd ctx.settings snapshot host inbound = .ok c → c.view = uri'.view := by
    rw [probeView, if_neg hxray, buildXrayClient_eq hxray hps hdoc hinbound hreality]
    cases xrayClientOf rnd ctx.settings snapshot host inbound with
    | error e => simp
    | ok c => simp
  have hfound : (∀ inbound', findInbound doc ps.inboundTag = .ok inbound' →
      Probeable snapshot.profile inbound' →
        PortStored ps snapshot doc ∧ TakenAsIs snapshot.profile inbound') ↔
      (Probeable snapshot.profile inbound →
        PortStored ps snapshot doc ∧ TakenAsIs snapshot.profile inbound) := by
    simp [hinbound]
  rw [hview, hfound, ← hdial]
  cases hprofile : snapshot.profile with
  | hysteria2 => exact absurd hprofile hxray
  | xrayReality =>
      rw [← hprofile]
      rw [hprofile] at hbuilt
      exact reality_view_iff hprofile hclient hid hbuilt
  | xrayGrpc =>
      rw [← hprofile]
      rw [hprofile] at hbuilt
      exact grpc_view_iff hprofile hhost hclient hid hbuilt
  | xrayXhttp =>
      rw [← hprofile]
      rw [hprofile] at hbuilt
      exact xhttp_view_iff hprofile hhost hclient hid hbuilt

/-- Both sides read the same obfuscation password. -/
theorem obfsParams_eq (configData : PyVal) :
    obfsParams configData = (do
      let obfsPassword ← probeObfs configData
      .ok (match obfsPassword with
        | some password => [plain "obfs" "salamander", escaped "obfs-password" password]
        | none => [])) := by
  unfold obfsParams probeObfs
  cases configData.get "obfs" with
  | error e => rfl
  | ok obfsSection =>
      simp only [Except.ok_bind_eq]
      cases (obfsSection.orElse (.dict [])).get "type" (.str "") with
      | error e => rfl
      | ok kind =>
          simp only [Except.ok_bind_eq]
          split
          · cases (obfsSection.orElse (.dict [])).get "salamander" with
            | error e => rfl
            | ok salamander =>
                simp only [Except.ok_bind_eq]
                cases (salamander.orElse (.dict [])).get "password" with
                | error e => rfl
                | ok password =>
                    cases htruthy : password.truthy <;> simp [htruthy]
          · rfl

/-- The parameters of a secure Hysteria2 URI. -/
def hysteriaParams (sni : PyVal) (obfs : List UriParam) (pin : String) : List UriParam :=
  [escaped "sni" sni.toStr] ++ obfs ++
    ((if pin ≠ "" then [plain "pinSHA256" pin] else []) ++ [plain "insecure" "0"])

/-- A secure Hysteria2 URI in one chain. -/
theorem buildHysteria2Uri_eq (configData : PyVal) (host certFingerprint label : String)
    (publicPort : Option Nat) :
    buildHysteria2Uri configData host certFingerprint label true publicPort = (do
      let port ← hysteriaSharePort publicPort configData
      let auth ← configData.item "auth"
      let password ← auth.item "password"
      let sni ← hysteriaSni configData host
      let obfs ← obfsParams configData
      match password with
      | .str pass => .ok ⟨"hysteria2", pass, true, host, port,
          hysteriaParams sni obfs (pinHex certFingerprint), label⟩
      | _ => .error ⟨.typeError, "quote_from_bytes() expected bytes"⟩) := by
  rw [buildHysteria2Uri_chain]
  rfl

/-- A Hysteria2 client in one chain. -/
theorem buildHysteriaClient_eq (ctx : Ctx) (snapshot : ConfigVersionSnapshot) (host : String) :
    buildHysteriaClient ctx snapshot host = (do
      let configData ← plaintextConfigData ctx snapshot
      let auth ← configData.item "auth"
      let password ← auth.item "password"
      let sni ← hysteriaSni configData host
      let obfsPassword ← probeObfs configData
      .ok ⟨host, probeDialPort snapshot host ctx.settings, password.toStr, sni.toStr,
        pinHex snapshot.certFingerprint, obfsPassword⟩) := by
  unfold buildHysteriaClient
  refine bind_congr fun configData => bind_congr fun auth => bind_congr fun password => ?_
  exact hysteriaSni_bind configData host _

/-- The client of a Hysteria2 snapshot has the view of the URI for its host
exactly when the port of the version is stored. -/
theorem hysteria_probeView_iff (hprofile : snapshot.profile = .hysteria2)
    (hps : ctx.settings.profiles snapshot.profile = some ps)
    (hdoc : snapshot.configPlain ctx = .ok doc) (hhost : Clean host)
    (hother : isLoopback host = false) (huri : secureUris rnd ps snapshot doc host = .ok [uri]) :
    (∀ view, probeView rnd ctx snapshot host = .ok view → view = uri.view) ↔
      PortStored ps snapshot doc := by
  have hbuild : buildHysteria2Uri doc host snapshot.certFingerprint (shareLabel .hysteria2) true
      ps.sharePublicPort = .ok uri := by
    rw [secureUris, hprofile] at huri
    obtain ⟨uri', hbuilt, huris⟩ := Except.bind_eq_ok_iff.mp huri
    obtain rfl : uri' = uri := by simpa using huris
    exact hbuilt
  rw [buildHysteria2Uri_eq] at hbuild
  obtain ⟨port, hport, hbuild⟩ := Except.bind_eq_ok_iff.mp hbuild
  obtain ⟨auth, hauth, hbuild⟩ := Except.bind_eq_ok_iff.mp hbuild
  obtain ⟨password, hpassword, hbuild⟩ := Except.bind_eq_ok_iff.mp hbuild
  obtain ⟨sni, hsni, hbuild⟩ := Except.bind_eq_ok_iff.mp hbuild
  obtain ⟨obfs, hobfs, hbuild⟩ := Except.bind_eq_ok_iff.mp hbuild
  obtain ⟨pass, rfl⟩ : ∃ pass, password = .str pass := by
    cases password with
    | str pass => exact ⟨pass, rfl⟩
    | none | bool _ | int _ | float _ | list _ | dict _ => cases hbuild
  obtain rfl := Except.ok.inj hbuild
  rw [obfsParams_eq] at hobfs
  obtain ⟨obfsPassword, hobfsPassword, hobfs⟩ := Except.bind_eq_ok_iff.mp hobfs
  have hdial : probeDialPort snapshot host ctx.settings = port ↔ PortStored ps snapshot doc := by
    refine probeDialPort_eq_iff hps hhost hother (fun p hp => ?_) fun hno => ?_
    · rw [hp] at hport
      exact (Except.ok.inj hport).symm
    · rw [hprofile, ← hport]
      rcases hpublic : ps.sharePublicPort with _ | _ | p
      · rfl
      · rfl
      · exact absurd hpublic (hno p)
  have hclient : buildHysteriaClient ctx snapshot host = .ok ⟨host,
      probeDialPort snapshot host ctx.settings, pass, sni.toStr, pinHex snapshot.certFingerprint,
      obfsPassword⟩ := by
    have hplain : plaintextConfigData ctx snapshot = .ok doc := by
      rw [plaintextConfigData, if_neg (by simp [hprofile])]
      exact hdoc
    simp [buildHysteriaClient_eq, hplain, hauth, hpassword, hsni, hobfsPassword, PyVal.toStr]
  have hview : (∀ view, probeView rnd ctx snapshot host = .ok view → view =
      ShareUri.view ⟨"hysteria2", pass, true, host, port,
        hysteriaParams sni obfs (pinHex snapshot.certFingerprint), shareLabel .hysteria2⟩) ↔
      probeDialPort snapshot host ctx.settings = port := by
    rw [probeView, if_pos hprofile, hclient, ← Except.ok.inj hobfs]
    by_cases hpin : pinHex snapshot.certFingerprint = "" <;> cases obfsPassword <;>
      simp [HysteriaClient.view, ShareUri.view, ShareUri.param?, ShareUri.sni?, hysteriaParams,
        plain, escaped, pin?, hpin]
  rw [hview, hdial]

/-- Every URI a builder of a profile returns names the host. -/
theorem host_of_builders (rnd : Nat) (profile : ConfigProfile) (inbound clientId : PyVal)
    (host : String) (port : Int) (publicKey certFingerprint : String) :
    ∀ uri, buildXrayUri rnd profile inbound clientId host port publicKey certFingerprint true =
      .ok uri → uri.host = host := by
  intro uri h
  cases profile with
  | xrayReality =>
      simp only [buildXrayUri, buildRealityUri, Except.bind_eq_ok_iff] at h
      grind
  | xrayXhttp =>
      simp only [buildXrayUri, buildXhttpUri, Except.bind_eq_ok_iff] at h
      grind
  | xrayGrpc | hysteria2 =>
      simp only [buildXrayUri, buildGrpcUri, Except.bind_eq_ok_iff] at h
      grind

/-- A URI names the host it was built for. -/
theorem host_of_secureUris (h : secureUris rnd ps snapshot doc host = .ok [uri]) :
    uri.host = host := by
  by_cases hprofile : snapshot.profile = .hysteria2
  · rw [secureUris, hprofile] at h
    obtain ⟨uri', hbuilt, huris⟩ := Except.bind_eq_ok_iff.mp h
    obtain rfl : uri' = uri := by simpa using huris
    simp only [buildHysteria2Uri_eq, Except.bind_eq_ok_iff] at hbuilt
    obtain ⟨port, -, auth, -, password, -, sni, -, obfs, -, hbuilt⟩ := hbuilt
    cases password with
    | str pass => rw [← Except.ok.inj hbuilt]
    | none | bool _ | int _ | float _ | list _ | dict _ => cases hbuilt
  · simp only [secureUris, buildShareUris_xray hprofile, Except.bind_eq_ok_iff] at h
    obtain ⟨inbound, -, port, -, client, -, clientId, -, uri', hbuilt, huris⟩ := h
    obtain rfl : uri' = uri := by simpa using huris
    exact host_of_builders _ _ _ _ _ _ _ _ _ hbuilt

/-- A document with a URI for one host has one for each. -/
theorem exists_secureUris (h : secureUris rnd ps snapshot doc host = .ok [uri]) (host' : String) :
    ∃ uri', secureUris rnd ps snapshot doc host' = .ok [uri'] := by
  have hok : (secureUris rnd ps snapshot doc host').isOk = true := by
    have hsame : (secureUris rnd ps snapshot doc host').isOk =
        (secureUris rnd ps snapshot doc host).isOk := isOk_buildShareUris ..
    rw [hsame, h]
    rfl
  obtain ⟨uris, huris⟩ := Except.isOk_iff.mp hok
  obtain ⟨uri', rfl⟩ := buildShareUris_singleton huris
  exact ⟨uri', huris⟩

/-- **Probe and share link.**  For a snapshot with a share URI, the probe
describes the client of the URI exactly when the document reads the same to
both. -/
theorem probesShared_iff (rnd : Nat) (ctx : Ctx) (ps : VpnProfileSettings)
    (snapshot : ConfigVersionSnapshot) (doc : PyVal) (uri : ShareUri)
    (hps : ctx.settings.profiles snapshot.profile = some ps)
    (hdoc : snapshot.configPlain ctx = .ok doc)
    (huri : buildClientUris rnd ctx.settings snapshot.profile doc snapshot.publicKey
      snapshot.certFingerprint true snapshot.sharePublicHost = .ok [uri]) :
    ProbesShared rnd ctx ps snapshot doc uri ↔ ReadsSame ctx ps snapshot doc := by
  have hshared : secureUris rnd ps snapshot doc
      (effectiveShareHost ctx.settings ps snapshot.sharePublicHost) = .ok [uri] := by
    rw [secureUris]
    simpa [buildClientUris, PanelSettings.profileSettings, hps] using huri
  have hview : ∀ host ∈ dialedHosts snapshot ctx.settings, isLoopback host = false →
      ∀ uri', secureUris rnd ps snapshot doc host = .ok [uri'] →
        ((∀ view, probeView rnd ctx snapshot host = .ok view → view = uri'.view) ↔
          if snapshot.profile = .hysteria2 then PortStored ps snapshot doc
          else ∀ inbound, findInbound doc ps.inboundTag = .ok inbound →
            Probeable snapshot.profile inbound →
              PortStored ps snapshot doc ∧ TakenAsIs snapshot.profile inbound) := by
    intro host hmem hother uri' huri'
    have hclean := clean_of_mem_dialedHosts hmem
    split
    · next hprofile => exact hysteria_probeView_iff hprofile hps hdoc hclean hother huri'
    · next hxray => exact xray_probeView_iff hxray hps hdoc hclean hother huri'
  constructor
  · rintro h ⟨host, hmem, hother⟩
    obtain ⟨uri', huri'⟩ := exists_secureUris hshared host
    exact (hview host hmem hother uri' huri').mp (h.client host hmem hother uri' huri')
  · intro h
    refine ⟨fun hno => ?_, fun host hmem hother uri' huri' => ?_⟩
    · rw [host_of_secureUris hshared]
      exact dialedHosts_of_not_allowLoopback hps hno
    · exact (hview host hmem hother uri' huri').mpr (h ⟨host, hmem, hother⟩)

end Probes

/-- The settings of a gRPC profile behind the mux. -/
def grpcBehindMux : VpnProfileSettings :=
  { serviceName := "xray", configFilename := "config.json", inboundTag := "vless",
    sharePublicPort := some 443, sharePublicHost := some "vpn.example" }

/-- An installation with that profile. -/
def Ctx.grpc : Ctx :=
  { Ctx.sample with
    settings := { Ctx.sample.settings with
      profiles := fun
        | .xrayGrpc => some grpcBehindMux
        | _ => none } }

/-- A gRPC document with the server name. -/
def grpcDocument (serverName : String) : PyVal :=
  .dict [("inbounds", .list [.dict [("tag", .str "vless"), ("port", .int 50051),
    ("settings", .dict [("clients", .list [.dict [("id", .str "client")]])]),
    ("streamSettings", .dict [("network", .str "grpc"), ("security", .str "tls"),
      ("tlsSettings", .dict [("serverName", .str serverName)]),
      ("grpcSettings", .dict [("serviceName", .str "service")])])]])]

/-- A snapshot of such a document. -/
def grpcSnapshot (serverName : String) : ConfigVersionSnapshot :=
  { configId := 0, profile := .xrayGrpc, name := "c", version := 1, port := 50051,
    publicKey := "", certFingerprint := "AB:CD", configData := grpcDocument serverName,
    sharePublicHost := none }

/-- The share URI of such a snapshot. -/
def grpcUri (serverName : String) : ShareUri :=
  ⟨"vless", "client", false, "vpn.example", 443,
    [plain "type" "grpc", plain "security" "tls", escaped "serviceName" "service",
      plain "fp" "chrome", escaped "sni" serverName, plain "pcs" "ABCD"], "gRPC-Dynamic"⟩

/-- A server name without blanks around it. -/
theorem probesShared_of_unpadded :
    ProbesShared 0 Ctx.grpc grpcBehindMux (grpcSnapshot "sni.example")
      (grpcDocument "sni.example") (grpcUri "sni.example") := by
  refine (probesShared_iff 0 Ctx.grpc grpcBehindMux (grpcSnapshot "sni.example")
    (grpcDocument "sni.example") (grpcUri "sni.example") rfl rfl (by decide +kernel)).mpr ?_
  rintro - inbound hinbound -
  cases hinbound
  refine ⟨trivial, ?_⟩
  rintro stream hstream
  cases hstream
  constructor
  · rintro tls htls serverName hserverName
    cases htls
    cases hserverName
    unfold Unpadded
    decide
  · rintro grpc hgrpc serviceName hserviceName
    cases hgrpc
    cases hserviceName
    exact ⟨_, rfl⟩

/-- A server name with a blank before it: the probe strips it, the URI does
not. -/
theorem not_probesShared_of_padded :
    buildClientUris 0 Ctx.grpc.settings .xrayGrpc (grpcDocument " sni.example") "" "AB:CD" true
        none = .ok [grpcUri " sni.example"] ∧
      ¬ ProbesShared 0 Ctx.grpc grpcBehindMux (grpcSnapshot " sni.example")
        (grpcDocument " sni.example") (grpcUri " sni.example") := by
  refine ⟨by decide +kernel, fun h => ?_⟩
  have hview := h.client "vpn.example" (by decide) (by decide) (grpcUri " sni.example")
    (by decide +kernel) _ rfl
  revert hview
  decide +kernel

end VpnPanel
