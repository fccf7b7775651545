import VpnPanel.RotationIndependence

/-!
# VpnPanel.CertifiedSni

The server name of a share URI against the names of the certificate that was
built with it.

* `CertNames` — the names of the certificate of a build without external pair;
* `SniNamed` — when the server name of the URI is one of them;
* `sniCovered_iff`.
-/

namespace VpnPanel

/-! ## the host of a build -/

section Host

variable (settings : PanelSettings) (ps : VpnProfileSettings) (sharePublicHost : Option String)

/-- The host is stripped, and not empty. -/
theorem effectiveShareHost_spec :
    PyStr.strip (effectiveShareHost settings ps sharePublicHost) =
        effectiveShareHost settings ps sharePublicHost ∧
      effectiveShareHost settings ps sharePublicHost ≠ "" := by
  simp only [effectiveShareHost]
  cases hfound : [stripOr sharePublicHost, stripOr ps.sharePublicHost,
      stripOr (some settings.publicHost)].find? (· ≠ "") with
  | none => decide
  | some host =>
      have hne : host ≠ "" := by simpa using List.find?_some hfound
      have hmem := List.mem_of_find?_eq_some hfound
      simp only [List.mem_cons, List.not_mem_nil, or_false] at hmem
      have hstrip : PyStr.strip host = host := by
        obtain rfl | rfl | rfl := hmem <;> exact PyStr.strip_strip _
      exact ⟨hstrip, hne⟩

theorem stripOr_stripHost (req : BuildRequest) :
    stripOr req.stripHost.sharePublicHost = stripOr req.sharePublicHost := by
  unfold BuildRequest.stripHost
  simp only
  split
  · next hempty => rw [hempty]; decide
  · exact PyStr.strip_strip _

/-- Stripping the public host of the request does not change the host. -/
theorem effectiveShareHost_stripHost (req : BuildRequest) :
    effectiveShareHost settings ps req.stripHost.sharePublicHost =
      effectiveShareHost settings ps req.sharePublicHost := by
  unfold effectiveShareHost
  rw [stripOr_stripHost]

end Host

/-! ## the names of a certificate -/

/-- Certificates are made for exactly the names asked for, and their names read
back. -/
def BuildEnv.CertifiesNames (crypto : Crypto) (env : BuildEnv) : Prop :=
  ∀ names privatePem certPem, env.selfSigned names = .ok (privatePem, certPem) →
    ∀ name, crypto.certHasDnsSan certPem name = true ↔ name ∈ names

/-- The build uses the external pair of the profile. -/
def UsesExternal (crypto : Crypto) (env : BuildEnv) (ps : VpnProfileSettings)
    (req : BuildRequest) : Prop :=
  req.policy.rotateTls = false ∧ ∃ tls, loadExternalTls crypto env ps = .ok (some tls)

/-- The certificate for `dnsName` of a build without external pair names
`name`: the certificate of the version before does, where it is used again,
and a new one is for the stripped name alone. -/
def CertNames (crypto : Crypto) (req : BuildRequest) (dnsName name : String) : Prop :=
  match if req.policy.rotateTls then none else tryReuseTls crypto req.previous dnsName with
  | some pair => crypto.certHasDnsSan pair.2.1 name = true
  | none => name = PyStr.strip dnsName

section Material

variable {crypto : Crypto} {env : BuildEnv} {ps : VpnProfileSettings} {req : BuildRequest}

/-- A certificate is used again only if it names the first name. -/
theorem named_of_tryReuseTls {previous : Option PreviousSecrets} {primary : String}
    {pair : String × String × String} (h : tryReuseTls crypto previous primary = some pair) :
    crypto.certHasDnsSan pair.2.1 primary = true := by
  unfold tryReuseTls at h
  split at h
  · contradiction
  · split at h
    · split at h
      · next hmatched =>
        cases h
        simp only [Bool.and_eq_true] at hmatched
        exact hmatched.1
      · contradiction
    · contradiction

theorem certNames_self {dnsName : String} (h : PyStr.strip dnsName = dnsName) :
    CertNames crypto req dnsName dnsName := by
  unfold CertNames
  split
  · next pair hpair =>
    split at hpair
    · contradiction
    · exact named_of_tryReuseTls hpair
  · exact h.symm

/-- The pair of a build without external pair is that of the version before, or
a new one. -/
theorem reused_or_new {dnsName filePrefix : String} {tls : TlsMaterial}
    (hown : ¬ UsesExternal crypto env ps req)
    (h : resolveTls crypto env ps req.previous dnsName req.policy.rotateTls filePrefix = .ok tls) :
    (req.policy.rotateTls = false ∧ tryReuseTls crypto req.previous dnsName =
        some (tls.privatePem, tls.certPem, tls.fingerprint)) ∨
      ((req.policy.rotateTls = false → tryReuseTls crypto req.previous dnsName = none) ∧
        generateSelfSignedCert crypto env [dnsName] =
          .ok (tls.privatePem, tls.certPem, tls.fingerprint)) := by
  cases hrotate : req.policy.rotateTls with
  | true =>
      rw [hrotate] at h
      obtain ⟨external, hexternal, h⟩ := Except.bind_eq_ok_iff.mp h
      cases hexternal
      obtain ⟨pair, hpair, h⟩ := Except.bind_eq_ok_iff.mp h
      rw [← Except.ok.inj h]
      exact Or.inr ⟨by simp, hpair⟩
  | false =>
      rw [hrotate] at h
      obtain ⟨external, hexternal, h⟩ := Except.bind_eq_ok_iff.mp h
      cases external with
      | some found => exact absurd ⟨hrotate, found, hexternal⟩ hown
      | none =>
          simp only [Bool.false_eq_true, if_false] at h
          cases hreused : tryReuseTls crypto req.previous dnsName with
          | some reused =>
              rw [hreused] at h
              rw [← Except.ok.inj h]
              exact Or.inl ⟨rfl, rfl⟩
          | none =>
              rw [hreused] at h
              obtain ⟨pair, hpair, h⟩ := Except.bind_eq_ok_iff.mp h
              rw [← Except.ok.inj h]
              exact Or.inr ⟨fun _ => rfl, hpair⟩

/-- What the certificate of a build without external pair names. -/
theorem certNames_iff (hexact : env.CertifiesNames crypto) (hown : ¬ UsesExternal crypto env ps req)
    {dnsName filePrefix : String} {tls : TlsMaterial}
    (h : resolveTls crypto env ps req.previous dnsName req.policy.rotateTls filePrefix = .ok tls)
    (name : String) :
    crypto.certHasDnsSan tls.certPem name = true ↔ CertNames crypto req dnsName name := by
  unfold CertNames
  obtain ⟨hrotate, hreused⟩ | ⟨hnone, hnew⟩ := reused_or_new hown h
  · simp [hrotate, hreused]
  · have hfresh : (if req.policy.rotateTls then none
        else tryReuseTls crypto req.previous dnsName) = none := by
      cases hrotate : req.policy.rotateTls with
      | true => rfl
      | false => simp [hnone hrotate]
    simp only [hfresh]
    simp only [generateSelfSignedCert] at hnew
    split at hnew
    · contradiction
    · next hnames =>
      obtain ⟨⟨privatePem, certPem⟩, hsigned, hnew⟩ := Except.bind_eq_ok_iff.mp hnew
      obtain ⟨fingerprint, -, hnew⟩ := Except.bind_eq_ok_iff.mp hnew
      obtain ⟨-, rfl, -⟩ : privatePem = tls.privatePem ∧ certPem = tls.certPem ∧
        fingerprint = tls.fingerprint := by simpa using hnew
      rw [hexact _ _ _ hsigned name]
      by_cases hempty : PyStr.strip dnsName = "" <;> simp_all

end Material

/-! ## the server names of the documents -/

section Documents

variable {crypto : Crypto} {settings : PanelSettings} {env : BuildEnv} {ps : VpnProfileSettings}
  {req : BuildRequest} {template : PyVal} {result : BuildResult}

/-- The name a gRPC build takes from the pool of the profile: the one to keep,
if the pool has it, or a drawn one. -/
def pooledSni (env : BuildEnv) (ps : VpnProfileSettings) (req : BuildRequest) : Option String :=
  let previous : PyVal := match req.previous.bind PreviousSecrets.grpcSni with
    | some sni => .str sni
    | none => .none
  let keepSni := req.preferredGrpcSni.orElse previous
  (randomChoice env.sniDraw ps.grpcSniHosts).map fun drawn =>
    if keepSni.truthy then (ps.grpcSniHosts.find? keepSni.isStr).getD drawn else drawn

/-- The public host of the request or of the profile is set. -/
def HostPinned (ps : VpnProfileSettings) (req : BuildRequest) : Prop :=
  stripOr req.sharePublicHost ≠ "" ∨ stripOr ps.sharePublicHost ≠ ""

theorem pinnedHost_ne_iff :
    stripOr ((nonEmpty req.stripHost.sharePublicHost).or ps.sharePublicHost) ≠ "" ↔
      HostPinned ps req := by
  unfold HostPinned BuildRequest.stripHost
  by_cases hempty : stripOr req.sharePublicHost = ""
  · simp [hempty, nonEmpty]
  · have hstrip : stripOr (some (stripOr req.sharePublicHost)) = stripOr req.sharePublicHost :=
      PyStr.strip_strip _
    simp [hempty, nonEmpty, Option.filter, hstrip]

/-- What a gRPC build sets, and what it has certified. -/
theorem setGrpcServerName_spec {tls tls' : PyVal} {tlsName : String}
    (h : setGrpcServerName settings env ps req.stripHost tls = .ok (tls', tlsName)) :
    (HostPinned ps req → tlsName = effectiveShareHost settings ps req.sharePublicHost ∧
      tls'.item "serverName" = .ok (.str tlsName)) ∧
    (¬ HostPinned ps req →
      match pooledSni env ps req with
      | some sni => tlsName = sni ∧ tls'.item "serverName" = .ok (.str sni)
      | none => tlsName = effectiveShareHost settings ps req.sharePublicHost ∧ tls' = tls) := by
  have hhost : tlsServerName settings ps req.stripHost.sharePublicHost =
      effectiveShareHost settings ps req.sharePublicHost :=
    effectiveShareHost_stripHost settings ps req
  simp only [setGrpcServerName, hhost] at h
  split at h
  · next hpinned =>
    rw [pinnedHost_ne_iff] at hpinned
    obtain ⟨changed, hset, h⟩ := Except.bind_eq_ok_iff.mp h
    cases h
    exact ⟨fun _ => ⟨rfl, PyVal.item_self_of_setItem hset⟩, fun hno => absurd hpinned hno⟩
  · next hpinned =>
    rw [pinnedHost_ne_iff] at hpinned
    refine ⟨fun hyes => absurd hyes hpinned, fun _ => ?_⟩
    unfold pooledSni
    cases hdraw : randomChoice env.sniDraw ps.grpcSniHosts with
    | none =>
        simp only [hdraw] at h
        cases h
        exact ⟨rfl, rfl⟩
    | some drawn =>
        simp only [hdraw] at h
        obtain ⟨changed, hset, h⟩ := Except.bind_eq_ok_iff.mp h
        cases h
        exact ⟨rfl, PyVal.item_self_of_setItem hset⟩

/-- The TLS section of a gRPC document, and the name its certificate is for. -/
theorem tlsSection_of_buildXrayGrpc
    (h : buildXrayGrpc crypto settings env ps req template = .ok result) :
    ∃ tlsSettings before after final tlsName tls,
      inboundAt ps.inboundTag ["streamSettings", "tlsSettings"] template = .ok tlsSettings ∧
      tlsSettings.SameAt before "serverName" ∧
      setGrpcServerName settings env ps req before = .ok (after, tlsName) ∧
      inboundAt ps.inboundTag ["streamSettings", "tlsSettings"] result.configData = .ok final ∧
      after.SameAt final "serverName" ∧
      resolveTls crypto env ps req.previous tlsName req.policy.rotateTls "grpc" = .ok tls ∧
      result.publicKey = tls.certPem := by
  obtain ⟨port, -, h⟩ := Except.bind_eq_ok_iff.mp h
  simp only at h
  obtain ⟨⟨config, tls⟩, hmodify, h⟩ := Except.bind_eq_ok_iff.mp h
  obtain ⟨inbound, inbound', before, after, hf, hchanged⟩ := modifyInbound_spec hmodify
  obtain ⟨inbound₁, hlisten, hf⟩ := Except.bind_eq_ok_iff.mp hf
  obtain ⟨inbound₂, hclient, hf⟩ := Except.bind_eq_ok_iff.mp hf
  obtain ⟨stream, hstream, hf⟩ := Except.bind_eq_ok_iff.mp hf
  obtain ⟨tlsSettings, htls, hf⟩ := Except.bind_eq_ok_iff.mp hf
  obtain ⟨tlsSettings₁, halpn, hf⟩ := Except.bind_eq_ok_iff.mp hf
  obtain ⟨tlsSettings₂, hpop, hf⟩ := Except.bind_eq_ok_iff.mp hf
  obtain ⟨⟨tlsSettings₃, tlsName⟩, hname, hf⟩ := Except.bind_eq_ok_iff.mp hf
  obtain ⟨stream₁, -, hf⟩ := Except.bind_eq_ok_iff.mp hf
  obtain ⟨stream₂, -, hf⟩ := Except.bind_eq_ok_iff.mp hf
  obtain ⟨resolved, hresolved, hf⟩ := Except.bind_eq_ok_iff.mp hf
  obtain ⟨tlsSettings₄, hcerts, hf⟩ := Except.bind_eq_ok_iff.mp hf
  obtain ⟨stream₃, hset, hf⟩ := Except.bind_eq_ok_iff.mp hf
  obtain ⟨inbound₃, hinbound, hf⟩ := Except.bind_eq_ok_iff.mp hf
  obtain ⟨rfl, rfl⟩ : inbound₃ = inbound' ∧ resolved = tls := by simpa using hf
  have hkept : ∀ k, "port" ≠ k → "listen" ≠ k → "settings" ≠ k → inbound.SameAt inbound₂ k :=
    fun k hport hlisten' hsettings =>
      (setListen_sameAt hlisten hport hlisten').trans (setClientId_sameAt hclient hsettings)
  have hstream₀ : inbound.item "streamSettings" = .ok stream := by
    rw [← (hkept _ (by decide) (by decide) (by decide)).item, hstream]
  have htag : inbound.SameAt inbound₃ "tag" :=
    (hkept _ (by decide) (by decide) (by decide)).trans
      (PyVal.sameAt_of_setItem hinbound (by decide))
  have hfind : findInbound template ps.inboundTag = .ok inbound :=
    findInbound_eq_ok_iff.mpr ⟨_, before, after, hchanged.inbounds, hchanged.split⟩
  have hfind' : findInbound config ps.inboundTag = .ok inbound₃ :=
    findInbound_eq_ok_iff.mpr ⟨_, before, after, hchanged.inbounds', hchanged.split' htag⟩
  have hread : inboundAt ps.inboundTag ["streamSettings", "tlsSettings"] template =
      .ok tlsSettings := by
    rw [inboundAt, hfind, Except.ok_bind_eq, PyVal.itemAt_cons hstream₀, PyVal.itemAt_cons htls]
    rfl
  have hread' : inboundAt ps.inboundTag ["streamSettings", "tlsSettings"] config =
      .ok tlsSettings₄ := by
    rw [inboundAt, hfind', Except.ok_bind_eq,
      PyVal.itemAt_cons (PyVal.item_self_of_setItem hinbound),
      PyVal.itemAt_cons (PyVal.item_self_of_setItem hset)]
    rfl
  rw [← Except.ok.inj h]
  exact ⟨tlsSettings, tlsSettings₂, tlsSettings₃, tlsSettings₄, tlsName, resolved, hread,
    (PyVal.sameAt_of_setItem halpn (by decide)).trans (PyVal.sameAt_of_popItem hpop (by decide)),
    hname, hread', PyVal.sameAt_of_setItem hcerts (by decide), hresolved, rfl⟩

/-- An xHTTP document names the host its certificate is for. -/
theorem tlsSection_of_buildXrayXhttp
    (h : buildXrayXhttp crypto settings env ps req template = .ok result) :
    ∃ stream fields tls,
      inboundAt ps.inboundTag ["streamSettings"] result.configData = .ok stream ∧
      stream.item "tlsSettings" = .ok (.dict fields) ∧
      (PyVal.dict fields).get "serverName" =
        .ok (.str (tlsServerName settings ps req.sharePublicHost)) ∧
      (PyVal.dict fields).truthy = true ∧
      resolveTls crypto env ps req.previous (tlsServerName settings ps req.sharePublicHost)
        req.policy.rotateTls "xhttp" = .ok tls ∧
      result.publicKey = tls.certPem := by
  obtain ⟨port, -, h⟩ := Except.bind_eq_ok_iff.mp h
  simp only at h
  obtain ⟨⟨config, tls⟩, hmodify, h⟩ := Except.bind_eq_ok_iff.mp h
  obtain ⟨inbound, inbound', before, after, hf, hchanged⟩ := modifyInbound_spec hmodify
  obtain ⟨inbound₁, hlisten, hf⟩ := Except.bind_eq_ok_iff.mp hf
  obtain ⟨inbound₂, hclient, hf⟩ := Except.bind_eq_ok_iff.mp hf
  obtain ⟨stream, -, hf⟩ := Except.bind_eq_ok_iff.mp hf
  obtain ⟨stream₁, -, hf⟩ := Except.bind_eq_ok_iff.mp hf
  obtain ⟨stream₂, -, hf⟩ := Except.bind_eq_ok_iff.mp hf
  obtain ⟨resolved, hresolved, hf⟩ := Except.bind_eq_ok_iff.mp hf
  obtain ⟨stream₃, hset, hf⟩ := Except.bind_eq_ok_iff.mp hf
  obtain ⟨inbound₃, hinbound, hf⟩ := Except.bind_eq_ok_iff.mp hf
  obtain ⟨rfl, rfl⟩ : inbound₃ = inbound' ∧ resolved = tls := by simpa using hf
  have htag : inbound.SameAt inbound₃ "tag" :=
    ((setListen_sameAt hlisten (by decide) (by decide)).trans
      (setClientId_sameAt hclient (by decide))).trans (PyVal.sameAt_of_setItem hinbound (by decide))
  have hfind : findInbound config ps.inboundTag = .ok inbound₃ :=
    findInbound_eq_ok_iff.mpr ⟨_, before, after, hchanged.inbounds', hchanged.split' htag⟩
  rw [← Except.ok.inj h]
  refine ⟨stream₃, _, resolved, ?_, PyVal.item_self_of_setItem hset, rfl, rfl, hresolved, rfl⟩
  simp only [TlsMaterial.result, inboundAt, hfind, Except.ok_bind_eq,
    PyVal.itemAt_cons (PyVal.item_self_of_setItem hinbound)]
  rfl

/-- The server names of a Hysteria2 document: one at the top, as the template
has it, and the host the certificate is for. -/
theorem tlsSection_of_buildHysteria2
    (h : buildHysteria2 crypto settings env ps req template = .ok result) :
    ∃ tlsSettings tls, template.SameAt result.configData "sni" ∧
      result.configData.item "tls" = .ok tlsSettings ∧
      tlsSettings.item "sni" = .ok (.str (tlsServerName settings ps req.sharePublicHost)) ∧
      resolveTls crypto env ps req.previous (tlsServerName settings ps req.sharePublicHost)
        req.policy.rotateTls "hysteria" = .ok tls ∧
      result.publicKey = tls.certPem := by
  obtain ⟨port, -, h⟩ := Except.bind_eq_ok_iff.mp h
  obtain ⟨tls, hresolved, h⟩ := Except.bind_eq_ok_iff.mp h
  obtain ⟨config₁, hlisten, h⟩ := Except.bind_eq_ok_iff.mp h
  obtain ⟨config₂, hauth, h⟩ := Except.bind_eq_ok_iff.mp h
  obtain ⟨config₃, htls, h⟩ := Except.bind_eq_ok_iff.mp h
  obtain ⟨config₄, hobfs, h⟩ := Except.bind_eq_ok_iff.mp h
  obtain ⟨-, -, -, -, -, hauthSame⟩ := PyVal.modifyItem_spec hauth
  obtain ⟨section₀, section', -, hset, hsection, htlsSame⟩ := PyVal.modifyItem_spec htls
  obtain ⟨section₁, -, hset⟩ := Except.bind_eq_ok_iff.mp hset
  obtain ⟨section₂, -, hsni⟩ := Except.bind_eq_ok_iff.mp hset
  have hkept : template.SameAt config₄ "sni" :=
    (((PyVal.sameAt_of_setItem hlisten (by decide)).trans (hauthSame _ (by decide))).trans
      (htlsSame _ (by decide))).trans (PyVal.sameAt_of_setItem hobfs (by decide))
  have hsection₄ : config₄.item "tls" = .ok section' := by
    rw [(PyVal.sameAt_of_setItem hobfs (by decide)).item, hsection]
  rw [← Except.ok.inj h]
  exact ⟨section', tls, hkept, hsection₄, PyVal.item_self_of_setItem hsni, hresolved, rfl⟩

end Documents

/-! ## the server names of the URIs -/

section Uris

variable {rnd : Nat} {settings : PanelSettings} {ps : VpnProfileSettings} {profile : ConfigProfile}
  {configData inbound clientId : PyVal} {host label publicKey certFingerprint : String}
  {sharePublicHost : Option String} {port : Int} {publicPort : Option Nat} {secure : Bool}
  {uri : ShareUri} {uris : List ShareUri}

/-- A gRPC URI: the server name of the document, or the host. -/
theorem sni?_buildGrpcUri
    (h : buildGrpcUri inbound clientId host port certFingerprint label secure = .ok uri) :
    ∃ tls serverName, PyVal.itemAt ["streamSettings", "tlsSettings"] inbound = .ok tls ∧
      tls.get "serverName" = .ok serverName ∧
      uri.sni? = some (serverName.orElse (.str host)).toStr := by
  obtain ⟨stream, hstream, h⟩ := Except.bind_eq_ok_iff.mp h
  obtain ⟨tls, htls, h⟩ := Except.bind_eq_ok_iff.mp h
  obtain ⟨grpc, -, h⟩ := Except.bind_eq_ok_iff.mp h
  obtain ⟨serverName, hname, h⟩ := Except.bind_eq_ok_iff.mp h
  obtain ⟨serviceName, -, h⟩ := Except.bind_eq_ok_iff.mp h
  rw [← Except.ok.inj h]
  refine ⟨tls, serverName, ?_, hname, by simp [ShareUri.sni?, ShareUri.param?, plain, escaped]⟩
  rw [PyVal.itemAt_cons hstream, PyVal.itemAt_cons htls]
  rfl

/-- An xHTTP URI: the server name of the document, or the host. -/
theorem sni?_buildXhttpUri
    (h : buildXhttpUri inbound clientId host port certFingerprint label secure = .ok uri) :
    ∃ stream tlsSettings serverName, PyVal.itemAt ["streamSettings"] inbound = .ok stream ∧
      stream.get "tlsSettings" = .ok tlsSettings ∧
      (tlsSettings.orElse (.dict [])).get "serverName" = .ok serverName ∧
      uri.sni? = some (serverName.orElse (.str host)).toStr := by
  obtain ⟨stream, hstream, h⟩ := Except.bind_eq_ok_iff.mp h
  obtain ⟨xhttp, -, h⟩ := Except.bind_eq_ok_iff.mp h
  obtain ⟨tlsSettings, htls, h⟩ := Except.bind_eq_ok_iff.mp h
  obtain ⟨xhost, -, h⟩ := Except.bind_eq_ok_iff.mp h
  obtain ⟨path, -, h⟩ := Except.bind_eq_ok_iff.mp h
  obtain ⟨mode, -, h⟩ := Except.bind_eq_ok_iff.mp h
  obtain ⟨serverName, hname, h⟩ := Except.bind_eq_ok_iff.mp h
  rw [← Except.ok.inj h]
  refine ⟨stream, tlsSettings, serverName, ?_, htls, hname,
    by simp [ShareUri.sni?, ShareUri.param?, plain, escaped]⟩
  rw [PyVal.itemAt_cons hstream]
  rfl

/-- A Hysteria2 URI: a server name of the document, or the host. -/
theorem sni?_buildHysteria2Uri
    (h : buildHysteria2Uri configData host certFingerprint label secure publicPort = .ok uri) :
    ∃ sni, hysteriaSni configData host = .ok sni ∧ uri.sni? = some sni.toStr := by
  rw [buildHysteria2Uri_chain] at h
  obtain ⟨port, -, h⟩ := Except.bind_eq_ok_iff.mp h
  obtain ⟨auth, -, h⟩ := Except.bind_eq_ok_iff.mp h
  obtain ⟨password, -, h⟩ := Except.bind_eq_ok_iff.mp h
  obtain ⟨sni, hsni, h⟩ := Except.bind_eq_ok_iff.mp h
  obtain ⟨obfs, -, h⟩ := Except.bind_eq_ok_iff.mp h
  split at h
  · rw [← Except.ok.inj h]
    exact ⟨sni, hsni, by simp [ShareUri.sni?, ShareUri.param?, escaped]⟩
  · contradiction

/-- The URI of an xray document. -/
theorem uri_of_buildClientUris (hps : settings.profileSettings profile = .ok ps)
    (hprofile : profile ≠ .hysteria2)
    (h : buildClientUris rnd settings profile configData publicKey certFingerprint secure
      sharePublicHost = .ok uris) :
    ∃ inbound clientId port uri, findInbound configData ps.inboundTag = .ok inbound ∧
      buildXrayUri rnd profile inbound clientId (effectiveShareHost settings ps sharePublicHost)
        port publicKey certFingerprint secure = .ok uri ∧ uris = [uri] := by
  rw [buildClientUris, hps, Except.ok_bind_eq, buildShareUris_xray hprofile] at h
  obtain ⟨inbound, hinbound, h⟩ := Except.bind_eq_ok_iff.mp h
  obtain ⟨port, -, h⟩ := Except.bind_eq_ok_iff.mp h
  obtain ⟨client, -, h⟩ := Except.bind_eq_ok_iff.mp h
  obtain ⟨clientId, -, h⟩ := Except.bind_eq_ok_iff.mp h
  obtain ⟨uri, huri, h⟩ := Except.bind_eq_ok_iff.mp h
  exact ⟨inbound, clientId, port, uri, hinbound, huri, (Except.ok.inj h).symm⟩

end Uris

/-! ## covered server names -/

/-- The server name of each URI is one of the certificate. -/
def SniCovered (crypto : Crypto) (certPem : String) (uris : List ShareUri) : Prop :=
  ∀ uri ∈ uris, ∃ sni, uri.sni? = some sni ∧ crypto.certHasDnsSan certPem sni = true

/-- When the server name is covered.  A gRPC build without a public host takes a
name from the pool, which has to be certified as it is; without a pool the
server name of the template stays.  A Hysteria2 template may have a server name
at its top. -/
def SniNamed (crypto : Crypto) (settings : PanelSettings) (env : BuildEnv) (ps : VpnProfileSettings)
    (req : BuildRequest) (template : PyVal) : ConfigProfile → Prop
  | .xrayGrpc => HostPinned ps req ∨
      match pooledSni env ps req with
      | some sni =>
          CertNames crypto req sni (orStr sni (effectiveShareHost settings ps req.sharePublicHost))
      | none => ∀ tls serverName,
          inboundAt ps.inboundTag ["streamSettings", "tlsSettings"] template = .ok tls →
          tls.get "serverName" = .ok serverName → serverName.truthy = true →
          CertNames crypto req (effectiveShareHost settings ps req.sharePublicHost)
            serverName.toStr
  | .hysteria2 => ∀ sni, template.get "sni" = .ok sni → sni.truthy = true →
      CertNames crypto req (effectiveShareHost settings ps req.sharePublicHost) sni.toStr
  | _ => True

section Covered

variable {crypto : Crypto} {settings : PanelSettings} {env : BuildEnv} {ps : VpnProfileSettings}
  {req : BuildRequest} {template : PyVal} {result : BuildResult} {rnd : Nat} {secure : Bool}
  {uris : List ShareUri}

theorem sniCovered_singleton {certPem sni : String} {uri : ShareUri} (h : uri.sni? = some sni) :
    SniCovered crypto certPem [uri] ↔ crypto.certHasDnsSan certPem sni = true := by
  simp [SniCovered, h]

/-- The host is a name of a certificate for it. -/
theorem certNames_host : CertNames crypto req
    (effectiveShareHost settings ps req.sharePublicHost)
    (effectiveShareHost settings ps req.sharePublicHost) :=
  certNames_self (effectiveShareHost_spec settings ps req.sharePublicHost).1

theorem toStr_orElse_str (sni host : String) :
    ((PyVal.str sni).orElse (.str host)).toStr = orStr sni host := by
  by_cases hempty : sni = "" <;> simp [PyVal.orElse, PyVal.truthy, orStr, hempty, PyVal.toStr]

/-- The host as a server name is not replaced. -/
theorem toStr_orElse_host (host : String) :
    ((PyVal.str (effectiveShareHost settings ps req.sharePublicHost)).orElse (.str host)).toStr =
      effectiveShareHost settings ps req.sharePublicHost := by
  rw [toStr_orElse_str, orStr, if_neg (effectiveShareHost_spec settings ps req.sharePublicHost).2]

theorem sniCovered_xrayGrpc_iff (hexact : env.CertifiesNames crypto)
    (hps : settings.profileSettings .xrayGrpc = .ok ps) (hown : ¬ UsesExternal crypto env ps req)
    (hbuild : buildXrayGrpc crypto settings env ps req.stripHost template = .ok result)
    (huris : buildClientUris rnd settings .xrayGrpc result.configData result.publicKey
      result.certFingerprint secure req.sharePublicHost = .ok uris) :
    SniCovered crypto result.publicKey uris ↔
      SniNamed crypto settings env ps req template .xrayGrpc := by
  obtain ⟨tlsSettings, before, after, final, tlsName, tls, htemplate, hbefore, hname, hfinal,
    hafter, hresolved, hpublic⟩ := tlsSection_of_buildXrayGrpc hbuild
  obtain ⟨inbound, clientId, port, uri, hfind, huri, rfl⟩ :=
    uri_of_buildClientUris hps (by simp) huris
  obtain ⟨tls', serverName, htls', hserver, hsni⟩ := sni?_buildGrpcUri huri
  obtain rfl : tls' = final := by
    rw [inboundAt, hfind, Except.ok_bind_eq, htls'] at hfinal
    exact Except.ok.inj hfinal
  have hcert (name : String) : crypto.certHasDnsSan result.publicKey name = true ↔
      CertNames crypto req tlsName name := by
    rw [hpublic]
    exact certNames_iff hexact hown hresolved name
  rw [sniCovered_singleton hsni, hcert]
  obtain ⟨hpinned, hpool⟩ := setGrpcServerName_spec hname
  by_cases hhost : HostPinned ps req
  · obtain ⟨rfl, hset⟩ := hpinned hhost
    rw [← hafter.item] at hset
    rw [PyVal.get_of_item hset] at hserver
    obtain rfl := Except.ok.inj hserver
    rw [toStr_orElse_host]
    exact iff_of_true certNames_host (Or.inl hhost)
  · have hpool := hpool hhost
    simp only [SniNamed, hhost, false_or]
    cases hsni' : pooledSni env ps req with
    | some sni =>
        rw [hsni'] at hpool
        obtain ⟨rfl, hset⟩ := hpool
        rw [← hafter.item] at hset
        rw [PyVal.get_of_item hset] at hserver
        obtain rfl := Except.ok.inj hserver
        rw [toStr_orElse_str]
    | none =>
        rw [hsni'] at hpool
        obtain ⟨rfl, rfl⟩ := hpool
        rw [hafter.get, hbefore.get] at hserver
        constructor
        · intro hnamed tls'' serverName' htls'' hserver' htruthy
          rw [htemplate] at htls''
          obtain rfl := Except.ok.inj htls''
          rw [hserver] at hserver'
          obtain rfl := Except.ok.inj hserver'
          rwa [PyVal.orElse, if_pos htruthy] at hnamed
        · intro hnamed
          by_cases htruthy : serverName.truthy = true
          · rw [PyVal.orElse, if_pos htruthy]
            exact hnamed _ _ htemplate hserver htruthy
          · rw [PyVal.orElse, if_neg htruthy]
            exact certNames_host

theorem sniCovered_xrayXhttp (hexact : env.CertifiesNames crypto)
    (hps : settings.profileSettings .xrayXhttp = .ok ps) (hown : ¬ UsesExternal crypto env ps req)
    (hbuild : buildXrayXhttp crypto settings env ps req.stripHost template = .ok result)
    (huris : buildClientUris rnd settings .xrayXhttp result.configData result.publicKey
      result.certFingerprint secure req.sharePublicHost = .ok uris) :
    SniCovered crypto result.publicKey uris := by
  obtain ⟨stream, fields, tls, hstream, htls, hname, htruthy, hresolved, hpublic⟩ :=
    tlsSection_of_buildXrayXhttp hbuild
  obtain ⟨inbound, clientId, port, uri, hfind, huri, rfl⟩ :=
    uri_of_buildClientUris hps (by simp) huris
  obtain ⟨stream', tlsSettings, serverName, hstream', htls', hserver, hsni⟩ :=
    sni?_buildXhttpUri huri
  obtain rfl : stream' = stream := by
    rw [inboundAt, hfind, Except.ok_bind_eq, hstream'] at hstream
    exact Except.ok.inj hstream
  rw [PyVal.get_of_item htls] at htls'
  obtain rfl := Except.ok.inj htls'
  rw [PyVal.orElse, if_pos htruthy, hname] at hserver
  obtain rfl := Except.ok.inj hserver
  have hhost : tlsServerName settings ps req.stripHost.sharePublicHost =
      effectiveShareHost settings ps req.sharePublicHost :=
    effectiveShareHost_stripHost settings ps req
  rw [hhost, toStr_orElse_host] at hsni
  rw [hhost] at hresolved
  rw [sniCovered_singleton hsni, hpublic]
  exact (certNames_iff hexact hown hresolved _).mpr certNames_host

theorem sniCovered_hysteria2_iff (hexact : env.CertifiesNames crypto)
    (hps : settings.profileSettings .hysteria2 = .ok ps) (hown : ¬ UsesExternal crypto env ps req)
    (hbuild : buildHysteria2 crypto settings env ps req.stripHost template = .ok result)
    (huris : buildClientUris rnd settings .hysteria2 result.configData result.publicKey
      result.certFingerprint secure req.sharePublicHost = .ok uris) :
    SniCovered crypto result.publicKey uris ↔
      SniNamed crypto settings env ps req template .hysteria2 := by
  obtain ⟨tlsSettings, tls, htop, htls, hset, hresolved, hpublic⟩ :=
    tlsSection_of_buildHysteria2 hbuild
  have hhost : tlsServerName settings ps req.stripHost.sharePublicHost =
      effectiveShareHost settings ps req.sharePublicHost :=
    effectiveShareHost_stripHost settings ps req
  rw [hhost] at hset hresolved
  rw [buildClientUris, hps, Except.ok_bind_eq] at huris
  obtain ⟨uri, huri, huris⟩ := Except.bind_eq_ok_iff.mp huris
  obtain rfl := Except.ok.inj huris
  obtain ⟨sni, hfound, hsni⟩ := sni?_buildHysteria2Uri huri
  have hcert (name : String) : crypto.certHasDnsSan result.publicKey name = true ↔
      CertNames crypto req (effectiveShareHost settings ps req.sharePublicHost) name := by
    rw [hpublic]
    exact certNames_iff hexact hown hresolved name
  rw [sniCovered_singleton hsni, hcert]
  unfold hysteriaSni at hfound
  rw [htop.get] at hfound
  obtain ⟨top, hget, hfound⟩ := Except.bind_eq_ok_iff.mp hfound
  have hunique (sni' : PyVal) (h : template.get "sni" = .ok sni') : sni' = top := by
    rw [hget] at h
    exact (Except.ok.inj h).symm
  by_cases htruthy : top.truthy = true
  · rw [if_pos htruthy] at hfound
    obtain rfl := Except.ok.inj hfound
    constructor
    · intro hnamed sni' hsni' _
      rwa [hunique sni' hsni']
    · intro hnamed
      exact hnamed _ hget htruthy
  · rw [if_neg htruthy] at hfound
    rw [PyVal.get_of_item htls, Except.ok_bind_eq, PyVal.get_of_item hset, Except.ok_bind_eq]
      at hfound
    obtain rfl := Except.ok.inj hfound
    rw [toStr_orElse_host]
    refine iff_of_true certNames_host fun sni' hsni' htruthy' => ?_
    rw [hunique sni' hsni'] at htruthy'
    exact absurd htruthy' htruthy

/-- **When the server name of a URI is covered.**  For the TLS profiles without
an external pair: the server name of the URI of a result is one of the names of
its certificate exactly when no name of the template or of the pool is
advertised that the certificate does not have. -/
theorem sniCovered_iff {profile : ConfigProfile} (hexact : env.CertifiesNames crypto)
    (hprofile : profile ≠ .xrayReality) (hps : settings.profileSettings profile = .ok ps)
    (htemplate : env.template = .ok template) (hown : ¬ UsesExternal crypto env ps req)
    (hbuild : build crypto settings env req profile = .ok result)
    (huris : buildClientUris rnd settings profile result.configData result.publicKey
      result.certFingerprint secure req.sharePublicHost = .ok uris) :
    SniCovered crypto result.publicKey uris ↔
      SniNamed crypto settings env ps req template profile := by
  rw [build, hps, Except.ok_bind_eq, htemplate, Except.ok_bind_eq] at hbuild
  cases profile with
  | xrayReality => contradiction
  | xrayGrpc => exact sniCovered_xrayGrpc_iff hexact hps hown hbuild huris
  | xrayXhttp => exact iff_of_true (sniCovered_xrayXhttp hexact hps hown hbuild huris) trivial
  | hysteria2 => exact sniCovered_hysteria2_iff hexact hps hown hbuild huris

end Covered

/-! ## two templates -/

/-- A surrounding that makes certificates for one name. -/
def BuildEnv.certifying (template : PyVal) : BuildEnv :=
  { BuildEnv.sample template with
    selfSigned := fun
      | [name] => .ok ("key:cert:" ++ name, "cert:" ++ name)
      | _ => .error ⟨.valueError, "one name"⟩ }

theorem certifying_certifiesNames (template : PyVal) :
    (BuildEnv.certifying template).CertifiesNames Crypto.sample := by
  intro names privatePem certPem h name
  match names with
  | [] | _ :: _ :: _ => cases h
  | [only] =>
      cases h
      simp only [Crypto.sample, decide_eq_true_eq, List.mem_singleton]
      rw [String.append_right_inj]
      exact eq_comm

/-- A gRPC template with a server name. -/
def namedTemplate (serverName : String) : PyVal :=
  .dict [("inbounds", .list [.dict [("tag", .str "vless"),
    ("settings", .dict [("clients", .list [.dict [("id", .str "template")]])]),
    ("streamSettings", .dict [("tlsSettings", .dict [("serverName", .str serverName)]),
      ("grpcSettings", .dict [])])]])]

/-- A template without a server name: the host is advertised. -/
theorem sniCovered_of_unnamed :
    ∃ result uris,
      build Crypto.sample Ctx.allProfiles.settings (BuildEnv.certifying (namedTemplate "")) {}
        .xrayGrpc = .ok result ∧
      buildClientUris 0 Ctx.allProfiles.settings .xrayGrpc result.configData result.publicKey
        result.certFingerprint true none = .ok uris ∧ uris ≠ [] ∧
      SniCovered Crypto.sample result.publicKey uris := by
  obtain ⟨result, hbuild⟩ : ∃ result, build Crypto.sample Ctx.allProfiles.settings
      (BuildEnv.certifying (namedTemplate "")) {} .xrayGrpc = .ok result := ⟨_, rfl⟩
  obtain ⟨uri, huris⟩ : ∃ uri, buildClientUris 0 Ctx.allProfiles.settings .xrayGrpc
      result.configData result.publicKey result.certFingerprint true none = .ok [uri] := by
    cases hbuild
    exact ⟨_, rfl⟩
  have hps : Ctx.allProfiles.settings.profileSettings .xrayGrpc =
      .ok { sampleProfile with portCandidates := [443, 8443] } := rfl
  refine ⟨result, [uri], hbuild, huris, by simp, ?_⟩
  refine (sniCovered_iff (certifying_certifiesNames _) (by simp) hps rfl
    (fun h => absurd h.1 (by decide)) hbuild huris).mpr (Or.inr ?_)
  intro tls serverName htls hserver htruthy
  cases htls
  cases hserver
  contradiction

/-- Without a pool and a public host the server name of the template is
advertised, and the certificate is for another name. -/
theorem not_sniCovered_of_named :
    ∃ result uris,
      build Crypto.sample Ctx.allProfiles.settings
        (BuildEnv.certifying (namedTemplate "cdn.example")) {} .xrayGrpc = .ok result ∧
      ¬ UsesExternal Crypto.sample (BuildEnv.certifying (namedTemplate "cdn.example"))
        { sampleProfile with portCandidates := [443, 8443] } {} ∧
      buildClientUris 0 Ctx.allProfiles.settings .xrayGrpc result.configData result.publicKey
        result.certFingerprint true none = .ok uris ∧
      ¬ SniCovered Crypto.sample result.publicKey uris := by
  refine ⟨_, _, rfl, fun h => absurd h.1 (by decide), rfl, ?_⟩
  intro h
  obtain ⟨sni, hsni, hcert⟩ := h _ List.mem_cons_self
  obtain rfl : "cdn.example" = sni := Option.some.inj (Eq.trans (by decide) hsni)
  revert hcert
  decide

end VpnPanel
