import VpnPanel.Lib.TwoRuns
import VpnPanel.PolicyUpdates
import VpnPanel.ServedCertificates

/-!
# VpnPanel.RotationIndependence

What a rotated secret depends on: two builds from one template, with the same
randomness for a secret whose flag both policies set, have the same secret,
whatever they take over from the versions before.

* `component` — what a result has of a secret;
* `related_realityInbound`, `related_grpcInbound`, `related_xhttpInbound` — the
  changed inbounds of two builds, side by side;
* `rotationIndependence`.
-/

namespace VpnPanel

open Except (Related)
open PyVal (AgreeAt)

/-! ## the secrets of a result -/

/-- The value at a path of the inbound with the tag. -/
def inboundAt (tag : String) (path : List String) (configData : PyVal) : Except PyErr PyVal := do
  let inbound ← findInbound configData tag
  PyVal.itemAt path inbound

/-- What a result has of the secret that a flag is about: nothing, where the
profile has no such secret. -/
def component (tag : String) (result : BuildResult) :
    ConfigProfile → PolicyFlag → List (Except PyErr PyVal)
  | .hysteria2, .clientId => []
  | _, .clientId =>
      [.ok (result.clientId.getD .none), inboundAt tag ["settings"] result.configData]
  | .xrayReality, .realityKeys =>
      [.ok (.str result.privateKey), .ok (.str result.publicKey),
        inboundAt tag ["streamSettings", "realitySettings", "privateKey"] result.configData]
  | .xrayReality, .shortIds =>
      [inboundAt tag ["streamSettings", "realitySettings", "shortIds"] result.configData]
  | .xrayReality, .dest =>
      [inboundAt tag ["streamSettings", "realitySettings", "dest"] result.configData,
        inboundAt tag ["streamSettings", "realitySettings", "serverNames"] result.configData]
  | .xrayXhttp, .path =>
      [inboundAt tag ["streamSettings", "xhttpSettings", "path"] result.configData]
  | .xrayGrpc, .serviceName =>
      [inboundAt tag ["streamSettings", "grpcSettings", "serviceName"] result.configData]
  | .xrayReality, .tls => []
  | _, .tls =>
      .ok (.str result.privateKey) ::
        (result.extraFiles.filter fun file => file.1 = "key").map fun file => .ok (.str file.2)
  | .hysteria2, .auth => [PyVal.itemAt ["auth", "password"] result.configData]
  | .hysteria2, .obfs => [PyVal.itemAt ["obfs", "salamander", "password"] result.configData]
  | _, _ => []

/-- The key that `generate_self_signed_cert` generates; the names only go into
the certificate. -/
def BuildEnv.GeneratesKey (env : BuildEnv) (key : String) : Prop :=
  ∀ names privatePem certPem, env.selfSigned names = .ok (privatePem, certPem) → privatePem = key

/-- The randomness of a secret is the same. -/
def SameRandomness (env₁ env₂ : BuildEnv) : PolicyFlag → Prop
  | .port => True
  | .clientId => env₁.uuid4 = env₂.uuid4
  | .realityKeys => env₁.x25519PrivateKey = env₂.x25519PrivateKey
  | .shortIds => env₁.shortIds = env₂.shortIds
  | .dest => env₁.destDraw = env₂.destDraw
  | .path => env₁.pathDraw = env₂.pathDraw
  | .serviceName => env₁.serviceNameDraw = env₂.serviceNameDraw
  | .tls => ∃ key, env₁.GeneratesKey key ∧ env₂.GeneratesKey key
  | .auth => env₁.authPassword = env₂.authPassword
  | .obfs => env₁.obfsPassword = env₂.obfsPassword

/-! ## the tagged inbound in two runs -/

/-- Two changes of the tagged inbound that keep it what the tag finds, and
agree on a value in it. -/
theorem related_modifyTag {α : Type} {tag : String} {path : List String}
    {f g : PyVal → Except PyErr (PyVal × α)} (items : List PyVal)
    (hf : ∀ inbound, Related (fun p q : PyVal × α =>
      p.1.SameAt q.1 "tag" ∧ PyVal.itemAt path q.1 = PyVal.itemAt path p.1)
      (f inbound) (g inbound)) :
    Related (fun p q : List PyVal × α => (findTag tag q.1 >>= PyVal.itemAt path) =
      (findTag tag p.1 >>= PyVal.itemAt path)) (modifyTag tag f items) (modifyTag tag g items) := by
  induction items with
  | nil => exact Related.error_left _ _
  | cons x rest ih =>
      intro p q hp hq
      obtain ⟨t, ht, hp⟩ := Except.bind_eq_ok_iff.mp hp
      rw [modifyTag, ht, Except.ok_bind_eq] at hq
      split at hp
      · next hx =>
        rw [if_pos hx] at hq
        obtain ⟨⟨inbound₁, a₁⟩, hf₁, hp⟩ := Except.bind_eq_ok_iff.mp hp
        obtain ⟨⟨inbound₂, a₂⟩, hf₂, hq⟩ := Except.bind_eq_ok_iff.mp hq
        obtain ⟨htag, hread⟩ := hf x _ _ hf₁ hf₂
        simp only at htag hread
        rw [← Except.ok.inj hp, ← Except.ok.inj hq]
        simp only [findTag, htag.get]
        cases inbound₁.get "tag" with
        | error e => rfl
        | ok t' =>
            simp only [Except.ok_bind_eq]
            split
            · exact hread
            · rfl
      · next hx =>
        rw [if_neg hx] at hq
        obtain ⟨⟨rest₁, a₁⟩, hrest₁, hp⟩ := Except.bind_eq_ok_iff.mp hp
        obtain ⟨⟨rest₂, a₂⟩, hrest₂, hq⟩ := Except.bind_eq_ok_iff.mp hq
        rw [← Except.ok.inj hp, ← Except.ok.inj hq]
        simp only [findTag, ht, Except.ok_bind_eq, if_neg hx]
        exact ih _ _ hrest₁ hrest₂

theorem related_modifyInbound {α : Type} {tag : String} {path : List String}
    {f g : PyVal → Except PyErr (PyVal × α)} (config : PyVal)
    (hf : ∀ inbound, Related (fun p q : PyVal × α =>
      p.1.SameAt q.1 "tag" ∧ PyVal.itemAt path q.1 = PyVal.itemAt path p.1)
      (f inbound) (g inbound)) :
    Related (fun p q : PyVal × α => inboundAt tag path q.1 = inboundAt tag path p.1)
      (modifyInbound config tag f) (modifyInbound config tag g) := by
  intro p q hp hq
  obtain ⟨inbounds, hget, hp⟩ := Except.bind_eq_ok_iff.mp hp
  obtain ⟨items, hiter, hp⟩ := Except.bind_eq_ok_iff.mp hp
  rw [modifyInbound, hget, Except.ok_bind_eq, hiter, Except.ok_bind_eq] at hq
  obtain ⟨⟨items₁, a₁⟩, hitems₁, hp⟩ := Except.bind_eq_ok_iff.mp hp
  obtain ⟨⟨items₂, a₂⟩, hitems₂, hq⟩ := Except.bind_eq_ok_iff.mp hq
  obtain ⟨config₁, hset₁, hp⟩ := Except.bind_eq_ok_iff.mp hp
  obtain ⟨config₂, hset₂, hq⟩ := Except.bind_eq_ok_iff.mp hq
  have hread := related_modifyTag items hf _ _ hitems₁ hitems₂
  rw [← Except.ok.inj hp, ← Except.ok.inj hq]
  simpa [inboundAt, findInbound, PyVal.get_of_setItem hset₁, PyVal.get_of_setItem hset₂]
    using hread

/-! ## what the builders set, in two runs -/

section Parts

variable {env env₁ env₂ : BuildEnv} {ps : VpnProfileSettings} {req req₁ req₂ : BuildRequest}
  {keys path : List String} {v w : PyVal}

theorem related_setListen (h : AgreeAt keys path v w) (hport : "port" ∉ PyVal.firstKeys keys path)
    (hlisten : "listen" ∉ PyVal.firstKeys keys path) (port₁ port₂ : Nat)
    (listenAddress : Option String) :
    Related (AgreeAt keys path) (setListen v port₁ listenAddress)
      (setListen w port₂ listenAddress) := by
  have hkept {u u' : PyVal} {port : Nat} (hset : setListen u port listenAddress = .ok u')
      (k : String) (hk : k ∈ PyVal.firstKeys keys path) : u.SameAt u' k :=
    setListen_sameAt hset (ne_of_mem_of_not_mem hk hport).symm
      (ne_of_mem_of_not_mem hk hlisten).symm
  intro v' w' hv hw
  exact h.of_sameAt (hkept hv) (hkept hw)

theorem related_setClientId_away (h : AgreeAt keys path v w)
    (hk : "settings" ∉ PyVal.firstKeys keys path) (id₁ id₂ : PyVal) :
    Related (AgreeAt keys path) (setClientId v id₁) (setClientId w id₂) := by
  have hkept {u u' id : PyVal} (hset : setClientId u id = .ok u') (k : String)
      (hk' : k ∈ PyVal.firstKeys keys path) : u.SameAt u' k :=
    setClientId_sameAt hset (ne_of_mem_of_not_mem hk' hk).symm
  intro v' w' hv hw
  exact h.of_sameAt (hkept hv) (hkept hw)

/-- The section of the clients, with one client id. -/
theorem related_setClientId_same (h : v.SameAt w "settings") (id : PyVal) :
    Related (AgreeAt ["settings"] []) (setClientId v id) (setClientId w id) := by
  have hagree : AgreeAt ["settings"] [] v w := by
    intro k hk
    rwa [List.mem_singleton.mp hk]
  intro v' w' hv hw
  rw [setClientId, h.get] at hw
  obtain ⟨settings, hsettings, hv⟩ := Except.bind_eq_ok_iff.mp hv
  obtain ⟨clients, hclients, hv⟩ := Except.bind_eq_ok_iff.mp hv
  obtain ⟨items, hitems, hv⟩ := Except.bind_eq_ok_iff.mp hv
  obtain ⟨items', hids, hv⟩ := Except.bind_eq_ok_iff.mp hv
  simp only [hsettings, hclients, hitems, hids, Except.ok_bind_eq] at hw
  split at hv
  · next hempty =>
    rw [if_pos hempty] at hw
    rwa [← Except.ok.inj hv, ← Except.ok.inj hw]
  · next hsome =>
    rw [if_neg hsome] at hw
    exact (Related.bind (Related.of_eq rfl) fun a b hab =>
      PyVal.related_setItem_last hagree fun _ => hab) v' w' hv hw

theorem related_setClientId {id₁ id₂ : PyVal} (h : AgreeAt keys [] v w)
    (hid : "settings" ∈ keys → id₁ = id₂) :
    Related (AgreeAt keys []) (setClientId v id₁) (setClientId w id₂) := by
  intro v' w' hv hw k hk
  by_cases hs : "settings" = k
  · subst hs
    obtain rfl := hid hk
    exact related_setClientId_same (h _ hk) id₁ v' w' hv hw _ List.mem_cons_self
  · exact ((setClientId_sameAt hv hs).symm.trans (h k hk)).trans (setClientId_sameAt hw hs)

theorem chooseClientId_of_rotate (h : req.policy.rotateClientId = true) :
    chooseClientId env req = .str env.uuid4 := by
  unfold chooseClientId
  split <;> simp [h]

theorem chooseRealityKeys_of_rotate {crypto : Crypto} (h : req.policy.rotateRealityKeys = true) :
    chooseRealityKeys crypto env req =
      (env.x25519PrivateKey, crypto.publicKey env.x25519PrivateKey) := by
  unfold chooseRealityKeys
  split <;> simp [h]

theorem chooseShortIds_of_rotate (h : req.policy.rotateShortIds = true) :
    chooseShortIds env req = env.shortIds.map .str := by
  unfold chooseShortIds
  split <;> simp [h]

theorem keptOr_of_rotate (previous : Option String) (drawn : String) :
    keptOr previous true drawn = drawn := by
  cases previous <;> rfl

/-- A rotated `dest` is drawn. -/
theorem setDest_of_rotate (h : req.policy.rotateDest = true) (reality : PyVal) :
    setDest env ps req reality = (do
      let reality ← match randomChoice env.destDraw ps.realityDestHosts with
        | some dest => reality.setItem "dest" (.str dest)
        | none => .ok reality
      pinServerNames reality) := by
  unfold setDest
  rw [h]
  split
  · contradiction
  · rfl

theorem related_pinServerNames (h : AgreeAt ["dest", "serverNames"] [] v w) :
    Related (AgreeAt ["dest", "serverNames"] []) (pinServerNames v) (pinServerNames w) := by
  intro v' w' hv hw
  rw [pinServerNames, (h "dest" List.mem_cons_self).get] at hw
  obtain ⟨dest, hdest, hv⟩ := Except.bind_eq_ok_iff.mp hv
  rw [hdest, Except.ok_bind_eq] at hw
  simp only at hv hw
  split at hv
  · next hhost =>
    rw [if_pos hhost] at hw
    exact PyVal.related_setItem_last h (fun _ => rfl) v' w' hv hw
  · next hhost =>
    rw [if_neg hhost] at hw
    rwa [← Except.ok.inj hv, ← Except.ok.inj hw]

theorem related_setDest_away (h : AgreeAt keys [] v w) (hdest : "dest" ∉ keys)
    (hnames : "serverNames" ∉ keys) :
    Related (AgreeAt keys []) (setDest env₁ ps req₁ v) (setDest env₂ ps req₂ w) := by
  have hkept {env : BuildEnv} {req : BuildRequest} {u u' : PyVal}
      (hset : setDest env ps req u = .ok u') (k : String) (hk : k ∈ PyVal.firstKeys keys []) :
      u.SameAt u' k :=
    setDest_sameAt hset (ne_of_mem_of_not_mem hk hdest).symm (ne_of_mem_of_not_mem hk hnames).symm
  intro v' w' hv hw
  exact h.of_sameAt (hkept hv) (hkept hw)

theorem related_setDest (h : AgreeAt ["dest", "serverNames"] [] v w)
    (hrotate₁ : req₁.policy.rotateDest = true) (hrotate₂ : req₂.policy.rotateDest = true)
    (hdraw : env₁.destDraw = env₂.destDraw) :
    Related (AgreeAt ["dest", "serverNames"] []) (setDest env₁ ps req₁ v)
      (setDest env₂ ps req₂ w) := by
  rw [setDest_of_rotate hrotate₁, setDest_of_rotate hrotate₂, hdraw]
  cases randomChoice env₂.destDraw ps.realityDestHosts with
  | none => exact related_pinServerNames h
  | some dest =>
      exact (PyVal.related_setItem_last h fun _ => rfl).bind fun _ _ => related_pinServerNames

end Parts

/-! ## the changed inbounds of two builds -/

section Inbounds

variable (crypto : Crypto) (settings : PanelSettings) (env : BuildEnv) (ps : VpnProfileSettings)
  (req : BuildRequest) (port : Nat)

/-- What a Reality build does to its inbound. -/
def realityInbound (inbound : PyVal) : Except PyErr (PyVal × Unit) := do
  let inbound ← setListen inbound port ps.listenAddress
  let inbound ← inbound.modifyItem "streamSettings" fun stream =>
    stream.modifyItem "realitySettings" fun reality => do
      let reality ← reality.setItem "shortIds" (.list (chooseShortIds env req))
      let reality ← reality.setItem "privateKey" (.str (chooseRealityKeys crypto env req).1)
      setDest env ps req reality
  let inbound ← setClientId inbound (chooseClientId env req)
  .ok (inbound, ())

/-- What a gRPC build does to its inbound. -/
def grpcInbound (inbound : PyVal) : Except PyErr (PyVal × TlsMaterial) := do
  let inbound ← setListen inbound port ps.listenAddress
  let inbound ← setClientId inbound (chooseClientId env req)
  let stream ← inbound.item "streamSettings"
  let tlsSettings ← stream.item "tlsSettings"
  let tlsSettings ← tlsSettings.setItem "alpn" (.list [.str "h2"])
  let tlsSettings ← tlsSettings.popItem "fingerprint"
  let (tlsSettings, tlsName) ← setGrpcServerName settings env ps req tlsSettings
  let stream ← stream.setItem "tlsSettings" tlsSettings
  let stream ← stream.modifyItem "grpcSettings" (setGrpcServiceName env ps req)
  let tls ← resolveTls crypto env ps req.previous tlsName req.policy.rotateTls "grpc"
  let tlsSettings ← tlsSettings.setItem "certificates" (certificatesOf tls)
  let stream ← stream.setItem "tlsSettings" tlsSettings
  let inbound ← inbound.setItem "streamSettings" stream
  .ok (inbound, tls)

/-- What an xHTTP build does to its inbound. -/
def xhttpInbound (inbound : PyVal) : Except PyErr (PyVal × TlsMaterial) := do
  let inbound ← setListen inbound port ps.listenAddress
  let inbound ← setClientId inbound (chooseClientId env req)
  let stream ← inbound.item "streamSettings"
  let stream ← stream.setItem "security" (.str "tls")
  let tlsName := tlsServerName settings ps req.sharePublicHost
  let stream ← stream.modifyItem "xhttpSettings" (setXhttp env ps req tlsName)
  let tls ← resolveTls crypto env ps req.previous tlsName req.policy.rotateTls "xhttp"
  let stream ← stream.setItem "tlsSettings" (.dict [("serverName", .str tlsName),
    ("alpn", .list [.str "h2", .str "http/1.1"]), ("certificates", certificatesOf tls)])
  let inbound ← inbound.setItem "streamSettings" stream
  .ok (inbound, tls)

variable {crypto settings env ps req} {template : PyVal} {result : BuildResult}

theorem inbound_of_buildXrayReality (h : buildXrayReality crypto env ps req template = .ok result) :
    ∃ port, modifyInbound template ps.inboundTag (realityInbound crypto env ps req port) =
      .ok (result.configData, ()) ∧
      result.clientId = some (chooseClientId env req) ∧
      (result.privateKey, result.publicKey) = chooseRealityKeys crypto env req := by
  obtain ⟨port, -, h⟩ := Except.bind_eq_ok_iff.mp h
  obtain ⟨⟨config, ⟨⟩⟩, hmodify, h⟩ := Except.bind_eq_ok_iff.mp h
  rw [← Except.ok.inj h]
  exact ⟨port, hmodify, rfl, rfl⟩

theorem inbound_of_buildXrayGrpc
    (h : buildXrayGrpc crypto settings env ps req template = .ok result) :
    ∃ port tls, modifyInbound template ps.inboundTag
        (grpcInbound crypto settings env ps req port) = .ok (result.configData, tls) ∧
      result.clientId = some (chooseClientId env req) := by
  obtain ⟨port, -, h⟩ := Except.bind_eq_ok_iff.mp h
  obtain ⟨⟨config, tls⟩, hmodify, h⟩ := Except.bind_eq_ok_iff.mp h
  rw [← Except.ok.inj h]
  exact ⟨port, tls, hmodify, rfl⟩

theorem inbound_of_buildXrayXhttp
    (h : buildXrayXhttp crypto settings env ps req template = .ok result) :
    ∃ port tls, modifyInbound template ps.inboundTag
        (xhttpInbound crypto settings env ps req port) = .ok (result.configData, tls) ∧
      result.clientId = some (chooseClientId env req) := by
  obtain ⟨port, -, h⟩ := Except.bind_eq_ok_iff.mp h
  obtain ⟨⟨config, tls⟩, hmodify, h⟩ := Except.bind_eq_ok_iff.mp h
  rw [← Except.ok.inj h]
  exact ⟨port, tls, hmodify, rfl⟩

end Inbounds

section Lockstep

variable {crypto : Crypto} {settings : PanelSettings} {env₁ env₂ : BuildEnv}
  {ps : VpnProfileSettings} {req₁ req₂ : BuildRequest} {port₁ port₂ : Nat} {keys : List String}

/-- Keys of an inbound that no build assigns, but for the clients'. -/
structure Outside (keys : List String) : Prop where
  port : "port" ∉ keys
  listen : "listen" ∉ keys
  stream : "streamSettings" ∉ keys

theorem related_realityInbound (hkeys : Outside keys)
    (hid : "settings" ∈ keys → chooseClientId env₁ req₁ = chooseClientId env₂ req₂)
    (inbound : PyVal) :
    Related (fun p q => AgreeAt keys [] p.1 q.1) (realityInbound crypto env₁ ps req₁ port₁ inbound)
      (realityInbound crypto env₂ ps req₂ port₂ inbound) := by
  have hsame := AgreeAt.refl keys [] inbound
  refine (related_setListen hsame hkeys.port hkeys.listen _ _ _).bind fun a b hab => ?_
  refine (PyVal.related_modifyItem_away hab hkeys.stream).bind fun a b hab => ?_
  exact (related_setClientId hab hid).bind fun a b hab => Related.ok hab

theorem related_grpcInbound (hkeys : Outside keys)
    (hid : "settings" ∈ keys → chooseClientId env₁ req₁ = chooseClientId env₂ req₂)
    (inbound : PyVal) :
    Related (fun p q => AgreeAt keys [] p.1 q.1)
      (grpcInbound crypto settings env₁ ps req₁ port₁ inbound)
      (grpcInbound crypto settings env₂ ps req₂ port₂ inbound) := by
  have hsame := AgreeAt.refl keys [] inbound
  refine (related_setListen hsame hkeys.port hkeys.listen _ _ _).bind fun a b hab => ?_
  refine (related_setClientId hab hid).bind fun a b hab => ?_
  -- of the stream settings nothing is needed
  refine (Related.trivial _ _).bind fun _ _ _ => ?_
  refine (Related.trivial _ _).bind fun _ _ _ => ?_
  refine (Related.trivial _ _).bind fun _ _ _ => ?_
  refine (Related.trivial _ _).bind fun _ _ _ => ?_
  refine (Related.trivial _ _).bind fun _ _ _ => ?_
  refine (Related.trivial _ _).bind fun _ _ _ => ?_
  refine (Related.trivial _ _).bind fun _ _ _ => ?_
  refine (Related.trivial _ _).bind fun _ _ _ => ?_
  refine (Related.trivial _ _).bind fun _ _ _ => ?_
  refine (Related.trivial _ _).bind fun _ _ _ => ?_
  exact (PyVal.related_setItem_away hab hkeys.stream _ _).bind fun a b hab => Related.ok hab

theorem related_xhttpInbound (hkeys : Outside keys)
    (hid : "settings" ∈ keys → chooseClientId env₁ req₁ = chooseClientId env₂ req₂)
    (inbound : PyVal) :
    Related (fun p q => AgreeAt keys [] p.1 q.1)
      (xhttpInbound crypto settings env₁ ps req₁ port₁ inbound)
      (xhttpInbound crypto settings env₂ ps req₂ port₂ inbound) := by
  have hsame := AgreeAt.refl keys [] inbound
  refine (related_setListen hsame hkeys.port hkeys.listen _ _ _).bind fun a b hab => ?_
  refine (related_setClientId hab hid).bind fun a b hab => ?_
  refine (Related.trivial _ _).bind fun _ _ _ => ?_
  refine (Related.trivial _ _).bind fun _ _ _ => ?_
  refine (Related.trivial _ _).bind fun _ _ _ => ?_
  refine (Related.trivial _ _).bind fun _ _ _ => ?_
  refine (Related.trivial _ _).bind fun _ _ _ => ?_
  exact (PyVal.related_setItem_away hab hkeys.stream _ _).bind fun a b hab => Related.ok hab

/-- The Reality sections of two builds, at keys the builds choose alike. -/
theorem related_realitySection
    (hshort : "shortIds" ∈ keys → chooseShortIds env₁ req₁ = chooseShortIds env₂ req₂)
    (hkey : "privateKey" ∈ keys →
      chooseRealityKeys crypto env₁ req₁ = chooseRealityKeys crypto env₂ req₂)
    (hdest : ∀ v w, AgreeAt keys [] v w →
      Related (AgreeAt keys []) (setDest env₁ ps req₁ v) (setDest env₂ ps req₂ w))
    (inbound : PyVal) :
    Related (fun p q => AgreeAt keys ["streamSettings", "realitySettings"] p.1 q.1)
      (realityInbound crypto env₁ ps req₁ port₁ inbound)
      (realityInbound crypto env₂ ps req₂ port₂ inbound) := by
  have hsame := AgreeAt.refl keys ["streamSettings", "realitySettings"] inbound
  refine (related_setListen hsame (by simp [PyVal.firstKeys]) (by simp [PyVal.firstKeys])
    _ _ _).bind fun a b hab => ?_
  refine (PyVal.related_modifyItem_along hab fun a b hab =>
    PyVal.related_modifyItem_along hab fun a b hab => ?_).bind fun a b hab => ?_
  · refine (PyVal.related_setItem_last hab fun hk => by rw [hshort hk]).bind fun a b hab => ?_
    refine (PyVal.related_setItem_last hab fun hk => by rw [hkey hk]).bind fun a b hab => ?_
    exact hdest a b hab
  · exact (related_setClientId_away hab (by simp [PyVal.firstKeys]) _ _).bind
      fun a b hab => Related.ok hab

/-- A rotated service name is drawn. -/
theorem setGrpcServiceName_of_rotate {env : BuildEnv} {req : BuildRequest}
    (h : req.policy.rotateServiceName = true) (grpc : PyVal) :
    setGrpcServiceName env ps req grpc =
      match randomChoice env.serviceNameDraw ps.grpcServiceNames with
      | some name => grpc.setItem "serviceName" (.str name)
      | none => .ok grpc := by
  unfold setGrpcServiceName
  cases randomChoice env.serviceNameDraw ps.grpcServiceNames <;> simp [h]

theorem related_grpcSection (hrotate₁ : req₁.policy.rotateServiceName = true)
    (hrotate₂ : req₂.policy.rotateServiceName = true)
    (hdraw : env₁.serviceNameDraw = env₂.serviceNameDraw) (inbound : PyVal) :
    Related (fun p q => AgreeAt ["serviceName"] ["streamSettings", "grpcSettings"] p.1 q.1)
      (grpcInbound crypto settings env₁ ps req₁ port₁ inbound)
      (grpcInbound crypto settings env₂ ps req₂ port₂ inbound) := by
  have hsame := AgreeAt.refl ["serviceName"] ["streamSettings", "grpcSettings"] inbound
  refine (related_setListen hsame (by simp [PyVal.firstKeys]) (by simp [PyVal.firstKeys])
    _ _ _).bind fun a b hab => ?_
  refine (related_setClientId_away hab (by simp [PyVal.firstKeys]) _ _).bind fun a b hab => ?_
  refine hab.related_item.bind fun stream stream' hstream => ?_
  -- of the TLS settings nothing is needed
  refine (Related.trivial _ _).bind fun _ _ _ => ?_
  refine (Related.trivial _ _).bind fun _ _ _ => ?_
  refine (Related.trivial _ _).bind fun _ _ _ => ?_
  refine (Related.trivial _ _).bind fun _ _ _ => ?_
  refine (PyVal.related_setItem_away hstream (by simp [PyVal.firstKeys]) _ _).bind
    fun stream stream' hstream => ?_
  refine (PyVal.related_modifyItem_along hstream fun a b hab => ?_).bind
    fun stream stream' hstream => ?_
  · rw [setGrpcServiceName_of_rotate hrotate₁, setGrpcServiceName_of_rotate hrotate₂, hdraw]
    cases randomChoice env₂.serviceNameDraw ps.grpcServiceNames with
    | none => exact Related.ok hab
    | some name => exact PyVal.related_setItem_last hab fun _ => rfl
  refine (Related.trivial _ _).bind fun _ _ _ => ?_
  refine (Related.trivial _ _).bind fun _ _ _ => ?_
  refine (PyVal.related_setItem_away hstream (by simp [PyVal.firstKeys]) _ _).bind
    fun stream stream' hstream => ?_
  exact (PyVal.related_setItem_along hstream _ _).bind fun a b hab => Related.ok hab

/-- A rotated path is drawn. -/
theorem setXhttp_of_rotate {env : BuildEnv} {req : BuildRequest} {tlsName : String}
    (h : req.policy.rotatePath = true) (xhttp : PyVal) :
    setXhttp env ps req tlsName xhttp = (do
      let xhttp ← xhttp.setItem "host" (.str tlsName)
      let xhttp ← xhttp.setItem "mode" (.str "stream-up")
      match randomChoice env.pathDraw ps.xhttpPaths with
      | some path => xhttp.setItem "path" (.str path)
      | none => .ok xhttp) := by
  unfold setXhttp
  rw [h]
  cases req.previous.bind fun previous => nonEmpty previous.xhttpPath <;> rfl

theorem related_setXhttp {v w : PyVal} (h : AgreeAt ["path"] [] v w)
    (hrotate₁ : req₁.policy.rotatePath = true) (hrotate₂ : req₂.policy.rotatePath = true)
    (hdraw : env₁.pathDraw = env₂.pathDraw) (tlsName₁ tlsName₂ : String) :
    Related (AgreeAt ["path"] []) (setXhttp env₁ ps req₁ tlsName₁ v)
      (setXhttp env₂ ps req₂ tlsName₂ w) := by
  rw [setXhttp_of_rotate hrotate₁, setXhttp_of_rotate hrotate₂, hdraw]
  refine (PyVal.related_setItem_away h (by simp [PyVal.firstKeys]) _ _).bind fun a b hab => ?_
  refine (PyVal.related_setItem_away hab (by simp [PyVal.firstKeys]) _ _).bind fun a b hab => ?_
  cases randomChoice env₂.pathDraw ps.xhttpPaths with
  | none => exact Related.ok hab
  | some path => exact PyVal.related_setItem_last hab fun _ => rfl

theorem related_xhttpSection (hrotate₁ : req₁.policy.rotatePath = true)
    (hrotate₂ : req₂.policy.rotatePath = true) (hdraw : env₁.pathDraw = env₂.pathDraw)
    (inbound : PyVal) :
    Related (fun p q => AgreeAt ["path"] ["streamSettings", "xhttpSettings"] p.1 q.1)
      (xhttpInbound crypto settings env₁ ps req₁ port₁ inbound)
      (xhttpInbound crypto settings env₂ ps req₂ port₂ inbound) := by
  have hsame := AgreeAt.refl ["path"] ["streamSettings", "xhttpSettings"] inbound
  refine (related_setListen hsame (by simp [PyVal.firstKeys]) (by simp [PyVal.firstKeys])
    _ _ _).bind fun a b hab => ?_
  refine (related_setClientId_away hab (by simp [PyVal.firstKeys]) _ _).bind fun a b hab => ?_
  refine hab.related_item.bind fun stream stream' hstream => ?_
  refine (PyVal.related_setItem_away hstream (by simp [PyVal.firstKeys]) _ _).bind
    fun stream stream' hstream => ?_
  refine (PyVal.related_modifyItem_along hstream fun a b hab =>
    related_setXhttp hab hrotate₁ hrotate₂ hdraw _ _).bind fun stream stream' hstream => ?_
  refine (Related.trivial _ _).bind fun _ _ _ => ?_
  refine (PyVal.related_setItem_away hstream (by simp [PyVal.firstKeys]) _ _).bind
    fun stream stream' hstream => ?_
  exact (PyVal.related_setItem_along hstream _ _).bind fun a b hab => Related.ok hab

end Lockstep

/-! ## rotated secrets -/

/-- What two builds leave at a path of the tagged inbound, from their changes
side by side. -/
theorem inboundAt_of_related {α : Type} {tag k : String} {keys path : List String}
    {template config₁ config₂ : PyVal} {a₁ a₂ : α} {f g : PyVal → Except PyErr (PyVal × α)}
    (h₁ : modifyInbound template tag f = .ok (config₁, a₁))
    (h₂ : modifyInbound template tag g = .ok (config₂, a₂))
    (htag : ∀ inbound, Related (fun p q => AgreeAt ["tag"] [] p.1 q.1) (f inbound) (g inbound))
    (hpath : ∀ inbound, Related (fun p q => AgreeAt keys path p.1 q.1) (f inbound) (g inbound))
    (hk : k ∈ keys) : inboundAt tag (path ++ [k]) config₂ = inboundAt tag (path ++ [k]) config₁ :=
  related_modifyInbound template (fun inbound p q hp hq =>
    ⟨htag inbound p q hp hq "tag" List.mem_cons_self, (hpath inbound p q hp hq).itemAt hk⟩)
    _ _ h₁ h₂

theorem outside_tag : Outside ["tag"] := ⟨by decide, by decide, by decide⟩

theorem outside_settings : Outside ["settings"] := ⟨by decide, by decide, by decide⟩

section Rotated

variable {crypto : Crypto} {settings : PanelSettings} {env env₁ env₂ : BuildEnv}
  {ps : VpnProfileSettings} {req req₁ req₂ : BuildRequest} {template : PyVal}
  {result result₁ result₂ : BuildResult} {flag : PolicyFlag}

/-- A rotated certificate has the generated key. -/
theorem key_of_resolveTls {previous : Option PreviousSecrets} {dnsName filePrefix key : String}
    {tls : TlsMaterial} (h : resolveTls crypto env ps previous dnsName true filePrefix = .ok tls)
    (hkey : env.GeneratesKey key) :
    tls.privatePem = key ∧ tls.extraFiles = [("cert", tls.certPem), ("key", key)] := by
  obtain ⟨external, hexternal, h⟩ := Except.bind_eq_ok_iff.mp h
  cases hexternal
  obtain ⟨⟨privatePem, certPem, fingerprint⟩, hsigned, h⟩ := Except.bind_eq_ok_iff.mp h
  rw [← Except.ok.inj h]
  simp only [generateSelfSignedCert] at hsigned
  split at hsigned
  · contradiction
  · obtain ⟨⟨privatePem', certPem'⟩, hpair, hsigned⟩ := Except.bind_eq_ok_iff.mp hsigned
    obtain ⟨fingerprint', -, hsigned⟩ := Except.bind_eq_ok_iff.mp hsigned
    cases hsigned
    obtain rfl := hkey _ _ _ hpair
    exact ⟨rfl, rfl⟩

/-- The key of a result with a rotated certificate. -/
theorem key_of_material {previous : Option PreviousSecrets} {filePrefix key : String}
    {tls : TlsMaterial}
    (hresolved : ∃ dnsName, resolveTls crypto env ps previous dnsName true filePrefix = .ok tls)
    (hmaterial : ∃ port clientId, result = tls.result result.configData port clientId)
    (hkey : env.GeneratesKey key) :
    result.privateKey = key ∧ (result.extraFiles.filter fun file => file.1 = "key") =
      [("key", key)] := by
  obtain ⟨dnsName, htls⟩ := hresolved
  obtain ⟨port, clientId, hresult⟩ := hmaterial
  obtain ⟨hprivate, hfiles⟩ := key_of_resolveTls htls hkey
  rw [hresult]
  exact ⟨hprivate, by simp [TlsMaterial.result, hfiles]⟩

theorem component_tls {profile : ConfigProfile} {filePrefix : String} {tls₁ tls₂ : TlsMaterial}
    (hprofile : profile ≠ .xrayReality) (hrandom : SameRandomness env₁ env₂ .tls)
    (hrotate₁ : req₁.policy.rotateTls = true) (hrotate₂ : req₂.policy.rotateTls = true)
    (hresolved₁ : ∃ dnsName, resolveTls crypto env₁ ps req₁.previous dnsName req₁.policy.rotateTls
      filePrefix = .ok tls₁)
    (hmaterial₁ : ∃ port clientId, result₁ = tls₁.result result₁.configData port clientId)
    (hresolved₂ : ∃ dnsName, resolveTls crypto env₂ ps req₂.previous dnsName req₂.policy.rotateTls
      filePrefix = .ok tls₂)
    (hmaterial₂ : ∃ port clientId, result₂ = tls₂.result result₂.configData port clientId) :
    component ps.inboundTag result₂ profile .tls =
      component ps.inboundTag result₁ profile .tls := by
  obtain ⟨key, hkey₁, hkey₂⟩ := hrandom
  rw [hrotate₁] at hresolved₁
  rw [hrotate₂] at hresolved₂
  obtain ⟨hprivate₁, hfiles₁⟩ := key_of_material hresolved₁ hmaterial₁ hkey₁
  obtain ⟨hprivate₂, hfiles₂⟩ := key_of_material hresolved₂ hmaterial₂ hkey₂
  cases profile with
  | xrayReality => contradiction
  | xrayGrpc | xrayXhttp | hysteria2 =>
      simp only [component, hprivate₁, hfiles₁, hprivate₂, hfiles₂]

theorem component_xrayReality (hrandom : SameRandomness env₁ env₂ flag)
    (hrotate₁ : req₁.policy.get flag = true) (hrotate₂ : req₂.policy.get flag = true)
    (h₁ : buildXrayReality crypto env₁ ps req₁ template = .ok result₁)
    (h₂ : buildXrayReality crypto env₂ ps req₂ template = .ok result₂) :
    component ps.inboundTag result₂ .xrayReality flag =
      component ps.inboundTag result₁ .xrayReality flag := by
  obtain ⟨port₁, hmodify₁, hclient₁, hkeys₁⟩ := inbound_of_buildXrayReality h₁
  obtain ⟨port₂, hmodify₂, hclient₂, hkeys₂⟩ := inbound_of_buildXrayReality h₂
  have htag (inbound : PyVal) : Related (fun p q => AgreeAt ["tag"] [] p.1 q.1)
      (realityInbound crypto env₁ ps req₁ port₁ inbound)
      (realityInbound crypto env₂ ps req₂ port₂ inbound) :=
    related_realityInbound outside_tag (by simp) inbound
  cases flag with
  | clientId =>
      have hid : chooseClientId env₁ req₁ = chooseClientId env₂ req₂ := by
        rw [chooseClientId_of_rotate hrotate₁, chooseClientId_of_rotate hrotate₂,
          show env₁.uuid4 = env₂.uuid4 from hrandom]
      have hsettings := inboundAt_of_related hmodify₁ hmodify₂ htag
        (related_realityInbound outside_settings fun _ => hid) List.mem_cons_self
      simpa [component, hclient₁, hclient₂, hid] using hsettings
  | realityKeys =>
      have hkeys : chooseRealityKeys crypto env₁ req₁ = chooseRealityKeys crypto env₂ req₂ := by
        rw [chooseRealityKeys_of_rotate hrotate₁, chooseRealityKeys_of_rotate hrotate₂,
          show env₁.x25519PrivateKey = env₂.x25519PrivateKey from hrandom]
      have hstored := inboundAt_of_related hmodify₁ hmodify₂ htag
        (related_realitySection (by simp) (fun _ => hkeys) fun v w h =>
          related_setDest_away h (by simp) (by simp))
        (List.mem_cons_self : "privateKey" ∈ ["privateKey"])
      rw [← hkeys₁, ← hkeys₂, Prod.mk.injEq] at hkeys
      simpa [component, hkeys] using hstored
  | shortIds =>
      have hshort : chooseShortIds env₁ req₁ = chooseShortIds env₂ req₂ := by
        rw [chooseShortIds_of_rotate hrotate₁, chooseShortIds_of_rotate hrotate₂,
          show env₁.shortIds = env₂.shortIds from hrandom]
      have hstored := inboundAt_of_related hmodify₁ hmodify₂ htag
        (related_realitySection (fun _ => hshort) (by simp) fun v w h =>
          related_setDest_away h (by simp) (by simp))
        (List.mem_cons_self : "shortIds" ∈ ["shortIds"])
      simpa [component] using hstored
  | dest =>
      have hsection (inbound : PyVal) : Related (fun p q =>
            AgreeAt ["dest", "serverNames"] ["streamSettings", "realitySettings"] p.1 q.1)
          (realityInbound crypto env₁ ps req₁ port₁ inbound)
          (realityInbound crypto env₂ ps req₂ port₂ inbound) :=
        related_realitySection (by simp) (by simp)
          (fun v w h => related_setDest h hrotate₁ hrotate₂ hrandom) inbound
      have hdest := inboundAt_of_related hmodify₁ hmodify₂ htag hsection
        (List.mem_cons_self : "dest" ∈ ["dest", "serverNames"])
      have hnames := inboundAt_of_related hmodify₁ hmodify₂ htag hsection
        (by simp : "serverNames" ∈ ["dest", "serverNames"])
      simpa [component] using ⟨hdest, hnames⟩
  | port | path | serviceName | tls | auth | obfs => rfl

theorem component_xrayGrpc (hrandom : SameRandomness env₁ env₂ flag)
    (hrotate₁ : req₁.policy.get flag = true) (hrotate₂ : req₂.policy.get flag = true)
    (h₁ : buildXrayGrpc crypto settings env₁ ps req₁ template = .ok result₁)
    (h₂ : buildXrayGrpc crypto settings env₂ ps req₂ template = .ok result₂) :
    component ps.inboundTag result₂ .xrayGrpc flag =
      component ps.inboundTag result₁ .xrayGrpc flag := by
  obtain ⟨port₁, tls₁, hmodify₁, hclient₁⟩ := inbound_of_buildXrayGrpc h₁
  obtain ⟨port₂, tls₂, hmodify₂, hclient₂⟩ := inbound_of_buildXrayGrpc h₂
  have htag (inbound : PyVal) : Related (fun p q => AgreeAt ["tag"] [] p.1 q.1)
      (grpcInbound crypto settings env₁ ps req₁ port₁ inbound)
      (grpcInbound crypto settings env₂ ps req₂ port₂ inbound) :=
    related_grpcInbound outside_tag (by simp) inbound
  cases flag with
  | clientId =>
      have hid : chooseClientId env₁ req₁ = chooseClientId env₂ req₂ := by
        rw [chooseClientId_of_rotate hrotate₁, chooseClientId_of_rotate hrotate₂,
          show env₁.uuid4 = env₂.uuid4 from hrandom]
      have hsettings := inboundAt_of_related hmodify₁ hmodify₂ htag
        (related_grpcInbound outside_settings fun _ => hid) List.mem_cons_self
      simpa [component, hclient₁, hclient₂, hid] using hsettings
  | serviceName =>
      have hname := inboundAt_of_related hmodify₁ hmodify₂ htag
        (related_grpcSection hrotate₁ hrotate₂ hrandom) List.mem_cons_self
      simpa [component] using hname
  | tls =>
      obtain ⟨tls₁, hbuilt₁⟩ := buildXrayGrpc_spec h₁
      obtain ⟨tls₂, hbuilt₂⟩ := buildXrayGrpc_spec h₂
      exact component_tls (by simp) hrandom hrotate₁ hrotate₂ hbuilt₁.resolved hbuilt₁.material
        hbuilt₂.resolved hbuilt₂.material
  | port | realityKeys | shortIds | dest | path | auth | obfs => rfl

theorem component_xrayXhttp (hrandom : SameRandomness env₁ env₂ flag)
    (hrotate₁ : req₁.policy.get flag = true) (hrotate₂ : req₂.policy.get flag = true)
    (h₁ : buildXrayXhttp crypto settings env₁ ps req₁ template = .ok result₁)
    (h₂ : buildXrayXhttp crypto settings env₂ ps req₂ template = .ok result₂) :
    component ps.inboundTag result₂ .xrayXhttp flag =
      component ps.inboundTag result₁ .xrayXhttp flag := by
  obtain ⟨port₁, tls₁, hmodify₁, hclient₁⟩ := inbound_of_buildXrayXhttp h₁
  obtain ⟨port₂, tls₂, hmodify₂, hclient₂⟩ := inbound_of_buildXrayXhttp h₂
  have htag (inbound : PyVal) : Related (fun p q => AgreeAt ["tag"] [] p.1 q.1)
      (xhttpInbound crypto settings env₁ ps req₁ port₁ inbound)
      (xhttpInbound crypto settings env₂ ps req₂ port₂ inbound) :=
    related_xhttpInbound outside_tag (by simp) inbound
  cases flag with
  | clientId =>
      have hid : chooseClientId env₁ req₁ = chooseClientId env₂ req₂ := by
        rw [chooseClientId_of_rotate hrotate₁, chooseClientId_of_rotate hrotate₂,
          show env₁.uuid4 = env₂.uuid4 from hrandom]
      have hsettings := inboundAt_of_related hmodify₁ hmodify₂ htag
        (related_xhttpInbound outside_settings fun _ => hid) List.mem_cons_self
      simpa [component, hclient₁, hclient₂, hid] using hsettings
  | path =>
      have hpath := inboundAt_of_related hmodify₁ hmodify₂ htag
        (related_xhttpSection hrotate₁ hrotate₂ hrandom) List.mem_cons_self
      simpa [component] using hpath
  | tls =>
      obtain ⟨tls₁, hbuilt₁⟩ := buildXrayXhttp_spec h₁
      obtain ⟨tls₂, hbuilt₂⟩ := buildXrayXhttp_spec h₂
      exact component_tls (by simp) hrandom hrotate₁ hrotate₂ hbuilt₁.resolved hbuilt₁.material
        hbuilt₂.resolved hbuilt₂.material
  | port | realityKeys | shortIds | dest | serviceName | auth | obfs => rfl

theorem component_hysteria2 (hrandom : SameRandomness env₁ env₂ flag)
    (hrotate₁ : req₁.policy.get flag = true) (hrotate₂ : req₂.policy.get flag = true)
    (h₁ : buildHysteria2 crypto settings env₁ ps req₁ template = .ok result₁)
    (h₂ : buildHysteria2 crypto settings env₂ ps req₂ template = .ok result₂) :
    component ps.inboundTag result₂ .hysteria2 flag =
      component ps.inboundTag result₁ .hysteria2 flag := by
  obtain ⟨hauth₁, hobfs₁⟩ := buildHysteria2_spec h₁
  obtain ⟨hauth₂, hobfs₂⟩ := buildHysteria2_spec h₂
  cases flag with
  | auth =>
      rw [show req₁.policy.rotateAuth = true from hrotate₁, keptOr_of_rotate] at hauth₁
      rw [show req₂.policy.rotateAuth = true from hrotate₂, keptOr_of_rotate] at hauth₂
      simp only [component, hauth₁, hauth₂, show env₁.authPassword = env₂.authPassword from hrandom]
  | obfs =>
      rw [show req₁.policy.rotateObfs = true from hrotate₁, keptOr_of_rotate] at hobfs₁
      rw [show req₂.policy.rotateObfs = true from hrotate₂, keptOr_of_rotate] at hobfs₂
      simp only [component, hobfs₁, hobfs₂, show env₁.obfsPassword = env₂.obfsPassword from hrandom]
  | tls =>
      obtain ⟨tls₁, hbuilt₁⟩ := buildHysteria2_tls h₁
      obtain ⟨tls₂, hbuilt₂⟩ := buildHysteria2_tls h₂
      exact component_tls (by simp) hrandom hrotate₁ hrotate₂ hbuilt₁.resolved hbuilt₁.material
        hbuilt₂.resolved hbuilt₂.material
  | port | clientId | realityKeys | shortIds | dest | path | serviceName => rfl

/-- **Rotation independence.**  Two builds of a profile from one template, with
the same randomness for a secret whose flag both policies set, have the same
secret: the versions before, the preferred names, the ports, the public host
and the other flags do not matter, nor does any other randomness. -/
theorem rotationIndependence {profile : ConfigProfile}
    (hps : settings.profileSettings profile = .ok ps) (htemplate : env₁.template = env₂.template)
    (hrandom : SameRandomness env₁ env₂ flag) (hrotate₁ : req₁.policy.get flag = true)
    (hrotate₂ : req₂.policy.get flag = true)
    (h₁ : build crypto settings env₁ req₁ profile = .ok result₁)
    (h₂ : build crypto settings env₂ req₂ profile = .ok result₂) :
    component ps.inboundTag result₂ profile flag =
      component ps.inboundTag result₁ profile flag := by
  rw [build, hps, Except.ok_bind_eq] at h₁ h₂
  obtain ⟨template, hfound, h₁⟩ := Except.bind_eq_ok_iff.mp h₁
  rw [← htemplate, hfound, Except.ok_bind_eq] at h₂
  rw [← req₁.stripHost_policy] at hrotate₁
  rw [← req₂.stripHost_policy] at hrotate₂
  cases profile with
  | xrayReality => exact component_xrayReality hrandom hrotate₁ hrotate₂ h₁ h₂
  | xrayGrpc => exact component_xrayGrpc hrandom hrotate₁ hrotate₂ h₁ h₂
  | xrayXhttp => exact component_xrayXhttp hrandom hrotate₁ hrotate₂ h₁ h₂
  | hysteria2 => exact component_hysteria2 hrandom hrotate₁ hrotate₂ h₁ h₂

end Rotated

/-- What a Reality build takes over from a version whose key is known. -/
def leakedSecrets : PreviousSecrets :=
  { clientId := some (.str "old"), privateKey := some "leaked", publicKey := some "pub:leaked",
    shortIds := some [.str "ff"] }

/-- The policy rotates the key: a version before with another key leaves no
trace in it. -/
theorem realityKeys_of_leaked :
    ∃ first second,
      build Crypto.sample Ctx.allProfiles.settings (BuildEnv.sample (realityTemplate [])) {}
        .xrayReality = .ok first ∧
      build Crypto.sample Ctx.allProfiles.settings (BuildEnv.sample (realityTemplate []))
        { previous := some leakedSecrets } .xrayReality = .ok second ∧
      component "vless" second .xrayReality .realityKeys =
        component "vless" first .xrayReality .realityKeys := by
  have hps : Ctx.allProfiles.settings.profileSettings .xrayReality =
      .ok { sampleProfile with portCandidates := [443, 8443] } := rfl
  obtain ⟨first, hfirst⟩ : ∃ result, build Crypto.sample Ctx.allProfiles.settings
      (BuildEnv.sample (realityTemplate [])) {} .xrayReality = .ok result := ⟨_, rfl⟩
  obtain ⟨second, hsecond⟩ : ∃ result, build Crypto.sample Ctx.allProfiles.settings
      (BuildEnv.sample (realityTemplate [])) { previous := some leakedSecrets } .xrayReality =
        .ok result := ⟨_, rfl⟩
  exact ⟨first, second, hfirst, hsecond, rotationIndependence hps rfl rfl rfl rfl hfirst hsecond⟩

end VpnPanel
