import VpnPanel.ConfigBuilder
import VpnPanel.ConfigTask
import VpnPanel.ShareLinks

/-!
# VpnPanel.ConfigBuild

What `build_and_persist_version` of `config_build.py` calls the builder with:
the policy of the config, the secrets of the version before the target
(`previous_for_regenerate`), the ports in use and the public host.
-/

namespace VpnPanel

/-! ## the secrets of a version -/

/-- What the loop of `previous_for_regenerate` has found. -/
structure Extracted where
  clientId : Option PyVal := none
  shortIds : Option (List PyVal) := none
  realityDest : Option String := none
  realityServerNames : Option (List PyVal) := none
  xhttpPath : Option String := none
  grpcServiceName : Option String := none
  grpcSni : Option String := none
  deriving DecidableEq, Repr

/-- `list(v)` where `v` is true, what was found before otherwise. -/
def foundList (v : PyVal) (before : Option (List PyVal)) : Except PyErr (Option (List PyVal)) :=
  if v.truthy then v.iter.map some else .ok before

/-- `str(v)` where `v` is true, what was found before otherwise. -/
def foundStr (v : PyVal) (before : Option String) : Option String :=
  if v.truthy then some v.toStr else before

/-- The first client id that is true. -/
def foundClientId (inbound : PyVal) (before : Option PyVal) : Except PyErr (Option PyVal) := do
  let settings ← inbound.get "settings" (.dict [])
  let clients ← settings.get "clients" (.list [])
  if clients.truthy then do
    let client ← clients.first
    let id ← client.get "id"
    .ok (if id.truthy && before.isNone then some id else before)
  else .ok before

/-- One round of the loop. -/
def extractInbound (found : Extracted) (inbound : PyVal) : Except PyErr Extracted := do
  let clientId ← foundClientId inbound found.clientId
  let streamSettings ← inbound.get "streamSettings"
  let stream := streamSettings.orElse (.dict [])
  let realitySettings ← stream.get "realitySettings"
  let reality := realitySettings.orElse (.dict [])
  let shortIds ← reality.get "shortIds"
  let shortIds ← foundList shortIds found.shortIds
  let dest ← reality.get "dest"
  let serverNames ← reality.get "serverNames"
  let serverNames ← foundList serverNames found.realityServerNames
  let xhttpSettings ← stream.get "xhttpSettings"
  let path ← (xhttpSettings.orElse (.dict [])).get "path"
  let grpcSettings ← stream.get "grpcSettings"
  let serviceName ← (grpcSettings.orElse (.dict [])).get "serviceName"
  let tlsSettings ← stream.get "tlsSettings"
  let serverName ← (tlsSettings.orElse (.dict [])).get "serverName"
  .ok {
    clientId := clientId
    shortIds := shortIds
    realityDest := foundStr dest found.realityDest
    realityServerNames := serverNames
    xhttpPath := foundStr path found.xhttpPath
    grpcServiceName := foundStr serviceName found.grpcServiceName
    grpcSni := foundStr serverName found.grpcSni }

/-- The loop. -/
def extractInbounds : Extracted → List PyVal → Except PyErr Extracted
  | found, [] => .ok found
  | found, inbound :: rest => do
      let found ← extractInbound found inbound
      extractInbounds found rest

/-- `(config_data.get(key) or {})`. -/
def sectionOf (configData : PyVal) (key : String) : Except PyErr PyVal := do
  let value ← configData.get key
  .ok (value.orElse (.dict []))

/-- `previous_for_regenerate`. -/
def previousForRegenerate (profile : ConfigProfile) (configData : PyVal)
    (privateKeyPlain publicKey certFingerprint : String) : Except PyErr PreviousSecrets := do
  let inbounds ← configData.get "inbounds" (.list [])
  let items ← inbounds.iter
  let found ← extractInbounds {} items
  match profile with
  | .xrayReality => .ok {
      clientId := found.clientId
      privateKey := some privateKeyPlain
      publicKey := some publicKey
      shortIds := found.shortIds
      realityDest := found.realityDest
      realityServerNames := found.realityServerNames }
  | .xrayGrpc => .ok {
      clientId := found.clientId
      privateKey := nonEmpty (some privateKeyPlain)
      publicKey := nonEmpty (some publicKey)
      certFingerprint := nonEmpty (some certFingerprint)
      grpcServiceName := found.grpcServiceName
      grpcSni := found.grpcSni }
  | .xrayXhttp => .ok {
      clientId := found.clientId
      privateKey := nonEmpty (some privateKeyPlain)
      publicKey := nonEmpty (some publicKey)
      certFingerprint := nonEmpty (some certFingerprint)
      xhttpPath := found.xhttpPath }
  | .hysteria2 => do
      let auth ← sectionOf configData "auth"
      let password ← auth.get "password"
      let obfs ← sectionOf configData "obfs"
      let salamander ← sectionOf obfs "salamander"
      let obfsPassword ← salamander.get "password"
      .ok {
        password := foundStr password none
        obfsPassword := foundStr obfsPassword none
        privateKey := nonEmpty (some privateKeyPlain)
        publicKey := nonEmpty (some publicKey)
        certFingerprint := nonEmpty (some certFingerprint) }

/-! ## what the builder is called with -/

/-- The version a build takes over from, decrypted. -/
structure PreviousVersion where
  port : Int
  configPlain : PyVal
  secrets : PreviousSecrets

/-- The decrypted private key of a version, if it has one. -/
def VpnConfigVersionModel.privatePlain (ctx : Ctx) (row : VpnConfigVersionModel) :
    Except PyErr String :=
  if row.privateKey ≠ "" then ctx.encryptor.decrypt row.privateKey else .ok ""

/-- The version before the target. -/
def previousVersion (ctx : Ctx) (db : Db) (p : Payload) : Except PyErr (Option PreviousVersion) :=
  if p.targetVersion > 1 then
    match getVersionSnapshot db p.configId (p.targetVersion - 1),
      db.versions p.configId (p.targetVersion - 1) with
    | some snapshot, some row => do
        let privatePlain ← row.privatePlain ctx
        let configPlain ← decryptConfigDataFields ctx.encryptor (sensitiveFields snapshot.profile)
          snapshot.configData
        let secrets ← previousForRegenerate snapshot.profile configPlain privatePlain
          snapshot.publicKey snapshot.certFingerprint
        .ok (some ⟨snapshot.port, configPlain, secrets⟩)
    | _, _ => .ok none
  else .ok none

/-- The loop that looks for the preferred gRPC names: server name and service
name of the first inbound with the tag. -/
def preferredGrpc (tag : String) : List PyVal → Except PyErr (PyVal × PyVal)
  | [] => .ok (.none, .none)
  | inbound :: rest => do
      let t ← inbound.get "tag"
      if t.isStr tag then
        let stream ← inbound.get "streamSettings" (.dict [])
        let tls ← stream.get "tlsSettings" (.dict [])
        let serverName ← tls.get "serverName"
        let grpc ← stream.get "grpcSettings" (.dict [])
        let serviceName ← grpc.get "serviceName"
        .ok (serverName, serviceName)
      else preferredGrpc tag rest

/-- The preferred names of a build. -/
def preferredNames (profile : ConfigProfile) (tag : String) (previous : Option PreviousVersion) :
    Except PyErr (PyVal × PyVal) :=
  match profile, previous with
  | .xrayGrpc, some previous => do
      let inbounds ← previous.configPlain.get "inbounds" (.list [])
      let items ← inbounds.iter
      preferredGrpc tag items
  | _, _ => .ok (.none, .none)

/-- `build_and_persist_version` up to the stop of the running service;
`usedPorts` is what `list_used_ports` returns. -/
def buildRequest (ctx : Ctx) (db : Db) (usedPorts : List Int) (p : Payload) :
    Except PyErr BuildRequest := do
  let ps ← ctx.settings.profileSettings p.profile
  match db.getModel p.configId with
  | none => .error (configNotFound p.configId)
  | some config => do
      let policy := RegeneratePolicy.fromStored config.regeneratePolicy p.profile (some ps)
      let previous ← previousVersion ctx db p
      let (sni, serviceName) ← preferredNames p.profile ps.inboundTag previous
      let previousPort := previous.map PreviousVersion.port
      .ok {
        previous := previous.map PreviousVersion.secrets
        excludePorts := if policy.rotatePort then previousPort.toList ++ usedPorts else usedPorts
        preferredPort := if policy.rotatePort then none else previousPort
        preferredGrpcSni := sni
        preferredGrpcServiceName := serviceName
        policy := policy
        sharePublicHost := nonEmpty config.sharePublicHost }

/-- The version before is a stored one, decrypted. -/
theorem previousVersion_spec {ctx : Ctx} {db : Db} {p : Payload} {previous : PreviousVersion}
    (h : previousVersion ctx db p = .ok (some previous)) :
    ∃ config row privatePlain, db.configs p.configId = some config ∧
      db.versions p.configId (p.targetVersion - 1) = some row ∧
      row.privatePlain ctx = .ok privatePlain ∧ previous.port = row.port ∧
      decryptConfigDataFields ctx.encryptor (sensitiveFields config.profile) row.configData =
        .ok previous.configPlain ∧
      previousForRegenerate config.profile previous.configPlain privatePlain row.publicKey
        row.certFingerprint = .ok previous.secrets := by
  unfold previousVersion at h
  split at h
  · split at h
    · next snapshot row hsnapshot hrow =>
      obtain ⟨privatePlain, hplain, h⟩ := Except.bind_eq_ok_iff.mp h
      obtain ⟨configPlain, hconfigPlain, h⟩ := Except.bind_eq_ok_iff.mp h
      obtain ⟨secrets, hsecrets, h⟩ := Except.bind_eq_ok_iff.mp h
      rw [← Option.some.inj (Except.ok.inj h)]
      cases hconfig : db.getModel p.configId with
      | none => simp [getVersionSnapshot, hconfig] at hsnapshot
      | some config =>
          rw [getVersionSnapshot, hconfig, hrow] at hsnapshot
          obtain rfl := Option.some.inj hsnapshot
          exact ⟨config, row, privatePlain, hconfig, hrow, hplain, rfl, hconfigPlain, hsecrets⟩
    · simp at h
  · simp at h

/-- The version before is where the builder's secrets come from. -/
theorem previous_of_buildRequest {ctx : Ctx} {db : Db} {usedPorts : List Int} {p : Payload}
    {req : BuildRequest} {secrets : PreviousSecrets}
    (h : buildRequest ctx db usedPorts p = .ok req) (hsecrets : req.previous = some secrets) :
    ∃ previous, previousVersion ctx db p = .ok (some previous) ∧ previous.secrets = secrets := by
  obtain ⟨ps, -, h⟩ := Except.bind_eq_ok_iff.mp h
  split at h
  · contradiction
  · obtain ⟨previous, hprevious, h⟩ := Except.bind_eq_ok_iff.mp h
    obtain ⟨⟨sni, serviceName⟩, -, h⟩ := Except.bind_eq_ok_iff.mp h
    rw [← Except.ok.inj h] at hsecrets
    obtain ⟨version, rfl, hversion⟩ := Option.map_eq_some_iff.mp hsecrets
    exact ⟨version, hprevious, hversion⟩

/-- The ports of the versions of the other configs: `list_used_ports`. -/
def ListsUsedPorts (db : Db) (c : ConfigId) (usedPorts : List Int) : Prop :=
  ∀ port, port ∈ usedPorts ↔ ∃ c', c' ≠ c ∧ ∃ v row, db.versions c' v = some row ∧ row.port = port

/-- What an execution builds is what the builder makes of the tables.  From
`mark_processing` to the commit the row of the config is locked, so what the
session has read of the config can be read at the build; the ports in use may
be those of an earlier moment. -/
def BuildsFrom (ctx : Ctx) (crypto : Crypto) (db : Db) (p : Payload) (env : TaskEnv) : Prop :=
  ∃ benv usedPorts req, buildRequest ctx db usedPorts p = .ok req ∧
    env.built = build crypto ctx.settings benv req p.profile

end VpnPanel
