import VpnPanel.RealityNames

/-!
# VpnPanel.AcceptedLinks

A share link opens the service it is for.

`LinkAccepted` is what the server reads of a client, profile by profile: the
user or the password, the Reality key, short id and server name, the path, the
service name, the obfuscation.  The links are made from the stored row, and the
service runs on the live file; `service_accepts_links` puts together that the
file is the document of the row (`VpnPanel.LiveDocuments`), that the key columns
belong to the document (`VpnPanel.KeyRecords`) and that the server name is one
the document lists (`VpnPanel.RealityNames`).
-/

namespace VpnPanel

/-! ## what a server accepts -/

/-- The link's user is one of the inbound's clients. -/
def UserAccepted (inbound : PyVal) (uri : ShareUri) : Prop :=
  ∃ clients client id, PyVal.itemAt ["settings", "clients"] inbound = .ok (.list clients) ∧
    client ∈ clients ∧ client.item "id" = .ok id ∧ uri.user = id.toStr

/-- The link's key, short id and server name are those of the section. -/
structure RealityAccepts (crypto : Crypto) (reality : PyVal) (uri : ShareUri) : Prop where
  publicKey : ∃ key, reality.item "privateKey" = .ok (.str key) ∧
    uri.param? "pbk" = some (crypto.publicKey key)
  shortId : ∃ ids id, reality.item "shortIds" = .ok (.list ids) ∧ id ∈ ids ∧
    uri.param? "sid" = some id.toStr
  serverName : ∃ names sni, reality.item "serverNames" = .ok (.list names) ∧ .str sni ∈ names ∧
    uri.sni? = some sni

/-- The inbound of an xray profile takes what the link says of its transport. -/
def TransportAccepts (crypto : Crypto) (inbound : PyVal) (uri : ShareUri) : ConfigProfile → Prop
  | .xrayReality => ∃ reality,
      PyVal.itemAt ["streamSettings", "realitySettings"] inbound = .ok reality ∧
      RealityAccepts crypto reality uri
  | .xrayXhttp => ∃ xhttp path,
      PyVal.itemAt ["streamSettings", "xhttpSettings"] inbound = .ok xhttp ∧
      xhttp.get "path" (.str "/") = .ok path ∧ uri.param? "path" = some path.toStr
  | _ => ∃ grpc serviceName,
      PyVal.itemAt ["streamSettings", "grpcSettings"] inbound = .ok grpc ∧
      grpc.get "serviceName" (.str "") = .ok serviceName ∧
      uri.param? "serviceName" = some serviceName.toStr

/-- The password that obfuscates a Hysteria2 server's packets. -/
def obfsPassword (doc : PyVal) : Except PyErr (Option PyVal) := do
  let obfsSection ← doc.get "obfs"
  let obfs := obfsSection.orElse (.dict [])
  let kind ← obfs.get "type" (.str "")
  if PyStr.asciiLower (PyStr.strip kind.toStr) = "salamander" then
    let salamander ← obfs.get "salamander"
    let password ← (salamander.orElse (.dict [])).get "password"
    .ok (if password.truthy then some password else none)
  else .ok none

/-- A Hysteria2 server takes the link's password and obfuscation. -/
structure HysteriaAccepts (doc : PyVal) (uri : ShareUri) : Prop where
  password : PyVal.itemAt ["auth", "password"] doc = .ok (.str uri.user)
  obfuscation : ∃ password, obfsPassword doc = .ok password ∧
    uri.param? "obfs-password" = password.map PyVal.toStr

/-- The server that runs on a document accepts a link, and listens on its port
where no other is published. -/
structure LinkAccepted (crypto : Crypto) (profile : ConfigProfile) (ps : VpnProfileSettings)
    (doc : PyVal) (uri : ShareUri) : Prop where
  port : ps.sharePublicPort = none → listeningPort profile doc ps = .ok uri.port
  xray : profile ≠ .hysteria2 → ∃ inbound, findInbound doc ps.inboundTag = .ok inbound ∧
    UserAccepted inbound uri ∧ TransportAccepts crypto inbound uri profile
  hysteria : profile = .hysteria2 → HysteriaAccepts doc uri

/-! ## the links of a document -/

section Links

variable {crypto : Crypto} {rnd : Nat} {inbound client clientId doc : PyVal}
  {host publicKey certFingerprint label : String} {port : Int} {secure : Bool}
  {publicPort : Option Nat} {uri : ShareUri}

/-- What `[0]` of a list of clients with an id is. -/
theorem userAccepted_of_firstClient (hclient : firstClient inbound = .ok client)
    (hid : client.item "id" = .ok clientId) (huser : uri.user = clientId.toStr) :
    UserAccepted inbound uri := by
  obtain ⟨settings, hsettings, hclient⟩ := Except.bind_eq_ok_iff.mp hclient
  obtain ⟨clients, hclients, hclient⟩ := Except.bind_eq_ok_iff.mp hclient
  obtain ⟨kvs, rfl, -⟩ := PyVal.item_eq_ok_iff.mp hid
  obtain ⟨rest, rfl⟩ : ∃ rest, clients = .list (.dict kvs :: rest) := by
    cases clients with
    | list xs =>
        cases xs with
        | nil => cases hclient
        | cons x rest => exact ⟨rest, by rw [← Except.ok.inj hclient]⟩
    | str s =>
        simp only [PyVal.first] at hclient
        split at hclient <;> cases hclient
    | none | bool _ | int _ | float _ | dict _ => cases hclient
  refine ⟨.dict kvs :: rest, .dict kvs, clientId, ?_, List.mem_cons_self, hid, huser⟩
  rw [PyVal.itemAt_cons hsettings, PyVal.itemAt_cons hclients]
  rfl

/-- A Reality link of a section that accepts its links, with the public half of
its key. -/
theorem realityAccepts_of_uri {reality : PyVal} {key : String}
    (hsection : PyVal.itemAt ["streamSettings", "realitySettings"] inbound = .ok reality)
    (haccepts : SectionAccepts reality) (hkey : reality.item "privateKey" = .ok (.str key))
    (h : buildRealityUri rnd inbound clientId host port (crypto.publicKey key) label = .ok uri) :
    RealityAccepts crypto reality uri := by
  obtain ⟨dest, names, hdest, hne, hnames, hmem⟩ := haccepts.listed
  obtain ⟨ids, hids⟩ := haccepts.shortIds
  obtain ⟨stream, hstream, h⟩ := Except.bind_eq_ok_iff.mp h
  obtain ⟨reality', hreality, h⟩ := Except.bind_eq_ok_iff.mp h
  rw [PyVal.itemAt_cons hstream, PyVal.itemAt_cons hreality] at hsection
  obtain rfl : reality' = reality := Except.ok.inj hsection
  obtain ⟨shortIds, hshortIds, h⟩ := Except.bind_eq_ok_iff.mp h
  obtain ⟨shortId, hfirst, h⟩ := Except.bind_eq_ok_iff.mp h
  obtain ⟨client, -, h⟩ := Except.bind_eq_ok_iff.mp h
  obtain ⟨flow, -, h⟩ := Except.bind_eq_ok_iff.mp h
  obtain ⟨sni, hsni, huri⟩ := Except.bind_eq_ok_iff.mp h
  obtain rfl : PyVal.list ids = shortIds := Except.ok.inj (hids.symm.trans hshortIds)
  have hsniDest : sni = dest := by
    obtain ⟨value, hvalue, hname⟩ := Except.bind_eq_ok_iff.mp hdest
    obtain ⟨value', hvalue', hshare⟩ := Except.bind_eq_ok_iff.mp hsni
    obtain rfl : value = value' := Except.ok.inj (hvalue.symm.trans hvalue')
    simp only [Except.ok.inj hname] at hshare
    rw [if_pos hne] at hshare
    exact (Except.ok.inj hshare).symm
  subst hsniDest
  have hmemId : shortId ∈ ids := by
    cases ids with
    | nil => cases hfirst
    | cons id rest =>
        rw [← Except.ok.inj hfirst]
        exact List.mem_cons_self
  rw [← Except.ok.inj huri]
  refine ⟨⟨key, hkey, ?_⟩, ⟨ids, shortId, hids, hmemId, ?_⟩, ⟨names, sni, hnames, hmem, ?_⟩⟩
  all_goals simp [ShareUri.sni?, ShareUri.param?, plain, escaped, hne]

theorem transport_xhttp
    (h : buildXhttpUri inbound clientId host port certFingerprint label secure = .ok uri) :
    TransportAccepts crypto inbound uri .xrayXhttp := by
  obtain ⟨stream, hstream, h⟩ := Except.bind_eq_ok_iff.mp h
  obtain ⟨xhttp, hxhttp, h⟩ := Except.bind_eq_ok_iff.mp h
  obtain ⟨tlsSettings, -, h⟩ := Except.bind_eq_ok_iff.mp h
  obtain ⟨xhost, -, h⟩ := Except.bind_eq_ok_iff.mp h
  obtain ⟨path, hpath, h⟩ := Except.bind_eq_ok_iff.mp h
  obtain ⟨mode, -, h⟩ := Except.bind_eq_ok_iff.mp h
  obtain ⟨serverName, -, h⟩ := Except.bind_eq_ok_iff.mp h
  refine ⟨xhttp, path, ?_, hpath, ?_⟩
  · rw [PyVal.itemAt_cons hstream, PyVal.itemAt_cons hxhttp]
    rfl
  · rw [← Except.ok.inj h]
    simp [ShareUri.param?, plain, escaped]

theorem transport_grpc
    (h : buildGrpcUri inbound clientId host port certFingerprint label secure = .ok uri) :
    TransportAccepts crypto inbound uri .xrayGrpc := by
  obtain ⟨stream, hstream, h⟩ := Except.bind_eq_ok_iff.mp h
  obtain ⟨tls, -, h⟩ := Except.bind_eq_ok_iff.mp h
  obtain ⟨grpc, hgrpc, h⟩ := Except.bind_eq_ok_iff.mp h
  obtain ⟨serverName, -, h⟩ := Except.bind_eq_ok_iff.mp h
  obtain ⟨serviceName, hservice, h⟩ := Except.bind_eq_ok_iff.mp h
  refine ⟨grpc, serviceName, ?_, hservice, ?_⟩
  · rw [PyVal.itemAt_cons hstream, PyVal.itemAt_cons hgrpc]
    rfl
  · rw [← Except.ok.inj h]
    simp [ShareUri.param?, plain, escaped]

/-- The obfuscation a link names is the server's. -/
theorem obfsPassword_of_params {params : List UriParam} (h : obfsParams doc = .ok params) :
    ∃ password, obfsPassword doc = .ok password ∧
      (params.find? fun p => p.name = "obfs-password").map UriParam.value =
        password.map PyVal.toStr := by
  obtain ⟨obfsSection, hobfs, h⟩ := Except.bind_eq_ok_iff.mp h
  obtain ⟨kind, hkind, h⟩ := Except.bind_eq_ok_iff.mp h
  simp only [obfsPassword, hobfs, hkind, Except.ok_bind_eq]
  split at h
  · next hsalamander =>
    obtain ⟨salamander, hsection, h⟩ := Except.bind_eq_ok_iff.mp h
    obtain ⟨password, hpassword, h⟩ := Except.bind_eq_ok_iff.mp h
    rw [if_pos hsalamander, hsection, Except.ok_bind_eq, hpassword, Except.ok_bind_eq]
    refine ⟨_, rfl, ?_⟩
    split at h
    · next htruthy =>
      rw [← Except.ok.inj h, if_pos htruthy]
      simp [plain, escaped]
    · next hfalsy =>
      rw [← Except.ok.inj h, if_neg hfalsy]
      rfl
  · next hno =>
    rw [if_neg hno]
    exact ⟨none, rfl, by rw [← Except.ok.inj h]; rfl⟩

/-- A Hysteria2 link and its port. -/
theorem hysteriaAccepts_of_uri
    (h : buildHysteria2Uri doc host certFingerprint label secure publicPort = .ok uri) :
    HysteriaAccepts doc uri ∧ hysteriaSharePort publicPort doc = .ok uri.port := by
  rw [buildHysteria2Uri_chain] at h
  obtain ⟨port, hport, h⟩ := Except.bind_eq_ok_iff.mp h
  obtain ⟨auth, hauth, h⟩ := Except.bind_eq_ok_iff.mp h
  obtain ⟨password, hpassword, h⟩ := Except.bind_eq_ok_iff.mp h
  obtain ⟨sni, -, h⟩ := Except.bind_eq_ok_iff.mp h
  obtain ⟨obfs, hobfs, h⟩ := Except.bind_eq_ok_iff.mp h
  obtain ⟨obfsPass, hserver, hparam⟩ := obfsPassword_of_params hobfs
  have htail : (hysteriaTail secure certFingerprint).find?
      (fun p => p.name = "obfs-password") = none := by
    by_cases hpin : pinHex certFingerprint = "" <;> cases secure <;>
      simp [hysteriaTail, plain, hpin]
  split at h
  · next pass =>
    rw [← Except.ok.inj h]
    refine ⟨⟨?_, obfsPass, hserver, ?_⟩, hport⟩
    · rw [PyVal.itemAt_cons hauth, PyVal.itemAt_cons hpassword]
      rfl
    · rw [← hparam]
      simp [ShareUri.param?, List.find?_append, htail, escaped]
  · contradiction

/-- The port and the user of an xray link. -/
theorem buildXrayUri_fields {profile : ConfigProfile}
    (h : buildXrayUri rnd profile inbound clientId host port publicKey certFingerprint secure =
      .ok uri) : uri.port = port ∧ uri.user = clientId.toStr := by
  cases profile with
  | xrayReality =>
      simp only [buildXrayUri, buildRealityUri, Except.bind_eq_ok_iff] at h
      grind
  | xrayXhttp =>
      simp only [buildXrayUri, buildXhttpUri, Except.bind_eq_ok_iff] at h
      grind
  | xrayGrpc | hysteria2 =>
      simp only [buildXrayUri, buildGrpcUri, Except.bind_eq_ok_iff] at h
      grind

end Links

/-! ## the links of a version -/

/-- The URIs of a snapshot, before they become text. -/
def snapshotUris (ctx : Ctx) (rnd : ConfigId → Nat) (secure : Bool)
    (snapshot : ConfigVersionSnapshot) : Except PyErr (List ShareUri) := do
  let configPlain ← snapshot.configPlain ctx
  buildClientUris (rnd snapshot.configId) ctx.settings snapshot.profile configPlain
    snapshot.publicKey snapshot.certFingerprint secure snapshot.sharePublicHost

theorem uris_of_urisForSnapshot {ctx : Ctx} {rnd : ConfigId → Nat} {secure : Bool}
    {snapshot : ConfigVersionSnapshot} {links : List String}
    (h : urisForSnapshot ctx rnd secure snapshot = .ok links) :
    ∃ uris, snapshotUris ctx rnd secure snapshot = .ok uris ∧
      links = uris.map ShareUri.render := by
  obtain ⟨configPlain, hplain, h⟩ := Except.bind_eq_ok_iff.mp h
  obtain ⟨uris, huris, h⟩ := Except.bind_eq_ok_iff.mp h
  refine ⟨uris, ?_, (Except.ok.inj h).symm⟩
  rw [snapshotUris, ConfigVersionSnapshot.configPlain, hplain]
  exact huris

section Versions

variable {ctx : Ctx} {crypto : Crypto} {rnd : Nat} {doc : PyVal} {ps : VpnProfileSettings}
  {profile : ConfigProfile} {publicKey certFingerprint : String} {secure : Bool}
  {sharePublicHost : Option String} {uris : List ShareUri}

/-- A Reality document whose links are accepted, and the public key that
belongs to it. -/
structure KeyedNames (crypto : Crypto) (tag : String) (doc : PyVal) (publicKey : String) :
    Prop where
  names : NamesAccepted tag doc
  key : ∃ key, realityPrivateKey tag doc = .ok (.str key) ∧ publicKey = crypto.publicKey key

theorem transport_reality {inbound clientId : PyVal} {host label tag : String} {port : Int}
    {uri : ShareUri} (hinbound : findInbound doc tag = .ok inbound)
    (hkeyed : KeyedNames crypto tag doc publicKey)
    (h : buildRealityUri rnd inbound clientId host port publicKey label = .ok uri) :
    TransportAccepts crypto inbound uri .xrayReality := by
  obtain ⟨reality, hsection, haccepts⟩ := hkeyed.names.accepts
  obtain ⟨key, hkey, rfl⟩ := hkeyed.key
  rw [taggedReality, hinbound, Except.ok_bind_eq] at hsection
  rw [realityPrivateKey, hinbound, Except.ok_bind_eq] at hkey
  have hprivate : reality.item "privateKey" = .ok (.str key) := by
    obtain ⟨stream, hstream, hitem⟩ := Except.bind_eq_ok_iff.mp hsection
    obtain ⟨reality', hreality, hitem⟩ := Except.bind_eq_ok_iff.mp hitem
    obtain rfl : reality' = reality := Except.ok.inj hitem
    rw [PyVal.itemAt_cons hstream, PyVal.itemAt_cons hreality] at hkey
    obtain ⟨value, hvalue, hlast⟩ := Except.bind_eq_ok_iff.mp hkey
    rw [hvalue, Except.ok.inj hlast]
  exact ⟨reality, hsection, realityAccepts_of_uri hsection haccepts hprivate h⟩

/-- The links of a document are accepted where it is served: for Reality, where
its section lists the host and the public key belongs to it. -/
theorem linkAccepted_of_document (hps : ctx.settings.profileSettings profile = .ok ps)
    (hreality : profile = .xrayReality → KeyedNames crypto ps.inboundTag doc publicKey)
    (h : buildClientUris rnd ctx.settings profile doc publicKey certFingerprint secure
      sharePublicHost = .ok uris) : ∀ uri ∈ uris, LinkAccepted crypto profile ps doc uri := by
  rw [buildClientUris, hps, Except.ok_bind_eq] at h
  intro uri hmem
  by_cases hhysteria : profile = .hysteria2
  · subst hhysteria
    obtain ⟨uri', huri, h⟩ := Except.bind_eq_ok_iff.mp h
    obtain rfl : uri = uri' := List.mem_singleton.mp (Except.ok.inj h ▸ hmem)
    obtain ⟨haccepts, hport⟩ := hysteriaAccepts_of_uri huri
    refine ⟨fun hnone => ?_, fun hne => absurd rfl hne, fun _ => haccepts⟩
    rw [hnone] at hport
    exact hport
  · rw [buildShareUris_xray hhysteria] at h
    obtain ⟨inbound, hinbound, h⟩ := Except.bind_eq_ok_iff.mp h
    obtain ⟨port, hport, h⟩ := Except.bind_eq_ok_iff.mp h
    obtain ⟨client, hclient, h⟩ := Except.bind_eq_ok_iff.mp h
    obtain ⟨clientId, hid, h⟩ := Except.bind_eq_ok_iff.mp h
    obtain ⟨uri', huri, h⟩ := Except.bind_eq_ok_iff.mp h
    obtain rfl : uri = uri' := List.mem_singleton.mp (Except.ok.inj h ▸ hmem)
    obtain ⟨huriPort, huser⟩ := buildXrayUri_fields huri
    refine ⟨fun hnone => ?_, fun _ => ⟨inbound, hinbound,
      userAccepted_of_firstClient hclient hid huser, ?_⟩, fun heq => absurd heq hhysteria⟩
    · rw [hnone] at hport
      rw [huriPort]
      cases profile with
      | hysteria2 => exact absurd rfl hhysteria
      | xrayReality | xrayXhttp | xrayGrpc =>
          rw [listeningPort, hinbound, Except.ok_bind_eq]
          exact hport
          all_goals exact hhysteria
    · cases profile with
      | hysteria2 => exact absurd rfl hhysteria
      | xrayReality => exact transport_reality hinbound (hreality rfl) huri
      | xrayXhttp => exact transport_xhttp huri
      | xrayGrpc => exact transport_grpc huri

end Versions

/-- Orderly runs keep `Coherent`. -/
theorem coherent_of_orderly {ctx : Ctx} {host : Host} {as : List Action}
    (hper : ctx.settings.systemd.perConfig = true)
    (h : Machine.Meets (step ctx) (Orderly ctx) (World.init host) as) :
    Sound (runFrom ctx host as) ∧ Coherent ctx (runFrom ctx host as) :=
  Machine.run_invariant_of_meets (I := fun w => Sound w ∧ Coherent ctx w)
    (fun w a hI hC => step_induction (I := fun w => Sound w ∧ Coherent ctx w)
      (fun _ _ _ hstep hI hC => ⟨sound_of_step hstep hI.1,
        coherent_of_step hper hI.1 hstep hC hI.2⟩) w a hI hC)
    ⟨sound_init host, coherent_init ctx host⟩ h

/-- An unlocked config is one that no edit has begun to write. -/
theorem Sound.unwritten {w : World} (h : Sound w) {r : RequestId} {stage : EditStage}
    (hr : w.requests r = some (.editing stage)) (hfree : w.locks stage.configId = none) :
    stage.written = none := by
  by_contra hwritten
  obtain ⟨⟨plan, loaded⟩, hwritten⟩ := Option.ne_none_iff_exists'.mp hwritten
  have hlock := h.locked.edit r stage hr (EditStage.holdsLock_of_written hwritten).1
  rw [hfree] at hlock
  cases hlock

/-- **A link opens its service.**  In every orderly run (`VpnPanel.LiveDocuments`)
whose Reality builds name their destinations, and whose edits keep the key and
the listed name of a Reality document, the links of the current version of an
active config that no session is writing are accepted by the service that runs
on its live file. -/
theorem service_accepts_links (ctx : Ctx) (crypto : Crypto) (host : Host) (as : List Action)
    (horderly : Machine.Meets (step ctx) (Orderly ctx) (World.init host) as)
    (hbuilds : Machine.Meets (step ctx) (BuildsNamed ctx crypto) (World.init host) as)
    (hkeys : Machine.Meets (step ctx) (AtEditCommit (KeepsKey ctx)) (World.init host) as)
    (hnames : Machine.Meets (step ctx) (AtEditCommit (EditsNamed ctx)) (World.init host) as)
    (hper : ctx.settings.systemd.perConfig = true) (c : ConfigId) (row : VpnConfigModel) (v : Nat)
    (hrow : (runFrom ctx host as).db.configs c = some row) (hactive : row.status = .active)
    (hfree : (runFrom ctx host as).locks c = none) (hcurrent : row.currentVersion = some v)
    (snapshot : ConfigVersionSnapshot) (rnd : ConfigId → Nat) (secure : Bool)
    (links : List String)
    (hsnapshot : getVersionSnapshot (runFrom ctx host as).db c v = some snapshot)
    (hlinks : urisForSnapshot ctx rnd secure snapshot = .ok links) :
    ∃ ps doc, ∃ uris : List ShareUri, ctx.settings.profileSettings row.profile = .ok ps ∧
      LiveFile ctx row.profile c doc (runFrom ctx host as).host ∧
      links = uris.map ShareUri.render ∧
      ∀ uri ∈ uris, LinkAccepted crypto row.profile ps doc uri := by
  obtain ⟨hsound, hcoherent⟩ := coherent_of_orderly hper horderly
  obtain ⟨v', vrow, doc, hv', hvrow, hdoc, hfile⟩ :=
    hcoherent.settled c row hrow hactive fun r stage hr hc => hsound.unwritten hr (hc ▸ hfree)
  obtain rfl : v = v' := Option.some.inj (hcurrent.symm.trans hv')
  have hhonest : Machine.Meets (step ctx) (BuildsHonestly ctx crypto) (World.init host) as :=
    hbuilds.mono fun _ _ h => h.honest
  have hkey := (stored_iff (fun _ _ _ _ _ => keyResult_of_build)
    (fun _ _ _ _ _ => keyRecord_of_insertVersion) (fun _ _ _ _ => keyRecord_edit_iff)
    hhonest).mpr hkeys as (List.prefix_refl as) c row v vrow hrow hvrow
  have hname := (stored_iff (fun _ _ _ _ _ => namesResult_of_build)
    (fun _ _ _ _ _ => namesRecord_of_insertVersion) (fun _ _ _ _ _ => Iff.rfl) hbuilds).mpr
    hnames as (List.prefix_refl as) c row v vrow hrow hvrow
  obtain ⟨hprofile, hplain, hpublic⟩ : snapshot.profile = row.profile ∧
      snapshot.configPlain ctx = .ok doc ∧ snapshot.publicKey = vrow.publicKey := by
    have hmodel : (runFrom ctx host as).db.getModel c = some row := hrow
    rw [getVersionSnapshot, hmodel, hvrow] at hsnapshot
    rw [← Option.some.inj hsnapshot]
    exact ⟨rfl, hdoc, rfl⟩
  obtain ⟨uris, huris, rfl⟩ := uris_of_urisForSnapshot hlinks
  rw [snapshotUris, hplain, Except.ok_bind_eq, hprofile, hpublic] at huris
  obtain ⟨ps, hps, -⟩ := Except.bind_eq_ok_iff.mp huris
  refine ⟨ps, doc, uris, hps, hfile, rfl, linkAccepted_of_document hps (fun hreality => ?_) huris⟩
  rw [hreality] at hps hdoc
  obtain ⟨ps₁, key, hps₁, hdocKey, -, hpair⟩ := hkey hreality
  obtain ⟨ps₂, doc₂, hps₂, hdoc₂, haccepted⟩ := hname hreality
  obtain rfl : ps = ps₁ := Except.ok.inj (hps.symm.trans hps₁)
  obtain rfl : ps = ps₂ := Except.ok.inj (hps.symm.trans hps₂)
  obtain rfl : doc = doc₂ := Except.ok.inj (hdoc.symm.trans hdoc₂)
  rw [VpnConfigVersionModel.documentKey, hdoc, Except.ok_bind_eq] at hdocKey
  exact ⟨haccepted, key, hdocKey, hpair⟩

/-- A request whose calls all succeed. -/
def Action.Succeeds : Action → Prop
  | .advance _ env => env.faults = Faults.none ∧ env.answered = none ∧ env.committed = none
  | .delete _ _ => False
  | _ => True

/-- Whether a stage of an edit is orderly where the calls succeed: the document
is new to the row and without aliases. -/
def stageOrderly (ctx : Ctx) (w : World) : EditStage → Bool
  | .writing plan loaded =>
      w.db.currentVersion plan.configId = some plan.version && plan.document.Single &&
        plan.document.tree.toJson?.isSome && !sameJson loaded.configData plan.encrypted.tree
  | .syncing plan _ => (sharedConf ctx.settings w.host.glob plan.parsed).isOk
  | _ => true

/-- Whether a step is orderly where the calls succeed and no build is a
shortcut. -/
def stepOrderly (ctx : Ctx) (w : World) : Action → Bool
  | .work e _ =>
      match w.executions e with
      | some ⟨_, payload, .building⟩ => !w.db.hasVersion payload.configId payload.targetVersion
      | some ⟨_, _, .marking _⟩ => false
      | _ => true
  | .advance r _ =>
      match w.requests r with
      | some (.editing stage) => stageOrderly ctx w stage
      | _ => true
  | _ => true

theorem EditStage.orderly_of_check {ctx : Ctx} {w : World} {env : EditEnv} {stage : EditStage}
    (hfaults : env.faults = Faults.none) (hanswered : env.answered = none)
    (hcommitted : env.committed = none) (h : stageOrderly ctx w stage = true) :
    stage.Orderly ctx w env := by
  cases stage with
  | writing plan loaded =>
      simp only [stageOrderly, Bool.and_eq_true, decide_eq_true_eq] at h
      obtain ⟨⟨⟨hcurrent, hsingle⟩, hjson⟩, hnew⟩ := h
      obtain ⟨v, hv⟩ := Option.isSome_iff_exists.mp hjson
      refine ⟨hfaults, hcurrent, plainDocument_of_single hsingle hv, fun vrow _ hsame => ?_⟩
      rw [hsame] at hnew
      cases hnew
  | syncing plan loaded =>
      refine ⟨hfaults, fun _ e he => ?_⟩
      simp [stageOrderly, he, Except.isOk, Except.toBool] at h
  | restarting plan loaded => exact hfaults
  | answering plan loaded => exact hanswered
  | committing plan loaded => exact hcommitted
  | _ => trivial

theorem orderly_of_check {ctx : Ctx} {w : World} {a : Action} (hsucceeds : a.Succeeds)
    (h : stepOrderly ctx w a = true) : Orderly ctx w a := by
  cases a with
  | work e env =>
      rintro ⟨task, payload, stage⟩ he
      simp only [stepOrderly, he] at h
      cases stage with
      | building => simpa using h
      | marking loaded => cases h
      | _ => trivial
  | advance r env =>
      obtain ⟨hfaults, hanswered, hcommitted⟩ := hsucceeds
      intro stage hr
      simp only [stepOrderly, hr] at h
      exact stage.orderly_of_check hfaults hanswered hcommitted h
  | delete r c => exact hsucceeds
  | _ => trivial

/-- All calls of the run succeed. -/
theorem realityKept_succeeds : ∀ a ∈ realityKept, a.Succeeds := by
  intro a ha
  simp only [realityKept, realityEdited, realityFirst, List.mem_append, List.mem_cons,
    List.mem_replicate, List.not_mem_nil, or_false, or_assoc] at ha
  rcases ha with rfl | rfl | rfl | rfl | ⟨-, rfl⟩ | rfl | rfl | ⟨-, rfl⟩ | rfl | rfl | rfl | rfl |
    rfl | rfl | rfl | rfl | rfl | rfl | ⟨-, rfl⟩ | rfl <;> trivial

theorem realityKept_orderlyChecks :
    Machine.Meets (step Ctx.allProfiles)
      (fun w a => stepOrderly Ctx.allProfiles w a = true ∧ editsKeepKey w a = true)
      (World.init Host.blank) realityKept := by
  decide +kernel

/-- The link of the version that has taken the edited destination over. -/
def realityLink : ShareUri where
  scheme := "vless"
  user := "uuid"
  userQuoted := false
  host := "127.0.0.1"
  port := 8443
  params := [plain "type" "tcp", plain "security" "reality", plain "flow" "xtls-rprx-vision",
    plain "fp" "chrome", plain "pbk" "pub:x25519", plain "sid" "0a", escaped "sni" "b.example"]
  label := "Reality-Dynamic"

theorem service_accepts_realityLink :
    ∃ ps doc, ∃ uris : List ShareUri,
      Ctx.allProfiles.settings.profileSettings .xrayReality = .ok ps ∧
      LiveFile Ctx.allProfiles .xrayReality 0 doc
        (runFrom Ctx.allProfiles Host.blank realityKept).host ∧
      [realityLink.render] = uris.map ShareUri.render ∧
      ∀ uri ∈ uris, LinkAccepted Crypto.sample .xrayReality ps doc uri := by
  have horderly : Machine.Meets (step Ctx.allProfiles) (Orderly Ctx.allProfiles)
      (World.init Host.blank) realityKept :=
    (realityKept_orderlyChecks.and_of_mem realityKept_succeeds).mono fun _ _ h =>
      orderly_of_check h.2 h.1.1
  have hconfig : ((runFrom Ctx.allProfiles Host.blank realityKept).db.configs 0).map
      (fun row => (row.profile, row.status, row.currentVersion)) =
        some (.xrayReality, .active, some 2) := by decide +kernel
  have hversion : (getVersionSnapshot (runFrom Ctx.allProfiles Host.blank realityKept).db 0 2).map
      (urisForSnapshot Ctx.allProfiles (fun _ => 0) true) =
        some (.ok [realityLink.render]) := by decide +kernel
  obtain ⟨row, hrow, hcolumns⟩ := Option.map_eq_some_iff.mp hconfig
  obtain ⟨hprofile, hactive, hcurrent⟩ : row.profile = .xrayReality ∧ row.status = .active ∧
      row.currentVersion = some 2 := by simpa using hcolumns
  obtain ⟨snapshot, hsnapshot, hlinks⟩ := Option.map_eq_some_iff.mp hversion
  have haccepted := service_accepts_links Ctx.allProfiles Crypto.sample Host.blank realityKept
    horderly (realityKept_checks.mono fun _ _ h => buildsNamed_of_buildsSample h.1)
    (realityKept_orderlyChecks.mono fun _ _ h => keepsKey_of_editsKeepKey h.2)
    (realityKept_checks.mono fun _ _ h => editsNamed_of_editsSample h.2) rfl 0 row 2 hrow hactive
    (by decide +kernel) hcurrent snapshot (fun _ => 0) true _ hsnapshot hlinks
  rwa [hprofile] at haccepted

end VpnPanel
