import VpnPanel.ConfigBuild
import VpnPanel.Lifecycle

/-!
# VpnPanel.BuiltDocuments

What the builders leave in a document: the inbounds other than the tagged one
as the template has them, and in the tagged one the values they chose.

* `modifyInbound_spec` — the tagged inbound is changed, the others are not;
* `buildXrayReality_spec`, `buildHysteria2_spec` — the secrets of a result and
  of its document.
-/

namespace VpnPanel

/-! ## the tagged inbound -/

/-- The inbound with the tag is changed where it stands. -/
theorem modifyTag_spec {α : Type} {tag : String} {f : PyVal → Except PyErr (PyVal × α)}
    {items items' : List PyVal} {a : α} (h : modifyTag tag f items = .ok (items', a)) :
    ∃ before inbound inbound' after, TagSplit tag items before inbound after ∧
      f inbound = .ok (inbound', a) ∧ items' = before ++ inbound' :: after := by
  induction items generalizing items' with
  | nil => simp [modifyTag] at h
  | cons x rest ih =>
      obtain ⟨t, ht, h⟩ := Except.bind_eq_ok_iff.mp h
      split at h
      · next hx =>
        obtain ⟨⟨inbound', b⟩, hf, h⟩ := Except.bind_eq_ok_iff.mp h
        obtain ⟨rfl, rfl⟩ : inbound' :: rest = items' ∧ b = a := by simpa using h
        have htagged : x.get "tag" = .ok (.str tag) := by rw [ht, PyVal.isStr_iff.mp hx]
        exact ⟨[], x, inbound', rest, ⟨rfl, by simp, htagged⟩, hf, rfl⟩
      · next hx =>
        obtain ⟨⟨rest', b⟩, hrest, h⟩ := Except.bind_eq_ok_iff.mp h
        obtain ⟨rfl, rfl⟩ : x :: rest' = items' ∧ b = a := by simpa using h
        obtain ⟨before, inbound, inbound', after, hsplit, hf, rfl⟩ := ih hrest
        refine ⟨x :: before, inbound, inbound', after, ⟨?_, ?_, hsplit.tagged⟩, hf, rfl⟩
        · rw [hsplit.eq]
          rfl
        · intro y hy
          obtain rfl | hy := List.mem_cons.mp hy
          · exact ⟨t, ht, by simpa using hx⟩
          · exact hsplit.others y hy

/-- The document with the tagged inbound changed. -/
structure InboundChanged (tag : String) (config config' inbound inbound' : PyVal)
    (before after : List PyVal) : Prop where
  inbounds : config.item "inbounds" = .ok (.list (before ++ inbound :: after))
  split : TagSplit tag (before ++ inbound :: after) before inbound after
  inbounds' : config'.item "inbounds" = .ok (.list (before ++ inbound' :: after))
  others : ∀ k, "inbounds" ≠ k → config.SameAt config' k

/-- What `modifyInbound` leaves: the tagged inbound changed, all else as it
was. -/
theorem modifyInbound_spec {α : Type} {config config' : PyVal} {tag : String}
    {f : PyVal → Except PyErr (PyVal × α)} {a : α}
    (h : modifyInbound config tag f = .ok (config', a)) :
    ∃ inbound inbound' before after, f inbound = .ok (inbound', a) ∧
      InboundChanged tag config config' inbound inbound' before after := by
  obtain ⟨inbounds, hget, h⟩ := Except.bind_eq_ok_iff.mp h
  obtain ⟨items, hiter, h⟩ := Except.bind_eq_ok_iff.mp h
  obtain ⟨⟨items', b⟩, hmodify, h⟩ := Except.bind_eq_ok_iff.mp h
  obtain ⟨changed, hset, h⟩ := Except.bind_eq_ok_iff.mp h
  obtain ⟨rfl, rfl⟩ : changed = config' ∧ b = a := by simpa using h
  obtain ⟨before, inbound, inbound', after, hsplit, hf, rfl⟩ := modifyTag_spec hmodify
  have hfind : findInbound config tag = .ok inbound := by
    simp only [findInbound, hget, hiter, Except.ok_bind_eq]
    exact findTag_eq_ok_iff.mpr ⟨before, after, hsplit⟩
  obtain ⟨items₀, before₀, after₀, hitem, -⟩ := findInbound_eq_ok_iff.mp hfind
  -- both ways of reading the inbounds give the same list
  obtain ⟨kvs, rfl, hk⟩ := PyVal.item_eq_ok_iff.mp hitem
  have hitems : items₀ = items := by
    simp only [PyVal.get_dict, hk, Option.getD_some, Except.ok.injEq] at hget
    rw [← hget] at hiter
    exact Except.ok.inj hiter
  rw [hitems] at hitem
  obtain rfl := hsplit.eq
  exact ⟨inbound, inbound', before, after, hf, hitem, hsplit, PyVal.item_self_of_setItem hset,
    fun k => PyVal.sameAt_of_setItem hset⟩

/-- Changing the tagged inbound and keeping its tag: it is still the one that
is found. -/
theorem InboundChanged.split' {tag : String} {config config' inbound inbound' : PyVal}
    {before after : List PyVal}
    (h : InboundChanged tag config config' inbound inbound' before after)
    (htag : inbound.SameAt inbound' "tag") :
    TagSplit tag (before ++ inbound' :: after) before inbound' after where
  eq := rfl
  others := h.split.others
  tagged := by rw [htag.get, h.split.tagged]

/-! ## what the builders set in an inbound -/

theorem setListen_sameAt {inbound inbound' : PyVal} {port : Nat} {listenAddress : Option String}
    {k : String} (h : setListen inbound port listenAddress = .ok inbound') (hport : "port" ≠ k)
    (hlisten : "listen" ≠ k) : inbound.SameAt inbound' k := by
  obtain ⟨inbound₁, hset, h⟩ := Except.bind_eq_ok_iff.mp h
  have hfst := PyVal.sameAt_of_setItem hset hport
  split at h
  · exact hfst.trans (PyVal.sameAt_of_setItem h hlisten)
  · rwa [← Except.ok.inj h]

theorem setClientId_sameAt {inbound inbound' clientId : PyVal} {k : String}
    (h : setClientId inbound clientId = .ok inbound') (hk : "settings" ≠ k) :
    inbound.SameAt inbound' k := by
  obtain ⟨settings, -, h⟩ := Except.bind_eq_ok_iff.mp h
  obtain ⟨clients, -, h⟩ := Except.bind_eq_ok_iff.mp h
  obtain ⟨items, -, h⟩ := Except.bind_eq_ok_iff.mp h
  obtain ⟨items', -, h⟩ := Except.bind_eq_ok_iff.mp h
  split at h
  · rw [← Except.ok.inj h]
    exact PyVal.SameAt.refl _ _
  · obtain ⟨settings', -, h⟩ := Except.bind_eq_ok_iff.mp h
    exact PyVal.sameAt_of_setItem h hk

theorem pinServerNames_sameAt {reality reality' : PyVal} {k : String}
    (h : pinServerNames reality = .ok reality') (hk : "serverNames" ≠ k) :
    reality.SameAt reality' k := by
  obtain ⟨dest, -, h⟩ := Except.bind_eq_ok_iff.mp h
  simp only at h
  split at h
  · exact PyVal.sameAt_of_setItem h hk
  · rw [← Except.ok.inj h]
    exact PyVal.SameAt.refl _ _

theorem setDest_sameAt {env : BuildEnv} {ps : VpnProfileSettings} {req : BuildRequest}
    {reality reality' : PyVal} {k : String} (h : setDest env ps req reality = .ok reality')
    (hdest : "dest" ≠ k) (hnames : "serverNames" ≠ k) : reality.SameAt reality' k := by
  unfold setDest at h
  split at h
  · obtain ⟨reality₁, hset, h⟩ := Except.bind_eq_ok_iff.mp h
    have hfst := PyVal.sameAt_of_setItem hset hdest
    split at h
    · exact hfst.trans (PyVal.sameAt_of_setItem h hnames)
    · exact hfst.trans (pinServerNames_sameAt h hnames)
  · simp only [Except.ok_bind_eq] at h
    split at h
    · obtain ⟨reality₁, hset, h⟩ := Except.bind_eq_ok_iff.mp h
      exact (PyVal.sameAt_of_setItem hset hdest).trans (pinServerNames_sameAt h hnames)
    · exact pinServerNames_sameAt h hnames

/-! ## the secrets of a result -/

/-- The private key of the inbound with the tag. -/
def realityPrivateKey (tag : String) (configData : PyVal) : Except PyErr PyVal := do
  let inbound ← findInbound configData tag
  PyVal.itemAt ["streamSettings", "realitySettings", "privateKey"] inbound

/-- A Reality result: its key is the one that was chosen, and stands in the
tagged inbound, which is where the template has it. -/
structure RealityBuilt (crypto : Crypto) (env : BuildEnv) (tag : String) (req : BuildRequest)
    (template : PyVal) (result : BuildResult) : Prop where
  keys : (result.privateKey, result.publicKey) = chooseRealityKeys crypto env req
  stored : realityPrivateKey tag result.configData = .ok (.str result.privateKey)
  changed : ∃ inbound inbound' before after,
    InboundChanged tag template result.configData inbound inbound' before after ∧
      inbound.SameAt inbound' "tag"
  extraFiles : result.extraFiles = []

theorem nonEmpty_eq_some_iff {text : Option String} {s : String} :
    nonEmpty text = some s ↔ text = some s ∧ s ≠ "" := by
  simp [nonEmpty, Option.filter_eq_some_iff]

/-- A chosen private key is not empty. -/
theorem chooseRealityKeys_ne (crypto : Crypto) (env : BuildEnv) (req : BuildRequest) :
    (chooseRealityKeys crypto env req).1 ≠ "" := by
  unfold chooseRealityKeys
  split
  · next privateKey publicKey hprivate _ =>
    split
    · exact env.x25519PrivateKey_ne
    · obtain ⟨previous, -, hkey⟩ := Option.bind_eq_some_iff.mp hprivate
      exact (nonEmpty_eq_some_iff.mp hkey).2
  · exact env.x25519PrivateKey_ne

theorem RealityBuilt.privateKey_ne {crypto : Crypto} {env : BuildEnv} {tag : String}
    {req : BuildRequest} {template : PyVal} {result : BuildResult}
    (h : RealityBuilt crypto env tag req template result) : result.privateKey ≠ "" := by
  have hkey : result.privateKey = (chooseRealityKeys crypto env req).1 := by rw [← h.keys]
  rw [hkey]
  exact chooseRealityKeys_ne crypto env req

theorem buildXrayReality_spec {crypto : Crypto} {env : BuildEnv} {ps : VpnProfileSettings}
    {req : BuildRequest} {template : PyVal} {result : BuildResult}
    (h : buildXrayReality crypto env ps req template = .ok result) :
    RealityBuilt crypto env ps.inboundTag req template result := by
  obtain ⟨port, -, h⟩ := Except.bind_eq_ok_iff.mp h
  simp only at h
  obtain ⟨⟨config, u⟩, hmodify, h⟩ := Except.bind_eq_ok_iff.mp h
  obtain ⟨inbound, inbound', before, after, hf, hchanged⟩ := modifyInbound_spec hmodify
  obtain ⟨inbound₁, hlisten, hf⟩ := Except.bind_eq_ok_iff.mp hf
  obtain ⟨inbound₂, hstream, hf⟩ := Except.bind_eq_ok_iff.mp hf
  obtain ⟨inbound₃, hclient, hf⟩ := Except.bind_eq_ok_iff.mp hf
  obtain rfl : inbound₃ = inbound' := by simpa using hf
  obtain ⟨stream, stream', -, hreality, hstream', hstreamSame⟩ := PyVal.modifyItem_spec hstream
  obtain ⟨reality, reality', -, hset, hreality', -⟩ := PyVal.modifyItem_spec hreality
  obtain ⟨reality₁, -, hset⟩ := Except.bind_eq_ok_iff.mp hset
  obtain ⟨reality₂, hkey, hdest⟩ := Except.bind_eq_ok_iff.mp hset
  have htag : inbound.SameAt inbound₃ "tag" :=
    ((setListen_sameAt hlisten (by decide) (by decide)).trans (hstreamSame _ (by decide))).trans
      (setClientId_sameAt hclient (by decide))
  have hitem : inbound₃.item "streamSettings" = .ok stream' := by
    rw [(setClientId_sameAt hclient (by decide)).item, hstream']
  have hprivate : reality'.item "privateKey" = .ok (.str (chooseRealityKeys crypto env req).1) := by
    rw [(setDest_sameAt hdest (by decide) (by decide)).item, PyVal.item_self_of_setItem hkey]
  rw [← Except.ok.inj h]
  constructor
  · rfl
  · have hfind : findInbound config ps.inboundTag = .ok inbound₃ :=
      findInbound_eq_ok_iff.mpr ⟨_, before, after, hchanged.inbounds', hchanged.split' htag⟩
    simp [realityPrivateKey, hfind, PyVal.itemAt, hitem, hreality', hprivate]
  · exact ⟨inbound, inbound₃, before, after, hchanged, htag⟩
  · rfl

/-- A Hysteria2 result: its passwords are those kept or generated. -/
theorem buildHysteria2_spec {crypto : Crypto} {settings : PanelSettings} {env : BuildEnv}
    {ps : VpnProfileSettings} {req : BuildRequest} {template : PyVal} {result : BuildResult}
    (h : buildHysteria2 crypto settings env ps req template = .ok result) :
    PyVal.itemAt ["auth", "password"] result.configData =
        .ok (.str (keptOr (req.previous.bind fun previous => nonEmpty previous.password)
          req.policy.rotateAuth env.authPassword)) ∧
      PyVal.itemAt ["obfs", "salamander", "password"] result.configData =
        .ok (.str (keptOr (req.previous.bind fun previous => nonEmpty previous.obfsPassword)
          req.policy.rotateObfs env.obfsPassword)) := by
  obtain ⟨port, -, h⟩ := Except.bind_eq_ok_iff.mp h
  obtain ⟨tls, -, h⟩ := Except.bind_eq_ok_iff.mp h
  obtain ⟨config₁, -, h⟩ := Except.bind_eq_ok_iff.mp h
  obtain ⟨config₂, hauth, h⟩ := Except.bind_eq_ok_iff.mp h
  obtain ⟨config₃, htls, h⟩ := Except.bind_eq_ok_iff.mp h
  obtain ⟨config₄, hobfs, h⟩ := Except.bind_eq_ok_iff.mp h
  obtain ⟨auth, auth', -, hset, hauth', -⟩ := PyVal.modifyItem_spec hauth
  obtain ⟨-, -, -, -, -, htlsSame⟩ := PyVal.modifyItem_spec htls
  have hauth₄ : config₄.item "auth" = .ok auth' := by
    rw [(PyVal.sameAt_of_setItem hobfs (by decide)).item, (htlsSame _ (by decide)).item, hauth']
  rw [← Except.ok.inj h]
  constructor
  · rw [TlsMaterial.result, PyVal.itemAt_cons hauth₄,
      PyVal.itemAt_cons (PyVal.item_self_of_setItem hset)]
    rfl
  · rw [TlsMaterial.result, PyVal.itemAt_cons (PyVal.item_self_of_setItem hobfs)]
    rfl

/-! ## the paths of the certificates -/

/-- The certificates stand in the stream settings. -/
theorem setCertificates_sameAt {inbound inbound' : PyVal} {certFile keyFile k : String}
    (h : setCertificates inbound certFile keyFile = .ok (some inbound'))
    (hk : "streamSettings" ≠ k) : inbound.SameAt inbound' k := by
  obtain ⟨stream, -, h⟩ := Except.bind_eq_ok_iff.mp h
  obtain ⟨tls, -, h⟩ := Except.bind_eq_ok_iff.mp h
  obtain ⟨certificates, -, h⟩ := Except.bind_eq_ok_iff.mp h
  split at h
  · obtain ⟨cert, -, h⟩ := Except.bind_eq_ok_iff.mp h
    obtain ⟨cert₁, -, h⟩ := Except.bind_eq_ok_iff.mp h
    obtain ⟨cert₂, -, h⟩ := Except.bind_eq_ok_iff.mp h
    obtain ⟨tls', -, h⟩ := Except.bind_eq_ok_iff.mp h
    obtain ⟨stream', -, h⟩ := Except.bind_eq_ok_iff.mp h
    obtain ⟨changed, hset, h⟩ := Except.bind_eq_ok_iff.mp h
    obtain rfl : changed = inbound' := by simpa using h
    exact PyVal.sameAt_of_setItem hset hk
  · cases h

/-- The first inbound with certificates is changed, if there is one. -/
theorem setFirstCertificates_spec {certFile keyFile : String} {items items' : List PyVal}
    (h : setFirstCertificates certFile keyFile items = .ok items') :
    (items' = items ∧ ∀ x ∈ items, setCertificates x certFile keyFile = .ok none) ∨
      ∃ before x x' after, items = before ++ x :: after ∧ items' = before ++ x' :: after ∧
        (∀ y ∈ before, setCertificates y certFile keyFile = .ok none) ∧
        setCertificates x certFile keyFile = .ok (some x') := by
  induction items generalizing items' with
  | nil => exact Or.inl ⟨(Except.ok.inj h).symm, by simp⟩
  | cons x rest ih =>
      obtain ⟨found, hx, h⟩ := Except.bind_eq_ok_iff.mp h
      cases found with
      | some x' => exact Or.inr ⟨[], x, x', rest, rfl, (Except.ok.inj h).symm, by simp, hx⟩
      | none =>
          obtain ⟨rest', hrest, h⟩ := Except.bind_eq_ok_iff.mp h
          obtain rfl : x :: rest' = items' := Except.ok.inj h
          obtain ⟨rfl, hnone⟩ | ⟨before, y, y', after, rfl, rfl, hnone, hy⟩ := ih hrest
          · exact Or.inl ⟨rfl, by simpa [hx] using hnone⟩
          · exact Or.inr ⟨x :: before, y, y', after, rfl, rfl, by simpa [hx] using hnone, hy⟩

/-- Changing an inbound and keeping its tag: the tag finds the same inbound, as
it was or changed. -/
theorem findTag_of_changed {tag : String} {before after : List PyVal} {x x' inbound : PyVal}
    (htag : x.SameAt x' "tag") (h : findTag tag (before ++ x :: after) = .ok inbound) :
    ∃ inbound', findTag tag (before ++ x' :: after) = .ok inbound' ∧
      (inbound' = inbound ∨ inbound = x ∧ inbound' = x') := by
  induction before with
  | nil =>
      obtain ⟨t, ht, h⟩ := Except.bind_eq_ok_iff.mp h
      simp only [List.nil_append, findTag, htag.get, ht, Except.ok_bind_eq]
      split at h
      · next hx => exact ⟨x', by rw [if_pos hx], Or.inr ⟨(Except.ok.inj h).symm, rfl⟩⟩
      · next hx => exact ⟨inbound, by rw [if_neg hx]; exact h, Or.inl rfl⟩
  | cons y before ih =>
      obtain ⟨t, ht, h⟩ := Except.bind_eq_ok_iff.mp h
      simp only [List.cons_append, findTag, ht, Except.ok_bind_eq]
      split at h
      · next hy => exact ⟨y, by rw [if_pos hy], Or.inl (Except.ok.inj h)⟩
      · next hy =>
        obtain ⟨inbound', hfind, hsame⟩ := ih h
        exact ⟨inbound', by rw [if_neg hy, hfind], hsame⟩

/-- The paths of the certificates do not change the port. -/
theorem listeningPort_applyTlsCertPaths {profile : ConfigProfile} {configData doc : PyVal}
    {certFile keyFile : String} {ps : VpnProfileSettings} {port : Int}
    (h : applyTlsCertPaths profile configData certFile keyFile = .ok doc)
    (hport : listeningPort profile configData ps = .ok port) :
    listeningPort profile doc ps = .ok port := by
  cases profile with
  | hysteria2 =>
      obtain ⟨tls, -, h⟩ := Except.bind_eq_ok_iff.mp h
      obtain ⟨tls₁, -, h⟩ := Except.bind_eq_ok_iff.mp h
      obtain ⟨tls₂, -, h⟩ := Except.bind_eq_ok_iff.mp h
      have hlisten : configData.SameAt doc "listen" := PyVal.sameAt_of_setItem h (by decide)
      rw [← hport]
      simp only [listeningPort, hysteriaPort, hlisten.item]
  | xrayReality => rwa [← Except.ok.inj h]
  | xrayGrpc | xrayXhttp =>
      obtain ⟨inbound, hfind, hport⟩ := Except.bind_eq_ok_iff.mp hport
      obtain ⟨inbounds, hget, h⟩ := Except.bind_eq_ok_iff.mp h
      obtain ⟨items, hiter, h⟩ := Except.bind_eq_ok_iff.mp h
      obtain ⟨items', hset, h⟩ := Except.bind_eq_ok_iff.mp h
      have htag : findTag ps.inboundTag items = .ok inbound := by
        simpa [findInbound, hget, hiter] using hfind
      simp only [listeningPort]
      split at h
      · rw [← Except.ok.inj h, hfind, Except.ok_bind_eq, hport]
      · have hdoc (found : PyVal) (hfound : findTag ps.inboundTag items' = .ok found) :
            findInbound doc ps.inboundTag = .ok found := by
          simp [findInbound, PyVal.get_of_setItem h, hfound]
        obtain ⟨rfl, -⟩ | ⟨before, x, x', after, rfl, rfl, -, hx⟩ :=
          setFirstCertificates_spec hset
        · rw [hdoc inbound htag, Except.ok_bind_eq, hport]
        · obtain ⟨inbound', hfind', rfl | ⟨rfl, rfl⟩⟩ :=
            findTag_of_changed (setCertificates_sameAt hx (by decide)) htag
          · rw [hdoc inbound' hfind', Except.ok_bind_eq, hport]
          · rw [hdoc inbound' hfind', Except.ok_bind_eq,
              (setCertificates_sameAt hx (by decide)).item, hport]

/-! ## the document that is written -/

/-- A document as `write_files` writes it: as it was built, or with the paths of
the certificates it installs. -/
inductive Written (settings : PanelSettings) (profile : ConfigProfile) (configId : ConfigId)
    (result : BuildResult) (doc : PyVal) : Prop where
  | asBuilt (hfiles : result.extraFiles = []) (hdoc : doc = result.configData)
  | withPaths (ps : VpnProfileSettings) (hps : settings.profileSettings profile = .ok ps)
      (hfiles : result.extraFiles ≠ [])
      (hdoc : applyTlsCertPaths profile result.configData
        ((certBase settings profile ps configId).render ++ "/" ++
          orStr (ps.certPrefix.getD "") "cert" ++ "-cert.pem")
        ((certBase settings profile ps configId).render ++ "/" ++
          orStr (ps.certPrefix.getD "") "cert" ++ "-key.pem") = .ok doc)

theorem yields_writeDocuments {settings : PanelSettings} {faults : Faults} {timestamp : Nat}
    {profile : ConfigProfile} {configId : ConfigId} {result : BuildResult} :
    Eff.Yields (Written settings profile configId result)
      (writeDocuments settings faults timestamp profile configId result) := by
  unfold writeDocuments
  refine Eff.Yields.bind (Eff.Yields.ofExcept fun ps hps => hps) fun ps hps => ?_
  have hcerts : Eff.Yields (Written settings profile configId result)
      (installCerts settings faults timestamp profile ps configId result) := by
    unfold installCerts
    split
    · next hfiles => exact Eff.Yields.pure (.asBuilt (List.isEmpty_iff.mp hfiles) rfl)
    · next hfiles =>
      refine Eff.Yields.bind (Eff.Yields.any _) fun _ _ => ?_
      refine Eff.Yields.bind (Eff.Yields.ofExcept fun doc hdoc => hdoc) fun doc hdoc => ?_
      refine Eff.Yields.bind (Eff.Yields.any _) fun _ _ => Eff.Yields.pure ?_
      exact .withPaths ps hps (by simpa using hfiles) hdoc
  have hprepared : Eff.Yields (Written settings profile configId result)
      (prepareDocuments settings faults timestamp profile ps configId result) := by
    have hrest : Eff.Yields (Written settings profile configId result) (do
        let configData ← installCerts settings faults timestamp profile ps configId result
        attempt faults .serialize id
        attempt faults .writeArchive fun h => h.setArchive configId ps.configFilename configData
        pure configData) :=
      Eff.Yields.bind hcerts fun doc hdoc => Eff.Yields.bind (Eff.Yields.any _) fun _ _ =>
        Eff.Yields.bind (Eff.Yields.any _) fun _ _ => Eff.Yields.pure hdoc
    unfold prepareDocuments
    refine Eff.Yields.bind (Eff.Yields.any _) fun _ _ => ?_
    split
    · exact Eff.Yields.bind (Eff.Yields.any _) fun _ _ => hrest
    · exact hrest
  exact Eff.Yields.bind hprepared fun doc hdoc =>
    Eff.Yields.bind (Eff.Yields.any _) fun _ _ => Eff.Yields.pure hdoc

/-- A result without certificates of its own is written as it was built. -/
theorem Written.eq_of_noFiles {settings : PanelSettings} {profile : ConfigProfile}
    {configId : ConfigId} {result : BuildResult} {doc : PyVal}
    (h : Written settings profile configId result doc) (hfiles : result.extraFiles = []) :
    doc = result.configData := by
  cases h with
  | asBuilt _ hdoc => exact hdoc
  | withPaths _ _ hne _ => exact absurd hfiles hne

/-- In a Hysteria2 document only the TLS section gets the paths. -/
theorem Written.sameAt_hysteria2 {settings : PanelSettings} {configId : ConfigId}
    {result : BuildResult} {doc : PyVal} (h : Written settings .hysteria2 configId result doc)
    {k : String} (hk : "tls" ≠ k) : result.configData.SameAt doc k := by
  cases h with
  | asBuilt _ hdoc =>
      rw [hdoc]
      exact PyVal.SameAt.refl _ _
  | withPaths _ _ _ hdoc =>
      obtain ⟨tls, -, hdoc⟩ := Except.bind_eq_ok_iff.mp hdoc
      obtain ⟨tls₁, -, hdoc⟩ := Except.bind_eq_ok_iff.mp hdoc
      obtain ⟨tls₂, -, hdoc⟩ := Except.bind_eq_ok_iff.mp hdoc
      exact PyVal.sameAt_of_setItem hdoc hk

/-- The port of a document is that of the document as it was built. -/
theorem Written.listeningPort {settings : PanelSettings} {profile : ConfigProfile}
    {configId : ConfigId} {result : BuildResult} {doc : PyVal} {ps : VpnProfileSettings}
    {port : Int} (h : Written settings profile configId result doc)
    (hport : listeningPort profile result.configData ps = .ok port) :
    VpnPanel.listeningPort profile doc ps = .ok port := by
  cases h with
  | asBuilt _ hdoc => rwa [hdoc]
  | withPaths _ _ _ hdoc => exact listeningPort_applyTlsCertPaths hdoc hport

/-- The result of a build that was written: the built one, with the port its
document says and the document that was written. -/
theorem written_of_buildDocuments {ctx : Ctx} {env : TaskEnv} {p : Payload}
    {result : BuildResult} {h h' : Host}
    (hx : (buildDocuments ctx env p).exec h = (.ok result, h')) :
    ∃ ps built port, ctx.settings.profileSettings p.profile = .ok ps ∧ env.built = .ok built ∧
      listeningPort p.profile built.configData ps = .ok port ∧
      result = { built with port := port, configData := result.configData } ∧
      Written ctx.settings p.profile p.configId built result.configData := by
  have hyields : Eff.Yields (fun result : BuildResult => ∃ ps built port,
      ctx.settings.profileSettings p.profile = .ok ps ∧ env.built = .ok built ∧
      listeningPort p.profile built.configData ps = .ok port ∧
      result = { built with port := port, configData := result.configData } ∧
      Written ctx.settings p.profile p.configId built result.configData)
      (buildDocuments ctx env p) := by
    unfold buildDocuments
    refine Eff.Yields.bind (Eff.Yields.ofExcept fun ps hps => hps) fun ps hps => ?_
    refine Eff.Yields.bind (Eff.Yields.ofExcept fun built hbuilt => hbuilt) fun built hbuilt => ?_
    refine Eff.Yields.bind (Eff.Yields.ofExcept fun port hport => hport) fun port hport => ?_
    refine Eff.Yields.bind yields_writeDocuments fun doc hdoc => Eff.Yields.pure ?_
    refine ⟨ps, built, port, hps, hbuilt, hport, rfl, ?_⟩
    cases hdoc with
    | asBuilt hfiles hdoc => exact .asBuilt hfiles hdoc
    | withPaths ps hps hfiles hdoc => exact .withPaths ps hps hfiles hdoc
  exact hyields h result h' hx

/-! ## an installation to run builds on -/

/-- Cryptography on texts: a certificate names its names, a key its
certificate. -/
def Crypto.sample : Crypto where
  publicKey privateKey := "pub:" ++ privateKey
  certFingerprintSha256 cert := .ok ("sha256:" ++ cert)
  certHasDnsSan cert name := cert = "cert:" ++ name
  certMatchesPrivateKey cert key := key = "key:" ++ cert

/-- What is generated and drawn on a template. -/
def BuildEnv.sample (template : PyVal) : BuildEnv where
  template := .ok template
  selfSigned names :=
    let cert := "cert:" ++ String.intercalate "," names
    .ok ("key:" ++ cert, cert)
  uuid4 := "uuid"
  x25519PrivateKey := "x25519"
  x25519PrivateKey_ne := by decide
  shortIds := ["0a", "0b", "0c"]
  authPassword := "auth"
  obfsPassword := "obfs"

/-- An installation with all profiles. -/
def Ctx.allProfiles : Ctx :=
  { Ctx.sample with
    settings := { Ctx.sample.settings with
      profiles := fun _ => some { sampleProfile with portCandidates := [443, 8443] } } }

/-- A Reality template with other inbounds before the tagged one. -/
def realityTemplate (before : List PyVal) : PyVal :=
  .dict [("inbounds", .list (before ++ [.dict [("tag", .str "vless"), ("port", .int 1),
    ("settings", .dict [("clients", .list [.dict [("id", .str "template")]])]),
    ("streamSettings", .dict [("realitySettings", .dict [("dest", .str "a.example:443")])])]]))]

/-- An inbound for the statistics of the server. -/
def apiInbound : PyVal := .dict [("tag", .str "api"), ("port", .int 10085)]

/-- A first Reality build from a template. -/
def realityBuildEnv (template : PyVal) : TaskEnv where
  built := build Crypto.sample Ctx.allProfiles.settings (BuildEnv.sample template) {} .xrayReality

end VpnPanel
