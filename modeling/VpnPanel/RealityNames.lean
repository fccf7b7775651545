import VpnPanel.KeyRecords
import VpnPanel.PinnedShares

/-!
# VpnPanel.RealityNames

The server name of a Reality link is the host its `dest` names
(`reality_share_sni`), and the server takes the names in `serverNames`.  A
build writes the two together; but a regenerate that keeps the destination
takes both over from the version before, where `previous_for_regenerate` reads
them from all inbounds, the last one winning for each.

* `SectionAccepts`, `TakesOver` — the section lists its host, and so do the
  values a regenerate would take over;
* `sectionAccepts_of_buildXrayReality` — the builder's part;
* `namesAccepted_iff` — both hold for all versions all along a run exactly when
  the edits that commit keep them.
-/

namespace VpnPanel

/-! ## a section and what is taken over from it -/

/-- A Reality section takes the server name its links advertise, and has a list
of short ids. -/
structure SectionAccepts (reality : PyVal) : Prop where
  listed : ∃ host names, realityDestHost reality = .ok host ∧ host ≠ "" ∧
    reality.item "serverNames" = .ok (.list names) ∧ .str host ∈ names
  shortIds : ∃ ids, reality.item "shortIds" = .ok (.list ids)

/-- A destination that is taken over comes with server names that list it. -/
def NamesListed (dest : Option String) (serverNames : Option (List PyVal)) : Prop :=
  ∀ d, dest = some d → destHostname d ≠ "" ∧
    ∃ names, serverNames = some names ∧ .str (destHostname d) ∈ names

/-- What `previous_for_regenerate` finds in a document. -/
def extractDocument (doc : PyVal) : Except PyErr Extracted := do
  let inbounds ← doc.get "inbounds" (.list [])
  let items ← inbounds.iter
  extractInbounds {} items

/-- The destination a regenerate would take over is listed. -/
def TakesOver (doc : PyVal) : Prop :=
  ∀ found, extractDocument doc = .ok found →
    NamesListed found.realityDest found.realityServerNames

/-- The Reality section of the inbound with the tag. -/
def taggedReality (tag : String) (doc : PyVal) : Except PyErr PyVal := do
  let inbound ← findInbound doc tag
  PyVal.itemAt ["streamSettings", "realitySettings"] inbound

/-- A document whose links are accepted, as those of a version that takes over
from it. -/
structure NamesAccepted (tag : String) (doc : PyVal) : Prop where
  accepts : ∃ reality, taggedReality tag doc = .ok reality ∧ SectionAccepts reality
  takesOver : TakesOver doc

/-! ## what the loop finds -/

/-- An inbound without a Reality section. -/
def NoReality (inbound : PyVal) : Prop :=
  ∀ streamSettings realitySettings, inbound.get "streamSettings" = .ok streamSettings →
    (streamSettings.orElse (.dict [])).get "realitySettings" = .ok realitySettings →
    realitySettings.truthy = false

theorem truthy_of_item {v w : PyVal} {k : String} (h : v.item k = .ok w) : v.truthy = true := by
  obtain ⟨kvs, rfl, hk⟩ := PyVal.item_eq_ok_iff.mp h
  cases kvs with
  | nil => simp [PyVal.lookupKey] at hk
  | cons kv kvs => rfl

theorem orElse_of_truthy {v w : PyVal} (h : v.truthy = true) : v.orElse w = v := if_pos h

/-- A host is named by a destination that is there. -/
theorem dest_of_realityDestHost {reality : PyVal} {host : String}
    (h : realityDestHost reality = .ok host) (hne : host ≠ "") :
    ∃ dest, reality.get "dest" = .ok dest ∧ dest.truthy = true ∧
      destHostname dest.toStr = host := by
  obtain ⟨dest, hdest, h⟩ := Except.bind_eq_ok_iff.mp h
  have hhost := Except.ok.inj h
  cases htruthy : dest.truthy with
  | true =>
      rw [orElse_of_truthy htruthy] at hhost
      exact ⟨dest, hdest, htruthy, hhost⟩
  | false =>
      have hempty : destHostname "" = "" := by decide
      rw [PyVal.orElse, htruthy] at hhost
      exact absurd (hhost.symm.trans hempty) hne

theorem foundStr_of_falsy {v : PyVal} {before : Option String} (h : v.truthy = false) :
    foundStr v before = before := by
  rw [foundStr, h]
  rfl

theorem foundList_of_falsy {v : PyVal} {before : Option (List PyVal)} (h : v.truthy = false) :
    foundList v before = .ok before := by
  rw [foundList, h]
  rfl

/-- What a round finds of the destination. -/
theorem extractInbound_reality {found found' : Extracted} {inbound : PyVal}
    (h : extractInbound found inbound = .ok found') :
    ∃ streamSettings realitySettings dest serverNames,
      inbound.get "streamSettings" = .ok streamSettings ∧
      (streamSettings.orElse (.dict [])).get "realitySettings" = .ok realitySettings ∧
      (realitySettings.orElse (.dict [])).get "dest" = .ok dest ∧
      (realitySettings.orElse (.dict [])).get "serverNames" = .ok serverNames ∧
      found'.realityDest = foundStr dest found.realityDest ∧
      foundList serverNames found.realityServerNames = .ok found'.realityServerNames := by
  obtain ⟨clientId, -, h⟩ := Except.bind_eq_ok_iff.mp h
  obtain ⟨streamSettings, hstream, h⟩ := Except.bind_eq_ok_iff.mp h
  obtain ⟨realitySettings, hreality, h⟩ := Except.bind_eq_ok_iff.mp h
  obtain ⟨shortIds, -, h⟩ := Except.bind_eq_ok_iff.mp h
  obtain ⟨foundIds, -, h⟩ := Except.bind_eq_ok_iff.mp h
  obtain ⟨dest, hdest, h⟩ := Except.bind_eq_ok_iff.mp h
  obtain ⟨serverNames, hnames, h⟩ := Except.bind_eq_ok_iff.mp h
  obtain ⟨foundNames, hfound, h⟩ := Except.bind_eq_ok_iff.mp h
  obtain ⟨xhttpSettings, -, h⟩ := Except.bind_eq_ok_iff.mp h
  obtain ⟨path, -, h⟩ := Except.bind_eq_ok_iff.mp h
  obtain ⟨grpcSettings, -, h⟩ := Except.bind_eq_ok_iff.mp h
  obtain ⟨serviceName, -, h⟩ := Except.bind_eq_ok_iff.mp h
  obtain ⟨tlsSettings, -, h⟩ := Except.bind_eq_ok_iff.mp h
  obtain ⟨serverName, -, h⟩ := Except.bind_eq_ok_iff.mp h
  rw [← Except.ok.inj h]
  exact ⟨streamSettings, realitySettings, dest, serverNames, hstream, hreality, hdest, hnames, rfl,
    hfound⟩

/-- An inbound without a Reality section leaves both as they were. -/
theorem extractInbound_of_noReality {found found' : Extracted} {inbound : PyVal}
    (hno : NoReality inbound) (h : extractInbound found inbound = .ok found') :
    found'.realityDest = found.realityDest ∧
      found'.realityServerNames = found.realityServerNames := by
  obtain ⟨streamSettings, realitySettings, dest, serverNames, hstream, hreality, hdest, hnames,
    hfoundDest, hfoundNames⟩ := extractInbound_reality h
  have hempty : realitySettings.orElse (.dict []) = .dict [] := by
    rw [PyVal.orElse, hno _ _ hstream hreality]
    rfl
  rw [hempty] at hdest hnames
  obtain rfl : PyVal.none = dest := Except.ok.inj hdest
  obtain rfl : PyVal.none = serverNames := Except.ok.inj hnames
  rw [foundStr_of_falsy rfl] at hfoundDest
  rw [foundList_of_falsy rfl] at hfoundNames
  exact ⟨hfoundDest, (Except.ok.inj hfoundNames).symm⟩

theorem extractInbounds_of_noReality {inbounds : List PyVal} {found found' : Extracted}
    (hno : ∀ inbound ∈ inbounds, NoReality inbound)
    (h : extractInbounds found inbounds = .ok found') :
    found'.realityDest = found.realityDest ∧
      found'.realityServerNames = found.realityServerNames := by
  induction inbounds generalizing found with
  | nil =>
      rw [← Except.ok.inj h]
      exact ⟨rfl, rfl⟩
  | cons inbound rest ih =>
      obtain ⟨found₁, hfst, hrest⟩ := Except.bind_eq_ok_iff.mp h
      obtain ⟨hdest, hnames⟩ :=
        extractInbound_of_noReality (hno inbound List.mem_cons_self) hfst
      obtain ⟨hdest', hnames'⟩ := ih (fun x hx => hno x (List.mem_cons_of_mem _ hx)) hrest
      exact ⟨hdest'.trans hdest, hnames'.trans hnames⟩

theorem extractInbounds_append {before after : List PyVal} {found found' : Extracted}
    (h : extractInbounds found (before ++ after) = .ok found') :
    ∃ between, extractInbounds found before = .ok between ∧
      extractInbounds between after = .ok found' := by
  induction before generalizing found with
  | nil => exact ⟨found, rfl, h⟩
  | cons inbound rest ih =>
      obtain ⟨found₁, hfst, hrest⟩ := Except.bind_eq_ok_iff.mp h
      obtain ⟨between, hbetween, hafter⟩ := ih hrest
      exact ⟨between, by rw [extractInbounds, hfst]; exact hbetween, hafter⟩

/-- An inbound whose section lists its host gives both. -/
theorem namesListed_of_sectionAccepts {found found' : Extracted} {inbound reality : PyVal}
    (hsection : PyVal.itemAt ["streamSettings", "realitySettings"] inbound = .ok reality)
    (haccepts : SectionAccepts reality) (h : extractInbound found inbound = .ok found') :
    NamesListed found'.realityDest found'.realityServerNames := by
  obtain ⟨host, names, hhost, hne, hnames, hmem⟩ := haccepts.listed
  obtain ⟨stream, hstream, hsection⟩ := Except.bind_eq_ok_iff.mp hsection
  obtain ⟨reality', hreality, hsection⟩ := Except.bind_eq_ok_iff.mp hsection
  obtain rfl : reality' = reality := Except.ok.inj hsection
  obtain ⟨streamSettings, realitySettings, dest, serverNames, hstream', hreality', hdest, hnames',
    hfoundDest, hfoundNames⟩ := extractInbound_reality h
  obtain rfl : stream = streamSettings :=
    Except.ok.inj ((PyVal.get_of_item hstream _).symm.trans hstream')
  rw [orElse_of_truthy (truthy_of_item hreality)] at hreality'
  obtain rfl : reality' = realitySettings :=
    Except.ok.inj ((PyVal.get_of_item hreality _).symm.trans hreality')
  rw [orElse_of_truthy (truthy_of_item hnames)] at hdest hnames'
  obtain ⟨dest', hdest', htruthy, hname⟩ := dest_of_realityDestHost hhost hne
  obtain rfl : dest' = dest := Except.ok.inj (hdest'.symm.trans hdest)
  obtain rfl : PyVal.list names = serverNames :=
    Except.ok.inj ((PyVal.get_of_item hnames _).symm.trans hnames')
  have hnonempty : (PyVal.list names).truthy = true := by
    cases names with
    | nil => cases hmem
    | cons name names => rfl
  rw [foundStr, if_pos htruthy] at hfoundDest
  rw [foundList, if_pos hnonempty] at hfoundNames
  intro d hd
  obtain rfl : dest'.toStr = d := Option.some.inj (hfoundDest.symm.trans hd)
  refine ⟨by rwa [hname], names, (Except.ok.inj hfoundNames).symm, ?_⟩
  rwa [hname]

/-- Where no inbound after the tagged one has a Reality section, what a
regenerate takes over is what the tagged one has. -/
theorem takesOver_of_section {doc inbound reality : PyVal} {before after : List PyVal}
    (hitems : doc.item "inbounds" = .ok (.list (before ++ inbound :: after)))
    (hafter : ∀ x ∈ after, NoReality x)
    (hsection : PyVal.itemAt ["streamSettings", "realitySettings"] inbound = .ok reality)
    (haccepts : SectionAccepts reality) : TakesOver doc := by
  intro found hfound
  rw [extractDocument, PyVal.get_of_item hitems, Except.ok_bind_eq, PyVal.iter_list,
    Except.ok_bind_eq] at hfound
  obtain ⟨between, -, hrest⟩ := extractInbounds_append hfound
  obtain ⟨found₁, hinbound, hrest⟩ := Except.bind_eq_ok_iff.mp hrest
  obtain ⟨hdest, hnames⟩ := extractInbounds_of_noReality hafter hrest
  rw [hdest, hnames]
  exact namesListed_of_sectionAccepts hsection haccepts hinbound

/-! ## the builder's part -/

/-- The destinations a Reality build chooses from name a host, and no inbound
after the tagged one has a Reality section. -/
structure NamesDests (ps : VpnProfileSettings) (template : PyVal) : Prop where
  chosen : ∀ dest ∈ ps.realityDestHosts, destHostname dest ≠ ""
  kept : ps.realityDestHosts = [] → documentDestHost ps.inboundTag template ≠ .ok ""
  single : ∀ items before inbound after, template.item "inbounds" = .ok (.list items) →
    TagSplit ps.inboundTag items before inbound after → ∀ x ∈ after, NoReality x

section Builder

variable {crypto : Crypto} {env : BuildEnv} {ps : VpnProfileSettings} {req : BuildRequest}
  {template : PyVal} {result : BuildResult} {reality reality' : PyVal} {host : String}

theorem realityDestHost_of_sameAt (h : reality.SameAt reality' "dest") :
    realityDestHost reality' = realityDestHost reality := by
  rw [realityDestHost, realityDestHost, h.get]

theorem realityDestHost_of_setItem {dest : String} (hne : destHostname dest ≠ "")
    (h : reality.setItem "dest" (.str dest) = .ok reality') :
    realityDestHost reality' = .ok (destHostname dest) := by
  have hdest : dest ≠ "" := by
    rintro rfl
    exact hne (by decide)
  have htruthy : (PyVal.str dest).truthy = true := by simpa [PyVal.truthy] using hdest
  rw [realityDestHost, PyVal.get_of_item (PyVal.item_self_of_setItem h), Except.ok_bind_eq,
    orElse_of_truthy htruthy]
  rfl

/-- A pinned section lists its host. -/
theorem listed_of_pinServerNames (hhost : realityDestHost reality = .ok host) (hne : host ≠ "")
    (h : pinServerNames reality = .ok reality') :
    ∃ names, realityDestHost reality' = .ok host ∧
      reality'.item "serverNames" = .ok (.list names) ∧ .str host ∈ names := by
  obtain ⟨dest, hdest, htruthy, hname⟩ := dest_of_realityDestHost hhost hne
  rw [pinServerNames, hdest, Except.ok_bind_eq] at h
  simp only [orElse_of_truthy htruthy, hname, if_pos hne] at h
  have hsame : reality.SameAt reality' "dest" := PyVal.sameAt_of_setItem h (by decide)
  exact ⟨_, (realityDestHost_of_sameAt hsame).trans hhost, PyVal.item_self_of_setItem h,
    List.mem_singleton.mpr rfl⟩

/-- Whatever the policy, the section lists its host: what is taken over lists
it, and what is chosen is pinned. -/
theorem listed_of_setDest
    (hprevious : ∀ previous, req.previous = some previous →
      NamesListed previous.realityDest previous.realityServerNames)
    (hchosen : ∀ dest ∈ ps.realityDestHosts, destHostname dest ≠ "")
    (hkept : ps.realityDestHosts = [] → realityDestHost reality ≠ .ok "")
    (h : setDest env ps req reality = .ok reality') :
    ∃ host names, realityDestHost reality' = .ok host ∧ host ≠ "" ∧
      reality'.item "serverNames" = .ok (.list names) ∧ .str host ∈ names := by
  unfold setDest at h
  split at h
  · next dest hdest _ =>
    obtain ⟨previous, hprev, hdest⟩ := Option.bind_eq_some_iff.mp hdest
    obtain ⟨hdest, -⟩ := nonEmpty_eq_some_iff.mp hdest
    obtain ⟨hne, names, hnames, hmem⟩ := hprevious previous hprev dest hdest
    obtain ⟨reality₁, hset, h⟩ := Except.bind_eq_ok_iff.mp h
    have hhost := realityDestHost_of_setItem hne hset
    rw [hprev, Option.bind_some, hnames] at h
    cases names with
    | nil => cases hmem
    | cons name rest =>
        have hnamed : reality₁.setItem "serverNames" (.list (name :: rest)) = .ok reality' := h
        have hsame : reality₁.SameAt reality' "dest" := PyVal.sameAt_of_setItem hnamed (by decide)
        exact ⟨_, _, (realityDestHost_of_sameAt hsame).trans hhost, hne,
          PyVal.item_self_of_setItem hnamed, hmem⟩
  · split at h
    · next dest hdrawn =>
      obtain ⟨reality₁, hset, hpin⟩ := Except.bind_eq_ok_iff.mp h
      have hne := hchosen dest (randomChoice_mem hdrawn)
      obtain ⟨names, hhost, hnames, hmem⟩ :=
        listed_of_pinServerNames (realityDestHost_of_setItem hne hset) hne hpin
      exact ⟨_, names, hhost, hne, hnames, hmem⟩
    · next hnone =>
      rw [Except.ok_bind_eq] at h
      have hempty : ps.realityDestHosts = [] := by
        by_contra hsome
        obtain ⟨dest, hdrawn⟩ := exists_randomChoice env.destDraw hsome
        rw [hnone] at hdrawn
        cases hdrawn
      obtain ⟨dest, hdest, -⟩ := Except.bind_eq_ok_iff.mp h
      have hhost : realityDestHost reality =
          .ok (destHostname (dest.orElse (.str "")).toStr) := by
        rw [realityDestHost, hdest]
        rfl
      have hne : destHostname (dest.orElse (.str "")).toStr ≠ "" := fun hblank =>
        hkept hempty (by rw [hhost, hblank])
      obtain ⟨names, hhost', hnames, hmem⟩ := listed_of_pinServerNames hhost hne h
      exact ⟨_, names, hhost', hne, hnames, hmem⟩

/-- The tagged inbound of a Reality build. -/
theorem sectionAccepts_of_buildXrayReality
    (hprevious : ∀ previous, req.previous = some previous →
      NamesListed previous.realityDest previous.realityServerNames)
    (hdests : NamesDests ps template)
    (h : buildXrayReality crypto env ps req template = .ok result) :
    NamesAccepted ps.inboundTag result.configData := by
  obtain ⟨port, -, h⟩ := Except.bind_eq_ok_iff.mp h
  simp only at h
  obtain ⟨⟨config, u⟩, hmodify, h⟩ := Except.bind_eq_ok_iff.mp h
  obtain ⟨inbound, inbound', before, after, hf, hchanged⟩ := modifyInbound_spec hmodify
  obtain ⟨inbound₁, hlisten, hf⟩ := Except.bind_eq_ok_iff.mp hf
  obtain ⟨inbound₂, hstream, hf⟩ := Except.bind_eq_ok_iff.mp hf
  obtain ⟨inbound₃, hclient, hf⟩ := Except.bind_eq_ok_iff.mp hf
  obtain rfl : inbound₃ = inbound' := by simpa using hf
  obtain ⟨stream, stream', hitem, hreality, hstream', hstreamSame⟩ := PyVal.modifyItem_spec hstream
  obtain ⟨reality, reality', hsection, hset, hreality', -⟩ := PyVal.modifyItem_spec hreality
  obtain ⟨reality₁, hids, hset⟩ := Except.bind_eq_ok_iff.mp hset
  obtain ⟨reality₂, hkey, hdest⟩ := Except.bind_eq_ok_iff.mp hset
  have htag : inbound.SameAt inbound₃ "tag" :=
    ((setListen_sameAt hlisten (by decide) (by decide)).trans (hstreamSame _ (by decide))).trans
      (setClientId_sameAt hclient (by decide))
  have hlistenStream : inbound.SameAt inbound₁ "streamSettings" :=
    setListen_sameAt hlisten (by decide) (by decide)
  rw [hlistenStream.item] at hitem
  -- the destination of the template is still there when `dest` is chosen
  have hsame : reality.SameAt reality₂ "dest" :=
    (PyVal.sameAt_of_setItem hids (by decide)).trans (PyVal.sameAt_of_setItem hkey (by decide))
  have hfound : findInbound template ps.inboundTag = .ok inbound :=
    findInbound_eq_ok_iff.mpr ⟨_, before, after, hchanged.inbounds, hchanged.split⟩
  have hkept : ps.realityDestHosts = [] → realityDestHost reality₂ ≠ .ok "" := by
    intro hempty hblank
    refine hdests.kept hempty ?_
    rw [documentDestHost, hfound, Except.ok_bind_eq, hitem, Except.ok_bind_eq, hsection,
      Except.ok_bind_eq, ← realityDestHost_of_sameAt hsame, hblank]
  have hshortIds : reality'.item "shortIds" = .ok (.list (chooseShortIds env req)) := by
    have hidsKept : reality₁.SameAt reality₂ "shortIds" :=
      PyVal.sameAt_of_setItem hkey (by decide)
    rw [(setDest_sameAt hdest (by decide) (by decide)).item, hidsKept.item,
      PyVal.item_self_of_setItem hids]
  have haccepts : SectionAccepts reality' :=
    ⟨listed_of_setDest hprevious hdests.chosen hkept hdest, _, hshortIds⟩
  have hpath : PyVal.itemAt ["streamSettings", "realitySettings"] inbound₃ = .ok reality' := by
    have hitem' : inbound₃.item "streamSettings" = .ok stream' := by
      rw [(setClientId_sameAt hclient (by decide)).item, hstream']
    rw [PyVal.itemAt_cons hitem', PyVal.itemAt_cons hreality']
    rfl
  have hfind : findInbound config ps.inboundTag = .ok inbound₃ :=
    findInbound_eq_ok_iff.mpr ⟨_, before, after, hchanged.inbounds', hchanged.split' htag⟩
  rw [← Except.ok.inj h]
  constructor
  · refine ⟨reality', ?_, haccepts⟩
    show taggedReality ps.inboundTag config = .ok reality'
    rw [taggedReality, hfind, Except.ok_bind_eq, hpath]
  · exact takesOver_of_section hchanged.inbounds'
      (hdests.single _ before inbound after hchanged.inbounds hchanged.split) hpath haccepts

end Builder

/-! ## all versions of a run -/

/-- The document of a stored Reality version accepts its links. -/
def NamesRecord (ctx : Ctx) (profile : ConfigProfile) (row : VpnConfigVersionModel) : Prop :=
  profile = .xrayReality → ∃ ps doc, ctx.settings.profileSettings .xrayReality = .ok ps ∧
    row.document ctx .xrayReality = .ok doc ∧ NamesAccepted ps.inboundTag doc

/-- The same of a result that is not stored yet. -/
def NamesResult (ctx : Ctx) (profile : ConfigProfile) (result : BuildResult) : Prop :=
  profile = .xrayReality → ∃ ps, ctx.settings.profileSettings .xrayReality = .ok ps ∧
    NamesAccepted ps.inboundTag result.configData

/-- The document of an edit accepts its links. -/
def EditsNamed (ctx : Ctx) (profile : ConfigProfile) (plan : EditPlan)
    (loaded row : VpnConfigVersionModel) : Prop :=
  NamesRecord ctx profile (plan.update loaded row)

/-- An execution that builds has what the builder makes of the tables, and a
Reality build a template and settings that name its destinations. -/
def BuildsNamed (ctx : Ctx) (crypto : Crypto) (w : World) : Action → Prop
  | .work e env => ∀ x, w.executions e = some x → x.stage = .building →
      ∃ benv usedPorts req, buildRequest ctx w.db usedPorts x.payload = .ok req ∧
        env.built = build crypto ctx.settings benv req x.payload.profile ∧
        (x.payload.profile = .xrayReality → ∀ ps template,
          ctx.settings.profileSettings .xrayReality = .ok ps → benv.template = .ok template →
          NamesDests ps template)
  | _ => True

section Runs

variable {ctx : Ctx} {crypto : Crypto}

theorem BuildsNamed.honest {w : World} {a : Action} (h : BuildsNamed ctx crypto w a) :
    BuildsHonestly ctx crypto w a := by
  cases a with
  | work e env =>
      intro x he hstage
      obtain ⟨benv, usedPorts, req, hreq, hbuilt, -⟩ := h x he hstage
      exact ⟨benv, usedPorts, req, hreq, hbuilt⟩
  | _ => trivial

/-- The row of a result. -/
theorem namesRecord_of_insertVersion {env : TaskEnv} {p : Payload} {result : BuildResult} {db : Db}
    {row : VpnConfigVersionModel} (h : NamesResult ctx p.profile result)
    (hinsert : insertVersion ctx env p result db = .ok row) : NamesRecord ctx p.profile row := by
  intro hprofile
  obtain ⟨ps, hps, hnames⟩ := h hprofile
  have hdoc := document_of_insertVersion hinsert
  rw [hprofile] at hdoc
  exact ⟨ps, result.configData, hps, hdoc, hnames⟩

/-- What a Reality regenerate takes over from a version whose links are
accepted. -/
theorem namesListed_of_previousVersion {db : Db} {p : Payload} {config : VpnConfigModel}
    {previous : PreviousVersion} (hconfig : db.configs p.configId = some config)
    (hprofile : config.profile = .xrayReality)
    (hstored : ∀ v row, db.versions p.configId v = some row →
      NamesRecord ctx config.profile row)
    (h : previousVersion ctx db p = .ok (some previous)) :
    NamesListed previous.secrets.realityDest previous.secrets.realityServerNames := by
  obtain ⟨config', row, privatePlain, hconfig', hrow, -, -, hplain, hsecrets⟩ :=
    previousVersion_spec h
  obtain rfl : config = config' := Option.some.inj (hconfig.symm.trans hconfig')
  obtain ⟨ps, doc, -, hdoc, hnames⟩ := hstored _ row hrow hprofile
  rw [hprofile] at hplain hsecrets
  obtain rfl : doc = previous.configPlain := Except.ok.inj (hdoc.symm.trans hplain)
  obtain ⟨inbounds, hinbounds, hsecrets⟩ := Except.bind_eq_ok_iff.mp hsecrets
  obtain ⟨items, hitems, hsecrets⟩ := Except.bind_eq_ok_iff.mp hsecrets
  obtain ⟨found, hfound, hsecrets⟩ := Except.bind_eq_ok_iff.mp hsecrets
  have hextract : extractDocument previous.configPlain = .ok found := by
    rw [extractDocument, hinbounds, Except.ok_bind_eq, hitems, Except.ok_bind_eq, hfound]
  rw [← Except.ok.inj hsecrets]
  exact hnames.takesOver found hextract

/-- A Reality build on versions whose links are accepted makes one. -/
theorem namesResult_of_build {w : World} {a : Action} {p : Payload} {env : TaskEnv}
    {result : BuildResult} (h : Versioned (NamesRecord ctx) (NamesResult ctx) w)
    (hstored : Stored (NamesRecord ctx) w) (hnamed : BuildsNamed ctx crypto w a)
    (hbuild : BuildsDocuments ctx w a p env result) : NamesResult ctx p.profile result := by
  intro hreality
  obtain ⟨e, x, h', rfl, he, hstage, rfl, hx⟩ := hbuild
  obtain ⟨benv, usedPorts, req, hreq, hbuilt, hdests⟩ := hnamed x he hstage
  obtain ⟨ps, built, port, hps, hok, -, hresult, hwritten⟩ := written_of_buildDocuments hx
  have hflight : InFlight w x.payload := .execution e x he rfl
  obtain ⟨config, hconfig⟩ := h.sound.owned.inFlight x.payload hflight
  have hprofile : config.profile = .xrayReality := by
    rw [← h.profiled x.payload config hflight hconfig, hreality]
  rw [hok, hreality] at hbuilt
  rw [hreality] at hps hwritten
  unfold build at hbuilt
  rw [hps, Except.ok_bind_eq] at hbuilt
  obtain ⟨template, htemplate, hbuilt⟩ := Except.bind_eq_ok_iff.mp hbuilt.symm
  have hprevious (secrets : PreviousSecrets) (hsecrets : req.stripHost.previous = some secrets) :
      NamesListed secrets.realityDest secrets.realityServerNames := by
    rw [req.stripHost_previous] at hsecrets
    obtain ⟨previous, hversion, rfl⟩ := previous_of_buildRequest hreq hsecrets
    exact namesListed_of_previousVersion hconfig hprofile (fun v row => hstored _ _ v row hconfig)
      hversion
  have hnames := sectionAccepts_of_buildXrayReality hprevious
    (hdests hreality ps template hps htemplate) hbuilt
  have hfiles := (buildXrayReality_spec hbuilt).extraFiles
  refine ⟨ps, hps, ?_⟩
  rw [hwritten.eq_of_noFiles hfiles]
  exact hnames

end Runs

/-- **When Reality links name a server name that is taken.**  In every state of
a run whose Reality builds name their destinations, every stored Reality version
lists the host its links advertise, and so does what a regenerate would take
over from it, exactly when the document of every edit that commits does. -/
theorem namesAccepted_iff (ctx : Ctx) (crypto : Crypto) (host : Host) (as : List Action)
    (h : Machine.Meets (step ctx) (BuildsNamed ctx crypto) (World.init host) as) :
    (∀ bs, bs <+: as → Stored (NamesRecord ctx) (runFrom ctx host bs)) ↔
      Machine.Meets (step ctx) (AtEditCommit (EditsNamed ctx)) (World.init host) as :=
  stored_iff (fun _ _ _ _ _ => namesResult_of_build)
    (fun _ _ _ _ _ => namesRecord_of_insertVersion) (fun _ _ _ _ _ => Iff.rfl) h

/-- The destination of the edited version is taken over. -/
def keptDest : BuildRequest where
  previous := some {
    clientId := some (.str "uuid")
    privateKey := some "x25519"
    publicKey := some "pub:x25519"
    shortIds := some [.str "0a"]
    realityDest := some "b.example:443"
    realityServerNames := some [.str "b.example"] }
  excludePorts := [443]
  policy := { rotateDest := false }

def keptDestEnv : TaskEnv where
  built := build Crypto.sample Ctx.allProfiles.settings (BuildEnv.sample (realityTemplate []))
    keptDest .xrayReality

/-- A Reality config is built, its destination edited, and the config
regenerated under a policy that keeps it. -/
def realityKept : List Action :=
  realityEdited "x25519" ++
    [.patchPolicy 2 0 [(.dest, false)], .advance 2 {}, .advance 2 {}, .advance 2 {},
      .regenerate 3 0, .advance 3 {}, .advance 3 {}, .advance 3 { publish := .accepted 1 },
      .advance 3 {}, .deliver 1 1] ++
    List.replicate 8 (.work 1 keptDestEnv) ++ [.finish 1]

/-- The sample template has one inbound, and names its destination. -/
theorem namesDests_sample {ps : VpnProfileSettings}
    (hps : Ctx.allProfiles.settings.profileSettings .xrayReality = .ok ps) :
    NamesDests ps (realityTemplate []) := by
  cases hps
  refine ⟨nofun, fun _ hblank => ?_, ?_⟩
  · exact absurd (Except.ok.inj hblank) (by decide)
  · rintro items before inbound after ⟨⟩ ⟨heq, -, -⟩ y hy
    have hafter : after = [] := by
      cases before with
      | nil => exact (List.cons.inj heq).2.symm
      | cons x before => exact absurd (List.cons.inj heq).2.symm (by simp)
    rw [hafter] at hy
    cases hy

theorem buildsNamed_of_buildsSample {w : World} {a : Action} (h : buildsSample w a = true) :
    BuildsNamed Ctx.allProfiles Crypto.sample w a := by
  cases a with
  | work e env =>
      intro x he hstage
      obtain ⟨hprofile, req, hreq, hbuilt⟩ := build_of_buildsSample he hstage h
      refine ⟨BuildEnv.sample (realityTemplate []), [], req, hreq, hprofile ▸ hbuilt, ?_⟩
      intro _ ps template hps htemplate
      cases htemplate
      exact namesDests_sample hps
  | _ => trivial

/-- Whether the row of an edit has the sample document. -/
def leavesSample (_ : ConfigProfile) (plan : EditPlan) (loaded row : VpnConfigVersionModel) :
    Bool :=
  (plan.update loaded row).document Ctx.allProfiles .xrayReality = .ok (realityDocument "x25519")

def editsSample (w : World) : Action → Bool
  | .advance r _ => editCheck leavesSample w r
  | _ => true

theorem namesAccepted_realityDocument : NamesAccepted "vless" (realityDocument "x25519") where
  accepts := by
    refine ⟨_, rfl, ⟨"b.example", [.str "b.example"], ?_, by decide, rfl, by simp⟩, _, rfl⟩
    decide
  takesOver := by
    intro found hfound
    cases hfound
    intro d hd
    cases hd
    exact ⟨by decide, [.str "b.example"], rfl, by decide⟩

theorem editsNamed_of_editsSample {w : World} {a : Action} (h : editsSample w a = true) :
    AtEditCommit (EditsNamed Ctx.allProfiles) w a := by
  cases a with
  | advance r env =>
      refine atEditCommit_of_check (b := leavesSample)
        (fun profile plan loaded row hcheck _ => ?_) h
      exact ⟨_, _, rfl, of_decide_eq_true hcheck, namesAccepted_realityDocument⟩
  | _ => trivial

/-- Both hold all along the run. -/
theorem realityKept_checks :
    Machine.Meets (step Ctx.allProfiles)
      (fun w a => buildsSample w a = true ∧ editsSample w a = true) (World.init Host.blank)
      realityKept := by
  decide +kernel

/-- The edited version and the one that takes over from it. -/
theorem namesAccepted_realityKept :
    Stored (NamesRecord Ctx.allProfiles) (runFrom Ctx.allProfiles Host.blank realityKept) :=
  (namesAccepted_iff Ctx.allProfiles Crypto.sample Host.blank realityKept
    (realityKept_checks.mono fun _ _ h => buildsNamed_of_buildsSample h.1)).mpr
    (realityKept_checks.mono fun _ _ h => editsNamed_of_editsSample h.2) realityKept
    (List.prefix_refl _)

end VpnPanel
