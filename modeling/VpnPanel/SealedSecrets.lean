import VpnPanel.BuiltSecrets

/-!
# VpnPanel.SealedSecrets

The secrets of the stored documents: where they stand in plaintext.

The encryption goes by fixed paths, the first of which leads to the *first*
inbound, and touches non-empty strings only; the server uses the inbound with
the profile's tag, takes any scalar for a password, and a document can say a
secret in several places.

* `secretFields` — what a server of a profile keeps secret;
* `SecretsSealed` — the stored document says it only where it is encrypted;
* `onlyEncrypted_iff` — for which documents that is so;
* `saysNoSecret_of_unlikeGiven` — what is enough for a build;
* `secretsSealed_iff` — for which templates and submissions.
-/

namespace VpnPanel

/-! ## secrets -/

/-- What a server of the profile keeps secret, where its document says it. -/
def secretFields (tag : String) : ConfigProfile → List (PyVal → Except PyErr PyVal)
  | .xrayReality => [realityPrivateKey tag]
  | .hysteria2 =>
      [PyVal.itemAt ["auth", "password"], PyVal.itemAt ["obfs", "salamander", "password"]]
  | .xrayGrpc | .xrayXhttp => []

/-- Where the stored document says what `shows` looks for, it has the encryption
of what the served one has there. -/
structure OnlyEncrypted (encryptor : FieldEncryptor) (shows : String → Prop)
    (served stored : PyVal) : Prop where
  scalar : ∀ pos v, stored.at? pos = some v → isSecret v = true → shows v.toStr →
    ∃ s nonces, nonces ≠ [] ∧ served.stringAt pos = some s ∧
      v = .str (encryptor.cipher.sealString nonces s)
  key : ∀ pos kvs, stored.at? pos = some (.dict kvs) → ∀ key ∈ kvs.map Prod.fst, ¬ shows key

/-- The stored document says no secret of the served one but encrypted.
`shows secret text` is whether the text gives the secret away. -/
def SecretsSealed (encryptor : FieldEncryptor) (shows : String → String → Prop) (tag : String)
    (profile : ConfigProfile) (served stored : PyVal) : Prop :=
  ∀ field ∈ secretFields tag profile, ∀ secret, field served = .ok secret →
    isSecret secret = true → OnlyEncrypted encryptor (shows secret.toStr) served stored

/-- A document says no secret of the served one. -/
def SaysNoSecret (shows : String → String → Prop) (tag : String) (profile : ConfigProfile)
    (served doc : PyVal) : Prop :=
  ∀ field ∈ secretFields tag profile, ∀ secret, field served = .ok secret →
    isSecret secret = true → ¬ PlainText (shows secret.toStr) doc

/-! ## other strings -/

variable {encryptor : FieldEncryptor} {served : PyVal} {g : List Nat → String → String}

/-- **Which documents are stored without plaintext.**  Those that say nothing
without the strings that get a layer. -/
theorem onlyEncrypted_iff (hlong : encryptor.cipher.Lengthens) (shows : String → Prop)
    (served : PyVal) (nonces : List Nat → List Nat) :
    OnlyEncrypted encryptor shows served
        (served.mapStrings fun pos s => encryptor.cipher.sealString (nonces pos) s) ↔
      ¬ PlainText shows (served.mapStrings fun pos s => if nonces pos = [] then s else "") := by
  constructor
  · rintro h (⟨pos, w, hat, hsecret, hshows⟩ | ⟨pos, kvs, hat, key, hkey, hshows⟩)
    · obtain ⟨s, hs, rfl⟩ | ⟨hw, hnone⟩ := at?_mapStrings_secret hat hsecret
      · have hnil : nonces pos = [] := by
          by_contra hne
          simp [hne, isSecret] at hsecret
        rw [if_pos hnil] at hsecret hshows
        have hne : s ≠ "" := by simpa [isSecret] using hsecret
        have hstored : (served.mapStrings fun pos s =>
            encryptor.cipher.sealString (nonces pos) s).at? pos = some (.str s) := by
          rw [← PyVal.stringAt_eq_some_iff, PyVal.stringAt_mapStrings, hs, Option.map_some, hnil]
          simp [Cipher.sealString]
        obtain ⟨t, nonces', hlayers, ht, heq⟩ := h.scalar pos _ hstored hsecret hshows
        obtain rfl := Option.some.inj (hs.symm.trans ht)
        exact hlayers ((Cipher.sealString_eq_self_iff hlong hne).mp (PyVal.str.inj heq).symm)
      · obtain ⟨t, -, -, ht, -⟩ :=
          h.scalar pos w (at?_mapStrings_of_none hw hsecret hnone) hsecret hshows
        rw [hnone] at ht
        cases ht
    · obtain ⟨kvs', hat', hkeys⟩ := at?_mapStrings_dict.mpr (at?_mapStrings_dict.mp ⟨kvs, hat, rfl⟩)
      exact h.key pos kvs' hat' key (hkeys ▸ hkey) hshows
  · intro h
    constructor
    · intro pos w hat hsecret hshows
      obtain ⟨s, hs, rfl⟩ | ⟨hw, hnone⟩ := at?_mapStrings_secret hat hsecret
      · by_cases hnil : nonces pos = []
        · refine absurd (.scalar pos (.str s) ?_ ?_ ?_) h
          · rw [← PyVal.stringAt_eq_some_iff, PyVal.stringAt_mapStrings, hs, Option.map_some,
              if_pos hnil]
          · simpa [hnil, Cipher.sealString] using hsecret
          · simpa [hnil, Cipher.sealString] using hshows
        · exact ⟨s, nonces pos, hnil, hs, rfl⟩
      · exact absurd (.scalar pos w (at?_mapStrings_of_none hw hsecret hnone) hsecret hshows) h
    · intro pos kvs hat key hkey hshows
      obtain ⟨kvs', hat', hkeys⟩ := at?_mapStrings_dict.mpr (at?_mapStrings_dict.mp ⟨kvs, hat, rfl⟩)
      exact h (.key pos kvs' hat' key (hkeys ▸ hkey) hshows)

/-! ## the tagged inbound -/

/-- Parts that are no numbers are keys. -/
theorem getByPath_eq_ok_iff {path : List String}
    (hkeys : ∀ part ∈ path, (PyVal.parseInt part).toOption = none) {v w : PyVal} :
    getByPath path v = .ok w ↔ PyVal.itemAt path v = .ok w := by
  induction path generalizing v with
  | nil => simp [getByPath, PyVal.itemAt]
  | cons part path ih =>
      have hpart : ∀ c, getPart part v = .ok c ↔ v.item part = .ok c := by
        intro c
        cases v with
        | list xs =>
            have hno := hkeys part List.mem_cons_self
            cases hint : PyVal.parseInt part with
            | ok i => simp [hint, Except.toOption] at hno
            | error e => simp [getPart, hint, PyVal.item]
        | none | bool _ | int _ | float _ | str _ | dict _ => rfl
      have hrest := fun c : PyVal => ih (fun p hp => hkeys p (List.mem_cons_of_mem _ hp)) (v := c)
      rw [getByPath, PyVal.itemAt, Except.bind_eq_ok_iff, Except.bind_eq_ok_iff]
      constructor
      · rintro ⟨c, hc, hw⟩
        exact ⟨c, (hpart c).mp hc, (hrest c).mp hw⟩
      · rintro ⟨c, hc, hw⟩
        exact ⟨c, (hpart c).mpr hc, (hrest c).mpr hw⟩

/-- The position a key that is no number leads to. -/
theorem exists_pos_of_itemAt {path : List String}
    (hkeys : ∀ part ∈ path, (PyVal.parseInt part).toOption = none) {v w : PyVal}
    (h : PyVal.itemAt path v = .ok w) : ∃ pos, locate path v = some pos ∧ v.at? pos = some w :=
  getByPath_eq_ok_iff_locate.mp ((getByPath_eq_ok_iff hkeys).mpr h)

/-- A private key of an inbound that is not the first is not reached. -/
theorem plainText_of_not_tagFirst {shows : String → Prop} {tag key : String} {doc : PyVal}
    (hkey : realityPrivateKey tag doc = .ok (.str key)) (hne : key ≠ "") (hshows : shows key)
    (hno : ¬ TagFirst tag doc) :
    PlainText shows (treePlaces.blank (sensitiveFields .xrayReality) doc) := by
  obtain ⟨inbound, hfind, hread⟩ := Except.bind_eq_ok_iff.mp hkey
  obtain ⟨items, before, after, hitem, hsplit⟩ := findInbound_eq_ok_iff.mp hfind
  obtain rfl := hsplit.eq
  have hbefore : before ≠ [] := fun hnil => hno ((tagFirst_iff hitem hsplit).mpr hnil)
  have hitems : PyVal.itemAt ["inbounds"] doc = .ok (.list (before ++ inbound :: after)) := by
    rw [PyVal.itemAt, hitem]
    rfl
  obtain ⟨pos, hpos, hat⟩ := exists_pos_of_itemAt (by decide) hitems
  obtain ⟨rest, -, hrest⟩ := exists_pos_of_itemAt (by decide) hread
  simp only [locate, Option.bind_eq_bind, Option.bind_eq_some_iff, Option.some.injEq] at hpos
  obtain ⟨n, hn, list, hlist, pos, rfl, rfl⟩ := hpos
  obtain rfl : list = .list (before ++ inbound :: after) := by
    simpa [PyVal.at?, hlist] using hat
  have hstring : doc.at? (n :: before.length :: rest) = some (.str key) := by
    rw [PyVal.at?, hlist, Option.bind_some, PyVal.at?]
    simp [PyVal.children, hrest]
  have hnot : treePlaces.layers doc (n :: before.length :: rest) 0
      (sensitiveFields .xrayReality) = [] := by
    rw [Places.layers_eq_nil_iff]
    rintro ⟨path, hpath, hlocate⟩
    obtain rfl : path = _ := by simpa [sensitiveFields] using hpath
    change locate _ doc = some _ at hlocate
    have hzero : childPos "0" (.list (before ++ inbound :: after)) = some 0 := by
      have hparse : PyVal.parseInt "0" = .ok 0 := by decide
      have hlt : (0 : Int).toNat < (before ++ inbound :: after).length := by
        simp only [Int.toNat_zero, List.length_append, List.length_cons]
        omega
      simp only [childPos, hparse, listIndex, if_pos (Int.le_refl 0), if_pos hlt]
      rfl
    rw [locate, hn, Option.bind_eq_bind, Option.bind_some, hlist, Option.bind_eq_bind,
      Option.bind_some, locate, hzero] at hlocate
    simp only [Option.bind_eq_bind, Option.bind_some, Option.bind_eq_some_iff, Option.some.injEq,
      List.cons.injEq, true_and] at hlocate
    obtain ⟨q, ⟨c, -, q', -, rfl⟩, hq⟩ := hlocate
    exact hbefore (List.length_eq_zero_iff.mp (List.cons.inj hq).1.symm)
  refine .scalar (n :: before.length :: rest) (.str key) ?_ (by simpa [isSecret] using hne) hshows
  rw [← PyVal.stringAt_eq_some_iff] at hstring ⊢
  change (doc.mapStrings _).stringAt _ = _
  rw [PyVal.stringAt_mapStrings, hstring, Option.map_some, if_pos hnot]

/-! ## what is stored -/

/-- From a template, a build writes the document `served` and inserts the row. -/
def BuildStores (ctx : Ctx) (crypto : Crypto) (p : Payload) (benv : BuildEnv) (req : BuildRequest)
    (template served : PyVal) (row : VpnConfigVersionModel) : Prop :=
  ∃ env h h' result db, benv.template = .ok template ∧
    env.built = build crypto ctx.settings benv req p.profile ∧
    (buildDocuments ctx env p).exec h = (.ok result, h') ∧
    insertVersion ctx env p result db = .ok row ∧ served = result.configData

/-- Nothing a build is given beside the secrets it chooses gives one of them
away. -/
def UnlikeGiven (shows : String → String → Prop) (crypto : Crypto) (settings : PanelSettings)
    (benv : BuildEnv) (ps : VpnProfileSettings) (req : BuildRequest) (configId : ConfigId)
    (template : PyVal) (profile : ConfigProfile) : Prop :=
  ∀ secret ∈ chosenSecrets crypto benv req profile, ∀ t,
    BuildText crypto settings benv ps req configId template profile t → ¬ shows secret t

/-- From what a client submits, an edit writes the document `served` and stores
the document `stored`. -/
def EditStores (ctx : Ctx) (profile : ConfigProfile) (submitted : Submission)
    (served stored : PyVal) : Prop :=
  ∃ env db c draft loaded plan, planEdit ctx env db c submitted = .ok draft ∧
    draft.flush loaded = .ok plan ∧ plan.profile = profile ∧ plan.parsed = served ∧
    plan.stored = stored

section Stored

variable {ctx : Ctx} {crypto : Crypto} {profile : ConfigProfile} {ps : VpnProfileSettings}
  {shows : String → String → Prop}

/-- The row of a build says no secret exactly when its document without the
strings the encryption reaches says none. -/
theorem secretsSealed_row_iff (hlong : ctx.encryptor.cipher.Lengthens) {tag : String}
    {env : TaskEnv} {p : Payload} {result : BuildResult} {db : Db} {row : VpnConfigVersionModel}
    (h : insertVersion ctx env p result db = .ok row) :
    SecretsSealed ctx.encryptor shows tag p.profile result.configData row.configData ↔
      SaysNoSecret shows tag p.profile result.configData
        (treePlaces.blank (sensitiveFields p.profile) result.configData) := by
  obtain ⟨-, hstored⟩ := encryptConfigDataFields_eq_ok_iff.mp
    (versionRow_spec (versionRow_of_insertVersion h)).1
  have hnil (pos : List Nat) : treePlaces.layers result.configData pos env.nonce
      (sensitiveFields p.profile) = [] ↔ treePlaces.layers result.configData pos 0
        (sensitiveFields p.profile) = [] := by
    rw [Places.layers_eq_nil_iff, Places.layers_eq_nil_iff]
  refine forall₄_congr fun field hfield secret hsecret => forall_congr' fun _ => ?_
  rw [← hstored]
  refine (onlyEncrypted_iff hlong _ _ _).trans ?_
  simp only [hnil]
  rfl

/-- The document an edit stores says no secret exactly when the submitted one,
without the strings the encryption reaches, says none. -/
theorem secretsSealed_edit_iff (hlong : ctx.encryptor.cipher.Lengthens) {tag : String}
    {submitted : Submission} {served stored : PyVal} {document : PyGraph}
    (h : EditStores ctx profile submitted served stored)
    (hdocument : submitted.parse profile = .ok document) :
    SecretsSealed ctx.encryptor shows tag profile served stored ↔
      ∀ blanked, (graphPlaces.blank (sensitiveFields profile) document).tree.jsonColumn =
          .ok blanked → SaysNoSecret shows tag profile served blanked := by
  obtain ⟨env, db, c, draft, loaded, plan, hdraft, hflush, rfl, rfl, rfl⟩ := h
  obtain ⟨rfl, hparsed, hstored, -⟩ := EditDraft.flush_spec hflush
  obtain ⟨-, config, ps, snapshot, -, -, -, -, -, hparse, henc, -⟩ := planEdit_spec hdraft
  obtain rfl := Except.ok.inj (hdocument.symm.trans hparse)
  obtain ⟨-, hsealed⟩ := Aliased.encryptConfigDataFields_eq_ok_iff.mp henc
  obtain ⟨σ, hσ⟩ := PyObj.exists_columnPos plan.document.tree
  have hnil (slot : Slot) : graphPlaces.layers plan.document slot env.nonce
      (sensitiveFields plan.profile) = [] ↔ graphPlaces.layers plan.document slot 0
        (sensitiveFields plan.profile) = [] := by
    rw [Places.layers_eq_nil_iff, Places.layers_eq_nil_iff]
  have hrow : plan.stored = plan.parsed.mapStrings fun pos s =>
      ctx.encryptor.cipher.sealString (graphPlaces.layers plan.document
        (plan.document.slotAt (σ pos)) env.nonce (sensitiveFields plan.profile)) s := by
    rw [← hsealed, tree_sealedGraph, hσ, hparsed] at hstored
    exact (Except.ok.inj hstored).symm
  have hblank : (graphPlaces.blank (sensitiveFields plan.profile) plan.document).tree.jsonColumn =
      .ok (plan.parsed.mapStrings fun pos s => if graphPlaces.layers plan.document
        (plan.document.slotAt (σ pos)) env.nonce (sensitiveFields plan.profile) = [] then s
          else "") := by
    have hmap : graphPlaces.blank (sensitiveFields plan.profile) plan.document =
        plan.document.map fun slot s => if graphPlaces.layers plan.document slot 0
          (sensitiveFields plan.profile) = [] then s else "" := rfl
    rw [hmap, PyGraph.tree_map, hσ, hparsed]
    simp only [hnil]
    rfl
  simp only [hblank, Except.ok.injEq, forall_eq']
  refine forall₄_congr fun field hfield secret hsecret => forall_congr' fun _ => ?_
  rw [hrow]
  exact onlyEncrypted_iff hlong _ _ _

/-- A built Reality document that says its key only where the encryption reaches
it is made of a template with the tagged inbound first. -/
theorem tagFirst_of_saysNoSecret {benv : BuildEnv} {req : BuildRequest} {c : ConfigId}
    {template doc : PyVal} {built : BuildResult} (hself : ∀ secret, shows secret secret)
    (hps : ctx.settings.profileSettings .xrayReality = .ok ps)
    (htemplate : benv.template = .ok template)
    (hbuilt : build crypto ctx.settings benv req .xrayReality = .ok built)
    (hwritten : Written ctx.settings .xrayReality c built doc)
    (h : SaysNoSecret shows ps.inboundTag .xrayReality doc
      (treePlaces.blank (sensitiveFields .xrayReality) doc)) : TagFirst ps.inboundTag template := by
  unfold build at hbuilt
  rw [hps, htemplate] at hbuilt
  have hspec := buildXrayReality_spec hbuilt
  obtain ⟨inbound, inbound', before, after, hchanged, htag⟩ := hspec.changed
  have hfirst : TagFirst ps.inboundTag built.configData ↔ TagFirst ps.inboundTag template := by
    rw [tagFirst_iff hchanged.inbounds hchanged.split,
      tagFirst_iff hchanged.inbounds' (hchanged.split' htag)]
  rw [hwritten.eq_of_noFiles hspec.extraFiles] at h
  by_contra hno
  exact h _ (by simp [secretFields]) _ hspec.stored (by simp [isSecret, hspec.privateKey_ne])
    (plainText_of_not_tagFirst hspec.stored hspec.privateKey_ne (hself _)
      fun htagFirst => hno (hfirst.mp htagFirst))

/-- A Hysteria2 document has the passwords that were chosen, where it is written
too. -/
theorem password_of_written {settings : PanelSettings} {benv : BuildEnv} {req : BuildRequest}
    {c : ConfigId} {template doc : PyVal} {built : BuildResult}
    (hbuilt : buildHysteria2 crypto settings benv ps req.stripHost template = .ok built)
    (hwritten : Written settings .hysteria2 c built doc) {field : PyVal → Except PyErr PyVal}
    {tag : String} (hfield : field ∈ secretFields tag .hysteria2) {secret : PyVal}
    (hsecret : field doc = .ok secret) :
    ∃ s ∈ chosenSecrets crypto benv req .hysteria2, secret = .str s := by
  obtain ⟨hauth, hobfs⟩ := buildHysteria2_spec hbuilt
  have hread {k : String} {ks : List String} (hk : "tls" ≠ k) :
      PyVal.itemAt (k :: ks) doc = PyVal.itemAt (k :: ks) built.configData := by
    simp only [PyVal.itemAt, (hwritten.sameAt_hysteria2 hk).item]
  obtain rfl | rfl : field = PyVal.itemAt ["auth", "password"] ∨
      field = PyVal.itemAt ["obfs", "salamander", "password"] := by
    simpa [secretFields] using hfield
  · rw [hread (by decide), hauth, req.stripHost_previous, req.stripHost_policy] at hsecret
    exact ⟨_, List.mem_cons_self, (Except.ok.inj hsecret).symm⟩
  · rw [hread (by decide), hobfs, req.stripHost_previous, req.stripHost_policy] at hsecret
    exact ⟨_, List.mem_cons_of_mem _ List.mem_cons_self, (Except.ok.inj hsecret).symm⟩

/-- A build whose secrets are unlike all it is given says them only where the
encryption reaches. -/
theorem saysNoSecret_of_unlikeGiven {benv : BuildEnv} {req : BuildRequest} {c : ConfigId}
    {template doc : PyVal} {built : BuildResult}
    (hps : ctx.settings.profileSettings profile = .ok ps) (htemplate : benv.template = .ok template)
    (hbuilt : build crypto ctx.settings benv req profile = .ok built)
    (hwritten : Written ctx.settings profile c built doc)
    (hfirst : profile = .xrayReality → TagFirst ps.inboundTag template)
    (hunlike : UnlikeGiven shows crypto ctx.settings benv ps req c template profile) :
    SaysNoSecret shows ps.inboundTag profile doc
      (treePlaces.blank (sensitiveFields profile) doc) := by
  unfold build at hbuilt
  rw [hps, htemplate] at hbuilt
  cases profile with
  | xrayReality =>
      have hspec := buildXrayReality_spec hbuilt
      rw [hwritten.eq_of_noFiles hspec.extraFiles]
      intro field hfield secret hsecret _
      obtain rfl := List.mem_singleton.mp hfield
      obtain rfl := Except.ok.inj (hspec.stored.symm.trans hsecret)
      have hkey : built.privateKey = (chooseRealityKeys crypto benv req).1 := by
        rw [← chooseRealityKeys_stripHost, ← hspec.keys]
      refine not_plainText_of_onlyAt (onlyAt_buildXrayReality hbuilt (hfirst rfl) fun t ht => ?_)
      exact hunlike _ (List.mem_singleton.mpr hkey) t ht
  | hysteria2 =>
      intro field hfield secret hsecret _
      obtain ⟨s, hs, rfl⟩ := password_of_written hbuilt hwritten hfield hsecret
      refine not_plainText_of_onlyAt (onlyAt_written hps ?_ hwritten (hunlike s hs))
      exact onlyAt_buildHysteria2 hbuilt (hunlike s hs)
  | xrayGrpc | xrayXhttp =>
      intro field hfield
      cases hfield

/-- **When secrets are stored encrypted only**, for whatever counts as giving a
secret away.  Those of a build, exactly when a Reality template has the inbound
with the profile's tag first and the built document says no secret beside the
fields the encryption reaches, as it does when nothing the build is given beside
them gives one away; those of an edit, exactly when the submitted document says
none beside the strings the encryption reaches. -/
theorem secretsSealed_iff (ctx : Ctx) (crypto : Crypto) (profile : ConfigProfile)
    (ps : VpnProfileSettings) (hps : ctx.settings.profileSettings profile = .ok ps)
    (shows : String → String → Prop) (hself : ∀ secret, shows secret secret)
    (hlong : ctx.encryptor.cipher.Lengthens) :
    (∀ p benv req template served row, p.profile = profile →
      BuildStores ctx crypto p benv req template served row →
        (SecretsSealed ctx.encryptor shows ps.inboundTag profile served row.configData ↔
          (profile = .xrayReality → TagFirst ps.inboundTag template) ∧
            SaysNoSecret shows ps.inboundTag profile served
              (treePlaces.blank (sensitiveFields profile) served)) ∧
        ((profile = .xrayReality → TagFirst ps.inboundTag template) →
          UnlikeGiven shows crypto ctx.settings benv ps req p.configId template profile →
            SecretsSealed ctx.encryptor shows ps.inboundTag profile served row.configData)) ∧
      ∀ submitted document served stored, submitted.parse profile = .ok document →
        EditStores ctx profile submitted served stored →
          (SecretsSealed ctx.encryptor shows ps.inboundTag profile served stored ↔
            ∀ blanked, (graphPlaces.blank (sensitiveFields profile) document).tree.jsonColumn =
              .ok blanked → SaysNoSecret shows ps.inboundTag profile served blanked) := by
  constructor
  · rintro p benv req template served row rfl ⟨env, h, h', result, db, htemplate, hbuilt, hx,
      hinsert, rfl⟩
    obtain ⟨ps', built, port, -, hok, -, -, hwritten⟩ := written_of_buildDocuments hx
    rw [hok] at hbuilt
    rw [secretsSealed_row_iff hlong hinsert]
    constructor
    · constructor
      · intro hsays
        refine ⟨fun hprofile => ?_, hsays⟩
        rw [hprofile] at hps hbuilt hwritten hsays
        exact tagFirst_of_saysNoSecret hself hps htemplate hbuilt.symm hwritten hsays
      · exact fun h => h.2
    · exact saysNoSecret_of_unlikeGiven hps htemplate hbuilt.symm hwritten
  · intro submitted document served stored hdocument hstores
    exact secretsSealed_edit_iff hlong hstores hdocument

end Stored

/-- The document and the row it stores. -/
def realityStored (template : PyVal) : Except PyErr (PyVal × VpnConfigVersionModel) := do
  let p : Payload := ⟨0, .xrayReality, "c", 1⟩
  let result ← ((buildDocuments Ctx.allProfiles (realityBuildEnv template) p).exec Host.blank).1
  let row ← insertVersion Ctx.allProfiles (realityBuildEnv template) p result Db.empty
  .ok (result.configData, row)

theorem buildStores_of_realityStored {template served : PyVal} {row : VpnConfigVersionModel}
    (h : realityStored template = .ok (served, row)) :
    BuildStores Ctx.allProfiles Crypto.sample ⟨0, .xrayReality, "c", 1⟩
      (BuildEnv.sample template) {} template served row := by
  obtain ⟨result, hx, h⟩ := Except.bind_eq_ok_iff.mp h
  obtain ⟨row', hinsert, h⟩ := Except.bind_eq_ok_iff.mp h
  obtain ⟨rfl, rfl⟩ : result.configData = served ∧ row' = row := by simpa using h
  exact ⟨realityBuildEnv template, Host.blank, _, result, Db.empty, rfl, rfl, Prod.ext hx rfl,
    hinsert, rfl⟩

theorem sample_lengthens : FieldEncryptor.sample.cipher.Lengthens := by
  intro nonce s
  have hlength : "gAAAAA".length = 6 := rfl
  simp [FieldEncryptor.cipher, FieldEncryptor.sample, hlength]

/-- A build from a template with the tagged inbound only. -/
theorem secretsSealed_of_taggedOnly :
    ∃ served row, BuildStores Ctx.allProfiles Crypto.sample ⟨0, .xrayReality, "c", 1⟩
        (BuildEnv.sample (realityTemplate [])) {} (realityTemplate []) served row ∧
      SecretsSealed FieldEncryptor.sample Eq "vless" .xrayReality served row.configData := by
  obtain ⟨⟨served, row⟩, hrun⟩ : ∃ out, realityStored (realityTemplate []) = .ok out := ⟨_, rfl⟩
  have hstores := buildStores_of_realityStored hrun
  have hiff := (secretsSealed_iff Ctx.allProfiles Crypto.sample .xrayReality _ rfl Eq
    (fun _ => rfl) sample_lengthens).1 _ _ _ _ _ _ rfl hstores
  refine ⟨served, row, hstores, hiff.1.mpr ⟨fun _ => ⟨_, _, rfl, rfl⟩, ?_⟩⟩
  cases hrun
  intro field hfield secret hsecret _ hplain
  obtain rfl : field = realityPrivateKey "vless" := List.mem_singleton.mp hfield
  obtain rfl : PyVal.str "x25519" = secret := Except.ok.inj hsecret
  obtain ⟨t, ht, rfl⟩ := exists_text_of_plainText hplain
  exact absurd ht (by decide +kernel)

/-- A build from a template with another inbound first stores the private key of
the tagged one as it is. -/
theorem not_secretsSealed_of_otherFirst :
    ∃ served row, BuildStores Ctx.allProfiles Crypto.sample ⟨0, .xrayReality, "c", 1⟩
        (BuildEnv.sample (realityTemplate [apiInbound])) {} (realityTemplate [apiInbound])
        served row ∧
      realityPrivateKey "vless" served = .ok (.str "x25519") ∧
      realityPrivateKey "vless" row.configData = .ok (.str "x25519") ∧
      ¬ SecretsSealed FieldEncryptor.sample Eq "vless" .xrayReality served row.configData := by
  obtain ⟨⟨served, row⟩, hrun⟩ : ∃ out, realityStored (realityTemplate [apiInbound]) = .ok out :=
    ⟨_, rfl⟩
  have hserved : realityPrivateKey "vless" served = .ok (.str "x25519") := by
    cases hrun
    rfl
  have hstored : realityPrivateKey "vless" row.configData = .ok (.str "x25519") := by
    cases hrun
    rfl
  refine ⟨served, row, buildStores_of_realityStored hrun, hserved, hstored, fun h => ?_⟩
  have honly := h _ (by simp [secretFields]) _ hserved rfl
  have hat : row.configData.at? [0, 1, 3, 0, 2] = some (.str "x25519") ∧
      served.stringAt [0, 1, 3, 0, 2] = some "x25519" := by
    cases hrun
    exact ⟨rfl, rfl⟩
  obtain ⟨s, nonces, hlayers, hs, htoken⟩ := honly.scalar _ _ hat.1 rfl rfl
  obtain rfl := Option.some.inj (hat.2.symm.trans hs)
  exact hlayers ((Cipher.sealString_eq_self_iff sample_lengthens (by decide)).mp
    (PyVal.str.inj htoken).symm)

end VpnPanel
