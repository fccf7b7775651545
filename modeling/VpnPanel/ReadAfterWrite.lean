import VpnPanel.TemplateFiles
import VpnPanel.AliasedData
import VpnPanel.BuiltDocuments

/-!
# VpnPanel.ReadAfterWrite

A config's document that is edited as text, and what is read afterwards
(`UpdateConfigDataUseCase` and `GetConfigDataUseCase`), for whatever
`json.loads` and `yaml.safe_load` return.

* `getConfigData` — the read;
* `Commits`, `commits_of_updateConfigData` — an edit that is committed;
* `parse_serialize_iff` — when the text of a document is that document again;
* `readsBack_iff` — when the document that was written is read.
-/

namespace VpnPanel

/-! ## text -/

/-- `json.loads`, `yaml.safe_load`, `json.dumps` and `yaml.safe_dump`. -/
structure ConfigText where
  jsonLoads : String → Except PyErr PyGraph
  yamlSafeLoad : String → Except PyErr PyGraph
  jsonDumps : PyVal → String
  yamlSafeDump : PyVal → String

/-- A document: an object that is not empty. -/
def IsDocument (v : PyVal) : Prop := v.isDict = true ∧ v.truthy = true

namespace ConfigText

def loaders (text : ConfigText) : Loaders PyGraph where
  jsonLoads := text.jsonLoads
  yamlSafeLoad := text.yamlSafeLoad
  isDict data := data.tree.isDict
  truthy data := data.tree.nonEmptyDict

/-- `serialize_config_data`. -/
def serialize (text : ConfigText) : ConfigFormat → PyVal → String
  | .yaml => text.yamlSafeDump
  | .json => text.jsonDumps

/-- A content as it is submitted, with what the libraries load of it. -/
def submission (text : ConfigText) (content : String) (fmt : Option ConfigFormat) : Submission :=
  .content content fmt fun fmt => text.loaders.load fmt (PyStr.strip content)

/-- The next-line character; a YAML text has it as the end of a line. -/
def nextLine : Char := '\u0085'

/-- What the two libraries promise of the texts they write of a document. -/
structure Documented (text : ConfigText) (v : PyVal) : Prop where
  /-- A JSON text is loaded again. -/
  jsonRoundTrip : ∃ loaded, text.jsonLoads (text.jsonDumps v) = .ok loaded ∧
    loaded.tree.toJson? = some v
  /-- A JSON object stands in braces. -/
  braces : ∃ body, text.jsonDumps v = "\x7b" ++ body ++ "\x7d"
  /-- A YAML text whose lines all end in line feeds is loaded again. -/
  yamlRoundTrip : nextLine ∉ (text.yamlSafeDump v).toList →
    ∃ loaded, text.yamlSafeLoad (text.yamlSafeDump v) = .ok loaded ∧
      loaded.tree.toJson? = some v
  /-- A YAML text ends with a line feed that is not part of the document. -/
  lastLine : ∃ body, body ≠ "" ∧ text.yamlSafeDump v = body ++ "\n" ∧
    text.yamlSafeLoad body = text.yamlSafeLoad (body ++ "\n")
  /-- Other white space at an end of it belongs to a key or a scalar. -/
  content : ∀ body loaded w, text.yamlSafeDump v = body ++ "\n" → PyStr.strip body ≠ body →
    text.yamlSafeLoad (PyStr.strip body) = .ok loaded → loaded.tree.toJson? = some w →
      w ≠ v ∧ w.pyEq v = false
  /-- A next line in it is one of a scalar, and is loaded as a line feed. -/
  nextLine : nextLine ∈ (text.yamlSafeDump v).toList → ∀ loaded w,
    text.yamlSafeLoad (text.yamlSafeDump v) = .ok loaded → loaded.tree.toJson? = some w →
      w ≠ v ∧ w.pyEq v = false

end ConfigText

/-! ## the edit and the read -/

/-- `ConfigDataResult`. -/
structure ConfigDataResult where
  configId : ConfigId
  version : Nat
  profile : ConfigProfile
  format : ConfigFormat
  content : String
  configData : PyVal

/-- `GetConfigDataUseCase.execute`. -/
def getConfigData (ctx : Ctx) (text : ConfigText) (db : Db) (c : ConfigId) :
    Except PyErr ConfigDataResult :=
  match db.getActive c with
  | none => .error configNotFoundError
  | some config =>
  match config.currentVersion with
  | none => .error configNotFoundError
  | some version =>
  match db.versions c version with
  | none => .error ⟨.other "ConfigDataUnavailable", "Current version not found"⟩
  | some snapshot => do
      let plain ← decryptConfigDataFields ctx.encryptor (sensitiveFields config.profile)
        snapshot.configData
      let fmt := formatForProfile config.profile
      .ok { configId := c, version := version, profile := config.profile, format := fmt,
            content := text.serialize fmt plain, configData := plain }

/-- An edit that is committed, and what the tables are then. -/
def Commits (ctx : Ctx) (env : EditEnv) (now : Nat) (c : ConfigId) (submitted : Submission)
    (db db' : Db) : Prop :=
  ∃ draft loaded plan, planEdit ctx env db c submitted = .ok draft ∧
    selectVersion db draft.configId draft.version = .ok loaded ∧
    draft.flush loaded = .ok plan ∧ db' = commitEdit now plan loaded db

/-- The storing step does not raise, and once the edit is committed its document
is read, and the text that is returned with it parses to it. -/
def ReadsBack (same : PyVal → PyVal → Prop) (ctx : Ctx) (text : ConfigText) (db : Db)
    (c : ConfigId) (fmt : Option ConfigFormat) (content : String) : Prop :=
  (∀ check, checkEdit ctx db c (text.submission content fmt) = .ok check → ∀ env,
    ∃ plan, SettlesOn ctx env db c (text.submission content fmt) plan) ∧
  ∀ env now db', Commits ctx env now c (text.submission content fmt) db db' →
    ∃ check v, checkEdit ctx db c (text.submission content fmt) = .ok check ∧
      check.document.tree.toJson? = some v ∧
      ∃ result, getConfigData ctx text db' c = .ok result ∧
        ∃ loaded u, text.loaders.parseConfigContent result.content result.format = .ok loaded ∧
          same result.configData v ∧ loaded.tree.toJson? = some u ∧ same u result.configData

/-! ## when the document is read -/

/-- The document of an edit with its fields encrypted. -/
def EditCheck.sealed (check : EditCheck) (encryptor : FieldEncryptor) (nonce : Nat) : PyGraph :=
  Aliased.sealedGraph encryptor nonce (sensitiveFields check.config.profile) check.document

/-- The encrypted document is `==` to the stored one, so the column is left as it
is. -/
def EditCheck.Left (check : EditCheck) (encryptor : FieldEncryptor) (nonce : Nat) : Prop :=
  sameJson check.snapshot.configData (check.sealed encryptor nonce).tree = true

/-- What a read answers whose row decrypts to `plain`. -/
def EditCheck.result (check : EditCheck) (text : ConfigText) (c : ConfigId) (plain : PyVal) :
    ConfigDataResult where
  configId := c
  version := check.version
  profile := check.config.profile
  format := formatForProfile check.config.profile
  content := text.serialize (formatForProfile check.config.profile) plain
  configData := plain

/-- The port an edit stores. -/
def EditCheck.port (check : EditCheck) : Int :=
  documentPort check.config.profile check.settings check.snapshot.port check.document

/-- The YAML text of a document has no white space at its ends but the last line
feed, and no next line. -/
def RegularText (text : ConfigText) (profile : ConfigProfile) (v : PyVal) : Prop :=
  profile = .hysteria2 → (∀ body, text.yamlSafeDump v = body ++ "\n" → PyStr.strip body = body) ∧
    ConfigText.nextLine ∉ (text.yamlSafeDump v).toList

/-- The document of an edit is one of JSON whose listed strings can be encoded;
the column has its port; and every container with a listed string stands in one
place, or the column is left and has the same document.  Its text is regular. -/
def PlainEdit (same : PyVal → PyVal → Prop) (encryptor : FieldEncryptor) (text : ConfigText)
    (check : EditCheck) : Prop :=
  ∃ v, check.document.tree.toJson? = some v ∧
    graphPlaces.Writable encryptor.cipher (sensitiveFields check.config.profile)
      check.document ∧
    (check.port = check.snapshot.port ∨ fitsInteger check.port = true) ∧
    ∀ nonce,
      (check.Left encryptor nonce → ∃ old,
        decryptConfigDataFields encryptor (sensitiveFields check.config.profile)
          check.snapshot.configData = .ok old ∧
        same old v ∧ RegularText text check.config.profile old) ∧
      (¬ check.Left encryptor nonce →
        Unshared (sensitiveFields check.config.profile) check.document ∧
        RegularText text check.config.profile v)

/-! ## the text -/

/-- A notion of equality of documents: at least identity, at most `==`. -/
structure Equality (same : PyVal → PyVal → Prop) : Prop where
  refl : ∀ v, same v v
  eq : ∀ {v w}, same v w → v = w ∨ v.pyEq w = true

section ReadsBack

variable {same : PyVal → PyVal → Prop} {ctx : Ctx} {text : ConfigText} {env : EditEnv}
  {now : Nat} {db db' : Db} {c : ConfigId} {content : String} {submitted : Submission}
  {check : EditCheck} {v w : PyVal}

theorem isDict_of_toJson? {x : PyObj} {v : PyVal} (h : x.toJson? = some v) :
    v.isDict = x.isDict ∧ (x.isDict = true → v.truthy = x.nonEmptyDict) := by
  cases x with
  | dict kvs =>
      obtain ⟨entries, hentries, h⟩ := Option.bind_eq_some_iff.mp h
      split at h
      · have hlength := congrArg List.length (PyObj.children_of_entriesJson? hentries).2
        simp only [List.length_map] at hlength
        rw [← Option.some.inj h]
        refine ⟨rfl, fun _ => ?_⟩
        cases kvs <;> cases entries <;> simp_all [PyVal.truthy, PyObj.nonEmptyDict]
      · cases h
  | float r =>
      simp only [PyObj.toJson?] at h
      split at h
      · rw [← Option.some.inj h]
        exact ⟨rfl, fun hdict => nomatch hdict⟩
      · cases h
  | list xs =>
      obtain ⟨vs, -, rfl⟩ := Option.map_eq_some_iff.mp h
      exact ⟨rfl, fun hdict => nomatch hdict⟩
  | none | bool _ | int _ | str _ =>
      rw [← Option.some.inj h]
      exact ⟨rfl, fun hdict => nomatch hdict⟩
  | tuple _ | other _ _ | enclosing => cases h

theorem isDocument_of_isDocument {data : PyGraph} (h : data.tree.toJson? = some v)
    (hdata : isDocument data = true) : IsDocument v := by
  obtain ⟨hdict, hnonEmpty⟩ := Bool.and_eq_true_iff.mp hdata
  obtain ⟨hisDict, htruthy⟩ := isDict_of_toJson? h
  exact ⟨by rw [hisDict, hdict], by rw [htruthy hdict, hnonEmpty]⟩

/-- A document is equal to documents only. -/
theorem Equality.isDocument (heq : Equality same) (h : same w v) (hv : IsDocument v) :
    IsDocument w := by
  obtain rfl | hpy := heq.eq h
  · exact hv
  · obtain ⟨hdict, htruthy⟩ := hv
    cases v with
    | dict kvs =>
        cases w with
        | dict lws =>
            simp only [PyVal.pyEq, Bool.and_eq_true, decide_eq_true_eq] at hpy
            refine ⟨rfl, ?_⟩
            cases lws with
            | nil => cases kvs <;> simp_all [PyVal.truthy]
            | cons lw lws => rfl
        | list xs => simp [PyVal.pyEq] at hpy
        | none | bool _ | int _ | float _ | str _ =>
            simp [PyVal.pyEq, PyVal.scalarEq, PyVal.numKey] at hpy
    | none | bool _ | int _ | float _ | str _ | list _ => cases hdict

theorem strip_concat {cs : List Char} {c : Char} (hc : PyStr.isSpace c = true) :
    PyStr.stripChars (cs ++ [c]) = PyStr.stripChars cs := by
  have hright (xs : List Char) :
      PyStr.dropRight PyStr.isSpace (xs ++ [c]) = PyStr.dropRight PyStr.isSpace xs := by
    simp [PyStr.dropRight, hc]
  rw [PyStr.stripChars, PyStr.stripChars, PyStr.trim, PyStr.trim, List.dropWhile_append]
  split
  · next hempty =>
    rw [List.isEmpty_iff.mp hempty]
    simp [hc]
  · exact hright _

theorem strip_lineFeed (body : String) : PyStr.strip (body ++ "\n") = PyStr.strip body := by
  have hchars : (body ++ "\n").toList = body.toList ++ ['\n'] := by simp
  rw [PyStr.strip, PyStr.strip, hchars, strip_concat (by decide)]

theorem strip_braces (body : String) :
    PyStr.strip ("\x7b" ++ body ++ "\x7d") = "\x7b" ++ body ++ "\x7d" := by
  have hchars : ("\x7b" ++ body ++ "\x7d").toList = '{' :: (body.toList ++ ['}']) := by simp
  have hstrip : PyStr.stripChars ('{' :: (body.toList ++ ['}'])) =
      '{' :: (body.toList ++ ['}']) :=
    PyStr.stripChars_eq_self (fun c hc => by
      obtain rfl : '{' = c := by simpa using hc
      decide) fun c hc => by
      rw [← List.cons_append, List.getLast?_concat] at hc
      obtain rfl : '}' = c := by simpa using hc
      decide
  rw [PyStr.strip, hchars, hstrip, ← hchars, String.ofList_toList]

/-- The text of a document. -/
theorem parse_of_load (hv : IsDocument v) (hne : PyStr.strip content ≠ "") {fmt : ConfigFormat}
    {loaded : PyGraph} (hload : text.loaders.load fmt (PyStr.strip content) = .ok loaded)
    (hloaded : loaded.tree.toJson? = some v) :
    text.loaders.parseConfigContent content fmt = .ok loaded := by
  obtain ⟨hdict, htruthy⟩ := isDict_of_toJson? hloaded
  have hisDict : loaded.tree.isDict = true := by rw [← hdict, hv.1]
  have hnonEmpty : loaded.tree.nonEmptyDict = true := by rw [← htruthy hisDict, hv.2]
  unfold Loaders.parseConfigContent
  dsimp only
  rw [if_neg hne, hload]
  exact if_pos (by rw [Bool.and_eq_true]; exact ⟨hisDict, hnonEmpty⟩)

/-- What is parsed is what the stripped text loads as. -/
theorem load_of_parse {fmt : ConfigFormat} {loaded : PyGraph}
    (h : text.loaders.parseConfigContent content fmt = .ok loaded) :
    text.loaders.load fmt (PyStr.strip content) = .ok loaded := by
  unfold Loaders.parseConfigContent at h
  dsimp only at h
  split at h
  · cases h
  · split at h
    · cases h
    · next loaded' hload =>
      split at h
      · rw [hload, Except.ok.inj h]
      · cases h

/-- The text of `json.dumps` parses to its document. -/
theorem parse_json (heq : Equality same) (hdoc : text.Documented v) (hv : IsDocument v) :
    ∃ loaded w, text.loaders.parseConfigContent (text.serialize .json v) .json = .ok loaded ∧
      loaded.tree.toJson? = some w ∧ same w v := by
  obtain ⟨loaded, hload, hloaded⟩ := hdoc.jsonRoundTrip
  obtain ⟨body, hbody⟩ := hdoc.braces
  have hstrip : PyStr.strip (text.jsonDumps v) = text.jsonDumps v := by
    rw [hbody, strip_braces]
  refine ⟨loaded, v, parse_of_load hv ?_ ?_ hloaded, hloaded, heq.refl v⟩
  · change PyStr.strip (text.jsonDumps v) ≠ ""
    rw [hstrip, hbody]
    intro hempty
    simpa using congrArg String.toList hempty
  · change text.jsonLoads (PyStr.strip (text.jsonDumps v)) = .ok loaded
    rw [hstrip, hload]

/-- The text of `yaml.safe_dump` parses to its document when it is regular. -/
theorem parse_yaml_iff (heq : Equality same) (hdoc : text.Documented v) (hv : IsDocument v) :
    (∃ loaded w, text.loaders.parseConfigContent (text.serialize .yaml v) .yaml = .ok loaded ∧
        loaded.tree.toJson? = some w ∧ same w v) ↔ RegularText text .hysteria2 v := by
  have hdiffers {w : PyVal} (hw : same w v) (hne : w ≠ v ∧ w.pyEq v = false) : False := by
    obtain rfl | hpy := heq.eq hw
    · exact hne.1 rfl
    · rw [hne.2] at hpy
      cases hpy
  obtain ⟨body, hne, hbody, hlast⟩ := hdoc.lastLine
  have hstrip : PyStr.strip (text.serialize .yaml v) = PyStr.strip body := by
    change PyStr.strip (text.yamlSafeDump v) = _
    rw [hbody, strip_lineFeed]
  constructor
  · rintro ⟨loaded, w, hparsed, hw, hsame⟩ -
    have hload : text.yamlSafeLoad (PyStr.strip body) = .ok loaded := by
      rw [← hstrip]
      exact load_of_parse hparsed
    have hself : PyStr.strip body = body := by
      by_contra hedge
      exact hdiffers hsame (hdoc.content body loaded w hbody hedge hload hw)
    refine ⟨fun body' hbody' => ?_, fun hline => ?_⟩
    · obtain rfl : body = body' :=
        (String.append_left_inj "\n").mp (hbody.symm.trans hbody')
      exact hself
    · rw [hself, hlast, ← hbody] at hload
      exact hdiffers hsame (hdoc.nextLine hline loaded w hload hw)
  · intro hplain
    obtain ⟨hedge, hline⟩ := hplain rfl
    obtain ⟨loaded, hload, hloaded⟩ := hdoc.yamlRoundTrip hline
    have hself := hedge body hbody
    refine ⟨loaded, v, parse_of_load hv ?_ ?_ hloaded, hloaded, heq.refl v⟩
    · rw [hstrip, hself]
      exact hne
    · change text.yamlSafeLoad (PyStr.strip (text.serialize .yaml v)) = .ok loaded
      rw [hstrip, hself, hlast, ← hbody, hload]

/-- **The returned text parses to the document** exactly when it is regular. -/
theorem parse_serialize_iff (heq : Equality same) (hdoc : text.Documented v) (hv : IsDocument v)
    (profile : ConfigProfile) :
    (∃ loaded w, text.loaders.parseConfigContent (text.serialize (formatForProfile profile) v)
        (formatForProfile profile) = .ok loaded ∧ loaded.tree.toJson? = some w ∧ same w v) ↔
      RegularText text profile v := by
  cases profile with
  | hysteria2 => exact parse_yaml_iff heq hdoc hv
  | xrayReality | xrayGrpc | xrayXhttp =>
      refine iff_of_true (parse_json heq hdoc hv) fun h => ?_
      cases h

/-! ## the edit -/

/-- What an edit of a document of JSON stores, and that it is committed. -/
theorem commits_iff (hcheck : checkEdit ctx db c submitted = .ok check)
    (hv : check.document.tree.toJson? = some v) {stored : PyVal}
    (hstored : (check.sealed ctx.encryptor env.nonce).tree.toJson? = some stored) :
    Commits ctx env now c submitted db db' ↔
      graphPlaces.Writable ctx.encryptor.cipher (sensitiveFields check.config.profile)
        check.document ∧
      (check.port = check.snapshot.port ∨ fitsInteger check.port = true) ∧
      db' = commitEdit now
        { check.draft c (check.sealed ctx.encryptor env.nonce) with parsed := v, stored := stored }
        check.snapshot db := by
  obtain ⟨hconfig, hversion, hsnapshot, hps, hparse⟩ := checkEdit_spec hcheck
  have hselect : selectVersion db c check.version = .ok check.snapshot := by
    simp only [selectVersion, hconfig, hsnapshot]
  have hflush := (check.draft c (check.sealed ctx.encryptor env.nonce)).flush_of_columns
    (PyObj.jsonColumn_of_toJson? _ hv) (PyObj.jsonColumn_of_toJson? _ hstored) check.snapshot
  simp only [Commits, planEdit_eq_ok_iff, hcheck, Except.ok.injEq,
    Aliased.encryptConfigDataFields_eq_ok_iff]
  constructor
  · rintro ⟨_, loaded, plan, ⟨_, _, rfl, ⟨hwritable, rfl⟩, rfl⟩, hloaded, hplan, rfl⟩
    obtain rfl : check.snapshot = loaded := Except.ok.inj (hselect.symm.trans hloaded)
    have hplan := hflush.symm.trans hplan
    split at hplan
    · next hport =>
      rw [← Except.ok.inj hplan]
      exact ⟨hwritable, hport, rfl⟩
    · cases hplan
  · rintro ⟨hwritable, hport, rfl⟩
    have hflush := hflush.trans (if_pos hport)
    exact ⟨_, check.snapshot, _, ⟨check, _, rfl, ⟨hwritable, rfl⟩, rfl⟩, hselect, hflush, rfl⟩

/-- A request that succeeds commits its edit. -/
theorem commits_of_updateConfigData {s s' : Store}
    (h : (updateConfigData ctx env now c submitted).exec s = (.ok (), s')) :
    Commits ctx env now c submitted s.db s'.db := by
  unfold updateConfigData at h
  rw [Eff.exec_bind_ok (Eff.exec_read s)] at h
  obtain ⟨draft, s₀, hplanned, h⟩ := Eff.exec_bind_eq_ok h
  obtain ⟨hdraft, rfl⟩ : planEdit ctx env s.db c submitted = .ok draft ∧ s = s₀ := by
    simpa using hplanned
  obtain ⟨loaded, s₁, hselected, h⟩ := Eff.exec_bind_eq_ok h
  rw [selectPlanned, Eff.exec_bind_ok (Eff.exec_read s), Eff.exec_ofExcept] at hselected
  obtain ⟨hloaded, rfl⟩ := Prod.mk.inj hselected
  obtain ⟨plan, s₂, hflushed, h⟩ := Eff.exec_bind_eq_ok h
  obtain ⟨hplan, rfl⟩ : draft.flush loaded = .ok plan ∧ s = s₂ := by simpa using hflushed
  obtain ⟨_, s₃, hwritten, h⟩ := Eff.exec_bind_eq_ok h
  obtain ⟨_, s₄, hrestarted, h⟩ := Eff.exec_bind_eq_ok h
  obtain ⟨_, s₅, hsynced, h⟩ := Eff.exec_bind_eq_ok h
  have hdb : s₅.db = s.db := by
    rw [(of_exec_onHost hsynced).2, (of_exec_onHost hrestarted).2, (of_exec_onHost hwritten).2]
  refine ⟨draft, loaded, plan, hdraft, hloaded, hplan, ?_⟩
  cases hanswered : env.answered with
  | some e =>
      rw [hanswered, Eff.exec_raise] at h
      cases h
  | none =>
      cases hcommitted : env.committed with
      | some e =>
          simp only [hanswered, hcommitted, exec_commit_some] at h
          cases h
      | none =>
          simp only [hanswered, hcommitted, exec_commit_none] at h
          rw [← (Prod.mk.inj h).2, ← hdb]
          rfl

/-- What is read after an edit is committed. -/
theorem getConfigData_of_commit (hcheck : checkEdit ctx db c submitted = .ok check)
    (text : ConfigText) {encrypted : PyGraph} (stored : PyVal) :
    getConfigData ctx text (commitEdit now
        { check.draft c encrypted with parsed := v, stored := stored } check.snapshot db) c =
      (decryptConfigDataFields ctx.encryptor (sensitiveFields check.config.profile)
        (if sameJson check.snapshot.configData encrypted.tree then check.snapshot.configData
          else stored)).map (check.result text c) := by
  obtain ⟨hconfig, hversion, hsnapshot, -, -⟩ := checkEdit_spec hcheck
  obtain ⟨hrow, hactive⟩ := Db.getActive_eq_some_iff.mp hconfig
  generalize hplan : EditPlan.mk (check.draft c encrypted) v stored = plan
  have hid : plan.configId = c := by rw [← hplan]; rfl
  have hplanVersion : plan.version = check.version := by rw [← hplan]; rfl
  have hgot : (commitEdit now plan check.snapshot db).getActive c = some (touch now check.config) :=
    Db.getActive_eq_some_iff.mpr ⟨by simp [commitEdit, hid, hrow], hactive⟩
  have hversions : (commitEdit now plan check.snapshot db).versions c check.version =
      some (plan.update check.snapshot check.snapshot) := by
    simp [commitEdit, hid, hplanVersion, hsnapshot]
  have hdata : (plan.update check.snapshot check.snapshot).configData =
      if sameJson check.snapshot.configData encrypted.tree then check.snapshot.configData
        else stored := by
    rw [← hplan]
    rfl
  have hcurrent : (touch now check.config).currentVersion = some check.version := hversion
  have hsame : (touch now check.config).profile = check.config.profile := rfl
  unfold getConfigData
  simp only [hgot, hcurrent, hversions, hsame, hdata]
  cases decryptConfigDataFields ctx.encryptor (sensitiveFields check.config.profile)
    (if sameJson check.snapshot.configData encrypted.tree then check.snapshot.configData
      else stored) <;> rfl

/-- What is read before. -/
theorem getConfigData_of_checkEdit (hcheck : checkEdit ctx db c submitted = .ok check)
    (text : ConfigText) : getConfigData ctx text db c =
      (decryptConfigDataFields ctx.encryptor (sensitiveFields check.config.profile)
        check.snapshot.configData).map (check.result text c) := by
  obtain ⟨hconfig, hversion, hsnapshot, -, -⟩ := checkEdit_spec hcheck
  unfold getConfigData
  simp only [hconfig, hversion, hsnapshot]
  cases decryptConfigDataFields ctx.encryptor (sensitiveFields check.config.profile)
    check.snapshot.configData <;> rfl

/-- An edit that settles on something is committed when nothing fails after it. -/
theorem exists_commits_of_settlesOn {plan : EditPlan}
    (h : SettlesOn ctx env db c submitted plan) (now : Nat) :
    ∃ db', Commits ctx env now c submitted db db' := by
  obtain ⟨draft, loaded, hdraft, hloaded, hplan⟩ := h
  exact ⟨_, draft, loaded, plan, hdraft, hloaded, hplan, rfl⟩

theorem settlesOn_of_commits (h : Commits ctx env now c submitted db db') :
    ∃ plan, SettlesOn ctx env db c submitted plan := by
  obtain ⟨draft, loaded, plan, hdraft, hloaded, hplan, -⟩ := h
  exact ⟨plan, draft, loaded, hdraft, hloaded, hplan⟩

/-- What an edit that is committed has read, and that its listed strings can be
encoded. -/
theorem check_of_commits (h : Commits ctx env now c submitted db db') :
    ∃ check, checkEdit ctx db c submitted = .ok check ∧
      graphPlaces.Writable ctx.encryptor.cipher (sensitiveFields check.config.profile)
        check.document := by
  obtain ⟨draft, -, -, hdraft, -⟩ := h
  obtain ⟨check, encrypted, hcheck, hencrypted, -⟩ := planEdit_eq_ok_iff.mp hdraft
  exact ⟨check, hcheck, (Aliased.encryptConfigDataFields_eq_ok_iff.mp hencrypted).1⟩

/-- What is read is the document, also in its text, exactly when it is the same
and its text is regular. -/
theorem readsBack_of_result_iff (heq : Equality same) (hv : IsDocument v)
    (hdoc : IsDocument w → text.Documented w) :
    (∃ loaded u, text.loaders.parseConfigContent (check.result text c w).content
          (check.result text c w).format = .ok loaded ∧
        same w v ∧ loaded.tree.toJson? = some u ∧ same u w) ↔
      same w v ∧ RegularText text check.config.profile w := by
  constructor
  · rintro ⟨loaded, u, hparsed, hsame, hu, hsame'⟩
    have hw := heq.isDocument hsame hv
    exact ⟨hsame, (parse_serialize_iff heq (hdoc hw) hw _).mp ⟨loaded, u, hparsed, hu, hsame'⟩⟩
  · rintro ⟨hsame, htext⟩
    have hw := heq.isDocument hsame hv
    obtain ⟨loaded, u, hparsed, hu, hsame'⟩ := (parse_serialize_iff heq (hdoc hw) hw _).mpr htext
    exact ⟨loaded, u, hparsed, hsame, hu, hsame'⟩

/-- A document of JSON that is committed is read back exactly when its containers
with listed strings stand in one place each, or the column had it already, and
its text is regular. -/
theorem readsBack_of_commit_iff (heq : Equality same) (hlong : ctx.encryptor.cipher.Lengthens)
    (hcheck : checkEdit ctx db c submitted = .ok check)
    (hv : check.document.tree.toJson? = some v) (hdoc : text.Documented v)
    (hold : ∀ result, getConfigData ctx text db c = .ok result → IsDocument result.configData →
      text.Documented result.configData)
    (hcommits : Commits ctx env now c submitted db db') :
    (∃ result, getConfigData ctx text db' c = .ok result ∧
      ∃ loaded u, text.loaders.parseConfigContent result.content result.format = .ok loaded ∧
        same result.configData v ∧ loaded.tree.toJson? = some u ∧ same u result.configData) ↔
      (check.Left ctx.encryptor env.nonce → ∃ old,
        decryptConfigDataFields ctx.encryptor (sensitiveFields check.config.profile)
          check.snapshot.configData = .ok old ∧
        same old v ∧ RegularText text check.config.profile old) ∧
      (¬ check.Left ctx.encryptor env.nonce →
        Unshared (sensitiveFields check.config.profile) check.document ∧
        RegularText text check.config.profile v) := by
  have hdocument : IsDocument v := isDocument_of_isDocument hv
    (isDocument_of_parse (checkEdit_spec hcheck).2.2.2.2)
  obtain ⟨check', hcheck', hwritable⟩ := check_of_commits hcommits
  obtain rfl : check = check' := Except.ok.inj (hcheck.symm.trans hcheck')
  obtain ⟨stored, g, hstored, hdecrypt, hunshared⟩ :=
    decrypt_sealedGraph hlong hv hwritable env.nonce
  obtain ⟨-, -, hdb⟩ := (commits_iff hcheck hv hstored).mp hcommits
  have hread : getConfigData ctx text db' c =
      (decryptConfigDataFields ctx.encryptor (sensitiveFields check.config.profile)
        (if sameJson check.snapshot.configData (check.sealed ctx.encryptor env.nonce).tree then
          check.snapshot.configData else stored)).map (check.result text c) := by
    rw [hdb]
    exact getConfigData_of_commit hcheck text stored
  by_cases hleft : check.Left ctx.encryptor env.nonce
  · rw [if_pos (show sameJson check.snapshot.configData
      (check.sealed ctx.encryptor env.nonce).tree = true from hleft)] at hread
    simp only [hleft, true_implies, not_true, false_implies, and_true]
    cases hold' : decryptConfigDataFields ctx.encryptor
        (sensitiveFields check.config.profile) check.snapshot.configData with
    | error e => simp [hread, hold', Except.map]
    | ok old =>
        have hdocOld := hold (check.result text c old)
          ((getConfigData_of_checkEdit hcheck text).trans (by rw [hold']; rfl))
        rw [hread, hold']
        simp only [Except.map, Except.ok.injEq, exists_eq_left']
        exact readsBack_of_result_iff heq hdocument hdocOld
  · rw [if_neg (show ¬ sameJson check.snapshot.configData
      (check.sealed ctx.encryptor env.nonce).tree = true from hleft), hdecrypt] at hread
    simp only [hleft, false_implies, true_and, not_false_eq_true, true_implies]
    have hsame : same (v.mapStrings g) v ↔ v.mapStrings g = v := by
      constructor
      · intro hsame
        obtain hself | hpy := heq.eq hsame
        · exact hself
        · exact PyObj.mapStrings_eq_of_pyEq g _ hv hpy
      · intro hself
        rw [hself]
        exact heq.refl v
    rw [hread, ← hunshared]
    simp only [Except.map, Except.ok.injEq, exists_eq_left']
    by_cases hself : v.mapStrings g = v
    · rw [hself]
      exact (readsBack_of_result_iff heq hdocument fun _ => hdoc).trans
        (and_congr_left fun _ => iff_of_true (heq.refl v) rfl)
    · refine iff_of_false ?_ fun h => hself h.1
      rintro ⟨loaded, u, -, h, -⟩
      exact hself (hsame.mp h)

end ReadsBack

/-- **When an edited document is read back.**  The edit of a content never
raises where it stores the document, and a document that is committed is read,
also from the text that is returned with it, exactly when the edit is plain; for
every notion of equality from identity to `==`. -/
theorem readsBack_iff {same : PyVal → PyVal → Prop} (heq : Equality same) (ctx : Ctx)
    (text : ConfigText) (db : Db) (c : ConfigId) (fmt : Option ConfigFormat) (content : String)
    (hlong : ctx.encryptor.cipher.Lengthens)
    (hdoc : ∀ check v, checkEdit ctx db c (text.submission content fmt) = .ok check →
      check.document.tree.toJson? = some v → text.Documented v)
    (hold : ∀ result, getConfigData ctx text db c = .ok result → IsDocument result.configData →
      text.Documented result.configData) :
    ReadsBack same ctx text db c fmt content ↔
      ∀ check, checkEdit ctx db c (text.submission content fmt) = .ok check →
        PlainEdit same ctx.encryptor text check := by
  constructor
  · rintro ⟨hstores, hreads⟩ check hcheck
    have hcommitted (env : EditEnv) :
        ∃ db', Commits ctx env 0 c (text.submission content fmt) db db' := by
      obtain ⟨plan, hplan⟩ := hstores check hcheck env
      exact exists_commits_of_settlesOn hplan 0
    obtain ⟨env₀⟩ : Nonempty EditEnv := ⟨{ nonce := 0 }⟩
    obtain ⟨db₀, hcommits₀⟩ := hcommitted env₀
    obtain ⟨check', v, hcheck', hv, -⟩ := hreads _ _ _ hcommits₀
    obtain rfl : check = check' := Except.ok.inj (hcheck.symm.trans hcheck')
    obtain ⟨check', hcheck', hwritable⟩ := check_of_commits hcommits₀
    obtain rfl : check = check' := Except.ok.inj (hcheck.symm.trans hcheck')
    obtain ⟨stored, g, hstored, -, -⟩ := decrypt_sealedGraph hlong hv hwritable env₀.nonce
    obtain ⟨-, hport, -⟩ := (commits_iff hcheck hv hstored).mp hcommits₀
    refine ⟨v, hv, hwritable, hport, fun nonce => ?_⟩
    obtain ⟨db', hcommits⟩ := hcommitted { nonce := nonce }
    obtain ⟨check', v', hcheck', hv', hread⟩ := hreads _ _ _ hcommits
    obtain rfl : check = check' := Except.ok.inj (hcheck.symm.trans hcheck')
    obtain rfl : v = v' := Option.some.inj (hv.symm.trans hv')
    exact (readsBack_of_commit_iff heq hlong hcheck hv (hdoc check v hcheck hv) hold hcommits).mp
      hread
  · intro hplain
    constructor
    · intro check hcheck env
      obtain ⟨v, hv, hwritable, hport, -⟩ := hplain check hcheck
      obtain ⟨stored, g, hstored, -, -⟩ := decrypt_sealedGraph hlong hv hwritable env.nonce
      have hcommits : Commits ctx env 0 c (text.submission content fmt) db _ :=
        (commits_iff hcheck hv hstored).mpr ⟨hwritable, hport, rfl⟩
      exact settlesOn_of_commits hcommits
    · intro env now db' hcommits
      obtain ⟨check, hcheck, hwritable⟩ := check_of_commits hcommits
      obtain ⟨v, hv, -, hport, hnonce⟩ := hplain check hcheck
      exact ⟨check, v, hcheck, hv, (readsBack_of_commit_iff heq hlong hcheck hv
        (hdoc check v hcheck hv) hold hcommits).mpr (hnonce env.nonce)⟩

/-! ## two edits -/

/-- Identity is a notion of equality. -/
theorem Equality.of_eq : Equality Eq := ⟨fun _ => rfl, .inl⟩

/-- A Hysteria2 config with its first version. -/
def editedDb : Db where
  configs c := if c = 0 then
    some { name := "c", protocol := .hysteria2, profile := .hysteria2, status := .active,
           currentVersion := some 1, updatedAt := 0 }
  else none
  versions c v := if c = 0 ∧ v = 1 then some ⟨443, "", "", "", .dict []⟩ else none

def noteDocument : PyVal := .dict [("note", .str "x")]

def datedGraph : PyGraph :=
  ⟨[.dict [(.str "expires", .other "date" "2024-01-01")]], .container 0⟩

/-- The libraries, on a note and on a date. -/
def ConfigText.sample : ConfigText where
  jsonLoads content :=
    if content = "\x7b\"note\": \"x\"\x7d" then .ok (.ofVal noteDocument)
    else .error ⟨.valueError, "Expecting value"⟩
  yamlSafeLoad content :=
    if content = "note: x" ∨ content = "note: x\n" then .ok (.ofVal noteDocument)
    else if content = "expires: 2024-01-01" then .ok datedGraph
    else .error ⟨.valueError, "while scanning"⟩
  jsonDumps _ := "\x7b\"note\": \"x\"\x7d"
  yamlSafeDump _ := "note: x\n"

theorem ConfigText.sample_body {v : PyVal} {body : String}
    (h : ConfigText.sample.yamlSafeDump v = body ++ "\n") : body = "note: x" := by
  have hdump : ConfigText.sample.yamlSafeDump v = "note: x" ++ "\n" := rfl
  exact (String.append_left_inj "\n").mp (h.symm.trans hdump)

theorem ConfigText.sample_documented : ConfigText.sample.Documented noteDocument where
  jsonRoundTrip := ⟨_, rfl, rfl⟩
  braces := ⟨"\"note\": \"x\"", rfl⟩
  yamlRoundTrip _ := ⟨_, rfl, rfl⟩
  lastLine := ⟨"note: x", by decide, rfl, rfl⟩
  content body loaded w hbody hedge := by
    obtain rfl := ConfigText.sample_body hbody
    exact absurd (by decide) hedge
  nextLine hline := absurd hline (by decide)

/-- A note is read back. -/
theorem readsBack_of_note :
    ReadsBack Eq Ctx.allProfiles ConfigText.sample editedDb 0 none "note: x" := by
  have hcheck (check : EditCheck) (h : checkEdit Ctx.allProfiles editedDb 0
      (ConfigText.sample.submission "note: x" none) = .ok check) :
      check.document = .ofVal noteDocument ∧ check.config.profile = .hysteria2 ∧
        check.snapshot.configData = .dict [] ∧ check.port = check.snapshot.port := by
    cases h
    exact ⟨rfl, rfl, rfl, rfl⟩
  have hpaths : ∀ path ∈ sensitiveFields .hysteria2,
      Aliased.locate path (.ofVal noteDocument) = none := by decide
  refine (readsBack_iff .of_eq Ctx.allProfiles ConfigText.sample editedDb 0 none "note: x" ?_ ?_
    ?_).mpr ?_
  · intro nonce s
    have hlength : "gAAAAA".length = 6 := rfl
    simp [Ctx.allProfiles, Ctx.sample, FieldEncryptor.sample, FieldEncryptor.cipher, hlength]
  · intro check v h hv
    rw [(hcheck check h).1] at hv
    obtain rfl : noteDocument = v := Option.some.inj hv
    exact ConfigText.sample_documented
  · intro result h hdocument
    cases h
    cases hdocument.2
  · intro check h
    obtain ⟨hdocument, hprofile, hrow, hport⟩ := hcheck check h
    refine ⟨noteDocument, by rw [hdocument]; rfl, ?_, .inl hport, fun nonce => ⟨fun hleft => ?_,
      fun _ => ⟨?_, fun _ => ⟨fun body hbody => ?_, by decide⟩⟩⟩⟩
    · rintro slot s ⟨path, hpath, hslot⟩
      rw [hprofile] at hpath
      rw [hdocument] at hslot
      cases (hpaths path hpath).symm.trans hslot
    · have hwritten : sameJson (.dict []) (Aliased.sealedGraph Ctx.allProfiles.encryptor nonce
          (sensitiveFields .hysteria2) (.ofVal noteDocument)).tree = false := rfl
      rw [EditCheck.Left, EditCheck.sealed, hdocument, hprofile, hrow, hwritten] at hleft
      cases hleft
    · intro path hpath slot hslot
      rw [hprofile] at hpath
      rw [hdocument, hpaths path hpath] at hslot
      cases hslot
    · obtain rfl := ConfigText.sample_body hbody
      decide

/-- A date cannot be stored. -/
theorem not_readsBack_of_date :
    ¬ ReadsBack Eq Ctx.allProfiles ConfigText.sample editedDb 0 none "expires: 2024-01-01" := by
  rintro ⟨hstores, -⟩
  obtain ⟨plan, draft, loaded, hdraft, hloaded, hplan⟩ := hstores _ rfl {}
  cases hdraft
  cases hloaded
  cases hplan

end VpnPanel
