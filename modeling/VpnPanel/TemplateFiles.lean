import VpnPanel.UpdateConfigData
import VpnPanel.Lib.FileTree
import Mathlib.Data.List.Infix
import Mathlib.Data.List.TakeWhile

/-!
# VpnPanel.TemplateFiles

The templates of the profiles: the editor (`application/templates.py`) and what
a build reads (`ProfileConfigBuilder._resolve_template_path`,
`template_loader.py`).

The parsers are parameters, documents are whatever they return.  A file is
written and read as text: reading turns every line end into a line feed.

* `updateTemplate` — the edit, on a tree of files;
* `loadTemplate` — the document a build starts from;
* `builtTemplate_iff` — when the document that was checked is the one that is
  built.
-/

namespace VpnPanel

open FileTree

/-! ## parsers -/

/-- `json.loads`, `yaml.safe_load` and what is asked of a document. -/
structure Loaders (V : Type) where
  jsonLoads : String → Except PyErr V
  yamlSafeLoad : String → Except PyErr V
  /-- `isinstance(data, dict)`. -/
  isDict : V → Bool
  /-- `bool(data)`. -/
  truthy : V → Bool

namespace Loaders

variable {V : Type}

def load (l : Loaders V) : ConfigFormat → String → Except PyErr V
  | .json => l.jsonLoads
  | .yaml => l.yamlSafeLoad

/-- `parse_config_content`. -/
def parseConfigContent (l : Loaders V) (content : String) (fmt : ConfigFormat) : Except PyErr V :=
  let text := PyStr.strip content
  if text = "" then .error (invalidConfigData "Empty document")
  else match l.load fmt text with
    | .error e => .error (invalidConfigData ("Syntax error: " ++ e.msg))
    | .ok data =>
        if l.isDict data && l.truthy data then .ok data
        else .error (invalidConfigData "Root must be a non-empty object")

/-- It is the check of the config editor. -/
theorem parseConfigContent_eq (l : Loaders PyGraph)
    (hdict : ∀ data, (l.isDict data && l.truthy data) = isDocument data) (content : String)
    (fmt : ConfigFormat) : l.parseConfigContent content fmt =
      VpnPanel.parseConfigContent content (l.load fmt (PyStr.strip content)) := by
  simp only [parseConfigContent, VpnPanel.parseConfigContent, hdict]
  split
  · rfl
  · cases l.load fmt (PyStr.strip content) with
    | error e => rfl
    | ok data => rfl

end Loaders

/-! ## text files -/

/-- What reading in text mode makes of line ends. -/
def universalNewlines : List Char → List Char
  | '\r' :: '\n' :: cs => '\n' :: universalNewlines cs
  | '\r' :: cs => '\n' :: universalNewlines cs
  | c :: cs => c :: universalNewlines cs
  | [] => []

/-- `path.read_text()` of a written text. -/
def readBack (text : String) : String := String.ofList (universalNewlines text.toList)

/-- `path.read_text()`. -/
def readText (w : FileTree.World) (t : Tree) (path : Path) : Except PyErr String :=
  match (w.lookup t path).bind t.file? with
  | some text => .ok (readBack text)
  | none => .error ⟨.osError, "No such file or directory"⟩

/-- What surrounds an edit: an error of the file system and one of the audit
log. -/
structure TemplateEnv where
  writing : Option PyErr := none
  audit : Option PyErr := none

instance (t : Tree) (q : Place) : Decidable (t.Writable q) :=
  decidable_of_iff (t.turn q = none ∧
    ∀ q' ∈ q.tails, q' ≠ q → t.node q' = none ∨ t.node q' = some .dir)
    ⟨fun h => ⟨h.1, fun q' hq' => h.2 q' ((List.mem_tails _ _).mpr hq')⟩,
      fun h => ⟨h.turn, fun q' hq' => h.above q' ((List.mem_tails _ _).mp hq')⟩⟩

/-- `atomic_write`. -/
def atomicWrite (env : TemplateEnv) (q : Place) (text : String) : Eff Tree PyErr Unit := do
  let t ← Eff.read
  match env.writing with
  | some e => Eff.raise e
  | none =>
      if h : t.Writable q then Eff.update fun _ => t.replace q text h
      else Eff.raise ⟨.osError, "Not a directory"⟩

/-! ## the editor -/

/-- `paths.templates`, and `template_file` of the profiles. -/
structure TemplateSettings where
  templates : Path
  templateFile : ConfigProfile → Option String

def templateNotFound (msg : String) : PyErr := ⟨.other "TemplateNotFound", msg⟩

def templateAccessDenied (msg : String) : PyErr := ⟨.other "TemplateAccessDenied", msg⟩

/-- `str(path)` of a resolved path. -/
def placeStr (q : Place) : String := "/" ++ String.intercalate "/" q.reverse

/-- `path.resolve()`. -/
def resolvePath (w : FileTree.World) (t : Tree) (path : Path) : Except PyErr Place :=
  match w.resolve t path with
  | some q => .ok q
  | none => .error ⟨.runtimeError, "Symlink loop"⟩

/-- The path the editor resolves. -/
def editedPath (w : FileTree.World) (s : TemplateSettings) (t : Tree) (templateFile : String) :
    Path :=
  let path := Path.parse templateFile
  if (w.lookup t path).isSome then path else s.templates.join path

/-- `resolve_profile_template_path`. -/
def resolveProfileTemplatePath (w : FileTree.World) (s : TemplateSettings) (t : Tree)
    (profile : ConfigProfile) : Except PyErr Place :=
  match s.templateFile profile with
  | none => .error (templateNotFound ("Unknown profile: " ++ profile.value))
  | some templateFile => do
      let path := Path.parse templateFile
      let resolved ← resolvePath w t (editedPath w s t templateFile)
      let templatesRoot ← resolvePath w t s.templates
      if templatesRoot <:+ resolved then .ok resolved
      else if path.absolute && (t.file? resolved).isSome then .ok resolved
      else .error (templateAccessDenied
        ("Template path escapes templates root: " ++ placeStr resolved))

/-- `_format_for_path`. -/
def formatForPath (profile : ConfigProfile) (q : Place) : ConfigFormat :=
  match profile with
  | .hysteria2 => .yaml
  | _ =>
      let suffix := PyStr.asciiLower (suffix (q.headD ""))
      if suffix = ".yaml" ∨ suffix = ".yml" then .yaml else .json

/-- The text that is written. -/
def withNewline (content : String) : String :=
  if content.toList.getLast? = some '\n' then content else content ++ "\n"

/-- `TemplateContent`. -/
structure TemplateContent where
  profile : ConfigProfile
  path : Place
  format : ConfigFormat
  content : String

/-- `UpdateTemplateUseCase.execute`. -/
def updateTemplate {V : Type} (w : FileTree.World) (s : TemplateSettings) (l : Loaders V)
    (env : TemplateEnv) (profile : ConfigProfile) (content : String) :
    Eff Tree PyErr TemplateContent := do
  let t ← Eff.read
  let path ← Eff.ofExcept (resolveProfileTemplatePath w s t profile)
  let fmt := formatForPath profile path
  let _ ← Eff.ofExcept (l.parseConfigContent content fmt)
  let text := withNewline content
  atomicWrite env path text
  match env.audit with
  | some e => Eff.raise e
  | none => pure ⟨profile, path, fmt, text⟩

/-! ## the builder -/

/-- `_resolve_template_path`. -/
def resolveTemplatePath (w : FileTree.World) (s : TemplateSettings) (t : Tree)
    (templateFile : String) : Except PyErr Path :=
  let path := Path.parse templateFile
  if (w.lookup t path).isSome then .ok path
  else
    let candidate := s.templates.join path
    if (w.lookup t candidate).isSome then .ok candidate
    else .error ⟨.osError, "Template not found: " ++ templateFile⟩

/-- The format a suffix stands for. -/
def formatOfSuffix (path : Path) : ConfigFormat :=
  if suffix path.name = ".yaml" ∨ suffix path.name = ".yml" then .yaml else .json

/-- `load_template`. -/
def loadTemplate {V : Type} (w : FileTree.World) (l : Loaders V) (t : Tree) (path : Path) :
    Except PyErr V := do
  let text ← readText w t path
  let data ← l.load (formatOfSuffix path) text
  if l.isDict data then .ok data
  else .error ⟨.valueError, "Template must be a mapping"⟩

/-- The template a build of the profile starts from (`BuildEnv.template`). -/
def builtTemplate {V : Type} (w : FileTree.World) (s : TemplateSettings) (l : Loaders V) (t : Tree)
    (profile : ConfigProfile) : Except PyErr (Path × V) :=
  match s.templateFile profile with
  | none => .error ⟨.keyError, profile.value⟩
  | some templateFile => do
      let path ← resolveTemplatePath w s t templateFile
      let data ← loadTemplate w l t path
      .ok (path, data)

/-! ## blanks around a document -/

/-- The blanks `json.loads` skips. -/
def jsonBlank (c : Char) : Bool := c = ' ' || c = '\t' || c = '\n' || c = '\r'

/-- `json.loads` skips its blanks around a document, takes no other for a part of
one, and does not tell line ends apart: in a string none may stand. -/
structure Loaders.JsonText {V : Type} (l : Loaders V) : Prop where
  blanks : ∀ before text after : List Char, ∀ data, (∀ c ∈ before ++ after, jsonBlank c = true) →
    (l.jsonLoads (String.ofList (before ++ text ++ after)) = .ok data ↔
      l.jsonLoads (String.ofList text) = .ok data)
  edges : ∀ text data c, l.jsonLoads (String.ofList text) = .ok data →
    text.head? = some c ∨ text.getLast? = some c → PyStr.isSpace c = true → jsonBlank c = true
  newlines : ∀ text data, l.jsonLoads (String.ofList (universalNewlines text)) = .ok data ↔
    l.jsonLoads (String.ofList text) = .ok data

/-- What the builder reads of an edited file. -/
def fileText (content : String) : String := readBack (withNewline content)

/-- A content is the stripped one with blanks of JSON around it. -/
def JsonPadded (content : String) : Prop :=
  ∃ before after, content.toList = before ++ (PyStr.strip content).toList ++ after ∧
    ∀ c ∈ before ++ after, jsonBlank c = true

/-- The parser of the builder reads the file as the one of the editor reads the
stripped content. -/
def FileReadsSame {V : Type} (l : Loaders V) (content : String) : ConfigFormat → ConfigFormat → Prop
  | .json, .json => JsonPadded content
  | edited, built => l.load built (fileText content) = l.load edited (PyStr.strip content)

theorem exists_strip (content : String) :
    ∃ before after, content.toList = before ++ (PyStr.strip content).toList ++ after ∧
      ∀ c ∈ before ++ after, PyStr.isSpace c = true := by
  have hstart := List.takeWhile_append_dropWhile (p := PyStr.isSpace) (l := content.toList)
  have hend := congrArg List.reverse (List.takeWhile_append_dropWhile (p := PyStr.isSpace)
    (l := (content.toList.dropWhile PyStr.isSpace).reverse))
  rw [List.reverse_append, List.reverse_reverse] at hend
  refine ⟨content.toList.takeWhile PyStr.isSpace,
    ((content.toList.dropWhile PyStr.isSpace).reverse.takeWhile PyStr.isSpace).reverse, ?_, ?_⟩
  · rw [PyStr.strip, String.toList_ofList, PyStr.stripChars, PyStr.trim, PyStr.dropRight,
      List.append_assoc, hend, hstart]
  · intro c hc
    obtain hc | hc := List.mem_append.mp hc
    · exact List.mem_takeWhile_imp hc
    · exact List.mem_takeWhile_imp (List.mem_reverse.mp hc)

theorem exists_withNewline (content : String) :
    ∃ after, (withNewline content).toList = content.toList ++ after ∧
      ∀ c ∈ after, jsonBlank c = true := by
  unfold withNewline
  split
  · exact ⟨[], by simp, by simp⟩
  · exact ⟨['\n'], by simp, by simp [jsonBlank]⟩

section Json

variable {V : Type} {l : Loaders V} {data : V}

/-- Only blanks of JSON stand before a document. -/
theorem jsonBlank_before (hjson : l.JsonText) {before text : List Char}
    (hspace : ∀ c ∈ before, PyStr.isSpace c = true)
    (h : l.jsonLoads (String.ofList (before ++ text)) = .ok data) :
    ∀ c ∈ before, jsonBlank c = true := by
  induction before with
  | nil => simp
  | cons c before ih =>
      obtain ⟨hc, hspace⟩ := List.forall_mem_cons.mp hspace
      have hblank := hjson.edges _ data c h (Or.inl rfl) hc
      have hskip := hjson.blanks [c] (before ++ text) [] data (by simpa using hblank)
      rw [List.append_nil] at hskip
      exact List.forall_mem_cons.mpr ⟨hblank, ih hspace (hskip.mp h)⟩

/-- And after one. -/
theorem jsonBlank_after (hjson : l.JsonText) {text after : List Char}
    (hspace : ∀ c ∈ after, PyStr.isSpace c = true)
    (h : l.jsonLoads (String.ofList (text ++ after)) = .ok data) :
    ∀ c ∈ after, jsonBlank c = true := by
  induction after using List.reverseRecOn with
  | nil => simp
  | append_singleton after c ih =>
      obtain ⟨hspace, hc⟩ := List.forall_mem_append.mp hspace
      have hlast : (text ++ (after ++ [c])).getLast? = some c := by simp [← List.append_assoc]
      have hblank := hjson.edges _ data c h (Or.inr hlast) (hc c (by simp))
      have hskip := hjson.blanks [] (text ++ after) [c] data (by simpa using hblank)
      rw [List.nil_append, List.append_assoc] at hskip
      exact List.forall_mem_append.mpr ⟨ih hspace (hskip.mp h), by simpa using hblank⟩

/-- **A JSON file** is read as the stripped content where only blanks of JSON were
stripped. -/
theorem json_fileText_iff (hjson : l.JsonText) {content : String}
    (h : l.jsonLoads (PyStr.strip content) = .ok data) :
    l.jsonLoads (fileText content) = .ok data ↔ JsonPadded content := by
  obtain ⟨newline, hnewline, hblank⟩ := exists_withNewline content
  rw [fileText, readBack, hjson.newlines, hnewline]
  constructor
  · intro hfile
    obtain ⟨before, after, hcontent, hspace⟩ := exists_strip content
    obtain ⟨hbefore, hafter⟩ := List.forall_mem_append.mp hspace
    have hstripped := (hjson.blanks [] content.toList newline data (by simpa using hblank)).mp hfile
    rw [hcontent, List.append_assoc] at hstripped
    have hbefore := jsonBlank_before hjson hbefore hstripped
    have hskip := hjson.blanks before ((PyStr.strip content).toList ++ after) [] data
      (by simpa using hbefore)
    rw [List.append_nil] at hskip
    have hafter := jsonBlank_after hjson hafter (hskip.mp hstripped)
    exact ⟨before, after, hcontent, List.forall_mem_append.mpr ⟨hbefore, hafter⟩⟩
  · rintro ⟨before, after, hcontent, hpadding⟩
    have hall : ∀ c ∈ before ++ (after ++ newline), jsonBlank c = true := by
      rw [← List.append_assoc]
      exact List.forall_mem_append.mpr ⟨hpadding, hblank⟩
    have hskip := hjson.blanks before (PyStr.strip content).toList (after ++ newline) data hall
    rw [hcontent, List.append_assoc, hskip, String.ofList_toList, h]

end Json

/-! ## the edit and the build after it -/

section Build

variable {V : Type} {w : FileTree.World} {s : TemplateSettings} {l : Loaders V} {env : TemplateEnv}
  {t t' : Tree} {profile : ConfigProfile} {content templateFile : String} {q : Place}
  {path : Path} {data : V} {written : TemplateContent}

/-- The place the editor writes to. -/
theorem resolveProfileTemplatePath_spec
    (h : resolveProfileTemplatePath w s t profile = .ok q) :
    ∃ templateFile, s.templateFile profile = some templateFile ∧
      w.resolve t (editedPath w s t templateFile) = some q := by
  unfold resolveProfileTemplatePath at h
  cases hfile : s.templateFile profile with
  | none => simp [hfile] at h
  | some templateFile =>
      refine ⟨templateFile, rfl, ?_⟩
      rw [hfile] at h
      obtain ⟨resolved, hresolved, h⟩ := Except.bind_eq_ok_iff.mp h
      obtain ⟨root, -, h⟩ := Except.bind_eq_ok_iff.mp h
      have hq : resolved = q := by
        split at h
        · exact Except.ok.inj h
        · split at h
          · exact Except.ok.inj h
          · cases h
      unfold resolvePath at hresolved
      cases hplace : w.resolve t (editedPath w s t templateFile) with
      | none => simp [hplace] at hresolved
      | some place =>
          rw [hplace] at hresolved
          rw [← hq, Except.ok.inj hresolved]

theorem atomicWrite_spec {text : String}
    (h : (atomicWrite env q text).exec t = (.ok (), t')) :
    ∃ hw : t.Writable q, t' = t.replace q text hw := by
  unfold atomicWrite at h
  rw [Eff.exec_bind_ok (Eff.exec_read t)] at h
  cases hwriting : env.writing with
  | some e => simp [hwriting] at h
  | none =>
      rw [hwriting] at h
      by_cases hw : t.Writable q
      · simp only [hw, dif_pos, Eff.exec_update, Prod.mk.injEq, true_and] at h
        exact ⟨hw, h.symm⟩
      · simp [hw] at h

/-- What an accepted edit has checked and written. -/
theorem updateTemplate_spec
    (h : (updateTemplate w s l env profile content).exec t = (.ok written, t')) :
    ∃ hw : t.Writable written.path, written.profile = profile ∧
      resolveProfileTemplatePath w s t profile = .ok written.path ∧
      written.format = formatForPath profile written.path ∧
      (∃ data, l.parseConfigContent content written.format = .ok data) ∧
      t' = t.replace written.path (withNewline content) hw := by
  unfold updateTemplate at h
  rw [Eff.exec_bind_ok (Eff.exec_read t)] at h
  cases hpath : resolveProfileTemplatePath w s t profile with
  | error e => simp [hpath, Eff.exec_bind] at h
  | ok path =>
      rw [hpath, Eff.ofExcept_ok_bind] at h
      dsimp only at h
      cases hparsed : l.parseConfigContent content (formatForPath profile path) with
      | error e => simp [hparsed, Eff.exec_bind] at h
      | ok data =>
          rw [hparsed, Eff.ofExcept_ok_bind] at h
          obtain ⟨⟨⟩, t₁, hwrite, h⟩ := Eff.exec_bind_eq_ok h
          obtain ⟨hw, rfl⟩ := atomicWrite_spec hwrite
          cases haudit : env.audit with
          | some e => simp [haudit] at h
          | none =>
              rw [haudit] at h
              simp only [Eff.exec_pure, Prod.mk.injEq, Except.ok.injEq] at h
              obtain ⟨rfl, rfl⟩ := h
              exact ⟨hw, rfl, rfl, rfl, ⟨data, hparsed⟩, rfl⟩

/-- The path the builder opens for a file at `q`, once that is there: the one of
the settings, or the one under `paths.templates` where the first leads to no
file. -/
def Opens (w : FileTree.World) (s : TemplateSettings) (t : Tree) (templateFile : String) (q : Place)
    (path : Path) : Prop :=
  let turn := withDirs t.turn q
  let file := Path.parse templateFile
  (path = file ∧ w.place turn file = some q) ∨
    (path = s.templates.join file ∧ w.place turn path = some q ∧
      ∀ q', w.place turn file = some q' → q' ≠ q ∧ t.file? q' = none)

theorem opens_iff {text : String} {hw : t.Writable q} :
    Opens w s t templateFile q path ↔
      resolveTemplatePath w s (t.replace q text hw) templateFile = .ok path ∧
        w.lookup (t.replace q text hw) path = some q := by
  have hfound (p : Path) : w.lookup (t.replace q text hw) p = some q ↔
      w.place (withDirs t.turn q) p = some q := by
    rw [lookup_replace_iff]
    exact and_iff_left (Or.inl rfl)
  unfold Opens resolveTemplatePath
  dsimp only
  cases hlookup : w.lookup (t.replace q text hw) (Path.parse templateFile) with
  | some q₀ =>
      -- the path of the settings leads to a file
      obtain ⟨hplace, hfile⟩ := lookup_replace_iff.mp hlookup
      rw [Option.isSome_some, if_pos rfl, Except.ok.injEq]
      constructor
      · rintro (⟨rfl, hq⟩ | ⟨-, -, hnone⟩)
        · exact ⟨rfl, (hfound _).mpr hq⟩
        · obtain ⟨hne, hno⟩ := hnone q₀ hplace
          obtain heq | hsome := hfile
          · exact absurd heq hne
          · simp [hno] at hsome
      · rintro ⟨rfl, hq⟩
        exact Or.inl ⟨rfl, (hfound _).mp hq⟩
  | none =>
      have hnone : ∀ q', w.place (withDirs t.turn q) (Path.parse templateFile) = some q' →
          q' ≠ q ∧ t.file? q' = none := by
        intro q' hplace
        have hno : ¬ (q' = q ∨ (t.file? q').isSome = true) := by
          intro hfile
          rw [lookup_replace_iff.mpr ⟨hplace, hfile⟩] at hlookup
          cases hlookup
        simpa using hno
      rw [Option.isSome_none, if_neg (by simp)]
      constructor
      · rintro (⟨rfl, hq⟩ | ⟨rfl, hq, -⟩)
        · exact absurd rfl (hnone q hq).1
        · have hcandidate := (hfound _).mpr hq
          rw [hcandidate]
          exact ⟨rfl, rfl⟩
      · rintro ⟨hpath, hq⟩
        split at hpath
        · obtain rfl := Except.ok.inj hpath
          exact Or.inr ⟨rfl, (hfound _).mp hq, hnone⟩
        · cases hpath

theorem loadTemplate_eq_ok_iff (hdict : l.isDict data = true) {hw : t.Writable q}
    (hlookup : w.lookup (t.replace q (withNewline content) hw) path = some q) :
    loadTemplate w l (t.replace q (withNewline content) hw) path = .ok data ↔
      l.load (formatOfSuffix path) (fileText content) = .ok data := by
  have hread : readText w (t.replace q (withNewline content) hw) path = .ok (fileText content) := by
    simp [readText, hlookup, file?_replace_self, fileText]
  unfold loadTemplate
  rw [hread]
  cases hload : l.load (formatOfSuffix path) (fileText content) with
  | error e => simp [hload]
  | ok data' =>
      simp only [Except.ok_bind_eq, hload]
      constructor
      · intro h
        split at h
        · exact h
        · cases h
      · intro h
        rw [Except.ok.inj h, if_pos hdict]

/-- What was checked is what the parser makes of the stripped content. -/
theorem load_of_parseConfigContent {fmt : ConfigFormat}
    (h : l.parseConfigContent content fmt = .ok data) :
    l.load fmt (PyStr.strip content) = .ok data ∧ l.isDict data = true := by
  unfold Loaders.parseConfigContent at h
  dsimp only at h
  split at h
  · cases h
  · cases hload : l.load fmt (PyStr.strip content) with
    | error e => simp [hload] at h
    | ok data' =>
        simp only [hload] at h
        split at h
        · rename_i hroot
          obtain rfl := Except.ok.inj h
          exact ⟨rfl, (Bool.and_eq_true_iff.mp hroot).1⟩
        · cases h

theorem fileReadsSame_iff (hjson : l.JsonText) {edited built : ConfigFormat}
    (h : l.load edited (PyStr.strip content) = .ok data) :
    FileReadsSame l content edited built ↔ l.load built (fileText content) = .ok data := by
  cases edited with
  | yaml => rw [FileReadsSame, h]; simp
  | json =>
      cases built with
      | json => exact (json_fileText_iff hjson h).symm
      | yaml => rw [FileReadsSame, h]; simp

/-- The template of a profile is built as it was checked, by what was there before
the edit. -/
def BuildsChecked (w : FileTree.World) (s : TemplateSettings) (l : Loaders V) (t : Tree)
    (profile : ConfigProfile) (content : String) : Prop :=
  ∀ templateFile q, s.templateFile profile = some templateFile →
    w.resolve t (editedPath w s t templateFile) = some q →
    ∃ path, Opens w s t templateFile q path ∧
      FileReadsSame l content (formatForPath profile q) (formatOfSuffix path)

/-- The next build opens the file that was written and starts from the document
that was checked. -/
def BuiltAsChecked (w : FileTree.World) (s : TemplateSettings) (l : Loaders V) (t' : Tree)
    (content : String) (written : TemplateContent) : Prop :=
  ∃ path data, l.parseConfigContent content written.format = .ok data ∧
    builtTemplate w s l t' written.profile = .ok (path, data) ∧
    w.lookup t' path = some written.path

/-- **The template that was checked is the one that is built** where the builder
opens the file that was written and reads it as the editor read the content. -/
theorem builtTemplate_iff (hjson : l.JsonText)
    (h : (updateTemplate w s l env profile content).exec t = (.ok written, t')) :
    BuiltAsChecked w s l t' content written ↔ BuildsChecked w s l t profile content := by
  obtain ⟨hw, rfl, hresolve, hformat, ⟨data, hparsed⟩, rfl⟩ := updateTemplate_spec h
  obtain ⟨templateFile, hfile, hplace⟩ := resolveProfileTemplatePath_spec hresolve
  obtain ⟨hload, hdict⟩ := load_of_parseConfigContent hparsed
  have hchecked : BuildsChecked w s l t written.profile content ↔
      ∃ path, Opens w s t templateFile written.path path ∧
        FileReadsSame l content written.format (formatOfSuffix path) := by
    unfold BuildsChecked
    rw [hformat]
    constructor
    · exact fun h => h templateFile written.path hfile hplace
    · intro h templateFile' q hfile' hplace'
      obtain rfl := Option.some.inj (hfile.symm.trans hfile')
      obtain rfl := Option.some.inj (hplace.symm.trans hplace')
      exact h
  rw [hchecked]
  constructor
  · rintro ⟨path, data', hparsed', hbuilt, hlookup⟩
    obtain rfl := Except.ok.inj (hparsed.symm.trans hparsed')
    rw [builtTemplate, hfile] at hbuilt
    obtain ⟨path', hpath, hbuilt⟩ := Except.bind_eq_ok_iff.mp hbuilt
    obtain ⟨data'', hdata, hbuilt⟩ := Except.bind_eq_ok_iff.mp hbuilt
    obtain ⟨rfl, rfl⟩ := Prod.mk.inj (Except.ok.inj hbuilt)
    refine ⟨path', opens_iff.mpr ⟨hpath, hlookup⟩, ?_⟩
    exact (fileReadsSame_iff hjson hload).mpr ((loadTemplate_eq_ok_iff hdict hlookup).mp hdata)
  · rintro ⟨path, hopens, hsame⟩
    obtain ⟨hpath, hlookup⟩ := opens_iff.mp hopens
    refine ⟨path, data, hparsed, ?_, hlookup⟩
    have hdata := (loadTemplate_eq_ok_iff hdict hlookup).mpr
      ((fileReadsSame_iff hjson hload).mp hsame)
    rw [builtTemplate, hfile]
    simp only [hpath, hdata, Except.ok_bind_eq]

/-- Without dot-dot parts in the settings and the links the builder opens the file
that was written. -/
theorem opens_of_noDots (hw : t.Writable q)
    (hlinks : ∀ d target, t.turn d = some (.follow target) → NoDots target.parts)
    (hfile : NoDots (Path.parse templateFile).parts) (htemplates : NoDots s.templates.parts)
    (hmore : w.moreLinks = 0) (h : w.resolve t (editedPath w s t templateFile) = some q) :
    ∃ path, Opens w s t templateFile q path := by
  unfold editedPath at h
  dsimp only at h
  cases hlookup : w.lookup t (Path.parse templateFile) with
  | some q₀ =>
      rw [hlookup, Option.isSome_some, if_pos rfl,
        resolve_of_place (lookup_eq_some_iff.mp hlookup).1] at h
      obtain rfl := Option.some.inj h
      have hkept : w.lookup (t.replace q₀ "" hw) (Path.parse templateFile) = some q₀ :=
        lookup_replace hlookup
      exact ⟨_, Or.inl ⟨rfl, (lookup_replace_iff.mp hkept).1⟩⟩
  | none =>
      rw [hlookup, Option.isSome_none, if_neg (by simp)] at h
      have hparts : NoDots (s.templates.join (Path.parse templateFile)).parts := by
        unfold Path.join
        split
        · exact hfile
        · exact List.forall_mem_append.mpr ⟨htemplates, hfile⟩
      rw [FileTree.World.resolve, hmore] at h
      have hplace : w.place (withDirs t.turn q) (s.templates.join (Path.parse templateFile)) =
          some q := follow_withDirs hw hlinks hparts h
      by_cases hself : w.place (withDirs t.turn q) (Path.parse templateFile) = some q
      · exact ⟨_, Or.inl ⟨rfl, hself⟩⟩
      · refine ⟨_, Or.inr ⟨rfl, hplace, fun q' hq' => ?_⟩⟩
        have hne : q' ≠ q := fun heq => hself (heq ▸ hq')
        refine ⟨hne, ?_⟩
        by_contra hsome
        have hfound : w.lookup (t.replace q "" hw) (Path.parse templateFile) = some q' :=
          lookup_replace_iff.mpr ⟨hq', Or.inr (Option.isSome_iff_ne_none.mpr hsome)⟩
        rw [lookup_of_replace hlinks hfile hfound hne] at hlookup
        cases hlookup

end Build

/-! ## two edits -/

/-- An empty directory for the templates. -/
def Tree.sample : Tree where
  node q := if q = [] ∨ q = ["templates"] then some .dir else none
  root := by simp
  parent name place h := by
    have hplace : place = [] := by
      by_contra hne
      simp [hne] at h
    simp [hplace]

def sampleWorld : FileTree.World := ⟨[], 40, 0⟩

def TemplateSettings.sample : TemplateSettings where
  templates := ⟨true, ["templates"]⟩
  templateFile _ := some "hysteria.server.yaml"

/-- A YAML parser on a plain scalar and on a literal one, which keeps the line end
it stands before. -/
def Loaders.sample : Loaders PyVal where
  jsonLoads _ := .error ⟨.valueError, "Expecting value"⟩
  yamlSafeLoad text :=
    if text = "note: x" ∨ text = "note: x\n" ∨ text = "note: |\n  x" then
      .ok (.dict [("note", .str "x")])
    else if text = "note: |\n  x\n" then .ok (.dict [("note", .str "x\n")])
    else .error ⟨.valueError, "while scanning"⟩
  isDict := PyVal.isDict
  truthy := PyVal.truthy

theorem Loaders.sample_jsonText : Loaders.sample.JsonText where
  blanks _ _ _ _ _ := by simp [Loaders.sample]
  edges _ _ _ h := by simp [Loaders.sample] at h
  newlines _ _ := by simp [Loaders.sample]

/-- A document of one line is built as it was checked. -/
theorem builtAsChecked_of_plainScalar :
    ∃ written t',
      (updateTemplate sampleWorld TemplateSettings.sample Loaders.sample {} .hysteria2
        "note: x").exec Tree.sample = (.ok written, t') ∧
      BuiltAsChecked sampleWorld TemplateSettings.sample Loaders.sample t' "note: x" written := by
  obtain ⟨written, t', h⟩ : ∃ written t',
      (updateTemplate sampleWorld TemplateSettings.sample Loaders.sample {} .hysteria2
        "note: x").exec Tree.sample = (.ok written, t') := ⟨_, _, rfl⟩
  refine ⟨written, t', h, (builtTemplate_iff Loaders.sample_jsonText h).mpr ?_⟩
  intro templateFile q hfile hplace
  obtain rfl := Option.some.inj hfile
  obtain rfl : ["hysteria.server.yaml", "templates"] = q := Option.some.inj hplace
  refine ⟨⟨true, ["templates", "hysteria.server.yaml"]⟩, Or.inr ⟨rfl, rfl, ?_⟩, rfl⟩
  intro q' hq'
  obtain rfl : ["hysteria.server.yaml"] = q' := Option.some.inj hq'
  exact ⟨by decide, rfl⟩

/-- A literal scalar at the end is checked without its line end and built with it. -/
theorem not_builtAsChecked_of_literalScalar :
    ∃ written t',
      (updateTemplate sampleWorld TemplateSettings.sample Loaders.sample {} .hysteria2
        "note: |\n  x\n").exec Tree.sample = (.ok written, t') ∧
      ¬ BuiltAsChecked sampleWorld TemplateSettings.sample Loaders.sample t' "note: |\n  x\n"
        written := by
  refine ⟨_, _, rfl, ?_⟩
  rintro ⟨path, data, hparsed, hbuilt, -⟩
  obtain rfl : PyVal.dict [("note", .str "x")] = data := Except.ok.inj hparsed
  have hdata : PyVal.dict [("note", .str "x\n")] = PyVal.dict [("note", .str "x")] :=
    congrArg Prod.snd (Except.ok.inj hbuilt)
  simp at hdata

end VpnPanel
