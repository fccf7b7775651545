import VpnPanel.LiveDocuments
import VpnPanel.ConfigBuild

/-!
# VpnPanel.StoredVersions

A rule for properties of the stored versions.

A row of `vpn_config_versions` is written by the commit of a build and
rewritten by the commit of an edit, so a step keeps `V` in all rows exactly when
what it commits has `V`: `stored_step_iff`.  An execution has carried its result
since it wrote the documents; where every result of a build makes a row with
`V`, all rows have `V` all along a run exactly when every edit that commits
leaves it in place: `stored_iff`.
-/

namespace VpnPanel

/-- Every stored version has `V`, with the profile of its config. -/
def Stored (V : ConfigProfile → VpnConfigVersionModel → Prop) (w : World) : Prop :=
  ∀ c config v row, w.db.configs c = some config → w.db.versions c v = some row →
    V config.profile row

/-- What an execution carries from its documents to its commit: a result with
`Q`, then a row with `V`. -/
def TaskStage.Carries (V : ConfigProfile → VpnConfigVersionModel → Prop)
    (Q : ConfigProfile → BuildResult → Prop) (profile : ConfigProfile) : TaskStage → Prop
  | restarting result | syncing result | inserting result => Q profile result
  | committing row => V profile row
  | _ => True

/-- Every execution carries what its commit needs. -/
def Carries (V : ConfigProfile → VpnConfigVersionModel → Prop)
    (Q : ConfigProfile → BuildResult → Prop) (w : World) : Prop :=
  ∀ e x, w.executions e = some x → x.stage.Carries V Q x.payload.profile

/-- The step commits an edit of a config with this profile: `K` tells what the
edit has settled on, the row it has loaded and the row as it stands. -/
def AtEditCommit
    (K : ConfigProfile → EditPlan → VpnConfigVersionModel → VpnConfigVersionModel → Prop)
    (w : World) : Action → Prop
  | .advance r env => env.committed = none → ∀ plan loaded config row,
      w.requests r = some (.editing (.committing plan loaded)) →
      w.db.configs plan.configId = some config →
      w.db.versions plan.configId plan.version = some row → K config.profile plan loaded row
  | _ => True

/-- The step commits a build with this profile and this row. -/
def AtBuildCommit (R : ConfigProfile → VpnConfigVersionModel → Prop) (w : World) : Action → Prop
  | .work e env => env.committed = none → ∀ x row, w.executions e = some x →
      x.stage = .committing row → R x.payload.profile row
  | _ => True

/-- An execution that builds has what the builder makes of the tables. -/
def BuildsHonestly (ctx : Ctx) (crypto : Crypto) (w : World) : Action → Prop
  | .work e env => ∀ x, w.executions e = some x → x.stage = .building →
      BuildsFrom ctx crypto w.db x.payload env
  | _ => True

section Steps

variable {ctx : Ctx} {w w' : World} {a : Action}
  {V : ConfigProfile → VpnConfigVersionModel → Prop} {Q : ConfigProfile → BuildResult → Prop}
  {K : ConfigProfile → EditPlan → VpnConfigVersionModel → VpnConfigVersionModel → Prop}

theorem stored_init (host : Host) : Stored V (World.init host) := by
  intro c config v row hconfig
  simp [World.init, Db.empty] at hconfig

theorem carries_init (host : Host) : Carries V Q (World.init host) := by
  intro e x he
  simp [World.init] at he

/-- The documents a step of an execution writes. -/
def BuildsDocuments (ctx : Ctx) (w : World) (a : Action) (p : Payload) (env : TaskEnv)
    (result : BuildResult) : Prop :=
  ∃ e x h', a = .work e env ∧ w.executions e = some x ∧ x.stage = .building ∧ x.payload = p ∧
    (buildDocuments ctx env p).exec w.host = (.ok result, h')

/-- What an execution carries stays with it. -/
theorem TaskMove.carries {env : TaskEnv} {p : Payload} {s s' : Store} {stage stage' : TaskStage}
    (hmove : TaskMove ctx env p s stage stage' s') (h : stage.Carries V Q p.profile)
    (hbuild : ∀ result h', stage = .building →
      (buildDocuments ctx env p).exec s.host = (.ok result, h') → Q p.profile result)
    (hinsert : ∀ result row, Q p.profile result → insertVersion ctx env p result s.db = .ok row →
      V p.profile row) : stage'.Carries V Q p.profile := by
  cases hmove with
  | build h' result hx => exact hbuild result h' rfl hx
  | restart h' result hx | sync h' result hx => exact h
  | insert result row hins => exact hinsert result row h hins
  | missing stage hstage hnone => trivial
  | rollback stage e hstage hcom => trivial
  | _ => trivial

theorem carries_step (hstep : Step ctx w a w') (h : Carries V Q w)
    (hbuild : ∀ p env result, BuildsDocuments ctx w a p env result → Q p.profile result)
    (hinsert : ∀ env p result db row, Q p.profile result →
      insertVersion ctx env p result db = .ok row → V p.profile row) : Carries V Q w' := by
  intro e x' he'
  obtain he | ⟨t, task, -, -, rfl⟩ | ⟨env, x, s, rfl, he, -, hp, hmove, -, -⟩ :=
    execution_of_step hstep he'
  · exact h e x' he
  · trivial
  · rw [hp]
    refine hmove.carries (h e x he) ?_ fun result row => hinsert env x.payload result w.db row
    intro result h' hstage hx
    exact hbuild x.payload env result ⟨e, x, h', rfl, he, hstage, rfl, hx⟩

/-- What the commit of an edit makes of the tables. -/
theorem db_of_editCommit (ctx : Ctx) {r : RequestId} {env : RequestEnv} {plan : EditPlan}
    {loaded : VpnConfigVersionModel} (hr : w.requests r = some (.editing (.committing plan loaded)))
    (hcom : env.committed = none) :
    (step ctx w (.advance r env)).db = commitEdit w.now plan loaded w.db := by
  simp [step, World.advance, hr, World.advanceEdit, editStep, hcom, EditStage.takesLock]

/-- What the commit of a build makes of the tables. -/
theorem db_of_buildCommit (ctx : Ctx) {e : ExecutionId} {env : TaskEnv} {x : Execution}
    {row : VpnConfigVersionModel} (he : w.executions e = some x)
    (hstage : x.stage = .committing row)
    (hcom : env.committed = none) :
    (step ctx w (.work e env)).db = commitBuild w.now x.payload row w.db := by
  simp [step, World.work, he, hstage, taskStep, hcom, TaskStage.takesLock]

/-- The rows after the commit of an edit. -/
theorem rows_of_commitEdit {now : Nat} {plan : EditPlan} {loaded : VpnConfigVersionModel} {db : Db}
    {c : ConfigId} {config' : VpnConfigModel} {v : Nat} {row' : VpnConfigVersionModel}
    (hconfig' : (commitEdit now plan loaded db).configs c = some config')
    (hrow' : (commitEdit now plan loaded db).versions c v = some row') :
    ∃ config row, db.configs c = some config ∧ config'.profile = config.profile ∧
      db.versions c v = some row ∧
      row' = if c = plan.configId ∧ v = plan.version then plan.update loaded row else row := by
  obtain ⟨config, hconfig, hprofile⟩ : ∃ config, db.configs c = some config ∧
      config'.profile = config.profile := by
    by_cases hc : c = plan.configId
    · subst hc
      obtain ⟨config, hconfig, rfl⟩ : ∃ config, db.configs plan.configId = some config ∧
          touch now config = config' := by
        simpa [commitEdit] using hconfig'
      exact ⟨config, hconfig, rfl⟩
    · exact ⟨config', by simpa [commitEdit, hc] using hconfig', rfl⟩
  by_cases hcv : c = plan.configId ∧ v = plan.version
  · obtain ⟨rfl, rfl⟩ := hcv
    obtain ⟨row, hrow, rfl⟩ : ∃ row, db.versions plan.configId plan.version = some row ∧
        plan.update loaded row = row' := by
      simpa [commitEdit] using hrow'
    exact ⟨config, row, hconfig, hprofile, hrow, by rw [if_pos ⟨rfl, rfl⟩]⟩
  · exact ⟨config, row', hconfig, hprofile, by simpa [commitEdit, hcv] using hrow',
      by rw [if_neg hcv]⟩

/-- The rows after the commit of a build. -/
theorem rows_of_commitBuild {now : Nat} {p : Payload} {row : VpnConfigVersionModel} {db : Db}
    {c : ConfigId} {config' : VpnConfigModel} {v : Nat} {row' : VpnConfigVersionModel}
    (hconfig' : (commitBuild now p row db).configs c = some config')
    (hrow' : (commitBuild now p row db).versions c v = some row') :
    ∃ config, db.configs c = some config ∧ config'.profile = config.profile ∧
      (c = p.configId ∧ v = p.targetVersion ∧ row' = row ∨
        ¬ (c = p.configId ∧ v = p.targetVersion) ∧ db.versions c v = some row') := by
  obtain ⟨config, hconfig, hprofile⟩ : ∃ config, db.configs c = some config ∧
      config'.profile = config.profile := by
    by_cases hc : c = p.configId
    · subst hc
      obtain ⟨config, hconfig, rfl⟩ : ∃ config, db.configs p.configId = some config ∧
          markBuilt now p.targetVersion config = config' := by
        simpa [commitBuild] using hconfig'
      exact ⟨config, hconfig, rfl⟩
    · exact ⟨config', by simpa [commitBuild, hc] using hconfig', rfl⟩
  refine ⟨config, hconfig, hprofile, ?_⟩
  by_cases hcv : c = p.configId ∧ v = p.targetVersion
  · obtain ⟨rfl, rfl⟩ := hcv
    exact Or.inl ⟨rfl, rfl, by simpa [commitBuild, eq_comm] using hrow'⟩
  · exact Or.inr ⟨hcv, by simpa [commitBuild, Db.setVersion, hcv] using hrow'⟩

/-- The commit of an edit keeps `V` in all rows exactly when it leaves it in the
one it rewrites. -/
theorem stored_editCommit_iff {plan : EditPlan} {loaded : VpnConfigVersionModel}
    (hdb : w'.db = commitEdit w.now plan loaded w.db) (h : Stored V w) :
    Stored V w' ↔ ∀ config row, w.db.configs plan.configId = some config →
      w.db.versions plan.configId plan.version = some row →
        V config.profile (plan.update loaded row) := by
  constructor
  · intro hstored config row hconfig hrow
    exact hstored plan.configId (touch w.now config) plan.version _
      (by simp [hdb, commitEdit, hconfig]) (by simp [hdb, commitEdit, hrow])
  · intro hkeeps c config' v row' hconfig' hrow'
    rw [hdb] at hconfig' hrow'
    obtain ⟨config, row, hconfig, hprofile, hrow, rfl⟩ := rows_of_commitEdit hconfig' hrow'
    rw [hprofile]
    split
    · next hcv =>
      obtain ⟨rfl, rfl⟩ := hcv
      exact hkeeps config row hconfig hrow
    · exact h c config v row hconfig hrow

/-- The commit of a build keeps `V` in all rows exactly when the row it writes
has it. -/
theorem stored_buildCommit_iff {x : Execution} {row : VpnConfigVersionModel}
    {config : VpnConfigModel} (hdb : w'.db = commitBuild w.now x.payload row w.db)
    (hconfig : w.db.configs x.payload.configId = some config) (h : Stored V w) :
    Stored V w' ↔ V config.profile row := by
  constructor
  · intro hstored
    exact hstored x.payload.configId (markBuilt w.now x.payload.targetVersion config)
      x.payload.targetVersion row (by simp [hdb, commitBuild, hconfig]) (by simp [hdb, commitBuild])
  · intro hnew c config' v row' hconfig' hrow'
    rw [hdb] at hconfig' hrow'
    obtain ⟨config₀, hconfig₀, hprofile, hrow⟩ := rows_of_commitBuild hconfig' hrow'
    rw [hprofile]
    obtain ⟨rfl, rfl, rfl⟩ | ⟨-, hrow⟩ := hrow
    · obtain rfl : config = config₀ := Option.some.inj (hconfig.symm.trans hconfig₀)
      exact hnew
    · exact h c config₀ v row' hconfig₀ hrow

/-- A step that commits neither keeps `V`. -/
theorem stored_of_versions_eq (hsound : Sound w) (hstep : Step ctx w a w') (h : Stored V w)
    (hversions : w'.db.versions = w.db.versions) : Stored V w' := by
  intro c config' v row hconfig' hrow
  rw [hversions] at hrow
  obtain ⟨config, hconfig⟩ := hsound.owned.versions c v (by simp [hrow])
  rw [profile_of_step hstep hconfig hconfig']
  exact h c config v row hconfig hrow

/-- **Step.**  A step keeps `V` in all rows exactly when the row it commits, of
an edit or of a build, has it. -/
theorem stored_step_iff (hsound : Sound w) (hprofiled : Profiled w) (h : Stored V w)
    (hedit : ∀ r env plan loaded config row, a = .advance r env →
      w.requests r = some (.editing (.committing plan loaded)) → env.committed = none →
      w.db.configs plan.configId = some config →
      w.db.versions plan.configId plan.version = some row → V config.profile row →
      (V config.profile (plan.update loaded row) ↔ K config.profile plan loaded row)) :
    Stored V (step ctx w a) ↔ AtEditCommit K w a ∧ AtBuildCommit V w a := by
  by_cases hcommit : ∃ r env plan loaded, a = .advance r env ∧
      w.requests r = some (.editing (.committing plan loaded)) ∧ env.committed = none
  · obtain ⟨r, env, plan, loaded, rfl, hr, hcom⟩ := hcommit
    rw [stored_editCommit_iff (db_of_editCommit ctx hr hcom) h]
    constructor
    · refine fun hkeeps => ⟨fun _ plan' loaded' config row hr' hconfig hrow => ?_, trivial⟩
      obtain ⟨rfl, rfl⟩ : plan = plan' ∧ loaded = loaded' := by simpa using hr.symm.trans hr'
      exact (hedit r env plan loaded config row rfl hr hcom hconfig hrow
        (h _ _ _ _ hconfig hrow)).mp (hkeeps config row hconfig hrow)
    · rintro ⟨hkeeps, -⟩ config row hconfig hrow
      exact (hedit r env plan loaded config row rfl hr hcom hconfig hrow
        (h _ _ _ _ hconfig hrow)).mpr (hkeeps hcom plan loaded config row hr hconfig hrow)
  by_cases hbuild : ∃ e env x row, a = .work e env ∧ w.executions e = some x ∧
      x.stage = .committing row ∧ env.committed = none
  · obtain ⟨e, env, x, row, rfl, he, hstage, hcom⟩ := hbuild
    have hflight : InFlight w x.payload := .execution e x he rfl
    obtain ⟨config, hconfig⟩ := hsound.owned.inFlight x.payload hflight
    rw [stored_buildCommit_iff (db_of_buildCommit ctx he hstage hcom) hconfig h,
      ← hprofiled x.payload config hflight hconfig]
    constructor
    · refine fun hnew => ⟨trivial, fun _ x' row' he' hstage' => ?_⟩
      obtain rfl : x = x' := Option.some.inj (he.symm.trans he')
      obtain rfl : row = row' := by simpa using hstage.symm.trans hstage'
      exact hnew
    · rintro ⟨-, hnew⟩
      exact hnew hcom x row he hstage
  · have hno : AtEditCommit K w a ∧ AtBuildCommit V w a := by
      constructor
      · cases a with
        | advance r env =>
            intro hcom plan loaded _ _ hr
            exact absurd ⟨r, env, plan, loaded, rfl, hr, hcom⟩ hcommit
        | _ => trivial
      · cases a with
        | work e env =>
            intro hcom x row he hstage
            exact absurd ⟨e, env, x, row, rfl, he, hstage, hcom⟩ hbuild
        | _ => trivial
    refine (iff_true_right hno).mpr ?_
    obtain heq | hstep : step ctx w a = w ∨ Step ctx w a (step ctx w a) := step_cases a
    · rw [heq]
      exact h
    · obtain hsame | ⟨r, env, plan, loaded, ha, hr, -, -, hcom⟩ |
        ⟨e, env, x, row, ha, he, hstage, -, -, -, hcom⟩ := versions_eq_of_step hstep
      · exact stored_of_versions_eq hsound hstep h hsame
      · exact absurd ⟨r, env, plan, loaded, ha, hr, hcom⟩ hcommit
      · exact absurd ⟨e, env, x, row, ha, he, hstage, hcom⟩ hbuild

end Steps

/-- What holds along the runs of `stored_iff`. -/
structure Versioned (V : ConfigProfile → VpnConfigVersionModel → Prop)
    (Q : ConfigProfile → BuildResult → Prop) (w : World) : Prop where
  sound : Sound w
  profiled : Profiled w
  carries : Carries V Q w

theorem versioned_init (V : ConfigProfile → VpnConfigVersionModel → Prop)
    (Q : ConfigProfile → BuildResult → Prop) (host : Host) : Versioned V Q (World.init host) :=
  ⟨sound_init host, profiled_init host, carries_init host⟩

section Runs

variable {ctx : Ctx} {V : ConfigProfile → VpnConfigVersionModel → Prop}
  {Q : ConfigProfile → BuildResult → Prop}
  {K : ConfigProfile → EditPlan → VpnConfigVersionModel → VpnConfigVersionModel → Prop}
  {H : World → Action → Prop}

theorem versioned_step {w : World} {a : Action} (h : Versioned V Q w)
    (hbuild : ∀ p env result, BuildsDocuments ctx w a p env result → Q p.profile result)
    (hinsert : ∀ env p result db row, Q p.profile result →
      insertVersion ctx env p result db = .ok row → V p.profile row) :
    Versioned V Q (step ctx w a) := by
  obtain heq | hstep : step ctx w a = w ∨ Step ctx w a (step ctx w a) := step_cases a
  · rw [heq]
    exact h
  · exact ⟨sound_of_step hstep h.sound, profiled_step h.sound hstep h.profiled,
      carries_step hstep h.carries hbuild hinsert⟩

/-- What an execution carries is what it commits. -/
theorem Carries.atBuildCommit {w : World} (h : Carries V Q w) (a : Action) :
    AtBuildCommit V w a := by
  cases a with
  | work e env =>
      intro _ x row he hstage
      have hcarried := h e x he
      rw [hstage] at hcarried
      exact hcarried
  | _ => trivial

/-- **When all stored versions have a property.**  Where the steps meet `H`, and
so the builds make results whose rows have `V`, the stored versions have it all
along the run exactly when every edit that commits leaves it in place. -/
theorem stored_iff
    (hbuild : ∀ w a p env result, Versioned V Q w → Stored V w → H w a →
      BuildsDocuments ctx w a p env result → Q p.profile result)
    (hinsert : ∀ env p result db row, Q p.profile result →
      insertVersion ctx env p result db = .ok row → V p.profile row)
    (hedit : ∀ profile plan loaded row, V profile row →
      (V profile (plan.update loaded row) ↔
        K profile plan loaded row))
    {host : Host} {as : List Action} (hH : Machine.Meets (step ctx) H (World.init host) as) :
    (∀ bs, bs <+: as → Stored V (runFrom ctx host bs)) ↔
      Machine.Meets (step ctx) (AtEditCommit K) (World.init host) as := by
  have hstep (w : World) (a : Action) (h : Versioned V Q w) (hstored : Stored V w) (ha : H w a) :
      Versioned V Q (step ctx w a) :=
    versioned_step h (fun p env result => hbuild w a p env result h hstored ha) hinsert
  have hexact (w : World) (a : Action) (h : Versioned V Q w) (hstored : Stored V w) (_ : H w a) :
      Stored V (step ctx w a) ↔ AtEditCommit K w a := by
    rw [stored_step_iff h.sound h.profiled hstored
      fun _ _ plan loaded config row _ _ _ _ _ => hedit config.profile plan loaded row]
    exact and_iff_left (h.carries.atBuildCommit a)
  exact Machine.always_iff_meets hstep hexact (versioned_init V Q host) (stored_init host) hH

end Runs

/-! ## checks of the commits of a run -/

section Checks

variable {w : World} {e : ExecutionId} {env : TaskEnv}

/-- Whether the edit a request is about to commit has a property. -/
def editCheck (b : ConfigProfile → EditPlan → VpnConfigVersionModel → VpnConfigVersionModel → Bool)
    (w : World) (r : RequestId) : Bool :=
  match w.requests r with
  | some (.editing (.committing plan loaded)) =>
      match w.db.configs plan.configId, w.db.versions plan.configId plan.version with
      | some config, some row => b config.profile plan loaded row
      | _, _ => true
  | _ => true

/-- The commit of an edit that is checked. -/
theorem atEditCommit_of_check
    {K : ConfigProfile → EditPlan → VpnConfigVersionModel → VpnConfigVersionModel → Prop}
    {b : ConfigProfile → EditPlan → VpnConfigVersionModel → VpnConfigVersionModel → Bool}
    (hb : ∀ profile plan loaded row, b profile plan loaded row = true → K profile plan loaded row)
    {r : RequestId} {renv : RequestEnv} (h : editCheck b w r = true) :
    AtEditCommit K w (.advance r renv) := by
  intro _ plan loaded config row hr hconfig hrow
  simp only [editCheck, hr, hconfig, hrow] at h
  exact hb config.profile plan loaded row h

/-- Whether the build an execution is about to commit has a property. -/
def buildCheck (b : ConfigProfile → VpnConfigVersionModel → Bool) (w : World) (e : ExecutionId) :
    Bool :=
  match w.executions e with
  | some ⟨_, payload, .committing row⟩ => b payload.profile row
  | _ => true

/-- The commit of a build that is checked. -/
theorem atBuildCommit_of_check {R : ConfigProfile → VpnConfigVersionModel → Prop}
    {b : ConfigProfile → VpnConfigVersionModel → Bool}
    (hb : ∀ profile row, b profile row = true → R profile row) (h : buildCheck b w e = true) :
    AtBuildCommit R w (.work e env) := by
  rintro _ ⟨task, payload, stage⟩ row he rfl
  simp only [buildCheck, he] at h
  exact hb payload.profile row h

end Checks

end VpnPanel
