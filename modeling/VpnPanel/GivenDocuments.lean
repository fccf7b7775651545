import VpnPanel.StoredVersions

/-!
# VpnPanel.GivenDocuments

Which document each stored version was given.

A version gets its document by the commit of its build, and another by the
commit of an edit of it.  The tables keep the document encrypted, through a
column of JSON that is left when the new value is `==` to the old one, so a row
need not have the document that was committed last.  `given` is proof-only state
that records it; `tracks_step`: where committed edits are `EditPlain`, each row
has the document it was given.
-/

namespace VpnPanel

/-- The document each version was given last. -/
abbrev Given := ConfigId → Nat → Option PyVal

def Given.none : Given := fun _ _ => Option.none

def Given.set (given : Given) (c : ConfigId) (v : Nat) (doc : Option PyVal) : Given :=
  fun c' v' => if c' = c ∧ v' = v then doc else given c' v'

/-- What a step gives: a commit of an edit its parsed document, a commit of a
build the document of its row. -/
def Given.step (ctx : Ctx) (w : World) (given : Given) : Action → Given
  | .advance r env =>
      match w.requests r, env.committed with
      | some (.editing (.committing plan _)), Option.none =>
          given.set plan.configId plan.version (some plan.parsed)
      | _, _ => given
  | .work e env =>
      match w.executions e, env.committed with
      | some ⟨_, payload, .committing row⟩, Option.none =>
          given.set payload.configId payload.targetVersion
            (row.document ctx payload.profile).toOption
      | _, _ => given
  | _ => given

/-- Each row has the document it was given. -/
def Tracks (ctx : Ctx) (w : World) (given : Given) : Prop :=
  ∀ c config v row, w.db.configs c = some config → w.db.versions c v = some row →
    ∃ doc, given c v = some doc ∧ row.document ctx config.profile = .ok doc

/-- The edit's document is plain, and where the column is left the row has it. -/
def EditPlain (_ : ConfigProfile) (plan : EditPlan) (loaded row : VpnConfigVersionModel) : Prop :=
  PlainDocument plan.profile plan.document ∧
    (sameJson loaded.configData plan.encrypted.tree = true → row.configData = plan.stored)

/-- The row has a document. -/
def Documented (ctx : Ctx) (profile : ConfigProfile) (row : VpnConfigVersionModel) : Prop :=
  ∃ doc, row.document ctx profile = .ok doc

section Steps

variable {ctx : Ctx} {w w' : World} {a : Action} {given : Given} {plan : EditPlan}
  {loaded row : VpnConfigVersionModel}

theorem tracks_init (ctx : Ctx) (host : Host) : Tracks ctx (World.init host) Given.none := by
  intro c config v row hconfig
  simp [World.init, Db.empty] at hconfig

theorem Given.step_of_editCommit {r : RequestId} {env : RequestEnv}
    (hr : w.requests r = some (.editing (.committing plan loaded))) (hcom : env.committed = .none) :
    given.step ctx w (.advance r env) =
      given.set plan.configId plan.version (some plan.parsed) := by
  simp only [Given.step, hr, hcom]

theorem Given.step_of_buildCommit {e : ExecutionId} {env : TaskEnv} {x : Execution}
    (he : w.executions e = some x) (hstage : x.stage = .committing row)
    (hcom : env.committed = .none) : given.step ctx w (.work e env) =
      given.set x.payload.configId x.payload.targetVersion
        (row.document ctx x.payload.profile).toOption := by
  obtain ⟨task, payload, stage⟩ := x
  obtain rfl : stage = .committing row := hstage
  simp only [Given.step, he, hcom]

/-- Other steps give nothing. -/
theorem Given.step_of_neither
    (hedit : ∀ r env plan loaded, a = .advance r env →
      w.requests r = some (.editing (.committing plan loaded)) → env.committed ≠ .none)
    (hbuild : ∀ e env x row, a = .work e env → w.executions e = some x →
      x.stage = .committing row → env.committed ≠ .none) : given.step ctx w a = given := by
  cases a with
  | advance r env =>
      simp only [Given.step]
      split
      · next plan loaded hr hcom => exact absurd hcom (hedit r env plan loaded rfl hr)
      · rfl
  | work e env =>
      simp only [Given.step]
      split
      · next task payload row he hcom =>
        exact absurd hcom (hbuild e env ⟨task, payload, .committing row⟩ row rfl he rfl)
      · rfl
  | _ => rfl

/-- A plain edit leaves the row its document. -/
theorem document_of_editPlain (hdrafted : Drafted ctx w plan.toEditDraft) (hflushed : Flushed plan)
    {profile : ConfigProfile} (hprofile : plan.profile = profile)
    (hplain : EditPlain profile plan loaded row) :
    (plan.update loaded row).document ctx profile = .ok plan.parsed := by
  have hdata : (plan.update loaded row).configData = plan.stored := by
    rw [EditPlan.update, updateVersionConfigData]
    split
    · next hleft => exact hplain.2 hleft
    · rfl
  rw [VpnConfigVersionModel.document, hdata, ← hprofile,
    hflushed.decrypt_stored hdrafted hplain.1]

/-- The profile of an edit is that of its config. -/
theorem Drafted.profile_eq {draft : EditDraft} (h : Drafted ctx w draft) {config : VpnConfigModel}
    (hconfig : w.db.configs draft.configId = some config) : draft.profile = config.profile := by
  obtain ⟨config', hconfig', hprofile⟩ := h.profile
  rw [hprofile, Option.some.inj (hconfig'.symm.trans hconfig)]

/-- The commit of a plain edit. -/
theorem Tracks.editCommit (h : Tracks ctx w given) (hdrafted : Drafted ctx w plan.toEditDraft)
    (hflushed : Flushed plan) (hplain : ∀ config row, w.db.configs plan.configId = some config →
      w.db.versions plan.configId plan.version = some row →
        EditPlain config.profile plan loaded row)
    (hdb : w'.db = commitEdit w.now plan loaded w.db) :
    Tracks ctx w' (given.set plan.configId plan.version (some plan.parsed)) := by
  intro c config' v row' hconfig' hrow'
  rw [hdb] at hconfig' hrow'
  obtain ⟨config, row, hconfig, hprofile, hrow, rfl⟩ := rows_of_commitEdit hconfig' hrow'
  rw [hprofile, Given.set]
  split
  · next hcv =>
    obtain ⟨rfl, rfl⟩ := hcv
    exact ⟨plan.parsed, rfl, document_of_editPlain hdrafted hflushed
      (hdrafted.profile_eq hconfig) (hplain config row hconfig hrow)⟩
  · exact h c config v row hconfig hrow

/-- The commit of a build. -/
theorem Tracks.buildCommit (h : Tracks ctx w given) {p : Payload} {config : VpnConfigModel}
    (hconfig : w.db.configs p.configId = some config) (hprofile : p.profile = config.profile)
    (hdocument : Documented ctx p.profile row) (hdb : w'.db = commitBuild w.now p row w.db) :
    Tracks ctx w' (given.set p.configId p.targetVersion
      (row.document ctx p.profile).toOption) := by
  intro c config' v row' hconfig' hrow'
  rw [hdb] at hconfig' hrow'
  obtain ⟨config₀, hconfig₀, hprofile₀, hrow⟩ := rows_of_commitBuild hconfig' hrow'
  rw [hprofile₀, Given.set]
  obtain ⟨rfl, rfl, rfl⟩ | ⟨hne, hrow⟩ := hrow
  · obtain rfl : config = config₀ := Option.some.inj (hconfig.symm.trans hconfig₀)
    obtain ⟨doc, hdoc⟩ := hdocument
    rw [if_pos ⟨rfl, rfl⟩, ← hprofile, hdoc]
    exact ⟨doc, rfl, rfl⟩
  · rw [if_neg hne]
    exact h c config₀ v row' hconfig₀ hrow

/-- **Step.**  Where a committed edit is plain and a committed build has a
document, each row has the document it was given. -/
theorem tracks_step (hsound : Sound w) (hprofiled : Profiled w) (hready : EditsReady ctx w)
    (hedit : AtEditCommit EditPlain w a) (hbuild : AtBuildCommit (Documented ctx) w a)
    (h : Tracks ctx w given) : Tracks ctx (step ctx w a) (given.step ctx w a) := by
  by_cases hcommit : ∃ r env plan loaded, a = .advance r env ∧
      w.requests r = some (.editing (.committing plan loaded)) ∧ env.committed = none
  · obtain ⟨r, env, plan, loaded, rfl, hr, hcom⟩ := hcommit
    rw [Given.step_of_editCommit hr hcom]
    exact h.editCommit (hready.drafted r _ _ hr rfl) (hready.flushed r _ plan hr rfl)
      (fun config row => hedit hcom plan loaded config row hr) (db_of_editCommit ctx hr hcom)
  by_cases hbuilt : ∃ e env x row, a = .work e env ∧ w.executions e = some x ∧
      x.stage = .committing row ∧ env.committed = none
  · obtain ⟨e, env, x, row, rfl, he, hstage, hcom⟩ := hbuilt
    have hflight : InFlight w x.payload := .execution e x he rfl
    obtain ⟨config, hconfig⟩ := hsound.owned.inFlight x.payload hflight
    rw [Given.step_of_buildCommit he hstage hcom]
    exact h.buildCommit hconfig (hprofiled x.payload config hflight hconfig)
      (hbuild hcom x row he hstage) (db_of_buildCommit ctx he hstage hcom)
  · rw [Given.step_of_neither
      (fun r env plan loaded ha hr hcom => hcommit ⟨r, env, plan, loaded, ha, hr, hcom⟩)
      fun e env x row ha he hstage hcom => hbuilt ⟨e, env, x, row, ha, he, hstage, hcom⟩]
    obtain heq | hstep : step ctx w a = w ∨ Step ctx w a (step ctx w a) := step_cases a
    · rw [heq]
      exact h
    · obtain hsame | ⟨r, env, plan, loaded, ha, hr, -, -, hcom⟩ |
        ⟨e, env, x, row, ha, he, hstage, -, -, -, hcom⟩ := versions_eq_of_step hstep
      · intro c config' v row hconfig' hrow
        rw [hsame] at hrow
        obtain ⟨config, hconfig⟩ := hsound.owned.versions c v (by simp [hrow])
        rw [profile_of_step hstep hconfig hconfig']
        exact h c config v row hconfig hrow
      · exact absurd ⟨r, env, plan, loaded, ha, hr, hcom⟩ hcommit
      · exact absurd ⟨e, env, x, row, ha, he, hstage, hcom⟩ hbuilt

end Steps

end VpnPanel
