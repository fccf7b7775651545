import VpnPanel.ServedDocument
import VpnPanel.Lifecycle

/-!
# VpnPanel.FailedEdit

What an edit of a config's document that does not succeed leaves behind.

The session is rolled back, so the tables are exactly as they were.  The
served file is not: what fails after its replacement (the unit, the restart,
the wait for the service, the mux, the answer, the commit) leaves the
submitted document in place.
-/

namespace VpnPanel

/-- What an edit that raised `e` leaves of the served file, by the part that
raised. -/
inductive FailedEdit (ctx : Ctx) (env : EditEnv) (c : ConfigId) (submitted : Submission)
    (s : Store) (e : PyErr) (s' : Store) : Prop where
  /-- A check, or the selection of the rows. -/
  | refused (h : s' = s)
  /-- The files up to the served one, which may be replaced only by its own
  write. -/
  | unwritten (plan : EditPlan) (ps : VpnProfileSettings)
      (hplan : SettlesOn ctx env s.db c submitted plan)
      (hps : ctx.settings.profileSettings plan.profile = .ok ps)
      (hx : (writeDocuments ctx.settings env.faults env.timestamp plan.profile c
        plan.result).exec s.host = (.error e, s'.host))
      (hserved : served ctx.settings ps plan.profile c s'.host =
          served ctx.settings ps plan.profile c s.host ∨
        served ctx.settings ps plan.profile c s'.host = some plan.parsed ∧
          ∃ f, env.faults .writeLive = some f ∨ env.faults .writeActive = some f)
  /-- Anything later. -/
  | written (plan : EditPlan) (ps : VpnProfileSettings) (doc : PyVal) (h₁ : Host)
      (hplan : SettlesOn ctx env s.db c submitted plan)
      (hps : ctx.settings.profileSettings plan.profile = .ok ps)
      (hx : (writeDocuments ctx.settings env.faults env.timestamp plan.profile c
        plan.result).exec s.host = (.ok doc, h₁))
      (hserved : HasServedFile ctx.settings ps →
        served ctx.settings ps plan.profile c s'.host = some plan.parsed)

section Rules

variable {ctx : Ctx} {env : EditEnv}

/-- A plan is for a profile that has settings. -/
theorem profileSettings_of_settlesOn {db : Db} {c : ConfigId} {submitted : Submission}
    {plan : EditPlan} (h : SettlesOn ctx env db c submitted plan) :
    ∃ ps, ctx.settings.profileSettings plan.profile = .ok ps := by
  obtain ⟨draft, loaded, hdraft, -, hflush⟩ := h
  obtain ⟨-, config, ps, -, -, hprofile, hps, -⟩ := planEdit_spec hdraft
  obtain ⟨rfl, -⟩ := EditDraft.flush_spec hflush
  exact ⟨ps, by simp [PanelSettings.profileSettings, hprofile, hps]⟩

/-- The documents of an edit, written or not. -/
theorem served_of_writeDocuments {plan : EditPlan} {ps : VpnProfileSettings} {c : ConfigId}
    {h h' : Host} {r : Except PyErr PyVal}
    (hps : ctx.settings.profileSettings plan.profile = .ok ps)
    (hx : (writeDocuments ctx.settings env.faults env.timestamp plan.profile c
      plan.result).exec h = (r, h')) :
    (∀ doc, r = .ok doc → HasServedFile ctx.settings ps →
      served ctx.settings ps plan.profile c h' = some plan.parsed) ∧
    ∀ e, r = .error e →
      served ctx.settings ps plan.profile c h' = served ctx.settings ps plan.profile c h ∨
        served ctx.settings ps plan.profile c h' = some plan.parsed ∧
          ∃ f, env.faults .writeLive = some f ∨ env.faults .writeActive = some f := by
  by_cases hfile : HasServedFile ctx.settings ps
  · have hserves : Serves ctx.settings ps plan.profile c (served ctx.settings ps plan.profile c h)
        (h.services (servingName ctx.settings ps c)) h := ⟨rfl, rfl⟩
    constructor
    · rintro doc rfl -
      obtain ⟨hserves', hsame⟩ :=
        (spec_writeDocuments hps hfile env.timestamp plan.result).ok hserves hx
      rw [hserves'.doc, hsame rfl]
      rfl
    · rintro e rfl
      obtain hold | ⟨⟨doc, hserves', hsame⟩, hf⟩ :=
        (spec_writeDocuments hps hfile env.timestamp plan.result).error hserves hx
      · exact Or.inl hold.doc
      · exact Or.inr ⟨by rw [hserves'.doc, hsame rfl]; rfl, hf⟩
  · refine ⟨fun _ _ hno => absurd hno hfile, fun e _ => Or.inl ?_⟩
    rw [served_eq_none hfile, served_eq_none hfile]

/-- The restart does not change what is served. -/
theorem served_of_restartService {plan : EditPlan} {ps : VpnProfileSettings} {c : ConfigId}
    {h h' : Host} {r : Except PyErr Unit}
    (hx : (restartService ctx.settings env.faults plan.profile c plan.name).exec h = (r, h')) :
    served ctx.settings ps plan.profile c h' = served ctx.settings ps plan.profile c h := by
  have hkeeps : Eff.Keeps (served ctx.settings ps plan.profile c)
      (restartService ctx.settings env.faults plan.profile c plan.name) :=
    within_restartService (fun _ _ _ => rfl) (fun _ => rfl) (fun _ _ => rfl) fun _ _ _ _ => rfl
  exact hkeeps.of_exec hx

theorem served_of_syncMux {plan : EditPlan} {ps : VpnProfileSettings} {c : ConfigId}
    {h h' : Host} {r : Except PyErr Unit}
    (hx : (syncMux ctx.settings env.faults plan.profile plan.parsed).exec h = (r, h')) :
    served ctx.settings ps plan.profile c h' = served ctx.settings ps plan.profile c h := by
  have hkeeps : Eff.Keeps (served ctx.settings ps plan.profile c)
      (syncMux ctx.settings env.faults plan.profile plan.parsed) :=
    within_syncMux fun _ _ _ => rfl
  exact hkeeps.of_exec hx

end Rules

/-- **A failed edit.**  The request of an edit raises: the tables are exactly
as before, and the served file is as before or, when the failure came after
its replacement, the submitted document. -/
theorem failedEdit_of_updateConfigData {ctx : Ctx} {env : EditEnv} {now : Nat} {c : ConfigId}
    {submitted : Submission} {s s' : Store} {e : PyErr}
    (hx : (updateConfigData ctx env now c submitted).exec s = (.error e, s')) :
    s'.db = s.db ∧ FailedEdit ctx env c submitted s e s' := by
  unfold updateConfigData at hx
  rw [Eff.exec_bind_ok (Eff.exec_read s)] at hx
  obtain hx | ⟨draft, s₀, hdraft, hx⟩ := Eff.exec_bind_eq_error hx
  · rw [Eff.exec_ofExcept] at hx
    obtain rfl : s = s' := congrArg Prod.snd hx
    exact ⟨rfl, .refused rfl⟩
  rw [Eff.exec_ofExcept] at hdraft
  obtain ⟨hdrafted, rfl⟩ : planEdit ctx env s.db c submitted = .ok draft ∧ s = s₀ := by
    simpa using hdraft
  have hselected (r : Except PyErr VpnConfigVersionModel) (t : Store)
      (h : (selectPlanned draft).exec s = (r, t)) :
      selectVersion s.db draft.configId draft.version = r ∧ s = t := by
    rw [selectPlanned, Eff.exec_bind_ok (Eff.exec_read s), Eff.exec_ofExcept] at h
    exact Prod.mk.inj h
  obtain hx | ⟨loaded, s₁, hsel, hx⟩ := Eff.exec_bind_eq_error hx
  · obtain rfl : s = s' := (hselected _ _ hx).2
    exact ⟨rfl, .refused rfl⟩
  obtain ⟨hloaded, rfl⟩ := hselected _ _ hsel
  obtain hx | ⟨plan, s₁, hflush, hx⟩ := Eff.exec_bind_eq_error hx
  · rw [Eff.exec_ofExcept] at hx
    obtain rfl : s = s' := congrArg Prod.snd hx
    exact ⟨rfl, .refused rfl⟩
  rw [Eff.exec_ofExcept] at hflush
  obtain ⟨hflushed, rfl⟩ : draft.flush loaded = .ok plan ∧ s = s₁ := by simpa using hflush
  have hplanned : SettlesOn ctx env s.db c submitted plan :=
    ⟨draft, loaded, hdrafted, hloaded, hflushed⟩
  obtain ⟨ps, hps⟩ := profileSettings_of_settlesOn hplanned
  obtain hx | ⟨doc, s₂, hwritten, hx⟩ := Eff.exec_bind_eq_error hx
  · obtain ⟨hx, hdb⟩ := of_exec_onHost hx
    exact ⟨hdb, .unwritten plan ps hplanned hps hx ((served_of_writeDocuments hps hx).2 e rfl)⟩
  obtain ⟨hwritten, hdb₂⟩ := of_exec_onHost hwritten
  -- whatever fails from here on, the submitted document stands
  have hleaves {t : Store} (hdb : t.db = s₂.db)
      (hserved : served ctx.settings ps plan.profile c t.host =
        served ctx.settings ps plan.profile c s₂.host) :
      t.db = s.db ∧ FailedEdit ctx env c submitted s e t := by
    refine ⟨hdb.trans hdb₂, .written plan ps doc s₂.host hplanned hps hwritten fun hfile => ?_⟩
    rw [hserved]
    exact (served_of_writeDocuments hps hwritten).1 doc rfl hfile
  obtain hx | ⟨_, s₃, hrestarted, hx⟩ := Eff.exec_bind_eq_error hx
  · obtain ⟨hx, hdb⟩ := of_exec_onHost hx
    exact hleaves hdb (served_of_restartService hx)
  obtain ⟨hrestarted, hdb₃⟩ := of_exec_onHost hrestarted
  obtain hx | ⟨_, s₄, hsynced, hx⟩ := Eff.exec_bind_eq_error hx
  · obtain ⟨hx, hdb⟩ := of_exec_onHost hx
    exact hleaves (hdb.trans hdb₃) ((served_of_syncMux hx).trans
      (served_of_restartService hrestarted))
  obtain ⟨hsynced, hdb₄⟩ := of_exec_onHost hsynced
  have hend : s' = s₄ := by
    cases hans : env.answered with
    | some e' =>
        rw [hans, Eff.exec_raise] at hx
        exact (congrArg Prod.snd hx).symm
    | none =>
        rw [hans] at hx
        cases hcom : env.committed with
        | some e' =>
            simp only [hcom, exec_commit_some] at hx
            exact (congrArg Prod.snd hx).symm
        | none =>
            simp only [hcom, exec_commit_none] at hx
            cases hx
  rw [hend]
  exact hleaves (hdb₄.trans hdb₃)
    ((served_of_syncMux hsynced).trans (served_of_restartService hrestarted))

/-- An edit of config 0 that moves its inbound, whose service is not ready
afterwards. -/
def unreadyEdit : EditEnv where
  faults op :=
    if op = .waitReady then some ⟨⟨.timeoutExpired, "not ready"⟩, false, .failed⟩ else none

/-- The theorem at that edit. -/
theorem failedEdit_of_unreadyEdit :
    FailedEdit Ctx.sample unreadyEdit 0 (.configData (.ofVal (sampleConfigData 8443))) firstStore
      ⟨.timeoutExpired, "not ready"⟩
      ((updateConfigData Ctx.sample unreadyEdit 0 0
        (.configData (.ofVal (sampleConfigData 8443)))).exec firstStore).2 := by
  have hx : (updateConfigData Ctx.sample unreadyEdit 0 0
      (.configData (.ofVal (sampleConfigData 8443)))).exec firstStore =
        (.error ⟨.timeoutExpired, "not ready"⟩, ((updateConfigData Ctx.sample unreadyEdit 0 0
          (.configData (.ofVal (sampleConfigData 8443)))).exec firstStore).2) := rfl
  exact (failedEdit_of_updateConfigData hx).2

/-- **An edit is not atomic.**  That request fails, and the live file holds the
submitted document. -/
theorem served_after_unreadyEdit :
    ((updateConfigData Ctx.sample unreadyEdit 0 0
      (.configData (.ofVal (sampleConfigData 8443)))).exec firstStore).1 =
        .error ⟨.timeoutExpired, "not ready"⟩ ∧
      served Ctx.sample.settings sampleProfile .xrayXhttp 0 firstStore.host =
        some (sampleConfigData 443) ∧
      served Ctx.sample.settings sampleProfile .xrayXhttp 0
        ((updateConfigData Ctx.sample unreadyEdit 0 0
          (.configData (.ofVal (sampleConfigData 8443)))).exec firstStore).2.host =
        some (sampleConfigData 8443) ∧
      sampleConfigData 443 ≠ sampleConfigData 8443 :=
  ⟨rfl, rfl, rfl, by decide⟩

end VpnPanel
