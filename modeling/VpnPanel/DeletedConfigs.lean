import VpnPanel.HostSteps
import VpnPanel.RowLocks

/-!
# VpnPanel.DeletedConfigs

What can still happen to a config that has been deleted.

`DeleteConfigUseCase` removes the unit and the live files and hides the row;
requests do not see it any more.  A worker does: it looks the config up
whether it is deleted or not, so a task that was queued or under way builds
its version, writes the live file and starts the service again.
-/

namespace VpnPanel

/-- The config's delete has committed. -/
def Db.deleted (db : Db) (c : ConfigId) : Prop :=
  ∃ row, db.configs c = some row ∧ row.isActive = false

/-- Of what stands on the machine for config `c`, `h'` has what `h` has, or
less; nothing is written, installed, enabled or started. -/
structure Undisturbed (c : ConfigId) (h h' : Host) : Prop where
  live : ∀ key : LiveKey, key.configId = c →
    h'.live.get? key = h.live.get? key ∨ h'.live.get? key = none
  pems : ∀ dir name, h'.pems (.live dir c) name = h.pems (.live dir c) name ∨
    h'.pems (.live dir c) name = none
  units : ∀ dir pre, h'.units dir (.config pre c) = h.units dir (.config pre c) ∨
    h'.units dir (.config pre c) = none
  enabled : ∀ pre, h'.enabled (.config pre c) = h.enabled (.config pre c) ∨
    h'.enabled (.config pre c) = false
  services : ∀ pre, h'.services (.config pre c) = h.services (.config pre c) ∨
    h'.services (.config pre c) = .stopped

instance (c : ConfigId) : IsPreorder Host (Undisturbed c) where
  refl h := ⟨fun _ _ => Or.inl rfl, fun _ _ => Or.inl rfl, fun _ _ => Or.inl rfl,
    fun _ => Or.inl rfl, fun _ => Or.inl rfl⟩
  trans h₁ h₂ h₃ h h' := by
    constructor
    · intro key hkey
      grind [Undisturbed]
    all_goals grind [Undisturbed]

/-- Nothing has happened to the deleted config `c` from `w` to `w'`. -/
structure AfterDelete (c : ConfigId) (w w' : World) : Prop where
  versions : w'.db.versions c = w.db.versions c
  status : (w'.db.configs c).map VpnConfigModel.status = (w.db.configs c).map VpnConfigModel.status
  host : Undisturbed c w.host w'.host

/-- Between any two moments of a run after a delete has committed, nothing
happens to its config. -/
def QuietAfterDelete (ctx : Ctx) (host : Host) (as : List Action) : Prop :=
  ∀ before between after, as = before ++ between ++ after →
    ∀ c, (runFrom ctx host before).db.deleted c →
      AfterDelete c (runFrom ctx host before) (runFrom ctx host (before ++ between))

/-- No worker starts on a build of a deleted config or commits another status
for one, and no edit flushes a change of one. -/
def SparesDeleted (w : World) : Action → Prop
  | .work e env => ∀ x, w.executions e = some x → w.db.deleted x.payload.configId →
      match x.stage with
      | .processing => False
      | .marking loaded => loaded.status = .active ∨ env.committed.isSome
      | .markingFailed _ loaded => loaded.status = .failed
      | _ => True
  | .advance r _ => ∀ plan loaded, w.requests r = some (.editing (.flushing plan loaded)) →
      ¬ w.db.deleted plan.configId
  | _ => True

/-! ## what is done for another config -/

section Frame

variable {settings : PanelSettings} {c c' : ConfigId}

/-- A change that leaves everything of `c` as it is. -/
theorem Undisturbed.of_eq {h h' : Host}
    (hlive : ∀ key : LiveKey, key.configId = c → h'.live.get? key = h.live.get? key)
    (hpems : ∀ dir name, h'.pems (.live dir c) name = h.pems (.live dir c) name)
    (hunits : ∀ dir pre, h'.units dir (.config pre c) = h.units dir (.config pre c))
    (henabled : ∀ pre, h'.enabled (.config pre c) = h.enabled (.config pre c))
    (hservices : ∀ pre, h'.services (.config pre c) = h.services (.config pre c)) :
    Undisturbed c h h' :=
  ⟨fun key hkey => Or.inl (hlive key hkey), fun dir name => Or.inl (hpems dir name),
    fun dir pre => Or.inl (hunits dir pre), fun pre => Or.inl (henabled pre),
    fun pre => Or.inl (hservices pre)⟩

theorem certBase_ne (hne : c' ≠ c) (profile : ConfigProfile) (ps : VpnProfileSettings)
    (dir : String) : CertBase.live dir c ≠ certBase settings profile ps c' := by
  unfold certBase
  split
  · simp [hne.symm]
  · split <;> simp

/-- What is done for another config does not disturb. -/
theorem allows_undisturbed (hne : c' ≠ c) : Allows settings c' (Undisturbed c) where
  pem h profile ps name entry _ := by
    refine Undisturbed.of_eq (fun _ _ => rfl) (fun dir name' => ?_) (fun _ _ => rfl) (fun _ => rfl)
      fun _ => rfl
    simp [Host.setPem, certBase_ne hne]
  liveDir h profile := Undisturbed.of_eq (fun _ _ => rfl) (fun _ _ => rfl) (fun _ _ => rfl)
    (fun _ => rfl) fun _ => rfl
  archive h filename doc := Undisturbed.of_eq (fun _ _ => rfl) (fun _ _ => rfl) (fun _ _ => rfl)
    (fun _ => rfl) fun _ => rfl
  live h profile filename doc := by
    refine Undisturbed.of_eq (fun key hkey => ?_) (fun _ _ => rfl) (fun _ _ => rfl) (fun _ => rfl)
      fun _ => rfl
    have hkey' : liveConfigPath profile c' filename settings.systemd ≠ key := by
      rintro rfl
      exact hne hkey
    simp [Host.setLive, hkey']
  active _ h path doc := Undisturbed.of_eq (fun _ _ => rfl) (fun _ _ => rfl) (fun _ _ => rfl)
    (fun _ => rfl) fun _ => rfl
  unit h dir u := by
    refine Undisturbed.of_eq (fun _ _ => rfl) (fun _ _ => rfl) (fun dir' pre => ?_) (fun _ => rfl)
      fun _ => rfl
    simp [Host.setUnit, configServiceName, hne.symm]
  enable h := by
    refine Undisturbed.of_eq (fun _ _ => rfl) (fun _ _ => rfl) (fun _ _ => rfl) (fun pre => ?_)
      fun _ => rfl
    simp [Host.setEnabled, configServiceName, hne.symm]
  service h state := by
    refine Undisturbed.of_eq (fun _ _ => rfl) (fun _ _ => rfl) (fun _ _ => rfl) (fun _ => rfl)
      fun pre => ?_
    simp [Host.setService, configServiceName, hne.symm]
  shared _ h name state := by
    refine Undisturbed.of_eq (fun _ _ => rfl) (fun _ _ => rfl) (fun _ _ => rfl) (fun _ => rfl)
      fun pre => ?_
    simp [Host.setService]
  stream h path conf := Undisturbed.of_eq (fun _ _ => rfl) (fun _ _ => rfl) (fun _ _ => rfl)
    (fun _ => rfl) fun _ => rfl

/-- No delete disturbs. -/
theorem allowsDelete_undisturbed (systemd : SystemdSettings) :
    AllowsDelete systemd c' (Undisturbed c) where
  stop h := by
    refine { refl_of (Undisturbed c) h with services := fun pre => ?_ }
    by_cases hname : ServiceName.config pre c = configServiceName systemd c'
    · exact Or.inr (by simp [Host.setService, hname])
    · exact Or.inl (by simp [Host.setService, hname])
  disable h := by
    refine { refl_of (Undisturbed c) h with enabled := fun pre => ?_ }
    by_cases hname : ServiceName.config pre c = configServiceName systemd c'
    · exact Or.inr (by simp [Host.setEnabled, hname])
    · exact Or.inl (by simp [Host.setEnabled, hname])
  unit h dir := by
    refine { refl_of (Undisturbed c) h with units := fun dir' pre => ?_ }
    by_cases hname : dir' = dir ∧ ServiceName.config pre c = configServiceName systemd c'
    · exact Or.inr (by simp [Host.setUnit, hname])
    · exact Or.inl (by simp [Host.setUnit, hname])
  live h _ undeletable :=
    { refl_of (Undisturbed c) h with
      live := fun key _ => (live_removeLiveDir h _ c' undeletable key).imp_right And.right
      pems := fun dir name => (pems_removeLiveDir h _ c' undeletable (.live dir c) name).imp_right
        And.right }

end Frame

/-! ## the invariant -/

/-- A deleted config is not locked: nobody is building it or writing it. -/
structure DeletedUnlocked (w : World) : Prop where
  execution : ∀ e x, w.executions e = some x → w.db.deleted x.payload.configId →
    x.stage.holdsLock = false
  edit : ∀ r stage, w.requests r = some (.editing stage) → w.db.deleted stage.configId →
    stage.holdsLock = false

theorem deletedUnlocked_init (host : Host) : DeletedUnlocked (World.init host) where
  execution e x he := by simp [World.init] at he
  edit r stage hr := by simp [World.init] at hr

section Steps

variable {ctx : Ctx} {w w' : World} {a : Action} {c : ConfigId}

/-- A deleted config was deleted before the step, or its delete has found the
row unlocked. -/
theorem deleted_of_step (hstep : Step ctx w a w') (h : w'.db.deleted c) :
    w.db.deleted c ∨
      ∃ r, w.requests r = some (.deleteCommitting c) ∧ w.lockFree c (.request r) = true := by
  obtain ⟨row', hrow', hactive'⟩ := h
  obtain ⟨-, -, -, -, -, -, -, hnew⟩ | ⟨row, hrow, hchange⟩ := row_of_step hstep hrow'
  · rw [hnew] at hactive'
    contradiction
  · cases hchange with
    | deleted r env row hr hlock hcom => exact Or.inr ⟨r, hr, hlock⟩
    | _ => exact Or.inl ⟨_, hrow, hactive'⟩

/-- A deleted config stays deleted. -/
theorem deleted_step (hstep : Step ctx w a w') (h : w.db.deleted c) : w'.db.deleted c := by
  obtain ⟨row, hrow, hactive⟩ := h
  obtain ⟨row', hrow'⟩ := configs_mono hstep hrow
  obtain ⟨-, -, hnone, -⟩ | ⟨row₀, hrow₀, hchange⟩ := row_of_step hstep hrow'
  · rw [hnone] at hrow
    contradiction
  · obtain rfl : row = row₀ := Option.some.inj (hrow.symm.trans hrow₀)
    cases hchange with
    | deleted r env row hr hlock hcom => exact ⟨_, hrow', rfl⟩
    | _ => exact ⟨_, hrow', hactive⟩

/-- Nobody holds the lock that a delete has found free. -/
theorem RowLocked.not_holdsLock (h : RowLocked w) {r : RequestId}
    (hr : w.requests r = some (.deleteCommitting c)) (hfree : w.lockFree c (.request r) = true) :
    (∀ e x, w.executions e = some x → x.payload.configId = c → x.stage.holdsLock = false) ∧
      ∀ r' stage, w.requests r' = some (.editing stage) → stage.configId = c →
        stage.holdsLock = false := by
  have hlocks := World.locks_of_lockFree hfree
  constructor
  · rintro e x he rfl
    by_contra hholds
    rw [h.execution e x he (by simpa using hholds)] at hlocks
    simp at hlocks
  · rintro r' stage hr' rfl
    by_contra hholds
    rw [h.edit r' stage hr' (by simpa using hholds)] at hlocks
    obtain rfl : r' = r := by simpa using hlocks
    rw [hr] at hr'
    simp at hr'

theorem deletedUnlocked_step (hlocked : RowLocked w) (hstep : Step ctx w a w')
    (hspares : SparesDeleted w a) (h : DeletedUnlocked w) : DeletedUnlocked w' where
  execution e x' he' hdeleted := by
    obtain he | ⟨t, task, -, -, rfl⟩ | ⟨env, x, s, rfl, he, -, hp, hmove, hdb, -⟩ :=
      execution_of_step hstep he'
    · obtain hold | ⟨r, hr, hfree⟩ := deleted_of_step hstep hdeleted
      · exact h.execution e x' he hold
      · exact (hlocked.not_holdsLock hr hfree).1 e x' he rfl
    · rfl
    · rw [hdb, hp] at hdeleted
      by_contra hholds
      obtain hheld | hprocessing := hmove.holdsLock_cases (by simpa using hholds)
      · rw [h.execution e x he hdeleted] at hheld
        contradiction
      · have hfalse := hspares x he hdeleted
        rw [hprocessing] at hfalse
        exact hfalse
  edit r stage' hr' hdeleted := by
    obtain hr | ⟨c, submitted, rfl⟩ | ⟨env, stage, s, rfl, hr, -, hmove, hdb, -⟩ :=
      edit_of_step hstep hr'
    · obtain hold | ⟨r₀, hr₀, hfree⟩ := deleted_of_step hstep hdeleted
      · exact h.edit r stage' hr hold
      · exact (hlocked.not_holdsLock hr₀ hfree).2 r stage' hr rfl
    · rfl
    · rw [hdb, hmove.configId_eq] at hdeleted
      by_contra hholds
      obtain hheld | ⟨plan, loaded, rfl⟩ := hmove.holdsLock_cases (by simpa using hholds)
      · rw [h.edit r stage hr hdeleted] at hheld
        contradiction
      · exact hspares plan loaded hr hdeleted

/-- The version rows of a deleted config stay. -/
theorem versions_of_deleted (hstep : Step ctx w a w') (h : DeletedUnlocked w)
    (hdeleted : w.db.deleted c) : w'.db.versions c = w.db.versions c := by
  obtain hsame | ⟨r, env, plan, loaded, -, hr, hdb, -⟩ |
    ⟨e, env, x, row, -, he, hstage, hdb, -, -⟩ := versions_eq_of_step hstep
  · rw [hsame]
  · have hne : c ≠ plan.configId := by
      rintro rfl
      exact absurd (h.edit r _ hr hdeleted) (by simp [EditStage.holdsLock])
    funext v
    simp [hdb, commitEdit, hne]
  · have hne : c ≠ x.payload.configId := by
      rintro rfl
      exact absurd (h.execution e x he hdeleted) (by simp [hstage, TaskStage.holdsLock])
    funext v
    simp [hdb, commitBuild, Db.setVersion, hne]

/-- So does its status. -/
theorem status_of_deleted (hstep : Step ctx w a w') (hspares : SparesDeleted w a)
    (h : DeletedUnlocked w) (hdeleted : w.db.deleted c) :
    (w'.db.configs c).map VpnConfigModel.status = (w.db.configs c).map VpnConfigModel.status := by
  have hdel := hdeleted
  obtain ⟨row, hrow, hactive⟩ := hdeleted
  obtain ⟨row', hrow'⟩ := configs_mono hstep hrow
  obtain ⟨-, -, hnone, -⟩ | ⟨row₀, hrow₀, hchange⟩ := row_of_step hstep hrow'
  · rw [hnone] at hrow
    contradiction
  · obtain rfl : row = row₀ := Option.some.inj (hrow.symm.trans hrow₀)
    suffices hstatus : row'.status = row.status by simp [hrow, hrow', hstatus]
    cases hchange with
    | prepared r env loaded row p hr hactive' hcur hc hr' =>
        rw [hactive] at hactive'
        contradiction
    | marked e env row x loaded he hc hstage hcom hlock hgone =>
        have hsame := hspares x he (hc ▸ hdel)
        rw [hstage] at hsame
        have hloaded : loaded.status = .active := by simpa [hcom] using hsame
        simp [markActive_status, hloaded]
    | built e env row x vrow he hc hstage hcom hdb hhost hgone =>
        exact absurd (h.execution e x he (hc ▸ hdel)) (by simp [hstage, TaskStage.holdsLock])
    | failed e env row x exc loaded he hc hstage hlock hgone =>
        have hsame := hspares x he (hc ▸ hdel)
        rw [hstage] at hsame
        have hloaded : loaded.status = .failed := hsame
        simp [markFailed_status, hloaded]
    | _ => rfl

/-- Nothing happens to a deleted config. -/
theorem afterDelete_of_step (hstep : Step ctx w a w') (hspares : SparesDeleted w a)
    (h : DeletedUnlocked w) (hdeleted : w.db.deleted c) : AfterDelete c w w' where
  versions := versions_of_deleted hstep h hdeleted
  status := status_of_deleted hstep hspares h hdeleted
  host := by
    refine host_of_step hstep (fun e x _ he hholds => allows_undisturbed ?_)
      (fun r stage _ hr hwrites => allows_undisturbed ?_)
      fun r c' profile _ _ => allowsDelete_undisturbed ctx.settings.systemd
    · rintro rfl
      rw [h.execution e x he hdeleted] at hholds
      contradiction
    · rintro rfl
      have hfree := h.edit r stage hr hdeleted
      cases stage <;> simp [EditStage.holdsLock, EditStage.writes] at hfree hwrites

end Steps

theorem AfterDelete.refl (c : ConfigId) (w : World) : AfterDelete c w w :=
  ⟨rfl, rfl, refl_of (Undisturbed c) w.host⟩

theorem AfterDelete.trans {c : ConfigId} {w₁ w₂ w₃ : World} (h₁ : AfterDelete c w₁ w₂)
    (h₂ : AfterDelete c w₂ w₃) : AfterDelete c w₁ w₃ :=
  ⟨h₂.versions.trans h₁.versions, h₂.status.trans h₁.status,
    trans_of (Undisturbed c) h₁.host h₂.host⟩

/-- **Nothing happens to a deleted config, as long as the workers and edits
spare it.**  In every run in which no worker starts on a build of a deleted
config or commits another status for one and no edit flushes a change of one,
nothing is written, installed, enabled or started for a config once its delete
has committed, and its version rows and its status stay. -/
theorem quietAfterDelete_of_sparesDeleted (ctx : Ctx) (host : Host) (as : List Action)
    (h : Machine.Meets (step ctx) SparesDeleted (World.init host) as) :
    QuietAfterDelete ctx host as := by
  rintro before between after rfl c hdeleted
  have hinv (w : World) (a : Action) (hI : RowLocked w ∧ DeletedUnlocked w)
      (hC : SparesDeleted w a) :
      RowLocked (step ctx w a) ∧ DeletedUnlocked (step ctx w a) := by
    refine step_induction (I := fun w => RowLocked w ∧ DeletedUnlocked w) ?_ w a hI hC
    intro w a w' hstep ⟨hlocked, hunlocked⟩ hspares
    exact ⟨rowLocked_step hstep hlocked, deletedUnlocked_step hlocked hstep hspares hunlocked⟩
  rw [Machine.meets_append, Machine.meets_append] at h
  have hbefore := Machine.run_invariant_of_meets hinv
    ⟨rowLocked_init host, deletedUnlocked_init host⟩ h.1.1
  rw [runFrom, runFrom, Machine.run_append]
  -- along the rest of the run the config stays deleted
  refine (Machine.run_rel_of_meets
    (R := fun w w' => w.db.deleted c → w'.db.deleted c ∧ AfterDelete c w w')
    (fun w hw => ⟨hw, AfterDelete.refl c w⟩) (fun h₁ h₂ hw => ?_) hinv (fun w a hI hC hw => ?_)
    hbefore h.1.2 hdeleted).2
  · obtain ⟨hw₂, hafter₁⟩ := h₁ hw
    obtain ⟨hw₃, hafter₂⟩ := h₂ hw₂
    exact ⟨hw₃, hafter₁.trans hafter₂⟩
  · obtain heq | hstep : step ctx w a = w ∨ Step ctx w a (step ctx w a) := step_cases a
    · rw [heq]
      exact ⟨hw, AfterDelete.refl c w⟩
    · exact ⟨deleted_step hstep hw, afterDelete_of_step hstep hC hI.2 hw⟩

/-- A config is deleted before its first task is delivered, and the worker dies
before it looks the config up. -/
def deletedThenCrash : List Action :=
  [.create 0 0 "c" .xray .xrayXhttp none none, .advance 0 { publish := .accepted 0 },
    .advance 0 {}, .delete 1 0, .advance 1 {}, .advance 1 {}, .advance 1 {}, .deliver 0 0,
    .work 0 (sampleBuild 443), .crash 0]

/-- Such a run is quiet. -/
theorem quietAfterDelete_of_deletedThenCrash :
    QuietAfterDelete Ctx.sample Host.blank deletedThenCrash := by
  refine quietAfterDelete_of_sparesDeleted _ _ _
    ⟨trivial, ?_, ?_, trivial, ?_, ?_, ?_, trivial, ?_, trivial, trivial⟩
  · rintro plan loaded ⟨⟩
  · rintro plan loaded ⟨⟩
  · rintro plan loaded ⟨⟩
  · rintro plan loaded ⟨⟩
  · rintro plan loaded ⟨⟩
  · rintro x ⟨⟩ -
    trivial

/-- Version 1 is built, a regenerate publishes its task, and the config is
deleted before it is delivered. -/
def deletedWhileQueued : List Action :=
  firstVersion ++
    [.regenerate 1 0, .advance 1 {}, .advance 1 {}, .advance 1 { publish := .accepted 1 },
      .advance 1 {}, .delete 2 0, .advance 2 {}, .advance 2 {}, .advance 2 {}]

/-- A worker pulls that task and builds. -/
def lateBuild : List Action := .deliver 1 1 :: List.replicate 8 (.work 1 (sampleBuild 8443))

/-- **A queued task of a deleted config is executed**: its version is stored
after the delete. -/
theorem not_quietAfterDelete_of_deletedWhileQueued :
    ¬ QuietAfterDelete Ctx.sample Host.blank (deletedWhileQueued ++ lateBuild) := by
  intro h
  have hdeleted : ((runFrom Ctx.sample Host.blank deletedWhileQueued).db.configs 0).map
      VpnConfigModel.isActive = some false := by decide
  obtain ⟨row, hrow, hactive⟩ := Option.map_eq_some_iff.mp hdeleted
  have hversions := (h deletedWhileQueued lateBuild [] (by simp) 0 ⟨row, hrow, hactive⟩).versions
  have hbefore : ((runFrom Ctx.sample Host.blank deletedWhileQueued).db.versions 0 2).isSome =
      false := by decide
  have hafter : ((runFrom Ctx.sample Host.blank
      (deletedWhileQueued ++ lateBuild)).db.versions 0 2).isSome = true := by decide
  rw [hversions, hbefore] at hafter
  contradiction

end VpnPanel
