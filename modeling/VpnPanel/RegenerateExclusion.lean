import VpnPanel.RowLocks

/-!
# VpnPanel.RegenerateExclusion

How far the status of a config keeps its tasks apart.

`regenerate_config.py` refuses a config that is pending or processing.  That
keeps a new task away from one that has not been executed, as long as the
requests do not overlap.  It does not keep it away from a task that has been
executed and may be delivered again: its config is active or failed, and a
failed task's version number is used again.
-/

namespace VpnPanel

/-- A create or regenerate of `c` that has passed its checks and has not
published. -/
def RequestStage.regenerates (c : ConfigId) : RequestStage → Prop
  | .regenerateChecked c' => c' = c
  | .regeneratePrepared c' _ => c' = c
  | .publishing p => p.configId = c
  | _ => False

/-- A task of `c` that can be delivered, or is being executed. -/
def Live (w : World) (c : ConfigId) (t : TaskId) : Prop :=
  ∃ task, w.tasks t = some task ∧ task.payload.configId = c ∧
    (task.finished = false ∨ ∃ e x, w.executions e = some x ∧ x.task = t)

/-- What the requests for one config should be able to rely on. -/
structure Exclusive (w : World) (c : ConfigId) : Prop where
  /-- An accepted request finds no earlier task that can still be delivered. -/
  alone : ∀ r p, w.requests r = some (.publishing p) → p.configId = c →
    ∀ t task, w.tasks t = some task → task.payload.configId = c → task.finished = true
  /-- No two tasks are to build the same version. -/
  distinct : ∀ t t' task task', w.tasks t = some task → w.tasks t' = some task' →
    task.payload.configId = c → task'.payload.configId = c →
    task.payload.targetVersion = task'.payload.targetVersion → t = t'
  /-- At most one task is unfinished. -/
  single : ∀ t t' task task', w.tasks t = some task → w.tasks t' = some task' →
    task.payload.configId = c → task'.payload.configId = c → task.finished = false →
    task'.finished = false → t = t'

/-- A regenerate that finds a config ready starts while no other create or
regenerate of it is under way, and while none of its tasks that have been
executed can be delivered again or is being executed. -/
def RegeneratesAlone (w : World) : Action → Prop
  | .regenerate r c => ∀ config, w.requests r = none → w.db.getActive c = some config →
      config.currentVersion ≠ none → config.status.busy = false →
        (∀ r' stage, w.requests r' = some stage → ¬ stage.regenerates c) ∧
          ∀ t task, w.tasks t = some task → task.payload.configId = c → task.executed = true →
            ¬ Live w c t
  | _ => True

/-! ## the invariant -/

/-- What the status of `c` guarantees in such runs. -/
structure Guarded (w : World) (c : ConfigId) : Prop where
  /-- At most one request is under way, … -/
  one : ∀ r r' stage stage', w.requests r = some stage → w.requests r' = some stage' →
    stage.regenerates c → stage'.regenerates c → r = r'
  /-- … its config is there, … -/
  known : ∀ r stage, w.requests r = some stage → stage.regenerates c →
    ∃ row, w.db.configs c = some row
  /-- … no task is live beside it, … -/
  idle : ∀ r stage, w.requests r = some stage → stage.regenerates c → ∀ t, ¬ Live w c t
  /-- … and at most one task is live otherwise. -/
  live : ∀ t t', Live w c t → Live w c t' → t = t'
  prepared : ∀ r loaded, w.requests r = some (.regeneratePrepared c loaded) →
    loaded.status.busy = false
  /-- While a task is about to be published, or not executed, the config is
  pending. -/
  publishing : ∀ r p row, w.requests r = some (.publishing p) → p.configId = c →
    w.db.configs c = some row → row.status = .pending
  waiting : ∀ t task row, w.tasks t = some task → task.payload.configId = c →
    task.executed = false → w.db.configs c = some row → row.status = .pending
  /-- The current version is the last, and a live task builds that or the
  next. -/
  newest : ∀ row v, w.db.configs c = some row → (w.db.versions c v).isSome = true →
    ∃ current, row.currentVersion = some current ∧ v ≤ current
  target : ∀ t task v, Live w c t → w.tasks t = some task → (w.db.versions c v).isSome = true →
    v ≤ task.payload.targetVersion
  next : ∀ r p v, w.requests r = some (.publishing p) → p.configId = c →
    (w.db.versions c v).isSome = true → v < p.targetVersion

theorem guarded_init (host : Host) (c : ConfigId) : Guarded (World.init host) c := by
  constructor <;> intros <;> simp_all [World.init, Db.empty, Live]

section Preserved

variable {ctx : Ctx} {w w' : World} {a : Action} {c : ConfigId}

/-- An execution of the config is one of a live task. -/
theorem live_of_execution {e : ExecutionId} {x : Execution} (htasked : Tasked w)
    (he : w.executions e = some x) (hc : x.payload.configId = c) : Live w c x.task := by
  obtain ⟨task, ht, hp⟩ := htasked e x he
  exact ⟨task, ht, by rw [hp, hc], Or.inr ⟨e, x, he, rfl⟩⟩

/-- A task that has not been executed is live. -/
theorem live_of_not_executed {t : TaskId} {task : Task} (hsound : Sound w)
    (ht : w.tasks t = some task) (hc : task.payload.configId = c) (hex : task.executed = false) :
    Live w c t := by
  refine ⟨task, ht, hc, Or.inl ?_⟩
  cases hfin : task.finished with
  | false => rfl
  | true =>
      rw [hsound.finishedExecuted t task ht hfin] at hex
      contradiction

/-- Where a live task comes from. -/
theorem live_of_step {t : TaskId} (hstep : Step ctx w a w') (h : Live w' c t) :
    Live w c t ∨ ∃ r p, w.tasks t = none ∧ w.requests r = some (.publishing p) ∧
      p.configId = c ∧ a.publishes = some t ∧
      ∀ stage', w'.requests r = some stage' → ¬ stage'.regenerates c := by
  obtain ⟨task', ht', hc, hlive⟩ := h
  obtain ⟨r, p, hnone, hr, hr', hpub, rfl⟩ | ⟨task, ht, hchange⟩ := task_of_step hstep ht'
  · refine Or.inr ⟨r, p, hnone, hr, hc, hpub, fun stage' hstage' => ?_⟩
    obtain hr' | hr' := hr' <;> rw [hr'] at hstage'
    · cases hstage'
      exact not_false
    · contradiction
  · have hpayload : task'.payload = task.payload := by cases hchange <;> rfl
    refine Or.inl ⟨task, ht, hpayload ▸ hc, ?_⟩
    obtain hfin | ⟨e, x', he', hx'⟩ := hlive
    · left
      cases hchange with
      | same => exact hfin
      | reported e env task x out s he hx hend hdb => exact hfin
      | finished task hex => contradiction
    · rcases execution_of_step hstep he' with he | ⟨t₀, task₀, ht₀, hfin, rfl⟩ |
        ⟨env, x, s, -, he, htask, -, -, -, -⟩
      · exact Or.inr ⟨e, x', he, hx'⟩
      · obtain rfl : t₀ = t := hx'
        obtain rfl : task = task₀ := Option.some.inj (ht.symm.trans ht₀)
        exact Or.inl hfin
      · exact Or.inr ⟨e, x, he, htask.symm.trans hx'⟩

/-- Where a request under way comes from. -/
theorem regenerates_of_step {r : RequestId} {stage' : RequestStage} (hstep : Step ctx w a w')
    (hr' : w'.requests r = some stage') (hreg : stage'.regenerates c) :
    (∃ stage, w.requests r = some stage ∧ stage.regenerates c) ∨
      (a = .regenerate r c ∧ w.requests r = none ∧ ∃ config, w.db.getActive c = some config ∧
        config.currentVersion ≠ none ∧ config.status.busy = false) ∨
      (w.db.configs c = none ∧ a.request = some r ∧ (w'.db.configs c).isSome = true) := by
  cases hstep <;> simp [Function.update_apply] at * <;>
    grind [RequestStage.regenerates, Action.request, Db.setConfig]

/-- A request under way was under way, or has just started with nothing else
about its config going on. -/
theorem Guarded.regenerates_cases {r : RequestId} {stage' : RequestStage} (h : Guarded w c)
    (hsound : Sound w) (hstep : Step ctx w a w') (halone : RegeneratesAlone w a)
    (hr' : w'.requests r = some stage') (hreg : stage'.regenerates c) :
    (∃ stage, w.requests r = some stage ∧ stage.regenerates c) ∨
      (a.request = some r ∧ (∃ row, w'.db.configs c = some row) ∧
        (∀ r' stage, w.requests r' = some stage → ¬ stage.regenerates c) ∧
        ∀ t, ¬ Live w c t) := by
  obtain hold | ⟨rfl, hr, config, hactive, hcur, hbusy⟩ | ⟨hnone, hreq, hsome⟩ :=
    regenerates_of_step hstep hr' hreg
  · exact Or.inl hold
  · obtain ⟨hothers, htasks⟩ := halone config hr hactive hcur hbusy
    obtain ⟨hrow, -⟩ := Db.getActive_eq_some_iff.mp hactive
    refine Or.inr ⟨rfl, configs_mono hstep hrow, hothers, fun t ⟨task, ht, hc, hlive⟩ => ?_⟩
    cases hex : task.executed with
    | true => exact htasks t task ht hc hex ⟨task, ht, hc, hlive⟩
    | false =>
        -- a task that has not been executed keeps the config pending
        have hpending := h.waiting t task config ht hc hex hrow
        simp [ConfigStatus.busy, hpending] at hbusy
  · refine Or.inr ⟨hreq, Option.isSome_iff_exists.mp hsome, fun r' stage hr hreg => ?_,
      fun t ⟨task, ht, hc, hlive⟩ => ?_⟩
    · obtain ⟨row, hrow⟩ := h.known r' stage hr hreg
      rw [hnone] at hrow
      contradiction
    · obtain ⟨row, hrow⟩ := hsound.owned.inFlight task.payload (.task t task ht rfl)
      rw [hc, hnone] at hrow
      contradiction

theorem Guarded.one_step (h : Guarded w c) (hsound : Sound w) (hstep : Step ctx w a w')
    (halone : RegeneratesAlone w a) {r r' : RequestId} {stage stage' : RequestStage}
    (hr : w'.requests r = some stage) (hr' : w'.requests r' = some stage')
    (hreg : stage.regenerates c) (hreg' : stage'.regenerates c) : r = r' := by
  obtain ⟨st, hst, hstreg⟩ | ⟨hreq, -, hnone, -⟩ := h.regenerates_cases hsound hstep halone hr hreg
  · obtain ⟨st', hst', hstreg'⟩ | ⟨-, -, hnone, -⟩ :=
      h.regenerates_cases hsound hstep halone hr' hreg'
    · exact h.one r r' st st' hst hst' hstreg hstreg'
    · exact absurd hstreg (hnone r st hst)
  · obtain ⟨st', hst', hstreg'⟩ | ⟨hreq', -, -, -⟩ :=
      h.regenerates_cases hsound hstep halone hr' hreg'
    · exact absurd hstreg' (hnone r' st' hst')
    · exact Option.some.inj (hreq.symm.trans hreq')

theorem Guarded.idle_step (h : Guarded w c) (hsound : Sound w) (hstep : Step ctx w a w')
    (halone : RegeneratesAlone w a) {r : RequestId} {stage : RequestStage}
    (hr : w'.requests r = some stage) (hreg : stage.regenerates c) (t : TaskId) :
    ¬ Live w' c t := by
  intro hlive
  obtain ⟨st, hst, hstreg⟩ | ⟨-, -, hnone, hidle⟩ := h.regenerates_cases hsound hstep halone hr hreg
  · obtain hold | ⟨r₀, p, -, hr₀, hc, -, hafter⟩ := live_of_step hstep hlive
    · exact h.idle r st hst hstreg t hold
    · obtain rfl : r = r₀ := h.one r r₀ st _ hst hr₀ hstreg hc
      exact hafter stage hr hreg
  · obtain hold | ⟨r₀, p, -, hr₀, hc, -, -⟩ := live_of_step hstep hlive
    · exact hidle t hold
    · exact hnone r₀ _ hr₀ hc

theorem Guarded.live_step (h : Guarded w c) (hstep : Step ctx w a w') {t t' : TaskId}
    (ht : Live w' c t) (ht' : Live w' c t') : t = t' := by
  obtain hold | ⟨r, p, -, hr, hc, hpub, -⟩ := live_of_step hstep ht
  · obtain hold' | ⟨r, p, -, hr, hc, -, -⟩ := live_of_step hstep ht'
    · exact h.live t t' hold hold'
    · exact absurd hold (h.idle r _ hr hc t)
  · obtain hold' | ⟨r', p', -, -, -, hpub', -⟩ := live_of_step hstep ht'
    · exact absurd hold' (h.idle r _ hr hc t')
    · exact Option.some.inj (hpub.symm.trans hpub')

/-- A pending config stays pending until an execution of its task ends. -/
theorem Guarded.pending_step {row row' : VpnConfigModel} (h : Guarded w c)
    (hstep : Step ctx w a w') (hrow : w.db.configs c = some row) (hpending : row.status = .pending)
    (hrow' : w'.db.configs c = some row') :
    row'.status = .pending ∨ ∃ e env x, a = .work e env ∧ w.executions e = some x ∧
      x.payload.configId = c ∧ w'.executions e = none := by
  obtain ⟨r, p, hnone, -, -, -, -, -⟩ | ⟨row₀, hrow₀, hchange⟩ := row_of_step hstep hrow'
  · rw [hrow] at hnone
    contradiction
  · obtain rfl : row = row₀ := Option.some.inj (hrow.symm.trans hrow₀)
    cases hchange with
    | prepared r env loaded row p hr hactive hcur hc hr' =>
        exact Or.inl (prepareRegenerate_status (h.prepared r loaded hr))
    | marked e env row x loaded he hc hstage hcom hlock hgone
    | built e env row x vrow he hc hstage hcom hdb hhost hgone
    | failed e env row x exc loaded he hc hstage hlock hgone =>
        exact Or.inr ⟨e, env, x, rfl, he, hc, hgone⟩
    | _ => exact Or.inl hpending

theorem Guarded.publishing_step (h : Guarded w c) (hsound : Sound w) (hstep : Step ctx w a w')
    {r : RequestId} {p : Payload} {row' : VpnConfigModel}
    (hr' : w'.requests r = some (.publishing p)) (hc : p.configId = c)
    (hrow' : w'.db.configs c = some row') : row'.status = .pending := by
  subst hc
  obtain hr | ⟨hnone, -, -⟩ | ⟨loaded, row, v, hr, hrow, -, -, -, -, hset⟩ :=
    publishing_cases hstep hr'
  · obtain ⟨row, hrow⟩ := h.known r _ hr rfl
    obtain hpending | ⟨e, env, x, -, he, hc, -⟩ :=
      h.pending_step hstep hrow (h.publishing r p row hr rfl hrow) hrow'
    · exact hpending
    · exact absurd (live_of_execution hsound.tasked he hc) (h.idle r _ hr rfl _)
  · obtain ⟨-, -, -, -, -, -, hpending, -⟩ | ⟨row, hrow, -⟩ := row_of_step hstep hrow'
    · exact hpending
    · rw [hnone] at hrow
      contradiction
  · rw [hset] at hrow'
    rw [← Option.some.inj hrow']
    exact prepareRegenerate_status (h.prepared r loaded hr)

theorem Guarded.waiting_step (h : Guarded w c) (hsound : Sound w) (hstep : Step ctx w a w')
    {t : TaskId} {task' : Task} {row' : VpnConfigModel} (ht' : w'.tasks t = some task')
    (hc : task'.payload.configId = c) (hex : task'.executed = false)
    (hrow' : w'.db.configs c = some row') : row'.status = .pending := by
  obtain ⟨r, p, -, hr, -, -, rfl⟩ | ⟨task, ht, hchange⟩ := task_of_step hstep ht'
  · obtain ⟨row, hrow⟩ := h.known r _ hr hc
    obtain hpending | ⟨e, env, x, -, he, hxc, -⟩ :=
      h.pending_step hstep hrow (h.publishing r p row hr hc hrow) hrow'
    · exact hpending
    · exact absurd (live_of_execution hsound.tasked he hxc) (h.idle r _ hr hc _)
  · obtain ⟨hpayload, hold⟩ : task'.payload = task.payload ∧ task.executed = false := by
      cases hchange with
      | same => exact ⟨rfl, hex⟩
      | reported => contradiction
      | finished task hexec => exact ⟨rfl, hex⟩
    have hcold : task.payload.configId = c := hpayload ▸ hc
    obtain ⟨row, hrow⟩ := hsound.owned.inFlight task.payload (.task t task ht rfl)
    rw [hcold] at hrow
    obtain hpending | ⟨e, env, x, rfl, he, hxc, hgone⟩ :=
      h.pending_step hstep hrow (h.waiting t task row ht hcold hold hrow) hrow'
    · exact hpending
    · -- the execution that has ended was one of this task
      obtain rfl : x.task = t := h.live _ _ (live_of_execution hsound.tasked he hxc)
        (live_of_not_executed hsound ht hcold hold)
      rw [executed_of_gone hstep he hgone ht'] at hex
      contradiction

/-- An execution of the config builds the last version or the next. -/
theorem Guarded.execution_target (h : Guarded w c) (hsound : Sound w) {e : ExecutionId}
    {x : Execution} {v : Nat} (he : w.executions e = some x) (hc : x.payload.configId = c)
    (hv : (w.db.versions c v).isSome = true) : v ≤ x.payload.targetVersion := by
  obtain ⟨task, ht, hp⟩ := hsound.tasked e x he
  rw [← hp]
  exact h.target x.task task v (live_of_execution hsound.tasked he hc) ht hv

theorem Guarded.newest_step (h : Guarded w c) (hsound : Sound w) (hstep : Step ctx w a w')
    {row' : VpnConfigModel} {v : Nat} (hrow' : w'.db.configs c = some row')
    (hv' : (w'.db.versions c v).isSome = true) :
    ∃ current, row'.currentVersion = some current ∧ v ≤ current := by
  by_cases hv : (w.db.versions c v).isSome = true
  · obtain ⟨hnone, -⟩ | ⟨row, hrow, hsame | ⟨e, env, x, -, he, hc, hset, -⟩⟩ :=
      current_of_step hstep hrow'
    · obtain ⟨row, hrow⟩ := hsound.owned.versions c v hv
      rw [hnone] at hrow
      contradiction
    · rw [hsame]
      exact h.newest row v hrow hv
    · exact ⟨_, hset, h.execution_target hsound he hc hv⟩
  · -- the version is new, so the commit of its build has made it current
    obtain hsame | ⟨e, x, vrow, -, -, hdb, -⟩ := versions_of_step hstep
    · rw [hsame] at hv'
      contradiction
    · obtain ⟨rfl, rfl⟩ : c = x.payload.configId ∧ v = x.payload.targetVersion := by
        by_contra hne
        rw [hdb] at hv'
        simp [commitBuild, Db.setVersion, hne] at hv'
        simp [hv'] at hv
      obtain ⟨row, -, rfl⟩ : ∃ row, w.db.configs x.payload.configId = some row ∧
          markBuilt w.now x.payload.targetVersion row = row' := by
        simpa [hdb, commitBuild] using hrow'
      exact ⟨x.payload.targetVersion, by simp, le_rfl⟩

theorem Guarded.target_step (h : Guarded w c) (hsound : Sound w) (hstep : Step ctx w a w')
    {t : TaskId} {task' : Task} {v : Nat} (hlive : Live w' c t) (ht' : w'.tasks t = some task')
    (hv' : (w'.db.versions c v).isSome = true) : v ≤ task'.payload.targetVersion := by
  obtain ⟨r, p, -, hr, -, -, rfl⟩ | ⟨task, ht, hchange⟩ := task_of_step hstep ht'
  · obtain ⟨task₀, ht₀, hc, -⟩ := hlive
    obtain rfl : { payload := p } = task₀ := Option.some.inj (ht'.symm.trans ht₀)
    obtain hv | ⟨e, x, he, hxc, -⟩ := stored_of_step hstep hv'
    · exact (h.next r p v hr hc hv).le
    · exact absurd (live_of_execution hsound.tasked he hxc) (h.idle r _ hr hc _)
  · have hpayload : task'.payload = task.payload := by cases hchange <;> rfl
    rw [hpayload]
    obtain hold | ⟨-, -, hnone, -⟩ := live_of_step hstep hlive
    · obtain hv | ⟨e, x, he, hxc, rfl⟩ := stored_of_step hstep hv'
      · exact h.target t task v hold ht hv
      · -- the only live task has built its version
        obtain rfl : x.task = t := h.live _ _ (live_of_execution hsound.tasked he hxc) hold
        obtain ⟨task₀, ht₀, hp₀⟩ := hsound.tasked e x he
        obtain rfl : task = task₀ := Option.some.inj (ht.symm.trans ht₀)
        rw [hp₀]
    · rw [hnone] at ht
      contradiction

theorem Guarded.next_step (h : Guarded w c) (hsound : Sound w) (hstep : Step ctx w a w')
    {r : RequestId} {p : Payload} {v : Nat} (hr' : w'.requests r = some (.publishing p))
    (hc : p.configId = c) (hv' : (w'.db.versions c v).isSome = true) : v < p.targetVersion := by
  subst hc
  obtain hr | ⟨hnone, -, hsame, -⟩ | ⟨loaded, row, current, hr, hrow, hcur, htarget, -, hsame, -⟩ :=
    publishing_cases hstep hr'
  · obtain hv | ⟨e, x, he, hxc, -⟩ := stored_of_step hstep hv'
    · exact h.next r p v hr rfl hv
    · exact absurd (live_of_execution hsound.tasked he hxc) (h.idle r _ hr rfl _)
  · rw [hsame] at hv'
    obtain ⟨row, hrow⟩ := hsound.owned.versions _ v hv'
    rw [hnone] at hrow
    contradiction
  · rw [hsame] at hv'
    obtain ⟨v', hv', hle⟩ := h.newest row v hrow hv'
    obtain rfl : current = v' := Option.some.inj (hcur.symm.trans hv')
    omega

theorem guarded_step (hsound : Sound w) (hstep : Step ctx w a w') (halone : RegeneratesAlone w a)
    (h : Guarded w c) : Guarded w' c where
  one r r' stage stage' hr hr' hreg hreg' :=
    h.one_step hsound hstep halone hr hr' hreg hreg'
  known r stage hr hreg := by
    obtain ⟨st, hst, hstreg⟩ | ⟨-, hrow', -, -⟩ := h.regenerates_cases hsound hstep halone hr hreg
    · obtain ⟨row, hrow⟩ := h.known r st hst hstreg
      exact configs_mono hstep hrow
    · exact hrow'
  idle r stage hr hreg := h.idle_step hsound hstep halone hr hreg
  live t t' ht ht' := h.live_step hstep ht ht'
  prepared r loaded hr := by
    obtain hold | hbusy := prepared_of_step hstep hr
    · exact h.prepared r loaded hold
    · exact hbusy
  publishing r p row hr hc hrow := h.publishing_step hsound hstep hr hc hrow
  waiting t task row ht hc hex hrow := h.waiting_step hsound hstep ht hc hex hrow
  newest row v hrow hv := h.newest_step hsound hstep hrow hv
  target t task v hlive ht hv := h.target_step hsound hstep hlive ht hv
  next r p v hr hc hv := h.next_step hsound hstep hr hc hv

end Preserved

theorem guarded_run (ctx : Ctx) (host : Host) (as : List Action) (c : ConfigId)
    (h : Machine.Meets (step ctx) RegeneratesAlone (World.init host) as) :
    Guarded (runFrom ctx host as) c := by
  have hinv := Machine.run_invariant_of_meets (I := fun w => Sound w ∧ Guarded w c)
    (fun w a ⟨hsound, hI⟩ hC => ?_) ⟨sound_init host, guarded_init host c⟩ h
  · exact hinv.2
  · obtain heq | hstep : step ctx w a = w ∨ Step ctx w a (step ctx w a) := step_cases a
    · rw [heq]
      exact ⟨hsound, hI⟩
    · exact ⟨sound_of_step hstep hsound, guarded_step hsound hstep hC hI⟩

/-- **What the status check excludes.**  In a run whose regenerates start as
`RegeneratesAlone` says, a request that has passed its checks and not
published finds no task of its config that can still be delivered or is being
executed, the version it asks for is not stored, and at most one task of the
config is unfinished at any time. -/
theorem regenerates_exclude (ctx : Ctx) (host : Host) (as : List Action) (c : ConfigId)
    (h : Machine.Meets (step ctx) RegeneratesAlone (World.init host) as) :
    (∀ r stage, (runFrom ctx host as).requests r = some stage → stage.regenerates c →
      (∀ t task, (runFrom ctx host as).tasks t = some task → task.payload.configId = c →
        task.finished = true) ∧
      ∀ e x, (runFrom ctx host as).executions e = some x → x.payload.configId ≠ c) ∧
    (∀ r p, (runFrom ctx host as).requests r = some (.publishing p) → p.configId = c →
      (runFrom ctx host as).db.hasVersion c p.targetVersion = false) ∧
    ∀ t t' task task', (runFrom ctx host as).tasks t = some task →
      (runFrom ctx host as).tasks t' = some task' → task.payload.configId = c →
      task'.payload.configId = c → task.finished = false → task'.finished = false → t = t' := by
  have hsound := sound_run ctx host as
  have hguarded := guarded_run ctx host as c h
  refine ⟨fun r stage hr hreg => ⟨fun t task ht hc => ?_, fun e x he hc => ?_⟩,
    fun r p hr hc => ?_, fun t t' task task' ht ht' hc hc' hfin hfin' => ?_⟩
  · by_contra hfin
    exact hguarded.idle r stage hr hreg t ⟨task, ht, hc, Or.inl (by simpa using hfin)⟩
  · exact hguarded.idle r stage hr hreg x.task (live_of_execution hsound.tasked he hc)
  · cases hv : (runFrom ctx host as).db.hasVersion c p.targetVersion with
    | false => rfl
    | true => exact absurd (hguarded.next r p _ hr hc hv) (lt_irrefl _)
  · exact hguarded.live t t' ⟨task, ht, hc, Or.inl hfin⟩ ⟨task', ht', hc', Or.inl hfin'⟩

/-- A regenerate after the first version, up to the commit of `pending`. -/
def regeneratesOnce : List Action :=
  firstVersion ++ [.regenerate 1 0, .advance 1 {}, .advance 1 {}]

theorem regeneratesOnce_meets :
    Machine.Meets (step Ctx.sample) RegeneratesAlone (World.init Host.blank) regeneratesOnce := by
  have hfirst : Machine.Meets (step Ctx.sample) RegeneratesAlone (World.init Host.blank)
      firstVersion := by
    simp [firstVersion, RegeneratesAlone]
  have halone : RegeneratesAlone (runFrom Ctx.sample Host.blank firstVersion)
    (.regenerate 1 0) := by
    intro config _ _ _ _
    constructor
    · intro r stage hr
      by_cases hmem : r ∈ firstVersion.filterMap Action.request
      · have hnone : ∀ r ∈ firstVersion.filterMap Action.request,
            ((runFrom Ctx.sample Host.blank firstVersion).requests r).isNone = true := by decide
        simpa [hr] using hnone r hmem
      · rw [requests_eq_none_of_run hmem] at hr
        contradiction
    · rintro t task ht - - ⟨task', ht', -, hfin | ⟨e, x, he, -⟩⟩
      · by_cases hmem : t ∈ firstVersion.filterMap Action.publishes
        · have hall : ∀ t ∈ firstVersion.filterMap Action.publishes,
              ((runFrom Ctx.sample Host.blank firstVersion).tasks t).all Task.finished = true := by
            decide
          simpa [ht', hfin] using hall t hmem
        · rw [tasks_eq_none_of_run hmem] at ht
          contradiction
      · by_cases hmem : e ∈ firstVersion.filterMap Action.executes
        · have hnone : ∀ e ∈ firstVersion.filterMap Action.executes,
              ((runFrom Ctx.sample Host.blank firstVersion).executions e).isNone = true := by decide
          simpa [he] using hnone e hmem
        · rw [executions_eq_none_of_run hmem] at he
          contradiction
  exact (Machine.meets_append _ _ _).mpr ⟨hfirst, halone, trivial, trivial, trivial⟩

/-- The request has passed its checks, and the version it asks for is not
stored. -/
theorem regenerates_exclude_once :
    (runFrom Ctx.sample Host.blank regeneratesOnce).requests 1 =
        some (.publishing ⟨0, .xrayXhttp, "c", 2⟩) ∧
      (runFrom Ctx.sample Host.blank regeneratesOnce).db.hasVersion 0 2 = false :=
  ⟨rfl, (regenerates_exclude Ctx.sample Host.blank regeneratesOnce 0 regeneratesOnce_meets).2.1 1
    ⟨0, .xrayXhttp, "c", 2⟩ rfl rfl⟩

/-- Two regenerates read the status before either commits `pending`. -/
def overlappingRegenerates : List Action :=
  firstVersion ++
    [.regenerate 1 0, .regenerate 2 0, .advance 1 {}, .advance 2 {}, .advance 1 {}, .advance 2 {},
      .advance 1 { publish := .accepted 1 }, .advance 2 { publish := .accepted 2 }]

/-- A regenerate's task fails, and the broker may try it again. -/
def failedRegenerate : List Action :=
  firstVersion ++
    [.regenerate 1 0, .advance 1 {}, .advance 1 {}, .advance 1 { publish := .accepted 1 },
      .advance 1 {}, .deliver 1 1] ++ List.replicate 6 (.work 1 failingBuild)

/-- A regenerate, and its task published as `t`. -/
def regenerateAgain (t : TaskId) : List Action :=
  [.regenerate 2 0, .advance 2 {}, .advance 2 {}, .advance 2 { publish := .accepted t }]

/-- **The status check does not exclude these.**  Overlapping requests publish
two unfinished tasks; a regenerate of a failed config is accepted while the
failed task can still be delivered; and when that task is finished, its version
number is used again. -/
theorem not_exclusive :
    ¬ Exclusive (runFrom Ctx.sample Host.blank overlappingRegenerates) 0 ∧
      ¬ Exclusive (runFrom Ctx.sample Host.blank
        (failedRegenerate ++ (regenerateAgain 2).take 3)) 0 ∧
      ¬ Exclusive (runFrom Ctx.sample Host.blank
        (failedRegenerate ++ .finish 1 :: regenerateAgain 2)) 0 := by
  constructor
  · intro h
    have h₁ : (runFrom Ctx.sample Host.blank overlappingRegenerates).tasks 1 =
        some ⟨⟨0, .xrayXhttp, "c", 2⟩, false, false⟩ := by decide
    have h₂ : (runFrom Ctx.sample Host.blank overlappingRegenerates).tasks 2 =
        some ⟨⟨0, .xrayXhttp, "c", 2⟩, false, false⟩ := by decide
    have heq := h.single 1 2 _ _ h₁ h₂ rfl rfl rfl rfl
    contradiction
  constructor
  · intro h
    have hpublishing : (runFrom Ctx.sample Host.blank
        (failedRegenerate ++ (regenerateAgain 2).take 3)).requests 2 =
          some (.publishing ⟨0, .xrayXhttp, "c", 2⟩) := rfl
    have hfailed : (runFrom Ctx.sample Host.blank
        (failedRegenerate ++ (regenerateAgain 2).take 3)).tasks 1 =
          some ⟨⟨0, .xrayXhttp, "c", 2⟩, true, false⟩ := by decide
    have hfin := h.alone 2 _ hpublishing rfl 1 _ hfailed rfl
    contradiction
  · intro h
    have h₁ : (runFrom Ctx.sample Host.blank
        (failedRegenerate ++ .finish 1 :: regenerateAgain 2)).tasks 1 =
          some ⟨⟨0, .xrayXhttp, "c", 2⟩, true, true⟩ := by decide
    have h₂ : (runFrom Ctx.sample Host.blank
        (failedRegenerate ++ .finish 1 :: regenerateAgain 2)).tasks 2 =
          some ⟨⟨0, .xrayXhttp, "c", 2⟩, false, false⟩ := by decide
    have heq := h.distinct 1 2 _ _ h₁ h₂ rfl rfl rfl
    contradiction

end VpnPanel
