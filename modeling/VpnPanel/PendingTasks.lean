import VpnPanel.RowLocks

/-!
# VpnPanel.PendingTasks

Whether a config that is `pending` has a task to get it out of there.

`create_config.py` and `regenerate_config.py` commit `pending` and publish the
task afterwards; when `publish_task` raises, nothing takes the status back.  As
long as the broker stores every task it is asked to, a pending config has one
that is not finished, or a request that is about to publish it.
-/

namespace VpnPanel

/-- A config that is not deleted and pending has a task the broker has not
finished, or a request that has yet to publish. -/
def PendingServed (w : World) : Prop :=
  ∀ c row, w.db.configs c = some row → row.isActive = true → row.status = .pending →
    (∃ r p, w.requests r = some (.publishing p) ∧ p.configId = c) ∨
      ∃ t task, w.tasks t = some task ∧ task.payload.configId = c ∧ task.finished = false

/-- A request that publishes does not have its task refused. -/
def PublishStored (w : World) : Action → Prop
  | .advance r env =>
      match w.requests r, env.publish with
      | some (.publishing _), .rejected => False
      | _, _ => True
  | _ => True

theorem PublishStored.publish_ne {w : World} {r : RequestId} {env : RequestEnv} {p : Payload}
    (h : PublishStored w (.advance r env)) (hr : w.requests r = some (.publishing p)) :
    env.publish ≠ .rejected := by
  intro hpub
  simp only [PublishStored, hr, hpub] at h

/-! ## the invariant -/

/-- An execution whose end will write another status than `pending`, if the
row is pending when it loads it. -/
def TaskStage.Settles : TaskStage → Prop
  | .marking loaded => loaded.status ≠ .active
  | .markingFailed _ loaded => loaded.status ≠ .failed
  | _ => True

/-- A task of a config that no execution has ended yet, nor will without
settling its status. -/
structure Awaits (w : World) (c : ConfigId) (t : TaskId) (task : Task) : Prop where
  stored : w.tasks t = some task
  configId : task.payload.configId = c
  finished : task.finished = false
  executed : task.executed = false
  settles : ∀ e x, w.executions e = some x → x.task = t → x.stage.Settles

/-- A pending config has a request about to publish, or a task that awaits its
first execution's end. -/
def PendingAwaits (w : World) : Prop :=
  ∀ c row, w.db.configs c = some row → row.status = .pending →
    (∃ r p, w.requests r = some (.publishing p) ∧ p.configId = c) ∨ ∃ t task, Awaits w c t task

theorem PendingAwaits.served {w : World} (h : PendingAwaits w) : PendingServed w := by
  intro c row hrow _ hpending
  obtain hpub | ⟨t, task, ht⟩ := h c row hrow hpending
  · exact Or.inl hpub
  · exact Or.inr ⟨t, task, ht.stored, ht.configId, ht.finished⟩

theorem pendingAwaits_init (host : Host) : PendingAwaits (World.init host) := by
  intro c row hrow
  simp [World.init, Db.empty] at hrow

section Preserved

variable {ctx : Ctx} {w w' : World} {a : Action} {c : ConfigId}

/-- Only a create or a regenerate about to publish makes a config pending. -/
theorem pending_of_step {row' : VpnConfigModel} (hstep : Step ctx w a w')
    (hrow' : w'.db.configs c = some row') (hpending : row'.status = .pending) :
    (∃ r p, w'.requests r = some (.publishing p) ∧ p.configId = c) ∨
      ∃ row, w.db.configs c = some row ∧ row.status = .pending := by
  obtain ⟨r, p, -, hr', hc, -, -, -⟩ | ⟨row, hrow, hchange⟩ := row_of_step hstep hrow'
  · exact Or.inl ⟨r, p, hr', hc⟩
  · cases hchange with
    | prepared r env loaded row p hr hactive hcur hc hr' => exact Or.inl ⟨r, p, hr', hc⟩
    | marked e env row x loaded he hc hstage hcom hlock hgone =>
        rw [markActive_status] at hpending
        split at hpending
        · exact Or.inr ⟨row, hrow, hpending⟩
        · contradiction
    | built e env row x vrow he hc hstage hcom hdb hhost hgone => simp at hpending
    | failed e env row x exc loaded he hc hstage hlock hgone =>
        rw [markFailed_status] at hpending
        split at hpending
        · exact Or.inr ⟨row, hrow, hpending⟩
        · contradiction
    | _ => exact Or.inr ⟨_, hrow, hpending⟩

/-- The end of an execution that settles leaves no `pending`. -/
theorem TaskEnd.status_ne {env : TaskEnv} {now : Nat} {p : Payload} {s s' : Store}
    {stage : TaskStage} {out : Except PyErr Unit} {row : VpnConfigModel}
    (hend : TaskEnd env now p s stage out s') (hsettles : stage.Settles)
    (hrow : s'.db.configs p.configId = some row) : row.status ≠ .pending := by
  cases hend with
  | marked loaded hcom =>
      have hne : loaded.status ≠ .active := hsettles
      obtain ⟨old, -, rfl⟩ : ∃ old, s.db.configs p.configId = some old ∧
          markActive now p.targetVersion loaded old = row := by simpa using hrow
      simp [markActive_status, hne]
  | built vrow hcom =>
      obtain ⟨old, -, rfl⟩ : ∃ old, s.db.configs p.configId = some old ∧
          markBuilt now p.targetVersion old = row := by simpa [commitBuild] using hrow
      simp
  | failed exc loaded =>
      have hne : loaded.status ≠ .failed := hsettles
      obtain ⟨old, -, rfl⟩ : ∃ old, s.db.configs p.configId = some old ∧
          markFailed now exc.msg loaded old = row := by simpa using hrow
      simp [markFailed_status, hne]
  | lost exc hnone =>
      rw [hnone] at hrow
      contradiction

/-- An execution goes on to settle when it loads a pending row. -/
theorem TaskMove.settles {env : TaskEnv} {p : Payload} {s s' : Store} {stage stage' : TaskStage}
    {row : VpnConfigModel} (hmove : TaskMove ctx env p s stage stage' s')
    (hrow : s.db.configs p.configId = some row) (hpending : row.status = .pending) :
    stage'.Settles := by
  cases hmove with
  | load loaded hloaded | failLoad exc loaded hloaded =>
      obtain rfl : row = loaded := Option.some.inj (hrow.symm.trans hloaded)
      simp [TaskStage.Settles, hpending]
  | _ => trivial

/-- While the config stays pending its task keeps awaiting. -/
theorem awaits_step {t : TaskId} {task : Task} {row row' : VpnConfigModel} (htasked : Tasked w)
    (hstep : Step ctx w a w') (h : Awaits w c t task) (hrow : w.db.configs c = some row)
    (hpending : row.status = .pending) (hrow' : w'.db.configs c = some row')
    (hpending' : row'.status = .pending) : Awaits w' c t task := by
  have hpayload {e : ExecutionId} {x : Execution} (he : w.executions e = some x)
      (hx : x.task = t) : x.payload.configId = c := by
    obtain ⟨task₀, ht₀, hp₀⟩ := htasked e x he
    rw [hx, h.stored] at ht₀
    obtain rfl : task = task₀ := Option.some.inj ht₀
    rw [← hp₀, h.configId]
  have htask : w'.tasks t = some task := by
    obtain ⟨task', ht', -⟩ := tasks_mono hstep h.stored
    obtain ⟨r, p, hnone, -, -, -, -⟩ | ⟨task₀, ht₀, hchange⟩ := task_of_step hstep ht'
    · rw [h.stored] at hnone
      contradiction
    · obtain rfl : task = task₀ := Option.some.inj (h.stored.symm.trans ht₀)
      cases hchange with
      | same a task => exact ht'
      | reported e env task x out s he hx hend hdb =>
          -- an execution of the task has ended, so the status is settled
          have hc := hpayload he hx
          rw [hdb, ← hc] at hrow'
          exact absurd hpending' (hend.status_ne (h.settles e x he hx) hrow')
      | finished task hex =>
          rw [h.executed] at hex
          contradiction
  refine ⟨htask, h.configId, h.finished, h.executed, fun e x' he' hx' => ?_⟩
  rcases execution_of_step hstep he' with he | ⟨t₀, task₀, -, -, rfl⟩ |
    ⟨env, x, s, -, he, hxt, hp, hmove, -, -⟩
  · exact h.settles e x' he hx'
  · trivial
  · rw [hx'] at hxt
    have hc := hpayload he hxt.symm
    exact hmove.settles (hc.symm ▸ hrow) hpending

/-- The invariant is kept while no task is refused. -/
theorem pendingAwaits_step (hsound : Sound w) (hstep : Step ctx w a w')
    (hstored : PublishStored w a) (h : PendingAwaits w) : PendingAwaits w' := by
  intro c row' hrow' hpending'
  obtain hpub | ⟨row, hrow, hpending⟩ := pending_of_step hstep hrow' hpending'
  · exact Or.inl hpub
  · obtain ⟨r, p, hr, hc⟩ | ⟨t, task, ht⟩ := h c row hrow hpending
    · obtain hr' | ⟨t, hnew, ht', hexec⟩ | ⟨env, rfl, hrejected⟩ := publishing_of_step hstep hr
      · exact Or.inl ⟨r, p, hr', hc⟩
      · -- the task has just been stored, and nobody has pulled it
        refine Or.inr ⟨t, { payload := p }, ht', hc, rfl, rfl, fun e x he hx => ?_⟩
        rw [hexec] at he
        obtain ⟨task, ht, -⟩ := hsound.tasked e x he
        rw [hx, hnew] at ht
        contradiction
      · exact absurd hrejected (hstored.publish_ne hr)
    · exact Or.inr ⟨t, task, awaits_step hsound.tasked hstep ht hrow hpending hrow' hpending'⟩

end Preserved

/-- **A pending config is served, as long as no task is refused.**  After every
run in which the broker stored each task that `publish_task` was called for,
also where the call then raised, a config that is pending and not deleted has
a task that is not finished or a request that has yet to publish. -/
theorem pendingServed_of_publishStored (ctx : Ctx) (host : Host) (as : List Action)
    (h : Machine.Meets (step ctx) PublishStored (World.init host) as) :
    PendingServed (runFrom ctx host as) := by
  have hinv := Machine.run_invariant_of_meets (I := fun w => Sound w ∧ PendingAwaits w)
    (fun w a ⟨hsound, hI⟩ hC => ?_) ⟨sound_init host, pendingAwaits_init host⟩ h
  · exact hinv.2.served
  · obtain heq | hstep : step ctx w a = w ∨ Step ctx w a (step ctx w a) := step_cases a
    · rw [heq]
      exact ⟨hsound, hI⟩
    · exact ⟨sound_of_step hstep hsound, pendingAwaits_step hsound hstep hC hI⟩

/-- A run with a task whose answer is lost: the config is pending and the task
is there. -/
theorem pendingServed_of_lost_answer :
    PendingServed (runFrom Ctx.sample Host.blank
      [.create 0 0 "c" .xray .xrayXhttp none none, .advance 0 { publish := .lost 0 }]) :=
  pendingServed_of_publishStored _ _ _ ⟨trivial, trivial, trivial⟩

/-- Version 1 is built, a regenerate commits `pending` and the broker refuses
its task. -/
def refusedPublish : List Action :=
  firstVersion ++
    [.regenerate 1 0, .advance 1 {}, .advance 1 {}, .advance 1 { publish := .rejected }]

/-- **A refused task leaves its config pending**, with nothing to get it out of
there: the next regenerate is refused as busy. -/
theorem not_pendingServed_after_refusedPublish :
    ¬ PendingServed (runFrom Ctx.sample Host.blank refusedPublish) ∧
      runFrom Ctx.sample Host.blank (refusedPublish ++ [.regenerate 2 0]) =
        runFrom Ctx.sample Host.blank refusedPublish := by
  constructor
  · intro h
    have hrow : ((runFrom Ctx.sample Host.blank refusedPublish).db.configs 0).map
        (fun row => (row.isActive, row.status)) = some (true, .pending) := by decide
    obtain ⟨row, hrow, heq⟩ := Option.map_eq_some_iff.mp hrow
    obtain ⟨r, p, hr, -⟩ | ⟨t, task, ht, -, hfin⟩ := h 0 row hrow (congrArg Prod.fst heq)
      (congrArg Prod.snd heq)
    · by_cases hmem : r ∈ refusedPublish.filterMap Action.request
      · have hnone : ∀ r ∈ refusedPublish.filterMap Action.request,
            ((runFrom Ctx.sample Host.blank refusedPublish).requests r).isNone = true := by decide
        simpa [hr] using hnone r hmem
      · rw [requests_eq_none_of_run hmem] at hr
        contradiction
    · by_cases hmem : t ∈ refusedPublish.filterMap Action.publishes
      · have hfinished : ∀ t ∈ refusedPublish.filterMap Action.publishes,
            ((runFrom Ctx.sample Host.blank refusedPublish).tasks t).all Task.finished = true := by
          decide
        simpa [ht, hfin] using hfinished t hmem
      · rw [tasks_eq_none_of_run hmem] at ht
        contradiction
  · rfl

end VpnPanel
