import VpnPanel.VersionNumbers

/-!
# VpnPanel.RowLocks

The row locks of a database session, as far as they keep steps apart: an
execution that has flushed `mark_processing`, or an edit that has flushed its
change, holds the row of its config until its session ends (`RowLocked`).

What follows for builds: while one waits for its commit nobody else stores its
version (`TargetAbsent`), so the version it commits is the next one
(`target_of_committing`).
-/

namespace VpnPanel

/-- The lock of another session survives, unless it is taken away from it. -/
theorem World.relock_locks_of_ne {w : World} {c c' : ConfigId} {me other : Holder} {holds : Bool}
    (hne : other ≠ me) (hlock : w.locks c' = some other)
    (hfree : holds = true → w.locks c = none ∨ w.locks c = some me) :
    (w.relock c me holds).locks c' = some other := by
  by_cases hc : c' = c
  · subst hc
    cases holds with
    | true =>
        obtain hnone | hme := hfree rfl
        · rw [hnone] at hlock
          contradiction
        · rw [hme] at hlock
          exact absurd (Option.some.inj hlock).symm hne
    | false =>
        simp [hlock, hne]
  · simp [Function.update_of_ne hc, hlock]

/-- The lock a session has taken. -/
@[simp] theorem World.relock_locks_self (w : World) (c : ConfigId) (me : Holder) :
    (w.relock c me true).locks c = some me := by
  simp

theorem World.locks_of_lockFree {w : World} {c : ConfigId} {me : Holder}
    (h : w.lockFree c me = true) : w.locks c = none ∨ w.locks c = some me := by
  simpa [World.lockFree] using h

/-- An execution comes to hold the lock by the flush of `mark_processing`. -/
theorem TaskMove.holdsLock_cases {ctx : Ctx} {env : TaskEnv} {p : Payload} {s s' : Store}
    {stage stage' : TaskStage} (hmove : TaskMove ctx env p s stage stage' s')
    (h : stage'.holdsLock = true) : stage.holdsLock = true ∨ stage = .processing := by
  cases hmove <;> simp_all [TaskStage.holdsLock]

/-- An edit comes to hold the lock by its flush. -/
theorem EditMove.holdsLock_cases {ctx : Ctx} {env : EditEnv} {s s' : Store}
    {stage stage' : EditStage} (hmove : EditMove ctx env s stage stage' s')
    (h : stage'.holdsLock = true) :
    stage.holdsLock = true ∨ ∃ plan loaded, stage = .flushing plan loaded := by
  cases hmove <;> simp_all [EditStage.holdsLock]

/-! ## the invariant -/

/-- Who is at a stage that holds a lock has it. -/
structure RowLocked (w : World) : Prop where
  execution : ∀ e x, w.executions e = some x → x.stage.holdsLock = true →
    w.locks x.payload.configId = some (.execution e)
  edit : ∀ r stage, w.requests r = some (.editing stage) → stage.holdsLock = true →
    w.locks stage.configId = some (.request r)

theorem rowLocked_init (host : Host) : RowLocked (World.init host) where
  execution e x he := by simp [World.init] at he
  edit r stage hr := by simp [World.init] at hr

section Preserved

variable {ctx : Ctx} {w w' : World} {a : Action}

/-- The lock is free for whoever steps to a stage that holds it. -/
theorem RowLocked.free_of_taskMove {e : ExecutionId} {env : TaskEnv} {x : Execution}
    {stage : TaskStage} {s : Store} (h : RowLocked w) (he : w.executions e = some x)
    (hlock : x.stage.takesLock = true → w.lockFree x.payload.configId (.execution e) = true)
    (hmove : TaskMove ctx env x.payload w.store x.stage stage s) (hholds : stage.holdsLock = true) :
    w.locks x.payload.configId = none ∨ w.locks x.payload.configId = some (.execution e) := by
  obtain hheld | hprocessing := hmove.holdsLock_cases hholds
  · exact Or.inr (h.execution e x he hheld)
  · exact World.locks_of_lockFree (hlock (by rw [hprocessing]; rfl))

theorem RowLocked.free_of_editMove {r : RequestId} {env : EditEnv} {stage stage' : EditStage}
    {s : Store} (h : RowLocked w) (hr : w.requests r = some (.editing stage))
    (hlock : stage.takesLock = true → w.lockFree stage.configId (.request r) = true)
    (hmove : EditMove ctx env w.store stage stage' s) (hholds : stage'.holdsLock = true) :
    w.locks stage.configId = none ∨ w.locks stage.configId = some (.request r) := by
  obtain hheld | ⟨plan, loaded, rfl⟩ := hmove.holdsLock_cases hholds
  · exact Or.inr (h.edit r stage hr hheld)
  · exact World.locks_of_lockFree (hlock rfl)

/-- A step that touches no lock, execution or edit. -/
theorem RowLocked.of_same (h : RowLocked w) (hlocks : w'.locks = w.locks)
    (hexec : ∀ e x, w'.executions e = some x → x.stage.holdsLock = true → w.executions e = some x)
    (hedit : ∀ r stage, w'.requests r = some (.editing stage) → stage.holdsLock = true →
      w.requests r = some (.editing stage)) : RowLocked w' where
  execution e x he hholds := hlocks ▸ h.execution e x (hexec e x he hholds) hholds
  edit r stage hr hholds := hlocks ▸ h.edit r stage (hedit r stage hr hholds) hholds

/-- A step of one session, which leaves the locks of the others alone. -/
theorem RowLocked.of_relock {c : ConfigId} {me : Holder} {holds : Bool} (h : RowLocked w)
    (hlocks : w'.locks = (w.relock c me holds).locks)
    (hfree : holds = true → w.locks c = none ∨ w.locks c = some me)
    (hexec : ∀ e x, w'.executions e = some x → x.stage.holdsLock = true →
      (Holder.execution e ≠ me ∧ w.executions e = some x) ∨
        (Holder.execution e = me ∧ x.payload.configId = c ∧ holds = true))
    (hedit : ∀ r stage, w'.requests r = some (.editing stage) → stage.holdsLock = true →
      (Holder.request r ≠ me ∧ w.requests r = some (.editing stage)) ∨
        (Holder.request r = me ∧ stage.configId = c ∧ holds = true)) : RowLocked w' where
  execution e x he hholds := by
    rw [hlocks]
    obtain ⟨hne, hold⟩ | ⟨rfl, rfl, rfl⟩ := hexec e x he hholds
    · exact World.relock_locks_of_ne hne (h.execution e x hold hholds) hfree
    · exact World.relock_locks_self w _ _
  edit r stage hr hholds := by
    rw [hlocks]
    obtain ⟨hne, hold⟩ | ⟨rfl, rfl, rfl⟩ := hedit r stage hr hholds
    · exact World.relock_locks_of_ne hne (h.edit r stage hold hholds) hfree
    · exact World.relock_locks_self w _ _

theorem rowLocked_step (hstep : Step ctx w a w') (h : RowLocked w) : RowLocked w' := by
  cases hstep with
  | editNext r env stage stage' s hr hlock hmove =>
      refine h.of_relock rfl (h.free_of_editMove hr hlock hmove) (fun e x he hholds => ?_)
        fun r' st hr' hholds => ?_
      · exact Or.inl ⟨by simp, by simpa using he⟩
      · by_cases hrr : r' = r
        · subst hrr
          obtain rfl : stage' = st := by simpa using hr'
          exact Or.inr ⟨rfl, hmove.configId_eq, hholds⟩
        · exact Or.inl ⟨by simpa using hrr, by simpa [hrr] using hr'⟩
  | editDone r env stage s out hr hend =>
      refine h.of_relock rfl (by simp) (fun e x he hholds => ?_) fun r' st hr' hholds => ?_
      · exact Or.inl ⟨by simp, by simpa using he⟩
      · by_cases hrr : r' = r
        · simp [hrr] at hr'
        · exact Or.inl ⟨by simpa using hrr, by simpa [hrr] using hr'⟩
  | taskNext e env x stage s he hlock hmove =>
      refine h.of_relock rfl (h.free_of_taskMove he hlock hmove) (fun e' x' he' hholds => ?_)
        fun r st hr hholds => ?_
      · by_cases hee : e' = e
        · subst hee
          obtain rfl : { x with stage := stage } = x' := by simpa using he'
          exact Or.inr ⟨rfl, rfl, hholds⟩
        · exact Or.inl ⟨by simpa using hee, by simpa [hee] using he'⟩
      · exact Or.inl ⟨by simp, by simpa using hr⟩
  | taskDone e env x out s he hlock hend =>
      refine h.of_relock (World.report_locks _ _) (by simp) (fun e' x' he' hholds => ?_)
        fun r st hr hholds => ?_
      · by_cases hee : e' = e
        · simp [hee] at he'
        · exact Or.inl ⟨by simpa using hee, by simpa [hee] using he'⟩
      · exact Or.inl ⟨by simp, by simpa using hr⟩
  | crash e x he =>
      refine h.of_relock rfl (by simp) (fun e' x' he' hholds => ?_) fun r st hr hholds => ?_
      · by_cases hee : e' = e
        · simp [hee] at he'
        · exact Or.inl ⟨by simpa using hee, by simpa [hee] using he'⟩
      · exact Or.inl ⟨by simp, by simpa using hr⟩
  | _ =>
      refine h.of_same rfl (fun e x he hholds => ?_) fun r' st hr' hholds => ?_ <;>
        simp [Function.update_apply] at * <;> grind [TaskStage.holdsLock, EditStage.holdsLock]

/-- Two executions do not hold the lock of one config. -/
theorem RowLocked.execution_unique {e e' : ExecutionId} {x x' : Execution} (h : RowLocked w)
    (he : w.executions e = some x) (he' : w.executions e' = some x')
    (hc : x.payload.configId = x'.payload.configId) (hholds : x.stage.holdsLock = true)
    (hholds' : x'.stage.holdsLock = true) : e = e' := by
  have hlock := h.execution e x he hholds
  rw [hc, h.execution e' x' he' hholds'] at hlock
  exact (Holder.execution.inj (Option.some.inj hlock)).symm

/-! ## what it means for builds -/

/-- A row can be inserted only where there is none. -/
theorem hasVersion_of_insertVersion_ok {env : TaskEnv} {p : Payload} {result : BuildResult}
    {db : Db} {row : VpnConfigVersionModel} (h : insertVersion ctx env p result db = .ok row) :
    db.hasVersion p.configId p.targetVersion = false := by
  unfold insertVersion at h
  obtain ⟨row', -, h⟩ := Except.bind_eq_ok_iff.mp h
  split at h
  · contradiction
  · split at h
    · contradiction
    · next hno => simpa using hno

/-- An execution that has inserted its row and not committed it. -/
def TargetAbsent (w : World) : Prop :=
  ∀ e x row, w.executions e = some x → x.stage = .committing row →
    w.db.hasVersion x.payload.configId x.payload.targetVersion = false

theorem targetAbsent_step (hstep : Step ctx w a w') (hlocked : RowLocked w)
    (h : TargetAbsent w) : TargetAbsent w' := by
  intro e x' row he' hstage
  have hold (he : w.executions e = some x') :
      w'.db.hasVersion x'.payload.configId x'.payload.targetVersion = false := by
    rcases versions_of_step hstep with hsame | ⟨e₀, x₀, row₀, he₀, hstage₀, hdb, hgone⟩
    · rw [Db.hasVersion, hsame]
      exact h e x' row he hstage
    · -- only one execution stands at the commit of a build of the config
      have hne : ¬(x'.payload.configId = x₀.payload.configId ∧
          x'.payload.targetVersion = x₀.payload.targetVersion) := by
        rintro ⟨hc, -⟩
        obtain rfl : e = e₀ := hlocked.execution_unique he he₀ hc (by rw [hstage]; rfl)
          (by rw [hstage₀]; rfl)
        rw [hgone] at he'
        contradiction
      simpa [hdb, commitBuild, Db.hasVersion, Db.setVersion, hne] using h e x' row he hstage
  rcases execution_of_step hstep he' with he | ⟨t, task, -, -, rfl⟩ |
    ⟨env, x, s, -, he, -, hp, hmove, hdb, -⟩
  · exact hold he
  · simp at hstage
  · rw [hstage] at hmove
    generalize hfrom : x.stage = from_ at hmove
    cases hmove with
    | insert result row hins =>
        rw [hdb, hp]
        exact hasVersion_of_insertVersion_ok hins

end Preserved

/-! ## reachable worlds -/

/-- Every execution is one of a published task. -/
def Tasked (w : World) : Prop :=
  ∀ e x, w.executions e = some x → ∃ task, w.tasks x.task = some task ∧ task.payload = x.payload

theorem tasked_step {ctx : Ctx} {w w' : World} {a : Action} (hstep : Step ctx w a w')
    (h : Tasked w) : Tasked w' := by
  intro e x' he'
  have hstays {task : Task} (ht : w.tasks x'.task = some task)
      (hp : task.payload = x'.payload) :
      ∃ task', w'.tasks x'.task = some task' ∧ task'.payload = x'.payload := by
    obtain ⟨task', ht', hp'⟩ := tasks_mono hstep ht
    exact ⟨task', ht', hp'.trans hp⟩
  rcases execution_of_step hstep he' with he | ⟨t, task, ht, -, rfl⟩ |
    ⟨env, x, s, -, he, htask, hp, -, -, -⟩
  · obtain ⟨task, ht, hp⟩ := h e x' he
    exact hstays ht hp
  · exact hstays ht rfl
  · obtain ⟨task, ht, hp'⟩ := h e x he
    exact hstays (htask ▸ ht) (hp'.trans hp.symm)

/-- What is in flight or stored belongs to a config that is there. -/
structure Owned (w : World) : Prop where
  inFlight : ∀ p, InFlight w p → ∃ row, w.db.configs p.configId = some row
  versions : ∀ c v, (w.db.versions c v).isSome = true → ∃ row, w.db.configs c = some row

theorem owned_step {ctx : Ctx} {w w' : World} {a : Action} (hstep : Step ctx w a w')
    (h : Owned w) : Owned w' where
  inFlight p hp := by
    rcases inFlight_of_step hstep hp with hp | ⟨-, row', hrow', -⟩ |
      ⟨r, loaded, row, v, -, hrow, -, -, -, -⟩
    · obtain ⟨row, hrow⟩ := h.inFlight p hp
      exact configs_mono hstep hrow
    · exact ⟨row', hrow'⟩
    · exact configs_mono hstep hrow
  versions c v hv := by
    rcases versions_of_step hstep with hsame | ⟨e, x, vrow, he, -, hdb, -⟩
    · rw [hsame] at hv
      obtain ⟨row, hrow⟩ := h.versions c v hv
      exact configs_mono hstep hrow
    · by_cases hc : c = x.payload.configId ∧ v = x.payload.targetVersion
      · obtain ⟨rfl, rfl⟩ := hc
        obtain ⟨row, hrow⟩ := h.inFlight x.payload (.execution e x he rfl)
        exact configs_mono hstep hrow
      · obtain ⟨row, hrow⟩ := h.versions c v
          (by simpa [hdb, commitBuild, Db.setVersion, hc] using hv)
        exact configs_mono hstep hrow

/-- The broker is done only with tasks whose execution was reported. -/
def FinishedExecuted (w : World) : Prop :=
  ∀ t task, w.tasks t = some task → task.finished = true → task.executed = true

theorem finishedExecuted_step {ctx : Ctx} {w w' : World} {a : Action} (hstep : Step ctx w a w')
    (h : FinishedExecuted w) : FinishedExecuted w' := by
  intro t task' ht' hfin
  obtain ⟨r, p, -, -, -, -, rfl⟩ | ⟨task, ht, hchange⟩ := task_of_step hstep ht'
  · contradiction
  · cases hchange with
    | same => exact h t _ ht hfin
    | reported e env task x out s he hx hend hdb => rfl
    | finished task hex => exact hex

/-- What holds in every reachable world, whatever fails. -/
structure Sound (w : World) : Prop where
  tasked : Tasked w
  owned : Owned w
  finishedExecuted : FinishedExecuted w
  found : FoundStored w
  locked : RowLocked w
  absent : TargetAbsent w
  numbered : ∀ c, ∃ n, Numbered w c n

theorem sound_init (host : Host) : Sound (World.init host) where
  tasked e x he := by simp [World.init] at he
  owned := {
    inFlight := fun p hp => by
      rcases hp with ⟨t, task, ht, -⟩ | ⟨r, hr⟩ | ⟨e, x, he, -⟩ <;> contradiction
    versions := fun c v hv => by simp [World.init, Db.empty] at hv }
  finishedExecuted t task ht := by simp [World.init] at ht
  found e x he := by simp [World.init] at he
  locked := rowLocked_init host
  absent e x row he := by simp [World.init] at he
  numbered c := ⟨0, numbered_init host c⟩

theorem sound_of_step {ctx : Ctx} {w w' : World} {a : Action} (hstep : Step ctx w a w')
    (h : Sound w) : Sound w' where
  tasked := tasked_step hstep h.tasked
  owned := owned_step hstep h.owned
  finishedExecuted := finishedExecuted_step hstep h.finishedExecuted
  found := foundStored_step hstep h.found
  locked := rowLocked_step hstep h.locked
  absent := targetAbsent_step hstep h.locked h.absent
  numbered c := by
    obtain ⟨n, hn⟩ := h.numbered c
    obtain ⟨n', -, hn'⟩ := numbered_step hstep h.found hn
    exact ⟨n', hn'⟩

theorem sound_step {ctx : Ctx} (w : World) (a : Action) (h : Sound w) : Sound (step ctx w a) := by
  obtain heq | hstep : step ctx w a = w ∨ Step ctx w a (step ctx w a) := step_cases a
  · rw [heq]
    exact h
  · exact sound_of_step hstep h

theorem sound_run (ctx : Ctx) (host : Host) (as : List Action) : Sound (runFrom ctx host as) :=
  Machine.run_invariant sound_step (sound_init host) as

/-- A build commits the version after the last. -/
theorem Sound.target_of_committing {w : World} {e : ExecutionId} {x : Execution}
    {row : VpnConfigVersionModel} {n : Nat} (h : Sound w) (he : w.executions e = some x)
    (hstage : x.stage = .committing row) (hn : Numbered w x.payload.configId n) :
    x.payload.targetVersion = n + 1 := by
  have habsent := h.absent e x row he hstage
  have hbound := hn.targets x.payload (.execution e x he rfl) rfl
  have hnot : ¬(1 ≤ x.payload.targetVersion ∧ x.payload.targetVersion ≤ n) := by
    rw [← hn.counted]
    simpa [Db.hasVersion] using habsent
  omega

/-! ## profiles -/

section Profiles

variable {ctx : Ctx} {w w' : World} {a : Action}

/-- The profile of a config stays. -/
theorem profile_of_step {c : ConfigId} {row row' : VpnConfigModel} (hstep : Step ctx w a w')
    (hrow : w.db.configs c = some row) (hrow' : w'.db.configs c = some row') :
    row'.profile = row.profile := by
  obtain ⟨-, -, hnone, -⟩ | ⟨row₀, hrow₀, hchange⟩ := row_of_step hstep hrow'
  · rw [hnone] at hrow
    contradiction
  · obtain rfl : row = row₀ := Option.some.inj (hrow.symm.trans hrow₀)
    cases hchange <;> rfl

/-- The profile of every payload is that of its config. -/
def Profiled (w : World) : Prop :=
  ∀ p row, InFlight w p → w.db.configs p.configId = some row → p.profile = row.profile

theorem profiled_init (host : Host) : Profiled (World.init host) := by
  intro p row _ hrow
  simp [World.init, Db.empty] at hrow

theorem profiled_step (hsound : Sound w) (hstep : Step ctx w a w') (h : Profiled w) :
    Profiled w' := by
  intro p row' hp hrow'
  obtain hp | ⟨-, row₀, hrow₀, hprofile, -⟩ | ⟨r, loaded, row, v, -, hrow, -, -, hprofile, -⟩ :=
    inFlight_of_step hstep hp
  · obtain ⟨row, hrow⟩ := hsound.owned.inFlight p hp
    rw [h p row hp hrow, profile_of_step hstep hrow hrow']
  · rw [← hprofile, Option.some.inj (hrow₀.symm.trans hrow')]
  · rw [hprofile, profile_of_step hstep hrow hrow']

end Profiles

end VpnPanel
