import VpnPanel.WorkerMain
import VpnPanel.RowLocks

/-!
# VpnPanel.WorkerSite

An installation with its worker processes: the system of `VpnPanel.Lifecycle`,
with the executions inside the workers of `VpnPanel.WorkerMain`.

A session belongs to the worker whose handler opened it; the handler's end is
what the worker reports, and the broker retires a task on the report of some
worker and on nothing else.  `site_refines_system` shows that this keeps to
the system of `VpnPanel.Lifecycle`, in which the broker may finish a task when
an execution has ended, and `ack_stored` what an `ack` is worth.
-/

namespace VpnPanel

open Process (Result)

abbrev WorkerId := Nat

/-- The installation; a worker that is started again is another one. -/
structure Site where
  world : World
  workers : WorkerId → Worker

/-- What can happen. -/
inductive SiteEvent where
  /-- The API, or the clock. -/
  | api (a : Action)
  /-- The broker hands a task to a worker. -/
  | deliver (n : WorkerId) (e : ExecutionId) (t : TaskId) (taskType : String)
  /-- A worker's handler takes its next step. -/
  | work (n : WorkerId) (env : TaskEnv)
  /-- Anything else a worker waits for. -/
  | worker (n : WorkerId) (event : WorkerEvent)
  /-- The broker is done with a task that the worker has reported. -/
  | retire (n : WorkerId) (t : TaskId)

/-- The actions that are neither a worker's nor the broker's. -/
def Action.ofApi : Action → Bool
  | .deliver _ _ | .work _ _ | .crash _ | .finish _ => false
  | _ => true

/-- The events that concern the process alone. -/
def WorkerEvent.ownEvent : WorkerEvent → Bool
  | .pulled (.ok (some _)) | .handled _ => false
  | _ => true

/-- The task whose handler is running. -/
def WorkerStage.handling : WorkerStage → Option PulledTask
  | .working ⟨task, .handling, _⟩ => some task
  | _ => none

/-- The task an entry reports the end of. -/
def LogEntry.reports : LogEntry → Option TaskId
  | .ack t | .nack t _ => some t
  | _ => none

/-- How an execution ends, where its next step is its last. -/
def World.outcome (ctx : Ctx) (w : World) (env : TaskEnv) (e : ExecutionId) :
    Option (Except PyErr Unit) :=
  match w.executions e with
  | none => none
  | some x =>
      if x.stage.takesLock && !w.lockFree x.payload.configId (.execution e) then none
      else
        match taskStep ctx env w.now x.payload x.stage w.store with
        | .next _ _ => none
        | .done out _ => some out

namespace Site

/-- An installation without configs. -/
def init (host : Host) : Site := ⟨World.init host, fun _ => {}⟩

variable (ctx : Ctx) (s : Site)

/-- The task a worker's handler is busy with. -/
def handling (n : WorkerId) : Option PulledTask := (s.workers n).stage.handling

/-- The installation after an event of a worker. -/
def tell (world : World) (n : WorkerId) (event : WorkerEvent) : Site :=
  ⟨world, Function.update s.workers n ((s.workers n).next event)⟩

def deliver (n : WorkerId) (e : ExecutionId) (t : TaskId) (taskType : String) : Site :=
  match (s.workers n).stage, s.world.executions e, s.world.tasks t with
  | .pulling, none, some task =>
      if task.finished || !handlers.contains taskType then s
      else s.tell (s.world.deliver e t) n (.pulled (.ok (some ⟨t, taskType, e⟩)))
  | _, _, _ => s

/-- A step of the handler, and the report of the worker where it is the last. -/
def work (n : WorkerId) (env : TaskEnv) : Site :=
  match s.handling n with
  | none => s
  | some task =>
      match s.world.outcome ctx env task.execution with
      | none => { s with world := s.world.work ctx env task.execution }
      | some out => s.tell (s.world.work ctx env task.execution) n (.handled out)

/-- A killed worker takes the session of its handler with it. -/
def worker (n : WorkerId) (event : WorkerEvent) : Site :=
  if event.ownEvent then
    match event, s.handling n with
    | .kill, some task => s.tell (s.world.crash task.execution) n .kill
    | event, _ => s.tell s.world n event
  else s

def retire (n : WorkerId) (t : TaskId) : Site :=
  if (s.workers n).log.any (fun entry => entry.reports = some t) then
    match s.world.tasks t with
    | some task => { s with world := s.world.setTask t { task with finished := true } }
    | none => s
  else s

/-- One step of the installation. -/
def step : SiteEvent → Site
  | .api a => if a.ofApi then { s with world := VpnPanel.step ctx s.world a } else s
  | .deliver n e t taskType => s.deliver n e t taskType
  | .work n env => s.work ctx n env
  | .worker n event => s.worker n event
  | .retire n t => s.retire n t

end Site

/-! ## what a step is -/

/-- What an event does to the installation when it does anything. -/
inductive SiteStep (ctx : Ctx) (s : Site) : SiteEvent → Site → Prop where
  | api (a : Action) (h : a.ofApi = true) :
      SiteStep ctx s (.api a) { s with world := step ctx s.world a }
  | deliver (n : WorkerId) (e : ExecutionId) (t : TaskId) (taskType : String) (task : Task)
      (hn : (s.workers n).stage = .pulling) (he : s.world.executions e = none)
      (ht : s.world.tasks t = some task) (hfin : task.finished = false)
      (hknown : taskType ∈ handlers) :
      SiteStep ctx s (.deliver n e t taskType)
        (s.tell (s.world.deliver e t) n (.pulled (.ok (some ⟨t, taskType, e⟩))))
  | workNext (n : WorkerId) (env : TaskEnv) (task : PulledTask) (hn : s.handling n = some task)
      (hout : s.world.outcome ctx env task.execution = none) :
      SiteStep ctx s (.work n env) { s with world := s.world.work ctx env task.execution }
  | workDone (n : WorkerId) (env : TaskEnv) (task : PulledTask) (out : Except PyErr Unit)
      (hn : s.handling n = some task)
      (hout : s.world.outcome ctx env task.execution = some out) :
      SiteStep ctx s (.work n env)
        (s.tell (s.world.work ctx env task.execution) n (.handled out))
  | kill (n : WorkerId) (task : PulledTask) (hn : s.handling n = some task) :
      SiteStep ctx s (.worker n .kill) (s.tell (s.world.crash task.execution) n .kill)
  | worker (n : WorkerId) (event : WorkerEvent) (hown : event.ownEvent = true)
      (hkill : event = .kill → s.handling n = none) :
      SiteStep ctx s (.worker n event) (s.tell s.world n event)
  | retire (n : WorkerId) (t : TaskId) (task : Task) (entry : LogEntry)
      (hentry : entry ∈ (s.workers n).log) (hreports : entry.reports = some t)
      (ht : s.world.tasks t = some task) :
      SiteStep ctx s (.retire n t)
        { s with world := s.world.setTask t { task with finished := true } }

/-- **An event leaves the installation alone or is a `SiteStep`.** -/
theorem site_cases (ctx : Ctx) (s : Site) (event : SiteEvent) :
    s.step ctx event = s ∨ SiteStep ctx s event (s.step ctx event) := by
  cases event with
  | api a =>
      simp only [Site.step]
      split
      · next h => exact .inr (.api a h)
      · exact .inl rfl
  | deliver n e t taskType =>
      simp only [Site.step, Site.deliver]
      split
      · next task hn he ht =>
        split
        · exact .inl rfl
        · next hno =>
          simp only [Bool.or_eq_true, Bool.not_eq_true', not_or, Bool.not_eq_true,
            Bool.not_eq_false] at hno
          exact .inr (.deliver n e t taskType task hn he ht hno.1 (List.contains_iff_mem.mp hno.2))
      · exact .inl rfl
  | work n env =>
      simp only [Site.step, Site.work]
      split
      · exact .inl rfl
      · next task hn =>
        split
        · next hout => exact .inr (.workNext n env task hn hout)
        · next out hout => exact .inr (.workDone n env task out hn hout)
  | worker n event =>
      simp only [Site.step, Site.worker]
      split
      · next hown =>
        split
        · next task hn => exact .inr (.kill n task hn)
        · next hno =>
          refine .inr (.worker n _ hown fun hkill => ?_)
          cases hn : s.handling n with
          | none => rfl
          | some task => exact (hno task hkill hn).elim
      · exact .inl rfl
  | retire n t =>
      simp only [Site.step, Site.retire]
      split
      · next hany =>
        obtain ⟨entry, hentry, hreports⟩ := List.any_eq_true.mp hany
        split
        · next task ht =>
          exact .inr (.retire n t task entry hentry (of_decide_eq_true hreports) ht)
        · exact .inl rfl
      · exact .inl rfl

/-! ## what the workers do -/

section Workers

variable {w : Worker}

theorem next_pulled (task : PulledTask) (hstage : w.stage = .pulling)
    (hknown : task.taskType ∈ handlers) :
    w.next (.pulled (.ok (some task))) = w.record (.working { task := task }) [.pulled task] := by
  obtain ⟨stage, log⟩ := w
  subst hstage
  exact if_pos (List.contains_iff_mem.mpr hknown)

/-- No handler survives its process. -/
theorem next_kill (w : Worker) : (w.next .kill).stage.handling = none := by
  obtain ⟨stage, log⟩ := w
  cases stage with
  | working run =>
      obtain ⟨task, main, beat⟩ := run
      cases main with
      | handling | answering | ending exc => rfl
  | pulling | refusing _ | stopped _ | killed => rfl

/-- What an event of the process alone changes. -/
theorem next_own (w : Worker) (event : WorkerEvent) (hown : event.ownEvent = true) :
    ((w.next event).stage.handling = w.stage.handling ∨
        event = .kill ∧ (w.next event).stage.handling = none) ∧
      ∀ entry ∈ (w.next event).log, entry ∈ w.log ∨ entry.reports = none := by
  obtain hsame | ⟨stage', es, hstep, hnext⟩ := next_cases w event
  · rw [hsame]
    exact ⟨.inl rfl, fun entry hentry => .inl hentry⟩
  rw [hnext]
  simp only [Worker.record, List.mem_append]
  generalize w.stage = stage at hstep
  have hlog (hes : ∀ entry ∈ es, entry.reports = none) (entry : LogEntry)
      (h : entry ∈ w.log ∨ entry ∈ es) : entry ∈ w.log ∨ entry.reports = none :=
    h.imp_right (hes entry)
  have hquiet : ∀ entry ∈ ([] : List LogEntry), entry.reports = none := by simp
  cases hstep with
  | kill => exact ⟨.inr ⟨rfl, rfl⟩, hlog hquiet⟩
  | start task _ | refuse task _ | returned task beat | raised task beat e => cases hown
  | beat task main _ =>
      cases main with
      | handling | answering | ending exc => exact ⟨.inl rfl, hlog (by simp [LogEntry.reports])⟩
  | beatAccepted task main | beatFailed task main e =>
      cases main with
      | handling | answering | ending exc => exact ⟨.inl rfl, hlog hquiet⟩
  | pullFailed e | refuseFailed task e | answerFailed task beat e | joinedFailed task exc e
  | joinedRaised task e beat _ => exact ⟨.inl rfl, hlog hquiet⟩
  | idle | refused task | accepted task beat | joined task beat _ =>
      exact ⟨.inl rfl, hlog (by simp [LogEntry.reports])⟩

/-- The handler's end, in the log. -/
theorem next_handled {task : PulledTask} (hstage : w.stage.handling = some task)
    (out : Except PyErr Unit) :
    (w.next (.handled out)).stage.handling = none ∧
      ∀ entry ∈ (w.next (.handled out)).log, entry ∈ w.log ∨ entry.reports = none ∨
        (out = .ok () ∧ entry = .ack task.task) ∨ ∃ e, out = .error e ∧
          entry = .nack task.task e.msg := by
  obtain ⟨stage, log⟩ := w
  obtain ⟨beat, rfl⟩ : ∃ beat, stage = .working ⟨task, .handling, beat⟩ := by
    cases stage with
    | working run =>
        obtain ⟨task', main, beat⟩ := run
        cases main with
        | handling =>
            cases hstage
            exact ⟨beat, rfl⟩
        | answering | ending exc => cases hstage
    | pulling | refusing _ | stopped _ | killed => cases hstage
  cases out with
  | ok u =>
      refine ⟨rfl, fun entry hentry => ?_⟩
      obtain hold | hnew := List.mem_append.mp hentry
      · exact .inl hold
      · obtain rfl | rfl : entry = .returned task.task ∨ entry = .ack task.task := by
          simpa using hnew
        · exact .inr (.inl rfl)
        · exact .inr (.inr (.inl ⟨rfl, rfl⟩))
  | error e =>
      refine ⟨rfl, fun entry hentry => ?_⟩
      obtain hold | hnew := List.mem_append.mp hentry
      · exact .inl hold
      · obtain rfl | rfl : entry = .raised task.task e ∨ entry = .nack task.task e.msg := by
          simpa using hnew
        · exact .inr (.inl rfl)
        · exact .inr (.inr (.inr ⟨e, rfl, rfl⟩))

end Workers

/-! ## what the executions do -/

section Executions

variable {ctx : Ctx} {w : World} {env : TaskEnv} {e : ExecutionId}

/-- The task an execution is of. -/
def World.taskOf (w : World) (e : ExecutionId) : Option TaskId :=
  (w.executions e).map Execution.task

theorem work_of_outcome {out : Except PyErr Unit} (h : w.outcome ctx env e = some out) :
    ∃ x s, w.executions e = some x ∧ TaskEnd env w.now x.payload w.store x.stage out s ∧
      w.work ctx env e = (((w.setStore s).setExecution e none).relock x.payload.configId
        (.execution e) false).report x.task := by
  simp only [World.outcome] at h
  simp only [World.work]
  cases he : w.executions e with
  | none => simp [he] at h
  | some x =>
      simp only [he] at h ⊢
      split at h
      · cases h
      · next hlock =>
        rw [if_neg hlock]
        cases hstep : taskStep ctx env w.now x.payload x.stage w.store with
        | next stage s => simp [hstep] at h
        | done out' s =>
            simp only [hstep, Option.some.injEq] at h
            subst h
            exact ⟨x, s, rfl, taskEnd_of_done hstep, rfl⟩

theorem taskOf_work (h : w.outcome ctx env e = none) (e' : ExecutionId) :
    (w.work ctx env e).taskOf e' = w.taskOf e' := by
  simp only [World.outcome] at h
  simp only [World.work, World.taskOf]
  cases he : w.executions e with
  | none => rfl
  | some x =>
      simp only [he] at h ⊢
      split at h
      · next hlock => rw [if_pos hlock]
      · next hlock =>
        rw [if_neg hlock]
        cases hstep : taskStep ctx env w.now x.payload x.stage w.store with
        | next stage s =>
            by_cases hee : e' = e
            · subst hee
              simp [he]
            · simp [hee]
        | done out s => simp [hstep] at h

end Executions

/-! ## the invariant -/

/-- The handlers that run and the open executions are the same. -/
structure Held (s : Site) : Prop where
  handled : ∀ n task, s.handling n = some task → s.world.taskOf task.execution = some task.task
  held : ∀ e, s.world.taskOf e ≠ none → ∃ n task, s.handling n = some task ∧ task.execution = e
  alone : ∀ m n task task', s.handling m = some task → s.handling n = some task' →
    task.execution = task'.execution → m = n

/-- What a report is backed by: the task was executed, and acked only when its
version is stored. -/
def Backed (w : World) (entry : LogEntry) : Prop :=
  ∀ t, entry.reports = some t → ∃ task, w.tasks t = some task ∧ task.executed = true ∧
    (entry = .ack t → w.db.hasVersion task.payload.configId task.payload.targetVersion = true)

/-- What holds of every installation that a run reaches. -/
structure SiteSound (ctx : Ctx) (host : Host) (s : Site) : Prop where
  reached : ∃ as : List Action, s.world = runFrom ctx host as
  held : Held s
  backed : ∀ n, ∀ entry ∈ (s.workers n).log, Backed s.world entry

theorem backed_of_none (w : World) {entry : LogEntry} (h : entry.reports = none) :
    Backed w entry := by
  intro t ht
  rw [h] at ht
  cases ht

/-- A report stays backed. -/
theorem Backed.step {ctx : Ctx} {w : World} {entry : LogEntry} (h : Backed w entry) (a : Action) :
    Backed (step ctx w a) entry := by
  obtain heq | hstep : VpnPanel.step ctx w a = w ∨ Step ctx w a (VpnPanel.step ctx w a) :=
    step_cases a
  · rwa [heq]
  intro t ht
  obtain ⟨task, htask, hex, hstored⟩ := h t ht
  obtain ⟨task', htask', hpayload⟩ := tasks_mono hstep htask
  refine ⟨task', htask', ?_, fun hack => ?_⟩
  · obtain ⟨r, p, hnone, -⟩ | ⟨task₀, htask₀, hchange⟩ := task_of_step hstep htask'
    · rw [hnone] at htask
      cases htask
    · obtain rfl : task = task₀ := Option.some.inj (htask.symm.trans htask₀)
      cases hchange with
      | same | finished => exact hex
      | reported => rfl
  · rw [hpayload]
    exact versions_mono hstep (hstored hack)

section HeldSteps

variable {s s' : Site}

theorem Held.congr (h : Held s) (hn : ∀ n, s'.handling n = s.handling n)
    (he : ∀ e, s'.world.taskOf e = s.world.taskOf e) : Held s' where
  handled n task hs := by
    rw [he]
    exact h.handled n task (hn n ▸ hs)
  held e hs := by
    obtain ⟨n, task, htask⟩ := h.held e (he e ▸ hs)
    exact ⟨n, task, (hn n).symm ▸ htask⟩
  alone m n task task' hm hs := h.alone m n task task' (hn m ▸ hm) (hn n ▸ hs)

/-- A worker takes a task. -/
theorem Held.start (h : Held s) (n : WorkerId) (task : PulledTask) (hn : s.handling n = none)
    (hfree : s.world.taskOf task.execution = none) (hn' : s'.handling n = some task)
    (hothers : ∀ m, m ≠ n → s'.handling m = s.handling m)
    (he' : s'.world.taskOf task.execution = some task.task)
    (hrest : ∀ e, e ≠ task.execution → s'.world.taskOf e = s.world.taskOf e) : Held s' := by
  have hnew (m : WorkerId) (task' : PulledTask) (hm : s'.handling m = some task') :
      m = n ∧ task' = task ∨
        m ≠ n ∧ s.handling m = some task' ∧ task'.execution ≠ task.execution := by
    by_cases hmn : m = n
    · subst hmn
      exact .inl ⟨rfl, Option.some.inj (hm.symm.trans hn')⟩
    · have hold := hothers m hmn ▸ hm
      refine .inr ⟨hmn, hold, fun hexec => ?_⟩
      have htask := h.handled m task' hold
      rw [hexec, hfree] at htask
      cases htask
  constructor
  · intro m task' hm
    obtain ⟨rfl, rfl⟩ | ⟨-, hold, hexec⟩ := hnew m task' hm
    · exact he'
    · rw [hrest _ hexec]
      exact h.handled m task' hold
  · intro e he
    by_cases hee : e = task.execution
    · exact ⟨n, task, hn', hee.symm⟩
    · obtain ⟨m, task', hm, htask'⟩ := h.held e (hrest e hee ▸ he)
      refine ⟨m, task', ?_, htask'⟩
      rw [hothers m ?_, hm]
      rintro rfl
      rw [hn] at hm
      cases hm
  · intro m m' task₁ task₂ hm hm' hexec
    obtain ⟨rfl, rfl⟩ | ⟨-, hold, hne⟩ := hnew m task₁ hm
    · obtain ⟨rfl, rfl⟩ | ⟨-, -, hne⟩ := hnew m' task₂ hm'
      · rfl
      · exact absurd hexec.symm hne
    · obtain ⟨rfl, rfl⟩ | ⟨-, hold', -⟩ := hnew m' task₂ hm'
      · exact absurd hexec hne
      · exact h.alone m m' task₁ task₂ hold hold' hexec

/-- A handler is over. -/
theorem Held.stop (h : Held s) {n : WorkerId} {task : PulledTask} (hn : s.handling n = some task)
    (hn' : s'.handling n = none) (hothers : ∀ m, m ≠ n → s'.handling m = s.handling m)
    (he' : s'.world.taskOf task.execution = none)
    (hrest : ∀ e, e ≠ task.execution → s'.world.taskOf e = s.world.taskOf e) : Held s' := by
  have hold (m : WorkerId) (task' : PulledTask) (hm : s'.handling m = some task') :
      s.handling m = some task' ∧ task'.execution ≠ task.execution := by
    have hmn : m ≠ n := by
      rintro rfl
      rw [hn'] at hm
      cases hm
    have hm := hothers m hmn ▸ hm
    exact ⟨hm, fun hexec => hmn (h.alone m n task' task hm hn hexec)⟩
  constructor
  · intro m task' hm
    obtain ⟨hm, hexec⟩ := hold m task' hm
    rw [hrest _ hexec]
    exact h.handled m task' hm
  · intro e he
    have hee : e ≠ task.execution := by
      rintro rfl
      exact he he'
    obtain ⟨m, task', hm, htask'⟩ := h.held e (hrest e hee ▸ he)
    refine ⟨m, task', ?_, htask'⟩
    rw [hothers m ?_, hm]
    rintro rfl
    rw [hn] at hm
    cases hm
    exact hee htask'.symm
  · intro m m' task₁ task₂ hm hm'
    exact h.alone m m' task₁ task₂ (hold m task₁ hm).1 (hold m' task₂ hm').1

end HeldSteps

theorem siteSound_init (ctx : Ctx) (host : Host) : SiteSound ctx host (Site.init host) where
  reached := ⟨[], rfl⟩
  held := {
    handled := fun n task hn => nomatch hn
    held := fun e he => (he rfl).elim
    alone := fun m n task task' hm => nomatch hm }
  backed n entry hentry := by
    rw [List.mem_singleton.mp hentry]
    exact backed_of_none _ rfl

section SoundStep

variable {ctx : Ctx} {host : Host} {s s' : Site}

/-- Another world is reached by another action. -/
theorem reached_step (h : ∃ as : List Action, s.world = runFrom ctx host as) (a : Action) :
    ∃ as : List Action, step ctx s.world a = runFrom ctx host as := by
  obtain ⟨as, has⟩ := h
  exact ⟨as ++ [a], by rw [has, runFrom, runFrom, Machine.run_append]; rfl⟩

/-- The workers stay, and an action changes the world. -/
theorem SiteSound.world (h : SiteSound ctx host s) (a : Action)
    (htask : ∀ e, (step ctx s.world a).taskOf e = s.world.taskOf e) :
    SiteSound ctx host { s with world := step ctx s.world a } where
  reached := reached_step h.reached a
  held := h.held.congr (fun _ => rfl) htask
  backed n entry hentry := (h.backed n entry hentry).step a

theorem handling_tell (w : World) (n : WorkerId) (event : WorkerEvent) :
    (s.tell w n event).handling n = ((s.workers n).next event).stage.handling := by
  simp [Site.handling, Site.tell]

theorem handling_tell_of_ne (w : World) {m n : WorkerId} (event : WorkerEvent) (h : m ≠ n) :
    (s.tell w n event).handling m = s.handling m := by
  simp [Site.handling, Site.tell, h]

/-- The reports after an event of a worker. -/
theorem backed_tell {w : World} {n : WorkerId} {event : WorkerEvent}
    (hold : ∀ m, ∀ entry ∈ (s.workers m).log, Backed w entry)
    (hnew : ∀ entry ∈ ((s.workers n).next event).log, entry ∈ (s.workers n).log ∨ Backed w entry)
    (m : WorkerId) (entry : LogEntry) (hentry : entry ∈ ((s.tell w n event).workers m).log) :
    Backed w entry := by
  by_cases hmn : m = n
  · subst hmn
    obtain hentry | hbacked := hnew entry (by simpa [Site.tell] using hentry)
    · exact hold m entry hentry
    · exact hbacked
  · exact hold m entry (by simpa [Site.tell, hmn] using hentry)

theorem taskOf_api {w : World} {a : Action} (ha : a.ofApi = true) (e : ExecutionId) :
    (step ctx w a).taskOf e = w.taskOf e := by
  have hne : a.executes ≠ some e := by
    cases a with
    | deliver _ _ | work _ _ | crash _ | finish _ => cases ha
    | create _ _ _ _ _ _ _ | regenerate _ _ | edit _ _ _ | delete _ _ | patchPolicy _ _ _
    | advance _ _ | tick => exact nofun
  rw [World.taskOf, World.taskOf, step_executions_of_ne w hne]

/-- A report of the end of an execution is backed. -/
theorem backed_handled (h : SiteSound ctx host s) {env : TaskEnv} {e : ExecutionId} {t : TaskId}
    {out : Except PyErr Unit} (htask : s.world.taskOf e = some t)
    (hout : s.world.outcome ctx env e = some out) {entry : LogEntry}
    (hentry : (out = .ok () ∧ entry = .ack t) ∨ ∃ exc, out = .error exc ∧ entry = .nack t exc.msg) :
    Backed (step ctx s.world (.work e env)) entry := by
  obtain ⟨as, has⟩ := h.reached
  have hsound : Sound s.world := has ▸ sound_run ctx host as
  obtain ⟨x, st, he, hend, hwork⟩ := work_of_outcome hout
  obtain rfl : x.task = t := by simpa [World.taskOf, he] using htask
  obtain ⟨task, ht, hpayload⟩ := hsound.tasked e x he
  have hstep : step ctx s.world (.work e env) = _ := hwork
  have ht' : (step ctx s.world (.work e env)).tasks x.task =
      some { task with executed := true } := by
    rw [hstep, World.report_tasks, if_pos rfl]
    simp [ht]
  have hreports : entry.reports = some x.task := by
    obtain ⟨-, rfl⟩ | ⟨exc, -, rfl⟩ := hentry <;> rfl
  intro t' ht''
  obtain rfl : x.task = t' := Option.some.inj (hreports.symm.trans ht'')
  refine ⟨_, ht', rfl, ?_⟩
  rintro rfl
  obtain ⟨rfl, -⟩ | ⟨exc, -, hnack⟩ := hentry
  · rw [hstep, World.report_db]
    show st.db.hasVersion task.payload.configId task.payload.targetVersion = true
    rw [hpayload]
    generalize hstage : x.stage = stage at hend
    cases hend with
    | marked loaded hcom =>
        have hfound := hsound.found e x he (.inr ⟨loaded, hstage⟩)
        simpa [Db.hasVersion] using hfound
    | built row hcom => simp [commitBuild, Db.hasVersion]
  · cases hnack

/-- A task that was reported was executed, so the broker may be done with it. -/
theorem finish_of_backed (ctx : Ctx) {w : World} {entry : LogEntry} {t : TaskId} {task : Task}
    (h : Backed w entry) (hreports : entry.reports = some t) (ht : w.tasks t = some task) :
    step ctx w (.finish t) = w.setTask t { task with finished := true } := by
  obtain ⟨task', ht', hex, -⟩ := h t hreports
  obtain rfl : task = task' := Option.some.inj (ht.symm.trans ht')
  simp [step, World.finish, ht, hex]

theorem siteSound_of_step {event : SiteEvent} (hstep : SiteStep ctx s event s')
    (h : SiteSound ctx host s) : SiteSound ctx host s' := by
  have hkept (a : Action) (m : WorkerId) (entry : LogEntry) (hentry : entry ∈ (s.workers m).log) :
      Backed (step ctx s.world a) entry := (h.backed m entry hentry).step a
  cases hstep with
  | api a ha => exact h.world a (taskOf_api ha)
  | workNext n env task hn hout => exact h.world (.work task.execution env) (taskOf_work hout)
  | retire n t task entry hentry hreports ht =>
      have hfinish := finish_of_backed ctx (h.backed n entry hentry) hreports ht
      rw [← hfinish]
      exact h.world (.finish t) fun e => by rw [hfinish]; rfl
  | deliver n e t taskType task hn he ht hfin hknown =>
      have hnext := next_pulled ⟨t, taskType, e⟩ hn hknown
      have hdeliver : s.world.deliver e t =
          s.world.setExecution e (some ⟨t, task.payload, .start⟩) := by
        simp [World.deliver, he, ht, hfin]
      refine ⟨reached_step h.reached (.deliver e t), h.held.start n ⟨t, taskType, e⟩
        ?_ ?_ ?_ (fun m hm => handling_tell_of_ne _ _ hm) ?_ fun e' he' => ?_, backed_tell
        (hkept (.deliver e t)) fun entry hentry => ?_⟩
      · rw [Site.handling, hn]
        rfl
      · rw [World.taskOf, he]
        rfl
      · rw [handling_tell, hnext]
        rfl
      · show (s.world.deliver e t).taskOf e = some t
        rw [hdeliver]
        simp [World.taskOf]
      · show (s.world.deliver e t).taskOf e' = s.world.taskOf e'
        have hne : e' ≠ e := he'
        rw [hdeliver]
        simp [World.taskOf, hne]
      · rw [hnext] at hentry
        obtain hold | hnew := List.mem_append.mp hentry
        · exact .inl hold
        · rw [List.mem_singleton.mp hnew]
          exact .inr (backed_of_none _ rfl)
  | workDone n env task out hn hout =>
      obtain ⟨x, st, he, -, hwork⟩ := work_of_outcome hout
      obtain ⟨hstopped, hlog⟩ := next_handled hn out
      have htask := h.held.handled n task hn
      refine ⟨reached_step h.reached (.work task.execution env), h.held.stop hn
        ?_ (fun m hm => handling_tell_of_ne _ _ hm) ?_ fun e' he' => ?_, backed_tell
        (hkept (.work task.execution env)) fun entry hentry => ?_⟩
      · rw [handling_tell, hstopped]
      · show (s.world.work ctx env task.execution).taskOf task.execution = none
        rw [hwork]
        simp [World.taskOf]
      · show (s.world.work ctx env task.execution).taskOf e' = s.world.taskOf e'
        rw [hwork]
        simp [World.taskOf, he']
      · obtain hold | hnone | hreport := hlog entry hentry
        · exact .inl hold
        · exact .inr (backed_of_none _ hnone)
        · exact .inr (backed_handled h htask hout hreport)
  | kill n task hn =>
      obtain ⟨x, he⟩ : ∃ x, s.world.executions task.execution = some x := by
        obtain ⟨x, he, -⟩ := Option.map_eq_some_iff.mp (h.held.handled n task hn)
        exact ⟨x, he⟩
      obtain ⟨-, hlog⟩ := next_own (s.workers n) .kill rfl
      refine ⟨reached_step h.reached (.crash task.execution), h.held.stop hn
        ?_ (fun m hm => handling_tell_of_ne _ _ hm) ?_ fun e' he' => ?_, backed_tell
        (hkept (.crash task.execution)) fun entry hentry => ?_⟩
      · rw [handling_tell, next_kill]
      · show (s.world.crash task.execution).taskOf task.execution = none
        simp [World.crash, he, World.taskOf]
      · show (s.world.crash task.execution).taskOf e' = s.world.taskOf e'
        simp [World.crash, he, World.taskOf, he']
      · obtain hold | hnone := hlog entry hentry
        · exact .inl hold
        · exact .inr (backed_of_none _ hnone)
  | worker n event hown hkill =>
      obtain ⟨hhandling, hlog⟩ := next_own (s.workers n) event hown
      refine ⟨h.reached, h.held.congr (fun m => ?_) (fun e => rfl), backed_tell h.backed
        fun entry hentry => ?_⟩
      · by_cases hmn : m = n
        · subst hmn
          rw [handling_tell]
          obtain hsame | ⟨hk, hnone⟩ := hhandling
          · exact hsame
          · rw [hnone, hkill hk]
        · exact handling_tell_of_ne _ _ hmn
      · obtain hold | hnone := hlog entry hentry
        · exact .inl hold
        · exact .inr (backed_of_none _ hnone)

end SoundStep

theorem siteSound_step {ctx : Ctx} {host : Host} (s : Site) (event : SiteEvent)
    (h : SiteSound ctx host s) : SiteSound ctx host (s.step ctx event) := by
  obtain heq | hstep := site_cases ctx s event
  · rwa [heq]
  · exact siteSound_of_step hstep h

/-- A run from an installation without configs. -/
abbrev siteRun (ctx : Ctx) (host : Host) (events : List SiteEvent) : Site :=
  Machine.run (Site.step ctx) (Site.init host) events

theorem siteSound_run (ctx : Ctx) (host : Host) (events : List SiteEvent) :
    SiteSound ctx host (siteRun ctx host events) :=
  Machine.run_invariant siteSound_step (siteSound_init ctx host) events

/-- **Workers refine the system.**  However the API, the broker and any number
of workers take turns, whichever workers are killed or end, the world is one
that a run of the system reaches: above all, the broker, which retires a task
when some worker has reported it, never retires one whose execution has not
ended.  The open executions are the tasks the workers' handlers are busy with,
each in the hands of one worker. -/
theorem site_refines_system (ctx : Ctx) (host : Host) (events : List SiteEvent) :
    (∃ as : List Action, (siteRun ctx host events).world = runFrom ctx host as) ∧
      (∀ n task, (siteRun ctx host events).handling n = some task →
        (siteRun ctx host events).world.taskOf task.execution = some task.task) ∧
      ∀ e, (siteRun ctx host events).world.taskOf e ≠ none →
        ∃! n, ∃ task, (siteRun ctx host events).handling n = some task ∧ task.execution = e := by
  have hsound := siteSound_run ctx host events
  refine ⟨hsound.reached, hsound.held.handled, fun e he => ?_⟩
  obtain ⟨n, task, hn, htask⟩ := hsound.held.held e he
  refine ⟨n, ⟨task, hn, htask⟩, ?_⟩
  rintro m ⟨task', hm, htask'⟩
  exact hsound.held.alone m n task' task hm hn (htask'.trans htask.symm)

/-- **What an `ack` is worth.**  In every run, a task that any worker has sent
an `ack` for has been executed, and the version it asks for is stored. -/
theorem ack_stored (ctx : Ctx) (host : Host) (events : List SiteEvent) (n : WorkerId) (t : TaskId)
    (h : .ack t ∈ ((siteRun ctx host events).workers n).log) :
    ∃ task, (siteRun ctx host events).world.tasks t = some task ∧ task.executed = true ∧
      (siteRun ctx host events).world.db.hasVersion task.payload.configId
        task.payload.targetVersion = true := by
  obtain ⟨task, ht, hex, hstored⟩ := (siteSound_run ctx host events).backed n _ h t rfl
  exact ⟨task, ht, hex, hstored rfl⟩

/-- Config 0 is created, and worker 1 builds its first version, reports it and
is killed. -/
def siteFirstVersion : List SiteEvent :=
  [.api (.create 0 0 "c" .xray .xrayXhttp none none), .api (.advance 0 { publish := .accepted 0 }),
    .api (.advance 0 {}), .deliver 1 0 0 "config.initialize"] ++
    List.replicate 8 (.work 1 (sampleBuild 443)) ++ [.worker 1 .kill, .retire 1 0]

theorem ack_stored_firstVersion :
    .ack 0 ∈ ((siteRun Ctx.sample Host.blank siteFirstVersion).workers 1).log ∧
      ∃ task, (siteRun Ctx.sample Host.blank siteFirstVersion).world.tasks 0 = some task ∧
        task.executed = true ∧
        (siteRun Ctx.sample Host.blank siteFirstVersion).world.db.hasVersion
          task.payload.configId task.payload.targetVersion = true :=
  have hlog : .ack 0 ∈ ((siteRun Ctx.sample Host.blank siteFirstVersion).workers 1).log := by
    decide
  ⟨hlog, ack_stored Ctx.sample Host.blank siteFirstVersion 1 0 hlog⟩

end VpnPanel
