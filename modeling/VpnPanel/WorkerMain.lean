import VpnPanel.Lifecycle

/-!
# VpnPanel.WorkerMain

The worker process, `run_worker` with `_process_task`, as its broker sees it.

Two coroutines share the event loop: the main one pulls a task, runs its
handler and reports the end with `ack` or `nack`, and beside it, while a task
is worked on, `heartbeat_loop` renews the task's lock.  A step is what one of
them does between two awaits, so the steps of a run come in any order the loop
and the network allow, and every request can fail.

`Round` is what the worker says from one pull to the next;
`log_prefix_rounds` says that it says nothing else, and `stopped_by_broker`
that a process which ends was ended by a request to the broker, whatever its
handlers raise.
-/

namespace VpnPanel

/-! ## the process -/

/-- A pulled task, and the session its handler will use. -/
structure PulledTask where
  task : TaskId
  taskType : String
  execution : ExecutionId
  deriving DecidableEq, Repr

/-- The keys of `HANDLERS`. -/
def handlers : List String := ["config.initialize", "config.regenerate"]

/-- The reason of the `nack` of a task without a handler. -/
def unknownTaskType (taskType : String) : String := "Unknown task type: " ++ taskType

/-- What happens in the process: requests sent, and what comes back. -/
inductive LogEntry where
  | pull
  | pulled (task : PulledTask)
  | heartbeat (task : TaskId)
  /-- The handler has returned. -/
  | returned (task : TaskId)
  | raised (task : TaskId) (exc : PyErr)
  | ack (task : TaskId)
  | nack (task : TaskId) (reason : String)
  /-- The broker has accepted the `ack` or `nack`. -/
  | accepted (task : TaskId)
  deriving DecidableEq, Repr

/-- `heartbeat_loop`: in `wait_for`, in `broker.heartbeat`, or ended by it. -/
inductive Beat where
  | waiting
  | sending
  | failed (exc : PyErr)
  deriving DecidableEq, Repr

/-- The main coroutine in `_process_task`, from `create_task` on. -/
inductive MainStage where
  | handling
  /-- `ack` or `nack` is on its way. -/
  | answering
  /-- `finally`: the heartbeat task is cancelled and awaited; the exception is
  the one that is being raised. -/
  | ending (exc : Option PyErr)
  deriving DecidableEq, Repr

structure TaskRun where
  task : PulledTask
  main : MainStage := .handling
  beat : Beat := .waiting
  deriving DecidableEq, Repr

/-- Where the process stands. -/
inductive WorkerStage where
  | pulling
  /-- The `nack` of a task without a handler is on its way. -/
  | refusing (task : PulledTask)
  | working (run : TaskRun)
  /-- `run_worker` has raised. -/
  | stopped (exc : PyErr)
  /-- The process was killed. -/
  | killed
  deriving DecidableEq, Repr

structure Worker where
  stage : WorkerStage := .pulling
  log : List LogEntry := [.pull]
  deriving DecidableEq, Repr

/-- What the process waits for. -/
inductive WorkerEvent where
  | pulled (answer : Except PyErr (Option PulledTask))
  | handled (outcome : Except PyErr Unit)
  /-- The answer to `ack` or `nack`. -/
  | answered (answer : Except PyErr Unit)
  /-- `wait_for` has timed out. -/
  | beat
  | beatAnswered (answer : Except PyErr Unit)
  /-- The cancelled heartbeat task has ended. -/
  | joined
  | kill
  deriving Repr

namespace Worker

variable (w : Worker)

def record (stage : WorkerStage) (entries : List LogEntry) : Worker :=
  ⟨stage, w.log ++ entries⟩

/-- `await broker.pull(...)` in `run_worker`. -/
def pulled : Except PyErr (Option PulledTask) → Worker
  | .error e => w.record (.stopped e) []
  | .ok none => w.record .pulling [.pull]
  | .ok (some task) =>
      if handlers.contains task.taskType then w.record (.working { task := task }) [.pulled task]
      else
        w.record (.refusing task) [.pulled task, .nack task.task (unknownTaskType task.taskType)]

/-- `await handler(payload, ctx)`: the end is reported at once. -/
def handled (run : TaskRun) : Except PyErr Unit → Worker
  | .ok () => w.record (.working { run with main := .answering })
      [.returned run.task.task, .ack run.task.task]
  | .error e => w.record (.working { run with main := .answering })
      [.raised run.task.task e, .nack run.task.task e.msg]

/-- `await broker.ack(...)` or `nack(...)`, and on to `finally`. -/
def answered (run : TaskRun) : Except PyErr Unit → Worker
  | .ok () => w.record (.working { run with main := .ending none }) [.accepted run.task.task]
  | .error e => w.record (.working { run with main := .ending (some e) }) []

/-- The `nack` of a task without a handler. -/
def refused (task : PulledTask) : Except PyErr Unit → Worker
  | .ok () => w.record .pulling [.accepted task.task, .pull]
  | .error e => w.record (.stopped e) []

/-- `await heartbeat_task` under `suppress(CancelledError)`: an exception of
the heartbeat takes the place of the one that is being raised. -/
def joined (run : TaskRun) (exc : Option PyErr) : Worker :=
  match run.beat, exc with
  | .failed e, _ => w.record (.stopped e) []
  | _, some e => w.record (.stopped e) []
  | _, none => w.record .pulling [.pull]

/-- The heartbeat task while it is not cancelled. -/
def beatStep (run : TaskRun) : WorkerEvent → Worker
  | .beat =>
      match run.beat with
      | .waiting => w.record (.working { run with beat := .sending }) [.heartbeat run.task.task]
      | _ => w
  | .beatAnswered r =>
      match run.beat, r with
      | .sending, .ok () => w.record (.working { run with beat := .waiting }) []
      | .sending, .error e => w.record (.working { run with beat := .failed e }) []
      | _, _ => w
  | _ => w

/-- A step of the process; what cannot happen changes nothing. -/
def next (event : WorkerEvent) : Worker :=
  match w.stage, event with
  | .stopped _, _ => w
  | .killed, _ => w
  | _, .kill => w.record .killed []
  | .pulling, .pulled answer => w.pulled answer
  | .refusing task, .answered answer => w.refused task answer
  | .working ⟨task, .handling, beat⟩, .handled outcome => w.handled ⟨task, .handling, beat⟩ outcome
  | .working ⟨task, .answering, beat⟩, .answered answer =>
      w.answered ⟨task, .answering, beat⟩ answer
  | .working ⟨task, .ending exc, beat⟩, .joined => w.joined ⟨task, .ending exc, beat⟩ exc
  | .working ⟨_, .ending _, _⟩, _ => w
  | .working run, event => w.beatStep run event
  | _, _ => w

end Worker

/-- What a step can be: the stage it leads to and what it adds to the log. -/
inductive StageStep : WorkerStage → WorkerEvent → WorkerStage → List LogEntry → Prop where
  | kill (stage : WorkerStage) : StageStep stage .kill .killed []
  | pullFailed (e : PyErr) : StageStep .pulling (.pulled (.error e)) (.stopped e) []
  | idle : StageStep .pulling (.pulled (.ok none)) .pulling [.pull]
  | start (task : PulledTask) (h : task.taskType ∈ handlers) :
      StageStep .pulling (.pulled (.ok (some task))) (.working { task := task }) [.pulled task]
  | refuse (task : PulledTask) (h : task.taskType ∉ handlers) :
      StageStep .pulling (.pulled (.ok (some task))) (.refusing task)
        [.pulled task, .nack task.task (unknownTaskType task.taskType)]
  | refused (task : PulledTask) :
      StageStep (.refusing task) (.answered (.ok ())) .pulling [.accepted task.task, .pull]
  | refuseFailed (task : PulledTask) (e : PyErr) :
      StageStep (.refusing task) (.answered (.error e)) (.stopped e) []
  | returned (task : PulledTask) (beat : Beat) :
      StageStep (.working ⟨task, .handling, beat⟩) (.handled (.ok ()))
        (.working ⟨task, .answering, beat⟩) [.returned task.task, .ack task.task]
  | raised (task : PulledTask) (beat : Beat) (e : PyErr) :
      StageStep (.working ⟨task, .handling, beat⟩) (.handled (.error e))
        (.working ⟨task, .answering, beat⟩) [.raised task.task e, .nack task.task e.msg]
  | accepted (task : PulledTask) (beat : Beat) :
      StageStep (.working ⟨task, .answering, beat⟩) (.answered (.ok ()))
        (.working ⟨task, .ending none, beat⟩) [.accepted task.task]
  | answerFailed (task : PulledTask) (beat : Beat) (e : PyErr) :
      StageStep (.working ⟨task, .answering, beat⟩) (.answered (.error e))
        (.working ⟨task, .ending (some e), beat⟩) []
  | beat (task : PulledTask) (main : MainStage) (h : ∀ exc, main ≠ .ending exc) :
      StageStep (.working ⟨task, main, .waiting⟩) .beat (.working ⟨task, main, .sending⟩)
        [.heartbeat task.task]
  | beatAccepted (task : PulledTask) (main : MainStage) :
      StageStep (.working ⟨task, main, .sending⟩) (.beatAnswered (.ok ()))
        (.working ⟨task, main, .waiting⟩) []
  | beatFailed (task : PulledTask) (main : MainStage) (e : PyErr) :
      StageStep (.working ⟨task, main, .sending⟩) (.beatAnswered (.error e))
        (.working ⟨task, main, .failed e⟩) []
  | joinedFailed (task : PulledTask) (exc : Option PyErr) (e : PyErr) :
      StageStep (.working ⟨task, .ending exc, .failed e⟩) .joined (.stopped e) []
  | joinedRaised (task : PulledTask) (e : PyErr) (beat : Beat) (h : ∀ f, beat ≠ .failed f) :
      StageStep (.working ⟨task, .ending (some e), beat⟩) .joined (.stopped e) []
  | joined (task : PulledTask) (beat : Beat) (h : ∀ f, beat ≠ .failed f) :
      StageStep (.working ⟨task, .ending none, beat⟩) .joined .pulling [.pull]

section Cases

variable {w : Worker}

theorem pulled_cases (answer : Except PyErr (Option PulledTask)) :
    ∃ stage es, StageStep .pulling (.pulled answer) stage es ∧
      w.pulled answer = w.record stage es := by
  cases answer with
  | error e => exact ⟨_, _, .pullFailed e, rfl⟩
  | ok task? =>
      cases task? with
      | none => exact ⟨_, _, .idle, rfl⟩
      | some task =>
          rw [Worker.pulled]
          by_cases hknown : handlers.contains task.taskType = true
          · rw [if_pos hknown]
            exact ⟨_, _, .start task (List.contains_iff_mem.mp hknown), rfl⟩
          · rw [if_neg hknown]
            refine ⟨_, _, .refuse task fun hmem => hknown ?_, rfl⟩
            exact List.contains_iff_mem.mpr hmem

theorem beatStep_cases {task : PulledTask} {main : MainStage} (beat : Beat) (event : WorkerEvent)
    (hmain : ∀ exc, main ≠ .ending exc) :
    w.beatStep ⟨task, main, beat⟩ event = w ∨
      ∃ stage es, StageStep (.working ⟨task, main, beat⟩) event stage es ∧
        w.beatStep ⟨task, main, beat⟩ event = w.record stage es := by
  cases event with
  | beat =>
      cases beat with
      | waiting => exact .inr ⟨_, _, .beat task main hmain, rfl⟩
      | sending | failed e => exact .inl rfl
  | beatAnswered answer =>
      cases beat with
      | sending =>
          cases answer with
          | ok u => exact .inr ⟨_, _, .beatAccepted task main, rfl⟩
          | error e => exact .inr ⟨_, _, .beatFailed task main e, rfl⟩
      | waiting | failed e => exact .inl rfl
  | pulled _ | handled _ | answered _ | joined | kill => exact .inl rfl

/-- **A step leaves the process as it is or is a `StageStep`.** -/
theorem next_cases (w : Worker) (event : WorkerEvent) :
    w.next event = w ∨
      ∃ stage es, StageStep w.stage event stage es ∧ w.next event = w.record stage es := by
  unfold Worker.next
  cases hstage : w.stage with
  | stopped e | killed => exact .inl rfl
  | pulling =>
      cases event with
      | pulled answer => exact .inr (pulled_cases answer)
      | kill => exact .inr ⟨_, _, .kill _, rfl⟩
      | handled _ | answered _ | beat | beatAnswered _ | joined => exact .inl rfl
  | refusing task =>
      cases event with
      | answered answer =>
          cases answer with
          | ok u => exact .inr ⟨_, _, .refused task, rfl⟩
          | error e => exact .inr ⟨_, _, .refuseFailed task e, rfl⟩
      | kill => exact .inr ⟨_, _, .kill _, rfl⟩
      | pulled _ | handled _ | beat | beatAnswered _ | joined => exact .inl rfl
  | working run =>
      obtain ⟨task, main, beat⟩ := run
      cases main with
      | handling =>
          cases event with
          | handled outcome =>
              cases outcome with
              | ok u => exact .inr ⟨_, _, .returned task beat, rfl⟩
              | error e => exact .inr ⟨_, _, .raised task beat e, rfl⟩
          | kill => exact .inr ⟨_, _, .kill _, rfl⟩
          | pulled _ | answered _ | beat | beatAnswered _ | joined =>
              exact beatStep_cases beat _ fun exc => nofun
      | answering =>
          cases event with
          | answered answer =>
              cases answer with
              | ok u => exact .inr ⟨_, _, .accepted task beat, rfl⟩
              | error e => exact .inr ⟨_, _, .answerFailed task beat e, rfl⟩
          | kill => exact .inr ⟨_, _, .kill _, rfl⟩
          | pulled _ | handled _ | beat | beatAnswered _ | joined =>
              exact beatStep_cases beat _ fun exc => nofun
      | ending exc =>
          cases event with
          | joined =>
              cases beat with
              | failed e => exact .inr ⟨_, _, .joinedFailed task exc e, rfl⟩
              | waiting | sending =>
                  cases exc with
                  | some e => exact .inr ⟨_, _, .joinedRaised task e _ (fun f => nofun), rfl⟩
                  | none => exact .inr ⟨_, _, .joined task _ (fun f => nofun), rfl⟩
          | kill => exact .inr ⟨_, _, .kill _, rfl⟩
          | pulled _ | handled _ | answered _ | beat | beatAnswered _ => exact .inl rfl

end Cases

/-! ## what it says -/

/-- Heartbeats of a task. -/
def beats (task : TaskId) (n : Nat) : List LogEntry := List.replicate n (.heartbeat task)

/-- `_process_task` up to the answer of the broker. -/
inductive Reported (task : PulledTask) : List LogEntry → Prop where
  | unknown (h : task.taskType ∉ handlers) :
      Reported task [.nack task.task (unknownTaskType task.taskType)]
  | ack (h : task.taskType ∈ handlers) (m n : Nat) :
      Reported task (beats task.task m ++ [.returned task.task, .ack task.task] ++
        beats task.task n)
  | nack (h : task.taskType ∈ handlers) (m n : Nat) (exc : PyErr) :
      Reported task (beats task.task m ++ [.raised task.task exc, .nack task.task exc.msg] ++
        beats task.task n)

/-- From one pull to the next. -/
inductive Round : List LogEntry → Prop where
  | idle : Round [.pull]
  | task (task : PulledTask) (entries : List LogEntry) (h : Reported task entries) :
      Round (.pull :: .pulled task :: entries ++ [.accepted task.task])

/-- A part of the log that a round begins with. -/
def Begun (entries : List LogEntry) : Prop := ∃ round, Round round ∧ entries <+: round

/-- What has been said of the round a stage stands in. -/
def Saying (entries : List LogEntry) : WorkerStage → Prop
  | .pulling => entries = [.pull]
  | .refusing task => task.taskType ∉ handlers ∧
      entries = [.pull, .pulled task, .nack task.task (unknownTaskType task.taskType)]
  | .working ⟨task, .handling, _⟩ => task.taskType ∈ handlers ∧
      ∃ n, entries = .pull :: .pulled task :: beats task.task n
  | .working ⟨task, .answering, _⟩ => task.taskType ∈ handlers ∧
      ∃ es, Reported task es ∧ entries = .pull :: .pulled task :: es
  | .working ⟨_, .ending none, _⟩ => Round entries
  | .working ⟨_, .ending (some _), _⟩ | .stopped _ | .killed => Begun entries

/-- The log is a list of rounds and what was said since. -/
def Worker.Logged (w : Worker) : Prop :=
  ∃ (rounds : List (List LogEntry)) (entries : List LogEntry),
    w.log = rounds.flatten ++ entries ∧ (∀ r ∈ rounds, Round r) ∧ Saying entries w.stage

/-! ## every step keeps to it -/

theorem Round.begun {entries : List LogEntry} (h : Round entries) : Begun entries :=
  ⟨entries, h, List.prefix_refl entries⟩

theorem Reported.begun {task : PulledTask} {entries : List LogEntry} (h : Reported task entries) :
    Begun (.pull :: .pulled task :: entries) :=
  ⟨_, Round.task task entries h, List.prefix_append _ _⟩

/-- Another heartbeat. -/
theorem Reported.heartbeat {task : PulledTask} {es : List LogEntry}
    (hknown : task.taskType ∈ handlers) (h : Reported task es) :
    Reported task (es ++ [.heartbeat task.task]) := by
  have hbeats (n : Nat) : beats task.task n ++ [.heartbeat task.task] = beats task.task (n + 1) :=
    (List.replicate_succ' ..).symm
  cases h with
  | unknown hunknown => exact absurd hknown hunknown
  | ack _ m n =>
      rw [List.append_assoc, hbeats]
      exact Reported.ack hknown m (n + 1)
  | nack _ m n exc =>
      rw [List.append_assoc, hbeats]
      exact Reported.nack hknown m (n + 1) exc

/-- What is said of a stage does not depend on the heartbeat's own. -/
theorem saying_beat {entries : List LogEntry} {task : PulledTask} {main : MainStage}
    (beat beat' : Beat) :
    Saying entries (.working ⟨task, main, beat⟩) ↔
      Saying entries (.working ⟨task, main, beat'⟩) := by
  cases main with
  | handling | answering => exact Iff.rfl
  | ending exc => cases exc <;> exact Iff.rfl

/-- While the heartbeat is not cancelled, a heartbeat can be sent. -/
theorem Saying.heartbeat {entries : List LogEntry} {task : PulledTask} {main : MainStage}
    {beat : Beat} (h : Saying entries (.working ⟨task, main, beat⟩))
    (hmain : ∀ exc, main ≠ .ending exc) :
    Saying (entries ++ [.heartbeat task.task]) (.working ⟨task, main, beat⟩) := by
  cases main with
  | handling =>
      obtain ⟨hknown, n, rfl⟩ := h
      refine ⟨hknown, n + 1, ?_⟩
      simp [beats, List.replicate_succ']
  | answering =>
      obtain ⟨hknown, es, hes, rfl⟩ := h
      exact ⟨hknown, _, hes.heartbeat hknown, rfl⟩
  | ending exc => exact absurd rfl (hmain exc)

/-- In every stage a round has begun. -/
theorem begun_of_saying {entries : List LogEntry} {stage : WorkerStage}
    (h : Saying entries stage) : Begun entries := by
  cases stage with
  | pulling => exact h ▸ Round.idle.begun
  | refusing task =>
      obtain ⟨hunknown, rfl⟩ := h
      exact (Reported.unknown hunknown).begun
  | stopped e => exact h
  | killed => exact h
  | working run =>
      obtain ⟨task, main, beat⟩ := run
      cases main with
      | handling =>
          obtain ⟨hknown, n, rfl⟩ := h
          obtain ⟨round, hround, hprefix⟩ := (Reported.ack hknown n 0).begun
          refine ⟨round, hround, List.IsPrefix.trans ?_ hprefix⟩
          rw [List.append_assoc]
          exact List.prefix_append (.pull :: .pulled task :: beats task.task n) _
      | answering =>
          obtain ⟨-, es, hes, rfl⟩ := h
          exact hes.begun
      | ending exc =>
          cases exc with
          | none => exact Round.begun h
          | some e => exact h

section Steps

variable {w : Worker} {rounds : List (List LogEntry)} {entries : List LogEntry}
  (hlog : w.log = rounds.flatten ++ entries) (hrounds : ∀ r ∈ rounds, Round r)

include hlog hrounds

/-- The round goes on. -/
theorem logged_record {stage : WorkerStage} {es : List LogEntry}
    (h : Saying (entries ++ es) stage) : (w.record stage es).Logged :=
  ⟨rounds, entries ++ es, by rw [Worker.record, hlog, List.append_assoc], hrounds, h⟩

/-- Nothing is said, and the round has begun. -/
theorem logged_quiet {stage : WorkerStage} (h : Saying entries stage) :
    (w.record stage []).Logged :=
  logged_record hlog hrounds (by rwa [List.append_nil])

/-- The round is over, and the next begins. -/
theorem logged_pull (es : List LogEntry) (h : Round (entries ++ es)) :
    (w.record .pulling (es ++ [.pull])).Logged := by
  refine ⟨rounds ++ [entries ++ es], [.pull], ?_, ?_, rfl⟩
  · simp [Worker.record, hlog]
  · intro r hr
    obtain hr | hr := List.mem_append.mp hr
    · exact hrounds r hr
    · rwa [List.mem_singleton.mp hr]

end Steps

/-- Every step keeps to the rounds. -/
theorem Worker.Logged.next {w : Worker} (h : w.Logged) (event : WorkerEvent) :
    (w.next event).Logged := by
  obtain hsame | ⟨stage', es, hstep, hnext⟩ := next_cases w event
  · rwa [hsame]
  rw [hnext]
  obtain ⟨rounds, entries, hlog, hrounds, h⟩ := h
  generalize w.stage = stage at h hstep
  have hbegun := begun_of_saying h
  cases hstep with
  | kill | pullFailed e | refuseFailed task e | answerFailed task beat e
  | joinedFailed task exc e | joinedRaised task e beat _ => exact logged_quiet hlog hrounds hbegun
  | idle => exact logged_pull hlog hrounds [] (by rw [h]; exact Round.idle)
  | start task hknown => exact logged_record hlog hrounds ⟨hknown, 0, by rw [h]; rfl⟩
  | refuse task hunknown => exact logged_record hlog hrounds ⟨hunknown, by rw [h]; rfl⟩
  | refused task =>
      obtain ⟨hunknown, rfl⟩ := h
      exact logged_pull hlog hrounds [.accepted task.task]
        (Round.task task _ (Reported.unknown hunknown))
  | returned task beat =>
      obtain ⟨hknown, n, rfl⟩ := h
      refine logged_record hlog hrounds ⟨hknown, _, Reported.ack hknown n 0, ?_⟩
      simp [beats]
  | raised task beat e =>
      obtain ⟨hknown, n, rfl⟩ := h
      refine logged_record hlog hrounds ⟨hknown, _, Reported.nack hknown n 0 e, ?_⟩
      simp [beats]
  | accepted task beat =>
      obtain ⟨-, es, hes, rfl⟩ := h
      exact logged_record hlog hrounds (Round.task task es hes)
  | beat task main hmain =>
      exact logged_record hlog hrounds ((saying_beat .waiting .sending).mp (h.heartbeat hmain))
  | beatAccepted task main =>
      exact logged_quiet hlog hrounds ((saying_beat .sending .waiting).mp h)
  | beatFailed task main e =>
      exact logged_quiet hlog hrounds ((saying_beat .sending (.failed e)).mp h)
  | joined task beat _ =>
      exact logged_pull hlog hrounds [] (by rw [List.append_nil]; exact h)

/-- **What a worker tells its broker.**  In every run, whatever the broker
answers, whichever requests and handlers fail, wherever the heartbeats fall and
whenever the process is killed, the worker has said some rounds and the
beginning of another: each task it has pulled is answered once, with `ack` only
when its handler has returned and with `nack` and the handler's own text only
when it has raised, heartbeats are for the task in hand and come before its
answer is accepted, and the next pull comes after that. -/
theorem log_prefix_rounds (events : List WorkerEvent) :
    ∃ rounds : List (List LogEntry), (∀ r ∈ rounds, Round r) ∧
      (Machine.run Worker.next {} events).log <+: rounds.flatten := by
  have hstart : Worker.Logged {} := ⟨[], [.pull], rfl, nofun, rfl⟩
  obtain ⟨rounds, entries, hlog, hrounds, hsaying⟩ :=
    Machine.run_invariant (I := Worker.Logged) (fun _ event h => h.next event) hstart events
  obtain ⟨round, hround, hprefix⟩ := begun_of_saying hsaying
  refine ⟨rounds ++ [round], ?_, ?_⟩
  · intro r hr
    obtain hr | hr := List.mem_append.mp hr
    · exact hrounds r hr
    · rwa [List.mem_singleton.mp hr]
  · rw [hlog, List.flatten_append, List.flatten_singleton]
    exact (List.prefix_append_right_inj _).mpr hprefix

/-! ## what ends it -/

/-- The exception of a request to the broker. -/
def WorkerEvent.brokerError : WorkerEvent → Option PyErr
  | .pulled (.error e) | .answered (.error e) | .beatAnswered (.error e) => some e
  | _ => none

/-- The exceptions that end the process, or will. -/
def WorkerStage.Pending (e : PyErr) : WorkerStage → Prop
  | .working run => run.beat = .failed e ∨ run.main = .ending (some e)
  | .stopped exc => exc = e
  | _ => False

/-- An exception that is new came from the broker. -/
theorem pending_next {w : Worker} {event : WorkerEvent} {e : PyErr}
    (h : (w.next event).stage.Pending e) : w.stage.Pending e ∨ event.brokerError = some e := by
  obtain hsame | ⟨stage', es, hstep, hnext⟩ := next_cases w event
  · rw [hsame] at h
    exact .inl h
  rw [hnext] at h
  simp only [Worker.record] at h
  generalize w.stage = stage at hstep
  cases hstep with
  | kill | idle | refuse task _ | refused task | joined task beat _ => exact absurd h id
  | pullFailed exc | refuseFailed task exc => exact .inr (congrArg some h)
  | start task _ => simp [WorkerStage.Pending] at h
  | joinedFailed task exc f => exact .inl (.inl (congrArg Beat.failed h))
  | joinedRaised task f beat _ =>
    exact .inl (.inr (congrArg (fun g => MainStage.ending (some g)) h))
  | returned task beat | raised task beat _ | accepted task beat =>
      obtain hbeat | hmain := h
      · exact .inl (.inl hbeat)
      · cases hmain
  | answerFailed task beat f =>
      obtain hbeat | hmain := h
      · exact .inl (.inl hbeat)
      · cases hmain
        exact .inr rfl
  | beat task main _ | beatAccepted task main =>
      obtain hbeat | hmain := h
      · cases hbeat
      · exact .inl (.inr hmain)
  | beatFailed task main f =>
      obtain hfailed | hmain := h
      · cases hfailed
        exact .inr rfl
      · exact .inl (.inr hmain)

theorem pending_run {w : Worker} {events : List WorkerEvent} {e : PyErr}
    (h : (Machine.run Worker.next w events).stage.Pending e) :
    w.stage.Pending e ∨ ∃ event ∈ events, event.brokerError = some e := by
  induction events generalizing w with
  | nil => exact .inl h
  | cons event events ih =>
      obtain hpending | ⟨event', hmem, herror⟩ := ih h
      · obtain hbefore | herror := pending_next hpending
        · exact .inl hbefore
        · exact .inr ⟨event, List.mem_cons_self, herror⟩
      · exact .inr ⟨event', List.mem_cons_of_mem event hmem, herror⟩

/-- **What ends a worker.**  The exception that ends the process is that of a
request to the broker: of `pull`, `ack`, `nack`, or of a heartbeat, whose
exception is kept until the task in hand has been answered.  No exception of a
handler ends it. -/
theorem stopped_by_broker (events : List WorkerEvent) (e : PyErr)
    (h : (Machine.run Worker.next {} events).stage = .stopped e) :
    ∃ event ∈ events, event.brokerError = some e := by
  have hpending : (Machine.run Worker.next {} events).stage.Pending e := by
    rw [h]
    exact rfl
  obtain hstart | herror := pending_run hpending
  · exact absurd hstart id
  · exact herror

/-- A heartbeat fails, the handler raises after it, its `nack` is accepted, and
the process ends with the exception of the heartbeat. -/
def lateBeat : List WorkerEvent :=
  [.pulled (.ok (some ⟨1, "config.initialize", 0⟩)), .beat,
    .beatAnswered (.error ⟨.other "ReadTimeout", ""⟩), .handled (.error ⟨.valueError, "no"⟩),
    .answered (.ok ()), .joined]

theorem stopped_lateBeat :
    (Machine.run Worker.next {} lateBeat).stage = .stopped ⟨.other "ReadTimeout", ""⟩ ∧
      ∃ event ∈ lateBeat, event.brokerError = some ⟨.other "ReadTimeout", ""⟩ :=
  ⟨by decide, stopped_by_broker lateBeat ⟨.other "ReadTimeout", ""⟩ (by decide)⟩

end VpnPanel
