import VpnPanel.VpnSystemctl
import VpnPanel.Lib.Dict
import VpnPanel.Lib.Poll
import VpnPanel.Lib.PyRegex

/-!
# VpnPanel.ServiceReady

The wait for a service to come up, `wait_for_service_ready`: attempts one after
the other until one succeeds, the unit is reported failed, or the longest wait
is over.  An attempt polls the unit, either in the panel itself or, where
`VPN_SYSTEMCTL_CMD` is the root wrapper, by its action `wait-ready`.

What `systemctl` and `journalctl` print, and how long they run, is any function
of the time; a tick is a millisecond.  `sudo` may hand the three variables of
`wait-ready` on to the wrapper or drop them, as it does by default.
-/

namespace VpnPanel

open Timed

/-! ## the programs that are run -/

/-- Ticks of a second. -/
def second : Nat := 1000

/-- What is asked about a unit. -/
inductive ReadyCall where
  | isFailed | showProps | isActive | showSubState
  | journal (lines : Nat)
  deriving DecidableEq, Repr

/-- The command line `subprocess.run` is given. -/
def ReadyCall.command (serviceName : String) : ReadyCall → List String
  | isFailed => ["systemctl", "is-failed", serviceName]
  | showProps =>
      ["systemctl", "show", serviceName, "-p", "ActiveState", "-p", "SubState", "-p", "Result"]
  | isActive => ["systemctl", "is-active", serviceName]
  | showSubState => ["systemctl", "show", "-p", "SubState", "--value", serviceName]
  | journal lines => ["journalctl", "-u", serviceName, "-n", toString lines, "--no-pager"]

/-- `timeout=` of the call. -/
def ReadyCall.limit : ReadyCall → Nat
  | journal _ => 15
  | _ => 10

/-- How a program ended, and after how many ticks. -/
structure Ran where
  takes : Nat
  stdout : String := ""
  stderr : String := ""
  returncode : Nat := 0
  deriving DecidableEq, Repr

/-- What the wait runs against. -/
structure ReadyEnv where
  /-- The answer to a call about a unit that starts at a time. -/
  run : String → ReadyCall → Nat → Ran
  takes_pos : ∀ name call t, 0 < (run name call t).takes
  /-- A process cannot be started. -/
  spawn : Nat → Option PyErr
  /-- `grep -qiE pattern` finds a line of the text. -/
  grep : String → String → Bool
  /-- `c.isalnum()` outside ASCII. -/
  alnum : Char → Bool
  /-- `VPN_SYSTEMCTL_CMD` -/
  systemctlCmd : Option String
  /-- `_systemctl_command`: its words. -/
  systemctlCommand : List String
  /-- `sudo` hands the variables of `wait-ready` on. -/
  keepsVars : Bool
  /-- The environment of the wrapper. -/
  wrapper : WrapperEnv

/-- `SystemdSettings` with its readiness fields; the settle time is in ticks. -/
structure ReadySettings extends SystemdSettings where
  serviceReadyTimeoutSeconds : Nat := 30
  serviceReadySettle : Nat := 2000
  serviceReadyMaxWaitSeconds : Nat := 600
  timeout_bounds : 5 ≤ serviceReadyTimeoutSeconds ∧ serviceReadyTimeoutSeconds ≤ 120 := by decide
  settle_bound : serviceReadySettle ≤ 10 * second := by decide
  maxWait_bounds :
    30 ≤ serviceReadyMaxWaitSeconds ∧ serviceReadyMaxWaitSeconds ≤ 3600 := by decide

/-- `subprocess.TimeoutExpired` -/
def timeoutExpired (command : List String) (limit : Nat) : PyErr :=
  ⟨.timeoutExpired, "Command '" ++ (PyVal.list (command.map .str)).repr ++ "' timed out after " ++
    toString limit ++ " seconds"⟩

/-- `subprocess.run(command, timeout=limit, check=False)` for a program that
answers `answer` when it starts at a time. -/
def ReadyEnv.subprocess (env : ReadyEnv) (command : List String) (limit : Nat)
    (answer : Nat → Ran) : Timed PyErr Ran := do
  let t ← now
  match env.spawn t with
  | some e => Eff.raise e
  | none =>
      if (answer t).takes ≤ limit * second then do
        sleep (answer t).takes
        pure (answer t)
      else do
        sleep (limit * second)
        Eff.raise (timeoutExpired command limit)

/-- A call of the panel. -/
def ReadyEnv.call (env : ReadyEnv) (name : String) (call : ReadyCall) : Timed PyErr Ran :=
  env.subprocess (call.command name) call.limit (env.run name call)

/-! ## what is read off their output -/

def isLineBreak (c : Char) : Bool :=
  ['\n', '\r', '\x0b', '\x0c', '\x1c', '\x1d', '\x1e', '\u0085', '\u2028', '\u2029'].contains c

/-- `str.splitlines`, the current line read so far first. -/
def splitLinesFrom : List Char → List Char → List (List Char)
  | line, [] => if line = [] then [] else [line.reverse]
  | line, '\r' :: '\n' :: rest => line.reverse :: splitLinesFrom [] rest
  | line, c :: rest =>
      if isLineBreak c then line.reverse :: splitLinesFrom [] rest
      else splitLinesFrom (c :: line) rest

/-- The properties of the loop in `_systemd_show`. -/
def showProps (stdout : String) : List (String × String) :=
  (splitLinesFrom [] stdout.toList).filterMap fun line =>
    if '=' ∈ line then
      some (String.ofList (line.takeWhile (· ≠ '=')),
        String.ofList ((line.dropWhile (· ≠ '=')).drop 1))
    else none

/-- `props.get(key, "")` -/
def propOf (props : List (String × String)) (key : String) : String := (lastWins key props).getD ""

/-- `_FAILED_RESULTS` -/
def failedResults : List String := ["exit-code", "signal", "core-dump", "timeout"]

/-- What `_systemd_start_failed` makes of the properties. -/
def startFailedProps (props : List (String × String)) : Bool :=
  let activeState := propOf props "ActiveState"
  if activeState = "failed" then true
  else if ["activating", "active", "reloading"].contains activeState then false
  else failedResults.contains (propOf props "Result")

/-- `stdout.strip() == word` -/
def Ran.answers (ran : Ran) (word : String) : Bool := PyStr.strip ran.stdout = word

/-! ## startup markers -/

/-- A letter of a pattern under `re.IGNORECASE`; the long s and the dotless and
dotted i are cases of s and i. -/
def ignoreCase (c : Char) : PyRegex :=
  .char fun x => x = c || x.toLower = c || (c = 's' && x = 'ſ') ||
    (c = 'i' && (x = 'ı' || x = 'İ'))

def literal : Char → List Char → PyRegex
  | c, [] => ignoreCase c
  | c, d :: ds => .seq (ignoreCase c) (literal d ds)

/-- `\w` -/
def isWordChar (alnum : Char → Bool) (c : Char) : Bool :=
  if c.toNat < 128 then c.isAlphanum || c = '_' else alnum c

/-- `pattern.search(text) is not None` -/
def searches (r : PyRegex) (text : String) : Bool :=
  PyRegex.isMatch (.seq (.star (.char fun _ => true)) r) text.toList

/-- `\bstarted\b`: the word begins and ends with a letter. -/
def startedWord (alnum : Char → Bool) : PyRegex :=
  .seq (.notBehind (isWordChar alnum))
    (.seq (literal 's' "tarted".toList) (.notLook (.char (isWordChar alnum))))

/-- `_STARTUP_PATTERNS`: what is searched for. -/
def startupMarker (alnum : Char → Bool) (log : String) : ConfigProfile → Bool
  | .xrayReality | .xrayGrpc | .xrayXhttp => searches (startedWord alnum) log
  | .hysteria2 =>
      searches (literal 'l' "istening".toList) log ||
        searches (literal 's' "erver up".toList) log || searches (literal 's' "tarted".toList) log

/-- `startup_log_pattern` -/
def startupLogPattern : ConfigProfile → String
  | .xrayReality | .xrayGrpc | .xrayXhttp => "\\bstarted\\b"
  | .hysteria2 => "listening|server up|started"

/-! ## the wait -/

section Wait

variable (env : ReadyEnv) (settings : ReadySettings) (profile : ConfigProfile) (name : String)

def usesVpnSystemctlWrapper : Bool :=
  match env.systemctlCmd with
  | some cmd => cmd.toList.tails.any ("vpn-systemctl".toList.isPrefixOf ·)
  | none => false

def serviceManagedByWrapper : Bool :=
  (settings.servicePrefix ++ "-").toList.isPrefixOf name.toList

def runJournalctl (lines : Nat) : Timed PyErr String := do
  let result ← env.call name (.journal lines)
  pure (result.stdout ++ result.stderr)

def journalHasStartupMarker : Timed PyErr Bool := do
  let log ← runJournalctl env name 40
  pure (startupMarker env.alnum log profile)

def systemdRunning : Timed PyErr Bool := do
  let active ← env.call name .isActive
  if active.answers "active" then do
    let state ← env.call name .showSubState
    pure (state.answers "running")
  else pure false

def systemdStartFailed : Timed PyErr Bool := do
  let failed ← env.call name .isFailed
  if failed.answers "failed" then pure true
  else do
    let props ← env.call name .showProps
    pure (startFailedProps (showProps props.stdout))

/-- `ServiceNotReadyError` -/
def notReady (msg : String) : PyErr := ⟨.other "ServiceNotReadyError", msg⟩

def isNotReady (e : PyErr) : Bool := e.kind = .other "ServiceNotReadyError"

def raiseServiceFailed : Timed PyErr Unit := do
  let tail ← runJournalctl env name 20
  Eff.raise (notReady ("Service " ++ name ++ " failed during startup. Recent log:\n" ++ tail))

/-- `if _systemd_start_failed(...): _raise_service_failed(...)` -/
def checkStartFailed : Timed PyErr Unit := do
  let failed ← systemdStartFailed env name
  if failed then raiseServiceFailed env name else pure ()

/-- The end of a round: the loop is left, or a second passes. -/
def endRound {ε : Type} (ready : Bool) : Timed ε (Unit ⊕ Unit) :=
  if ready then pure (.inr ())
  else do
    sleep second
    pure (.inl ())

/-- What a round of `_wait_direct_once` does once the unit runs. -/
def confirmRunning : Timed PyErr Bool := do
  sleep settings.serviceReadySettle
  checkStartFailed env name
  let running ← systemdRunning env name
  if running then journalHasStartupMarker env profile name else pure false

def directReady : Timed PyErr Bool := do
  let running ← systemdRunning env name
  if running then confirmRunning env settings profile name else pure false

def directRound : Timed PyErr (Unit ⊕ Unit) := do
  checkStartFailed env name
  let ready ← directReady env settings profile name
  endRound ready

def waitDirectOnce : Timed PyErr Bool := do
  let r ← pollFor (settings.serviceReadyTimeoutSeconds * second)
    (fun _ _ => directRound env settings profile name) ()
  pure r.isRight

end Wait

/-! ## `wait-ready` of the wrapper -/

/-- The variables the action reads; the settle time is in ticks. -/
structure ReadyVars where
  timeout : Nat := 30
  settle : Nat := 2000
  pattern : String := "started|listening"
  deriving DecidableEq, Repr

/-- A run of the script that has not ended with status 0: its status and what
it has written to the error stream. -/
structure ExitStatus where
  code : Nat
  stderr : String := ""
  deriving DecidableEq, Repr

section Script

variable (env : ReadyEnv) (vars : ReadyVars) (name : String)

/-- A command of the script. -/
def ReadyEnv.shell (name : String) (call : ReadyCall) : Timed ExitStatus Ran := do
  let t ← now
  sleep (env.run name call t).takes
  pure (env.run name call t)

/-- `$(...)` drops the line feeds at the end. -/
def Ran.substituted (ran : Ran) : String :=
  String.ofList (PyStr.dropRight (· = '\n') ran.stdout.toList)

/-- `is-active --quiet`, then the sub-state; `set -e` ends the script when the
latter cannot be had. -/
def scriptRunning : Timed ExitStatus Bool := do
  let active ← env.shell name .isActive
  if active.returncode = 0 then do
    let state ← env.shell name .showSubState
    if state.returncode = 0 then pure (state.substituted = "running")
    else Eff.raise ⟨state.returncode, state.stderr⟩
  else pure false

/-- `journalctl ... | grep -qiE "${LOG_PATTERN}"` under `pipefail`. -/
def scriptMarker : Timed ExitStatus Bool := do
  let log ← env.shell name (.journal 40)
  pure (env.grep vars.pattern log.stdout && log.returncode = 0)

def scriptConfirm : Timed ExitStatus Bool := do
  sleep vars.settle
  let running ← scriptRunning env name
  if running then scriptMarker env vars name else pure false

def scriptReady : Timed ExitStatus Bool := do
  let running ← scriptRunning env name
  if running then scriptConfirm env vars name else pure false

def scriptRound : Timed ExitStatus (Unit ⊕ Unit) := do
  let ready ← scriptReady env vars name
  endRound ready

/-- The loop `while (( SECONDS < deadline ))`: the shell counts whole seconds
of the clock. -/
def scriptDeadline (t : Nat) : Nat := (t / second + vars.timeout) * second

def waitReadyScript : Timed ExitStatus Unit :=
  if env.wrapper.accepts name then do
    let t ← now
    let r ← poll (scriptDeadline vars t) (fun _ => scriptRound env vars name) ()
    match r with
    | .inr () => pure ()
    | .inl () => do
        let log ← env.shell name (.journal 20)
        Eff.raise ⟨1, "Service " ++ name ++ " did not become ready within " ++
          toString vars.timeout ++ "s\n" ++ log.stdout ++ log.stderr⟩
  else Eff.raise ⟨1, "Service name must start with " ++ env.wrapper.pre ++ "\n"⟩

/-- The script as a program that starts at `t`. -/
def waitReadyRan (t : Nat) : Ran :=
  match (waitReadyScript env vars name).exec t with
  | (.ok (), t') => { takes := t' - t }
  | (.error status, t') =>
      { takes := t' - t, stderr := status.stderr, returncode := status.code }

end Script

section Wait

variable (env : ReadyEnv) (settings : ReadySettings) (profile : ConfigProfile) (name : String)

/-- The variables `wait-ready` finds. -/
def readyVars : ReadyVars :=
  if env.keepsVars then
    { timeout := settings.serviceReadyTimeoutSeconds
      settle := settings.serviceReadySettle
      pattern := startupLogPattern profile }
  else {}

/-- `wait-ready` did not end with status 0. -/
def raiseNotReady (result : Ran) : Timed PyErr Unit := do
  checkStartFailed env name
  let detail := PyStr.strip (if result.stderr = "" then result.stdout else result.stderr)
  Eff.raise (notReady ("Service " ++ name ++ " not ready after " ++
    toString settings.serviceReadyTimeoutSeconds ++ "s: " ++
    if detail = "" then "wait-ready failed" else detail))

def waitViaWrapperOnce : Timed PyErr Unit := do
  let result ← env.subprocess (env.systemctlCommand ++ ["wait-ready", name])
    (settings.serviceReadyTimeoutSeconds + 20)
    (waitReadyRan env (readyVars env settings profile) name)
  if result.returncode = 0 then pure () else raiseNotReady env settings name result

def useWrapper : Bool :=
  usesVpnSystemctlWrapper env && serviceManagedByWrapper settings name

/-- The body of the `try`: `inr` is `return`, `inl` the next `last_detail`. -/
def readyAttempt : Timed PyErr (String ⊕ Unit) :=
  if useWrapper env settings name then do
    waitViaWrapperOnce env settings profile name
    pure (.inr ())
  else do
    let ready ← waitDirectOnce env settings profile name
    if ready then pure (.inr ())
    else pure (.inl ("not ready after " ++ toString settings.serviceReadyTimeoutSeconds ++
      "s chunk"))

/-- `except ServiceNotReadyError as exc` -/
def readyExcept (maxDeadline : Nat) (exc : PyErr) : Timed PyErr (String ⊕ Unit) := do
  let failed ← systemdStartFailed env name
  if failed then Eff.raise exc
  else do
    let t ← now
    if maxDeadline ≤ t then Eff.raise exc else pure (.inl exc.msg)

def readyRound (maxDeadline : Nat) : Timed PyErr (String ⊕ Unit) := do
  checkStartFailed env name
  Eff.catching isNotReady (readyAttempt env settings profile name)
    (readyExcept env name maxDeadline)

/-- The longest wait is over. -/
def raiseTooLate (lastDetail : String) : Timed PyErr Unit := do
  let tail ← runJournalctl env name 20
  Eff.raise (notReady ("Service " ++ name ++ " did not become ready within " ++
    toString settings.serviceReadyMaxWaitSeconds ++ "s (" ++
    toString settings.serviceReadyTimeoutSeconds ++ "s per attempt). " ++ lastDetail ++
    ". Recent log:\n" ++ tail))

/-- `wait_for_service_ready` -/
def waitForServiceReady : Timed PyErr Unit := do
  let r ← pollFor (settings.serviceReadyMaxWaitSeconds * second)
    (fun maxDeadline _ => readyRound env settings profile name maxDeadline) ""
  match r with
  | .inr () => pure ()
  | .inl lastDetail => raiseTooLate env settings name lastDetail

end Wait

/-! ## how long the parts take -/

section Time

variable {env : ReadyEnv} {settings : ReadySettings} {profile : ConfigProfile} {name : String}
  {vars : ReadyVars}

theorem exec_subprocess_of_some {command : List String} {limit t : Nat} {answer : Nat → Ran}
    {e : PyErr} (hspawn : env.spawn t = some e) :
    (env.subprocess command limit answer).exec t = (.error e, t) := by
  rw [ReadyEnv.subprocess, Eff.exec_bind_ok (exec_now t), hspawn]
  rfl

theorem exec_subprocess_of_none {command : List String} {limit t : Nat} {answer : Nat → Ran}
    (hspawn : env.spawn t = none) : (env.subprocess command limit answer).exec t =
      if (answer t).takes ≤ limit * second then (.ok (answer t), t + (answer t).takes)
      else (.error (timeoutExpired command limit), t + limit * second) := by
  rw [ReadyEnv.subprocess, Eff.exec_bind_ok (exec_now t), hspawn]
  by_cases hlimit : (answer t).takes ≤ limit * second
  · simp only [hlimit, if_true, Eff.exec_bind, exec_sleep, Eff.exec_pure]
  · simp only [hlimit, if_false, Eff.exec_bind, exec_sleep, Eff.exec_raise]

theorem exec_subprocess_of_le {command : List String} {limit t : Nat} {answer : Nat → Ran}
    (hspawn : env.spawn t = none) (hle : (answer t).takes ≤ limit * second) :
    (env.subprocess command limit answer).exec t = (.ok (answer t), t + (answer t).takes) := by
  rw [exec_subprocess_of_none hspawn, if_pos hle]

theorem exec_subprocess_ok {command : List String} {limit t t' : Nat} {answer : Nat → Ran}
    {ran : Ran} (hx : (env.subprocess command limit answer).exec t = (.ok ran, t')) :
    ran = answer t ∧ t' = t + (answer t).takes := by
  cases hspawn : env.spawn t with
  | some e =>
      rw [exec_subprocess_of_some hspawn] at hx
      cases hx
  | none =>
      rw [exec_subprocess_of_none hspawn] at hx
      by_cases hlimit : (answer t).takes ≤ limit * second
      · simpa [hlimit, eq_comm] using hx
      · simp [hlimit] at hx

theorem exec_call_ok {call : ReadyCall} {t t' : Nat} {ran : Ran}
    (hx : (env.call name call).exec t = (.ok ran, t')) :
    ran = env.run name call t ∧ t' = t + (env.run name call t).takes :=
  exec_subprocess_ok hx

variable (env settings profile name)

theorem lasts_subprocess (command : List String) (limit : Nat) (answer : Nat → Ran) :
    Lasts (limit * second) (env.subprocess command limit answer) := by
  intro t
  cases hspawn : env.spawn t with
  | some e =>
      rw [exec_subprocess_of_some hspawn]
      exact ⟨Nat.le_refl t, Nat.le_add_right t _⟩
  | none =>
      rw [exec_subprocess_of_none hspawn]
      by_cases hlimit : (answer t).takes ≤ limit * second <;> simp [hlimit]

theorem lasts_call (call : ReadyCall) : Lasts (call.limit * second) (env.call name call) :=
  lasts_subprocess env _ _ _

theorem advances_call (call : ReadyCall) : Advances (env.call name call) := by
  intro t ran t' hx
  have hpos := env.takes_pos name call t
  have htime := (exec_call_ok hx).2
  omega

theorem lasts_runJournalctl (lines : Nat) : Lasts (15 * second) (runJournalctl env name lines) :=
  ((lasts_call env name (.journal lines)).bind fun _ => Lasts.pure _).mono (Nat.le_refl _)

theorem lasts_journalHasStartupMarker :
    Lasts (15 * second) (journalHasStartupMarker env profile name) :=
  ((lasts_runJournalctl env name 40).bind fun _ => Lasts.pure _).mono (Nat.le_refl _)

theorem lasts_systemdRunning : Lasts (20 * second) (systemdRunning env name) := by
  have hstate (active : Ran) := Lasts.ite (c := active.answers "active" = true)
    ((lasts_call env name .showSubState).bind fun state => Lasts.pure (state.answers "running"))
    (Lasts.pure false)
  exact ((lasts_call env name .isActive).bind hstate).mono (by decide)

theorem lasts_afterIsFailed (failed : Ran) :
    Lasts (10 * second) (if failed.answers "failed" then pure true else do
      let props ← env.call name .showProps
      pure (startFailedProps (showProps props.stdout)) : Timed PyErr Bool) :=
  (Lasts.ite (Lasts.pure _) ((lasts_call env name .showProps).bind fun _ => Lasts.pure _)).mono
    (by decide)

theorem lasts_systemdStartFailed : Lasts (20 * second) (systemdStartFailed env name) :=
  ((lasts_call env name .isFailed).bind (lasts_afterIsFailed env name)).mono (by decide)

theorem lasts_raiseServiceFailed : Lasts (15 * second) (raiseServiceFailed env name) :=
  ((lasts_runJournalctl env name 20).bind fun _ => Lasts.raise _).mono (by decide)

theorem lasts_checkStartFailed : Lasts (35 * second) (checkStartFailed env name) :=
  ((lasts_systemdStartFailed env name).bind fun _ =>
    Lasts.ite (lasts_raiseServiceFailed env name) (Lasts.pure ())).mono (by decide)

theorem advances_systemdStartFailed : Advances (systemdStartFailed env name) :=
  (advances_call env name .isFailed).bind fun failed =>
    (lasts_afterIsFailed env name failed).forward

theorem advances_checkStartFailed : Advances (checkStartFailed env name) :=
  (advances_systemdStartFailed env name).bind fun _ =>
    (Lasts.ite (lasts_raiseServiceFailed env name) (Lasts.pure ())).forward

theorem lasts_confirmRunning : Lasts (settings.serviceReadySettle + 70 * second)
    (confirmRunning env settings profile name) := by
  have hmarker (running : Bool) := Lasts.ite (c := running = true)
    (lasts_journalHasStartupMarker env profile name) (Lasts.pure false)
  have hchecked := (lasts_checkStartFailed env name).bind fun _ =>
    (lasts_systemdRunning env name).bind hmarker
  exact (Lasts.sleep.bind fun _ => hchecked).mono
    (Nat.add_le_add_left (by decide) settings.serviceReadySettle)

theorem lasts_endRound {ε : Type} (ready : Bool) :
    Lasts second (endRound ready : Timed ε (Unit ⊕ Unit)) :=
  (Lasts.ite (Lasts.pure _) (Lasts.sleep.bind fun _ => Lasts.pure _)).mono (by decide)

theorem lasts_directReady : Lasts (settings.serviceReadySettle + 90 * second)
    (directReady env settings profile name) := by
  have hconfirm (running : Bool) := Lasts.ite (c := running = true)
    (lasts_confirmRunning env settings profile name) (Lasts.pure false)
  refine ((lasts_systemdRunning env name).bind hconfirm).mono ?_
  simp only [second]
  omega

theorem lasts_directRound : Lasts (settings.serviceReadySettle + 126 * second)
    (directRound env settings profile name) := by
  have hready := (lasts_directReady env settings profile name).bind fun ready =>
    lasts_endRound (ε := PyErr) ready
  refine ((lasts_checkStartFailed env name).bind fun _ => hready).mono ?_
  simp only [second]
  omega

theorem advances_directRound : Advances (directRound env settings profile name) :=
  (advances_checkStartFailed env name).bind fun _ =>
    ((lasts_directReady env settings profile name).bind lasts_endRound).forward

theorem lasts_waitDirectOnce : Lasts (settings.serviceReadyTimeoutSeconds * second +
    (settings.serviceReadySettle + 126 * second)) (waitDirectOnce env settings profile name) := by
  have hloop := lasts_pollFor (settings.serviceReadyTimeoutSeconds * second)
    (fun _ _ => advances_directRound env settings profile name)
    (fun _ _ => lasts_directRound env settings profile name) ()
  exact (hloop.bind fun _ => Lasts.pure _).mono (Nat.le_of_eq (Nat.add_zero _))

theorem lasts_raiseNotReady (result : Ran) :
    Lasts (35 * second) (raiseNotReady env settings name result) :=
  ((lasts_checkStartFailed env name).bind fun _ => Lasts.raise _).mono (by decide)

theorem lasts_waitViaWrapperOnce :
    Lasts (settings.serviceReadyTimeoutSeconds * second + 55 * second)
      (waitViaWrapperOnce env settings profile name) := by
  refine ((lasts_subprocess env _ _ _).bind fun result => Lasts.ite (Lasts.pure ())
    (lasts_raiseNotReady env settings name result)).mono ?_
  simp only [second]
  omega

theorem lasts_readyAttempt : Lasts (settings.serviceReadyTimeoutSeconds * second +
    (settings.serviceReadySettle + 126 * second)) (readyAttempt env settings profile name) := by
  have hwrapper := (lasts_waitViaWrapperOnce env settings profile name).bind fun _ =>
    Lasts.pure (ε := PyErr) (α := String ⊕ Unit) (.inr ())
  have hdirect := (lasts_waitDirectOnce env settings profile name).bind fun ready =>
    Lasts.ite (c := ready = true) (Lasts.pure (ε := PyErr) (α := String ⊕ Unit) (.inr ()))
      (Lasts.pure (.inl ("not ready after " ++ toString settings.serviceReadyTimeoutSeconds ++
        "s chunk")))
  exact (Lasts.ite hwrapper hdirect).mono (by simp only [second]; omega)

theorem lasts_readyExcept (maxDeadline : Nat) (exc : PyErr) :
    Lasts (20 * second) (readyExcept env name maxDeadline exc) :=
  ((lasts_systemdStartFailed env name).bind fun _ => Lasts.ite (Lasts.raise exc)
    (Lasts.now.bind fun _ => Lasts.ite (Lasts.raise exc) (Lasts.pure _))).mono (by decide)

/-- Ticks of an attempt with the checks around it. -/
def attemptTicks : Nat :=
  settings.serviceReadyTimeoutSeconds * second + settings.serviceReadySettle + 181 * second

theorem lasts_readyRound (maxDeadline : Nat) :
    Lasts (attemptTicks settings) (readyRound env settings profile name maxDeadline) :=
  ((lasts_checkStartFailed env name).bind fun _ =>
    (lasts_readyAttempt env settings profile name).catching
      (lasts_readyExcept env name maxDeadline)).mono (by simp only [attemptTicks, second]; omega)

theorem advances_readyRound (maxDeadline : Nat) :
    Advances (readyRound env settings profile name maxDeadline) :=
  (advances_checkStartFailed env name).bind fun _ =>
    ((lasts_readyAttempt env settings profile name).catching
      (lasts_readyExcept env name maxDeadline)).forward

end Time

end VpnPanel
