import VpnPanel.ReadyWait

/-!
# VpnPanel.ReadyProgress

A unit that comes up in time is found ready.

Where every call answers within `n` ticks, the unit is never reported failed
and is up from some time on (`ComesUp`), the wait returns when a whole round of
it can still start after that time, on either way of waiting
(`waitForServiceReady_of_ready`).
-/

namespace VpnPanel

open Timed

open Reading (lookEnd)

variable {env : ReadyEnv} {settings : ReadySettings} {profile : ConfigProfile} {name : String}
  {vars : ReadyVars} {t t' : Nat}

/-! ## a unit that comes up -/

/-- Every call starts, and answers within `n` ticks. -/
structure Responsive (env : ReadyEnv) (name : String) (n : Nat) : Prop where
  spawn : ∀ t, env.spawn t = none
  takes : ∀ call t, (env.run name call t).takes ≤ n

/-- The unit is never reported failed, and from `ready` on every call sees it
running and marked. -/
structure ComesUp (env : ReadyEnv) (name : String) (rd : Reading) (ready : Nat) : Prop where
  is_failed : ∀ t, (env.run name .isFailed t).answers "failed" = false
  props : ∀ t, startFailedProps (showProps (env.run name .showProps t).stdout) = false
  up : ∀ t, ready ≤ t → rd.up (env.run name .isActive t) = true
  running : ∀ t, ready ≤ t → rd.running (env.run name .showSubState t) = true
  marked : ∀ t, ready ≤ t → rd.marked (env.run name (.journal 40) t) = true

section Progress

variable {n ready : Nat} {rd : Reading}

section Calls

variable (hresp : Responsive env name n) (hlimit : n ≤ 10 * second)

include hresp hlimit

theorem gives_call (call : ReadyCall) (t : Nat) :
    Gives n (env.call name call) t fun ran => ran = env.run name call t := by
  have hle := hresp.takes call t
  have hcall : (env.run name call t).takes ≤ call.limit * second := by
    cases call <;> simp only [ReadyCall.limit, second] at hlimit ⊢ <;> omega
  exact ⟨env.run name call t, t + (env.run name call t).takes,
    exec_subprocess_of_le (hresp.spawn t) hcall,
    by omega, by omega, rfl⟩

variable (name) in
theorem gives_systemdStartFailed (hup : ComesUp env name rd ready) (t : Nat) :
    Gives (n + n) (systemdStartFailed env name) t (· = false) := by
  refine (gives_call hresp hlimit .isFailed t).bind fun failed s hfailed _ => ?_
  rw [hfailed, hup.is_failed, if_neg Bool.false_ne_true]
  refine ((gives_call hresp hlimit .showProps s).bind fun props s' hprops _ =>
    Gives.pure ?_).mono (Nat.le_refl _) fun _ h => h
  rw [hprops, hup.props]

variable (name) in
theorem gives_checkStartFailed (hup : ComesUp env name rd ready) (t : Nat) :
    Gives (n + n) (checkStartFailed env name) t fun _ => True := by
  refine ((gives_systemdStartFailed name hresp hlimit hup t).bind fun failed s hfailed _ => ?_).mono
    (Nat.le_refl (n + n + 0)) fun _ h => h
  rw [hfailed, if_neg Bool.false_ne_true]
  exact Gives.pure trivial

end Calls

section Direct

variable (name) (hresp : Responsive env name n) (hlimit : n ≤ 10 * second)
  (hup : ComesUp env name (panelReading env settings profile) ready)

include hresp hlimit hup

theorem gives_systemdRunning (t : Nat) :
    Gives (n + n) (systemdRunning env name) t fun b => ready ≤ t → b = true := by
  refine (gives_call hresp hlimit .isActive t).bind fun active s hactive hs => ?_
  rw [hactive]
  by_cases hanswers : (env.run name .isActive t).answers "active" = true
  · rw [if_pos hanswers]
    refine ((gives_call hresp hlimit .showSubState s).bind fun state s' hstate _ =>
      Gives.pure fun hready => ?_).mono (Nat.le_refl (n + 0)) fun _ h => h
    have hrunning := hup.running s (hready.trans hs)
    rwa [panelReading_running, ← hstate] at hrunning
  · rw [if_neg hanswers]
    refine (Gives.pure fun hready => absurd ?_ hanswers).mono (Nat.zero_le n) fun _ h => h
    rw [← hup.up t hready, panelReading_up]

theorem gives_journalHasStartupMarker (t : Nat) :
    Gives n (journalHasStartupMarker env profile name) t fun b => ready ≤ t → b = true := by
  have hlog : Gives n (runJournalctl env name 40) t fun log =>
      log = (env.run name (.journal 40) t).stdout ++ (env.run name (.journal 40) t).stderr :=
    ((gives_call hresp hlimit (.journal 40) t).bind fun ran s hran _ =>
      Gives.pure (by rw [hran])).mono (Nat.le_refl (n + 0)) fun _ h => h
  refine (hlog.bind fun log s hlog _ => Gives.pure fun hready => ?_).mono (Nat.le_refl (n + 0))
    fun _ h => h
  rw [hlog]
  exact hup.marked t hready

theorem gives_confirmRunning (t : Nat) : Gives (settings.serviceReadySettle + 5 * n)
    (confirmRunning env settings profile name) t fun b => ready ≤ t → b = true := by
  have hlook (s : Nat) : Gives (n + n + n) (do
      let running ← systemdRunning env name
      if running then journalHasStartupMarker env profile name else pure false) s
      fun b => ready ≤ s → b = true := by
    refine (gives_systemdRunning name hresp hlimit hup s).bind fun running s' hrunning hs => ?_
    cases running with
    | false =>
        exact (Gives.pure fun hready => hrunning hready).mono (Nat.zero_le n) fun _ h => h
    | true =>
        exact (gives_journalHasStartupMarker name hresp hlimit hup s').mono (Nat.le_refl n)
          fun _ h hready => h (hready.trans hs)
  refine (Gives.sleep.bind fun _ s _ hs => (gives_checkStartFailed name hresp hlimit hup s).bind
    fun _ s' _ hs' => (hlook s').mono (Nat.le_refl _) fun _ h hready =>
      h ((hready.trans hs).trans hs')).mono (by omega) fun _ h => h

theorem gives_directRound (t : Nat) : Gives (settings.serviceReadySettle + 9 * n + second)
    (directRound env settings profile name) t fun r => ready ≤ t → r.isRight = true := by
  have hready (s : Nat) : Gives (settings.serviceReadySettle + 7 * n)
      (directReady env settings profile name) s fun b => ready ≤ s → b = true := by
    refine ((gives_systemdRunning name hresp hlimit hup s).bind
      fun running s' hrunning hs => ?_).mono
      (Nat.le_of_eq (by omega : n + n + (settings.serviceReadySettle + 5 * n) = _)) fun _ h => h
    cases running with
    | false => exact (Gives.pure fun hready => hrunning hready).mono (Nat.zero_le _) fun _ h => h
    | true =>
        exact (gives_confirmRunning name hresp hlimit hup s').mono (Nat.le_refl _)
          fun _ h hready => h (hready.trans hs)
  refine ((gives_checkStartFailed name hresp hlimit hup t).bind fun _ s _ hs =>
    (hready s).bind fun found s' hfound _ => ?_).mono
      (Nat.le_of_eq (by omega : n + n + (settings.serviceReadySettle + 7 * n + second) = _))
      fun _ h => h
  cases found with
  | true => exact (Gives.pure fun _ => rfl).mono (Nat.zero_le _) fun _ h => h
  | false =>
      exact ⟨.inl (), s' + second, rfl, by omega, Nat.le_refl _,
        fun hready => absurd (hfound (hready.trans hs)) Bool.false_ne_true⟩

theorem gives_waitDirectOnce (t : Nat) :
    Gives (settings.serviceReadyTimeoutSeconds * second +
      (settings.serviceReadySettle + 9 * n + second)) (waitDirectOnce env settings profile name) t
      fun b => ready ≤ t → b = true := by
  have htimeout := settings.timeout_bounds.1
  have hstart : t < t + settings.serviceReadyTimeoutSeconds * second := by
    simp only [second]
    omega
  have hloop := gives_poll () (fun _ => advances_directRound env settings profile name)
    (fun _ s _ _ => gives_directRound name hresp hlimit hup s) hstart
  obtain ⟨r, t', hx, hle, hlast, hright⟩ := hloop
  refine ⟨r.isRight, t', ?_, hle, by omega, fun hready => hright (Or.inl hready)⟩
  rw [waitDirectOnce, Eff.exec_bind_ok ((exec_pollFor _ _ _ _).trans hx), Eff.exec_pure]

end Direct

section Script

variable (hresp : Responsive env name n)

include hresp

theorem lasts_shell (call : ReadyCall) : Lasts n (env.shell name call) := by
  intro t
  have hle := hresp.takes call t
  rw [exec_shell]
  exact ⟨Nat.le_add_right t _, Nat.add_le_add_left hle t⟩

theorem lasts_scriptRunning : Lasts (n + n) (scriptRunning env name) := by
  have hstate (state : Ran) := Lasts.ite (c := state.returncode = 0)
    (Lasts.pure (decide (state.substituted = "running")))
    (Lasts.raise (ExitStatus.mk state.returncode state.stderr))
  have hactive (active : Ran) := Lasts.ite (c := active.returncode = 0)
    ((lasts_shell hresp .showSubState).bind hstate) (Lasts.pure false)
  exact ((lasts_shell hresp .isActive).bind hactive).mono (by omega)

variable (vars) in
theorem lasts_scriptRound : Lasts (vars.settle + 5 * n + second) (scriptRound env vars name) := by
  have hmarker : Lasts n (scriptMarker env vars name) :=
    ((lasts_shell hresp (.journal 40)).bind fun _ => Lasts.pure _).mono (Nat.le_refl (n + 0))
  have hconfirm : Lasts (vars.settle + 3 * n) (scriptConfirm env vars name) :=
    (Lasts.sleep.bind fun _ => (lasts_scriptRunning hresp).bind fun _ =>
      Lasts.ite hmarker (Lasts.pure _)).mono (by omega)
  have hready : Lasts (vars.settle + 5 * n) (scriptReady env vars name) :=
    ((lasts_scriptRunning hresp).bind fun _ => Lasts.ite hconfirm (Lasts.pure _)).mono (by omega)
  exact hready.bind fun ready => lasts_endRound ready

variable (vars name) in
theorem lasts_waitReadyScript : Lasts (vars.timeout * second + vars.settle + 6 * n + second)
    (waitReadyScript env vars name) := by
  intro t
  rw [waitReadyScript]
  by_cases haccepts : env.wrapper.accepts name = true
  · rw [if_pos haccepts, Eff.exec_bind_ok (exec_now t), Eff.exec_bind]
    have hdeadline : scriptDeadline vars t ≤ t + vars.timeout * second := by
      rw [scriptDeadline, Nat.add_mul]
      exact Nat.add_le_add_right (Nat.div_mul_le_self t second) _
    have hloop := lasts_poll (scriptDeadline vars t) (fun _ => advances_scriptRound)
      (fun _ => lasts_scriptRound vars hresp) () t
    cases hx : (poll (scriptDeadline vars t) (fun _ => scriptRound env vars name) ()).exec t with
    | mk r t' =>
        rw [hx] at hloop
        cases r with
        | error status =>
            show t ≤ t' ∧ t' ≤ t + (vars.timeout * second + vars.settle + 6 * n + second)
            omega
        | ok r =>
            cases r with
            | inr u =>
                show t ≤ t' ∧ t' ≤ t + (vars.timeout * second + vars.settle + 6 * n + second)
                omega
            | inl u =>
                have hlog := lasts_shell hresp (.journal 20) t'
                rw [exec_shell] at hlog
                show t ≤ t' + (env.run name (.journal 20) t').takes ∧
                  t' + (env.run name (.journal 20) t').takes ≤
                    t + (vars.timeout * second + vars.settle + 6 * n + second)
                omega
  · rw [if_neg haccepts]
    exact ⟨Nat.le_refl t, Nat.le_add_right t _⟩

omit hresp

variable (hup : ComesUp env name (scriptReading env vars) ready)

include hup

theorem exec_scriptRunning_of_ready (hready : ready ≤ t) :
    (scriptRunning env name).exec t = (.ok true, lookEnd env name t) := by
  have hactive := hup.up t hready
  have hstate := hup.running (t + (env.run name .isActive t).takes)
    (hready.trans (Nat.le_add_right t _))
  simp only [scriptReading, decide_eq_true_eq, Bool.and_eq_true] at hactive hstate
  rw [scriptRunning, Eff.exec_bind_ok (exec_shell .isActive t), if_pos hactive,
    Eff.exec_bind_ok (exec_shell .showSubState _), if_pos hstate.1, Eff.exec_pure, hstate.2]
  rfl

theorem exec_scriptRound_of_ready (hready : ready ≤ t) :
    ∃ t', (scriptRound env vars name).exec t = (.ok (.inr ()), t') := by
  have hagain : ready ≤ lookEnd env name t + vars.settle :=
    (hready.trans (Reading.le_lookEnd env name t)).trans (Nat.le_add_right _ _)
  have hlog : ready ≤ lookEnd env name (lookEnd env name t + vars.settle) :=
    hagain.trans (Reading.le_lookEnd env name _)
  have hmarked := hup.marked _ hlog
  simp only [scriptReading] at hmarked
  have hmarker : ∃ t', (scriptMarker env vars name).exec
      (lookEnd env name (lookEnd env name t + vars.settle)) = (.ok true, t') := by
    rw [scriptMarker, Eff.exec_bind_ok (exec_shell (.journal 40) _), hmarked]
    exact ⟨_, rfl⟩
  obtain ⟨t', hmarker⟩ := hmarker
  refine ⟨t', ?_⟩
  have hfound : (scriptReady env vars name).exec t = (.ok true, t') := by
    rw [scriptReady, Eff.exec_bind_ok (exec_scriptRunning_of_ready hup hready), if_pos rfl,
      scriptConfirm, Eff.exec_bind_ok (exec_sleep vars.settle _),
      Eff.exec_bind_ok (exec_scriptRunning_of_ready hup hagain), if_pos rfl, hmarker]
  rw [scriptRound, Eff.exec_bind_ok hfound]
  rfl

theorem exec_waitReadyScript_of_ready (haccepts : env.wrapper.accepts name = true)
    (htimeout : 0 < vars.timeout) (hready : ready ≤ t) :
    ∃ t', (waitReadyScript env vars name).exec t = (.ok (), t') := by
  have hstart : t < scriptDeadline vars t := by
    rw [scriptDeadline, ← Nat.div_lt_iff_lt_mul (by decide : 0 < second)]
    omega
  obtain ⟨t', hround⟩ := exec_scriptRound_of_ready hup hready
  have hloop := exec_poll_of_round (fun _ => scriptRound env vars name) () hstart hround
  refine ⟨t', ?_⟩
  rw [waitReadyScript, if_pos haccepts, Eff.exec_bind_ok (exec_now t), Eff.exec_bind_ok hloop]
  rfl

end Script

/-! ## the attempts of a unit that comes up -/

/-- The conditions under which a responsive unit is found ready: an attempt
fits in its time, 20 seconds more than the setting, and the wrapper serves the
unit. -/
structure Fits (env : ReadyEnv) (settings : ReadySettings) (profile : ConfigProfile)
    (name : String) (n : Nat) : Prop where
  direct : settings.serviceReadySettle + 9 * n + second ≤ 20 * second
  script : useWrapper env settings name = true →
    (readyVars env settings profile).timeout * second + (readyVars env settings profile).settle +
      6 * n + second ≤ (settings.serviceReadyTimeoutSeconds + 20) * second
  accepts : useWrapper env settings name = true → env.wrapper.accepts name = true

/-- Ticks of an attempt when every call answers within `n`. -/
def quickTicks (settings : ReadySettings) (n : Nat) : Nat :=
  (settings.serviceReadyTimeoutSeconds + 20) * second + 2 * n

theorem readyVars_timeout_pos : 0 < (readyVars env settings profile).timeout := by
  have htimeout := settings.timeout_bounds.1
  rw [readyVars]
  by_cases hkeeps : env.keepsVars = true
  · rw [if_pos hkeeps]
    exact Nat.lt_of_lt_of_le (by decide) htimeout
  · rw [if_neg hkeeps]
    exact Nat.succ_pos 29

/-- What an attempt ends with: soon, with a result when the unit is up, and
with no exception but that the service is not ready. -/
def Attempted (n ready : Nat) (x : Timed PyErr (String ⊕ Unit)) (t : Nat) : Prop :=
  ∃ r t', x.exec t = (r, t') ∧ t ≤ t' ∧ t' ≤ t + n ∧ (ready ≤ t → r = .ok (.inr ())) ∧
    ∀ e, r = .error e → isNotReady e = true

theorem Fits.limit (h : Fits env settings profile name n) : n ≤ 10 * second := by
  have hdirect := h.direct
  omega

variable (hresp : Responsive env name n)

include hresp

variable (vars name t) in
theorem takes_waitReadyRan : (waitReadyRan env vars name t).takes ≤
    vars.timeout * second + vars.settle + 6 * n + second := by
  have hlast := lasts_waitReadyScript name vars hresp t
  rw [waitReadyRan]
  cases hx : (waitReadyScript env vars name).exec t with
  | mk r t' =>
      rw [hx] at hlast
      have htakes : t' - t ≤ vars.timeout * second + vars.settle + 6 * n + second := by
        have hle : t' ≤ t + (vars.timeout * second + vars.settle + 6 * n + second) := hlast.2
        omega
      cases r <;> exact htakes

variable (settings name) in
theorem exec_raiseNotReady (hlimit : n ≤ 10 * second) (hup : ComesUp env name rd ready) (ran : Ran)
    (t : Nat) : ∃ msg t', (raiseNotReady env settings name ran).exec t =
      (.error (notReady msg), t') ∧ t ≤ t' ∧ t' ≤ t + 2 * n := by
  obtain ⟨_, t', hcheck, hle, hlast, -⟩ := gives_checkStartFailed name hresp hlimit hup t
  rw [raiseNotReady, Eff.exec_bind_ok hcheck]
  exact ⟨_, t', rfl, hle, by omega⟩

/-- An attempt through the wrapper. -/
theorem attempted_wrapper (hfits : Fits env settings profile name n)
    (hup : ComesUp env name (scriptReading env (readyVars env settings profile)) ready)
    (hwrapper : useWrapper env settings name = true) (t : Nat) :
    Attempted (quickTicks settings n) ready (do
      waitViaWrapperOnce env settings profile name
      pure (.inr ())) t := by
  have htakes := (takes_waitReadyRan name (readyVars env settings profile) t hresp).trans
    (hfits.script hwrapper)
  have hzero : ready ≤ t →
      (waitReadyRan env (readyVars env settings profile) name t).returncode = 0 := by
    intro hready
    obtain ⟨t', hscript⟩ := exec_waitReadyScript_of_ready hup (hfits.accepts hwrapper)
      readyVars_timeout_pos hready
    rw [waitReadyRan, hscript]
  have hrun : (waitViaWrapperOnce env settings profile name).exec t = _ :=
    Eff.exec_bind_ok (exec_subprocess_of_le (hresp.spawn t) htakes)
  generalize waitReadyRan env (readyVars env settings profile) name t = ran at htakes hzero hrun
  have hquick : t + ran.takes + 2 * n ≤ t + quickTicks settings n := by
    rw [quickTicks]
    omega
  by_cases hcode : ran.returncode = 0
  · rw [if_pos hcode] at hrun
    exact ⟨.ok (.inr ()), t + ran.takes, Eff.exec_bind_ok hrun, Nat.le_add_right t _, by omega,
      fun _ => rfl, fun e h => by cases h⟩
  · obtain ⟨msg, t', hraise, hle, hlast⟩ :=
      exec_raiseNotReady settings name hresp hfits.limit hup ran (t + ran.takes)
    rw [if_neg hcode, hraise] at hrun
    refine ⟨.error (notReady msg), t', Eff.exec_bind_error hrun, by omega, by omega,
      fun hready => absurd (hzero hready) hcode, fun e h => ?_⟩
    rw [← Except.error.inj h]
    rfl

theorem attempted_readyAttempt (hfits : Fits env settings profile name n)
    (hup : ComesUp env name (readyReading env settings profile name) ready) (t : Nat) :
    Attempted (quickTicks settings n) ready (readyAttempt env settings profile name) t := by
  rw [readyReading] at hup
  rw [readyAttempt]
  by_cases hwrapper : useWrapper env settings name = true
  · rw [if_pos hwrapper] at hup ⊢
    exact attempted_wrapper hresp hfits hup hwrapper t
  · rw [if_neg hwrapper] at hup ⊢
    have hdirect := hfits.direct
    obtain ⟨found, t', honce, hle, hlast, hfound⟩ :=
      gives_waitDirectOnce name hresp hfits.limit hup t
    have hquick : t' ≤ t + quickTicks settings n := by
      rw [quickTicks, Nat.add_mul]
      omega
    cases found with
    | true =>
        exact ⟨.ok (.inr ()), t', Eff.exec_bind_ok honce, hle, hquick, fun _ => rfl,
          fun e h => by cases h⟩
    | false =>
        exact ⟨.ok (.inl _), t', Eff.exec_bind_ok honce, hle, hquick,
          fun hready => absurd (hfound hready) Bool.false_ne_true, fun e h => by cases h⟩

/-- A round of the wait returns, and with a result when the unit is up. -/
theorem gives_readyRound (hfits : Fits env settings profile name n)
    (hup : ComesUp env name (readyReading env settings profile name) ready) {maxDeadline : Nat}
    (hleft : t < ready → t + (quickTicks settings n + 4 * n) < maxDeadline) :
    Gives (quickTicks settings n + 4 * n)
      (readyRound env settings profile name maxDeadline) t
      fun r => ready ≤ t → r.isRight = true := by
  obtain ⟨_, s, hcheck, hts, hsn, -⟩ := gives_checkStartFailed name hresp hfits.limit hup t
  obtain ⟨r, s', hattempt, hle, hlast, hright, hraises⟩ := attempted_readyAttempt hresp hfits hup s
  rw [Gives, readyRound, Eff.exec_bind_ok hcheck, Eff.exec_catching, hattempt]
  cases r with
  | ok r =>
      refine ⟨r, s', rfl, by omega, by omega, fun hready => ?_⟩
      rw [Except.ok.inj (hright (hready.trans hts))]
      rfl
  | error e =>
      have hearly : t < ready := by
        by_contra hready
        have hok := hright ((Nat.not_lt.mp hready).trans hts)
        cases hok
      obtain ⟨_, t', hfailed, hle', hlast', rfl⟩ :=
        gives_systemdStartFailed name hresp hfits.limit hup s'
      have hdeadline : ¬ maxDeadline ≤ t' := by
        have hlt := hleft hearly
        omega
      refine ⟨.inl e.msg, t', ?_, by omega, by omega,
        fun hready => absurd hearly (Nat.not_lt.mpr hready)⟩
      simp only [hraises e rfl, if_true]
      rw [readyExcept, Eff.exec_bind_ok hfailed, if_neg Bool.false_ne_true,
        Eff.exec_bind_ok (exec_now t'), if_neg hdeadline, Eff.exec_pure]

omit hresp

/-- **A unit that comes up is found ready.**  Every call answers within `n`
ticks, an attempt fits in its time, and the unit is never reported failed and
is up from `ready` on: the wait returns when it starts then or later, or when
a round that starts before `ready` ends before the longest wait is over. -/
theorem waitForServiceReady_of_ready (env : ReadyEnv) (settings : ReadySettings)
    (profile : ConfigProfile) (name : String) (n ready t : Nat) (hresp : Responsive env name n)
    (hfits : Fits env settings profile name n)
    (hup : ComesUp env name (readyReading env settings profile name) ready)
    (htime : ready ≤ t ∨ ready + (quickTicks settings n + 4 * n) ≤
      t + settings.serviceReadyMaxWaitSeconds * second) :
    ∃ t', (waitForServiceReady env settings profile name).exec t = (.ok (), t') := by
  have hmax := settings.maxWait_bounds.1
  have hstart : t < t + settings.serviceReadyMaxWaitSeconds * second := by
    simp only [second]
    omega
  have hround (s : Nat) (hs : t ≤ s) : Gives (quickTicks settings n + 4 * n)
      (readyRound env settings profile name
        (t + settings.serviceReadyMaxWaitSeconds * second)) s
      fun r => ready ≤ s → r.isRight = true :=
    gives_readyRound hresp hfits hup fun hearly => by omega
  obtain ⟨r, t', hx, -, -, hright⟩ := gives_poll ""
    (fun _ => advances_readyRound env settings profile name _) (fun _ s hs _ => hround s hs) hstart
  cases r with
  | inl last => exact absurd (hright htime) Bool.false_ne_true
  | inr u =>
      refine ⟨t', ?_⟩
      rw [waitForServiceReady, Eff.exec_bind_ok ((exec_pollFor _ _ _ _).trans hx)]
      rfl

theorem found_lateUnit :
    ∃ t', (waitForServiceReady
      (.lateUnit (some "sudo -n /usr/local/bin/vpn-systemctl") "vpn-1" 20000) {} .xrayReality
      "vpn-1").exec 0 = (.ok (), t') := by
  have hwrapper : useWrapper
      (.lateUnit (some "sudo -n /usr/local/bin/vpn-systemctl") "vpn-1" 20000) {} "vpn-1"
        = true := by
    decide
  refine waitForServiceReady_of_ready _ {} _ _ 5 20000 0 ⟨fun _ => rfl, fun call t => ?_⟩
    ⟨by decide, fun _ => by decide, fun _ => by decide⟩ ?_ (Or.inr (by decide))
  · cases call with
    | isActive => by_cases h : 20000 ≤ t <;> simp [ReadyEnv.lateUnit, h]
    | isFailed | showProps | showSubState | journal lines => exact Nat.le_refl 5
  · have hanswers :
        Ran.answers { takes := 5, stdout := "active\n", returncode := 1 } "failed" = false := by
      decide
    have hprops : startFailedProps (showProps "Result=success\nActiveState=active\n") = false := by
      decide
    have hrunning : Ran.substituted { takes := 5, stdout := "running\n" } = "running" := by decide
    have hmarked : searches (literal 's' "tarted".toList) "Xray started\n" = true := by decide
    rw [readyReading, if_pos hwrapper]
    exact ⟨fun _ => hanswers, fun _ => hprops,
      fun t ht => by simp [scriptReading, ReadyEnv.lateUnit, ht],
      fun _ _ => by simp [scriptReading, ReadyEnv.lateUnit, hrunning],
      fun _ _ => by simpa [scriptReading, ReadyEnv.lateUnit] using Or.inl hmarked⟩

end Progress

end VpnPanel
