import VpnPanel.ProbeReach

/-!
# VpnPanel.ProbeTime

How long the connectivity probe takes, and when it never comes back.

`Prompt d x` says that `x` comes back within `d` ticks; a probe has one attempt
for each host, and each attempt has its steps.  The one step without a limit of
its own is reading what a client has written that has not opened its port: it
takes as long as the client lives.  `probeConfigConnectivity_prompt` is the bound
where clients that fail end their output.
-/

namespace VpnPanel

open Timed

/-! ## computations that come back -/

/-- What is raised unwinds: the computation does not block. -/
def Unblocked {σ α : Type} (x : Eff σ Halt α) : Prop :=
  Eff.Spec (fun _ => True) x (fun _ _ => True) fun h _ => h.unwinds = true

/-- It comes back within `d` ticks. -/
def Prompt {α : Type} (d : Nat) (x : ProbeM α) : Prop :=
  ∀ t, Eff.Spec (fun m => m.now ≤ t) x (fun _ m => m.now ≤ t + d)
    fun h m => h.unwinds = true ∧ m.now ≤ t + d

section Rules

variable {α β σ : Type} {d e : Nat}

theorem Unblocked.pure (a : α) : Unblocked (pure a : Eff σ Halt α) := Eff.Spec.pure fun _ h => h

theorem Unblocked.bind {x : Eff σ Halt α} {f : α → Eff σ Halt β} (hx : Unblocked x)
    (hf : ∀ a, Unblocked (f a)) : Unblocked (x >>= f) := Eff.Spec.bind hx hf

theorem Unblocked.raising (r : Except PyErr α) : Unblocked (raising r : Eff σ Halt α) := by
  intro s _
  rw [VpnPanel.raising, Eff.exec_ofExcept]
  cases r with
  | ok a => trivial
  | error e => rfl

/-- It is over by any later time. -/
theorem Prompt.by_time {x : ProbeM α} (h : Prompt d x) (t t' : Nat) (hle : t + d ≤ t') :
    Eff.Spec (fun m => m.now ≤ t) x (fun _ m => m.now ≤ t')
      fun h m => h.unwinds = true ∧ m.now ≤ t' :=
  (h t).mono (fun _ hm => hm) (fun _ _ hm => hm.trans hle) fun _ _ hm => ⟨hm.1, hm.2.trans hle⟩

theorem Prompt.mono {x : ProbeM α} (h : Prompt d x) (hle : d ≤ e) : Prompt e x :=
  fun t => h.by_time t (t + e) (Nat.add_le_add_left hle t)

theorem Prompt.pure (a : α) : Prompt 0 (pure a) := fun _ => Eff.Spec.pure fun _ hm => hm

theorem Prompt.raised (e : PyErr) : Prompt 0 (Eff.raise (.raised e) : ProbeM α) :=
  fun _ => Eff.Spec.raise fun _ hm => ⟨rfl, hm⟩

theorem Prompt.read : Prompt 0 (Eff.read : ProbeM ProbeMachine) :=
  fun _ => Eff.Spec.read fun _ hm => hm

theorem Prompt.update {f : ProbeMachine → ProbeMachine} (hf : ∀ m, (f m).now = m.now) :
    Prompt 0 (Eff.update f) := fun _ => Eff.Spec.update fun m hm => (hf m).trans_le hm

theorem Prompt.raising (r : Except PyErr α) : Prompt 0 (raising r) := by
  intro t m hm
  rw [VpnPanel.raising, Eff.exec_ofExcept]
  cases r with
  | ok a => exact hm
  | error e => exact ⟨rfl, hm⟩

theorem Prompt.bind {x : ProbeM α} {f : α → ProbeM β} (hx : Prompt d x)
    (hf : ∀ a, Prompt e (f a)) : Prompt (d + e) (x >>= f) := by
  intro t
  refine Eff.Spec.bind (R := fun _ m => m.now ≤ t + d) ?_ fun a =>
    (hf a).by_time (t + d) _ (by omega)
  exact (hx t).mono (fun _ hm => hm) (fun _ _ hm => hm) fun _ m hm => ⟨hm.1, by omega⟩

theorem Prompt.onClock {x : Timed Halt α} (hx : Lasts d x) (hu : Unblocked x) :
    Prompt d (onClock x) := by
  intro t
  refine Eff.Spec.onPart fun m hm => ?_
  rintro _ rfl
  have hlast := (hx m.now).2
  have hspec := hu m.now trivial
  cases h : x.exec m.now with
  | mk r s =>
      rw [h] at hlast hspec
      have hle : s ≤ t + d := hlast.trans (Nat.add_le_add_right hm d)
      cases r with
      | ok a => exact hle
      | error e => exact ⟨hspec, hle⟩

theorem Prompt.catching {p : Halt → Bool} {x : ProbeM α} {handler : Halt → ProbeM α}
    (hx : Prompt d x) (hh : ∀ h, Prompt e (handler h)) :
    Prompt (d + e) (Eff.catching p x handler) := by
  intro t
  refine Eff.Spec.catching (F := fun h m => h.unwinds = true ∧ m.now ≤ t + d) ?_
    (fun h _ => ?_) fun h _ m hm => ⟨hm.1, by omega⟩
  · exact (hx t).mono (fun _ hm => hm) (fun _ m hm => by omega) fun _ _ hm => hm
  · exact ((hh h).by_time (t + d) _ (by omega)).mono (fun _ hm => hm.2) (fun _ _ hm => hm)
      fun _ _ hm => hm

theorem Prompt.ensuring {x : ProbeM α} {cleanup : ProbeM Unit} (hx : Prompt d x)
    (hc : Prompt e cleanup) : Prompt (d + e) (Eff.ensuring Halt.unwinds x cleanup) := by
  intro t
  have hcleanup := hc.by_time (t + d) (t + (d + e)) (by omega)
  refine Eff.Spec.ensuring (hx t) (fun _ => hcleanup) (fun h hu => ?_) fun h hu m hm => ?_
  · exact hcleanup.mono (fun _ hm => hm.2) (fun _ _ hm => ⟨hu, hm⟩) fun _ _ hm => hm
  · rw [hm.1] at hu
    cases hu

end Rules

/-! ## a client -/

section Client

variable {env : ProbeEnv} {settings : ProbeRunSettings} {n : Nat}

theorem lasts_tcpPortOpen (port : Nat) : Lasts 500 (tcpPortOpen env port) := by
  intro t
  rw [exec_tcpPortOpen]
  exact ⟨Nat.le_add_right t _, Nat.add_le_add_left (env.connect_bounds port t).2 t⟩

theorem unblocked_tcpPortOpen (port : Nat) : Unblocked (tcpPortOpen env port) := by
  refine Unblocked.bind (fun _ _ => trivial) fun t => ?_
  exact Unblocked.bind (fun _ _ => trivial) fun _ => Unblocked.raising _

theorem lasts_waitPause (client : Client) : Lasts 200 (waitPause client) := by
  refine (Lasts.bind Lasts.now fun t => ?_).mono (Nat.le_of_eq (Nat.zero_add 200))
  exact (Lasts.ite (Lasts.pure _) (Lasts.sleep.bind fun _ => Lasts.pure _)).mono (by simp)

theorem unblocked_waitPause (client : Client) : Unblocked (waitPause client) := by
  refine Unblocked.bind (fun _ _ => trivial) fun t => ?_
  split
  · exact Unblocked.pure _
  · exact Unblocked.bind (fun _ _ => trivial) fun _ => Unblocked.pure _

variable (env settings) in
/-- The loop ends one round after its deadline. -/
theorem lasts_waitForPort (port : Nat) (client : Client) :
    Lasts (min (5 * second) settings.timeout + 700) (waitForPort env settings port client) := by
  have hround : Lasts 700 (waitRound env port client) := by
    refine (lasts_tcpPortOpen port).bind (n := 200) fun opened => ?_
    exact (Lasts.ite (Lasts.pure _) (lasts_waitPause client)).mono (by simp)
  exact (lasts_pollFor _ (fun _ _ => advances_waitRound env port client)
    (fun _ _ => hround) ()).bind (n := 0) fun r => Lasts.pure _

variable (env settings) in
theorem unblocked_waitForPort (port : Nat) (client : Client) :
    Unblocked (waitForPort env settings port client) := by
  have hround : Unblocked (waitRound env port client) := by
    refine (unblocked_tcpPortOpen port).bind fun opened => ?_
    split
    · exact Unblocked.pure _
    · exact unblocked_waitPause client
  refine Unblocked.bind (fun t _ => ?_) fun r => Unblocked.pure _
  have hrounds : Round (t + min (5 * second) settings.timeout)
      (fun _ : Unit => waitRound env port client) (fun _ _ => True) (fun _ _ => True)
      fun h _ => h.unwinds = true := fun _ =>
    hround.mono (fun _ _ => trivial) (fun r _ _ => by cases r <;> trivial) fun _ _ h => h
  exact ((spec_pollFor _ t (fun _ _ => advances_waitRound env port client) hrounds ()).mono
    (fun _ h => h) (fun _ _ _ => trivial) fun _ _ h => h) t ⟨rfl, trivial⟩

variable (env settings) in
theorem lasts_curlViaSocks (port : Nat) :
    Lasts (settings.timeout + 2 * second) (curlViaSocks env settings port) := by
  rw [curlViaSocks]
  cases env.findCurl with
  | none => exact (Lasts.pure _).mono (Nat.zero_le _)
  | some curl =>
      refine (Lasts.now.bind (n := settings.timeout + 2 * second) fun t => ?_).mono (by omega)
      cases env.curl (curlCommand settings curl port) t with
      | error e => exact (Lasts.ite (Lasts.pure _) (Lasts.raise _)).mono (by simp)
      | ok ran =>
          by_cases htakes : ran.takes ≤ settings.timeout + 2 * second
          · simp only [if_pos htakes]
            exact (Lasts.sleep.bind fun _ => Lasts.pure _).mono htakes
          · simp only [if_neg htakes]
            exact Lasts.sleep.bind (n := 0) fun _ => Lasts.pure _

variable (env settings) in
theorem unblocked_curlViaSocks (port : Nat) : Unblocked (curlViaSocks env settings port) := by
  rw [curlViaSocks]
  cases env.findCurl with
  | none => exact Unblocked.pure _
  | some curl =>
      refine Unblocked.bind (fun _ _ => trivial) fun t => ?_
      cases env.curl (curlCommand settings curl port) t with
      | error e =>
          cases hos : e.isOSError with
          | true => simpa only [hos, if_true] using Unblocked.pure _
          | false =>
              simp only [hos]
              exact fun _ _ => rfl
      | ok ran =>
          by_cases htakes : ran.takes ≤ settings.timeout + 2 * second
          · simp only [if_pos htakes]
            exact Unblocked.bind (fun _ _ => trivial) fun _ => Unblocked.pure _
          · simp only [if_neg htakes]
            exact Unblocked.bind (fun _ _ => trivial) fun _ => Unblocked.pure _

/-- The client ends its output, within `n` ticks of when it is read. -/
def Client.Closes (client : Client) (n : Nat) : Prop := ∀ t, ∃ d ≤ n, client.closes t = some d

theorem lasts_readProcessTail {client : Client} (h : client.Closes n) :
    Lasts n (readProcessTail client) := by
  refine (Lasts.now.bind (n := n) fun t => ?_).mono (by omega)
  obtain ⟨d, hd, hcloses⟩ := h t
  simp only [hcloses]
  exact (Lasts.sleep.bind fun _ => Lasts.pure _).mono hd

theorem unblocked_readProcessTail {client : Client} (h : client.Closes n) :
    Unblocked (readProcessTail client) := by
  refine Unblocked.bind (fun _ _ => trivial) fun t => ?_
  obtain ⟨d, hd, hcloses⟩ := h t
  simp only [hcloses]
  exact Unblocked.bind (fun _ _ => trivial) fun _ => Unblocked.pure _

/-- Ticks of a client that works or fails, up to its end. -/
def clientTicks (settings : ProbeRunSettings) (n : Nat) : Nat :=
  min (5 * second) settings.timeout + 700 + max (500 + (settings.timeout + 2 * second)) n

variable (env settings) in
theorem lasts_probeClient {client : Client} (h : client.Closes n) (port : Nat) (host : String) :
    Lasts (clientTicks settings n) (probeClient env settings client port host) := by
  refine (lasts_waitForPort env settings port client).bind fun opened => ?_
  cases opened with
  | true =>
      refine Lasts.mono (m := 500 + (settings.timeout + 2 * second)) ?_ (Nat.le_max_left _ n)
      refine Lasts.sleep.bind fun _ => (lasts_curlViaSocks env settings port).bind (n := 0) ?_
      rintro ⟨reached, detail⟩
      exact (Lasts.ite (Lasts.pure _) (Lasts.pure _)).mono (by simp)
  | false =>
      refine Lasts.mono (m := n) ?_ (Nat.le_max_right _ n)
      have hdetail : Lasts n (socksStartFailureDetail client host) :=
        (Lasts.now.bind (n := n) fun t =>
          (lasts_readProcessTail h).bind (n := 0) fun _ => Lasts.pure _).mono (by omega)
      exact hdetail.bind (n := 0) fun _ => Lasts.pure _

variable (env settings) in
theorem unblocked_probeClient {client : Client} (h : client.Closes n) (port : Nat)
    (host : String) : Unblocked (probeClient env settings client port host) := by
  refine (unblocked_waitForPort env settings port client).bind fun opened => ?_
  cases opened with
  | true =>
      refine Unblocked.bind (fun _ _ => trivial) fun _ =>
        (unblocked_curlViaSocks env settings port).bind ?_
      rintro ⟨reached, detail⟩
      cases reached <;> exact Unblocked.pure _
  | false =>
      refine Unblocked.bind (Unblocked.bind (fun _ _ => trivial) fun t => ?_) fun _ =>
        Unblocked.pure _
      exact (unblocked_readProcessTail h).bind fun _ => Unblocked.pure _

/-! ### its end -/

theorem prompt_waitEnd (p : Proc) (ends : Option Nat) : Prompt (3 * second) (waitEnd p ends) := by
  rw [waitEnd]
  cases hends : ends.filter (· ≤ 3 * second) with
  | some d =>
      have hd : d ≤ 3 * second := of_decide_eq_true (Option.filter_eq_some_iff.mp hends).2
      have hreap : Prompt 0 (do
          Eff.update (ProbeMachine.reaped p.config)
          pure true : ProbeM Bool) := by
        refine Prompt.bind (d := 0) (e := 0) ?_ fun _ => Prompt.pure true
        exact Prompt.update fun _ => rfl
      exact ((Prompt.onClock Lasts.sleep fun _ _ => trivial).bind fun _ => hreap).mono hd
  | none =>
      exact (Prompt.onClock Lasts.sleep fun _ _ => trivial).bind (e := 0) fun _ => Prompt.pure _

theorem prompt_killProcess (p : Proc) : Prompt (3 * second) (killProcess p) := by
  refine (Prompt.read.bind (e := 3 * second) fun m => ?_).mono (by omega)
  refine (prompt_waitEnd p _).bind (e := 0) fun ended => ?_
  cases ended with
  | true => exact Prompt.pure _
  | false => exact Prompt.raised _

theorem prompt_terminateProcess (p : Proc) : Prompt (6 * second) (terminateProcess p) := by
  refine (Prompt.read.bind (e := 6 * second) fun m => ?_).mono (by omega)
  by_cases hpoll : (p.client.poll m.now).isSome = true
  · rw [if_pos hpoll]
    exact (Prompt.update fun _ => rfl).mono (Nat.zero_le _)
  · rw [if_neg hpoll]
    refine ((prompt_waitEnd p _).bind (e := 3 * second) fun ended => ?_).mono (by omega)
    cases ended with
    | true => exact (Prompt.pure _).mono (Nat.zero_le _)
    | false => exact prompt_killProcess p

variable (env) in
theorem prompt_unlinkFile (f : Nat) : Prompt 0 (unlinkFile env f) := by
  rw [unlinkFile]
  cases env.unlinkFile f with
  | some e => exact Prompt.raised e
  | none => exact Prompt.update fun _ => rfl

variable (env) in
theorem prompt_endClient (p : Proc) : Prompt (6 * second) (endClient env p) :=
  (prompt_terminateProcess p).bind (e := 0) fun _ => prompt_unlinkFile env _

variable (env) in
theorem prompt_tempFile : Prompt 0 (tempFile env) := by
  refine Prompt.read.bind (e := 0) fun m => Prompt.bind (d := 0) (e := 0) ?_ fun _ => ?_
  · exact Prompt.update fun _ => rfl
  · cases env.createFile m.created with
    | some e => exact Prompt.raised e
    | none =>
        refine Prompt.bind (d := 0) (e := 0) ?_ fun _ => ?_
        · exact Prompt.update fun _ => rfl
        · cases env.writeFile m.created with
          | some e => exact Prompt.raised e
          | none => exact Prompt.pure _

end Client

/-! ## the probe -/

section Probe

variable (env : ProbeEnv) (settings : ProbeRunSettings) (ctx : Ctx)
  (snapshot : ConfigVersionSnapshot) (n : Nat)

/-- Names are resolved within `n` ticks, and every client ends its output within
`n` ticks of when that is read. -/
structure ProbeEnv.Responds : Prop where
  resolves : ∀ host t, (env.getaddrinfo host t).1 ≤ n
  closes : ∀ command doc t client, env.popen command doc t = .ok client → client.Closes n

variable {env n} (h : env.Responds n)

include h

theorem prompt_runClientProbe (command : List String) (f : Nat) (doc : PyVal) (port : Nat)
    (host : String) : Prompt (clientTicks settings n + 6 * second)
      (runClientProbe env settings command f doc port host) := by
  refine (Prompt.read.bind (e := clientTicks settings n + 6 * second) fun m => ?_).mono (by omega)
  cases hopen : env.popen command doc m.now with
  | error e =>
      refine Prompt.mono (d := 0 + 0) ?_ (Nat.zero_le _)
      exact (Prompt.catching (d := 0) (e := 0) (Prompt.raised e) fun _ => Prompt.pure _).ensuring
        (prompt_unlinkFile env f)
  | ok client =>
      refine (Prompt.bind (d := 0) (e := clientTicks settings n + 6 * second) ?_ fun _ => ?_).mono
        (by omega)
      · exact Prompt.update fun _ => rfl
      · have hcloses := h.closes command doc m.now client hopen
        have hbody := Prompt.onClock (lasts_probeClient env settings hcloses port host)
          (unblocked_probeClient env settings hcloses port host)
        exact (hbody.catching (e := 0) fun _ => Prompt.pure _).ensuring (prompt_endClient env _)

theorem prompt_attemptHost (kind : ClientKind) (host : String) :
    Prompt (clientTicks settings n + 6 * second) (attemptHost env settings kind host) := by
  refine (Prompt.read.bind (e := clientTicks settings n + 6 * second) fun m => ?_).mono (by omega)
  refine ((Prompt.raising _).bind (e := clientTicks settings n + 6 * second) fun port => ?_).mono
    (by omega)
  refine ((Prompt.raising _).bind (e := clientTicks settings n + 6 * second) fun doc => ?_).mono
    (by omega)
  refine ((prompt_tempFile env).bind (e := clientTicks settings n + 6 * second) fun f => ?_).mono
    (by omega)
  exact prompt_runClientProbe settings h _ f doc port host

theorem prompt_mayDial (host : String) : Prompt n (onClock (mayDial env ctx snapshot host)) := by
  rw [mayDial]
  split
  · refine Prompt.onClock ?_ ?_
    · refine (Lasts.now.bind (n := n) fun t => ?_).mono (by omega)
      refine (Lasts.sleep.bind (n := 0) fun _ => ?_).mono (h.resolves host t)
      split
      · exact Lasts.pure _
      · exact (Lasts.ite (Lasts.pure _) (Lasts.raise _)).mono (Nat.le_refl 0)
    · refine Unblocked.bind (fun _ _ => trivial) fun t =>
        Unblocked.bind (fun _ _ => trivial) fun _ => ?_
      split
      · exact Unblocked.pure _
      · split
        · exact Unblocked.pure _
        · exact fun _ _ => rfl
  · exact Prompt.onClock ((Lasts.pure true).mono (Nat.zero_le n)) (Unblocked.pure true)

/-- Ticks of one host. -/
def hostTicks (settings : ProbeRunSettings) (n : Nat) : Nat :=
  n + (clientTicks settings n + 6 * second)

theorem prompt_probeHosts (kind : ClientKind) (hosts : List String) (last : VpnConnectivityProbe) :
    Prompt (hosts.length * hostTicks settings n)
      (probeHosts env settings ctx snapshot kind last hosts) := by
  induction hosts generalizing last with
  | nil => exact (Prompt.pure last).mono (Nat.zero_le _)
  | cons host hosts ih =>
      have hlength : (host :: hosts).length * hostTicks settings n =
          n + (clientTicks settings n + 6 * second + hosts.length * hostTicks settings n) := by
        rw [List.length_cons, Nat.add_mul, Nat.one_mul]
        simp only [hostTicks]
        omega
      rw [hlength]
      refine (prompt_mayDial ctx snapshot h host).bind fun dial => ?_
      cases dial with
      | false => exact (ih _).mono (Nat.le_add_left _ _)
      | true =>
          refine (prompt_attemptHost settings h kind host).bind fun last => ?_
          by_cases hreached : last.reachable = some true
          · rw [if_pos hreached]
            exact (Prompt.pure _).mono (Nat.zero_le _)
          · rw [if_neg hreached]
            exact ih last

theorem prompt_probeViaXray (hprofile : snapshot.profile ≠ .hysteria2) :
    Prompt ((dialedHosts snapshot ctx.settings).length * hostTicks settings n)
      (probeViaXray env settings ctx snapshot) := by
  refine ((Prompt.raising _).bind fun there => ?_).mono (Nat.le_of_eq (Nat.zero_add _))
  have hhosts : probedHosts ctx snapshot = dialedHosts snapshot ctx.settings := by
    simp [probedHosts, dialedHosts, hprofile]
  split
  · exact (Prompt.pure _).mono (Nat.zero_le _)
  · split
    · exact (Prompt.pure _).mono (Nat.zero_le _)
    · rw [hhosts]
      exact prompt_probeHosts settings ctx snapshot h _ _ _

theorem prompt_probeViaHysteria :
    Prompt ((dialedHosts snapshot ctx.settings).length * hostTicks settings n)
      (probeViaHysteria env settings ctx snapshot) := by
  refine ((Prompt.raising _).bind fun there => ?_).mono (Nat.le_of_eq (Nat.zero_add _))
  split
  · exact (Prompt.pure _).mono (Nat.zero_le _)
  · split
    · exact (Prompt.pure _).mono (Nat.zero_le _)
    · split
      · exact (Prompt.pure _).mono (Nat.zero_le _)
      · next hcert =>
        have hhosts : probedHosts ctx snapshot = dialedHosts snapshot ctx.settings := by
          simp [probedHosts, dialedHosts, hcert]
        refine ((prompt_tempFile env).bind fun ca => ?_).mono (Nat.le_of_eq (Nat.zero_add _))
        rw [hhosts]
        exact ((prompt_probeHosts settings ctx snapshot h _ _ _).ensuring
          (prompt_unlinkFile env ca)).mono (Nat.le_of_eq (Nat.add_zero _))

theorem prompt_freshProbe :
    Prompt ((dialedHosts snapshot ctx.settings).length * hostTicks settings n)
      (freshProbe env settings ctx snapshot) := by
  refine (Prompt.catching ?_ fun _ => Prompt.pure _).mono (Nat.le_of_eq (Nat.add_zero _))
  cases hprofile : snapshot.profile with
  | hysteria2 => exact prompt_probeViaHysteria settings ctx snapshot h
  | xrayReality | xrayGrpc | xrayXhttp =>
      exact prompt_probeViaXray settings ctx snapshot h (by rw [hprofile]; decide)

end Probe

/-- **A probe comes back.**  Where names are resolved within `n` ticks, and clients end
their output within `n` ticks of when it is read, the probe answers, whatever else the
machine does, and takes `hostTicks` for each host it dials at most. -/
theorem probeConfigConnectivity_prompt (env : ProbeEnv) (settings : ProbeRunSettings) (ctx : Ctx)
    (snapshot : ConfigVersionSnapshot) (n : Nat) (h : env.Responds n) (m : ProbeMachine) :
    ∃ probe m', (probeConfigConnectivity env settings ctx snapshot).exec m = (.ok probe, m') ∧
      m'.now ≤ m.now + (dialedHosts snapshot ctx.settings).length * hostTicks settings n := by
  rw [probeConfigConnectivity]
  cases henabled : settings.enabled with
  | false => exact ⟨_, m, rfl, Nat.le_add_right _ _⟩
  | true =>
      rw [if_neg (by simp), Eff.exec_bind_ok (Eff.exec_read m)]
      cases cachedProbe settings snapshot m with
      | some probe => exact ⟨probe, m, rfl, Nat.le_add_right _ _⟩
      | none =>
          have hprompt := prompt_freshProbe settings ctx snapshot h m.now m (Nat.le_refl m.now)
          cases hx : (freshProbe env settings ctx snapshot).exec m with
          | mk r m' =>
              rw [hx] at hprompt
              cases r with
              | ok probe =>
                  simp only
                  rw [Eff.exec_bind_ok hx]
                  exact ⟨probe, _, rfl, hprompt⟩
              | error e =>
                  -- what unwinds has been answered, so that the probe does not raise
                  rw [exec_freshProbe_error env settings ctx snapshot hx] at hprompt
                  cases hprompt.1

theorem working_responds : ProbeEnv.working.Responds 20 where
  resolves _ _ := Nat.le_refl 20
  closes _ _ _ client hopen _ := by
    obtain rfl := Except.ok.inj hopen
    exact ⟨10, Nat.le_add_left 10 10, rfl⟩

example : ∃ probe m',
    (probeConfigConnectivity .working {} Ctx.allProfiles tcpSnapshot).exec {} = (.ok probe, m') ∧
      m'.now ≤ ({} : ProbeMachine).now +
        (dialedHosts tcpSnapshot Ctx.allProfiles.settings).length * hostTicks {} 20 :=
  probeConfigConnectivity_prompt .working {} Ctx.allProfiles tcpSnapshot 20 working_responds {}

end VpnPanel
