import VpnPanel.ProbeRun

/-!
# VpnPanel.ProbeReach

What stands behind the answers of the connectivity probe.

* `reached_of_freshProbe` — a probe that answers "reachable" has had `curl` through
  the socks port of a client of the config's own, for a host that resolves;
* `answered_reached` — so has every such answer of the panel's process, fresh or
  out of the cache, with any lifecycle steps, requests and other probes in
  between.
-/

namespace VpnPanel

open Timed

/-! ## one client -/

section Client

variable {env : ProbeEnv} {settings : ProbeRunSettings}

/-- From `t` to `t'` the socks port has opened, and then `curl` has had the page
through it. -/
def CurlReached (env : ProbeEnv) (settings : ProbeRunSettings) (port t t' : Nat) : Prop :=
  ∃ t₁ t₂ curl ran, t ≤ t₁ ∧ (env.connect port t₁).2 = .ok true ∧
    t₁ + (env.connect port t₁).1 + 500 ≤ t₂ ∧ env.findCurl = some curl ∧
    env.curl (curlCommand settings curl port) t₂ = .ok ran ∧ ran.returncode = 0 ∧
    t₂ + ran.takes ≤ t'

theorem CurlReached.mono {port t s t' s' : Nat} (h : CurlReached env settings port t t')
    (ht : s ≤ t) (ht' : t' ≤ s') : CurlReached env settings port s s' := by
  obtain ⟨t₁, t₂, curl, ran, hstart, hopen, hwait, hcurl, hran, hcode, hend⟩ := h
  exact ⟨t₁, t₂, curl, ran, ht.trans hstart, hopen, hwait, hcurl, hran, hcode, hend.trans ht'⟩

theorem exec_tcpPortOpen (port t : Nat) :
    (tcpPortOpen env port).exec t =
      ((env.connect port t).2.mapError .raised, t + (env.connect port t).1) := by
  rw [tcpPortOpen, Eff.exec_bind_ok (exec_now t), Eff.exec_bind_ok (exec_sleep _ t), raising,
    Eff.exec_ofExcept]

theorem advances_tcpPortOpen (port : Nat) : Advances (tcpPortOpen env port) := by
  intro t b t' h
  rw [exec_tcpPortOpen] at h
  obtain rfl : t + (env.connect port t).1 = t' := congrArg Prod.snd h
  have hpos := (env.connect_bounds port t).1
  omega

theorem forward_waitPause (client : Client) : Forward (waitPause client) :=
  Eff.Within.bind Eff.Within.read fun _ => forward_ite (Eff.Within.pure _)
    (Eff.Within.bind (forward_sleep 200) fun _ => Eff.Within.pure _)

variable (env) in
theorem advances_waitRound (port : Nat) (client : Client) :
    Advances (waitRound env port client) :=
  (advances_tcpPortOpen port).bind fun _ =>
    forward_ite (Eff.Within.pure _) (forward_waitPause client)

/-- Where the port is not open, a round does not end the loop with success. -/
theorem spec_waitPause (client : Client) (t : Nat) :
    Eff.Spec (t ≤ ·) (waitPause client)
      (fun r s => r.elim (fun _ => t ≤ s) fun opened => t ≤ s ∧ opened = false)
      fun _ s => t ≤ s := by
  intro s hs
  rw [waitPause, Eff.exec_bind_ok (exec_now s)]
  by_cases hpoll : (client.poll s).isSome = true
  · rw [if_pos hpoll]
    exact ⟨hs, rfl⟩
  · rw [if_neg hpoll]
    exact Nat.le_add_right_of_le hs

/-- The socks port has been seen open. -/
def SeenOpen (env : ProbeEnv) (port t t' : Nat) : Prop :=
  ∃ t₁, t ≤ t₁ ∧ (env.connect port t₁).2 = .ok true ∧ t₁ + (env.connect port t₁).1 ≤ t'

theorem spec_tcpPortOpen (port t : Nat) :
    Eff.Spec (t ≤ ·) (tcpPortOpen env port)
      (fun opened s => t ≤ s ∧ (opened = true → SeenOpen env port t s)) fun _ s => t ≤ s := by
  intro s hs
  rw [exec_tcpPortOpen]
  have hle : t ≤ s + (env.connect port s).1 := Nat.le_add_right_of_le hs
  cases hopen : (env.connect port s).2 with
  | error e => exact hle
  | ok opened =>
      refine ⟨hle, fun h => ⟨s, hs, ?_, Nat.le_refl _⟩⟩
      rw [hopen, h]

theorem spec_waitRound (port : Nat) (client : Client) (t deadline : Nat) :
    Round deadline (fun _ : Unit => waitRound env port client) (fun _ s => t ≤ s)
      (fun opened s => t ≤ s ∧ (opened = true → SeenOpen env port t s)) fun _ s => t ≤ s := by
  intro d
  refine ((spec_tcpPortOpen port t).mono (fun s hs => hs.2) (fun _ _ h => h)
    fun _ _ h => h).bind fun opened => ?_
  cases opened with
  | true => exact Eff.Spec.pure fun s hs => ⟨hs.1, fun _ => hs.2 rfl⟩
  | false =>
      refine (spec_waitPause client t).mono (fun s hs => hs.1) (fun r s hs => ?_) fun _ _ h => h
      cases r with
      | inl d => exact hs
      | inr opened => exact ⟨hs.1, fun h => by rw [hs.2] at h; cases h⟩

theorem spec_waitForPort (settings : ProbeRunSettings) (port : Nat) (client : Client) (t : Nat) :
    Eff.Spec (· = t) (waitForPort env settings port client)
      (fun opened s => t ≤ s ∧ (opened = true → SeenOpen env port t s)) fun _ s => t ≤ s := by
  have hloop := spec_pollFor (min (5 * second) settings.timeout) t
    (fun _ _ => advances_waitRound env port client) (spec_waitRound port client t _) ()
  refine Eff.Spec.bind (hloop.mono (fun s hs => ⟨hs, Nat.le_of_eq hs.symm⟩) (fun _ _ h => h)
    fun _ _ h => h) fun r => Eff.Spec.pure fun s hs => ?_
  cases r with
  | inl d => exact ⟨hs.2, fun h => by cases h⟩
  | inr opened => exact hs

theorem spec_curlViaSocks (port t : Nat) :
    Eff.Spec (· = t) (curlViaSocks env settings port)
      (fun result s => t ≤ s ∧ (result.1 = true → ∃ curl ran, env.findCurl = some curl ∧
        env.curl (curlCommand settings curl port) t = .ok ran ∧ ran.returncode = 0 ∧
        t + ran.takes ≤ s))
      fun _ s => t ≤ s := by
  rintro t rfl
  rw [curlViaSocks]
  cases hcurl : env.findCurl with
  | none => exact ⟨Nat.le_refl t, fun h => by cases h⟩
  | some curl =>
      simp only
      rw [Eff.exec_bind_ok (exec_now t)]
      cases hran : env.curl (curlCommand settings curl port) t with
      | error e =>
          simp only
          cases e.isOSError with
          | true => exact ⟨Nat.le_refl t, fun h => by cases h⟩
          | false => exact Nat.le_refl t
      | ok ran =>
          simp only
          by_cases htakes : ran.takes ≤ settings.timeout + 2 * second
          · rw [if_pos htakes, Eff.exec_bind_ok (exec_sleep _ t)]
            refine ⟨Nat.le_add_right t _, fun h => ⟨curl, ran, rfl, hran, ?_, Nat.le_refl _⟩⟩
            by_contra hcode
            rw [curlResult, if_pos hcode] at h
            cases h
          · rw [if_neg htakes, Eff.exec_bind_ok (exec_sleep _ t)]
            exact ⟨Nat.le_add_right t _, fun h => by cases h⟩

theorem forward_readProcessTail (client : Client) : Forward (readProcessTail client) := by
  refine Eff.Within.bind Eff.Within.read fun t => ?_
  cases client.closes t with
  | none => exact Eff.Within.raise _
  | some d => exact Eff.Within.bind (forward_sleep d) fun _ => Eff.Within.pure _

theorem forward_socksStartFailureDetail (client : Client) (host : String) :
    Forward (socksStartFailureDetail client host) :=
  Eff.Within.bind Eff.Within.read fun _ =>
    (forward_readProcessTail client).bind fun _ => Eff.Within.pure _

/-- **A client that is reported to work** has let `curl` through. -/
theorem spec_probeClient (client : Client) (port : Nat) (host : String) (t : Nat) :
    Eff.Spec (· = t) (probeClient env settings client port host)
      (fun probe s => t ≤ s ∧ (probe.reachable = some true → CurlReached env settings port t s))
      fun _ s => t ≤ s := by
  refine (spec_waitForPort settings port client t).bind fun opened => ?_
  cases opened with
  | false =>
      refine ((forward_socksStartFailureDetail client host).spec
        (fun _ _ hle h => h.trans hle) (P := (t ≤ ·))).mono (fun s hs => hs.1) (fun _ _ h => h)
        (fun _ _ h => h) |>.bind fun detail => Eff.Spec.pure fun s hs => ⟨hs, fun h => by cases h⟩
  | true =>
      rintro s ⟨hts, hopen⟩
      obtain ⟨t₁, hle, hseen, hs⟩ := hopen rfl
      rw [if_pos rfl, Eff.exec_bind_ok (exec_sleep 500 s)]
      refine Eff.Spec.bind ((spec_curlViaSocks port (s + 500)).mono (fun _ h => h)
        (fun _ _ h => h) fun _ s' hs' => by omega) (fun result => ?_) (s + 500) rfl
      obtain ⟨reached, detail⟩ := result
      rintro s' ⟨hle', hcurl⟩
      cases reached with
      | false => exact ⟨by omega, fun h => by cases h⟩
      | true =>
          obtain ⟨curl, ran, hfind, hran, hcode, hend⟩ := hcurl rfl
          exact ⟨by omega, fun _ => ⟨t₁, s + 500, curl, ran, hle, hseen, by omega, hfind, hran,
            hcode, hend⟩⟩

end Client

/-! ## the clock of the machine -/

/-- The clock does not go back. -/
def Later (m m' : ProbeMachine) : Prop := m.now ≤ m'.now

instance : IsPreorder ProbeMachine Later where
  refl m := Nat.le_refl m.now
  trans _ _ _ h h' := Nat.le_trans h h'

theorem later_onClock {α : Type} {x : Timed Halt α} (hx : Forward x) :
    Eff.Within Later (onClock x) := by
  intro m
  rw [onClock, Eff.exec_onPart]
  exact hx m.now

theorem later_raising {α : Type} (r : Except PyErr α) :
    Eff.Within Later (raising r : ProbeM α) := Eff.Within.ofExcept _

theorem later_update {f : ProbeMachine → ProbeMachine} (h : ∀ m, (f m).now = m.now) :
    Eff.Within Later (Eff.update f : ProbeM Unit) :=
  Eff.Within.update fun m => (h m).ge

theorem later_waitEnd (p : Proc) (ends : Option Nat) : Eff.Within Later (waitEnd p ends) := by
  rw [waitEnd]
  cases ends.filter (· ≤ 3 * second) with
  | some d =>
      refine (later_onClock (forward_sleep d)).bind fun _ => Eff.Within.bind ?_ fun _ => ?_
      · exact later_update fun _ => rfl
      · exact Eff.Within.pure _
  | none => exact (later_onClock (forward_sleep _)).bind fun _ => Eff.Within.pure _

theorem later_killProcess (p : Proc) : Eff.Within Later (killProcess p) := by
  refine Eff.Within.read.bind fun m => (later_waitEnd p _).bind fun ended => ?_
  cases ended with
  | true => exact Eff.Within.pure _
  | false => exact Eff.Within.raise _

theorem later_terminateProcess (p : Proc) : Eff.Within Later (terminateProcess p) := by
  refine Eff.Within.read.bind fun m => ?_
  by_cases hpoll : (p.client.poll m.now).isSome = true
  · rw [if_pos hpoll]
    exact later_update fun _ => rfl
  · rw [if_neg hpoll]
    refine (later_waitEnd p _).bind fun ended => ?_
    cases ended with
    | true => exact Eff.Within.pure _
    | false => exact later_killProcess p

theorem later_unlinkFile (env : ProbeEnv) (f : Nat) : Eff.Within Later (unlinkFile env f) := by
  rw [unlinkFile]
  cases env.unlinkFile f with
  | some e => exact Eff.Within.raise _
  | none => exact later_update fun _ => rfl

theorem later_endClient (env : ProbeEnv) (p : Proc) : Eff.Within Later (endClient env p) :=
  (later_terminateProcess p).bind fun _ => later_unlinkFile env _

theorem later_tempFile (env : ProbeEnv) : Eff.Within Later (tempFile env) := by
  refine Eff.Within.read.bind fun m => Eff.Within.bind ?_ fun _ => ?_
  · exact later_update fun _ => rfl
  · cases env.createFile m.created with
    | some e => exact Eff.Within.raise _
    | none =>
        refine Eff.Within.bind ?_ fun _ => ?_
        · exact later_update fun _ => rfl
        · cases env.writeFile m.created with
          | some e => exact Eff.Within.raise _
          | none => exact Eff.Within.pure _

/-- What has been established until a time stays so. -/
theorem spec_later {α : Type} {x : ProbeM α} (hx : Eff.Within Later x) (t : Nat) :
    Eff.Spec (fun m => t ≤ m.now) x (fun _ m => t ≤ m.now) fun _ m => t ≤ m.now :=
  hx.spec fun _ _ hle ht => Nat.le_trans ht hle

theorem spec_raising {α : Type} {P : ProbeMachine → Prop} (r : Except PyErr α) :
    Eff.Spec P (raising r : ProbeM α) (fun a m => P m ∧ r = .ok a) fun _ => P := by
  intro m hm
  rw [raising, Eff.exec_ofExcept]
  cases r with
  | ok a => exact ⟨hm, rfl⟩
  | error e => exact hm

/-! ## one host -/

section Host

variable {env : ProbeEnv} {settings : ProbeRunSettings} {ctx : Ctx}
  {snapshot : ConfigVersionSnapshot}

/-- A client was started for the command and the document, and works. -/
def Started (env : ProbeEnv) (settings : ProbeRunSettings) (command : List String) (doc : PyVal)
    (port t t' : Nat) : Prop :=
  ∃ client t₀, t ≤ t₀ ∧ env.popen command doc t₀ = .ok client ∧
    CurlReached env settings port t₀ t'

theorem Started.mono {command : List String} {doc : PyVal} {port t t' s' : Nat}
    (h : Started env settings command doc port t t') (hle : t' ≤ s') :
    Started env settings command doc port t s' := by
  obtain ⟨client, t₀, ht, hopen, hreached⟩ := h
  exact ⟨client, t₀, ht, hopen, hreached.mono (Nat.le_refl t₀) hle⟩

theorem spec_runClientProbe_reached (command : List String) (f : Nat) (doc : PyVal) (port : Nat)
    (host : String) (t : Nat) :
    Eff.Spec (fun m => t ≤ m.now) (runClientProbe env settings command f doc port host)
      (fun probe m => t ≤ m.now ∧ (probe.reachable = some true →
        Started env settings command doc port t m.now))
      fun _ m => t ≤ m.now := by
  intro m hm
  rw [runClientProbe, Eff.exec_bind_ok (Eff.exec_read m)]
  have hend (x : ProbeM Unit) (hx : Eff.Within Later x) (probe : VpnConnectivityProbe) :
      Eff.Spec (fun m => t ≤ m.now ∧ (probe.reachable = some true →
          Started env settings command doc port t m.now)) x
        (fun _ m => t ≤ m.now ∧ (probe.reachable = some true →
          Started env settings command doc port t m.now)) fun _ m => t ≤ m.now :=
    (hx.spec fun _ _ hle h => ⟨Nat.le_trans h.1 hle, fun hr => (h.2 hr).mono hle⟩).mono
      (fun _ h => h) (fun _ _ h => h) fun _ _ h => h.1
  cases hopen : env.popen command doc m.now with
  | error e =>
      refine Eff.Spec.ensuring (P := (t ≤ ·.now)) (Eff.Spec.catching (F := fun _ m => t ≤ m.now)
        (Eff.Spec.raise fun _ h => h) (fun _ _ => Eff.Spec.pure fun m hm =>
          ⟨hm, fun h => by cases h⟩) fun _ _ _ h => h)
        (hend _ (later_unlinkFile env f)) (fun _ _ => spec_later (later_unlinkFile env f) t)
        (fun _ _ _ h => h) m hm
  | ok client =>
      rw [Eff.exec_bind_ok (Eff.exec_update _ m)]
      have hbody : Eff.Spec (·.now = m.now) (onClock (probeClient env settings client port host))
          (fun probe m' => t ≤ m'.now ∧ (probe.reachable = some true →
            Started env settings command doc port t m'.now)) fun _ m' => t ≤ m'.now := by
        refine Eff.Spec.onPart fun m₁ hm₁ => ((spec_probeClient client port host m₁.now).mono
          (fun _ h => h) (fun probe s hs => ?_) fun _ s hs => ?_)
        · have hle : t ≤ s := by omega
          exact ⟨hle, fun hr => ⟨client, m.now, hm, hopen, hm₁ ▸ hs.2 hr⟩⟩
        · show t ≤ s
          omega
      exact (hbody.catching (fun _ _ => Eff.Spec.pure fun m hm => ⟨hm, fun h => by cases h⟩)
        fun _ _ _ h => h).ensuring (hend _ (later_endClient env _))
        (fun _ _ => spec_later (later_endClient env _) t) (fun _ _ _ h => h) _ rfl

/-- A client of the kind was started for the host, on its own config, and works. -/
def ReachedVia (env : ProbeEnv) (settings : ProbeRunSettings) (kind : ClientKind) (host : String)
    (t t' : Nat) : Prop :=
  ∃ port doc path, kind.config host port = .ok doc ∧
    Started env settings (kind.command path) doc port t t'

theorem spec_attemptHost (kind : ClientKind) (host : String) (t : Nat) :
    Eff.Spec (fun m => t ≤ m.now) (attemptHost env settings kind host)
      (fun probe m => t ≤ m.now ∧ (probe.reachable = some true →
        ReachedVia env settings kind host t m.now)) fun _ m => t ≤ m.now := by
  refine Eff.Spec.bind (R := fun _ m => t ≤ m.now) (Eff.Spec.read fun _ hm => hm) fun m => ?_
  refine (spec_later (later_raising _) t).bind fun port => (spec_raising _).bind fun doc => ?_
  by_cases hconfig : kind.config host port = .ok doc
  · refine (((spec_later (later_tempFile env) t).mono (fun _ h => h.1) (fun _ _ h => h)
      fun _ _ h => h)).bind fun f => ?_
    exact (spec_runClientProbe_reached _ f doc port host t).mono (fun _ h => h)
      (fun probe m h => ⟨h.1, fun hr => ⟨port, doc, _, hconfig, h.2 hr⟩⟩) fun _ _ h => h
  · exact fun m hm => absurd hm.2 hconfig

/-! ## all hosts -/

/-- The host has an address, where the probe must not go by way of this machine. -/
def Dialable (env : ProbeEnv) (ctx : Ctx) (snapshot : ConfigVersionSnapshot) (host : String)
    (t : Nat) : Prop :=
  probeAllowLoopback snapshot ctx.settings = true ∨ isLoopback host = true ∨
    ∃ s, t ≤ s ∧ (env.getaddrinfo host s).2 = .ok ()

theorem spec_mayDial (host : String) (t : Nat) :
    Eff.Spec (t ≤ ·) (mayDial env ctx snapshot host)
      (fun dial s => t ≤ s ∧ (dial = true → Dialable env ctx snapshot host t))
      fun _ s => t ≤ s := by
  intro s hs
  rw [mayDial]
  cases hallow : probeAllowLoopback snapshot ctx.settings with
  | true => exact ⟨hs, fun _ => .inl hallow⟩
  | false =>
      cases hloop : isLoopback host with
      | true => exact ⟨hs, fun _ => .inr (.inl hloop)⟩
      | false =>
          rw [if_pos (by simp), hostResolves, Eff.exec_bind_ok (exec_now s),
            Eff.exec_bind_ok (exec_sleep _ s)]
          have hle : t ≤ s + (env.getaddrinfo host s).1 := Nat.le_add_right_of_le hs
          cases haddr : (env.getaddrinfo host s).2 with
          | ok u => exact ⟨hle, fun _ => .inr (.inr ⟨s, hs, haddr⟩)⟩
          | error e =>
              cases hos : e.isOSError with
              | true =>
                  simp only [hos, if_true]
                  exact ⟨hle, fun h => by cases h⟩
              | false =>
                  simp only [hos]
                  exact hle

/-- One of the hosts was dialed, and the answer names it. -/
def HostReached (env : ProbeEnv) (settings : ProbeRunSettings) (ctx : Ctx)
    (snapshot : ConfigVersionSnapshot) (kind : ClientKind) (hosts : List String)
    (probe : VpnConnectivityProbe) (t t' : Nat) : Prop :=
  ∃ host ∈ hosts, Dialable env ctx snapshot host t ∧ ReachedVia env settings kind host t t' ∧
    probe.detail =
      some ("via " ++ host ++ ":" ++ toString (probeDialPort snapshot host ctx.settings))

variable (env settings ctx snapshot) in
theorem spec_probeHosts (kind : ClientKind) (hosts : List String) (last : VpnConnectivityProbe)
    (hlast : last.reachable ≠ some true) (t : Nat) :
    Eff.Spec (fun m => t ≤ m.now) (probeHosts env settings ctx snapshot kind last hosts)
      (fun probe m => t ≤ m.now ∧ (probe.reachable = some true →
        HostReached env settings ctx snapshot kind hosts probe t m.now)) fun _ m => t ≤ m.now := by
  induction hosts generalizing last with
  | nil => exact Eff.Spec.pure fun m hm => ⟨hm, fun hr => absurd hr hlast⟩
  | cons host hosts ih =>
      have hrest (last : VpnConnectivityProbe) (hlast : last.reachable ≠ some true) :=
        (ih last hlast).mono (fun _ h => h) (fun probe m h => (⟨h.1, fun hr => by
          obtain ⟨x, hx, hreached⟩ := h.2 hr
          exact ⟨x, List.mem_cons_of_mem host hx, hreached⟩⟩ : t ≤ m.now ∧
            (probe.reachable = some true →
              HostReached env settings ctx snapshot kind (host :: hosts) probe t m.now)))
          fun _ _ h => h
      have hdial : Eff.Spec (fun m : ProbeMachine => t ≤ m.now)
          (onClock (mayDial env ctx snapshot host))
          (fun dial m => t ≤ m.now ∧ (dial = true → Dialable env ctx snapshot host t))
          fun _ m => t ≤ m.now :=
        Eff.Spec.onPart fun m hm => (spec_mayDial host t).mono (fun _ hs => hs ▸ hm)
          (fun _ _ h => h) fun _ _ h => h
      refine hdial.bind fun dial => ?_
      cases dial with
      | false =>
          intro m hm
          exact hrest ⟨some false, _⟩ (by simp) m hm.1
      | true =>
          rintro m ⟨hm, haddr⟩
          refine (spec_attemptHost kind host t).bind (fun last => ?_) m hm
          rintro m' ⟨hm', hreached⟩
          by_cases hlast : last.reachable = some true
          · rw [if_pos hlast]
            exact ⟨hm', fun _ => ⟨host, List.mem_cons_self, haddr rfl, hreached hlast, rfl⟩⟩
          · rw [if_neg hlast]
            exact hrest last hlast m' hm'

/-! ## the probe -/

/-- The client of the snapshot's profile. -/
def ClientKind.IsFor (env : ProbeEnv) (ctx : Ctx) (snapshot : ConfigVersionSnapshot)
    (kind : ClientKind) : Prop :=
  if snapshot.profile = .hysteria2 then ∃ caPath, kind = hysteriaKind ctx snapshot caPath
  else kind = xrayKind env ctx snapshot

/-- What an answer "reachable" means: between two times `curl` got through a client
for one of the hosts. -/
def SnapshotReached (env : ProbeEnv) (settings : ProbeRunSettings) (ctx : Ctx)
    (snapshot : ConfigVersionSnapshot) (probe : VpnConnectivityProbe) (t t' : Nat) : Prop :=
  ∃ kind : ClientKind, kind.IsFor env ctx snapshot ∧
    HostReached env settings ctx snapshot kind (dialedHosts snapshot ctx.settings) probe t t'

theorem SnapshotReached.mono {probe : VpnConnectivityProbe} {t t' s' : Nat}
    (h : SnapshotReached env settings ctx snapshot probe t t') (hle : t' ≤ s') :
    SnapshotReached env settings ctx snapshot probe t s' := by
  obtain ⟨kind, hkind, host, hhost, haddr, ⟨port, doc, path, hconfig, hstarted⟩, hdetail⟩ := h
  exact ⟨kind, hkind, host, hhost, haddr, ⟨port, doc, path, hconfig, hstarted.mono hle⟩, hdetail⟩

theorem spec_probeViaXray (hprofile : snapshot.profile ≠ .hysteria2) (t : Nat) :
    Eff.Spec (fun m => t ≤ m.now) (probeViaXray env settings ctx snapshot)
      (fun probe m => t ≤ m.now ∧ (probe.reachable = some true →
        SnapshotReached env settings ctx snapshot probe t m.now)) fun _ m => t ≤ m.now := by
  have hkind : (xrayKind env ctx snapshot).IsFor env ctx snapshot := by
    rw [ClientKind.IsFor, if_neg hprofile]
  have hhosts : probedHosts ctx snapshot = dialedHosts snapshot ctx.settings := by
    simp [probedHosts, dialedHosts, hprofile]
  refine (spec_later (later_raising _) t).bind fun there => ?_
  split
  · exact Eff.Spec.pure fun m hm => ⟨hm, fun h => by cases h⟩
  · split
    · exact Eff.Spec.pure fun m hm => ⟨hm, fun h => by cases h⟩
    · rw [hhosts]
      exact (spec_probeHosts env settings ctx snapshot _ _ probeFailed (by simp [probeFailed])
        t).mono (fun _ h => h) (fun probe m h => ⟨h.1, fun hr => ⟨_, hkind, h.2 hr⟩⟩) fun _ _ h => h

theorem spec_probeViaHysteria (hprofile : snapshot.profile = .hysteria2) (t : Nat) :
    Eff.Spec (fun m => t ≤ m.now) (probeViaHysteria env settings ctx snapshot)
      (fun probe m => t ≤ m.now ∧ (probe.reachable = some true →
        SnapshotReached env settings ctx snapshot probe t m.now)) fun _ m => t ≤ m.now := by
  refine (spec_later (later_raising _) t).bind fun there => ?_
  split
  · exact Eff.Spec.pure fun m hm => ⟨hm, fun h => by cases h⟩
  · split
    · exact Eff.Spec.pure fun m hm => ⟨hm, fun h => by cases h⟩
    · split
      · exact Eff.Spec.pure fun m hm => ⟨hm, fun h => by cases h⟩
      · next hcert =>
        have hhosts : probedHosts ctx snapshot = dialedHosts snapshot ctx.settings := by
          simp [probedHosts, dialedHosts, hcert]
        refine (spec_later (later_tempFile env) t).bind fun ca => ?_
        have hkind : (hysteriaKind ctx snapshot (env.path ca ".pem")).IsFor env ctx snapshot := by
          rw [ClientKind.IsFor, if_pos hprofile]
          exact ⟨_, rfl⟩
        rw [hhosts]
        have hbody := (spec_probeHosts env settings ctx snapshot
          (hysteriaKind ctx snapshot (env.path ca ".pem"))
          (dialedHosts snapshot ctx.settings) probeFailed (by simp [probeFailed]) t).mono
          (fun _ h => h) (fun probe m h => (⟨h.1, fun hr => ⟨_, hkind, h.2 hr⟩⟩ : t ≤ m.now ∧
            (probe.reachable = some true →
              SnapshotReached env settings ctx snapshot probe t m.now))) fun _ _ h => h
        refine hbody.ensuring (fun probe => ?_) (fun _ _ => spec_later (later_unlinkFile env ca) t)
          fun _ _ _ h => h
        exact ((later_unlinkFile env ca).spec fun _ _ hle h =>
          ⟨Nat.le_trans h.1 hle, fun hr => (h.2 hr).mono hle⟩).mono (fun _ h => h)
          (fun _ _ h => h) fun _ _ h => h.1

/-- A probe that answers "reachable" has reached the config. -/
theorem reached_of_freshProbe {m m' : ProbeMachine} {probe : VpnConnectivityProbe}
    (hx : (freshProbe env settings ctx snapshot).exec m = (.ok probe, m'))
    (hr : probe.reachable = some true) :
    SnapshotReached env settings ctx snapshot probe m.now m'.now := by
  have hspec : Eff.Spec (fun s => m.now ≤ s.now) (freshProbe env settings ctx snapshot)
      (fun probe s => m.now ≤ s.now ∧ (probe.reachable = some true →
        SnapshotReached env settings ctx snapshot probe m.now s.now)) fun _ s => m.now ≤ s.now := by
    refine Eff.Spec.catching (F := fun _ s => m.now ≤ s.now) ?_
      (fun _ _ => Eff.Spec.pure fun s hs => ⟨hs, fun h => by cases h⟩) fun _ _ _ h => h
    cases hprofile : snapshot.profile with
    | hysteria2 => exact spec_probeViaHysteria hprofile m.now
    | xrayReality | xrayGrpc | xrayXhttp =>
        exact spec_probeViaXray (by rw [hprofile]; decide) m.now
  exact (hspec.ok (Nat.le_refl m.now) hx).2 hr

end Host

/-! ## all answers of a process -/

section Answers

variable (env : ProbeEnv) (settings : ProbeRunSettings) (ctx : Ctx)

/-- The probe a request has had to make is one of the model; the clock of the
process counts microseconds. -/
def ProbesRun (p : ProbePanel) : ProbeAction → Prop
  | .probed i outcome => ∀ snapshot started,
      p.cache.readers i = some { row := snapshot, asking := some started } →
      ∃ m m', started ≤ m.now * 1000 ∧ m'.now * 1000 ≤ p.cache.clock ∧
        (freshProbe env settings ctx snapshot).exec m = (.ok outcome, m')
  | _ => True

/-- What was answered "reachable" was reached while it was asked for. -/
def AskedReached (q : TtlAsked ConfigVersionSnapshot VpnConnectivityProbe) : Prop :=
  q.value.reachable = some true → ∃ t t', q.started ≤ t * 1000 ∧ t' * 1000 ≤ q.finished ∧
    SnapshotReached env settings ctx q.row q.value t t'

/-- What the cache holds and has answered was asked for, for the same version; and what
was asked for was reached. -/
structure AnswersReached (p : ProbePanel) : Prop where
  cache : p.cache.Sound cacheKey (probeTtl settings.toProbeSettings)
    (fun s s' => cacheKey s = cacheKey s') fun _ => True
  asked : ∀ q ∈ p.cache.asked, AskedReached env settings ctx q

variable {env settings ctx}

theorem answersReached_step {p : ProbePanel} (a : ProbeAction)
    (h : AnswersReached env settings ctx p) (hruns : ProbesRun env settings ctx p a) :
    AnswersReached env settings ctx (ProbePanel.step ctx settings.toProbeSettings p a) := by
  obtain ⟨hcache, hasked⟩ := h
  cases a with
  | lifecycle a => exact ⟨hcache, hasked⟩
  | read i c v =>
      show AnswersReached env settings ctx (p.readSnapshot i c v)
      unfold ProbePanel.readSnapshot
      split
      · next s _ =>
        refine ⟨hcache.read trivial i, ?_⟩
        show ∀ q ∈ (p.cache.read i s).asked, AskedReached env settings ctx q
        unfold TtlCache.read
        split <;> exact hasked
      · exact ⟨hcache, hasked⟩
  | probe i =>
      show AnswersReached env settings ctx (p.probeConfigConnectivity settings.toProbeSettings i)
      unfold ProbePanel.probeConfigConnectivity
      split
      · refine ⟨hcache.call (fun _ _ _ _ hkey => hkey) i, ?_⟩
        show ∀ q ∈ (p.cache.call cacheKey (probeTtl settings.toProbeSettings) i).asked,
          AskedReached env settings ctx q
        unfold TtlCache.call
        split
        · split <;> exact hasked
        · exact hasked
      · exact ⟨hcache, hasked⟩
  | probed i outcome =>
      refine ⟨hcache.finish i outcome, ?_⟩
      show ∀ q ∈ (p.cache.finish cacheKey i outcome).asked, AskedReached env settings ctx q
      unfold TtlCache.finish
      split
      · next snapshot started hi =>
        intro q hq
        obtain hq | hq := List.mem_append.mp hq
        · exact hasked q hq
        · obtain rfl := List.mem_singleton.mp hq
          obtain ⟨m, m', hstart, hfinish, hx⟩ := hruns snapshot started hi
          exact fun hr => ⟨m.now, m'.now, hstart, hfinish, reached_of_freshProbe hx hr⟩
      · exact hasked
  | elapse d => exact ⟨hcache.elapse d, hasked⟩

end Answers

/-- **Answers are backed.**  In every run of the panel's process, whatever the lifecycle
and other requests do in between: an answer "reachable" that comes out of the cache was
asked for the same version, less than its time to live before; and for what was asked,
`curl` had got through a client for one of the hosts of the snapshot while it was asked. -/
theorem answered_reached (env : ProbeEnv) (settings : ProbeRunSettings) (ctx : Ctx) (host : Host)
    (as : List ProbeAction)
    (hruns : Machine.Meets (ProbePanel.step ctx settings.toProbeSettings)
      (ProbesRun env settings ctx) (ProbePanel.init host) as) :
    (∀ q ∈ (runProbes ctx settings.toProbeSettings host as).cache.asked,
        AskedReached env settings ctx q) ∧
      ∀ a ∈ (runProbes ctx settings.toProbeSettings host as).cache.answers,
        a.value.reachable = some true →
        ∃ q ∈ (runProbes ctx settings.toProbeSettings host as).cache.asked,
          cacheKey q.row = cacheKey a.row ∧ q.value = a.value ∧ q.finished ≤ a.at_ ∧
          a.at_ < q.started + settings.cacheSeconds * 1000000 ∧
          ∃ t t', q.started ≤ t * 1000 ∧ t' * 1000 ≤ q.finished ∧
            SnapshotReached env settings ctx q.row q.value t t' := by
  have h : AnswersReached env settings ctx (runProbes ctx settings.toProbeSettings host as) :=
    Machine.run_invariant_of_meets (fun p a hI hC => answersReached_step a hI hC)
      ⟨TtlCache.sound_empty, fun q hq => by cases hq⟩ hruns
  refine ⟨h.asked, fun a ha hr => ?_⟩
  obtain ⟨q, hq, hkey, hvalue, hfinished, hlt⟩ := h.cache.coherent a ha
  have hreached : q.value.reachable = some true := hvalue ▸ hr
  have httl : probeTtl settings.toProbeSettings q.value = settings.cacheSeconds * 1000000 := by
    rw [probeTtl, if_pos hreached]
  exact ⟨q, hq, hkey, hvalue, hfinished, httl ▸ hlt, h.asked q hq hreached⟩

/-- A Reality template that names its network. -/
def tcpTemplate : PyVal :=
  .dict [("inbounds", .list [.dict [("tag", .str "vless"), ("port", .int 1),
    ("settings", .dict [("clients", .list [.dict [("id", .str "template")]])]),
    ("streamSettings", .dict [("network", .str "tcp"),
      ("realitySettings", .dict [("dest", .str "a.example:443")])])]])]

/-- The first version of a Reality config is probed, and asked about again. -/
def realityProbed : List ProbeAction :=
  (.create 0 0 "c" .xray .xrayReality none none :: .advance 0 { publish := .accepted 0 } ::
      .advance 0 {} :: .deliver 0 0 ::
      List.replicate 8 (.work 0 (realityBuildEnv tcpTemplate))).map ProbeAction.lifecycle ++
    [.read 0 0 1, .probe 0, .elapse 2000000,
      .probed 0 ⟨some true, some "via 127.0.0.1:443"⟩, .read 1 0 1, .probe 1]

theorem exec_freshProbe_tcpSnapshot :
    (freshProbe .working {} Ctx.allProfiles tcpSnapshot).exec {} =
      (.ok ⟨some true, some "via 127.0.0.1:443"⟩, { now := 1253, created := 1 }) := by
  rfl

theorem realityProbed_run :
    Machine.Meets (ProbePanel.step Ctx.allProfiles {}) (ProbesRun .working {} Ctx.allProfiles)
      (ProbePanel.init Host.blank) realityProbed := by
  refine ⟨trivial, trivial, trivial, trivial, trivial, trivial, trivial, trivial, trivial, trivial,
    trivial, trivial, trivial, trivial, trivial, ?_, trivial, trivial, trivial⟩
  intro snapshot started hreader
  have hread : some (⟨tcpSnapshot, some 0⟩ : TtlReader ConfigVersionSnapshot) =
      some ⟨snapshot, some started⟩ := hreader
  cases hread
  exact ⟨{}, _, Nat.le_refl 0, by decide, exec_freshProbe_tcpSnapshot⟩

example :
    (runProbes Ctx.allProfiles {} Host.blank realityProbed).cache.answers.map
        (fun a => (a.at_, a.value.reachable)) = [(2000000, some true)] ∧
      (∀ q ∈ (runProbes Ctx.allProfiles {} Host.blank realityProbed).cache.asked,
        AskedReached .working {} Ctx.allProfiles q) :=
  ⟨by decide, (answered_reached .working {} Ctx.allProfiles Host.blank realityProbed
    realityProbed_run).1⟩

end VpnPanel
