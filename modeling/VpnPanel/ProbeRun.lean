import VpnPanel.BuiltDocuments
import VpnPanel.ServiceReady
import VpnPanel.ProbeCache
import VpnPanel.Lib.Finally

/-!
# VpnPanel.ProbeRun

The connectivity probe at work: `_probe_via_xray`, `_probe_via_hysteria` and
`_run_client_probe` of `vpn_connectivity.py`.

For every host in turn a client is started on a temporary config, and where its
socks port opens in time, `curl` goes through it.  The client is ended and the
file removed whatever happens in between.  What the machine does is any function
of the time; a tick is a millisecond.  Files and processes of the machine itself
take no time; resolving a host, connecting, waiting and reading do.

Reading the streams of a client that runs on takes as long as the client runs:
then the probe never comes back, `Halt.blocked`.
-/

namespace VpnPanel

open Timed

/-! ## the machine -/

/-- How a call ends that does not return: it raises, or it never ends. -/
inductive Halt where
  | raised (e : PyErr)
  | blocked
  deriving DecidableEq, Repr

/-- What runs the handlers and the `finally` blocks around it. -/
def Halt.unwinds : Halt → Bool
  | raised _ => true
  | blocked => false

def Halt.isOSError : Halt → Bool
  | raised e => e.isOSError
  | blocked => false

/-- `str(exc)` -/
def Halt.text : Halt → String
  | raised e => e.msg
  | blocked => ""

/-- What a client process does, by the time. -/
structure Client where
  /-- `proc.poll()` -/
  poll : Nat → Option Int
  /-- Ticks to its end after a signal that is given at a time, if it ends. -/
  terminated : Nat → Option Nat
  killed : Nat → Option Nat
  /-- Ticks to the ends of its streams, if they are reached. -/
  closes : Nat → Option Nat
  /-- What the streams hold then, or nothing where they cannot be read. -/
  stderr : Option String := some ""
  stdout : Option String := some ""

/-- What a probe runs against; the temporary files are numbered. -/
structure ProbeEnv where
  isFile : String → Except PyErr Bool
  getaddrinfo : String → Nat → Nat × Except PyErr Unit
  freePort : Nat → Except PyErr Nat
  path : Nat → String → String
  createFile : Nat → Option PyErr
  writeFile : Nat → Option PyErr
  unlinkFile : Nat → Option PyErr
  /-- `subprocess.Popen`, with what its config file holds. -/
  popen : List String → PyVal → Nat → Except PyErr Client
  /-- `sock.connect_ex(...) == 0`, and how long it takes. -/
  connect : Nat → Nat → Nat × Except PyErr Bool
  connect_bounds : ∀ port t, 0 < (connect port t).1 ∧ (connect port t).1 ≤ 500
  findCurl : Option String
  curl : List String → Nat → Except PyErr Ran
  /-- The choice of `pick_server_name`. -/
  random : Nat

/-- `connectivity_probe_*`; the timeout is in ticks. -/
structure ProbeRunSettings extends ProbeSettings where
  timeout : Nat := 12000
  url : String := "https://ya.ru/"
  timeout_bounds : 3000 ≤ timeout ∧ timeout ≤ 60000 := by decide

/-- A client that was started on a config file. -/
structure Proc where
  command : List String
  config : Nat
  client : Client

/-- The clock, with the clients that were started and have not been seen to end,
the temporary files that are there, and `_CACHE`. -/
structure ProbeMachine where
  now : Nat := 0
  running : List Proc := []
  created : Nat := 0
  files : List Nat := []
  cache : ConfigId × Nat → Option (Nat × VpnConnectivityProbe) := fun _ => none

abbrev ProbeM (α : Type) := Eff ProbeMachine Halt α

/-- What only takes time. -/
def onClock {α : Type} (x : Timed Halt α) : ProbeM α :=
  Eff.onPart ProbeMachine.now (fun t m => { m with now := t }) x

def raising {σ α : Type} (r : Except PyErr α) : Eff σ Halt α :=
  Eff.ofExcept (r.mapError .raised)

/-- `text[:n]` -/
def firstChars (n : Nat) (text : String) : String := String.ofList (text.toList.take n)

/-- `text[-n:]` -/
def lastChars (n : Nat) (text : String) : String :=
  String.ofList (text.toList.drop (text.length - n))

/-! ## a client -/

section Client

variable (env : ProbeEnv) (settings : ProbeRunSettings)

/-- `is_tcp_port_open` -/
def tcpPortOpen (port : Nat) : Timed Halt Bool := do
  let t ← now
  sleep (env.connect port t).1
  raising (env.connect port t).2

/-- The rest of a round where the port is not open. -/
def waitPause (client : Client) : Timed Halt (Unit ⊕ Bool) := do
  let t ← now
  if (client.poll t).isSome then pure (.inr false)
  else do
    sleep 200
    pure (.inl ())

def waitRound (port : Nat) (client : Client) : Timed Halt (Unit ⊕ Bool) := do
  let opened ← tcpPortOpen env port
  if opened then pure (.inr true) else waitPause client

/-- `_wait_for_port(socks_port, timeout=min(5.0, timeout), proc=proc)` -/
def waitForPort (port : Nat) (client : Client) : Timed Halt Bool := do
  let r ← pollFor (min (5 * second) settings.timeout) (fun _ _ => waitRound env port client) ()
  pure (r.elim (fun _ => false) id)

/-- What `_read_process_tail` makes of the streams. -/
def Client.tail (client : Client) : String :=
  let texts := [client.stderr, client.stdout].filterMap fun stream =>
    stream.bind fun data => if PyStr.strip data ≠ "" then some (PyStr.strip data) else none
  lastChars 240 (PyStr.strip (String.intercalate " | " texts))

/-- `_read_process_tail` -/
def readProcessTail (client : Client) : Timed Halt String := do
  let t ← now
  match client.closes t with
  | none => Eff.raise .blocked
  | some d => do
      sleep d
      pure client.tail

def socksStartFailureDetail (client : Client) (host : String) : Timed Halt String := do
  let t ← now
  let tail ← readProcessTail client
  let detail := match client.poll t with
    | some exitCode => "probe client exited (" ++ toString exitCode ++ ") host=" ++ host
    | none => "local socks proxy did not start (host=" ++ host ++ ")"
  pure (firstChars 240 (if tail ≠ "" then detail ++ ": " ++ tail else detail))

/-- The command line of `_curl_via_socks`. -/
def curlCommand (curl : String) (port : Nat) : List String :=
  [curl, "-fsS", "--max-time", toString (max 1 (settings.timeout / second)), "-x",
    "socks5h://127.0.0.1:" ++ toString port, settings.url]

/-- What `_curl_via_socks` makes of a `curl` that has ended. -/
def curlResult (ran : Ran) : Bool × String :=
  if ran.returncode ≠ 0 then
    let err := PyStr.strip ran.stderr
    (false, firstChars 240 (if err ≠ "" then err else "curl failed"))
  else (true, "")

def curlViaSocks (port : Nat) : Timed Halt (Bool × String) :=
  match env.findCurl with
  | none => pure (false, "curl not found")
  | some curl => do
      let t ← now
      match env.curl (curlCommand settings curl port) t with
      | .error e => if e.isOSError then pure (false, e.msg) else Eff.raise (.raised e)
      | .ok ran =>
          if ran.takes ≤ settings.timeout + 2 * second then do
            sleep ran.takes
            pure (curlResult ran)
          else do
            sleep (settings.timeout + 2 * second)
            pure (false, "connectivity probe timed out")

/-- The body of `_run_client_probe` once the client has started. -/
def probeClient (client : Client) (port : Nat) (host : String) :
    Timed Halt VpnConnectivityProbe := do
  let opened ← waitForPort env settings port client
  if opened then do
    sleep 500
    let (ok, detail) ← curlViaSocks env settings port
    if ok then pure ⟨some true, none⟩
    else pure ⟨some false, some (if detail ≠ "" then detail else "connectivity probe failed")⟩
  else do
    let detail ← socksStartFailureDetail client host
    pure ⟨some false, some detail⟩

/-- The process has been seen to end. -/
def ProbeMachine.reaped (f : Nat) (m : ProbeMachine) : ProbeMachine :=
  { m with running := m.running.filter fun p => p.config ≠ f }

/-- `proc.wait(timeout=3)` after a signal: whether the process has ended. -/
def waitEnd (p : Proc) (ends : Option Nat) : ProbeM Bool :=
  match ends.filter (· ≤ 3 * second) with
  | some d => do
      onClock (sleep d)
      Eff.update (ProbeMachine.reaped p.config)
      pure true
  | none => do
      onClock (sleep (3 * second))
      pure false

/-- `_terminate_process` after `proc.terminate()` has not helped. -/
def killProcess (p : Proc) : ProbeM Unit := do
  let m ← Eff.read
  let ended ← waitEnd p (p.client.killed m.now)
  if ended then pure () else Eff.raise (.raised (timeoutExpired p.command 3))

/-- `_terminate_process` -/
def terminateProcess (p : Proc) : ProbeM Unit := do
  let m ← Eff.read
  if (p.client.poll m.now).isSome then Eff.update (ProbeMachine.reaped p.config)
  else do
    let ended ← waitEnd p (p.client.terminated m.now)
    if ended then pure () else killProcess p

/-- `path.unlink(missing_ok=True)` -/
def unlinkFile (f : Nat) : ProbeM Unit :=
  match env.unlinkFile f with
  | some e => Eff.raise (.raised e)
  | none => Eff.update fun m => { m with files := m.files.filter (· ≠ f) }

/-- The `finally` of `_run_client_probe`. -/
def endClient (p : Proc) : ProbeM Unit := do
  terminateProcess p
  unlinkFile env p.config

/-- `NamedTemporaryFile(..., delete=False)`, and what is written to it. -/
def tempFile : ProbeM Nat := do
  let m ← Eff.read
  Eff.update fun m => { m with created := m.created + 1 }
  match env.createFile m.created with
  | some e => Eff.raise (.raised e)
  | none => do
      Eff.update fun m' => { m' with files := m.created :: m'.files }
      match env.writeFile m.created with
      | some e => Eff.raise (.raised e)
      | none => pure m.created

/-- `except OSError` of `_run_client_probe`. -/
def osErrorProbe (h : Halt) : ProbeM VpnConnectivityProbe := pure ⟨some false, some h.text⟩

/-- `_run_client_probe`, for a client with `doc` in its config file. -/
def runClientProbe (command : List String) (f : Nat) (doc : PyVal) (port : Nat) (host : String) :
    ProbeM VpnConnectivityProbe := do
  let m ← Eff.read
  match env.popen command doc m.now with
  | .error e =>
      Eff.ensuring Halt.unwinds
        (Eff.catching Halt.isOSError (Eff.raise (.raised e)) osErrorProbe) (unlinkFile env f)
  | .ok client => do
      Eff.update fun m => { m with running := ⟨command, f, client⟩ :: m.running }
      Eff.ensuring Halt.unwinds
        (Eff.catching Halt.isOSError (onClock (probeClient env settings client port host))
          osErrorProbe)
        (endClient env ⟨command, f, client⟩)

end Client

/-! ## the hosts -/

/-- How a profile's client is run: its binary, the name of its config file, its
command line and what is in the file. -/
structure ClientKind where
  binary : String
  suffix : String
  command : String → List String
  config : (host : String) → (socksPort : Nat) → Except PyErr PyVal

section Hosts

variable (env : ProbeEnv) (settings : ProbeRunSettings) (ctx : Ctx)
  (snapshot : ConfigVersionSnapshot)

/-- `_host_resolves` -/
def hostResolves (host : String) : Timed Halt Bool := do
  let t ← now
  sleep (env.getaddrinfo host t).1
  match (env.getaddrinfo host t).2 with
  | .ok () => pure true
  | .error e => if e.isOSError then pure false else Eff.raise (.raised e)

/-- The host may be dialed: it resolves, where that is asked. -/
def mayDial (host : String) : Timed Halt Bool :=
  if !probeAllowLoopback snapshot ctx.settings && !isLoopback host then hostResolves env host
  else pure true

/-- A client for the host, from its socks port to its end. -/
def attemptHost (kind : ClientKind) (host : String) : ProbeM VpnConnectivityProbe := do
  let m ← Eff.read
  let port ← raising (env.freePort m.now)
  let doc ← raising (kind.config host port)
  let f ← tempFile env
  runClientProbe env settings (kind.command (env.path f kind.suffix)) f doc port host

/-- The loop over the hosts; `last` is what has been found so far. -/
def probeHosts (kind : ClientKind) :
    VpnConnectivityProbe → List String → ProbeM VpnConnectivityProbe
  | last, [] => pure last
  | _, host :: hosts => do
      let dial ← onClock (mayDial env ctx snapshot host)
      if dial then do
        let last ← attemptHost env settings kind host
        if last.reachable = some true then
          pure ⟨some true, some ("via " ++ host ++ ":" ++
            toString (probeDialPort snapshot host ctx.settings))⟩
        else probeHosts kind last hosts
      else probeHosts kind ⟨some false, some ("DNS failed for " ++ host)⟩ hosts

def probeFailed : VpnConnectivityProbe := ⟨some false, some "connectivity probe failed"⟩

def noProbeHost : VpnConnectivityProbe :=
  ⟨none, some "no probe host (set share_public_host or vpn.public_host)"⟩

def xrayKind : ClientKind where
  binary := ctx.settings.systemd.xrayBinary
  suffix := ".json"
  command path := [ctx.settings.systemd.xrayBinary, "run", "-config", path]
  config host socksPort := buildXrayClientConfig env.random ctx snapshot host socksPort

/-- `caPath` is where the certificate of the snapshot has been written. -/
def hysteriaKind (caPath : String) : ClientKind where
  binary := ctx.settings.systemd.hysteriaBinary
  suffix := ".yaml"
  command path := [ctx.settings.systemd.hysteriaBinary, "client", "-c", path]
  config host socksPort := buildHysteriaClientConfig ctx snapshot host socksPort (some caPath)

/-- The hosts of `_probe_connect_hosts`. -/
def probedHosts : List String :=
  probeConnectHosts ctx.settings (probePreferHost snapshot ctx.settings)
    (probeAllowLoopback snapshot ctx.settings)

/-- `_probe_via_xray` -/
def probeViaXray : ProbeM VpnConnectivityProbe := do
  let there ← raising (env.isFile ctx.settings.systemd.xrayBinary)
  if !there then pure ⟨none, some "xray binary not found"⟩
  else if probedHosts ctx snapshot = [] then pure noProbeHost
  else
    probeHosts env settings ctx snapshot (xrayKind env ctx snapshot) probeFailed
      (probedHosts ctx snapshot)

/-- `_probe_via_hysteria` -/
def probeViaHysteria : ProbeM VpnConnectivityProbe := do
  let there ← raising (env.isFile ctx.settings.systemd.hysteriaBinary)
  if !there then pure ⟨none, some "hysteria binary not found"⟩
  else if probedHosts ctx snapshot = [] then pure noProbeHost
  else if PyStr.strip snapshot.publicKey = "" then
    pure ⟨none, some "hysteria certificate missing from snapshot"⟩
  else do
    let ca ← tempFile env
    Eff.ensuring Halt.unwinds
      (probeHosts env settings ctx snapshot (hysteriaKind ctx snapshot (env.path ca ".pem"))
        probeFailed (probedHosts ctx snapshot))
      (unlinkFile env ca)

/-- `except Exception` of `probe_config_connectivity`. -/
def probeError (h : Halt) : ProbeM VpnConnectivityProbe :=
  pure ⟨some false, some (firstChars 240 ("probe error: " ++ h.text))⟩

/-- The probe that `probe_config_connectivity` makes when it has none to use. -/
def freshProbe : ProbeM VpnConnectivityProbe :=
  Eff.catching Halt.unwinds
    (match snapshot.profile with
      | .hysteria2 => probeViaHysteria env settings ctx snapshot
      | .xrayReality | .xrayGrpc | .xrayXhttp => probeViaXray env settings ctx snapshot)
    probeError

/-- The entry of the cache, if it may still be used. -/
def cachedProbe (m : ProbeMachine) : Option VpnConnectivityProbe :=
  match m.cache (cacheKey snapshot) with
  | some (cachedAt, probe) =>
      if m.now * 1000 < cachedAt * 1000 + probeTtl settings.toProbeSettings probe then some probe
      else none
  | none => none

/-- `probe_config_connectivity` -/
def probeConfigConnectivity : ProbeM VpnConnectivityProbe :=
  if !settings.enabled then pure ⟨none, none⟩
  else do
    let m ← Eff.read
    match cachedProbe settings snapshot m with
    | some probe => pure probe
    | none => do
        let probe ← freshProbe env settings ctx snapshot
        Eff.update fun m' =>
          { m' with cache := Function.update m'.cache (cacheKey snapshot) (some (m.now, probe)) }
        pure probe

end Hosts

/-! ## what a probe leaves behind -/

/-- Neither signal ends the client in the three seconds it is given. -/
def Client.Outlives (client : Client) : Prop :=
  ∃ t, (client.terminated t).filter (· ≤ 3 * second) = none ∧
    (client.killed (t + 3 * second)).filter (· ≤ 3 * second) = none

/-- A file that was made may still be there: it could not be written or removed,
or its client runs on. -/
def MayStay (env : ProbeEnv) (m : ProbeMachine) (f : Nat) : Prop :=
  (env.writeFile f).isSome ∨ (env.unlinkFile f).isSome ∨
    ∃ p ∈ m.running, p.config = f ∧ p.client.Outlives

/-- What is there after a probe and was not before: clients that outlive their
signals, and files that may stay. -/
structure Tidy (env : ProbeEnv) (m m' : ProbeMachine) : Prop where
  created : m.created ≤ m'.created
  kept : ∀ p ∈ m.running, p.config < m.created → p ∈ m'.running
  running : ∀ p ∈ m'.running, p ∈ m.running ∨ p.client.Outlives
  files : ∀ f ∈ m'.files, f ∈ m.files ∨ f < m'.created ∧ MayStay env m' f

variable {env : ProbeEnv}

theorem Tidy.refl (m : ProbeMachine) : Tidy env m m where
  created := Nat.le_refl _
  kept _ hp _ := hp
  running _ hp := .inl hp
  files _ hf := .inl hf

theorem MayStay.of_tidy {m m' : ProbeMachine} {f : Nat} (h : MayStay env m f)
    (hf : f < m.created) (htidy : Tidy env m m') : MayStay env m' f := by
  obtain h | h | ⟨p, hp, rfl, hlives⟩ := h
  · exact .inl h
  · exact .inr (.inl h)
  · exact .inr (.inr ⟨p, htidy.kept p hp hf, rfl, hlives⟩)

theorem Tidy.trans {m m' m'' : ProbeMachine} (h : Tidy env m m') (h' : Tidy env m' m'') :
    Tidy env m m'' where
  created := h.created.trans h'.created
  kept p hp hlt := h'.kept p (h.kept p hp hlt) (hlt.trans_le h.created)
  running p hp := by
    obtain hp | hp := h'.running p hp
    · exact h.running p hp
    · exact .inr hp
  files f hf := by
    obtain hf | hf := h'.files f hf
    · obtain hf | ⟨hlt, hstay⟩ := h.files f hf
      · exact .inl hf
      · exact .inr ⟨hlt.trans_le h'.created, hstay.of_tidy hlt h'⟩
    · exact .inr hf

instance : IsPreorder ProbeMachine (Tidy env) where
  refl := Tidy.refl
  trans _ _ _ := Tidy.trans

/-- The clock has moved. -/
theorem Tidy.at (m : ProbeMachine) (t : Nat) : Tidy env m { m with now := t } where
  created := Nat.le_refl _
  kept _ hp _ := hp
  running _ hp := .inl hp
  files _ hf := .inl hf

theorem spec_onClock {α : Type} (x : Timed Halt α) (m : ProbeMachine) :
    Eff.Spec (· = m) (onClock x) (fun _ m' => ∃ t, m' = { m with now := t })
      fun _ m' => ∃ t, m' = { m with now := t } := by
  rintro m rfl
  rw [onClock, Eff.exec_onPart]
  cases (x.exec m.now).1 with
  | ok a => exact ⟨_, rfl⟩
  | error h => exact ⟨_, rfl⟩

theorem within_onClock {α : Type} (x : Timed Halt α) : Eff.Within (Tidy env) (onClock x) := by
  intro m
  rw [onClock, Eff.exec_onPart]
  exact Tidy.at m _

theorem within_raising {α : Type} (r : Except PyErr α) :
    Eff.Within (Tidy env) (raising r : ProbeM α) := Eff.Within.ofExcept _

/-! ### the end of a client -/

theorem exec_waitEnd (p : Proc) (ends : Option Nat) (m : ProbeMachine) :
    (∃ t, (waitEnd p ends).exec m = (.ok true, { m with now := t }.reaped p.config)) ∨
      ends.filter (· ≤ 3 * second) = none ∧
        (waitEnd p ends).exec m = (.ok false, { m with now := m.now + 3 * second }) := by
  rw [waitEnd]
  cases h : ends.filter (· ≤ 3 * second) with
  | some d => exact .inl ⟨m.now + d, rfl⟩
  | none => exact .inr ⟨rfl, rfl⟩

/-- How `_terminate_process` ends. -/
theorem exec_terminateProcess (p : Proc) (m : ProbeMachine) :
    (∃ t, (terminateProcess p).exec m = (.ok (), { m with now := t }.reaped p.config)) ∨
      p.client.Outlives ∧
        ∃ e t, (terminateProcess p).exec m = (.error (.raised e), { m with now := t }) := by
  rw [terminateProcess, Eff.exec_bind_ok (Eff.exec_read m)]
  by_cases hpoll : (p.client.poll m.now).isSome = true
  · rw [if_pos hpoll]
    exact .inl ⟨m.now, rfl⟩
  · rw [if_neg hpoll]
    obtain ⟨t, hterm⟩ | ⟨hterm, hwait⟩ := exec_waitEnd p (p.client.terminated m.now) m
    · rw [Eff.exec_bind_ok hterm]
      exact .inl ⟨t, rfl⟩
    · rw [Eff.exec_bind_ok hwait, if_neg Bool.false_ne_true, killProcess,
        Eff.exec_bind_ok (Eff.exec_read _)]
      obtain ⟨t, hkill⟩ | ⟨hkill, hwait⟩ :=
        exec_waitEnd p (p.client.killed (m.now + 3 * second)) { m with now := m.now + 3 * second }
      · rw [Eff.exec_bind_ok hkill]
        exact .inl ⟨t, rfl⟩
      · rw [Eff.exec_bind_ok hwait]
        exact .inr ⟨⟨m.now, hterm, hkill⟩, _, _, rfl⟩

/-- How `_run_client_probe` leaves the client and the file `f`. -/
structure ClientEnded (env : ProbeEnv) (f : Nat) (m m' : ProbeMachine) : Prop where
  created : m'.created = m.created
  kept : ∀ p ∈ m.running, p.config ≠ f → p ∈ m'.running
  running : ∀ p ∈ m'.running, p ∈ m.running ∨ p.client.Outlives
  files : ∀ g ∈ m'.files, g ∈ m.files ∧ (g = f → MayStay env m' f)

theorem spec_unlinkFile (f : Nat) (m : ProbeMachine) :
    Eff.Spec (· = m) (unlinkFile env f)
      (fun _ m' => m' = { m with files := m.files.filter (· ≠ f) })
      fun _ m' => (env.unlinkFile f).isSome ∧ m' = m := by
  rintro m rfl
  rw [unlinkFile]
  cases h : env.unlinkFile f with
  | none => rfl
  | some e => exact ⟨rfl, rfl⟩

/-- The machine with a client that has been started. -/
def ProbeMachine.started (p : Proc) (t : Nat) (m : ProbeMachine) : ProbeMachine :=
  { m with now := t, running := p :: m.running }

/-- The client has been seen to end; its file is gone or cannot be removed. -/
theorem clientEnded_of_reaped {p : Proc} {m : ProbeMachine} {t s : Nat} {files : List Nat}
    (hfiles : ∀ g ∈ files, g ∈ m.files ∧ (g = p.config → (env.unlinkFile p.config).isSome)) :
    ClientEnded env p.config m
      { ({ m.started p t with now := s }.reaped p.config) with files := files } where
  created := rfl
  kept q hq hne := List.mem_filter.mpr ⟨List.mem_cons_of_mem p hq, decide_eq_true hne⟩
  running q hq := by
    obtain ⟨hq, hne⟩ := List.mem_filter.mp hq
    obtain rfl | hq := List.mem_cons.mp hq
    · exact absurd rfl (of_decide_eq_true hne)
    · exact .inl hq
  files g hg := by
    obtain ⟨hmem, hstay⟩ := hfiles g hg
    exact ⟨hmem, fun heq => .inr (.inl (hstay heq))⟩

/-- The client outlives its signals: it is left as it is, and so is its file. -/
theorem clientEnded_of_outlives {p : Proc} {m : ProbeMachine} {t s : Nat}
    (hlives : p.client.Outlives) :
    ClientEnded env p.config m { m.started p t with now := s } where
  created := rfl
  kept q hq _ := List.mem_cons_of_mem p hq
  running q hq := by
    obtain rfl | hq := List.mem_cons.mp hq
    · exact .inr hlives
    · exact .inl hq
  files g hg := ⟨hg, fun _ => .inr (.inr ⟨p, List.mem_cons_self, rfl, hlives⟩)⟩

theorem spec_endClient (p : Proc) (m : ProbeMachine) :
    Eff.Spec (fun m' => ∃ t, m' = m.started p t) (endClient env p)
      (fun _ => ClientEnded env p.config m) fun _ => ClientEnded env p.config m := by
  rintro _ ⟨t, rfl⟩
  rw [endClient]
  obtain ⟨s, hterm⟩ | ⟨hlives, e, s, hterm⟩ := exec_terminateProcess p (m.started p t)
  · rw [Eff.exec_bind_ok hterm]
    refine ((spec_unlinkFile p.config _).mono (fun _ h => h) ?_ ?_) _ rfl
    · rintro _ _ rfl
      exact clientEnded_of_reaped (t := t) fun g hg => by
        obtain ⟨hg, hne⟩ := List.mem_filter.mp hg
        exact ⟨hg, fun heq => absurd heq (of_decide_eq_true hne)⟩
    · rintro _ _ ⟨hstuck, rfl⟩
      exact clientEnded_of_reaped (t := t) fun g hg => ⟨hg, fun _ => hstuck⟩
  · rw [Eff.exec_bind_error hterm]
    exact clientEnded_of_outlives hlives

/-- No client was started: its file is gone or cannot be removed. -/
theorem spec_unlinkFile_ended (f : Nat) (m : ProbeMachine) :
    Eff.Spec (· = m) (unlinkFile env f) (fun _ => ClientEnded env f m)
      fun _ => ClientEnded env f m := by
  have hended (files : List Nat)
      (hfiles : ∀ g ∈ files, g ∈ m.files ∧ (g = f → (env.unlinkFile f).isSome)) :
      ClientEnded env f m { m with files := files } :=
    ⟨rfl, fun _ hq _ => hq, fun _ hq => .inl hq,
      fun g hg => ⟨(hfiles g hg).1, fun heq => .inr (.inl ((hfiles g hg).2 heq))⟩⟩
  refine (spec_unlinkFile f m).mono (fun _ h => h) ?_ ?_
  · rintro _ _ rfl
    exact hended _ fun g hg => by
      obtain ⟨hg, hne⟩ := List.mem_filter.mp hg
      exact ⟨hg, fun heq => absurd heq (of_decide_eq_true hne)⟩
  · rintro _ _ ⟨hstuck, rfl⟩
    exact hended _ fun g hg => ⟨hg, fun _ => hstuck⟩

/-- The client and its file, whatever happens between start and end. -/
theorem spec_runClientProbe (settings : ProbeRunSettings) (command : List String) (f : Nat)
    (doc : PyVal) (port : Nat) (host : String) (m : ProbeMachine) :
    Eff.Spec (· = m) (runClientProbe env settings command f doc port host)
      (fun _ => ClientEnded env f m) fun h m' => h.unwinds = true → ClientEnded env f m m' := by
  rintro m rfl
  rw [runClientProbe, Eff.exec_bind_ok (Eff.exec_read m)]
  cases hopen : env.popen command doc m.now with
  | error e =>
      have hbody : Eff.Spec (· = m)
          (Eff.catching Halt.isOSError (Eff.raise (.raised e)) osErrorProbe)
          (fun _ => (· = m)) fun h m' => h.unwinds = true → m' = m :=
        (Eff.Spec.raise fun _ h => h).catching (F := fun _ => (· = m))
          (fun _ _ => Eff.Spec.pure fun _ h => h) fun _ _ _ h _ => h
      exact hbody.ensuring_of_cleanup (spec_unlinkFile_ended f m) m rfl
  | ok client =>
      have hbody : Eff.Spec (· = m.started ⟨command, f, client⟩ m.now)
          (Eff.catching Halt.isOSError (onClock (probeClient env settings client port host))
            osErrorProbe)
          (fun _ m' => ∃ t, m' = m.started ⟨command, f, client⟩ t)
          fun h m' => h.unwinds = true → ∃ t, m' = m.started ⟨command, f, client⟩ t := by
        exact Eff.Spec.catching (spec_onClock _ (m.started ⟨command, f, client⟩ m.now))
          (fun _ _ => Eff.Spec.pure fun _ h => h) fun _ _ _ h _ => h
      exact hbody.ensuring_of_cleanup (spec_endClient ⟨command, f, client⟩ m) _ rfl

/-! ### temporary files -/

/-- The machine with one more file. -/
def ProbeMachine.withFile (m : ProbeMachine) : ProbeMachine :=
  { m with created := m.created + 1, files := m.created :: m.files }

variable (env) in
theorem exec_tempFile (m : ProbeMachine) :
    (tempFile env).exec m = (.ok m.created, m.withFile) ∨
      ∃ e m', (tempFile env).exec m = (.error (.raised e), m') ∧ Tidy env m m' := by
  rw [tempFile, Eff.exec_bind_ok (Eff.exec_read m), Eff.exec_bind_ok (Eff.exec_update _ m)]
  cases hcreate : env.createFile m.created with
  | some e =>
      exact .inr ⟨e, _, rfl, Nat.le_succ _, fun _ hp _ => hp, fun _ hp => .inl hp,
        fun _ hf => .inl hf⟩
  | none =>
      simp only
      rw [Eff.exec_bind_ok (Eff.exec_update _ _)]
      cases hwrite : env.writeFile m.created with
      | some e =>
          refine .inr ⟨e, m.withFile, rfl, Nat.le_succ _, fun _ hp _ => hp, fun _ hp => .inl hp,
            fun f hf => ?_⟩
          obtain rfl | hf := List.mem_cons.mp hf
          · exact .inr ⟨Nat.lt_succ_self _, .inl (by rw [hwrite]; rfl)⟩
          · exact .inl hf
      | none => exact .inl rfl

/-- What is done with a temporary file. -/
theorem settled_tempFile {α : Type} {x : Nat → ProbeM α}
    (hx : ∀ m, Eff.Spec (· = m.withFile) (x m.created) (fun _ => Tidy env m)
      fun h m' => h.unwinds = true → Tidy env m m') :
    Eff.Settled Halt.unwinds (Tidy env) (tempFile env >>= x) := by
  rintro m m rfl
  obtain hfile | ⟨e, m', hfile, htidy⟩ := exec_tempFile env m
  · rw [Eff.exec_bind_ok hfile]
    exact hx m _ rfl
  · rw [Eff.exec_bind_error hfile]
    exact fun _ => htidy

/-- The config file of a client. -/
theorem ClientEnded.tidy {m m' : ProbeMachine} (h : ClientEnded env m.created m.withFile m') :
    Tidy env m m' where
  created := h.created ▸ Nat.le_succ m.created
  kept p hp hlt := h.kept p hp (Nat.ne_of_lt hlt)
  running := h.running
  files f hf := by
    obtain ⟨hmem, hstay⟩ := h.files f hf
    obtain rfl | hmem := List.mem_cons.mp hmem
    · exact .inr ⟨h.created ▸ Nat.lt_succ_self m.created, hstay rfl⟩
    · exact .inl hmem

/-- A file that is removed at the end. -/
theorem spec_unlinkFile_tidy (m : ProbeMachine) :
    Eff.Spec (Tidy env m.withFile) (unlinkFile env m.created) (fun _ => Tidy env m)
      fun _ => Tidy env m := by
  intro m₁ htidy
  have hcreated : m.created < m₁.created := htidy.created
  have hremoved (files : List Nat) (hfiles : ∀ f ∈ files, f ∈ m₁.files ∧
      (f = m.created → (env.unlinkFile f).isSome)) : Tidy env m { m₁ with files := files } := by
    refine ⟨hcreated.le, fun p hp hlt => htidy.kept p hp (hlt.trans (Nat.lt_succ_self _)),
      htidy.running, fun f hf => ?_⟩
    obtain ⟨hf, hstuck⟩ := hfiles f hf
    obtain hf | hf := htidy.files f hf
    · obtain rfl | hf := List.mem_cons.mp hf
      · exact .inr ⟨hcreated, .inr (.inl (hstuck rfl))⟩
      · exact .inl hf
    · exact .inr hf
  refine ((spec_unlinkFile m.created m₁).mono (fun _ h => h) ?_ ?_) m₁ rfl
  · rintro _ _ rfl
    exact hremoved _ fun f hf => by
      obtain ⟨hf, hne⟩ := List.mem_filter.mp hf
      exact ⟨hf, fun heq => absurd heq (of_decide_eq_true hne)⟩
  · rintro _ _ ⟨hstuck, rfl⟩
    exact hremoved _ fun f hf => ⟨hf, fun heq => heq ▸ hstuck⟩

/-! ### the whole probe -/

section Probe

variable (env) (settings : ProbeRunSettings) (ctx : Ctx) (snapshot : ConfigVersionSnapshot)

theorem settled_attemptHost (kind : ClientKind) (host : String) :
    Eff.Settled Halt.unwinds (Tidy env) (attemptHost env settings kind host) := by
  refine (Eff.Settled.of_within Eff.Within.read).bind fun m => ?_
  refine (Eff.Settled.of_within (within_raising _)).bind fun port => ?_
  refine (Eff.Settled.of_within (within_raising _)).bind fun doc => ?_
  exact settled_tempFile fun m => (spec_runClientProbe settings _ _ doc port host _).mono
    (fun _ h => h) (fun _ _ h => h.tidy) fun _ _ h hu => (h hu).tidy

theorem settled_probeHosts (kind : ClientKind) (last : VpnConnectivityProbe)
    (hosts : List String) : Eff.Settled Halt.unwinds (Tidy env)
      (probeHosts env settings ctx snapshot kind last hosts) := by
  induction hosts generalizing last with
  | nil => exact Eff.Settled.of_within (Eff.Within.pure last)
  | cons host hosts ih =>
      refine (Eff.Settled.of_within (within_onClock _)).bind fun dial => ?_
      cases dial with
      | false => exact ih _
      | true =>
          refine (settled_attemptHost env settings kind host).bind fun last => ?_
          by_cases hreached : last.reachable = some true
          · rw [if_pos hreached]
            exact Eff.Settled.of_within (Eff.Within.pure _)
          · rw [if_neg hreached]
            exact ih last

theorem settled_probeViaXray :
    Eff.Settled Halt.unwinds (Tidy env) (probeViaXray env settings ctx snapshot) := by
  refine (Eff.Settled.of_within (within_raising _)).bind fun there => ?_
  split
  · exact Eff.Settled.of_within (Eff.Within.pure _)
  · split
    · exact Eff.Settled.of_within (Eff.Within.pure _)
    · exact settled_probeHosts env settings ctx snapshot _ _ _

theorem settled_probeViaHysteria :
    Eff.Settled Halt.unwinds (Tidy env) (probeViaHysteria env settings ctx snapshot) := by
  refine (Eff.Settled.of_within (within_raising _)).bind fun there => ?_
  split
  · exact Eff.Settled.of_within (Eff.Within.pure _)
  · split
    · exact Eff.Settled.of_within (Eff.Within.pure _)
    · split
      · exact Eff.Settled.of_within (Eff.Within.pure _)
      · exact settled_tempFile fun m =>
          (settled_probeHosts env settings ctx snapshot _ _ _ m.withFile).ensuring_of_cleanup
            (spec_unlinkFile_tidy m)

theorem settled_freshProbe :
    Eff.Settled Halt.unwinds (Tidy env) (freshProbe env settings ctx snapshot) := by
  refine Eff.Settled.catching ?_ (fun _ h => h) fun h => Eff.Settled.of_within (Eff.Within.pure _)
  split
  · exact settled_probeViaHysteria env settings ctx snapshot
  · exact settled_probeViaXray env settings ctx snapshot
  · exact settled_probeViaXray env settings ctx snapshot
  · exact settled_probeViaXray env settings ctx snapshot

/-- Whatever is raised on the way, the probe answers, or never comes back. -/
theorem exec_freshProbe_error {m m' : ProbeMachine} {h : Halt}
    (hx : (freshProbe env settings ctx snapshot).exec m = (.error h, m')) : h = .blocked := by
  rw [freshProbe, Eff.exec_catching] at hx
  split at hx
  · cases hx
  · next h' _ _ =>
    cases h' with
    | raised e => cases hx
    | blocked =>
        cases hx
        rfl

end Probe

/-- **A probe leaves nothing behind.**  Whatever the machine does and whatever is
raised on the way: when the probe comes back, the clients it has started are
gone, but for those that neither signal ends, and so are the files it has made,
but for those that could not be written or removed and the config of such a
client. -/
theorem probeConfigConnectivity_tidy (env : ProbeEnv) (settings : ProbeRunSettings) (ctx : Ctx)
    (snapshot : ConfigVersionSnapshot) (m m' : ProbeMachine) (probe : VpnConnectivityProbe)
    (hx : (probeConfigConnectivity env settings ctx snapshot).exec m = (.ok probe, m')) :
    Tidy env m m' := by
  rw [probeConfigConnectivity] at hx
  cases henabled : settings.enabled with
  | false =>
      rw [henabled] at hx
      cases hx
      exact Tidy.refl m
  | true =>
      rw [henabled, if_neg (by simp), Eff.exec_bind_ok (Eff.exec_read m)] at hx
      cases hcached : cachedProbe settings snapshot m with
      | some probe =>
          rw [hcached] at hx
          cases hx
          exact Tidy.refl m
      | none =>
          rw [hcached] at hx
          obtain ⟨probe', m₁, hfresh, hx⟩ := Eff.exec_bind_eq_ok hx
          have htidy := (settled_freshProbe env settings ctx snapshot).of_exec hfresh
          cases hx
          exact ⟨htidy.created, htidy.kept, htidy.running, htidy.files⟩

/-- A machine on which a client opens its port at 400 ms and works. -/
def ProbeEnv.working : ProbeEnv where
  isFile _ := .ok true
  getaddrinfo _ _ := (20, .ok ())
  freePort _ := .ok 40000
  path n suffix := "/tmp/tmp" ++ toString n ++ suffix
  createFile _ := none
  writeFile _ := none
  unlinkFile _ := none
  popen _ _ _ := .ok {
    poll := fun _ => none
    terminated := fun _ => some 50
    killed := fun _ => some 1
    closes := fun _ => some 10 }
  connect _ t := (1, .ok (decide (400 ≤ t)))
  connect_bounds _ _ := ⟨Nat.one_pos, Nat.le_add_left 1 499⟩
  findCurl := some "/usr/bin/curl"
  curl _ _ := .ok { takes := 300 }
  random := 0

/-- A version of a Reality config. -/
def tcpSnapshot : ConfigVersionSnapshot where
  configId := 0
  profile := .xrayReality
  name := "c"
  version := 1
  port := 443
  publicKey := "pub:x25519"
  certFingerprint := ""
  configData := .dict [("inbounds", .list [.dict [("tag", .str "vless"), ("port", .int 443),
    ("settings", .dict [("clients", .list [.dict [("id", .str "uuid")]])]),
    ("streamSettings", .dict [("network", .str "tcp"),
      ("realitySettings", .dict [("dest", .str "a.example:443"),
        ("shortIds", .list [.str "0a", .str "0b", .str "0c"]),
        ("privateKey", .str "gAAAAAx25519"), ("serverNames", .list [.str "a.example"])])])]])]
  sharePublicHost := none

example : Tidy .working {}
    ((probeConfigConnectivity .working {} Ctx.allProfiles tcpSnapshot).exec {}).2 :=
  probeConfigConnectivity_tidy .working {} Ctx.allProfiles tcpSnapshot {} _
    ⟨some true, some "via 127.0.0.1:443"⟩ rfl

end VpnPanel
