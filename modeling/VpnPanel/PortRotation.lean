import VpnPanel.PortUniqueness

/-!
# VpnPanel.PortRotation

The port of a regenerate under a policy that rotates it.

`build_and_persist_version` excludes the port of the version before, beside
the ports of all stored versions of other configs.  The exclusion is not all
that decides: Hysteria2 takes its public port first, and `pick_port` drops the
exclusions when they leave no candidate.
-/

namespace VpnPanel

/-! ## what is picked, over all draws -/

theorem randomChoice_all_iff {α : Type} {xs : List α} {P : α → Prop} :
    (∀ draw, ∃ x, randomChoice draw xs = some x ∧ P x) ↔ xs ≠ [] ∧ ∀ x ∈ xs, P x := by
  constructor
  · intro h
    have hne : xs ≠ [] := by
      rintro rfl
      obtain ⟨x, hx, -⟩ := h 0
      simp [randomChoice] at hx
    have hall : ∀ x ∈ xs, P x := by
      intro x hx
      obtain ⟨i, hi, rfl⟩ := List.mem_iff_getElem.mp hx
      obtain ⟨y, hy, hP⟩ := h i
      rw [randomChoice, Nat.mod_eq_of_lt hi, List.getElem?_eq_getElem hi] at hy
      rwa [Option.some.inj hy]
    exact ⟨hne, hall⟩
  · rintro ⟨hne, hall⟩ draw
    obtain ⟨x, hx⟩ := exists_randomChoice draw hne
    exact ⟨x, hx, hall x (randomChoice_mem hx)⟩

/-- The candidates `pick_port` draws from: those not blocked, or all. -/
def portPool (candidates : List Nat) (exclude : List Int) : List Nat :=
  let pool := candidates.filter fun port : Nat => !exclude.contains (port : Int)
  if pool.isEmpty then candidates else pool

theorem mem_portPool_iff {candidates : List Nat} {exclude : List Int} {port : Nat} :
    port ∈ portPool candidates exclude ↔ port ∈ candidates ∧
      ((port : Int) ∉ exclude ∨ ∀ q ∈ candidates, (q : Int) ∈ exclude) := by
  have hempty : (candidates.filter fun port : Nat => !exclude.contains (port : Int)).isEmpty =
      true ↔ ∀ q ∈ candidates, (q : Int) ∈ exclude := by
    simp [List.isEmpty_iff, List.filter_eq_nil_iff]
  by_cases hall : ∀ q ∈ candidates, (q : Int) ∈ exclude
  · simp only [portPool, if_pos (hempty.mpr hall)]
    exact ⟨fun h => ⟨h, Or.inr hall⟩, And.left⟩
  · simp only [portPool, if_neg (mt hempty.mp hall), List.mem_filter]
    simp [hall]

/-- Without a preferred port a draw from the pool is picked. -/
theorem pickPort_eq_ok_iff {available : Nat → Bool} {draw : Nat} {candidates : List Nat}
    {exclude : List Int} {udp : Bool} {port : Nat} :
    pickPort available draw candidates exclude udp none = .ok port ↔
      randomChoice draw ((portPool candidates exclude).filter available) = some port := by
  have hnone : (candidates.find? fun port : Nat => (none : Option Int) = some (port : Int)) =
      none := by
    simp
  unfold pickPort
  split
  · next hempty =>
    obtain rfl := List.isEmpty_iff.mp hempty
    simp [portPool, randomChoice]
  · rw [hnone]
    unfold portPool
    dsimp only
    generalize randomChoice draw _ = choice
    cases choice with
    | none => simp
    | some q => simp

/-- A blocked port is never picked exactly when a free candidate is available,
or all are blocked and it is not among the available ones. -/
theorem pickPort_avoids_iff {available : Nat → Bool} {candidates : List Nat}
    {exclude : List Int} {udp : Bool} {blocked : Int} (hblocked : blocked ∈ exclude)
    (hother : ∃ q ∈ candidates, available q = true ∧ (q : Int) ≠ blocked) :
    (∀ draw, ∃ port, pickPort available draw candidates exclude udp none = .ok port ∧
        (port : Int) ≠ blocked) ↔
      (∃ q ∈ candidates, available q = true ∧ (q : Int) ∉ exclude) ∨
        (∀ q ∈ candidates, (q : Int) ∈ exclude) ∧
          ∀ q ∈ candidates, available q = true → (q : Int) ≠ blocked := by
  have hdraws : (∀ draw, ∃ port, pickPort available draw candidates exclude udp none = .ok port ∧
        (port : Int) ≠ blocked) ↔
      (portPool candidates exclude).filter available ≠ [] ∧
        ∀ q ∈ (portPool candidates exclude).filter available, (q : Int) ≠ blocked := by
    rw [← randomChoice_all_iff]
    simp only [pickPort_eq_ok_iff]
  rw [hdraws]
  by_cases hall : ∀ q ∈ candidates, (q : Int) ∈ exclude
  · have hpool : ∀ q, q ∈ portPool candidates exclude ↔ q ∈ candidates := by
      intro q
      rw [mem_portPool_iff]
      exact and_iff_left (Or.inr hall)
    constructor
    · rintro ⟨-, hne⟩
      refine Or.inr ⟨hall, fun q hq havailable => hne q ?_⟩
      exact List.mem_filter.mpr ⟨(hpool q).mpr hq, havailable⟩
    · rintro (⟨q, hq, -, hfree⟩ | ⟨-, hne⟩)
      · exact absurd (hall q hq) hfree
      · obtain ⟨q, hq, havailable, -⟩ := hother
        have hmem : q ∈ (portPool candidates exclude).filter available :=
          List.mem_filter.mpr ⟨(hpool q).mpr hq, havailable⟩
        refine ⟨List.ne_nil_of_mem hmem, fun q hq => ?_⟩
        obtain ⟨hq, havailable⟩ := List.mem_filter.mp hq
        exact hne q ((hpool q).mp hq) havailable
  · have hpool : ∀ q, q ∈ portPool candidates exclude ↔ q ∈ candidates ∧ (q : Int) ∉ exclude := by
      intro q
      rw [mem_portPool_iff]
      simp [hall]
    constructor
    · rintro ⟨hne, -⟩
      obtain ⟨q, hq⟩ := List.exists_mem_of_ne_nil _ hne
      obtain ⟨hq, havailable⟩ := List.mem_filter.mp hq
      obtain ⟨hq, hfree⟩ := (hpool q).mp hq
      exact Or.inl ⟨q, hq, havailable, hfree⟩
    · rintro (⟨q, hq, havailable, hfree⟩ | ⟨hblocked, -⟩)
      · have hmem : q ∈ (portPool candidates exclude).filter available :=
          List.mem_filter.mpr ⟨(hpool q).mpr ⟨hq, hfree⟩, havailable⟩
        refine ⟨List.ne_nil_of_mem hmem, fun r hr hsame => ?_⟩
        have hr := (hpool r).mp (List.mem_filter.mp hr).1
        exact hr.2 (hsame ▸ hblocked)
      · exact absurd hblocked hall

/-! ## the port of a regenerate -/

/-- What `pick_port` returns in a build. -/
def pickedPort (settings : PanelSettings) (env : BuildEnv) (ps : VpnProfileSettings)
    (req : BuildRequest) (profile : ConfigProfile) : Except PyErr Nat :=
  pickPort env.available env.portDraw ps.portCandidates (blockedPorts settings req profile)
    profile.udp (preferredPort ps req profile)

/-- Whatever a build draws, it picks a port other than the given one, which its
document listens on. -/
def RotatesPort (crypto : Crypto) (settings : PanelSettings) (available : Nat → Bool)
    (ps : VpnProfileSettings) (req : BuildRequest) (profile : ConfigProfile)
    (previousPort : Int) : Prop :=
  ∀ env : BuildEnv, env.available = available →
    ∃ port : Nat, pickedPort settings env ps req profile = .ok port ∧
      (port : Int) ≠ previousPort ∧
      ∀ result, build crypto settings env req profile = .ok result →
        listeningPort profile result.configData ps = .ok (port : Int)

/-- The port is that of the current version of another config that is not
deleted. -/
def CurrentElsewhere (db : Db) (c : ConfigId) (port : Int) : Prop :=
  ∃ c' config v row, c' ≠ c ∧ db.configs c' = some config ∧ config.isActive = true ∧
    config.currentVersion = some v ∧ db.versions c' v = some row ∧ row.port = port

/-- A candidate other than the given port is bindable, and not the current port
of another config. -/
def HasAlternative (available : Nat → Bool) (ps : VpnProfileSettings) (db : Db) (c : ConfigId)
    (previousPort : Int) : Prop :=
  ∃ port ∈ ps.portCandidates, available port = true ∧ (port : Int) ≠ previousPort ∧
    ¬ CurrentElsewhere db c port

/-- No stored version of another config, current or not, has the port. -/
def UnusedElsewhere (db : Db) (c : ConfigId) (port : Int) : Prop :=
  ∀ c', c' ≠ c → ∀ v row, db.versions c' v = some row → row.port ≠ port

/-- The port is neither the given one, nor one of another config, nor, for
Hysteria2, that of the panel. -/
def FreePort (settings : PanelSettings) (db : Db) (p : Payload) (previousPort port : Int) : Prop :=
  port ≠ previousPort ∧ UnusedElsewhere db p.configId port ∧
    (p.profile = .hysteria2 → port ≠ settings.serverPort)

/-- The public port Hysteria2 takes before anything else. -/
def takenFirst (ps : VpnProfileSettings) : ConfigProfile → Option Nat
  | .hysteria2 => ps.sharePublicPort.filter fun port => ps.portCandidates.contains port
  | _ => none

/-- When a rotation moves the port. -/
def PortMoves (settings : PanelSettings) (available : Nat → Bool) (ps : VpnProfileSettings)
    (db : Db) (p : Payload) (previousPort : Int) : Prop :=
  match takenFirst ps p.profile with
  | some port => (port : Int) ≠ previousPort
  | none =>
      (∃ port ∈ ps.portCandidates, available port = true ∧
        FreePort settings db p previousPort port) ∨
      (∀ port ∈ ps.portCandidates, ¬ FreePort settings db p previousPort port) ∧
        ∀ port ∈ ps.portCandidates, available port = true → (port : Int) ≠ previousPort

section Rotation

variable {ctx : Ctx} {crypto : Crypto} {settings : PanelSettings} {available : Nat → Bool}
  {ps : VpnProfileSettings} {db : Db} {usedPorts : List Int} {p : Payload} {req : BuildRequest}
  {previous : PreviousVersion} {profile : ConfigProfile} {previousPort : Int}

/-- The build's listening port is the one that is picked. -/
theorem rotatesPort_iff_draws (hps : settings.profileSettings profile = .ok ps) :
    RotatesPort crypto settings available ps req profile previousPort ↔
      ∀ draw, ∃ port : Nat, pickPort available draw ps.portCandidates
          (blockedPorts settings req profile) profile.udp (preferredPort ps req profile) =
            .ok port ∧ (port : Int) ≠ previousPort := by
  constructor
  · intro h draw
    let env : BuildEnv :=
      { template := .ok .none, available := available, selfSigned := fun _ => .ok ("", ""),
        uuid4 := "", x25519PrivateKey := "k", x25519PrivateKey_ne := by decide, shortIds := [],
        authPassword := "", obfsPassword := "", portDraw := draw }
    obtain ⟨port, hpick, hne, -⟩ := h env rfl
    exact ⟨port, hpick, hne⟩
  · rintro h env rfl
    obtain ⟨port, hpick, hne⟩ := h env.portDraw
    refine ⟨port, hpick, hne, fun result hbuild => ?_⟩
    obtain ⟨port', hpick', hport⟩ := port_of_build hps hbuild
    rw [hpick] at hpick'
    rwa [Except.ok.inj hpick']

/-- Under a policy that rotates the port, a build excludes the previous port
and those in use, and prefers none. -/
theorem ports_of_buildRequest (h : buildRequest ctx db usedPorts p = .ok req)
    (hprevious : previousVersion ctx db p = .ok (some previous))
    (hrotate : req.policy.rotatePort = true) :
    req.excludePorts = previous.port :: usedPorts ∧ req.preferredPort = none := by
  obtain ⟨ps, -, h⟩ := Except.bind_eq_ok_iff.mp h
  split at h
  · contradiction
  · obtain ⟨found, hfound, h⟩ := Except.bind_eq_ok_iff.mp h
    obtain ⟨⟨sni, serviceName⟩, -, h⟩ := Except.bind_eq_ok_iff.mp h
    rw [hprevious] at hfound
    obtain rfl := Except.ok.inj hfound
    obtain rfl := Except.ok.inj h
    simp only at hrotate
    simp [hrotate]

/-- The ports a rotation blocks. -/
theorem mem_blockedPorts_iff (hused : ListsUsedPorts db p.configId usedPorts)
    (hexclude : req.excludePorts = previous.port :: usedPorts) (port : Int) :
    port ∈ blockedPorts settings req p.profile ↔
      ¬ FreePort settings db p previous.port port := by
  have hin : port ∈ usedPorts ↔ ¬ UnusedElsewhere db p.configId port := by
    rw [hused port, UnusedElsewhere]
    push Not
    rfl
  cases hprofile : p.profile with
  | hysteria2 =>
      simp only [FreePort, blockedPorts, hprofile, hexclude, List.mem_cons, hin, forall_const]
      tauto
  | _ =>
      simp only [FreePort, blockedPorts, hprofile, hexclude, List.mem_cons, hin, reduceCtorEq,
        false_implies, and_true]
      tauto

/-- Hysteria2 prefers its public port to all others. -/
theorem preferredPort_of_rotated (hpreferred : req.preferredPort = none) :
    preferredPort ps req profile = (takenFirst ps profile).map fun port : Nat => (port : Int) := by
  cases profile <;> simp [preferredPort, takenFirst, hysteriaPreferred, hpreferred]

theorem takenFirst_mem {port : Nat} (h : takenFirst ps profile = some port) :
    port ∈ ps.portCandidates := by
  cases profile with
  | hysteria2 =>
      obtain ⟨-, hmem⟩ := Option.filter_eq_some_iff.mp h
      simpa using hmem
  | _ => simp [takenFirst] at h

/-- **When a rotation moves the port.**  Of the builds of a regenerate whose
policy rotates the port, with an alternative to the previous port: all of them
pick another port exactly when Hysteria2's public port is a candidate and
another one, or, without one, a free candidate is bindable or none is free and
the previous port is not a bindable candidate. -/
theorem rotatesPort_iff (hps : ctx.settings.profileSettings p.profile = .ok ps)
    (hreq : buildRequest ctx db usedPorts p = .ok req)
    (hused : ListsUsedPorts db p.configId usedPorts)
    (hprevious : previousVersion ctx db p = .ok (some previous))
    (hrotate : req.policy.rotatePort = true)
    (halternative : HasAlternative available ps db p.configId previous.port) :
    RotatesPort crypto ctx.settings available ps req p.profile previous.port ↔
      PortMoves ctx.settings available ps db p previous.port := by
  obtain ⟨hexclude, hpreferred⟩ := ports_of_buildRequest hreq hprevious hrotate
  have hblocked (port : Int) : port ∈ blockedPorts ctx.settings req p.profile ↔
      ¬ FreePort ctx.settings db p previous.port port := mem_blockedPorts_iff hused hexclude port
  rw [rotatesPort_iff_draws hps, preferredPort_of_rotated hpreferred, PortMoves]
  cases hfirst : takenFirst ps p.profile with
  | some port =>
      have hpick (draw : Nat) : pickPort available draw ps.portCandidates
          (blockedPorts ctx.settings req p.profile) p.profile.udp (some (port : Int)) = .ok port :=
        pickPort_preferred (takenFirst_mem hfirst)
      simp [hpick]
  | none =>
      obtain ⟨q, hq, havailable, hne, -⟩ := halternative
      have hself : previous.port ∈ blockedPorts ctx.settings req p.profile :=
        (hblocked _).mpr fun hfree => hfree.1 rfl
      rw [Option.map_none, pickPort_avoids_iff hself ⟨q, hq, havailable, hne⟩]
      simp only [hblocked, not_not]

end Rotation

/-! ## two installations -/

/-- A Hysteria2 profile with the candidates 443 and 8443. -/
def hysteriaProfile (sharePublicPort : Option Nat) : VpnProfileSettings :=
  { sampleProfile with portCandidates := [443, 8443], sharePublicPort := sharePublicPort }

/-- An installation with the profile. -/
def Ctx.hysteria (sharePublicPort : Option Nat) : Ctx :=
  { Ctx.sample with
    settings := { Ctx.sample.settings with
      profiles := fun _ => some (hysteriaProfile sharePublicPort) } }

/-- One Hysteria2 config on port 443, whose policy rotates the port. -/
def hysteriaDb : Db :=
  (Db.empty.setConfig 0
    { name := "c", protocol := .hysteria2, profile := .hysteria2, status := .active,
      currentVersion := some 1, regeneratePolicy := some {}, updatedAt := 0 }).setVersion 0 1
    { port := 443, privateKey := "", publicKey := "", certFingerprint := "",
      configData := .dict [("listen", .str ":443")] }

/-- The regenerate of the config. -/
def hysteriaPayload : Payload := ⟨0, .hysteria2, "c", 2⟩

theorem hysteriaDb_versions {c : ConfigId} (hc : c ≠ 0) (v : Nat) :
    hysteriaDb.versions c v = none := by
  simp [hysteriaDb, Db.setVersion, Db.setConfig, Db.empty, hc]

theorem listsUsedPorts_hysteriaDb : ListsUsedPorts hysteriaDb 0 [] := by
  intro port
  simp only [List.not_mem_nil, false_iff]
  rintro ⟨c', hne, v, row, hrow, -⟩
  rw [hysteriaDb_versions hne] at hrow
  contradiction

theorem hasAlternative_hysteriaDb (sharePublicPort : Option Nat) :
    HasAlternative (fun _ => true) (hysteriaProfile sharePublicPort) hysteriaDb 0 443 := by
  refine ⟨8443, by simp [hysteriaProfile], rfl, by decide, ?_⟩
  rintro ⟨c', config, v, row, hne, -, -, -, hrow, -⟩
  rw [hysteriaDb_versions hne] at hrow
  contradiction

/-- Without a public port the config moves to the other candidate. -/
theorem rotatesPort_of_unshared :
    ∃ req previous, buildRequest (Ctx.hysteria none) hysteriaDb [] hysteriaPayload = .ok req ∧
      previousVersion (Ctx.hysteria none) hysteriaDb hysteriaPayload = .ok (some previous) ∧
      previous.port = 443 ∧
      RotatesPort Crypto.sample (Ctx.hysteria none).settings (fun _ => true) (hysteriaProfile none)
        req hysteriaPayload.profile previous.port := by
  have hfree : FreePort (Ctx.hysteria none).settings hysteriaDb hysteriaPayload 443 8443 := by
    refine ⟨by decide, fun c' hne v row hrow => ?_, fun _ => by decide⟩
    rw [hysteriaDb_versions hne] at hrow
    contradiction
  have hmoves : PortMoves (Ctx.hysteria none).settings (fun _ => true) (hysteriaProfile none)
      hysteriaDb hysteriaPayload 443 :=
    Or.inl ⟨8443, by simp [hysteriaProfile], rfl, hfree⟩
  have hrequest : ∃ req, buildRequest (Ctx.hysteria none) hysteriaDb [] hysteriaPayload = .ok req ∧
      req.policy.rotatePort = true := ⟨_, rfl, rfl⟩
  have hprevious : ∃ previous, previousVersion (Ctx.hysteria none) hysteriaDb hysteriaPayload =
      .ok (some previous) ∧ previous.port = 443 := ⟨_, rfl, rfl⟩
  obtain ⟨req, hreq, hrotate⟩ := hrequest
  obtain ⟨previous, hprevious, hport⟩ := hprevious
  refine ⟨req, previous, hreq, hprevious, hport, ?_⟩
  refine (rotatesPort_iff rfl hreq listsUsedPorts_hysteriaDb hprevious hrotate ?_).mpr ?_
  · rw [hport]
    exact hasAlternative_hysteriaDb none
  · rwa [hport]

/-- The public port 443 is picked again, although 8443 is bindable and of no
other config. -/
theorem not_rotatesPort_of_shared :
    ∃ req previous, buildRequest (Ctx.hysteria (some 443)) hysteriaDb [] hysteriaPayload = .ok req ∧
      ListsUsedPorts hysteriaDb hysteriaPayload.configId [] ∧
      previousVersion (Ctx.hysteria (some 443)) hysteriaDb hysteriaPayload = .ok (some previous) ∧
      req.policy.rotatePort = true ∧
      HasAlternative (fun _ => true) (hysteriaProfile (some 443)) hysteriaDb
        hysteriaPayload.configId previous.port ∧
      ¬ RotatesPort Crypto.sample (Ctx.hysteria (some 443)).settings (fun _ => true)
        (hysteriaProfile (some 443)) req hysteriaPayload.profile previous.port := by
  refine ⟨_, _, rfl, listsUsedPorts_hysteriaDb, rfl, rfl, hasAlternative_hysteriaDb (some 443), ?_⟩
  intro h
  obtain ⟨port, hpick, hne, -⟩ := h { BuildEnv.sample .none with available := fun _ => true } rfl
  obtain rfl : 443 = port := Except.ok.inj (Eq.trans (by decide) hpick)
  exact hne rfl

end VpnPanel
