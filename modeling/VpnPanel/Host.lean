import Mathlib.Algebra.Group.Nat.Defs
import VpnPanel.NginxShared443
import VpnPanel.Lib.Eff

/-!
# VpnPanel.Host

The machine the configs are served from: config files, certificates, systemd
units, services and the nginx stream map.

Every call that can fail is a named point, `HostOp`.  A run is given its
`Faults`, which say for each point whether it fails there, with which
exception, and what it leaves behind; proofs quantify over them.  A file
written by `atomic_write` is replaced as a whole or not at all.

File contents are the documents they were written from: `json.dumps` and
`yaml.safe_dump` are not modelled as text.
-/

namespace VpnPanel

/-- A config's UUID, as its 128-bit number: lowercase hexadecimal texts of
one length sort as the numbers do. -/
abbrev ConfigId := Nat

/-- The last `n` hexadecimal digits of a number. -/
def hexDigits : Nat → Nat → List Char
  | 0, _ => []
  | n + 1, v => hexDigits n (v / 16) ++ [(hexDigit (v % 16)).toLower]

/-- `str(config_id)`. -/
def uuidStr (id : ConfigId) : String :=
  let group (n shift : Nat) : String := String.ofList (hexDigits n (id / 16 ^ shift))
  String.intercalate "-" [group 8 24, group 4 20, group 4 16, group 4 12, group 12 0]

/-- A systemd service: the unit of one config, `<prefix>-<uuid>`, or the shared
service a profile names. -/
inductive ServiceName where
  | config (namePrefix : String) (id : ConfigId)
  | profile (name : String)
  deriving DecidableEq, Repr

def ServiceName.render : ServiceName → String
  | config namePrefix id => namePrefix ++ "-" ++ uuidStr id
  | profile name => name

/-- The live file `dir/<uuid>/filename` of a config. -/
structure LiveKey where
  dir : String
  configId : ConfigId
  filename : String
  deriving DecidableEq, Repr

def LiveKey.render (k : LiveKey) : String := k.dir ++ "/" ++ uuidStr k.configId ++ "/" ++ k.filename

/-- A directory certificates are installed in. -/
inductive CertBase where
  | live (dir : String) (id : ConfigId)
  | shared (path : String)
  | archive (dir : String) (id : ConfigId)
  deriving DecidableEq, Repr

def CertBase.render : CertBase → String
  | live dir id => dir ++ "/" ++ uuidStr id
  | shared path => path
  | archive dir id => dir ++ "/" ++ uuidStr id

/-- What stands under a name in a certificate directory. -/
inductive PemEntry where
  | file (body : String)
  | symlink (target : String)
  deriving DecidableEq, Repr

/-- A unit file: the values `render_unit` fills in. -/
structure UnitFile where
  description : String
  profile : ConfigProfile
  binary : String
  configPath : LiveKey
  deriving DecidableEq, Repr

/-- What a service is doing; a running one keeps the config it read when it
was started. -/
inductive ServiceState where
  | stopped
  | failed
  | running (config : Option PyVal)

/-- The machine. -/
structure Host where
  /-- `paths.configs/<uuid>/<filename>`. -/
  archive : ConfigId → String → Option PyVal
  /-- The directories `<dir>/<uuid>` below `xray_config_dir` and
  `hysteria_config_dir`. -/
  liveDirs : String → ConfigId → Bool
  /-- The files in them. -/
  live : Dict LiveKey (Option PyVal)
  pems : CertBase → String → Option PemEntry
  /-- `active_config_path` of the profiles without per-config units. -/
  active : String → Option PyVal
  units : String → ServiceName → Option UnitFile
  enabled : ServiceName → Bool
  services : ServiceName → ServiceState
  streamConf : String → Option SharedConf

/-- A machine with nothing on it. -/
def Host.blank : Host where
  archive _ _ := none
  liveDirs _ _ := false
  live := Dict.empty
  pems _ _ := none
  active _ := none
  units _ _ := none
  enabled _ := false
  services _ := .stopped
  streamConf _ := none

/-- The documents of `dir/*/name`, in path order. -/
def Host.glob (h : Host) : Glob := fun dir name =>
  ((h.live.entries.filter fun e => e.1.dir = dir && e.1.filename = name).insertionSort
    fun e e' => e.1.configId ≤ e'.1.configId).map Prod.snd

/-! ## calls that can fail -/

/-- The points where a run can fail. -/
inductive HostOp where
  | mkdirArchive | mkdirLive | mkdirCerts
  | writePem (kind : String) | unlinkPem (kind : String) | symlinkPem (kind : String)
  | serialize | writeArchive | writeLive | mkdirActive | writeActive
  | writeUnit | writeUnitWrapper | daemonReload | enable | restart | waitReady
  | writeStream | reloadNginx
  | stop | disable | unlinkUnit | removeUnitWrapper
  deriving DecidableEq, Repr

/-- A failure: the exception, whether the call did its work before failing
(a command that times out may have), and the state it leaves the service in
where it was starting one. -/
structure Fault where
  err : PyErr
  applied : Bool := false
  service : ServiceState := .stopped

/-- Which points of a run fail, and how. -/
abbrev Faults := HostOp → Option Fault

/-- No point fails. -/
def Faults.none : Faults := fun _ => .none

/-- A computation on the machine. -/
abbrev HostM := Eff Host PyErr

/-- A call that does `effect` or fails. -/
def attempt (faults : Faults) (op : HostOp) (effect : Host → Host) : HostM Unit :=
  match faults op with
  | .none => Eff.update effect
  | some f => do
      Eff.update (if f.applied then effect else id)
      Eff.raise f.err

def Host.setService (h : Host) (name : ServiceName) (state : ServiceState) : Host :=
  { h with services := fun n => if n = name then state else h.services n }

/-- A call that waits for a service to come up: when it fails the service is
left as the fault says. -/
def attemptStart (faults : Faults) (op : HostOp) (name : ServiceName) (effect : Host → Host) :
    HostM Unit :=
  match faults op with
  | .none => Eff.update effect
  | some f => do
      Eff.update fun h => h.setService name f.service
      Eff.raise f.err

section Attempt

variable {faults : Faults} {op : HostOp}

/-- A call that returned did its work. -/
theorem exec_attempt_ok {effect : Host → Host} {h h' : Host} {u : Unit}
    (hx : (attempt faults op effect).exec h = (.ok u, h')) :
    faults op = none ∧ h' = effect h := by
  unfold attempt at hx
  split at hx
  · next hop => exact ⟨hop, (congrArg Prod.snd hx).symm⟩
  · next f hop => simp [Eff.exec_bind] at hx

/-- What follows a call that returned. -/
theorem exec_attempt_bind_ok {α : Type} {effect : Host → Host} {f : Unit → HostM α} {h h' : Host}
    {a : α} (hx : (attempt faults op effect >>= f).exec h = (.ok a, h')) :
    (f ()).exec (effect h) = (.ok a, h') := by
  obtain ⟨u, h₁, hcall, hrest⟩ := Eff.exec_bind_eq_ok hx
  rwa [(exec_attempt_ok hcall).2] at hrest

theorem exec_attempt_of_none {effect : Host → Host} (hop : faults op = none) (h : Host) :
    (attempt faults op effect).exec h = (.ok (), effect h) := by
  rw [attempt, hop]
  rfl

theorem exec_attempt_of_fault {effect : Host → Host} {f : Fault} (hop : faults op = some f)
    (h : Host) : (attempt faults op effect).exec h =
      (.error f.err, if f.applied then effect h else h) := by
  rw [attempt, hop]
  cases happlied : f.applied <;> simp [happlied, Eff.exec_bind]

/-- A call that raised did its work or none of it. -/
theorem exec_attempt_error {effect : Host → Host} {h h' : Host} {e : PyErr}
    (hx : (attempt faults op effect).exec h = (.error e, h')) :
    ∃ f, faults op = some f ∧ e = f.err ∧ (h' = effect h ∨ h' = h) := by
  unfold attempt at hx
  split at hx
  · next hop => simp at hx
  · next f hop =>
    rw [Eff.exec_bind] at hx
    refine ⟨f, hop, (Except.error.inj (congrArg Prod.fst hx)).symm, ?_⟩
    have hst : (if f.applied then effect else id) h = h' := by simpa using congrArg Prod.snd hx
    cases hap : f.applied <;> simp [hap] at hst
    · exact Or.inr hst.symm
    · exact Or.inl hst.symm

/-- What `effect` keeps, the call keeps. -/
theorem within_attempt {R : Host → Host → Prop} [IsPreorder Host R] {effect : Host → Host}
    (heff : ∀ h, R h (effect h)) : Eff.Within R (attempt faults op effect) := by
  intro h
  cases hx : (attempt faults op effect).exec h with
  | mk r h' =>
      cases r with
      | ok u => exact (exec_attempt_ok hx).2 ▸ heff h
      | error e =>
          obtain ⟨f, -, -, rfl | rfl⟩ := exec_attempt_error hx
          · exact heff h
          · exact refl_of R _

/-- A call that does its work, or fails and may have done it. -/
theorem spec_attempt {P : Host → Prop} {Q : Unit → Host → Prop} {E : PyErr → Host → Prop}
    {effect : Host → Host} (hok : faults op = none → ∀ h, P h → Q () (effect h))
    (herr : ∀ f, faults op = some f → ∀ h, P h → E f.err h ∧ E f.err (effect h)) :
    Eff.Spec P (attempt faults op effect) Q E := by
  intro h hP
  cases hx : (attempt faults op effect).exec h with
  | mk r h' =>
      cases r with
      | ok u =>
          obtain ⟨hop, rfl⟩ := exec_attempt_ok hx
          exact hok hop h hP
      | error e =>
          obtain ⟨f, hop, rfl, rfl | rfl⟩ := exec_attempt_error hx
          · exact (herr f hop h hP).2
          · exact (herr f hop _ hP).1

theorem exec_attemptStart_ok {name : ServiceName} {effect : Host → Host} {h h' : Host} {u : Unit}
    (hx : (attemptStart faults op name effect).exec h = (.ok u, h')) :
    faults op = none ∧ h' = effect h := by
  unfold attemptStart at hx
  split at hx
  · next hop => exact ⟨hop, (congrArg Prod.snd hx).symm⟩
  · next f hop => simp [Eff.exec_bind] at hx

theorem exec_attemptStart_error {name : ServiceName} {effect : Host → Host} {h h' : Host}
    {e : PyErr} (hx : (attemptStart faults op name effect).exec h = (.error e, h')) :
    ∃ f, faults op = some f ∧ e = f.err ∧ h' = h.setService name f.service := by
  unfold attemptStart at hx
  split at hx
  · next hop => simp at hx
  · next f hop =>
    rw [Eff.exec_bind] at hx
    exact ⟨f, hop, (Except.error.inj (congrArg Prod.fst hx)).symm, (congrArg Prod.snd hx).symm⟩

/-- A call that waits for a service, or fails and leaves it as the fault
says. -/
theorem spec_attemptStart {P : Host → Prop} {Q : Unit → Host → Prop} {E : PyErr → Host → Prop}
    {name : ServiceName} {effect : Host → Host}
    (hok : faults op = none → ∀ h, P h → Q () (effect h))
    (herr : ∀ f, faults op = some f → ∀ h, P h → E f.err (h.setService name f.service)) :
    Eff.Spec P (attemptStart faults op name effect) Q E := by
  intro h hP
  cases hx : (attemptStart faults op name effect).exec h with
  | mk r h' =>
      cases r with
      | ok u =>
          obtain ⟨hop, rfl⟩ := exec_attemptStart_ok hx
          exact hok hop h hP
      | error e =>
          obtain ⟨f, hop, rfl, rfl⟩ := exec_attemptStart_error hx
          exact herr f hop h hP

theorem within_attemptStart {R : Host → Host → Prop} {name : ServiceName} {effect : Host → Host}
    (heff : ∀ h, R h (effect h)) (hsrv : ∀ h st, R h (h.setService name st)) :
    Eff.Within R (attemptStart faults op name effect) := by
  intro h
  cases hx : (attemptStart faults op name effect).exec h with
  | mk r h' =>
      cases r with
      | ok u => exact (exec_attemptStart_ok hx).2 ▸ heff h
      | error e =>
          obtain ⟨f, -, -, rfl⟩ := exec_attemptStart_error hx
          exact hsrv h _

end Attempt

end VpnPanel
