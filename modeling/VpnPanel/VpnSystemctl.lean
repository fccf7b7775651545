import VpnPanel.SystemdUnit
import VpnPanel.Lib.PosixPath

/-!
# VpnPanel.VpnSystemctl

The root wrapper `vpn-systemctl`, which the worker and the panel may run with
any arguments through `sudo`.

It accepts a service by its first characters, and a target by a pattern whose
star also matches slashes, and then writes to a path that has dot-dot segments
where the argument has them.  `unitPath_child_iff` and `target_child_iff` say
where that path is; `confined_iff` says which arguments stay in place.
-/

namespace VpnPanel

/-! ## the script -/

/-- The environment the script reads. -/
structure WrapperEnv where
  servicePrefix : Option String := none
  nginxStreamConf : Option String := none

/-- `${NAME:-word}`. -/
def orDefault (value : Option String) (word : String) : String :=
  match value with
  | some v => if v = "" then word else v
  | none => word

/-- `PREFIX`. -/
def WrapperEnv.pre (env : WrapperEnv) : String := orDefault env.servicePrefix "vpn-"

inductive WrapperAction where
  | daemonReload | writeUnit | removeUnit | waitReady | logs
  | enable | disable | restart | stop | start
  | writeNginxStream | reloadNginx
  deriving DecidableEq, Repr

/-- The pattern of `case "${ACTION}"` for it. -/
def WrapperAction.value : WrapperAction → String
  | daemonReload => "daemon-reload"
  | writeUnit => "write-unit"
  | removeUnit => "remove-unit"
  | waitReady => "wait-ready"
  | logs => "logs"
  | enable => "enable"
  | disable => "disable"
  | restart => "restart"
  | stop => "stop"
  | start => "start"
  | writeNginxStream => "write-nginx-stream"
  | reloadNginx => "reload-nginx"

def WrapperAction.ofString? (action : String) : Option WrapperAction :=
  [daemonReload, writeUnit, removeUnit, waitReady, logs, enable, disable, restart, stop, start,
    writeNginxStream, reloadNginx].find? fun a => a.value = action

/-- What the script runs.  `tolerated` marks `|| true`. -/
inductive WrapperCommand where
  | systemctl (args : List String) (tolerated : Bool)
  | install (content path : String)
  | remove (path : String)
  | mkdirParent (path : String)
  | nginxTest
  | pollReady (service : String)
  | journal (service : String)
  deriving DecidableEq, Repr

/-- The file it writes or removes. -/
def WrapperCommand.path? : WrapperCommand → Option String
  | install _ path => some path
  | remove path => some path
  | _ => none

/-- `[[ -z "${SERVICE}" || "${SERVICE}" != "${PREFIX}"* ]]` refuses. -/
def WrapperEnv.accepts (env : WrapperEnv) (service : String) : Bool :=
  service ≠ "" && env.pre.toList.isPrefixOf service.toList

def WrapperEnv.withService (env : WrapperEnv) (service : String) (commands : List WrapperCommand) :
    Except String (List WrapperCommand) :=
  if env.accepts service then .ok commands
  else .error ("Service name must start with " ++ env.pre)

def unitSuffix : String := ".service"

/-- `UNIT_PATH`. -/
def unitPath (service : String) : String := wrapperUnitDir ++ "/" ++ service ++ unitSuffix

/-- `TARGET`. -/
def WrapperEnv.target (env : WrapperEnv) (service : String) : String :=
  if service = "" then orDefault env.nginxStreamConf "/etc/nginx/stream.d/vcp-shared-443.conf"
  else service

def streamDir : String := "/etc/nginx/stream.d"

def streamSuffix : String := ".conf"

/-- The pattern `/etc/nginx/stream.d/*.conf`. -/
def streamGlob (target : String) : Bool :=
  let dir := (streamDir ++ "/").toList
  dir.isPrefixOf target.toList && streamSuffix.toList.isSuffixOf (target.toList.drop dir.length)

/-- What one action runs; the error is what the script prints. -/
def WrapperEnv.run (env : WrapperEnv) (stdin : String) (action : WrapperAction)
    (service : String) : Except String (List WrapperCommand) :=
  match action with
  | .daemonReload => .ok [.systemctl ["daemon-reload"] false]
  | .writeUnit => env.withService service [.install stdin (unitPath service)]
  | .removeUnit => env.withService service
      [.systemctl ["stop", service] true, .systemctl ["disable", service] true,
        .remove (unitPath service), .systemctl ["daemon-reload"] false]
  | .waitReady => env.withService service [.pollReady service]
  | .logs => env.withService service [.journal service]
  | .enable => env.withService service [.systemctl ["enable", service] false]
  | .disable => env.withService service [.systemctl ["disable", service] false]
  | .restart => env.withService service [.systemctl ["restart", service] false]
  | .stop => env.withService service [.systemctl ["stop", service] false]
  | .start => env.withService service [.systemctl ["start", service] false]
  | .writeNginxStream =>
      let target := env.target service
      if streamGlob target then .ok [.mkdirParent target, .install stdin target]
      else .error ("Refusing nginx stream path outside /etc/nginx/stream.d/*.conf: " ++ target)
  | .reloadNginx => .ok [.nginxTest, .systemctl ["reload", "nginx"] false]

/-- `vpn-systemctl "$@"`. -/
def vpnSystemctl (env : WrapperEnv) (stdin : String) (args : List String) :
    Except String (List WrapperCommand) :=
  let action := args.headD ""
  if action = "" then .error "action required"
  else
    match WrapperAction.ofString? action with
    | some a => env.run stdin a (args.tail.headD "")
    | none => .error ("Unsupported action: " ++ action)

theorem WrapperAction.ofString?_value (action : WrapperAction) :
    action.value ≠ "" ∧ ofString? action.value = some action := by
  cases action <;> decide

theorem vpnSystemctl_value (env : WrapperEnv) (stdin : String) (action : WrapperAction)
    (service : String) (rest : List String) :
    vpnSystemctl env stdin (action.value :: service :: rest) = env.run stdin action service := by
  obtain ⟨hne, hvalue⟩ := action.ofString?_value
  simp [vpnSystemctl, hne, hvalue]

/-! ## confinement -/

/-- A path is, normalized, the child `name` of a directory. -/
def IsChild (dir path name : String) : Prop :=
  PosixPath.normalize path.toList = name.toList :: PosixPath.normalize dir.toList

/-- The name of a per-config service. -/
def PerConfig (service : String) : Prop := ∃ id : ConfigId, service = "vpn-" ++ uuidStr id

/-- The files that `write-unit`, `remove-unit` and `write-nginx-stream` touch
are in their places, and the units are those of configs. -/
structure Confined (env : WrapperEnv) (stdin : String) (action : WrapperAction)
    (service : String) : Prop where
  unitFile : action = .writeUnit ∨ action = .removeUnit →
    ∀ commands, vpnSystemctl env stdin [action.value, service] = .ok commands →
      ∀ c ∈ commands, ∀ path, c.path? = some path →
        ∃ suffix, IsChild wrapperUnitDir path (env.pre ++ suffix ++ unitSuffix)
  perConfig : action = .writeUnit ∨ action = .removeUnit →
    ∀ commands, vpnSystemctl env stdin [action.value, service] = .ok commands →
      PerConfig service
  streamFile : action = .writeNginxStream →
    ∀ commands, vpnSystemctl env stdin [action.value, service] = .ok commands →
      ∀ c ∈ commands, ∀ path, c.path? = some path →
        ∃ name, IsChild streamDir path name ∧ streamSuffix.toList <:+ name.toList

/-! ## what it accepts -/

theorem WrapperEnv.pre_ne_empty (env : WrapperEnv) : env.pre ≠ "" := by
  unfold WrapperEnv.pre orDefault
  cases env.servicePrefix with
  | none => decide
  | some v =>
      by_cases h : v = ""
      · simp [h]
      · simp [h]

theorem WrapperEnv.accepts_iff {env : WrapperEnv} {service : String} :
    env.accepts service = true ↔ env.pre.toList <+: service.toList := by
  unfold WrapperEnv.accepts
  rw [Bool.and_eq_true, List.isPrefixOf_iff_prefix]
  constructor
  · exact fun h => h.2
  · intro h
    have hne : service ≠ "" := by
      rintro rfl
      have hpre := List.prefix_nil.mp h
      exact env.pre_ne_empty (String.toList_eq_nil_iff.mp hpre)
    exact ⟨by simpa using hne, h⟩

theorem streamGlob_iff {target : String} :
    streamGlob target = true ↔
      ∃ x, target.toList = (streamDir ++ "/").toList ++ (x ++ streamSuffix.toList) := by
  unfold streamGlob
  rw [Bool.and_eq_true, List.isPrefixOf_iff_prefix, List.isSuffixOf_iff_suffix]
  constructor
  · rintro ⟨⟨rest, hrest⟩, hsuffix⟩
    rw [← hrest, List.drop_left] at hsuffix
    obtain ⟨x, rfl⟩ := hsuffix
    exact ⟨x, hrest.symm⟩
  · rintro ⟨x, hx⟩
    rw [hx, List.drop_left]
    exact ⟨List.prefix_append _ _, List.suffix_append _ _⟩

/-! ## where a path is -/

theorem unitSuffix_segment : '/' ∉ unitSuffix.toList ∧ 2 < unitSuffix.toList.length := by decide

theorem streamSuffix_segment : '/' ∉ streamSuffix.toList ∧ 2 < streamSuffix.toList.length := by
  decide

/-- The directory of the units. -/
def unitsDir : PosixPath.Dir := PosixPath.normalize wrapperUnitDir.toList

theorem normalize_unitPath (service : String) :
    PosixPath.normalize (unitPath service).toList =
      (PosixPath.basename service.toList ++ unitSuffix.toList) ::
        PosixPath.walk unitsDir (PosixPath.dirPart service.toList) := by
  have hpath : (unitPath service).toList =
      wrapperUnitDir.toList ++ '/' :: (service.toList ++ unitSuffix.toList) := by
    simp [unitPath, String.toList_append]
  rw [PosixPath.normalize, hpath, PosixPath.walk_slash,
    PosixPath.walk_child unitSuffix_segment.1 unitSuffix_segment.2, unitsDir, PosixPath.normalize]

/-- The file of a unit is a unit file of the directory exactly when the name's
segments before the last slash lead back to it and the last has the prefix. -/
theorem unitPath_child_iff {env : WrapperEnv} {service : String} :
    (∃ suffix, IsChild wrapperUnitDir (unitPath service) (env.pre ++ suffix ++ unitSuffix)) ↔
      PosixPath.walk unitsDir (PosixPath.dirPart service.toList) = unitsDir ∧
        env.pre.toList <+: PosixPath.basename service.toList := by
  have hname (suffix : String) : (env.pre ++ suffix ++ unitSuffix).toList =
      env.pre.toList ++ suffix.toList ++ unitSuffix.toList := by
    simp [String.toList_append]
  unfold IsChild
  constructor
  · rintro ⟨suffix, h⟩
    rw [normalize_unitPath, hname, List.cons.injEq] at h
    exact ⟨h.2, ⟨suffix.toList, (List.append_cancel_right h.1).symm⟩⟩
  · rintro ⟨hdir, ⟨suffix, hsuffix⟩⟩
    refine ⟨String.ofList suffix, ?_⟩
    rw [normalize_unitPath, hname, hdir, String.toList_ofList, hsuffix, unitsDir]

/-- So is the map exactly when the part of its path before the last slash is
the directory. -/
theorem target_child_iff {target : String} (h : streamGlob target = true) :
    (∃ name, IsChild streamDir target name ∧ streamSuffix.toList <:+ name.toList) ↔
      PosixPath.normalize (PosixPath.dirPart target.toList) =
        PosixPath.normalize streamDir.toList := by
  obtain ⟨x, hx⟩ := streamGlob_iff.mp h
  obtain ⟨hslash, hlength⟩ := streamSuffix_segment
  have hnormalize : PosixPath.normalize target.toList =
      (PosixPath.basename ((streamDir ++ "/").toList ++ x) ++ streamSuffix.toList) ::
        PosixPath.normalize (PosixPath.dirPart target.toList) := by
    rw [hx, ← List.append_assoc, PosixPath.dirPart_append hslash]
    exact PosixPath.walk_child hslash hlength [] _
  unfold IsChild
  rw [hnormalize]
  constructor
  · rintro ⟨name, hname, -⟩
    exact (List.cons.inj hname).2
  · intro hdir
    have hlist := String.toList_ofList
      (l := PosixPath.basename ((streamDir ++ "/").toList ++ x) ++ streamSuffix.toList)
    exact ⟨_, by rw [hlist, hdir], by rw [hlist]; exact List.suffix_append _ _⟩

/-! ## the units of configs -/

theorem slash_not_mem_hexDigits (n v : Nat) : '/' ∉ hexDigits n v := by
  have hdigit : ∀ d < 16, '/' ≠ (hexDigit d).toLower := by decide
  induction n generalizing v with
  | zero => simp [hexDigits]
  | succ n ih =>
      rw [hexDigits, List.mem_append, List.mem_singleton]
      rintro (h | h)
      · exact ih _ h
      · exact hdigit (v % 16) (Nat.mod_lt v (by omega)) h

theorem slash_not_mem_uuidStr (id : ConfigId) : '/' ∉ (uuidStr id).toList := by
  simp [uuidStr, String.intercalate_cons_cons, slash_not_mem_hexDigits]

theorem length_hexDigits (n v : Nat) : (hexDigits n v).length = n := by
  induction n generalizing v with
  | zero => rfl
  | succ n ih => simp [hexDigits, ih]

theorem length_uuidStr (id : ConfigId) : (uuidStr id).toList.length = 36 := by
  simp [uuidStr, String.intercalate_cons_cons, length_hexDigits]

namespace PerConfig

variable {service : String}

theorem no_slash (h : PerConfig service) : '/' ∉ service.toList := by
  obtain ⟨id, rfl⟩ := h
  have hpre : '/' ∉ "vpn-".toList := by decide
  rw [String.toList_append, List.mem_append]
  rintro (hmem | hmem)
  · exact hpre hmem
  · exact slash_not_mem_uuidStr id hmem

theorem length (h : PerConfig service) : service.toList.length = 40 := by
  obtain ⟨id, rfl⟩ := h
  have hpre : "vpn-".toList.length = 4 := by decide
  rw [String.toList_append, List.length_append, length_uuidStr, hpre]

/-- The unit of a config is a unit file of the directory. -/
theorem child {env : WrapperEnv} (h : PerConfig service) (haccepts : env.accepts service = true) :
    ∃ suffix, IsChild wrapperUnitDir (unitPath service) (env.pre ++ suffix ++ unitSuffix) := by
  rw [unitPath_child_iff, PosixPath.dirPart_of_not_mem h.no_slash,
    PosixPath.basename_of_not_mem h.no_slash]
  exact ⟨rfl, WrapperEnv.accepts_iff.mp haccepts⟩

end PerConfig

/-! ## which arguments stay in place -/

theorem WrapperEnv.withService_eq_ok {env : WrapperEnv} {service : String}
    {commands commands' : List WrapperCommand} :
    env.withService service commands = .ok commands' ↔
      env.accepts service = true ∧ commands' = commands := by
  unfold WrapperEnv.withService
  by_cases h : env.accepts service = true
  · simp [h, eq_comm]
  · simp [h]

/-- `write-unit` and `remove-unit` touch one file, under a name they accept. -/
theorem WrapperEnv.run_unit {env : WrapperEnv} {service : String} {action : WrapperAction}
    (h : action = .writeUnit ∨ action = .removeUnit) (stdin : String) :
    (∃ commands, env.run stdin action service = .ok commands) ↔ env.accepts service = true := by
  obtain rfl | rfl := h
  · simp [WrapperEnv.run, WrapperEnv.withService_eq_ok]
  · simp [WrapperEnv.run, WrapperEnv.withService_eq_ok]

theorem WrapperEnv.path_of_run_unit {env : WrapperEnv} {stdin service path : String}
    {action : WrapperAction} {commands : List WrapperCommand} {c : WrapperCommand}
    (h : action = .writeUnit ∨ action = .removeUnit)
    (hrun : env.run stdin action service = .ok commands) (hc : c ∈ commands)
    (hpath : c.path? = some path) : path = unitPath service := by
  obtain rfl | rfl := h
  · obtain ⟨-, rfl⟩ := WrapperEnv.withService_eq_ok.mp hrun
    obtain rfl := List.mem_singleton.mp hc
    simpa [WrapperCommand.path?] using hpath.symm
  · obtain ⟨-, rfl⟩ := WrapperEnv.withService_eq_ok.mp hrun
    simp only [List.mem_cons, List.not_mem_nil, or_false] at hc
    obtain rfl | rfl | rfl | rfl := hc
    · simp [WrapperCommand.path?] at hpath
    · simp [WrapperCommand.path?] at hpath
    · simpa [WrapperCommand.path?] using hpath.symm
    · simp [WrapperCommand.path?] at hpath

theorem WrapperEnv.run_stream {env : WrapperEnv} (stdin : String) {service : String}
    {commands : List WrapperCommand} :
    env.run stdin .writeNginxStream service = .ok commands ↔
      streamGlob (env.target service) = true ∧
        commands = [.mkdirParent (env.target service), .install stdin (env.target service)] := by
  unfold WrapperEnv.run
  by_cases h : streamGlob (env.target service) = true
  · simp [h, eq_comm]
  · simp [h]

/-- Arguments that keep the wrapper in place. -/
structure InPlace (env : WrapperEnv) (action : WrapperAction) (service : String) : Prop where
  unit : action = .writeUnit ∨ action = .removeUnit →
    env.accepts service = true → PerConfig service
  stream : action = .writeNginxStream → streamGlob (env.target service) = true →
    PosixPath.normalize (PosixPath.dirPart (env.target service).toList) =
      PosixPath.normalize streamDir.toList

section

variable {env : WrapperEnv} {stdin service : String} {action : WrapperAction}

theorem Confined.inPlace (h : Confined env stdin action service) : InPlace env action service := by
  have hrun := vpnSystemctl_value env stdin action service []
  obtain ⟨-, hperConfig, hstream⟩ := h
  rw [hrun] at hperConfig hstream
  constructor
  · intro hunit haccepts
    obtain ⟨commands, hok⟩ := (WrapperEnv.run_unit hunit stdin).mpr haccepts
    exact hperConfig hunit commands hok
  · rintro rfl hglob
    have hok := (WrapperEnv.run_stream stdin).mpr ⟨hglob, rfl⟩
    have hchild := hstream rfl _ hok (.install stdin (env.target service)) (by simp) _ rfl
    exact (target_child_iff hglob).mp hchild

theorem InPlace.confined (h : InPlace env action service) : Confined env stdin action service := by
  have hrun := vpnSystemctl_value env stdin action service []
  constructor
  · intro haction commands hok c hc path hpath
    rw [hrun] at hok
    have haccepts := (WrapperEnv.run_unit haction stdin).mp ⟨commands, hok⟩
    rw [WrapperEnv.path_of_run_unit haction hok hc hpath]
    exact (h.unit haction haccepts).child haccepts
  · intro haction commands hok
    rw [hrun] at hok
    exact h.unit haction ((WrapperEnv.run_unit haction stdin).mp ⟨commands, hok⟩)
  · rintro rfl commands hok c hc path hpath
    rw [hrun] at hok
    obtain ⟨hglob, rfl⟩ := (WrapperEnv.run_stream stdin).mp hok
    have htarget : path = env.target service := by
      simp only [List.mem_cons, List.not_mem_nil, or_false] at hc
      obtain rfl | rfl := hc
      · simp [WrapperCommand.path?] at hpath
      · simpa [WrapperCommand.path?] using hpath.symm
    rw [htarget]
    exact (target_child_iff hglob).mpr (h.stream rfl hglob)

end

/-- **The wrapper stays in place** exactly for the names of per-config units
and for targets whose directory is the one of the stream files. -/
theorem confined_iff (env : WrapperEnv) (stdin : String) (action : WrapperAction)
    (service : String) :
    Confined env stdin action service ↔ InPlace env action service :=
  ⟨Confined.inPlace, InPlace.confined⟩

/-- The panel's own unit is accepted, and dot-dot segments leave either
directory. -/
theorem not_confined_of_dots :
    ¬ Confined {} "" .writeUnit "vpn-api" ∧
      ¬ Confined {} "" .removeUnit "vpn-x/../../../cron.d/x" ∧
      ¬ Confined {} "" .writeNginxStream "/etc/nginx/stream.d/../../cron.d/x.conf" := by
  constructor
  · intro h
    have hper := h.inPlace.unit (Or.inl rfl) (by decide)
    exact absurd hper.length (by decide)
  · constructor
    · intro h
      have hper := h.inPlace.unit (Or.inr rfl) (by decide)
      exact absurd hper.length (by decide)
    · intro h
      have hdir := h.inPlace.stream rfl (by decide)
      revert hdir
      decide

/-- The units the panel names, with the prefix of the deployment. -/
theorem confined_configServiceName {settings : SystemdSettings} {action : WrapperAction}
    (hservicePrefix : settings.servicePrefix = "vpn")
    (hunit : action = .writeUnit ∨ action = .removeUnit) (env : WrapperEnv) (stdin : String)
    (configId : ConfigId) :
    Confined env stdin action (configServiceName settings configId).render := by
  have hper : PerConfig (configServiceName settings configId).render := by
    refine ⟨configId, ?_⟩
    rw [configServiceName, ServiceName.render, hservicePrefix]
    rfl
  refine InPlace.confined ⟨fun _ _ => hper, fun hstream => ?_⟩
  obtain rfl | rfl := hunit <;> cases hstream

end VpnPanel
