import VpnPanel.RowLocks
import VpnPanel.Lib.Overrides

/-!
# VpnPanel.PolicyUpdates

The regenerate policy of a config under concurrent changes.

A change reads the policy, merges the flags it was sent into it and writes the
whole of it back, so it also writes the flags it was not sent, as it read them.
`keepsUpdates_run_iff`: in every state of a run each flag has the value of the
last committed change that names it, exactly when every change that commits
finds the flags it does not name as it read them.
-/

namespace VpnPanel

/-! ## policies as records -/

namespace RegeneratePolicy

/-- The value of a flag. -/
def get (policy : RegeneratePolicy) : PolicyFlag → Bool
  | .port => policy.rotatePort
  | .clientId => policy.rotateClientId
  | .realityKeys => policy.rotateRealityKeys
  | .shortIds => policy.rotateShortIds
  | .dest => policy.rotateDest
  | .path => policy.rotatePath
  | .serviceName => policy.rotateServiceName
  | .tls => policy.rotateTls
  | .auth => policy.rotateAuth
  | .obfs => policy.rotateObfs

theorem get_set (policy : RegeneratePolicy) (flag : PolicyFlag) (b : Bool) :
    (policy.set flag b).get = fun f => if flag = f then b else policy.get f := by
  funext f
  cases flag <;> cases f <;> rfl

theorem get_modelCopy (base : RegeneratePolicy) (overrides : List (PolicyFlag × Bool)) :
    (base.modelCopy overrides).get = Overrides.apply base.get overrides := by
  unfold modelCopy
  induction overrides generalizing base with
  | nil => rfl
  | cons o overrides ih =>
      rw [List.foldl_cons, ih, get_set, Overrides.apply_cons]

end RegeneratePolicy

/-- The policy a regenerate of a row goes by. -/
def VpnConfigModel.policy (ctx : Ctx) (row : VpnConfigModel) : RegeneratePolicy :=
  RegeneratePolicy.fromStored row.regeneratePolicy row.profile (ctx.settings.profiles row.profile)

/-- The policy of a config. -/
def World.policy? (ctx : Ctx) (c : ConfigId) (w : World) : Option RegeneratePolicy :=
  (w.db.configs c).map (VpnConfigModel.policy ctx)

/-! ## runs with their changes -/

/-- A change: the policy it has read, and the flags it was sent. -/
structure PolicyPatch where
  read : RegeneratePolicy
  overrides : List (PolicyFlag × Bool)

/-- A run, with the changes that requests make and the flags that the changes
of one config have committed. -/
structure PolicyRun where
  world : World
  patches : RequestId → PolicyPatch
  commits : List (PolicyFlag × Bool)

namespace PolicyRun

/-- The change of a config that a step commits. -/
def commits? (c : ConfigId) (w : World) : Action → Option RequestId
  | .advance r env =>
      match w.requests r with
      | some (.policySelected c' _ _) =>
          if c' = c && w.lockFree c (.request r) && env.committed.isNone then some r else none
      | _ => none
  | _ => none

/-- The changes after a step. -/
def readPatch (ctx : Ctx) (w : World) (patches : RequestId → PolicyPatch) :
    Action → RequestId → PolicyPatch
  | .patchPolicy r c overrides =>
      match w.requests r, w.db.getActive c with
      | none, some config => Function.update patches r ⟨config.policy ctx, overrides⟩
      | _, _ => patches
  | _ => patches

/-- A step of the system. -/
def step (ctx : Ctx) (c : ConfigId) (s : PolicyRun) (a : Action) : PolicyRun where
  world := VpnPanel.step ctx s.world a
  patches := readPatch ctx s.world s.patches a
  commits := s.commits ++ (match commits? c s.world a with
    | some r => (s.patches r).overrides
    | none => [])

/-- An installation. -/
def init (host : Host) : PolicyRun where
  world := World.init host
  patches _ := ⟨{}, []⟩
  commits := []

/-- A run, and no change committed yet. -/
def start (ctx : Ctx) (host : Host) (c : ConfigId) (as : List Action) : PolicyRun :=
  { Machine.run (step ctx c) (init host) as with commits := [] }

theorem world_run (ctx : Ctx) (c : ConfigId) (s : PolicyRun) (as : List Action) :
    (Machine.run (step ctx c) s as).world = Machine.run (VpnPanel.step ctx) s.world as := by
  induction as generalizing s with
  | nil => rfl
  | cons a as ih => exact ih _

theorem world_start (ctx : Ctx) (host : Host) (c : ConfigId) (as : List Action) :
    (start ctx host c as).world = runFrom ctx host as := world_run ctx c (init host) as

/-- Each flag has the value of the last committed change that names it, or the
one it had in `policy`. -/
def KeepsUpdates (ctx : Ctx) (c : ConfigId) (policy : RegeneratePolicy) (s : PolicyRun) : Prop :=
  ∃ now, s.world.policy? ctx c = some now ∧
    ∀ flag, now.get flag = (Overrides.last? s.commits flag).getD (policy.get flag)

/-- A change that commits finds the flags it does not name as it read them;
where the policy it has made is the one it loaded, it writes nothing, and finds
the flags it names as it sets them. -/
def KeepsOthers (ctx : Ctx) (c : ConfigId) (s : PolicyRun) (a : Action) : Prop :=
  ∀ r policy loaded now, commits? c s.world a = some r →
    s.world.requests r = some (.policySelected c policy loaded) →
    s.world.policy? ctx c = some now →
      if loaded.regeneratePolicy = some policy then
        ∀ flag b, Overrides.last? (s.patches r).overrides flag = some b → now.get flag = b
      else
        ∀ flag, Overrides.last? (s.patches r).overrides flag = none →
          (s.patches r).read.get flag = now.get flag

/-! ## what steps do to the policy -/

section Steps

variable {ctx : Ctx} {c : ConfigId} {w : World} {a : Action}

/-- A step that commits a change. -/
theorem commits?_eq_some_iff {r : RequestId} :
    commits? c w a = some r ↔ ∃ env policy loaded, a = .advance r env ∧
      w.requests r = some (.policySelected c policy loaded) ∧
      w.lockFree c (.request r) = true ∧ env.committed = none := by
  constructor
  · intro h
    cases a with
    | advance r' env =>
        simp only [commits?] at h
        split at h
        · next c' policy loaded hr =>
          split at h
          · next hcond =>
            simp only [Bool.and_eq_true, decide_eq_true_eq, Option.isNone_iff_eq_none] at hcond
            obtain ⟨⟨rfl, hlock⟩, hcom⟩ := hcond
            obtain rfl := Option.some.inj h
            exact ⟨env, policy, loaded, rfl, hr, hlock, hcom⟩
          · cases h
        · cases h
    | _ => cases h
  · rintro ⟨env, policy, loaded, rfl, hr, hlock, hcom⟩
    simp [commits?, hr, hlock, hcom]

/-- What a committed change makes of the policy. -/
theorem policy?_commit (ctx : Ctx) {r : RequestId} {env : RequestEnv}
    {policy now : RegeneratePolicy}
    {loaded : VpnConfigModel} (hr : w.requests r = some (.policySelected c policy loaded))
    (hlock : w.lockFree c (.request r) = true) (hcom : env.committed = none)
    (hnow : w.policy? ctx c = some now) :
    (VpnPanel.step ctx w (.advance r env)).policy? ctx c =
      some (if loaded.regeneratePolicy = some policy then now else policy) := by
  obtain ⟨row, hrow, rfl⟩ := Option.map_eq_some_iff.mp hnow
  have hstep : VpnPanel.step ctx w (.advance r env) = (w.mapDb fun db =>
      db.updateConfig c (updateRegeneratePolicy w.now policy loaded)).setRequest r none := by
    simp [VpnPanel.step, World.advance, hr, World.policyCommit, hlock, hcom]
  rw [hstep]
  simp only [World.policy?, World.setRequest_db, World.mapDb_db, Db.updateConfig_configs,
    if_true, hrow, Option.map_some, Option.some.injEq]
  unfold VpnConfigModel.policy updateRegeneratePolicy netChange
  split
  · rfl
  · rfl

/-- A change that does not commit leaves all rows. -/
theorem db_of_not_commit (ctx : Ctx) {r : RequestId} {env : RequestEnv} {policy : RegeneratePolicy}
    {loaded : VpnConfigModel} (hr : w.requests r = some (.policySelected c policy loaded))
    (hno : commits? c w (.advance r env) = none) :
    (VpnPanel.step ctx w (.advance r env)).db = w.db := by
  simp only [VpnPanel.step, World.advance, hr, World.policyCommit]
  split
  · rfl
  · next hlock =>
    split
    · rfl
    · next hcom =>
      have hcommit := commits?_eq_some_iff.mpr ⟨env, policy, loaded, rfl, hr, by simpa using hlock,
        by simpa using hcom⟩
      rw [hno] at hcommit
      cases hcommit

/-- Other steps leave the policy. -/
theorem policy?_of_not_commit {now : RegeneratePolicy} (hno : commits? c w a = none)
    (hnow : w.policy? ctx c = some now) : (VpnPanel.step ctx w a).policy? ctx c = some now := by
  obtain ⟨row, hrow, rfl⟩ := Option.map_eq_some_iff.mp hnow
  obtain heq | hstep : VpnPanel.step ctx w a = w ∨ Step ctx w a (VpnPanel.step ctx w a) :=
    step_cases a
  · rw [heq, hnow]
  · obtain ⟨row', hrow'⟩ := configs_mono hstep hrow
    have hrows : row'.regeneratePolicy = row.regeneratePolicy ∧ row'.profile = row.profile := by
      obtain ⟨-, -, hnone, -⟩ | ⟨row₀, hrow₀, hchange⟩ := row_of_step hstep hrow'
      · rw [hrow] at hnone
        cases hnone
      · obtain rfl : row = row₀ := Option.some.inj (hrow.symm.trans hrow₀)
        cases hchange with
        | policySet r env _ loaded policy hr =>
            have hsame := db_of_not_commit ctx hr hno
            rw [hsame, hrow] at hrow'
            rw [← Option.some.inj hrow']
            exact ⟨rfl, rfl⟩
        | _ => exact ⟨rfl, rfl⟩
    rw [World.policy?, hrow', Option.map_some, VpnConfigModel.policy, hrows.1, hrows.2,
      VpnConfigModel.policy]

/-- The policy that a change is about to write. -/
def pending? : RequestStage → Option RegeneratePolicy
  | .policyRead _ policy => some policy
  | .policySelected _ policy _ => some policy
  | _ => none

/-- Every change writes what it has read, with the flags it was sent. -/
def Merged (s : PolicyRun) : Prop :=
  ∀ r stage policy, s.world.requests r = some stage → pending? stage = some policy →
    policy = (s.patches r).read.modelCopy (s.patches r).overrides

theorem merged_init (host : Host) : Merged (init host) := by
  intro r stage policy hr
  cases hr

/-- A request about to write a policy after a step was so before it, or has
just read it. -/
theorem pending_of_step {r : RequestId} {stage' : RequestStage} {policy : RegeneratePolicy}
    (hr' : (VpnPanel.step ctx w a).requests r = some stage')
    (hpending : pending? stage' = some policy)
    (ha : ∀ c' overrides, a ≠ .patchPolicy r c' overrides) :
    ∃ stage, w.requests r = some stage ∧ pending? stage = some policy := by
  obtain heq | hstep : VpnPanel.step ctx w a = w ∨ Step ctx w a (VpnPanel.step ctx w a) :=
    step_cases a
  · rw [heq] at hr'
    exact ⟨stage', hr', hpending⟩
  · generalize VpnPanel.step ctx w a = w' at hstep hr'
    cases hstep <;> simp [Function.update_apply] at hr' ha <;> grind [pending?]

/-- Every change writes what it has read, after any step. -/
theorem merged_step (ctx : Ctx) (c : ConfigId) {s : PolicyRun} (h : Merged s) (a : Action) :
    Merged (step ctx c s a) := by
  intro r stage policy hr hpending
  by_cases ha : ∃ c' overrides, a = .patchPolicy r c' overrides
  · obtain ⟨c', overrides, rfl⟩ := ha
    cases hreq : s.world.requests r with
    | some stage₀ =>
        have hworld : (step ctx c s (.patchPolicy r c' overrides)).world = s.world := by
          simp [step, VpnPanel.step, World.patchPolicy, hreq]
        have hpatches : (step ctx c s (.patchPolicy r c' overrides)).patches = s.patches := by
          simp [step, readPatch, hreq]
        rw [hworld] at hr
        rw [hpatches]
        exact h r stage policy hr hpending
    | none =>
        cases hrow : s.world.db.getActive c' with
        | none =>
            have hworld : (step ctx c s (.patchPolicy r c' overrides)).world = s.world := by
              simp [step, VpnPanel.step, World.patchPolicy, hreq, hrow]
            rw [hworld, hreq] at hr
            cases hr
        | some row =>
            have hstage : stage = .policyRead c' ((row.policy ctx).modelCopy overrides) := by
              simp [step, VpnPanel.step, World.patchPolicy, hreq, hrow] at hr
              exact hr.symm
            have hpatch : (step ctx c s (.patchPolicy r c' overrides)).patches r =
                ⟨row.policy ctx, overrides⟩ := by
              simp [step, readPatch, hreq, hrow]
            subst hstage
            rw [hpatch]
            exact (Option.some.inj hpending).symm
  · push Not at ha
    obtain ⟨stage₀, hr₀, hpending₀⟩ := pending_of_step hr hpending ha
    have hpatch : (step ctx c s a).patches r = s.patches r := by
      cases a with
      | patchPolicy r' c' overrides =>
          have hne : r ≠ r' := by
            rintro rfl
            exact ha c' overrides rfl
          cases hreq : s.world.requests r' with
          | some stage' => simp [step, readPatch, hreq]
          | none =>
              cases hrow : s.world.db.getActive c' with
              | none => simp [step, readPatch, hreq, hrow]
              | some row => simp [step, readPatch, hreq, hrow, hne]
      | _ => rfl
    rw [hpatch]
    exact h r stage₀ policy hr₀ hpending₀

theorem merged_start (ctx : Ctx) (host : Host) (c : ConfigId) (as : List Action) :
    Merged (start ctx host c as) := by
  have hrun : Merged (Machine.run (step ctx c) (init host) as) :=
    Machine.run_invariant (I := Merged) (fun _ a hs => merged_step ctx c hs a) (merged_init host) as
  exact hrun

/-- A step keeps the committed changes exactly when it meets the condition. -/
theorem keepsUpdates_step_iff (ctx : Ctx) (c : ConfigId) (policy₀ : RegeneratePolicy)
    {s : PolicyRun} (hmerged : Merged s) (h : KeepsUpdates ctx c policy₀ s) (a : Action) :
    KeepsUpdates ctx c policy₀ (step ctx c s a) ↔ KeepsOthers ctx c s a := by
  obtain ⟨now, hnow, hflags⟩ := h
  have hget : now.get = Overrides.apply policy₀.get s.commits := funext hflags
  cases hcommit : commits? c s.world a with
  | none =>
      have hnow' : (step ctx c s a).world.policy? ctx c = some now :=
        policy?_of_not_commit hcommit hnow
      have hcommits : (step ctx c s a).commits = s.commits := by
        simp [step, hcommit]
      constructor
      · rintro - r policy loaded now' hr
        rw [hcommit] at hr
        cases hr
      · rintro -
        exact ⟨now, hnow', by rwa [hcommits]⟩
  | some r =>
      obtain ⟨env, policy, loaded, rfl, hr, hlock, hcom⟩ := commits?_eq_some_iff.mp hcommit
      have hpolicy : policy = (s.patches r).read.modelCopy (s.patches r).overrides :=
        hmerged r _ policy hr rfl
      have hnow' := policy?_commit ctx hr hlock hcom hnow
      have hcommits : (step ctx c s (.advance r env)).commits =
          s.commits ++ (s.patches r).overrides := by
        simp [step, hcommit]
      have hkeeps : KeepsUpdates ctx c policy₀ (step ctx c s (.advance r env)) ↔
          (if loaded.regeneratePolicy = some policy then now else policy).get =
            Overrides.apply now.get (s.patches r).overrides := by
        rw [hget, ← Overrides.apply_append, ← hcommits]
        constructor
        · rintro ⟨now', hafter, hflags'⟩
          rw [Option.some.inj (hnow'.symm.trans hafter)]
          exact funext hflags'
        · intro hafter
          exact ⟨_, hnow', congrFun hafter⟩
      have hcond : KeepsOthers ctx c s (.advance r env) ↔
          if loaded.regeneratePolicy = some policy then
            ∀ flag b, Overrides.last? (s.patches r).overrides flag = some b → now.get flag = b
          else
            ∀ flag, Overrides.last? (s.patches r).overrides flag = none →
              (s.patches r).read.get flag = now.get flag := by
        constructor
        · intro h
          exact h r policy loaded now hcommit hr hnow
        · intro h r' policy' loaded' now' hcommit' hr' hnow''
          obtain rfl := Option.some.inj (hcommit.symm.trans hcommit')
          obtain ⟨-, rfl, rfl⟩ : c = c ∧ policy = policy' ∧ loaded = loaded' := by
            simpa using Option.some.inj (hr.symm.trans hr')
          rwa [Option.some.inj (hnow''.symm.trans hnow)]
      rw [hkeeps, hcond]
      by_cases hsame : loaded.regeneratePolicy = some policy
      · rw [if_pos hsame, if_pos hsame]
        exact Overrides.eq_apply_iff
      · rw [if_neg hsame, if_neg hsame, hpolicy, RegeneratePolicy.get_modelCopy]
        exact Overrides.apply_eq_apply_iff

end Steps

/-! ## runs -/

/-- **No lost policy updates.**  From any state reached in which a config has a
policy, each of its flags always has the value of the last committed change that
names it, or else its first one, exactly when every change that commits finds
the flags it does not name as it read them. -/
theorem keepsUpdates_run_iff (ctx : Ctx) (host : Host) (c : ConfigId) (as bs : List Action)
    (policy : RegeneratePolicy) (h : (runFrom ctx host as).policy? ctx c = some policy) :
    (∀ bs', bs' <+: bs →
        KeepsUpdates ctx c policy (Machine.run (step ctx c) (start ctx host c as) bs')) ↔
      Machine.Meets (step ctx c) (KeepsOthers ctx c) (start ctx host c as) bs := by
  have hstart : KeepsUpdates ctx c policy (start ctx host c as) := by
    refine ⟨policy, ?_, fun flag => rfl⟩
    rw [world_start]
    exact h
  exact Machine.always_iff_meets (I := Merged) (P := KeepsUpdates ctx c policy)
    (H := fun _ _ => True)
    (fun s a hs _ _ => merged_step ctx c hs a)
    (fun s a hs hP _ => keepsUpdates_step_iff ctx c policy hs hP a)
    (merged_start ctx host c as) hstart
    (Machine.meets_of_forall (fun _ _ => trivial) _ bs)

/-- Two changes of config 0, the second read after the first is committed. -/
def changesInTurn : List Action :=
  [.patchPolicy 1 0 [(.port, false)], .advance 1 {}, .advance 1 {},
    .patchPolicy 2 0 [(.path, false)], .advance 2 {}, .advance 2 {}]

/-- The same changes, both read before either is committed. -/
def changesAtOnce : List Action :=
  [.patchPolicy 1 0 [(.port, false)], .patchPolicy 2 0 [(.path, false)],
    .advance 1 {}, .advance 1 {}, .advance 2 {}, .advance 2 {}]

/-- Changes in turn both take effect. -/
theorem keepsUpdates_changesInTurn :
    KeepsUpdates Ctx.sample 0 (RegeneratePolicy.forProfile .xrayXhttp (some sampleProfile))
      (Machine.run (step Ctx.sample 0) (start Ctx.sample Host.blank 0 firstVersion)
        changesInTurn) := by
  refine (keepsUpdates_run_iff Ctx.sample Host.blank 0 firstVersion changesInTurn _ rfl).mpr
    ?_ _ List.prefix_rfl
  simp only [changesInTurn, Machine.meets_cons, Machine.meets_nil, and_true]
  refine ⟨?_, ?_, ?_, ?_, ?_, ?_⟩ <;> intro r policy loaded now hcommit hr hnow <;> cases hcommit
  all_goals
    cases hr
    cases hnow
    rw [if_neg (by decide)]
    intro flag _
    cases flag <;> rfl

/-- The second of two changes that read the same policy writes back the flag
that the first has set. -/
theorem not_keepsUpdates_changesAtOnce :
    ¬ KeepsUpdates Ctx.sample 0 (RegeneratePolicy.forProfile .xrayXhttp (some sampleProfile))
      (Machine.run (step Ctx.sample 0) (start Ctx.sample Host.blank 0 firstVersion)
        changesAtOnce) := by
  rintro ⟨now, hnow, hflags⟩
  cases hnow
  have hport := hflags .port
  revert hport
  decide

end PolicyRun

end VpnPanel
