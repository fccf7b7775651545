import VpnPanel.LifecycleSteps

/-!
# VpnPanel.VersionNumbers

Version numbers: in every reachable state the versions of a config are
`1, …, n`, its `current_version` is one of them or null, and the target of
every task is at most `n + 1`.

`InFlight` collects the payloads a world holds: in published tasks, in
requests about to publish, in executions.  `inFlight_of_step` says where a new
one can come from, `versions_of_step` and `current_of_step` where a new version
row and a new `current_version` can.
-/

namespace VpnPanel

/-- A payload that is published, about to be, or being executed. -/
inductive InFlight (w : World) (p : Payload) : Prop where
  | task (t : TaskId) (task : Task) (h : w.tasks t = some task) (hp : task.payload = p)
  | request (r : RequestId) (h : w.requests r = some (.publishing p))
  | execution (e : ExecutionId) (x : Execution) (h : w.executions e = some x) (hp : x.payload = p)

section Steps

variable {ctx : Ctx} {w w' : World} {a : Action}

/-- A payload in flight was in flight before the step, or is that of a create,
or of a regenerate of the config as it stands. -/
theorem inFlight_of_step {p : Payload} (hstep : Step ctx w a w') (hp : InFlight w' p) :
    InFlight w p ∨
      (p.targetVersion = 1 ∧ ∃ row', w'.db.configs p.configId = some row' ∧
        row'.profile = p.profile ∧ row'.status = .pending) ∨
      ∃ r loaded row v, w.requests r = some (.regeneratePrepared p.configId loaded) ∧
        w.db.configs p.configId = some row ∧ row.currentVersion = some v ∧
        p.targetVersion = v + 1 ∧ p.profile = row.profile ∧
        w'.db.configs p.configId = some (prepareRegenerate w.now loaded row) := by
  have hpublishing {r : RequestId} (hr' : w'.requests r = some (.publishing p)) :
      InFlight w p ∨
        (p.targetVersion = 1 ∧ ∃ row', w'.db.configs p.configId = some row' ∧
          row'.profile = p.profile ∧ row'.status = .pending) ∨
        ∃ r loaded row v, w.requests r = some (.regeneratePrepared p.configId loaded) ∧
          w.db.configs p.configId = some row ∧ row.currentVersion = some v ∧
          p.targetVersion = v + 1 ∧ p.profile = row.profile ∧
          w'.db.configs p.configId = some (prepareRegenerate w.now loaded row) := by
    obtain hr | ⟨-, hone, -, hrow'⟩ |
        ⟨loaded, row, v, hr, hrow, hcur, htarget, hprofile, -, hrow'⟩ :=
      publishing_cases hstep hr'
    · exact Or.inl (.request r hr)
    · exact Or.inr (Or.inl ⟨hone, hrow'⟩)
    · exact Or.inr (Or.inr ⟨r, loaded, row, v, hr, hrow, hcur, htarget, hprofile, hrow'⟩)
  obtain ⟨t, task', ht', rfl⟩ | ⟨r, hr'⟩ | ⟨e, x', he', rfl⟩ := hp
  · obtain ⟨r, p, -, hr, -, -, rfl⟩ | ⟨task, ht, hchange⟩ := task_of_step hstep ht'
    · exact Or.inl (.request r hr)
    · refine Or.inl (.task t task ht ?_)
      cases hchange <;> rfl
  · exact hpublishing hr'
  · obtain he | ⟨t, task, ht, -, rfl⟩ | ⟨env, x, s, -, he, -, hp, -, -, -⟩ :=
      execution_of_step hstep he'
    · exact Or.inl (.execution e x' he rfl)
    · exact Or.inl (.task t task ht rfl)
    · exact Or.inl (.execution e x he hp.symm)

/-- Only the commits of edits and of builds write version rows. -/
theorem versions_eq_of_step (hstep : Step ctx w a w') :
    w'.db.versions = w.db.versions ∨
      (∃ r env plan loaded, a = .advance r env ∧
        w.requests r = some (.editing (.committing plan loaded)) ∧
        w'.db = commitEdit w.now plan loaded w.db ∧ w'.requests r = none ∧
        env.committed = none) ∨
      ∃ e env x row, a = .work e env ∧ w.executions e = some x ∧ x.stage = .committing row ∧
        w'.db = commitBuild w.now x.payload row w.db ∧ w'.executions e = none ∧
        w'.host = w.host ∧ env.committed = none := by
  cases hstep with
  | editNext r env stage stage' s hr hlock hmove => exact Or.inl (by simp [hmove.db_eq])
  | editDone r env stage s out hr hend =>
      cases hend with
      | committed plan loaded hcom =>
          exact Or.inr (Or.inl ⟨r, env, plan, loaded, rfl, hr, rfl, by simp, hcom⟩)
      | _ => exact Or.inl rfl
  | taskNext e env x stage s he hlock hmove => exact Or.inl (by simp [hmove.db_eq])
  | taskDone e env x out s he hlock hend =>
      obtain ⟨task, payload, stage⟩ := x
      cases hend with
      | built row hcom =>
          exact Or.inr (Or.inr ⟨e, env, _, row, rfl, he, rfl, by simp, by simp, by simp, hcom⟩)
      | _ => exact Or.inl (by simp)
  | _ => exact Or.inl (by simp)

/-- Only the commit of a build, which ends its execution, adds a version
row. -/
theorem versions_of_step (hstep : Step ctx w a w') :
    (∀ c v, (w'.db.versions c v).isSome = (w.db.versions c v).isSome) ∨
      ∃ e x row, w.executions e = some x ∧ x.stage = .committing row ∧
        w'.db = commitBuild w.now x.payload row w.db ∧ w'.executions e = none := by
  obtain hsame | ⟨r, env, plan, loaded, -, -, hdb, -⟩ |
    ⟨e, env, x, row, -, he, hstage, hdb, hgone, -, -⟩ := versions_eq_of_step hstep
  · exact Or.inl fun c v => by rw [hsame]
  · refine Or.inl fun c v => ?_
    by_cases hcv : c = plan.configId ∧ v = plan.version
    · obtain ⟨rfl, rfl⟩ := hcv
      simp [hdb, commitEdit]
    · simp [hdb, commitEdit, hcv]
  · exact Or.inr ⟨e, x, row, he, hstage, hdb, hgone⟩

/-- A version that is stored was stored, or is the one an execution of its
config has built. -/
theorem stored_of_step {c : ConfigId} {v : Nat} (hstep : Step ctx w a w')
    (h : (w'.db.versions c v).isSome = true) :
    (w.db.versions c v).isSome = true ∨
      ∃ e x, w.executions e = some x ∧ x.payload.configId = c ∧ x.payload.targetVersion = v := by
  rcases versions_of_step hstep with hsame | ⟨e, x, row, he, -, hdb, -⟩
  · exact Or.inl (by rw [← hsame, h])
  · by_cases hcv : c = x.payload.configId ∧ v = x.payload.targetVersion
    · exact Or.inr ⟨e, x, he, hcv.1.symm, hcv.2.symm⟩
    · exact Or.inl (by simpa [hdb, commitBuild, Db.setVersion, hcv] using h)

/-- A `current_version` is kept, or set by an execution to its target. -/
theorem current_of_step {c : ConfigId} {row' : VpnConfigModel} (hstep : Step ctx w a w')
    (hrow' : w'.db.configs c = some row') :
    (w.db.configs c = none ∧ row'.currentVersion = none) ∨
      ∃ row, w.db.configs c = some row ∧
        (row'.currentVersion = row.currentVersion ∨
          ∃ e env x, a = .work e env ∧ w.executions e = some x ∧ x.payload.configId = c ∧
            row'.currentVersion = some x.payload.targetVersion ∧
            ((∃ loaded, x.stage = .marking loaded ∧ env.committed = none ∧
                w.lockFree c (.execution e) = true ∧
                loaded.currentVersion ≠ some x.payload.targetVersion) ∨
              ∃ vrow, x.stage = .committing vrow ∧
                w'.db = commitBuild w.now x.payload vrow w.db)) := by
  obtain ⟨r, p, hnone, -, -, hcur, -, -⟩ | ⟨row, hrow, hchange⟩ := row_of_step hstep hrow'
  · exact Or.inl ⟨hnone, hcur⟩
  · refine Or.inr ⟨row, hrow, ?_⟩
    cases hchange with
    | marked e env row x loaded he hc hstage hcom hlock hgone =>
        by_cases hcur : loaded.currentVersion = some x.payload.targetVersion
        · exact Or.inl (by simp [markActive_currentVersion, hcur])
        · exact Or.inr ⟨e, env, x, rfl, he, hc, by simp [markActive_currentVersion, hcur],
            Or.inl ⟨loaded, hstage, hcom, hlock, hcur⟩⟩
    | built e env row x vrow he hc hstage hcom hdb hhost hgone =>
        exact Or.inr ⟨e, env, x, rfl, he, hc, by simp, Or.inr ⟨vrow, hstage, hdb⟩⟩
    | _ => exact Or.inl rfl

/-- Version rows stay. -/
theorem versions_mono (hstep : Step ctx w a w') {c : ConfigId} {v : Nat}
    (h : (w.db.versions c v).isSome = true) : (w'.db.versions c v).isSome = true := by
  rcases versions_of_step hstep with heq | ⟨e, x, row, -, -, hdb, -⟩
  · rw [heq, h]
  · by_cases hcv : c = x.payload.configId ∧ v = x.payload.targetVersion
    · obtain ⟨rfl, rfl⟩ := hcv
      simp [hdb, commitBuild]
    · simpa [hdb, commitBuild, Db.setVersion, hcv] using h

end Steps

/-! ## the invariant -/

/-- An execution at `mark_active` has found its version. -/
def FoundStored (w : World) : Prop :=
  ∀ e x, w.executions e = some x → (x.stage = .loading ∨ ∃ loaded, x.stage = .marking loaded) →
    w.db.hasVersion x.payload.configId x.payload.targetVersion = true

theorem foundStored_step {ctx : Ctx} {w w' : World} {a : Action} (hstep : Step ctx w a w')
    (h : FoundStored w) : FoundStored w' := by
  intro e x' he' hstage
  have hmono (hx : w.db.hasVersion x'.payload.configId x'.payload.targetVersion = true) :=
    versions_mono hstep hx
  rcases execution_of_step hstep he' with he | ⟨t, task, -, -, rfl⟩ |
    ⟨env, x, s, -, he, -, hp, hmove, -, -⟩
  · exact hmono (h e x' he hstage)
  · simp at hstage
  · refine hmono ?_
    rw [hp]
    -- `has_version` was true, or the execution stood at `mark_active` before
    cases hxs : x'.stage with
    | loading =>
        rw [hxs] at hmove
        generalize hfrom : x.stage = from_ at hmove
        cases hmove with
        | stored hver => exact hver
    | marking loaded =>
        rw [hxs] at hmove
        generalize hfrom : x.stage = from_ at hmove
        cases hmove with
        | load loaded hmodel => exact h e x he (Or.inl hfrom)
    | _ => simp [hxs] at hstage

/-- The versions of a config are `1, …, n`, its current version is one of them
and nothing in flight aims higher than `n + 1`. -/
structure Numbered (w : World) (c : ConfigId) (n : Nat) : Prop where
  counted : ∀ v, (w.db.versions c v).isSome = true ↔ 1 ≤ v ∧ v ≤ n
  current : ∀ row v, w.db.configs c = some row → row.currentVersion = some v → 1 ≤ v ∧ v ≤ n
  targets : ∀ p, InFlight w p → p.configId = c → 1 ≤ p.targetVersion ∧ p.targetVersion ≤ n + 1

theorem numbered_init (host : Host) (c : ConfigId) : Numbered (World.init host) c 0 where
  counted v := by simp [World.init, Db.empty]; omega
  current row v hrow := by simp [World.init, Db.empty] at hrow
  targets p hp := by rcases hp with ⟨t, task, ht, -⟩ | ⟨r, hr⟩ | ⟨e, x, he, -⟩ <;> contradiction

section Preserved

variable {ctx : Ctx} {w w' : World} {a : Action} {c : ConfigId} {n : Nat}

/-- The targets after a step, when no version is added. -/
theorem targets_of_step (hstep : Step ctx w a w') (h : Numbered w c n) (p : Payload)
    (hp : InFlight w' p) (hpc : p.configId = c) :
    1 ≤ p.targetVersion ∧ p.targetVersion ≤ n + 1 := by
  rcases inFlight_of_step hstep hp with hp | ⟨hone, -⟩ |
    ⟨r, loaded, row, v, -, hrow, hcur, htarget, -, -⟩
  · exact h.targets p hp hpc
  · omega
  · have hv := h.current row v (hpc ▸ hrow) hcur
    omega

/-- A step adds at most the next version. -/
theorem numbered_step (hstep : Step ctx w a w') (hfound : FoundStored w) (h : Numbered w c n) :
    ∃ n', n ≤ n' ∧ Numbered w' c n' := by
  -- the version an execution makes current is stored afterwards
  have hcurrent (row' : VpnConfigModel) (v : Nat) (hrow' : w'.db.configs c = some row')
      (hcur : row'.currentVersion = some v) : (w'.db.versions c v).isSome = true := by
    rcases current_of_step hstep hrow' with ⟨-, hnone⟩ |
      ⟨row, hrow, heq | ⟨e, env, x, -, he, rfl, hset, hstage⟩⟩
    · rw [hnone] at hcur
      cases hcur
    · exact versions_mono hstep ((h.counted v).mpr (h.current row v hrow (heq ▸ hcur)))
    · obtain rfl : x.payload.targetVersion = v := Option.some.inj (hset.symm.trans hcur)
      rcases hstage with ⟨loaded, hmarking, -⟩ | ⟨vrow, -, hdb⟩
      · exact versions_mono hstep (hfound e x he (Or.inr ⟨loaded, hmarking⟩))
      · simp [hdb, commitBuild]
  have htargets := targets_of_step hstep h
  rcases versions_of_step hstep with hsame | ⟨e, x, row, he, -, hdb, -⟩
  · have hcounted (v : Nat) : (w'.db.versions c v).isSome = true ↔ 1 ≤ v ∧ v ≤ n := by
      rw [hsame, h.counted]
    exact ⟨n, le_rfl, hcounted, fun row' v hrow' hcur =>
      (hcounted v).mp (hcurrent row' v hrow' hcur), htargets⟩
  · by_cases hc : x.payload.configId = c
    · -- the new version is `n + 1`, or replaces one of the old
      have ht := h.targets x.payload (.execution e x he rfl) hc
      have hcounted (v : Nat) : (w'.db.versions c v).isSome = true ↔
          1 ≤ v ∧ v ≤ max n x.payload.targetVersion := by
        by_cases hv : v = x.payload.targetVersion
        · subst hv
          simp [hdb, commitBuild, ← hc, ht.1]
        · have hold : (w'.db.versions c v).isSome = (w.db.versions c v).isSome := by
            simp [hdb, commitBuild, Db.setVersion, hv]
          rw [hold, h.counted]
          omega
      refine ⟨max n x.payload.targetVersion, le_max_left _ _, hcounted, fun row' v hrow' hcur =>
        (hcounted v).mp (hcurrent row' v hrow' hcur), fun p hp hpc => ?_⟩
      have hp' := htargets p hp hpc
      omega
    · have hcounted (v : Nat) : (w'.db.versions c v).isSome = true ↔ 1 ≤ v ∧ v ≤ n := by
        have hne : ¬(c = x.payload.configId ∧ v = x.payload.targetVersion) := fun h => hc h.1.symm
        rw [← h.counted v]
        simp [hdb, commitBuild, Db.setVersion, hne]
      exact ⟨n, le_rfl, hcounted, fun row' v hrow' hcur =>
        (hcounted v).mp (hcurrent row' v hrow' hcur), htargets⟩

end Preserved

/-- Both invariants after every run. -/
theorem numbered_run (ctx : Ctx) (host : Host) (as : List Action) (c : ConfigId) :
    FoundStored (runFrom ctx host as) ∧ ∃ n, Numbered (runFrom ctx host as) c n := by
  refine Machine.run_invariant (I := fun w => FoundStored w ∧ ∃ n, Numbered w c n) ?_ ?_ as
  · intro w a hI
    refine step_induction (I := fun w => FoundStored w ∧ ∃ n, Numbered w c n)
      (C := fun _ _ => True) ?_ w a hI trivial
    intro w a w' hstep ⟨hfound, n, hn⟩ _
    obtain ⟨n', -, hn'⟩ := numbered_step hstep hfound hn
    exact ⟨foundStored_step hstep hfound, n', hn'⟩
  · exact ⟨fun e x he => by simp [World.init] at he, 0, numbered_init host c⟩

/-- **Version numbers have no gaps.**  After every run the versions stored for
a config are exactly `1, …, n`, one row each (rows are keyed by config and
version), its `current_version` is null or one of them, and the target `t` of
every published task of the config satisfies `1 ≤ t ≤ n + 1`. -/
theorem versions_contiguous (ctx : Ctx) (host : Host) (as : List Action) (c : ConfigId) :
    ∃ n, (∀ v, ((runFrom ctx host as).db.versions c v).isSome = true ↔ 1 ≤ v ∧ v ≤ n) ∧
      (∀ row, (runFrom ctx host as).db.configs c = some row →
        row.currentVersion = none ∨
          ∃ v, row.currentVersion = some v ∧
            ((runFrom ctx host as).db.versions c v).isSome = true) ∧
      ∀ t task, (runFrom ctx host as).tasks t = some task → task.payload.configId = c →
        1 ≤ task.payload.targetVersion ∧ task.payload.targetVersion ≤ n + 1 := by
  obtain ⟨-, n, hn⟩ := numbered_run ctx host as c
  refine ⟨n, hn.counted, fun row hrow => ?_, fun t task ht hc =>
    hn.targets task.payload (.task t task ht rfl) hc⟩
  cases hcur : row.currentVersion with
  | none => exact Or.inl rfl
  | some v => exact Or.inr ⟨v, rfl, (hn.counted v).mpr (hn.current row v hrow hcur)⟩

end VpnPanel
