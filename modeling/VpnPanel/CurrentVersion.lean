import VpnPanel.RowLocks

/-!
# VpnPanel.CurrentVersion

Whether a config's `current_version` can go back.  A build only moves it
forward: the version it commits is the one after the last.  The shortcut of
`_run_config_task` for a version that is stored already does not look at the
current version, so the late delivery of an old task moves it back.
-/

namespace VpnPanel

/-- The committed `current_version`. -/
def Db.currentVersion (db : Db) (c : ConfigId) : Option Nat :=
  (db.configs c).bind VpnConfigModel.currentVersion

theorem Db.currentVersion_eq_some_iff {db : Db} {c : ConfigId} {v : Nat} :
    db.currentVersion c = some v ↔
      ∃ row, db.configs c = some row ∧ row.currentVersion = some v := by
  simp [Db.currentVersion, Option.bind_eq_some_iff]

/-- No `current_version` is lower in the second world, or gone. -/
def NoDecrease (w w' : World) : Prop :=
  ∀ c v, w.db.currentVersion c = some v → ∃ v', w'.db.currentVersion c = some v' ∧ v ≤ v'

/-- No `current_version` decreases between any two moments of a run. -/
def NeverDecreases (ctx : Ctx) (host : Host) (as : List Action) : Prop :=
  ∀ before between after, as = before ++ between ++ after →
    NoDecrease (runFrom ctx host before) (runFrom ctx host (before ++ between))

/-- A shortcut that commits finds its target already current in the row it has
loaded, or a committed version that is not newer than its target. -/
def MarksForward (w : World) : Action → Prop
  | .work e env => ∀ x loaded, w.executions e = some x → x.stage = .marking loaded →
      env.committed = none → w.lockFree x.payload.configId (.execution e) = true →
        loaded.currentVersion = some x.payload.targetVersion ∨
          ∀ v, w.db.currentVersion x.payload.configId = some v → v ≤ x.payload.targetVersion
  | _ => True

theorem NoDecrease.refl (w : World) : NoDecrease w w := fun _ v h => ⟨v, h, le_rfl⟩

theorem NoDecrease.trans {w₁ w₂ w₃ : World} (h₁ : NoDecrease w₁ w₂) (h₂ : NoDecrease w₂ w₃) :
    NoDecrease w₁ w₃ := by
  intro c v hv
  obtain ⟨v₂, hv₂, hle₂⟩ := h₁ c v hv
  obtain ⟨v₃, hv₃, hle₃⟩ := h₂ c v₂ hv₂
  exact ⟨v₃, hv₃, hle₂.trans hle₃⟩

section Steps

variable {ctx : Ctx} {w : World} {a : Action}

/-- A step moves no `current_version` back, unless it is such a shortcut. -/
theorem noDecrease_of_step {w' : World} (hsound : Sound w) (hstep : Step ctx w a w')
    (hforward : MarksForward w a) : NoDecrease w w' := by
  intro c v hv
  obtain ⟨row, hrow, hcur⟩ := Db.currentVersion_eq_some_iff.mp hv
  obtain ⟨row', hrow'⟩ := configs_mono hstep hrow
  obtain ⟨hnone, -⟩ | ⟨row₀, hrow₀, hsame | ⟨e, env, x, rfl, he, rfl, hset, hstage⟩⟩ :=
    current_of_step hstep hrow'
  · rw [hnone] at hrow
    contradiction
  · obtain rfl : row = row₀ := Option.some.inj (hrow.symm.trans hrow₀)
    exact ⟨v, Db.currentVersion_eq_some_iff.mpr ⟨row', hrow', hsame.trans hcur⟩, le_rfl⟩
  · refine ⟨x.payload.targetVersion, Db.currentVersion_eq_some_iff.mpr ⟨row', hrow', hset⟩, ?_⟩
    obtain ⟨loaded, hmarking, hcom, hfree, hne⟩ | ⟨vrow, hcommitting, -⟩ := hstage
    · obtain heq | hle := hforward x loaded he hmarking hcom hfree
      · exact absurd heq hne
      · exact hle v hv
    · -- a build commits the version after the last
      obtain ⟨n, hn⟩ := hsound.numbered x.payload.configId
      have htarget := hsound.target_of_committing he hcommitting hn
      have hle := (hn.current row v hrow hcur).2
      omega

/-- A step that moves none back is not such a shortcut. -/
theorem marksForward_of_noDecrease (h : NoDecrease w (step ctx w a)) : MarksForward w a := by
  cases a with
  | work e env =>
      intro x loaded he hstage hcom hfree
      by_cases hloaded : loaded.currentVersion = some x.payload.targetVersion
      · exact Or.inl hloaded
      · refine Or.inr fun v hv => ?_
        obtain ⟨v', hv', hle⟩ := h x.payload.configId v hv
        obtain ⟨row, hrow, -⟩ := Db.currentVersion_eq_some_iff.mp hv
        have hset : (step ctx w (.work e env)).db.currentVersion x.payload.configId =
            some x.payload.targetVersion := by
          simp [step, World.work, he, hstage, taskStep, hcom, hfree, Db.currentVersion, hrow,
            markActive_currentVersion, hloaded]
        rw [hset] at hv'
        exact Option.some.inj hv' ▸ hle
  | _ => trivial

end Steps

/-- **`current_version` never decreases in a run exactly when every shortcut
marks forward.** -/
theorem neverDecreases_iff (ctx : Ctx) (host : Host) (as : List Action) :
    NeverDecreases ctx host as ↔
      Machine.Meets (step ctx) MarksForward (World.init host) as := by
  constructor
  · intro h
    rw [Machine.meets_iff]
    rintro before a after rfl
    have hstep := h before [a] after (by simp)
    rw [runFrom, runFrom, Machine.run_append] at hstep
    exact marksForward_of_noDecrease hstep
  · rintro hmeets before between after rfl
    rw [Machine.meets_append, Machine.meets_append] at hmeets
    rw [runFrom, runFrom, Machine.run_append]
    refine Machine.run_rel_of_meets (I := Sound) NoDecrease.refl NoDecrease.trans
      (fun w a h _ => sound_step w a h) (fun w a hsound hforward => ?_) (sound_run ctx host before)
      hmeets.1.2
    obtain heq | hstep : step ctx w a = w ∨ Step ctx w a (step ctx w a) := step_cases a
    · rw [heq]
      exact NoDecrease.refl w
    · exact noDecrease_of_step hsound hstep hforward

/-- Version 1 is built and its task's end is not reported; version 2 is
requested and built; then the first task is delivered again. -/
def lateRedelivery : List Action :=
  let build (r : RequestId) (e : ExecutionId) (t : TaskId) : List Action :=
    [.advance r { publish := .accepted t }, .advance r {}, .deliver e t] ++
      List.replicate 8 (.work e (sampleBuild 443))
  [.create 0 0 "c" .xray .xrayXhttp none none] ++ build 0 0 0 ++
    [.regenerate 1 0, .advance 1 {}, .advance 1 {}] ++ build 1 1 1 ++
    [.deliver 2 0, .work 2 (sampleBuild 443), .work 2 (sampleBuild 443), .work 2 (sampleBuild 443)]

/-- **`current_version` can decrease.** -/
theorem current_decreases_after_lateRedelivery :
    ¬ NeverDecreases Ctx.sample Host.blank lateRedelivery := by
  intro h
  have hbefore : (runFrom Ctx.sample Host.blank (lateRedelivery.take 27)).db.currentVersion 0 =
      some 2 := by decide
  have hafter : (runFrom Ctx.sample Host.blank lateRedelivery).db.currentVersion 0 = some 1 := by
    decide
  obtain ⟨v, hv, hle⟩ := h (lateRedelivery.take 27) (lateRedelivery.drop 27) []
    (by simp) 0 2 hbefore
  rw [List.take_append_drop, hafter] at hv
  have hone : 1 = v := Option.some.inj hv
  omega

end VpnPanel
